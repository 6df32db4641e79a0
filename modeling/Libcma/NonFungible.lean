import Libcma.Ledger.BasicConservation
import Libcma.Memory.Runs

/-!
# Tokens there is one of

`deposit` lets the supply of an asset of type token address and id grow from zero to one and no
further. As supplies cover what is held, such an asset has one holder at most, who holds one unit.
-/

namespace Libcma

open Exec

/-- There is one unit at most, and one account at most that holds it. -/
structure Single (supply : Amount) (balance : AccountId → Amount) : Prop where
  /-- The supply is zero or one. -/
  supply : supply.toNat = 0 ∨ supply.toNat = 1
  /-- A balance that is not zero is one. -/
  unit : ∀ accountId, (balance accountId).toNat ≠ 0 → (balance accountId).toNat = 1
  /-- Only one balance is not zero. -/
  holder : ∀ one two, (balance one).toNat ≠ 0 → (balance two).toNat ≠ 0 → one = two

/-- Assets of type token address and id are supplied with one unit at most. -/
def Capped (assets : AssetId → Option Asset) : Prop :=
  ∀ assetId asset, assets assetId = some asset → asset.type = .tokenAddressId →
    asset.supply.toNat ≤ 1

section Supplies

variable {assets after : AssetId → Option Asset} {assetId : AssetId} {asset : Asset}
  {supply : Amount}

/-- A new supply is within the cap if it is for an asset that has one. -/
theorem Capped.supplied (capped : Capped assets)
    (cap : asset.type = .tokenAddressId → supply.toNat ≤ 1)
    (placed : ∀ other, after other =
      if other = assetId then some { asset with supply := supply } else assets other) :
    Capped after := by
  intro other found present type
  rw [placed] at present
  split at present
  · rw [← Option.some.inj present] at type ⊢
    exact cap type
  · exact capped other found present type

/-- A new asset without supply is within the cap. -/
theorem Capped.added (capped : Capped assets) (unsupplied : asset.supply = zeros 32)
    (placed : ∀ other, after other = if other = assetId then some asset else assets other) :
    Capped after := by
  intro other found present type
  rw [placed] at present
  split at present
  · rw [← Option.some.inj present, unsupplied, toNat_zeros]
    exact Nat.zero_le 1
  · exact capped other found present type

/-- The cap holds where a deposit is accepted. -/
theorem deposit_capped {view : View} {accountId : AccountId} {amount balance : Amount}
    (accepts : view.AcceptsDeposit assetId accountId amount asset balance)
    (type : asset.type = .tokenAddressId) : (amountCheckedAdd asset.supply amount).1.toNat ≤ 1 := by
  obtain ⟨fresh, one⟩ := accepts.single type
  rw [amountCheckedAdd_toNat accepts.supplyFits]
  omega

/-- The cap holds where a withdrawal is accepted. -/
theorem withdraw_capped {view : View} {accountId : AccountId} {amount balance : Amount}
    (accepts : view.AcceptsWithdraw assetId accountId amount asset balance)
    (cap : asset.supply.toNat ≤ 1) : (amountCheckedSub asset.supply amount).1.toNat ≤ 1 := by
  rw [amountCheckedSub_toNat accepts.supplied]
  omega

/-- A supply within the cap that covers the balances has one holder at most. -/
theorem single_of_covered {book : Book AssetId AccountId} (covered : book.Covered)
    (balance : AccountId → Amount) (registered : book.supply assetId = some supply.toNat)
    (cap : supply.toNat ≤ 1)
    (holdings : ∀ accountId, book.holding assetId accountId = (balance accountId).toNat) :
    Single supply balance := by
  have outstanding : book.outstanding assetId ≤ 1 := by
    rw [Book.outstanding, registered, Option.getD_some]
    exact cap
  refine ⟨by omega, ?unit, ?holder⟩
  case unit =>
    intro accountId holds
    rw [← holdings] at holds ⊢
    exact covered.holding_one outstanding holds
  case holder =>
    intro one two first second
    rw [← holdings] at first second
    exact covered.holder_unique outstanding first second

end Supplies

namespace Basic

variable {ledger after : Basic} {request : Call} {response : Response}

/-- Every asset of type token address and id is single, by the balances the ledger reports. -/
def NonFungible (ledger : Basic) : Prop :=
  ∀ assetId asset, ledger.lassidToAsset.lookup assetId = some asset →
    asset.type = .tokenAddressId → Single asset.supply (ledger.amount assetId) ∧
      ∀ accountId, ledger.Reported assetId accountId (ledger.amount assetId accountId)

/-- Every step keeps the cap. -/
theorem Step.capped (step : Step ledger request response after)
    (capped : Capped ledger.lassidToAsset.lookup) : Capped after.lassidToAsset.lookup := by
  cases step with
  | refused => exact capped
  | asset args operation output result =>
    rcases result with rfl | ⟨asset, addable, rfl⟩
    · exact capped
    · exact capped.added addable.unsupplied fun _ => Finmap.lookup_insert_if ..
  | account args operation output result =>
    rcases result with rfl | ⟨account, -, rfl⟩ <;> exact capped
  | balance => exact capped
  | deposit accepts =>
    exact capped.supplied (deposit_capped accepts) fun _ => Finmap.lookup_insert_if ..
  | withdraw accepts =>
    exact capped.supplied
      (fun type => withdraw_capped accepts (capped _ _ accepts.registered type))
      fun _ => Finmap.lookup_insert_if ..
  | transfer => exact capped
  | clear => exact fun _ _ found => by simp [empty, Finmap.lookup_empty] at found

/-- Every reachable ledger keeps the cap. -/
theorem Reachable.capped (reachable : Reachable ledger) : Capped ledger.lassidToAsset.lookup := by
  have both : ledger.Sound ∧ Capped ledger.lassidToAsset.lookup := by
    apply reachable.invariant fun state => state.Sound ∧ Capped state.lassidToAsset.lookup
    · exact ⟨sound_empty, fun _ _ found => by simp [empty, Finmap.lookup_empty] at found⟩
    · intro state request next response held _ called
      have step := call_step held.1 called
      exact ⟨step.sound held.1, step.capped held.2⟩
  exact both.2

/-- In every reachable ledger such assets are single. -/
theorem Reachable.nonFungible (reachable : Reachable ledger) : ledger.NonFungible := by
  intro assetId asset registered type
  have cap := reachable.capped assetId asset registered type
  exact ⟨single_of_covered reachable.balanced.covered _ (book_supply registered) cap
    fun _ => rfl, fun _ _ => rfl⟩

end Basic

namespace Memory

variable {config : Config} {region : ℕ → AccountBalance} {ledger after : Memory}
  {request : Call} {response : Response}

/-- Every asset of type token address and id is single, by the balances the ledger stores; what it
reports is what it stores, and where no pointer dangles it reports every balance. -/
def NonFungible (config : Config) (ledger : Memory) : Prop :=
  ∀ assetId asset, ledger.lassidToAsset.lookup assetId = some asset →
    asset.type = .tokenAddressId → Single asset.supply (ledger.amount assetId) ∧
      (∀ accountId balance, ledger.Reported config assetId accountId balance →
        balance = ledger.amount assetId accountId) ∧
      (ledger.Stable → ∀ accountId,
        ledger.Reported config assetId accountId (ledger.amount assetId accountId))

/-- A write keeps the cap. -/
theorem capped_written {owner : AccountStruct} (config : Config) (key : MapKey)
    (member : ledger.laccidToAccount.lookup key.2 = some owner) (asset : Asset)
    (balance : Amount) (capped : Capped ledger.lassidToAsset.lookup) :
    Capped (ledger.written config key asset owner balance).lassidToAsset.lookup := by
  rw [(sameRegistry_written config key member asset balance).assets]
  exact capped

/-- Every step keeps the cap. -/
theorem Step.capped (step : Step config ledger request response after)
    (capped : Capped ledger.lassidToAsset.lookup) : Capped after.lassidToAsset.lookup := by
  cases step with
  | refused => exact capped
  | asset result =>
    cases result with
    | found => exact capped
    | added asset _ _ _ _ _ _ unsupplied =>
      exact capped.added unsupplied fun _ => Finmap.lookup_insert_if ..
    | removed removed asset =>
      intro assetId other present
      simp only [dropAsset, Finmap.lookup_erase_if] at present
      split at present
      · contradiction
      · exact capped assetId other present
  | account result => cases result <;> exact capped
  | balance => exact capped
  | @deposit assetId accountId amount asset balance owner accepts member room =>
    have kept := capped_written config (assetId, accountId) member asset
      (amountCheckedAdd balance amount).1 capped
    exact kept.supplied (deposit_capped accepts) fun _ => Finmap.lookup_insert_if ..
  | @withdraw assetId accountId amount asset balance owner accepts member room =>
    have kept := capped_written config (assetId, accountId) member asset
      (amountCheckedSub balance amount).1 capped
    exact kept.supplied
      (fun type => withdraw_capped accepts (capped _ _ accepts.registered type))
      fun _ => Finmap.lookup_insert_if ..
  | transfer accepts sent room debit received still =>
    subst debit
    exact capped_written config (_, _) received _ _
      (capped_written config (_, _) sent _ _ capped)
  | stranded accepts sent room debit =>
    subst debit
    exact capped_written config (_, _) sent _ _ capped
  | clear => exact fun _ _ found => by simp [Memory.clear, Finmap.lookup_empty] at found

/-- In every reachable ledger such assets are single. -/
theorem Reachable.nonFungible {allowed : Memory → Call → Prop}
    (reachable : Reachable config region allowed ledger) : ledger.NonFungible config := by
  intro assetId asset registered type
  have capped : Capped ledger.lassidToAsset.lookup := by
    apply reachable.kept fun state => Capped state.lassidToAsset.lookup
    · exact fun _ _ found => by simp [empty, Finmap.lookup_empty] at found
    · exact fun _ _ _ _ step _ capped _ => step.capped capped
  refine ⟨?single, fun accountId balance reported => reported.amount_eq.symm,
    fun stable accountId => stable.reported reachable.sound assetId accountId⟩
  exact single_of_covered reachable.covered _ (book_supply registered)
    (capped assetId asset registered type) fun _ => rfl

end Memory

/-- In every reachable ledger, basic or memory, an asset of type token address and id has a supply
of zero or one and one holder at most, who holds one unit. -/
theorem nonFungible_of_reachable (config : Config) (region : ℕ → AccountBalance) (basic : Basic)
    (ledger : Memory) (basicReachable : basic.Reachable)
    (reachable : Memory.Reachable config region Memory.AnyCall ledger) :
    basic.NonFungible ∧ ledger.NonFungible config :=
  ⟨basicReachable.nonFungible, reachable.nonFungible⟩

/-- A call that creates the token of the zero address with the zero id. -/
def createToken : Call :=
  .retrieveAsset ⟨some 0, some (zeros 20), some (zeros 32), none, some .tokenAddressId⟩ .create

/-- One unit of a token is deposited to a wallet, and a second one is refused. -/
theorem nonFungible_token : ∃ (basic : Basic) (ledger : Memory),
    (basic.amount 0 0).toNat = 1 ∧ (ledger.amount 0 0).toNat = 1 ∧ basic.NonFungible ∧
      ledger.NonFungible Memory.fewBalances := by
  let calls := [createToken, createWallet, .deposit 0 0 (smallAmount 1),
    .deposit 0 0 (smallAmount 1)]
  obtain ⟨basic, basicReachable, unit⟩ := Run.exists_reaches Basic.call (fun _ _ => True)
    Basic.empty calls (Run.permits_of_forall _ (fun _ _ => trivial) _ calls)
    (fun ledger => (ledger.amount 0 0).toNat) 1 (by decide +kernel)
  obtain ⟨ledger, reachable, same⟩ := Memory.exists_reachable Memory.fewBalances
    (fun _ => .zero) calls (fun ledger => (ledger.amount 0 0).toNat) 1 (by decide +kernel)
  exact ⟨basic, ledger, unit, same,
    nonFungible_of_reachable _ _ basic ledger basicReachable reachable⟩

end Libcma
