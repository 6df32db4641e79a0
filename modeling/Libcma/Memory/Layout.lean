import Libcma.Memory.History

/-!
# The layout of the account drive

Over a region of zero bytes, after any run: the records in use are listed without gaps or
repetitions, each is exactly the record of its balance, and every other record is zero. Which
entries have a record is settled by their asset, also when it has been removed since, and account.
-/

namespace Libcma

open Exec

/-- The asset type has a token address. -/
def AssetType.HasAddress : AssetType → Prop
  | .id | .base => False
  | .tokenAddress | .tokenAddressId | .tokenAddressIdAmount => True

instance (type : AssetType) : Decidable type.HasAddress := by
  cases type <;> unfold AssetType.HasAddress <;> infer_instance

/-- The asset type has a token id. -/
def AssetType.HasTokenId : AssetType → Prop
  | .id | .base | .tokenAddress => False
  | .tokenAddressId | .tokenAddressIdAmount => True

instance (type : AssetType) : Decidable type.HasTokenId := by
  cases type <;> unfold AssetType.HasTokenId <;> infer_instance

/-- The record that describes a balance of an account in an asset. -/
def AccountBalance.describing (asset : Asset) (account : Account) (balance : Amount) :
    AccountBalance where
  type := asset.type.code
  owner := accountAddress account.accountId
  tokenAddress := if asset.type.HasAddress then asset.tokenAddress else zeros 20
  tokenId := if asset.type.HasTokenId then asset.tokenId else zeros 32
  amount := balance
  padding := zeros 20

namespace Memory

variable {config : Config} {region : ℕ → AccountBalance} {ledger after origin : Memory}
  {key : MapKey} {assetId : AssetId} {accountId : AccountId} {asset : Asset}

/-- The record that is written is the one that describes the balance. -/
theorem recordOf_eq (asset : Asset) (account : Account) (balance : Amount) :
    recordOf asset account balance = .describing asset account balance := by
  unfold recordOf fillRecord AccountBalance.describing
  cases asset.type <;> rfl

/-- A balance with a record is reported as the record has it. -/
theorem reported_of_record {slot : ℕ}
    (found : ledger.accountAssetBalance.lookup key = some (.withdrawable slot)) :
    ledger.Reported config key.1 key.2 (ledger.balances slot).amount := by
  intro asked info
  have readable : ledger.balanceOf key.1 key.2 = some (ledger.balances slot).amount := by
    simp only [balanceOf, found, load]
  refine ⟨info.map (ledger.describe config (key.1, key.2)), ?_⟩
  simp [call, getAccountAssetBalance, readable, settle]

/-- The entries of an asset are of the kinds that its type calls for. -/
def KindsFollow (ledger : Memory) (assetId : AssetId) (type : AssetType) : Prop :=
  ∀ accountId account sort, ledger.kind (assetId, accountId) = some sort →
    ledger.account accountId = some account →
    (sort = true ↔ account.type = .walletAddress ∧ type ≠ .id)

/-- The account of an entry has an id that was issued. -/
theorem Sound.issued_account (sound : ledger.Sound config) {sort : Bool}
    (found : ledger.kind key = some sort) : key.2 < ledger.nextAccountId := by
  obtain ⟨entry, there, -⟩ := Option.map_eq_some_iff.mp found
  obtain ⟨owner, member⟩ := sound.store.owned key entry there
  have known : ledger.account key.2 = some owner.account := by
    rw [account, member, Option.map_some]
  exact sound.registry.accountIds _ _ known

/-- The kinds of the entries follow the type of an asset for as long as it is registered. -/
theorem Sound.kindsFollow (sound : ledger.Sound config)
    (registered : ledger.lassidToAsset.lookup assetId = some asset) :
    ledger.KindsFollow assetId asset.type := by
  intro accountId account sort found member
  obtain ⟨entry, there, rfl⟩ := Option.map_eq_some_iff.mp found
  obtain ⟨owner, present, rfl⟩ := Option.map_eq_some_iff.mp member
  rw [sound.store.kinds _ entry asset owner there registered present]
  exact and_comm

/-- They still follow it when it has been removed. -/
theorem Step.kindsFollow {request : Call} {response : Response}
    (step : Step config ledger request response after) (sound : ledger.Sound config)
    (registered : origin.lassidToAsset.lookup assetId = some asset)
    (issued : assetId < origin.nextAssetId) (descends : origin.Descends ledger)
    (follow : ledger.KindsFollow assetId asset.type) : after.KindsFollow assetId asset.type := by
  intro accountId account sort found member
  rcases step.kind_of sound found with old | ⟨current, holder, there, known, called⟩
  · have issuedAccount := sound.issued_account old
    rcases step.descends.account accountId account member with before | recent
    · exact follow accountId account sort old before
    · exact absurd recent (Nat.not_le.mpr issuedAccount)
  · have issuedAccount := sound.registry.accountIds _ _ known
    have same : account = holder := by
      rcases step.descends.account accountId account member with before | recent
      · exact Option.some.inj (before.symm.trans known)
      · exact absurd recent (Nat.not_le.mpr issuedAccount)
    have type : current.type = asset.type := by
      rcases descends.asset assetId current there with ⟨old, before, same⟩ | recent
      · rw [← same, Option.some.inj (before.symm.trans registered)]
      · exact absurd recent (Nat.not_le.mpr issued)
    rw [called, decide_eq_true_iff, withdrawable, same, type]
    exact and_comm

/-- An asset had the id at some point of the run to the ledger. -/
def Was (config : Config) (region : ℕ → AccountBalance) (ledger : Memory) (assetId : AssetId)
    (asset : Asset) : Prop :=
  ∃ origin, Reachable config region AnyCall origin ∧ Leads config origin ledger ∧
    origin.lassidToAsset.lookup assetId = some asset

/-- The kinds of the entries follow the type of whatever asset had their id. -/
theorem Was.kindsFollow (was : Was config region ledger assetId asset) :
    ledger.KindsFollow assetId asset.type := by
  obtain ⟨origin, reachable, leads, registered⟩ := was
  have sound := reachable.sound
  have issued := sound.registry.assetIds assetId asset registered
  have follows : (ledger.Sound config ∧ origin.Descends ledger) ∧
      ledger.KindsFollow assetId asset.type := by
    refine leads.invariant (fun state => (state.Sound config ∧ origin.Descends state) ∧
      state.KindsFollow assetId asset.type)
      ⟨⟨sound, .refl origin⟩, sound.kindsFollow registered⟩ ?_
    rintro state request next response ⟨⟨sound, descends⟩, follow⟩ - called
    have step := call_step sound called
    exact ⟨⟨step.sound sound, descends.trans step.descends⟩,
      step.kindsFollow sound registered issued descends follow⟩
  exact follows.2

/-- Every entry is of an asset that was registered at some point. -/
theorem Reachable.was (reachable : Reachable config region AnyCall ledger) {sort : Bool}
    (found : ledger.kind key = some sort) : ∃ asset, Was config region ledger key.1 asset := by
  have traced : Reachable config region AnyCall ledger ∧ ∀ key sort,
      ledger.kind key = some sort → ∃ asset, Was config region ledger key.1 asset := by
    refine Run.Reaches.invariant reachable (fun state => Reachable config region AnyCall state ∧
      ∀ key sort, state.kind key = some sort → ∃ asset, Was config region state key.1 asset)
      ⟨.refl, by simp [kind, empty, Finmap.lookup_empty]⟩ ?_
    rintro state request next response ⟨reachable, traced⟩ permitted called
    refine ⟨.tail reachable permitted called, fun key sort found => ?_⟩
    have once : Leads config state next := .tail .refl permitted called
    rcases (call_step reachable.sound called).kind_of reachable.sound found with
      old | ⟨asset, _, there, -⟩
    · obtain ⟨asset, origin, before, leads, registered⟩ := traced key sort old
      exact ⟨asset, origin, before, leads.trans once, registered⟩
    · exact ⟨asset, state, reachable, once, there⟩
  exact traced.2 key sort found

/-- The account drive is laid out. -/
structure Laid (config : Config) (region : ℕ → AccountBalance) (ledger : Memory) : Prop where
  /-- There are no more records than the drive has slots. -/
  limited : ledger.getBalancesSize ≤ config.maxBalances
  /-- No key is listed twice. -/
  nodup : ledger.lastBalances.Nodup
  /-- A key is listed at the slot its entry points to. -/
  placed : ∀ (slot : ℕ) (key : MapKey), ledger.lastBalances[slot]? = some key ↔
    ledger.accountAssetBalance.lookup key = some (.withdrawable slot)
  /-- An entry has an asset that was registered and an account that is. -/
  traced : ∀ key entry, ledger.accountAssetBalance.lookup key = some entry →
    ∃ asset owner, Was config region ledger key.1 asset ∧
      ledger.laccidToAccount.lookup key.2 = some owner
  /-- An entry is withdrawable exactly for a wallet and an asset that is not of type `id`. -/
  kinds : ∀ key entry asset owner, ledger.accountAssetBalance.lookup key = some entry →
    Was config region ledger key.1 asset → ledger.laccidToAccount.lookup key.2 = some owner →
    ((∃ slot, entry = .withdrawable slot) ↔
      owner.account.type = .walletAddress ∧ asset.type ≠ .id)
  /-- A record whose asset is registered is the one that describes the balance. -/
  records : ∀ slot key asset, ledger.lastBalances[slot]? = some key →
    ledger.lassidToAsset.lookup key.1 = some asset →
    ∃ owner balance, ledger.laccidToAccount.lookup key.2 = some owner ∧
      ledger.Reported config key.1 key.2 balance ∧
      ledger.balances slot = .describing asset owner.account balance
  /-- A record that is not in use is zero. -/
  blank : ∀ slot, ledger.getBalancesSize ≤ slot → slot < config.maxBalances →
    ledger.balances slot = .zero

/-- A key is listed at the slot its entry points to. -/
theorem Slotted.placed (slotted : ledger.Slotted) (slot : ℕ) (key : MapKey) :
    ledger.lastBalances[slot]? = some key ↔
      ledger.accountAssetBalance.lookup key = some (.withdrawable slot) :=
  (slotted.withdrawables slot key).trans driveSlot_eq

/-- The account drive is laid out after any run. -/
theorem laid_of_reachable (config : Config) (ledger : Memory)
    (reachable : Reachable config (fun _ => .zero) AnyCall ledger) :
    ledger.Laid config fun _ => .zero := by
  have sound := reachable.sound
  have store := sound.store
  have drive := reachable.drive
  have kindOf {key : MapKey} {entry : Balance}
      (found : ledger.accountAssetBalance.lookup key = some entry) :
      ledger.kind key = some entry.slot.isSome := by
    rw [kind, found, Option.map_some]
  refine ⟨?limited, store.withdrawables.nodup, store.toSlotted.placed, ?traced, ?kinds, ?records,
    fun slot beyond _ => drive.blank slot beyond⟩
  case limited =>
    have size := store.size_eq
    have limited := store.limited
    unfold getBalancesSize
    omega
  case traced =>
    intro key entry found
    obtain ⟨asset, was⟩ := reachable.was (kindOf found)
    obtain ⟨owner, member⟩ := store.owned key entry found
    exact ⟨asset, owner, was, member⟩
  case kinds =>
    intro key entry asset owner found was member
    have known : ledger.account key.2 = some owner.account := by
      rw [account, member, Option.map_some]
    have follow := was.kindsFollow key.2 owner.account entry.slot.isSome (kindOf found) known
    rw [← follow]
    cases entry <;> simp [Balance.slot]
  case records =>
    intro slot key asset listed registered
    have found := (store.toSlotted.placed slot key).mp listed
    obtain ⟨owner, member⟩ := store.owned key _ found
    have known : ledger.account key.2 = some owner.account := by
      rw [account, member, Option.map_some]
    refine ⟨owner, (ledger.balances slot).amount, member, reported_of_record found, ?_⟩
    rw [← recordOf_eq]
    exact drive.records key slot asset owner.account found registered known

/-- The drive with one record. -/
theorem laid_single : ∃ ledger, Reachable singleBalance (fun _ => .zero) AnyCall ledger ∧
    ledger.getBalancesSize = 1 ∧ ledger.Laid singleBalance fun _ => .zero := by
  obtain ⟨ledger, reachable, single⟩ := exists_reachable singleBalance (fun _ => .zero)
    [retrieveToken .create, createWallet, .deposit 0 0 oneAmount] getBalancesSize 1
    (by decide +kernel)
  exact ⟨ledger, reachable, single, laid_of_reachable _ ledger reachable⟩

end Memory

end Libcma
