import Libcma.Memory.Runs

/-!
# What the entries hold

As long as no call that moves nothing opens an entry, every entry holds something, of an asset and
for an account that are registered, and an account counts the assets it holds. A call that moves
nothing can open an entry, since a new entry is made whatever its amount. What an entry holds is
what the code reads there, so the calls have to stay within the reserve too.
-/

namespace Libcma

open Exec

namespace Call

/-- The call moves an amount of zero. -/
def MovesNothing : Call → Prop
  | .deposit _ _ amount | .withdraw _ _ amount | .transfer _ _ _ amount => isZero amount = true
  | _ => False

instance : (request : Call) → Decidable request.MovesNothing
  | .deposit _ _ amount | .withdraw _ _ amount | .transfer _ _ _ amount =>
    inferInstanceAs (Decidable (isZero amount = true))
  | .retrieveAsset _ _ | .retrieveAccount _ _ | .getBalance _ _ _ _ | .clear =>
    inferInstanceAs (Decidable False)

/-- The pairs whose balances the call moves. -/
def pairs : Call → List MapKey
  | .deposit assetId accountId _ | .withdraw assetId accountId _ => [(assetId, accountId)]
  | .transfer assetId source target _ => [(assetId, source), (assetId, target)]
  | _ => []

end Call

namespace Memory

/-- The checks of a deposit, a withdrawal or a transfer pass. -/
def Accepts (ledger : Memory) (request : Call) : Prop := ledger.writes request ≠ []

instance (ledger : Memory) (request : Call) : Decidable (ledger.Accepts request) :=
  inferInstanceAs (Decidable (_ ≠ _))

/-- The call moves nothing and passes its checks, and opens an entry: one of its pairs has none, and
there is room. -/
def OpensEmpty (config : Config) (ledger : Memory) (request : Call) : Prop :=
  request.MovesNothing ∧ ledger.Accepts request ∧
    ledger.accountAssetBalance.size < config.maxBalances ∧
    ∃ key ∈ request.pairs, ledger.accountAssetBalance.lookup key = none

instance (config : Config) (ledger : Memory) (request : Call) :
    Decidable (ledger.OpensEmpty config request) := inferInstanceAs (Decidable (_ ∧ _ ∧ _ ∧ _))

/-- No call opens an empty entry. -/
def OpensNoEmpty (config : Config) (ledger : Memory) (request : Call) : Prop :=
  ¬ledger.OpensEmpty config request

instance (config : Config) (ledger : Memory) (request : Call) :
    Decidable (ledger.OpensNoEmpty config request) := inferInstanceAs (Decidable (¬_))

/-- The call opens no empty entry and stays within the reserve. -/
def KeepsOccupied (config : Config) (ledger : Memory) (request : Call) : Prop :=
  ledger.WithinReserve config request ∧ ledger.OpensNoEmpty config request

instance (config : Config) (ledger : Memory) (request : Call) :
    Decidable (ledger.KeepsOccupied config request) := inferInstanceAs (Decidable (_ ∧ _))

/-- The amount stored for every entry is not zero, and its asset is registered. For an entry whose
pointer dangles that is the amount last written. -/
structure Backed (ledger : Memory) : Prop where
  positive : ∀ key entry, ledger.accountAssetBalance.lookup key = some entry →
    (ledger.stored key).toNat ≠ 0
  registered : ∀ key entry, ledger.accountAssetBalance.lookup key = some entry →
    ∃ asset, ledger.lassidToAsset.lookup key.1 = some asset

variable {config : Config} {region : ℕ → AccountBalance} {ledger after : Memory} {key : MapKey}
  {assetId : AssetId} {accountId source target : AccountId} {asset : Asset} {owner : AccountStruct}
  {amount balance : Amount}

namespace Backed

/-- A pair that holds nothing has no entry. -/
theorem absent (backed : ledger.Backed) (empty : (ledger.stored key).toNat = 0) :
    ledger.accountAssetBalance.lookup key = none := by
  cases found : ledger.accountAssetBalance.lookup key with
  | none => rfl
  | some entry => exact absurd empty (backed.positive key entry found)

/-- A write that does not open an empty entry leaves every entry with something. -/
theorem written (backed : ledger.Backed) (store : ledger.Store config) (key : MapKey)
    (registered : ledger.lassidToAsset.lookup key.1 = some asset)
    (member : ledger.laccidToAccount.lookup key.2 = some owner)
    (filled : ledger.accountAssetBalance.lookup key = none → balance.toNat ≠ 0) :
    (ledger.written config key asset owner balance).Backed := by
  have same := sameRegistry_written config key member asset balance
  have stored := stored_written store key asset owner balance
  constructor
  case positive =>
    intro other entry found
    have kinds := kind_written store key asset owner balance other
    rw [kind, found, Option.map_some] at kinds
    rw [stored]
    by_cases here : other = key
    · rw [if_pos here]
      rw [if_pos here] at kinds
      by_cases fresh : ledger.accountAssetBalance.lookup key = none
      · exact filled fresh
      · rw [if_neg fresh] at kinds
        intro zero
        rw [if_pos ((isZero_iff balance).mpr zero)] at kinds
        contradiction
    · rw [if_neg here]
      rcases lookup_written store asset owner balance found with same | ⟨before, there⟩
      · exact absurd same here
      · exact backed.positive other before there
  case registered =>
    intro other entry found
    rw [same.assets]
    rcases lookup_written store asset owner balance found with rfl | ⟨before, there⟩
    · exact ⟨asset, registered⟩
    · exact backed.registered other before there

/-- A new supply leaves every entry with what it holds. -/
theorem supplied (backed : ledger.Backed) (assetId : AssetId) (asset : Asset) (supply : Amount) :
    (ledger.supplied assetId asset supply).Backed := by
  refine ⟨backed.positive, fun key entry found => ?_⟩
  simp only [Memory.supplied, Finmap.lookup_insert_if]
  split
  · exact ⟨_, rfl⟩
  · exact backed.registered key entry found

/-- A new asset leaves every entry with what it holds. -/
theorem addAsset (backed : ledger.Backed) (added : Asset) : (ledger.addAsset added).Backed := by
  refine ⟨backed.positive, fun key entry found => ?_⟩
  simp only [Memory.addAsset, Finmap.lookup_insert_if]
  split
  · exact ⟨_, rfl⟩
  · exact backed.registered key entry found

/-- An asset without supply has no entries, and can be removed. -/
theorem dropAsset (backed : ledger.Backed) (covered : ledger.book.Covered)
    (registered : ledger.lassidToAsset.lookup assetId = some asset)
    (unsupplied : asset.supply.toNat = 0) : (ledger.dropAsset assetId asset).Backed := by
  refine ⟨backed.positive, fun key entry found => ?_⟩
  have spent : ledger.book.outstanding assetId = 0 := by
    rw [Book.outstanding, book_supply registered, Option.getD_some, unsupplied]
  have other : key.1 ≠ assetId := by
    rintro rfl
    exact backed.positive key entry found (covered.holding_zero spent key.2)
  simp only [Memory.dropAsset, Finmap.lookup_erase_if, if_neg other]
  exact backed.registered key entry found

end Backed

section Accepting

/-- A deposit whose checks pass is accepted. -/
theorem accepts_deposit
    (accepts : ledger.view.AcceptsDeposit assetId accountId amount asset balance) :
    ledger.Accepts (.deposit assetId accountId amount) := by
  rw [Accepts, writes_deposit accepts]
  exact List.cons_ne_nil _ _

/-- A withdrawal whose checks pass is accepted. -/
theorem accepts_withdraw
    (accepts : ledger.view.AcceptsWithdraw assetId accountId amount asset balance) :
    ledger.Accepts (.withdraw assetId accountId amount) := by
  rw [Accepts, writes_withdraw accepts]
  exact List.cons_ne_nil _ _

/-- A transfer whose checks pass is accepted. -/
theorem accepts_transfer {balanceFrom balanceTo : Amount}
    (accepts : ledger.view.AcceptsTransfer assetId source target amount asset balanceFrom
      balanceTo) : ledger.Accepts (.transfer assetId source target amount) := by
  rw [Accepts, writes_transfer accepts]
  exact List.cons_ne_nil _ _

end Accepting

/-- An accepted request that moves nothing and has a pair without an entry opens it, if there is
room. -/
theorem filled_of_accepts {request : Call} (permitted : ledger.OpensNoEmpty config request)
    (accepts : ledger.Accepts request) (named : key ∈ request.pairs)
    (fresh : ledger.accountAssetBalance.lookup key = none)
    (room : ledger.accountAssetBalance.size < config.maxBalances) : ¬request.MovesNothing :=
  fun nothing => permitted ⟨nothing, accepts, room, key, named, fresh⟩

/-- The debit of a transfer that opens no empty entry leaves every entry with something. -/
theorem Backed.debited (backed : ledger.Backed) (store : ledger.Store config)
    {balanceFrom balanceTo : Amount}
    (permitted : ledger.OpensNoEmpty config (.transfer assetId source target amount))
    (accepts : ledger.view.AcceptsTransfer assetId source target amount asset balanceFrom
      balanceTo)
    (sent : ledger.laccidToAccount.lookup source = some owner)
    (room : ¬ledger.Full config (assetId, source)) :
    ledger.accountAssetBalance.lookup (assetId, source) ≠ none ∧
      (ledger.written config (assetId, source) asset owner
        (amountCheckedSub balanceFrom amount).1).Backed := by
  have present : ledger.accountAssetBalance.lookup (assetId, source) ≠ none := by
    intro fresh
    have moving := filled_of_accepts permitted (accepts_transfer accepts)
      List.mem_cons_self fresh (Nat.not_le.mp fun full => room ⟨fresh, full⟩)
    rw [Call.MovesNothing, isZero_iff] at moving
    have enough := accepts.enough
    exact held_present accepts.heldFrom (by omega) fresh
  exact ⟨present, backed.written store (_, _) accepts.registered sent
    fun fresh => absurd fresh present⟩

/-- The credit of a transfer opens no empty entry either. -/
theorem Backed.credited (backed : ledger.Backed) (store : ledger.Store config)
    {balanceFrom balanceTo : Amount}
    (permitted : ledger.OpensNoEmpty config (.transfer assetId source target amount))
    (accepts : ledger.view.AcceptsTransfer assetId source target amount asset balanceFrom
      balanceTo)
    (present : ledger.accountAssetBalance.lookup (assetId, source) ≠ none)
    (still : ¬(ledger.written config (assetId, source) asset owner
      (amountCheckedSub balanceFrom amount).1).Full config (assetId, target))
    (fresh : (ledger.written config (assetId, source) asset owner
      (amountCheckedSub balanceFrom amount).1).accountAssetBalance.lookup
        (assetId, target) = none) :
    (amountCheckedAdd balanceTo amount).1.toNat ≠ 0 := by
  rw [amountCheckedAdd_toNat accepts.balanceFits]
  intro zero
  have nothing : amount.toNat = 0 := by omega
  have debit : (amountCheckedSub balanceFrom amount).1.toNat = balanceFrom.toNat := by
    rw [amountCheckedSub_toNat accepts.enough, nothing, Nat.sub_zero]
  -- The sender holds something and still does, so the debit makes no room and takes none.
  have kept : ¬isZero (amountCheckedSub balanceFrom amount).1 = true := by
    rw [isZero_iff, debit]
    intro empty
    have held : ledger.stored (assetId, source) = balanceFrom := balanceOf_eq accepts.heldFrom
    exact present (backed.absent (by rw [held, empty]))
  have size := size_written store (assetId, source) asset owner
    (amountCheckedSub balanceFrom amount).1
  rw [if_neg present, if_neg kept] at size
  have absent : ledger.accountAssetBalance.lookup (assetId, target) = none := by
    have kinds := kind_written store (assetId, source) asset owner
      (amountCheckedSub balanceFrom amount).1 (assetId, target)
    rw [if_neg fun pair => accepts.different (Prod.mk.inj pair).2.symm,
      kind_eq_none.mpr fresh] at kinds
    exact kind_eq_none.mp kinds.symm
  have room : ledger.accountAssetBalance.size < config.maxBalances :=
    Nat.not_le.mp fun full => still ⟨fresh, size ▸ full⟩
  have moving := filled_of_accepts permitted (accepts_transfer accepts)
    (List.mem_cons_of_mem _ (List.mem_singleton_self _)) absent room
  exact moving ((isZero_iff amount).mpr nothing)

/-- Every step that opens no empty entry leaves every entry with something. -/
theorem Step.backed {request : Call} {response : Response}
    (step : Step config ledger request response after) (sound : ledger.Sound config)
    (covered : ledger.book.Covered) (backed : ledger.Backed)
    (permitted : ledger.OpensNoEmpty config request) : after.Backed := by
  have roomy {key : MapKey} (room : ¬ledger.Full config key)
      (fresh : ledger.accountAssetBalance.lookup key = none) :
      ledger.accountAssetBalance.size < config.maxBalances :=
    Nat.not_le.mp fun full => room ⟨fresh, full⟩
  cases step with
  | refused => exact backed
  | asset result =>
    cases result with
    | found => exact backed
    | added asset => exact backed.addAsset asset
    | removed assetId asset _ present unsupplied =>
      exact backed.dropAsset covered present unsupplied
  | account result =>
    cases result with
    | found => exact backed
    | added => exact ⟨backed.positive, backed.registered⟩
    | removed => exact ⟨backed.positive, backed.registered⟩
  | balance => exact backed
  | deposit accepts member room =>
    refine (backed.written sound.store (_, _) accepts.registered member fun fresh => ?_).supplied
      _ _ _
    have moving := filled_of_accepts permitted (accepts_deposit accepts)
      (List.mem_singleton_self _) fresh (roomy room fresh)
    rw [Call.MovesNothing, isZero_iff] at moving
    rw [amountCheckedAdd_toNat accepts.balanceFits]
    omega
  | withdraw accepts member room =>
    refine (backed.written sound.store (_, _) accepts.registered member fun fresh => ?_).supplied
      _ _ _
    have moving := filled_of_accepts permitted (accepts_withdraw accepts)
      (List.mem_singleton_self _) fresh (roomy room fresh)
    rw [Call.MovesNothing, isZero_iff] at moving
    have enough := accepts.enough
    exact absurd fresh (held_present accepts.held (by omega))
  | transfer accepts sent room debit received still =>
    subst debit
    obtain ⟨present, debited⟩ := backed.debited sound.store permitted accepts sent room
    exact debited.written (sound.written room accepts.registered sent _).store (_, _)
      (registered_written (_, _) sent _ _ accepts.registered) received
      (backed.credited sound.store permitted accepts present still)
  | stranded accepts sent room debit =>
    subst debit
    exact (backed.debited sound.store permitted accepts sent room).2
  | clear =>
    constructor <;> simp [Memory.clear, Finmap.lookup_empty]

/-- Every entry can be read and holds something, of a registered asset and for a registered account,
and an account counts the assets of which it holds something. -/
structure Occupied (config : Config) (ledger : Memory) : Prop where
  /-- What is read at the place of an entry is reported for it, and is not zero. -/
  positive : ∀ key entry, ledger.accountAssetBalance.lookup key = some entry →
    ∃ balance, ledger.load entry = some balance ∧ ledger.Reported config key.1 key.2 balance ∧
      balance.toNat ≠ 0
  /-- The asset of an entry is registered. -/
  registered : ∀ key entry, ledger.accountAssetBalance.lookup key = some entry →
    ∃ asset, ledger.lassidToAsset.lookup key.1 = some asset
  /-- The account of an entry is registered. -/
  owned : ∀ key entry, ledger.accountAssetBalance.lookup key = some entry →
    ∃ owner, ledger.laccidToAccount.lookup key.2 = some owner
  /-- An account counts the assets of which a balance above zero is reported for it. -/
  counted : ∀ accountId owner, ledger.laccidToAccount.lookup accountId = some owner →
    owner.nBalances = {assetId | ∃ balance,
      ledger.Reported config assetId accountId balance ∧ 0 < balance.toNat}.ncard

/-- The assets of which an account holds something are those of its entries. -/
theorem Backed.count (backed : ledger.Backed) (accountId : AccountId) :
    ledger.accountAssetBalance.countKeys (·.2 = accountId) =
      {assetId | 0 < (ledger.amount assetId accountId).toNat}.ncard := by
  rw [Finmap.countKeys_second]
  congr 1
  ext assetId
  rw [Set.mem_ofPred_eq, Set.mem_ofPred_eq, Finmap.mem_keys_iff]
  constructor
  · rintro ⟨entry, found⟩
    exact Nat.pos_of_ne_zero (backed.positive _ entry found)
  · intro holds
    refine Option.ne_none_iff_exists'.mp fun absent => ?_
    rw [Memory.amount, stored_none absent, toNat_zeros] at holds
    exact absurd holds (Nat.lt_irrefl 0)

/-- Where nothing dangles, a balance above zero is reported where one is stored. -/
theorem Anchored.reported_pos_iff (anchored : ledger.Anchored) (sound : ledger.Sound config)
    (assetId : AssetId) (accountId : AccountId) :
    (∃ balance, ledger.Reported config assetId accountId balance ∧ 0 < balance.toNat) ↔
      0 < (ledger.amount assetId accountId).toNat := by
  constructor
  · rintro ⟨balance, reported, positive⟩
    rwa [reported.amount_eq]
  · exact fun positive => ⟨_, anchored.reported sound assetId accountId, positive⟩

/-- The entries hold what they should after any run that opens no empty entry and stays within the
reserve. -/
theorem occupied_of_keepsOccupied (config : Config) (region : ℕ → AccountBalance)
    (ledger : Memory) (reachable : Reachable config region (KeepsOccupied config) ledger) :
    ledger.Occupied config := by
  have sound := reachable.sound
  have anchored := reachable.anchored fun _ _ keeps => keeps.1
  have backed : ledger.Backed := by
    refine reachable.kept Backed ⟨by simp [empty, Finmap.lookup_empty],
      by simp [empty, Finmap.lookup_empty]⟩ ?_
    intro state request response after step reached backed permitted
    exact step.backed reached.sound reached.covered backed permitted.2
  refine ⟨?positive, backed.registered, sound.store.owned, ?counted⟩
  case positive =>
    intro key entry found
    have readable := anchored.stable.balanceOf sound.store.toSlotted key.1 key.2
    simp only [balanceOf, found] at readable
    exact ⟨_, readable, anchored.reported sound key.1 key.2, backed.positive key entry found⟩
  case counted =>
    intro accountId owner member
    simp only [anchored.reported_pos_iff sound]
    exact (sound.store.counted accountId owner member).trans (backed.count accountId)

/-- One entry, of two units. -/
theorem occupied_single : ∃ ledger,
    Reachable singleBalance (fun _ => .zero) (KeepsOccupied singleBalance) ledger ∧
      ledger.accountAssetBalance.size = 1 ∧ ledger.Occupied singleBalance := by
  obtain ⟨ledger, reachable, single⟩ := exists_permitted singleBalance (fun _ => .zero)
    (KeepsOccupied singleBalance) twoAccounts (by decide +kernel)
    (fun ledger => ledger.accountAssetBalance.size) 1 (by decide +kernel)
  exact ⟨ledger, reachable, single, occupied_of_keepsOccupied _ _ ledger reachable⟩

/-- A withdrawal of nothing from an account that has nothing leaves it an entry of zero. -/
theorem withdrawal_not_occupied :
    ¬∀ config region ledger, Reachable config region AnyCall ledger → ledger.Occupied config := by
  intro always
  obtain ⟨ledger, reachable, zero⟩ := exists_reachable singleBalance (fun _ => .zero)
    [createIdAsset, createIdAccount, .withdraw 0 0 (zeros 32)]
    (fun ledger => (ledger.accountAssetBalance.lookup (0, 0)).map ledger.load)
    (some (some (zeros 32))) (by decide +kernel)
  obtain ⟨entry, found, nothing⟩ := Option.map_eq_some_iff.mp zero
  obtain ⟨balance, read, -, positive⟩ := (always _ _ ledger reachable).positive (0, 0) entry found
  obtain rfl : zeros 32 = balance := Option.some.inj (nothing.symm.trans read)
  exact positive (toNat_zeros 32)

end Memory

end Libcma
