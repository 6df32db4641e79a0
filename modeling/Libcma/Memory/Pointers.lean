import Libcma.Memory.Runs

/-!
# Pointers into the virtual balances

The key list, the vector and the entries describe the same placement in the current block after any
run that stays within the reserve. One virtual balance more moves the vector, and the pointers of
all entries but the last are left behind.
-/

namespace Libcma

open Exec

namespace Memory

/-- The key list of the virtual balances, their vector and the entries fit together. -/
structure InPlace (ledger : Memory) : Prop where
  /-- No key is listed twice. -/
  nodup : ledger.lastVirtualBalances.Nodup
  /-- There is one key for each element. -/
  aligned : ledger.lastVirtualBalances.length = ledger.virtualBalances.elems.length
  /-- The entry of a listed key points to the element at its index in the current block. -/
  pointed : ∀ (index : ℕ) (key : MapKey), ledger.lastVirtualBalances[index]? = some key →
    ledger.accountAssetBalance.lookup key =
      some (.virtual ⟨ledger.virtualBalances.block, index⟩)
  /-- The key of a virtual entry is listed. -/
  listed : ∀ key pointer, ledger.accountAssetBalance.lookup key = some (.virtual pointer) →
    key ∈ ledger.lastVirtualBalances

/-- The virtual balances are in place after any run that stays within the reserve. -/
theorem inPlace_of_within (config : Config) (region : ℕ → AccountBalance) (ledger : Memory)
    (reachable : Reachable config region (WithinReserve config) ledger) : ledger.InPlace := by
  have store := reachable.sound.store
  have stable := (reachable.anchored fun _ _ within => within).stable
  refine ⟨store.virtuals.nodup, store.aligned.symm, fun index key there => ?_,
    fun key pointer found => ?_⟩
  · obtain ⟨pointer, found, rfl⟩ := virtualIndex_eq.mp ((store.virtuals index key).mp there)
    have current : pointer.block = ledger.virtualBalances.block := stable key _ found
    rw [found, ← current]
  · exact (store.virtuals.mem_iff key).mpr ⟨_, virtualIndex_eq.mpr ⟨pointer, found, rfl⟩⟩

/-- One virtual balance, in place. -/
theorem inPlace_single : ∃ ledger,
    Reachable singleBalance (fun _ => .zero) (WithinReserve singleBalance) ledger ∧
      ledger.virtualCount = 1 ∧ ledger.InPlace := by
  obtain ⟨ledger, reachable, single⟩ := exists_permitted singleBalance (fun _ => .zero)
    (WithinReserve singleBalance) twoAccounts (by decide +kernel) virtualCount 1
    (by decide +kernel)
  exact ⟨ledger, reachable, single, inPlace_of_within _ _ ledger reachable⟩

section Filling

variable {config : Config} {ledger : Memory}

/-- An asset of type `id` is created when there is room. -/
theorem createIdAsset_call (sound : ledger.Sound config)
    (room : ledger.nextAssetId < config.maxAssets) :
    ∃ response, ledger.call config createIdAsset =
      some (ledger.addAsset (.ofType .id), response) := by
  have fresh := sound.registry.asset_fresh
  have below := Nat.not_le.mpr room
  simp [call, createIdAsset, retrieveAsset, retrieveUnkeyedAsset, lookForAssetId, looks,
    Operation.finds, Operation.creates, createAssetId, refuseMaxAssets, insertAsset, takeAssetId,
    fresh, below, settle, addAsset, Asset.key, Asset.ofType, Finmap.insertKey]

/-- An account of type `id` is created when there is room. -/
theorem createIdAccount_call (sound : ledger.Sound config)
    (room : ledger.nextAccountId < config.maxAccounts) :
    ∃ response, ledger.call config createIdAccount =
      some (ledger.addAccount ⟨.id, zeros 32⟩, response) := by
  have fresh := sound.registry.account_fresh
  have below := Nat.not_le.mpr room
  simp [call, createIdAccount, retrieveAccount, retrieveUnkeyedAccount, lookForAccountId, looks,
    Operation.finds, Operation.creates, createAccountId, refuseMaxAccounts, insertAccount,
    takeAccountId, fresh, below, settle, addAccount, Account.key, Finmap.insertKey]

/-- An accepted deposit is carried out when there is room and nothing dangles. -/
theorem deposit_call (sound : ledger.Sound config) (stable : ledger.Stable) {assetId : AssetId}
    {accountId : AccountId} {amount balance : Amount} {asset : Asset} {owner : AccountStruct}
    (accepts : ledger.view.AcceptsDeposit assetId accountId amount asset balance)
    (member : ledger.laccidToAccount.lookup accountId = some owner)
    (room : ¬ledger.Full config (assetId, accountId)) :
    ∃ response, ledger.call config (.deposit assetId accountId amount) =
      some ((ledger.written config (assetId, accountId) asset owner
        (amountCheckedAdd balance amount).1).supplied assetId asset
          (amountCheckedAdd asset.supply amount).1, response) := by
  simp only [call, onFirst_run, deposit]
  rcases LedgerOps.deposit_cases (reports config ledger) assetId accountId amount with
    ⟨error, -, rejects, -⟩ | ⟨undefined, -⟩ | ⟨other, held, found, continues⟩
  · exact absurd accepts (rejects asset balance)
  · rw [accepts.passes] at undefined
    contradiction
  · obtain rfl : asset = other := Option.some.inj (accepts.registered.symm.trans found.registered)
    obtain rfl : balance = held := Option.some.inj (accepts.held.symm.trans found.held)
    rw [continues]
    rcases write_then sound.store accepts.registered member (amountCheckedAdd balance amount).1
      (fun _ => setAssetSupply assetId (amountCheckedAdd asset.supply amount).1) with
      ⟨full, -⟩ | ⟨-, written⟩ | ⟨unstable, -⟩
    · exact absurd full room
    · simp only [ops, written, supply_written accepts.registered member]
      exact ⟨_, rfl⟩
    · exact absurd stable unstable

/-- A ledger for more balances than are reserved. -/
def manyBalances : Config := ⟨4096, 4096, 4096, 0, fun capacity => 2 * capacity⟩

/-- One asset of type `id`, and one unit of it for each of a number of accounts of type `id`, up to
what the reserve holds. -/
structure Filled (count : ℕ) (ledger : Memory) : Prop where
  reachable : Reachable manyBalances (fun _ => .zero) AnyCall ledger
  issued : ∃ asset, ledger.lassidToAsset.lookup 0 = some asset ∧ asset.type = .id ∧
    asset.supply.toNat = count
  next : ledger.nextAccountId = count
  entries : ledger.accountAssetBalance.size = count
  length : ledger.virtualCount = count
  block : ledger.virtualBalances.block = 0
  anchored : ledger.Anchored
  first : 0 < count → ledger.accountAssetBalance.lookup (0, 0) = some (.virtual ⟨0, 0⟩)

/-- A new ledger with the asset. -/
theorem filled_zero : ∃ ledger, Filled 0 ledger := by
  obtain ⟨response, called⟩ := createIdAsset_call (sound_empty manyBalances fun _ => .zero)
    (by decide)
  refine ⟨_, .tail .refl trivial called, ⟨.ofType .id, Finmap.lookup_insert _, rfl, ?_⟩, rfl, rfl,
    rfl, rfl, ⟨(anchored_empty fun _ => .zero).stable, rfl⟩,
    fun positive => absurd positive (by decide)⟩
  exact toNat_zeros 32

/-- The account that the next calls add and pay. -/
def joined (ledger : Memory) : Memory := ledger.addAccount ⟨.id, zeros 32⟩

/-- The next account has no entry. -/
theorem Filled.absent {count : ℕ} (filled : Filled count ledger) :
    ledger.accountAssetBalance.lookup (0, count) = none := by
  refine Option.eq_none_iff_forall_ne_some.mpr fun entry found => ?_
  exact filled.reachable.sound.account_unheld found filled.next.symm

/-- A write for the next account opens a virtual entry. -/
theorem Filled.written_eq {count : ℕ} (filled : Filled count ledger) {asset : Asset}
    (type : asset.type = .id) :
    ledger.joined.written manyBalances (0, count) asset ⟨⟨.id, zeros 32⟩, 0⟩ oneAmount =
      ledger.joined.openVirtual manyBalances (0, count) ⟨⟨.id, zeros 32⟩, 0⟩ oneAmount := by
  have absent : ledger.joined.accountAssetBalance.lookup (0, count) = none := filled.absent
  simp [written, absent, opened, withdrawable, type]

/-- One more account gets one unit. -/
theorem Filled.give {count : ℕ} (filled : Filled count ledger) (small : count < 4096) :
    ∃ asset supply after, Reachable manyBalances (fun _ => .zero) AnyCall after ∧
      asset.type = .id ∧ supply.toNat = count + 1 ∧
      after = (ledger.joined.written manyBalances (0, count) asset ⟨⟨.id, zeros 32⟩, 0⟩
        oneAmount).supplied 0 asset supply := by
  obtain ⟨asset, registered, type, supplied⟩ := filled.issued
  have sound := filled.reachable.sound
  obtain ⟨made, joins⟩ := createIdAccount_call sound (filled.next ▸ small)
  have joinedSound : ledger.joined.Sound manyBalances := (call_step sound joins).sound sound
  have joinedStable : ledger.joined.Stable := filled.anchored.stable
  have absent : ledger.joined.accountAssetBalance.lookup (0, count) = none := filled.absent
  have member : ledger.joined.laccidToAccount.lookup count = some ⟨⟨.id, zeros 32⟩, 0⟩ := by
    rw [← filled.next]
    exact Finmap.lookup_insert _
  have room : ¬ledger.joined.Full manyBalances (0, count) := by
    rintro ⟨-, crowded⟩
    change 4096 ≤ ledger.accountAssetBalance.size at crowded
    rw [filled.entries] at crowded
    omega
  have held : ledger.joined.view.balance 0 count = some (zeros 32) := by
    change ledger.joined.balanceOf 0 count = _
    simp only [balanceOf, absent]
  have sum : (amountCheckedAdd (zeros 32) oneAmount).1 = oneAmount := by
    decide +kernel
  have fits : asset.supply.toNat + oneAmount.toNat < 2 ^ 256 := by
    rw [supplied, toNat_oneAmount]
    omega
  have accepts : ledger.joined.view.AcceptsDeposit 0 count oneAmount asset (zeros 32) := by
    refine ⟨?_, registered, fits, fun single => ?_, ?_, held, ?_⟩
    · rw [toNat_oneAmount]
      decide
    · rw [type] at single
      exact absurd single (by decide)
    · exact congrArg Option.isSome member
    · rw [toNat_oneAmount, toNat_zeros]
      norm_num
  obtain ⟨paid, given⟩ := deposit_call joinedSound joinedStable accepts member room
  rw [sum] at given
  refine ⟨asset, (amountCheckedAdd asset.supply oneAmount).1, _,
    .tail (.tail filled.reachable trivial joins) trivial given, type, ?_, rfl⟩
  rw [amountCheckedAdd_toNat fits, supplied, toNat_oneAmount]

/-- Within the reserve, the filling goes on. -/
theorem Filled.succ {count : ℕ} (filled : Filled count ledger) (small : count < initBalance) :
    ∃ after, Filled (count + 1) after := by
  have few : count < 4096 := Nat.lt_trans small (by decide)
  obtain ⟨asset, supply, after, reachable, type, supplied, same⟩ := filled.give few
  have length : ledger.virtualBalances.elems.length = count := filled.length
  have roomy : ledger.virtualBalances.elems.length < ledger.virtualBalances.capacity := by
    rw [length, filled.anchored.capacity]
    exact small
  have joinedAnchored : ledger.joined.Anchored :=
    ⟨filled.anchored.stable, filled.anchored.capacity⟩
  have grown : (ledger.virtualBalances.pushBack manyBalances oneAmount).elems.length =
      count + 1 := by
    rw [elems_pushBack, List.length_append, length, List.length_singleton]
  have opens := filled.written_eq type
  have anchored : (ledger.joined.written manyBalances (0, count) asset ⟨⟨.id, zeros 32⟩, 0⟩
      oneAmount).Anchored := by
    refine joinedAnchored.written ?_
    rw [opens]
    exact Nat.le_trans (Nat.le_of_eq grown) small
  have block : (ledger.virtualBalances.pushBack manyBalances oneAmount).block = 0 := by
    rw [VirtualBalances.pushBack, if_pos roomy]
    exact filled.block
  refine ⟨after, reachable, ⟨{ asset with supply := supply }, ?issued, type, supplied⟩, ?next,
    ?entries, ?length, ?block, ?anchored, fun _ => ?first⟩
  case issued =>
    rw [same]
    exact Finmap.lookup_insert _
  case anchored =>
    rw [same]
    exact ⟨anchored.stable, anchored.capacity⟩
  all_goals rw [same, opens]
  case next => exact congrArg (· + 1) filled.next
  case entries =>
    exact (Finmap.size_insert_new _ filled.absent).trans (congrArg (· + 1) filled.entries)
  case length => exact grown
  case block => exact block
  case first =>
    change (ledger.accountAssetBalance.insert (0, count) (.virtual ⟨(ledger.virtualBalances.pushBack
      manyBalances oneAmount).block, ledger.virtualBalances.elems.length⟩)).lookup (0, 0) = _
    rw [Finmap.lookup_insert_if, block, length]
    by_cases zero : count = 0
    · rw [if_pos (by rw [zero]), zero]
    · rw [if_neg fun pair => zero (Prod.mk.inj pair).2.symm]
      exact filled.first (Nat.pos_of_ne_zero zero)

/-- The reserve can be filled. -/
theorem filled_all (count : ℕ) (small : count ≤ initBalance) : ∃ ledger, Filled count ledger := by
  induction count with
  | zero => exact filled_zero
  | succ count ih =>
    obtain ⟨ledger, filled⟩ := ih (Nat.le_of_succ_le small)
    exact filled.succ small

end Filling

/-- The 2049th virtual balance moves the vector; the entry of the first account keeps pointing into
the block it left. -/
theorem growth_not_inPlace :
    ¬∀ config region ledger, Reachable config region AnyCall ledger → ledger.InPlace := by
  intro always
  obtain ⟨ledger, filled⟩ := filled_all initBalance (Nat.le_refl _)
  obtain ⟨asset, supply, after, reachable, type, -, same⟩ := filled.give (by decide)
  have inPlace := always _ _ after reachable
  have length : ledger.virtualBalances.elems.length = initBalance := filled.length
  have block : after.virtualBalances.block = 1 := by
    rw [same, filled.written_eq type]
    change (ledger.virtualBalances.pushBack manyBalances oneAmount).block = 1
    have full : ¬ledger.virtualBalances.elems.length < ledger.virtualBalances.capacity := by
      rw [length, filled.anchored.capacity]
      exact Nat.lt_irrefl _
    rw [VirtualBalances.pushBack, if_neg full, filled.block]
  have first : after.accountAssetBalance.lookup (0, 0) = some (.virtual ⟨0, 0⟩) := by
    rw [same, filled.written_eq type]
    refine (Finmap.lookup_insert_of_ne _ ?_).trans (filled.first (by decide))
    decide
  obtain ⟨index, there⟩ := List.mem_iff_getElem?.mp (inPlace.listed _ _ first)
  have pointed := inPlace.pointed index _ there
  rw [first, block] at pointed
  simp at pointed

end Memory

end Libcma
