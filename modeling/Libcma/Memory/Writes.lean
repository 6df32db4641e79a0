import Libcma.Memory.Store

/-!
# What writing a balance does

`set_account_asset_balance` on a ledger whose store is consistent: it throws before it writes,
reads through a dangling pointer, or does exactly what `written` says. The branches of the source
marked unreachable are.
-/

namespace Libcma

open Exec

namespace Memory

/-- The entry can be used: its pointer designates the current block. -/
def Current (ledger : Memory) : Balance → Prop
  | .virtual pointer => pointer.block = ledger.virtualBalances.block
  | .withdrawable _ => True

/-- No entry dangles. -/
def Stable (ledger : Memory) : Prop :=
  ∀ key entry, ledger.accountAssetBalance.lookup key = some entry → ledger.Current entry

/-- A write for the pair is refused: it has no entry and the table is full. -/
def Full (config : Config) (ledger : Memory) (key : MapKey) : Prop :=
  ledger.accountAssetBalance.lookup key = none ∧
    config.maxBalances ≤ ledger.accountAssetBalance.size

instance (config : Config) (ledger : Memory) (key : MapKey) : Decidable (ledger.Full config key) :=
  inferInstanceAs (Decidable (_ ∧ _))

/-- The ledger after a write for a pair. -/
def written (config : Config) (ledger : Memory) (key : MapKey) (asset : Asset)
    (owner : AccountStruct) (balance : Amount) : Memory :=
  match ledger.accountAssetBalance.lookup key with
  | none => ledger.opened config key asset owner balance
  | some entry =>
    if isZero balance then (ledger.overwrite entry balance).close key entry owner
    else ledger.overwrite entry balance

section Sizes

variable {config : Config} {ledger : Memory}

/-- An entry is listed in one of the two lists, or in neither if there is none. -/
theorem Store.listed (store : ledger.Store config) (key : MapKey) :
    key ∈ ledger.accountAssetBalance.keys ↔
      key ∈ ledger.lastBalances.toFinset ∪ ledger.lastVirtualBalances.toFinset := by
  rw [Finset.mem_union, List.mem_toFinset, List.mem_toFinset, store.virtuals.mem_iff,
    store.withdrawables.mem_iff, Finmap.mem_keys_iff]
  unfold virtualIndex driveSlot
  cases ledger.accountAssetBalance.lookup key with
  | none => simp
  | some entry => cases entry <;> simp [Balance.index, Balance.slot]

/-- No pair is listed in both lists. -/
theorem Store.apart (store : ledger.Store config) :
    Disjoint ledger.lastBalances.toFinset ledger.lastVirtualBalances.toFinset := by
  rw [Finset.disjoint_left]
  intro key driven virtual
  obtain ⟨slot, driven⟩ := (store.withdrawables.mem_iff key).mp (List.mem_toFinset.mp driven)
  obtain ⟨index, virtual⟩ := (store.virtuals.mem_iff key).mp (List.mem_toFinset.mp virtual)
  obtain ⟨entry, found, slotted⟩ := Option.bind_eq_some_iff.mp driven
  obtain ⟨other, met, indexed⟩ := Option.bind_eq_some_iff.mp virtual
  rw [found, Option.some.injEq] at met
  subst other
  cases entry <;> simp [Balance.index, Balance.slot] at slotted indexed

/-- There are as many entries as listed pairs. -/
theorem Store.size_eq (store : ledger.Store config) :
    ledger.accountAssetBalance.size =
      ledger.lastBalances.length + ledger.lastVirtualBalances.length := by
  have same : ledger.accountAssetBalance.keys =
      ledger.lastBalances.toFinset ∪ ledger.lastVirtualBalances.toFinset :=
    Finset.ext store.listed
  rw [Finmap.size, same, Finset.card_union_of_disjoint store.apart,
    List.toFinset_card_of_nodup store.withdrawables.nodup,
    List.toFinset_card_of_nodup store.virtuals.nodup]

/-- An account that has an entry counts at least one. -/
theorem Store.counts_positive (store : ledger.Store config) {key : MapKey} {entry : Balance}
    {owner : AccountStruct} (found : ledger.accountAssetBalance.lookup key = some entry)
    (member : ledger.laccidToAccount.lookup key.2 = some owner) : 0 < owner.nBalances := by
  rw [store.counted key.2 owner member]
  exact Nat.pos_of_ne_zero fun zero => by
    have absent : ledger.accountAssetBalance.lookup key = none :=
      Finmap.lookup_of_countKeys_zero (·.2 = key.2) zero rfl
    simp [found] at absent

end Sizes

/-- A vector with one more element. -/
theorem elems_pushBack (config : Config) (vector : VirtualBalances) (balance : Amount) :
    (vector.pushBack config balance).elems = vector.elems ++ [balance] := by
  unfold VirtualBalances.pushBack
  split <;> rfl

/-- Removing the last element of a list that is not empty. -/
theorem popBack_eq {α : Type} {list : List α} (occupied : 0 < list.length) :
    popBack list = some list.dropLast := by
  cases list with
  | nil => simp at occupied
  | cons => rfl

/-- A count that is not zero is decremented. -/
theorem decrement_eq {count : ℕ} (positive : 0 < count) : decrement count = count - 1 :=
  if_neg (Nat.ne_of_gt positive)

section Runs

variable {config : Config} {ledger : Memory} {key : MapKey} {asset : Asset}
  {owner : AccountStruct} {balance : Amount}

/-- A pair without an entry gets one when there is room. -/
theorem createBalance_run (absent : ledger.accountAssetBalance.lookup key = none)
    (room : ledger.accountAssetBalance.size < config.maxBalances)
    (registered : ledger.lassidToAsset.lookup key.1 = some asset)
    (member : ledger.laccidToAccount.lookup key.2 = some owner) (balance : Amount) :
    (createBalance config key balance).run ledger =
      .ok () (ledger.opened config key asset owner balance) := by
  have below := Nat.not_le.mpr room
  unfold opened
  by_cases kind : withdrawable asset owner.account
  · simp [createBalance, createWithdrawable, storeRecord, openWithdrawable, recount, kind, absent,
      below, registered, member]
  · simp [createBalance, createVirtual, openVirtual, recount, kind, absent, below, registered,
      member, elems_pushBack]

/-- The last virtual balance is copied where the list and the pointers say it is. -/
theorem moveLastVirtual_run {pointer lastPointer : VirtualPtr} {lastKey : MapKey}
    {lastAmount : Amount} (last : ledger.lastVirtualBalances.getLast? = some lastKey)
    (lastFound : ledger.accountAssetBalance.lookup lastKey = some (.virtual lastPointer))
    (listed : ledger.lastVirtualBalances.idxOf? key = some pointer.index)
    (lastRead : ledger.virtualBalances.get? lastPointer = some lastAmount)
    (readable : (ledger.virtualBalances.get? pointer).isSome) :
    (moveLastVirtual key pointer).run ledger = .ok () { ledger with
      virtualBalances := { ledger.virtualBalances with
        elems := ledger.virtualBalances.elems.set pointer.index lastAmount }
      accountAssetBalance := ledger.accountAssetBalance.insert lastKey (.virtual pointer)
      lastVirtualBalances := ledger.lastVirtualBalances.set pointer.index lastKey } := by
  obtain ⟨old, read⟩ := Option.isSome_iff_exists.mp readable
  simp [moveLastVirtual, storeVirtual, last, lastFound, listed, lastRead, read]

/-- Removing a virtual entry closes it, unless the last one dangles. -/
theorem removeVirtual_run (store : ledger.Store config) {pointer : VirtualPtr}
    (found : ledger.accountAssetBalance.lookup key = some (.virtual pointer))
    (current : pointer.block = ledger.virtualBalances.block)
    (member : ledger.laccidToAccount.lookup key.2 = some owner) :
    (removeVirtual key pointer).run ledger = .ok () (ledger.closeVirtual key pointer owner) ∨
      ¬ledger.Stable ∧ (removeVirtual key pointer).run ledger = .undefined := by
  have placed : ledger.virtualIndex key = some pointer.index := by
    simp [virtualIndex, found, Balance.index]
  have inside := store.virtuals.slot_lt placed
  have counts := decrement_eq (store.counts_positive found member)
  have pops : 0 < ledger.lastVirtualBalances.length := by omega
  have aligned := store.aligned
  obtain ⟨lastKey, last, lastPlaced⟩ := store.virtuals.last placed
  by_cases several : 1 < ledger.accountAssetBalance.size
  · obtain ⟨lastEntry, lastFound, lastIndex⟩ := Option.bind_eq_some_iff.mp lastPlaced
    cases lastEntry with
    | withdrawable slot => simp [Balance.index] at lastIndex
    | virtual lastPointer =>
      have listed := store.virtuals.idxOf? placed
      by_cases lastCurrent : lastPointer.block = ledger.virtualBalances.block
      · left
        obtain ⟨lastAmount, lastElem⟩ : ∃ lastAmount,
            ledger.virtualBalances.elems.getLast? = some lastAmount := by
          rw [← Option.isSome_iff_exists, List.getLast?_isSome]
          rintro empty
          simp [empty] at aligned
          omega
        have lastRead : ledger.virtualBalances.get? lastPointer = some lastAmount := by
          simp only [Balance.index, Option.some.injEq] at lastIndex
          rw [VirtualBalances.get?, if_pos lastCurrent, lastIndex, ← store.aligned, ← lastElem,
            List.getLast?_eq_getElem?]
        have readable : (ledger.virtualBalances.get? pointer).isSome := by
          rw [VirtualBalances.get?, if_pos current, List.getElem?_eq_getElem (aligned ▸ inside)]
          rfl
        have moved := moveLastVirtual_run last lastFound listed lastRead readable
        have stays : (ledger.accountAssetBalance.insert lastKey (.virtual pointer)).lookup key ≠
            none := by
          rw [Finmap.lookup_insert_if]
          split <;> simp [found]
        simp [removeVirtual, member, several, moved, counts, popBack_eq, aligned, pops,
          eraseBalance, stays, closeVirtual, Slots.swapRemove, recount, last, lastElem]
      · right
        refine ⟨fun stable => lastCurrent (stable _ _ lastFound), ?_⟩
        simp [removeVirtual, moveLastVirtual, member, several, last, lastFound, listed,
          VirtualBalances.get?, lastCurrent]
  · -- A single entry: it is the last of its list, and nothing is moved.
    left
    have single : ledger.lastVirtualBalances.length = 1 := by
      have := store.size_eq
      omega
    obtain ⟨only, one⟩ := List.length_eq_one_iff.mp single
    obtain ⟨elem, elems⟩ := List.length_eq_one_iff.mp (store.aligned.trans single)
    have listed := (store.virtuals _ _).mpr placed
    have first : pointer.index = 0 := by omega
    rw [one, first, List.getElem?_cons_zero, Option.some.injEq] at listed
    subst listed
    simp [removeVirtual, member, several, one, elems, popBack, eraseBalance, found, closeVirtual,
      counts, recount, first, Finmap.erase_insert_self, Slots.swapRemove]

/-- The last record is copied where the list and the slots say it is, and zeroed. -/
theorem moveLastWithdrawable_run {slot lastSlot : ℕ} {lastKey : MapKey}
    (last : ledger.lastBalances.getLast? = some lastKey)
    (lastFound : ledger.accountAssetBalance.lookup lastKey = some (.withdrawable lastSlot))
    (listed : ledger.lastBalances.idxOf? key = some slot)
    (same : lastKey = key → lastSlot = slot) :
    (moveLastWithdrawable key slot).run ledger = .ok () { ledger with
      balances := fun other =>
        if other = lastSlot then .zero
        else if other = slot then
          { ledger.balances lastSlot with padding := (ledger.balances slot).padding }
        else ledger.balances other
      accountAssetBalance := ledger.accountAssetBalance.insert lastKey (.withdrawable slot)
      lastBalances := ledger.lastBalances.set slot lastKey } := by
  by_cases self : lastKey = key
  · have merged : (fun other => if other = lastSlot then AccountBalance.zero else
        if other = slot then
          { ledger.balances lastSlot with padding := (ledger.balances slot).padding }
        else ledger.balances other) =
        fun other => if other = lastSlot then .zero else ledger.balances other := by
      funext other
      split
      · rfl
      · rw [if_neg (same self ▸ ‹_›)]
    subst lastKey
    rw [merged]
    simp [moveLastWithdrawable, storeRecord, last, lastFound, listed]
  · simp [moveLastWithdrawable, storeRecord, last, lastFound, listed, self]

/-- Removing a withdrawable entry closes it. -/
theorem removeWithdrawable_run (store : ledger.Store config) {slot : ℕ}
    (found : ledger.accountAssetBalance.lookup key = some (.withdrawable slot))
    (member : ledger.laccidToAccount.lookup key.2 = some owner) :
    (removeWithdrawable key slot).run ledger =
      .ok () (ledger.closeWithdrawable key slot owner) := by
  have placed : ledger.driveSlot key = some slot := by
    simp [driveSlot, found, Balance.slot]
  have inside := store.withdrawables.slot_lt placed
  have counts := decrement_eq (store.counts_positive found member)
  have pops : 0 < ledger.lastBalances.length := by omega
  obtain ⟨lastKey, last, lastPlaced⟩ := store.withdrawables.last placed
  by_cases several : 1 < ledger.accountAssetBalance.size
  · obtain ⟨lastEntry, lastFound, lastSlot⟩ := Option.bind_eq_some_iff.mp lastPlaced
    cases lastEntry with
    | virtual pointer => simp [Balance.slot] at lastSlot
    | withdrawable last' =>
      simp only [Balance.slot, Option.some.injEq] at lastSlot
      subst last'
      have same : lastKey = key → ledger.lastBalances.length - 1 = slot := by
        rintro rfl
        simpa [found] using lastFound.symm
      have moved := moveLastWithdrawable_run last lastFound (store.withdrawables.idxOf? placed) same
      have stays : (ledger.accountAssetBalance.insert lastKey (.withdrawable slot)).lookup key ≠
          none := by
        rw [Finmap.lookup_insert_if]
        split <;> simp [found]
      simp [removeWithdrawable, member, several, moved, counts, popBack_eq, pops, eraseBalance,
        stays, closeWithdrawable, Slots.swapRemove, recount, last]
  · -- A single entry: its record is zeroed and nothing is moved.
    have single : ledger.lastBalances.length = 1 := by
      have := store.size_eq
      omega
    obtain ⟨only, one⟩ := List.length_eq_one_iff.mp single
    have listed := (store.withdrawables _ _).mpr placed
    have first : slot = 0 := by omega
    rw [one, first, List.getElem?_cons_zero, Option.some.injEq] at listed
    subst listed first
    have merged : (fun other => if other = 0 then AccountBalance.zero else if other = 0 then
        { ledger.balances 0 with padding := (ledger.balances 0).padding }
        else ledger.balances other) =
        fun other => if other = 0 then .zero else ledger.balances other := by
      funext other
      split <;> rfl
    simp [removeWithdrawable, storeRecord, member, several, one, popBack, eraseBalance, found,
      closeWithdrawable, counts, recount, Finmap.erase_insert_self, Slots.swapRemove, merged]

/-- Overwriting an entry keeps the store consistent. -/
theorem Store.overwrite (store : ledger.Store config) (entry : Balance) (balance : Amount) :
    (ledger.overwrite entry balance).Store config := by
  cases entry with
  | virtual pointer =>
    exact { store with
      aligned := (List.length_set ..).trans store.aligned }
  | withdrawable slot => exact { store with }

/-- Overwriting an entry makes no other entry dangle. -/
theorem stable_overwrite (entry : Balance) (balance : Amount) :
    (ledger.overwrite entry balance).Stable ↔ ledger.Stable := by
  cases entry with
  | virtual pointer =>
    refine forall_congr' fun key => forall_congr' fun other => ?_
    cases other <;> rfl
  | withdrawable slot =>
    refine forall_congr' fun key => forall_congr' fun other => ?_
    cases other <;> rfl

/-- A write through an entry that does not dangle. -/
theorem updateBalance_run (store : ledger.Store config) {entry : Balance}
    (found : ledger.accountAssetBalance.lookup key = some entry)
    (member : ledger.laccidToAccount.lookup key.2 = some owner) (balance : Amount) :
    (updateBalance key entry balance).run ledger = .ok ()
      (if isZero balance then (ledger.overwrite entry balance).close key entry owner
      else ledger.overwrite entry balance) ∨
    ¬ledger.Stable ∧ (updateBalance key entry balance).run ledger = .undefined := by
  have kept := store.overwrite entry balance
  cases entry with
  | virtual pointer =>
    have placed : ledger.virtualIndex key = some pointer.index := by
      simp [virtualIndex, found, Balance.index]
    have inside := store.virtuals.slot_lt placed
    rw [← store.aligned] at inside
    by_cases current : pointer.block = ledger.virtualBalances.block
    · have stored : (storeVirtual pointer balance).run ledger =
          .ok () (ledger.overwrite (.virtual pointer) balance) := by
        simp [storeVirtual, VirtualBalances.get?, current, List.getElem?_eq_getElem inside,
          Memory.overwrite]
      by_cases zero : isZero balance = true
      · rcases removeVirtual_run kept found current member with removed | ⟨unstable, undefined⟩
        · left
          simp [updateBalance, stored, zero, removed, close]
        · right
          refine ⟨fun stable => unstable ((stable_overwrite _ _).mpr stable), ?_⟩
          simp [updateBalance, stored, zero, undefined]
      · left
        simp [updateBalance, stored, zero]
    · right
      refine ⟨fun stable => current (stable _ _ found), ?_⟩
      simp [updateBalance, storeVirtual, VirtualBalances.get?, current]
  | withdrawable slot =>
    left
    have stored : (storeRecord slot fun record => { record with amount := balance }).run ledger =
        .ok () (ledger.overwrite (.withdrawable slot) balance) := rfl
    by_cases zero : isZero balance = true
    · have removed := removeWithdrawable_run kept found member
      simp [updateBalance, stored, zero, removed, close]
    · simp [updateBalance, stored, zero]

/-- Writing a balance of a registered asset and account: refused when there is no room for the
entry, undefined only when some entry dangles, and otherwise as `written` says. -/
theorem setAccountAssetBalance_run (store : ledger.Store config) {assetId : AssetId}
    {accountId : AccountId} (registered : ledger.lassidToAsset.lookup assetId = some asset)
    (member : ledger.laccidToAccount.lookup accountId = some owner) (balance : Amount) :
    (ledger.Full config (assetId, accountId) ∧
      (setAccountAssetBalance config assetId accountId balance).run ledger =
        .throw ⟨"Max balances reached", errorMaxBalancesReached⟩ ledger) ∨
    (¬ledger.Full config (assetId, accountId) ∧
      (setAccountAssetBalance config assetId accountId balance).run ledger =
        .ok () (ledger.written config (assetId, accountId) asset owner balance)) ∨
    ¬ledger.Stable ∧
      (setAccountAssetBalance config assetId accountId balance).run ledger = .undefined := by
  cases found : ledger.accountAssetBalance.lookup (assetId, accountId) with
  | none =>
    by_cases full : config.maxBalances ≤ ledger.accountAssetBalance.size
    · left
      refine ⟨⟨found, full⟩, ?_⟩
      simp [setAccountAssetBalance, found, createBalance, full]
    · right; left
      refine ⟨fun refused => full refused.2, ?_⟩
      have created := createBalance_run found (Nat.not_le.mp full) registered member balance
      simp [setAccountAssetBalance, found, created, written]
  | some entry =>
    right
    rcases updateBalance_run store found member balance with updated | ⟨unstable, undefined⟩
    · left
      refine ⟨fun refused => by simp [Full, found] at refused, ?_⟩
      simp [setAccountAssetBalance, found, updated, written]
    · right
      exact ⟨unstable, by simp [setAccountAssetBalance, found, undefined]⟩

end Runs

end Memory

end Libcma
