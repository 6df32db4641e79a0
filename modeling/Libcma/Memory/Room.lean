import Libcma.Memory.Kept

/-!
# Entries, room and dangling

Which entries there are after a write, how many virtual balances, and when the block of
`virtual_balances` stays where it is.
-/

namespace Libcma

namespace Memory

variable {config : Config} {ledger : Memory} {key other : MapKey} {entry : Balance}
  {asset : Asset} {owner : AccountStruct} {balance : Amount}

/-- The number of virtual balances. -/
def virtualCount (ledger : Memory) : ℕ := ledger.virtualBalances.elems.length

/-- A write for the pair would open a virtual entry. -/
def OpensVirtual (ledger : Memory) (key : MapKey) (asset : Asset) (owner : AccountStruct) : Prop :=
  ledger.accountAssetBalance.lookup key = none ∧ ¬withdrawable asset owner.account

instance (ledger : Memory) (key : MapKey) (asset : Asset) (owner : AccountStruct) :
    Decidable (ledger.OpensVirtual key asset owner) := inferInstanceAs (Decidable (_ ∧ _))

/-- A write of zero for the pair would close a virtual entry. -/
def HoldsVirtual (ledger : Memory) (key : MapKey) : Prop := (ledger.virtualIndex key).isSome

instance (ledger : Memory) (key : MapKey) : Decidable (ledger.HoldsVirtual key) :=
  inferInstanceAs (Decidable (_ = _))

/-- An opened entry is found, and the others are what they were. -/
theorem lookup_opened (config : Config) (ledger : Memory) (key : MapKey) (asset : Asset)
    (owner : AccountStruct) (balance : Amount) :
    ∃ entry, (entry.slot.isSome ↔ withdrawable asset owner.account) ∧
      (ledger.opened config key asset owner balance).accountAssetBalance =
        ledger.accountAssetBalance.insert key entry := by
  unfold opened
  split
  · exact ⟨.withdrawable _, by simpa [Balance.slot], rfl⟩
  · exact ⟨.virtual _, by simpa [Balance.slot], rfl⟩

/-- A closed entry is gone; the last one of its array has moved, and keeps its kind. -/
theorem lookup_close (slotted : ledger.Slotted)
    (found : ledger.accountAssetBalance.lookup key = some entry) (owner : AccountStruct) :
    ∃ lastKey lastEntry moved, ledger.accountAssetBalance.lookup lastKey = some lastEntry ∧
      moved.slot.isSome = lastEntry.slot.isSome ∧
      (ledger.close key entry owner).accountAssetBalance =
        (ledger.accountAssetBalance.insert lastKey moved).erase key := by
  cases entry with
  | virtual pointer =>
    obtain ⟨lastKey, last, lastPlaced⟩ :=
      slotted.virtuals.last (virtualIndex_eq.mpr ⟨pointer, found, rfl⟩)
    obtain ⟨lastPointer, lastFound, -⟩ := virtualIndex_eq.mp lastPlaced
    refine ⟨lastKey, _, .virtual pointer, lastFound, rfl, ?_⟩
    simp only [Memory.close, closeVirtual, getLastD_eq last]
  | withdrawable slot =>
    obtain ⟨lastKey, last, lastPlaced⟩ := slotted.withdrawables.last (driveSlot_eq.mpr found)
    refine ⟨lastKey, _, .withdrawable slot, driveSlot_eq.mp lastPlaced, rfl, ?_⟩
    simp only [Memory.close, closeWithdrawable, getLastD_eq last]

/-- The kind of the entry of a pair, if it has one: whether it is withdrawable. -/
def kind (ledger : Memory) (key : MapKey) : Option Bool :=
  (ledger.accountAssetBalance.lookup key).map fun entry => entry.slot.isSome

/-- A pair without an entry has no kind. -/
theorem kind_eq_none : ledger.kind key = none ↔ ledger.accountAssetBalance.lookup key = none := by
  simp [kind]

/-- A closed entry has no kind any more; the others keep theirs. -/
theorem kind_close (slotted : ledger.Slotted)
    (found : ledger.accountAssetBalance.lookup key = some entry) (owner : AccountStruct)
    (other : MapKey) :
    (ledger.close key entry owner).kind other =
      if other = key then none else ledger.kind other := by
  obtain ⟨lastKey, lastEntry, moved, lastFound, same, entries⟩ := lookup_close slotted found owner
  simp only [kind, entries, Finmap.lookup_erase_if, Finmap.lookup_insert_if]
  split
  · rfl
  · split
    · rw [‹other = lastKey›, lastFound, Option.map_some, Option.map_some, same]
    · rfl

/-- After a write, a pair has the kind it had; a new entry has the kind its asset and account call
for, and a balance of zero is no entry unless it is new. -/
theorem kind_written (store : ledger.Store config) (key : MapKey) (asset : Asset)
    (owner : AccountStruct)
    (balance : Amount) (other : MapKey) :
    (ledger.written config key asset owner balance).kind other =
      if other = key then
        if ledger.accountAssetBalance.lookup key = none then
          some (decide (withdrawable asset owner.account))
        else if isZero balance then none else ledger.kind key
      else ledger.kind other := by
  unfold written
  cases found : ledger.accountAssetBalance.lookup key with
  | none =>
    obtain ⟨entry, called, entries⟩ := lookup_opened config ledger key asset owner balance
    simp only [kind, entries, Finmap.lookup_insert_if]
    split
    · simp only [Option.map_some, ↓reduceIte, Option.some.injEq]
      exact Bool.eq_iff_iff.mpr (called.trans decide_eq_true_iff.symm)
    · rfl
  | some entry =>
    have kept := store.overwrite entry balance
    have same := ledger.entries_overwrite entry balance
    have kinds (pair : MapKey) : (ledger.overwrite entry balance).kind pair = ledger.kind pair := by
      rw [kind, same]
      rfl
    simp only [reduceCtorEq, ↓reduceIte]
    by_cases zero : isZero balance = true
    · rw [if_pos zero, if_pos zero, kind_close kept.toSlotted (same ▸ found), kinds]
    · rw [if_neg zero, if_neg zero, kinds]
      split
      · rw [‹other = key›]
      · rfl

/-- Closing an entry removes one. -/
theorem size_close (slotted : ledger.Slotted)
    (found : ledger.accountAssetBalance.lookup key = some entry) (owner : AccountStruct) :
    (ledger.close key entry owner).accountAssetBalance.size =
      ledger.accountAssetBalance.size - 1 := by
  obtain ⟨lastKey, lastEntry, moved, lastFound, -, entries⟩ := lookup_close slotted found owner
  have stays : ∃ value, (ledger.accountAssetBalance.insert lastKey moved).lookup key =
      some value := by
    rw [Finmap.lookup_insert_if]
    split
    · exact ⟨_, rfl⟩
    · exact ⟨_, found⟩
  obtain ⟨value, stays⟩ := stays
  have erased := Finmap.size_erase stays
  rw [Finmap.size_insert_old moved lastFound] at erased
  rw [entries]
  omega

/-- How a write changes the number of entries. -/
theorem size_written (store : ledger.Store config) (key : MapKey) (asset : Asset)
    (owner : AccountStruct) (balance : Amount) :
    (ledger.written config key asset owner balance).accountAssetBalance.size =
      if ledger.accountAssetBalance.lookup key = none then ledger.accountAssetBalance.size + 1
      else if isZero balance then ledger.accountAssetBalance.size - 1
      else ledger.accountAssetBalance.size := by
  unfold written
  cases found : ledger.accountAssetBalance.lookup key with
  | none =>
    obtain ⟨entry, -, entries⟩ := lookup_opened config ledger key asset owner balance
    simp only [↓reduceIte, entries, Finmap.size_insert_new entry found]
  | some entry =>
    have kept := store.overwrite entry balance
    have same := ledger.entries_overwrite entry balance
    simp only [reduceCtorEq, ↓reduceIte]
    split
    · rw [size_close kept.toSlotted (same ▸ found), same]
    · rw [same]

/-- A write for a pair opens an entry, closes one, or does neither; this is how many virtual
balances there are afterwards. -/
theorem virtualCount_written (asset : Asset) (owner : AccountStruct) (balance : Amount) :
    (ledger.written config key asset owner balance).virtualCount =
      if ledger.OpensVirtual key asset owner then ledger.virtualCount + 1
      else if ledger.HoldsVirtual key ∧ isZero balance then ledger.virtualCount - 1
      else ledger.virtualCount := by
  unfold written
  cases found : ledger.accountAssetBalance.lookup key with
  | none =>
    have closed : ¬ledger.HoldsVirtual key := by simp [HoldsVirtual, virtualIndex, found]
    by_cases called : withdrawable asset owner.account
    · simp [OpensVirtual, closed, called, opened, openWithdrawable, virtualCount]
    · simp [OpensVirtual, found, called, opened, openVirtual, elems_pushBack, virtualCount]
  | some entry =>
    have old : ¬ledger.OpensVirtual key asset owner := by simp [OpensVirtual, found]
    cases entry with
    | virtual pointer =>
      have holds : ledger.HoldsVirtual key := by
        simp [HoldsVirtual, virtualIndex, found, Balance.index]
      by_cases zero : isZero balance = true
      · simp [old, holds, zero, close, closeVirtual, overwrite, Slots.length_swapRemove,
          virtualCount]
      · simp [old, zero, overwrite, virtualCount]
    | withdrawable slot =>
      have closed : ¬ledger.HoldsVirtual key := by
        simp [HoldsVirtual, virtualIndex, found, Balance.index]
      by_cases zero : isZero balance = true
      · simp [old, closed, zero, close, closeWithdrawable, overwrite, virtualCount]
      · simp [old, zero, overwrite, virtualCount]

/-- A write moves the virtual balances to a new block exactly when it opens one at full
capacity. -/
theorem block_written (config : Config) (ledger : Memory) (key : MapKey) (asset : Asset)
    (owner : AccountStruct) (balance : Amount) :
    (ledger.written config key asset owner balance).virtualBalances.block =
      if ledger.OpensVirtual key asset owner ∧
        ledger.virtualBalances.capacity ≤ ledger.virtualCount then
        ledger.virtualBalances.block + 1
      else ledger.virtualBalances.block := by
  unfold written
  cases found : ledger.accountAssetBalance.lookup key with
  | none =>
    by_cases called : withdrawable asset owner.account
    · simp [OpensVirtual, called, opened, openWithdrawable]
    · by_cases roomy : ledger.virtualBalances.elems.length < ledger.virtualBalances.capacity
      · simp [virtualCount, called, opened, openVirtual, VirtualBalances.pushBack, roomy,
          Nat.not_le.mpr roomy]
      · simp [OpensVirtual, virtualCount, found, called, opened, openVirtual,
          VirtualBalances.pushBack, roomy, Nat.not_lt.mp roomy]
  | some entry =>
    have old : ¬ledger.OpensVirtual key asset owner := by simp [OpensVirtual, found]
    by_cases zero : isZero balance = true
    · cases entry <;> simp [old, zero, close, closeVirtual, closeWithdrawable, overwrite]
    · cases entry <;> simp [old, zero, overwrite]

/-- A write that does not move the virtual balances keeps their capacity. -/
theorem capacity_written (asset : Asset) (owner : AccountStruct) (balance : Amount)
    (roomy : ledger.OpensVirtual key asset owner →
      ledger.virtualCount < ledger.virtualBalances.capacity) :
    (ledger.written config key asset owner balance).virtualBalances.capacity =
      ledger.virtualBalances.capacity := by
  unfold written
  unfold OpensVirtual virtualCount at roomy
  cases found : ledger.accountAssetBalance.lookup key with
  | none =>
    by_cases called : withdrawable asset owner.account
    · simp [opened, called, openWithdrawable]
    · simp [opened, called, openVirtual, VirtualBalances.pushBack, roomy ⟨found, called⟩]
  | some entry =>
    by_cases zero : isZero balance = true
    · cases entry <;> simp [zero, close, closeVirtual, closeWithdrawable, overwrite]
    · cases entry <;> simp [zero, overwrite]

/-- A write that does not move the virtual balances leaves nothing dangling. -/
theorem Stable.written (stable : ledger.Stable) (asset : Asset) (owner : AccountStruct)
    (balance : Amount) (roomy : ledger.OpensVirtual key asset owner →
      ledger.virtualCount < ledger.virtualBalances.capacity) :
    (ledger.written config key asset owner balance).Stable := by
  have block : (ledger.written config key asset owner balance).virtualBalances.block =
      ledger.virtualBalances.block := by
    rw [block_written, if_neg]
    rintro ⟨opens, full⟩
    exact Nat.not_le.mpr (roomy opens) full
  intro other present there
  cases present with
  | withdrawable slot => trivial
  | virtual pointer =>
    change pointer.block = _
    rw [block]
    revert there block
    unfold Memory.written
    cases found : ledger.accountAssetBalance.lookup key with
    | none =>
      dsimp only
      unfold opened
      split
      · intro block there
        simp only [openWithdrawable, Finmap.lookup_insert_if] at there
        split at there
        · simp at there
        · exact stable other _ there
      · intro block there
        simp only [openVirtual, Finmap.lookup_insert_if] at there
        split at there
        · obtain rfl := Balance.virtual.inj (Option.some.inj there)
          exact block
        · exact stable other _ there
    | some entry =>
      have current := stable key entry found
      dsimp only
      split
      · cases entry with
        | virtual place =>
          intro _ there
          simp only [close, closeVirtual, overwrite, Finmap.lookup_erase_if,
            Finmap.lookup_insert_if] at there
          split at there
          · contradiction
          · split at there
            · obtain rfl := Balance.virtual.inj (Option.some.inj there)
              exact current
            · exact stable other _ there
        | withdrawable place =>
          intro _ there
          simp only [close, closeWithdrawable, overwrite, Finmap.lookup_erase_if,
            Finmap.lookup_insert_if] at there
          split at there
          · contradiction
          · split at there
            · simp at there
            · exact stable other _ there
      · intro _ there
        have same := ledger.entries_overwrite entry balance
        exact stable other _ (same ▸ there)

end Memory

end Libcma
