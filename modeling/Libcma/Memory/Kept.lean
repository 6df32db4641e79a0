import Libcma.Memory.Writes

/-!
# What writes keep

A write keeps the store consistent, changes the amount of its own pair only, and leaves the
registry of assets and accounts alone.
-/

namespace Libcma

namespace Memory

/-- Two ledgers with the same assets, account identities, keys and counters. -/
structure SameRegistry (before after : Memory) : Prop where
  assets : after.lassidToAsset = before.lassidToAsset
  assetKeys : after.assetToLassid = before.assetToLassid
  accounts : ∀ accountId, after.account accountId = before.account accountId
  accountKeys : after.accountToLaccid = before.accountToLaccid
  nextAsset : after.nextAssetId = before.nextAssetId
  nextAccount : after.nextAccountId = before.nextAccountId
  baseId : after.baseAssetId = before.baseAssetId
  baseDefined : after.baseAssetIdDefined = before.baseAssetIdDefined

variable {config : Config} {ledger after : Memory} {key other : MapKey} {entry moved : Balance}
  {asset : Asset} {owner : AccountStruct} {balance : Amount}

/-- Counting an account's entries anew keeps the account. -/
theorem account_recount (member : ledger.laccidToAccount.lookup key.2 = some owner) (count : ℕ)
    (accountId : AccountId) :
    ((ledger.recount key.2 owner count).lookup accountId).map AccountStruct.account =
      ledger.account accountId := by
  rw [recount, Finmap.lookup_insert_if, account]
  split
  · rw [‹accountId = key.2›, member]
    rfl
  · rfl

section Tally

/-- A new entry, counted by its account. -/
theorem Tallied.enter (tallied : ledger.Tallied config) (entry : Balance)
    (absent : ledger.accountAssetBalance.lookup key = none)
    (room : ledger.accountAssetBalance.size < config.maxBalances)
    (registered : ledger.lassidToAsset.lookup key.1 = some asset)
    (member : ledger.laccidToAccount.lookup key.2 = some owner)
    (kind : entry.slot.isSome ↔ withdrawable asset owner.account)
    (assets : after.lassidToAsset = ledger.lassidToAsset)
    (entries : after.accountAssetBalance = ledger.accountAssetBalance.insert key entry)
    (accounts : after.laccidToAccount = ledger.recount key.2 owner (owner.nBalances + 1)) :
    after.Tallied config := by
  refine ⟨?limited, ?owned, ?counted, ?kinds⟩
  case limited =>
    rw [entries, Finmap.size_insert_new entry absent]
    exact room
  case owned =>
    intro other found present
    rw [accounts, recount, Finmap.lookup_insert_if]
    rw [entries, Finmap.lookup_insert_if] at present
    split
    · exact ⟨_, rfl⟩
    · rw [if_neg (by rintro rfl; contradiction)] at present
      exact tallied.owned other found present
  case counted =>
    intro accountId counter present
    rw [entries, Finmap.countKeys_insert_new _ entry absent]
    rw [accounts, recount, Finmap.lookup_insert_if] at present
    split at present
    · rw [← Option.some.inj present, if_pos (by rw [‹accountId = key.2›]),
        tallied.counted key.2 owner member, ‹accountId = key.2›]
    · rw [if_neg (Ne.symm ‹_›)]
      exact tallied.counted accountId counter present
  case kinds =>
    intro other found asset' owner' present registered' member'
    rw [assets] at registered'
    rw [entries, Finmap.lookup_insert_if] at present
    rw [accounts, recount, Finmap.lookup_insert_if] at member'
    split at present
    · rw [‹other = key›] at registered' member'
      rw [if_pos rfl, Option.some.injEq] at member'
      rw [registered, Option.some.injEq] at registered'
      rw [← Option.some.inj present, ← member', ← registered']
      exact kind
    · split at member'
      · rw [← Option.some.inj member']
        exact tallied.kinds other found asset' owner present registered' (by
          rw [‹other.2 = key.2›, member])
      · exact tallied.kinds other found asset' owner' present registered' member'

/-- An entry leaves and another takes its place; its account counts one fewer. -/
theorem Tallied.leave (tallied : ledger.Tallied config) {lastKey : MapKey} {lastEntry : Balance}
    (moved : Balance)
    (found : ledger.accountAssetBalance.lookup key = some entry)
    (lastFound : ledger.accountAssetBalance.lookup lastKey = some lastEntry)
    (kind : moved.slot.isSome = lastEntry.slot.isSome)
    (member : ledger.laccidToAccount.lookup key.2 = some owner)
    (assets : after.lassidToAsset = ledger.lassidToAsset)
    (entries : after.accountAssetBalance =
      (ledger.accountAssetBalance.insert lastKey moved).erase key)
    (accounts : after.laccidToAccount = ledger.recount key.2 owner (owner.nBalances - 1)) :
    after.Tallied config := by
  have stays : ∃ value, (ledger.accountAssetBalance.insert lastKey moved).lookup key =
      some value := by
    rw [Finmap.lookup_insert_if]
    split
    · exact ⟨_, rfl⟩
    · exact ⟨_, found⟩
  obtain ⟨value, stays⟩ := stays
  -- An entry after the removal was there before, with the same kind.
  have before : ∀ other present, after.accountAssetBalance.lookup other = some present →
      ∃ earlier, ledger.accountAssetBalance.lookup other = some earlier ∧
        present.slot.isSome = earlier.slot.isSome := by
    intro other present there
    rw [entries, Finmap.lookup_erase_if, Finmap.lookup_insert_if] at there
    split at there
    · contradiction
    · split at there
      · rw [‹other = lastKey›, ← Option.some.inj there]
        exact ⟨lastEntry, lastFound, kind⟩
      · exact ⟨present, there, rfl⟩
  refine ⟨?limited, ?owned, ?counted, ?kinds⟩
  case limited =>
    have erased := Finmap.size_erase stays
    rw [Finmap.size_insert_old moved lastFound] at erased
    have limited := tallied.limited
    rw [entries]
    omega
  case owned =>
    intro other present there
    obtain ⟨earlier, was, -⟩ := before other present there
    rw [accounts, recount, Finmap.lookup_insert_if]
    split
    · exact ⟨_, rfl⟩
    · exact tallied.owned other earlier was
  case counted =>
    intro accountId counter present
    have erased := Finmap.countKeys_erase (·.2 = accountId) stays
    rw [Finmap.countKeys_insert_old _ moved lastFound] at erased
    rw [entries]
    rw [accounts, recount, Finmap.lookup_insert_if] at present
    split at present
    · rw [if_pos (Eq.symm ‹_›)] at erased
      have counted := tallied.counted key.2 owner member
      rw [← ‹accountId = key.2›] at counted
      rw [← Option.some.inj present]
      dsimp only
      omega
    · rw [if_neg (Ne.symm ‹_›)] at erased
      have counted := tallied.counted accountId counter present
      omega
  case kinds =>
    intro other present asset' owner' there registered' member'
    obtain ⟨earlier, was, same⟩ := before other present there
    rw [assets] at registered'
    rw [accounts, recount, Finmap.lookup_insert_if] at member'
    rw [same]
    split at member'
    · rw [← Option.some.inj member']
      exact tallied.kinds other earlier asset' owner was registered' (by
        rw [‹other.2 = key.2›, member])
    · exact tallied.kinds other earlier asset' owner' was registered' member'

end Tally

section Slotting

/-- What an index says of an entry. -/
theorem virtualIndex_eq {index : ℕ} :
    ledger.virtualIndex key = some index ↔
      ∃ pointer : VirtualPtr, ledger.accountAssetBalance.lookup key = some (.virtual pointer) ∧
        pointer.index = index := by
  unfold virtualIndex
  constructor
  · intro placed
    obtain ⟨entry, found, indexed⟩ := Option.bind_eq_some_iff.mp placed
    cases entry with
    | virtual pointer => exact ⟨pointer, found, Option.some.inj indexed⟩
    | withdrawable slot => simp [Balance.index] at indexed
  · rintro ⟨pointer, found, rfl⟩
    rw [found]
    rfl

/-- What a slot says of an entry. -/
theorem driveSlot_eq {slot : ℕ} :
    ledger.driveSlot key = some slot ↔
      ledger.accountAssetBalance.lookup key = some (.withdrawable slot) := by
  unfold driveSlot
  constructor
  · intro placed
    obtain ⟨entry, found, slotted⟩ := Option.bind_eq_some_iff.mp placed
    cases entry with
    | virtual pointer => simp [Balance.slot] at slotted
    | withdrawable other => rw [found, ← Option.some.inj slotted]
  · intro found
    rw [found]
    rfl

/-- Opening a virtual entry. -/
theorem Slotted.openVirtual (slotted : ledger.Slotted)
    (absent : ledger.accountAssetBalance.lookup key = none) (owner : AccountStruct)
    (balance : Amount) : (ledger.openVirtual config key owner balance).Slotted := by
  have fresh : ledger.virtualIndex key = none := by simp [virtualIndex, absent]
  refine ⟨slotted.virtuals.push fresh fun other => ?_, ?_, ?_⟩
  · simp only [virtualIndex, Memory.openVirtual, Finmap.lookup_insert_if]
    split
    · simp [Balance.index, slotted.aligned]
    · rfl
  · have same : (ledger.openVirtual config key owner balance).driveSlot = ledger.driveSlot := by
      funext other
      simp only [driveSlot, Memory.openVirtual, Finmap.lookup_insert_if]
      split
      · rw [‹other = key›, absent]
        rfl
      · rfl
    rw [same]
    exact slotted.withdrawables
  · simp [Memory.openVirtual, elems_pushBack, slotted.aligned]

/-- Opening a withdrawable entry. -/
theorem Slotted.openWithdrawable (slotted : ledger.Slotted)
    (absent : ledger.accountAssetBalance.lookup key = none) (asset : Asset)
    (owner : AccountStruct) (balance : Amount) :
    (ledger.openWithdrawable key asset owner balance).Slotted := by
  have fresh : ledger.driveSlot key = none := by simp [driveSlot, absent]
  refine ⟨?_, slotted.withdrawables.push fresh fun other => ?_, slotted.aligned⟩
  · have same : (ledger.openWithdrawable key asset owner balance).virtualIndex =
        ledger.virtualIndex := by
      funext other
      simp only [virtualIndex, Memory.openWithdrawable, Finmap.lookup_insert_if]
      split
      · rw [‹other = key›, absent]
        rfl
      · rfl
    rw [same]
    exact slotted.virtuals
  · simp only [driveSlot, Memory.openWithdrawable, Finmap.lookup_insert_if]
    split <;> rfl

/-- The last key of a list that names a position. -/
theorem getLastD_eq {keys : List MapKey} {lastKey : MapKey} (last : keys.getLast? = some lastKey)
    (default : MapKey) : keys.getLastD default = lastKey := by
  rw [List.getLastD_eq_getLast?, last]
  rfl

/-- Closing a virtual entry. -/
theorem Slotted.closeVirtual (slotted : ledger.Slotted) {pointer : VirtualPtr}
    (found : ledger.accountAssetBalance.lookup key = some (.virtual pointer))
    (owner : AccountStruct) : (ledger.closeVirtual key pointer owner).Slotted := by
  have placed := virtualIndex_eq.mpr ⟨pointer, found, rfl⟩
  obtain ⟨lastKey, last, lastPlaced⟩ := slotted.virtuals.last placed
  refine ⟨?_, ?_, ?_⟩
  · simp only [Memory.closeVirtual, getLastD_eq last]
    refine slotted.virtuals.swapRemove placed last fun other => ?_
    simp only [virtualIndex, Finmap.lookup_erase_if, Finmap.lookup_insert_if]
    split
    · rfl
    · split <;> rfl
  · have same : (ledger.closeVirtual key pointer owner).driveSlot = ledger.driveSlot := by
      funext other
      simp only [driveSlot, Memory.closeVirtual, getLastD_eq last, Finmap.lookup_erase_if,
        Finmap.lookup_insert_if]
      split
      · rw [‹other = key›, found]
        rfl
      · split
        · obtain ⟨lastPointer, lastFound, -⟩ := virtualIndex_eq.mp lastPlaced
          rw [‹other = lastKey›, lastFound]
          rfl
        · rfl
    rw [same]
    exact slotted.withdrawables
  · simp only [Memory.closeVirtual, Slots.length_swapRemove, slotted.aligned]

/-- Closing a withdrawable entry. -/
theorem Slotted.closeWithdrawable (slotted : ledger.Slotted) {slot : ℕ}
    (found : ledger.accountAssetBalance.lookup key = some (.withdrawable slot))
    (owner : AccountStruct) : (ledger.closeWithdrawable key slot owner).Slotted := by
  have placed := driveSlot_eq.mpr found
  obtain ⟨lastKey, last, lastPlaced⟩ := slotted.withdrawables.last placed
  refine ⟨?_, ?_, slotted.aligned⟩
  · have same : (ledger.closeWithdrawable key slot owner).virtualIndex = ledger.virtualIndex := by
      funext other
      simp only [virtualIndex, Memory.closeWithdrawable, getLastD_eq last, Finmap.lookup_erase_if,
        Finmap.lookup_insert_if]
      split
      · rw [‹other = key›, found]
        rfl
      · split
        · rw [‹other = lastKey›, driveSlot_eq.mp lastPlaced]
          rfl
        · rfl
    rw [same]
    exact slotted.virtuals
  · simp only [Memory.closeWithdrawable, getLastD_eq last]
    refine slotted.withdrawables.swapRemove placed last fun other => ?_
    simp only [driveSlot, Finmap.lookup_erase_if, Finmap.lookup_insert_if]
    split
    · rfl
    · split <;> rfl

end Slotting

section Amounts

/-- The amount of a pair with an entry. -/
theorem stored_some (found : ledger.accountAssetBalance.lookup key = some entry) :
    ledger.stored key = ledger.held entry := by
  rw [stored, found]

/-- The amount of a pair without an entry. -/
theorem stored_none (absent : ledger.accountAssetBalance.lookup key = none) :
    ledger.stored key = zeros 32 := by
  rw [stored, absent]

/-- Opening a virtual entry sets its amount and no other. -/
theorem stored_openVirtual (slotted : ledger.Slotted) (owner : AccountStruct) (balance : Amount)
    (other : MapKey) :
    (ledger.openVirtual config key owner balance).stored other =
      if other = key then balance else ledger.stored other := by
  have entries := Finmap.lookup_insert_if ledger.accountAssetBalance key other
    (.virtual ⟨(ledger.virtualBalances.pushBack config balance).block,
      ledger.virtualBalances.elems.length⟩)
  split at entries
  · rw [stored_some entries, if_pos ‹_›]
    simp [held, Memory.openVirtual, elems_pushBack]
  · rw [if_neg ‹_›]
    cases there : ledger.accountAssetBalance.lookup other with
    | none => rw [stored_none (entries.trans there), stored_none there]
    | some entry =>
      rw [stored_some (entries.trans there), stored_some there]
      cases entry with
      | withdrawable slot => rfl
      | virtual pointer =>
        have inside := slotted.virtuals.slot_lt (virtualIndex_eq.mpr ⟨pointer, there, rfl⟩)
        rw [← slotted.aligned] at inside
        simp [held, Memory.openVirtual, elems_pushBack, List.getElem?_append_left inside]

/-- A filled record has the amount it was filled with. -/
theorem fillRecord_amount (asset : Asset) (account : Account) (balance : Amount)
    (record : AccountBalance) : (fillRecord asset account balance record).amount = balance := by
  unfold fillRecord
  split <;> rfl

/-- Opening a withdrawable entry sets its amount and no other. -/
theorem stored_openWithdrawable (slotted : ledger.Slotted) (asset : Asset)
    (owner : AccountStruct) (balance : Amount) (other : MapKey) :
    (ledger.openWithdrawable key asset owner balance).stored other =
      if other = key then balance else ledger.stored other := by
  have entries := Finmap.lookup_insert_if ledger.accountAssetBalance key other
    (.withdrawable ledger.lastBalances.length)
  split at entries
  · rw [stored_some entries, if_pos ‹_›]
    simp [held, Memory.openWithdrawable, fillRecord_amount]
  · rw [if_neg ‹_›]
    cases there : ledger.accountAssetBalance.lookup other with
    | none => rw [stored_none (entries.trans there), stored_none there]
    | some entry =>
      rw [stored_some (entries.trans there), stored_some there]
      cases entry with
      | virtual pointer => rfl
      | withdrawable slot =>
        have inside := slotted.withdrawables.slot_lt (driveSlot_eq.mpr there)
        simp [held, Memory.openWithdrawable, Nat.ne_of_lt inside]

/-- Overwriting an entry sets its amount and no other. -/
theorem stored_overwrite (slotted : ledger.Slotted)
    (found : ledger.accountAssetBalance.lookup key = some entry) (balance : Amount)
    (other : MapKey) :
    (ledger.overwrite entry balance).stored other =
      if other = key then balance else ledger.stored other := by
  have entries := ledger.entries_overwrite entry balance
  by_cases same : other = key
  · subst other
    rw [if_pos rfl, stored_some (entries ▸ found)]
    cases entry with
    | withdrawable slot => simp [held, overwrite]
    | virtual pointer =>
      have inside := slotted.virtuals.slot_lt (virtualIndex_eq.mpr ⟨pointer, found, rfl⟩)
      rw [← slotted.aligned] at inside
      simp [held, overwrite, inside]
  · rw [if_neg same]
    cases there : ledger.accountAssetBalance.lookup other with
    | none => rw [stored_none (entries ▸ there), stored_none there]
    | some present =>
      rw [stored_some (entries ▸ there), stored_some there]
      cases entry with
      | withdrawable slot =>
        cases present with
        | virtual pointer => rfl
        | withdrawable slot' =>
          have apart : slot' ≠ slot := fun equal => same
            (slotted.withdrawables.unique (driveSlot_eq.mpr there)
              (equal ▸ driveSlot_eq.mpr found))
          simp [held, overwrite, apart]
      | virtual pointer =>
        cases present with
        | withdrawable slot => rfl
        | virtual pointer' =>
          have apart : pointer.index ≠ pointer'.index := fun equal => same
            (slotted.virtuals.unique (virtualIndex_eq.mpr ⟨pointer', there, rfl⟩)
              (virtualIndex_eq.mpr ⟨pointer, found, equal⟩))
          simp [held, overwrite, List.getElem?_set_ne apart]

/-- Closing a virtual entry forgets its amount and no other. -/
theorem stored_closeVirtual (slotted : ledger.Slotted) {pointer : VirtualPtr}
    (found : ledger.accountAssetBalance.lookup key = some (.virtual pointer))
    (owner : AccountStruct) (other : MapKey) :
    (ledger.closeVirtual key pointer owner).stored other =
      if other = key then zeros 32 else ledger.stored other := by
  have placed := virtualIndex_eq.mpr ⟨pointer, found, rfl⟩
  have inside := slotted.virtuals.slot_lt placed
  obtain ⟨lastKey, last, lastPlaced⟩ := slotted.virtuals.last placed
  have entries : (ledger.closeVirtual key pointer owner).accountAssetBalance.lookup other =
      if other = key then none else if other = lastKey then some (.virtual pointer)
      else ledger.accountAssetBalance.lookup other := by
    simp only [Memory.closeVirtual, getLastD_eq last, Finmap.lookup_erase_if,
      Finmap.lookup_insert_if]
  by_cases same : other = key
  · rw [if_pos same] at entries ⊢
    exact stored_none entries
  rw [if_neg same] at entries ⊢
  have lastElem : ledger.virtualBalances.elems[ledger.lastVirtualBalances.length - 1]? =
      some (ledger.virtualBalances.elems.getLastD (zeros 32)) := by
    rw [← slotted.aligned, List.getLastD_eq_getLast?, List.getLast?_eq_getElem?,
      List.getElem?_eq_getElem (by rw [slotted.aligned]; omega), Option.getD_some]
  -- A virtual entry that stays reads at its new index what it read at the old one.
  have reads : ∀ index, ledger.virtualIndex other = some index →
      (ledger.closeVirtual key pointer owner).virtualBalances.elems[
        if other = lastKey then pointer.index else index]? =
        ledger.virtualBalances.elems[index]? := fun index held =>
    slotted.virtuals.getElem?_swapRemove placed last slotted.aligned lastElem same held
  by_cases shifted : other = lastKey
  · subst other
    rw [if_pos rfl] at entries
    obtain ⟨lastPointer, lastFound, lastIndex⟩ := virtualIndex_eq.mp lastPlaced
    have read := reads _ (virtualIndex_eq.mpr ⟨lastPointer, lastFound, rfl⟩)
    rw [if_pos rfl] at read
    rw [stored_some entries, stored_some lastFound]
    simp only [held, List.getD_eq_getElem?_getD, read]
  · rw [if_neg shifted] at entries
    cases there : ledger.accountAssetBalance.lookup other with
    | none => rw [stored_none (entries.trans there), stored_none there]
    | some present =>
      rw [stored_some (entries.trans there), stored_some there]
      cases present with
      | withdrawable slot => rfl
      | virtual pointer' =>
        have read := reads _ (virtualIndex_eq.mpr ⟨pointer', there, rfl⟩)
        rw [if_neg shifted] at read
        simp only [held, List.getD_eq_getElem?_getD, read]

/-- The record of a withdrawable entry that stays is the one it had, but for the padding. -/
theorem record_closeWithdrawable (slotted : ledger.Slotted) {slot : ℕ}
    (found : ledger.accountAssetBalance.lookup key = some (.withdrawable slot))
    (owner : AccountStruct) {index : ℕ} (different : other ≠ key)
    (there : ledger.accountAssetBalance.lookup other = some (.withdrawable index)) :
    ∃ place, (ledger.closeWithdrawable key slot owner).accountAssetBalance.lookup other =
        some (.withdrawable place) ∧
      (ledger.closeWithdrawable key slot owner).balances place =
        { ledger.balances index with padding := (ledger.balances place).padding } := by
  have placed := driveSlot_eq.mpr found
  have held := driveSlot_eq.mpr there
  have inside := slotted.withdrawables.slot_lt placed
  have bound := slotted.withdrawables.slot_lt held
  obtain ⟨lastKey, last, lastPlaced⟩ := slotted.withdrawables.last placed
  have apart : slot ≠ index := fun equal =>
    different (slotted.withdrawables.unique held (equal ▸ placed))
  by_cases shifted : other = lastKey
  · subst other
    rw [held, Option.some.injEq] at lastPlaced
    refine ⟨slot, ?_, ?_⟩
    · simp only [Memory.closeWithdrawable, getLastD_eq last, Finmap.lookup_erase_if,
        Finmap.lookup_insert_if, if_neg different, ↓reduceIte]
    · simp only [Memory.closeWithdrawable, ← lastPlaced, if_neg apart, ↓reduceIte]
  · have notLast : index ≠ ledger.lastBalances.length - 1 := fun equal =>
      shifted (slotted.withdrawables.unique held (equal ▸ lastPlaced))
    refine ⟨index, ?_, ?_⟩
    · simp only [Memory.closeWithdrawable, getLastD_eq last, Finmap.lookup_erase_if,
        Finmap.lookup_insert_if, if_neg different, if_neg shifted, there]
    · simp only [Memory.closeWithdrawable, if_neg notLast, if_neg apart.symm]

/-- Closing a withdrawable entry forgets its amount and no other. -/
theorem stored_closeWithdrawable (slotted : ledger.Slotted) {slot : ℕ}
    (found : ledger.accountAssetBalance.lookup key = some (.withdrawable slot))
    (owner : AccountStruct) (other : MapKey) :
    (ledger.closeWithdrawable key slot owner).stored other =
      if other = key then zeros 32 else ledger.stored other := by
  obtain ⟨lastKey, last, lastPlaced⟩ := slotted.withdrawables.last (driveSlot_eq.mpr found)
  have entries : (ledger.closeWithdrawable key slot owner).accountAssetBalance.lookup other =
      if other = key then none else if other = lastKey then some (.withdrawable slot)
      else ledger.accountAssetBalance.lookup other := by
    simp only [Memory.closeWithdrawable, getLastD_eq last, Finmap.lookup_erase_if,
      Finmap.lookup_insert_if]
  by_cases same : other = key
  · rw [if_pos same] at entries ⊢
    exact stored_none entries
  rw [if_neg same] at entries ⊢
  cases there : ledger.accountAssetBalance.lookup other with
  | none =>
    have stays : other ≠ lastKey := by
      rintro rfl
      rw [driveSlot_eq.mp lastPlaced] at there
      contradiction
    rw [if_neg stays] at entries
    rw [stored_none (entries.trans there), stored_none there]
  | some present =>
    cases present with
    | virtual pointer =>
      have stays : other ≠ lastKey := by
        rintro rfl
        simp [driveSlot_eq.mp lastPlaced] at there
      rw [if_neg stays] at entries
      rw [stored_some (entries.trans there), stored_some there]
      rfl
    | withdrawable index =>
      obtain ⟨place, moved, record⟩ := record_closeWithdrawable slotted found owner same there
      rw [stored_some moved, stored_some there, held, record]
      rfl

end Amounts

section Written

/-- Closing an entry keeps the store consistent. -/
theorem Store.close (store : ledger.Store config)
    (found : ledger.accountAssetBalance.lookup key = some entry)
    (member : ledger.laccidToAccount.lookup key.2 = some owner) :
    (ledger.close key entry owner).Store config := by
  cases entry with
  | virtual pointer =>
    obtain ⟨lastKey, last, lastPlaced⟩ :=
      store.virtuals.last (virtualIndex_eq.mpr ⟨pointer, found, rfl⟩)
    obtain ⟨lastPointer, lastFound, -⟩ := virtualIndex_eq.mp lastPlaced
    refine ⟨store.toSlotted.closeVirtual found owner,
      store.toTallied.leave (.virtual pointer) found lastFound rfl member rfl ?_ rfl⟩
    simp only [Memory.close, closeVirtual, getLastD_eq last]
  | withdrawable slot =>
    obtain ⟨lastKey, last, lastPlaced⟩ := store.withdrawables.last (driveSlot_eq.mpr found)
    refine ⟨store.toSlotted.closeWithdrawable found owner, store.toTallied.leave
      (.withdrawable slot) found (driveSlot_eq.mp lastPlaced) rfl member rfl ?_ rfl⟩
    simp only [Memory.close, closeWithdrawable, getLastD_eq last]

/-- Opening an entry keeps the store consistent. -/
theorem Store.opened (store : ledger.Store config)
    (absent : ledger.accountAssetBalance.lookup key = none)
    (room : ledger.accountAssetBalance.size < config.maxBalances)
    (registered : ledger.lassidToAsset.lookup key.1 = some asset)
    (member : ledger.laccidToAccount.lookup key.2 = some owner) (balance : Amount) :
    (ledger.opened config key asset owner balance).Store config := by
  unfold Memory.opened
  split
  · exact ⟨store.toSlotted.openWithdrawable absent asset owner balance,
      store.toTallied.enter (.withdrawable _) absent room registered member
        (by simpa [Balance.slot]) rfl rfl rfl⟩
  · exact ⟨store.toSlotted.openVirtual absent owner balance,
      store.toTallied.enter (.virtual _) absent room registered member
        (by simpa [Balance.slot]) rfl rfl rfl⟩

/-- A write that is not refused keeps the store consistent. -/
theorem Store.written (store : ledger.Store config) (room : ¬ledger.Full config key)
    (registered : ledger.lassidToAsset.lookup key.1 = some asset)
    (member : ledger.laccidToAccount.lookup key.2 = some owner) (balance : Amount) :
    (ledger.written config key asset owner balance).Store config := by
  unfold Memory.written
  cases found : ledger.accountAssetBalance.lookup key with
  | none =>
    exact store.opened found (Nat.not_le.mp fun full => room ⟨found, full⟩) registered member
      balance
  | some entry =>
    have kept := store.overwrite entry balance
    dsimp only
    split
    · have there : (ledger.overwrite entry balance).accountAssetBalance.lookup key =
          some entry := ledger.entries_overwrite entry balance ▸ found
      have present : (ledger.overwrite entry balance).laccidToAccount.lookup key.2 =
          some owner := ledger.accounts_overwrite entry balance ▸ member
      exact kept.close there present
    · exact kept

/-- The amount of a pair after its entry is closed. -/
theorem stored_close (slotted : ledger.Slotted)
    (found : ledger.accountAssetBalance.lookup key = some entry) (owner : AccountStruct)
    (other : MapKey) :
    (ledger.close key entry owner).stored other =
      if other = key then zeros 32 else ledger.stored other := by
  cases entry with
  | virtual pointer => exact stored_closeVirtual slotted found owner other
  | withdrawable slot => exact stored_closeWithdrawable slotted found owner other

/-- A write changes the amount of its own pair and no other. -/
theorem stored_written (store : ledger.Store config) (key : MapKey) (asset : Asset)
    (owner : AccountStruct) (balance : Amount) (other : MapKey) :
    (ledger.written config key asset owner balance).stored other =
      if other = key then balance else ledger.stored other := by
  unfold Memory.written
  cases found : ledger.accountAssetBalance.lookup key with
  | none =>
    dsimp only
    unfold opened
    split
    · exact stored_openWithdrawable store.toSlotted asset owner balance other
    · exact stored_openVirtual store.toSlotted owner balance other
  | some entry =>
    have kept := store.overwrite entry balance
    dsimp only
    split
    · have there : (ledger.overwrite entry balance).accountAssetBalance.lookup key =
          some entry := ledger.entries_overwrite entry balance ▸ found
      rw [stored_close kept.toSlotted there, stored_overwrite store.toSlotted found]
      split
      · rename_i zero _
        rw [isZero, decide_eq_true_eq] at zero
        exact zero.symm
      · rfl
    · exact stored_overwrite store.toSlotted found balance other

/-- A write keeps the registry. -/
theorem sameRegistry_written (config : Config) (key : MapKey)
    (member : ledger.laccidToAccount.lookup key.2 = some owner) (asset : Asset)
    (balance : Amount) :
    SameRegistry ledger (ledger.written config key asset owner balance) := by
  have counts (count : ℕ) := account_recount member count
  unfold Memory.written
  cases ledger.accountAssetBalance.lookup key with
  | none =>
    dsimp only
    unfold opened
    split <;> exact ⟨rfl, rfl, counts _, rfl, rfl, rfl, rfl, rfl⟩
  | some entry =>
    dsimp only
    split
    · cases entry <;> exact ⟨rfl, rfl, counts _, rfl, rfl, rfl, rfl, rfl⟩
    · cases entry <;> exact ⟨rfl, rfl, fun _ => rfl, rfl, rfl, rfl, rfl, rfl⟩

end Written

end Memory

end Libcma
