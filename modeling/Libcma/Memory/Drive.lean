import Libcma.Memory.Kept

/-!
# The account drive

Over a region of zero bytes, the record of a withdrawable balance is exactly what its asset, its
account and its amount say, and every record that is not in use is zero.
-/

namespace Libcma

namespace Memory

/-- The record of a balance: the fields its asset has, and zeros. -/
def recordOf (asset : Asset) (account : Account) (balance : Amount) : AccountBalance :=
  fillRecord asset account balance .zero

/-- The invariant of the account drive. -/
structure Drive (ledger : Memory) : Prop where
  /-- A record in use is the record of its balance. -/
  records : ∀ key slot asset account,
    ledger.accountAssetBalance.lookup key = some (.withdrawable slot) →
    ledger.lassidToAsset.lookup key.1 = some asset → ledger.account key.2 = some account →
    ledger.balances slot = recordOf asset account (ledger.balances slot).amount
  /-- A record that is not in use is zero. -/
  blank : ∀ slot, ledger.lastBalances.length ≤ slot → ledger.balances slot = .zero
  /-- The padding is zero everywhere. -/
  padded : ∀ slot, (ledger.balances slot).padding = zeros 20

variable {config : Config} {ledger : Memory} {key other : MapKey} {entry : Balance}
  {asset : Asset} {owner : AccountStruct} {balance : Amount}

/-- Filling a record keeps its padding. -/
theorem fillRecord_padding (asset : Asset) (account : Account) (balance : Amount)
    (record : AccountBalance) :
    (fillRecord asset account balance record).padding = record.padding := by
  unfold fillRecord
  split <;> rfl

/-- The amount of a record is the amount it is the record of. -/
theorem recordOf_amount (asset : Asset) (account : Account) (balance : Amount) :
    (recordOf asset account balance).amount = balance := fillRecord_amount asset account balance _

/-- Overwriting the amount of a record. -/
theorem recordOf_overwrite (asset : Asset) (account : Account) (old new : Amount) :
    { recordOf asset account old with amount := new } = recordOf asset account new := by
  unfold recordOf fillRecord
  cases asset.type <;> rfl

/-- Opening an entry keeps the drive. -/
theorem Drive.opened (drive : ledger.Drive) (slotted : ledger.Slotted)
    (registered : ledger.lassidToAsset.lookup key.1 = some asset)
    (member : ledger.laccidToAccount.lookup key.2 = some owner) (balance : Amount) :
    (ledger.opened config key asset owner balance).Drive := by
  have identity := account_recount member (owner.nBalances + 1)
  have fresh := drive.blank ledger.lastBalances.length (Nat.le_refl _)
  unfold Memory.opened
  split
  · refine ⟨?records, ?blank, ?padded⟩
    case records =>
      intro other slot asset' account' there registered' member'
      rw [openWithdrawable, Finmap.lookup_insert_if] at there
      have known : ledger.account other.2 = some account' := (identity other.2).symm.trans member'
      simp only [openWithdrawable] at there registered' ⊢
      split at there
      · rw [‹other = key›] at registered' known
        obtain rfl := Option.some.inj (registered.symm.trans registered')
        simp only [account, member, Option.map_some, Option.some.injEq] at known
        subst known
        obtain rfl := Balance.withdrawable.inj (Option.some.inj there)
        rw [if_pos rfl, fresh, fillRecord_amount]
        rfl
      · have inside := slotted.withdrawables.slot_lt (driveSlot_eq.mpr there)
        rw [if_neg (Nat.ne_of_lt inside)]
        exact drive.records other slot asset' account' there registered' known
    case blank =>
      intro slot beyond
      simp only [openWithdrawable, List.length_append, List.length_singleton] at beyond ⊢
      rw [if_neg (by omega)]
      exact drive.blank slot (by omega)
    case padded =>
      intro slot
      simp only [openWithdrawable]
      split
      · rw [fillRecord_padding]
        exact drive.padded _
      · exact drive.padded slot
  · refine ⟨fun other slot asset' account' there registered' member' => ?_, drive.blank,
      drive.padded⟩
    simp only [openVirtual, Finmap.lookup_insert_if] at there
    split at there
    · simp at there
    · exact drive.records other slot asset' account' there registered'
        ((identity other.2).symm.trans member')

/-- Overwriting an entry keeps the drive. -/
theorem Drive.overwrite (drive : ledger.Drive) (slotted : ledger.Slotted)
    (found : ledger.accountAssetBalance.lookup key = some entry) (balance : Amount) :
    (ledger.overwrite entry balance).Drive := by
  cases entry with
  | virtual pointer => exact ⟨drive.records, drive.blank, drive.padded⟩
  | withdrawable place =>
    refine ⟨?records, ?blank, ?padded⟩
    case records =>
      intro other slot asset' account' there registered' member'
      have record := drive.records other slot asset' account' there registered' member'
      simp only [Memory.overwrite]
      split
      · rw [‹slot = place›] at record
        rw [record, recordOf_overwrite, recordOf_amount]
      · exact record
    case blank =>
      intro slot beyond
      have inside := slotted.withdrawables.slot_lt (driveSlot_eq.mpr found)
      simp only [Memory.overwrite] at beyond ⊢
      rw [if_neg (by omega)]
      exact drive.blank slot beyond
    case padded =>
      intro slot
      simp only [Memory.overwrite]
      split
      · exact drive.padded place
      · exact drive.padded slot

/-- Closing an entry keeps the drive. -/
theorem Drive.close (drive : ledger.Drive) (slotted : ledger.Slotted)
    (found : ledger.accountAssetBalance.lookup key = some entry)
    (member : ledger.laccidToAccount.lookup key.2 = some owner) :
    (ledger.close key entry owner).Drive := by
  have identity := account_recount member (owner.nBalances - 1)
  cases entry with
  | virtual pointer =>
    obtain ⟨lastKey, last, lastPlaced⟩ :=
      slotted.virtuals.last (virtualIndex_eq.mpr ⟨pointer, found, rfl⟩)
    refine ⟨fun other slot asset' account' there registered' member' => ?_, drive.blank,
      drive.padded⟩
    simp only [Memory.close, closeVirtual, getLastD_eq last, Finmap.lookup_erase_if,
      Finmap.lookup_insert_if] at there
    split at there
    · contradiction
    · split at there
      · simp at there
      · exact drive.records other slot asset' account' there registered'
          ((identity other.2).symm.trans member')
  | withdrawable place =>
    have inside := slotted.withdrawables.slot_lt (driveSlot_eq.mpr found)
    have padded : ∀ slot,
        ((ledger.closeWithdrawable key place owner).balances slot).padding = zeros 20 := by
      intro slot
      simp only [closeWithdrawable]
      split
      · rfl
      · split
        · exact drive.padded place
        · exact drive.padded slot
    refine ⟨?records, ?blank, padded⟩
    case records =>
      intro other slot asset' account' there registered' member'
      simp only [Memory.close] at there registered' member' ⊢
      have different : other ≠ key := by
        rintro rfl
        simp [closeWithdrawable] at there
      -- The entry was at some slot before; its record has moved with it.
      obtain ⟨index, was⟩ : ∃ index, ledger.accountAssetBalance.lookup other =
          some (.withdrawable index) := by
        obtain ⟨lastKey, last, lastPlaced⟩ :=
          slotted.withdrawables.last (driveSlot_eq.mpr found)
        simp only [closeWithdrawable, getLastD_eq last, Finmap.lookup_erase_if, if_neg different,
          Finmap.lookup_insert_if] at there
        split at there
        · rw [‹other = lastKey›]
          exact ⟨_, driveSlot_eq.mp lastPlaced⟩
        · exact ⟨slot, there⟩
      obtain ⟨spot, moved, record⟩ := record_closeWithdrawable slotted found owner different was
      obtain rfl := Balance.withdrawable.inj (Option.some.inj (moved.symm.trans there))
      have unmoved : { ledger.balances index with padding := (ledger.balances spot).padding } =
          ledger.balances index := by
        rw [drive.padded spot, ← drive.padded index]
      rw [record, unmoved]
      exact drive.records other index asset' account' was registered'
        ((identity other.2).symm.trans member')
    case blank =>
      intro slot beyond
      simp only [Memory.close, closeWithdrawable, Slots.length_swapRemove] at beyond ⊢
      split
      · rfl
      · rw [if_neg (by omega)]
        exact drive.blank slot (by omega)

/-- A write keeps the drive. -/
theorem Drive.written (drive : ledger.Drive) (store : ledger.Store config) (key : MapKey)
    (registered : ledger.lassidToAsset.lookup key.1 = some asset)
    (member : ledger.laccidToAccount.lookup key.2 = some owner) (balance : Amount) :
    (ledger.written config key asset owner balance).Drive := by
  unfold Memory.written
  cases found : ledger.accountAssetBalance.lookup key with
  | none => exact drive.opened store.toSlotted registered member balance
  | some entry =>
    have kept := drive.overwrite store.toSlotted found balance
    have slotted := store.overwrite entry balance
    dsimp only
    split
    · have there : (ledger.overwrite entry balance).accountAssetBalance.lookup key =
          some entry := ledger.entries_overwrite entry balance ▸ found
      have present : (ledger.overwrite entry balance).laccidToAccount.lookup key.2 =
          some owner := ledger.accounts_overwrite entry balance ▸ member
      exact kept.close slotted.toSlotted there present
    · exact kept

end Memory

end Libcma
