import Libcma.Memory.Balances

/-!
# The balance store

What the two arrays, the two key lists and the entry map of a memory ledger say together, and the
three things `set_account_asset_balance` does to them: open an entry, overwrite its amount, close
it. `Store` is the invariant; it does not depend on the block a pointer names, so that it also
holds of ledgers with dangling pointers.
-/

namespace Libcma

open Exec

/-- The index an entry designates in `virtual_balances`. -/
def Balance.index : Balance → Option ℕ
  | .virtual pointer => some pointer.index
  | .withdrawable _ => none

/-- The record an entry designates in the account drive. -/
def Balance.slot : Balance → Option ℕ
  | .virtual _ => none
  | .withdrawable slot => some slot

namespace Memory

/-- Where the entry of a pair lies in `virtual_balances`. -/
def virtualIndex (ledger : Memory) (key : MapKey) : Option ℕ :=
  (ledger.accountAssetBalance.lookup key).bind Balance.index

/-- Where the entry of a pair lies in the account drive. -/
def driveSlot (ledger : Memory) (key : MapKey) : Option ℕ :=
  (ledger.accountAssetBalance.lookup key).bind Balance.slot

/-- The registered account of an id. -/
def account (ledger : Memory) (accountId : AccountId) : Option Account :=
  (ledger.laccidToAccount.lookup accountId).map AccountStruct.account

/-- The amount at the place of an entry, read in the current block at the index its pointer names.
For a pointer that dangles, that is the amount last written there, which the code cannot read. -/
def held (ledger : Memory) : Balance → Amount
  | .virtual pointer => ledger.virtualBalances.elems.getD pointer.index (zeros 32)
  | .withdrawable slot => (ledger.balances slot).amount

/-- The amount stored for a pair, in the sense of `held`; zero without an entry. -/
def stored (ledger : Memory) (key : MapKey) : Amount :=
  match ledger.accountAssetBalance.lookup key with
  | none => zeros 32
  | some entry => ledger.held entry

/-- The amount stored for an asset and an account. -/
def amount (ledger : Memory) (assetId : AssetId) (accountId : AccountId) : Amount :=
  ledger.stored (assetId, accountId)

/-- Overwrite the amount of an entry. -/
def overwrite (ledger : Memory) (entry : Balance) (balance : Amount) : Memory :=
  match entry with
  | .virtual pointer =>
    { ledger with virtualBalances := { ledger.virtualBalances with
        elems := ledger.virtualBalances.elems.set pointer.index balance } }
  | .withdrawable slot =>
    { ledger with balances := fun other =>
        if other = slot then { ledger.balances slot with amount := balance }
        else ledger.balances other }

/-- Overwriting an entry keeps the entry map. -/
theorem entries_overwrite (ledger : Memory) (entry : Balance) (balance : Amount) :
    (ledger.overwrite entry balance).accountAssetBalance = ledger.accountAssetBalance := by
  cases entry <;> rfl

/-- Overwriting an entry keeps the accounts. -/
theorem accounts_overwrite (ledger : Memory) (entry : Balance) (balance : Amount) :
    (ledger.overwrite entry balance).laccidToAccount = ledger.laccidToAccount := by
  cases entry <;> rfl

/-- Count one more, or one fewer, balance of an account. -/
def recount (ledger : Memory) (accountId : AccountId) (owner : AccountStruct) (count : ℕ) :
    Table AccountId AccountStruct :=
  ledger.laccidToAccount.insert accountId { owner with nBalances := count }

/-- Open a virtual entry. -/
def openVirtual (config : Config) (ledger : Memory) (key : MapKey) (owner : AccountStruct)
    (balance : Amount) : Memory :=
  let vector := ledger.virtualBalances.pushBack config balance
  { ledger with
    virtualBalances := vector
    lastVirtualBalances := ledger.lastVirtualBalances ++ [key]
    accountAssetBalance := ledger.accountAssetBalance.insert key
      (.virtual ⟨vector.block, ledger.virtualBalances.elems.length⟩)
    laccidToAccount := ledger.recount key.2 owner (owner.nBalances + 1) }

/-- Open a withdrawable entry. -/
def openWithdrawable (ledger : Memory) (key : MapKey) (asset : Asset) (owner : AccountStruct)
    (balance : Amount) : Memory :=
  let slot := ledger.lastBalances.length
  { ledger with
    balances := fun other =>
      if other = slot then fillRecord asset owner.account balance (ledger.balances slot)
      else ledger.balances other
    lastBalances := ledger.lastBalances ++ [key]
    accountAssetBalance := ledger.accountAssetBalance.insert key (.withdrawable slot)
    laccidToAccount := ledger.recount key.2 owner (owner.nBalances + 1) }

/-- Open the entry of a pair. -/
def opened (config : Config) (ledger : Memory) (key : MapKey) (asset : Asset)
    (owner : AccountStruct) (balance : Amount) : Memory :=
  if withdrawable asset owner.account then ledger.openWithdrawable key asset owner balance
  else ledger.openVirtual config key owner balance

/-- Close a virtual entry: the last one takes its place. -/
def closeVirtual (ledger : Memory) (key : MapKey) (pointer : VirtualPtr)
    (owner : AccountStruct) : Memory :=
  let lastKey := ledger.lastVirtualBalances.getLastD key
  let lastAmount := ledger.virtualBalances.elems.getLastD (zeros 32)
  { ledger with
    virtualBalances := { ledger.virtualBalances with
      elems := Slots.swapRemove ledger.virtualBalances.elems pointer.index lastAmount }
    lastVirtualBalances := Slots.swapRemove ledger.lastVirtualBalances pointer.index lastKey
    accountAssetBalance :=
      (ledger.accountAssetBalance.insert lastKey (.virtual pointer)).erase key
    laccidToAccount := ledger.recount key.2 owner (owner.nBalances - 1) }

/-- Close a withdrawable entry: the last record takes its place, all but the padding, and the last
slot is zeroed. -/
def closeWithdrawable (ledger : Memory) (key : MapKey) (slot : ℕ) (owner : AccountStruct) :
    Memory :=
  let lastKey := ledger.lastBalances.getLastD key
  let lastSlot := ledger.lastBalances.length - 1
  { ledger with
    balances := fun other =>
      if other = lastSlot then .zero
      else if other = slot then
        { ledger.balances lastSlot with padding := (ledger.balances slot).padding }
      else ledger.balances other
    lastBalances := Slots.swapRemove ledger.lastBalances slot lastKey
    accountAssetBalance :=
      (ledger.accountAssetBalance.insert lastKey (.withdrawable slot)).erase key
    laccidToAccount := ledger.recount key.2 owner (owner.nBalances - 1) }

/-- Close an entry. -/
def close (ledger : Memory) (key : MapKey) (entry : Balance) (owner : AccountStruct) : Memory :=
  match entry with
  | .virtual pointer => ledger.closeVirtual key pointer owner
  | .withdrawable slot => ledger.closeWithdrawable key slot owner

/-- The arrays, the key lists and the pointers of the entries fit together. -/
structure Slotted (ledger : Memory) : Prop where
  /-- Each virtual entry and its list position name each other. -/
  virtuals : Slots.Indexes ledger.lastVirtualBalances ledger.virtualIndex
  /-- Each withdrawable entry and its list position name each other. -/
  withdrawables : Slots.Indexes ledger.lastBalances ledger.driveSlot
  /-- There is one key for each virtual balance. -/
  aligned : ledger.virtualBalances.elems.length = ledger.lastVirtualBalances.length

/-- The entries fit together with the accounts and the assets. -/
structure Tallied (config : Config) (ledger : Memory) : Prop where
  /-- There are no more entries than allowed. -/
  limited : ledger.accountAssetBalance.size ≤ config.maxBalances
  /-- The account of an entry is registered. -/
  owned : ∀ key entry, ledger.accountAssetBalance.lookup key = some entry →
    ∃ owner, ledger.laccidToAccount.lookup key.2 = some owner
  /-- An account counts its entries. -/
  counted : ∀ accountId owner, ledger.laccidToAccount.lookup accountId = some owner →
    owner.nBalances = ledger.accountAssetBalance.countKeys (·.2 = accountId)
  /-- An entry is withdrawable exactly when its asset and account call for it. -/
  kinds : ∀ key entry asset owner, ledger.accountAssetBalance.lookup key = some entry →
    ledger.lassidToAsset.lookup key.1 = some asset →
    ledger.laccidToAccount.lookup key.2 = some owner →
    (entry.slot.isSome ↔ withdrawable asset owner.account)

/-- The invariant of the balance store. -/
structure Store (config : Config) (ledger : Memory) : Prop
    extends Slotted ledger, Tallied config ledger

end Memory

end Libcma
