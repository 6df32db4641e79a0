import Libcma.Memory.Accounts

/-!
# Balances of the memory ledger

`get_account_asset_balance` and `set_account_asset_balance` of `cma_ledger_memory`, and the balance
operations over them. A balance entry is created on the first write, overwritten by later ones and
removed by a write of zero: the last slot of its array then moves into the slot that is freed.
-/

namespace Libcma

open Exec

/-- The element a pointer designates; none when the pointer dangles. -/
def VirtualBalances.get? (vector : VirtualBalances) (pointer : VirtualPtr) : Option Amount :=
  if pointer.block = vector.block then vector.elems[pointer.index]? else none

namespace Memory

/-- The amount a balance entry points to; none when its pointer dangles. -/
def load (ledger : Memory) : Balance → Option Amount
  | .virtual pointer => ledger.virtualBalances.get? pointer
  | .withdrawable slot => some (ledger.balances slot).amount

/-- The balance `get_account_asset_balance` reports; none when the entry's pointer dangles. -/
def balanceOf (ledger : Memory) (assetId : AssetId) (accountId : AccountId) : Option Amount :=
  match ledger.accountAssetBalance.lookup (assetId, accountId) with
  | none => some (zeros 32)
  | some entry => ledger.load entry

/-- The record `get_account_asset_balance` describes. The index and the offset are left alone when
there is none. -/
def describe (config : Config) (ledger : Memory) (key : MapKey) (info : BalanceInfo) :
    BalanceInfo :=
  match ledger.accountAssetBalance.lookup key with
  | some (.withdrawable slot) => ⟨slot * AccountBalance.size + config.memOffset, slot, some slot⟩
  | _ => { info with balance := none }

/-- `get_account_asset_balance`. -/
def getAccountAssetBalance (config : Config) (assetId : AssetId) (accountId : AccountId) :
    Exec CmaException (Memory × Option Amount × Option BalanceInfo) Unit := do
  let (ledger, balance, _) ← read
  if balance.isSome then
    let amount ← orUndefined (ledger.balanceOf assetId accountId)
    update fun (ledger, _, info) => (ledger, some amount, info)
  update fun (ledger, balance, info) =>
    (ledger, balance, info.map (ledger.describe config (assetId, accountId)))

/-- Write through a pointer into `virtual_balances`. -/
def storeVirtual (pointer : VirtualPtr) (amount : Amount) : Exec CmaException Memory Unit := do
  let _ ← orUndefined ((← read).virtualBalances.get? pointer)
  update fun ledger => { ledger with virtualBalances := { ledger.virtualBalances with
    elems := ledger.virtualBalances.elems.set pointer.index amount } }

/-- Rewrite a record of the account drive. -/
def storeRecord (slot : ℕ) (change : AccountBalance → AccountBalance) :
    Exec CmaException Memory Unit :=
  update fun ledger => { ledger with
    balances := fun other =>
      if other = slot then change (ledger.balances slot) else ledger.balances other }

/-- The fields of a record that are written when a withdrawable balance is created. -/
def fillRecord (asset : Asset) (account : Account) (balance : Amount) (record : AccountBalance) :
    AccountBalance :=
  let filled := { record with
    type := asset.type.code, owner := accountAddress account.accountId, amount := balance }
  match asset.type with
  | .id | .base => filled
  | .tokenAddress => { filled with tokenAddress := asset.tokenAddress }
  | .tokenAddressId | .tokenAddressIdAmount =>
    { filled with tokenAddress := asset.tokenAddress, tokenId := asset.tokenId }

/-- The balance type a new entry gets: withdrawable for a wallet and an asset that is not of type
`id`. -/
def withdrawable (asset : Asset) (account : Account) : Prop :=
  asset.type ≠ .id ∧ account.type = .walletAddress

instance (asset : Asset) (account : Account) : Decidable (withdrawable asset account) :=
  inferInstanceAs (Decidable (_ ∧ _))

/-- Append a virtual balance; the pointer to it. -/
def createVirtual (config : Config) (key : MapKey) (balance : Amount) :
    Exec CmaException Memory Balance := do
  update fun ledger => { ledger with
    virtualBalances := ledger.virtualBalances.pushBack config balance
    lastVirtualBalances := ledger.lastVirtualBalances ++ [key] }
  let vector := (← read).virtualBalances
  pure (.virtual ⟨vector.block, vector.elems.length - 1⟩)

/-- Fill the next record of the account drive; the pointer to it. -/
def createWithdrawable (key : MapKey) (asset : Asset) (account : Account) (balance : Amount) :
    Exec CmaException Memory Balance := do
  let newIndex := (← read).lastBalances.length
  storeRecord newIndex (fillRecord asset account balance)
  update fun ledger => { ledger with lastBalances := ledger.lastBalances ++ [key] }
  pure (.withdrawable newIndex)

/-- The branch of `set_account_asset_balance` for a pair without an entry. -/
def createBalance (config : Config) (key : MapKey) (balance : Amount) :
    Exec CmaException Memory Unit := do
  let ledger ← read
  refuseIf (config.maxBalances ≤ ledger.accountAssetBalance.size)
    ⟨"Max balances reached", errorMaxBalancesReached⟩
  let asset ← orRaise (ledger.lassidToAsset.lookup key.1)
    ⟨"Asset by id not found", errorAssetNotFound⟩
  let owner ← orRaise (ledger.laccidToAccount.lookup key.2)
    ⟨"Account by id not found", errorAccountNotFound⟩
  let entry ←
    if withdrawable asset owner.account then createWithdrawable key asset owner.account balance
    else createVirtual config key balance
  refuseIf ((← read).accountAssetBalance.lookup key).isSome
    ⟨"Balance already exists", errorInsertion⟩
  update fun ledger => { ledger with
    accountAssetBalance := ledger.accountAssetBalance.insert key entry
    laccidToAccount := ledger.laccidToAccount.insert key.2
      { owner with nBalances := owner.nBalances + 1 } }

/-- `n_balances--` on a 64-bit counter. -/
def decrement (count : ℕ) : ℕ := if count = 0 then 2 ^ 64 - 1 else count - 1

/-- Remove the last element of a list; undefined when it is empty. -/
def popBack {α : Type} (list : List α) : Option (List α) :=
  if list.isEmpty then none else some list.dropLast

/-- Erase an entry. -/
def eraseBalance (key : MapKey) (message : String) : Exec CmaException Memory Unit := do
  refuseIf ((← read).accountAssetBalance.lookup key).isNone ⟨message, errorRemove⟩
  update fun ledger => { ledger with
    accountAssetBalance := ledger.accountAssetBalance.erase key }

/-- Copy the last virtual balance to the position of another and point its entry there. -/
def moveLastVirtual (key : MapKey) (pointer : VirtualPtr) : Exec CmaException Memory Unit := do
  let ledger ← read
  let lastKey ← orRaise ledger.lastVirtualBalances.getLast?
    ⟨"Last virtual balance key not found", errorBalanceNotFound⟩
  let lastEntry ← orRaise (ledger.accountAssetBalance.lookup lastKey)
    ⟨"Last virtual balance not found", errorBalanceNotFound⟩
  let position ← orRaise (ledger.lastVirtualBalances.idxOf? key)
    ⟨"Coundn't find current virtual balance", errorBalanceNotFound⟩
  let lastAmount ← orUndefined (match lastEntry with
    | .virtual lastPointer => ledger.virtualBalances.get? lastPointer
    | .withdrawable _ => none)
  storeVirtual pointer lastAmount
  update fun ledger => { ledger with
    accountAssetBalance := ledger.accountAssetBalance.insert lastKey (.virtual pointer)
    lastVirtualBalances := ledger.lastVirtualBalances.set position lastKey }

/-- Remove a virtual balance whose amount is zero. -/
def removeVirtual (key : MapKey) (pointer : VirtualPtr) : Exec CmaException Memory Unit := do
  let ledger ← read
  let owner ← orRaise (ledger.laccidToAccount.lookup key.2)
    ⟨"Account by id not found", errorAccountNotFound⟩
  if 1 < ledger.accountAssetBalance.size then moveLastVirtual key pointer
  update fun ledger => { ledger with
    laccidToAccount := ledger.laccidToAccount.insert key.2
      { owner with nBalances := decrement owner.nBalances } }
  let keys ← orUndefined (popBack (← read).lastVirtualBalances)
  let elems ← orUndefined (popBack (← read).virtualBalances.elems)
  update fun ledger => { ledger with
    lastVirtualBalances := keys
    virtualBalances := { ledger.virtualBalances with elems := elems } }
  eraseBalance key "Coundn't erase virtual balance"

/-- Copy the last record of the account drive to the slot of another, zero the last slot and point
its entry to the new one. The padding is not copied. -/
def moveLastWithdrawable (key : MapKey) (slot : ℕ) : Exec CmaException Memory Unit := do
  let ledger ← read
  let lastKey ← orRaise ledger.lastBalances.getLast?
    ⟨"Last balance key not found", errorBalanceNotFound⟩
  let lastEntry ← orRaise (ledger.accountAssetBalance.lookup lastKey)
    ⟨"Last balance not found", errorBalanceNotFound⟩
  let position ← orRaise (ledger.lastBalances.idxOf? key)
    ⟨"Coundn't find current balance", errorBalanceNotFound⟩
  let lastSlot ← orUndefined (match lastEntry with
    | .virtual _ => none
    | .withdrawable lastSlot => some lastSlot)
  if lastKey ≠ key then
    storeRecord slot fun record =>
      { ledger.balances lastSlot with padding := record.padding }
  storeRecord lastSlot fun _ => .zero
  update fun ledger => { ledger with
    accountAssetBalance := ledger.accountAssetBalance.insert lastKey (.withdrawable slot)
    lastBalances := ledger.lastBalances.set position lastKey }

/-- Remove a withdrawable balance whose amount is zero. -/
def removeWithdrawable (key : MapKey) (slot : ℕ) : Exec CmaException Memory Unit := do
  let ledger ← read
  let owner ← orRaise (ledger.laccidToAccount.lookup key.2)
    ⟨"Account by id not found", errorAccountNotFound⟩
  if 1 < ledger.accountAssetBalance.size then moveLastWithdrawable key slot
  else storeRecord slot fun _ => .zero
  update fun ledger => { ledger with
    laccidToAccount := ledger.laccidToAccount.insert key.2
      { owner with nBalances := decrement owner.nBalances } }
  let keys ← orUndefined (popBack (← read).lastBalances)
  update fun ledger => { ledger with lastBalances := keys }
  eraseBalance key "Coundn't erase balance"

/-- The branch of `set_account_asset_balance` for a pair with an entry. -/
def updateBalance (key : MapKey) (entry : Balance) (balance : Amount) :
    Exec CmaException Memory Unit :=
  match entry with
  | .virtual pointer => do
    storeVirtual pointer balance
    if isZero balance then removeVirtual key pointer
  | .withdrawable slot => do
    storeRecord slot fun record => { record with amount := balance }
    if isZero balance then removeWithdrawable key slot

/-- `set_account_asset_balance`. -/
def setAccountAssetBalance (config : Config) (assetId : AssetId) (accountId : AccountId)
    (balance : Amount) : Exec CmaException Memory Unit := do
  match (← read).accountAssetBalance.lookup (assetId, accountId) with
  | none => createBalance config (assetId, accountId) balance
  | some entry => updateBalance (assetId, accountId) entry balance

/-- The virtual methods of `cma_ledger_memory`. -/
def ops (config : Config) : LedgerOps Memory where
  findAsset := findAsset
  findAccount := findAccount
  getAccountAssetBalance assetId accountId := do
    orUndefined ((← read).balanceOf assetId accountId)
  setAccountAssetBalance := setAccountAssetBalance config
  setAssetSupply := setAssetSupply

/-- `deposit`. -/
def deposit (config : Config) (assetId : AssetId) (toAccountId : AccountId) (amount : Amount) :
    Exec CmaException Memory Unit := (ops config).deposit assetId toAccountId amount

/-- `withdraw`. -/
def withdraw (config : Config) (assetId : AssetId) (fromAccountId : AccountId) (amount : Amount) :
    Exec CmaException Memory Unit := (ops config).withdraw assetId fromAccountId amount

/-- `transfer`. -/
def transfer (config : Config) (assetId : AssetId) (fromAccountId toAccountId : AccountId)
    (amount : Amount) : Exec CmaException Memory Unit :=
  (ops config).transfer assetId fromAccountId toAccountId amount

/-- A call of the interface on a memory ledger; `none` when its behaviour is undefined. -/
def call (config : Config) (ledger : Memory) : Call → Option (Memory × Response)
  | .retrieveAsset args operation =>
    settle .asset ((retrieveAsset config operation).run (ledger, args))
  | .retrieveAccount args operation =>
    settle .account ((retrieveAccount config operation).run (ledger, args))
  | .getBalance assetId accountId balance info =>
    settle (fun (balance, info) => .balance balance info)
      ((getAccountAssetBalance config assetId accountId).run (ledger, balance, info))
  | .deposit assetId toAccountId amount =>
    settle (fun _ => .nothing)
      ((onFirst (deposit config assetId toAccountId amount)).run (ledger, ()))
  | .withdraw assetId fromAccountId amount =>
    settle (fun _ => .nothing)
      ((onFirst (withdraw config assetId fromAccountId amount)).run (ledger, ()))
  | .transfer assetId fromAccountId toAccountId amount =>
    settle (fun _ => .nothing)
      ((onFirst (transfer config assetId fromAccountId toAccountId amount)).run (ledger, ()))
  | .clear => some (ledger.clear, ⟨none, .nothing⟩)

end Memory

end Libcma
