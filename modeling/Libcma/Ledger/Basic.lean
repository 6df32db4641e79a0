import Libcma.Lib.Run
import Libcma.Lib.Table
import Libcma.Ledger.Args
import Libcma.Ledger.Base

/-!
# The basic ledger

`cma_ledger_basic`: five hash maps. Ids are the sizes of the maps, nothing is ever removed, and
`CMA_LEDGER_OP_FIND_AND_REMOVE` matches no branch, so that it succeeds without doing anything.
-/

namespace Libcma

open Exec

/-- `cma_ledger_basic`. -/
structure Basic where
  /-- `lassid_to_asset`. -/
  lassidToAsset : Table AssetId Asset
  /-- `asset_to_lassid`. -/
  assetToLassid : Table AssetKey AssetId
  /-- `laccid_to_account`. -/
  laccidToAccount : Table AccountId Account
  /-- `account_to_laccid`. -/
  accountToLaccid : Table Bytes32 AccountId
  /-- `account_asset_balance`. -/
  accountAssetBalance : Table (AssetId × AccountId) Amount

namespace Basic

/-- A new ledger. -/
def empty : Basic := ⟨∅, ∅, ∅, ∅, ∅⟩

/-- `clear`. -/
def clear (_ledger : Basic) : Basic := empty

/-- `get_asset_count`. -/
def getAssetCount (ledger : Basic) : ℕ := ledger.lassidToAsset.size

/-- `get_account_count`. -/
def getAccountCount (ledger : Basic) : ℕ := ledger.laccidToAccount.size

/-- `find_asset`, returning the record it would copy from. -/
def findAsset (assetId : AssetId) : Exec CmaException Basic (Option Asset) := do
  match (← read).lassidToAsset.lookup assetId with
  | none => pure none
  | some asset =>
    refuseIf (asset.type = .base) ⟨"Invalid asset type", -einval⟩
    pure (some asset)

/-- `find_asset` with the caller's pointers. The type is written before the type is checked. -/
def findAssetInto (assetId : AssetId) : Exec CmaException (Basic × AssetArgs) Bool := do
  match (← read).1.lassidToAsset.lookup assetId with
  | none => pure false
  | some asset =>
    update fun state => (state.1, { state.2 with assetType := some asset.type })
    refuseIf (asset.type = .base) ⟨"Invalid asset type", -einval⟩
    update fun state => (state.1, state.2.fill asset)
    pure true

/-- `set_asset_supply`. -/
def setAssetSupply (assetId : AssetId) (supply : Amount) : Exec CmaException Basic Unit := do
  let asset ← orRaise ((← read).lassidToAsset.lookup assetId)
    ⟨"Asset by id not found", errorAssetNotFound⟩
  update fun ledger => { ledger with
    lassidToAsset := ledger.lassidToAsset.insert assetId { asset with supply := supply } }

/-- Look an asset up by id; whether the call is over. -/
def lookForAssetId (operation : Operation) (assetId : AssetId) :
    Exec CmaException (Basic × AssetArgs) Bool :=
  if operation.finds then do
    let found ← findAssetInto assetId
    refuseIf (¬found ∧ operation = .find) ⟨"Asset not found", errorAssetNotFound⟩
    pure found
  else pure false

/-- Look an asset up by key; whether the call is over. -/
def lookForAssetKey (operation : Operation) (assetKey : AssetKey) :
    Exec CmaException (Basic × AssetArgs) Bool :=
  if operation.finds then do
    match (← read).1.assetToLassid.lookup assetKey with
    | some assetId =>
      let found ← findAssetInto assetId
      refuseIf (¬found) ⟨"Asset by id not found", errorAssetNotFound⟩
      update fun state => (state.1, state.2.withId assetId)
      pure true
    | none =>
      refuseIf (operation = .find) ⟨"Asset not found", errorAssetNotFound⟩
      pure false
  else pure false

/-- Insert a new asset under an id and report the id. -/
def insertAsset (currSize : AssetId) (newAsset : Asset) :
    Exec CmaException (Basic × AssetArgs) Unit := do
  let (ledger, _) ← read
  refuseIf (ledger.lassidToAsset.lookup currSize).isSome
    ⟨"Asset ID already exists", errorInsertion⟩
  update fun state => ({ state.1 with
    lassidToAsset := state.1.lassidToAsset.insert currSize newAsset }, state.2.withId currSize)

/-- Insert the key of a new asset. -/
def insertAssetKey (currSize : AssetId) (assetKey : AssetKey) :
    Exec CmaException (Basic × AssetArgs) Unit := do
  let (ledger, _) ← read
  refuseIf (ledger.assetToLassid.lookup assetKey).isSome
    ⟨"Asset Key already exists", errorInsertion⟩
  update fun state => ({ state.1 with
    assetToLassid := state.1.assetToLassid.insert assetKey currSize }, state.2)

/-- The two steps of `retrieve_asset` for a type with a key. -/
def retrieveKeyedAsset (operation : Operation) (currSize : AssetId) (assetKey : AssetKey)
    (newAsset : Asset) : Exec CmaException (Basic × AssetArgs) Unit := do
  let settled ← lookForAssetKey operation assetKey
  if ¬settled ∧ operation.creates then
    insertAssetKey currSize assetKey
    insertAsset currSize newAsset

/-- `retrieve_asset`. -/
def retrieveAsset (operation : Operation) : Exec CmaException (Basic × AssetArgs) Unit := do
  let (ledger, args) ← read
  let currSize := ledger.getAssetCount
  match args.assetType with
  | some .id =>
    let assetId ← orRaise args.assetId ⟨"Invalid asset id ptr", -einval⟩
    let settled ← lookForAssetId operation assetId
    if ¬settled ∧ operation.creates then
      insertAsset currSize (.ofType .id)
  | some .tokenAddress =>
    let address ← orRaise args.tokenAddress ⟨"Invalid token address ptr", -einval⟩
    retrieveKeyedAsset operation currSize (addressKey address)
      { Asset.ofType .tokenAddress with tokenAddress := address }
  | some .tokenAddressId =>
    let address ← orRaise args.tokenAddress ⟨"Invalid token address ptr", -einval⟩
    let tokenId ← orRaise args.tokenId ⟨"Invalid token id ptr", -einval⟩
    retrieveKeyedAsset operation currSize (addressIdKey address tokenId)
      { Asset.ofType .tokenAddressId with tokenAddress := address, tokenId := tokenId }
  | some .tokenAddressIdAmount =>
    let address ← orRaise args.tokenAddress ⟨"Invalid token address ptr", -einval⟩
    let tokenId ← orRaise args.tokenId ⟨"Invalid token id ptr", -einval⟩
    retrieveKeyedAsset operation currSize (addressIdKey address tokenId)
      { Asset.ofType .tokenAddressIdAmount with tokenAddress := address, tokenId := tokenId }
  | _ => raise ⟨"Invalid asset type", -einval⟩

/-- `find_account`, returning only whether it found the account. -/
def findAccount (accountId : AccountId) : Exec CmaException Basic Bool := do
  return ((← read).laccidToAccount.lookup accountId).isSome

/-- `find_account` with the caller's pointers; the number of balances is ignored. -/
def findAccountInto (accountId : AccountId) : Exec CmaException (Basic × AccountArgs) Bool := do
  match (← read).1.laccidToAccount.lookup accountId with
  | none => pure false
  | some account =>
    update fun state => (state.1, state.2.fill account none)
    pure true

/-- Insert a new account under an id and report the id. -/
def insertAccount (currSize : AccountId) (newAccount : Account) :
    Exec CmaException (Basic × AccountArgs) Unit := do
  let (ledger, _) ← read
  refuseIf (ledger.laccidToAccount.lookup currSize).isSome
    ⟨"Account ID already exists", errorInsertion⟩
  update fun state => ({ state.1 with
    laccidToAccount := state.1.laccidToAccount.insert currSize newAccount },
    state.2.withId currSize)

/-- Look an account up by id; whether the call is over. -/
def lookForAccountId (operation : Operation) (accountId : AccountId) :
    Exec CmaException (Basic × AccountArgs) Bool :=
  if operation.finds then do
    let found ← findAccountInto accountId
    if found then
      update fun state => (state.1, state.2.copyType)
      pure true
    else
      refuseIf (operation = .find) ⟨"Account not found", errorAccountNotFound⟩
      pure false
  else pure false

/-- Look an account up by key; whether the call is over. -/
def lookForAccountKey (operation : Operation) (accountKey : Bytes32) :
    Exec CmaException (Basic × AccountArgs) Bool :=
  if operation.finds then do
    match (← read).1.accountToLaccid.lookup accountKey with
    | some accountId =>
      let found ← findAccountInto accountId
      refuseIf (¬found) ⟨"Account by id not found", errorAccountNotFound⟩
      update fun state => (state.1, (state.2.withId accountId).copyType)
      pure true
    | none =>
      refuseIf (operation = .find) ⟨"Account not found", errorAccountNotFound⟩
      pure false
  else pure false

/-- Insert the key of a new account. -/
def insertAccountKey (currSize : AccountId) (accountKey : Bytes32) :
    Exec CmaException (Basic × AccountArgs) Unit := do
  let (ledger, _) ← read
  refuseIf (ledger.accountToLaccid.lookup accountKey).isSome
    ⟨"Account Key already exists", errorInsertion⟩
  update fun state => ({ state.1 with
    accountToLaccid := state.1.accountToLaccid.insert accountKey currSize }, state.2)

/-- The case of `retrieve_account` for an account with a key. -/
def retrieveKeyedAccount (operation : Operation) (currSize : AccountId)
    (accountType : AccountType) : Exec CmaException (Basic × AccountArgs) Unit := do
  let account ← localAccount (← read).2 accountType
  let settled ← lookForAccountKey operation account.accountId
  if ¬settled ∧ operation.creates then
    insertAccountKey currSize account.accountId
    insertAccount currSize account
    update fun state =>
      (state.1, { state.2.fill account none with accountType := some account.type })

/-- `retrieve_account`. -/
def retrieveAccount (operation : Operation) : Exec CmaException (Basic × AccountArgs) Unit := do
  let (ledger, args) ← read
  let currSize := ledger.getAccountCount
  match args.accountType with
  | some .id =>
    let accountId ← orRaise args.accountId ⟨"Invalid account id ptr", -einval⟩
    let settled ← lookForAccountId operation accountId
    if ¬settled ∧ operation.creates then
      insertAccount currSize ⟨.id, zeros 32⟩
  | some accountType => retrieveKeyedAccount operation currSize accountType
  | none => raise ⟨"Invalid asset type", -einval⟩

/-- The amount `get_account_asset_balance` reports. -/
def amount (ledger : Basic) (assetId : AssetId) (accountId : AccountId) : Amount :=
  (ledger.accountAssetBalance.lookup (assetId, accountId)).getD (zeros 32)

/-- `get_account_asset_balance`. Asking for the balance record is an error; its code is the
negation of a code that is already negative. -/
def getAccountAssetBalance (assetId : AssetId) (accountId : AccountId) :
    Exec CmaException (Basic × Option Amount × Option BalanceInfo) Unit := do
  let (_, _, info) ← read
  refuseIf info.isSome ⟨"Account balance not available", -errorBalanceNotFound⟩
  update fun (ledger, balance, info) =>
    (ledger, balance.map fun _ => ledger.amount assetId accountId, info)

/-- `set_account_asset_balance`. -/
def setAccountAssetBalance (assetId : AssetId) (accountId : AccountId) (balance : Amount) :
    Exec CmaException Basic Unit :=
  update fun ledger => { ledger with
    accountAssetBalance := ledger.accountAssetBalance.insert (assetId, accountId) balance }

/-- The virtual methods of `cma_ledger_basic`. -/
def ops : LedgerOps Basic where
  findAsset := findAsset
  findAccount := findAccount
  getAccountAssetBalance assetId accountId := return (← read).amount assetId accountId
  setAccountAssetBalance := setAccountAssetBalance
  setAssetSupply := setAssetSupply

/-- `deposit`. -/
def deposit (assetId : AssetId) (toAccountId : AccountId) (amount : Amount) :
    Exec CmaException Basic Unit := ops.deposit assetId toAccountId amount

/-- `withdraw`. -/
def withdraw (assetId : AssetId) (fromAccountId : AccountId) (amount : Amount) :
    Exec CmaException Basic Unit := ops.withdraw assetId fromAccountId amount

/-- `transfer`. -/
def transfer (assetId : AssetId) (fromAccountId toAccountId : AccountId) (amount : Amount) :
    Exec CmaException Basic Unit := ops.transfer assetId fromAccountId toAccountId amount

/-- A call of the interface on a basic ledger; `none` when its behaviour is undefined. -/
def call (ledger : Basic) : Call → Option (Basic × Response)
  | .retrieveAsset args operation => settle .asset ((retrieveAsset operation).run (ledger, args))
  | .retrieveAccount args operation =>
    settle .account ((retrieveAccount operation).run (ledger, args))
  | .getBalance assetId accountId balance info =>
    settle (fun (balance, info) => .balance balance info)
      ((getAccountAssetBalance assetId accountId).run (ledger, balance, info))
  | .deposit assetId toAccountId amount =>
    settle (fun _ => .nothing) ((onFirst (deposit assetId toAccountId amount)).run (ledger, ()))
  | .withdraw assetId fromAccountId amount =>
    settle (fun _ => .nothing) ((onFirst (withdraw assetId fromAccountId amount)).run (ledger, ()))
  | .transfer assetId fromAccountId toAccountId amount =>
    settle (fun _ => .nothing)
      ((onFirst (transfer assetId fromAccountId toAccountId amount)).run (ledger, ()))
  | .clear => some (ledger.clear, ⟨none, .nothing⟩)

end Basic

end Libcma
