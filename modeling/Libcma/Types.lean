import Libcma.Lib.Bytes

/-!
# Types of the ledger interface

The types of `libcma/types.h` and `libcma/ledger.h`, and the asset record and exception the two
ledger classes share. Ids are 64-bit in the source; they are handed out by counters that no
64-bit machine can exhaust, so they are naturals here. A pointer parameter is an `Option`: `none`
is the null pointer. An enumeration that a caller passes through a pointer may hold a value that
is no enumerator; such a parameter is an `Option` too.
-/

namespace Libcma

/-- `cma_abi_address_t`, `cma_token_address_t`. -/
abbrev Address : Type := Bytes 20

/-- `cma_bytes32_t`, the bytes of an account id. -/
abbrev Bytes32 : Type := Bytes 32

/-- `cma_amount_t`, a 256-bit big-endian amount. -/
abbrev Amount : Type := Bytes 32

/-- `cma_token_id_t`. -/
abbrev TokenId : Type := Bytes 32

/-- `cma_ledger_asset_id_t`. -/
abbrev AssetId : Type := ℕ

/-- `cma_ledger_account_id_t`. -/
abbrev AccountId : Type := ℕ

/-- A byte string of zeros. -/
def zeros (length : ℕ) : Bytes length := List.Vector.replicate length 0

/-- `EINVAL` of the C library. -/
def einval : Int := 22

/-- `CMA_LEDGER_SUCCESS`. -/
def success : Int := 0

/-- `CMA_LEDGER_ERROR_INSUFFICIENT_FUNDS`. -/
def errorInsufficientFunds : Int := -1003

/-- `CMA_LEDGER_ERROR_ACCOUNT_NOT_FOUND`. -/
def errorAccountNotFound : Int := -1004

/-- `CMA_LEDGER_ERROR_ASSET_NOT_FOUND`. -/
def errorAssetNotFound : Int := -1005

/-- `CMA_LEDGER_ERROR_BALANCE_NOT_FOUND`. -/
def errorBalanceNotFound : Int := -1006

/-- `CMA_LEDGER_ERROR_SUPPLY_OVERFLOW`. -/
def errorSupplyOverflow : Int := -1007

/-- `CMA_LEDGER_ERROR_BALANCE_OVERFLOW`. -/
def errorBalanceOverflow : Int := -1008

/-- `CMA_LEDGER_ERROR_INSERTION_ERROR`. -/
def errorInsertion : Int := -1010

/-- `CMA_LEDGER_ERROR_MAX_ASSETS_REACHED`. -/
def errorMaxAssetsReached : Int := -1011

/-- `CMA_LEDGER_ERROR_MAX_ACCOUNTS_REACHED`. -/
def errorMaxAccountsReached : Int := -1012

/-- `CMA_LEDGER_ERROR_MAX_BALANCES_REACHED`. -/
def errorMaxBalancesReached : Int := -1013

/-- `CMA_LEDGER_ERROR_ASSET_SUPPLY`. -/
def errorAssetSupply : Int := -1014

/-- `CMA_LEDGER_ERROR_ACCOUNT_BALANCE`. -/
def errorAccountBalance : Int := -1015

/-- `CMA_LEDGER_ERROR_REMOVE`. -/
def errorRemove : Int := -1016

/-- `CmaException`: a message and the code the C interface returns. -/
structure CmaException where
  /-- Text of `what()`. -/
  message : String
  /-- Error code. -/
  code : Int
  deriving DecidableEq

/-- `cma_ledger_retrieve_operation_t`. -/
inductive Operation where
  | find
  | create
  | findOrCreate
  | findAndRemove
  deriving DecidableEq

/-- `cma_ledger_asset_type_t`. -/
inductive AssetType where
  | id
  | base
  | tokenAddress
  | tokenAddressId
  | tokenAddressIdAmount
  deriving DecidableEq

/-- The enumerator's value. -/
def AssetType.code : AssetType → UInt32
  | .id => 0
  | .base => 1
  | .tokenAddress => 2
  | .tokenAddressId => 3
  | .tokenAddressIdAmount => 4

/-- Distinct asset types have distinct values. -/
theorem AssetType.code_injective {left right : AssetType} (same : left.code = right.code) :
    left = right := by
  cases left <;> cases right <;> first | rfl | contradiction

/-- `cma_ledger_account_type_t`. -/
inductive AccountType where
  | id
  | walletAddress
  | accountId
  deriving DecidableEq

/-- `cma_ledger_asset_struct_t`, the record of a registered asset. -/
structure Asset where
  /-- Type fixed at creation. -/
  type : AssetType
  /-- Token address; zero when the type has none. -/
  tokenAddress : Address
  /-- Token id; zero when the type has none. -/
  tokenId : TokenId
  /-- Total supply. -/
  supply : Amount
  deriving DecidableEq

/-- A value-initialised asset record of a type. -/
def Asset.ofType (type : AssetType) : Asset := ⟨type, zeros 20, zeros 32, zeros 32⟩

/-- `cma_ledger_account_t`. The union of `account_id` with `fix` and `address` is the 32 bytes. -/
structure Account where
  /-- Type fixed at creation. -/
  type : AccountType
  /-- `account_id`: `fix`, then `address`. -/
  accountId : Bytes32
  deriving DecidableEq

/-- `fix`: the first 12 bytes of the account id. -/
def accountFix (accountId : Bytes32) : Bytes 12 := ⟨accountId.toList.take 12, by simp⟩

/-- `address`: the last 20 bytes of the account id. -/
def accountAddress (accountId : Bytes32) : Address := ⟨accountId.toList.drop 12, by simp⟩

/-- The account id whose `fix` is zero and whose `address` is given. -/
def walletId (address : Address) : Bytes32 := ⟨(zeros 12).toList ++ address.toList, by simp⟩

/-- An account id is its two parts. -/
theorem accountId_parts (accountId : Bytes32) :
    accountId.toList = (accountFix accountId).toList ++ (accountAddress accountId).toList := by
  simp [accountFix, accountAddress]

/-- The address of a wallet's account id. -/
@[simp] theorem accountAddress_walletId (address : Address) :
    accountAddress (walletId address) = address := by
  apply List.Vector.eq
  simp [accountAddress, walletId, zeros]

/-- The fixed part of a wallet's account id is zero. -/
@[simp] theorem accountFix_walletId (address : Address) :
    accountFix (walletId address) = zeros 12 := by
  apply List.Vector.eq
  simp [accountFix, walletId, zeros]

/-- An account id with a zero fixed part is the wallet id of its address. -/
theorem walletId_accountAddress {accountId : Bytes32} (zero : accountFix accountId = zeros 12) :
    walletId (accountAddress accountId) = accountId := by
  apply List.Vector.eq
  rw [accountId_parts accountId, zero]
  rfl

/-- `cma_ledger_asset_key_bytes_t`: a type byte, an address and a token id. -/
abbrev AssetKey : Type := Bytes 53

/-- The key bytes of an asset. -/
def assetKeyBytes (type : AssetType) (address : Address) (tokenId : TokenId) : AssetKey :=
  ⟨type.code.toUInt8 :: (address.toList ++ tokenId.toList), by simp⟩

/-- Key bytes determine the address and the token id. -/
theorem assetKeyBytes_injective {type other : AssetType} {address otherAddress : Address}
    {tokenId otherId : TokenId}
    (same : assetKeyBytes type address tokenId = assetKeyBytes other otherAddress otherId) :
    type.code.toUInt8 = other.code.toUInt8 ∧ address = otherAddress ∧ tokenId = otherId := by
  have bytes := congrArg List.Vector.toList same
  change _ :: _ = _ :: _ at bytes
  obtain ⟨tag, rest⟩ := List.cons.inj bytes
  obtain ⟨first, second⟩ := List.append_inj rest (by simp)
  exact ⟨tag, List.Vector.eq _ _ first, List.Vector.eq _ _ second⟩

/-- `CMA_LEDGER_ASSET_TYPE_TOKEN_ADDRESS` keys: the token id bytes stay zero. -/
def addressKey (address : Address) : AssetKey := assetKeyBytes .tokenAddress address (zeros 32)

/-- Keys of the two types with a token id; both carry the type byte of `tokenAddressId`. -/
def addressIdKey (address : Address) (tokenId : TokenId) : AssetKey :=
  assetKeyBytes .tokenAddressId address tokenId

/-- The in/out parameters of `retrieve_asset`. -/
structure AssetArgs where
  /-- `asset_id`. -/
  assetId : Option AssetId
  /-- `token_address`. -/
  tokenAddress : Option Address
  /-- `token_id`. -/
  tokenId : Option TokenId
  /-- `out_total_supply`. -/
  outTotalSupply : Option Amount
  /-- `asset_type`; `none` is a value that is no enumerator. -/
  assetType : Option AssetType
  deriving DecidableEq

/-- The in/out parameters of `retrieve_account`. -/
structure AccountArgs where
  /-- `account_id`. -/
  accountId : Option AccountId
  /-- `account`. -/
  account : Option Account
  /-- The bytes at `addr_accid`; a wallet address uses the first 20. -/
  addrAccid : Option Bytes32
  /-- `n_balances`. -/
  nBalances : Option ℕ
  /-- `account_type`; `none` is a value that is no enumerator. -/
  accountType : Option AccountType
  deriving DecidableEq

/-- `cma_ledger_account_balance_info_t`; `balance` is the slot pointed to. -/
structure BalanceInfo where
  /-- Byte offset of the record in the drive. -/
  offset : ℕ
  /-- Index of the record. -/
  index : ℕ
  /-- Pointer to the record. -/
  balance : Option ℕ
  deriving DecidableEq

/-- A call of the ledger interface with its arguments. -/
inductive Call where
  | retrieveAsset (args : AssetArgs) (operation : Operation)
  | retrieveAccount (args : AccountArgs) (operation : Operation)
  | getBalance (assetId : AssetId) (accountId : AccountId) (balance : Option Amount)
      (info : Option BalanceInfo)
  | deposit (assetId : AssetId) (toAccountId : AccountId) (deposit : Amount)
  | withdraw (assetId : AssetId) (fromAccountId : AccountId) (withdrawal : Amount)
  | transfer (assetId : AssetId) (fromAccountId toAccountId : AccountId) (amount : Amount)
  | clear
  deriving DecidableEq

/-- What a call leaves in the variables its pointers name. -/
inductive Output where
  | asset (args : AssetArgs)
  | account (args : AccountArgs)
  | balance (balance : Option Amount) (info : Option BalanceInfo)
  | nothing
  deriving DecidableEq

/-- What the caller sees of a call. -/
structure Response where
  /-- The exception raised, when one was. -/
  error : Option CmaException
  /-- The out-parameters. -/
  output : Output
  deriving DecidableEq

/-- The integer the C interface returns. -/
def Response.code (response : Response) : Int :=
  match response.error with
  | none => success
  | some exception => exception.code

end Libcma
