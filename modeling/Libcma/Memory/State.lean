import Libcma.Lib.Run
import Libcma.Lib.Table
import Libcma.Lib.Slots
import Libcma.Ledger.Args
import Libcma.Ledger.Base

/-!
# The memory ledger

`cma_ledger_memory`: hash maps in a managed region, and two dense arrays of balances. The account
drive `balances` holds the withdrawable balances as records; `virtual_balances` holds the others.
`account_asset_balance` maps a pair of ids to a pointer into one of the two, and the lists
`last_balances` and `last_virtual_balances` keep the pair of each slot.

A pointer into `virtual_balances` is a block and an index. The vector is in one block at a time; a
`push_back` at full capacity moves it to a new one, and a pointer into an earlier block dangles:
using it is undefined.
-/

namespace Libcma

open Exec

/-- What is fixed when the ledger is created. -/
structure Config where
  /-- `max_accounts`. -/
  maxAccounts : ℕ
  /-- `max_assets`. -/
  maxAssets : ℕ
  /-- `max_balances`. -/
  maxBalances : ℕ
  /-- `mem_offset`. -/
  memOffset : ℕ
  /-- The capacity the container chooses when a vector of a given capacity has to grow. -/
  growCapacity : ℕ → ℕ

/-- `INIT_BALANCE`. -/
def initBalance : ℕ := 8 * 256

/-- `cma_ledger_account_balance_t`, a record of the account drive. -/
structure AccountBalance where
  /-- Asset type. -/
  type : UInt32
  /-- Wallet address of the account. -/
  owner : Address
  /-- Token address of the asset. -/
  tokenAddress : Address
  /-- Token id of the asset. -/
  tokenId : TokenId
  /-- Balance. -/
  amount : Amount
  /-- Bytes that fill the record up to 128. -/
  padding : Bytes 20
  deriving DecidableEq

/-- A record of zero bytes. -/
def AccountBalance.zero : AccountBalance := ⟨0, zeros 20, zeros 20, zeros 32, zeros 32, zeros 20⟩

/-- `sizeof(cma_ledger_account_balance_t)`. -/
def AccountBalance.size : ℕ := 4 + 20 + 20 + 32 + 32 + 20

/-- `virtual_balances`: the storage block, its capacity and the elements. -/
structure VirtualBalances where
  /-- The block the elements are stored in; blocks are numbered as they are allocated. -/
  block : ℕ
  /-- How many elements the block can take. -/
  capacity : ℕ
  /-- The elements. -/
  elems : List Amount
  deriving DecidableEq

/-- `push_back`. -/
def VirtualBalances.pushBack (config : Config) (vector : VirtualBalances) (balance : Amount) :
    VirtualBalances :=
  if vector.elems.length < vector.capacity then
    { vector with elems := vector.elems ++ [balance] }
  else
    ⟨vector.block + 1, config.growCapacity vector.capacity, vector.elems ++ [balance]⟩

/-- A pointer into `virtual_balances`. -/
structure VirtualPtr where
  /-- The block pointed into. -/
  block : ℕ
  /-- The index of the element. -/
  index : ℕ
  deriving DecidableEq

/-- `cma_balance_t`: the balance type with the one pointer it uses. -/
inductive Balance where
  | virtual (pointer : VirtualPtr)
  | withdrawable (slot : ℕ)
  deriving DecidableEq

/-- `cma_ledger_account_struct_t`. -/
structure AccountStruct where
  /-- The account. -/
  account : Account
  /-- `n_balances`. -/
  nBalances : ℕ
  deriving DecidableEq

/-- `cma_map_key_t`. -/
abbrev MapKey : Type := AssetId × AccountId

/-- `cma_ledger_memory`. -/
structure Memory where
  /-- `balances`, the account drive. -/
  balances : ℕ → AccountBalance
  /-- `virtual_balances`. -/
  virtualBalances : VirtualBalances
  /-- `lassid_to_asset`. -/
  lassidToAsset : Table AssetId Asset
  /-- `asset_to_lassid`. -/
  assetToLassid : Table AssetKey AssetId
  /-- `laccid_to_account`. -/
  laccidToAccount : Table AccountId AccountStruct
  /-- `account_to_laccid`. -/
  accountToLaccid : Table Bytes32 AccountId
  /-- `account_asset_balance`. -/
  accountAssetBalance : Table MapKey Balance
  /-- `last_balances`. -/
  lastBalances : List MapKey
  /-- `last_virtual_balances`. -/
  lastVirtualBalances : List MapKey
  /-- `next_asset_id`. -/
  nextAssetId : AssetId
  /-- `next_account_id`. -/
  nextAccountId : AccountId
  /-- `base_asset_id`. -/
  baseAssetId : AssetId
  /-- `base_asset_id_defined`. -/
  baseAssetIdDefined : Bool

namespace Memory

/-- A ledger just created over a region with the given contents. -/
def empty (drive : ℕ → AccountBalance) : Memory where
  balances := drive
  virtualBalances := ⟨0, initBalance, []⟩
  lassidToAsset := ∅
  assetToLassid := ∅
  laccidToAccount := ∅
  accountToLaccid := ∅
  accountAssetBalance := ∅
  lastBalances := []
  lastVirtualBalances := []
  nextAssetId := 0
  nextAccountId := 0
  baseAssetId := 0
  baseAssetIdDefined := false

/-- `clear`. The id counters, the base asset id and its flag are kept, and so is the block of
`virtual_balances`. -/
def clear (ledger : Memory) : Memory :=
  { ledger with
    balances := fun slot =>
      if slot < ledger.lastBalances.length then .zero else ledger.balances slot
    virtualBalances := { ledger.virtualBalances with elems := [] }
    lastBalances := []
    lastVirtualBalances := []
    accountToLaccid := ∅
    laccidToAccount := ∅
    assetToLassid := ∅
    lassidToAsset := ∅
    accountAssetBalance := ∅ }

/-- `get_asset_count`. -/
def getAssetCount (ledger : Memory) : ℕ := ledger.lassidToAsset.size

/-- `get_account_count`. -/
def getAccountCount (ledger : Memory) : ℕ := ledger.laccidToAccount.size

/-- `get_balances_size`. -/
def getBalancesSize (ledger : Memory) : ℕ := ledger.lastBalances.length

end Memory

end Libcma
