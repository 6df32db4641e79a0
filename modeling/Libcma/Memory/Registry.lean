import Libcma.Memory.Kept

/-!
# The registry of assets and accounts

Keys and ids of a memory ledger name each other, and the counters are past every id in use.
`retrieve_asset` and `retrieve_account` find an item, add one under the next id, or remove one;
when they throw they have changed nothing.
-/

namespace Libcma

open Exec

namespace Memory

/-- Register an asset under the next id. -/
def addAsset (ledger : Memory) (asset : Asset) : Memory :=
  { ledger with
    lassidToAsset := ledger.lassidToAsset.insert ledger.nextAssetId asset
    assetToLassid := Finmap.insertKey ledger.assetToLassid asset.key ledger.nextAssetId
    baseAssetId := if asset.type = .base then ledger.nextAssetId else ledger.baseAssetId
    baseAssetIdDefined := if asset.type = .base then true else ledger.baseAssetIdDefined
    nextAssetId := ledger.nextAssetId + 1 }

/-- Remove an asset. -/
def dropAsset (ledger : Memory) (assetId : AssetId) (asset : Asset) : Memory :=
  { ledger with
    lassidToAsset := ledger.lassidToAsset.erase assetId
    assetToLassid := Finmap.eraseKey ledger.assetToLassid asset.key
    baseAssetIdDefined := if asset.type = .base then false else ledger.baseAssetIdDefined }

/-- Register an account under the next id. -/
def addAccount (ledger : Memory) (account : Account) : Memory :=
  { ledger with
    laccidToAccount := ledger.laccidToAccount.insert ledger.nextAccountId ⟨account, 0⟩
    accountToLaccid := Finmap.insertKey ledger.accountToLaccid account.key ledger.nextAccountId
    nextAccountId := ledger.nextAccountId + 1 }

/-- Remove an account. -/
def dropAccount (ledger : Memory) (accountId : AccountId) (account : Account) : Memory :=
  { ledger with
    laccidToAccount := ledger.laccidToAccount.erase accountId
    accountToLaccid := Finmap.eraseKey ledger.accountToLaccid account.key }

/-- Fields of an asset that its type does not use are zero. -/
def Plain (asset : Asset) : Prop :=
  match asset.type with
  | .id | .base => asset.tokenAddress = zeros 20 ∧ asset.tokenId = zeros 32
  | .tokenAddress => asset.tokenId = zeros 32
  | .tokenAddressId | .tokenAddressIdAmount => True

/-- The invariant of the registry. -/
structure Registry (ledger : Memory) : Prop where
  /-- An asset key names the asset registered under it. -/
  assetKeys : Finmap.Names ledger.assetToLassid ledger.lassidToAsset.lookup Asset.key
  /-- An account key names the account registered under it. -/
  accountKeys : Finmap.Names ledger.accountToLaccid ledger.account Account.key
  /-- The counter is past every asset id. -/
  assetIds : ∀ assetId asset, ledger.lassidToAsset.lookup assetId = some asset →
    assetId < ledger.nextAssetId
  /-- The counter is past every account id. -/
  accountIds : ∀ accountId account, ledger.account accountId = some account →
    accountId < ledger.nextAccountId
  /-- An asset of type base is the base asset. -/
  base : ∀ assetId asset, ledger.lassidToAsset.lookup assetId = some asset →
    asset.type = .base → ledger.baseAssetIdDefined = true ∧ ledger.baseAssetId = assetId
  /-- Unused asset fields are zero. -/
  plain : ∀ assetId asset, ledger.lassidToAsset.lookup assetId = some asset → Plain asset
  /-- The fixed bytes of a wallet are zero. -/
  wallets : ∀ accountId account, ledger.account accountId = some account →
    account.type = .walletAddress → accountFix account.accountId = zeros 12

variable {config : Config} {ledger after : Memory}

/-- The next asset id is free. -/
theorem Registry.asset_fresh (registry : ledger.Registry) :
    ledger.lassidToAsset.lookup ledger.nextAssetId = none := by
  cases found : ledger.lassidToAsset.lookup ledger.nextAssetId with
  | none => rfl
  | some asset => exact absurd (registry.assetIds _ asset found) (Nat.lt_irrefl _)

/-- The next account id is free. -/
theorem Registry.account_fresh (registry : ledger.Registry) :
    ledger.laccidToAccount.lookup ledger.nextAccountId = none := by
  cases found : ledger.laccidToAccount.lookup ledger.nextAccountId with
  | none => rfl
  | some owner =>
    have present : ledger.account ledger.nextAccountId = some owner.account := by
      rw [account, found, Option.map_some]
    exact absurd (registry.accountIds _ _ present) (Nat.lt_irrefl _)

/-- The registry of a ledger holds of every ledger with the same registry. -/
theorem Registry.same (registry : ledger.Registry) (same : SameRegistry ledger after) :
    after.Registry := by
  obtain ⟨assets, assetKeys, accounts, accountKeys, nextAsset, nextAccount, baseId, baseDefined⟩ :=
    same
  refine ⟨?_, ?_, ?_, ?_, ?_, ?_, ?_⟩
  · rw [assets, assetKeys]
    exact registry.assetKeys
  · rw [accountKeys, funext accounts]
    exact registry.accountKeys
  · rw [assets, nextAsset]
    exact registry.assetIds
  · simp only [accounts, nextAccount]
    exact registry.accountIds
  · rw [assets, baseId, baseDefined]
    exact registry.base
  · rw [assets]
    exact registry.plain
  · simp only [accounts]
    exact registry.wallets

/-- The account of an id after an account is added. -/
theorem account_addAccount (ledger : Memory) (added : Account) (accountId : AccountId) :
    (ledger.addAccount added).account accountId =
      if accountId = ledger.nextAccountId then some added else ledger.account accountId := by
  rw [account, addAccount, Finmap.lookup_insert_if]
  split <;> rfl

/-- The account of an id after an account is removed. -/
theorem account_dropAccount (ledger : Memory) (removed : AccountId) (gone : Account)
    (accountId : AccountId) :
    (ledger.dropAccount removed gone).account accountId =
      if accountId = removed then none else ledger.account accountId := by
  rw [account, dropAccount, Finmap.lookup_erase_if]
  split <;> rfl

/-- Registering an asset under a new key keeps the registry. -/
theorem Registry.addAsset (registry : ledger.Registry) {asset : Asset}
    (fresh : ∀ key, asset.key = some key → ledger.assetToLassid.lookup key = none)
    (single : asset.type = .base → ledger.baseAssetIdDefined = false) (plain : Plain asset) :
    (ledger.addAsset asset).Registry := by
  have next := registry.asset_fresh
  refine ⟨?assetKeys, registry.accountKeys, ?assetIds, registry.accountIds, ?base, ?plain,
    registry.wallets⟩
  case assetKeys =>
    exact registry.assetKeys.insertKey next fresh fun _ => Finmap.lookup_insert_if ..
  case assetIds =>
    intro assetId other found
    simp only [Memory.addAsset, Finmap.lookup_insert_if] at found ⊢
    split at found
    · exact Nat.lt_succ_of_le (Nat.le_of_eq ‹_›)
    · exact Nat.lt_succ_of_lt (registry.assetIds assetId other found)
  case base =>
    intro assetId other found type
    simp only [Memory.addAsset, Finmap.lookup_insert_if] at found ⊢
    split at found
    · rw [Option.some.inj found, if_pos type, if_pos type]
      exact ⟨rfl, Eq.symm ‹_›⟩
    · obtain ⟨defined, named⟩ := registry.base assetId other found type
      have old : asset.type ≠ .base := fun base => by simp [single base] at defined
      rw [if_neg old, if_neg old]
      exact ⟨defined, named⟩
  case plain =>
    intro assetId other found
    simp only [Memory.addAsset, Finmap.lookup_insert_if] at found
    split at found
    · rw [← Option.some.inj found]
      exact plain
    · exact registry.plain assetId other found

/-- Removing an asset keeps the registry. -/
theorem Registry.dropAsset (registry : ledger.Registry) {assetId : AssetId} {asset : Asset}
    (found : ledger.lassidToAsset.lookup assetId = some asset) :
    (ledger.dropAsset assetId asset).Registry := by
  refine ⟨?assetKeys, registry.accountKeys, ?assetIds, registry.accountIds, ?base, ?plain,
    registry.wallets⟩
  case assetKeys =>
    exact registry.assetKeys.eraseKey found fun _ => Finmap.lookup_erase_if ..
  case assetIds =>
    intro other present there
    simp only [Memory.dropAsset, Finmap.lookup_erase_if] at there
    split at there
    · contradiction
    · exact registry.assetIds other present there
  case base =>
    intro other present there type
    simp only [Memory.dropAsset, Finmap.lookup_erase_if] at there ⊢
    split at there
    · contradiction
    · obtain ⟨defined, named⟩ := registry.base other present there type
      have kept : asset.type ≠ .base := fun base =>
        ‹¬other = assetId› (named.symm.trans (registry.base assetId asset found base).2)
      rw [if_neg kept]
      exact ⟨defined, named⟩
  case plain =>
    intro other present there
    simp only [Memory.dropAsset, Finmap.lookup_erase_if] at there
    split at there
    · contradiction
    · exact registry.plain other present there

/-- Registering an account under a new key keeps the registry. -/
theorem Registry.addAccount (registry : ledger.Registry) {added : Account}
    (fresh : ∀ key, added.key = some key → ledger.accountToLaccid.lookup key = none)
    (wallet : added.type = .walletAddress → accountFix added.accountId = zeros 12) :
    (ledger.addAccount added).Registry := by
  have next : ledger.account ledger.nextAccountId = none := by
    rw [account, registry.account_fresh, Option.map_none]
  refine ⟨registry.assetKeys, ?accountKeys, registry.assetIds, ?accountIds, registry.base,
    registry.plain, ?wallets⟩
  case accountKeys =>
    exact registry.accountKeys.insertKey next fresh (account_addAccount ledger added)
  case accountIds =>
    intro accountId other found
    rw [account_addAccount] at found
    simp only [Memory.addAccount]
    split at found
    · exact Nat.lt_succ_of_le (Nat.le_of_eq ‹_›)
    · exact Nat.lt_succ_of_lt (registry.accountIds accountId other found)
  case wallets =>
    intro accountId other found type
    rw [account_addAccount] at found
    split at found
    · rw [← Option.some.inj found] at type ⊢
      exact wallet type
    · exact registry.wallets accountId other found type

/-- Removing an account keeps the registry. -/
theorem Registry.dropAccount (registry : ledger.Registry) {accountId : AccountId}
    {gone : Account} (found : ledger.account accountId = some gone) :
    (ledger.dropAccount accountId gone).Registry := by
  refine ⟨registry.assetKeys, ?accountKeys, registry.assetIds, ?accountIds, registry.base,
    registry.plain, ?wallets⟩
  case accountKeys =>
    exact registry.accountKeys.eraseKey found (account_dropAccount ledger accountId gone)
  case accountIds =>
    intro other present there
    rw [account_dropAccount] at there
    split at there
    · contradiction
    · exact registry.accountIds other present there
  case wallets =>
    intro other present there type
    rw [account_dropAccount] at there
    split at there
    · contradiction
    · exact registry.wallets other present there type

end Memory

end Libcma
