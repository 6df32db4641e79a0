import Libcma.Memory.State

/-!
# Assets of the memory ledger

`find_asset`, `remove_asset`, `set_asset_supply` and `retrieve_asset` of `cma_ledger_memory`.
-/

namespace Libcma

open Exec

namespace Memory

/-- `find_asset`, returning the record it would copy from. -/
def findAsset (assetId : AssetId) : Exec CmaException Memory (Option Asset) := do
  return (← read).lassidToAsset.lookup assetId

/-- `find_asset` with the caller's pointers. -/
def findAssetInto (assetId : AssetId) : Exec CmaException (Memory × AssetArgs) Bool := do
  match (← read).1.lassidToAsset.lookup assetId with
  | none => pure false
  | some asset =>
    update fun state => (state.1, state.2.fill asset)
    pure true

/-- Erase the key of an asset. -/
def eraseAssetKey (assetKey : AssetKey) : Exec CmaException Memory Unit := do
  refuseIf ((← read).assetToLassid.lookup assetKey).isNone
    ⟨"Coundn't erase asset key map", errorRemove⟩
  update fun ledger => { ledger with assetToLassid := ledger.assetToLassid.erase assetKey }

/-- `remove_asset`. -/
def removeAsset (assetId : AssetId) : Exec CmaException Memory Unit := do
  let asset ← orRaise ((← read).lassidToAsset.lookup assetId)
    ⟨"Couldn't find asset to remove", errorAssetNotFound⟩
  refuseIf (¬isZero asset.supply) ⟨"Asset still have supply", errorAssetSupply⟩
  match asset.type with
  | .id => pure ()
  | .base => update fun ledger => { ledger with baseAssetIdDefined := false }
  | .tokenAddress => eraseAssetKey (addressKey asset.tokenAddress)
  | .tokenAddressId => eraseAssetKey (addressIdKey asset.tokenAddress asset.tokenId)
  | .tokenAddressIdAmount => eraseAssetKey (addressIdKey asset.tokenAddress asset.tokenId)
  refuseIf ((← read).lassidToAsset.lookup assetId).isNone
    ⟨"Coundn't erase asset id map", errorRemove⟩
  update fun ledger => { ledger with lassidToAsset := ledger.lassidToAsset.erase assetId }

/-- `set_asset_supply`. -/
def setAssetSupply (assetId : AssetId) (supply : Amount) : Exec CmaException Memory Unit := do
  let asset ← orRaise ((← read).lassidToAsset.lookup assetId)
    ⟨"Asset by id not found", errorAssetNotFound⟩
  update fun ledger => { ledger with
    lassidToAsset := ledger.lassidToAsset.insert assetId { asset with supply := supply } }

/-- An operation that looks an item up, removing included. -/
def looks (operation : Operation) : Prop := operation.finds ∨ operation = .findAndRemove

instance (operation : Operation) : Decidable (looks operation) :=
  inferInstanceAs (Decidable (_ ∨ _))

/-- An operation that fails when the item is not found. -/
def requires (operation : Operation) : Prop := operation = .find ∨ operation = .findAndRemove

instance (operation : Operation) : Decidable (requires operation) :=
  inferInstanceAs (Decidable (_ ∨ _))

/-- Remove the asset that was found when the operation says so. -/
def removeFoundAsset (operation : Operation) (assetId : AssetId) :
    Exec CmaException (Memory × AssetArgs) Unit :=
  if operation = .findAndRemove then onFirst (removeAsset assetId) else pure ()

/-- Look an asset up by id; whether the call is over. `FIND` of the base asset looks for the id of
the base asset instead. -/
def lookForAssetId (operation : Operation) (assetType : AssetType) (assetId : AssetId) :
    Exec CmaException (Memory × AssetArgs) Bool :=
  if looks operation then do
    let (ledger, _) ← read
    let sought :=
      if operation = .find ∧ assetType = .base ∧ ledger.baseAssetIdDefined then
        ledger.baseAssetId
      else assetId
    update fun state => (state.1, state.2.withId sought)
    let found ← findAssetInto sought
    if found then
      removeFoundAsset operation sought
      pure true
    else
      refuseIf (requires operation) ⟨"Asset not found", errorAssetNotFound⟩
      pure false
  else pure false

/-- Look an asset up by key; whether the call is over. -/
def lookForAssetKey (operation : Operation) (assetKey : AssetKey) :
    Exec CmaException (Memory × AssetArgs) Bool :=
  if looks operation then do
    match (← read).1.assetToLassid.lookup assetKey with
    | some assetId =>
      let found ← findAssetInto assetId
      refuseIf (¬found) ⟨"Asset by id not found", errorAssetNotFound⟩
      update fun state => (state.1, state.2.withId assetId)
      removeFoundAsset operation assetId
      pure true
    | none =>
      refuseIf (requires operation) ⟨"Asset not found", errorAssetNotFound⟩
      pure false
  else pure false

/-- Refuse to create an asset past the limit. -/
def refuseMaxAssets (config : Config) : Exec CmaException (Memory × AssetArgs) Unit := do
  let (ledger, _) ← read
  refuseIf (config.maxAssets ≤ ledger.nextAssetId) ⟨"Max assets reached", errorMaxAssetsReached⟩

/-- Insert a new asset under the next id. -/
def insertAsset (newAsset : Asset) : Exec CmaException (Memory × AssetArgs) Unit := do
  let (ledger, _) ← read
  refuseIf (ledger.lassidToAsset.lookup ledger.nextAssetId).isSome
    ⟨"Asset ID already exists", errorInsertion⟩
  update fun (ledger, args) => ({ ledger with
    lassidToAsset := ledger.lassidToAsset.insert ledger.nextAssetId newAsset }, args)

/-- Report the next asset id and step the counter. -/
def takeAssetId : Exec CmaException (Memory × AssetArgs) Unit :=
  update fun (ledger, args) =>
    ({ ledger with nextAssetId := ledger.nextAssetId + 1 }, args.withId ledger.nextAssetId)

/-- Create an asset without a key. -/
def createAssetId (config : Config) (assetType : AssetType) :
    Exec CmaException (Memory × AssetArgs) Unit := do
  refuseMaxAssets config
  let (ledger, _) ← read
  refuseIf (assetType = .base ∧ ledger.baseAssetIdDefined)
    ⟨"Base asset already inserted", errorInsertion⟩
  insertAsset (.ofType assetType)
  update fun (ledger, args) =>
    if assetType = .base ∧ ¬ledger.baseAssetIdDefined then
      ({ ledger with baseAssetId := ledger.nextAssetId, baseAssetIdDefined := true }, args)
    else (ledger, args)
  takeAssetId

/-- Create an asset with a key. -/
def createAssetKey (config : Config) (assetKey : AssetKey) (newAsset : Asset) :
    Exec CmaException (Memory × AssetArgs) Unit := do
  refuseMaxAssets config
  let (ledger, _) ← read
  refuseIf (ledger.assetToLassid.lookup assetKey).isSome
    ⟨"Asset Key already exists", errorInsertion⟩
  update fun (ledger, args) => ({ ledger with
    assetToLassid := ledger.assetToLassid.insert assetKey ledger.nextAssetId }, args)
  insertAsset newAsset
  takeAssetId

/-- The case of `retrieve_asset` for a type without a key. -/
def retrieveUnkeyedAsset (config : Config) (operation : Operation) (assetType : AssetType) :
    Exec CmaException (Memory × AssetArgs) Unit := do
  let (_, args) ← read
  let assetId ← orRaise args.assetId ⟨"Invalid asset id ptr", -einval⟩
  let settled ← lookForAssetId operation assetType assetId
  if ¬settled ∧ operation.creates then createAssetId config assetType

/-- The two steps of `retrieve_asset` for a type with a key. -/
def retrieveKeyedAsset (config : Config) (operation : Operation) (assetKey : AssetKey)
    (newAsset : Asset) : Exec CmaException (Memory × AssetArgs) Unit := do
  let settled ← lookForAssetKey operation assetKey
  if ¬settled ∧ operation.creates then createAssetKey config assetKey newAsset

/-- `retrieve_asset`. -/
def retrieveAsset (config : Config) (operation : Operation) :
    Exec CmaException (Memory × AssetArgs) Unit := do
  let (_, args) ← read
  match args.assetType with
  | some .id => retrieveUnkeyedAsset config operation .id
  | some .base => retrieveUnkeyedAsset config operation .base
  | some .tokenAddress =>
    let address ← orRaise args.tokenAddress ⟨"Invalid token address ptr", -einval⟩
    retrieveKeyedAsset config operation (addressKey address)
      { Asset.ofType .tokenAddress with tokenAddress := address }
  | some .tokenAddressId =>
    let address ← orRaise args.tokenAddress ⟨"Invalid token address ptr", -einval⟩
    let tokenId ← orRaise args.tokenId ⟨"Invalid token id ptr", -einval⟩
    retrieveKeyedAsset config operation (addressIdKey address tokenId)
      { Asset.ofType .tokenAddressId with tokenAddress := address, tokenId := tokenId }
  | some .tokenAddressIdAmount =>
    let address ← orRaise args.tokenAddress ⟨"Invalid token address ptr", -einval⟩
    let tokenId ← orRaise args.tokenId ⟨"Invalid token id ptr", -einval⟩
    retrieveKeyedAsset config operation (addressIdKey address tokenId)
      { Asset.ofType .tokenAddressIdAmount with tokenAddress := address, tokenId := tokenId }
  | none => raise ⟨"Invalid asset type", -einval⟩

end Memory

end Libcma
