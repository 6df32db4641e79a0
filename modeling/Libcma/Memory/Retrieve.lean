import Libcma.Memory.Registry

/-!
# What a retrieval does

The ends of `retrieve_asset` and `retrieve_account` on a ledger whose registry is consistent. A
call that throws has changed nothing; one that returns has found, added or removed one item.
-/

namespace Libcma

open Exec

namespace Memory

variable {config : Config} {ledger : Memory}

/-- How `retrieve_asset` ends when it returns. -/
inductive AssetResult (config : Config) (ledger : Memory) (operation : Operation)
    (args : AssetArgs) : Memory → AssetArgs → Prop
  /-- An asset was found. -/
  | found (assetId : AssetId) (asset : Asset) (finds : operation.finds)
      (present : ledger.lassidToAsset.lookup assetId = some asset)
      (keyed : ∀ key, args.requestedKey = some key → asset.key = some key)
      (named : args.requestedKey = none → args.assetId = some assetId ∨
        args.assetType = some .base ∧ operation = .find ∧ ledger.baseAssetIdDefined = true ∧
          assetId = ledger.baseAssetId) :
      AssetResult config ledger operation args ledger ((args.fill asset).withId assetId)
  /-- An asset was added. -/
  | added (asset : Asset) (creates : operation.creates)
      (room : ledger.nextAssetId < config.maxAssets) (type : args.assetType = some asset.type)
      (keyed : asset.key = args.requestedKey)
      (fresh : ∀ key, asset.key = some key → ledger.assetToLassid.lookup key = none)
      (single : asset.type = .base → ledger.baseAssetIdDefined = false)
      (unsupplied : asset.supply = zeros 32) (plain : Plain asset) :
      AssetResult config ledger operation args (ledger.addAsset asset)
        (args.withId ledger.nextAssetId)
  /-- An asset was removed. -/
  | removed (assetId : AssetId) (asset : Asset) (removes : operation = .findAndRemove)
      (present : ledger.lassidToAsset.lookup assetId = some asset)
      (unsupplied : asset.supply.toNat = 0)
      (keyed : ∀ key, args.requestedKey = some key → asset.key = some key)
      (named : args.requestedKey = none → args.assetId = some assetId) :
      AssetResult config ledger operation args (ledger.dropAsset assetId asset)
        ((args.fill asset).withId assetId)

/-- `find_asset` with the caller's pointers. -/
theorem findAssetInto_ensures (assetId : AssetId) (ledger : Memory) (args : AssetArgs) :
    ((findAssetInto assetId).run (ledger, args)).Satisfies
      (fun found reached =>
        (found = true ∧ ∃ asset, ledger.lassidToAsset.lookup assetId = some asset ∧
          reached = (ledger, args.fill asset)) ∨
        (found = false ∧ ledger.lassidToAsset.lookup assetId = none ∧ reached = (ledger, args)))
      (fun _ reached => reached.1 = ledger) := by
  simp only [findAssetInto, satisfies_bind, satisfies_read]
  cases found : ledger.lassidToAsset.lookup assetId with
  | none => exact .inr ⟨rfl, rfl, rfl⟩
  | some asset => exact .inl ⟨rfl, asset, rfl, rfl⟩

/-- `remove_asset` removes an asset without supply; the key it erases is there. -/
theorem removeAsset_run (registry : ledger.Registry) {assetId : AssetId} {asset : Asset}
    (found : ledger.lassidToAsset.lookup assetId = some asset) (zero : asset.supply.toNat = 0) :
    (removeAsset assetId).run ledger = .ok () (ledger.dropAsset assetId asset) := by
  have named (key : AssetKey) (keyed : asset.key = some key) :
      ledger.assetToLassid.lookup key = some assetId :=
    (registry.assetKeys key assetId).mpr ⟨asset, found, keyed⟩
  have unsupplied : isZero asset.supply = true := (isZero_iff _).mpr zero
  cases type : asset.type with
  | id => simp [removeAsset, found, unsupplied, dropAsset, Finmap.eraseKey, Asset.key, type]
  | base => simp [removeAsset, found, unsupplied, dropAsset, Finmap.eraseKey, Asset.key, type]
  | tokenAddress =>
    have key := named (addressKey asset.tokenAddress) (by simp [Asset.key, type])
    simp [removeAsset, eraseAssetKey, key, found, unsupplied, dropAsset, Finmap.eraseKey,
      Asset.key, type]
  | tokenAddressId =>
    have key := named (addressIdKey asset.tokenAddress asset.tokenId) (by simp [Asset.key, type])
    simp [removeAsset, eraseAssetKey, key, found, unsupplied, dropAsset, Finmap.eraseKey,
      Asset.key, type]
  | tokenAddressIdAmount =>
    have key := named (addressIdKey asset.tokenAddress asset.tokenId) (by simp [Asset.key, type])
    simp [removeAsset, eraseAssetKey, key, found, unsupplied, dropAsset, Finmap.eraseKey,
      Asset.key, type]

/-- `remove_asset` refuses, or removes an asset without supply. -/
theorem removeAsset_ensures (registry : ledger.Registry) (assetId : AssetId) :
    ((removeAsset assetId).run ledger).Satisfies
      (fun _ reached => ∃ asset, ledger.lassidToAsset.lookup assetId = some asset ∧
        asset.supply.toNat = 0 ∧ reached = ledger.dropAsset assetId asset)
      (fun _ reached => reached = ledger) := by
  cases found : ledger.lassidToAsset.lookup assetId with
  | none => simp [removeAsset, found, Outcome.Satisfies]
  | some asset =>
    by_cases zero : asset.supply.toNat = 0
    · rw [removeAsset_run registry found zero]
      exact ⟨asset, rfl, zero, rfl⟩
    · have supplied : ¬isZero asset.supply = true := mt (isZero_iff _).mp zero
      simp [removeAsset, found, supplied, Outcome.Satisfies]

/-- What a look-up that found something leaves: the ledger, or the ledger without the asset. -/
def FoundAsset (ledger : Memory) (operation : Operation) (args : AssetArgs) (assetId : AssetId)
    (reached : Memory × AssetArgs) : Prop :=
  ∃ asset, ledger.lassidToAsset.lookup assetId = some asset ∧
    reached.2 = (args.fill asset).withId assetId ∧
    ((operation.finds ∧ reached.1 = ledger) ∨
      (operation = .findAndRemove ∧ asset.supply.toNat = 0 ∧
        reached.1 = ledger.dropAsset assetId asset))

/-- Removing the asset that was found, when the operation says so. -/
theorem removeFoundAsset_ensures (registry : ledger.Registry) {operation : Operation}
    (looked : looks operation) {assetId : AssetId} {asset : Asset} {args filled : AssetArgs}
    (found : ledger.lassidToAsset.lookup assetId = some asset)
    (written : filled = (args.fill asset).withId assetId) :
    ((removeFoundAsset operation assetId).run (ledger, filled)).Satisfies
      (fun _ reached => ledger.FoundAsset operation args assetId reached)
      (fun _ reached => reached.1 = ledger) := by
  simp only [removeFoundAsset, satisfies_ite, satisfies_onFirst, satisfies_pure]
  refine ⟨fun removes => ?_, fun keeps => ?_⟩
  · refine (removeAsset_ensures registry assetId).mono ?_ fun _ _ kept => kept
    rintro _ reached ⟨present, there, zero, rfl⟩
    obtain rfl := Option.some.inj (found.symm.trans there)
    exact ⟨asset, found, written, .inr ⟨removes, zero, rfl⟩⟩
  · exact ⟨asset, found, written, .inl ⟨looked.resolve_right keeps, rfl⟩⟩

/-- Looking an asset up by id. -/
theorem lookForAssetId_ensures (registry : ledger.Registry) (operation : Operation)
    (assetType : AssetType) (assetId : AssetId) (args : AssetArgs)
    (given : args.assetId = some assetId) :
    ((lookForAssetId operation assetType assetId).run (ledger, args)).Satisfies
      (fun settled reached =>
        (settled = true ∧ ∃ sought, ledger.FoundAsset operation args sought reached ∧
          (sought = assetId ∨ assetType = .base ∧ operation = .find ∧
            ledger.baseAssetIdDefined = true ∧ sought = ledger.baseAssetId)) ∨
        (settled = false ∧ reached = (ledger, args) ∧ ¬requires operation))
      (fun _ reached => reached.1 = ledger) := by
  simp only [lookForAssetId, satisfies_ite, satisfies_bind, satisfies_read, satisfies_update,
    satisfies_pure, satisfies_refuseIf]
  refine ⟨fun looked => ?_, fun skipped => .inr ⟨trivial, trivial, ?_⟩⟩
  · refine (findAssetInto_ensures _ ledger _).mono ?_ fun _ _ kept => kept
    rintro found reached (⟨rfl, asset, there, rfl⟩ | ⟨rfl, absent, rfl⟩)
    · refine ⟨fun _ => ?_, fun missing => absurd rfl missing⟩
      refine (removeFoundAsset_ensures registry looked there rfl).mono ?_ fun _ _ kept => kept
      intro _ _ done
      refine .inl ⟨trivial, _, done, ?_⟩
      split
      · obtain ⟨find, base, defined⟩ := ‹_›
        exact .inr ⟨base, find, defined, rfl⟩
      · exact .inl rfl
    · refine ⟨fun present => absurd present Bool.false_ne_true, fun _ => ?_⟩
      refine ⟨fun _ => rfl, fun optional => .inr ⟨trivial, ?_, optional⟩⟩
      have sought : ¬(operation = .find ∧ assetType = .base ∧
          ledger.baseAssetIdDefined = true) := fun all => optional (.inl all.1)
      rw [if_neg sought, AssetArgs.withId, given]
      cases args
      simp_all
  · rintro (rfl | rfl)
    · exact skipped (.inl (.inl rfl))
    · exact skipped (.inr rfl)

/-- Looking an asset up by key. -/
theorem lookForAssetKey_ensures (registry : ledger.Registry) (operation : Operation)
    (assetKey : AssetKey) (args : AssetArgs) :
    ((lookForAssetKey operation assetKey).run (ledger, args)).Satisfies
      (fun settled reached =>
        (settled = true ∧ ∃ sought, ledger.FoundAsset operation args sought reached ∧
          ledger.assetToLassid.lookup assetKey = some sought) ∨
        (settled = false ∧ reached = (ledger, args) ∧ ¬requires operation))
      (fun _ reached => reached.1 = ledger) := by
  simp only [lookForAssetKey, satisfies_ite, satisfies_bind, satisfies_read, satisfies_pure]
  refine ⟨fun looked => ?_, fun skipped => .inr ⟨trivial, trivial, ?_⟩⟩
  · cases named : ledger.assetToLassid.lookup assetKey with
    | none =>
      simp only [satisfies_bind, satisfies_refuseIf, satisfies_pure]
      exact ⟨fun _ => trivial, fun optional => .inr ⟨trivial, trivial, optional⟩⟩
    | some assetId =>
      simp only [satisfies_bind, satisfies_refuseIf, satisfies_update, satisfies_pure]
      refine (findAssetInto_ensures assetId ledger args).mono ?_ fun _ _ kept => kept
      rintro found reached (⟨rfl, asset, there, rfl⟩ | ⟨rfl, absent, rfl⟩)
      · refine ⟨fun missing => absurd rfl missing, fun _ => ?_⟩
        refine (removeFoundAsset_ensures registry looked there rfl).mono ?_ fun _ _ kept => kept
        exact fun _ _ done => .inl ⟨trivial, _, done, rfl⟩
      · exact ⟨fun _ => rfl, fun present => absurd Bool.false_ne_true present⟩
  · rintro (rfl | rfl)
    · exact skipped (.inl (.inl rfl))
    · exact skipped (.inr rfl)

/-- How the creation of an asset without a key ends, the next id being free. -/
theorem createAssetId_run (config : Config)
    (vacant : ledger.lassidToAsset.lookup ledger.nextAssetId = none) {assetType : AssetType}
    (unkeyed : (Asset.ofType assetType).key = none) (args : AssetArgs) :
    (createAssetId config assetType).run (ledger, args) =
      if config.maxAssets ≤ ledger.nextAssetId then
        .throw ⟨"Max assets reached", errorMaxAssetsReached⟩ (ledger, args)
      else if assetType = .base ∧ ledger.baseAssetIdDefined = true then
        .throw ⟨"Base asset already inserted", errorInsertion⟩ (ledger, args)
      else
        .ok () (ledger.addAsset (.ofType assetType), args.withId ledger.nextAssetId) := by
  have type : (Asset.ofType assetType).type = assetType := rfl
  by_cases full : config.maxAssets ≤ ledger.nextAssetId
  · simp [createAssetId, refuseMaxAssets, full]
  · by_cases taken : assetType = .base ∧ ledger.baseAssetIdDefined = true
    · simp [createAssetId, refuseMaxAssets, full, taken]
    · by_cases base : assetType = .base
      · subst base
        have undefined : ledger.baseAssetIdDefined = false := by simpa using taken
        simp [createAssetId, refuseMaxAssets, insertAsset, takeAssetId, full, vacant, addAsset,
          unkeyed, type, Finmap.insertKey, undefined]
      · simp [createAssetId, refuseMaxAssets, insertAsset, takeAssetId, full, vacant, addAsset,
          unkeyed, type, Finmap.insertKey, base]

/-- Creating an asset without a key. -/
theorem createAssetId_ensures (registry : ledger.Registry) {assetType : AssetType}
    (unkeyed : (Asset.ofType assetType).key = none) (args : AssetArgs) :
    ((createAssetId config assetType).run (ledger, args)).Satisfies
      (fun _ reached => ledger.nextAssetId < config.maxAssets ∧
        (assetType = .base → ledger.baseAssetIdDefined = false) ∧
        reached = (ledger.addAsset (.ofType assetType), args.withId ledger.nextAssetId))
      (fun _ reached => reached.1 = ledger) := by
  rw [createAssetId_run config registry.asset_fresh unkeyed]
  split
  · exact rfl
  · split
    · exact rfl
    · rename_i roomy free
      refine ⟨Nat.not_le.mp roomy, fun base => ?_, rfl⟩
      simpa [base] using free

/-- How the creation of an asset with a key ends, the next id being free. -/
theorem createAssetKey_run (config : Config)
    (vacant : ledger.lassidToAsset.lookup ledger.nextAssetId = none) {assetKey : AssetKey}
    {newAsset : Asset} (keyed : newAsset.key = some assetKey) (args : AssetArgs) :
    (createAssetKey config assetKey newAsset).run (ledger, args) =
      if config.maxAssets ≤ ledger.nextAssetId then
        .throw ⟨"Max assets reached", errorMaxAssetsReached⟩ (ledger, args)
      else if (ledger.assetToLassid.lookup assetKey).isSome then
        .throw ⟨"Asset Key already exists", errorInsertion⟩ (ledger, args)
      else .ok () (ledger.addAsset newAsset, args.withId ledger.nextAssetId) := by
  have unbased : newAsset.type ≠ .base := fun base => by simp [Asset.key, base] at keyed
  by_cases full : config.maxAssets ≤ ledger.nextAssetId
  · simp [createAssetKey, refuseMaxAssets, full]
  · by_cases taken : (ledger.assetToLassid.lookup assetKey).isSome
    · simp [createAssetKey, refuseMaxAssets, full, taken]
    · simp [createAssetKey, refuseMaxAssets, insertAsset, takeAssetId, full, taken, vacant,
        addAsset, keyed, Finmap.insertKey, unbased]

/-- Creating an asset with a key. -/
theorem createAssetKey_ensures (registry : ledger.Registry) {assetKey : AssetKey}
    {newAsset : Asset} (keyed : newAsset.key = some assetKey) (args : AssetArgs) :
    ((createAssetKey config assetKey newAsset).run (ledger, args)).Satisfies
      (fun _ reached => ledger.nextAssetId < config.maxAssets ∧
        ledger.assetToLassid.lookup assetKey = none ∧
        reached = (ledger.addAsset newAsset, args.withId ledger.nextAssetId))
      (fun _ reached => reached.1 = ledger) := by
  rw [createAssetKey_run config registry.asset_fresh keyed]
  split
  · exact rfl
  · split
    · exact rfl
    · exact ⟨Nat.not_le.mp ‹_›, Option.not_isSome_iff_eq_none.mp ‹_›, rfl⟩

/-- A successful look-up is a result, when the asset is the one asked for. -/
theorem FoundAsset.result {operation : Operation} {args : AssetArgs} {assetId : AssetId}
    {reached : Memory × AssetArgs} (done : ledger.FoundAsset operation args assetId reached)
    (keyed : ∀ asset, ledger.lassidToAsset.lookup assetId = some asset →
      ∀ key, args.requestedKey = some key → asset.key = some key)
    (named : args.requestedKey = none → args.assetId = some assetId ∨
      args.assetType = some .base ∧ operation = .find ∧ ledger.baseAssetIdDefined = true ∧
        assetId = ledger.baseAssetId) :
    AssetResult config ledger operation args reached.1 reached.2 := by
  obtain ⟨asset, present, written, ⟨finds, kept⟩ | ⟨removes, zero, gone⟩⟩ := done
  · rw [written, kept]
    exact .found assetId asset finds present (keyed asset present) named
  · rw [written, gone]
    refine .removed assetId asset removes present zero (keyed asset present) fun unkeyed => ?_
    refine (named unkeyed).resolve_right fun base => ?_
    rw [removes] at base
    exact absurd base.2.1 (by decide)

/-- `retrieve_asset` for a type without a key. -/
theorem retrieveUnkeyedAsset_ensures (registry : ledger.Registry) (operation : Operation)
    {assetType : AssetType} (unkeyed : (Asset.ofType assetType).key = none) (args : AssetArgs)
    (type : args.assetType = some assetType) (unrequested : args.requestedKey = none) :
    ((retrieveUnkeyedAsset config operation assetType).run (ledger, args)).Satisfies
      (fun _ reached => AssetResult config ledger operation args reached.1 reached.2)
      (fun _ reached => reached.1 = ledger) := by
  simp only [retrieveUnkeyedAsset, satisfies_bind, satisfies_read, satisfies_orRaise]
  refine ⟨fun _ => trivial, fun assetId given => ?_⟩
  refine (lookForAssetId_ensures registry operation assetType assetId args given).mono ?_
    fun _ _ kept => kept
  rintro settled reached (⟨rfl, sought, done, which⟩ | ⟨rfl, rfl, optional⟩)
  · simp only [not_true_eq_false, false_and, ↓reduceIte, satisfies_pure]
    refine done.result (fun _ _ _ requested => ?_) fun _ => ?_
    · rw [unrequested] at requested
      contradiction
    · rcases which with rfl | ⟨rfl, finds⟩
      · exact .inl given
      · exact .inr ⟨type, finds⟩
  · simp only [Bool.false_eq_true, not_false_eq_true, true_and, satisfies_ite, satisfies_pure]
    refine ⟨fun creates => ?_, fun idle => ?_⟩
    · refine (createAssetId_ensures registry unkeyed args).mono ?_ fun _ _ kept => kept
      rintro _ reached ⟨room, single, rfl⟩
      refine .added _ creates room type ?_ ?_ single rfl ?_
      · rw [unkeyed, unrequested]
      · intro key keyed
        rw [unkeyed] at keyed
        contradiction
      · unfold Plain
        split <;> first | exact ⟨rfl, rfl⟩ | rfl | trivial
    · -- An operation that neither requires the asset nor creates it does not exist.
      cases operation <;> simp [requires, Operation.creates] at optional idle

/-- `retrieve_asset` for a type with a key. -/
theorem retrieveKeyedAsset_ensures (registry : ledger.Registry) (operation : Operation)
    {assetKey : AssetKey} {newAsset : Asset} (keyed : newAsset.key = some assetKey)
    (args : AssetArgs) (type : args.assetType = some newAsset.type)
    (requested : args.requestedKey = some assetKey) (unsupplied : newAsset.supply = zeros 32)
    (plain : Plain newAsset) :
    ((retrieveKeyedAsset config operation assetKey newAsset).run (ledger, args)).Satisfies
      (fun _ reached => AssetResult config ledger operation args reached.1 reached.2)
      (fun _ reached => reached.1 = ledger) := by
  simp only [retrieveKeyedAsset, satisfies_bind]
  refine (lookForAssetKey_ensures registry operation assetKey args).mono ?_ fun _ _ kept => kept
  rintro settled reached (⟨rfl, sought, done, named⟩ | ⟨rfl, rfl, optional⟩)
  · simp only [not_true_eq_false, false_and, ↓reduceIte, satisfies_pure]
    refine done.result (fun asset present key wanted => ?_) fun unkeyed => ?_
    · obtain ⟨other, there, has⟩ := (registry.assetKeys assetKey sought).mp named
      obtain rfl := Option.some.inj (present.symm.trans there)
      rw [has, ← requested, wanted]
    · rw [requested] at unkeyed
      contradiction
  · simp only [Bool.false_eq_true, not_false_eq_true, true_and, satisfies_ite, satisfies_pure]
    refine ⟨fun creates => ?_, fun idle => ?_⟩
    · refine (createAssetKey_ensures registry keyed args).mono ?_ fun _ _ kept => kept
      rintro _ reached ⟨room, fresh, rfl⟩
      refine .added _ creates room type (keyed.trans requested.symm) ?_ ?_ unsupplied plain
      · intro key same
        rw [keyed, Option.some.injEq] at same
        exact same ▸ fresh
      · intro base
        simp [Asset.key, base] at keyed
    · cases operation <;> simp [requires, Operation.creates] at optional idle

/-- `retrieve_asset` finds, adds or removes one asset, or throws and changes nothing. -/
theorem retrieveAsset_ensures (config : Config) (registry : ledger.Registry) (operation : Operation)
    (args : AssetArgs) :
    ((retrieveAsset config operation).run (ledger, args)).Satisfies
      (fun _ reached => AssetResult config ledger operation args reached.1 reached.2)
      (fun _ reached => reached.1 = ledger) := by
  simp only [retrieveAsset, satisfies_bind, satisfies_read]
  cases type : args.assetType with
  | none => exact rfl
  | some assetType =>
    cases assetType with
    | id =>
      exact retrieveUnkeyedAsset_ensures registry operation rfl args type
        (by simp [AssetArgs.requestedKey, type])
    | base =>
      exact retrieveUnkeyedAsset_ensures registry operation rfl args type
        (by simp [AssetArgs.requestedKey, type])
    | tokenAddress =>
      simp only [satisfies_bind, satisfies_orRaise]
      refine ⟨fun _ => trivial, fun address given => ?_⟩
      exact retrieveKeyedAsset_ensures registry operation rfl args type
        (by simp [AssetArgs.requestedKey, type, given]) rfl rfl
    | tokenAddressId =>
      simp only [satisfies_bind, satisfies_orRaise]
      refine ⟨fun _ => trivial, fun address given => ⟨fun _ => trivial, fun tokenId named => ?_⟩⟩
      exact retrieveKeyedAsset_ensures registry operation rfl args type
        (by simp [AssetArgs.requestedKey, type, given, named]) rfl trivial
    | tokenAddressIdAmount =>
      simp only [satisfies_bind, satisfies_orRaise]
      refine ⟨fun _ => trivial, fun address given => ⟨fun _ => trivial, fun tokenId named => ?_⟩⟩
      exact retrieveKeyedAsset_ensures registry operation rfl args type
        (by simp [AssetArgs.requestedKey, type, given, named]) rfl trivial

/-- How `retrieve_account` ends when it returns. -/
inductive AccountResult (config : Config) (ledger : Memory) (operation : Operation)
    (args : AccountArgs) : Memory → AccountArgs → Prop
  /-- An account was found. -/
  | found (accountId : AccountId) (owner : AccountStruct) (finds : operation.finds)
      (present : ledger.laccidToAccount.lookup accountId = some owner)
      (keyed : ∀ account, args.requested = some account →
        owner.account.key = some account.accountId)
      (named : args.requested = none → args.accountId = some accountId) (answer : AccountArgs)
      (reported : answer.accountId = args.accountId.map fun _ => accountId) :
      AccountResult config ledger operation args ledger answer
  /-- An account was added. -/
  | added (account : Account) (creates : operation.creates)
      (room : ledger.nextAccountId < config.maxAccounts)
      (asked : ∀ requested, args.requested = some requested → account = requested)
      (unasked : args.requested = none → account = ⟨.id, zeros 32⟩)
      (fresh : ∀ key, account.key = some key → ledger.accountToLaccid.lookup key = none)
      (wallet : account.type = .walletAddress → accountFix account.accountId = zeros 12)
      (answer : AccountArgs)
      (reported : answer.accountId = args.accountId.map fun _ => ledger.nextAccountId) :
      AccountResult config ledger operation args (ledger.addAccount account) answer
  /-- An account was removed. -/
  | removed (accountId : AccountId) (owner : AccountStruct) (removes : operation = .findAndRemove)
      (present : ledger.laccidToAccount.lookup accountId = some owner)
      (empty : owner.nBalances = 0)
      (keyed : ∀ account, args.requested = some account →
        owner.account.key = some account.accountId)
      (named : args.requested = none → args.accountId = some accountId) (answer : AccountArgs)
      (reported : answer.accountId = args.accountId.map fun _ => accountId) :
      AccountResult config ledger operation args (ledger.dropAccount accountId owner.account) answer

/-- `find_account` with the caller's pointers. -/
theorem findAccountInto_ensures (accountId : AccountId) (ledger : Memory) (args : AccountArgs) :
    ((findAccountInto accountId).run (ledger, args)).Satisfies
      (fun found reached =>
        (found = true ∧ ∃ owner, ledger.laccidToAccount.lookup accountId = some owner ∧
          reached = (ledger, args.fill owner.account (some owner.nBalances))) ∨
        (found = false ∧ ledger.laccidToAccount.lookup accountId = none ∧
          reached = (ledger, args)))
      (fun _ reached => reached.1 = ledger) := by
  simp only [findAccountInto, satisfies_bind, satisfies_read]
  cases found : ledger.laccidToAccount.lookup accountId with
  | none => exact .inr ⟨rfl, rfl, rfl⟩
  | some owner => exact .inl ⟨rfl, owner, rfl, rfl⟩

/-- `remove_account` removes an account without balances; the key it erases is there. -/
theorem removeAccount_run (registry : ledger.Registry) {accountId : AccountId}
    {owner : AccountStruct} (found : ledger.laccidToAccount.lookup accountId = some owner)
    (zero : owner.nBalances = 0) :
    (removeAccount accountId).run ledger =
      .ok () (ledger.dropAccount accountId owner.account) := by
  have named (key : Bytes32) (keyed : owner.account.key = some key) :
      ledger.accountToLaccid.lookup key = some accountId :=
    (registry.accountKeys key accountId).mpr
      ⟨owner.account, by rw [account, found, Option.map_some], keyed⟩
  cases type : owner.account.type with
  | id => simp [removeAccount, found, zero, dropAccount, Finmap.eraseKey, Account.key, type]
  | walletAddress =>
    have key := named owner.account.accountId (by simp [Account.key, type])
    simp [removeAccount, eraseAccountKey, key, found, zero, dropAccount, Finmap.eraseKey,
      Account.key, type]
  | accountId =>
    have key := named owner.account.accountId (by simp [Account.key, type])
    simp [removeAccount, eraseAccountKey, key, found, zero, dropAccount, Finmap.eraseKey,
      Account.key, type]

/-- `remove_account` refuses, or removes an account without balances. -/
theorem removeAccount_ensures (registry : ledger.Registry) (accountId : AccountId) :
    ((removeAccount accountId).run ledger).Satisfies
      (fun _ reached => ∃ owner, ledger.laccidToAccount.lookup accountId = some owner ∧
        owner.nBalances = 0 ∧ reached = ledger.dropAccount accountId owner.account)
      (fun _ reached => reached = ledger) := by
  cases found : ledger.laccidToAccount.lookup accountId with
  | none => simp [removeAccount, found, Outcome.Satisfies]
  | some owner =>
    by_cases zero : owner.nBalances = 0
    · rw [removeAccount_run registry found zero]
      exact ⟨owner, rfl, zero, rfl⟩
    · have counts : 0 < owner.nBalances := Nat.pos_of_ne_zero zero
      simp [removeAccount, found, counts, Outcome.Satisfies]

/-- What a look-up that found something leaves: the ledger, or the ledger without the account. -/
def FoundAccount (ledger : Memory) (operation : Operation) (args : AccountArgs)
    (accountId : AccountId) (reached : Memory × AccountArgs) : Prop :=
  ∃ owner, ledger.laccidToAccount.lookup accountId = some owner ∧
    (reached.2.accountId = args.accountId.map fun _ => accountId) ∧
    ((operation.finds ∧ reached.1 = ledger) ∨
      (operation = .findAndRemove ∧ owner.nBalances = 0 ∧
        reached.1 = ledger.dropAccount accountId owner.account))

/-- Removing the account that was found, when the operation says so. -/
theorem removeFoundAccount_ensures (registry : ledger.Registry) {operation : Operation}
    (looked : looks operation) {accountId : AccountId} {owner : AccountStruct}
    (args : AccountArgs) {filled : AccountArgs}
    (found : ledger.laccidToAccount.lookup accountId = some owner)
    (written : filled.accountId = args.accountId.map fun _ => accountId) :
    ((removeFoundAccount operation accountId).run (ledger, filled)).Satisfies
      (fun _ reached => ledger.FoundAccount operation args accountId reached)
      (fun _ reached => reached.1 = ledger) := by
  simp only [removeFoundAccount, satisfies_ite, satisfies_onFirst, satisfies_pure]
  refine ⟨fun removes => ?_, fun keeps => ?_⟩
  · refine (removeAccount_ensures registry accountId).mono ?_ fun _ _ kept => kept
    rintro _ reached ⟨present, there, zero, rfl⟩
    obtain rfl := Option.some.inj (found.symm.trans there)
    exact ⟨owner, found, written, .inr ⟨removes, zero, rfl⟩⟩
  · exact ⟨owner, found, written, .inl ⟨looked.resolve_right keeps, rfl⟩⟩

/-- Looking an account up by id. -/
theorem lookForAccountId_ensures (registry : ledger.Registry) (operation : Operation)
    (accountId : AccountId) (args : AccountArgs) (given : args.accountId = some accountId) :
    ((lookForAccountId operation accountId).run (ledger, args)).Satisfies
      (fun settled reached =>
        (settled = true ∧ ledger.FoundAccount operation args accountId reached) ∨
        (settled = false ∧ reached = (ledger, args) ∧ ¬requires operation))
      (fun _ reached => reached.1 = ledger) := by
  simp only [lookForAccountId, satisfies_ite, satisfies_bind, satisfies_update, satisfies_pure,
    satisfies_refuseIf]
  refine ⟨fun looked => ?_, fun skipped => .inr ⟨trivial, trivial, ?_⟩⟩
  · refine (findAccountInto_ensures _ ledger _).mono ?_ fun _ _ kept => kept
    rintro found reached (⟨rfl, owner, there, rfl⟩ | ⟨rfl, absent, rfl⟩)
    · refine ⟨fun _ => ?_, fun missing => absurd rfl missing⟩
      refine (removeFoundAccount_ensures registry looked args there ?_).mono ?_
        fun _ _ kept => kept
      · rw [AccountArgs.accountId_copyType, given]
        exact given
      · exact fun _ _ done => .inl ⟨trivial, done⟩
    · refine ⟨fun present => absurd present Bool.false_ne_true, fun _ => ?_⟩
      exact ⟨fun _ => rfl, fun optional => .inr ⟨trivial, rfl, optional⟩⟩
  · rintro (rfl | rfl)
    · exact skipped (.inl (.inl rfl))
    · exact skipped (.inr rfl)

/-- Looking an account up by key. -/
theorem lookForAccountKey_ensures (registry : ledger.Registry) (operation : Operation)
    (accountKey : Bytes32) (args : AccountArgs) :
    ((lookForAccountKey operation accountKey).run (ledger, args)).Satisfies
      (fun settled reached =>
        (settled = true ∧ ∃ sought, ledger.FoundAccount operation args sought reached ∧
          ledger.accountToLaccid.lookup accountKey = some sought) ∨
        (settled = false ∧ reached = (ledger, args) ∧ ¬requires operation))
      (fun _ reached => reached.1 = ledger) := by
  simp only [lookForAccountKey, satisfies_ite, satisfies_bind, satisfies_read, satisfies_pure]
  refine ⟨fun looked => ?_, fun skipped => .inr ⟨trivial, trivial, ?_⟩⟩
  · cases named : ledger.accountToLaccid.lookup accountKey with
    | none =>
      simp only [satisfies_bind, satisfies_refuseIf, satisfies_pure]
      exact ⟨fun _ => trivial, fun optional => .inr ⟨trivial, trivial, optional⟩⟩
    | some accountId =>
      simp only [satisfies_bind, satisfies_refuseIf, satisfies_update, satisfies_pure]
      refine (findAccountInto_ensures accountId ledger args).mono ?_ fun _ _ kept => kept
      rintro found reached (⟨rfl, owner, there, rfl⟩ | ⟨rfl, absent, rfl⟩)
      · refine ⟨fun missing => absurd rfl missing, fun _ => ?_⟩
        refine (removeFoundAccount_ensures registry looked args there ?_).mono ?_
          fun _ _ kept => kept
        · rw [AccountArgs.accountId_copyType]
          rfl
        · exact fun _ _ done => .inl ⟨trivial, _, done, rfl⟩
      · exact ⟨fun _ => rfl, fun present => absurd Bool.false_ne_true present⟩
  · rintro (rfl | rfl)
    · exact skipped (.inl (.inl rfl))
    · exact skipped (.inr rfl)

/-- How the creation of an account without a key ends, the next id being free. -/
theorem createAccountId_run (config : Config)
    (vacant : ledger.laccidToAccount.lookup ledger.nextAccountId = none) (args : AccountArgs) :
    (createAccountId config).run (ledger, args) =
      if config.maxAccounts ≤ ledger.nextAccountId then
        .throw ⟨"Max accounts reached", errorMaxAccountsReached⟩ (ledger, args)
      else .ok () (ledger.addAccount ⟨.id, zeros 32⟩, args.withId ledger.nextAccountId) := by
  by_cases full : config.maxAccounts ≤ ledger.nextAccountId
  · simp [createAccountId, refuseMaxAccounts, full]
  · simp [createAccountId, refuseMaxAccounts, insertAccount, takeAccountId, full, vacant,
      addAccount, Account.key, Finmap.insertKey]

/-- Creating an account without a key. -/
theorem createAccountId_ensures (registry : ledger.Registry) (args : AccountArgs) :
    ((createAccountId config).run (ledger, args)).Satisfies
      (fun _ reached => ledger.nextAccountId < config.maxAccounts ∧
        reached = (ledger.addAccount ⟨.id, zeros 32⟩, args.withId ledger.nextAccountId))
      (fun _ reached => reached.1 = ledger) := by
  rw [createAccountId_run config registry.account_fresh]
  split
  · exact rfl
  · exact ⟨Nat.not_le.mp ‹_›, rfl⟩

/-- What the creation of an account with a key leaves in the variables. -/
def answerCreated (args : AccountArgs) (account : Account) (accountId : AccountId) : AccountArgs :=
  { (args.fill account none).withId accountId with accountType := some account.type }

/-- How the creation of an account with a key ends, the next id being free. -/
theorem createAccountKey_run (config : Config)
    (vacant : ledger.laccidToAccount.lookup ledger.nextAccountId = none) {account : Account}
    (keyed : account.key = some account.accountId) (args : AccountArgs) :
    (createAccountKey config account).run (ledger, args) =
      if config.maxAccounts ≤ ledger.nextAccountId then
        .throw ⟨"Max accounts reached", errorMaxAccountsReached⟩ (ledger, args)
      else if (ledger.accountToLaccid.lookup account.accountId).isSome then
        .throw ⟨"Account Key already exists", errorInsertion⟩ (ledger, args)
      else .ok () (ledger.addAccount account, answerCreated args account ledger.nextAccountId) := by
  by_cases full : config.maxAccounts ≤ ledger.nextAccountId
  · simp [createAccountKey, refuseMaxAccounts, full]
  · by_cases taken : (ledger.accountToLaccid.lookup account.accountId).isSome
    · simp [createAccountKey, refuseMaxAccounts, full, taken]
    · simp [createAccountKey, refuseMaxAccounts, insertAccount, takeAccountId, full, taken,
        vacant, addAccount, keyed, Finmap.insertKey, answerCreated, AccountArgs.withId]

/-- Creating an account with a key. -/
theorem createAccountKey_ensures (registry : ledger.Registry) {account : Account}
    (keyed : account.key = some account.accountId) (args : AccountArgs) :
    ((createAccountKey config account).run (ledger, args)).Satisfies
      (fun _ reached => ledger.nextAccountId < config.maxAccounts ∧
        ledger.accountToLaccid.lookup account.accountId = none ∧
        reached.1 = ledger.addAccount account ∧
        (reached.2.accountId = args.accountId.map fun _ => ledger.nextAccountId))
      (fun _ reached => reached.1 = ledger) := by
  rw [createAccountKey_run config registry.account_fresh keyed]
  split
  · exact rfl
  · split
    · exact rfl
    · exact ⟨Nat.not_le.mp ‹_›, Option.not_isSome_iff_eq_none.mp ‹_›, rfl, rfl⟩

/-- A successful look-up is a result, when the account is the one asked for. -/
theorem FoundAccount.result {operation : Operation} {args : AccountArgs} {accountId : AccountId}
    {reached : Memory × AccountArgs} (done : ledger.FoundAccount operation args accountId reached)
    (keyed : ∀ owner, ledger.laccidToAccount.lookup accountId = some owner →
      ∀ account, args.requested = some account → owner.account.key = some account.accountId)
    (named : args.requested = none → args.accountId = some accountId) :
    AccountResult config ledger operation args reached.1 reached.2 := by
  obtain ⟨owner, present, written, ⟨finds, kept⟩ | ⟨removes, zero, gone⟩⟩ := done
  · rw [kept]
    exact .found accountId owner finds present (keyed owner present) named _ written
  · rw [gone]
    exact .removed accountId owner removes present zero (keyed owner present) named _ written

/-- `retrieve_account` for an account without a key. -/
theorem retrieveUnkeyedAccount_ensures (registry : ledger.Registry) (operation : Operation)
    (args : AccountArgs) (unrequested : args.requested = none) :
    ((retrieveUnkeyedAccount config operation).run (ledger, args)).Satisfies
      (fun _ reached => AccountResult config ledger operation args reached.1 reached.2)
      (fun _ reached => reached.1 = ledger) := by
  simp only [retrieveUnkeyedAccount, satisfies_bind, satisfies_read, satisfies_orRaise]
  refine ⟨fun _ => trivial, fun accountId given => ?_⟩
  refine (lookForAccountId_ensures registry operation accountId args given).mono ?_
    fun _ _ kept => kept
  rintro settled reached (⟨rfl, done⟩ | ⟨rfl, rfl, optional⟩)
  · simp only [not_true_eq_false, false_and, ↓reduceIte, satisfies_pure]
    refine done.result (fun _ _ _ requested => ?_) fun _ => given
    rw [unrequested] at requested
    contradiction
  · simp only [Bool.false_eq_true, not_false_eq_true, true_and, satisfies_ite, satisfies_pure]
    refine ⟨fun creates => ?_, fun idle => ?_⟩
    · refine (createAccountId_ensures registry args).mono ?_ fun _ _ kept => kept
      rintro _ reached ⟨room, rfl⟩
      refine .added _ creates room ?_ (fun _ => rfl) ?_ ?_ _ rfl
      · intro requested asked
        rw [unrequested] at asked
        contradiction
      · exact fun _ keyed => by simp [Account.key] at keyed
      · exact fun wallet => by simp at wallet
    · cases operation <;> simp [requires, Operation.creates] at optional idle

/-- `retrieve_account` for an account with a key. -/
theorem retrieveKeyedAccount_ensures (registry : ledger.Registry) (operation : Operation)
    {accountType : AccountType} (typed : accountType ≠ .id) (args : AccountArgs)
    (requested : args.requested = args.local? accountType) :
    ((retrieveKeyedAccount config operation accountType).run (ledger, args)).Satisfies
      (fun _ reached => AccountResult config ledger operation args reached.1 reached.2)
      (fun _ reached => reached.1 = ledger) := by
  simp only [retrieveKeyedAccount, localAccount, satisfies_bind, satisfies_read,
    satisfies_orRaise]
  refine ⟨fun _ => trivial, fun account built => ?_⟩
  obtain ⟨keyedType, wallet⟩ := AccountArgs.local?_plain typed built
  have keyed : account.key = some account.accountId := Account.key_some keyedType
  refine (lookForAccountKey_ensures registry operation account.accountId args).mono ?_
    fun _ _ kept => kept
  rintro settled reached (⟨rfl, sought, done, named⟩ | ⟨rfl, rfl, optional⟩)
  · simp only [not_true_eq_false, false_and, ↓reduceIte, satisfies_pure]
    refine done.result (fun owner present other wanted => ?_) fun unasked => ?_
    · obtain ⟨found, there, has⟩ := (registry.accountKeys _ sought).mp named
      rw [Memory.account, present, Option.map_some, Option.some.injEq] at there
      rw [requested, built, Option.some.injEq] at wanted
      rw [there, has, wanted]
    · rw [requested, built] at unasked
      contradiction
  · simp only [Bool.false_eq_true, not_false_eq_true, true_and, satisfies_ite, satisfies_pure]
    refine ⟨fun creates => ?_, fun idle => ?_⟩
    · refine (createAccountKey_ensures registry keyed args).mono ?_ fun _ _ kept => kept
      rintro _ ⟨after, answer⟩ ⟨room, fresh, rfl, reported⟩
      refine .added _ creates room ?_ ?_ ?_ wallet _ reported
      · intro other asked
        rw [requested, built, Option.some.injEq] at asked
        exact asked
      · intro unasked
        rw [requested, built] at unasked
        contradiction
      · intro key same
        rw [keyed, Option.some.injEq] at same
        exact same ▸ fresh
    · cases operation <;> simp [requires, Operation.creates] at optional idle

/-- `retrieve_account` finds, adds or removes one account, or throws and changes nothing. -/
theorem retrieveAccount_ensures (config : Config) (registry : ledger.Registry)
    (operation : Operation)
    (args : AccountArgs) :
    ((retrieveAccount config operation).run (ledger, args)).Satisfies
      (fun _ reached => AccountResult config ledger operation args reached.1 reached.2)
      (fun _ reached => reached.1 = ledger) := by
  simp only [retrieveAccount, satisfies_bind, satisfies_read]
  cases type : args.accountType with
  | none => exact rfl
  | some accountType =>
    cases accountType with
    | id =>
      exact retrieveUnkeyedAccount_ensures registry operation args
        (by simp [AccountArgs.requested, type])
    | walletAddress =>
      exact retrieveKeyedAccount_ensures registry operation (by decide) args
        (by simp [AccountArgs.requested, type])
    | accountId =>
      exact retrieveKeyedAccount_ensures registry operation (by decide) args
        (by simp [AccountArgs.requested, type])

end Memory

end Libcma
