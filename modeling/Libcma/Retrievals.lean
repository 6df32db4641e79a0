import Libcma.Ledger.BasicRetrieve
import Libcma.Memory.Runs

/-!
# What a retrieval is for

`retrieve_asset` and `retrieve_account` take an operation: find an item, create one, do whichever is
needed, or find and remove one. `Retrieval.Does` says what each of them promises; the memory ledger
keeps the promise in every call that returns, the basic ledger in all but the removals.
-/

namespace Libcma

open Exec

/-- A retrieval that returned, over the items of a ledger by their ids. -/
structure Retrieval (α : Type) where
  /-- The items before the call. -/
  before : ℕ → Option α
  /-- The items after it. -/
  after : ℕ → Option α
  /-- The call changed nothing. -/
  unchanged : Prop
  /-- The caller asked for the item under this id, if for any id. -/
  asked : ℕ → Prop
  /-- An item has the key fields that the caller supplied. -/
  keyed : α → Prop
  /-- The caller's id, when there is one to write, is this one. -/
  told : ℕ → Prop

namespace Retrieval

variable {α : Type} (retrieval : Retrieval α)

/-- The item existed and is named, and the state is unchanged. -/
def Found : Prop :=
  retrieval.unchanged ∧ ∃ id item, retrieval.before id = some item ∧ retrieval.asked id ∧
    retrieval.keyed item ∧ retrieval.told id

/-- A new item exists under an id that was not in use, and is named. -/
def Created : Prop :=
  ∃ id item, retrieval.before id = none ∧ retrieval.after id = some item ∧ retrieval.keyed item ∧
    retrieval.told id

/-- The item existed and does not any more. -/
def Removed : Prop :=
  ∃ id item, retrieval.before id = some item ∧ retrieval.asked id ∧ retrieval.keyed item ∧
    retrieval.after id = none

/-- What an operation promises. -/
def Does : Operation → Prop
  | .find => retrieval.Found
  | .create => retrieval.Created
  | .findOrCreate => retrieval.Found ∨ retrieval.Created
  | .findAndRemove => retrieval.Removed

variable {retrieval} {operation : Operation}

/-- An operation that finds does what it promises by finding. -/
theorem Found.does (found : retrieval.Found) (finds : operation.finds) :
    retrieval.Does operation := by
  rcases finds with rfl | rfl
  · exact found
  · exact .inl found

/-- An operation that creates does what it promises by creating. -/
theorem Created.does (created : retrieval.Created) (creates : operation.creates) :
    retrieval.Does operation := by
  rcases creates with rfl | rfl
  · exact created
  · exact .inr created

/-- A call that leaves every item removes none. -/
theorem not_removed (same : retrieval.after = retrieval.before) : ¬retrieval.Removed := by
  rintro ⟨id, item, present, -, -, gone⟩
  rw [same, present] at gone
  contradiction

end Retrieval

/-- An asset has the token address, and the token id, that were supplied for a type with a key. -/
def AssetArgs.Keys (args : AssetArgs) (asset : Asset) : Prop :=
  match args.assetType with
  | some .tokenAddress => ∀ address, args.tokenAddress = some address → asset.tokenAddress = address
  | some .tokenAddressId | some .tokenAddressIdAmount => ∀ address tokenId,
    args.tokenAddress = some address → args.tokenId = some tokenId →
      asset.tokenAddress = address ∧ asset.tokenId = tokenId
  | _ => True

/-- By id, the asset at the caller's id is asked for; by the type base, that one or the one noted as
base asset. -/
def AssetArgs.Asks (args : AssetArgs) (noted : Option AssetId) (assetId : AssetId) : Prop :=
  (args.assetType = some .id → args.assetId = some assetId) ∧
    (args.assetType = some .base → args.assetId = some assetId ∨ noted = some assetId)

/-- The key bytes supplied for an account: those at `addr_accid`, or those of the account when that
is null. A wallet address stands behind 12 zero bytes. -/
def AccountArgs.suppliedKey (args : AccountArgs) : Option Bytes32 :=
  match args.accountType with
  | some .walletAddress =>
    match args.addrAccid with
    | some bytes => some (walletId (leadingAddress bytes))
    | none => args.account.map fun account => walletId (accountAddress account.accountId)
  | some .accountId =>
    match args.addrAccid with
    | some bytes => some bytes
    | none => args.account.map fun account => account.accountId
  | _ => none

/-- An account has the bytes that were supplied for a type with a key. -/
def AccountArgs.Keys (args : AccountArgs) (account : Account) : Prop :=
  ∀ key, args.suppliedKey = some key → account.accountId = key

/-- By id, the account at the caller's id is asked for. -/
def AccountArgs.Asks (args : AccountArgs) (accountId : AccountId) : Prop :=
  args.accountType = some .id → args.accountId = some accountId

/-- A retrieval of an asset. -/
def assetRetrieval (before after : AssetId → Option Asset) (unchanged : Prop)
    (noted : Option AssetId) (args answer : AssetArgs) : Retrieval Asset where
  before := before
  after := after
  unchanged := unchanged
  asked := args.Asks noted
  keyed := args.Keys
  told assetId := answer.assetId = args.assetId.map fun _ => assetId

/-- A retrieval of an account. -/
def accountRetrieval (before after : AccountId → Option Account) (unchanged : Prop)
    (args answer : AccountArgs) : Retrieval Account where
  before := before
  after := after
  unchanged := unchanged
  asked := args.Asks
  keyed := args.Keys
  told accountId := answer.accountId = args.accountId.map fun _ => accountId

/-- An asset registered under a token address has it. -/
theorem Asset.key_eq_addressKey {asset : Asset} {address : Address}
    (keyed : asset.key = some (addressKey address)) : asset.tokenAddress = address := by
  unfold Asset.key at keyed
  split at keyed
  · contradiction
  · contradiction
  · exact (assetKeyBytes_injective (Option.some.inj keyed)).2.1
  · exact (assetKeyBytes_injective (Option.some.inj keyed)).2.1
  · exact (assetKeyBytes_injective (Option.some.inj keyed)).2.1

/-- An asset registered under a token address and a token id has both. -/
theorem Asset.key_eq_addressIdKey {asset : Asset} {address : Address} {tokenId : TokenId}
    (keyed : asset.key = some (addressIdKey address tokenId)) :
    asset.tokenAddress = address ∧ asset.tokenId = tokenId := by
  unfold Asset.key at keyed
  split at keyed
  · contradiction
  · contradiction
  · -- The type byte of the key tells the two kinds of key apart.
    have tag := (assetKeyBytes_injective (Option.some.inj keyed)).1
    exact absurd tag (by decide)
  · exact (assetKeyBytes_injective (Option.some.inj keyed)).2
  · exact (assetKeyBytes_injective (Option.some.inj keyed)).2

/-- An asset under the key asked for has the fields supplied. -/
theorem AssetArgs.keys_of_requested {args : AssetArgs} {asset : Asset}
    (keyed : ∀ key, args.requestedKey = some key → asset.key = some key) : args.Keys asset := by
  unfold AssetArgs.Keys
  unfold AssetArgs.requestedKey at keyed
  split
  next type =>
    intro address given
    exact Asset.key_eq_addressKey (keyed _ (by simp [type, given]))
  next type =>
    intro address tokenId given named
    exact Asset.key_eq_addressIdKey (keyed _ (by simp [type, given, named]))
  next type =>
    intro address tokenId given named
    exact Asset.key_eq_addressIdKey (keyed _ (by simp [type, given, named]))
  next => trivial

/-- The account asked for is the one with the bytes supplied. -/
theorem AccountArgs.suppliedKey_eq (args : AccountArgs) :
    args.suppliedKey = args.requested.map Account.accountId := by
  unfold AccountArgs.requested AccountArgs.suppliedKey AccountArgs.local?
  cases args.accountType with
  | none => rfl
  | some accountType =>
    cases args.addrAccid with
    | none => cases accountType <;> cases args.account <;> rfl
    | some bytes =>
      cases accountType with
      | id => rfl
      | walletAddress => rfl
      | accountId =>
        simp only [true_and, reduceCtorEq, ↓reduceIte]
        split
        next fixed =>
          exact congrArg some (walletId_accountAddress (of_decide_eq_true fixed)).symm
        next => rfl

/-- An account under the key asked for has the bytes supplied. -/
theorem AccountArgs.keys_of_requested {args : AccountArgs} {account : Account}
    (keyed : ∀ requested, args.requested = some requested →
      account.accountId = requested.accountId) : args.Keys account := by
  intro key supplied
  rw [suppliedKey_eq] at supplied
  obtain ⟨requested, asked, rfl⟩ := Option.map_eq_some_iff.mp supplied
  exact keyed requested asked

/-- An account registered under a key has it. -/
theorem Account.key_eq {account : Account} {key : Bytes32} (keyed : account.key = some key) :
    account.accountId = key := by
  unfold Account.key at keyed
  split at keyed
  · contradiction
  · exact Option.some.inj keyed
  · exact Option.some.inj keyed

/-- Nothing but an id is asked for by id. -/
theorem AssetArgs.requestedKey_id {args : AssetArgs} (type : args.assetType = some .id) :
    args.requestedKey = none := by
  simp [AssetArgs.requestedKey, type]

/-- The type base has no key. -/
theorem AssetArgs.requestedKey_base {args : AssetArgs} (type : args.assetType = some .base) :
    args.requestedKey = none := by
  simp [AssetArgs.requestedKey, type]

/-- Nothing but an id is asked for by id. -/
theorem AccountArgs.requested_id {args : AccountArgs} (type : args.accountType = some .id) :
    args.requested = none := by
  simp [AccountArgs.requested, type]

namespace Basic

variable {ledger after : Basic} {operation : Operation}

/-- If the call of `retrieve_asset` returns, it did what its operation promises. -/
def RetrievesAsset (ledger : Basic) (operation : Operation) (args : AssetArgs) : Prop :=
  ∀ after answer,
    ledger.call (.retrieveAsset args operation) = some (after, ⟨none, .asset answer⟩) →
    (assetRetrieval ledger.lassidToAsset.lookup after.lassidToAsset.lookup (after = ledger) none
      args answer).Does operation

/-- If the call of `retrieve_account` returns, it did what its operation promises. -/
def RetrievesAccount (ledger : Basic) (operation : Operation) (args : AccountArgs) : Prop :=
  ∀ after answer,
    ledger.call (.retrieveAccount args operation) = some (after, ⟨none, .account answer⟩) →
    (accountRetrieval ledger.laccidToAccount.lookup after.laccidToAccount.lookup (after = ledger)
      args answer).Does operation

/-- An asset that was found or added is what was asked for. -/
theorem AssetResult.does {args answer : AssetArgs} (sound : ledger.Sound)
    (unbased : args.assetType ≠ some .base)
    (result : AssetResult ledger operation args after answer)
    (kept : operation ≠ .findAndRemove) :
    (assetRetrieval ledger.lassidToAsset.lookup after.lassidToAsset.lookup (after = ledger) none
      args answer).Does operation := by
  cases result with
  | found assetId asset finds present keyed named answer reported =>
    apply Retrieval.Found.does _ finds
    have asks : args.Asks none assetId :=
      ⟨fun type => named (AssetArgs.requestedKey_id type), fun base => absurd base unbased⟩
    exact ⟨rfl, assetId, asset, present, asks, AssetArgs.keys_of_requested keyed, reported⟩
  | added asset creates keyed answer reported =>
    apply Retrieval.Created.does _ creates
    have keys : args.Keys asset :=
      AssetArgs.keys_of_requested fun key requested => keyed.trans requested
    exact ⟨ledger.getAssetCount, asset, sound.asset_fresh, Finmap.lookup_insert _, keys, reported⟩
  | ignored removes => exact absurd removes kept

/-- The basic ledger does what `retrieve_asset` promises, removals apart. -/
theorem retrievesAsset_iff (sound : ledger.Sound) (operation : Operation) (args : AssetArgs) :
    ledger.RetrievesAsset operation args ↔
      ¬(operation = .findAndRemove ∧ args.Complete ∧ args.assetType ≠ some .base) := by
  constructor
  · rintro retrieves ⟨rfl, complete, unbased⟩
    have called : ledger.call (.retrieveAsset args .findAndRemove) =
        some (ledger, ⟨none, .asset args⟩) := by
      simp only [call, retrieveAsset_removes args complete unbased, settle]
    exact Retrieval.not_removed rfl (retrieves ledger args called)
  · intro apart after answer called
    rcases settle_ensures ((retrieveAsset_result sound operation args).and
      (retrieveAsset_complete ledger operation args)) called with
      ⟨told, ⟨result, complete, unbased⟩, same⟩ | ⟨error, told, -, thrown⟩
    · cases same
      exact result.does sound unbased fun removes => apart ⟨removes, complete, unbased⟩
    · cases thrown

/-- An account that was found or added is what was asked for. -/
theorem AccountResult.does {args answer : AccountArgs} (sound : ledger.Sound)
    (result : AccountResult ledger operation args after answer)
    (kept : operation ≠ .findAndRemove) :
    (accountRetrieval ledger.laccidToAccount.lookup after.laccidToAccount.lookup (after = ledger)
      args answer).Does operation := by
  cases result with
  | found accountId account finds present keyed named answer reported =>
    apply Retrieval.Found.does _ finds
    have asks : args.Asks accountId := fun type => named (AccountArgs.requested_id type)
    have keys : args.Keys account :=
      AccountArgs.keys_of_requested fun requested asked => Account.key_eq (keyed requested asked)
    exact ⟨rfl, accountId, account, present, asks, keys, reported⟩
  | added account creates asked answer reported =>
    apply Retrieval.Created.does _ creates
    have keys : args.Keys account := AccountArgs.keys_of_requested fun requested wanted =>
      congrArg Account.accountId (asked requested wanted)
    exact ⟨ledger.getAccountCount, account, sound.account_fresh, Finmap.lookup_insert _, keys,
      reported⟩
  | ignored removes => exact absurd removes kept

/-- The basic ledger does what `retrieve_account` promises, removals apart. -/
theorem retrievesAccount_iff (sound : ledger.Sound) (operation : Operation) (args : AccountArgs) :
    ledger.RetrievesAccount operation args ↔
      ¬(operation = .findAndRemove ∧ args.Complete) := by
  constructor
  · rintro retrieves ⟨rfl, complete⟩
    have called : ledger.call (.retrieveAccount args .findAndRemove) =
        some (ledger, ⟨none, .account args⟩) := by
      simp only [call, retrieveAccount_removes args complete, settle]
    exact Retrieval.not_removed rfl (retrieves ledger args called)
  · intro apart after answer called
    rcases settle_ensures ((retrieveAccount_result sound operation args).and
      (retrieveAccount_complete ledger operation args)) called with
      ⟨told, ⟨result, complete⟩, same⟩ | ⟨error, told, -, thrown⟩
    · cases same
      exact result.does sound fun removes => apart ⟨removes, complete⟩
    · cases thrown

end Basic

namespace Memory

variable {config : Config} {ledger after : Memory} {operation : Operation}

/-- The id noted as that of the base asset, if any. -/
def noted (ledger : Memory) : Option AssetId :=
  if ledger.baseAssetIdDefined then some ledger.baseAssetId else none

/-- If the call of `retrieve_asset` returns, it did what its operation promises. -/
def RetrievesAsset (config : Config) (ledger : Memory) (operation : Operation)
    (args : AssetArgs) : Prop :=
  ∀ after answer,
    ledger.call config (.retrieveAsset args operation) = some (after, ⟨none, .asset answer⟩) →
    (assetRetrieval ledger.lassidToAsset.lookup after.lassidToAsset.lookup (after = ledger)
      ledger.noted args answer).Does operation

/-- If the call of `retrieve_account` returns, it did what its operation promises. -/
def RetrievesAccount (config : Config) (ledger : Memory) (operation : Operation)
    (args : AccountArgs) : Prop :=
  ∀ after answer,
    ledger.call config (.retrieveAccount args operation) =
      some (after, ⟨none, .account answer⟩) →
    (accountRetrieval ledger.account after.account (after = ledger) args answer).Does operation

/-- An asset that was found, added or removed is what was asked for. -/
theorem AssetResult.does {args answer : AssetArgs} (sound : ledger.Sound config)
    (result : AssetResult config ledger operation args after answer) :
    (assetRetrieval ledger.lassidToAsset.lookup after.lassidToAsset.lookup (after = ledger)
      ledger.noted args answer).Does operation := by
  cases result with
  | found assetId asset finds present keyed named =>
    apply Retrieval.Found.does _ finds
    have asks : args.Asks ledger.noted assetId := by
      constructor
      · intro type
        apply (named (AssetArgs.requestedKey_id type)).resolve_right
        rintro ⟨base, -⟩
        rw [type] at base
        contradiction
      · intro type
        apply (named (AssetArgs.requestedKey_base type)).imp id
        rintro ⟨-, -, defined, rfl⟩
        exact if_pos defined
    exact ⟨rfl, assetId, asset, present, asks, AssetArgs.keys_of_requested keyed, rfl⟩
  | added asset creates room type keyed fresh single unsupplied plain =>
    apply Retrieval.Created.does _ creates
    have keys : args.Keys asset :=
      AssetArgs.keys_of_requested fun key requested => keyed.trans requested
    exact ⟨ledger.nextAssetId, asset, sound.registry.asset_fresh, Finmap.lookup_insert _, keys, rfl⟩
  | removed assetId asset removes present unsupplied keyed named =>
    subst removes
    have asks : args.Asks ledger.noted assetId :=
      ⟨fun type => named (AssetArgs.requestedKey_id type),
        fun type => .inl (named (AssetArgs.requestedKey_base type))⟩
    exact ⟨assetId, asset, present, asks, AssetArgs.keys_of_requested keyed,
      Finmap.lookup_erase _ _⟩

/-- An account that was found, added or removed is what was asked for. -/
theorem AccountResult.does {args answer : AccountArgs} (sound : ledger.Sound config)
    (result : AccountResult config ledger operation args after answer) :
    (accountRetrieval ledger.account after.account (after = ledger) args answer).Does
      operation := by
  cases result with
  | found accountId owner finds present keyed named answer reported =>
    apply Retrieval.Found.does _ finds
    have asks : args.Asks accountId := fun type => named (AccountArgs.requested_id type)
    have keys : args.Keys owner.account :=
      AccountArgs.keys_of_requested fun requested asked => Account.key_eq (keyed requested asked)
    exact ⟨rfl, accountId, owner.account, congrArg (Option.map _) present, asks, keys, reported⟩
  | added account creates room asked unasked fresh wallet answer reported =>
    apply Retrieval.Created.does _ creates
    have keys : args.Keys account := AccountArgs.keys_of_requested fun requested wanted =>
      congrArg Account.accountId (asked requested wanted)
    have vacant : ledger.account ledger.nextAccountId = none :=
      congrArg (Option.map _) sound.registry.account_fresh
    have present : (ledger.addAccount account).account ledger.nextAccountId = some account := by
      rw [account_addAccount, if_pos rfl]
    exact ⟨ledger.nextAccountId, account, vacant, present, keys, reported⟩
  | removed accountId owner removes present empty keyed named answer reported =>
    subst removes
    have asks : args.Asks accountId := fun type => named (AccountArgs.requested_id type)
    have keys : args.Keys owner.account :=
      AccountArgs.keys_of_requested fun requested asked => Account.key_eq (keyed requested asked)
    have gone : (ledger.dropAccount accountId owner.account).account accountId = none := by
      rw [account_dropAccount, if_pos rfl]
    exact ⟨accountId, owner.account, congrArg (Option.map _) present, asks, keys, gone⟩

/-- The memory ledger does what `retrieve_asset` promises. -/
theorem retrievesAsset (sound : ledger.Sound config) (operation : Operation) (args : AssetArgs) :
    ledger.RetrievesAsset config operation args := by
  intro after answer called
  cases call_step sound called with
  | asset result => exact result.does sound

/-- The memory ledger does what `retrieve_account` promises. -/
theorem retrievesAccount (sound : ledger.Sound config) (operation : Operation)
    (args : AccountArgs) : ledger.RetrievesAccount config operation args := by
  intro after answer called
  cases call_step sound called with
  | account result => exact result.does sound

end Memory

/-- In every reachable ledger, basic or memory, a retrieval that returns did what its operation
promises, unless it is a removal from a basic ledger. -/
theorem retrieves_iff (config : Config) (region : ℕ → AccountBalance) (basic : Basic)
    (ledger : Memory) (basicReachable : basic.Reachable)
    (reachable : Memory.Reachable config region Memory.AnyCall ledger) :
    (∀ operation args, basic.RetrievesAsset operation args ↔
      ¬(operation = .findAndRemove ∧ args.Complete ∧ args.assetType ≠ some .base)) ∧
    (∀ operation args, basic.RetrievesAccount operation args ↔
      ¬(operation = .findAndRemove ∧ args.Complete)) ∧
    (∀ operation args, ledger.RetrievesAsset config operation args) ∧
    ∀ operation args, ledger.RetrievesAccount config operation args := by
  refine ⟨fun operation args => ?_, fun operation args => ?_, fun operation args => ?_,
    fun operation args => ?_⟩
  · exact Basic.retrievesAsset_iff basicReachable.sound operation args
  · exact Basic.retrievesAccount_iff basicReachable.sound operation args
  · exact Memory.retrievesAsset reachable.sound operation args
  · exact Memory.retrievesAccount reachable.sound operation args

/-- The token at the zero address. -/
def tokenArgs : AssetArgs := ⟨some 0, some (zeros 20), none, none, some .tokenAddress⟩

/-- An account asked for by id. -/
def byId : AccountArgs := ⟨some 0, none, none, none, some .id⟩

/-- Where accounts hold assets, another account is created in both ledgers, and the memory ledger
removes the token that was spent. -/
theorem retrieves_created : ∃ (basic : Basic) (ledger : Memory), basic.Reachable ∧
    Memory.Reachable Memory.fewBalances (fun _ => .zero) Memory.AnyCall ledger ∧
    (basic.amount 1 1).toNat = 2 ∧ (ledger.amount 1 1).toNat = 2 ∧
    basic.RetrievesAccount .create byId ∧
    ledger.RetrievesAccount Memory.fewBalances .create byId ∧
    ledger.RetrievesAsset Memory.fewBalances .findAndRemove tokenArgs := by
  obtain ⟨basic, basicReachable, basicTwo⟩ := Run.exists_reaches Basic.call (fun _ _ => True)
    Basic.empty Memory.spentToken (by decide +kernel) (fun ledger => (ledger.amount 1 1).toNat) 2
    (by decide +kernel)
  obtain ⟨ledger, reachable, two⟩ := Memory.exists_reachable Memory.fewBalances (fun _ => .zero)
    Memory.spentToken (fun ledger => (ledger.amount 1 1).toNat) 2 (by decide +kernel)
  have promised := retrieves_iff Memory.fewBalances (fun _ => .zero) basic ledger basicReachable
    reachable
  refine ⟨basic, ledger, basicReachable, reachable, basicTwo, two, ?_, promised.2.2.2 .create byId,
    promised.2.2.1 .findAndRemove tokenArgs⟩
  apply (promised.2.1 .create byId).mpr
  rintro ⟨removes, -⟩
  contradiction

/-- A new basic ledger returns from the removal of an account it does not have. -/
theorem removal_not_retrieves :
    Basic.empty.Reachable ∧ ¬Basic.empty.RetrievesAccount .findAndRemove byId := by
  refine ⟨.refl, fun retrieves => ?_⟩
  have called : Basic.empty.call (.retrieveAccount byId .findAndRemove) =
      some (Basic.empty, ⟨none, .account byId⟩) := rfl
  exact Retrieval.not_removed rfl (retrieves _ _ called)

end Libcma
