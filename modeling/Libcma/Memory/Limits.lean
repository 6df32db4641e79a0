import Libcma.Memory.BaseAsset
import Libcma.Memory.Codes

/-!
# When a retrieval meets its limit

`retrieve_asset` and `retrieve_account` refuse to create an item when its id counter has reached
the limit. They come to that test exactly when their pointers are given and the operation creates:
`CREATE` always does, `FIND_OR_CREATE` when nothing is found.
-/

namespace Libcma

open Exec

namespace Memory

variable {config : Config} {ledger : Memory} {operation : Operation}

section Creating

/-- An operation that creates an item, given whether it is missing. -/
def Creates (operation : Operation) (missing : Prop) : Prop :=
  operation = .create ∨ operation = .findOrCreate ∧ missing

instance (operation : Operation) (missing : Prop) [Decidable missing] :
    Decidable (Creates operation missing) := inferInstanceAs (Decidable (_ ∨ _ ∧ _))

/-- The request comes to the creation of an asset: the pointers it needs are given, and nothing is
found or nothing is looked for. -/
def CreatesAsset (ledger : Memory) (operation : Operation) (args : AssetArgs) : Prop :=
  match args.assetType with
  | none => False
  | some .id | some .base => ∃ assetId ∈ args.assetId,
    Creates operation (ledger.lassidToAsset.lookup assetId = none)
  | some _ => ∃ key ∈ args.requestedKey,
    Creates operation (ledger.assetToLassid.lookup key = none)

instance (ledger : Memory) (operation : Operation) (args : AssetArgs) :
    Decidable (ledger.CreatesAsset operation args) := by
  unfold CreatesAsset
  split <;> infer_instance

/-- The request comes to the creation of an account. -/
def CreatesAccount (ledger : Memory) (operation : Operation) (args : AccountArgs) : Prop :=
  match args.accountType with
  | none => False
  | some .id => ∃ accountId ∈ args.accountId,
    Creates operation (ledger.laccidToAccount.lookup accountId = none)
  | some _ => ∃ account ∈ args.requested,
    Creates operation (ledger.accountToLaccid.lookup account.accountId = none)

instance (ledger : Memory) (operation : Operation) (args : AccountArgs) :
    Decidable (ledger.CreatesAccount operation args) := by
  unfold CreatesAccount
  split <;> infer_instance

/-- An operation that neither looks nor needs the item creates it. -/
theorem creates_of_not_looks {missing : Prop} (blind : ¬looks operation) :
    Creates operation missing := by
  cases operation with
  | create => exact .inl rfl
  | find => exact absurd (.inl (.inl rfl)) blind
  | findOrCreate => exact absurd (.inl (.inr rfl)) blind
  | findAndRemove => exact absurd (.inr rfl) blind

/-- An operation that looks and can do without the item finds it or creates it. -/
theorem findOrCreate_of_optional (looked : looks operation) (optional : ¬requires operation) :
    operation = .findOrCreate := by
  cases operation with
  | create => simp [looks, Operation.finds] at looked
  | find => exact absurd (.inl rfl) optional
  | findOrCreate => rfl
  | findAndRemove => exact absurd (.inr rfl) optional

/-- The error has another code. -/
def OtherThan (code : Int) (error : CmaException) : Prop := error.code ≠ code

instance (code : Int) (error : CmaException) : Decidable (OtherThan code error) :=
  inferInstanceAs (Decidable (_ ≠ _))

/-- An exception with one of some codes has no code that is none of them. -/
theorem otherThan_of_code {codes : List Int} {code : Int} (absent : code ∉ codes)
    {exception : CmaException} (coded : WithCode codes exception) : OtherThan code exception := by
  intro same
  have listed : exception.code ∈ codes := coded
  rw [same] at listed
  exact absent listed

/-- The outcome is an error of the given code exactly under a condition. -/
def Signals {σ α : Type} (outcome : Outcome CmaException σ α) (code : Int) (condition : Prop) :
    Prop :=
  outcome.Satisfies (fun _ _ => ¬condition) fun error _ => error.code = code ↔ condition

/-- Errors of other codes signal what does not hold. -/
theorem signals_of_satisfies {σ α : Type} {outcome : Outcome CmaException σ α} {code : Int}
    {condition : Prop} (fails : ¬condition)
    (satisfies : outcome.Satisfies (fun _ _ => True) fun error _ => OtherThan code error) :
    Signals outcome code condition := by
  apply Outcome.Satisfies.mono satisfies
  · exact fun _ _ _ => fails
  · exact fun _ _ other => iff_of_false other fails

end Creating

section Assets

variable (config)

/-- The removal of an asset does not run into the limit. -/
theorem removal_limits_assets (exception : CmaException) (coded : WithCode removalCodes exception) :
    OtherThan errorMaxAssetsReached exception :=
  otherThan_of_code (by decide) coded

/-- What a look-up does with the asset it found, or with none. -/
theorem found_settles {sought : AssetId} (looked : looks operation) (args : AssetArgs)
    (present : operation = .findOrCreate → ledger.lassidToAsset.lookup sought ≠ none) :
    ((findAssetInto sought >>= fun found =>
        if found then removeFoundAsset operation sought >>= fun _ => pure true
        else refuseIf (requires operation) ⟨"Asset not found", errorAssetNotFound⟩ >>=
          fun _ => pure false).run (ledger, args)).Satisfies
      (fun settled _ => settled = true)
      (fun error _ => OtherThan errorMaxAssetsReached error) := by
  rw [satisfies_bind]
  cases found : ledger.lassidToAsset.lookup sought with
  | some asset =>
    have filled : (findAssetInto sought).run (ledger, args) = .ok true (ledger, args.fill asset) :=
      by simp [findAssetInto, found]
    rw [filled, Outcome.satisfies_ok, if_pos rfl, satisfies_bind]
    apply (removeFoundAsset_raises removal_limits_assets operation sought _).mono
    · exact fun _ _ _ => rfl
    · exact fun _ _ other => other
  | none =>
    have missed : (findAssetInto sought).run (ledger, args) = .ok false (ledger, args) := by
      simp [findAssetInto, found]
    rw [missed, Outcome.satisfies_ok, if_neg Bool.false_ne_true, satisfies_bind,
      satisfies_refuseIf]
    constructor
    · intro _
      show OtherThan _ _
      decide
    · intro optional
      exact absurd found (present (findOrCreate_of_optional looked optional))

/-- A look-up by id for a call that creates leads on to the creation. -/
theorem lookForAssetId_creates {assetId : AssetId} (assetType : AssetType) (args : AssetArgs)
    (creates : Creates operation (ledger.lassidToAsset.lookup assetId = none)) :
    ∃ answer, (lookForAssetId operation assetType assetId).run (ledger, args) =
      .ok false (ledger, answer) := by
  rcases creates with rfl | ⟨rfl, missing⟩
  · exact ⟨args, rfl⟩
  · exact ⟨args.withId assetId, by simp [lookForAssetId, looks, Operation.finds, findAssetInto,
      missing, requires]⟩

/-- Any other look-up by id ends the call, and not at the limit. -/
theorem lookForAssetId_settles {assetId : AssetId} (assetType : AssetType) (args : AssetArgs)
    (creates : ¬Creates operation (ledger.lassidToAsset.lookup assetId = none)) :
    ((lookForAssetId operation assetType assetId).run (ledger, args)).Satisfies
      (fun settled _ => settled = true)
      (fun error _ => OtherThan errorMaxAssetsReached error) := by
  have looked : looks operation := by
    by_contra blind
    exact creates (creates_of_not_looks blind)
  rw [lookForAssetId_run looked assetType rfl]
  apply found_settles looked
  intro either missing
  rw [if_neg (by simp [either])] at missing
  exact creates (.inr ⟨either, missing⟩)

/-- A look-up by key for a call that creates leads on to the creation. -/
theorem lookForAssetKey_creates {assetKey : AssetKey} (args : AssetArgs)
    (creates : Creates operation (ledger.assetToLassid.lookup assetKey = none)) :
    (lookForAssetKey operation assetKey).run (ledger, args) = .ok false (ledger, args) := by
  rcases creates with rfl | ⟨rfl, missing⟩
  · rfl
  · simp [lookForAssetKey, looks, Operation.finds, missing, requires]

/-- Any other look-up by key ends the call, and not at the limit. -/
theorem lookForAssetKey_settles {assetKey : AssetKey} (args : AssetArgs)
    (creates : ¬Creates operation (ledger.assetToLassid.lookup assetKey = none)) :
    ((lookForAssetKey operation assetKey).run (ledger, args)).Satisfies
      (fun settled _ => settled = true)
      (fun error _ => OtherThan errorMaxAssetsReached error) := by
  have looked : looks operation := by
    by_contra blind
    exact creates (creates_of_not_looks blind)
  rw [lookForAssetKey, if_pos looked, satisfies_bind, satisfies_read]
  cases named : ledger.assetToLassid.lookup assetKey with
  | none =>
    simp only [satisfies_bind, satisfies_refuseIf]
    constructor
    · intro _
      show OtherThan _ _
      decide
    · intro optional
      exact absurd (.inr ⟨findOrCreate_of_optional looked optional, named⟩) creates
  | some assetId =>
    simp only [satisfies_bind, satisfies_refuseIf, satisfies_update]
    apply (findAssetInto_raises assetId (ledger, args)).mono
    · intro found reached _
      constructor
      · intro _
        show OtherThan _ _
        decide
      · intro _
        apply (removeFoundAsset_raises removal_limits_assets operation assetId _).mono
        · exact fun _ _ _ => rfl
        · exact fun _ _ other => other
    · exact fun _ _ other => other

/-- What follows the limit in a creation raises errors of its own. -/
theorem signals_limit {σ : Type} {limit : Exec CmaException σ Unit} {rest : Exec CmaException σ Unit}
    {state : σ} {error : CmaException} {full : Prop}
    (refuses : full → limit.run state = .throw error state)
    (passes : ¬full → limit.run state = .ok () state) (raises : Raises (OtherThan error.code) rest) :
    Signals ((limit >>= fun _ => rest).run state) error.code full := by
  by_cases reached : full
  · rw [bind_run, refuses reached]
    exact iff_of_true rfl reached
  · rw [bind_run, passes reached]
    exact signals_of_satisfies reached (raises state)

/-- The counter of assets at the limit refuses a creation. -/
theorem refuseMaxAssets_run (ledger : Memory) (args : AssetArgs) :
    (config.maxAssets ≤ ledger.nextAssetId → (refuseMaxAssets config).run (ledger, args) =
      .throw ⟨"Max assets reached", errorMaxAssetsReached⟩ (ledger, args)) ∧
    (¬config.maxAssets ≤ ledger.nextAssetId →
      (refuseMaxAssets config).run (ledger, args) = .ok () (ledger, args)) := by
  constructor <;> intro full <;> simp [refuseMaxAssets, full]

/-- The creation of an asset without a key runs into the limit when the counter is there. -/
theorem createAssetId_signals (assetType : AssetType) (args : AssetArgs) :
    Signals ((createAssetId config assetType).run (ledger, args)) errorMaxAssetsReached
      (config.maxAssets ≤ ledger.nextAssetId) := by
  obtain ⟨refuses, passes⟩ := refuseMaxAssets_run config ledger args
  apply signals_limit refuses passes
  exact .bind .read fun _ => .bind (.refuseIf _ (by decide)) fun _ =>
    .bind (.bind .read fun _ => .bind (.refuseIf _ (by decide)) fun _ => .update _) fun _ =>
    .bind (.update _) fun _ => .update _

/-- So does the creation of an asset with a key. -/
theorem createAssetKey_signals (assetKey : AssetKey) (newAsset : Asset) (args : AssetArgs) :
    Signals ((createAssetKey config assetKey newAsset).run (ledger, args)) errorMaxAssetsReached
      (config.maxAssets ≤ ledger.nextAssetId) := by
  obtain ⟨refuses, passes⟩ := refuseMaxAssets_run config ledger args
  apply signals_limit refuses passes
  exact .bind .read fun _ => .bind (.refuseIf _ (by decide)) fun _ => .bind (.update _) fun _ =>
    .bind (.bind .read fun _ => .bind (.refuseIf _ (by decide)) fun _ => .update _) fun _ =>
    .update _

/-- A look-up that leads on to a creation, or ends the call. -/
theorem signals_retrieval {σ : Type} {look : Exec CmaException σ Bool}
    {create : Exec CmaException σ Unit} {state : σ} {code : Int} {missing full : Prop}
    (leads : Creates operation missing → ∃ reached, look.run state = .ok false reached ∧
      Signals (create.run reached) code full)
    (settles : ¬Creates operation missing → (look.run state).Satisfies
      (fun settled _ => settled = true) (fun error _ => OtherThan code error)) :
    Signals ((look >>= fun settled =>
      if ¬settled = true ∧ operation.creates then create else pure ()).run state) code
      (Creates operation missing ∧ full) := by
  by_cases creates : Creates operation missing
  · obtain ⟨reached, missed, signals⟩ := leads creates
    have goes : operation.creates := by
      rcases creates with create | ⟨either, -⟩
      · exact .inl create
      · exact .inr either
    rw [bind_run, missed]
    simp only [Outcome.andThen, Bool.false_eq_true, not_false_eq_true, goes, and_self, if_true,
      creates, true_and]
    exact signals
  · apply signals_of_satisfies fun both => creates both.1
    rw [satisfies_bind]
    apply (settles creates).mono
    · rintro settled reached rfl
      simp [Outcome.Satisfies]
    · exact fun _ _ other => other

/-- `retrieve_asset` for a type without a key. -/
theorem retrieveUnkeyedAsset_signals (assetType : AssetType) (args : AssetArgs) :
    Signals ((retrieveUnkeyedAsset config operation assetType).run (ledger, args))
      errorMaxAssetsReached ((∃ assetId ∈ args.assetId,
        Creates operation (ledger.lassidToAsset.lookup assetId = none)) ∧
          config.maxAssets ≤ ledger.nextAssetId) := by
  cases given : args.assetId with
  | none =>
    apply signals_of_satisfies (by simp)
    simp only [retrieveUnkeyedAsset, bind_run, read_run, Outcome.andThen, given, orRaise_none]
    show OtherThan _ _
    decide
  | some assetId =>
    simp only [Option.mem_some_iff, exists_eq_left']
    have runs : (retrieveUnkeyedAsset config operation assetType).run (ledger, args) =
        (lookForAssetId operation assetType assetId >>= fun settled =>
          if ¬settled = true ∧ operation.creates then createAssetId config assetType
          else pure ()).run (ledger, args) := by
      simp only [retrieveUnkeyedAsset, bind_run, read_run, Outcome.andThen, given, orRaise_some,
        pure_run]
    rw [runs]
    apply signals_retrieval
    · intro creates
      obtain ⟨answer, missed⟩ := lookForAssetId_creates assetType args creates
      exact ⟨(ledger, answer), missed, createAssetId_signals config assetType answer⟩
    · exact lookForAssetId_settles assetType args

/-- `retrieve_asset` for a type with a key. -/
theorem retrieveKeyedAsset_signals (assetKey : AssetKey) (newAsset : Asset) (args : AssetArgs) :
    Signals ((retrieveKeyedAsset config operation assetKey newAsset).run (ledger, args))
      errorMaxAssetsReached (Creates operation (ledger.assetToLassid.lookup assetKey = none) ∧
        config.maxAssets ≤ ledger.nextAssetId) := by
  apply signals_retrieval
  · intro creates
    exact ⟨(ledger, args), lookForAssetKey_creates args creates,
      createAssetKey_signals config assetKey newAsset args⟩
  · exact lookForAssetKey_settles args

/-- `retrieve_asset` for a type with a key, when its pointers are given and when one is not. -/
theorem retrieveAsset_keyed {args : AssetArgs} {assetType : AssetType}
    (type : args.assetType = some assetType) (keyed : assetType ≠ .id ∧ assetType ≠ .base) :
    (args.requestedKey = none ∧ ∃ message,
      (retrieveAsset config operation).run (ledger, args) =
        .throw ⟨message, -einval⟩ (ledger, args)) ∨
    ∃ key newAsset, args.requestedKey = some key ∧
      (retrieveAsset config operation).run (ledger, args) =
        (retrieveKeyedAsset config operation key newAsset).run (ledger, args) := by
  cases address : args.tokenAddress with
  | none =>
    left
    cases assetType <;> simp_all [AssetArgs.requestedKey, retrieveAsset]
  | some address =>
    cases assetType with
    | id => exact absurd rfl keyed.1
    | base => exact absurd rfl keyed.2
    | tokenAddress =>
      right
      simp only [AssetArgs.requestedKey, retrieveAsset, type, address, bind_run, read_run,
        Outcome.andThen, orRaise_some, pure_run]
      exact ⟨_, _, rfl, rfl⟩
    | tokenAddressId =>
      cases tokenId : args.tokenId with
      | none => simp [AssetArgs.requestedKey, retrieveAsset, *]
      | some tokenId =>
        right
        simp only [AssetArgs.requestedKey, retrieveAsset, type, address, tokenId, bind_run,
          read_run, Outcome.andThen, orRaise_some, pure_run]
        exact ⟨_, _, rfl, rfl⟩
    | tokenAddressIdAmount =>
      cases tokenId : args.tokenId with
      | none => simp [AssetArgs.requestedKey, retrieveAsset, *]
      | some tokenId =>
        right
        simp only [AssetArgs.requestedKey, retrieveAsset, type, address, tokenId, bind_run,
          read_run, Outcome.andThen, orRaise_some, pure_run]
        exact ⟨_, _, rfl, rfl⟩

/-- `retrieve_asset` runs into the limit when it comes to create and the counter is there. -/
theorem retrieveAsset_signals (operation : Operation) (args : AssetArgs) :
    Signals ((retrieveAsset config operation).run (ledger, args)) errorMaxAssetsReached
      (ledger.CreatesAsset operation args ∧ config.maxAssets ≤ ledger.nextAssetId) := by
  have keyed {assetType : AssetType} (type : args.assetType = some assetType)
      (kept : assetType ≠ .id ∧ assetType ≠ .base) :
      Signals ((retrieveAsset config operation).run (ledger, args)) errorMaxAssetsReached
        ((∃ key ∈ args.requestedKey, Creates operation (ledger.assetToLassid.lookup key = none)) ∧
          config.maxAssets ≤ ledger.nextAssetId) := by
    rcases retrieveAsset_keyed config type kept with
      ⟨absent, message, thrown⟩ | ⟨key, newAsset, requested, runs⟩
    · rw [thrown]
      apply signals_of_satisfies (by simp [absent])
      show -einval ≠ errorMaxAssetsReached
      decide
    · rw [runs]
      simp only [requested, Option.mem_some_iff, exists_eq_left']
      exact retrieveKeyedAsset_signals config key newAsset args
  cases type : args.assetType with
  | none =>
    apply signals_of_satisfies (by simp [CreatesAsset, type])
    simp only [retrieveAsset, bind_run, read_run, Outcome.andThen, type, raise_run]
    show -einval ≠ errorMaxAssetsReached
    decide
  | some assetType =>
    cases assetType with
    | id =>
      simp only [CreatesAsset, type, retrieveAsset, bind_run, read_run, Outcome.andThen]
      exact retrieveUnkeyedAsset_signals config .id args
    | base =>
      simp only [CreatesAsset, type, retrieveAsset, bind_run, read_run, Outcome.andThen]
      exact retrieveUnkeyedAsset_signals config .base args
    | tokenAddress =>
      simp only [CreatesAsset, type]
      exact keyed type (by decide)
    | tokenAddressId =>
      simp only [CreatesAsset, type]
      exact keyed type (by decide)
    | tokenAddressIdAmount =>
      simp only [CreatesAsset, type]
      exact keyed type (by decide)

end Assets

section Accounts

variable (config)

/-- The removal of an account does not run into the limit. -/
theorem removal_limits_accounts (exception : CmaException)
    (coded : WithCode removalCodes exception) : OtherThan errorMaxAccountsReached exception :=
  otherThan_of_code (by decide) coded

/-- A look-up by id for a call that creates leads on to the creation. -/
theorem lookForAccountId_creates {accountId : AccountId} (args : AccountArgs)
    (creates : Creates operation (ledger.laccidToAccount.lookup accountId = none)) :
    (lookForAccountId operation accountId).run (ledger, args) = .ok false (ledger, args) := by
  rcases creates with rfl | ⟨rfl, missing⟩
  · rfl
  · simp [lookForAccountId, looks, Operation.finds, findAccountInto, missing, requires]

/-- Any other look-up by id ends the call, and not at the limit. -/
theorem lookForAccountId_settles {accountId : AccountId} (args : AccountArgs)
    (creates : ¬Creates operation (ledger.laccidToAccount.lookup accountId = none)) :
    ((lookForAccountId operation accountId).run (ledger, args)).Satisfies
      (fun settled _ => settled = true)
      (fun error _ => OtherThan errorMaxAccountsReached error) := by
  have looked : looks operation := by
    by_contra blind
    exact creates (creates_of_not_looks blind)
  rw [lookForAccountId, if_pos looked, satisfies_bind]
  cases found : ledger.laccidToAccount.lookup accountId with
  | some owner =>
    have filled : (findAccountInto accountId).run (ledger, args) =
        .ok true (ledger, args.fill owner.account (some owner.nBalances)) := by
      simp [findAccountInto, found]
    rw [filled, Outcome.satisfies_ok, if_pos rfl, satisfies_bind, satisfies_update, satisfies_bind]
    apply (removeFoundAccount_raises removal_limits_accounts operation accountId _).mono
    · exact fun _ _ _ => rfl
    · exact fun _ _ other => other
  | none =>
    have missed : (findAccountInto accountId).run (ledger, args) = .ok false (ledger, args) := by
      simp [findAccountInto, found]
    rw [missed, Outcome.satisfies_ok, if_neg Bool.false_ne_true, satisfies_bind,
      satisfies_refuseIf]
    constructor
    · intro _
      show OtherThan _ _
      decide
    · intro optional
      exact absurd (.inr ⟨findOrCreate_of_optional looked optional, found⟩) creates

/-- A look-up by key for a call that creates leads on to the creation. -/
theorem lookForAccountKey_creates {accountKey : Bytes32} (args : AccountArgs)
    (creates : Creates operation (ledger.accountToLaccid.lookup accountKey = none)) :
    (lookForAccountKey operation accountKey).run (ledger, args) = .ok false (ledger, args) := by
  rcases creates with rfl | ⟨rfl, missing⟩
  · rfl
  · simp [lookForAccountKey, looks, Operation.finds, missing, requires]

/-- Any other look-up by key ends the call, and not at the limit. -/
theorem lookForAccountKey_settles {accountKey : Bytes32} (args : AccountArgs)
    (creates : ¬Creates operation (ledger.accountToLaccid.lookup accountKey = none)) :
    ((lookForAccountKey operation accountKey).run (ledger, args)).Satisfies
      (fun settled _ => settled = true)
      (fun error _ => OtherThan errorMaxAccountsReached error) := by
  have looked : looks operation := by
    by_contra blind
    exact creates (creates_of_not_looks blind)
  rw [lookForAccountKey, if_pos looked, satisfies_bind, satisfies_read]
  cases named : ledger.accountToLaccid.lookup accountKey with
  | none =>
    simp only [satisfies_bind, satisfies_refuseIf]
    constructor
    · intro _
      show OtherThan _ _
      decide
    · intro optional
      exact absurd (.inr ⟨findOrCreate_of_optional looked optional, named⟩) creates
  | some accountId =>
    simp only [satisfies_bind, satisfies_refuseIf, satisfies_update]
    apply (findAccountInto_raises accountId (ledger, args)).mono
    · intro found reached _
      constructor
      · intro _
        show OtherThan _ _
        decide
      · intro _
        apply (removeFoundAccount_raises removal_limits_accounts operation accountId _).mono
        · exact fun _ _ _ => rfl
        · exact fun _ _ other => other
    · exact fun _ _ other => other

/-- The counter of accounts at the limit refuses a creation. -/
theorem refuseMaxAccounts_run (ledger : Memory) (args : AccountArgs) :
    (config.maxAccounts ≤ ledger.nextAccountId → (refuseMaxAccounts config).run (ledger, args) =
      .throw ⟨"Max accounts reached", errorMaxAccountsReached⟩ (ledger, args)) ∧
    (¬config.maxAccounts ≤ ledger.nextAccountId →
      (refuseMaxAccounts config).run (ledger, args) = .ok () (ledger, args)) := by
  constructor <;> intro full <;> simp [refuseMaxAccounts, full]

/-- The creation of an account without a key runs into the limit when the counter is there. -/
theorem createAccountId_signals (args : AccountArgs) :
    Signals ((createAccountId config).run (ledger, args)) errorMaxAccountsReached
      (config.maxAccounts ≤ ledger.nextAccountId) := by
  obtain ⟨refuses, passes⟩ := refuseMaxAccounts_run config ledger args
  apply signals_limit refuses passes
  exact .bind (.bind .read fun _ => .bind (.refuseIf _ (by decide)) fun _ => .update _) fun _ =>
    .update _

/-- So does the creation of an account with a key. -/
theorem createAccountKey_signals (account : Account) (args : AccountArgs) :
    Signals ((createAccountKey config account).run (ledger, args)) errorMaxAccountsReached
      (config.maxAccounts ≤ ledger.nextAccountId) := by
  obtain ⟨refuses, passes⟩ := refuseMaxAccounts_run config ledger args
  apply signals_limit refuses passes
  exact .bind .read fun _ => .bind (.refuseIf _ (by decide)) fun _ => .bind (.update _) fun _ =>
    .bind (.bind .read fun _ => .bind (.refuseIf _ (by decide)) fun _ => .update _) fun _ =>
    .bind (.update _) fun _ => .update _

/-- `retrieve_account` for an account without a key. -/
theorem retrieveUnkeyedAccount_signals (args : AccountArgs) :
    Signals ((retrieveUnkeyedAccount config operation).run (ledger, args))
      errorMaxAccountsReached ((∃ accountId ∈ args.accountId,
        Creates operation (ledger.laccidToAccount.lookup accountId = none)) ∧
          config.maxAccounts ≤ ledger.nextAccountId) := by
  cases given : args.accountId with
  | none =>
    apply signals_of_satisfies (by simp)
    simp only [retrieveUnkeyedAccount, bind_run, read_run, Outcome.andThen, given, orRaise_none]
    show OtherThan _ _
    decide
  | some accountId =>
    simp only [Option.mem_some_iff, exists_eq_left']
    have runs : (retrieveUnkeyedAccount config operation).run (ledger, args) =
        (lookForAccountId operation accountId >>= fun settled =>
          if ¬settled = true ∧ operation.creates then createAccountId config
          else pure ()).run (ledger, args) := by
      simp only [retrieveUnkeyedAccount, bind_run, read_run, Outcome.andThen, given, orRaise_some,
        pure_run]
    rw [runs]
    apply signals_retrieval
    · intro creates
      exact ⟨(ledger, args), lookForAccountId_creates args creates,
        createAccountId_signals config args⟩
    · exact lookForAccountId_settles args

/-- `retrieve_account` for an account with a key. -/
theorem retrieveKeyedAccount_signals (accountType : AccountType) (args : AccountArgs) :
    Signals ((retrieveKeyedAccount config operation accountType).run (ledger, args))
      errorMaxAccountsReached ((∃ account ∈ args.local? accountType,
        Creates operation (ledger.accountToLaccid.lookup account.accountId = none)) ∧
          config.maxAccounts ≤ ledger.nextAccountId) := by
  cases built : args.local? accountType with
  | none =>
    apply signals_of_satisfies (by simp)
    simp only [retrieveKeyedAccount, localAccount, bind_run, read_run, Outcome.andThen, built,
      orRaise_none]
    show OtherThan _ _
    decide
  | some account =>
    simp only [Option.mem_some_iff, exists_eq_left']
    have runs : (retrieveKeyedAccount config operation accountType).run (ledger, args) =
        (lookForAccountKey operation account.accountId >>= fun settled =>
          if ¬settled = true ∧ operation.creates then createAccountKey config account
          else pure ()).run (ledger, args) := by
      simp only [retrieveKeyedAccount, localAccount, bind_run, read_run, Outcome.andThen, built,
        orRaise_some, pure_run]
    rw [runs]
    apply signals_retrieval
    · intro creates
      exact ⟨(ledger, args), lookForAccountKey_creates args creates,
        createAccountKey_signals config account args⟩
    · exact lookForAccountKey_settles args

/-- `retrieve_account` runs into the limit when it comes to create and the counter is there. -/
theorem retrieveAccount_signals (operation : Operation) (args : AccountArgs) :
    Signals ((retrieveAccount config operation).run (ledger, args)) errorMaxAccountsReached
      (ledger.CreatesAccount operation args ∧ config.maxAccounts ≤ ledger.nextAccountId) := by
  cases type : args.accountType with
  | none =>
    apply signals_of_satisfies (by simp [CreatesAccount, type])
    simp only [retrieveAccount, bind_run, read_run, Outcome.andThen, type, raise_run]
    show -einval ≠ errorMaxAccountsReached
    decide
  | some accountType =>
    simp only [CreatesAccount, AccountArgs.requested, type, retrieveAccount, bind_run, read_run,
      Outcome.andThen]
    cases accountType with
    | id => exact retrieveUnkeyedAccount_signals config args
    | walletAddress => exact retrieveKeyedAccount_signals config .walletAddress args
    | accountId => exact retrieveKeyedAccount_signals config .accountId args

end Accounts

end Memory

end Libcma
