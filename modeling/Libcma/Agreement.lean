import Libcma.Ledger.BasicConservation
import Libcma.Memory.Runs

/-!
# The two ledgers agree

Side by side on the calls both support, and as long as the memory ledger has room and stays within
its reserve, the two ledger classes answer every call alike. The relation that carries the argument
reads the memory ledger's tables, counters and balances as the basic ledger's.
-/

namespace Libcma

open Exec

/-- The two ledgers hold the same. -/
structure Matches (basic : Basic) (memory : Memory) : Prop where
  /-- The same assets. -/
  assets : memory.lassidToAsset = basic.lassidToAsset
  /-- The same asset keys. -/
  assetKeys : memory.assetToLassid = basic.assetToLassid
  /-- The same accounts, but for what they count. -/
  accounts : ∀ accountId, memory.account accountId = basic.laccidToAccount.lookup accountId
  /-- The same account keys. -/
  accountKeys : memory.accountToLaccid = basic.accountToLaccid
  /-- The asset counter is the number of assets. -/
  nextAsset : memory.nextAssetId = basic.getAssetCount
  /-- The account counter is the number of accounts. -/
  nextAccount : memory.nextAccountId = basic.getAccountCount
  /-- The same balances. -/
  amounts : ∀ assetId accountId, memory.amount assetId accountId = basic.amount assetId accountId

/-- The error says that a limit of the memory ledger is reached. -/
def CmaException.SaysFull (error : CmaException) : Prop :=
  error.code = errorMaxAssetsReached ∨ error.code = errorMaxAccountsReached ∨
    error.code = errorMaxBalancesReached

instance (error : CmaException) : Decidable error.SaysFull :=
  inferInstanceAs (Decidable (_ ∨ _ ∨ _))

/-- The response is the error that a limit is reached. -/
def Response.SaysFull (response : Response) : Prop := ∃ error ∈ response.error, error.SaysFull

instance (response : Response) : Decidable response.SaysFull :=
  inferInstanceAs (Decidable (∃ error ∈ response.error, error.SaysFull))

/-- A call that both ledgers support. -/
def Call.Common : Call → Prop
  | .retrieveAsset args operation =>
    args.assetType ≠ none ∧ args.assetType ≠ some .base ∧ operation ≠ .findAndRemove
  | .retrieveAccount args operation => args.nBalances = none ∧ operation ≠ .findAndRemove
  | .getBalance _ _ _ info => info = none
  | .deposit _ _ _ | .withdraw _ _ _ | .transfer _ _ _ _ => True
  | .clear => False

instance : (request : Call) → Decidable request.Common
  | .retrieveAsset _ _ | .retrieveAccount _ _ => inferInstanceAs (Decidable (_ ∧ _))
  | .getBalance _ _ _ info => inferInstanceAs (Decidable (info = none))
  | .deposit _ _ _ | .withdraw _ _ _ | .transfer _ _ _ _ => inferInstanceAs (Decidable True)
  | .clear => inferInstanceAs (Decidable False)

variable {config : Config} {basic : Basic} {memory : Memory} {assetId : AssetId}
  {accountId source target : AccountId} {asset : Asset} {owner : AccountStruct}
  {amount balance supply : Amount}

namespace Matches

/-- New ledgers hold the same. -/
theorem empty (region : ℕ → AccountBalance) : Matches .empty (.empty region) := by
  refine ⟨rfl, rfl, fun accountId => ?_, rfl, rfl, rfl, fun assetId accountId => ?_⟩
  · simp [Memory.account, Memory.empty, Basic.empty, Finmap.lookup_empty]
  · simp [Memory.amount, Memory.stored, Basic.amount, Memory.empty, Basic.empty,
      Finmap.lookup_empty]

/-- They look the same to the balance operations. -/
theorem view (same : Matches basic memory) (stable : memory.Stable) (slotted : memory.Slotted) :
    memory.view = basic.view := by
  unfold Memory.view Basic.view
  congr 1
  · rw [same.assets]
  · funext accountId
    rw [← same.accounts, Memory.account, Option.isSome_map]
  · funext assetId accountId
    rw [stable.balanceOf slotted, same.amounts]

/-- They hold the same after a write. -/
theorem written (same : Matches basic memory) (store : memory.Store config)
    (member : memory.laccidToAccount.lookup accountId = some owner) (asset : Asset)
    (balance : Amount) :
    Matches (basic.written assetId accountId balance)
      (memory.written config (assetId, accountId) asset owner balance) := by
  have kept := Memory.sameRegistry_written config (assetId, accountId) member asset balance
  refine ⟨kept.assets.trans same.assets, kept.assetKeys.trans same.assetKeys,
    fun other => (kept.accounts other).trans (same.accounts other),
    kept.accountKeys.trans same.accountKeys, kept.nextAsset.trans same.nextAsset,
    kept.nextAccount.trans same.nextAccount, fun other who => ?_⟩
  rw [Memory.amount, Memory.stored_written store, Basic.amount, Basic.written,
    Finmap.lookup_insert_if]
  split
  · rfl
  · exact same.amounts other who

/-- They hold the same after a new supply. -/
theorem supplied (same : Matches basic memory) (assetId : AssetId) (asset : Asset)
    (supply : Amount) (registered : basic.lassidToAsset.lookup assetId = some asset) :
    Matches (basic.supplied assetId asset supply) (memory.supplied assetId asset supply) := by
  refine ⟨?_, same.assetKeys, same.accounts, same.accountKeys, ?_, same.nextAccount,
    same.amounts⟩
  · rw [Memory.supplied, Basic.supplied, same.assets]
  · exact same.nextAsset.trans (Finmap.size_insert_old _ registered).symm

/-- They hold the same after a new asset. -/
theorem addAsset (same : Matches basic memory) (sound : basic.Sound) (asset : Asset) :
    Matches (basic.addAsset asset) (memory.addAsset asset) := by
  refine ⟨?_, ?_, same.accounts, same.accountKeys, ?_, same.nextAccount, same.amounts⟩
  · rw [Memory.addAsset, Basic.addAsset, same.assets, same.nextAsset]
  · rw [Memory.addAsset, Basic.addAsset, same.assetKeys, same.nextAsset]
  · have size := Finmap.size_insert_new asset sound.asset_fresh
    exact (congrArg (· + 1) same.nextAsset).trans size.symm

/-- They hold the same after a new account. -/
theorem addAccount (same : Matches basic memory) (sound : basic.Sound) (account : Account) :
    Matches (basic.addAccount account) (memory.addAccount account) := by
  refine ⟨same.assets, same.assetKeys, fun other => ?_, ?_, same.nextAsset, ?_, same.amounts⟩
  · rw [Memory.account_addAccount, Basic.addAccount, Finmap.lookup_insert_if, same.nextAccount,
      same.accounts]
  · rw [Memory.addAccount, Basic.addAccount, same.accountKeys, same.nextAccount]
  · have size := Finmap.size_insert_new account sound.account_fresh
    exact (congrArg (· + 1) same.nextAccount).trans size.symm

/-- The next asset id is free in the memory ledger too. -/
theorem asset_vacant (same : Matches basic memory) (sound : basic.Sound) :
    memory.lassidToAsset.lookup memory.nextAssetId = none := by
  rw [same.assets, same.nextAsset, sound.asset_fresh]

/-- The next account id is free in the memory ledger too. -/
theorem account_vacant (same : Matches basic memory) (sound : basic.Sound) :
    memory.laccidToAccount.lookup memory.nextAccountId = none := by
  have known := same.accounts memory.nextAccountId
  rw [same.nextAccount, sound.account_fresh] at known
  rw [same.nextAccount]
  exact Option.map_eq_none_iff.mp known

end Matches

/-- Two states in the middle of a look-up: the ledgers are those that were met, and the variables of
the caller are the same. -/
def Looking {π : Type} (basic : Basic) (memory : Memory) (one : Basic × π) (two : Memory × π) :
    Prop :=
  one.1 = basic ∧ two.1 = memory ∧ one.2 = two.2

/-- Two states after a call: the ledgers match, and the variables of the caller are the same. -/
def Settled {π : Type} (one : Basic × π) (two : Memory × π) : Prop :=
  Matches one.1 two.1 ∧ one.2 = two.2

section Assets

variable {operation : Operation}

/-- Without removals, the memory ledger looks up when the basic one does. -/
theorem looks_iff (kept : operation ≠ .findAndRemove) :
    Memory.looks operation ↔ operation.finds := or_iff_left kept

/-- Without removals, only `FIND` requires what it looks for. -/
theorem requires_iff (kept : operation ≠ .findAndRemove) :
    Memory.requires operation ↔ operation = .find := or_iff_left kept

/-- Looking an asset up by key goes alike. -/
theorem lookForAssetKey_agree (same : Matches basic memory) (sound : basic.Sound)
    (kept : operation ≠ .findAndRemove) (assetKey : AssetKey) (args : AssetArgs) :
    ((Basic.lookForAssetKey operation assetKey).run (basic, args)).Agree (Looking basic memory)
      CmaException.SaysFull ((Memory.lookForAssetKey operation assetKey).run (memory, args)) := by
  unfold Basic.lookForAssetKey Memory.lookForAssetKey
  by_cases finds : operation.finds
  · rw [if_pos finds, if_pos ((looks_iff kept).mpr finds)]
    simp only [bind_run, read_run, Outcome.andThen_ok, same.assetKeys]
    cases found : basic.assetToLassid.lookup assetKey with
    | none =>
      simp only [requires_iff kept, bind_run, refuseIf_run]
      split
      · exact .throw _ ⟨rfl, rfl, rfl⟩
      · exact .ok _ ⟨rfl, rfl, rfl⟩
    | some assetId =>
      obtain ⟨asset, registered, -⟩ := (sound.assetKeys assetKey assetId).mp found
      have unbased := sound.unbased assetId asset registered
      simp only [Basic.findAssetInto, Memory.findAssetInto, Memory.removeFoundAsset, same.assets,
        registered, unbased, kept, bind_run, read_run, update_run, refuseIf_run, pure_run,
        Outcome.andThen_ok, not_true_eq_false, if_false]
      exact .ok true ⟨rfl, rfl, rfl⟩
  · rw [if_neg finds, if_neg (mt (looks_iff kept).mp finds)]
    exact .ok false ⟨rfl, rfl, rfl⟩

/-- Creating an asset with a key goes alike. -/
theorem createAssetKey_agree (same : Matches basic memory) (sound : basic.Sound)
    (assetKey : AssetKey) (asset : Asset) (keyed : asset.key = some assetKey) (args : AssetArgs) :
    ((do
      Basic.insertAssetKey basic.getAssetCount assetKey
      Basic.insertAsset basic.getAssetCount asset).run (basic, args)).Agree Settled
        CmaException.SaysFull
        ((Memory.createAssetKey config assetKey asset).run (memory, args)) := by
  have free := sound.asset_fresh
  rw [Memory.createAssetKey_run config (same.asset_vacant sound) keyed, same.assetKeys]
  split
  · exact .excuse _ _ _ (.inl rfl)
  · cases taken : basic.assetToLassid.lookup assetKey with
    | some other =>
      simp only [Basic.insertAssetKey, bind_run, read_run, refuseIf_run, Outcome.andThen_ok,
        Outcome.andThen_throw, taken, Option.isSome_some, if_true]
      exact .throw _ ⟨same, rfl⟩
    | none =>
      have left : (do
          Basic.insertAssetKey basic.getAssetCount assetKey
          Basic.insertAsset basic.getAssetCount asset).run (basic, args) =
            .ok () (basic.addAsset asset, args.withId basic.getAssetCount) := by
        simp [Basic.insertAssetKey, Basic.insertAsset, Basic.addAsset, taken, free, keyed,
          Finmap.insertKey]
      rw [left, Option.isSome_none, if_neg Bool.false_ne_true, same.nextAsset]
      exact .ok () ⟨same.addAsset sound asset, rfl⟩

/-- The case of `retrieve_asset` for a type with a key goes alike. -/
theorem retrieveKeyedAsset_agree (config : Config) (same : Matches basic memory)
    (sound : basic.Sound)
    (kept : operation ≠ .findAndRemove) (assetKey : AssetKey) (asset : Asset)
    (keyed : asset.key = some assetKey) (args : AssetArgs) :
    ((Basic.retrieveKeyedAsset operation basic.getAssetCount assetKey asset).run
      (basic, args)).Agree Settled CmaException.SaysFull
        ((Memory.retrieveKeyedAsset config operation assetKey asset).run (memory, args)) := by
  unfold Basic.retrieveKeyedAsset Memory.retrieveKeyedAsset
  refine agree_andThen (lookForAssetKey_agree same sound kept assetKey args) ?_ ?_
  · rintro one two ⟨rfl, rfl, answers⟩
    exact ⟨same, answers⟩
  · rintro settled ⟨_, met⟩ ⟨_, _⟩ ⟨rfl, rfl, rfl⟩
    dsimp only
    split
    · exact createAssetKey_agree same sound assetKey asset keyed met
    · exact .ok () ⟨same, rfl⟩

/-- Looking an asset up by id goes alike. -/
theorem lookForAssetId_agree (same : Matches basic memory) (sound : basic.Sound)
    (kept : operation ≠ .findAndRemove) (args : AssetArgs) (given : args.assetId = some assetId) :
    ((Basic.lookForAssetId operation assetId).run (basic, args)).Agree (Looking basic memory)
      CmaException.SaysFull
        ((Memory.lookForAssetId operation .id assetId).run (memory, args)) := by
  have named : args.withId assetId = args := by
    unfold AssetArgs.withId
    rw [given, Option.map_some, ← given]
  unfold Basic.lookForAssetId Memory.lookForAssetId
  by_cases finds : operation.finds
  · rw [if_pos finds, if_pos ((looks_iff kept).mpr finds)]
    have plain :
        ¬(operation = .find ∧ AssetType.id = .base ∧ memory.baseAssetIdDefined = true) := by
      simp
    simp only [bind_run, read_run, update_run, Outcome.andThen_ok, if_neg plain, named]
    simp only [Basic.findAssetInto, Memory.findAssetInto, bind_run, read_run, Outcome.andThen_ok,
      same.assets]
    cases found : basic.lassidToAsset.lookup assetId with
    | none =>
      simp only [requires_iff kept, pure_run, Outcome.andThen_ok, Bool.false_eq_true,
        not_false_eq_true, true_and, ↓reduceIte, bind_run, refuseIf_run]
      split
      · exact .throw _ ⟨rfl, rfl, rfl⟩
      · exact .ok _ ⟨rfl, rfl, rfl⟩
    | some asset =>
      have unbased := sound.unbased assetId asset found
      simp only [Memory.removeFoundAsset, unbased, kept, bind_run, update_run, refuseIf_run,
        pure_run, Outcome.andThen_ok, not_true_eq_false, false_and, ↓reduceIte]
      exact .ok true ⟨rfl, rfl, rfl⟩
  · rw [if_neg finds, if_neg (mt (looks_iff kept).mp finds)]
    exact .ok false ⟨rfl, rfl, rfl⟩

/-- Creating an asset without a key goes alike. -/
theorem createAssetId_agree (same : Matches basic memory) (sound : basic.Sound)
    (args : AssetArgs) :
    ((Basic.insertAsset basic.getAssetCount (.ofType .id)).run (basic, args)).Agree Settled
      CmaException.SaysFull ((Memory.createAssetId config .id).run (memory, args)) := by
  have free := sound.asset_fresh
  rw [Memory.createAssetId_run config (same.asset_vacant sound) rfl]
  split
  · exact .excuse _ _ _ (.inl rfl)
  · have left : (Basic.insertAsset basic.getAssetCount (.ofType .id)).run (basic, args) =
        .ok () (basic.addAsset (.ofType .id), args.withId basic.getAssetCount) := by
      simp [Basic.insertAsset, Basic.addAsset, free, Asset.key, Asset.ofType, Finmap.insertKey]
    rw [left, if_neg (by simp), same.nextAsset]
    exact .ok () ⟨same.addAsset sound _, rfl⟩

/-- `retrieve_asset` goes alike for the types and operations both ledgers support. -/
theorem retrieveAsset_agree (same : Matches basic memory) (sound : basic.Sound)
    (args : AssetArgs) (common : (Call.retrieveAsset args operation).Common) :
    ((Basic.retrieveAsset operation).run (basic, args)).Agree Settled CmaException.SaysFull
      ((Memory.retrieveAsset config operation).run (memory, args)) := by
  obtain ⟨typed, unbased, kept⟩ := common
  have keyed := retrieveKeyedAsset_agree config same sound kept
  unfold Basic.retrieveAsset Memory.retrieveAsset
  simp only [bind_run, read_run, Outcome.andThen_ok]
  cases type : args.assetType with
  | none => exact absurd type typed
  | some assetType =>
    cases assetType with
    | base => exact absurd type unbased
    | id =>
      simp only [Memory.retrieveUnkeyedAsset, bind_run, read_run, Outcome.andThen_ok]
      cases given : args.assetId with
      | none => exact .throw _ ⟨same, rfl⟩
      | some assetId =>
        simp only [orRaise_some, pure_run, bind_run, Outcome.andThen_ok]
        refine agree_andThen (lookForAssetId_agree same sound kept args given) ?_ ?_
        · rintro one two ⟨rfl, rfl, answers⟩
          exact ⟨same, answers⟩
        · rintro settled ⟨_, met⟩ ⟨_, _⟩ ⟨rfl, rfl, rfl⟩
          dsimp only
          split
          · exact createAssetId_agree same sound met
          · exact .ok () ⟨same, rfl⟩
    | tokenAddress =>
      cases given : args.tokenAddress with
      | none => exact .throw _ ⟨same, rfl⟩
      | some address => exact keyed (addressKey address) _ rfl args
    | tokenAddressId =>
      cases given : args.tokenAddress with
      | none => exact .throw _ ⟨same, rfl⟩
      | some address =>
        cases named : args.tokenId with
        | none => exact .throw _ ⟨same, rfl⟩
        | some tokenId => exact keyed (addressIdKey address tokenId) _ rfl args
    | tokenAddressIdAmount =>
      cases given : args.tokenAddress with
      | none => exact .throw _ ⟨same, rfl⟩
      | some address =>
        cases named : args.tokenId with
        | none => exact .throw _ ⟨same, rfl⟩
        | some tokenId => exact keyed (addressIdKey address tokenId) _ rfl args

end Assets

section Accounts

variable {operation : Operation}

/-- Looking an account up by key goes alike. -/
theorem lookForAccountKey_agree (same : Matches basic memory) (sound : basic.Sound)
    (kept : operation ≠ .findAndRemove) (accountKey : Bytes32) (args : AccountArgs)
    (uncounted : args.nBalances = none) :
    ((Basic.lookForAccountKey operation accountKey).run (basic, args)).Agree
      (Looking basic memory) CmaException.SaysFull
        ((Memory.lookForAccountKey operation accountKey).run (memory, args)) := by
  unfold Basic.lookForAccountKey Memory.lookForAccountKey
  by_cases finds : operation.finds
  · rw [if_pos finds, if_pos ((looks_iff kept).mpr finds)]
    simp only [bind_run, read_run, Outcome.andThen_ok, same.accountKeys]
    cases found : basic.accountToLaccid.lookup accountKey with
    | none =>
      simp only [requires_iff kept, bind_run, refuseIf_run]
      split
      · exact .throw _ ⟨rfl, rfl, rfl⟩
      · exact .ok _ ⟨rfl, rfl, rfl⟩
    | some accountId =>
      obtain ⟨account, registered, -⟩ := (sound.accountKeys accountKey accountId).mp found
      have known := (same.accounts accountId).trans registered
      obtain ⟨owner, member, rfl⟩ := Option.map_eq_some_iff.mp known
      simp only [Basic.findAccountInto, Memory.findAccountInto, Memory.removeFoundAccount,
        registered, member, kept, bind_run, read_run, update_run, refuseIf_run, pure_run,
        Outcome.andThen_ok, not_true_eq_false, if_false]
      exact .ok true ⟨rfl, rfl, by simp [AccountArgs.fill, uncounted]⟩
  · rw [if_neg finds, if_neg (mt (looks_iff kept).mp finds)]
    exact .ok false ⟨rfl, rfl, rfl⟩

/-- Looking an account up by id goes alike. -/
theorem lookForAccountId_agree (same : Matches basic memory)
    (kept : operation ≠ .findAndRemove) (args : AccountArgs) (uncounted : args.nBalances = none) :
    ((Basic.lookForAccountId operation accountId).run (basic, args)).Agree
      (Looking basic memory) CmaException.SaysFull
        ((Memory.lookForAccountId operation accountId).run (memory, args)) := by
  unfold Basic.lookForAccountId Memory.lookForAccountId
  by_cases finds : operation.finds
  · rw [if_pos finds, if_pos ((looks_iff kept).mpr finds)]
    simp only [Basic.findAccountInto, Memory.findAccountInto, bind_run, read_run,
      Outcome.andThen_ok]
    have known := same.accounts accountId
    cases found : basic.laccidToAccount.lookup accountId with
    | none =>
      rw [found] at known
      have absent := Option.map_eq_none_iff.mp known
      simp only [absent, requires_iff kept, pure_run, Outcome.andThen_ok, Bool.false_eq_true,
        ↓reduceIte, bind_run, refuseIf_run]
      split
      · exact .throw _ ⟨rfl, rfl, rfl⟩
      · exact .ok _ ⟨rfl, rfl, rfl⟩
    | some account =>
      rw [found] at known
      obtain ⟨owner, member, rfl⟩ := Option.map_eq_some_iff.mp known
      simp only [Memory.removeFoundAccount, member, kept, bind_run, update_run, pure_run,
        Outcome.andThen_ok, ↓reduceIte]
      exact .ok true ⟨rfl, rfl, by simp [AccountArgs.fill, uncounted]⟩
  · rw [if_neg finds, if_neg (mt (looks_iff kept).mp finds)]
    exact .ok false ⟨rfl, rfl, rfl⟩

/-- Creating an account with a key goes alike. -/
theorem createAccountKey_agree (same : Matches basic memory) (sound : basic.Sound)
    (account : Account) (keyed : account.key = some account.accountId) (args : AccountArgs) :
    ((do
      Basic.insertAccountKey basic.getAccountCount account.accountId
      Basic.insertAccount basic.getAccountCount account
      update fun state =>
        (state.1, { state.2.fill account none with
          accountType := some account.type })).run (basic, args)).Agree Settled
        CmaException.SaysFull ((Memory.createAccountKey config account).run (memory, args)) := by
  have free := sound.account_fresh
  rw [Memory.createAccountKey_run config (same.account_vacant sound) keyed, same.accountKeys]
  split
  · exact .excuse _ _ _ (.inr (.inl rfl))
  · cases taken : basic.accountToLaccid.lookup account.accountId with
    | some other =>
      simp only [Basic.insertAccountKey, bind_run, read_run, refuseIf_run, Outcome.andThen_ok,
        Outcome.andThen_throw, taken, Option.isSome_some, if_true]
      exact .throw _ ⟨same, rfl⟩
    | none =>
      have left : (do
          Basic.insertAccountKey basic.getAccountCount account.accountId
          Basic.insertAccount basic.getAccountCount account
          update fun state => (state.1, { state.2.fill account none with
            accountType := some account.type })).run (basic, args) =
            .ok () (basic.addAccount account,
              Memory.answerCreated args account basic.getAccountCount) := by
        simp [Basic.insertAccountKey, Basic.insertAccount, Basic.addAccount, taken, free, keyed,
          Finmap.insertKey, Memory.answerCreated, AccountArgs.fill, AccountArgs.withId]
      rw [left, Option.isSome_none, if_neg Bool.false_ne_true, same.nextAccount]
      exact .ok () ⟨same.addAccount sound account, rfl⟩

/-- Creating an account without a key goes alike. -/
theorem createAccountId_agree (same : Matches basic memory) (sound : basic.Sound)
    (args : AccountArgs) :
    ((Basic.insertAccount basic.getAccountCount ⟨.id, zeros 32⟩).run (basic, args)).Agree Settled
      CmaException.SaysFull ((Memory.createAccountId config).run (memory, args)) := by
  have free := sound.account_fresh
  rw [Memory.createAccountId_run config (same.account_vacant sound)]
  split
  · exact .excuse _ _ _ (.inr (.inl rfl))
  · have left : (Basic.insertAccount basic.getAccountCount ⟨.id, zeros 32⟩).run (basic, args) =
        .ok () (basic.addAccount ⟨.id, zeros 32⟩, args.withId basic.getAccountCount) := by
      simp [Basic.insertAccount, Basic.addAccount, free, Account.key, Finmap.insertKey]
    rw [left, same.nextAccount]
    exact .ok () ⟨same.addAccount sound _, rfl⟩

/-- The case of `retrieve_account` for an account with a key goes alike. -/
theorem retrieveKeyedAccount_agree (same : Matches basic memory) (sound : basic.Sound)
    (kept : operation ≠ .findAndRemove) (accountType : AccountType) (typed : accountType ≠ .id)
    (args : AccountArgs) (uncounted : args.nBalances = none) :
    ((Basic.retrieveKeyedAccount operation basic.getAccountCount accountType).run
      (basic, args)).Agree Settled CmaException.SaysFull
        ((Memory.retrieveKeyedAccount config operation accountType).run (memory, args)) := by
  unfold Basic.retrieveKeyedAccount Memory.retrieveKeyedAccount localAccount
  simp only [bind_run, read_run, Outcome.andThen_ok]
  cases built : args.local? accountType with
  | none => exact .throw _ ⟨same, rfl⟩
  | some account =>
    have keyed := Account.key_some (AccountArgs.local?_plain typed built).1
    simp only [orRaise_some, pure_run, bind_run, Outcome.andThen_ok]
    refine agree_andThen (lookForAccountKey_agree same sound kept _ args uncounted) ?_ ?_
    · rintro one two ⟨rfl, rfl, answers⟩
      exact ⟨same, answers⟩
    · rintro settled ⟨_, met⟩ ⟨_, _⟩ ⟨rfl, rfl, rfl⟩
      dsimp only
      split
      · exact createAccountKey_agree same sound account keyed met
      · exact .ok () ⟨same, rfl⟩

/-- `retrieve_account` goes alike for the operations both ledgers support. -/
theorem retrieveAccount_agree (same : Matches basic memory) (sound : basic.Sound)
    (args : AccountArgs) (common : (Call.retrieveAccount args operation).Common) :
    ((Basic.retrieveAccount operation).run (basic, args)).Agree Settled CmaException.SaysFull
      ((Memory.retrieveAccount config operation).run (memory, args)) := by
  obtain ⟨uncounted, kept⟩ := common
  unfold Basic.retrieveAccount Memory.retrieveAccount
  simp only [bind_run, read_run, Outcome.andThen_ok]
  cases type : args.accountType with
  | none => exact .throw _ ⟨same, rfl⟩
  | some accountType =>
    cases accountType with
    | id =>
      simp only [Memory.retrieveUnkeyedAccount, bind_run, read_run, Outcome.andThen_ok]
      cases given : args.accountId with
      | none => exact .throw _ ⟨same, rfl⟩
      | some accountId =>
        simp only [orRaise_some, pure_run, bind_run, Outcome.andThen_ok]
        refine agree_andThen (lookForAccountId_agree same kept args uncounted) ?_ ?_
        · rintro one two ⟨rfl, rfl, answers⟩
          exact ⟨same, answers⟩
        · rintro settled ⟨_, met⟩ ⟨_, _⟩ ⟨rfl, rfl, rfl⟩
          dsimp only
          split
          · exact createAccountId_agree same sound met
          · exact .ok () ⟨same, rfl⟩
    | walletAddress =>
      exact retrieveKeyedAccount_agree same sound kept _ (by decide) args uncounted
    | accountId =>
      exact retrieveKeyedAccount_agree same sound kept _ (by decide) args uncounted

end Accounts

/-- A call of the memory ledger that does not say it is full has the same answer from the basic
ledger, and leaves the two matching. -/
def Agrees (config : Config) (basic : Basic) (memory : Memory) (request : Call) : Prop :=
  ∀ after response, memory.call config request = some (after, response) → ¬response.SaysFull →
    ∃ next, basic.call request = some (next, response) ∧ Matches next after

/-- Outcomes that agree settle into the same answer. -/
theorem agrees_of_agree {π : Type} {answer : π → Output} {after : Memory} {response : Response}
    {left : Outcome CmaException (Basic × π) Unit} {right : Outcome CmaException (Memory × π) Unit}
    (agree : left.Agree Settled CmaException.SaysFull right)
    (called : settle answer right = some (after, response)) (roomy : ¬response.SaysFull) :
    ∃ next, settle answer left = some (next, response) ∧ Matches next after := by
  cases agree with
  | @ok value one two states =>
    obtain ⟨rfl, rfl⟩ := Prod.mk.inj (Option.some.inj called)
    exact ⟨one.1, by rw [settle, states.2], states.1⟩
  | @throw error one two states =>
    obtain ⟨rfl, rfl⟩ := Prod.mk.inj (Option.some.inj called)
    exact ⟨one.1, by rw [settle, states.2], states.1⟩
  | undefined => contradiction
  | excuse outcome error right permitted =>
    obtain ⟨rfl, rfl⟩ := Prod.mk.inj (Option.some.inj called)
    exact absurd ⟨error, rfl, permitted⟩ roomy

section Balances

variable (same : Matches basic memory) (sound : memory.Sound config) (stable : memory.Stable)

include same sound stable

/-- `get_account_asset_balance` goes alike, when no record is asked for. -/
theorem getBalance_agrees (assetId : AssetId) (accountId : AccountId) (asked : Option Amount) :
    Agrees config basic memory (.getBalance assetId accountId asked none) := by
  intro after response called roomy
  have readable := stable.balanceOf sound.store.toSlotted assetId accountId
  have left : basic.call (.getBalance assetId accountId asked none) =
      some (basic, ⟨none, .balance (asked.map fun _ => basic.amount assetId accountId) none⟩) :=
    rfl
  have right : memory.call config (.getBalance assetId accountId asked none) =
      some (memory,
        ⟨none, .balance (asked.map fun _ => memory.amount assetId accountId) none⟩) := by
    cases asked <;> simp [Memory.call, Memory.getAccountAssetBalance, readable, settle]
  rw [right] at called
  obtain ⟨rfl, rfl⟩ := Prod.mk.inj (Option.some.inj called)
  exact ⟨basic, by rw [left, same.amounts], same⟩

/-- A balance and a supply are written alike, if there is room. -/
theorem written_agrees (registered : memory.lassidToAsset.lookup assetId = some asset)
    (member : memory.view.account accountId = true) (balance supply : Amount) {after : Memory}
    {response : Response}
    (called : settle (fun _ => .nothing)
      (((Memory.setAccountAssetBalance config assetId accountId balance >>= fun _ =>
        Memory.setAssetSupply assetId supply).run memory).mapState fun first => (first, ())) =
          some (after, response)) (roomy : ¬response.SaysFull) :
    response = ⟨none, .nothing⟩ ∧
      Matches ((basic.written assetId accountId balance).supplied assetId asset supply) after := by
  obtain ⟨owner, present⟩ := Memory.view_member member
  rcases Memory.write_then sound.store registered present balance
    (fun _ => Memory.setAssetSupply assetId supply) with
    ⟨full, thrown⟩ | ⟨room, written⟩ | ⟨unstable, -⟩
  · rw [thrown] at called
    obtain ⟨rfl, rfl⟩ := Prod.mk.inj (Option.some.inj called)
    exact absurd ⟨_, rfl, .inr (.inr rfl)⟩ roomy
  · rw [written, Memory.supply_written registered present] at called
    obtain ⟨rfl, rfl⟩ := Prod.mk.inj (Option.some.inj called)
    exact ⟨rfl, (same.written sound.store present asset _).supplied assetId asset _
      (same.assets ▸ registered)⟩
  · exact absurd stable unstable

variable (basicSound : basic.Sound)

include basicSound

/-- `deposit` goes alike. -/
theorem deposit_agrees (assetId : AssetId) (accountId : AccountId) (amount : Amount) :
    Agrees config basic memory (.deposit assetId accountId amount) := by
  intro after response called roomy
  have view := same.view stable sound.store.toSlotted
  simp only [Memory.call, onFirst_run, Memory.deposit] at called
  simp only [Basic.call, onFirst_run, Basic.deposit]
  rcases LedgerOps.deposit_cases (Memory.reports config memory) assetId accountId amount with
    ⟨error, refused, -, thrown⟩ | ⟨-, undefined⟩ | ⟨asset, balance, accepts, continues⟩
  · have likewise : (Basic.ops.deposit assetId accountId amount).run basic =
        .throw error basic := by
      rw [LedgerOps.deposit, bind_run, basicSound.reports.depositChecks, ← view, refused]
      rfl
    rw [thrown] at called
    obtain ⟨rfl, rfl⟩ := Prod.mk.inj (Option.some.inj called)
    exact ⟨basic, by rw [likewise]; rfl, same⟩
  · rw [undefined] at called
    contradiction
  · have likewise : (Basic.ops.deposit assetId accountId amount).run basic =
        .ok () ((basic.written assetId accountId (amountCheckedAdd balance amount).1).supplied
          assetId asset (amountCheckedAdd asset.supply amount).1) := by
      rw [LedgerOps.deposit, bind_run, basicSound.reports.depositChecks, ← view, accepts.passes]
      exact Basic.write_then_supply (same.assets ▸ accepts.registered) accountId _ _
    rw [continues] at called
    obtain ⟨rfl, left⟩ := written_agrees same sound stable accepts.registered
      accepts.member _ _ called roomy
    exact ⟨_, by rw [likewise]; rfl, left⟩

/-- `withdraw` goes alike. -/
theorem withdraw_agrees (assetId : AssetId) (accountId : AccountId) (amount : Amount) :
    Agrees config basic memory (.withdraw assetId accountId amount) := by
  intro after response called roomy
  have view := same.view stable sound.store.toSlotted
  simp only [Memory.call, onFirst_run, Memory.withdraw] at called
  simp only [Basic.call, onFirst_run, Basic.withdraw]
  rcases LedgerOps.withdraw_cases (Memory.reports config memory) assetId accountId amount with
    ⟨error, refused, -, thrown⟩ | ⟨-, undefined⟩ | ⟨asset, balance, accepts, continues⟩
  · have likewise : (Basic.ops.withdraw assetId accountId amount).run basic =
        .throw error basic := by
      rw [LedgerOps.withdraw, bind_run, basicSound.reports.withdrawChecks, ← view, refused]
      rfl
    rw [thrown] at called
    obtain ⟨rfl, rfl⟩ := Prod.mk.inj (Option.some.inj called)
    exact ⟨basic, by rw [likewise]; rfl, same⟩
  · rw [undefined] at called
    contradiction
  · have likewise : (Basic.ops.withdraw assetId accountId amount).run basic =
        .ok () ((basic.written assetId accountId (amountCheckedSub balance amount).1).supplied
          assetId asset (amountCheckedSub asset.supply amount).1) := by
      rw [LedgerOps.withdraw, bind_run, basicSound.reports.withdrawChecks, ← view, accepts.passes]
      exact Basic.write_then_supply (same.assets ▸ accepts.registered) accountId _ _
    rw [continues] at called
    obtain ⟨rfl, left⟩ := written_agrees same sound stable accepts.registered
      accepts.member _ _ called roomy
    exact ⟨_, by rw [likewise]; rfl, left⟩

/-- `transfer` goes alike. -/
theorem transfer_agrees (assetId : AssetId) (source target : AccountId) (amount : Amount) :
    Agrees config basic memory (.transfer assetId source target amount) := by
  intro after response called roomy
  have view := same.view stable sound.store.toSlotted
  simp only [Memory.call, onFirst_run, Memory.transfer] at called
  simp only [Basic.call, onFirst_run, Basic.transfer]
  rcases LedgerOps.transfer_cases (Memory.reports config memory) assetId source target amount with
    ⟨error, refused, -, thrown⟩ | ⟨-, undefined⟩ |
    ⟨asset, balanceFrom, balanceTo, accepts, continues⟩
  · have likewise : (Basic.ops.transfer assetId source target amount).run basic =
        .throw error basic := by
      rw [LedgerOps.transfer, bind_run, basicSound.reports.transferChecks, ← view, refused]
      rfl
    rw [thrown] at called
    obtain ⟨rfl, rfl⟩ := Prod.mk.inj (Option.some.inj called)
    exact ⟨basic, by rw [likewise]; rfl, same⟩
  · rw [undefined] at called
    contradiction
  · have likewise : (Basic.ops.transfer assetId source target amount).run basic =
        .ok () ((basic.written assetId source (amountCheckedSub balanceFrom amount).1).written
          assetId target (amountCheckedAdd balanceTo amount).1) := by
      rw [LedgerOps.transfer, bind_run, basicSound.reports.transferChecks, ← view, accepts.passes]
      rfl
    obtain ⟨sender, sent⟩ := Memory.view_member accepts.sender
    rw [continues] at called
    rcases Memory.write_then sound.store accepts.registered sent
      (amountCheckedSub balanceFrom amount).1
      (fun _ => Memory.setAccountAssetBalance config assetId target
        (amountCheckedAdd balanceTo amount).1) with
      ⟨full, thrown⟩ | ⟨room, written⟩ | ⟨unstable, -⟩
    · simp only [Memory.ops, thrown] at called
      obtain ⟨rfl, rfl⟩ := Prod.mk.inj (Option.some.inj called)
      exact absurd ⟨_, rfl, .inr (.inr rfl)⟩ roomy
    · simp only [Memory.ops, written] at called
      obtain ⟨receiver, received⟩ := Memory.owner_written config assetId sent
        (Memory.view_member accepts.receiver) asset (amountCheckedSub balanceFrom amount).1
      have middle := sound.written room accepts.registered sent
        (amountCheckedSub balanceFrom amount).1
      have still := (congrArg (Finmap.lookup assetId) (Memory.sameRegistry_written config
        (assetId, source) sent asset (amountCheckedSub balanceFrom amount).1).assets).trans
          accepts.registered
      rcases Memory.setAccountAssetBalance_run middle.store still received
        (amountCheckedAdd balanceTo amount).1 with
        ⟨full, thrown⟩ | ⟨roomier, credited⟩ | ⟨-, undefined⟩
      · rw [thrown] at called
        obtain ⟨rfl, rfl⟩ := Prod.mk.inj (Option.some.inj called)
        exact absurd ⟨_, rfl, .inr (.inr rfl)⟩ roomy
      · rw [credited] at called
        obtain ⟨rfl, rfl⟩ := Prod.mk.inj (Option.some.inj called)
        refine ⟨_, by rw [likewise]; rfl, ?_⟩
        exact (same.written sound.store sent asset _).written middle.store received asset _
      · rw [undefined] at called
        contradiction
    · exact absurd stable unstable

end Balances

/-- Every call that both ledgers support goes alike. -/
theorem agrees_of_common (same : Matches basic memory) (basicSound : basic.Sound)
    (sound : memory.Sound config) (stable : memory.Stable) {request : Call}
    (common : request.Common) : Agrees config basic memory request := by
  cases request with
  | retrieveAsset args operation =>
    intro after response called roomy
    exact agrees_of_agree (retrieveAsset_agree same basicSound args common) called roomy
  | retrieveAccount args operation =>
    intro after response called roomy
    exact agrees_of_agree (retrieveAccount_agree same basicSound args common) called roomy
  | getBalance assetId accountId asked info =>
    obtain rfl : info = none := common
    exact getBalance_agrees same sound stable assetId accountId asked
  | deposit assetId accountId amount =>
    exact deposit_agrees same sound stable basicSound assetId accountId amount
  | withdraw assetId accountId amount =>
    exact withdraw_agrees same sound stable basicSound assetId accountId amount
  | transfer assetId source target amount =>
    exact transfer_agrees same sound stable basicSound assetId source target amount
  | clear => exact common.elim

section Runs

/-- A call made to both ledgers, with both answers. -/
def callBoth (config : Config) (ledgers : Basic × Memory) (request : Call) :
    Option ((Basic × Memory) × (Response × Response)) :=
  match ledgers.1.call request, ledgers.2.call config request with
  | some (basic, one), some (memory, two) => some ((basic, memory), (one, two))
  | _, _ => none

/-- The call is supported by both ledgers; the memory ledger stays within its reserve and does not
answer that it is full. -/
def Shared (config : Config) (ledgers : Basic × Memory) (request : Call) : Prop :=
  request.Common ∧ ledgers.2.WithinReserve config request ∧
    ∀ answer ∈ ledgers.2.call config request, ¬answer.2.SaysFull

instance (config : Config) (ledgers : Basic × Memory) (request : Call) :
    Decidable (Shared config ledgers request) := inferInstanceAs (Decidable (_ ∧ _ ∧ _))

/-- The pairs of ledgers reached from new ones by shared calls. -/
def ReachableBoth (config : Config) (region : ℕ → AccountBalance) (ledgers : Basic × Memory) :
    Prop :=
  Run.Reaches (callBoth config) (Shared config) (Basic.empty, Memory.empty region) ledgers

/-- What holds of a pair of ledgers side by side. -/
structure Abreast (config : Config) (ledgers : Basic × Memory) : Prop where
  same : Matches ledgers.1 ledgers.2
  basic : ledgers.1.Sound
  memory : ledgers.2.Sound config
  anchored : ledgers.2.Anchored

/-- A shared call is answered by both ledgers, alike, and leaves them abreast. -/
theorem Abreast.call {ledgers : Basic × Memory} (abreast : Abreast config ledgers) {request : Call}
    (shared : Shared config ledgers request) :
    ∃ after response, callBoth config ledgers request = some (after, (response, response)) ∧
      Abreast config after := by
  obtain ⟨common, within, roomy⟩ := shared
  obtain ⟨memory, response, called⟩ := Memory.call_defined abreast.memory abreast.anchored within
  obtain ⟨basic, likewise, same⟩ := agrees_of_common abreast.same abreast.basic abreast.memory
    abreast.anchored.stable common memory response called (roomy _ called)
  refine ⟨(basic, memory), response, ?_, same, ?_, ?_, ?_⟩
  · simp only [callBoth, likewise, called]
  · exact (Basic.call_step abreast.basic likewise).sound abreast.basic
  · exact (Memory.call_step abreast.memory called).sound abreast.memory
  · exact (Memory.call_step abreast.memory called).anchored abreast.anchored within

/-- Ledgers that shared calls lead to are abreast. -/
theorem ReachableBoth.abreast {region : ℕ → AccountBalance} {ledgers : Basic × Memory}
    (reachable : ReachableBoth config region ledgers) : Abreast config ledgers := by
  refine reachable.invariant (Abreast config)
    ⟨.empty region, Basic.sound_empty, Memory.sound_empty config region,
      Memory.anchored_empty region⟩ ?_
  intro state request next output abreast shared called
  obtain ⟨after, response, answered, kept⟩ := abreast.call shared
  rw [answered] at called
  obtain ⟨rfl, -⟩ := Prod.mk.inj (Option.some.inj called)
  exact kept

/-- After any run of shared calls, both ledgers answer the next one alike. -/
theorem answers_agree (config : Config) (region : ℕ → AccountBalance) (ledgers : Basic × Memory)
    (reachable : ReachableBoth config region ledgers) (request : Call)
    (shared : Shared config ledgers request) :
    ∃ after response, callBoth config ledgers request = some (after, (response, response)) := by
  obtain ⟨after, response, answered, -⟩ := reachable.abreast.call shared
  exact ⟨after, response, answered⟩

/-- Both ledgers answer a withdrawal alike. -/
theorem answers_agree_withdrawal : ∃ ledgers after response,
    ReachableBoth Memory.singleBalance (fun _ => .zero) ledgers ∧
      callBoth Memory.singleBalance ledgers (.withdraw 0 0 (smallAmount 1)) =
        some (after, (response, response)) := by
  obtain ⟨ledgers, reachable, shared⟩ := Run.exists_reaches (callBoth Memory.singleBalance)
    (Shared Memory.singleBalance) (Basic.empty, Memory.empty fun _ => .zero) Memory.twoAccounts
    (by decide +kernel)
    (fun ledgers => decide (Shared Memory.singleBalance ledgers (.withdraw 0 0 (smallAmount 1))))
    true (by decide +kernel)
  obtain ⟨after, response, answered⟩ :=
    answers_agree _ _ ledgers reachable _ (of_decide_eq_true shared)
  exact ⟨ledgers, after, response, reachable, answered⟩

end Runs

end Libcma
