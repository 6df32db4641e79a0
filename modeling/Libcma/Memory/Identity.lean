import Libcma.Memory.Removal

/-!
# Who is registered under which key

Keys and ids of a reachable ledger name each other, ids in use are below the counters, and there is
one base asset at most. What a call registers under a key is found under that key until it is
removed.
-/

namespace Libcma

open Exec

namespace Memory

/-- The call takes the asset away: a reset, or a removal that asks for its key or its id. -/
def RemovesAsset (config : Config) (assetKey : AssetKey) (assetId : AssetId) (ledger : Memory)
    (request : Call) : Prop :=
  request = .clear ∨ ∃ args after answer, request = .retrieveAsset args .findAndRemove ∧
    ledger.call config request = some (after, ⟨none, .asset answer⟩) ∧
    (args.requestedKey = some assetKey ∨
      args.requestedKey = none ∧ args.assetId = some assetId)

/-- The call takes the account away: a reset, or a removal that asks for its key or its id. -/
def RemovesAccount (config : Config) (accountKey : Bytes32) (accountId : AccountId)
    (ledger : Memory) (request : Call) : Prop :=
  request = .clear ∨ ∃ args after answer, request = .retrieveAccount args .findAndRemove ∧
    ledger.call config request = some (after, ⟨none, .account answer⟩) ∧
    ((∃ account, args.requested = some account ∧ account.accountId = accountKey) ∨
      args.requested = none ∧ args.accountId = some accountId)

/-- A look-up by the key of an asset answers with its id and changes nothing. -/
def FindsAsset (config : Config) (ledger : Memory) (assetKey : AssetKey) (assetId : AssetId) :
    Prop :=
  ∀ args : AssetArgs, args.requestedKey = some assetKey → ∃ answer,
    ledger.call config (.retrieveAsset args .find) = some (ledger, ⟨none, .asset answer⟩) ∧
      answer.assetId = args.assetId.map fun _ => assetId

/-- A look-up by the key of an account answers with its id and changes nothing. -/
def FindsAccount (config : Config) (ledger : Memory) (accountKey : Bytes32)
    (accountId : AccountId) : Prop :=
  ∀ (args : AccountArgs) (account : Account), args.requested = some account →
    account.accountId = accountKey → ∃ answer,
      ledger.call config (.retrieveAccount args .find) =
        some (ledger, ⟨none, .account answer⟩) ∧
      answer.accountId = args.accountId.map fun _ => accountId

/-- Keys, ids and the base asset of a ledger are consistent. -/
structure Identified (config : Config) (ledger : Memory) : Prop where
  /-- A key leads to an id exactly when that id is of an asset with that key. -/
  assetKeys : ∀ assetKey assetId, ledger.assetToLassid.lookup assetKey = some assetId ↔
    ∃ asset, ledger.lassidToAsset.lookup assetId = some asset ∧ asset.key = some assetKey
  /-- A key leads to an id exactly when that id is of an account with those bytes. -/
  accountKeys : ∀ accountKey accountId,
    ledger.accountToLaccid.lookup accountKey = some accountId ↔
      ∃ owner, ledger.laccidToAccount.lookup accountId = some owner ∧
        (owner.account.type = .walletAddress ∨ owner.account.type = .accountId) ∧
        owner.account.accountId = accountKey
  /-- Asset ids in use are below the counter. -/
  assetIds : ∀ assetId asset, ledger.lassidToAsset.lookup assetId = some asset →
    assetId < ledger.nextAssetId
  /-- Account ids in use are below the counter. -/
  accountIds : ∀ accountId owner, ledger.laccidToAccount.lookup accountId = some owner →
    accountId < ledger.nextAccountId
  /-- There is one asset of type base at most. -/
  single : ∀ one two asset other, ledger.lassidToAsset.lookup one = some asset →
    ledger.lassidToAsset.lookup two = some other → asset.type = .base → other.type = .base →
    one = two
  /-- An asset of type base is the base asset. -/
  base : ∀ assetId asset, ledger.lassidToAsset.lookup assetId = some asset →
    asset.type = .base → ledger.baseAssetIdDefined = true ∧ ledger.baseAssetId = assetId
  /-- Two assets do not share a key. -/
  assets : ∀ one two asset other assetKey, ledger.lassidToAsset.lookup one = some asset →
    ledger.lassidToAsset.lookup two = some other → asset.key = some assetKey →
    other.key = some assetKey → one = two
  /-- Two accounts do not share a key. -/
  accounts : ∀ one two owner other accountKey,
    ledger.laccidToAccount.lookup one = some owner →
    ledger.laccidToAccount.lookup two = some other → owner.account.key = some accountKey →
    other.account.key = some accountKey → one = two
  /-- An asset that is created under a key is found there until it is removed. -/
  assetFound : ∀ args operation after answer assetKey, operation.creates →
    ledger.call config (.retrieveAsset args operation) = some (after, ⟨none, .asset answer⟩) →
    args.requestedKey = some assetKey →
    ∃ assetId, answer.assetId = (args.assetId.map fun _ => assetId) ∧
      (operation = .create → ledger.lassidToAsset.lookup assetId = none) ∧
      ∀ later, Run.Reaches (fun state request => state.call config request)
        (fun state request => ¬state.RemovesAsset config assetKey assetId request) after later →
        later.FindsAsset config assetKey assetId
  /-- An account that is created under a key is found there until it is removed. -/
  accountFound : ∀ args operation after answer account, operation.creates →
    ledger.call config (.retrieveAccount args operation) =
      some (after, ⟨none, .account answer⟩) →
    args.requested = some account →
    ∃ accountId, answer.accountId = (args.accountId.map fun _ => accountId) ∧
      (operation = .create → ledger.laccidToAccount.lookup accountId = none) ∧
      ∀ later, Run.Reaches (fun state request => state.call config request)
        (fun state request =>
          ¬state.RemovesAccount config account.accountId accountId request) after later →
        later.FindsAccount config account.accountId accountId

variable {config : Config} {region : ℕ → AccountBalance} {ledger after later : Memory}
  {assetId : AssetId} {accountId : AccountId} {assetKey : AssetKey} {accountKey : Bytes32}
  {request : Call} {response : Response}

section Finding

/-- A keyed look-up finds the asset its key leads to. -/
theorem retrieveKeyedAsset_find (config : Config) {asset : Asset}
    (named : ledger.assetToLassid.lookup assetKey = some assetId)
    (present : ledger.lassidToAsset.lookup assetId = some asset) (newAsset : Asset)
    (args : AssetArgs) :
    (retrieveKeyedAsset config .find assetKey newAsset).run (ledger, args) =
      .ok () (ledger, (args.fill asset).withId assetId) := by
  simp [retrieveKeyedAsset, lookForAssetKey, looks, Operation.finds, findAssetInto,
    removeFoundAsset, named, present]

/-- A keyed look-up finds the account its key leads to. -/
theorem lookForAccountKey_find {owner : AccountStruct}
    (named : ledger.accountToLaccid.lookup accountKey = some accountId)
    (present : ledger.laccidToAccount.lookup accountId = some owner) (args : AccountArgs) :
    (lookForAccountKey .find accountKey).run (ledger, args) =
      .ok true (ledger,
        ((args.fill owner.account (some owner.nBalances)).withId accountId).copyType) := by
  simp [lookForAccountKey, looks, Operation.finds, findAccountInto, removeFoundAccount, named,
    present]

/-- What a key leads to is found under it. -/
theorem Registry.findsAsset (config : Config) (registry : ledger.Registry)
    (named : ledger.assetToLassid.lookup assetKey = some assetId) :
    ledger.FindsAsset config assetKey assetId := by
  intro args requested
  obtain ⟨asset, present, -⟩ := (registry.assetKeys assetKey assetId).mp named
  have ran : (retrieveAsset config .find).run (ledger, args) =
      .ok () (ledger, (args.fill asset).withId assetId) := by
    unfold AssetArgs.requestedKey at requested
    simp only [retrieveAsset, bind_run, read_run, Outcome.andThen_ok]
    split at requested
    case h_1 type =>
      obtain ⟨address, given, rfl⟩ := Option.map_eq_some_iff.mp requested
      simp only [type, given, orRaise_some, bind_run, pure_run, Outcome.andThen_ok]
      exact retrieveKeyedAsset_find config named present _ args
    case h_2 type =>
      obtain ⟨address, given, rest⟩ := Option.bind_eq_some_iff.mp requested
      obtain ⟨tokenId, wanted, rfl⟩ := Option.map_eq_some_iff.mp rest
      simp only [type, given, wanted, orRaise_some, bind_run, pure_run, Outcome.andThen_ok]
      exact retrieveKeyedAsset_find config named present _ args
    case h_3 type =>
      obtain ⟨address, given, rest⟩ := Option.bind_eq_some_iff.mp requested
      obtain ⟨tokenId, wanted, rfl⟩ := Option.map_eq_some_iff.mp rest
      simp only [type, given, wanted, orRaise_some, bind_run, pure_run, Outcome.andThen_ok]
      exact retrieveKeyedAsset_find config named present _ args
    case h_4 => contradiction
  refine ⟨(args.fill asset).withId assetId, ?_, rfl⟩
  simp only [call, ran, settle]

/-- What a key leads to is found under it. -/
theorem Registry.findsAccount (config : Config) (registry : ledger.Registry)
    (named : ledger.accountToLaccid.lookup accountKey = some accountId) :
    ledger.FindsAccount config accountKey accountId := by
  intro args account requested keyed
  obtain ⟨found, present, -⟩ := (registry.accountKeys accountKey accountId).mp named
  obtain ⟨owner, there, -⟩ := Option.map_eq_some_iff.mp present
  have looked := lookForAccountKey_find (keyed ▸ named) there args
  have ran : (retrieveAccount config .find).run (ledger, args) = .ok () (ledger,
      ((args.fill owner.account (some owner.nBalances)).withId accountId).copyType) := by
    unfold AccountArgs.requested at requested
    simp only [retrieveAccount, bind_run, read_run, Outcome.andThen_ok]
    split at requested
    case h_1 type =>
      simp [type, retrieveKeyedAccount, localAccount, requested, looked]
    case h_2 type =>
      simp [type, retrieveKeyedAccount, localAccount, requested, looked]
    case h_3 => contradiction
  refine ⟨((args.fill owner.account (some owner.nBalances)).withId accountId).copyType, ?_, ?_⟩
  · simp only [call, ran, settle]
  · rw [AccountArgs.accountId_copyType]
    rfl

end Finding

section Keeping

/-- A step that does not take an asset away leaves its key leading to it. -/
theorem Step.asset_named (step : Step config ledger request response after)
    (called : ledger.call config request = some (after, response)) (registry : ledger.Registry)
    (named : ledger.assetToLassid.lookup assetKey = some assetId)
    (stays : ¬ledger.RemovesAsset config assetKey assetId request) :
    after.assetToLassid.lookup assetKey = some assetId := by
  have written {state : Memory} (key : MapKey) {asset : Asset} {owner : AccountStruct}
      (member : state.laccidToAccount.lookup key.2 = some owner) (balance : Amount)
      (before : state.assetToLassid.lookup assetKey = some assetId) :
      (state.written config key asset owner balance).assetToLassid.lookup assetKey =
        some assetId := by
    rw [(sameRegistry_written config key member asset balance).assetKeys]
    exact before
  cases step with
  | refused => exact named
  | asset result =>
    cases result with
    | found => exact named
    | added asset _ _ _ _ fresh =>
      simp only [addAsset, Finmap.lookup_insertKey]
      split
      · have unused := fresh assetKey ‹_›
        rw [named] at unused
        contradiction
      · exact named
    | removed gone asset removes present _ keyed which =>
      subst removes
      simp only [dropAsset, Finmap.lookup_eraseKey]
      split
      · -- The asset removed has the key, so it is the asset, and the call asked for it.
        have same : gone = assetId := by
          have leads := (registry.assetKeys assetKey gone).mpr ⟨asset, present, ‹_›⟩
          rw [named] at leads
          exact (Option.some.inj leads).symm
        refine absurd (.inr ⟨_, _, _, rfl, called, ?_⟩) stays
        cases asked : AssetArgs.requestedKey _ with
        | none => exact .inr ⟨rfl, same ▸ which asked⟩
        | some key => exact .inl ((keyed key asked).symm.trans ‹_›)
      · exact named
  | account result => cases result <;> exact named
  | balance => exact named
  | deposit accepts member room => exact written (_, _) member _ named
  | withdraw accepts member room => exact written (_, _) member _ named
  | transfer accepts sent room debit received still =>
    subst debit
    exact written (_, _) received _ (written (_, _) sent _ named)
  | stranded accepts sent room debit =>
    subst debit
    exact written (_, _) sent _ named
  | clear => exact absurd (.inl rfl) stays

/-- A step that does not take an account away leaves its key leading to it. -/
theorem Step.account_named (step : Step config ledger request response after)
    (called : ledger.call config request = some (after, response)) (registry : ledger.Registry)
    (named : ledger.accountToLaccid.lookup accountKey = some accountId)
    (stays : ¬ledger.RemovesAccount config accountKey accountId request) :
    after.accountToLaccid.lookup accountKey = some accountId := by
  have written {state : Memory} (key : MapKey) {asset : Asset} {owner : AccountStruct}
      (member : state.laccidToAccount.lookup key.2 = some owner) (balance : Amount)
      (before : state.accountToLaccid.lookup accountKey = some accountId) :
      (state.written config key asset owner balance).accountToLaccid.lookup accountKey =
        some accountId := by
    rw [(sameRegistry_written config key member asset balance).accountKeys]
    exact before
  cases step with
  | refused => exact named
  | asset result => cases result <;> exact named
  | account result =>
    cases result with
    | found => exact named
    | added account _ _ _ _ fresh =>
      simp only [addAccount, Finmap.lookup_insertKey]
      split
      · have unused := fresh accountKey ‹_›
        rw [named] at unused
        contradiction
      · exact named
    | removed gone owner removes present _ keyed which =>
      subst removes
      simp only [dropAccount, Finmap.lookup_eraseKey]
      split
      · have known : ledger.account gone = some owner.account := by
          rw [Memory.account, present, Option.map_some]
        have same : gone = accountId := by
          have leads := (registry.accountKeys accountKey gone).mpr ⟨owner.account, known, ‹_›⟩
          rw [named] at leads
          exact (Option.some.inj leads).symm
        refine absurd (.inr ⟨_, _, _, rfl, called, ?_⟩) stays
        cases asked : AccountArgs.requested _ with
        | none => exact .inr ⟨rfl, same ▸ which asked⟩
        | some account =>
          have has := (keyed account asked).symm.trans ‹_›
          exact .inl ⟨account, rfl, Option.some.inj has⟩
      · exact named
  | balance => exact named
  | deposit accepts member room => exact written (_, _) member _ named
  | withdraw accepts member room => exact written (_, _) member _ named
  | transfer accepts sent room debit received still =>
    subst debit
    exact written (_, _) received _ (written (_, _) sent _ named)
  | stranded accepts sent room debit =>
    subst debit
    exact written (_, _) sent _ named
  | clear => exact absurd (.inl rfl) stays

/-- As long as no call takes an asset away, its key leads to it. -/
theorem assetFound_of_reaches (sound : ledger.Sound config)
    (named : ledger.assetToLassid.lookup assetKey = some assetId)
    (run : Run.Reaches (fun state request => state.call config request)
      (fun state request => ¬state.RemovesAsset config assetKey assetId request) ledger later) :
    later.FindsAsset config assetKey assetId := by
  have both : later.Sound config ∧ later.assetToLassid.lookup assetKey = some assetId := by
    apply run.invariant fun state =>
      state.Sound config ∧ state.assetToLassid.lookup assetKey = some assetId
    · exact ⟨sound, named⟩
    · intro state request next response held stays called
      have step := call_step held.1 called
      exact ⟨step.sound held.1, step.asset_named called held.1.registry held.2 stays⟩
  exact both.1.registry.findsAsset config both.2

/-- As long as no call takes an account away, its key leads to it. -/
theorem accountFound_of_reaches (sound : ledger.Sound config)
    (named : ledger.accountToLaccid.lookup accountKey = some accountId)
    (run : Run.Reaches (fun state request => state.call config request)
      (fun state request => ¬state.RemovesAccount config accountKey accountId request)
      ledger later) :
    later.FindsAccount config accountKey accountId := by
  have both : later.Sound config ∧ later.accountToLaccid.lookup accountKey = some accountId := by
    apply run.invariant fun state =>
      state.Sound config ∧ state.accountToLaccid.lookup accountKey = some accountId
    · exact ⟨sound, named⟩
    · intro state request next response held stays called
      have step := call_step held.1 called
      exact ⟨step.sound held.1, step.account_named called held.1.registry held.2 stays⟩
  exact both.1.registry.findsAccount config both.2

/-- A creating call leaves the key it was given leading to the id it answers with. -/
theorem Step.asset_created {args answer : AssetArgs} {operation : Operation}
    (step : Step config ledger (.retrieveAsset args operation) ⟨none, .asset answer⟩ after)
    (registry : ledger.Registry) (creates : operation.creates)
    (requested : args.requestedKey = some assetKey) :
    ∃ assetId, answer.assetId = (args.assetId.map fun _ => assetId) ∧
      (operation = .create → ledger.lassidToAsset.lookup assetId = none) ∧
      after.assetToLassid.lookup assetKey = some assetId := by
  cases step with
  | asset result =>
    cases result with
    | found assetId asset finds present keyed =>
      refine ⟨assetId, rfl, ?_, ?_⟩
      · intro create
        rw [create] at finds
        exact absurd finds (by decide)
      · exact (registry.assetKeys assetKey assetId).mpr ⟨asset, present, keyed _ requested⟩
    | added asset _ _ _ keyed =>
      refine ⟨ledger.nextAssetId, rfl, fun _ => registry.asset_fresh, ?_⟩
      simp only [addAsset, Finmap.lookup_insertKey, keyed, requested, if_true]
    | removed _ _ removes =>
      rw [removes] at creates
      exact absurd creates (by decide)

/-- A creating call leaves the key it was given leading to the id it answers with. -/
theorem Step.account_created {args answer : AccountArgs} {operation : Operation}
    {account : Account}
    (step : Step config ledger (.retrieveAccount args operation) ⟨none, .account answer⟩ after)
    (registry : ledger.Registry) (creates : operation.creates)
    (requested : args.requested = some account) (keyed : account.key = some account.accountId) :
    ∃ accountId, answer.accountId = (args.accountId.map fun _ => accountId) ∧
      (operation = .create → ledger.laccidToAccount.lookup accountId = none) ∧
      after.accountToLaccid.lookup account.accountId = some accountId := by
  cases step with
  | account result =>
    cases result with
    | found accountId owner finds present same _ _ reported =>
      refine ⟨accountId, reported, ?_, ?_⟩
      · intro create
        rw [create] at finds
        exact absurd finds (by decide)
      · have known : ledger.account accountId = some owner.account := by
          rw [Memory.account, present, Option.map_some]
        exact (registry.accountKeys _ accountId).mpr ⟨owner.account, known, same _ requested⟩
    | added added _ _ asked _ _ _ _ reported =>
      refine ⟨ledger.nextAccountId, reported, fun _ => registry.account_fresh, ?_⟩
      rw [asked account requested]
      simp only [addAccount, Finmap.lookup_insertKey, keyed, if_true]
    | removed _ _ removes =>
      rw [removes] at creates
      exact absurd creates (by decide)

end Keeping

/-- An account is registered under its bytes unless it is by id. -/
theorem account_key_iff (account : Account) (accountKey : Bytes32) :
    account.key = some accountKey ↔
      (account.type = .walletAddress ∨ account.type = .accountId) ∧
        account.accountId = accountKey := by
  unfold Account.key
  cases account.type <;> simp

/-- An account asked for by its key has one. -/
theorem requested_keyed {args : AccountArgs} {account : Account}
    (requested : args.requested = some account) : account.key = some account.accountId := by
  apply Account.key_some
  unfold AccountArgs.requested at requested
  split at requested
  · exact (AccountArgs.local?_plain (by decide) requested).1
  · exact (AccountArgs.local?_plain (by decide) requested).1
  · contradiction

/-- A consistent registry names accounts by their bytes. -/
theorem Registry.account_named_iff (registry : ledger.Registry) (accountKey : Bytes32)
    (accountId : AccountId) :
    ledger.accountToLaccid.lookup accountKey = some accountId ↔
      ∃ owner, ledger.laccidToAccount.lookup accountId = some owner ∧
        (owner.account.type = .walletAddress ∨ owner.account.type = .accountId) ∧
        owner.account.accountId = accountKey := by
  rw [registry.accountKeys accountKey accountId]
  constructor
  · intro named
    obtain ⟨account, known, keyed⟩ := named
    obtain ⟨owner, present, rfl⟩ := Option.map_eq_some_iff.mp known
    exact ⟨owner, present, (account_key_iff _ _).mp keyed⟩
  · intro named
    obtain ⟨owner, present, keyed⟩ := named
    have known : ledger.account accountId = some owner.account := by
      rw [account, present, Option.map_some]
    exact ⟨owner.account, known, (account_key_iff _ _).mpr keyed⟩

/-- Keys, ids and the base asset of every reachable ledger are consistent. -/
theorem identified_of_reachable (config : Config) (region : ℕ → AccountBalance) (ledger : Memory)
    (reachable : Reachable config region AnyCall ledger) : ledger.Identified config := by
  have sound := reachable.sound
  have registry := sound.registry
  constructor
  case assetKeys => exact registry.assetKeys
  case accountKeys => exact registry.account_named_iff
  case assetIds => exact registry.assetIds
  case accountIds =>
    intro accountId owner present
    apply registry.accountIds accountId owner.account
    rw [account, present, Option.map_some]
  case single =>
    intro one two asset other present there type same
    have first := (registry.base one asset present type).2
    have second := (registry.base two other there same).2
    exact first.symm.trans second
  case base => exact registry.base
  case assets =>
    intro one two asset other assetKey present there keyed same
    have first := (registry.assetKeys assetKey one).mpr ⟨asset, present, keyed⟩
    have second := (registry.assetKeys assetKey two).mpr ⟨other, there, same⟩
    exact Option.some.inj (first.symm.trans second)
  case accounts =>
    intro one two owner other accountKey present there keyed same
    have first := (registry.account_named_iff accountKey one).mpr
      ⟨owner, present, (account_key_iff _ _).mp keyed⟩
    have second := (registry.account_named_iff accountKey two).mpr
      ⟨other, there, (account_key_iff _ _).mp same⟩
    exact Option.some.inj (first.symm.trans second)
  case assetFound =>
    intro args operation after answer assetKey creates called requested
    have step := call_step sound called
    obtain ⟨assetId, reported, new, named⟩ := step.asset_created registry creates requested
    exact ⟨assetId, reported, new, fun later run =>
      assetFound_of_reaches (step.sound sound) named run⟩
  case accountFound =>
    intro args operation after answer account creates called requested
    have step := call_step sound called
    obtain ⟨accountId, reported, new, named⟩ :=
      step.account_created registry creates requested (requested_keyed requested)
    exact ⟨accountId, reported, new, fun later run =>
      accountFound_of_reaches (step.sound sound) named run⟩

/-- The base asset, a token and a wallet are registered. -/
theorem identified_base : ∃ ledger : Memory, ledger.getAssetCount = 2 ∧ ledger.getAccountCount = 1 ∧
    ledger.Identified fewBalances := by
  obtain ⟨ledger, reachable, counts⟩ := exists_reachable fewBalances (fun _ => .zero)
    [createBase, retrieveToken .create, createWallet]
    (fun ledger => (ledger.getAssetCount, ledger.getAccountCount)) (2, 1) (by decide +kernel)
  obtain ⟨assets, accounts⟩ := Prod.mk.inj counts
  exact ⟨ledger, assets, accounts, identified_of_reachable fewBalances _ ledger reachable⟩

end Memory

end Libcma
