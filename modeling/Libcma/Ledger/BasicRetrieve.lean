import Libcma.Ledger.BasicConservation

/-!
# What a retrieval of the basic ledger does

The ends of `retrieve_asset` and `retrieve_account` of `cma_ledger_basic`, with what they leave in
the caller's id. Nothing is removed: `CMA_LEDGER_OP_FIND_AND_REMOVE` is no case of either switch
and passes over the look-up and the creation, so that it returns whatever the ledger holds.
-/

namespace Libcma

open Exec

/-- The pointers that `retrieve_asset` needs for the type are given. -/
def AssetArgs.Complete (args : AssetArgs) : Prop :=
  match args.assetType with
  | some .id | some .base => args.assetId.isSome
  | some .tokenAddress => args.tokenAddress.isSome
  | some .tokenAddressId | some .tokenAddressIdAmount =>
    args.tokenAddress.isSome ∧ args.tokenId.isSome
  | none => False

/-- The pointers that `retrieve_account` needs for the type are given. -/
def AccountArgs.Complete (args : AccountArgs) : Prop :=
  match args.accountType with
  | some .id => args.accountId.isSome
  | some .walletAddress | some .accountId => args.addrAccid.isSome ∨ args.account.isSome
  | none => False

namespace Basic

variable {ledger : Basic}

/-- How `retrieve_asset` ends when it returns. -/
inductive AssetResult (ledger : Basic) (operation : Operation) (args : AssetArgs) :
    Basic → AssetArgs → Prop
  /-- An asset was found. -/
  | found (assetId : AssetId) (asset : Asset) (finds : operation.finds)
      (present : ledger.lassidToAsset.lookup assetId = some asset)
      (keyed : ∀ key, args.requestedKey = some key → asset.key = some key)
      (named : args.requestedKey = none → args.assetId = some assetId) (answer : AssetArgs)
      (reported : answer.assetId = args.assetId.map fun _ => assetId) :
      AssetResult ledger operation args ledger answer
  /-- An asset was added. -/
  | added (asset : Asset) (creates : operation.creates) (keyed : asset.key = args.requestedKey)
      (answer : AssetArgs)
      (reported : answer.assetId = args.assetId.map fun _ => ledger.getAssetCount) :
      AssetResult ledger operation args (ledger.addAsset asset) answer
  /-- Nothing was done. -/
  | ignored (removes : operation = .findAndRemove) : AssetResult ledger operation args ledger args

/-- How `retrieve_account` ends when it returns. -/
inductive AccountResult (ledger : Basic) (operation : Operation) (args : AccountArgs) :
    Basic → AccountArgs → Prop
  /-- An account was found. -/
  | found (accountId : AccountId) (account : Account) (finds : operation.finds)
      (present : ledger.laccidToAccount.lookup accountId = some account)
      (keyed : ∀ requested, args.requested = some requested →
        account.key = some requested.accountId)
      (named : args.requested = none → args.accountId = some accountId) (answer : AccountArgs)
      (reported : answer.accountId = args.accountId.map fun _ => accountId) :
      AccountResult ledger operation args ledger answer
  /-- An account was added. -/
  | added (account : Account) (creates : operation.creates)
      (asked : ∀ requested, args.requested = some requested → account = requested)
      (answer : AccountArgs)
      (reported : answer.accountId = args.accountId.map fun _ => ledger.getAccountCount) :
      AccountResult ledger operation args (ledger.addAccount account) answer
  /-- Nothing was done. -/
  | ignored (removes : operation = .findAndRemove) :
      AccountResult ledger operation args ledger args

/-- An operation that was not settled by a look-up and creates nothing removes. -/
theorem removes_of_idle {operation : Operation} (required : operation ≠ .find)
    (idle : ¬operation.creates) : operation = .findAndRemove := by
  cases operation with
  | find => contradiction
  | create => exact absurd (.inl rfl) idle
  | findOrCreate => exact absurd (.inr rfl) idle
  | findAndRemove => rfl

/-- `find_asset` with the caller's pointers leaves the id. -/
theorem findAssetInto_result (ledger : Basic) (assetId : AssetId) (args : AssetArgs) :
    ((findAssetInto assetId).run (ledger, args)).Satisfies
      (fun found reached =>
        (found = true ∧ ∃ asset, ledger.lassidToAsset.lookup assetId = some asset ∧
          reached.1 = ledger ∧ reached.2.assetId = args.assetId) ∨
        (found = false ∧ reached = (ledger, args)))
      (fun _ _ => True) := by
  simp only [findAssetInto, satisfies_bind, satisfies_read]
  cases present : ledger.lassidToAsset.lookup assetId with
  | none => exact .inr ⟨rfl, rfl⟩
  | some asset =>
    simp only [satisfies_bind, satisfies_update, satisfies_refuseIf, satisfies_pure]
    exact ⟨fun _ => trivial, fun _ => .inl ⟨trivial, asset, rfl, trivial, rfl⟩⟩

/-- Looking an asset up by id. -/
theorem lookForAssetId_result (ledger : Basic) (operation : Operation) (assetId : AssetId)
    (args : AssetArgs) :
    ((lookForAssetId operation assetId).run (ledger, args)).Satisfies
      (fun settled reached =>
        (settled = true ∧ operation.finds ∧
          ∃ asset, ledger.lassidToAsset.lookup assetId = some asset ∧
            reached.1 = ledger ∧ reached.2.assetId = args.assetId) ∨
        (settled = false ∧ operation ≠ .find ∧ reached = (ledger, args)))
      (fun _ _ => True) := by
  simp only [lookForAssetId, satisfies_ite, satisfies_bind, satisfies_refuseIf, satisfies_pure]
  refine ⟨fun finds => ?_, fun skips => .inr ⟨trivial, fun find => skips (.inl find), trivial⟩⟩
  apply (findAssetInto_result ledger assetId args).mono
  · rintro found reached (⟨rfl, present⟩ | ⟨rfl, rfl⟩)
    · exact ⟨fun _ => trivial, fun _ => .inl ⟨rfl, finds, present⟩⟩
    · exact ⟨fun _ => trivial, fun optional =>
        .inr ⟨rfl, fun find => optional ⟨Bool.false_ne_true, find⟩, rfl⟩⟩
  · exact fun _ _ _ => trivial

/-- Looking an asset up by key. -/
theorem lookForAssetKey_result (ledger : Basic) (operation : Operation)
    (assetKey : AssetKey) (args : AssetArgs) :
    ((lookForAssetKey operation assetKey).run (ledger, args)).Satisfies
      (fun settled reached =>
        (settled = true ∧ operation.finds ∧
          ∃ assetId asset, ledger.assetToLassid.lookup assetKey = some assetId ∧
            ledger.lassidToAsset.lookup assetId = some asset ∧ reached.1 = ledger ∧
            reached.2.assetId = args.assetId.map fun _ => assetId) ∨
        (settled = false ∧ operation ≠ .find ∧ reached = (ledger, args)))
      (fun _ _ => True) := by
  simp only [lookForAssetKey, satisfies_ite, satisfies_bind, satisfies_read, satisfies_pure]
  refine ⟨fun finds => ?_, fun skips => .inr ⟨trivial, fun find => skips (.inl find), trivial⟩⟩
  cases named : ledger.assetToLassid.lookup assetKey with
  | none =>
    simp only [satisfies_bind, satisfies_refuseIf, satisfies_pure]
    exact ⟨fun _ => trivial, fun optional => .inr ⟨trivial, optional, trivial⟩⟩
  | some assetId =>
    simp only [satisfies_bind, satisfies_refuseIf, satisfies_update, satisfies_pure]
    apply (findAssetInto_result ledger assetId args).mono
    · rintro found reached (⟨rfl, asset, present, kept, same⟩ | ⟨rfl, rfl⟩)
      · refine ⟨fun missing => absurd rfl missing, fun _ => .inl ?_⟩
        exact ⟨trivial, finds, assetId, asset, rfl, present, kept, by
          rw [AssetArgs.assetId_withId, same]⟩
      · exact ⟨fun _ => trivial, fun missing => absurd Bool.false_ne_true missing⟩
    · exact fun _ _ _ => trivial

/-- `retrieve_asset` for a type with a key. -/
theorem retrieveKeyedAsset_result (sound : ledger.Sound) (operation : Operation)
    {assetKey : AssetKey} {newAsset : Asset} (keyed : newAsset.key = some assetKey)
    (args : AssetArgs) (requested : args.requestedKey = some assetKey) :
    ((retrieveKeyedAsset operation ledger.getAssetCount assetKey newAsset).run
      (ledger, args)).Satisfies
      (fun _ reached => AssetResult ledger operation args reached.1 reached.2)
      (fun _ _ => True) := by
  simp only [retrieveKeyedAsset, satisfies_bind]
  apply (lookForAssetKey_result ledger operation assetKey args).mono
  · rintro settled reached (⟨rfl, finds, assetId, asset, named, present, kept, reported⟩ |
      ⟨rfl, required, rfl⟩)
    · simp only [not_true_eq_false, false_and, ↓reduceIte, satisfies_pure]
      rw [kept]
      refine .found assetId asset finds present (fun key wanted => ?_) (fun unkeyed => ?_) _ reported
      · obtain ⟨other, there, has⟩ := (sound.assetKeys assetKey assetId).mp named
        obtain rfl := Option.some.inj (present.symm.trans there)
        rw [has, ← requested, wanted]
      · rw [requested] at unkeyed
        contradiction
    · simp only [Bool.false_eq_true, not_false_eq_true, true_and, satisfies_ite, satisfies_pure]
      refine ⟨fun creates => ?_, fun idle => .ignored (removes_of_idle required idle)⟩
      simp only [insertAssetKey, insertAsset, satisfies_bind, satisfies_read, satisfies_refuseIf,
        satisfies_update]
      refine ⟨fun _ => trivial, fun _ => ⟨fun _ => trivial, fun _ => ?_⟩⟩
      have added : AssetResult ledger operation args (ledger.addAsset newAsset)
          (args.withId ledger.getAssetCount) :=
        .added newAsset creates (keyed.trans requested.symm) _ rfl
      simp only [addAsset, keyed, Finmap.insertKey] at added
      exact added
  · exact fun _ _ _ => trivial

/-- `retrieve_asset` finds or adds one asset, or does nothing for a removal. -/
theorem retrieveAsset_result (sound : ledger.Sound) (operation : Operation) (args : AssetArgs) :
    ((retrieveAsset operation).run (ledger, args)).Satisfies
      (fun _ reached => AssetResult ledger operation args reached.1 reached.2)
      (fun _ _ => True) := by
  simp only [retrieveAsset, satisfies_bind, satisfies_read]
  cases type : args.assetType with
  | none => exact trivial
  | some assetType =>
    cases assetType with
    | id =>
      have unrequested : args.requestedKey = none := by simp [AssetArgs.requestedKey, type]
      simp only [satisfies_bind, satisfies_orRaise]
      refine ⟨fun _ => trivial, fun assetId given => ?_⟩
      apply (lookForAssetId_result ledger operation assetId args).mono
      · rintro settled reached (⟨rfl, finds, asset, present, kept, same⟩ | ⟨rfl, required, rfl⟩)
        · simp only [not_true_eq_false, false_and, ↓reduceIte, satisfies_pure]
          rw [kept]
          refine .found assetId asset finds present ?_ (fun _ => given) _ (by rw [same, given]; rfl)
          rw [unrequested]
          intro key impossible
          cases impossible
        · simp only [Bool.false_eq_true, not_false_eq_true, true_and, satisfies_ite,
            satisfies_pure]
          refine ⟨fun creates => ?_, fun idle => .ignored (removes_of_idle required idle)⟩
          simp only [insertAsset, satisfies_bind, satisfies_read, satisfies_refuseIf,
            satisfies_update]
          exact ⟨fun _ => trivial, fun _ => .added (.ofType .id) creates unrequested.symm _ rfl⟩
      · exact fun _ _ _ => trivial
    | base => exact trivial
    | tokenAddress =>
      simp only [satisfies_bind, satisfies_orRaise]
      refine ⟨fun _ => trivial, fun address given => ?_⟩
      exact retrieveKeyedAsset_result sound operation rfl args
        (by simp [AssetArgs.requestedKey, type, given])
    | tokenAddressId =>
      simp only [satisfies_bind, satisfies_orRaise]
      refine ⟨fun _ => trivial, fun address given => ⟨fun _ => trivial, fun tokenId named => ?_⟩⟩
      exact retrieveKeyedAsset_result sound operation rfl args
        (by simp [AssetArgs.requestedKey, type, given, named])
    | tokenAddressIdAmount =>
      simp only [satisfies_bind, satisfies_orRaise]
      refine ⟨fun _ => trivial, fun address given => ⟨fun _ => trivial, fun tokenId named => ?_⟩⟩
      exact retrieveKeyedAsset_result sound operation rfl args
        (by simp [AssetArgs.requestedKey, type, given, named])

/-- What returns after a pointer was checked, was given the pointer. -/
theorem satisfies_given {σ α β : Type} {value : Option α} {error : CmaException}
    {next : α → Exec CmaException σ β} {state : σ} {fact : Prop}
    (holds : ∀ found, value = some found →
      ((next found).run state).Satisfies (fun _ _ => fact) (fun _ _ => True)) :
    ((orRaise value error >>= next).run state).Satisfies (fun _ _ => fact) (fun _ _ => True) := by
  rw [satisfies_bind, satisfies_orRaise]
  exact ⟨fun _ => trivial, holds⟩

/-- What is known holds of every end. -/
theorem satisfies_known {σ α : Type} {outcome : Outcome CmaException σ α} {fact : Prop}
    (holds : fact) : outcome.Satisfies (fun _ _ => fact) (fun _ _ => True) := by
  cases outcome with
  | ok _ _ => exact holds
  | throw _ _ => trivial
  | undefined => trivial

/-- `retrieve_asset` returns only when its pointers are given, and never for the type base. -/
theorem retrieveAsset_complete (ledger : Basic) (operation : Operation) (args : AssetArgs) :
    ((retrieveAsset operation).run (ledger, args)).Satisfies
      (fun _ _ => args.Complete ∧ args.assetType ≠ some .base) (fun _ _ => True) := by
  unfold retrieveAsset AssetArgs.Complete
  rw [satisfies_bind, satisfies_read]
  dsimp only
  cases args.assetType with
  | none => exact trivial
  | some assetType =>
    cases assetType with
    | base => exact trivial
    | id | tokenAddress =>
      apply satisfies_given
      intro found given
      exact satisfies_known ⟨Option.isSome_of_mem given, by decide⟩
    | tokenAddressId | tokenAddressIdAmount =>
      apply satisfies_given
      intro address given
      apply satisfies_given
      intro tokenId named
      have both := And.intro (Option.isSome_of_mem given) (Option.isSome_of_mem named)
      exact satisfies_known ⟨both, by decide⟩

/-- `retrieve_asset` told to remove does nothing and returns. -/
theorem retrieveAsset_removes (args : AssetArgs) (complete : args.Complete)
    (unbased : args.assetType ≠ some .base) :
    (retrieveAsset .findAndRemove).run (ledger, args) = .ok () (ledger, args) := by
  unfold AssetArgs.Complete at complete
  cases type : args.assetType with
  | none => simp [type] at complete
  | some assetType =>
    cases assetType with
    | base => exact absurd type unbased
    | id =>
      simp only [type, Option.isSome_iff_exists] at complete
      obtain ⟨assetId, given⟩ := complete
      simp [retrieveAsset, lookForAssetId, type, given, Operation.finds, Operation.creates]
    | tokenAddress =>
      simp only [type, Option.isSome_iff_exists] at complete
      obtain ⟨address, given⟩ := complete
      simp [retrieveAsset, retrieveKeyedAsset, lookForAssetKey, type, given, Operation.finds,
        Operation.creates]
    | tokenAddressId | tokenAddressIdAmount =>
      simp only [type, Option.isSome_iff_exists] at complete
      obtain ⟨⟨address, given⟩, tokenId, named⟩ := complete
      simp [retrieveAsset, retrieveKeyedAsset, lookForAssetKey, type, given, named,
        Operation.finds, Operation.creates]

/-- `find_account` with the caller's pointers leaves the id. -/
theorem findAccountInto_result (ledger : Basic) (accountId : AccountId) (args : AccountArgs) :
    ((findAccountInto accountId).run (ledger, args)).Satisfies
      (fun found reached =>
        (found = true ∧ ∃ account, ledger.laccidToAccount.lookup accountId = some account ∧
          reached.1 = ledger ∧ reached.2.accountId = args.accountId) ∨
        (found = false ∧ reached = (ledger, args)))
      (fun _ _ => True) := by
  simp only [findAccountInto, satisfies_bind, satisfies_read]
  cases present : ledger.laccidToAccount.lookup accountId with
  | none => exact .inr ⟨rfl, rfl⟩
  | some account => exact .inl ⟨rfl, account, rfl, rfl, rfl⟩

/-- Looking an account up by id. -/
theorem lookForAccountId_result (ledger : Basic) (operation : Operation) (accountId : AccountId)
    (args : AccountArgs) :
    ((lookForAccountId operation accountId).run (ledger, args)).Satisfies
      (fun settled reached =>
        (settled = true ∧ operation.finds ∧
          ∃ account, ledger.laccidToAccount.lookup accountId = some account ∧
            reached.1 = ledger ∧ reached.2.accountId = args.accountId) ∨
        (settled = false ∧ operation ≠ .find ∧ reached = (ledger, args)))
      (fun _ _ => True) := by
  simp only [lookForAccountId, satisfies_ite, satisfies_bind, satisfies_refuseIf,
    satisfies_update, satisfies_pure]
  refine ⟨fun finds => ?_, fun skips => .inr ⟨trivial, fun find => skips (.inl find), trivial⟩⟩
  apply (findAccountInto_result ledger accountId args).mono
  · rintro found reached (⟨rfl, account, present, kept, same⟩ | ⟨rfl, rfl⟩)
    · refine ⟨fun _ => .inl ⟨trivial, finds, account, present, kept, ?_⟩,
        fun missing => absurd rfl missing⟩
      rw [AccountArgs.accountId_copyType, same]
    · exact ⟨fun missing => absurd missing Bool.false_ne_true, fun _ =>
        ⟨fun _ => trivial, fun optional => .inr ⟨trivial, optional, rfl⟩⟩⟩
  · exact fun _ _ _ => trivial

/-- Looking an account up by key. -/
theorem lookForAccountKey_result (ledger : Basic) (operation : Operation)
    (accountKey : Bytes32) (args : AccountArgs) :
    ((lookForAccountKey operation accountKey).run (ledger, args)).Satisfies
      (fun settled reached =>
        (settled = true ∧ operation.finds ∧
          ∃ accountId account, ledger.accountToLaccid.lookup accountKey = some accountId ∧
            ledger.laccidToAccount.lookup accountId = some account ∧ reached.1 = ledger ∧
            reached.2.accountId = args.accountId.map fun _ => accountId) ∨
        (settled = false ∧ operation ≠ .find ∧ reached = (ledger, args)))
      (fun _ _ => True) := by
  simp only [lookForAccountKey, satisfies_ite, satisfies_bind, satisfies_read, satisfies_pure]
  refine ⟨fun finds => ?_, fun skips => .inr ⟨trivial, fun find => skips (.inl find), trivial⟩⟩
  cases named : ledger.accountToLaccid.lookup accountKey with
  | none =>
    simp only [satisfies_bind, satisfies_refuseIf, satisfies_pure]
    exact ⟨fun _ => trivial, fun optional => .inr ⟨trivial, optional, trivial⟩⟩
  | some accountId =>
    simp only [satisfies_bind, satisfies_refuseIf, satisfies_update, satisfies_pure]
    apply (findAccountInto_result ledger accountId args).mono
    · rintro found reached (⟨rfl, account, present, kept, same⟩ | ⟨rfl, rfl⟩)
      · refine ⟨fun missing => absurd rfl missing, fun _ => .inl ?_⟩
        refine ⟨trivial, finds, accountId, account, rfl, present, kept, ?_⟩
        rw [AccountArgs.accountId_copyType, ← same]
        rfl
      · exact ⟨fun _ => trivial, fun missing => absurd Bool.false_ne_true missing⟩
    · exact fun _ _ _ => trivial

/-- `retrieve_account` for an account with a key. -/
theorem retrieveKeyedAccount_result (sound : ledger.Sound) (operation : Operation)
    {accountType : AccountType} (typed : accountType ≠ .id) (args : AccountArgs)
    (requested : args.requested = args.local? accountType) :
    ((retrieveKeyedAccount operation ledger.getAccountCount accountType).run
      (ledger, args)).Satisfies
      (fun _ reached => AccountResult ledger operation args reached.1 reached.2)
      (fun _ _ => True) := by
  simp only [retrieveKeyedAccount, localAccount, satisfies_bind, satisfies_read, satisfies_orRaise]
  refine ⟨fun _ => trivial, fun local? built => ?_⟩
  have keyed : local?.key = some local?.accountId :=
    Account.key_some (AccountArgs.local?_plain typed built).1
  rw [built] at requested
  apply (lookForAccountKey_result ledger operation local?.accountId args).mono
  · rintro settled reached (⟨rfl, finds, accountId, account, named, present, kept, reported⟩ |
      ⟨rfl, required, rfl⟩)
    · simp only [not_true_eq_false, false_and, ↓reduceIte, satisfies_pure]
      rw [kept]
      refine .found accountId account finds present (fun other wanted => ?_) (fun unasked => ?_) _
        reported
      · obtain ⟨known, there, has⟩ := (sound.accountKeys _ accountId).mp named
        obtain rfl := Option.some.inj (present.symm.trans there)
        rw [requested, Option.some.injEq] at wanted
        rw [has, wanted]
      · rw [requested] at unasked
        contradiction
    · simp only [Bool.false_eq_true, not_false_eq_true, true_and, satisfies_ite, satisfies_pure]
      refine ⟨fun creates => ?_, fun idle => .ignored (removes_of_idle required idle)⟩
      simp only [insertAccountKey, insertAccount, satisfies_bind, satisfies_read,
        satisfies_refuseIf, satisfies_update]
      refine ⟨fun _ => trivial, fun _ => ⟨fun _ => trivial, fun _ => ?_⟩⟩
      have added (answer : AccountArgs)
          (reported : answer.accountId = args.accountId.map fun _ => ledger.getAccountCount) :
          AccountResult ledger operation args (ledger.addAccount local?) answer := by
        refine .added local? creates (fun other wanted => ?_) answer reported
        rw [requested, Option.some.injEq] at wanted
        exact wanted
      simp only [addAccount, keyed, Finmap.insertKey] at added
      exact added _ rfl
  · exact fun _ _ _ => trivial

/-- `retrieve_account` finds or adds one account, or does nothing for a removal. -/
theorem retrieveAccount_result (sound : ledger.Sound) (operation : Operation)
    (args : AccountArgs) :
    ((retrieveAccount operation).run (ledger, args)).Satisfies
      (fun _ reached => AccountResult ledger operation args reached.1 reached.2)
      (fun _ _ => True) := by
  simp only [retrieveAccount, satisfies_bind, satisfies_read]
  cases type : args.accountType with
  | none => exact trivial
  | some accountType =>
    cases accountType with
    | id =>
      have unrequested : args.requested = none := by simp [AccountArgs.requested, type]
      simp only [satisfies_bind, satisfies_orRaise]
      refine ⟨fun _ => trivial, fun accountId given => ?_⟩
      apply (lookForAccountId_result ledger operation accountId args).mono
      · rintro settled reached (⟨rfl, finds, account, present, kept, same⟩ | ⟨rfl, required, rfl⟩)
        · simp only [not_true_eq_false, false_and, ↓reduceIte, satisfies_pure]
          rw [kept]
          refine .found accountId account finds present ?_ (fun _ => given) _
            (by rw [same, given]; rfl)
          rw [unrequested]
          intro key impossible
          cases impossible
        · simp only [Bool.false_eq_true, not_false_eq_true, true_and, satisfies_ite,
            satisfies_pure]
          refine ⟨fun creates => ?_, fun idle => .ignored (removes_of_idle required idle)⟩
          simp only [insertAccount, satisfies_bind, satisfies_read, satisfies_refuseIf,
            satisfies_update]
          refine ⟨fun _ => trivial, fun _ => .added ⟨.id, zeros 32⟩ creates ?_ _ rfl⟩
          rw [unrequested]
          intro key impossible
          cases impossible
      · exact fun _ _ _ => trivial
    | walletAddress =>
      exact retrieveKeyedAccount_result sound operation (by decide) args
        (by simp [AccountArgs.requested, type])
    | accountId =>
      exact retrieveKeyedAccount_result sound operation (by decide) args
        (by simp [AccountArgs.requested, type])

/-- An account is built when the bytes or the account are given. -/
theorem isSome_local? (args : AccountArgs) (accountType : AccountType) :
    (args.local? accountType).isSome ↔ args.addrAccid.isSome ∨ args.account.isSome := by
  unfold AccountArgs.local?
  cases args.addrAccid with
  | none => simp
  | some bytes =>
    refine iff_of_true ?_ (.inl rfl)
    dsimp only
    split
    · rfl
    · split <;> rfl

/-- `retrieve_account` returns only when its pointers are given. -/
theorem retrieveAccount_complete (ledger : Basic) (operation : Operation) (args : AccountArgs) :
    ((retrieveAccount operation).run (ledger, args)).Satisfies (fun _ _ => args.Complete)
      (fun _ _ => True) := by
  have keyed (accountType : AccountType) :
      ((retrieveKeyedAccount operation ledger.getAccountCount accountType).run
        (ledger, args)).Satisfies (fun _ _ => args.addrAccid.isSome ∨ args.account.isSome)
        (fun _ _ => True) := by
    unfold retrieveKeyedAccount
    rw [satisfies_bind, satisfies_read]
    apply satisfies_given
    intro account built
    exact satisfies_known ((isSome_local? args accountType).mp (Option.isSome_of_mem built))
  unfold retrieveAccount AccountArgs.Complete
  rw [satisfies_bind, satisfies_read]
  dsimp only
  cases args.accountType with
  | none => exact trivial
  | some accountType =>
    cases accountType with
    | id =>
      apply satisfies_given
      intro accountId given
      exact satisfies_known (Option.isSome_of_mem given)
    | walletAddress => exact keyed .walletAddress
    | accountId => exact keyed .accountId

/-- `retrieve_account` told to remove does nothing and returns. -/
theorem retrieveAccount_removes (args : AccountArgs) (complete : args.Complete) :
    (retrieveAccount .findAndRemove).run (ledger, args) = .ok () (ledger, args) := by
  have keyed (accountType : AccountType)
      (given : args.addrAccid.isSome ∨ args.account.isSome) :
      (retrieveKeyedAccount .findAndRemove ledger.getAccountCount accountType).run
        (ledger, args) = .ok () (ledger, args) := by
    obtain ⟨account, built⟩ :=
      Option.isSome_iff_exists.mp ((isSome_local? args accountType).mpr given)
    simp [retrieveKeyedAccount, localAccount, lookForAccountKey, built, Operation.finds,
      Operation.creates]
  unfold AccountArgs.Complete at complete
  cases type : args.accountType with
  | none => simp [type] at complete
  | some accountType =>
    simp only [type] at complete
    cases accountType with
    | id =>
      obtain ⟨accountId, given⟩ := Option.isSome_iff_exists.mp complete
      simp [retrieveAccount, lookForAccountId, type, given, Operation.finds, Operation.creates]
    | walletAddress => simpa [retrieveAccount, type] using keyed .walletAddress complete
    | accountId => simpa [retrieveAccount, type] using keyed .accountId complete

end Basic

end Libcma
