import Libcma.Memory.Codes
import Libcma.Wallet.Holdings

/-!
# The ledger calls of the application

One rule for a call of the ledger that throws unless it succeeded, and from it one for each call the
handlers make: retrievals carry out no order and give names, the other calls carry out the order of
the names they are given.
-/

namespace Libcma

open Exec

namespace Memory

variable {config : Config} {ledger : Memory} {operation : Operation} {args : AccountArgs}
  {account : Account}

/-- The variables of a caller have an account with the bytes of one that is asked for. -/
def Tells (account : Account) (answer : AccountArgs) : Prop :=
  ∃ told, answer.account = some told ∧ told.accountId = account.accountId

/-- Looking an account up by its key tells its bytes, or changes nothing. -/
theorem lookForAccountKey_tells (registry : ledger.Registry) (operation : Operation)
    (account : Account) (given : args.account.isSome) :
    ((lookForAccountKey operation account.accountId).run (ledger, args)).Satisfies
      (fun settled reached => settled = true ∧ Tells account reached.2 ∨
        settled = false ∧ reached = (ledger, args)) fun _ _ => True := by
  obtain ⟨written, pointer⟩ := Option.isSome_iff_exists.mp given
  simp only [lookForAccountKey, satisfies_ite, satisfies_bind, satisfies_read, satisfies_pure]
  refine ⟨fun _ => ?_, fun _ => .inr ⟨trivial, trivial⟩⟩
  cases named : ledger.accountToLaccid.lookup account.accountId with
  | none =>
    simp only [satisfies_bind, satisfies_refuseIf, satisfies_pure]
    exact ⟨fun _ => trivial, fun _ => .inr ⟨trivial, trivial⟩⟩
  | some accountId =>
    obtain ⟨found, present, has⟩ := (registry.accountKeys _ accountId).mp named
    have same : found.accountId = account.accountId := by
      unfold Account.key at has
      split at has
      · contradiction
      · exact Option.some.inj has
      · exact Option.some.inj has
    simp only [satisfies_bind, satisfies_refuseIf, satisfies_update, satisfies_pure]
    apply (findAccountInto_ensures accountId ledger args).mono ?_ fun _ _ _ => trivial
    rintro value reached (⟨rfl, owner, there, rfl⟩ | ⟨rfl, absent, rfl⟩)
    · refine ⟨fun _ => trivial, fun _ => ?_⟩
      rw [Memory.account, there, Option.map_some, Option.some.injEq] at present
      have tells : Tells account
          ((args.fill owner.account (some owner.nBalances)).withId accountId).copyType := by
        refine ⟨owner.account, ?_, present ▸ same⟩
        simp [AccountArgs.copyType, AccountArgs.withId, AccountArgs.fill, pointer]
      simp only [removeFoundAccount, satisfies_ite, satisfies_onFirst, satisfies_pure]
      refine ⟨fun _ => ?_, fun _ => .inl ⟨trivial, tells⟩⟩
      cases (removeAccount accountId).run ledger with
      | ok value state => exact .inl ⟨trivial, tells⟩
      | throw error state => trivial
      | undefined => trivial
    · exact ⟨fun _ => trivial, fun missing => absurd Bool.false_ne_true missing⟩

/-- What `retrieve_account` tells of an account asked for by its key. -/
theorem retrieveKeyedAccount_tells (registry : ledger.Registry) (creates : operation.creates)
    {accountType : AccountType} (typed : accountType ≠ .id)
    (built : args.local? accountType = some account) (given : args.account.isSome) :
    ((retrieveKeyedAccount config operation accountType).run (ledger, args)).Satisfies
      (fun _ reached => Tells account reached.2) fun _ _ => True := by
  have keyed := Account.key_some (AccountArgs.local?_plain typed built).1
  obtain ⟨written, pointer⟩ := Option.isSome_iff_exists.mp given
  simp only [retrieveKeyedAccount, localAccount, built, satisfies_bind, satisfies_read,
    satisfies_orRaise]
  refine ⟨fun _ => trivial, ?_⟩
  rintro _ ⟨rfl⟩
  apply (lookForAccountKey_tells registry operation account given).mono ?_ fun _ _ _ => trivial
  rintro settled reached (⟨rfl, tells⟩ | ⟨rfl, rfl⟩)
  · simp only [not_true_eq_false, false_and, ↓reduceIte, satisfies_pure]
    exact tells
  · simp only [Bool.false_eq_true, not_false_eq_true, creates, and_self, ↓reduceIte]
    rw [createAccountKey_run config registry.account_fresh keyed]
    split
    · trivial
    · split
      · trivial
      · refine ⟨account, ?_, rfl⟩
        simp [answerCreated, AccountArgs.withId, AccountArgs.fill, pointer]

/-- What the call of `retrieve_account` tells of an account asked for by its key. -/
theorem call_tells (registry : ledger.Registry) (creates : operation.creates)
    {accountType : AccountType} (typed : accountType ≠ .id)
    (type : args.accountType = some accountType)
    (built : args.local? accountType = some account) (given : args.account.isSome)
    {after : Memory} {answer : AccountArgs}
    (called : ledger.call config (.retrieveAccount args operation) =
      some (after, ⟨none, .account answer⟩)) : Tells account answer := by
  have ensures : ((retrieveAccount config operation).run (ledger, args)).Satisfies
      (fun _ reached => Tells account reached.2) fun _ _ => True := by
    simp only [retrieveAccount, satisfies_bind, satisfies_read, type]
    cases accountType with
    | id => contradiction
    | walletAddress => exact retrieveKeyedAccount_tells registry creates typed built given
    | accountId => exact retrieveKeyedAccount_tells registry creates typed built given
  rcases settle_ensures ensures called with ⟨told, tells, same⟩ | ⟨_, _, -, same⟩
  · cases same
    exact tells
  · cases same

end Memory

namespace Wallet

open Memory

variable {platform : Platform} {app : App} {orders : List Order} {request : Call}
  {context : String}

/-- A call of the ledger carries out the orders that its steps perform. -/
theorem carries_ledgerCall {ensures : Output → App → Prop} (sound : app.Sound platform.config)
    (spares : Spares app.etherId request)
    (returned : ∀ after output,
      app.ledger.call platform.config request = some (after, ⟨none, output⟩) →
      Step platform.config app.ledger request ⟨none, output⟩ after →
      Custody.Performs app.custody orders (app.leave after).custody ∧
        ensures output (app.leave after))
    (threw : ∀ after output exception,
      Step platform.config app.ledger request ⟨some exception, output⟩ after →
      ∃ done, Custody.Cut done orders ∧ Custody.Silent done ∧
        Custody.Performs app.custody done (app.leave after).custody) :
    Carries (custodian platform.config) orders (ledgerCall platform request context) app
      ensures := by
  unfold Carries ledgerCall
  cases called : app.ledger.call platform.config request with
  | none => simp [called, Outcome.Satisfies]
  | some reached =>
    obtain ⟨after, error, output⟩ := reached
    have step := call_step sound.ledger called
    have still := sound.step spares step
    cases error with
    | none =>
      obtain ⟨performs, ensured⟩ := returned after output called step
      simp [called, Response.code, Outcome.Satisfies]
      exact ⟨⟨still, performs⟩, ensured⟩
    | some exception =>
      obtain ⟨done, cut, silent, performs⟩ := threw after output exception step
      have negative : exception.code < 0 := call_negative called rfl
      have failed : exception.code ≠ success := Int.ne_of_lt negative
      simp [called, Response.code, Outcome.Satisfies, failed]
      exact ⟨done, cut, silent, still, performs⟩

/-- A call that is no transfer changes nothing when it is refused. -/
theorem step_refused {config : Config} {ledger after : Memory} {output : Output}
    {exception : CmaException}
    (step : Step config ledger request ⟨some exception, output⟩ after)
    (plain : ∀ assetId source target amount, request ≠ .transfer assetId source target amount) :
    after = ledger := by
  cases step with
  | refused => rfl
  | stranded => exact absurd rfl (plain _ _ _ _)

/-- A call that is no transfer. -/
theorem carries_plainCall {ensures : Output → App → Prop} (sound : app.Sound platform.config)
    (spares : Spares app.etherId request)
    (plain : ∀ assetId source target amount, request ≠ .transfer assetId source target amount)
    (returned : ∀ after output,
      app.ledger.call platform.config request = some (after, ⟨none, output⟩) →
      Step platform.config app.ledger request ⟨none, output⟩ after →
      Custody.Performs app.custody orders (app.leave after).custody ∧
        ensures output (app.leave after)) :
    Carries (custodian platform.config) orders (ledgerCall platform request context) app
      ensures := by
  apply carries_ledgerCall sound spares returned
  intro after output exception step
  obtain rfl := step_refused step plain
  exact ⟨[], .stop orders, rfl, .done app.custody⟩

section Retrieving

variable {operation : Operation} {args : AssetArgs} {accountArgs : AccountArgs} {key : AssetKey}
  {account : Account} {assetId : AssetId}

/-- A retrieval of an asset carries out no order. -/
theorem carries_retrieveAsset (sound : app.Sound platform.config)
    (spares : Spares app.etherId (.retrieveAsset args operation)) :
    Carries (custodian platform.config) [] (retrieveAsset platform args operation context) app
      fun answer now => ∃ after, now = app.leave after ∧
        AssetResult platform.config app.ledger operation args after answer := by
  have call : Carries (custodian platform.config) []
      (ledgerCall platform (.retrieveAsset args operation) context) app fun output now =>
        ∃ answer after, output = .asset answer ∧ now = app.leave after ∧
          AssetResult platform.config app.ledger operation args after answer := by
    apply carries_plainCall sound spares (by simp)
    intro after output called step
    cases step with
    | asset result =>
      refine ⟨?_, _, after, rfl, rfl, result⟩
      have same : (app.leave after).custody = app.custody := by
        cases result with
        | found => rfl
        | added asset _ _ _ _ fresh _ unsupplied => exact sound.custody_addAsset fresh unsupplied
        | removed assetId asset _ present unsupplied =>
          exact sound.custody_dropAsset present unsupplied
      exact same ▸ .done app.custody
  refine call.silent fun output now still told => ?_
  obtain ⟨answer, after, rfl, reached, result⟩ := told
  exact .pure still ⟨after, reached, result⟩

/-- A retrieval of an account carries out no order. -/
theorem carries_retrieveAccount (sound : app.Sound platform.config)
    (normalised : accountArgs.unnormalised = none) :
    Carries (custodian platform.config) [] (retrieveAccount platform accountArgs operation context)
      app fun answer now => ∃ after, now = app.leave after ∧
        AccountResult platform.config app.ledger operation accountArgs after answer ∧
        app.ledger.call platform.config (.retrieveAccount accountArgs operation) =
          some (after, ⟨none, .account answer⟩) := by
  have call : Carries (custodian platform.config) []
      (ledgerCall platform (.retrieveAccount accountArgs operation) context) app fun output now =>
        ∃ answer after, output = .account answer ∧ now = app.leave after ∧
          AccountResult platform.config app.ledger operation accountArgs after answer ∧
          app.ledger.call platform.config (.retrieveAccount accountArgs operation) =
            some (after, ⟨none, .account answer⟩) := by
    have spares : Spares app.etherId (.retrieveAccount accountArgs operation) := normalised
    apply carries_plainCall sound spares (by simp)
    intro after output called step
    cases step with
    | account result =>
      refine ⟨?_, _, after, rfl, rfl, result, called⟩
      have same : (app.leave after).custody = app.custody := by
        cases result with
        | found => rfl
        | added account _ _ _ _ fresh => exact sound.custody_addAccount fresh
        | removed accountId owner _ present empty => exact sound.custody_dropAccount present empty
      exact same ▸ .done app.custody
  refine call.silent fun output now still told => ?_
  obtain ⟨answer, after, rfl, rest⟩ := told
  exact .pure still ⟨after, rest⟩

/-- The type that a variable has after a token with ids was retrieved. -/
def Identified (assetType : Option AssetType) : Prop :=
  assetType = some .tokenAddressId ∨ assetType = some .tokenAddressIdAmount

/-- A retrieval by key names the asset and keeps the names of accounts. -/
theorem carries_findAsset (sound : app.Sound platform.config)
    (requested : args.requestedKey = some key) (given : args.assetId.isSome) :
    Carries (custodian platform.config) [] (retrieveAsset platform args .findOrCreate context) app
      fun answer now => now.naming.asset (.key key) = some (lassId answer) ∧
        now.naming.member = app.naming.member ∧
        (answer.assetType = args.assetType ∨
          ∃ asset : Asset, asset.key = some key ∧ answer.assetType = some asset.type) := by
  obtain ⟨written, pointer⟩ := Option.isSome_iff_exists.mp given
  have spares : Spares app.etherId (.retrieveAsset args .findOrCreate) :=
    fun removes => by contradiction
  apply (carries_retrieveAsset sound spares).mono
  rintro answer now - ⟨after, rfl, result⟩
  cases result with
  | found assetId asset finds present keyed =>
    have has := keyed key requested
    have its := (sound.ledger.registry.assetKeys key assetId).mpr ⟨asset, present, has⟩
    refine ⟨?_, rfl, .inr ⟨asset, has, rfl⟩⟩
    simp only [lassId, AssetArgs.assetId_withId, AssetArgs.assetId_fill, pointer, Option.map_some,
      Option.getD_some]
    exact its
  | added asset creates room type keyed =>
    refine ⟨?_, rfl, .inl rfl⟩
    rw [App.asset_addAsset, if_pos (keyed.trans requested)]
    simp only [lassId, AssetArgs.assetId_withId, pointer, Option.map_some, Option.getD_some]
  | removed assetId asset removes => contradiction

/-- The retrieval of an ERC-20 token. -/
theorem carries_retrieveErc20 (sound : app.Sound platform.config) (before : AssetId)
    (token : Address) :
    Carries (custodian platform.config) []
      (retrieveToken platform before (some .tokenAddress) token none) app fun answer now =>
        now.naming.asset (.ofAddress token) = some (lassId answer) ∧
        now.naming.member = app.naming.member :=
  (carries_findAsset sound rfl rfl).mono fun _ _ _ told => ⟨told.1, told.2.1⟩

/-- The retrieval of a token with an id. -/
theorem carries_retrieveId (sound : app.Sound platform.config) (before : AssetId)
    {assetType : Option AssetType} (identified : Identified assetType) (token : Address)
    (tokenId : TokenId) :
    Carries (custodian platform.config) []
      (retrieveToken platform before assetType token (some tokenId)) app fun answer now =>
        now.naming.asset (.ofId token tokenId) = some (lassId answer) ∧
        now.naming.member = app.naming.member ∧ Identified answer.assetType := by
  have requested : AssetArgs.requestedKey
      ⟨some before, some token, some tokenId, none, assetType⟩ =
        some (addressIdKey token tokenId) := by
    rcases identified with rfl | rfl <;> rfl
  apply (carries_findAsset sound requested rfl).mono
  rintro answer now - ⟨named, members, same | ⟨asset, keyed, same⟩⟩
  · exact ⟨named, members, same ▸ identified⟩
  · refine ⟨named, members, ?_⟩
    -- The type byte of the key tells that the asset has an id.
    rw [same]
    unfold Asset.key at keyed
    split at keyed
    · contradiction
    · contradiction
    · have tag := (assetKeyBytes_injective (Option.some.inj keyed)).1
      exact absurd tag (by decide)
    · exact .inl (congrArg some ‹asset.type = _›)
    · exact .inr (congrArg some ‹asset.type = _›)

/-- A retrieval by key names the account and keeps the names there were. -/
theorem carries_findAccount (sound : app.Sound platform.config) {accountType : AccountType}
    (typed : accountType ≠ .id) (type : accountArgs.accountType = some accountType)
    (built : accountArgs.local? accountType = some account)
    (given : accountArgs.accountId.isSome) (normalised : accountArgs.unnormalised = none) :
    Carries (custodian platform.config) []
      (retrieveAccount platform accountArgs .findOrCreate context) app fun answer now =>
        now.naming.member account.accountId = some (laccId answer) ∧
        (∀ key accountId, app.naming.member key = some accountId →
          now.naming.member key = some accountId) ∧
        now.naming.asset = app.naming.asset ∧
        (accountArgs.account.isSome → Tells account answer) := by
  obtain ⟨written, pointer⟩ := Option.isSome_iff_exists.mp given
  have keyed := Account.key_some (AccountArgs.local?_plain typed built).1
  have requested : accountArgs.requested = some account := by
    unfold AccountArgs.requested
    rw [type]
    cases accountType with
    | id => contradiction
    | walletAddress => exact built
    | accountId => exact built
  apply (carries_retrieveAccount sound normalised).mono
  rintro answer now - ⟨after, rfl, result, called⟩
  have tells (known : accountArgs.account.isSome) :=
    call_tells sound.ledger.registry (.inr rfl) typed type built known called
  cases result with
  | found accountId owner finds present has named answer reported =>
    have registered : app.ledger.account accountId = some owner.account := by
      rw [Memory.account, present, Option.map_some]
    have its := (sound.ledger.registry.accountKeys account.accountId accountId).mpr
      ⟨owner.account, registered, has account requested⟩
    refine ⟨?_, fun _ _ same => same, rfl, tells⟩
    rw [laccId, reported, pointer, Option.map_some, Option.getD_some]
    exact its
  | added other creates room asked unasked fresh wallet answer reported =>
    obtain rfl := asked account requested
    refine ⟨?_, fun key accountId named => ?_, rfl, tells⟩
    · rw [App.member_addAccount, if_pos keyed, laccId, reported, pointer, Option.map_some,
        Option.getD_some]
    · rw [App.member_addAccount, if_neg]
      · exact named
      · intro same
        exact absurd (named.symm.trans (fresh key same)) (Option.some_ne_none accountId)
  | removed accountId owner removes => contradiction

/-- The address at the start of its bytes. -/
theorem leadingAddress_addressBytes (address : Address) :
    leadingAddress (addressBytes address) = address := by
  apply List.Vector.eq
  simp [leadingAddress, addressBytes]

/-- The retrieval of the account of a wallet. -/
theorem carries_retrieveWallet (sound : app.Sound platform.config) (address : Address) :
    Carries (custodian platform.config) [] (retrieveWallet platform address) app fun answer now =>
      now.naming.member (walletId address) = some (laccId answer) ∧
      now.naming.asset = app.naming.asset ∧ accountAddressOf answer = address := by
  have built : AccountArgs.local? ⟨some platform.uninitialised.laccId,
      some platform.uninitialised.account, some (addressBytes address), none,
      some .walletAddress⟩ .walletAddress = some ⟨.walletAddress, walletId address⟩ := by
    simp [AccountArgs.local?, leadingAddress_addressBytes]
  apply (carries_findAccount sound (by decide) rfl built rfl rfl).mono
  rintro answer now - ⟨named, -, assets, tells⟩
  obtain ⟨told, written, bytes⟩ := tells rfl
  refine ⟨named, assets, ?_⟩
  rw [accountAddressOf, written, Option.elim_some, bytes, accountAddress_walletId]

/-- The retrieval of the account of a receiver. -/
theorem carries_retrieveReceiver (sound : app.Sound platform.config) (receiver : Bytes32)
    (known : Option Account) :
    Carries (custodian platform.config) [] (retrieveReceiver platform receiver known) app
      fun answer now => now.naming.member receiver = some (laccId answer) ∧
        ∀ key accountId, app.naming.member key = some accountId →
          now.naming.member key = some accountId := by
  obtain ⟨account, built, bytes⟩ : ∃ account, AccountArgs.local?
      ⟨some platform.uninitialised.laccId, known, some receiver, none, some .accountId⟩
        .accountId = some account ∧ account.accountId = receiver := by
    simp only [AccountArgs.local?, true_and, reduceCtorEq, ↓reduceIte]
    split
    · exact ⟨_, rfl, walletId_accountAddress (of_decide_eq_true ‹_›)⟩
    · exact ⟨_, rfl, rfl⟩
  apply (carries_findAccount sound (by decide) rfl built rfl rfl).mono
  rintro answer now - ⟨named, kept, -, -⟩
  exact ⟨bytes ▸ named, kept⟩

/-- `check_and_remove_account` carries out no order. -/
theorem carries_checkAndRemoveAccount (sound : app.Sound platform.config)
    (laccIdGiven : AccountId) :
    Carries (custodian platform.config) [] (checkAndRemoveAccount platform laccIdGiven) app
      fun _ _ => True := by
  unfold checkAndRemoveAccount
  refine (carries_retrieveAccount sound rfl).silent fun answer now still _ => ?_
  refine .ite (fun _ => .pure still trivial) fun _ => ?_
  exact (carries_retrieveAccount still rfl).silent fun _ _ last _ => .pure last trivial

/-- `check_and_remove_asset` carries out no order and keeps the names of accounts. -/
theorem carries_checkAndRemoveAsset (sound : app.Sound platform.config) (lassIdGiven : AssetId) :
    Carries (custodian platform.config) [] (checkAndRemoveAsset platform lassIdGiven) app
      fun _ now => now.naming.member = app.naming.member := by
  have members {before : App} {after : Memory} {operation : Operation} {args answer : AssetArgs}
      (result : AssetResult platform.config before.ledger operation args after answer) :
      (before.leave after).naming.member = before.naming.member := by
    cases result <;> rfl
  unfold checkAndRemoveAsset
  refine (Carries.read sound).silent fun reached now still same => ?_
  obtain ⟨rfl, rfl⟩ := same
  refine .ite (fun _ => .pure still rfl) fun apart => ?_
  have finds : Spares now.etherId (.retrieveAsset ⟨some lassIdGiven, none, none,
      some platform.uninitialised.supply, some .id⟩ .find) := fun removes => by contradiction
  refine (carries_retrieveAsset still finds).silent fun answer later middle told => ?_
  obtain ⟨after, rfl, result⟩ := told
  -- The asset found is the one given, so that the ether asset is not removed.
  have given : lassId answer = lassIdGiven := by
    cases result with
    | found assetId asset _ present keyed named =>
      rcases named rfl with same | ⟨base, -⟩
      · simpa [lassId] using (Option.some.inj same).symm
      · simp at base
    | added asset creates => exact absurd creates (by decide)
    | removed assetId asset removes => contradiction
  refine .ite (fun _ => .pure middle (members result)) fun _ => ?_
  have removes : Spares now.etherId (.retrieveAsset ⟨some (lassId answer), none, none, none,
      some .id⟩ .findAndRemove) := by
    rintro - same
    exact apart (given.symm.trans (Option.some.inj same))
  refine (carries_retrieveAsset middle removes).silent fun _ last sound removed => ?_
  obtain ⟨final, rfl, ended⟩ := removed
  exact .pure sound ((members ended).trans (members result))

end Retrieving

section Moving

variable {token : Token} {source target account : Bytes32} {assetId : AssetId}
  {accountId payer payee : AccountId}

/-- A call that is no transfer and performs one order when it succeeds. -/
theorem carries_order (context : String) (sound : app.Sound platform.config) {order : Order}
    (spares : Spares app.etherId request)
    (plain : ∀ assetId source target amount, request ≠ .transfer assetId source target amount)
    (moves : ∀ after output, Step platform.config app.ledger request ⟨none, output⟩ after →
      (app.leave after).naming = app.naming ∧
        Custody.Moves app.custody order (app.leave after).custody) :
    Carries (custodian platform.config) [order] (ledgerCall platform request context) app
      fun _ now => now.naming = app.naming := by
  apply carries_plainCall sound spares plain
  intro after output called step
  obtain ⟨renamed, moved⟩ := moves after output step
  exact ⟨moved.performs, renamed⟩

/-- A deposit carries out a deposit. -/
theorem carries_deposit (sound : app.Sound platform.config)
    (named : app.naming.asset token = some assetId)
    (owner : app.naming.member account = some accountId) (amount : Amount) :
    Carries (custodian platform.config) [.deposit token account amount.toNat]
      (deposit platform assetId accountId amount context) app
      fun _ now => now.naming = app.naming := by
  have spares : Spares app.etherId (.deposit assetId accountId amount) := trivial
  have call := carries_order context sound spares (by simp)
    fun _ _ => sound.moves_deposit named owner
  exact call.bind rfl fun _ _ still renamed => .pure still renamed

/-- A withdrawal carries out a withdrawal. -/
theorem carries_withdraw (sound : app.Sound platform.config)
    (named : app.naming.asset token = some assetId)
    (owner : app.naming.member account = some accountId) (amount : Amount) :
    Carries (custodian platform.config) [.withdraw token account amount.toNat]
      (withdraw platform assetId accountId amount context) app
      fun _ now => now.naming = app.naming := by
  have spares : Spares app.etherId (.withdraw assetId accountId amount) := trivial
  have call := carries_order context sound spares (by simp)
    fun _ _ => sound.moves_withdraw named owner
  exact call.bind rfl fun _ _ still renamed => .pure still renamed

/-- A transfer carries out a transfer. -/
theorem carries_transfer (sound : app.Sound platform.config)
    (named : app.naming.asset token = some assetId)
    (sender : app.naming.member source = some payer)
    (receiver : app.naming.member target = some payee) (amount : Amount) :
    Carries (custodian platform.config) [.transfer token source target amount.toNat]
      (transfer platform assetId payer payee amount context) app
      fun _ now => now.naming = app.naming := by
  have spares : Spares app.etherId (.transfer assetId payer payee amount) := trivial
  have call : Carries (custodian platform.config) [.transfer token source target amount.toNat]
      (ledgerCall platform (.transfer assetId payer payee amount) context) app
      fun _ now => now.naming = app.naming := by
    apply carries_ledgerCall sound spares
    · intro after output called step
      obtain ⟨renamed, moves⟩ := sound.moves_transfer named sender receiver step
      exact ⟨moves.performs, renamed⟩
    · intro after output exception step
      rcases sound.moves_refused named sender step with rfl | lost
      · exact ⟨[], .stop _, rfl, .done app.custody⟩
      · exact ⟨_, .strand token source target amount.toNat [], rfl, lost.performs⟩
  exact call.bind rfl fun _ _ still renamed => .pure still renamed

end Moving

end Wallet

end Libcma
