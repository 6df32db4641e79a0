import Libcma.Ledger.BasicConservation
import Libcma.Memory.History

/-!
# The type an account is registered with

The type of an account decides for good whether its balances can be withdrawn. A key whose first
bytes are zero is that of a wallet; both ledgers see to it that such an account gets the type of a
wallet, except where the key comes in the account struct as an account id.
-/

namespace Libcma

open Exec

/-- The type that the bytes of an account call for. -/
def typeOf (accountId : Bytes32) : AccountType :=
  if startWithZeros accountId then .walletAddress else .accountId

/-- Accounts that are not by id have the type their bytes call for. -/
def TypedByKey (accounts : AccountId → Option Account) : Prop :=
  ∀ accountId account, accounts accountId = some account → account.type ≠ .id →
    account.type = typeOf account.accountId

/-- The bytes of a wallet that come in the account struct as an account id. -/
def AccountArgs.unnormalised (args : AccountArgs) : Option Bytes32 :=
  match args.accountType, args.addrAccid, args.account with
  | some .accountId, none, some account =>
    if startWithZeros account.accountId then some account.accountId else none
  | _, _, _ => none

/-- The call registers the bytes of a wallet as they come in the account struct. -/
def Misregisters (keys : Table Bytes32 AccountId) : Call → Prop
  | .retrieveAccount args operation => operation.creates ∧
      args.unnormalised.any fun accountKey => (keys.lookup accountKey).isNone
  | _ => False

instance (keys : Table Bytes32 AccountId) (request : Call) :
    Decidable (Misregisters keys request) :=
  match request with
  | .retrieveAccount _ _ => inferInstanceAs (Decidable (_ ∧ _))
  | .retrieveAsset _ _ | .getBalance _ _ _ _ | .deposit _ _ _ | .withdraw _ _ _
  | .transfer _ _ _ _ | .clear => inferInstanceAs (Decidable False)

/-- The bytes of a wallet call for the type of a wallet. -/
theorem typeOf_walletId (address : Address) : typeOf (walletId address) = .walletAddress := by
  simp [typeOf, startWithZeros]

/-- The account asked for has the type its bytes call for, unless they come in the account struct
as an account id. -/
theorem requested_typed {args : AccountArgs} {account : Account}
    (requested : args.requested = some account) :
    account.type = typeOf account.accountId ∨ args.unnormalised = some account.accountId := by
  unfold AccountArgs.requested at requested
  unfold AccountArgs.unnormalised
  split at requested
  case h_1 type =>
    left
    unfold AccountArgs.local? at requested
    split at requested
    · simp at requested
      rw [← requested, typeOf_walletId]
    · obtain ⟨source, -, rfl⟩ := Option.map_eq_some_iff.mp requested
      simp [typeOf_walletId]
  case h_2 type =>
    unfold AccountArgs.local? at requested
    split at requested
    case h_1 bytes given =>
      left
      by_cases zero : startWithZeros bytes
      · simp [zero] at requested
        rw [← requested, typeOf_walletId]
      · simp [zero] at requested
        simp [← requested, typeOf, zero]
    case h_2 given =>
      obtain ⟨source, struct, rfl⟩ := Option.map_eq_some_iff.mp requested
      by_cases zero : startWithZeros source.accountId
      · right
        simp [type, given, struct, zero]
      · left
        simp [typeOf, zero]
  case h_3 => contradiction

/-- An account added by a call has the type its bytes call for, unless the call misregisters. -/
theorem added_typed {args : AccountArgs} {account : Account} {keys : Table Bytes32 AccountId}
    {operation : Operation} (creates : operation.creates)
    (fresh : keys.lookup account.accountId = none) (requested : args.requested = some account)
    (regular : ¬Misregisters keys (.retrieveAccount args operation)) :
    account.type = typeOf account.accountId := by
  rcases requested_typed requested with typed | bare
  · exact typed
  · refine absurd ⟨creates, ?_⟩ regular
    rw [bare, Option.any_some, fresh]
    rfl

namespace Basic

variable {ledger after : Basic}

/-- The accounts after `retrieve_account`: those it met, or one more, by id or as asked for. -/
def Admits (ledger after : Basic) (operation : Operation) (args : AccountArgs) : Prop :=
  after.laccidToAccount = ledger.laccidToAccount ∨
    ∃ account : Account, after.laccidToAccount =
        ledger.laccidToAccount.insert ledger.getAccountCount account ∧
      (account.type = .id ∨ operation.creates ∧ args.requested = some account ∧
        ledger.accountToLaccid.lookup account.accountId = none)

/-- `retrieve_account` for an account with a key. -/
theorem retrieveKeyedAccount_admits (ledger : Basic) (operation : Operation)
    {accountType : AccountType} (args : AccountArgs)
    (requested : args.requested = args.local? accountType) :
    ((retrieveKeyedAccount operation ledger.getAccountCount accountType).run
      (ledger, args)).Satisfies (fun _ reached => ledger.Admits reached.1 operation args)
      (fun _ _ => True) := by
  simp only [retrieveKeyedAccount, localAccount, insertAccountKey, insertAccount, satisfies_bind,
    satisfies_ite, satisfies_read, satisfies_orRaise, satisfies_refuseIf, satisfies_update,
    satisfies_pure]
  refine ⟨fun _ => trivial, fun account built => ?_⟩
  refine (lookForAccountKey_ensures operation account.accountId (ledger, args)).mono ?_
    fun _ _ _ => trivial
  rintro settled ⟨reached, filled⟩ rfl
  refine ⟨fun creating => ⟨fun _ => trivial, fun absent => ⟨fun _ => trivial, fun _ => ?_⟩⟩,
    fun _ => .inl rfl⟩
  refine .inr ⟨account, rfl, .inr ⟨creating.2, requested.trans built, ?_⟩⟩
  simpa using absent

/-- `retrieve_account` leaves the accounts as they are or adds the account asked for. -/
theorem retrieveAccount_admits (ledger : Basic) (operation : Operation) (args : AccountArgs) :
    ((retrieveAccount operation).run (ledger, args)).Satisfies
      (fun _ reached => ledger.Admits reached.1 operation args) (fun _ _ => True) := by
  simp only [retrieveAccount, satisfies_bind, satisfies_read]
  cases type : args.accountType with
  | none => trivial
  | some accountType =>
    cases accountType with
    | id =>
      simp only [insertAccount, satisfies_bind, satisfies_orRaise, satisfies_ite, satisfies_read,
        satisfies_refuseIf, satisfies_update, satisfies_pure]
      refine ⟨fun _ => trivial, fun accountId _ => ?_⟩
      refine (lookForAccountId_ensures operation accountId (ledger, args)).mono ?_
        fun _ _ _ => trivial
      rintro settled ⟨reached, filled⟩ rfl
      exact ⟨fun _ => ⟨fun _ => trivial, fun _ => .inr ⟨_, rfl, .inl rfl⟩⟩, fun _ => .inl rfl⟩
    | walletAddress =>
      exact retrieveKeyedAccount_admits ledger operation args
        (by simp [AccountArgs.requested, type])
    | accountId =>
      exact retrieveKeyedAccount_admits ledger operation args
        (by simp [AccountArgs.requested, type])

/-- A call that does not misregister keeps accounts typed by their keys. -/
theorem typed_of_call (sound : ledger.Sound) {request : Call} {response : Response}
    (called : ledger.call request = some (after, response))
    (regular : ¬Misregisters ledger.accountToLaccid request)
    (typed : TypedByKey ledger.laccidToAccount.lookup) :
    TypedByKey after.laccidToAccount.lookup := by
  cases call_step sound called with
  | refused => exact typed
  | asset args operation output result =>
    rcases result with rfl | ⟨asset, -, rfl⟩
    · exact typed
    · exact typed
  | account args operation output result =>
    have admits := retrieveAccount_admits ledger operation args
    rcases settle_ensures admits called with ⟨answer, admitted, -⟩ | ⟨error, answer, -, failed⟩
    · rcases admitted with same | ⟨account, inserted, origin⟩
      · rw [same]
        exact typed
      · intro accountId other found keyed
        rw [inserted] at found
        simp only [Finmap.lookup_insert_if] at found
        split at found
        · obtain rfl := Option.some.inj found
          rcases origin with unkeyed | ⟨creates, requested, fresh⟩
          · exact absurd unkeyed keyed
          · exact added_typed creates fresh requested regular
        · exact typed accountId other found keyed
    · simp at failed
  | balance => exact typed
  | deposit => exact typed
  | withdraw => exact typed
  | transfer => exact typed
  | clear => exact fun accountId account found => by simp [empty, Finmap.lookup_empty] at found

/-- The ledgers reached by calls that do not misregister have accounts typed by their keys. -/
theorem typed_of_reaches
    (run : Run.Reaches call (fun state request => ¬Misregisters state.accountToLaccid request)
      empty ledger) : TypedByKey ledger.laccidToAccount.lookup := by
  have both : ledger.Sound ∧ TypedByKey ledger.laccidToAccount.lookup := by
    apply run.invariant fun state => state.Sound ∧ TypedByKey state.laccidToAccount.lookup
    · exact ⟨sound_empty, fun _ _ found => by simp [empty, Finmap.lookup_empty] at found⟩
    · intro state request next response held regular called
      exact ⟨(call_step held.1 called).sound held.1,
        typed_of_call held.1 called regular held.2⟩
  exact both.2

end Basic

namespace Memory

variable {config : Config} {region : ℕ → AccountBalance} {ledger after : Memory}
  {assetId : AssetId} {accountId : AccountId} {amount : Amount} {asset : Asset}
  {account : Account} {request : Call} {response : Response}

/-- The call does not register, with room for it, the bytes of a wallet as they come in the account
struct. -/
def Normalises (config : Config) (ledger : Memory) (request : Call) : Prop :=
  ¬(Misregisters ledger.accountToLaccid request ∧ ledger.nextAccountId < config.maxAccounts)

instance (config : Config) (ledger : Memory) (request : Call) :
    Decidable (ledger.Normalises config request) :=
  inferInstanceAs (Decidable (¬_))

/-- A step that normalises keeps accounts typed by their keys. -/
theorem Step.typed (step : Step config ledger request response after)
    (normalises : ledger.Normalises config request) (typed : TypedByKey ledger.account) :
    TypedByKey after.account := by
  have written {state : Memory} (config : Config) (key : MapKey) {owner : AccountStruct}
      (member : state.laccidToAccount.lookup key.2 = some owner) (asset : Asset)
      (balance : Amount) (before : TypedByKey state.account) :
      TypedByKey (state.written config key asset owner balance).account := by
    rw [funext (sameRegistry_written config key member asset balance).accounts]
    exact before
  cases step with
  | refused => exact typed
  | asset result => cases result <;> exact typed
  | account result =>
    cases result with
    | found => exact typed
    | added added creates room asked unasked fresh =>
      intro accountId other found keyed
      rw [account_addAccount] at found
      split at found
      · obtain rfl := Option.some.inj found
        have free := fresh added.accountId (Account.key_some keyed)
        cases requested : AccountArgs.requested _ with
        | none => exact absurd (congrArg Account.type (unasked requested)) keyed
        | some wanted =>
          obtain rfl := asked wanted requested
          apply added_typed creates free requested
          intro misregisters
          exact normalises ⟨misregisters, room⟩
      · exact typed accountId other found keyed
    | removed removed owner =>
      intro accountId other found keyed
      rw [account_dropAccount] at found
      split at found
      · contradiction
      · exact typed accountId other found keyed
  | balance => exact typed
  | deposit accepts member room => exact written config (_, _) member _ _ typed
  | withdraw accepts member room => exact written config (_, _) member _ _ typed
  | transfer accepts sent room debit received still =>
    subst debit
    exact written config (_, _) received _ _ (written config (_, _) sent _ _ typed)
  | stranded accepts sent room debit =>
    subst debit
    exact written config (_, _) sent _ _ typed
  | clear =>
    intro accountId account found
    simp [Memory.account, Memory.clear, Finmap.lookup_empty] at found

/-- The ledgers reached by calls that normalise have accounts typed by their keys. -/
theorem Reachable.typed (reachable : Reachable config region (Normalises config) ledger) :
    TypedByKey ledger.account := by
  apply reachable.kept fun state => TypedByKey state.account
  · intro accountId account found
    simp [Memory.account, empty, Finmap.lookup_empty] at found
  · exact fun _ _ _ _ step _ typed normalises => step.typed normalises typed

/-- After a deposit there is an entry of the kind that the asset and the account call for. -/
theorem deposit_kind (sound : ledger.Sound config)
    (called : ledger.call config (.deposit assetId accountId amount) =
      some (after, ⟨none, .nothing⟩))
    (registered : ledger.lassidToAsset.lookup assetId = some asset)
    (known : ledger.account accountId = some account) :
    after.kind (assetId, accountId) = some (decide (withdrawable asset account)) := by
  cases call_step sound called with
  | @deposit _ _ _ found balance owner accepts member =>
    obtain rfl := Option.some.inj (registered.symm.trans accepts.registered)
    rw [Memory.account, member, Option.map_some, Option.some.injEq] at known
    subst known
    have remains : ¬isZero (amountCheckedAdd balance amount).1 = true := by
      rw [isZero_iff, amountCheckedAdd_toNat accepts.balanceFits]
      have positive := accepts.positive
      omega
    change (ledger.written config (assetId, accountId) asset owner
      (amountCheckedAdd balance amount).1).kind _ = _
    rw [kind_written sound.store, if_pos rfl, if_neg remains]
    cases entered : ledger.accountAssetBalance.lookup (assetId, accountId) with
    | none => rfl
    | some entry =>
      have kinds := sound.store.kinds _ entry asset owner entered registered member
      rw [if_neg (by simp), kind, entered, Option.map_some, Option.some.injEq]
      exact Bool.eq_iff_iff.mpr (kinds.trans decide_eq_true_iff.symm)

/-- Deposits of assets of one type to the accounts that two ledgers registered under one key go to
the drive in both or in neither. -/
def DepositsAlike (config otherConfig : Config) (ledger other : Memory) : Prop :=
  ∀ accountKey accountId otherId account stranger, ledger.account accountId = some account →
    other.account otherId = some stranger → account.key = some accountKey →
    stranger.key = some accountKey →
    ∀ assetId token asset otherAsset, ledger.lassidToAsset.lookup assetId = some asset →
    other.lassidToAsset.lookup token = some otherAsset → asset.type = otherAsset.type →
    ∀ amount otherAmount after later,
      ledger.call config (.deposit assetId accountId amount) = some (after, ⟨none, .nothing⟩) →
      other.call otherConfig (.deposit token otherId otherAmount) =
        some (later, ⟨none, .nothing⟩) →
      (after.kind (assetId, accountId) = some true ↔ later.kind (token, otherId) = some true)

/-- An account with a key is not by id, and the key is its bytes. -/
theorem key_bytes {account : Account} {accountKey : Bytes32}
    (keyed : account.key = some accountKey) :
    account.type ≠ .id ∧ account.accountId = accountKey := by
  unfold Account.key at keyed
  cases type : account.type with
  | id => simp [type] at keyed
  | walletAddress => exact ⟨by simp, by simpa [type] using keyed⟩
  | accountId => exact ⟨by simp, by simpa [type] using keyed⟩

/-- Where accounts are typed by their keys, deposits go the same way. -/
theorem depositsAlike_of_typed {otherConfig : Config} {other : Memory}
    (sound : ledger.Sound config) (otherSound : other.Sound otherConfig)
    (typed : TypedByKey ledger.account) (otherTyped : TypedByKey other.account) :
    DepositsAlike config otherConfig ledger other := by
  intro accountKey accountId otherId account stranger known otherKnown keyed otherKeyed assetId
    token asset otherAsset registered otherRegistered same amount otherAmount after later called
    otherCalled
  obtain ⟨typedKey, bytes⟩ := key_bytes keyed
  obtain ⟨otherTypedKey, otherBytes⟩ := key_bytes otherKeyed
  have types : account.type = stranger.type := by
    rw [typed accountId account known typedKey, otherTyped otherId stranger otherKnown
      otherTypedKey, bytes, otherBytes]
  have kind := deposit_kind sound called registered known
  have otherKind := deposit_kind otherSound otherCalled otherRegistered otherKnown
  have alike : withdrawable asset account ↔ withdrawable otherAsset stranger := by
    simp only [withdrawable, same, types]
  rw [kind, otherKind, decide_eq_decide.mpr alike]

end Memory

/-- As long as no call registers the bytes of a wallet as they come in the account struct, the
accounts of both ledgers have the type their keys call for, and what is deposited to an identity
can be withdrawn in one ledger exactly when it can in another. -/
theorem typed_of_normalises (config otherConfig : Config)
    (region otherRegion : ℕ → AccountBalance) (basic : Basic) (ledger other : Memory)
    (basicReached : Run.Reaches Basic.call
      (fun state request => ¬Misregisters state.accountToLaccid request) Basic.empty basic)
    (reached : Memory.Reachable config region (Memory.Normalises config) ledger)
    (otherReached : Memory.Reachable otherConfig otherRegion (Memory.Normalises otherConfig)
      other) :
    TypedByKey basic.laccidToAccount.lookup ∧ TypedByKey ledger.account ∧
      Memory.DepositsAlike config otherConfig ledger other :=
  ⟨Basic.typed_of_reaches basicReached, reached.typed,
    Memory.depositsAlike_of_typed reached.sound otherReached.sound reached.typed
      otherReached.typed⟩

/-- A call that creates an account of the zero key, given through the account struct. -/
def createBareAccount : Call :=
  .retrieveAccount ⟨some 0, some ⟨.accountId, zeros 32⟩, none, none, some .accountId⟩ .create

/-- A call that creates an account of the zero key, given through the address pointer. -/
def createGivenAccount : Call :=
  .retrieveAccount ⟨some 0, none, some (zeros 32), none, some .accountId⟩ .create

/-- The zero wallet is registered as a wallet address in one ledger and as an account id in
another. -/
theorem typed_wallets : ∃ (basic : Basic) (ledger other : Memory),
    basic.getAccountCount = 1 ∧ ledger.getAccountCount = 1 ∧ other.getAccountCount = 1 ∧
      TypedByKey basic.laccidToAccount.lookup ∧ TypedByKey ledger.account ∧
      Memory.DepositsAlike Memory.fewBalances Memory.fewBalances ledger other := by
  let step := fun state request => Memory.call Memory.fewBalances state request
  obtain ⟨basic, basicReached, basicCount⟩ := Run.exists_reaches Basic.call
    (fun state request => ¬Misregisters state.accountToLaccid request) Basic.empty [createWallet]
    (by decide +kernel) Basic.getAccountCount 1 (by decide +kernel)
  obtain ⟨ledger, reached, count⟩ := Run.exists_reaches step (Memory.Normalises Memory.fewBalances)
    (Memory.empty fun _ => .zero) [createWallet] (by decide +kernel) Memory.getAccountCount 1
    (by decide +kernel)
  obtain ⟨other, otherReached, otherCount⟩ := Run.exists_reaches step
    (Memory.Normalises Memory.fewBalances) (Memory.empty fun _ => .zero) [createGivenAccount]
    (by decide +kernel) Memory.getAccountCount 1 (by decide +kernel)
  exact ⟨basic, ledger, other, basicCount, count, otherCount,
    typed_of_normalises _ _ _ _ basic ledger other basicReached reached otherReached⟩

/-- The zero wallet, given through the account struct as an account id, is registered with the type
of an account id in both ledgers. -/
theorem bare_account_untyped :
    ¬((∀ ledger, Basic.Reachable ledger → TypedByKey ledger.laccidToAccount.lookup) ∧
      ∀ config region ledger, Memory.Reachable config region Memory.AnyCall ledger →
        TypedByKey ledger.account) := by
  rintro ⟨-, always⟩
  obtain ⟨ledger, reachable, found⟩ := Memory.exists_reachable Memory.fewBalances
    (fun _ => .zero) [createBareAccount] (fun ledger => ledger.account 0)
    (some ⟨.accountId, zeros 32⟩) (by decide +kernel)
  have typed := always _ _ ledger reachable 0 _ found (by decide)
  exact absurd typed (by decide)

end Libcma
