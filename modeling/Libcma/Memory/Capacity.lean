import Libcma.Memory.Holdings
import Libcma.Memory.Limits

/-!
# Errors of capacity

A memory ledger refuses a call for want of room by its id counters and by the size of its table of
entries. The counters never go back, and the table also has entries of zero, so that a call can be
refused although fewer items are live than the limit allows. It is refused honestly in runs that
remove nothing, are not reset and open no entry of zero.
-/

namespace Libcma

open Exec

/-- The error by which a call is refused for want of room. -/
def Call.capacityError : Call → Option Int
  | .retrieveAsset _ _ => some errorMaxAssetsReached
  | .retrieveAccount _ _ => some errorMaxAccountsReached
  | .deposit _ _ _ | .withdraw _ _ _ | .transfer _ _ _ _ => some errorMaxBalancesReached
  | .getBalance _ _ _ _ | .clear => none

/-- The call removes an asset or an account, or resets the ledger. -/
def Call.Frees : Call → Prop
  | .retrieveAsset _ operation | .retrieveAccount _ operation => operation = .findAndRemove
  | .clear => True
  | _ => False

instance : (request : Call) → Decidable request.Frees
  | .retrieveAsset _ operation | .retrieveAccount _ operation =>
    inferInstanceAs (Decidable (operation = .findAndRemove))
  | .clear => inferInstanceAs (Decidable True)
  | .getBalance _ _ _ _ | .deposit _ _ _ | .withdraw _ _ _ | .transfer _ _ _ _ =>
    inferInstanceAs (Decidable False)

/-- The limit on what a call adds to. -/
def Config.capacity (config : Config) : Call → ℕ
  | .retrieveAsset _ _ => config.maxAssets
  | .retrieveAccount _ _ => config.maxAccounts
  | _ => config.maxBalances

namespace Memory

/-- The number of pairs with a balance that is not zero. An entry whose pointer dangles counts with
the amount last written. -/
def getFundedCount (ledger : Memory) : ℕ :=
  (ledger.accountAssetBalance.keys.filter fun key => (ledger.stored key).toNat ≠ 0).card

/-- How many items are live of what a call adds to. -/
def live (ledger : Memory) : Call → ℕ
  | .retrieveAsset _ _ => ledger.getAssetCount
  | .retrieveAccount _ _ => ledger.getAccountCount
  | _ => ledger.getFundedCount

/-- The call comes to the test of its limit and the counter, or the table, is at the limit. The
debit of a transfer may take a place in the table before its credit, or make one. -/
def Exhausted (config : Config) (ledger : Memory) : Call → Prop
  | .retrieveAsset args operation =>
    ledger.CreatesAsset operation args ∧ config.maxAssets ≤ ledger.nextAssetId
  | .retrieveAccount args operation =>
    ledger.CreatesAccount operation args ∧ config.maxAccounts ≤ ledger.nextAccountId
  | .deposit assetId accountId amount =>
    ledger.Accepts (.deposit assetId accountId amount) ∧ ledger.Full config (assetId, accountId)
  | .withdraw assetId accountId amount =>
    ledger.Accepts (.withdraw assetId accountId amount) ∧ ledger.Full config (assetId, accountId)
  | .transfer assetId source target amount =>
    ledger.Accepts (.transfer assetId source target amount) ∧
      (ledger.Full config (assetId, source) ∨
        ledger.accountAssetBalance.lookup (assetId, target) = none ∧
          if ledger.accountAssetBalance.lookup (assetId, source) = none then
            config.maxBalances ≤ ledger.accountAssetBalance.size + 1
          else
            config.maxBalances ≤ ledger.accountAssetBalance.size ∧
              amount.toNat ≠ (ledger.amount assetId source).toNat)
  | .getBalance _ _ _ _ | .clear => False

instance (config : Config) (ledger : Memory) (request : Call) :
    Decidable (ledger.Exhausted config request) :=
  match request with
  | .retrieveAsset _ _ | .retrieveAccount _ _ | .deposit _ _ _ | .withdraw _ _ _
  | .transfer _ _ _ _ => inferInstanceAs (Decidable (_ ∧ _))
  | .getBalance _ _ _ _ | .clear => inferInstanceAs (Decidable False)

/-- The call is refused for want of room only when as many items are live as the limit allows. -/
def Honest (config : Config) (ledger : Memory) (request : Call) : Prop :=
  ∀ after response, ledger.call config request = some (after, response) →
    request.capacityError = some response.code → config.capacity request ≤ ledger.live request

/-- The call is at its limit by the count of the code, and below it by the items that are live. -/
def Overcounts (config : Config) (ledger : Memory) (request : Call) : Prop :=
  ledger.Exhausted config request ∧ ledger.live request < config.capacity request

instance (config : Config) (ledger : Memory) (request : Call) :
    Decidable (ledger.Overcounts config request) := inferInstanceAs (Decidable (_ ∧ _))

variable {config : Config} {region : ℕ → AccountBalance} {ledger after : Memory}
  {assetId : AssetId} {accountId source target : AccountId} {asset : Asset} {owner : AccountStruct}
  {amount balance balanceFrom balanceTo : Amount}

section Retrieving

/-- A settled outcome that signals a condition shows its error exactly under that condition. -/
theorem settled_signals {π : Type} {answer : π → Output}
    {outcome : Outcome CmaException (Memory × π) Unit} {code : Int} {condition : Prop}
    (signals : Signals outcome code condition) (failure : code ≠ success)
    (defined : outcome.Defined) :
    (∃ after response, settle answer outcome = some (after, response) ∧
      some code = some response.code) ↔ condition := by
  cases outcome with
  | ok value state =>
    apply iff_of_false
    · rintro ⟨after, response, settled, same⟩
      obtain ⟨rfl, rfl⟩ := Prod.mk.inj (Option.some.inj settled)
      exact failure (Option.some.inj same)
    · exact signals
  | throw error state =>
    rw [← show error.code = code ↔ condition from signals]
    constructor
    · rintro ⟨after, response, settled, same⟩
      obtain ⟨rfl, rfl⟩ := Prod.mk.inj (Option.some.inj settled)
      exact (Option.some.inj same).symm
    · intro same
      exact ⟨_, _, rfl, congrArg some same.symm⟩
  | undefined => exact absurd defined id

end Retrieving

/-- The checks of a balance call do not run into the limit. -/
theorem checks_limit_balances (exception : CmaException) (coded : WithCode checkCodes exception) :
    OtherThan errorMaxBalancesReached exception :=
  otherThan_of_code (by decide) coded

section Writing

/-- A write that finds the table full is refused. -/
theorem setAccountAssetBalance_refused (full : ledger.Full config (assetId, accountId))
    (balance : Amount) :
    (setAccountAssetBalance config assetId accountId balance).run ledger =
      .throw ⟨"Max balances reached", errorMaxBalancesReached⟩ ledger := by
  simp [setAccountAssetBalance, full.1, createBalance, full.2]

/-- A write through an entry that can be read, of something that is not zero, is made. -/
theorem setAccountAssetBalance_overwrites {before : Amount}
    (present : ledger.accountAssetBalance.lookup (assetId, accountId) ≠ none)
    (held : ledger.view.balance assetId accountId = some before)
    (left : ¬isZero balance = true) (asset : Asset) (owner : AccountStruct) :
    (setAccountAssetBalance config assetId accountId balance).run ledger =
      .ok () (ledger.written config (assetId, accountId) asset owner balance) := by
  obtain ⟨entry, found⟩ := Option.ne_none_iff_exists'.mp present
  change ledger.balanceOf assetId accountId = some before at held
  rw [balanceOf, found] at held
  cases entry with
  | virtual pointer =>
    have read : ledger.virtualBalances.get? pointer = some before := held
    simp [setAccountAssetBalance, found, updateBalance, storeVirtual, read, left, written,
      overwrite]
  | withdrawable slot =>
    simp [setAccountAssetBalance, found, updateBalance, storeRecord, left, written, overwrite]

/-- The credit of a transfer finds the table full when the target has no entry, and the table is
full and the debit neither closes nor opens an entry, or the debit takes the last place. -/
theorem full_written_iff (store : ledger.Store config) (assetId : AssetId)
    (different : source ≠ target) (balance : Amount) (owner : AccountStruct) (asset : Asset) :
    (ledger.written config (assetId, source) asset owner balance).Full config (assetId, target) ↔
      ledger.accountAssetBalance.lookup (assetId, target) = none ∧
        if ledger.accountAssetBalance.lookup (assetId, source) = none then
          config.maxBalances ≤ ledger.accountAssetBalance.size + 1
        else config.maxBalances ≤ ledger.accountAssetBalance.size ∧ ¬isZero balance = true := by
  have kinds := kind_written store (assetId, source) asset owner balance (assetId, target)
  rw [if_neg fun pair => different (Prod.mk.inj pair).2.symm] at kinds
  have absent : (ledger.written config (assetId, source) asset owner
      balance).accountAssetBalance.lookup (assetId, target) = none ↔
      ledger.accountAssetBalance.lookup (assetId, target) = none := by
    rw [← kind_eq_none, kinds, kind_eq_none]
  have size := size_written store (assetId, source) asset owner balance
  have limited := store.limited
  rw [Full, absent, size]
  apply and_congr_right
  intro _
  split
  · rfl
  · have occupied : 0 < ledger.accountAssetBalance.size := by
      obtain ⟨entry, found⟩ := Option.ne_none_iff_exists'.mp ‹_›
      exact Finmap.size_pos found
    by_cases zero : isZero balance = true
    · rw [if_pos zero]
      apply iff_of_false
      · omega
      · exact fun both => both.2 zero
    · simp [zero]

end Writing

section Refusing

/-- The answers of a call by which it is refused for want of room. -/
def Refuses (config : Config) (ledger : Memory) (request : Call) : Prop :=
  ∃ after response, ledger.call config request = some (after, response) ∧
    request.capacityError = some response.code

/-- A balance call that throws an error of its checks is not refused for want of room. -/
theorem not_refused {α : Type} {checks : Exec CmaException View α} {error : CmaException}
    (raises : Raises (OtherThan errorMaxBalancesReached) checks)
    (thrown : checks.run ledger.view = .throw error ledger.view) :
    error.code ≠ errorMaxBalancesReached := by
  have other := raises ledger.view
  rw [thrown] at other
  exact other

/-- A deposit is refused when it finds the table full. -/
theorem deposit_refuses (store : ledger.Store config) :
    ledger.Refuses config (.deposit assetId accountId amount) ↔
      ledger.Exhausted config (.deposit assetId accountId amount) := by
  simp only [Refuses, Exhausted, Accepts, call, onFirst_run, deposit, Call.capacityError]
  rcases LedgerOps.deposit_cases (reports config ledger) assetId accountId amount with
    ⟨error, seen, -, thrown⟩ | ⟨seen, undefined⟩ | ⟨asset, balance, accepts, continues⟩
  · have other := not_refused
      ((View.reads_coded _).depositChecks checks_limit_balances assetId accountId amount) seen
    rw [thrown]
    simp [writes, seen, Outcome.mapState, settle, Response.code, Ne.symm other]
  · rw [undefined]
    simp [writes, seen, Outcome.mapState, settle]
  · obtain ⟨owner, member⟩ := view_member accepts.member
    rw [continues, writes_deposit accepts]
    by_cases full : ledger.Full config (assetId, accountId)
    · have refused := setAccountAssetBalance_refused full (amountCheckedAdd balance amount).1
      simp [ops, refused, Outcome.mapState, settle, Response.code, full]
    · rcases write_then store accepts.registered member (amountCheckedAdd balance amount).1
        (fun _ => setAssetSupply assetId (amountCheckedAdd asset.supply amount).1) with
        ⟨crowded, -⟩ | ⟨room, written⟩ | ⟨-, undefined⟩
      · exact absurd crowded full
      · simp only [ops, written, supply_written accepts.registered member]
        simp [Outcome.mapState, settle, Response.code, full]
        decide
      · simp only [ops, undefined]
        simp [Outcome.mapState, settle, full]

/-- A withdrawal is refused when it finds the table full. -/
theorem withdraw_refuses (store : ledger.Store config) :
    ledger.Refuses config (.withdraw assetId accountId amount) ↔
      ledger.Exhausted config (.withdraw assetId accountId amount) := by
  simp only [Refuses, Exhausted, Accepts, call, onFirst_run, withdraw, Call.capacityError]
  rcases LedgerOps.withdraw_cases (reports config ledger) assetId accountId amount with
    ⟨error, seen, -, thrown⟩ | ⟨seen, undefined⟩ | ⟨asset, balance, accepts, continues⟩
  · have other := not_refused
      ((View.reads_coded _).withdrawChecks checks_limit_balances assetId accountId amount) seen
    rw [thrown]
    simp [writes, seen, Outcome.mapState, settle, Response.code, Ne.symm other]
  · rw [undefined]
    simp [writes, seen, Outcome.mapState, settle]
  · obtain ⟨owner, member⟩ := view_member accepts.member
    rw [continues, writes_withdraw accepts]
    by_cases full : ledger.Full config (assetId, accountId)
    · have refused := setAccountAssetBalance_refused full (amountCheckedSub balance amount).1
      simp [ops, refused, Outcome.mapState, settle, Response.code, full]
    · rcases write_then store accepts.registered member (amountCheckedSub balance amount).1
        (fun _ => setAssetSupply assetId (amountCheckedSub asset.supply amount).1) with
        ⟨crowded, -⟩ | ⟨room, written⟩ | ⟨-, undefined⟩
      · exact absurd crowded full
      · simp only [ops, written, supply_written accepts.registered member]
        simp [Outcome.mapState, settle, Response.code, full]
        decide
      · simp only [ops, undefined]
        simp [Outcome.mapState, settle, full]

/-- The debit of an accepted transfer leaves the sender nothing when it moves the whole balance. -/
theorem isZero_debit
    (accepts : ledger.view.AcceptsTransfer assetId source target amount asset balanceFrom
      balanceTo) :
    ¬isZero (amountCheckedSub balanceFrom amount).1 = true ↔
      amount.toNat ≠ (ledger.amount assetId source).toNat := by
  have held : ledger.amount assetId source = balanceFrom := balanceOf_eq accepts.heldFrom
  have enough := accepts.enough
  rw [isZero_iff, amountCheckedSub_toNat enough, held]
  omega

/-- The debit of an accepted transfer is made when its credit is to find the table full. -/
theorem debit_written (store : ledger.Store config)
    (accepts : ledger.view.AcceptsTransfer assetId source target amount asset balanceFrom
      balanceTo)
    (sent : ledger.laccidToAccount.lookup source = some owner)
    (room : ¬ledger.Full config (assetId, source))
    (full : (ledger.written config (assetId, source) asset owner
      (amountCheckedSub balanceFrom amount).1).Full config (assetId, target)) :
    (setAccountAssetBalance config assetId source (amountCheckedSub balanceFrom amount).1).run
        ledger =
      .ok () (ledger.written config (assetId, source) asset owner
        (amountCheckedSub balanceFrom amount).1) := by
  have crowded := ((full_written_iff store assetId accepts.different _ owner asset).mp full).2
  by_cases absent : ledger.accountAssetBalance.lookup (assetId, source) = none
  · have roomy : ledger.accountAssetBalance.size < config.maxBalances :=
      Nat.not_le.mp fun limit => room ⟨absent, limit⟩
    have created := createBalance_run absent roomy accepts.registered sent
      (amountCheckedSub balanceFrom amount).1
    simp [setAccountAssetBalance, absent, created, written]
  · rw [if_neg absent] at crowded
    exact setAccountAssetBalance_overwrites absent accepts.heldFrom crowded.2 asset owner

/-- An accepted transfer with room for its debit and its credit is not refused for want of it. -/
theorem not_refused_of_room (store : ledger.Store config)
    (accepts : ledger.view.AcceptsTransfer assetId source target amount asset balanceFrom
      balanceTo)
    (sent : ledger.laccidToAccount.lookup source = some owner)
    (room : ¬ledger.Full config (assetId, source))
    (still : ¬(ledger.written config (assetId, source) asset owner
      (amountCheckedSub balanceFrom amount).1).Full config (assetId, target))
    {response : Response}
    (settled : settle (fun _ : Unit => .nothing)
      (((setAccountAssetBalance config assetId source (amountCheckedSub balanceFrom amount).1 >>=
        fun _ => setAccountAssetBalance config assetId target
          (amountCheckedAdd balanceTo amount).1).run ledger).mapState fun first => (first, ())) =
      some (after, response)) : errorMaxBalancesReached ≠ response.code := by
  rcases write_then store accepts.registered sent (amountCheckedSub balanceFrom amount).1
    (fun _ => setAccountAssetBalance config assetId target
      (amountCheckedAdd balanceTo amount).1) with
    ⟨full, -⟩ | ⟨-, written⟩ | ⟨-, undefined⟩
  · exact absurd full room
  · have kept := store.written room accepts.registered sent (amountCheckedSub balanceFrom amount).1
    have registered := @registered_written config ledger assetId asset owner (assetId, source) sent
      asset (amountCheckedSub balanceFrom amount).1 accepts.registered
    obtain ⟨receiver, received⟩ := owner_written config assetId sent
      (view_member accepts.receiver) asset (amountCheckedSub balanceFrom amount).1
    rw [written] at settled
    rcases setAccountAssetBalance_run kept registered received (amountCheckedAdd balanceTo amount).1
      with ⟨full, -⟩ | ⟨-, credited⟩ | ⟨-, undefined⟩
    · exact absurd full still
    · rw [credited] at settled
      obtain ⟨rfl, rfl⟩ := Prod.mk.inj (Option.some.inj settled)
      decide
    · rw [undefined] at settled
      contradiction
  · rw [undefined] at settled
    contradiction

/-- A transfer is refused when its debit or its credit finds the table full. -/
theorem transfer_refuses (store : ledger.Store config) :
    ledger.Refuses config (.transfer assetId source target amount) ↔
      ledger.Exhausted config (.transfer assetId source target amount) := by
  simp only [Refuses, Exhausted, Accepts, call, onFirst_run, transfer, Call.capacityError]
  rcases LedgerOps.transfer_cases (reports config ledger) assetId source target amount with
    ⟨error, seen, -, thrown⟩ | ⟨seen, undefined⟩ |
    ⟨asset, balanceFrom, balanceTo, accepts, continues⟩
  · have other := not_refused
      ((View.reads_coded _).transferChecks checks_limit_balances assetId source target amount) seen
    rw [thrown]
    simp [writes, seen, Outcome.mapState, settle, Response.code, Ne.symm other]
  · rw [undefined]
    simp [writes, seen, Outcome.mapState, settle]
  · obtain ⟨sender, sent⟩ := view_member accepts.sender
    have credit := full_written_iff store assetId accepts.different
      (amountCheckedSub balanceFrom amount).1 sender asset
    rw [isZero_debit accepts] at credit
    rw [continues, writes_transfer accepts, ← credit]
    by_cases full : ledger.Full config (assetId, source)
    · have refused := setAccountAssetBalance_refused full (amountCheckedSub balanceFrom amount).1
      simp [ops, refused, Outcome.mapState, settle, Response.code, full]
    · by_cases crowded : (ledger.written config (assetId, source) asset sender
          (amountCheckedSub balanceFrom amount).1).Full config (assetId, target)
      · have debited := debit_written store accepts sent full crowded
        have refused := setAccountAssetBalance_refused crowded
          (amountCheckedAdd balanceTo amount).1
        simp [ops, debited, refused, Outcome.mapState, settle, Response.code, crowded]
      · apply iff_of_false
        · rintro ⟨after, response, called, same⟩
          exact not_refused_of_room store accepts sent full crowded called (Option.some.inj same)
        · simp [full, crowded]

/-- A call of a sound ledger is refused for want of room exactly when it is at its limit. -/
theorem refuses_iff (sound : ledger.Sound config) (request : Call) :
    ledger.Refuses config request ↔ ledger.Exhausted config request := by
  cases request with
  | retrieveAsset args operation =>
    exact settled_signals (retrieveAsset_signals config operation args) (by decide)
      (retrieveAsset_total config operation (ledger, args))
  | retrieveAccount args operation =>
    exact settled_signals (retrieveAccount_signals config operation args) (by decide)
      (retrieveAccount_total config operation (ledger, args))
  | getBalance => simp [Refuses, Call.capacityError, Exhausted]
  | deposit => exact deposit_refuses sound.store
  | withdraw => exact withdraw_refuses sound.store
  | transfer => exact transfer_refuses sound.store
  | clear => simp [Refuses, Call.capacityError, Exhausted]

end Refusing

section Counting

/-- The call frees nothing and opens no entry of zero. It may leave the reserve. -/
def KeepsCount (config : Config) (ledger : Memory) (request : Call) : Prop :=
  ¬request.Frees ∧ ledger.OpensNoEmpty config request

instance (config : Config) (ledger : Memory) (request : Call) :
    Decidable (ledger.KeepsCount config request) := inferInstanceAs (Decidable (_ ∧ _))

/-- Every id that was handed out is in use. -/
structure Counted (ledger : Memory) : Prop where
  assets : ledger.nextAssetId = ledger.getAssetCount
  accounts : ledger.nextAccountId = ledger.getAccountCount

/-- Ledgers with the same registry have as many accounts. -/
theorem getAccountCount_eq (same : SameRegistry ledger after) :
    after.getAccountCount = ledger.getAccountCount := by
  have keys : after.laccidToAccount.keys = ledger.laccidToAccount.keys := by
    ext accountId
    rw [Finmap.mem_keys_iff, Finmap.mem_keys_iff, ← Option.ne_none_iff_exists',
      ← Option.ne_none_iff_exists', not_iff_not]
    have known := same.accounts accountId
    simp only [account] at known
    rw [← Option.map_eq_none_iff, known, Option.map_eq_none_iff]
  rw [getAccountCount, getAccountCount, Finmap.size, Finmap.size, keys]

/-- A write keeps the counts. -/
theorem Counted.written (counted : ledger.Counted) (config : Config) (key : MapKey)
    (member : ledger.laccidToAccount.lookup key.2 = some owner) (asset : Asset)
    (balance : Amount) : (ledger.written config key asset owner balance).Counted := by
  have same := sameRegistry_written config key member asset balance
  constructor
  · rw [same.nextAsset, getAssetCount, same.assets]
    exact counted.assets
  · rw [same.nextAccount, getAccountCount_eq same]
    exact counted.accounts

/-- A new supply keeps the counts. -/
theorem Counted.supplied (counted : ledger.Counted)
    (registered : ledger.lassidToAsset.lookup assetId = some asset) (supply : Amount) :
    (ledger.supplied assetId asset supply).Counted := by
  refine ⟨counted.assets.trans ?_, counted.accounts⟩
  exact (Finmap.size_insert_old _ registered).symm

/-- Every step that frees nothing keeps the counts. -/
theorem Step.counted {request : Call} {response : Response}
    (step : Step config ledger request response after) (sound : ledger.Sound config)
    (counted : ledger.Counted) (keeps : ¬request.Frees) : after.Counted := by
  cases step with
  | refused => exact counted
  | asset result =>
    cases result with
    | found => exact counted
    | added asset =>
      refine ⟨?_, counted.accounts⟩
      exact (congrArg (· + 1) counted.assets).trans
        (Finmap.size_insert_new asset sound.registry.asset_fresh).symm
    | removed _ _ removes => exact absurd removes keeps
  | account result =>
    cases result with
    | found => exact counted
    | added account =>
      refine ⟨counted.assets, ?_⟩
      exact (congrArg (· + 1) counted.accounts).trans
        (Finmap.size_insert_new _ sound.registry.account_fresh).symm
    | removed _ _ removes => exact absurd removes keeps
  | balance => exact counted
  | deposit accepts member room =>
    exact (counted.written config (_, _) member _ _).supplied
      (registered_written (_, _) member _ _ accepts.registered) _
  | withdraw accepts member room =>
    exact (counted.written config (_, _) member _ _).supplied
      (registered_written (_, _) member _ _ accepts.registered) _
  | transfer accepts sent room debit received still =>
    subst debit
    exact (counted.written config (_, _) sent _ _).written config (_, _) received _ _
  | stranded accepts sent room debit =>
    subst debit
    exact counted.written config (_, _) sent _ _
  | clear => exact absurd trivial keeps

/-- Where every entry holds something, there are as many funded pairs as entries. -/
theorem Backed.funded (backed : ledger.Backed) :
    ledger.getFundedCount = ledger.accountAssetBalance.size := by
  rw [getFundedCount, Finmap.size, Finset.filter_true_of_mem]
  intro key listed
  obtain ⟨entry, found⟩ := (Finmap.mem_keys_iff _ key).mp listed
  exact backed.positive key entry found

/-- An accepted transfer passes its checks. -/
theorem transfer_of_accepts (accepts : ledger.Accepts (.transfer assetId source target amount)) :
    ∃ asset balanceFrom balanceTo, ledger.view.AcceptsTransfer assetId source target amount asset
      balanceFrom balanceTo := by
  have decides := ledger.view.transferChecks_decides assetId source target amount
  simp only [Accepts, writes] at accepts
  cases seen : (View.reads.transferChecks assetId source target amount).run ledger.view with
  | ok written reached =>
    rw [seen] at decides
    obtain ⟨-, asset, balanceFrom, balanceTo, passes, -⟩ := decides
    exact ⟨asset, balanceFrom, balanceTo, passes⟩
  | throw error reached => simp [seen] at accepts
  | undefined => simp [seen] at accepts

/-- Where the counts are of what is live, a call at its limit finds that many items live. -/
theorem not_overcounts (backed : ledger.Backed) (counted : ledger.Counted) {request : Call}
    (permitted : ledger.OpensNoEmpty config request) : ¬ledger.Overcounts config request := by
  rintro ⟨exhausted, below⟩
  cases request with
  | retrieveAsset args operation =>
    have limit := exhausted.2
    rw [counted.assets] at limit
    exact absurd below (Nat.not_lt.mpr limit)
  | retrieveAccount args operation =>
    have limit := exhausted.2
    rw [counted.accounts] at limit
    exact absurd below (Nat.not_lt.mpr limit)
  | getBalance => exact exhausted
  | deposit =>
    have limit := exhausted.2.2
    rw [← backed.funded] at limit
    exact absurd below (Nat.not_lt.mpr limit)
  | withdraw =>
    have limit := exhausted.2.2
    rw [← backed.funded] at limit
    exact absurd below (Nat.not_lt.mpr limit)
  | transfer assetId source target amount =>
    have room : ledger.accountAssetBalance.size < config.maxBalances := by
      rw [← backed.funded]
      exact below
    obtain ⟨accepts, full | ⟨absent, crowded⟩⟩ := exhausted
    · exact absurd room (Nat.not_lt.mpr full.2)
    · by_cases fresh : ledger.accountAssetBalance.lookup (assetId, source) = none
      · -- The sender has nothing, so the transfer moves nothing and would open an entry.
        have moving := filled_of_accepts permitted accepts List.mem_cons_self fresh room
        obtain ⟨asset, balanceFrom, balanceTo, passes⟩ := transfer_of_accepts accepts
        rw [Call.MovesNothing, isZero_iff] at moving
        have enough := passes.enough
        exact held_present passes.heldFrom (by omega) fresh
      · rw [if_neg fresh] at crowded
        exact absurd room (Nat.not_lt.mpr crowded.1)
  | clear => exact exhausted

/-- The counts are of what is live after any run that frees nothing and opens no entry of zero. -/
theorem Reachable.counted (reachable : Reachable config region (KeepsCount config) ledger) :
    ledger.Counted ∧ ledger.Backed := by
  apply reachable.kept (fun state => state.Counted ∧ state.Backed)
  · constructor
    · exact ⟨rfl, rfl⟩
    · exact ⟨by simp [empty, Finmap.lookup_empty], by simp [empty, Finmap.lookup_empty]⟩
  · intro state request response after step reached held permitted
    exact ⟨step.counted reached.sound held.1 permitted.1,
      step.backed reached.sound reached.covered held.2 permitted.2⟩

end Counting

/-- In a reachable ledger a call is honest about its capacity exactly when the count of the code is
not above what is live. Every call of a run that frees nothing and opens no entry of zero is, also
past the reserve, where entries that dangle count with the amount last written. -/
theorem honest_iff (config : Config) (region : ℕ → AccountBalance) (ledger : Memory)
    (request : Call) :
    (Reachable config region AnyCall ledger →
      (ledger.Honest config request ↔ ¬ledger.Overcounts config request)) ∧
    (Reachable config region (KeepsCount config) ledger → ledger.KeepsCount config request →
      ledger.Honest config request) := by
  have honest (sound : ledger.Sound config) :
      ledger.Honest config request ↔ ¬ledger.Overcounts config request := by
    rw [Overcounts, ← refuses_iff sound]
    constructor
    · rintro honest ⟨⟨after, response, called, refused⟩, below⟩
      exact absurd below (Nat.not_lt.mpr (honest after response called refused))
    · intro fair after response called refused
      by_contra below
      exact fair ⟨⟨after, response, called, refused⟩, Nat.not_le.mp below⟩
  constructor
  · exact fun reachable => honest reachable.sound
  · intro reachable permitted
    obtain ⟨counted, backed⟩ := reachable.counted
    exact (honest reachable.sound).mpr (not_overcounts backed counted permitted.2)

/-- A ledger for one asset, one account and one balance. -/
def oneOfEach : Config := ⟨1, 1, 1, 0, fun capacity => 2 * capacity⟩

/-- With its one asset live, the ledger honestly refuses another. -/
theorem honest_full : ∃ ledger : Memory, ledger.Exhausted oneOfEach (retrieveToken .create) ∧
    ¬ledger.Overcounts oneOfEach (retrieveToken .create) ∧
    ledger.Honest oneOfEach (retrieveToken .create) := by
  obtain ⟨ledger, reachable, facts⟩ := Run.exists_reaches
    (fun state request => call oneOfEach state request) (KeepsCount oneOfEach)
    (empty fun _ => .zero) [createIdAsset] (by decide +kernel)
    (fun ledger => (decide (ledger.Exhausted oneOfEach (retrieveToken .create)),
      decide (ledger.KeepsCount oneOfEach (retrieveToken .create)))) (true, true)
    (by decide +kernel)
  obtain ⟨exhausted, keeps⟩ := Prod.mk.inj facts
  have any : Reachable oneOfEach (fun _ => .zero) AnyCall ledger :=
    reachable.weaken fun _ _ _ => trivial
  obtain ⟨decides, always⟩ := honest_iff oneOfEach (fun _ => .zero) ledger (retrieveToken .create)
  have honest := always reachable (of_decide_eq_true keeps)
  exact ⟨ledger, of_decide_eq_true exhausted, (decides any).mp honest, honest⟩

/-- With its one asset removed, the ledger refuses another although none is live. -/
theorem removal_not_honest : ¬∀ config region ledger request,
    Reachable config region AnyCall ledger → ledger.Honest config request := by
  intro always
  obtain ⟨ledger, reachable, counted⟩ := exists_reachable oneOfEach (fun _ => .zero)
    [retrieveToken .create, retrieveToken .findAndRemove]
    (fun ledger => decide (ledger.Overcounts oneOfEach (retrieveToken .create))) true
    (by decide +kernel)
  obtain ⟨⟨creates, limit⟩, below⟩ := of_decide_eq_true counted
  obtain ⟨after, response, called, refused⟩ :=
    (refuses_iff reachable.sound (retrieveToken .create)).mpr ⟨creates, limit⟩
  have honest := always _ _ ledger _ reachable after response called refused
  exact absurd below (Nat.not_lt.mpr honest)

end Memory

end Libcma
