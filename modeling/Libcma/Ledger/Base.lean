import Libcma.Lib.Exec
import Libcma.Amount

/-!
# Balance operations

`deposit`, `withdraw` and `transfer` read the same in both ledger classes: the same checks in the
same order, with the same messages, over the virtual methods of `cma_ledger_base`. They are stated
here once, over those methods. The checks only read, so they see of a ledger no more than its
`View`; what they decide is characterised on the view.
-/

namespace Libcma

open Exec

/-- The virtual methods of `cma_ledger_base` that read, with the arguments the balance operations
pass: the asset record, whether the account is found, and the balance. -/
structure LedgerReads (σ : Type) where
  /-- `find_asset`, asked for the type and the supply. -/
  findAsset : AssetId → Exec CmaException σ (Option Asset)
  /-- `find_account`, asked for nothing but its result. -/
  findAccount : AccountId → Exec CmaException σ Bool
  /-- `get_account_asset_balance`, asked for the balance. -/
  getAccountAssetBalance : AssetId → AccountId → Exec CmaException σ Amount

/-- The virtual methods the balance operations use. -/
structure LedgerOps (σ : Type) extends LedgerReads σ where
  /-- `set_account_asset_balance`. -/
  setAccountAssetBalance : AssetId → AccountId → Amount → Exec CmaException σ Unit
  /-- `set_asset_supply`. -/
  setAssetSupply : AssetId → Amount → Exec CmaException σ Unit

namespace LedgerReads

variable {σ : Type} (reads : LedgerReads σ)

/-- Steps 1 to 3 of `deposit`: the new balance and the new supply. -/
def depositChecks (assetId : AssetId) (toAccountId : AccountId) (deposit : Amount) :
    Exec CmaException σ (Amount × Amount) := do
  refuseIf (isZero deposit) ⟨"Can't deposit zero", errorBalanceOverflow⟩
  let asset ← reads.findAsset assetId >>= fun found =>
    orRaise found ⟨"Asset by id not found", errorAssetNotFound⟩
  let newSupply := amountCheckedAdd asset.supply deposit
  refuseIf (¬newSupply.2) ⟨"Asset supply overflow", errorSupplyOverflow⟩
  refuseIf (asset.type = .tokenAddressId ∧ (¬isZero asset.supply ∨ ¬isOne deposit))
    ⟨"Can't deposit type id asset and end with higher amounts than 1", errorSupplyOverflow⟩
  let found ← reads.findAccount toAccountId
  refuseIf (¬found) ⟨"Account by id not found", errorAccountNotFound⟩
  let currBalance ← reads.getAccountAssetBalance assetId toAccountId
  let newBalance := amountCheckedAdd currBalance deposit
  refuseIf (¬newBalance.2) ⟨"Asset balance overflow", errorBalanceOverflow⟩
  pure (newBalance.1, newSupply.1)

/-- Steps 1 to 3 of `withdraw`: the new balance and the new supply. -/
def withdrawChecks (assetId : AssetId) (fromAccountId : AccountId) (withdrawal : Amount) :
    Exec CmaException σ (Amount × Amount) := do
  let asset ← reads.findAsset assetId >>= fun found =>
    orRaise found ⟨"Asset by id not found", errorAssetNotFound⟩
  let newSupply := amountCheckedSub asset.supply withdrawal
  refuseIf (¬newSupply.2) ⟨"Asset supply underflow", errorSupplyOverflow⟩
  let found ← reads.findAccount fromAccountId
  refuseIf (¬found) ⟨"Account by id not found", errorAccountNotFound⟩
  let currBalance ← reads.getAccountAssetBalance assetId fromAccountId
  let newBalance := amountCheckedSub currBalance withdrawal
  refuseIf (¬newBalance.2) ⟨"Insufficient funds", errorInsufficientFunds⟩
  pure (newBalance.1, newSupply.1)

/-- Steps 1 to 5 of `transfer`: the new balances of the sender and of the receiver. -/
def transferChecks (assetId : AssetId) (fromAccountId toAccountId : AccountId)
    (amount : Amount) : Exec CmaException σ (Amount × Amount) := do
  let _ ← reads.findAsset assetId >>= fun found =>
    orRaise found ⟨"Asset by id not found", errorAssetNotFound⟩
  refuseIf (fromAccountId = toAccountId) ⟨"Account from equal to account to", -einval⟩
  let foundFrom ← reads.findAccount fromAccountId
  refuseIf (¬foundFrom) ⟨"Account from not found", errorAccountNotFound⟩
  let currBalanceFrom ← reads.getAccountAssetBalance assetId fromAccountId
  let newBalanceFrom := amountCheckedSub currBalanceFrom amount
  refuseIf (¬newBalanceFrom.2) ⟨"Insufficient funds", errorInsufficientFunds⟩
  let foundTo ← reads.findAccount toAccountId
  refuseIf (¬foundTo) ⟨"Account to not found", errorAccountNotFound⟩
  let currBalanceTo ← reads.getAccountAssetBalance assetId toAccountId
  let newBalanceTo := amountCheckedAdd currBalanceTo amount
  refuseIf (¬newBalanceTo.2) ⟨"Balance overflow", errorBalanceOverflow⟩
  pure (newBalanceFrom.1, newBalanceTo.1)

end LedgerReads

namespace LedgerOps

variable {σ : Type} (ops : LedgerOps σ)

/-- `deposit`: the checks, then steps 4 and 5. -/
def deposit (assetId : AssetId) (toAccountId : AccountId) (deposit : Amount) :
    Exec CmaException σ Unit := do
  let (newBalance, newSupply) ← ops.depositChecks assetId toAccountId deposit
  ops.setAccountAssetBalance assetId toAccountId newBalance
  ops.setAssetSupply assetId newSupply

/-- `withdraw`: the checks, then steps 4 and 5. -/
def withdraw (assetId : AssetId) (fromAccountId : AccountId) (withdrawal : Amount) :
    Exec CmaException σ Unit := do
  let (newBalance, newSupply) ← ops.withdrawChecks assetId fromAccountId withdrawal
  ops.setAccountAssetBalance assetId fromAccountId newBalance
  ops.setAssetSupply assetId newSupply

/-- `transfer`: the checks, then the two writes of step 6. -/
def transfer (assetId : AssetId) (fromAccountId toAccountId : AccountId) (amount : Amount) :
    Exec CmaException σ Unit := do
  let (newBalanceFrom, newBalanceTo) ← ops.transferChecks assetId fromAccountId toAccountId amount
  ops.setAccountAssetBalance assetId fromAccountId newBalanceFrom
  ops.setAccountAssetBalance assetId toAccountId newBalanceTo

end LedgerOps

/-- What a ledger reports of itself. -/
structure View where
  /-- The record of a registered asset. -/
  asset : AssetId → Option Asset
  /-- Whether an account is registered. -/
  account : AccountId → Bool
  /-- The balance of an account; `none` where reading it is undefined. -/
  balance : AssetId → AccountId → Option Amount

/-- Reading from a view. -/
def View.reads : LedgerReads View where
  findAsset assetId := return (← read).asset assetId
  findAccount accountId := return (← read).account accountId
  getAccountAssetBalance assetId accountId := do orUndefined ((← read).balance assetId accountId)

/-- In a state, reading reports a view and changes nothing. -/
structure LedgerReads.Reports {σ : Type} (reads : LedgerReads σ) (state : σ) (view : View) :
    Prop where
  asset : ∀ assetId, (reads.findAsset assetId).run state = .ok (view.asset assetId) state
  account : ∀ accountId,
    (reads.findAccount accountId).run state = .ok (view.account accountId) state
  balance : ∀ assetId accountId, (reads.getAccountAssetBalance assetId accountId).run state =
    (orUndefined (view.balance assetId accountId)).run state

namespace View

/-- The checks of `deposit` pass: what they found. -/
structure AcceptsDeposit (view : View) (assetId : AssetId) (accountId : AccountId)
    (deposit : Amount) (asset : Asset) (balance : Amount) : Prop where
  positive : deposit.toNat ≠ 0
  registered : view.asset assetId = some asset
  supplyFits : asset.supply.toNat + deposit.toNat < 2 ^ 256
  single : asset.type = .tokenAddressId → asset.supply.toNat = 0 ∧ deposit.toNat = 1
  member : view.account accountId = true
  held : view.balance assetId accountId = some balance
  balanceFits : balance.toNat + deposit.toNat < 2 ^ 256

/-- The checks of `withdraw` pass: what they found. -/
structure AcceptsWithdraw (view : View) (assetId : AssetId) (accountId : AccountId)
    (withdrawal : Amount) (asset : Asset) (balance : Amount) : Prop where
  registered : view.asset assetId = some asset
  supplied : withdrawal.toNat ≤ asset.supply.toNat
  member : view.account accountId = true
  held : view.balance assetId accountId = some balance
  enough : withdrawal.toNat ≤ balance.toNat

/-- The checks of `transfer` pass: what they found. -/
structure AcceptsTransfer (view : View) (assetId : AssetId) (source target : AccountId)
    (amount : Amount) (asset : Asset) (balanceFrom balanceTo : Amount) : Prop where
  registered : view.asset assetId = some asset
  different : source ≠ target
  sender : view.account source = true
  heldFrom : view.balance assetId source = some balanceFrom
  enough : amount.toNat ≤ balanceFrom.toNat
  receiver : view.account target = true
  heldTo : view.balance assetId target = some balanceTo
  balanceFits : balanceTo.toNat + amount.toNat < 2 ^ 256

/-- The checks of `deposit` pass exactly when they accept; they write nothing. -/
theorem depositChecks_decides (view : View) (assetId : AssetId) (accountId : AccountId)
    (deposit : Amount) :
    ((reads.depositChecks assetId accountId deposit).run view).Satisfies
      (fun written reached => reached = view ∧ ∃ asset balance,
        view.AcceptsDeposit assetId accountId deposit asset balance ∧
        written = ((amountCheckedAdd balance deposit).1, (amountCheckedAdd asset.supply deposit).1))
      (fun _ reached => reached = view ∧
        ∀ asset balance, ¬view.AcceptsDeposit assetId accountId deposit asset balance) := by
  simp only [LedgerReads.depositChecks, reads, satisfies_bind, satisfies_refuseIf, satisfies_pure,
    satisfies_read, satisfies_orRaise, satisfies_orUndefined, true_and, amountCheckedAdd_ok,
    isZero_iff, isOne_iff, not_not]
  refine ⟨fun zero _ _ accepts => accepts.positive zero, fun positive => ⟨?unknown, ?_⟩⟩
  case unknown =>
    intro absent asset _ accepts
    exact absurd (absent.symm.trans accepts.registered) (by simp)
  intro asset registered
  refine ⟨?overflow, fun supplyFits => ⟨?several, fun single => ⟨?stranger, fun member => ?_⟩⟩⟩
  case overflow =>
    intro overflow other _ accepts
    obtain rfl := Option.some.inj (registered.symm.trans accepts.registered)
    exact overflow accepts.supplyFits
  case several =>
    rintro ⟨type, several⟩ other _ accepts
    obtain rfl := Option.some.inj (registered.symm.trans accepts.registered)
    obtain ⟨fresh, one⟩ := accepts.single type
    exact several.elim (· fresh) (· one)
  case stranger => exact fun stranger _ _ accepts => stranger accepts.member
  intro balance held
  refine ⟨?full, fun balanceFits => ⟨asset, balance, ?_, rfl⟩⟩
  case full =>
    intro full _ other accepts
    obtain rfl := Option.some.inj (held.symm.trans accepts.held)
    exact full accepts.balanceFits
  refine ⟨positive, registered, supplyFits, fun type => ?_, member, held, balanceFits⟩
  by_contra several
  exact single ⟨type, not_and_or.mp several⟩

/-- The checks of `withdraw` pass exactly when they accept; they write nothing. -/
theorem withdrawChecks_decides (view : View) (assetId : AssetId) (accountId : AccountId)
    (withdrawal : Amount) :
    ((reads.withdrawChecks assetId accountId withdrawal).run view).Satisfies
      (fun written reached => reached = view ∧ ∃ asset balance,
        view.AcceptsWithdraw assetId accountId withdrawal asset balance ∧
        written =
          ((amountCheckedSub balance withdrawal).1, (amountCheckedSub asset.supply withdrawal).1))
      (fun _ reached => reached = view ∧
        ∀ asset balance, ¬view.AcceptsWithdraw assetId accountId withdrawal asset balance) := by
  simp only [LedgerReads.withdrawChecks, reads, satisfies_bind, satisfies_refuseIf, satisfies_pure,
    satisfies_read, satisfies_orRaise, satisfies_orUndefined, true_and, amountCheckedSub_ok,
    not_not]
  refine ⟨?unknown, fun asset registered => ⟨?short, fun supplied => ⟨?stranger, fun member => ?_⟩⟩⟩
  case unknown =>
    intro absent asset _ accepts
    exact absurd (absent.symm.trans accepts.registered) (by simp)
  case short =>
    intro short other _ accepts
    obtain rfl := Option.some.inj (registered.symm.trans accepts.registered)
    exact short accepts.supplied
  case stranger => exact fun stranger _ _ accepts => stranger accepts.member
  intro balance held
  refine ⟨?poor, fun enough => ⟨asset, balance, ?_, rfl⟩⟩
  case poor =>
    intro poor _ other accepts
    obtain rfl := Option.some.inj (held.symm.trans accepts.held)
    exact poor accepts.enough
  exact ⟨registered, supplied, member, held, enough⟩

/-- The checks of `transfer` pass exactly when they accept; they write nothing. -/
theorem transferChecks_decides (view : View) (assetId : AssetId) (source target : AccountId)
    (amount : Amount) :
    ((reads.transferChecks assetId source target amount).run view).Satisfies
      (fun written reached => reached = view ∧ ∃ asset balanceFrom balanceTo,
        view.AcceptsTransfer assetId source target amount asset balanceFrom balanceTo ∧
        written = ((amountCheckedSub balanceFrom amount).1, (amountCheckedAdd balanceTo amount).1))
      (fun _ reached => reached = view ∧ ∀ asset balanceFrom balanceTo,
        ¬view.AcceptsTransfer assetId source target amount asset balanceFrom balanceTo) := by
  simp only [LedgerReads.transferChecks, reads, satisfies_bind, satisfies_refuseIf, satisfies_pure,
    satisfies_read, satisfies_orRaise, satisfies_orUndefined, true_and, amountCheckedAdd_ok,
    amountCheckedSub_ok, not_not]
  refine ⟨?unknown, fun asset registered => ⟨?self, fun different => ⟨?stranger, fun sender => ?_⟩⟩⟩
  case unknown =>
    intro absent asset _ _ accepts
    exact absurd (absent.symm.trans accepts.registered) (by simp)
  case self => exact fun self _ _ _ accepts => accepts.different self
  case stranger => exact fun stranger _ _ _ accepts => stranger accepts.sender
  intro balanceFrom heldFrom
  refine ⟨?poor, fun enough => ⟨?outsider, fun receiver balanceTo heldTo => ?_⟩⟩
  case poor =>
    intro poor _ other _ accepts
    obtain rfl := Option.some.inj (heldFrom.symm.trans accepts.heldFrom)
    exact poor accepts.enough
  case outsider => exact fun outsider _ _ _ accepts => outsider accepts.receiver
  refine ⟨?full, fun balanceFits => ⟨asset, balanceFrom, balanceTo, ?_, rfl⟩⟩
  case full =>
    intro full _ _ other accepts
    obtain rfl := Option.some.inj (heldTo.symm.trans accepts.heldTo)
    exact full accepts.balanceFits
  exact ⟨registered, different, sender, heldFrom, enough, receiver, heldTo, balanceFits⟩

section Accepting

variable {view : View} {assetId : AssetId} {accountId source target : AccountId}
  {amount : Amount} {asset : Asset} {balance balanceFrom balanceTo : Amount}

/-- An accepted deposit passes its checks. -/
theorem AcceptsDeposit.passes
    (accepts : view.AcceptsDeposit assetId accountId amount asset balance) :
    (reads.depositChecks assetId accountId amount).run view =
      .ok ((amountCheckedAdd balance amount).1, (amountCheckedAdd asset.supply amount).1) view := by
  have positive : ¬isZero amount = true := mt (isZero_iff _).mp accepts.positive
  have supplyFits := (amountCheckedAdd_ok _ _).mpr accepts.supplyFits
  have balanceFits := (amountCheckedAdd_ok _ _).mpr accepts.balanceFits
  have single : ¬(asset.type = .tokenAddressId ∧ (¬isZero asset.supply = true ∨
      ¬isOne amount = true)) := by
    rintro ⟨type, several⟩
    obtain ⟨fresh, one⟩ := accepts.single type
    exact several.elim (· ((isZero_iff _).mpr fresh)) (· ((isOne_iff _).mpr one))
  simp only [LedgerReads.depositChecks, reads, bind_run, refuseIf_run, read_run, pure_run,
    Outcome.andThen_ok, accepts.registered, accepts.member, accepts.held, supplyFits, balanceFits,
    single, positive, orRaise_some, orUndefined_some, not_true_eq_false, Bool.false_eq_true,
    ↓reduceIte]

/-- An accepted withdrawal passes its checks. -/
theorem AcceptsWithdraw.passes
    (accepts : view.AcceptsWithdraw assetId accountId amount asset balance) :
    (reads.withdrawChecks assetId accountId amount).run view =
      .ok ((amountCheckedSub balance amount).1, (amountCheckedSub asset.supply amount).1) view := by
  have supplied := (amountCheckedSub_ok _ _).mpr accepts.supplied
  have enough := (amountCheckedSub_ok _ _).mpr accepts.enough
  simp only [LedgerReads.withdrawChecks, reads, bind_run, refuseIf_run, read_run, pure_run,
    Outcome.andThen_ok, accepts.registered, accepts.member, accepts.held, supplied, enough,
    orRaise_some, orUndefined_some, not_true_eq_false, ↓reduceIte]

/-- An accepted transfer passes its checks. -/
theorem AcceptsTransfer.passes
    (accepts : view.AcceptsTransfer assetId source target amount asset balanceFrom balanceTo) :
    (reads.transferChecks assetId source target amount).run view =
      .ok ((amountCheckedSub balanceFrom amount).1, (amountCheckedAdd balanceTo amount).1)
        view := by
  have enough := (amountCheckedSub_ok _ _).mpr accepts.enough
  have balanceFits := (amountCheckedAdd_ok _ _).mpr accepts.balanceFits
  simp only [LedgerReads.transferChecks, reads, bind_run, refuseIf_run, read_run, pure_run,
    Outcome.andThen_ok, accepts.registered, accepts.different, accepts.sender, accepts.heldFrom,
    accepts.receiver, accepts.heldTo, enough, balanceFits, orRaise_some, orUndefined_some,
    not_true_eq_false, ↓reduceIte]

end Accepting

section Definedness

variable {view : View} {assetId : AssetId}
  (readable : ∀ accountId, (view.balance assetId accountId).isSome)

include readable

/-- The checks of `deposit` are defined when the balances can be read. -/
theorem depositChecks_defined (accountId : AccountId) (deposit : Amount) :
    ((reads.depositChecks assetId accountId deposit).run view).Defined := by
  simp [LedgerReads.depositChecks, reads, defined_bind, defined_refuseIf, defined_pure,
    defined_read, defined_orRaise, defined_orUndefined, satisfies_bind, satisfies_refuseIf,
    satisfies_pure, satisfies_read, satisfies_orRaise, satisfies_orUndefined, readable,
    -bind_run, -refuseIf_run, -pure_run, -read_run]

/-- The checks of `withdraw` are defined when the balances can be read. -/
theorem withdrawChecks_defined (accountId : AccountId) (withdrawal : Amount) :
    ((reads.withdrawChecks assetId accountId withdrawal).run view).Defined := by
  simp [LedgerReads.withdrawChecks, reads, defined_bind, defined_refuseIf, defined_pure,
    defined_read, defined_orRaise, defined_orUndefined, satisfies_bind, satisfies_refuseIf,
    satisfies_pure, satisfies_read, satisfies_orRaise, satisfies_orUndefined, readable,
    -bind_run, -refuseIf_run, -pure_run, -read_run]

/-- The checks of `transfer` are defined when the balances can be read. -/
theorem transferChecks_defined (source target : AccountId) (amount : Amount) :
    ((reads.transferChecks assetId source target amount).run view).Defined := by
  simp [LedgerReads.transferChecks, reads, defined_bind, defined_refuseIf, defined_pure,
    defined_read, defined_orRaise, defined_orUndefined, satisfies_bind, satisfies_refuseIf,
    satisfies_pure, satisfies_read, satisfies_orRaise, satisfies_orUndefined, readable,
    -bind_run, -refuseIf_run, -pure_run, -read_run]

end Definedness

end View

section Checks

variable {σ : Type} {reads : LedgerReads σ} {state : σ} {view : View}

/-- The one state and the one view a report is about. -/
def Reported (state : σ) (view : View) (left : σ) (right : View) : Prop :=
  left = state ∧ right = view

/-- Agreement about one state and one view, with no excuse, is equality up to that state. -/
theorem eq_of_agree {α : Type} {outcome : Outcome CmaException σ α}
    {seen : Outcome CmaException View α}
    (agree : outcome.Agree (Reported state view) (fun _ => False) seen) :
    outcome = seen.mapState fun _ => state := by
  cases agree with
  | ok value states => rw [states.1]; rfl
  | throw error states => rw [states.1]; rfl
  | undefined => rfl
  | excuse _ _ _ permitted => exact permitted.elim

namespace LedgerReads.Reports

variable (reports : reads.Reports state view)

include reports

theorem asset_simulates (assetId : AssetId) :
    Simulates (Reported state view) (fun _ => False) (reads.findAsset assetId)
      (View.reads.findAsset assetId) := by
  rintro _ _ ⟨rfl, rfl⟩
  rw [reports.asset]
  exact .ok _ ⟨rfl, rfl⟩

theorem account_simulates (accountId : AccountId) :
    Simulates (Reported state view) (fun _ => False) (reads.findAccount accountId)
      (View.reads.findAccount accountId) := by
  rintro _ _ ⟨rfl, rfl⟩
  rw [reports.account]
  exact .ok _ ⟨rfl, rfl⟩

theorem balance_simulates (assetId : AssetId) (accountId : AccountId) :
    Simulates (Reported state view) (fun _ => False)
      (reads.getAccountAssetBalance assetId accountId)
      (View.reads.getAccountAssetBalance assetId accountId) := by
  rintro _ _ ⟨rfl, rfl⟩
  rw [reports.balance]
  exact Simulates.orUndefined _ _ _ ⟨rfl, rfl⟩

/-- The checks of `deposit` decide by the view alone. -/
theorem depositChecks (assetId : AssetId) (accountId : AccountId) (deposit : Amount) :
    (reads.depositChecks assetId accountId deposit).run state =
      ((View.reads.depositChecks assetId accountId deposit).run view).mapState fun _ => state := by
  refine eq_of_agree (Simulates.bind (.refuseIf _ _) (fun _ => ?_) _ _ ⟨rfl, rfl⟩)
  refine .bind (.bind (reports.asset_simulates assetId) fun _ => .orRaise _ _) fun asset => ?_
  refine .bind (.refuseIf _ _) fun _ => .bind (.refuseIf _ _) fun _ => ?_
  refine .bind (reports.account_simulates accountId) fun _ => .bind (.refuseIf _ _) fun _ => ?_
  refine .bind (reports.balance_simulates assetId accountId) fun _ => ?_
  exact .bind (.refuseIf _ _) fun _ => .pure _

/-- The checks of `withdraw` decide by the view alone. -/
theorem withdrawChecks (assetId : AssetId) (accountId : AccountId) (withdrawal : Amount) :
    (reads.withdrawChecks assetId accountId withdrawal).run state =
      ((View.reads.withdrawChecks assetId accountId withdrawal).run view).mapState
        fun _ => state := by
  refine eq_of_agree (Simulates.bind (.bind (reports.asset_simulates assetId) fun _ =>
    .orRaise _ _) (fun asset => ?_) _ _ ⟨rfl, rfl⟩)
  refine .bind (.refuseIf _ _) fun _ => ?_
  refine .bind (reports.account_simulates accountId) fun _ => .bind (.refuseIf _ _) fun _ => ?_
  refine .bind (reports.balance_simulates assetId accountId) fun _ => ?_
  exact .bind (.refuseIf _ _) fun _ => .pure _

/-- The checks of `transfer` decide by the view alone. -/
theorem transferChecks (assetId : AssetId) (source target : AccountId) (amount : Amount) :
    (reads.transferChecks assetId source target amount).run state =
      ((View.reads.transferChecks assetId source target amount).run view).mapState
        fun _ => state := by
  refine eq_of_agree (Simulates.bind (.bind (reports.asset_simulates assetId) fun _ =>
    .orRaise _ _) (fun _ => ?_) _ _ ⟨rfl, rfl⟩)
  refine .bind (.refuseIf _ _) fun _ => ?_
  refine .bind (reports.account_simulates source) fun _ => .bind (.refuseIf _ _) fun _ => ?_
  refine .bind (reports.balance_simulates assetId source) fun _ => .bind (.refuseIf _ _) fun _ => ?_
  refine .bind (reports.account_simulates target) fun _ => .bind (.refuseIf _ _) fun _ => ?_
  refine .bind (reports.balance_simulates assetId target) fun _ => ?_
  exact .bind (.refuseIf _ _) fun _ => .pure _

end LedgerReads.Reports

/-- Checks that decide by a view, and what follows them: an error that depends on the view alone,
undefined behaviour, or the rest of the computation from the same state. -/
theorem checked_cases {α β : Type} {checks : Exec CmaException σ α}
    {seen : Outcome CmaException View α} {accepts : α → Prop} {rejects : Prop}
    (same : checks.run state = seen.mapState fun _ => state)
    (decides : seen.Satisfies (fun written reached => reached = view ∧ accepts written)
      (fun _ reached => reached = view ∧ rejects)) (next : α → Exec CmaException σ β) :
    (∃ error, seen = .throw error view ∧ rejects ∧
      (checks >>= next).run state = .throw error state) ∨
    (seen = .undefined ∧ (checks >>= next).run state = .undefined) ∨
    ∃ written, accepts written ∧ (checks >>= next).run state = (next written).run state := by
  rw [bind_run, same]
  cases seen with
  | ok written reached => exact .inr (.inr ⟨written, decides.2, rfl⟩)
  | throw error reached =>
    obtain ⟨rfl, rejected⟩ := decides
    exact .inl ⟨error, rfl, rejected, rfl⟩
  | undefined => exact .inr (.inl ⟨rfl, rfl⟩)

/-- Checks that decide by a view return what they accept. -/
theorem checked_accepts {α : Type} {checks : Exec CmaException σ α}
    {seen : Outcome CmaException View α} {accepts : α → Prop} {rejects : Prop}
    (same : checks.run state = seen.mapState fun _ => state)
    (decides : seen.Satisfies (fun written reached => reached = view ∧ accepts written)
      (fun _ reached => reached = view ∧ rejects)) :
    (checks.run state).Satisfies (fun written _ => accepts written) fun _ _ => True := by
  rw [same]
  cases seen with
  | ok written reached => exact decides.2
  | throw error reached => trivial
  | undefined => trivial

section Operations

variable {ops : LedgerOps σ} (reports : ops.Reports state view)

include reports

/-- `deposit` refuses and changes nothing, is undefined, or writes what its checks computed. -/
theorem LedgerOps.deposit_cases (assetId : AssetId) (accountId : AccountId) (deposit : Amount) :
    (∃ error, (View.reads.depositChecks assetId accountId deposit).run view = .throw error view ∧
      (∀ asset balance, ¬view.AcceptsDeposit assetId accountId deposit asset balance) ∧
      (ops.deposit assetId accountId deposit).run state = .throw error state) ∨
    ((View.reads.depositChecks assetId accountId deposit).run view = .undefined ∧
      (ops.deposit assetId accountId deposit).run state = .undefined) ∨
    ∃ asset balance, view.AcceptsDeposit assetId accountId deposit asset balance ∧
      (ops.deposit assetId accountId deposit).run state =
        (ops.setAccountAssetBalance assetId accountId (amountCheckedAdd balance deposit).1 >>=
          fun _ => ops.setAssetSupply assetId (amountCheckedAdd asset.supply deposit).1).run
            state := by
  rcases checked_cases (reports.depositChecks assetId accountId deposit)
    (view.depositChecks_decides assetId accountId deposit) _ with refused | undefined | accepted
  · exact .inl refused
  · exact .inr (.inl undefined)
  · obtain ⟨_, ⟨asset, balance, accepts, rfl⟩, continues⟩ := accepted
    exact .inr (.inr ⟨asset, balance, accepts, continues⟩)

/-- `withdraw` refuses and changes nothing, is undefined, or writes what its checks computed. -/
theorem LedgerOps.withdraw_cases (assetId : AssetId) (accountId : AccountId)
    (withdrawal : Amount) :
    (∃ error,
      (View.reads.withdrawChecks assetId accountId withdrawal).run view = .throw error view ∧
      (∀ asset balance, ¬view.AcceptsWithdraw assetId accountId withdrawal asset balance) ∧
      (ops.withdraw assetId accountId withdrawal).run state = .throw error state) ∨
    ((View.reads.withdrawChecks assetId accountId withdrawal).run view = .undefined ∧
      (ops.withdraw assetId accountId withdrawal).run state = .undefined) ∨
    ∃ asset balance, view.AcceptsWithdraw assetId accountId withdrawal asset balance ∧
      (ops.withdraw assetId accountId withdrawal).run state =
        (ops.setAccountAssetBalance assetId accountId (amountCheckedSub balance withdrawal).1 >>=
          fun _ => ops.setAssetSupply assetId (amountCheckedSub asset.supply withdrawal).1).run
            state := by
  rcases checked_cases (reports.withdrawChecks assetId accountId withdrawal)
    (view.withdrawChecks_decides assetId accountId withdrawal) _ with refused | undefined | accepted
  · exact .inl refused
  · exact .inr (.inl undefined)
  · obtain ⟨_, ⟨asset, balance, accepts, rfl⟩, continues⟩ := accepted
    exact .inr (.inr ⟨asset, balance, accepts, continues⟩)

/-- `transfer` refuses and changes nothing, is undefined, or writes what its checks computed. -/
theorem LedgerOps.transfer_cases (assetId : AssetId) (source target : AccountId)
    (amount : Amount) :
    (∃ error,
      (View.reads.transferChecks assetId source target amount).run view = .throw error view ∧
      (∀ asset balanceFrom balanceTo,
        ¬view.AcceptsTransfer assetId source target amount asset balanceFrom balanceTo) ∧
      (ops.transfer assetId source target amount).run state = .throw error state) ∨
    ((View.reads.transferChecks assetId source target amount).run view = .undefined ∧
      (ops.transfer assetId source target amount).run state = .undefined) ∨
    ∃ asset balanceFrom balanceTo,
      view.AcceptsTransfer assetId source target amount asset balanceFrom balanceTo ∧
      (ops.transfer assetId source target amount).run state =
        (ops.setAccountAssetBalance assetId source (amountCheckedSub balanceFrom amount).1 >>=
          fun _ => ops.setAccountAssetBalance assetId target
            (amountCheckedAdd balanceTo amount).1).run state := by
  rcases checked_cases (reports.transferChecks assetId source target amount)
    (view.transferChecks_decides assetId source target amount) _
    with refused | undefined | accepted
  · exact .inl refused
  · exact .inr (.inl undefined)
  · obtain ⟨_, ⟨asset, balanceFrom, balanceTo, accepts, rfl⟩, continues⟩ := accepted
    exact .inr (.inr ⟨asset, balanceFrom, balanceTo, accepts, continues⟩)

end Operations

end Checks

end Libcma
