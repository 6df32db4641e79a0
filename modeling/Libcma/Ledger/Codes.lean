import Libcma.Ledger.Basic

/-!
# Error codes of the basic ledger

The checks of the balance operations raise the codes of `checkCodes`, and whatever the virtual
methods raise. The methods of `cma_ledger_basic` raise negative codes, all but
`get_account_asset_balance`.
-/

namespace Libcma

open Exec

/-- The exception has a negative code. -/
def Negative (exception : CmaException) : Prop := exception.code < 0

instance (exception : CmaException) : Decidable (Negative exception) :=
  inferInstanceAs (Decidable (_ < _))

/-- The exception has one of these codes. -/
def WithCode (codes : List Int) (exception : CmaException) : Prop := exception.code ∈ codes

instance (codes : List Int) (exception : CmaException) : Decidable (WithCode codes exception) :=
  inferInstanceAs (Decidable (_ ∈ _))

/-- An exception with one of some negative codes. -/
theorem WithCode.negative {codes : List Int} (low : ∀ code ∈ codes, code < 0)
    {exception : CmaException} (coded : WithCode codes exception) : Negative exception :=
  low exception.code coded

/-- The codes of the checks of `deposit`, `withdraw` and `transfer`. -/
def checkCodes : List Int :=
  [errorBalanceOverflow, errorAssetNotFound, errorSupplyOverflow, errorAccountNotFound,
    errorInsufficientFunds, -einval]

/-- The reading methods raise what is allowed. -/
structure LedgerReads.Coded {σ : Type} (reads : LedgerReads σ) (allowed : CmaException → Prop) :
    Prop where
  findAsset : ∀ assetId, Raises allowed (reads.findAsset assetId)
  findAccount : ∀ accountId, Raises allowed (reads.findAccount accountId)
  getAccountAssetBalance : ∀ assetId accountId,
    Raises allowed (reads.getAccountAssetBalance assetId accountId)

/-- The methods the balance operations use raise what is allowed. -/
structure LedgerOps.Coded {σ : Type} (ops : LedgerOps σ) (allowed : CmaException → Prop) : Prop
    extends LedgerReads.Coded ops.toLedgerReads allowed where
  setAccountAssetBalance : ∀ assetId accountId balance,
    Raises allowed (ops.setAccountAssetBalance assetId accountId balance)
  setAssetSupply : ∀ assetId supply, Raises allowed (ops.setAssetSupply assetId supply)

/-- Reading from a view raises nothing. -/
theorem View.reads_coded (allowed : CmaException → Prop) : View.reads.Coded allowed where
  findAsset _ := .bind .read fun _ => .pure _
  findAccount _ := .bind .read fun _ => .pure _
  getAccountAssetBalance _ _ := .bind .read fun _ => .orUndefined _

section Operations

variable {σ : Type} {allowed : CmaException → Prop}
  (permits : ∀ exception, WithCode checkCodes exception → allowed exception)

include permits

/-- The checks of `deposit` raise codes of checks, and what reading raises. -/
theorem LedgerReads.Coded.depositChecks {reads : LedgerReads σ} (coded : reads.Coded allowed)
    (assetId : AssetId) (accountId : AccountId) (deposit : Amount) :
    Raises allowed (reads.depositChecks assetId accountId deposit) :=
  .bind (.refuseIf _ (permits _ (by decide))) fun _ =>
    .bind (.bind (coded.findAsset _) fun _ => .orRaise _ (permits _ (by decide))) fun _ =>
    .bind (.refuseIf _ (permits _ (by decide))) fun _ =>
    .bind (.refuseIf _ (permits _ (by decide))) fun _ =>
    .bind (coded.findAccount _) fun _ => .bind (.refuseIf _ (permits _ (by decide))) fun _ =>
    .bind (coded.getAccountAssetBalance _ _) fun _ =>
    .bind (.refuseIf _ (permits _ (by decide))) fun _ => .pure _

/-- The checks of `withdraw` raise codes of checks, and what reading raises. -/
theorem LedgerReads.Coded.withdrawChecks {reads : LedgerReads σ} (coded : reads.Coded allowed)
    (assetId : AssetId) (accountId : AccountId) (withdrawal : Amount) :
    Raises allowed (reads.withdrawChecks assetId accountId withdrawal) :=
  .bind (.bind (coded.findAsset _) fun _ => .orRaise _ (permits _ (by decide))) fun _ =>
    .bind (.refuseIf _ (permits _ (by decide))) fun _ =>
    .bind (coded.findAccount _) fun _ => .bind (.refuseIf _ (permits _ (by decide))) fun _ =>
    .bind (coded.getAccountAssetBalance _ _) fun _ =>
    .bind (.refuseIf _ (permits _ (by decide))) fun _ => .pure _

/-- The checks of `transfer` raise codes of checks, and what reading raises. -/
theorem LedgerReads.Coded.transferChecks {reads : LedgerReads σ} (coded : reads.Coded allowed)
    (assetId : AssetId) (source target : AccountId) (amount : Amount) :
    Raises allowed (reads.transferChecks assetId source target amount) :=
  .bind (.bind (coded.findAsset _) fun _ => .orRaise _ (permits _ (by decide))) fun _ =>
    .bind (.refuseIf _ (permits _ (by decide))) fun _ =>
    .bind (coded.findAccount _) fun _ => .bind (.refuseIf _ (permits _ (by decide))) fun _ =>
    .bind (coded.getAccountAssetBalance _ _) fun _ =>
    .bind (.refuseIf _ (permits _ (by decide))) fun _ =>
    .bind (coded.findAccount _) fun _ => .bind (.refuseIf _ (permits _ (by decide))) fun _ =>
    .bind (coded.getAccountAssetBalance _ _) fun _ =>
    .bind (.refuseIf _ (permits _ (by decide))) fun _ => .pure _

namespace LedgerOps.Coded

variable {ops : LedgerOps σ} (coded : ops.Coded allowed)

include coded

/-- `deposit` raises codes of checks, and what the methods raise. -/
theorem deposit (assetId : AssetId) (accountId : AccountId) (deposit : Amount) :
    Raises allowed (ops.deposit assetId accountId deposit) :=
  .bind (coded.depositChecks permits assetId accountId deposit) fun _ =>
    .bind (coded.setAccountAssetBalance _ _ _) fun _ => coded.setAssetSupply _ _

/-- `withdraw` raises codes of checks, and what the methods raise. -/
theorem withdraw (assetId : AssetId) (accountId : AccountId) (withdrawal : Amount) :
    Raises allowed (ops.withdraw assetId accountId withdrawal) :=
  .bind (coded.withdrawChecks permits assetId accountId withdrawal) fun _ =>
    .bind (coded.setAccountAssetBalance _ _ _) fun _ => coded.setAssetSupply _ _

/-- `transfer` raises codes of checks, and what the methods raise. -/
theorem transfer (assetId : AssetId) (source target : AccountId) (amount : Amount) :
    Raises allowed (ops.transfer assetId source target amount) :=
  .bind (coded.transferChecks permits assetId source target amount) fun _ =>
    .bind (coded.setAccountAssetBalance _ _ _) fun _ => coded.setAccountAssetBalance _ _ _

end LedgerOps.Coded

end Operations

section Settling

variable {σ : Type}

/-- A settled call reports an exception that its computation raises. -/
theorem settle_raises {π : Type} {allowed : CmaException → Prop}
    {computation : Exec CmaException (σ × π) Unit} (raises : Raises allowed computation)
    {answer : π → Output} {state : σ × π} {after : σ} {response : Response}
    (settled : settle answer (computation.run state) = some (after, response))
    {exception : CmaException} (reported : response.error = some exception) :
    allowed exception := by
  rcases settle_ensures (raises state) settled with ⟨_, -, rfl⟩ | ⟨error, _, permitted, rfl⟩
  · cases reported
  · cases reported
    exact permitted

end Settling

/-- The checks of the balance operations raise negative codes. -/
theorem checkCodes_negative (exception : CmaException) (coded : WithCode checkCodes exception) :
    Negative exception :=
  coded.negative (by decide)

/-- Building the local account raises a negative code. -/
theorem localAccount_negative {σ : Type} (args : AccountArgs) (accountType : AccountType) :
    Raises Negative (localAccount args accountType : Exec CmaException σ Account) :=
  .orRaise _ (by decide)

namespace Basic

/-- `find_asset` raises a negative code. -/
theorem findAsset_negative (assetId : AssetId) : Raises Negative (findAsset assetId) := by
  apply Raises.bind .read
  intro ledger
  cases ledger.lassidToAsset.lookup assetId with
  | none => exact .pure _
  | some asset => exact .bind (.refuseIf _ (by decide)) fun _ => .pure _

/-- `find_asset` with the caller's pointers raises a negative code. -/
theorem findAssetInto_negative (assetId : AssetId) : Raises Negative (findAssetInto assetId) := by
  apply Raises.bind .read
  intro state
  cases state.1.lassidToAsset.lookup assetId with
  | none => exact .pure _
  | some asset =>
    exact .bind (.update _) fun _ => .bind (.refuseIf _ (by decide)) fun _ =>
      .bind (.update _) fun _ => .pure _

/-- `find_account` raises nothing. -/
theorem findAccountInto_negative (accountId : AccountId) :
    Raises Negative (findAccountInto accountId) := by
  apply Raises.bind .read
  intro state
  cases state.1.laccidToAccount.lookup accountId with
  | none => exact .pure _
  | some account => exact .bind (.update _) fun _ => .pure _

/-- Inserting an asset raises a negative code. -/
theorem insertAsset_negative (currSize : AssetId) (newAsset : Asset) :
    Raises Negative (insertAsset currSize newAsset) :=
  .bind .read fun _ => .bind (.refuseIf _ (by decide)) fun _ => .update _

/-- The look-up and the creation of an asset with a key raise negative codes. -/
theorem retrieveKeyedAsset_negative (operation : Operation) (currSize : AssetId)
    (assetKey : AssetKey) (newAsset : Asset) :
    Raises Negative (retrieveKeyedAsset operation currSize assetKey newAsset) := by
  have looked : Raises Negative (lookForAssetKey operation assetKey) := by
    apply Raises.ite _ (.bind .read ?_) (.pure _)
    intro state
    cases state.1.assetToLassid.lookup assetKey with
    | none => exact .bind (.refuseIf _ (by decide)) fun _ => .pure _
    | some assetId =>
      exact .bind (findAssetInto_negative _) fun _ => .bind (.refuseIf _ (by decide)) fun _ =>
        .bind (.update _) fun _ => .pure _
  have keyed : Raises Negative (insertAssetKey currSize assetKey) :=
    .bind .read fun _ => .bind (.refuseIf _ (by decide)) fun _ => .update _
  exact .bind looked fun _ => .ite _ (.bind keyed fun _ => insertAsset_negative _ _) (.pure _)

/-- `retrieve_asset` raises negative codes. -/
theorem retrieveAsset_negative (operation : Operation) :
    Raises Negative (retrieveAsset operation) := by
  have looked (assetId : AssetId) : Raises Negative (lookForAssetId operation assetId) :=
    .ite _ (.bind (findAssetInto_negative _) fun _ => .bind (.refuseIf _ (by decide)) fun _ =>
      .pure _) (.pure _)
  apply Raises.bind .read
  rintro ⟨ledger, args⟩
  cases type : args.assetType with
  | none =>
    simp only [type]
    exact .raise (by decide)
  | some assetType =>
    cases assetType with
    | id =>
      simp only [type]
      exact .bind (.orRaise _ (by decide)) fun _ => .bind (looked _) fun _ =>
        .ite _ (insertAsset_negative _ _) (.pure _)
    | base =>
      simp only [type]
      exact .raise (by decide)
    | tokenAddress =>
      simp only [type]
      exact .bind (.orRaise _ (by decide)) fun _ => retrieveKeyedAsset_negative _ _ _ _
    | tokenAddressId =>
      simp only [type]
      exact .bind (.orRaise _ (by decide)) fun _ => .bind (.orRaise _ (by decide)) fun _ =>
        retrieveKeyedAsset_negative _ _ _ _
    | tokenAddressIdAmount =>
      simp only [type]
      exact .bind (.orRaise _ (by decide)) fun _ => .bind (.orRaise _ (by decide)) fun _ =>
        retrieveKeyedAsset_negative _ _ _ _

/-- Inserting an account raises a negative code. -/
theorem insertAccount_negative (currSize : AccountId) (newAccount : Account) :
    Raises Negative (insertAccount currSize newAccount) :=
  .bind .read fun _ => .bind (.refuseIf _ (by decide)) fun _ => .update _

/-- The look-up and the creation of an account with a key raise negative codes. -/
theorem retrieveKeyedAccount_negative (operation : Operation) (currSize : AccountId)
    (accountType : AccountType) :
    Raises Negative (retrieveKeyedAccount operation currSize accountType) := by
  have looked (accountKey : Bytes32) :
      Raises Negative (lookForAccountKey operation accountKey) := by
    apply Raises.ite _ (.bind .read ?_) (.pure _)
    intro state
    cases state.1.accountToLaccid.lookup accountKey with
    | none => exact .bind (.refuseIf _ (by decide)) fun _ => .pure _
    | some accountId =>
      exact .bind (findAccountInto_negative _) fun _ => .bind (.refuseIf _ (by decide)) fun _ =>
        .bind (.update _) fun _ => .pure _
  have keyed (accountKey : Bytes32) : Raises Negative (insertAccountKey currSize accountKey) :=
    .bind .read fun _ => .bind (.refuseIf _ (by decide)) fun _ => .update _
  exact .bind .read fun _ => .bind (localAccount_negative _ _) fun _ => .bind (looked _) fun _ =>
    .ite _ (.bind (keyed _) fun _ => .bind (insertAccount_negative _ _) fun _ => .update _)
      (.pure _)

/-- `retrieve_account` raises negative codes. -/
theorem retrieveAccount_negative (operation : Operation) :
    Raises Negative (retrieveAccount operation) := by
  have looked (accountId : AccountId) : Raises Negative (lookForAccountId operation accountId) :=
    .ite _ (.bind (findAccountInto_negative _) fun _ =>
      .ite _ (.bind (.update _) fun _ => .pure _)
        (.bind (.refuseIf _ (by decide)) fun _ => .pure _)) (.pure _)
  apply Raises.bind .read
  rintro ⟨ledger, args⟩
  cases type : args.accountType with
  | none =>
    simp only [type]
    exact .raise (by decide)
  | some accountType =>
    cases accountType with
    | id =>
      simp only [type]
      exact .bind (.orRaise _ (by decide)) fun _ => .bind (looked _) fun _ =>
        .ite _ (insertAccount_negative _ _) (.pure _)
    | walletAddress =>
      simp only [type]
      exact retrieveKeyedAccount_negative _ _ _
    | accountId =>
      simp only [type]
      exact retrieveKeyedAccount_negative _ _ _

/-- The methods of a basic ledger raise negative codes. -/
theorem ops_coded : ops.Coded Negative where
  findAsset := findAsset_negative
  findAccount _ := .bind .read fun _ => .pure _
  getAccountAssetBalance _ _ := .bind .read fun _ => .pure _
  setAccountAssetBalance _ _ _ := .update _
  setAssetSupply _ _ := .bind .read fun _ => .bind (.orRaise _ (by decide)) fun _ => .update _

/-- A call that does not ask for a balance record. -/
def AsksNoRecord (request : Call) : Prop :=
  ∀ assetId accountId balance info, request ≠ .getBalance assetId accountId balance (some info)

/-- A call that asks for no balance record raises a negative code. -/
theorem call_negative {ledger after : Basic} {request : Call} {response : Response}
    {exception : CmaException} (unasked : AsksNoRecord request)
    (called : ledger.call request = some (after, response))
    (reported : response.error = some exception) : Negative exception := by
  cases request with
  | retrieveAsset args operation =>
    exact settle_raises (retrieveAsset_negative operation) called reported
  | retrieveAccount args operation =>
    exact settle_raises (retrieveAccount_negative operation) called reported
  | getBalance assetId accountId balance info =>
    cases info with
    | none =>
      cases called
      cases reported
    | some info => exact absurd rfl (unasked assetId accountId balance info)
  | deposit assetId accountId amount =>
    have raises := ops_coded.deposit checkCodes_negative assetId accountId amount
    exact settle_raises (.onFirst raises) called reported
  | withdraw assetId accountId amount =>
    have raises := ops_coded.withdraw checkCodes_negative assetId accountId amount
    exact settle_raises (.onFirst raises) called reported
  | transfer assetId source target amount =>
    have raises := ops_coded.transfer checkCodes_negative assetId source target amount
    exact settle_raises (.onFirst raises) called reported
  | clear =>
    cases called
    cases reported

end Basic

end Libcma
