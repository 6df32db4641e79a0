import Libcma.Ledger.Codes
import Libcma.Memory.Codes

/-!
# Return codes of the C interface

The functions of `ledger.cpp` around the methods of a ledger: they check the pointers they read
from and the magic number, call the method, and turn whatever was thrown into an integer.
`Ends` relates a call to how its body can end: refused by the checks, as the method ends, or with
an exception from elsewhere, such as a container that finds no memory. A balance record asked of
a basic ledger is refused with a positive code; all other exceptions return negative ones.
-/

namespace Libcma

/-- What a function of the C interface can catch. -/
inductive Exception where
  /-- An exception of the library. -/
  | cma (exception : CmaException)
  /-- Any other `std::exception`, with its text. -/
  | standard (what : String)
  /-- Anything else. -/
  | other
  deriving DecidableEq

/-- `CMA_LEDGER_ERROR_UNKNOWN`. -/
def errorUnknown : Int := -1001

/-- `CMA_LEDGER_ERROR_EXCEPTION`. -/
def errorException : Int := -1002

/-- `cma_ledger_result_failure`: the code returned, and the text kept as the last error. -/
def resultFailure : Exception → Int × String
  | .cma exception => (exception.code, exception.message)
  | .standard what => (errorException, what)
  | .other => (errorUnknown, "unknown error")

/-- `cma_ledger_result_success`. -/
def resultSuccess : Int × String := (success, "")

/-- The ledger pointer of a call. -/
inductive LedgerPtr (σ : Type) where
  /-- The null pointer. -/
  | null
  /-- A pointer to something without the magic number of a ledger. -/
  | uninitialized
  /-- A pointer to a ledger. -/
  | live (ledger : σ)

/-- The other arguments of a function of the C interface. The pointer to a type, or to the amount
that is moved, may be null; with a null type the other pointers are not read. -/
inductive ApiCall where
  | retrieveAsset (args : Option AssetArgs) (operation : Operation)
  | retrieveAccount (args : Option AccountArgs) (operation : Operation)
  | getBalance (assetId : AssetId) (accountId : AccountId) (outBalance : Option Amount)
      (info : Option BalanceInfo)
  | deposit (assetId : AssetId) (toAccountId : AccountId) (deposit : Option Amount)
  | withdraw (assetId : AssetId) (fromAccountId : AccountId) (withdrawal : Option Amount)
  | transfer (assetId : AssetId) (fromAccountId toAccountId : AccountId) (amount : Option Amount)

namespace ApiCall

/-- A pointer the function reads from. -/
def given {α : Type} (pointer : Option α) (message : String) : Except CmaException α :=
  match pointer with
  | some value => .ok value
  | none => .error ⟨message, -einval⟩

/-- The method called, with what its pointers point to. -/
def request : ApiCall → Except CmaException Call
  | .retrieveAsset args operation =>
    (given args "Invalid asset type ptr").map (.retrieveAsset · operation)
  | .retrieveAccount args operation =>
    (given args "Invalid account type ptr").map (.retrieveAccount · operation)
  | .getBalance assetId accountId outBalance info =>
    .ok (.getBalance assetId accountId outBalance info)
  | .deposit assetId toAccountId amount =>
    (given amount "Invalid deposit ptr").map (.deposit assetId toAccountId ·)
  | .withdraw assetId fromAccountId amount =>
    (given amount "Invalid withdrawal ptr").map (.withdraw assetId fromAccountId ·)
  | .transfer assetId fromAccountId toAccountId amount =>
    (given amount "Invalid amount ptr").map (.transfer assetId fromAccountId toAccountId ·)

/-- The function is asked for a balance record. -/
def AsksRecord (arguments : ApiCall) : Prop :=
  ∃ assetId accountId outBalance info,
    arguments = .getBalance assetId accountId outBalance (some info)

end ApiCall

/-- The checks of a function: the ledger pointer, its other pointers, the magic number. -/
def enter {σ : Type} (pointer : LedgerPtr σ) (arguments : ApiCall) :
    Except CmaException (σ × Call) :=
  match pointer with
  | .null => .error ⟨"Invalid ledger ptr", -einval⟩
  | .uninitialized => arguments.request >>= fun _ => .error ⟨"Invalid ledger ptr", -einval⟩
  | .live ledger => arguments.request.map (ledger, ·)

/-- How the body of a function can end, for a class whose methods are given: the exception that
is caught, if any. -/
inductive Ends {σ : Type} (call : σ → Call → Option (σ × Response)) (pointer : LedgerPtr σ)
    (arguments : ApiCall) : Option Exception → Prop
  /-- A check refuses. -/
  | refused {exception : CmaException} (checked : enter pointer arguments = .error exception) :
      Ends call pointer arguments (some (.cma exception))
  /-- The method returns, or throws an exception of its own. -/
  | ended {ledger after : σ} {request : Call} {response : Response}
      (checked : enter pointer arguments = .ok (ledger, request))
      (called : call ledger request = some (after, response)) :
      Ends call pointer arguments (response.error.map .cma)
  /-- Something the method uses throws an exception that is none of the library's. -/
  | interrupted {ledger : σ} {request : Call} {exception : Exception}
      (checked : enter pointer arguments = .ok (ledger, request))
      (foreign : ∀ own, exception ≠ .cma own) :
      Ends call pointer arguments (some exception)

/-- The integer returned. -/
def returnCode : Option Exception → Int
  | none => resultSuccess.1
  | some exception => (resultFailure exception).1

/-- The function returns zero when it completed, and a negative number when it raised anything. -/
def Unambiguous {σ : Type} (call : σ → Call → Option (σ × Response)) (pointer : LedgerPtr σ)
    (arguments : ApiCall) : Prop :=
  ∀ ending, Ends call pointer arguments ending →
    (ending = none → returnCode ending = 0) ∧ (ending ≠ none → returnCode ending < 0)

section Codes

variable {σ : Type} {call : σ → Call → Option (σ × Response)} {pointer : LedgerPtr σ}
  {arguments : ApiCall}

/-- Either test of the code detects every failure of a function that is unambiguous. -/
theorem Unambiguous.detects (unambiguous : Unambiguous call pointer arguments)
    {ending : Option Exception} (ends : Ends call pointer arguments ending) :
    (returnCode ending < 0 ↔ ending ≠ none) ∧ (returnCode ending ≠ 0 ↔ ending ≠ none) := by
  obtain ⟨completed, raised⟩ := unambiguous ending ends
  by_cases quiet : ending = none
  · have zero := completed quiet
    constructor
    · exact iff_of_false (by omega) (absurd quiet)
    · exact iff_of_false (absurd zero) (absurd quiet)
  · have negative := raised quiet
    constructor
    · exact iff_of_true negative quiet
    · exact iff_of_true (by omega) quiet

/-- Reading from a null pointer is refused with a negative code. -/
theorem ApiCall.given_negative {α β : Type} {pointer : Option α} {message : String}
    {change : α → β} {exception : CmaException}
    (refused : (ApiCall.given pointer message).map change = .error exception) :
    Negative exception := by
  cases pointer with
  | none =>
    cases refused
    show -einval < 0
    decide
  | some value => cases refused

/-- The checks of the other pointers refuse with negative codes. -/
theorem ApiCall.request_negative {exception : CmaException}
    (refused : arguments.request = .error exception) : Negative exception := by
  cases arguments with
  | retrieveAsset args operation => exact given_negative refused
  | retrieveAccount args operation => exact given_negative refused
  | getBalance assetId accountId outBalance info => cases refused
  | deposit assetId toAccountId amount => exact given_negative refused
  | withdraw assetId fromAccountId amount => exact given_negative refused
  | transfer assetId fromAccountId toAccountId amount => exact given_negative refused

/-- The method is asked for a balance record only when the function is. -/
theorem ApiCall.asksRecord_of_request {request : Call}
    (given : arguments.request = .ok request) (plain : ¬arguments.AsksRecord) :
    Basic.AsksNoRecord request := by
  rintro assetId accountId balance info rfl
  cases arguments with
  | retrieveAsset args operation => cases args <;> cases given
  | retrieveAccount args operation => cases args <;> cases given
  | getBalance assetId accountId outBalance info =>
    cases given
    exact plain ⟨_, _, _, _, rfl⟩
  | deposit assetId toAccountId amount => cases amount <;> cases given
  | withdraw assetId fromAccountId amount => cases amount <;> cases given
  | transfer assetId fromAccountId toAccountId amount => cases amount <;> cases given

/-- A function that passes its checks calls a method of the ledger it was given. -/
theorem enter_ok {ledger : σ} {request : Call}
    (checked : enter pointer arguments = .ok (ledger, request)) :
    pointer = .live ledger ∧ arguments.request = .ok request := by
  cases pointer with
  | null => cases checked
  | uninitialized =>
    simp only [enter] at checked
    cases made : arguments.request with
    | error exception =>
      rw [made] at checked
      cases checked
    | ok request =>
      rw [made] at checked
      cases checked
  | live ledger =>
    simp only [enter] at checked
    cases made : arguments.request with
    | error exception =>
      rw [made] at checked
      cases checked
    | ok request =>
      rw [made] at checked
      cases checked
      exact ⟨rfl, rfl⟩

/-- The checks of a function refuse with negative codes. -/
theorem enter_negative {exception : CmaException}
    (refused : enter pointer arguments = .error exception) : Negative exception := by
  have invalid : Negative ⟨"Invalid ledger ptr", -einval⟩ := by decide
  cases pointer with
  | null =>
    cases refused
    exact invalid
  | uninitialized =>
    simp only [enter] at refused
    cases made : arguments.request with
    | error other =>
      rw [made] at refused
      cases refused
      exact ApiCall.request_negative made
    | ok request =>
      rw [made] at refused
      cases refused
      exact invalid
  | live ledger =>
    simp only [enter] at refused
    cases made : arguments.request with
    | error other =>
      rw [made] at refused
      cases refused
      exact ApiCall.request_negative made
    | ok request =>
      rw [made] at refused
      cases refused

/-- A function is unambiguous when the exceptions of the method it calls have negative codes. -/
theorem unambiguous_of_negative
    (negative : ∀ ledger request after response exception,
      enter pointer arguments = .ok (ledger, request) →
      call ledger request = some (after, response) → response.error = some exception →
      Negative exception) : Unambiguous call pointer arguments := by
  intro ending ends
  constructor
  · rintro rfl
    rfl
  · intro raised
    cases ends with
    | refused checked => exact enter_negative checked
    | @ended ledger after request response checked called =>
      cases reported : response.error with
      | none =>
        rw [reported] at raised
        exact absurd rfl raised
      | some exception =>
        exact negative ledger request after response exception checked called reported
    | @interrupted ledger request exception checked foreign =>
      cases exception with
      | cma own => exact absurd rfl (foreign own)
      | standard what =>
        show errorException < 0
        decide
      | other =>
        show errorUnknown < 0
        decide

end Codes

namespace Basic

/-- A balance record asked of a basic ledger is refused with a positive code. -/
theorem record_ambiguous (ledger : Basic) (assetId : AssetId) (accountId : AccountId)
    (outBalance : Option Amount) (info : BalanceInfo) :
    ¬Unambiguous call (.live ledger) (.getBalance assetId accountId outBalance (some info)) := by
  intro unambiguous
  have refused : ledger.call (.getBalance assetId accountId outBalance (some info)) =
      some (ledger, ⟨some ⟨"Account balance not available", -errorBalanceNotFound⟩,
        .balance outBalance (some info)⟩) := rfl
  obtain ⟨-, negative⟩ := unambiguous _ (.ended rfl refused)
  have code : -errorBalanceNotFound < 0 := negative (by simp)
  revert code
  decide

end Basic

/-- Every function of the C interface is unambiguous, on every ledger of either class and for all
arguments, but for a balance record asked of a basic ledger. -/
theorem unambiguous_iff (config : Config) :
    (∀ (pointer : LedgerPtr Basic) (arguments : ApiCall),
      Unambiguous Basic.call pointer arguments ↔
        ¬((∃ ledger, pointer = .live ledger) ∧ arguments.AsksRecord)) ∧
    ∀ (pointer : LedgerPtr Memory) (arguments : ApiCall),
      Unambiguous (Memory.call config) pointer arguments := by
  constructor
  · intro pointer arguments
    constructor
    · rintro unambiguous ⟨⟨ledger, rfl⟩, assetId, accountId, outBalance, info, rfl⟩
      exact Basic.record_ambiguous ledger assetId accountId outBalance info unambiguous
    · intro unasked
      apply unambiguous_of_negative
      intro ledger request after response exception checked called reported
      obtain ⟨target, given⟩ := enter_ok checked
      have plain : ¬arguments.AsksRecord := fun asked => unasked ⟨⟨ledger, target⟩, asked⟩
      exact Basic.call_negative (ApiCall.asksRecord_of_request given plain) called reported
  · intro pointer arguments
    apply unambiguous_of_negative
    intro ledger request after response exception _ called reported
    exact Memory.call_negative called reported

/-- A balance record is asked of a new basic ledger. -/
theorem record_not_unambiguous :
    ¬Unambiguous Basic.call (.live Basic.empty) (.getBalance 0 0 none (some ⟨0, 0, none⟩)) :=
  Basic.record_ambiguous Basic.empty 0 0 none ⟨0, 0, none⟩

end Libcma
