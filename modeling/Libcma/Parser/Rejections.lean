import Libcma.Lib.Keeps
import Libcma.Parser.Decode
import Libcma.Parser.Requests

/-!
# The type after a rejected input

An advance decoder stores the type in its last line, so that it keeps the type when it throws. An
inspect decoder stores a type after each of its stages; a stage that throws leaves the type of the
stage before it.
-/

namespace Libcma.Parser

/-- The type of the parser input in a session. -/
def Session.type (session : Session) : InputType := session.input.type

/-- The type of the parser input in the state of an advance decoder. -/
def advanceType (state : Session × Members) : InputType := state.1.type

section

variable (libcmt : Libcmt) (memory : Memory)

/-- A test keeps the type. -/
theorem check_keeps (err : Int) (message : String) :
    Exec.Keeps Session.type (check err message) := .refuseIf _ _

/-- A write that leaves the type alone keeps it. -/
theorem store_keeps {change : ParserInput → ParserInput}
    (kept : ∀ input, (change input).type = input.type) :
    Exec.Keeps Session.type (store change) := .update fun session => kept session.input

/-- A note keeps the type. -/
theorem noteLengthWord_keeps (word : Option Buf) :
    Exec.Keeps Session.type (noteLengthWord word) := .update fun _ => rfl

/-- A packed address is read without a look at the type. -/
theorem getAddressPacked_keeps (buf : Buf) :
    Exec.Keeps Session.type (getAddressPacked libcmt memory buf) := by
  apply Exec.Keeps.bind (.refuseIf _ _)
  intro _
  apply Exec.Keeps.bind (.bind (.refuseIf _ _) fun _ => .pure _)
  exact fun _ => .pure _

/-- A list is read without a look at the type. -/
theorem getUint256List_keeps (start offsetBuf : Buf) :
    Exec.Keeps Session.type (getUint256List libcmt memory start offsetBuf) := by
  apply Exec.Keeps.bind
  · apply Exec.Keeps.ite _ (.pure _)
    apply Exec.Keeps.bind (noteLengthWord_keeps _)
    intro _
    apply Exec.Keeps.ite _ (.pure _)
    apply Exec.Keeps.ite _ (.pure _) (.pure _)
  · exact fun _ => .ite _ (.pure _) (.pure _)

/-- The lists of a batch are read and compared without a look at the type. -/
theorem getBatchLists_keeps (frame offsetTokenId offsetAmount : Buf)
    {storeTokenIds storeAmounts : U256List → ParserInput → ParserInput}
    (tokenIds : ∀ list input, (storeTokenIds list input).type = input.type)
    (amounts : ∀ list input, (storeAmounts list input).type = input.type) :
    Exec.Keeps Session.type (getBatchLists libcmt memory frame offsetTokenId offsetAmount
      storeTokenIds storeAmounts) := by
  apply Exec.Keeps.bind (getUint256List_keeps libcmt memory _ _)
  intro _
  apply Exec.Keeps.bind (check_keeps _ _)
  intro _
  apply Exec.Keeps.bind (store_keeps (tokenIds _))
  intro _
  apply Exec.Keeps.bind (getUint256List_keeps libcmt memory _ _)
  intro _
  apply Exec.Keeps.bind (check_keeps _ _)
  intro _
  exact .bind (store_keeps (amounts _)) fun _ => .refuseIf _ _

/-- What follows the static words of a batch is read without a look at the type. -/
theorem getListsAndExec_keeps (frame buf : Buf)
    {storeTokenIds storeAmounts : U256List → ParserInput → ParserInput}
    {storeExec : AbiBytes → ParserInput → ParserInput}
    (tokenIds : ∀ list input, (storeTokenIds list input).type = input.type)
    (amounts : ∀ list input, (storeAmounts list input).type = input.type)
    (exec : ∀ bytes input, (storeExec bytes input).type = input.type) :
    Exec.Keeps Session.type (getListsAndExec libcmt memory frame buf storeTokenIds storeAmounts
      storeExec) := by
  apply Exec.Keeps.bind (check_keeps _ _)
  intro _
  apply Exec.Keeps.bind (check_keeps _ _)
  intro _
  apply Exec.Keeps.bind (check_keeps _ _)
  intro _
  apply Exec.Keeps.bind (getBatchLists_keeps libcmt memory _ _ _ tokenIds amounts)
  intro _
  exact .bind (check_keeps _ _) fun _ => store_keeps (exec _)

/-- A batch deposit that is rejected keeps the type. -/
theorem decodeErc1155BatchDeposit_throwKeeps (payload : Payload) :
    Exec.ThrowKeeps Session.type (decodeErc1155BatchDeposit libcmt memory payload) := by
  apply Exec.ThrowKeeps.bind (getAddressPacked_keeps libcmt memory _)
  rintro ⟨_, _⟩
  refine .bind (store_keeps fun _ => rfl) fun _ => ?_
  apply Exec.ThrowKeeps.bind (getAddressPacked_keeps libcmt memory _)
  rintro ⟨_, _⟩
  refine .bind (store_keeps fun _ => rfl) fun _ => ?_
  apply Exec.ThrowKeeps.bind (check_keeps _ "Error marking frame")
  intro _
  apply Exec.ThrowKeeps.bind (check_keeps _ "Error getting bytes token id offset")
  intro _
  apply Exec.ThrowKeeps.bind (check_keeps _ "Error getting bytes amount offset")
  intro _
  apply Exec.ThrowKeeps.bind (check_keeps _ "Error getting bytes base offset")
  intro _
  apply Exec.ThrowKeeps.bind (check_keeps _ "Error getting bytes exec offset")
  intro _
  refine .bind (getBatchLists_keeps libcmt memory _ _ _ (fun _ _ => rfl) fun _ _ => rfl)
    fun _ => ?_
  apply Exec.ThrowKeeps.bind (check_keeps _ "Error getting base bytes")
  intro _
  refine .bind (store_keeps fun _ => rfl) fun _ => ?_
  apply Exec.ThrowKeeps.bind (check_keeps _ "Error getting exec bytes")
  intro _
  exact .bind (store_keeps fun _ => rfl) fun _ => .update _

/-- A batch withdrawal that is rejected keeps the type. -/
theorem decodeErc1155BatchWithdrawal_throwKeeps (payload : Payload) :
    Exec.ThrowKeeps Session.type (decodeErc1155BatchWithdrawal libcmt memory payload) := by
  apply Exec.ThrowKeeps.bind (check_keeps _ "Invalid funsel")
  intro _
  apply Exec.ThrowKeeps.bind (check_keeps _ "Error marking frame")
  intro _
  apply Exec.ThrowKeeps.bind (check_keeps _ "Error getting token")
  intro _
  refine .bind (store_keeps fun _ => rfl) fun _ => ?_
  exact .bind (getListsAndExec_keeps libcmt memory _ _ (fun _ _ => rfl) (fun _ _ => rfl)
    fun _ _ => rfl) fun _ => .update _

/-- A batch transfer that is rejected keeps the type. -/
theorem decodeErc1155BatchTransfer_throwKeeps (payload : Payload) :
    Exec.ThrowKeeps Session.type (decodeErc1155BatchTransfer libcmt memory payload) := by
  apply Exec.ThrowKeeps.bind (check_keeps _ "Invalid funsel")
  intro _
  apply Exec.ThrowKeeps.bind (check_keeps _ "Error marking frame")
  intro _
  apply Exec.ThrowKeeps.bind (check_keeps _ "Error getting token")
  intro _
  refine .bind (store_keeps fun _ => rfl) fun _ => ?_
  apply Exec.ThrowKeeps.bind (check_keeps _ "Error getting receiver")
  intro _
  refine .bind (store_keeps fun _ => rfl) fun _ => ?_
  exact .bind (getListsAndExec_keeps libcmt memory _ _ (fun _ _ => rfl) (fun _ _ => rfl)
    fun _ _ => rfl) fun _ => .update _

/-- A test of any advance decoder keeps the type. -/
theorem require_keeps (err : Int) (message : String) :
    Exec.Keeps advanceType (require err message) := (check_keeps err message).onFirst

/-- Filling a member keeps the type. -/
theorem fill_keeps (change : Members → Members) : Exec.Keeps advanceType (fill change) :=
  .update fun _ => rfl

/-- Static fields are read without a look at the type. -/
theorem getStatics_keeps (buf : Buf) (statics : List Static) :
    Exec.Keeps advanceType (getStatics libcmt memory buf statics) := by
  induction statics generalizing buf with
  | nil => exact .pure buf
  | cons static rest ih =>
    cases static with
    | packed write =>
      apply Exec.Keeps.bind (getAddressPacked_keeps libcmt memory buf).onFirst
      intro _
      exact .bind (fill_keeps _) fun _ => ih _
    | address message write =>
      apply Exec.Keeps.bind (require_keeps _ message)
      intro _
      exact .bind (fill_keeps _) fun _ => ih _
    | uint256 message write =>
      apply Exec.Keeps.bind (require_keeps _ message)
      intro _
      exact .bind (fill_keeps _) fun _ => ih _

variable (statics : List Static) (writeBase writeExec : AbiBytes → Members → Members)
  (type : InputType) (payload : Payload)

/-- A packed deposit that is rejected keeps the type. -/
theorem decodePackedDeposit_throwKeeps : Exec.ThrowKeeps advanceType
    (decodePackedDeposit libcmt memory statics writeExec type payload) := by
  apply Exec.ThrowKeeps.bind (getStatics_keeps libcmt memory _ statics)
  intro _
  apply Exec.ThrowKeeps.bind (.bind (.refuseIf _ _) fun _ => .pure _)
  intro _
  apply Exec.ThrowKeeps.bind (fill_keeps _)
  exact fun _ => .onFirst (.update _)

/-- A framed deposit that is rejected keeps the type. -/
theorem decodeFramedDeposit_throwKeeps : Exec.ThrowKeeps advanceType
    (decodeFramedDeposit libcmt memory statics writeBase writeExec type payload) := by
  apply Exec.ThrowKeeps.bind (getStatics_keeps libcmt memory _ statics)
  intro _
  apply Exec.ThrowKeeps.bind (require_keeps _ "Error marking frame")
  intro _
  apply Exec.ThrowKeeps.bind (require_keeps _ "Error getting bytes base offset")
  intro _
  apply Exec.ThrowKeeps.bind (require_keeps _ "Error getting bytes exec offset")
  intro _
  apply Exec.ThrowKeeps.bind (require_keeps _ "Error getting base bytes")
  intro _
  apply Exec.ThrowKeeps.bind (fill_keeps _)
  intro _
  apply Exec.ThrowKeeps.bind (require_keeps _ "Error getting exec bytes")
  intro _
  apply Exec.ThrowKeeps.bind (fill_keeps _)
  exact fun _ => .onFirst (.update _)

/-- A withdrawal or transfer that is rejected keeps the type. -/
theorem decodeCall_throwKeeps (originalFunsel : UInt32) : Exec.ThrowKeeps advanceType
    (decodeCall libcmt memory originalFunsel statics writeExec type payload) := by
  apply Exec.ThrowKeeps.bind (require_keeps _ "Invalid funsel")
  intro _
  apply Exec.ThrowKeeps.bind (require_keeps _ "Error marking frame")
  intro _
  apply Exec.ThrowKeeps.bind (getStatics_keeps libcmt memory _ statics)
  intro _
  apply Exec.ThrowKeeps.bind (require_keeps _ "Error getting bytes offset")
  intro _
  apply Exec.ThrowKeeps.bind (require_keeps _ "Error getting bytes")
  intro _
  apply Exec.ThrowKeeps.bind (fill_keeps _)
  exact fun _ => .onFirst (.update _)

/-- The decoder that AUTO selects keeps the type when all of them do. -/
theorem decodeFirst_throwKeeps (buf : Buf)
    (decoders : List (UInt32 × (Payload → AdvanceDecoder Unit)))
    (keep : ∀ entry ∈ decoders, Exec.ThrowKeeps advanceType (entry.2 payload)) :
    Exec.ThrowKeeps advanceType (decodeFirst libcmt memory payload buf decoders) := by
  induction decoders generalizing buf with
  | nil => exact .raise _
  | cons first rest ih =>
    apply Exec.ThrowKeeps.ite
    · exact keep first List.mem_cons_self
    · exact ih _ fun entry later => keep entry (List.mem_cons_of_mem first later)

/-- The decoder that AUTO selects keeps the type, as each of them does. -/
theorem decodeAdvanceAuto_throwKeeps :
    Exec.ThrowKeeps advanceType (decodeAdvanceAuto libcmt memory payload) := by
  apply decodeFirst_throwKeeps
  intro entry listed
  simp only [autoDecoders, List.mem_cons, List.not_mem_nil, or_false] at listed
  rcases listed with rfl | rfl | rfl | rfl | rfl | rfl | rfl | rfl | rfl | rfl
  case inr.inr.inr.inr.inl =>
    exact (decodeErc1155BatchWithdrawal_throwKeeps libcmt memory payload).onFirst
  case inr.inr.inr.inr.inr.inr.inr.inr.inr =>
    exact (decodeErc1155BatchTransfer_throwKeeps libcmt memory payload).onFirst
  all_goals
    simp only [decodeEtherWithdrawal, decodeErc20Withdrawal, decodeErc721Withdrawal,
      decodeErc1155SingleWithdrawal, decodeEtherTransfer, decodeErc20Transfer, decodeErc721Transfer,
      decodeErc1155SingleTransfer]
    exact decodeCall_throwKeeps libcmt memory _ _ _ payload _

/-- An advance input that is rejected keeps the type. -/
theorem decodeAdvance_throwKeeps :
    Exec.ThrowKeeps advanceType (decodeAdvance libcmt memory type payload) := by
  cases type <;> simp only [decodeAdvance, decodeEtherDeposit, decodeErc20Deposit,
    decodeErc721Deposit, decodeErc1155SingleDeposit, decodeEtherWithdrawal, decodeErc20Withdrawal,
    decodeErc721Withdrawal, decodeErc1155SingleWithdrawal, decodeEtherTransfer,
    decodeErc20Transfer, decodeErc721Transfer, decodeErc1155SingleTransfer]
  case auto => exact decodeAdvanceAuto_throwKeeps libcmt memory payload
  case etherDeposit | erc20Deposit =>
    exact decodePackedDeposit_throwKeeps libcmt memory _ _ _ payload
  case erc721Deposit | erc1155SingleDeposit =>
    exact decodeFramedDeposit_throwKeeps libcmt memory _ _ _ _ payload
  case erc1155BatchDeposit =>
    exact (decodeErc1155BatchDeposit_throwKeeps libcmt memory payload).onFirst
  case erc1155BatchWithdrawal =>
    exact (decodeErc1155BatchWithdrawal_throwKeeps libcmt memory payload).onFirst
  case erc1155BatchTransfer =>
    exact (decodeErc1155BatchTransfer_throwKeeps libcmt memory payload).onFirst
  case etherWithdrawal | erc20Withdrawal | erc721Withdrawal | erc1155SingleWithdrawal
      | etherTransfer | erc20Transfer | erc721Transfer | erc1155SingleTransfer =>
    exact decodeCall_throwKeeps libcmt memory _ _ _ payload _
  all_goals exact .raise _

end

/-- A rejected advance input has the type it had. A rejected inspect request has it when no stage
before the refusal stored another one. -/
theorem rejected_type_iff (libcmt : Libcmt) (memory : Memory) (parse : Text → Parsed)
    (type : InputType) (payload : Payload) :
    (∀ session members error after,
      (decodeAdvance libcmt memory type payload).run (session, members) = .throw error after →
        after.1.input.type = session.input.type) ∧
    ∀ state, (∀ error after, (decodeInspect parse type payload).run state = .throw error after →
        after.type = state.type) ↔
      ∀ method jsonInput stored, Requests parse payload type state method jsonInput →
        Refused method jsonInput.params (some stored) → state.type = stored := by
  constructor
  · intro session members error after throws
    have kept := decodeAdvance_throwKeeps libcmt memory type payload (session, members)
    rw [throws] at kept
    exact kept
  · intro state
    constructor
    · intro keeps method jsonInput stored requests refused
      obtain ⟨error, after, throws, typed⟩ := requests.throws refused
      rw [← keeps error after throws, typed]
      rfl
    · intro stages error after throws
      rcases decodeInspect_cases parse payload type state with
        ⟨early, refused⟩ | ⟨method, jsonInput, requests⟩
      · rw [throws] at refused
        cases refused
        rfl
      · obtain ⟨left, refused, typed⟩ := requests.refused throws
        cases left with
        | none => exact typed
        | some stored =>
          rw [typed, stages method jsonInput stored requests refused]
          rfl

/-- Parameters of a balance request: an account, and a text that is no token address. -/
def wrongToken : List Text := [ascii "0x0000000000000000000000000000000000000001", ascii "0x"]

/-- A request with these parameters is rejected, but its type says that it asks for the balance of
the account. -/
theorem wrongToken_type : ¬∀ error after,
    (decodeInspect (readsOnly (requestText .balance wrongToken) (request .balance wrongToken)) .auto
        (textPayload (requestText .balance wrongToken) (by decide +kernel))).run
        (textState (requestText .balance wrongToken) 0) = .throw error after →
      after.type = .none := by
  intro keeps
  have requests := requests_request .balance wrongToken 0 (by decide +kernel)
  have refused : Refused .balance (request .balance wrongToken).params (some .balanceAccount) :=
    .balanceToken (Nat.zero_le 2) (by decide +kernel) (by decide +kernel)
  obtain ⟨error, after, throws, typed⟩ := requests.throws refused
  rw [keeps error after throws] at typed
  cases typed

end Libcma.Parser
