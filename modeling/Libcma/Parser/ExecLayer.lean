import Libcma.Parser.Requests

/-!
# Execution layer data of inspect requests

`exec_layer_data` is the caller's buffer before the call and the request's data after it. A balance
request that ends before its token id leaves it as it was, so that the caller's own bytes look like
data of the request; every other request follows the rule (`decodeInspect_execRule_iff`).
-/

namespace Libcma.Parser

/-- What becomes of the caller's buffer: it holds the front of the parameter as far as that fits.
When there is no parameter or no buffer, the data are null and empty. -/
def ExecRule (buffer : AbiBytes) (execParam : Option Text) (exec : AbiBytes) (memory : Memory) :
    Prop :=
  match execParam with
  | some text =>
    if buffer.data = 0 ∨ buffer.length = 0 then
      exec = ⟨0, 0⟩
    else
      exec.data = buffer.data ∧ exec.length.toNat = min buffer.length.toNat text.length ∧
        Cells.Holds memory exec.data (text.take exec.length.toNat)
  | none => exec = ⟨0, 0⟩

/-- A size that fits in an `int` becomes the same `int`. -/
theorem toInt_narrow {size : ℕ} (small : size < 2 ^ 31) :
    (BitVec.ofNat 32 size).toInt.toNat = size := by
  have same : (BitVec.ofNat 32 size).toNat = size := Nat.mod_eq_of_lt (by omega)
  rw [BitVec.toInt_eq_toNat_of_lt (by omega), same, Int.toNat_natCast]

/-- It becomes the same size again. -/
theorem signExtend_narrow {size : ℕ} (small : size < 2 ^ 31) :
    ((BitVec.ofNat 32 size).signExtend 64).toNat = size := by
  have same : (BitVec.ofNat 32 size).toNat = size := Nat.mod_eq_of_lt (by omega)
  have positive : (BitVec.ofNat 32 size).msb = false := by
    rw [BitVec.msb_eq_false_iff_two_mul_lt]
    omega
  rw [BitVec.signExtend_eq_setWidth_of_msb_false positive, BitVec.toNat_setWidth, same]
  exact Nat.mod_eq_of_lt (by omega)

/-- Storing execution layer data follows the rule when the capacity is an `int`. -/
theorem storeExec_rule {execParam : Option Text} {buffer exec : AbiBytes} {memory last : Memory}
    (small : buffer.length.toNat < 2 ^ 31)
    (stored : (storeExec execParam).run (buffer, memory) = .ok () (exec, last)) :
    ExecRule buffer execParam exec last := by
  cases execParam with
  | none =>
    cases stored
    rfl
  | some text =>
    show if _ then _ else _
    by_cases empty : buffer.data = 0 ∨ buffer.length = 0
    · rw [storeExec_empty empty] at stored
      cases stored
      rw [if_pos empty]
    · rw [storeExec_buffer empty] at stored
      cases stored
      have least : min text.length buffer.length.toNat < 2 ^ 31 :=
        Nat.lt_of_le_of_lt (Nat.min_le_right _ _) small
      rw [if_neg empty, toInt_narrow least, signExtend_narrow least, Nat.min_comm]
      refine ⟨rfl, rfl, ?_⟩
      apply Cells.holds_write
      rw [List.length_take]
      omega

/-- A request that forgets the buffer has no execution layer data. -/
theorem Method.Forgets.execParam {method : Method} {params : List Text}
    (forgets : method.Forgets params) : method.execParam params = none := by
  obtain ⟨rfl, few⟩ := forgets
  exact List.getElem?_eq_none (by omega)

/-- An accepted request follows the rule for its execution layer data, unless it is a balance
request with one or two parameters and the caller gave a buffer. -/
theorem decodeInspect_execRule_iff (parse : Text → Parsed) (payload : Payload) (type : InputType)
    (state after : Inspection) (method : Method) (jsonInput : Request) (params : List Text)
    (requests : Requests parse payload type state method jsonInput)
    (lists : jsonInput.params.Lists params)
    (returns : (decodeInspect parse type payload).run state = .ok () after)
    (small : (method.execLayerData state).length.toNat < 2 ^ 31) :
    ExecRule (method.execLayerData state) (method.execParam params) (method.execLayerData after)
        after.memory ↔
      ¬(method = .balance ∧ params.length ≤ 2 ∧ method.execLayerData state ≠ ⟨0, 0⟩) := by
  have accepted := requests.accepted lists returns
  by_cases forgets : method.Forgets params
  · rw [forgets.execParam, accepted.forgotten forgets]
    constructor
    · exact fun null other => other.2.2 null
    · intro excluded
      by_contra other
      exact excluded ⟨forgets.1, forgets.2, other⟩
  · constructor
    · exact fun _ other => forgets ⟨other.1, other.2.1⟩
    · exact fun _ => storeExec_rule small (accepted.filled forgets)

/-- Execution layer data in a buffer of two bytes follow the rule. -/
theorem wholeParams_execRule : ∃ after,
    (decodeInspect (readsOnly (requestText .balance wholeParams)
        (request .balance wholeParams)) .auto
        (textPayload (requestText .balance wholeParams) wholeParams_short)).run
        (textState (requestText .balance wholeParams) 2) = .ok () after ∧
      ExecRule ⟨2, 65536⟩ (some (ascii "abc")) after.balance.execLayerData after.memory := by
  have requests := requests_request .balance wholeParams 2 wholeParams_short
  obtain ⟨after, returns⟩ := (requests.accepted_iff (.inl rfl)).mpr
    (show Formed Hex.Readable .balance wholeParams by decide +kernel)
  exact ⟨after, returns, (decodeInspect_execRule_iff _ _ .auto _ after .balance _ wholeParams
    requests (.inl rfl) returns (by decide)).mpr (by decide)⟩

/-- A request with an account only leaves the caller's buffer as its execution layer data. -/
theorem accountOnly_not_execRule : ∃ after,
    (decodeInspect (readsOnly (requestText .balance (wholeParams.take 1))
        (request .balance (wholeParams.take 1))) .auto
        (textPayload (requestText .balance (wholeParams.take 1)) (by decide +kernel))).run
        (textState (requestText .balance (wholeParams.take 1)) 8) = .ok () after ∧
      ¬ExecRule ⟨8, 65536⟩ none after.balance.execLayerData after.memory := by
  have requests := requests_request .balance (wholeParams.take 1) 8 (by decide +kernel)
  obtain ⟨after, returns⟩ := (requests.accepted_iff (.inl rfl)).mpr
    (show Formed Hex.Readable .balance (wholeParams.take 1) by decide +kernel)
  have kept : after.balance.execLayerData = ⟨8, 65536⟩ :=
    (requests.accepted (.inl rfl) returns).forgotten (by decide)
  refine ⟨after, returns, ?_⟩
  rw [kept]
  intro null
  exact absurd (show (⟨8, 65536⟩ : AbiBytes) = ⟨0, 0⟩ from null) (by decide)

end Libcma.Parser
