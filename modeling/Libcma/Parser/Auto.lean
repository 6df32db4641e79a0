import Mathlib.Data.List.Nodup
import Libcma.Parser.Decode
import Libcma.Parser.Frame
import Libcma.Parser.Standard

/-!
# Automatic and explicit decoding

With the type AUTO the decoder is the one of the first selector that the payload begins with. The
ten selectors have different bytes, so there is at most one, and each decoder of a withdrawal or
transfer tests its own selector again. `decodeAuto_agrees` compares AUTO with the explicit types.
-/

namespace Libcma.Parser

variable {libcmt : Libcmt} {memory : Memory} {payload : Payload}

/-- What a test of a selector returns. -/
structure Libcmt.Selects (libcmt : Libcmt) : Prop where
  /-- A selector is matched in a buffer that begins with its four bytes. -/
  matched : ∀ memory me a b c d,
    (libcmt.checkFunsel memory me (libcmt.funsel a b c d)).code = 0 ↔
      4 ≤ libcmt.bufLength me ∧ Cells.Holds memory me.begin [a, b, c, d]
  /-- A test that fails leaves the buffer as it is. -/
  kept : ∀ memory me expected, (libcmt.checkFunsel memory me expected).code ≠ 0 →
    (libcmt.checkFunsel memory me expected).out = me

/-- The types of withdrawals and transfers. -/
def InputType.IsCall : InputType → Prop
  | .etherWithdrawal | .erc20Withdrawal | .erc721Withdrawal | .erc1155SingleWithdrawal
  | .erc1155BatchWithdrawal | .etherTransfer | .erc20Transfer | .erc721Transfer
  | .erc1155SingleTransfer | .erc1155BatchTransfer => True
  | _ => False

/-- The selectors of these types, in the order of `cma_parser_decode_advance_auto`. -/
def callFunsels : List (UInt32 × InputType) :=
  [(withdrawEther, .etherWithdrawal), (withdrawErc20, .erc20Withdrawal),
    (withdrawErc721, .erc721Withdrawal), (withdrawErc1155Single, .erc1155SingleWithdrawal),
    (withdrawErc1155Batch, .erc1155BatchWithdrawal), (transferEther, .etherTransfer),
    (transferErc20, .erc20Transfer), (transferErc721, .erc721Transfer),
    (transferErc1155Single, .erc1155SingleTransfer), (transferErc1155Batch, .erc1155BatchTransfer)]

/-- The automatic decoders are the explicit ones. -/
theorem autoDecoders_eq (libcmt : Libcmt) (memory : Memory) :
    autoDecoders libcmt memory =
      callFunsels.map fun entry => (entry.1, decodeAdvance libcmt memory entry.2) := rfl

/-- Every withdrawal and transfer has a selector. -/
theorem exists_callFunsel {type : InputType} (call : type.IsCall) :
    ∃ entry ∈ callFunsels, entry.2 = type := by
  cases type <;> first | exact absurd call id | decide

/-- Every selector is of a withdrawal or a transfer. -/
theorem isCall_of_mem {entry : UInt32 × InputType} (listed : entry ∈ callFunsels) :
    entry.2.IsCall := by
  simp only [callFunsels, List.mem_cons, List.not_mem_nil, or_false] at listed
  rcases listed with rfl | rfl | rfl | rfl | rfl | rfl | rfl | rfl | rfl | rfl <;> trivial

/-- No two selectors have the same bytes. -/
theorem callFunsels_distinct :
    (callFunsels.map fun entry => selectorBytes entry.1).Nodup := by
  decide

/-- The payload begins with the selector, as libcmt tests it. -/
def Selected (libcmt : Libcmt) (memory : Memory) (payload : Payload) (funsel : UInt32) : Prop :=
  (libcmt.checkFunsel memory (libcmt.bufInit payload.length payload.data)
    (convertToCmtFunsel libcmt funsel)).code = 0

instance (libcmt : Libcmt) (memory : Memory) (payload : Payload) (funsel : UInt32) :
    Decidable (Selected libcmt memory payload funsel) := inferInstanceAs (Decidable (_ = _))

/-- A payload begins with the bytes of one selector only. -/
theorem Selected.bytes_eq (selects : libcmt.Selects) {one other : UInt32}
    (first : Selected libcmt memory payload one) (second : Selected libcmt memory payload other) :
    selectorBytes one = selectorBytes other := by
  have here := ((selects.matched memory _ _ _ _ _).mp first).2
  have there := ((selects.matched memory _ _ _ _ _).mp second).2
  apply List.ext_getElem?
  intro index
  by_cases below : index < 4
  · have inside : index < (selectorBytes one).length := below
    have within : index < (selectorBytes other).length := below
    rw [List.getElem?_eq_getElem inside, List.getElem?_eq_getElem within,
      ← here index _ (List.getElem?_eq_getElem inside),
      ← there index _ (List.getElem?_eq_getElem within)]
  · rw [List.getElem?_eq_none (Nat.not_lt.mp below), List.getElem?_eq_none (Nat.not_lt.mp below)]

/-- The first of the decoders runs when its selector is matched, and the others otherwise. -/
theorem decodeFirst_cons (selects : libcmt.Selects)
    (first : UInt32 × (Payload → AdvanceDecoder Unit))
    (rest : List (UInt32 × (Payload → AdvanceDecoder Unit))) :
    decodeFirst libcmt memory payload (libcmt.bufInit payload.length payload.data)
        (first :: rest) =
      if Selected libcmt memory payload first.1 then first.2 payload
      else decodeFirst libcmt memory payload (libcmt.bufInit payload.length payload.data) rest := by
  show (if Selected libcmt memory payload first.1 then _ else _) = _
  by_cases selected : Selected libcmt memory payload first.1
  · rw [if_pos selected, if_pos selected]
  · rw [if_neg selected, if_neg selected, selects.kept memory _ _ selected]

/-- The decoder whose selector the payload begins with is run. -/
theorem decodeFirst_eq (selects : libcmt.Selects)
    {decoders : List (UInt32 × (Payload → AdvanceDecoder Unit))}
    {entry : UInt32 × (Payload → AdvanceDecoder Unit)} (listed : entry ∈ decoders)
    (distinct : decoders.Pairwise fun one other => selectorBytes one.1 ≠ selectorBytes other.1)
    (selected : Selected libcmt memory payload entry.1) :
    decodeFirst libcmt memory payload (libcmt.bufInit payload.length payload.data) decoders =
      entry.2 payload := by
  induction decoders with
  | nil => exact absurd listed List.not_mem_nil
  | cons first rest ih =>
    obtain ⟨apart, others⟩ := List.pairwise_cons.mp distinct
    rw [decodeFirst_cons selects]
    rcases List.mem_cons.mp listed with same | later
    · subst same
      exact if_pos selected
    · have missed : ¬Selected libcmt memory payload first.1 := fun early =>
        apart entry later (early.bytes_eq selects selected)
      rw [if_neg missed]
      exact ih later others

/-- Decoding that returned ran one of the decoders. -/
theorem decodeFirst_returns (selects : libcmt.Selects)
    {decoders : List (UInt32 × (Payload → AdvanceDecoder Unit))} {state after : Session × Members}
    (returns : (decodeFirst libcmt memory payload (libcmt.bufInit payload.length payload.data)
      decoders).run state = .ok () after) :
    ∃ entry ∈ decoders, (entry.2 payload).run state = .ok () after := by
  induction decoders with
  | nil => cases returns
  | cons first rest ih =>
    rw [decodeFirst_cons selects] at returns
    by_cases selected : Selected libcmt memory payload first.1
    · rw [if_pos selected] at returns
      exact ⟨first, List.mem_cons_self, returns⟩
    · rw [if_neg selected] at returns
      obtain ⟨entry, later, run⟩ := ih returns
      exact ⟨entry, List.mem_cons_of_mem first later, run⟩

/-- A test that was passed has the code zero. -/
theorem check_eq_ok {err : Int} {message : String} {session reached : Session} {value : Unit}
    (returns : (check err message).run session = .ok value reached) :
    err = 0 ∧ reached = session := by
  obtain ⟨accepted, kept⟩ := Exec.refuseIf_eq_ok returns
  exact ⟨not_not.mp accepted, kept⟩

/-- A decoder of a single call that returned had its selector matched. -/
theorem decodeCall_selected {funsel : UInt32} {statics : List Static}
    {writeExec : AbiBytes → Members → Members} {type : InputType} {state after : Session × Members}
    (returns : (decodeCall libcmt memory funsel statics writeExec type payload).run state =
      .ok () after) : Selected libcmt memory payload funsel := by
  rw [decodeCall, Exec.bind_run] at returns
  obtain ⟨_, reached, accepted, -⟩ := Outcome.andThen_eq_ok returns
  obtain ⟨session, checked, -⟩ := Outcome.mapState_eq_ok accepted
  exact (check_eq_ok checked).1

/-- A decoder of a batch withdrawal that returned had its selector matched. -/
theorem decodeBatchWithdrawal_selected {session after : Session}
    (returns : (decodeErc1155BatchWithdrawal libcmt memory payload).run session = .ok () after) :
    Selected libcmt memory payload withdrawErc1155Batch := by
  rw [decodeErc1155BatchWithdrawal, Exec.bind_run] at returns
  obtain ⟨_, reached, accepted, -⟩ := Outcome.andThen_eq_ok returns
  exact (check_eq_ok accepted).1

/-- A decoder of a batch transfer that returned had its selector matched. -/
theorem decodeBatchTransfer_selected {session after : Session}
    (returns : (decodeErc1155BatchTransfer libcmt memory payload).run session = .ok () after) :
    Selected libcmt memory payload transferErc1155Batch := by
  rw [decodeErc1155BatchTransfer, Exec.bind_run] at returns
  obtain ⟨_, reached, accepted, -⟩ := Outcome.andThen_eq_ok returns
  exact (check_eq_ok accepted).1

/-- An explicit decoder that returned had its selector matched. -/
theorem decodeAdvance_selected {entry : UInt32 × InputType} (listed : entry ∈ callFunsels)
    {state after : Session × Members}
    (returns : (decodeAdvance libcmt memory entry.2 payload).run state = .ok () after) :
    Selected libcmt memory payload entry.1 := by
  simp only [callFunsels, List.mem_cons, List.not_mem_nil, or_false] at listed
  rcases listed with rfl | rfl | rfl | rfl | rfl | rfl | rfl | rfl | rfl | rfl
  case inr.inr.inr.inr.inl =>
    obtain ⟨session, run, -⟩ := Outcome.mapState_eq_ok returns
    exact decodeBatchWithdrawal_selected run
  case inr.inr.inr.inr.inr.inr.inr.inr.inr =>
    obtain ⟨session, run, -⟩ := Outcome.mapState_eq_ok returns
    exact decodeBatchTransfer_selected run
  all_goals
    simp only [decodeAdvance, decodeEtherWithdrawal, decodeErc20Withdrawal, decodeErc721Withdrawal,
      decodeErc1155SingleWithdrawal, decodeEtherTransfer, decodeErc20Transfer, decodeErc721Transfer,
      decodeErc1155SingleTransfer] at returns
    exact decodeCall_selected returns

/-- AUTO returns exactly what an explicit withdrawal or transfer type returns, and no two such types
return on the same payload. -/
theorem decodeAuto_agrees (libcmt : Libcmt) (selects : libcmt.Selects) (memory : Memory)
    (payload : Payload) (state : Session × Members) :
    (∀ after, (decodeAdvance libcmt memory .auto payload).run state = .ok () after ↔
      ∃ type : InputType, type.IsCall ∧
        (decodeAdvance libcmt memory type payload).run state = .ok () after) ∧
    ∀ (one other : InputType) (first second : Session × Members), one.IsCall → other.IsCall →
      (decodeAdvance libcmt memory one payload).run state = .ok () first →
      (decodeAdvance libcmt memory other payload).run state = .ok () second → one = other := by
  constructor
  · intro after
    show (decodeFirst libcmt memory payload _ _).run state = _ ↔ _
    rw [autoDecoders_eq]
    constructor
    · intro returns
      obtain ⟨decoder, listed, run⟩ := decodeFirst_returns selects returns
      obtain ⟨entry, member, rfl⟩ := List.mem_map.mp listed
      exact ⟨entry.2, isCall_of_mem member, run⟩
    · rintro ⟨type, call, run⟩
      obtain ⟨entry, member, rfl⟩ := exists_callFunsel call
      have selected := decodeAdvance_selected member run
      have listed : (entry.1, decodeAdvance libcmt memory entry.2) ∈
          callFunsels.map fun entry => (entry.1, decodeAdvance libcmt memory entry.2) :=
        List.mem_map_of_mem member
      have apart := List.pairwise_map.mp callFunsels_distinct
      have found := decodeFirst_eq selects listed (List.pairwise_map.mpr apart) selected
      rw [found]
      exact run
  · intro one other first second oneCall otherCall oneRun otherRun
    obtain ⟨early, earlyListed, rfl⟩ := exists_callFunsel oneCall
    obtain ⟨late, lateListed, rfl⟩ := exists_callFunsel otherCall
    have bytes := (decodeAdvance_selected earlyListed oneRun).bytes_eq selects
      (decodeAdvance_selected lateListed otherRun)
    rw [List.inj_on_of_nodup_map callFunsels_distinct earlyListed lateListed bytes]

/-- The reference test of a selector. -/
theorem reference_checkFunsel (memory : Memory) (me : Buf) (expected : UInt32) :
    Libcmt.reference.checkFunsel memory me expected =
      if me.stop - me.begin < 4 then ⟨-enobufs, me⟩
      else if Libcmt.reference.selector memory me = expected.toNat then
        ⟨0, ⟨me.begin + 4, me.stop⟩⟩
      else ⟨-Libcmt.reference.ebadmsg, me⟩ := rfl

/-- The reference tests of selectors. -/
theorem Libcmt.reference_selects : Libcmt.reference.Selects where
  matched memory me a b c d := by
    rw [reference_checkFunsel, Libcmt.reference_documented.bufLength, ← selector_eq_iff,
      ← BitVec.not_lt]
    by_cases short : me.stop - me.begin < 4
    · rw [if_pos short]
      exact iff_of_false (show ¬-enobufs = 0 by decide) fun both => both.1 short
    · rw [if_neg short, and_iff_right short]
      by_cases same : Libcmt.reference.selector memory me =
        (Libcmt.reference.funsel a b c d).toNat
      · rw [if_pos same]
        exact iff_of_true rfl same
      · rw [if_neg same]
        exact iff_of_false (show ¬-Libcmt.reference.ebadmsg = 0 by decide) same
  kept memory me expected fails := by
    rw [reference_checkFunsel] at fails ⊢
    by_cases short : me.stop - me.begin < 4
    · rw [if_pos short]
    · rw [if_neg short] at fails ⊢
      by_cases same : Libcmt.reference.selector memory me = expected.toNat
      · rw [if_pos same] at fails
        exact absurd rfl fails
      · rw [if_neg same]

/-- AUTO decodes the batch withdrawal as its type does. -/
theorem withdrawal_decodedAuto : ∃ after,
    (decodeAdvance Libcmt.reference (withdrawalAt 1 128 128) .erc1155BatchWithdrawal
        withdrawalPayload).run (⟨.zero, []⟩, .zero) = .ok () after ∧
      (decodeAdvance Libcmt.reference (withdrawalAt 1 128 128) .auto withdrawalPayload).run
        (⟨.zero, []⟩, .zero) = .ok () after := by
  have accepted : ((decodeBatch Libcmt.reference (withdrawalAt 1 128 128) .withdrawal
      withdrawalPayload).run ⟨.zero, []⟩).Satisfies (fun _ _ => True) fun _ _ => False := by
    decide +kernel
  have defined := decodeBatch_total Libcmt.reference (withdrawalAt 1 128 128) .withdrawal
    withdrawalPayload ⟨.zero, []⟩
  cases decoded : (decodeBatch Libcmt.reference (withdrawalAt 1 128 128) .withdrawal
      withdrawalPayload).run ⟨.zero, []⟩ with
  | ok value session =>
    have run : (decodeAdvance Libcmt.reference (withdrawalAt 1 128 128) .erc1155BatchWithdrawal
        withdrawalPayload).run (⟨.zero, []⟩, .zero) = .ok () (session, .zero) :=
      congrArg (Outcome.mapState fun first => (first, Members.zero)) decoded
    have agrees := decodeAuto_agrees Libcmt.reference Libcmt.reference_selects
      (withdrawalAt 1 128 128) withdrawalPayload (⟨.zero, []⟩, .zero)
    exact ⟨_, run, (agrees.1 _).mpr ⟨.erc1155BatchWithdrawal, trivial, run⟩⟩
  | throw error session =>
    rw [decoded] at accepted
    exact absurd accepted id
  | undefined =>
    rw [decoded] at defined
    exact absurd defined id

end Libcma.Parser
