import Libcma.Parser.Lists

/-!
# Batch decoders and their frame

The frame of a batch input is its payload after the packed addresses or the selector. A decoder
stays in the frame when every length word it reads, and every element of the lists it returns, has
all its bytes there. `decodeBatch_traced` follows the three decoders up to the list reads: which
length words they read, from the offset words of the payload alone. The decoder stays in the frame
exactly when no offset it comes to wraps.
-/

namespace Libcma.Parser

/-- The payload without the two packed addresses, or without the selector. -/
def Payload.frame (payload : Payload) (kind : BatchKind) : Buf :=
  match kind with
  | .deposit => ⟨payload.data + 40, payload.data + payload.length⟩
  | .withdrawal => ⟨payload.data + 4, payload.data + payload.length⟩
  | .transfer => ⟨payload.data + 4, payload.data + payload.length⟩

/-- The first offset word: behind the token of a withdrawal, and the token and the receiver of a
transfer. -/
def Payload.offsetsAt (payload : Payload) (kind : BatchKind) : Pointer :=
  match kind with
  | .deposit => payload.data + 40
  | .withdrawal => payload.data + 36
  | .transfer => payload.data + 68

/-- Where the token ids of a payload are. -/
def tokenIdsOffset (memory : Memory) (kind : BatchKind) (payload : Payload) : ℕ :=
  memory.word (payload.offsetsAt kind)

/-- Where the amounts of a payload are. -/
def amountsOffset (memory : Memory) (kind : BatchKind) (payload : Payload) : ℕ :=
  memory.word (payload.offsetsAt kind + 32)

/-- Words can be taken one after another up to an address, as addresses. -/
def WordsFit (stop : Pointer) : ℕ → Pointer → Prop
  | 0, _ => True
  | count + 1, start => start + 32 ≤ stop ∧ WordsFit stop count (start + 32)

/-- The static words before the offset words are read. -/
def StaticRead (libcmt : Libcmt) (memory : Memory) (kind : BatchKind) (payload : Payload) : Prop :=
  let whole : Buf := ⟨payload.data, payload.data + payload.length⟩
  let frame := payload.frame kind
  match kind with
  | .deposit => 40 ≤ payload.length.toNat
  | .withdrawal =>
    (libcmt.checkFunsel memory whole (convertToCmtFunsel libcmt withdrawErc1155Batch)).code = 0 ∧
      (libcmt.getAddress memory frame).code = 0
  | .transfer =>
    (libcmt.checkFunsel memory whole (convertToCmtFunsel libcmt transferErc1155Batch)).code = 0 ∧
      (libcmt.getAddress memory frame).code = 0 ∧
      (libcmt.getUint256 memory ⟨frame.begin + 32, frame.stop⟩).code = 0

/-- The number of offset words: the two lists and the byte strings. -/
def BatchKind.offsets : BatchKind → ℕ
  | .deposit => 4
  | .withdrawal => 3
  | .transfer => 3

/-- The decoder comes to its lists. -/
def HeadRead (libcmt : Libcmt) (memory : Memory) (kind : BatchKind) (payload : Payload) : Prop :=
  StaticRead libcmt memory kind payload ∧
    WordsFit (payload.frame kind).stop kind.offsets (payload.offsetsAt kind)

/-- No offset that the decoder comes to wraps: the token ids' when the head is read, the amounts'
when the token ids are there. -/
def NoOffsetWraps (libcmt : Libcmt) (memory : Memory) (kind : BatchKind) (payload : Payload) :
    Prop :=
  HeadRead libcmt memory kind payload →
    ¬Wraps (payload.frame kind) (tokenIdsOffset memory kind payload) ∧
      (ListThere memory (payload.frame kind) (tokenIdsOffset memory kind payload) →
        ¬Wraps (payload.frame kind) (amountsOffset memory kind payload))

/-- The lists a decoder of a kind writes. -/
def ParserInput.lists (input : ParserInput) (kind : BatchKind) : List U256List :=
  match kind with
  | .deposit => [input.erc1155BatchDeposit.tokenIds, input.erc1155BatchDeposit.amounts]
  | .withdrawal => [input.erc1155BatchWithdrawal.tokenIds, input.erc1155BatchWithdrawal.amounts]
  | .transfer => [input.erc1155BatchTransfer.tokenIds, input.erc1155BatchTransfer.amounts]

/-- Every length word that was read lies in the frame. -/
def LengthsInFrame (frame : Buf) (session : Session) : Prop :=
  ∀ word ∈ session.lengthWords, frame.Covers word.begin 32

instance (frame : Buf) (session : Session) : Decidable (LengthsInFrame frame session) :=
  inferInstanceAs (Decidable (∀ word ∈ _, _))

/-- Every element of the lists lies in the frame. -/
def ListsInFrame (frame : Buf) (lists : List U256List) : Prop :=
  ∀ list ∈ lists, frame.Covers list.data (32 * list.length.toNat)

instance (frame : Buf) (lists : List U256List) : Decidable (ListsInFrame frame lists) :=
  inferInstanceAs (Decidable (∀ list ∈ _, _))

/-- The length words that a decoder reads lie in its frame, and so do the lists it returns. -/
def StaysInFrame (libcmt : Libcmt) (memory : Memory) (kind : BatchKind) (payload : Payload)
    (input : ParserInput) : Prop :=
  ((decodeBatch libcmt memory kind payload).run ⟨input, []⟩).Satisfies
    (fun _ session => LengthsInFrame (payload.frame kind) session ∧
      ListsInFrame (payload.frame kind) (session.input.lists kind))
    fun _ session => LengthsInFrame (payload.frame kind) session

instance (libcmt : Libcmt) (memory : Memory) (kind : BatchKind) (payload : Payload)
    (input : ParserInput) : Decidable (StaysInFrame libcmt memory kind payload input) :=
  inferInstanceAs (Decidable (Outcome.Satisfies _ _ _))

/-- The words read as lengths by the two list reads. -/
def lengthWordsOf (memory : Memory) (frame : Buf) (tokenIds amounts : ℕ) : List Buf :=
  lengthWord frame tokenIds ++
    if ListThere memory frame tokenIds then lengthWord frame amounts else []

section

variable {libcmt : Libcmt} {memory : Memory} {session : Session}

/-- What a check requires. -/
theorem satisfies_check (ensures : Unit → Session → Prop) (raises : CmaException → Session → Prop)
    (err : Int) (message : String) (session : Session) :
    ((check err message).run session).Satisfies ensures raises ↔
      (err ≠ 0 → raises ⟨message, err⟩ session) ∧ (err = 0 → ensures () session) := by
  rw [check, Exec.satisfies_refuseIf, not_not]

/-- What a write requires. -/
theorem satisfies_store (ensures : Unit → Session → Prop) (raises : CmaException → Session → Prop)
    (change : ParserInput → ParserInput) (session : Session) :
    ((store change).run session).Satisfies ensures raises ↔
      ensures () { session with input := change session.input } := .rfl

/-- A packed address is taken from a buffer that holds it. -/
theorem getAddressPacked_satisfies (documented : libcmt.Documented) {buf : Buf}
    (ordered : buf.begin ≤ buf.stop) {ensures : Address × Buf → Session → Prop}
    {raises : CmaException → Session → Prop}
    (short : (buf.stop - buf.begin).toNat < 20 → ∀ error, raises error session)
    (taken : 20 ≤ (buf.stop - buf.begin).toNat →
      ensures (memory.bytes buf.begin addressLength, ⟨buf.begin + 20, buf.stop⟩) session) :
    ((getAddressPacked libcmt memory buf).run session).Satisfies ensures raises := by
  simp only [getAddressPacked, getBytes, Exec.satisfies_bind, Exec.satisfies_refuseIf,
    Exec.satisfies_pure, documented.bufLength]
  refine ⟨fun lacking => short lacking _, fun enough => ?_⟩
  refine ⟨fun lacking => short lacking _, fun _ => ?_⟩
  have long : 20 ≤ (buf.stop - buf.begin).toNat := Nat.not_lt.mp enough
  have split : (libcmt.bufSplit buf (BitVec.ofNat 64 addressLength)).code = 0 := by
    rw [documented.bufSplit_code]
    show buf.begin + 20 ≤ buf.stop
    bv_omega
  rw [documented.bufSplit_out _ _ split]
  exact taken long

/-- Reading both lists reads the length words of both, and returns when both are there. -/
theorem getBatchLists_satisfies (documented : libcmt.Documented) {frame : Buf}
    {first second : Pointer}
    {storeTokenIds storeAmounts : U256List → ParserInput → ParserInput}
    {ensures : Unit → Session → Prop} {raises : CmaException → Session → Prop}
    (thrown : ∀ error input, raises error ⟨input,
      session.lengthWords ++ lengthWordsOf memory frame (memory.word first) (memory.word second)⟩)
    (returned : ListThere memory frame (memory.word first) →
      ListThere memory frame (memory.word second) →
      ensures () ⟨storeAmounts (listAt memory frame (memory.word second))
        (storeTokenIds (listAt memory frame (memory.word first)) session.input),
        session.lengthWords ++
          lengthWordsOf memory frame (memory.word first) (memory.word second)⟩) :
    ((getBatchLists libcmt memory frame ⟨first, first + 32⟩ ⟨second, second + 32⟩ storeTokenIds
      storeAmounts).run session).Satisfies ensures raises := by
  obtain ⟨tokenIds, tokenIdsRun, tokenIdsCode, tokenIdsOut⟩ :=
    getUint256List_run documented memory frame first session
  rw [getBatchLists, Exec.satisfies_bind, tokenIdsRun,
    Outcome.satisfies_ok, Exec.satisfies_bind, satisfies_check]
  constructor
  · intro refused
    have absent := fun found => refused (tokenIdsCode.mpr found)
    have words := thrown ⟨"Error getting base bytes", tokenIds.code⟩ session.input
    rw [lengthWordsOf, if_neg absent, List.append_nil] at words
    exact words
  · intro accepted
    have found := tokenIdsCode.mp accepted
    rw [Exec.satisfies_bind, satisfies_store, Exec.satisfies_bind]
    obtain ⟨amounts, amountsRun, amountsCode, amountsOut⟩ :=
      getUint256List_run documented memory frame second
        ⟨storeTokenIds tokenIds.out session.input,
          session.lengthWords ++ lengthWord frame (memory.word first)⟩
    rw [lengthWordsOf, if_pos found, ← List.append_assoc] at thrown returned
    rw [amountsRun, Outcome.satisfies_ok, Exec.satisfies_bind, satisfies_check]
    constructor
    · intro refused
      exact thrown _ _
    · intro settled
      rw [Exec.satisfies_bind, satisfies_store, Exec.satisfies_refuseIf]
      constructor
      · intro mismatched
        exact thrown _ _
      · intro matched
        have both := returned found (amountsCode.mp settled)
        rw [← tokenIdsOut accepted, ← amountsOut settled] at both
        exact both

/-- An offset word is taken where a word fits. -/
theorem getBytesS_code_iff (documented : libcmt.Documented) (me : Buf) :
    (libcmt.getBytesS me).code = 0 ↔ me.begin + 32 ≤ me.stop := by
  rw [documented.getBytesS, documented.bufSplit_code]

/-- The offset word taken, and the buffer after it. -/
theorem getBytesS_out (documented : libcmt.Documented) {me : Buf}
    (taken : (libcmt.getBytesS me).code = 0) :
    (libcmt.getBytesS me).out = ⟨⟨me.begin, me.begin + 32⟩, ⟨me.begin + 32, me.stop⟩⟩ := by
  rw [documented.getBytesS] at taken ⊢
  exact documented.bufSplit_out me 32 taken

/-- The words a decoder has read when it ends: both lists' length words once the head is read, and
nothing before. -/
def Traced (libcmt : Libcmt) (memory : Memory) (kind : BatchKind) (payload : Payload)
    (words : List Buf) : Prop :=
  (HeadRead libcmt memory kind payload → words = lengthWordsOf memory (payload.frame kind)
    (tokenIdsOffset memory kind payload) (amountsOffset memory kind payload)) ∧
  (¬HeadRead libcmt memory kind payload → words = [])

/-- A decoder that returns has read its head and found both lists. -/
def Returns (libcmt : Libcmt) (memory : Memory) (kind : BatchKind) (payload : Payload)
    (session : Session) : Prop :=
  Traced libcmt memory kind payload session.lengthWords ∧ HeadRead libcmt memory kind payload ∧
    ListThere memory (payload.frame kind) (tokenIdsOffset memory kind payload) ∧
    ListThere memory (payload.frame kind) (amountsOffset memory kind payload) ∧
    session.input.lists kind =
      [listAt memory (payload.frame kind) (tokenIdsOffset memory kind payload),
        listAt memory (payload.frame kind) (amountsOffset memory kind payload)]

/-- Nothing is read while the head is not. -/
theorem traced_nil {kind : BatchKind} {payload : Payload}
    (unread : ¬HeadRead libcmt memory kind payload) : Traced libcmt memory kind payload [] :=
  ⟨fun read => absurd read unread, fun _ => rfl⟩

/-- Both lists' length words are read once the head is. -/
theorem traced_head {kind : BatchKind} {payload : Payload}
    (head : HeadRead libcmt memory kind payload) :
    Traced libcmt memory kind payload ([] ++ lengthWordsOf memory (payload.frame kind)
      (memory.word (payload.offsetsAt kind)) (memory.word (payload.offsetsAt kind + 32))) := by
  rw [List.nil_append]
  exact ⟨fun _ => rfl, fun unread => absurd head unread⟩

/-- Taking the offset words and reading behind them: nothing is read when the words do not fit. -/
theorem getListsAndExec_satisfies (documented : libcmt.Documented) {frame : Buf}
    {start stop : Pointer} {storeTokenIds storeAmounts : U256List → ParserInput → ParserInput}
    {storeExec : AbiBytes → ParserInput → ParserInput} {ensures : Unit → Session → Prop}
    {raises : CmaException → Session → Prop}
    (short : ¬WordsFit stop 3 start → ∀ error, raises error session)
    (thrown : WordsFit stop 3 start → ∀ error input, raises error ⟨input, session.lengthWords ++
      lengthWordsOf memory frame (memory.word start) (memory.word (start + 32))⟩)
    (returned : WordsFit stop 3 start → ListThere memory frame (memory.word start) →
      ListThere memory frame (memory.word (start + 32)) → ∀ exec,
      ensures () ⟨storeExec exec (storeAmounts (listAt memory frame (memory.word (start + 32)))
        (storeTokenIds (listAt memory frame (memory.word start)) session.input)),
        session.lengthWords ++
          lengthWordsOf memory frame (memory.word start) (memory.word (start + 32))⟩) :
    ((getListsAndExec libcmt memory frame ⟨start, stop⟩ storeTokenIds storeAmounts
      storeExec).run session).Satisfies ensures raises := by
  simp only [getListsAndExec, Exec.satisfies_bind, satisfies_check, satisfies_store,
    getBytesS_code_iff documented, ne_eq]
  refine ⟨fun refused => short (fun fit => refused fit.1) _, fun first => ?_⟩
  rw [getBytesS_out documented ((getBytesS_code_iff documented _).mpr first)]
  refine ⟨fun refused => short (fun fit => refused fit.2.1) _, fun second => ?_⟩
  rw [getBytesS_out documented ((getBytesS_code_iff documented _).mpr second)]
  refine ⟨fun refused => short (fun fit => refused fit.2.2.1) _, fun third => ?_⟩
  have fit : WordsFit stop 3 start := ⟨first, second, third, trivial⟩
  apply getBatchLists_satisfies documented
  · intro error input
    exact thrown fit error input
  · intro foundTokenIds foundAmounts
    constructor
    · intro refused
      exact thrown fit _ _
    · intro accepted
      exact returned fit foundTokenIds foundAmounts _

/-- What a withdrawal reads. -/
theorem withdrawal_traced (documented : libcmt.Documented) (memory : Memory) (payload : Payload)
    (input : ParserInput) :
    ((decodeErc1155BatchWithdrawal libcmt memory payload).run ⟨input, []⟩).Satisfies
      (fun _ session => Returns libcmt memory .withdrawal payload session)
      fun _ session => Traced libcmt memory .withdrawal payload session.lengthWords := by
  have offsetsAt : payload.data + 4 + 32 = payload.offsetsAt .withdrawal := by
    rw [BitVec.add_assoc]
    rfl
  simp only [decodeErc1155BatchWithdrawal, documented.bufInit, documented.markFrame,
    Exec.satisfies_bind, satisfies_check, satisfies_store]
  refine ⟨fun refused => traced_nil fun head => refused head.1.1, fun selected => ?_⟩
  rw [(documented.checkFunsel _ _ _ selected).2]
  refine ⟨fun unmarked => absurd rfl unmarked, fun _ => ?_⟩
  refine ⟨fun refused => traced_nil fun head => refused head.1.2, fun token => ?_⟩
  have word := documented.getAddress _ _ token
  rw [word.2, documented.bufSplit_out _ _ word.1]
  show Outcome.Satisfies _ _ ((getListsAndExec libcmt memory (payload.frame .withdrawal)
    ⟨payload.data + 4 + 32, (payload.frame .withdrawal).stop⟩ _ _ _).run _)
  rw [offsetsAt]
  apply getListsAndExec_satisfies documented
  · intro short error
    exact traced_nil fun head => short head.2
  · intro fit error input
    exact traced_head ⟨⟨selected, token⟩, fit⟩
  · intro fit foundTokenIds foundAmounts exec
    have head : HeadRead libcmt memory .withdrawal payload := ⟨⟨selected, token⟩, fit⟩
    exact ⟨traced_head head, head, foundTokenIds, foundAmounts, rfl⟩

/-- What a transfer reads. -/
theorem transfer_traced (documented : libcmt.Documented) (memory : Memory) (payload : Payload)
    (input : ParserInput) :
    ((decodeErc1155BatchTransfer libcmt memory payload).run ⟨input, []⟩).Satisfies
      (fun _ session => Returns libcmt memory .transfer payload session)
      fun _ session => Traced libcmt memory .transfer payload session.lengthWords := by
  have offsetsAt : payload.data + 4 + 32 + 32 = payload.offsetsAt .transfer := by
    rw [BitVec.add_assoc, BitVec.add_assoc]
    rfl
  simp only [decodeErc1155BatchTransfer, documented.bufInit, documented.markFrame,
    Exec.satisfies_bind, satisfies_check, satisfies_store]
  refine ⟨fun refused => traced_nil fun head => refused head.1.1, fun selected => ?_⟩
  rw [(documented.checkFunsel _ _ _ selected).2]
  refine ⟨fun unmarked => absurd rfl unmarked, fun _ => ?_⟩
  refine ⟨fun refused => traced_nil fun head => refused head.1.2.1, fun token => ?_⟩
  have word := documented.getAddress _ _ token
  rw [word.2, documented.bufSplit_out _ _ word.1]
  refine ⟨fun refused => traced_nil fun head => refused head.1.2.2, fun receiver => ?_⟩
  have next := documented.getUint256 _ _ receiver
  rw [next.2, documented.bufSplit_out _ _ next.1]
  show Outcome.Satisfies _ _ ((getListsAndExec libcmt memory (payload.frame .transfer)
    ⟨payload.data + 4 + 32 + 32, (payload.frame .transfer).stop⟩ _ _ _).run _)
  rw [offsetsAt]
  apply getListsAndExec_satisfies documented
  · intro short error
    exact traced_nil fun head => short head.2
  · intro fit error input
    exact traced_head ⟨⟨selected, token, receiver⟩, fit⟩
  · intro fit foundTokenIds foundAmounts exec
    have head : HeadRead libcmt memory .transfer payload := ⟨⟨selected, token, receiver⟩, fit⟩
    exact ⟨traced_head head, head, foundTokenIds, foundAmounts, rfl⟩

/-- What a deposit reads. -/
theorem deposit_traced (documented : libcmt.Documented) (memory : Memory) (payload : Payload)
    (input : ParserInput) :
    ((decodeErc1155BatchDeposit libcmt memory payload).run ⟨input, []⟩).Satisfies
      (fun _ session => Returns libcmt memory .deposit payload session)
      fun _ session => Traced libcmt memory .deposit payload session.lengthWords := by
  have fits := payload.fits
  have offsetsAt : payload.data + 20 + 20 = payload.offsetsAt .deposit := by
    rw [BitVec.add_assoc]
    rfl
  have whole : payload.data ≤ payload.data + payload.length := by bv_omega
  simp only [decodeErc1155BatchDeposit, documented.bufInit, documented.bufLength,
    documented.markFrame, Exec.satisfies_bind, satisfies_check, satisfies_store, ne_eq]
  apply getAddressPacked_satisfies documented whole
  case short =>
    intro lacking error
    apply traced_nil
    intro head
    have long : 40 ≤ payload.length.toNat := head.1
    change (payload.data + payload.length - payload.data).toNat < 20 at lacking
    bv_omega
  case taken =>
    intro token
    change 20 ≤ (payload.data + payload.length - payload.data).toNat at token
    have rest : payload.data + 20 ≤ payload.data + payload.length := by bv_omega
    apply getAddressPacked_satisfies documented rest
    case short =>
      intro lacking error
      apply traced_nil
      intro head
      have long : 40 ≤ payload.length.toNat := head.1
      change (payload.data + payload.length - (payload.data + 20)).toNat < 20 at lacking
      bv_omega
    case taken =>
      intro sender
      change 20 ≤ (payload.data + payload.length - (payload.data + 20)).toNat at sender
      have long : 40 ≤ payload.length.toNat := by bv_omega
      have stop : payload.offsetsAt .deposit +
          (payload.data + payload.length - payload.offsetsAt .deposit) =
          payload.data + payload.length := by bv_omega
      dsimp only
      rw [offsetsAt, stop]
      refine ⟨fun unmarked => absurd trivial unmarked, fun _ => ?_⟩
      have word := getBytesS_code_iff documented
      refine ⟨fun refused => traced_nil fun head => refused ((word _).mpr head.2.1),
        fun first => ?_⟩
      rw [getBytesS_out documented first]
      refine ⟨fun refused => traced_nil fun head => refused ((word _).mpr head.2.2.1),
        fun second => ?_⟩
      rw [getBytesS_out documented second]
      refine ⟨fun refused => traced_nil fun head => refused ((word _).mpr head.2.2.2.1),
        fun third => ?_⟩
      rw [getBytesS_out documented third]
      refine ⟨fun refused => traced_nil fun head => refused ((word _).mpr head.2.2.2.2.1),
        fun fourth => ?_⟩
      have one := (word _).mp first
      have two := (word _).mp second
      have three := (word _).mp third
      have four := (word _).mp fourth
      have head : HeadRead libcmt memory .deposit payload :=
        ⟨long, one, two, three, four, trivial⟩
      have frame : (⟨payload.offsetsAt .deposit, payload.data + payload.length⟩ : Buf) =
          payload.frame .deposit := rfl
      rw [frame]
      apply getBatchLists_satisfies documented
      case thrown =>
        intro error input
        exact traced_head head
      case returned =>
        intro foundTokenIds foundAmounts
        refine ⟨fun refused => traced_head head, fun base => ?_⟩
        refine ⟨fun refused => traced_head head, fun exec => ?_⟩
        exact ⟨traced_head head, head, foundTokenIds, foundAmounts, rfl⟩

/-- What a decoder reads, and what it has found when it returns. -/
theorem decodeBatch_traced (documented : libcmt.Documented) (memory : Memory) (kind : BatchKind)
    (payload : Payload) (input : ParserInput) :
    ((decodeBatch libcmt memory kind payload).run ⟨input, []⟩).Satisfies
      (fun _ session => Returns libcmt memory kind payload session)
      fun _ session => Traced libcmt memory kind payload session.lengthWords := by
  cases kind with
  | deposit => exact deposit_traced documented memory payload input
  | withdrawal => exact withdrawal_traced documented memory payload input
  | transfer => exact transfer_traced documented memory payload input

/-- A check has no undefined behaviour. -/
theorem check_total (err : Int) (message : String) : (check err message).Total :=
  Exec.Total.refuseIf _ _

/-- A write has no undefined behaviour. -/
theorem store_total (change : ParserInput → ParserInput) : (store change).Total :=
  Exec.Total.update _

/-- Taking a packed address has no undefined behaviour. -/
theorem getAddressPacked_total (libcmt : Libcmt) (memory : Memory) (buf : Buf) :
    (getAddressPacked libcmt memory buf).Total :=
  .bind (.refuseIf _ _) fun _ => .bind (.bind (.refuseIf _ _) fun _ => .pure _) fun _ => .pure _

/-- Reading both lists has no undefined behaviour. -/
theorem getBatchLists_total (libcmt : Libcmt) (memory : Memory) (frame first second : Buf)
    (storeTokenIds storeAmounts : U256List → ParserInput → ParserInput) :
    (getBatchLists libcmt memory frame first second storeTokenIds storeAmounts).Total :=
  .bind (getUint256List_total libcmt memory frame first) fun _ =>
    .bind (check_total _ _) fun _ => .bind (store_total _) fun _ =>
    .bind (getUint256List_total libcmt memory frame second) fun _ =>
    .bind (check_total _ _) fun _ => .bind (store_total _) fun _ => .refuseIf _ _

/-- Reading behind the offset words has no undefined behaviour. -/
theorem getListsAndExec_total (libcmt : Libcmt) (memory : Memory) (frame buf : Buf)
    (storeTokenIds storeAmounts : U256List → ParserInput → ParserInput)
    (storeExec : AbiBytes → ParserInput → ParserInput) :
    (getListsAndExec libcmt memory frame buf storeTokenIds storeAmounts storeExec).Total :=
  .bind (check_total _ _) fun _ => .bind (check_total _ _) fun _ => .bind (check_total _ _) fun _ =>
    .bind (getBatchLists_total libcmt memory frame _ _ _ _) fun _ =>
    .bind (check_total _ _) fun _ => store_total _

/-- A decoder has no undefined behaviour. -/
theorem decodeBatch_total (libcmt : Libcmt) (memory : Memory) (kind : BatchKind)
    (payload : Payload) : (decodeBatch libcmt memory kind payload).Total := by
  cases kind with
  | deposit =>
    exact .bind (getAddressPacked_total libcmt memory _) fun _ => .bind (store_total _) fun _ =>
      .bind (getAddressPacked_total libcmt memory _) fun _ => .bind (store_total _) fun _ =>
      .bind (check_total _ _) fun _ => .bind (check_total _ _) fun _ =>
      .bind (check_total _ _) fun _ => .bind (check_total _ _) fun _ =>
      .bind (check_total _ _) fun _ => .bind (getBatchLists_total libcmt memory _ _ _ _ _) fun _ =>
      .bind (check_total _ _) fun _ => .bind (store_total _) fun _ =>
      .bind (check_total _ _) fun _ => .bind (store_total _) fun _ => store_total _
  | withdrawal =>
    exact .bind (check_total _ _) fun _ => .bind (check_total _ _) fun _ =>
      .bind (check_total _ _) fun _ => .bind (store_total _) fun _ =>
      .bind (getListsAndExec_total libcmt memory _ _ _ _ _) fun _ => store_total _
  | transfer =>
    exact .bind (check_total _ _) fun _ => .bind (check_total _ _) fun _ =>
      .bind (check_total _ _) fun _ => .bind (store_total _) fun _ =>
      .bind (check_total _ _) fun _ => .bind (store_total _) fun _ =>
      .bind (getListsAndExec_total libcmt memory _ _ _ _ _) fun _ => store_total _

/-- The length words of both lists lie in the frame exactly when neither offset wraps. -/
theorem lengthWordsOf_covered_iff {frame : Buf} {tokenIds amounts : ℕ} :
    (∀ word ∈ lengthWordsOf memory frame tokenIds amounts, frame.Covers word.begin 32) ↔
      ¬Wraps frame tokenIds ∧ (ListThere memory frame tokenIds → ¬Wraps frame amounts) := by
  have covered : ∀ offset, (∀ word ∈ lengthWord frame offset, frame.Covers word.begin 32) ↔
      ¬Wraps frame offset := by
    intro offset
    rw [lengthWord]
    by_cases read : LengthRead frame offset
    case pos => simp [read, covers_lengthAt_iff read]
    case neg =>
      have straight : ¬Wraps frame offset := fun wraps => read wraps.lengthRead
      simp [read, straight]
  rw [lengthWordsOf]
  by_cases found : ListThere memory frame tokenIds
  case pos => simp [found, ← covered, or_imp, forall_and]
  case neg => simp [found, ← covered]

end

/-- A decoder stays in its frame exactly when no offset it comes to wraps around the address
space. -/
theorem staysInFrame_iff (libcmt : Libcmt) (memory : Memory) (kind : BatchKind) (payload : Payload)
    (input : ParserInput) (documented : libcmt.Documented) :
    StaysInFrame libcmt memory kind payload input ↔
      NoOffsetWraps libcmt memory kind payload := by
  have traced := decodeBatch_traced documented memory kind payload input
  constructor
  · intro stays head
    have both : ((decodeBatch libcmt memory kind payload).run ⟨input, []⟩).Satisfies
        (fun _ session => LengthsInFrame (payload.frame kind) session ∧
          Traced libcmt memory kind payload session.lengthWords)
        fun _ session => LengthsInFrame (payload.frame kind) session ∧
          Traced libcmt memory kind payload session.lengthWords := by
      apply (Outcome.Satisfies.and stays traced).mono
      · intro _ session holds
        exact ⟨holds.1.1, holds.2.1⟩
      · intro _ session holds
        exact holds
    obtain ⟨session, inside, read⟩ :=
      both.exists_state (decodeBatch_total libcmt memory kind payload _)
    rw [LengthsInFrame, read.1 head] at inside
    exact lengthWordsOf_covered_iff.mp inside
  · intro straight
    have inside : ∀ session : Session, Traced libcmt memory kind payload session.lengthWords →
        LengthsInFrame (payload.frame kind) session := by
      intro session read
      by_cases head : HeadRead libcmt memory kind payload
      case pos =>
        rw [LengthsInFrame, read.1 head]
        exact lengthWordsOf_covered_iff.mpr (straight head)
      case neg =>
        rw [LengthsInFrame, read.2 head]
        intro word absent
        exact absurd absent List.not_mem_nil
    apply traced.mono
    · intro _ session returns
      obtain ⟨read, head, tokenIds, amounts, lists⟩ := returns
      have both := straight head
      constructor
      · exact inside session read
      · intro list member
        rw [lists] at member
        rcases List.mem_pair.mp member with rfl | rfl
        · exact covers_listAt tokenIds both.1
        · exact covers_listAt amounts (both.2 tokenIds)
    · intro _ session read
      exact inside session read

/-- A memory that holds one word before address 4096, and a withdrawal from there on: a selector, a
zero token, two list offsets, an offset to the empty execution layer data, and its length. -/
def withdrawalAt (before tokenIds amounts : ℕ) : Memory := fun address =>
  let words := Bytes.listOf 32 0 ++ Bytes.listOf 32 tokenIds ++ Bytes.listOf 32 amounts ++
    Bytes.listOf 32 128 ++ Bytes.listOf 32 0
  (Bytes.listOf 32 before ++ [0x50, 0xc8, 0x00, 0x19] ++ words).getD (address.toNat - 4064) 0

/-- Where that withdrawal is. -/
def withdrawalPayload : Payload := ⟨164, 4096, by decide⟩

/-- A withdrawal whose lists share the empty length at the end stays in its frame. -/
theorem staysInFrame_reference :
    StaysInFrame Libcmt.reference (withdrawalAt 1 128 128) .withdrawal withdrawalPayload .zero :=
  (staysInFrame_iff Libcmt.reference (withdrawalAt 1 128 128) .withdrawal withdrawalPayload .zero
    Libcmt.reference_documented).mpr fun _ => ⟨by decide +kernel, fun _ => by decide +kernel⟩

/-- With the offset `2 ^ 64 - 36` the length of both lists is the word before the payload. -/
theorem wrapped_leaves_frame : ¬StaysInFrame Libcmt.reference
    (withdrawalAt 1 (2 ^ 64 - 36) (2 ^ 64 - 36)) .withdrawal withdrawalPayload .zero := by
  decide +kernel

end Libcma.Parser
