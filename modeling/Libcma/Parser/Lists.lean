import Libcma.Parser.Batch

/-!
# What a list read does

`peekUint256List` adds the offset word to the frame's first address, reads the length word there and
takes the elements behind it. `getUint256List_run` says which word is read as the length, when the
list is returned and which slice it is, in terms of memory and addresses alone.

The addition wraps. `Wraps` holds for the offsets whose length word is read though it does not fit
in the frame; every other length word that is read lies inside, and so do the elements.
-/

namespace Libcma.Parser

variable {libcmt : Libcmt} {memory : Memory} {frame : Buf} {offset : ℕ} {position : Pointer}

/-- The big-endian number in the 32 bytes at an address. -/
def Memory.word (memory : Memory) (start : Pointer) : ℕ := (memory.bytes start 32).toNat

namespace Libcmt.Documented

/-- A 64-bit number is read when its word fits in the buffer and its value in the number. -/
theorem getUint_code_iff (documented : libcmt.Documented) (memory : Memory) (me : Buf) :
    (libcmt.getUint memory me 8).code = 0 ↔
      me.begin + 32 ≤ me.stop ∧ memory.word me.begin < 2 ^ 64 := by
  rw [documented.getUint_code, documented.bufSplit_code]
  rfl

/-- The number read, and the buffer after its word. -/
theorem getUint_out_eq (documented : libcmt.Documented) {me : Buf}
    (read : (libcmt.getUint memory me 8).code = 0) :
    (libcmt.getUint memory me 8).out.value = memory.word me.begin ∧
      (libcmt.getUint memory me 8).out.rest = ⟨me.begin + 32, me.stop⟩ := by
  have taken := ((documented.getUint_code memory me 8).mp read).1
  have out := documented.getUint_out memory me 8 read
  rw [documented.bufSplit_out me 32 taken] at out
  exact out

/-- The word a number is read from. -/
theorem getUint_word_eq (documented : libcmt.Documented) (memory : Memory) (me : Buf) :
    (libcmt.getUint memory me 8).out.word.toList =
      if me.begin + 32 ≤ me.stop then [⟨me.begin, me.begin + 32⟩] else [] := by
  rw [documented.getUint_word]
  by_cases fits : me.begin + 32 ≤ me.stop
  · have taken := (documented.bufSplit_code me 32).mpr fits
    rw [if_pos taken, if_pos fits, documented.bufSplit_out me 32 taken]
    rfl
  · have refused : ¬(libcmt.bufSplit me 32).code = 0 := fun taken =>
      fits ((documented.bufSplit_code me 32).mp taken)
    rw [if_neg refused, if_neg fits]
    rfl

end Libcmt.Documented

/-- Where the length word of a list is looked for. -/
def lengthAt (frame : Buf) (offset : ℕ) : Pointer := frame.begin + BitVec.ofNat 64 offset

/-- The offset is a 64-bit number, and the length word it leads to ends no later than the frame,
as addresses. -/
def LengthRead (frame : Buf) (offset : ℕ) : Prop :=
  offset < 2 ^ 64 ∧ lengthAt frame offset + 32 ≤ frame.stop

instance : Decidable (LengthRead frame offset) := inferInstanceAs (Decidable (_ ∧ _))

/-- The number of bytes that the elements are taken to have, from the length word. -/
def elementsSize (memory : Memory) (frame : Buf) (offset : ℕ) : BitVec 64 :=
  BitVec.ofNat 64 (memory.word (lengthAt frame offset)) * u256Length

/-- The list behind an offset is returned. -/
def ListThere (memory : Memory) (frame : Buf) (offset : ℕ) : Prop :=
  LengthRead frame offset ∧ memory.word (lengthAt frame offset) < 2 ^ 64 ∧
    elementsSize memory frame offset ≤ frame.stop - (lengthAt frame offset + 32)

instance : Decidable (ListThere memory frame offset) := inferInstanceAs (Decidable (_ ∧ _))

/-- The list returned. -/
def listAt (memory : Memory) (frame : Buf) (offset : ℕ) : U256List :=
  ⟨elementsSize memory frame offset / u256Length, lengthAt frame offset + 32⟩

/-- The word read as the length of the list behind an offset. -/
def lengthWord (frame : Buf) (offset : ℕ) : List Buf :=
  if LengthRead frame offset then [⟨lengthAt frame offset, lengthAt frame offset + 32⟩] else []

/-- The length word is read though it does not fit: its end is past the last address, and wraps to
an address no later than the frame's end. -/
def Wraps (frame : Buf) (offset : ℕ) : Prop :=
  offset < 2 ^ 64 ∧ 2 ^ 64 ≤ frame.begin.toNat + offset + 32 ∧
    (frame.begin.toNat + offset + 32) % 2 ^ 64 ≤ frame.stop.toNat

instance : Decidable (Wraps frame offset) := inferInstanceAs (Decidable (_ ∧ _ ∧ _))

/-- The end of the length word as a number. -/
theorem toNat_lengthAt_add (frame : Buf) (offset : ℕ) :
    (lengthAt frame offset + 32).toNat = (frame.begin.toNat + offset + 32) % 2 ^ 64 := by
  have literal : (32 : Pointer).toNat = 32 := rfl
  rw [lengthAt, BitVec.toNat_add, BitVec.toNat_add, BitVec.toNat_ofNat, literal]
  omega

/-- The length word of an offset that wraps is read. -/
theorem Wraps.lengthRead (wraps : Wraps frame offset) : LengthRead frame offset := by
  refine ⟨wraps.1, BitVec.le_def.mpr ?_⟩
  rw [toNat_lengthAt_add]
  exact wraps.2.2

/-- A length word that is read lies inside the frame exactly when the addition did not wrap. -/
theorem covers_lengthAt_iff (read : LengthRead frame offset) :
    frame.Covers (lengthAt frame offset) 32 ↔ ¬Wraps frame offset := by
  have bound := frame.stop.isLt
  have ends : (lengthAt frame offset + 32).toNat ≤ frame.stop.toNat := read.2
  rw [toNat_lengthAt_add] at ends
  have small : (BitVec.ofNat 64 offset).toNat = offset := Nat.mod_eq_of_lt read.1
  rw [lengthAt, Span.covers_offset (by decide), small]
  constructor
  · intro inside wraps
    have past := wraps.2.1
    omega
  · intro straight
    have fits : frame.begin.toNat + offset + 32 < 2 ^ 64 := by
      by_contra past
      exact straight ⟨read.1, by omega, ends⟩
    rw [Nat.mod_eq_of_lt fits] at ends
    exact ends

/-- The elements of a returned list lie inside the frame when its length word does. -/
theorem covers_listAt (found : ListThere memory frame offset) (straight : ¬Wraps frame offset) :
    frame.Covers (listAt memory frame offset).data
      (32 * (listAt memory frame offset).length.toNat) := by
  have word := (covers_lengthAt_iff found.1).mpr straight
  rw [Span.covers_iff (by decide)] at word
  have enough := BitVec.le_def.mp found.2.2
  rw [BitVec.toNat_sub_of_le found.1.2] at enough
  have bound := frame.stop.isLt
  have fits : (lengthAt frame offset).toNat + 32 < 2 ^ 64 := by omega
  have past : (lengthAt frame offset + 32).toNat = (lengthAt frame offset).toNat + 32 :=
    Span.toNat_add_ofNat fits
  have elements : (listAt memory frame offset).length.toNat =
      (elementsSize memory frame offset).toNat / 32 := BitVec.toNat_udiv
  rcases Nat.eq_zero_or_pos (32 * (listAt memory frame offset).length.toNat) with none | some
  · rw [none]
    exact Span.covers_zero
  · rw [Span.covers_iff some]
    show _ ≤ (lengthAt frame offset + 32).toNat ∧ (lengthAt frame offset + 32).toNat + _ ≤ _
    omega

/-- Reading a list has no undefined behaviour. -/
theorem getUint256List_total (libcmt : Libcmt) (memory : Memory) (start offsetBuf : Buf) :
    (getUint256List libcmt memory start offsetBuf).Total := by
  apply Exec.Total.bind
  · apply Exec.Total.ite
    · exact Exec.Total.pure _
    · apply Exec.Total.bind (Exec.Total.update _)
      intro noted
      apply Exec.Total.ite
      · exact Exec.Total.pure _
      · apply Exec.Total.ite
        · exact Exec.Total.pure _
        · exact Exec.Total.pure _
  · intro bytes
    apply Exec.Total.ite
    · exact Exec.Total.pure _
    · exact Exec.Total.pure _

/-- Peeking at a list reads one length word at most, and finds the elements exactly when the list is
there. -/
theorem peekUint256List_run (documented : libcmt.Documented) (memory : Memory) (frame : Buf)
    (position : Pointer) (session : Session) :
    ∃ result, (peekUint256List libcmt memory frame ⟨position, position + 32⟩).run session =
        .ok result { session with
          lengthWords := session.lengthWords ++ lengthWord frame (memory.word position) } ∧
      (result.code = 0 ↔ ListThere memory frame (memory.word position)) ∧
      (result.code = 0 → result.out = ⟨lengthAt frame (memory.word position) + 32,
        lengthAt frame (memory.word position) + 32 +
          elementsSize memory frame (memory.word position)⟩) := by
  have offsetCode := documented.getUint_code_iff memory ⟨position, position + 32⟩
  rw [and_iff_right (BitVec.le_refl _)] at offsetCode
  by_cases offsetRead : (libcmt.getUint memory ⟨position, position + 32⟩ 8).code = 0
  case neg =>
    have large : ¬memory.word position < 2 ^ 64 := fun small => offsetRead (offsetCode.mpr small)
    have unread : lengthWord frame (memory.word position) = [] := if_neg fun read => large read.1
    rw [unread, List.append_nil]
    exact ⟨⟨(libcmt.getUint memory ⟨position, position + 32⟩ 8).code, ⟨0, 0⟩⟩,
      by simp only [peekUint256List, offsetRead, ne_eq, not_false_eq_true, if_true, Exec.pure_run],
      iff_of_false offsetRead fun found => large found.1.1,
      fun read => absurd read offsetRead⟩
  case pos =>
    have small := offsetCode.mp offsetRead
    have value := (documented.getUint_out_eq offsetRead).1
    change _ = memory.word position at value
    simp only [peekUint256List, offsetRead, ne_eq, not_true_eq_false, if_false, Exec.bind_run,
      value, noteLengthWord, Exec.update_run, Outcome.andThen_ok]
    generalize memory.word position = offset at small
    have countCode := documented.getUint_code_iff memory ⟨lengthAt frame offset, frame.stop⟩
    have noted : (libcmt.getUint memory ⟨lengthAt frame offset, frame.stop⟩ 8).out.word.toList =
        lengthWord frame offset := by
      rw [documented.getUint_word_eq, lengthWord]
      simp only [LengthRead, small, true_and]
    rw [← lengthAt, noted]
    by_cases countRead :
      (libcmt.getUint memory ⟨lengthAt frame offset, frame.stop⟩ 8).code = 0
    case neg =>
      simp only [countRead, not_false_eq_true, if_true, Exec.pure_run]
      have absent : ¬ListThere memory frame offset := fun found =>
        countRead (countCode.mpr ⟨found.1.2, found.2.1⟩)
      exact ⟨_, rfl, iff_of_false countRead absent, fun read => absurd read countRead⟩
    case pos =>
      have fits := countCode.mp countRead
      have count := documented.getUint_out_eq countRead
      simp only [countRead, not_true_eq_false, if_false, count.1, count.2, documented.bufLength]
      rw [← elementsSize]
      by_cases room : elementsSize memory frame offset ≤ frame.stop - (lengthAt frame offset + 32)
      case neg =>
        rw [if_pos (BitVec.not_le.mp room)]
        exact ⟨_, rfl, iff_of_false (by decide) fun found => room found.2.2,
          fun read => absurd read (by decide)⟩
      case pos =>
        rw [if_neg (BitVec.not_lt.mpr room)]
        have taken : (libcmt.bufSplit ⟨lengthAt frame offset + 32, frame.stop⟩
            (elementsSize memory frame offset)).code = 0 := by
          rw [documented.bufSplit_code]
          show lengthAt frame offset + 32 + elementsSize memory frame offset ≤ frame.stop
          have below : lengthAt frame offset + 32 ≤ frame.stop := fits.1
          bv_omega
        have parts := documented.bufSplit_out _ _ taken
        exact ⟨_, rfl, iff_of_true taken ⟨⟨small, fits.1⟩, fits.2, room⟩, fun _ => by rw [parts]⟩

/-- Reading a list reads one length word at most, and returns the list exactly when it is there. -/
theorem getUint256List_run (documented : libcmt.Documented) (memory : Memory) (frame : Buf)
    (position : Pointer) (session : Session) :
    ∃ result, (getUint256List libcmt memory frame ⟨position, position + 32⟩).run session =
        .ok result { session with
          lengthWords := session.lengthWords ++ lengthWord frame (memory.word position) } ∧
      (result.code = 0 ↔ ListThere memory frame (memory.word position)) ∧
      (result.code = 0 → result.out = listAt memory frame (memory.word position)) := by
  obtain ⟨peeked, run, code, out⟩ :=
    peekUint256List_run documented memory frame position session
  rw [getUint256List, Exec.bind_run, run, Outcome.andThen_ok]
  by_cases found : peeked.code = 0
  case neg =>
    rw [if_pos found]
    exact ⟨_, rfl, code, fun returned => absurd returned found⟩
  case pos =>
    rw [if_neg (not_not.mpr found)]
    have length :
        libcmt.bufLength peeked.out = elementsSize memory frame (memory.word position) := by
      rw [documented.bufLength, out found]
      bv_omega
    refine ⟨_, rfl, iff_of_true rfl (code.mp found), fun _ => ?_⟩
    rw [length, out found, listAt]

/-- The list has the declared number of elements: the length word counts them, they lie behind it,
and the frame holds them. -/
structure U256List.Declared (list : U256List) (memory : Memory) (frame : Buf) (offset : ℕ) :
    Prop where
  /-- The length word counts the elements. -/
  count : list.length.toNat = memory.word (lengthAt frame offset)
  /-- The elements lie behind the length word. -/
  data : list.data = lengthAt frame offset + 32
  /-- The frame holds the elements. -/
  room : list.data.toNat + 32 * list.length.toNat ≤ frame.stop.toNat

/-- The number of elements is the length word without its five highest bits. -/
theorem toNat_listAt_length (found : ListThere memory frame offset) :
    (listAt memory frame offset).length.toNat =
      memory.word (lengthAt frame offset) % 2 ^ 59 := by
  have small := found.2.1
  have word : u256Length.toNat = 32 := rfl
  rw [listAt, BitVec.toNat_udiv, elementsSize, BitVec.toNat_mul, BitVec.toNat_ofNat, word]
  omega

/-- The frame holds the elements of a list that is there. -/
theorem listAt_room (found : ListThere memory frame offset) :
    (listAt memory frame offset).data.toNat +
      32 * (listAt memory frame offset).length.toNat ≤ frame.stop.toNat := by
  have enough := BitVec.le_def.mp found.2.2
  have before := BitVec.le_def.mp found.1.2
  rw [BitVec.toNat_sub_of_le found.1.2] at enough
  have elements : (listAt memory frame offset).length.toNat =
      (elementsSize memory frame offset).toNat / 32 := BitVec.toNat_udiv
  show (lengthAt frame offset + 32).toNat + _ ≤ _
  omega

/-- A list that is read has the declared number of elements exactly when that number times 32 does
not wrap. -/
theorem getUint256List_declared_iff (libcmt : Libcmt) (documented : libcmt.Documented)
    (memory : Memory) (frame : Buf) (position : Pointer) (session reached : Session)
    (list : U256List)
    (returns : (getUint256List libcmt memory frame ⟨position, position + 32⟩).run session =
      .ok ⟨0, list⟩ reached) :
    list.Declared memory frame (memory.word position) ↔
      memory.word (lengthAt frame (memory.word position)) < 2 ^ 59 := by
  obtain ⟨result, run, code, out⟩ := getUint256List_run documented memory frame position session
  obtain ⟨same, -⟩ := Outcome.ok.inj (run.symm.trans returns)
  subst same
  have found := code.mp rfl
  have returned : list = listAt memory frame (memory.word position) := out rfl
  subst returned
  have length := toNat_listAt_length found
  constructor
  · intro declared
    have counted := declared.count
    omega
  · intro small
    constructor
    case count => rw [length, Nat.mod_eq_of_lt small]
    case data => rfl
    case room => exact listAt_room found

/-- A memory with some words from address 4096 on. -/
def wordsMemory (words : List ℕ) : Memory :=
  fun address => (words.flatMap (Bytes.listOf 32)).getD (address.toNat - 4096) 0

/-- Where these words are. -/
def wordsFrame (words : List ℕ) : Buf := ⟨4096, 4096 + 32 * BitVec.ofNat 64 words.length⟩

/-- What is read of a list whose offset is the first of these words. -/
theorem getUint256List_words {words : List ℕ}
    (found : ListThere (wordsMemory words) (wordsFrame words) ((wordsMemory words).word 4096)) :
    ∃ reached, (getUint256List Libcmt.reference (wordsMemory words) (wordsFrame words)
      ⟨4096, 4096 + 32⟩).run ⟨.zero, []⟩ = .ok ⟨0, listAt (wordsMemory words) (wordsFrame words)
        ((wordsMemory words).word 4096)⟩ reached := by
  obtain ⟨⟨code, out⟩, run, there, returned⟩ := getUint256List_run Libcmt.reference_documented
    (wordsMemory words) (wordsFrame words) 4096 ⟨.zero, []⟩
  have zero : code = 0 := there.mpr found
  subst zero
  have same : out = listAt (wordsMemory words) (wordsFrame words)
      ((wordsMemory words).word 4096) := returned rfl
  rw [run, same]
  exact ⟨_, rfl⟩

/-- The words of a list of two elements: its offset, its length and the elements. -/
def twoElements : List ℕ := [32, 2, 7, 2 ^ 255]

/-- A list of two elements is read as declared. -/
theorem twoElements_declared : ∃ list reached,
    (getUint256List Libcmt.reference (wordsMemory twoElements) (wordsFrame twoElements)
        ⟨4096, 4096 + 32⟩).run ⟨.zero, []⟩ = .ok ⟨0, list⟩ reached ∧
      list.length = 2 ∧ list.Declared (wordsMemory twoElements) (wordsFrame twoElements)
        ((wordsMemory twoElements).word 4096) := by
  obtain ⟨reached, run⟩ := getUint256List_words (show ListThere (wordsMemory twoElements)
    (wordsFrame twoElements) ((wordsMemory twoElements).word 4096) by decide +kernel)
  exact ⟨_, reached, run, by decide +kernel, (getUint256List_declared_iff Libcmt.reference
    Libcmt.reference_documented (wordsMemory twoElements) (wordsFrame twoElements) 4096
      ⟨.zero, []⟩ reached _ run).mpr (by decide +kernel)⟩

/-- The words of a list that declares `2 ^ 59` elements. -/
def hugeList : List ℕ := [32, 2 ^ 59]

/-- It is read as an empty one. -/
theorem hugeList_not_declared : ∃ list reached,
    (getUint256List Libcmt.reference (wordsMemory hugeList) (wordsFrame hugeList)
        ⟨4096, 4096 + 32⟩).run ⟨.zero, []⟩ = .ok ⟨0, list⟩ reached ∧
      ¬list.Declared (wordsMemory hugeList) (wordsFrame hugeList)
        ((wordsMemory hugeList).word 4096) := by
  obtain ⟨reached, run⟩ := getUint256List_words (show ListThere (wordsMemory hugeList)
    (wordsFrame hugeList) ((wordsMemory hugeList).word 4096) by decide +kernel)
  refine ⟨_, reached, run, ?_⟩
  intro declared
  have counted := declared.count
  revert counted
  decide +kernel

end Libcma.Parser
