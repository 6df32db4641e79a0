import Libcma.Lib.Solidity
import Libcma.Parser.Lists

/-!
# Reading the standard encoding

`Libcmt.Standard` adds to the documented behaviour of libcmt what its readers return on words that
were written by the standard encoding. A payload that holds the encoding of some arguments from a
frame on is then read argument by argument: a static word where it lies (`getAddress_from`,
`getUint256_from`), a list or a byte string through its offset word (`getUint256List_from`,
`getBytesD_from`).
-/

namespace Libcma.Parser

variable {libcmt : Libcmt} {memory : Memory} {payload : Payload}

/-- The word of an address. -/
def addressWord (address : Address) : List UInt8 := (walletId address).toList

/-- The word of an address has 32 bytes. -/
@[simp] theorem length_addressWord (address : Address) : (addressWord address).length = 32 :=
  (walletId address).toList_length

/-- The four bytes of a selector, most significant first. -/
def selectorBytes (funsel : UInt32) : List UInt8 :=
  [(funsel >>> 24).toUInt8, (funsel >>> 16).toUInt8, (funsel >>> 8).toUInt8, funsel.toUInt8]

/-- The bytes fit at the front of a buffer; no address wraps. -/
def Fits (me : Buf) (count : ℕ) : Prop := me.begin.toNat + count ≤ me.stop.toNat

/-- The buffers and readers of libcmt on the standard encoding. -/
structure Libcmt.Standard (libcmt : Libcmt) : Prop where
  /-- A buffer is initialised from its first byte and its length. -/
  bufInit : ∀ length data, libcmt.bufInit length data = ⟨data, data + length⟩
  /-- The length of a buffer is the distance of its pointers. -/
  bufLength : ∀ me, libcmt.bufLength me = me.stop - me.begin
  /-- A part that fits is split off. -/
  bufSplit : ∀ me lhsLength, Fits me lhsLength.toNat → libcmt.bufSplit me lhsLength =
    ⟨0, ⟨⟨me.begin, me.begin + lhsLength⟩, ⟨me.begin + lhsLength, me.stop⟩⟩⟩
  /-- A selector is matched where its four bytes lie in order. -/
  checkFunsel : ∀ memory me a b c d, Fits me 4 → Cells.Holds memory me.begin [a, b, c, d] →
    libcmt.checkFunsel memory me (libcmt.funsel a b c d) = ⟨0, ⟨me.begin + 4, me.stop⟩⟩
  /-- The frame is the buffer as it stands. -/
  markFrame : ∀ me, libcmt.markFrame me = ⟨0, me⟩
  /-- An address is read from its word. -/
  getAddress : ∀ memory me address, Fits me 32 →
    Cells.Holds memory me.begin (addressWord address) →
      libcmt.getAddress memory me = ⟨0, address, ⟨me.begin + 32, me.stop⟩⟩
  /-- A 256-bit number is read from its bytes. -/
  getUint256 : ∀ memory me (value : Bytes32), Fits me 32 →
    Cells.Holds memory me.begin value.toList →
      libcmt.getUint256 memory me = ⟨0, value, ⟨me.begin + 32, me.stop⟩⟩
  /-- A 64-bit number is read from its word. -/
  getUint : ∀ memory me value, Fits me 32 → value < 2 ^ 64 →
    Cells.Holds memory me.begin (Abi.word value) →
      (libcmt.getUint memory me 8).code = 0 ∧ (libcmt.getUint memory me 8).out.value = value ∧
        (libcmt.getUint memory me 8).out.rest = ⟨me.begin + 32, me.stop⟩
  /-- An offset word is one word of the buffer, not yet read. -/
  getBytesS : ∀ me, libcmt.getBytesS me = libcmt.bufSplit me 32
  /-- A byte string lies behind its length, at its offset from the frame. -/
  getBytesD : ∀ memory start offset position data, Fits offset 32 →
    Cells.Holds memory offset.begin (Abi.word position) →
    Fits start (position + 32 + data.length) →
    Cells.Holds memory (start.begin + BitVec.ofNat 64 position) (Abi.word data.length ++ data) →
      libcmt.getBytesD memory start offset =
        ⟨0, ⟨BitVec.ofNat 64 data.length, start.begin + BitVec.ofNat 64 position + 32⟩⟩

/-- The list is a slice of the memory with these elements. -/
def U256List.Denotes (list : U256List) (memory : Memory) (items : List Bytes32) : Prop :=
  list.length.toNat = items.length ∧
    Cells.Holds memory list.data (items.flatMap List.Vector.toList)

/-- The byte string is a slice of the memory with these bytes. -/
def AbiBytes.Denotes (bytes : AbiBytes) (memory : Memory) (items : List UInt8) : Prop :=
  bytes.length.toNat = items.length ∧ Cells.Holds memory bytes.data items

/-- The payload from a byte on. -/
def Payload.from (payload : Payload) (position : ℕ) : Buf :=
  ⟨payload.data + BitVec.ofNat 64 position, payload.data + payload.length⟩

/-- The byte at a position. -/
theorem Payload.data_add (payload : Payload) (position offset : ℕ) :
    payload.data + BitVec.ofNat 64 (position + offset) =
      payload.data + BitVec.ofNat 64 position + BitVec.ofNat 64 offset := by
  rw [BitVec.ofNat_add, BitVec.add_assoc]

/-- The end of a payload does not wrap. -/
theorem Payload.toNat_stop (payload : Payload) :
    (payload.data + payload.length).toNat = payload.data.toNat + payload.length.toNat := by
  rw [BitVec.toNat_add, Nat.mod_eq_of_lt payload.fits]

/-- Bytes fit from a position on. -/
theorem fits_from {position count : ℕ} (fits : position + count ≤ payload.length.toNat) :
    Fits (payload.from position) count := by
  have bound := payload.fits
  show (payload.data + BitVec.ofNat 64 position).toNat + count ≤
    (payload.data + payload.length).toNat
  rw [Span.toNat_add_ofNat (by omega), payload.toNat_stop]
  omega

/-- The buffer behind some bytes of the payload. -/
theorem from_add (payload : Payload) (position count : ℕ) :
    (⟨payload.data + BitVec.ofNat 64 position + BitVec.ofNat 64 count,
      payload.data + payload.length⟩ : Buf) = payload.from (position + count) := by
  rw [Payload.from, payload.data_add]

/-- A word in the payload, as a buffer. -/
def Payload.word (payload : Payload) (position : ℕ) : Buf :=
  ⟨payload.data + BitVec.ofNat 64 position, payload.data + BitVec.ofNat 64 position + 32⟩

/-- The word fits in its buffer. -/
theorem fits_word {position : ℕ} (fits : position + 32 ≤ payload.length.toNat) :
    Fits (payload.word position) 32 := by
  have bound := payload.fits
  have next : (payload.data + BitVec.ofNat 64 position + 32).toNat =
      payload.data.toNat + (position + 32) := by
    rw [show (32 : BitVec 64) = BitVec.ofNat 64 32 from rfl, ← payload.data_add,
      Span.toNat_add_ofNat (by omega)]
  show (payload.data + BitVec.ofNat 64 position).toNat + 32 ≤
    (payload.data + BitVec.ofNat 64 position + 32).toNat
  rw [next, Span.toNat_add_ofNat (by omega)]
  omega

/-- Bytes that lie somewhere are read there. -/
theorem bytes_of_holds {length : ℕ} {start : Pointer} (value : Bytes length)
    (holds : Cells.Holds memory start value.toList) : memory.bytes start length = value := by
  apply List.Vector.ext
  intro index
  rw [Memory.bytes, List.Vector.get_ofFn]
  apply holds
  rw [List.getElem?_eq_some_iff]
  exact ⟨by simp, (List.Vector.get_eq_get_toList value index).symm⟩

/-- What is read somewhere lies there. -/
theorem holds_bytes (memory : Memory) (start : Pointer) (length : ℕ) :
    Cells.Holds memory start (memory.bytes start length).toList := by
  intro index value found
  rw [Memory.bytes, List.Vector.toList_ofFn, List.getElem?_ofFn] at found
  split at found
  · exact Option.some.inj found
  · cases found

/-- A number whose word lies somewhere is read there. -/
theorem word_of_holds {start : Pointer} {value : ℕ} (small : value < 2 ^ 64)
    (holds : Cells.Holds memory start (Abi.word value)) : memory.word start = value := by
  rw [Memory.word, bytes_of_holds (List.Vector.ofNat 32 value) holds]
  exact List.Vector.toNat_ofNat (lt_of_lt_of_le small (by decide))

/-- A call that succeeded is not refused. -/
theorem check_zero (message : String) (session : Session) :
    (check 0 message).run session = .ok () session := by
  rw [check, Exec.refuseIf_run]
  rfl

/-- An argument's head lies at its place in the frame. -/
theorem holds_head_at {frame : ℕ} {args : List Abi.Arg} {arg : Abi.Arg}
    (holds : Cells.Holds memory (payload.data + BitVec.ofNat 64 frame) (Abi.encode args))
    (index : ℕ) (found : args[index]? = some arg) :
    Cells.Holds memory (payload.data + BitVec.ofNat 64 (frame + 32 * index))
      (arg.head (Abi.tailOffset args index)) := by
  rw [payload.data_add]
  exact Abi.holds_head holds found

/-- An argument's tail lies at its offset in the frame. -/
theorem holds_tail_at {frame : ℕ} {args : List Abi.Arg} {arg : Abi.Arg}
    (holds : Cells.Holds memory (payload.data + BitVec.ofNat 64 frame) (Abi.encode args))
    (index : ℕ) (found : args[index]? = some arg) :
    Cells.Holds memory (payload.data + BitVec.ofNat 64 (frame + Abi.tailOffset args index))
      arg.tail := by
  rw [payload.data_add]
  exact Abi.holds_tail holds found

/-- The head of an argument ends within the encoding. -/
theorem head_add_le {args : List Abi.Arg} {index : ℕ} {arg : Abi.Arg}
    (found : args[index]? = some arg) : 32 * index + 32 ≤ (Abi.encode args).length := by
  have below := (List.getElem?_eq_some_iff.mp found).1
  rw [Abi.length_encode]
  omega

namespace Libcmt.Standard

variable (standard : libcmt.Standard)

include standard

/-- A part of the payload that fits is split off. -/
theorem bufSplit_from {position count : ℕ} (fits : position + count ≤ payload.length.toNat)
    (size : BitVec 64) (sized : size = BitVec.ofNat 64 count) :
    libcmt.bufSplit (payload.from position) size =
      ⟨0, ⟨⟨payload.data + BitVec.ofNat 64 position,
        payload.data + BitVec.ofNat 64 position + size⟩, payload.from (position + count)⟩⟩ := by
  have bound := payload.fits
  have room : Fits (payload.from position) size.toNat := by
    rw [sized, BitVec.toNat_ofNat, Nat.mod_eq_of_lt (by omega)]
    exact fits_from fits
  rw [standard.bufSplit _ _ room, ← from_add, ← sized]
  rfl

/-- A word that fits is split off. -/
theorem bufSplit_word {position : ℕ} (fits : position + 32 ≤ payload.length.toNat) :
    libcmt.bufSplit (payload.from position) 32 =
      ⟨0, ⟨payload.word position, payload.from (position + 32)⟩⟩ :=
  standard.bufSplit_from fits 32 rfl

/-- A payload as a buffer. -/
theorem bufInit_whole (payload : Payload) :
    libcmt.bufInit payload.length payload.data = payload.from 0 := by
  rw [standard.bufInit, Payload.from, BitVec.add_zero]

/-- A selector is read at the front of a payload. -/
theorem checkFunsel_whole {funsel : UInt32} (fits : 4 ≤ payload.length.toNat)
    (holds : Cells.Holds memory payload.data (selectorBytes funsel)) :
    libcmt.checkFunsel memory (libcmt.bufInit payload.length payload.data)
      (convertToCmtFunsel libcmt funsel) = ⟨0, payload.from 4⟩ := by
  have front : (payload.from 0).begin = payload.data := BitVec.add_zero _
  rw [standard.bufInit_whole, convertToCmtFunsel, standard.checkFunsel memory (payload.from 0)
    _ _ _ _ (fits_from (by omega)) (by rw [front]; exact holds), front]
  rfl

/-- An address is read where its word lies. -/
theorem getAddress_from {position : ℕ} {address : Address}
    (fits : position + 32 ≤ payload.length.toNat)
    (holds : Cells.Holds memory (payload.data + BitVec.ofNat 64 position) (addressWord address)) :
    libcmt.getAddress memory (payload.from position) =
      ⟨0, address, payload.from (position + 32)⟩ := by
  rw [standard.getAddress memory (payload.from position) address (fits_from fits) holds,
    ← from_add]
  rfl

/-- A 256-bit number is read where its bytes lie. -/
theorem getUint256_from {position : ℕ} {value : Bytes32}
    (fits : position + 32 ≤ payload.length.toNat)
    (holds : Cells.Holds memory (payload.data + BitVec.ofNat 64 position) value.toList) :
    libcmt.getUint256 memory (payload.from position) =
      ⟨0, value, payload.from (position + 32)⟩ := by
  rw [standard.getUint256 memory (payload.from position) value (fits_from fits) holds, ← from_add]
  rfl

/-- An offset word is taken. -/
theorem getBytesS_from {position : ℕ} (fits : position + 32 ≤ payload.length.toNat) :
    libcmt.getBytesS (payload.from position) =
      ⟨0, ⟨payload.word position, payload.from (position + 32)⟩⟩ := by
  rw [standard.getBytesS]
  exact standard.bufSplit_word fits

/-- A list is read through its offset. -/
theorem getUint256List_from {frame head offset : ℕ} {items : List Bytes32}
    (headFits : head + 32 ≤ payload.length.toNat)
    (headHolds : Cells.Holds memory (payload.data + BitVec.ofNat 64 head) (Abi.word offset))
    (fits : frame + offset + 32 + 32 * items.length ≤ payload.length.toNat)
    (holds : Cells.Holds memory (payload.data + BitVec.ofNat 64 (frame + offset))
      (Abi.word items.length)) (session : Session) :
    ∃ words, (getUint256List libcmt memory (payload.from frame) (payload.word head)).run session =
      .ok ⟨0, ⟨BitVec.ofNat 64 items.length,
        payload.data + BitVec.ofNat 64 (frame + offset + 32)⟩⟩
        { session with lengthWords := words } := by
  have bound := payload.fits
  have position := standard.getUint memory (payload.word head) offset (fits_word headFits)
    (by omega) headHolds
  have count := standard.getUint memory (payload.from (frame + offset)) items.length
    (fits_from (by omega)) (by omega) holds
  have behind : (⟨(payload.from (frame + offset)).begin + 32, (payload.from (frame + offset)).stop⟩ :
      Buf) = payload.from (frame + offset + 32) := from_add payload (frame + offset) 32
  rw [behind] at count
  have size : BitVec.ofNat 64 items.length * u256Length = BitVec.ofNat 64 (32 * items.length) := by
    rw [Nat.mul_comm, BitVec.ofNat_mul]
    rfl
  have sizeNat : (BitVec.ofNat 64 (32 * items.length)).toNat = 32 * items.length := by
    rw [BitVec.toNat_ofNat, Nat.mod_eq_of_lt (by omega)]
  have room : ¬libcmt.bufLength (payload.from (frame + offset + 32)) <
      BitVec.ofNat 64 (32 * items.length) := by
    have rest : Fits (payload.from (frame + offset + 32)) (32 * items.length) := fits_from fits
    rw [standard.bufLength, BitVec.lt_def, sizeNat, BitVec.toNat_sub_of_le]
    · rw [Fits] at rest
      omega
    · rw [Fits] at rest
      exact BitVec.le_def.mpr (by omega)
  have split := standard.bufSplit_from fits _ rfl
  have elements : libcmt.bufLength ⟨payload.data + BitVec.ofNat 64 (frame + offset + 32),
      payload.data + BitVec.ofNat 64 (frame + offset + 32) + BitVec.ofNat 64 (32 * items.length)⟩ /
        u256Length = BitVec.ofNat 64 items.length := by
    apply BitVec.eq_of_toNat_eq
    have word : u256Length.toNat = 32 := rfl
    rw [standard.bufLength, add_sub_cancel_left, BitVec.toNat_udiv, sizeNat, word,
      BitVec.toNat_ofNat, Nat.mod_eq_of_lt (by omega)]
    omega
  have tail : (⟨(payload.from frame).begin + BitVec.ofNat 64 offset, (payload.from frame).stop⟩ :
      Buf) = payload.from (frame + offset) := from_add payload frame offset
  refine ⟨session.lengthWords ++
    (libcmt.getUint memory (payload.from (frame + offset)) 8).out.word.toList, ?_⟩
  simp only [getUint256List, peekUint256List, Exec.bind_run, noteLengthWord, Exec.update_run,
    Outcome.andThen_ok, position.1, position.2.1, tail, count.1, count.2.1, count.2.2, size, room,
    split, elements, ne_eq, not_true_eq_false, if_false, Exec.pure_run]

/-- A list argument is read through its head. -/
theorem getUint256List_arg {frame : ℕ} {args : List Abi.Arg} {items : List Bytes32}
    (holds : Cells.Holds memory (payload.data + BitVec.ofNat 64 frame) (Abi.encode args))
    (index : ℕ) (found : args[index]? = some (.words items))
    (fits : frame + (Abi.encode args).length ≤ payload.length.toNat) (session : Session) :
    ∃ list words, (getUint256List libcmt memory (payload.from frame)
        (payload.word (frame + 32 * index))).run session =
        .ok ⟨0, list⟩ { session with lengthWords := words } ∧
      list.Denotes memory items ∧
      list.data = payload.data + BitVec.ofNat 64 (frame + Abi.tailOffset args index + 32) := by
  have bound := payload.fits
  have room := Abi.tailOffset_add_le found
  have tail := holds_tail_at holds index found
  rw [Abi.Arg.length_tail_words] at room
  have head := head_add_le found
  obtain ⟨words, run⟩ := standard.getUint256List_from (by omega) (holds_head_at holds index found)
    (show frame + Abi.tailOffset args index + 32 + 32 * items.length ≤ _ by omega)
    ((Cells.holds_append _ _).mp tail).1 session
  refine ⟨_, words, run, ⟨Nat.mod_eq_of_lt (by omega), ?_⟩, rfl⟩
  have elements := ((Cells.holds_append _ _).mp tail).2
  rw [Abi.length_word, ← payload.data_add] at elements
  exact elements

/-- A byte string argument is read through its head. -/
theorem getBytesD_arg {frame : ℕ} {args : List Abi.Arg} {data padding : List UInt8}
    (holds : Cells.Holds memory (payload.data + BitVec.ofNat 64 frame) (Abi.encode args))
    (index : ℕ) (found : args[index]? = some (.bytes data padding))
    (fits : frame + (Abi.encode args).length ≤ payload.length.toNat) :
    ∃ bytes, libcmt.getBytesD memory (payload.from frame) (payload.word (frame + 32 * index)) =
        ⟨0, bytes⟩ ∧
      bytes.Denotes memory data ∧
      bytes.data = payload.data + BitVec.ofNat 64 (frame + Abi.tailOffset args index + 32) := by
  have bound := payload.fits
  have room := Abi.tailOffset_add_le found
  have tail := holds_tail_at holds index found
  rw [Abi.Arg.length_tail_bytes] at room
  have head := head_add_le found
  rw [Abi.Arg.tail, ← List.append_assoc] at tail
  have there := ((Cells.holds_append _ _).mp tail).1
  have frameStart : (payload.from frame).begin + BitVec.ofNat 64 (Abi.tailOffset args index) =
      payload.data + BitVec.ofNat 64 (frame + Abi.tailOffset args index) :=
    (payload.data_add _ _).symm
  have read := standard.getBytesD memory (payload.from frame) (payload.word (frame + 32 * index))
    (Abi.tailOffset args index) data (fits_word (by omega)) (holds_head_at holds index found)
    (fits_from (by omega)) (by rw [frameStart]; exact there)
  rw [frameStart, show (32 : BitVec 64) = BitVec.ofNat 64 32 from rfl, ← payload.data_add] at read
  refine ⟨_, read, ⟨Nat.mod_eq_of_lt (by omega), ?_⟩, rfl⟩
  have content := ((Cells.holds_append _ _).mp there).2
  rw [Abi.length_word, ← payload.data_add] at content
  exact content

end Libcmt.Standard

/-- The machine number of a selector, least significant byte first. -/
theorem toNat_funsel (a b c d : UInt8) :
    (Libcmt.reference.funsel a b c d).toNat =
      a.toNat + b.toNat * 2 ^ 8 + c.toNat * 2 ^ 16 + d.toNat * 2 ^ 24 := by
  have first := a.toNat_lt
  have second := b.toNat_lt
  have third := c.toNat_lt
  have fourth := d.toNat_lt
  have shifts : (8 : UInt32).toNat % 32 = 8 ∧ (16 : UInt32).toNat % 32 = 16 ∧
      (24 : UInt32).toNat % 32 = 24 := by decide
  show (a.toUInt32 + (b.toUInt32 <<< 8) + (c.toUInt32 <<< 16) + (d.toUInt32 <<< 24)).toNat = _
  simp only [UInt32.toNat_add, UInt32.toNat_shiftLeft, UInt8.toNat_toUInt32, Nat.shiftLeft_eq,
    shifts.1, shifts.2.1, shifts.2.2]
  omega

/-- The reference reads a selector where its four bytes lie in order. -/
theorem selector_eq_iff {me : Buf} {a b c d : UInt8} :
    Libcmt.reference.selector memory me = (Libcmt.reference.funsel a b c d).toNat ↔
      Cells.Holds memory me.begin [a, b, c, d] := by
  have number : (Libcmt.reference.funsel a b c d).toNat = Bytes.listNat [d, c, b, a] := by
    rw [toNat_funsel]
    show _ = d.toNat * 256 ^ 3 + (c.toNat * 256 ^ 2 + (b.toNat * 256 ^ 1 + (a.toNat * 256 ^ 0 + 0)))
    ring
  rw [number, Libcmt.reference.selector]
  constructor
  · intro same
    have reversed : (Memory.bytes memory me.begin 4).toList.reverse = [d, c, b, a] :=
      Bytes.listNat_injective (by simp) same
    have bytes : (Memory.bytes memory me.begin 4).toList = [a, b, c, d] :=
      List.reverse_eq_iff.mp reversed
    rw [← bytes]
    exact holds_bytes memory me.begin 4
  · intro holds
    have bytes : Memory.bytes memory me.begin 4 = ⟨[a, b, c, d], rfl⟩ := bytes_of_holds _ holds
    rw [bytes]
    rfl

/-- The reference functions with a split that compares lengths. -/
def Libcmt.exact : Libcmt :=
  { Libcmt.reference with
    bufSplit := split
    getBytesS := fun me => split me 32 }
where
  /-- Take bytes from the front, when there are as many. -/
  split (me : Buf) (lhsLength : BitVec 64) : Returned Parts :=
    ⟨if lhsLength ≤ me.stop - me.begin then 0 else -enobufs,
      ⟨me.begin, me.begin + lhsLength⟩, ⟨me.begin + lhsLength, me.stop⟩⟩

/-- A part that fits ends no later than the buffer, also as addresses. -/
theorem Fits.addresses {me : Buf} {lhsLength : BitVec 64} (fits : Fits me lhsLength.toNat) :
    me.begin + lhsLength ≤ me.stop := by
  have bound := me.stop.isLt
  rw [Fits] at fits
  rw [BitVec.le_def, BitVec.toNat_add, Nat.mod_eq_of_lt (by omega)]
  exact fits

/-- A part that fits is no longer than the buffer. -/
theorem Fits.lengths {me : Buf} {lhsLength : BitVec 64} (fits : Fits me lhsLength.toNat) :
    lhsLength ≤ me.stop - me.begin := by
  rw [Fits] at fits
  rw [BitVec.le_def, BitVec.toNat_sub_of_le (BitVec.le_def.mpr (by omega))]
  omega

/-- The reference split takes a part that fits. -/
theorem Fits.split {me : Buf} {lhsLength : BitVec 64} (fits : Fits me lhsLength.toNat) :
    Libcmt.reference.split me lhsLength =
      ⟨0, ⟨⟨me.begin, me.begin + lhsLength⟩, ⟨me.begin + lhsLength, me.stop⟩⟩⟩ := by
  rw [Libcmt.reference.split, if_pos fits.addresses]

/-- The reference reads a number where its word lies. -/
theorem uint_reference {me : Buf} {value : ℕ} (fits : Fits me 32) (small : value < 2 ^ 64)
    (holds : Cells.Holds memory me.begin (Abi.word value)) :
    Libcmt.reference.uint memory me 8 =
      ⟨0, value, ⟨me.begin + 32, me.stop⟩, some ⟨me.begin, me.begin + 32⟩⟩ := by
  have taken := Fits.split (show Fits me (32 : BitVec 64).toNat from fits)
  have number : (memory.bytes me.begin 32).toNat = value := word_of_holds small holds
  have inRange : value < 256 ^ 8 := small
  simp only [Libcmt.reference.uint, taken, number, ne_eq, not_true_eq_false, if_false, inRange,
    if_true]

/-- The reference functions are the standard ones on the standard encoding. -/
theorem Libcmt.exact_standard : Libcmt.exact.Standard where
  bufInit _ _ := rfl
  bufLength _ := rfl
  bufSplit me lhsLength fits := by
    show Libcmt.exact.split me lhsLength = _
    rw [Libcmt.exact.split, if_pos fits.lengths]
  checkFunsel memory me a b c d fits holds := by
    have enough : ¬me.stop - me.begin < 4 :=
      BitVec.not_lt.mpr (Fits.lengths (show Fits me (4 : BitVec 64).toNat from fits))
    show (if _ then (⟨-enobufs, me⟩ : Returned Buf) else if _ then _ else _) = _
    rw [if_neg enough]
    exact if_pos (selector_eq_iff.mpr holds)
  markFrame _ := rfl
  getAddress memory me address fits holds := by
    have taken := Fits.split (show Fits me (32 : BitVec 64).toNat from fits)
    have bytes : Memory.bytes memory (me.begin + 12) 20 = address := by
      apply bytes_of_holds
      rw [addressWord, walletId] at holds
      exact ((Cells.holds_append _ _).mp holds).2
    show (⟨(Libcmt.reference.split me 32).code, Memory.bytes memory (me.begin + 12) 20,
      (Libcmt.reference.split me 32).out.rhs⟩ : Returned (Address × Buf)) = _
    rw [taken, bytes]
  getUint256 memory me value fits holds := by
    have taken := Fits.split (show Fits me (32 : BitVec 64).toNat from fits)
    have bytes : Memory.bytes memory me.begin 32 = value := bytes_of_holds value holds
    show (⟨(Libcmt.reference.split me 32).code, Memory.bytes memory me.begin 32,
      (Libcmt.reference.split me 32).out.rhs⟩ : Returned (Bytes32 × Buf)) = _
    rw [taken, bytes]
  getUint memory me value fits small holds := by
    show (Libcmt.reference.uint memory me 8).code = 0 ∧
      (Libcmt.reference.uint memory me 8).out.value = value ∧
        (Libcmt.reference.uint memory me 8).out.rest = _
    rw [uint_reference fits small holds]
    exact ⟨rfl, rfl, rfl⟩
  getBytesS _ := rfl
  getBytesD memory start offset position data offsetFits offsetHolds fits holds := by
    have bound := start.stop.isLt
    rw [Fits] at fits
    rw [Cells.holds_append] at holds
    have place : (start.begin + BitVec.ofNat 64 position).toNat = start.begin.toNat + position :=
      Span.toNat_add_ofNat (by omega)
    have behind : (start.begin + BitVec.ofNat 64 position + 32).toNat =
        start.begin.toNat + position + 32 := by
      have word : (32 : BitVec 64).toNat = 32 := rfl
      rw [BitVec.toNat_add, place, word, Nat.mod_eq_of_lt (by omega)]
    have length : (BitVec.ofNat 64 data.length).toNat = data.length :=
      Nat.mod_eq_of_lt (by omega)
    have positionRead := uint_reference offsetFits (by omega) offsetHolds
    have sizeFits : Fits ⟨start.begin + BitVec.ofNat 64 position, start.stop⟩ 32 := by
      show (start.begin + BitVec.ofNat 64 position).toNat + 32 ≤ start.stop.toNat
      omega
    have dataFits : Fits ⟨start.begin + BitVec.ofNat 64 position + 32, start.stop⟩
        (BitVec.ofNat 64 data.length).toNat := by
      show (start.begin + BitVec.ofNat 64 position + 32).toNat + _ ≤ start.stop.toNat
      omega
    have sizeRead := uint_reference sizeFits (by omega) holds.1
    have dataSplit := dataFits.split
    show Libcmt.reference.getBytesD memory start offset = _
    simp only [Libcmt.reference, positionRead, sizeRead, dataSplit]
    rfl

end Libcma.Parser
