import Libcma.Lib.Exec
import Libcma.Lib.Span
import Libcma.Types

/-!
# Buffers and the ABI helpers of the parser

The parser reads payloads through the buffers of libcmt, a library that is not part of this
repository. Its functions are the fields of `Libcmt`, and `Libcmt.Documented` lists what the
parser relies on. The helpers of `parser_impl.cpp` stand on them: `getAddressPacked` for the
packed prefixes, `peekUint256List` and `getUint256List` for lists behind an offset word.

Pointers are 64-bit and their addition wraps. Memory is whatever every address holds, so that a
read outside the payload has a result too. Buffer parameters are never null in these calls.
-/

namespace Libcma.Parser

/-- A machine address. -/
abbrev Pointer : Type := BitVec 64

/-- `cmt_buf_t`. -/
abbrev Buf : Type := Span 64

/-- The byte at every address. -/
abbrev Memory : Type := Pointer → UInt8

/-- The bytes from an address on. -/
def Memory.bytes (memory : Memory) (start : Pointer) (length : ℕ) : Bytes length :=
  List.Vector.ofFn fun index : Fin length => memory (start + BitVec.ofNat 64 index)

/-- `cma_abi_u256_list_t`. -/
structure U256List where
  /-- Number of 32-byte elements. -/
  length : BitVec 64
  /-- First element. -/
  data : Pointer
  deriving DecidableEq

/-- `cma_abi_bytes_t`. -/
structure AbiBytes where
  /-- Number of bytes. -/
  length : BitVec 64
  /-- First byte. -/
  data : Pointer
  deriving DecidableEq

/-- `CMA_ABI_ADDRESS_LENGTH`. -/
def addressLength : ℕ := 20

/-- `CMA_ABI_U256_LENGTH`. -/
def u256Length : BitVec 64 := 32

/-- `ENOBUFS` of the C library. -/
def enobufs : Int := 105

/-- What a call of a C function leaves: its code, and its out-parameters, which mean something
only when the code is zero. -/
structure Returned (α : Type) where
  /-- Zero on success. -/
  code : Int
  /-- Out-parameters. -/
  out : α

/-- The two parts of a buffer that was split. -/
structure Parts where
  /-- The bytes taken. -/
  lhs : Buf
  /-- The bytes after them. -/
  rhs : Buf

/-- The out-parameters of `cmt_abi_get_uint`, and the word it read. -/
structure Uint where
  /-- The number. -/
  value : ℕ
  /-- The buffer after the word. -/
  rest : Buf
  /-- The bytes read, when any were. -/
  word : Option Buf

/-- The functions of libcmt that the batch decoders call. -/
structure Libcmt where
  /-- `cmt_buf_init`. -/
  bufInit (length : BitVec 64) (data : Pointer) : Buf
  /-- `cmt_buf_length`. -/
  bufLength (me : Buf) : BitVec 64
  /-- `cmt_buf_split`. -/
  bufSplit (me : Buf) (lhsLength : BitVec 64) : Returned Parts
  /-- `CMT_ABI_FUNSEL`. -/
  funsel (a b c d : UInt8) : UInt32
  /-- `cmt_abi_check_funsel`; the buffer after the selector. -/
  checkFunsel (memory : Memory) (me : Buf) (expected : UInt32) : Returned Buf
  /-- `cmt_abi_mark_frame`. -/
  markFrame (me : Buf) : Returned Buf
  /-- `cmt_abi_get_address`; the address and the buffer after its word. -/
  getAddress (memory : Memory) (me : Buf) : Returned (Address × Buf)
  /-- `cmt_abi_get_uint256`; the word and the buffer after it. -/
  getUint256 (memory : Memory) (me : Buf) : Returned (Bytes32 × Buf)
  /-- `cmt_abi_get_uint` for a number of the given size in bytes. -/
  getUint (memory : Memory) (me : Buf) (size : ℕ) : Returned Uint
  /-- `cmt_abi_get_bytes_s`; the offset word and the buffer after it. -/
  getBytesS (me : Buf) : Returned Parts
  /-- `cmt_abi_get_bytes_d`. -/
  getBytesD (memory : Memory) (start offset : Buf) : Returned AbiBytes

/-- What the parser relies on of libcmt. -/
structure Libcmt.Documented (libcmt : Libcmt) : Prop where
  /-- A buffer is initialised from its first byte and its length. -/
  bufInit : ∀ length data, libcmt.bufInit length data = ⟨data, data + length⟩
  /-- The length of a buffer is the distance of its pointers. -/
  bufLength : ∀ me, libcmt.bufLength me = me.stop - me.begin
  /-- A split succeeds when the part taken ends no later than the buffer, as addresses. -/
  bufSplit_code : ∀ me lhsLength,
    (libcmt.bufSplit me lhsLength).code = 0 ↔ me.begin + lhsLength ≤ me.stop
  /-- A split that succeeds takes the part and leaves what follows. -/
  bufSplit_out : ∀ me lhsLength, (libcmt.bufSplit me lhsLength).code = 0 →
    (libcmt.bufSplit me lhsLength).out =
      ⟨⟨me.begin, me.begin + lhsLength⟩, ⟨me.begin + lhsLength, me.stop⟩⟩
  /-- A selector is matched only in a buffer that holds its four bytes, and is then dropped. -/
  checkFunsel : ∀ memory me expected, (libcmt.checkFunsel memory me expected).code = 0 →
    4 ≤ (libcmt.bufLength me) ∧
      (libcmt.checkFunsel memory me expected).out = ⟨me.begin + 4, me.stop⟩
  /-- The frame is the buffer as it stands. -/
  markFrame : ∀ me, libcmt.markFrame me = ⟨0, me⟩
  /-- An address takes one word of the buffer. -/
  getAddress : ∀ memory me, (libcmt.getAddress memory me).code = 0 →
    (libcmt.bufSplit me 32).code = 0 ∧
      (libcmt.getAddress memory me).out.2 = (libcmt.bufSplit me 32).out.rhs
  /-- A 256-bit number takes one word of the buffer. -/
  getUint256 : ∀ memory me, (libcmt.getUint256 memory me).code = 0 →
    (libcmt.bufSplit me 32).code = 0 ∧
      (libcmt.getUint256 memory me).out.2 = (libcmt.bufSplit me 32).out.rhs
  /-- A number reads one word of the buffer, or nothing when there is none. -/
  getUint_word : ∀ memory me size, (libcmt.getUint memory me size).out.word =
    if (libcmt.bufSplit me 32).code = 0 then some (libcmt.bufSplit me 32).out.lhs else none
  /-- A number is read when there is a word whose big-endian value fits the size. -/
  getUint_code : ∀ memory me size, (libcmt.getUint memory me size).code = 0 ↔
    (libcmt.bufSplit me 32).code = 0 ∧ (memory.bytes me.begin 32).toNat < 256 ^ size
  /-- The number read is the value of the word, which leaves the buffer. -/
  getUint_out : ∀ memory me size, (libcmt.getUint memory me size).code = 0 →
    (libcmt.getUint memory me size).out.value = (memory.bytes me.begin 32).toNat ∧
      (libcmt.getUint memory me size).out.rest = (libcmt.bufSplit me 32).out.rhs
  /-- An offset word is one word of the buffer, not yet read. -/
  getBytesS : ∀ me, libcmt.getBytesS me = libcmt.bufSplit me 32

/-- The documented functions, each built on the split. -/
def Libcmt.reference : Libcmt where
  bufInit length data := ⟨data, data + length⟩
  bufLength me := me.stop - me.begin
  bufSplit := split
  funsel a b c d := a.toUInt32 + (b.toUInt32 <<< 8) + (c.toUInt32 <<< 16) + (d.toUInt32 <<< 24)
  checkFunsel memory me expected :=
    if me.stop - me.begin < 4 then ⟨-enobufs, me⟩
    else if selector memory me = expected.toNat then ⟨0, ⟨me.begin + 4, me.stop⟩⟩
    else ⟨-ebadmsg, me⟩
  markFrame me := ⟨0, me⟩
  getAddress memory me :=
    ⟨(split me 32).code, memory.bytes (me.begin + 12) 20, (split me 32).out.rhs⟩
  getUint256 memory me := ⟨(split me 32).code, memory.bytes me.begin 32, (split me 32).out.rhs⟩
  getUint := uint
  getBytesS me := split me 32
  getBytesD memory start offset :=
    let position := uint memory offset 8
    let size := uint memory ⟨start.begin + BitVec.ofNat 64 position.out.value, start.stop⟩ 8
    let data := split size.out.rest (BitVec.ofNat 64 size.out.value)
    let code := if position.code ≠ 0 then position.code
      else if size.code ≠ 0 then size.code else data.code
    ⟨code, BitVec.ofNat 64 size.out.value, data.out.lhs.begin⟩
where
  /-- Take bytes from the front. -/
  split (me : Buf) (lhsLength : BitVec 64) : Returned Parts :=
    ⟨if me.begin + lhsLength ≤ me.stop then 0 else -enobufs,
      ⟨me.begin, me.begin + lhsLength⟩, ⟨me.begin + lhsLength, me.stop⟩⟩
  /-- Read a word as a number of a size. -/
  uint (memory : Memory) (me : Buf) (size : ℕ) : Returned Uint :=
    let value := (memory.bytes me.begin 32).toNat
    if (split me 32).code ≠ 0 then ⟨-enobufs, value, (split me 32).out.rhs, none⟩
    else ⟨if value < 256 ^ size then 0 else -edom, value, (split me 32).out.rhs,
      some (split me 32).out.lhs⟩
  /-- The first four bytes as a machine number, least significant byte first. -/
  selector (memory : Memory) (me : Buf) : ℕ :=
    Bytes.listNat (memory.bytes me.begin 4).toList.reverse
  /-- `EBADMSG` of the C library. -/
  ebadmsg : Int := 74
  /-- `EDOM` of the C library. -/
  edom : Int := 33

/-- The reference functions behave as documented. -/
theorem Libcmt.reference_documented : Libcmt.reference.Documented where
  bufInit _ _ := rfl
  bufLength _ := rfl
  bufSplit_code me lhsLength := by
    show (if _ then (0 : Int) else -enobufs) = 0 ↔ _
    split
    next fits => exact iff_of_true rfl fits
    next short => exact iff_of_false (by decide) short
  bufSplit_out _ _ _ := rfl
  checkFunsel memory me expected succeeds := by
    change (if _ then (⟨-enobufs, me⟩ : Returned Buf) else if _ then _ else _).code = 0 at succeeds
    show 4 ≤ me.stop - me.begin ∧ (if _ then (⟨-enobufs, me⟩ : Returned Buf)
      else if _ then _ else _).out = _
    by_cases short : me.stop - me.begin < 4
    · rw [if_pos short] at succeeds
      exact absurd (show -enobufs = 0 from succeeds) (by decide)
    · rw [if_neg short] at succeeds ⊢
      by_cases same : Libcmt.reference.selector memory me = expected.toNat
      · rw [if_pos same]
        exact ⟨BitVec.not_lt.mp short, rfl⟩
      · rw [if_neg same] at succeeds
        exact absurd (show -Libcmt.reference.ebadmsg = 0 from succeeds) (by decide)
  markFrame _ := rfl
  getAddress _ _ succeeds := ⟨succeeds, rfl⟩
  getUint256 _ _ succeeds := ⟨succeeds, rfl⟩
  getUint_word memory me size := by
    show (if _ then _ else _ : Returned Uint).out.word = _
    by_cases succeeds : (Libcmt.reference.split me 32).code = 0
    · rw [if_neg (not_not.mpr succeeds)]
      exact (if_pos succeeds).symm
    · rw [if_pos succeeds]
      exact (if_neg succeeds).symm
  getUint_code memory me size := by
    show (if _ then _ else _ : Returned Uint).code = 0 ↔ _
    by_cases succeeds : (Libcmt.reference.split me 32).code = 0
    · rw [if_neg (not_not.mpr succeeds)]
      show (if _ then (0 : Int) else _) = 0 ↔ _
      split
      next fits => exact iff_of_true rfl ⟨succeeds, fits⟩
      next large => exact iff_of_false (by decide) fun both => large both.2
    · rw [if_pos succeeds]
      exact iff_of_false (show ¬-enobufs = 0 by decide) fun both => succeeds both.1
  getUint_out memory me size succeeds := by
    show (if _ then _ else _ : Returned Uint).out.value = _ ∧
      (if _ then _ else _ : Returned Uint).out.rest = _
    split <;> exact ⟨rfl, rfl⟩
  getBytesS _ := rfl

end Libcma.Parser
