import Libcma.Parser.Standard

/-!
# The putting half of libcmt

The functions of libcmt that the voucher encoders call besides those of the decoders. A put that
fits in its buffer succeeds, writes its bytes and leaves the buffer behind them
(`LibcmtPut.Standard`); a part or a byte string that does not fit is refused (`LibcmtPut.Refuses`).
Nothing else is relied on of a put that fails, not even that it writes nothing.

`reserveUints` and `putUint256List` are the helpers of `parser_impl.cpp` for lists.
-/

namespace Libcma.Parser

/-- Put bytes into the memory from an address on. -/
def Memory.write (memory : Memory) (start : Pointer) (bytes : List UInt8) : Memory :=
  Cells.write memory start bytes

/-- The functions of libcmt that the voucher encoders call, after those of the decoders. -/
structure LibcmtPut extends Libcmt where
  /-- `cmt_abi_put_funsel`; the memory and the buffer after the selector. -/
  putFunsel (memory : Memory) (me : Buf) (funsel : UInt32) : Returned (Memory × Buf)
  /-- `cmt_abi_put_address`. -/
  putAddress (memory : Memory) (me : Buf) (address : Address) : Returned (Memory × Buf)
  /-- `cmt_abi_put_uint256`. -/
  putUint256 (memory : Memory) (me : Buf) (value : Bytes32) : Returned (Memory × Buf)
  /-- `cmt_abi_put_bytes_s`; the reserved word and the buffer after it. -/
  putBytesS (me : Buf) : Returned Parts
  /-- `cmt_abi_put_bytes_d`; the offset word is `offset`, counted from the frame. -/
  putBytesD (memory : Memory) (me offset frame : Buf) (data : List UInt8) : Returned (Memory × Buf)
  /-- `cmt_abi_encode_uint` of a number of the given size in bytes. -/
  encodeUint (memory : Memory) (size value : ℕ) (out : Pointer) : Returned Memory

/-- The putting functions on the standard encoding. -/
structure LibcmtPut.Standard (libcmt : LibcmtPut) : Prop
    extends Libcmt.Standard libcmt.toLibcmt where
  /-- A selector puts its four bytes in order. -/
  putFunsel : ∀ memory me a b c d, Fits me 4 →
    libcmt.putFunsel memory me (libcmt.funsel a b c d) =
      ⟨0, memory.write me.begin [a, b, c, d], ⟨me.begin + 4, me.stop⟩⟩
  /-- An address puts its word. -/
  putAddress : ∀ memory me address, Fits me 32 → libcmt.putAddress memory me address =
    ⟨0, memory.write me.begin (addressWord address), ⟨me.begin + 32, me.stop⟩⟩
  /-- A 256-bit number puts its bytes. -/
  putUint256 : ∀ memory me value, Fits me 32 → libcmt.putUint256 memory me value =
    ⟨0, memory.write me.begin value.toList, ⟨me.begin + 32, me.stop⟩⟩
  /-- An offset word is reserved, and not yet written. -/
  putBytesS : ∀ me, libcmt.putBytesS me = libcmt.bufSplit me 32
  /-- A byte string puts its offset, its length and its bytes, which take whole words. The bytes
  after it may be any. -/
  putBytesD : ∀ memory me offset frame data, Fits me (32 + Abi.paddedLength data.length) →
    ∃ padding : List UInt8, padding.length = Abi.paddedLength data.length - data.length ∧
      libcmt.putBytesD memory me offset frame data =
        ⟨0, ((memory.write offset.begin (Abi.word (me.begin - frame.begin).toNat)).write me.begin
          (Abi.word data.length)).write (me.begin + 32) (data ++ padding),
          ⟨me.begin + 32 + BitVec.ofNat 64 (Abi.paddedLength data.length), me.stop⟩⟩
  /-- A number that has the size puts its word. -/
  encodeUint : ∀ memory size value out, size ≤ 32 → value < 256 ^ size →
    libcmt.encodeUint memory size value out = ⟨0, memory.write out (Abi.word value)⟩

/-- The functions that take more of a buffer than it has refuse. -/
structure LibcmtPut.Refuses (libcmt : LibcmtPut) : Prop where
  /-- A part is split off only where it fits. -/
  bufSplit : ∀ me lhsLength, me.begin ≤ me.stop → (libcmt.bufSplit me lhsLength).code = 0 →
    Fits me lhsLength.toNat
  /-- A byte string is put only where its length and its whole words fit. -/
  putBytesD : ∀ memory me offset frame data, me.begin ≤ me.stop →
    Abi.paddedLength data.length < 2 ^ 64 →
      (libcmt.putBytesD memory me offset frame data).code = 0 →
        Fits me (32 + Abi.paddedLength data.length)

/-- The bytes of a machine number, least significant byte first. -/
def funselBytes (funsel : UInt32) : List UInt8 :=
  [funsel.toUInt8, (funsel >>> 8).toUInt8, (funsel >>> 16).toUInt8, (funsel >>> 24).toUInt8]

/-- The documented functions, which pad with zeros. -/
def LibcmtPut.reference : LibcmtPut where
  toLibcmt := Libcmt.exact
  putFunsel memory me funsel :=
    ⟨(Libcmt.exact.split me 4).code, memory.write me.begin (funselBytes funsel),
      (Libcmt.exact.split me 4).out.rhs⟩
  putAddress memory me address :=
    ⟨(Libcmt.exact.split me 32).code, memory.write me.begin (addressWord address),
      (Libcmt.exact.split me 32).out.rhs⟩
  putUint256 memory me value :=
    ⟨(Libcmt.exact.split me 32).code, memory.write me.begin value.toList,
      (Libcmt.exact.split me 32).out.rhs⟩
  putBytesS me := Libcmt.exact.split me 32
  putBytesD memory me offset frame data :=
    let size := Libcmt.exact.split me 32
    let length := Abi.paddedLength data.length
    let out := Libcmt.exact.split size.out.rhs (BitVec.ofNat 64 length)
    ⟨if size.code ≠ 0 then size.code else out.code,
      ((memory.write offset.begin (Abi.word (me.begin - frame.begin).toNat)).write me.begin
        (Abi.word data.length)).write out.out.lhs.begin
          (data ++ List.replicate (length - data.length) 0), out.out.rhs⟩
  encodeUint memory size value out :=
    ⟨if value < 256 ^ size then 0 else -Libcmt.reference.edom, memory.write out (Abi.word value)⟩

/-- The bytes of a selector, from its machine number. -/
theorem funselBytes_funsel (a b c d : UInt8) :
    funselBytes (Libcmt.reference.funsel a b c d) = [a, b, c, d] := by
  have first := a.toNat_lt
  have second := b.toNat_lt
  have third := c.toNat_lt
  have fourth := d.toNat_lt
  have shifts : (8 : UInt32).toNat % 32 = 8 ∧ (16 : UInt32).toNat % 32 = 16 ∧
      (24 : UInt32).toNat % 32 = 24 := by decide
  have value := toNat_funsel a b c d
  simp only [funselBytes, List.cons.injEq, ← UInt8.toNat_inj, UInt32.toNat_toUInt8,
    UInt32.toNat_shiftRight, Nat.shiftRight_eq_div_pow, shifts.1, shifts.2.1, shifts.2.2, value,
    and_true]
  omega

/-- A part that fits is split off. -/
theorem Fits.exact_split {me : Buf} {lhsLength : BitVec 64} (fits : Fits me lhsLength.toNat) :
    Libcmt.exact.split me lhsLength =
      ⟨0, ⟨⟨me.begin, me.begin + lhsLength⟩, ⟨me.begin + lhsLength, me.stop⟩⟩⟩ :=
  Libcmt.exact_standard.bufSplit me lhsLength fits

/-- The reference split compares lengths. -/
theorem Fits.of_exact_split {me : Buf} {lhsLength : BitVec 64} (ordered : me.begin ≤ me.stop)
    (taken : (Libcmt.exact.split me lhsLength).code = 0) : Fits me lhsLength.toNat := by
  have lengths : lhsLength ≤ me.stop - me.begin := by
    by_contra longer
    change (if _ then (0 : Int) else _) = 0 at taken
    rw [if_neg longer] at taken
    exact absurd taken (by decide)
  rw [BitVec.le_def, BitVec.toNat_sub_of_le ordered] at lengths
  rw [BitVec.le_def] at ordered
  rw [Fits]
  omega

/-- The reference functions are the standard ones on the standard encoding. -/
theorem LibcmtPut.reference_standard : LibcmtPut.reference.Standard where
  toStandard := Libcmt.exact_standard
  putFunsel memory me a b c d fits := by
    have taken := Fits.exact_split (show Fits me (4 : BitVec 64).toNat from fits)
    show (⟨(Libcmt.exact.split me 4).code,
      memory.write me.begin (funselBytes (Libcmt.reference.funsel a b c d)),
        (Libcmt.exact.split me 4).out.rhs⟩ : Returned (Memory × Buf)) = _
    rw [taken, funselBytes_funsel]
  putAddress memory me address fits := by
    have taken := Fits.exact_split (show Fits me (32 : BitVec 64).toNat from fits)
    show (⟨(Libcmt.exact.split me 32).code, _, (Libcmt.exact.split me 32).out.rhs⟩ :
      Returned (Memory × Buf)) = _
    rw [taken]
  putUint256 memory me value fits := by
    have taken := Fits.exact_split (show Fits me (32 : BitVec 64).toNat from fits)
    show (⟨(Libcmt.exact.split me 32).code, _, (Libcmt.exact.split me 32).out.rhs⟩ :
      Returned (Memory × Buf)) = _
    rw [taken]
  putBytesS _ := rfl
  putBytesD memory me offset frame data fits := by
    have bound := me.stop.isLt
    rw [Fits] at fits
    have sizeFits : Fits me (32 : BitVec 64).toNat := by
      show me.begin.toNat + 32 ≤ me.stop.toNat
      omega
    have sizeTaken := sizeFits.exact_split
    have length : (BitVec.ofNat 64 (Abi.paddedLength data.length)).toNat =
        Abi.paddedLength data.length := Nat.mod_eq_of_lt (by omega)
    have behind : (me.begin + 32).toNat = me.begin.toNat + 32 := by
      have word : (32 : BitVec 64).toNat = 32 := rfl
      rw [BitVec.toNat_add, word, Nat.mod_eq_of_lt (by omega)]
    have outFits : Fits ⟨me.begin + 32, me.stop⟩
        (BitVec.ofNat 64 (Abi.paddedLength data.length)).toNat := by
      show (me.begin + 32).toNat + _ ≤ me.stop.toNat
      omega
    refine ⟨List.replicate (Abi.paddedLength data.length - data.length) 0,
      List.length_replicate, ?_⟩
    show LibcmtPut.reference.putBytesD memory me offset frame data = _
    simp only [LibcmtPut.reference, sizeTaken, outFits.exact_split, ne_eq, not_true_eq_false,
      if_false]
  encodeUint memory size value out _ inRange := by
    show (⟨if value < 256 ^ size then 0 else _, _⟩ : Returned Memory) = _
    rw [if_pos inRange]

/-- The reference functions refuse what does not fit. -/
theorem LibcmtPut.reference_refuses : LibcmtPut.reference.Refuses where
  bufSplit _ _ ordered taken := Fits.of_exact_split ordered taken
  putBytesD memory me offset frame data ordered small succeeds := by
    have length : (BitVec.ofNat 64 (Abi.paddedLength data.length)).toNat =
        Abi.paddedLength data.length := Nat.mod_eq_of_lt small
    by_cases sizeTaken : (Libcmt.exact.split me 32).code = 0
    · have sizeFits : Fits me 32 := Fits.of_exact_split ordered sizeTaken
      have split := Fits.exact_split (show Fits me (32 : BitVec 64).toNat from sizeFits)
      change (if (Libcmt.exact.split me 32).code ≠ 0 then _ else
        (Libcmt.exact.split (Libcmt.exact.split me 32).out.rhs _).code) = (0 : Int) at succeeds
      rw [if_neg (not_not.mpr sizeTaken), split] at succeeds
      rw [Fits] at sizeFits
      have bound := me.stop.isLt
      have behind : (me.begin + 32).toNat = me.begin.toNat + 32 := by
        have word : (32 : BitVec 64).toNat = 32 := rfl
        rw [BitVec.toNat_add, word, Nat.mod_eq_of_lt (by omega)]
      have rest := Fits.of_exact_split (BitVec.le_def.mpr (by
        show (me.begin + 32).toNat ≤ me.stop.toNat
        omega)) succeeds
      rw [Fits, length] at rest
      change (me.begin + 32).toNat + _ ≤ me.stop.toNat at rest
      rw [Fits]
      omega
    · change (if (Libcmt.exact.split me 32).code ≠ 0 then _ else _) = (0 : Int) at succeeds
      rw [if_pos sizeTaken] at succeeds
      exact absurd succeeds sizeTaken

section

variable (libcmt : LibcmtPut)

/-- `cma_abi_reserve_uints_d`; the memory, the buffer after the elements and the elements'. -/
def reserveUints (memory : Memory) (me offset : Buf) (count : BitVec 64) (start : Pointer) :
    Returned (Memory × Buf × Buf) :=
  let size := count * u256Length
  let uints := libcmt.bufSplit me u256Length
  if uints.code ≠ 0 then ⟨uints.code, memory, me, ⟨0, 0⟩⟩
  else
    let out := libcmt.bufSplit uints.out.rhs size
    if out.code ≠ 0 then ⟨out.code, memory, me, ⟨0, 0⟩⟩
    else
      let position := uints.out.lhs.begin - start
      let offsetPut := libcmt.encodeUint memory 8 position.toNat offset.begin
      if offsetPut.code ≠ 0 then ⟨offsetPut.code, offsetPut.out, me, out.out.lhs⟩
      else
        let countPut := libcmt.encodeUint offsetPut.out 8 count.toNat uints.out.lhs.begin
        if countPut.code ≠ 0 then ⟨countPut.code, countPut.out, me, out.out.lhs⟩
        -- commit the buffer changes
        else ⟨0, countPut.out, out.out.rhs, out.out.lhs⟩

/-- `cma_abi_put_uint256_list_d`; the memory and the buffer after the list. -/
def putUint256List (memory : Memory) (me offset frame : Buf) (list : List Bytes32) :
    Returned (Memory × Buf) :=
  let reserved :=
    reserveUints libcmt memory me offset (BitVec.ofNat 64 list.length) frame.begin
  if reserved.code ≠ 0 then ⟨reserved.code, reserved.out.1, reserved.out.2.1⟩
  else ⟨0, reserved.out.1.write reserved.out.2.2.begin (list.flatMap List.Vector.toList),
    reserved.out.2.1⟩

end

end Libcma.Parser
