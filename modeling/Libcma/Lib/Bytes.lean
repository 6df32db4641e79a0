import Mathlib.Data.Vector.Basic
import Mathlib.Tactic.Ring
import Mathlib.Tactic.Linarith

/-!
# Big-endian byte strings

Byte strings of a fixed length, read as numbers with the most significant byte first.
-/

/-- Byte strings of a fixed length. -/
abbrev Bytes (length : ℕ) : Type := List.Vector UInt8 length

namespace Bytes

/-- The number a list of bytes denotes, most significant byte first. -/
def listNat : List UInt8 → ℕ
  | [] => 0
  | byte :: rest => byte.toNat * 256 ^ rest.length + listNat rest

/-- A list of bytes denotes a number below the range of its length. -/
theorem listNat_lt (bytes : List UInt8) : listNat bytes < 256 ^ bytes.length := by
  induction bytes with
  | nil => simp [listNat]
  | cons byte rest ih =>
    have digit : byte.toNat + 1 ≤ 256 := byte.toNat_lt
    calc
      listNat (byte :: rest) < byte.toNat * 256 ^ rest.length + 256 ^ rest.length :=
        Nat.add_lt_add_left ih _
      _ = (byte.toNat + 1) * 256 ^ rest.length := by ring
      _ ≤ 256 * 256 ^ rest.length := Nat.mul_le_mul_right _ digit
      _ = 256 ^ (byte :: rest).length := by rw [List.length_cons, Nat.pow_succ, Nat.mul_comm]

/-- Two byte lists of one length that denote the same number are the same list. -/
theorem listNat_injective {left right : List UInt8} (aligned : left.length = right.length)
    (same : listNat left = listNat right) : left = right := by
  induction left generalizing right with
  | nil => exact (List.length_eq_zero_iff.mp aligned.symm).symm
  | cons byte rest ih =>
    cases right with
    | nil => simp at aligned
    | cons other others =>
      simp only [List.length_cons, Nat.add_right_cancel_iff] at aligned
      have low := listNat_lt rest
      have high := listNat_lt others
      rw [← aligned] at high
      simp only [listNat, ← aligned] at same
      have digits : byte.toNat = other.toNat := by
        have first := congrArg (· / 256 ^ rest.length) same
        simpa [Nat.mul_add_div, Nat.add_comm, Nat.mul_comm,
          Nat.add_mul_div_left, Nat.div_eq_of_lt low, Nat.div_eq_of_lt high] using first
      rw [digits, Nat.add_left_cancel_iff] at same
      rw [UInt8.toNat_inj.mp digits, ih aligned same]

/-- A list of zero bytes denotes zero. -/
theorem listNat_zeros (length : ℕ) : listNat (List.replicate length 0) = 0 := by
  induction length with
  | zero => rfl
  | succ length ih => simp [List.replicate_succ, listNat, ih]

/-- Zero bytes in front change nothing. -/
theorem listNat_zeros_append (count : ℕ) (bytes : List UInt8) :
    listNat (List.replicate count 0 ++ bytes) = listNat bytes := by
  induction count with
  | zero => rfl
  | succ count ih => simp [List.replicate_succ, listNat, ih]

/-- The bytes in front count in units of the range of those behind. -/
theorem listNat_append (front back : List UInt8) :
    listNat (front ++ back) = listNat front * 256 ^ back.length + listNat back := by
  induction front with
  | nil => simp [listNat]
  | cons byte rest ih =>
    rw [List.cons_append, listNat, listNat, ih, List.length_append, Nat.pow_add]
    ring

/-- A list of bytes denotes zero when all are zero. -/
theorem listNat_eq_zero (bytes : List UInt8) : listNat bytes = 0 ↔ ∀ byte ∈ bytes, byte = 0 := by
  induction bytes with
  | nil => simp [listNat]
  | cons byte rest ih =>
    have positive : 256 ^ rest.length ≠ 0 := Nat.ne_of_gt (Nat.pow_pos (by decide))
    have first : byte.toNat = 0 ↔ byte = 0 := UInt8.toNat_inj (b := 0)
    rw [listNat, Nat.add_eq_zero_iff, Nat.mul_eq_zero, or_iff_left positive, first, ih,
      List.forall_mem_cons]

/-- The bytes of a number, most significant first; digits past the length are dropped. -/
def listOf : ℕ → ℕ → List UInt8
  | 0, _ => []
  | length + 1, value => (value / 256 ^ length).toUInt8 :: listOf length (value % 256 ^ length)

/-- The bytes of a number have the length asked for. -/
theorem length_listOf (length value : ℕ) : (listOf length value).length = length := by
  induction length generalizing value with
  | zero => rfl
  | succ length ih => simp [listOf, ih]

/-- The bytes of a number in range denote it. -/
theorem listNat_listOf {length value : ℕ} (inRange : value < 256 ^ length) :
    listNat (listOf length value) = value := by
  induction length generalizing value with
  | zero =>
    simp only [Nat.pow_zero, Nat.lt_one_iff] at inRange
    simp [listOf, listNat, inRange]
  | succ length ih =>
    have positive : 0 < 256 ^ length := Nat.pow_pos (by decide)
    have digit : value / 256 ^ length < 256 := by
      rw [Nat.div_lt_iff_lt_mul positive, Nat.mul_comm, ← Nat.pow_succ]
      exact inRange
    have rest := ih (Nat.mod_lt value positive)
    simp only [listOf, listNat, length_listOf, rest]
    rw [show (value / 256 ^ length).toUInt8.toNat = value / 256 ^ length from
      Nat.mod_eq_of_lt digit]
    exact Nat.div_add_mod' value (256 ^ length)

end Bytes

namespace List.Vector

variable {length : ℕ}

/-- The number a byte string denotes. -/
def toNat (bytes : Bytes length) : ℕ := Bytes.listNat bytes.toList

/-- The byte string of a number. -/
def ofNat (length value : ℕ) : Bytes length :=
  ⟨Bytes.listOf length value, Bytes.length_listOf length value⟩

/-- A byte string denotes a number in the range of its length. -/
theorem toNat_lt (bytes : Bytes length) : bytes.toNat < 256 ^ length := by
  have bound := Bytes.listNat_lt bytes.toList
  rwa [List.Vector.toList_length] at bound

/-- Byte strings that denote the same number are equal. -/
theorem toNat_inj {left right : Bytes length} : left.toNat = right.toNat ↔ left = right := by
  constructor
  · intro same
    exact List.Vector.eq _ _ (Bytes.listNat_injective (by simp) same)
  · rintro rfl
    rfl

/-- Writing a number in range and reading it returns it. -/
theorem toNat_ofNat {value : ℕ} (inRange : value < 256 ^ length) :
    (ofNat length value).toNat = value :=
  Bytes.listNat_listOf inRange

end List.Vector
