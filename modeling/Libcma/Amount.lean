import Libcma.Types
import Mathlib.Tactic.Ring
import Mathlib.Tactic.Linarith

/-!
# Checked arithmetic on amounts

`src/utils.cpp`: addition and subtraction of 32-byte big-endian amounts, byte by byte from the
least significant end with a 16-bit carry or borrow, and the two comparisons with constants. The
loops compute the sum and the difference modulo 2²⁵⁶ and report whether they were in range.
-/

namespace Libcma

/-- `amount.data[j]`. -/
def byteAt (amount : Amount) (j : ℕ) : UInt8 := amount.toList.getD j 0

/-- The loop of `amount_checked_add`; `done` holds `res.data` from index `j` on. -/
def addLoop (a b : Amount) : (j : ℕ) → (carry : UInt16) → (done : List UInt8) →
    List UInt8 × UInt16
  | 0, carry, done => (done, carry)
  | j + 1, carry, done =>
    let tmp := carry + (byteAt a j).toUInt16 + (byteAt b j).toUInt16
    addLoop a b j (tmp >>> 8) (tmp.toUInt8 :: done)

/-- The loop of `amount_checked_sub`. -/
def subLoop (a b : Amount) : (j : ℕ) → (borrow : UInt16) → (done : List UInt8) →
    List UInt8 × UInt16
  | 0, borrow, done => (done, borrow)
  | j + 1, borrow, done =>
    let aJ := (byteAt a j).toUInt16
    let bJ := (byteAt b j).toUInt16
    if borrow + bJ > aJ then
      subLoop a b j 1 ((aJ + 256 - borrow - bJ).toUInt8 :: done)
    else
      subLoop a b j 0 ((aJ - borrow - bJ).toUInt8 :: done)

/-- The addition loop writes one byte for each index. -/
theorem length_addLoop (a b : Amount) (j : ℕ) (carry : UInt16) (done : List UInt8) :
    (addLoop a b j carry done).1.length = j + done.length := by
  induction j generalizing carry done with
  | zero => simp [addLoop]
  | succ j ih =>
    rw [addLoop, ih, List.length_cons]
    omega

/-- The subtraction loop writes one byte for each index. -/
theorem length_subLoop (a b : Amount) (j : ℕ) (borrow : UInt16) (done : List UInt8) :
    (subLoop a b j borrow done).1.length = j + done.length := by
  induction j generalizing borrow done with
  | zero => simp [subLoop]
  | succ j ih =>
    rw [subLoop]
    split <;> rw [ih, List.length_cons] <;> omega

/-- `amount_checked_add`: the sum modulo 2²⁵⁶, and whether no carry was left. -/
def amountCheckedAdd (a b : Amount) : Amount × Bool :=
  (⟨(addLoop a b 32 0 []).1, length_addLoop a b 32 0 []⟩, (addLoop a b 32 0 []).2 == 0)

/-- `amount_checked_sub`: the difference modulo 2²⁵⁶, and whether no borrow was left. -/
def amountCheckedSub (a b : Amount) : Amount × Bool :=
  (⟨(subLoop a b 32 0 []).1, length_subLoop a b 32 0 []⟩, (subLoop a b 32 0 []).2 == 0)

/-- `is_zero`. -/
def isZero (amount : Amount) : Bool := amount = zeros 32

/-- An amount below 256. -/
def smallAmount (byte : UInt8) : Amount := ⟨List.replicate 31 0 ++ [byte], by simp⟩

/-- The constant `is_one` compares with. -/
def oneAmount : Amount := smallAmount 1

/-- `is_one`. -/
def isOne (amount : Amount) : Bool := amount = oneAmount

/-- The zero amount denotes zero. -/
@[simp] theorem toNat_zeros (length : ℕ) : (zeros length).toNat = 0 :=
  Bytes.listNat_zeros length

/-- The constant one denotes one. -/
@[simp] theorem toNat_oneAmount : oneAmount.toNat = 1 := by decide

/-- `is_zero` tests for the number zero. -/
theorem isZero_iff (amount : Amount) : isZero amount = true ↔ amount.toNat = 0 := by
  rw [isZero, decide_eq_true_eq, ← List.Vector.toNat_inj, toNat_zeros]

/-- `is_one` tests for the number one. -/
theorem isOne_iff (amount : Amount) : isOne amount = true ↔ amount.toNat = 1 := by
  rw [isOne, decide_eq_true_eq, ← List.Vector.toNat_inj, toNat_oneAmount]

/-- The number denoted by the bytes of an amount from an index on. -/
def tailNat (amount : Amount) (j : ℕ) : ℕ := Bytes.listNat (amount.toList.drop j)

/-- A tail is its first byte and the next tail. -/
theorem tailNat_succ (amount : Amount) {j : ℕ} (inside : j < 32) :
    tailNat amount j = (byteAt amount j).toNat * 256 ^ (31 - j) + tailNat amount (j + 1) := by
  have bound : j < amount.toList.length := by simpa using inside
  have digits : (amount.toList.drop (j + 1)).length = 31 - j := by
    simp only [List.length_drop, List.Vector.toList_length]
    omega
  have byte : byteAt amount j = amount.toList[j] := by
    rw [byteAt, List.getD_eq_getElem?_getD, List.getElem?_eq_getElem bound, Option.getD_some]
  rw [tailNat, List.drop_eq_getElem_cons bound, Bytes.listNat, digits, byte]
  rfl

/-- No bytes are left past the end. -/
theorem tailNat_end (amount : Amount) : tailNat amount 32 = 0 := by
  rw [tailNat, List.drop_of_length_le (by simp)]
  rfl

/-- One step of the addition: the written byte and the new carry hold the column's sum, and the
16-bit sum does not wrap. -/
theorem addStep (x y : UInt8) (carry : UInt16) (small : carry.toNat ≤ 1) :
    let tmp := carry + x.toUInt16 + y.toUInt16
    tmp.toUInt8.toNat + 256 * (tmp >>> 8).toNat = carry.toNat + x.toNat + y.toNat ∧
      (tmp >>> 8).toNat ≤ 1 := by
  have hx := x.toNat_lt
  have hy := y.toNat_lt
  have exact : (carry + x.toUInt16 + y.toUInt16).toNat = carry.toNat + x.toNat + y.toNat := by
    simp only [UInt16.toNat_add, UInt8.toNat_toUInt16]
    omega
  simp only [UInt16.toNat_toUInt8, UInt16.toNat_shiftRight, exact]
  change _ % 256 + 256 * (_ >>> 8) = _ ∧ _ >>> 8 ≤ 1
  rw [Nat.shiftRight_eq_div_pow]
  omega

/-- The addition loop: what is written and the carry hold the sum of the two tails. -/
theorem addLoop_exact (a b : Amount) (j : ℕ) (carry : UInt16) (done : List UInt8)
    (bound : j ≤ 32) (written : done.length = 32 - j) (small : carry.toNat ≤ 1)
    (holds : Bytes.listNat done + carry.toNat * 256 ^ (32 - j) = tailNat a j + tailNat b j) :
    Bytes.listNat (addLoop a b j carry done).1 + (addLoop a b j carry done).2.toNat * 256 ^ 32 =
        a.toNat + b.toNat ∧ (addLoop a b j carry done).2.toNat ≤ 1 := by
  induction j generalizing carry done with
  | zero => exact ⟨holds, small⟩
  | succ j ih =>
    obtain ⟨column, next⟩ := addStep (byteAt a j) (byteAt b j) carry small
    rw [addLoop]
    refine ih _ _ (by omega) (by rw [List.length_cons]; omega) next ?_
    have power : (256 : ℕ) ^ (32 - j) = 256 * 256 ^ (31 - j) := by
      rw [show 32 - j = (31 - j) + 1 by omega, Nat.pow_succ, Nat.mul_comm]
    have digits : 32 - (j + 1) = 31 - j := by omega
    rw [digits] at written holds
    rw [Bytes.listNat, written, tailNat_succ a (by omega), tailNat_succ b (by omega), power]
    have scaled := congrArg (· * 256 ^ (31 - j)) column
    simp only [Nat.add_mul] at scaled
    linarith only [holds, scaled]

/-- One step of the subtraction when a borrow is needed. -/
theorem subStep_borrow (x y : UInt8) (borrow : UInt16) (small : borrow.toNat ≤ 1)
    (needed : borrow + y.toUInt16 > x.toUInt16) :
    (x.toUInt16 + 256 - borrow - y.toUInt16).toUInt8.toNat + borrow.toNat + y.toNat =
      x.toNat + 256 := by
  have hx := x.toNat_lt
  have hy := y.toNat_lt
  rw [gt_iff_lt, UInt16.lt_iff_toNat_lt] at needed
  simp only [UInt16.toNat_add, UInt8.toNat_toUInt16, UInt16.toNat_toUInt8, UInt16.toNat_sub] at *
  change ((_ - _ + (_ - _ + (_ + 256) % 2 ^ 16) % 2 ^ 16) % 2 ^ 16) % 2 ^ 8 + _ + _ = _
  omega

/-- One step of the subtraction when no borrow is needed. -/
theorem subStep_plain (x y : UInt8) (borrow : UInt16) (small : borrow.toNat ≤ 1)
    (enough : ¬borrow + y.toUInt16 > x.toUInt16) :
    (x.toUInt16 - borrow - y.toUInt16).toUInt8.toNat + borrow.toNat + y.toNat = x.toNat := by
  have hx := x.toNat_lt
  have hy := y.toNat_lt
  rw [gt_iff_lt, UInt16.lt_iff_toNat_lt] at enough
  simp only [UInt16.toNat_add, UInt8.toNat_toUInt16, UInt16.toNat_toUInt8, UInt16.toNat_sub] at *
  omega

/-- The subtraction loop: what is written exceeds the difference of the two tails by the borrow. -/
theorem subLoop_exact (a b : Amount) (j : ℕ) (borrow : UInt16) (done : List UInt8)
    (bound : j ≤ 32) (written : done.length = 32 - j) (small : borrow.toNat ≤ 1)
    (holds : Bytes.listNat done + tailNat b j = tailNat a j + borrow.toNat * 256 ^ (32 - j)) :
    Bytes.listNat (subLoop a b j borrow done).1 + b.toNat =
        a.toNat + (subLoop a b j borrow done).2.toNat * 256 ^ 32 ∧
      (subLoop a b j borrow done).2.toNat ≤ 1 := by
  induction j generalizing borrow done with
  | zero => exact ⟨holds, small⟩
  | succ j ih =>
    have power : (256 : ℕ) ^ (32 - j) = 256 * 256 ^ (31 - j) := by
      rw [show 32 - j = (31 - j) + 1 by omega, Nat.pow_succ, Nat.mul_comm]
    have digits : 32 - (j + 1) = 31 - j := by omega
    rw [digits] at written holds
    rw [subLoop]
    split
    · have column := subStep_borrow (byteAt a j) (byteAt b j) borrow small ‹_›
      refine ih _ _ (by omega) (by rw [List.length_cons]; omega) (by decide) ?_
      rw [Bytes.listNat, written, tailNat_succ a (by omega), tailNat_succ b (by omega), power,
        show (1 : UInt16).toNat = 1 from rfl]
      have scaled := congrArg (· * 256 ^ (31 - j)) column
      simp only [Nat.add_mul] at scaled
      linarith only [holds, scaled]
    · have column := subStep_plain (byteAt a j) (byteAt b j) borrow small ‹_›
      refine ih _ _ (by omega) (by rw [List.length_cons]; omega) (by decide) ?_
      rw [Bytes.listNat, written, tailNat_succ a (by omega), tailNat_succ b (by omega),
        show (0 : UInt16).toNat = 0 from rfl]
      have scaled := congrArg (· * 256 ^ (31 - j)) column
      simp only [Nat.add_mul] at scaled
      linarith only [holds, scaled]

/-- The range of an amount, as a power of two. -/
theorem amount_lt (amount : Amount) : amount.toNat < 2 ^ 256 := amount.toNat_lt

/-- `amount_checked_add` reports exactly whether the sum is in range. -/
theorem amountCheckedAdd_ok (a b : Amount) :
    (amountCheckedAdd a b).2 = true ↔ a.toNat + b.toNat < 2 ^ 256 := by
  obtain ⟨total, small⟩ := addLoop_exact a b 32 0 [] (by decide) rfl (by decide)
    (by simp [Bytes.listNat, tailNat_end])
  have range := Bytes.listNat_lt (addLoop a b 32 0 []).1
  rw [length_addLoop] at range
  simp only [amountCheckedAdd, beq_iff_eq, ← UInt16.toNat_inj]
  change _ = 0 ↔ _
  norm_num at total range ⊢
  omega

/-- `amount_checked_add` writes the sum when it is in range. -/
theorem amountCheckedAdd_toNat {a b : Amount} (inRange : a.toNat + b.toNat < 2 ^ 256) :
    (amountCheckedAdd a b).1.toNat = a.toNat + b.toNat := by
  obtain ⟨total, small⟩ := addLoop_exact a b 32 0 [] (by decide) rfl (by decide)
    (by simp [Bytes.listNat, tailNat_end])
  have range := Bytes.listNat_lt (addLoop a b 32 0 []).1
  rw [length_addLoop] at range
  change Bytes.listNat (addLoop a b 32 0 []).1 = _
  norm_num at total range inRange
  omega

/-- `amount_checked_add` writes the sum modulo 2²⁵⁶. -/
theorem amountCheckedAdd_mod (a b : Amount) :
    (amountCheckedAdd a b).1.toNat = (a.toNat + b.toNat) % 2 ^ 256 := by
  obtain ⟨total, small⟩ := addLoop_exact a b 32 0 [] (by decide) rfl (by decide)
    (by simp [Bytes.listNat, tailNat_end])
  have range := Bytes.listNat_lt (addLoop a b 32 0 []).1
  rw [length_addLoop] at range
  change Bytes.listNat (addLoop a b 32 0 []).1 = _
  norm_num at total range ⊢
  omega

/-- `amount_checked_sub` reports exactly whether the difference is not negative. -/
theorem amountCheckedSub_ok (a b : Amount) :
    (amountCheckedSub a b).2 = true ↔ b.toNat ≤ a.toNat := by
  obtain ⟨total, small⟩ := subLoop_exact a b 32 0 [] (by decide) rfl (by decide)
    (by simp [Bytes.listNat, tailNat_end])
  have range := Bytes.listNat_lt (subLoop a b 32 0 []).1
  rw [length_subLoop] at range
  have rangeB := amount_lt b
  simp only [amountCheckedSub, beq_iff_eq, ← UInt16.toNat_inj]
  change _ = 0 ↔ _
  norm_num at total range rangeB ⊢
  omega

/-- `amount_checked_sub` writes the difference when it is not negative. -/
theorem amountCheckedSub_toNat {a b : Amount} (enough : b.toNat ≤ a.toNat) :
    (amountCheckedSub a b).1.toNat = a.toNat - b.toNat := by
  obtain ⟨total, small⟩ := subLoop_exact a b 32 0 [] (by decide) rfl (by decide)
    (by simp [Bytes.listNat, tailNat_end])
  have range := Bytes.listNat_lt (subLoop a b 32 0 []).1
  rw [length_subLoop] at range
  have rangeA := amount_lt a
  change Bytes.listNat (subLoop a b 32 0 []).1 = _
  norm_num at total range rangeA
  omega

/-- `amount_checked_sub` writes the difference modulo 2²⁵⁶. -/
theorem amountCheckedSub_mod (a b : Amount) :
    ((amountCheckedSub a b).1.toNat : ℤ) = (a.toNat - b.toNat) % 2 ^ 256 := by
  obtain ⟨total, small⟩ := subLoop_exact a b 32 0 [] (by decide) rfl (by decide)
    (by simp [Bytes.listNat, tailNat_end])
  have range := Bytes.listNat_lt (subLoop a b 32 0 []).1
  rw [length_subLoop] at range
  change ((Bytes.listNat (subLoop a b 32 0 []).1 : ℕ) : ℤ) = _
  norm_num at total range ⊢
  omega

end Libcma
