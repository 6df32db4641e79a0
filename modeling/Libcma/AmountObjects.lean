import Libcma.Amount
import Mathlib.Logic.Function.Basic
import Mathlib.Data.Int.ModEq

/-!
# Checked arithmetic in place

`amount_checked_add` and `amount_checked_sub` as they run on objects. The operands and the result
are references, and the result may be one of the operands. A column is computed as an `int` and
narrowed to 16 bits when it is stored in `tmp`. The loops end in what `amountCheckedAdd` and
`amountCheckedSub` compute from the operands as they were.
-/

namespace Libcma

/-- The amounts that references name. -/
abbrev Objects (ρ : Type) : Type := ρ → Amount

/-- An amount with one byte replaced. -/
def replaceByte (amount : Amount) (j : ℕ) (byte : UInt8) : Amount :=
  ⟨amount.toList.set j byte, by simp⟩

/-- The bytes of an amount with one byte replaced. -/
@[simp] theorem toList_replaceByte (amount : Amount) (j : ℕ) (byte : UInt8) :
    (replaceByte amount j byte).toList = amount.toList.set j byte := rfl

namespace Objects

variable {ρ : Type} [DecidableEq ρ]

/-- `object.data[j] = byte`. -/
def setByte (objects : Objects ρ) (object : ρ) (j : ℕ) (byte : UInt8) : Objects ρ :=
  Function.update objects object (replaceByte (objects object) j byte)

/-- `carry + a_j + b_j`. -/
def sumAt (a b : ρ) (j : ℕ) (carry : UInt16) (objects : Objects ρ) : ℤ :=
  carry.toNat + (byteAt (objects a) j).toNat + (byteAt (objects b) j).toNat

/-- `borrow + b_j > a_j`. -/
def borrows (a b : ρ) (j : ℕ) (borrow : UInt16) (objects : Objects ρ) : Prop :=
  (borrow.toNat + (byteAt (objects b) j).toNat : ℤ) > (byteAt (objects a) j).toNat

instance (a b : ρ) (j : ℕ) (borrow : UInt16) (objects : Objects ρ) :
    Decidable (borrows a b j borrow objects) :=
  inferInstanceAs (Decidable (_ > _))

/-- `a_j + fix_borrow - borrow - b_j`, without `fix_borrow` when no borrow is needed. -/
def differenceAt (a b : ρ) (j : ℕ) (borrow : UInt16) (objects : Objects ρ) : ℤ :=
  if borrows a b j borrow objects then
    (byteAt (objects a) j).toNat + 2 ^ 8 - borrow.toNat - (byteAt (objects b) j).toNat
  else
    (byteAt (objects a) j).toNat - borrow.toNat - (byteAt (objects b) j).toNat

/-- One column of `amount_checked_add`. -/
def addColumn (res a b : ρ) (j : ℕ) (state : UInt16 × Objects ρ) : UInt16 × Objects ρ :=
  let tmp := UInt16.ofInt (sumAt a b j state.1 state.2)
  (tmp >>> 8, state.2.setByte res j tmp.toUInt8)

/-- One column of `amount_checked_sub`. -/
def subColumn (res a b : ρ) (j : ℕ) (state : UInt16 × Objects ρ) : UInt16 × Objects ρ :=
  let tmp := UInt16.ofInt (differenceAt a b j state.1 state.2)
  (if borrows a b j state.1 state.2 then 1 else 0, state.2.setByte res j tmp.toUInt8)

/-- The carry or borrow and the objects after the first iterations of a loop over the columns. -/
def columns (column : ℕ → UInt16 × Objects ρ → UInt16 × Objects ρ) (objects : Objects ρ) :
    (i : ℕ) → UInt16 × Objects ρ
  | 0 => (0, objects)
  | i + 1 => column (32 - i - 1) (columns column objects i)

/-- `amount_checked_add`. -/
def amountCheckedAdd (res a b : ρ) (objects : Objects ρ) : Bool × Objects ρ :=
  let (carry, reached) := columns (addColumn res a b) objects 32
  (carry == 0, reached)

/-- `amount_checked_sub`. -/
def amountCheckedSub (res a b : ρ) (objects : Objects ρ) : Bool × Objects ρ :=
  let (borrow, reached) := columns (subColumn res a b) objects 32
  (borrow == 0, reached)

/-- The last bytes of the result have been written, and nothing else. -/
structure Halfway (res : ρ) (objects : Objects ρ) (done : List UInt8) (reached : Objects ρ) :
    Prop where
  /-- No other object was written. -/
  others : ∀ other, other ≠ res → reached other = objects other
  /-- The result ends in the bytes written. -/
  written : (reached res).toList = (objects res).toList.take (32 - done.length) ++ done

namespace Halfway

variable {res : ρ} {objects reached : Objects ρ} {done : List UInt8}

omit [DecidableEq ρ] in
/-- Before the first column nothing has been written. -/
theorem start (res : ρ) (objects : Objects ρ) : Halfway res objects [] objects :=
  ⟨fun _ _ => rfl, by simp⟩

omit [DecidableEq ρ] in
/-- A byte that has not been written is read as it was, of the result too. -/
theorem byteAt (halfway : Halfway res objects done reached) (name : ρ) {j : ℕ}
    (before : j < 32 - done.length) :
    Libcma.byteAt (reached name) j = Libcma.byteAt (objects name) j := by
  by_cases same : name = res
  · have inside : j < ((objects res).toList.take (32 - done.length)).length := by
      simp only [List.length_take, List.Vector.toList_length]
      omega
    rw [same, Libcma.byteAt, Libcma.byteAt, halfway.written, List.getD_eq_getElem?_getD,
      List.getD_eq_getElem?_getD, List.getElem?_append_left inside, List.getElem?_take_of_lt before]
  · rw [halfway.others name same]

/-- The next byte is written in front of the others. -/
theorem setByte (halfway : Halfway res objects done reached) (room : done.length < 32)
    (byte : UInt8) :
    Halfway res objects (byte :: done) (reached.setByte res (32 - done.length - 1) byte) := by
  constructor
  · intro other apart
    rw [Objects.setByte, Function.update_of_ne apart]
    exact halfway.others other apart
  · have count : ((objects res).toList.take (32 - done.length)).length = 32 - done.length := by
      simp only [List.length_take, List.Vector.toList_length]
      omega
    have next : 32 - done.length = 32 - (byte :: done).length + 1 := by
      rw [List.length_cons]
      omega
    have position : 32 - done.length - 1 = 32 - (byte :: done).length := by omega
    have inside : 32 - (byte :: done).length < (objects res).toList.length := by
      rw [List.Vector.toList_length, List.length_cons]
      omega
    have shorter : ((objects res).toList.take (32 - (byte :: done).length)).length =
        32 - (byte :: done).length := by
      rw [List.length_take]
      omega
    rw [Objects.setByte, Function.update_self, toList_replaceByte, halfway.written,
      List.set_append_left _ _ (by omega), position, next,
      List.take_succ_eq_append_getElem inside, List.set_append_right _ _ (by omega), shorter,
      Nat.sub_self, List.append_assoc]
    simp

/-- When all bytes have been written they are the result. -/
theorem finish (halfway : Halfway res objects done reached) {result : Amount}
    (all : result.toList = done) : reached = Function.update objects res result := by
  have full : done.length = 32 := by rw [← all, List.Vector.toList_length]
  funext name
  by_cases same : name = res
  · rw [same, Function.update_self]
    apply List.Vector.eq
    rw [halfway.written, full, all]
    rfl
  · rw [Function.update_of_ne same, halfway.others name same]

end Halfway

/-- Narrowing keeps a number that fits in 16 bits. -/
theorem toNat_ofInt {value : ℤ} (fits : 0 ≤ value ∧ value < 2 ^ 16) :
    ((UInt16.ofInt value).toNat : ℤ) = value := by
  have inRange : (value % 2 ^ 16).toNat < UInt16.size := by
    change _ < 65536
    omega
  rw [UInt16.ofInt, UInt16.toNat_ofNat_of_lt' inRange]
  omega

section Columns

variable (a b : ρ) (j : ℕ) (objects : Objects ρ)

omit [DecidableEq ρ] in
/-- A column of the addition fits in 16 bits. -/
theorem sumAt_fits {carry : UInt16} (small : carry.toNat ≤ 1) :
    0 ≤ sumAt a b j carry objects ∧ sumAt a b j carry objects < 2 ^ 16 := by
  have first := (byteAt (objects a) j).toNat_lt
  have second := (byteAt (objects b) j).toNat_lt
  unfold sumAt
  omega

omit [DecidableEq ρ] in
/-- A column of the subtraction fits in 16 bits. -/
theorem differenceAt_fits {borrow : UInt16} (small : borrow.toNat ≤ 1) :
    0 ≤ differenceAt a b j borrow objects ∧ differenceAt a b j borrow objects < 2 ^ 16 := by
  have first := (byteAt (objects a) j).toNat_lt
  have second := (byteAt (objects b) j).toNat_lt
  by_cases needed : borrows a b j borrow objects
  · rw [differenceAt, if_pos needed]
    unfold borrows at needed
    omega
  · rw [differenceAt, if_neg needed]
    unfold borrows at needed
    omega

omit [DecidableEq ρ] in
/-- What is stored in `tmp` by the addition is the 16-bit sum. -/
theorem ofInt_sumAt {carry : UInt16} (small : carry.toNat ≤ 1) :
    UInt16.ofInt (sumAt a b j carry objects) =
      carry + (byteAt (objects a) j).toUInt16 + (byteAt (objects b) j).toUInt16 := by
  have first := (byteAt (objects a) j).toNat_lt
  have second := (byteAt (objects b) j).toNat_lt
  have exact := toNat_ofInt (sumAt_fits a b j objects small)
  rw [← UInt16.toNat_inj]
  simp only [UInt16.toNat_add, UInt8.toNat_toUInt16]
  unfold sumAt at exact ⊢
  omega

omit [DecidableEq ρ] in
/-- A borrow is needed exactly when the 16-bit comparison says so. -/
theorem borrows_iff {borrow : UInt16} (small : borrow.toNat ≤ 1) :
    borrows a b j borrow objects ↔
      borrow + (byteAt (objects b) j).toUInt16 > (byteAt (objects a) j).toUInt16 := by
  have second := (byteAt (objects b) j).toNat_lt
  rw [gt_iff_lt, UInt16.lt_iff_toNat_lt]
  simp only [UInt16.toNat_add, UInt8.toNat_toUInt16]
  unfold borrows
  omega

omit [DecidableEq ρ] in
/-- What is stored in `tmp` by the subtraction is the 16-bit difference. -/
theorem ofInt_differenceAt {borrow : UInt16} (small : borrow.toNat ≤ 1) :
    UInt16.ofInt (differenceAt a b j borrow objects) =
      if borrow + (byteAt (objects b) j).toUInt16 > (byteAt (objects a) j).toUInt16 then
        (byteAt (objects a) j).toUInt16 + 256 - borrow - (byteAt (objects b) j).toUInt16
      else (byteAt (objects a) j).toUInt16 - borrow - (byteAt (objects b) j).toUInt16 := by
  have first := (byteAt (objects a) j).toNat_lt
  have second := (byteAt (objects b) j).toNat_lt
  have exact := toNat_ofInt (differenceAt_fits a b j objects small)
  rw [← UInt16.toNat_inj]
  by_cases needed : borrows a b j borrow objects
  · rw [if_pos ((borrows_iff a b j objects small).mp needed)]
    rw [differenceAt, if_pos needed] at exact ⊢
    have constant : (256 : UInt16).toNat = 256 := rfl
    unfold borrows at needed
    simp only [UInt16.toNat_add, UInt16.toNat_sub, UInt8.toNat_toUInt16, constant]
    omega
  · rw [if_neg (mt (borrows_iff a b j objects small).mpr needed)]
    rw [differenceAt, if_neg needed] at exact ⊢
    unfold borrows at needed
    simp only [UInt16.toNat_sub, UInt8.toNat_toUInt16]
    omega

end Columns

/-- The carry and the byte of a column of the addition. -/
def sumOf (x y : UInt8) (carry : UInt16) : UInt16 × UInt8 :=
  let tmp := carry + x.toUInt16 + y.toUInt16
  (tmp >>> 8, tmp.toUInt8)

/-- The borrow and the byte of a column of the subtraction. -/
def differenceOf (x y : UInt8) (borrow : UInt16) : UInt16 × UInt8 :=
  if borrow + y.toUInt16 > x.toUInt16 then
    (1, (x.toUInt16 + 256 - borrow - y.toUInt16).toUInt8)
  else
    (0, (x.toUInt16 - borrow - y.toUInt16).toUInt8)

/-- A column in place and a loop over the operands as they were take the same carry and byte from
each pair of bytes. -/
structure Alongside (res a b : ρ) (objects : Objects ρ)
    (column : ℕ → UInt16 × Objects ρ → UInt16 × Objects ρ)
    (loop : ℕ → UInt16 → List UInt8 → List UInt8 × UInt16)
    (next : UInt8 → UInt8 → UInt16 → UInt16 × UInt8) : Prop where
  /-- The carry stays at most one. -/
  small : ∀ x y carry, carry.toNat ≤ 1 → (next x y carry).1.toNat ≤ 1
  /-- A column reads both operands, then writes its byte into the result. -/
  column : ∀ j carry reached, carry.toNat ≤ 1 → column j (carry, reached) =
    ((next (byteAt (reached a) j) (byteAt (reached b) j) carry).1,
      reached.setByte res j (next (byteAt (reached a) j) (byteAt (reached b) j) carry).2)
  /-- The loop takes a column. -/
  succ : ∀ j carry done, loop (j + 1) carry done =
    loop j (next (byteAt (objects a) j) (byteAt (objects b) j) carry).1
      ((next (byteAt (objects a) j) (byteAt (objects b) j) carry).2 :: done)
  /-- The loop ends. -/
  zero : ∀ carry done, loop 0 carry done = (done, carry)

namespace Alongside

variable {res a b : ρ} {objects : Objects ρ}
  {column : ℕ → UInt16 × Objects ρ → UInt16 × Objects ρ}
  {loop : ℕ → UInt16 → List UInt8 → List UInt8 × UInt16}
  {next : UInt8 → UInt8 → UInt16 → UInt16 × UInt8}

/-- After some columns the loop in place has written what the other loop has, also into an
operand. -/
theorem columns (alongside : Alongside res a b objects column loop next) {i : ℕ} (bound : i ≤ 32) :
    ∃ done, done.length = i ∧ Halfway res objects done (columns column objects i).2 ∧
      (Objects.columns column objects i).1.toNat ≤ 1 ∧
      loop 32 0 [] = loop (32 - i) (Objects.columns column objects i).1 done := by
  induction i with
  | zero => exact ⟨[], rfl, .start res objects, Nat.zero_le 1, rfl⟩
  | succ i ih =>
    obtain ⟨done, counted, halfway, small, follows⟩ := ih (by omega)
    rw [Objects.columns]
    generalize Objects.columns column objects i = state at halfway small follows
    obtain ⟨carry, reached⟩ := state
    have inside : 32 - i - 1 < 32 - done.length := by omega
    have room : done.length < 32 := by omega
    have one : 32 - i = 32 - i - 1 + 1 := by omega
    have last : 32 - (i + 1) = 32 - i - 1 := by omega
    have readA : byteAt (reached a) (32 - i - 1) = byteAt (objects a) (32 - i - 1) :=
      halfway.byteAt a inside
    have readB : byteAt (reached b) (32 - i - 1) = byteAt (objects b) (32 - i - 1) :=
      halfway.byteAt b inside
    rw [alongside.column _ _ _ small, readA, readB]
    generalize step : next (byteAt (objects a) (32 - i - 1)) (byteAt (objects b) (32 - i - 1))
      carry = taken
    have written := halfway.setByte room taken.2
    rw [counted] at written
    refine ⟨taken.2 :: done, by rw [List.length_cons, counted], written, ?_, ?_⟩
    · rw [← step]
      exact alongside.small _ _ _ small
    · rw [follows, one, alongside.succ, step, last]

/-- The loop in place ends with the result of the other loop, and touches nothing else. -/
theorem finish (alongside : Alongside res a b objects column loop next) {result : Amount}
    (bytes : result.toList = (loop 32 0 []).1) :
    Objects.columns column objects 32 =
      ((loop 32 0 []).2, Function.update objects res result) := by
  obtain ⟨done, -, halfway, -, follows⟩ := alongside.columns (Nat.le_refl 32)
  rw [Nat.sub_self, alongside.zero] at follows
  rw [follows] at bytes ⊢
  exact Prod.ext rfl (halfway.finish bytes)

/-- The carry is at most one before every column. -/
theorem carry_le (alongside : Alongside res a b objects column loop next) {i : ℕ}
    (bound : i ≤ 32) : (Objects.columns column objects i).1.toNat ≤ 1 := by
  obtain ⟨-, -, -, small, -⟩ := alongside.columns bound
  exact small

end Alongside

/-- The addition in place runs alongside the addition. -/
theorem addColumn_alongside (res a b : ρ) (objects : Objects ρ) :
    Alongside res a b objects (addColumn res a b) (addLoop (objects a) (objects b)) sumOf := by
  constructor
  case small =>
    intro x y carry small
    exact (addStep x y carry small).2
  case column =>
    intro j carry reached small
    rw [addColumn, ofInt_sumAt a b j reached small]
    rfl
  case succ => exact fun _ _ _ => rfl
  case zero => exact fun _ _ => rfl

/-- The subtraction in place runs alongside the subtraction. -/
theorem subColumn_alongside (res a b : ρ) (objects : Objects ρ) :
    Alongside res a b objects (subColumn res a b) (subLoop (objects a) (objects b))
      differenceOf := by
  constructor
  case small =>
    intro x y borrow _
    unfold differenceOf
    split
    · exact Nat.le_refl 1
    · exact Nat.zero_le 1
  case column =>
    intro j borrow reached small
    rw [subColumn, ofInt_differenceAt a b j reached small]
    simp only [borrows_iff a b j reached small, differenceOf]
    split <;> rfl
  case succ =>
    intro j borrow done
    rw [subLoop, differenceOf]
    split <;> rfl
  case zero => exact fun _ _ => rfl

/-- `amount_checked_add` on objects writes the sum of the operands as they were. -/
theorem amountCheckedAdd_eq (res a b : ρ) (objects : Objects ρ) :
    amountCheckedAdd res a b objects =
      ((Libcma.amountCheckedAdd (objects a) (objects b)).2,
        Function.update objects res (Libcma.amountCheckedAdd (objects a) (objects b)).1) := by
  have ends := (addColumn_alongside res a b objects).finish
    (show (Libcma.amountCheckedAdd (objects a) (objects b)).1.toList = _ from rfl)
  rw [amountCheckedAdd, ends]
  rfl

/-- `amount_checked_sub` on objects writes the difference of the operands as they were. -/
theorem amountCheckedSub_eq (res a b : ρ) (objects : Objects ρ) :
    amountCheckedSub res a b objects =
      ((Libcma.amountCheckedSub (objects a) (objects b)).2,
        Function.update objects res (Libcma.amountCheckedSub (objects a) (objects b)).1) := by
  have ends := (subColumn_alongside res a b objects).finish
    (show (Libcma.amountCheckedSub (objects a) (objects b)).1.toList = _ from rfl)
  rw [amountCheckedSub, ends]
  rfl

/-- `amount_checked_add` is exact. -/
structure Adds (res a b : ρ) (objects : Objects ρ) : Prop where
  /-- The result is the sum modulo 2²⁵⁶. -/
  sum : ((amountCheckedAdd res a b objects).2 res).toNat =
    ((objects a).toNat + (objects b).toNat) % 2 ^ 256
  /-- The sum is reported to be in range exactly when it is. -/
  reports : (amountCheckedAdd res a b objects).1 = true ↔
    (objects a).toNat + (objects b).toNat < 2 ^ 256
  /-- No other object is written. -/
  others : ∀ other, other ≠ res → (amountCheckedAdd res a b objects).2 other = objects other
  /-- No column wraps when it is stored in 16 bits. -/
  fits : ∀ i < 32, ∀ carry reached, columns (addColumn res a b) objects i = (carry, reached) →
    ((UInt16.ofInt (sumAt a b (32 - i - 1) carry reached)).toNat : ℤ) =
      sumAt a b (32 - i - 1) carry reached

/-- `amount_checked_sub` is exact. -/
structure Subtracts (res a b : ρ) (objects : Objects ρ) : Prop where
  /-- The result is the difference modulo 2²⁵⁶. -/
  difference : (((amountCheckedSub res a b objects).2 res).toNat : ℤ) =
    ((objects a).toNat - (objects b).toNat) % 2 ^ 256
  /-- The difference is reported to be in range exactly when it is. -/
  reports : (amountCheckedSub res a b objects).1 = true ↔ (objects b).toNat ≤ (objects a).toNat
  /-- No other object is written. -/
  others : ∀ other, other ≠ res → (amountCheckedSub res a b objects).2 other = objects other
  /-- No column wraps when it is stored in 16 bits. -/
  fits : ∀ i < 32, ∀ borrow reached, columns (subColumn res a b) objects i = (borrow, reached) →
    ((UInt16.ofInt (differenceAt a b (32 - i - 1) borrow reached)).toNat : ℤ) =
      differenceAt a b (32 - i - 1) borrow reached

/-- Both operations are exact, whichever of the three references name one object. -/
theorem checked_exact (res a b : ρ) (objects : Objects ρ) :
    Adds res a b objects ∧ Subtracts res a b objects := by
  constructor
  · have ends := amountCheckedAdd_eq res a b objects
    constructor
    case sum => simp only [ends, Function.update_self, amountCheckedAdd_mod]
    case reports => rw [ends, amountCheckedAdd_ok]
    case others =>
      intro other apart
      simp only [ends, Function.update_of_ne apart]
    case fits =>
      intro i bound carry reached run
      have small := (addColumn_alongside res a b objects).carry_le (Nat.le_of_lt bound)
      rw [run] at small
      exact toNat_ofInt (sumAt_fits a b _ reached small)
  · have ends := amountCheckedSub_eq res a b objects
    constructor
    case difference => simp only [ends, Function.update_self, amountCheckedSub_mod]
    case reports => rw [ends, amountCheckedSub_ok]
    case others =>
      intro other apart
      simp only [ends, Function.update_of_ne apart]
    case fits =>
      intro i bound borrow reached run
      have small := (subColumn_alongside res a b objects).carry_le (Nat.le_of_lt bound)
      rw [run] at small
      exact toNat_ofInt (differenceAt_fits a b _ reached small)

end Objects

end Libcma
