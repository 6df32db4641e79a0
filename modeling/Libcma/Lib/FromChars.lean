import Libcma.Lib.Hex
import Mathlib.Data.List.TakeWhile

/-!
# Hexadecimal texts read by `std::from_chars`

`Hex.fromChars` is `std::from_chars` of a byte to base 16: it reads the digits at the front and
stops at the first other character. `Hex.octets` reads a text two characters at a time with it, and
`Hex.rightOctets` first takes off a character that is left over. `Hex.RightBegun` says when
everything is read; a text of digits is, and its bytes are those of the number it writes.
-/

namespace Hex

/-- `std::from_chars` of a byte to base 16; nothing when it reports an error. -/
def fromChars (text : List UInt8) : Option UInt8 :=
  let digits := text.takeWhile isDigit
  if digits = [] ∨ 256 ≤ value digits then none else some (UInt8.ofNat (value digits))

/-- The bytes of a text read two characters at a time. -/
def octets : List UInt8 → List UInt8
  | first :: second :: rest => (fromChars [first, second]).getD 0 :: octets rest
  | [last] => [(fromChars [last]).getD 0]
  | [] => []

/-- Every pair of a text begins with a digit. -/
def Begun : List UInt8 → Prop
  | first :: _ :: rest => isDigit first ∧ Begun rest
  | [last] => isDigit last
  | [] => True

instance : (text : List UInt8) → Decidable (Begun text)
  | _ :: _ :: rest =>
    have := instDecidableBegun rest
    inferInstanceAs (Decidable (_ ∧ _))
  | [last] => inferInstanceAs (Decidable (isDigit last = true))
  | [] => inferInstanceAs (Decidable True)

/-- The bytes of a text read in pairs up to its end; a character that is left over comes first. -/
def rightOctets (text : List UInt8) : List UInt8 :=
  octets (text.take (text.length % 2)) ++ octets (text.drop (text.length % 2))

/-- A character that is left over is a digit, and every pair behind it begins with one. -/
def RightBegun (text : List UInt8) : Prop :=
  Begun (text.take (text.length % 2)) ∧ Begun (text.drop (text.length % 2))

instance (text : List UInt8) : Decidable (RightBegun text) :=
  inferInstanceAs (Decidable (_ ∧ _))

/-- Two characters write a number that fits a byte: only the lack of a digit is an error. -/
theorem fromChars_short {text : List UInt8} (short : text.length ≤ 2) :
    fromChars text = if text.takeWhile isDigit = [] then none
      else some (UInt8.ofNat (value (text.takeWhile isDigit))) := by
  have counted : (text.takeWhile isDigit).length ≤ 2 :=
    (List.takeWhile_sublist _).length_le.trans short
  have small : value (text.takeWhile isDigit) < 16 ^ 2 :=
    Nat.lt_of_lt_of_le (value_lt _) (Nat.pow_le_pow_right (by decide) counted)
  have inRange : ¬256 ≤ value (text.takeWhile isDigit) := by omega
  simp only [fromChars, inRange, or_false]

/-- One or two characters are read when the first is a digit. -/
theorem isSome_fromChars (first : UInt8) {rest : List UInt8} (short : rest.length ≤ 1) :
    (fromChars (first :: rest)).isSome ↔ isDigit first := by
  have size : (first :: rest).length ≤ 2 := by
    rw [List.length_cons]
    omega
  rw [fromChars_short size, List.takeWhile_cons]
  cases isDigit first <;> simp

/-- One or two digits are read as the number they write. -/
theorem fromChars_digits {text : List UInt8} (digits : Digits text) (short : text.length ≤ 2)
    (occupied : text ≠ []) : ∃ read, fromChars text = some read ∧ read.toNat = value text := by
  have whole : text.takeWhile isDigit = text := List.takeWhile_eq_self_iff.mpr digits
  have small : value text < 16 ^ 2 :=
    Nat.lt_of_lt_of_le (value_lt _) (Nat.pow_le_pow_right (by decide) short)
  refine ⟨UInt8.ofNat (value text), ?_, ?_⟩
  · rw [fromChars_short short, whole, if_neg occupied]
  · rw [UInt8.toNat_ofNat']
    omega

/-- A text of digits is read pair by pair. -/
theorem Digits.begun {text : List UInt8} (digits : Digits text) : Begun text := by
  induction text using octets.induct with
  | case1 first second rest ih =>
    constructor
    · exact digits first List.mem_cons_self
    · exact ih fun character listed =>
        digits character (List.mem_cons_of_mem _ (List.mem_cons_of_mem _ listed))
  | case2 last => exact digits last List.mem_cons_self
  | case3 => trivial

/-- The pairs of a text of digits are read by `std::from_chars` as by `std::stoi`. -/
theorem octets_eq_pairs {text : List UInt8} (even : 2 ∣ text.length) (digits : Digits text) :
    octets text = pairs text := by
  induction text using octets.induct with
  | case1 first second rest ih =>
    have high := digits first List.mem_cons_self
    have low := digits second (List.mem_cons_of_mem _ List.mem_cons_self)
    have there : Digits rest := fun character listed =>
      digits character (List.mem_cons_of_mem _ (List.mem_cons_of_mem _ listed))
    have two : Digits [first, second] := by
      intro character listed
      rcases List.mem_pair.mp listed with rfl | rfl
      · exact high
      · exact low
    have remaining : 2 ∣ rest.length := by
      simp only [List.length_cons] at even
      omega
    obtain ⟨read, found, number⟩ := fromChars_digits two (Nat.le_refl 2) (by simp)
    obtain ⟨other, met, same⟩ := byte_digits high low
    have equal : read = other := UInt8.toNat_inj.mp (number.trans same.symm)
    rw [octets, pairs, found, met, equal, ih remaining there]
  | case2 last => simp at even
  | case3 => rfl

/-- A text of digits is read from its end. -/
theorem Digits.rightBegun {text : List UInt8} (digits : Digits text) : RightBegun text := by
  constructor
  · exact Digits.begun fun character listed => digits character (List.mem_of_mem_take listed)
  · exact Digits.begun fun character listed => digits character (List.mem_of_mem_drop listed)

/-- A text of digits is read from its end as the number it writes. -/
theorem listNat_rightOctets {text : List UInt8} (digits : Digits text) :
    Bytes.listNat (rightOctets text) = value text := by
  unfold rightOctets
  rcases Nat.mod_two_eq_zero_or_one text.length with even | odd
  · have halves : 2 ∣ text.length := Nat.dvd_of_mod_eq_zero even
    rw [even, List.take_zero, List.drop_zero, octets, List.nil_append,
      octets_eq_pairs halves digits, listNat_pairs halves digits]
  · cases text with
    | nil => cases odd
    | cons first rest =>
      rw [List.length_cons] at odd
      have halves : 2 ∣ rest.length := by omega
      have there : Digits rest := fun character listed =>
        digits character (List.mem_cons_of_mem _ listed)
      have alone : Digits [first] := by
        intro character listed
        rw [List.mem_singleton.mp listed]
        exact digits first List.mem_cons_self
      obtain ⟨read, found, number⟩ := fromChars_digits alone (by simp) (by simp)
      have powers : 256 ^ (rest.length / 2) = 16 ^ rest.length := by
        obtain ⟨half, doubled⟩ := halves
        rw [doubled, Nat.mul_div_cancel_left half (by decide), Nat.pow_mul]
      have single : value [first] = (digit first).getD 0 := by simp [value]
      rw [List.length_cons, odd]
      show Bytes.listNat (octets [first] ++ octets rest) = _
      rw [octets_eq_pairs halves there, Bytes.listNat_append, listNat_pairs halves there,
        length_pairs halves, powers, octets, found, Option.getD_some, value, ← single, ← number]
      simp [Bytes.listNat]

end Hex
