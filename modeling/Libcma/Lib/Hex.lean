import Libcma.Lib.Bytes

/-!
# Hexadecimal texts

Texts are lists of bytes. `Hex.stoi` is `std::stoi` to base 16, whose two exceptions have one text,
and `Hex.byte` casts its result to a byte. `Hex.pairs` reads a text two characters at a time.
`Hex.Readable` says in terms of characters when every pair is read; a text of digits only is, and
its pairs are the bytes of the number it writes (`listNat_pairs`). `Hex.print` is the text of a
number.
-/

namespace Hex

/-- The value of a hexadecimal digit. -/
def digit (character : UInt8) : Option ℕ :=
  if '0'.toUInt8 ≤ character ∧ character ≤ '9'.toUInt8 then
    some (character.toNat - '0'.toNat)
  else if 'A'.toUInt8 ≤ character ∧ character ≤ 'F'.toUInt8 then
    some (character.toNat - 'A'.toNat + 10)
  else if 'a'.toUInt8 ≤ character ∧ character ≤ 'f'.toUInt8 then
    some (character.toNat - 'a'.toNat + 10)
  else
    none

/-- The character is a hexadecimal digit. -/
def isDigit (character : UInt8) : Bool := (digit character).isSome

/-- The character is a blank of the C locale: a space, or one of the five from tab on. -/
def isBlank (character : UInt8) : Bool := character = ' '.toUInt8 ∨ 9 ≤ character ∧ character ≤ 13

/-- The character is a sign. -/
def isSign (character : UInt8) : Bool := character = '+'.toUInt8 ∨ character = '-'.toUInt8

/-- The number a text of digits writes, most significant digit first. -/
def value : List UInt8 → ℕ
  | [] => 0
  | character :: rest => (digit character).getD 0 * 16 ^ rest.length + value rest

/-- The text of a number, as `std::hex` prints it. -/
def print (number : ℕ) : List UInt8 := (Nat.toDigits 16 number).map Char.toUInt8

/-- Drop a sign. -/
def dropSign : List UInt8 → List UInt8
  | [] => []
  | first :: rest => if isSign first then rest else first :: rest

/-- Drop `0x` in front of a digit. -/
def dropMarker : List UInt8 → List UInt8
  | zero :: mark :: first :: rest =>
    if zero = '0'.toUInt8 ∧ (mark = 'x'.toUInt8 ∨ mark = 'X'.toUInt8) ∧ isDigit first then
      first :: rest
    else
      zero :: mark :: first :: rest
  | text => text

/-- The digits at the front of a text, after blanks, a sign and `0x`. -/
def leading (text : List UInt8) : List UInt8 :=
  (dropMarker (dropSign (text.dropWhile isBlank))).takeWhile isDigit

/-- The sign at the front of a text, after blanks, is a minus. -/
def isNegative (text : List UInt8) : Bool := (text.dropWhile isBlank).head? = some '-'.toUInt8

/-- The number at the front of a text. -/
def number (text : List UInt8) : ℤ :=
  if isNegative text then -value (leading text) else value (leading text)

/-- `std::stoi` to base 16; nothing when it throws. -/
def stoi (text : List UInt8) : Option ℤ :=
  if leading text = [] ∨ number text < -2 ^ 31 ∨ 2 ^ 31 ≤ number text then none
  else some (number text)

/-- The number of a text as a byte. -/
def byte (text : List UInt8) : Option UInt8 := (stoi text).map UInt8.ofInt

/-- The bytes of a text read two characters at a time. -/
def pairs : List UInt8 → List UInt8
  | first :: second :: rest => (byte [first, second]).getD 0 :: pairs rest
  | [last] => [(byte [last]).getD 0]
  | [] => []

/-- A pair is read when it begins with a digit, or with a blank or a sign before one. -/
def ReadablePair (first second : UInt8) : Prop :=
  isDigit first ∨ (isBlank first ∨ isSign first) ∧ isDigit second

instance (first second : UInt8) : Decidable (ReadablePair first second) :=
  inferInstanceAs (Decidable (_ ∨ _))

/-- Every pair of a text is read. -/
def Readable : List UInt8 → Prop
  | first :: second :: rest => ReadablePair first second ∧ Readable rest
  | [last] => isDigit last
  | [] => True

instance : (text : List UInt8) → Decidable (Readable text)
  | _ :: _ :: rest =>
    have := instDecidableReadable rest
    inferInstanceAs (Decidable (_ ∧ _))
  | [last] => inferInstanceAs (Decidable (isDigit last = true))
  | [] => inferInstanceAs (Decidable True)

/-- Every character of a text is a digit. -/
def Digits (text : List UInt8) : Prop := ∀ character ∈ text, isDigit character

instance (text : List UInt8) : Decidable (Digits text) :=
  inferInstanceAs (Decidable (∀ character ∈ text, _))

/-- What holds of all 256 characters. -/
theorem forall_character (property : UInt8 → Prop)
    (all : ∀ code : Fin 256, property (UInt8.ofNat code)) (character : UInt8) :
    property character := by
  have here := all ⟨character.toNat, character.toNat_lt⟩
  rwa [UInt8.ofNat_toNat] at here

/-- A digit is below sixteen. -/
theorem digit_lt : ∀ character, (digit character).getD 0 < 16 :=
  forall_character (fun character => (digit character).getD 0 < 16) (by decide +kernel)

/-- A digit is no blank. -/
theorem isBlank_of_isDigit : ∀ character, isDigit character → isBlank character = false :=
  forall_character (fun character => isDigit character → isBlank character = false)
    (by decide +kernel)

/-- A digit is no sign. -/
theorem isSign_of_isDigit : ∀ character, isDigit character → isSign character = false :=
  forall_character (fun character => isDigit character → isSign character = false)
    (by decide +kernel)

/-- A text writes a number below the range of its length. -/
theorem value_lt (text : List UInt8) : value text < 16 ^ text.length := by
  induction text with
  | nil => simp [value]
  | cons character rest ih =>
    have low := digit_lt character
    calc
      value (character :: rest) < (digit character).getD 0 * 16 ^ rest.length + 16 ^ rest.length :=
        Nat.add_lt_add_left ih _
      _ = ((digit character).getD 0 + 1) * 16 ^ rest.length := by ring
      _ ≤ 16 * 16 ^ rest.length := Nat.mul_le_mul_right _ low
      _ = 16 ^ (character :: rest).length := by rw [List.length_cons, Nat.pow_succ, Nat.mul_comm]

/-- The digits in front count in units of the range of those behind. -/
theorem value_append (front back : List UInt8) :
    value (front ++ back) = value front * 16 ^ back.length + value back := by
  induction front with
  | nil => simp [value]
  | cons character rest ih =>
    rw [List.cons_append, value, value, ih, List.length_append, Nat.pow_add]
    ring

/-- The characters of the numbers below sixteen are their digits. -/
theorem digit_digitChar : ∀ low < 16, digit (Nat.digitChar low).toUInt8 = some low := by decide

/-- A number below sixteen is one character. -/
theorem print_low {number : ℕ} (low : number < 16) :
    print number = [(Nat.digitChar number).toUInt8] := by
  rw [print, Nat.toDigits_of_lt_base low, List.map_singleton]

/-- The last character of a larger number is that of the remainder. -/
theorem print_high {number : ℕ} (high : 16 ≤ number) :
    print number = print (number / 16) ++ [(Nat.digitChar (number % 16)).toUInt8] := by
  rw [print, Nat.toDigits_of_base_le (by decide) high, List.map_append, List.map_singleton, print]

/-- A text that was printed writes the number. -/
theorem value_print (number : ℕ) : value (print number) = number := by
  induction number using Nat.strongRecOn with
  | ind number ih =>
    rcases Nat.lt_or_ge number 16 with low | high
    · simp [print_low low, value, digit_digitChar number low]
    · have last := digit_digitChar (number % 16) (Nat.mod_lt _ (by decide))
      rw [print_high high, value_append, ih (number / 16) (by omega)]
      simp only [value, last, Option.getD_some, List.length_singleton, List.length_nil]
      omega

/-- Every character that is printed is a digit. -/
theorem digits_print (number : ℕ) : Digits (print number) := by
  induction number using Nat.strongRecOn with
  | ind number ih =>
    rcases Nat.lt_or_ge number 16 with low | high
    · intro character listed
      rw [print_low low, List.mem_singleton] at listed
      rw [listed, isDigit, digit_digitChar number low, Option.isSome_some]
    · intro character listed
      rw [print_high high, List.mem_append, List.mem_singleton] at listed
      rcases listed with front | rfl
      · exact ih (number / 16) (by omega) character front
      · rw [isDigit, digit_digitChar _ (Nat.mod_lt _ (by decide)), Option.isSome_some]

/-- A number in range is printed with no more characters. -/
theorem length_print {number width : ℕ} (positive : 0 < width) (small : number < 16 ^ width) :
    (print number).length ≤ width := by
  rw [print, List.length_map]
  exact (Nat.length_toDigits_le_iff (by decide) positive).mpr small

/-- Zeros in front do not change the number. -/
theorem value_leftpad (width : ℕ) (text : List UInt8) :
    value (text.leftpad width '0'.toUInt8) = value text := by
  have zeros : ∀ count, value (List.replicate count '0'.toUInt8) = 0 := by
    intro count
    induction count with
    | zero => rfl
    | succ count ih =>
      have zero : digit '0'.toUInt8 = some 0 := by decide
      rw [List.replicate_succ, value, ih, zero, Option.getD_some, Nat.zero_mul]
  rw [List.leftpad, value_append, zeros, Nat.zero_mul, Nat.zero_add]

/-- Dropping a sign makes no text longer. -/
theorem length_dropSign (text : List UInt8) : (dropSign text).length ≤ text.length := by
  cases text with
  | nil => exact Nat.le_refl _
  | cons first rest =>
    show (if isSign first then rest else first :: rest).length ≤ _
    split
    · exact Nat.le_succ _
    · exact Nat.le_refl _

/-- Dropping `0x` makes no text longer. -/
theorem length_dropMarker (text : List UInt8) : (dropMarker text).length ≤ text.length := by
  unfold dropMarker
  split
  · split
    · simp only [List.length_cons]
      omega
    · exact Nat.le_refl _
  · exact Nat.le_refl _

/-- No more digits are read than there are characters. -/
theorem length_leading (text : List UInt8) : (leading text).length ≤ text.length := by
  calc
    (leading text).length ≤ (dropMarker (dropSign (text.dropWhile isBlank))).length :=
      (List.takeWhile_sublist _).length_le
    _ ≤ (dropSign (text.dropWhile isBlank)).length := length_dropMarker _
    _ ≤ (text.dropWhile isBlank).length := length_dropSign _
    _ ≤ text.length := (List.dropWhile_sublist _).length_le

/-- `stoi` of a short text: only the lack of a digit makes it throw. -/
theorem stoi_short {text : List UInt8} (short : text.length ≤ 7) :
    stoi text = if leading text = [] then none else some (number text) := by
  have counted : (leading text).length ≤ 7 := (length_leading text).trans short
  have small : value (leading text) < 16 ^ 7 :=
    Nat.lt_of_lt_of_le (value_lt _) (Nat.pow_le_pow_right (by decide) counted)
  have inRange : ¬(number text < -2 ^ 31 ∨ 2 ^ 31 ≤ number text) := by
    unfold number
    split <;> omega
  simp only [stoi, inRange, or_false]

/-- The digits that are read of a single character. -/
theorem leading_single (last : UInt8) :
    leading [last] = if isDigit last then [last] else [] := by
  cases digit : isDigit last with
  | true => simp [leading, dropSign, dropMarker, digit, isBlank_of_isDigit, isSign_of_isDigit]
  | false =>
    cases blank : isBlank last <;> cases sign : isSign last <;>
      simp [leading, dropSign, dropMarker, digit, blank, sign]

/-- The digits that are read of a pair. -/
theorem leading_pair (first second : UInt8) :
    leading [first, second] =
      if isDigit first then (if isDigit second then [first, second] else [first])
      else if (isBlank first ∨ isSign first) ∧ isDigit second then [second] else [] := by
  cases digit : isDigit first with
  | true =>
    cases next : isDigit second <;>
      simp [leading, dropSign, dropMarker, digit, next, isBlank_of_isDigit, isSign_of_isDigit]
  | false =>
    cases blank : isBlank first with
    | true =>
      have single := leading_single second
      simpa [leading, blank] using single
    | false =>
      cases sign : isSign first <;> cases next : isDigit second <;>
        simp [leading, dropSign, dropMarker, digit, blank, sign, next]

/-- A pair is read when there is a digit in it that `stoi` reaches. -/
theorem isSome_byte_pair (first second : UInt8) :
    (byte [first, second]).isSome ↔ ReadablePair first second := by
  rw [byte, Option.isSome_map, stoi_short (Nat.le_of_ble_eq_true rfl), leading_pair, ReadablePair]
  cases isDigit first <;> cases isDigit second <;> cases isBlank first <;> cases isSign first <;>
    simp

/-- A pair of digits is read as the number it writes. -/
theorem byte_digits {first second : UInt8} (high : isDigit first) (low : isDigit second) :
    ∃ read, byte [first, second] = some read ∧ read.toNat = value [first, second] := by
  have digits : leading [first, second] = [first, second] := by
    rw [leading_pair, if_pos high, if_pos low]
  have positive : isNegative [first, second] = false := by
    have unsigned := isSign_of_isDigit first high
    simp only [isSign, decide_eq_false_iff_not, not_or] at unsigned
    simp [isNegative, isBlank_of_isDigit first high, unsigned.2]
  have small : value [first, second] < 256 := value_lt [first, second]
  refine ⟨UInt8.ofInt (value [first, second]), ?_, ?_⟩
  · rw [byte, stoi_short (Nat.le_of_ble_eq_true rfl), number, digits, positive]
    rfl
  · rw [UInt8.ofInt, UInt8.toNat_ofNat']
    omega

/-- A text of digits is read. -/
theorem Digits.readable {text : List UInt8} (digits : Digits text) : Readable text := by
  induction text using pairs.induct with
  | case1 first second rest ih =>
    constructor
    · exact .inl (digits first List.mem_cons_self)
    · exact ih fun character listed =>
        digits character (List.mem_cons_of_mem _ (List.mem_cons_of_mem _ listed))
  | case2 last => exact digits last List.mem_cons_self
  | case3 => trivial

/-- The pairs of a text are half as many as its characters. -/
theorem length_pairs {text : List UInt8} (even : 2 ∣ text.length) :
    (pairs text).length = text.length / 2 := by
  induction text using pairs.induct with
  | case1 first second rest ih =>
    simp only [pairs, List.length_cons] at even ⊢
    rw [ih (by omega)]
    omega
  | case2 last => simp at even
  | case3 => rfl

/-- The pairs of a text of digits are the bytes of the number it writes. -/
theorem listNat_pairs {text : List UInt8} (even : 2 ∣ text.length) (digits : Digits text) :
    Bytes.listNat (pairs text) = value text := by
  induction text using pairs.induct with
  | case1 first second rest ih =>
    have remaining : 2 ∣ rest.length := by
      simp only [List.length_cons] at even
      omega
    have there : Digits rest := fun character listed =>
      digits character (List.mem_cons_of_mem _ (List.mem_cons_of_mem _ listed))
    obtain ⟨read, found, same⟩ := byte_digits (digits first List.mem_cons_self)
      (digits second (List.mem_cons_of_mem _ List.mem_cons_self))
    have powers : 256 ^ (rest.length / 2) = 16 ^ rest.length := by
      obtain ⟨half, doubled⟩ := remaining
      rw [doubled, Nat.mul_div_cancel_left half (by decide), Nat.pow_mul]
    rw [pairs, found, Option.getD_some, Bytes.listNat, ih remaining there,
      length_pairs remaining, powers, same]
    simp only [value, List.length_cons, List.length_nil]
    ring
  | case2 last => simp at even
  | case3 => rfl

end Hex
