import Libcma.Lib.FromChars
import Libcma.Lib.Keeps
import Libcma.Parser.Inspect

/-!
# The identity typed for the drive reader

`account-driver-reader.cpp` looks up an account and a token by addresses and an id that are typed
on its command line. Its two parsers read alike up to the array they fill and the words of their
messages. They differ in the array: `address_from_string` fills the caller's variable,
`b32_from_string` a copy of it. The variables of `main` hold whatever was there before. An
exception is its text.

Texts of digits behind `0x` are parsed over zeros as the number they write. Both parsers also
accept pairs that only begin with a digit, neither writes the bytes in front of those typed, and no
token id reaches the caller.
-/

namespace Libcma.DriveReader

open Exec
open Libcma.Parser (Text ascii)

/-- `hex_chars`. -/
def hexChars : Text := ascii "0123456789abcdef"

/-- The two characters of a byte. -/
def hexPair (byte : UInt8) : Text :=
  [hexChars.getD (byte >>> 4).toNat 0, hexChars.getD (byte &&& 0x0F).toNat 0]

/-- `to_hex`. -/
def toHex (bytes : List UInt8) : Text := ascii "0x" ++ bytes.flatMap hexPair

/-- `address_to_string`. -/
def addressToString (addr : Address) : Text := toHex addr.toList

/-- `b32_to_string`. -/
def b32ToString (val : TokenId) : Text := toHex val.toList

/-- `int_to_hex`, of the 32 bits of an `int`: `std::hex` prints them as an unsigned number. -/
def intToHex (value : BitVec 32) : Text :=
  ascii "0x" ++ (Hex.print value.toNat).leftpad 8 '0'.toUInt8

section Parsing

variable {length : ℕ}

/-- `std::from_chars` into `data[index]` and the test of its error; undefined outside the array. -/
def convert (chars : Text) (index : ℕ) (message : Text) : Exec Text (Bytes length) Unit :=
  ⟨fun data =>
    if inside : index < length then
      match Hex.fromChars chars with
      | some value => .ok () (data.set ⟨index, inside⟩ value)
      | none => .throw message data
    else
      .undefined⟩

/-- The loop over the pairs of a text. A last character would be read together with what lies
behind the text. -/
def convertPairs (message : Text) : ℕ → Text → Exec Text (Bytes length) Unit
  | index, first :: second :: rest => do
    convert [first, second] index message
    convertPairs message (index + 1) rest
  | _, [_] => orUndefined none
  | _, [] => pure ()

/-- What the parsers do with the characters behind the prefix: one alone when their number is odd,
then pairs. -/
def convertBody (body message : Text) : Exec Text (Bytes length) Unit := do
  let nbytes := (body.length + 1) / 2
  if body.length % 2 ≠ 0 then convert (body.take 1) (length - nbytes) message
  convertPairs message (length - nbytes + body.length % 2) (body.drop (body.length % 2))

/-- The text of `address_from_string` and of `b32_from_string`: the length of the array, and the
words for the argument in the messages. -/
def fromString (length : ℕ) (noun field : String) (str : Text) :
    Exec Text (Bytes length) Unit := do
  refuseIf (¬str.take 2 = ascii "0x" ∧ ¬str.take 2 = ascii "0X")
    (ascii ("missing 0x prefix in " ++ noun ++ " '") ++ str ++ ascii "'")
  let body := str.drop 2
  refuseIf (2 * length < body.length) (ascii (noun ++ " '") ++ str ++ ascii "' is too long")
  convertBody body (ascii ("invalid hex character in " ++ field ++ " '") ++ str ++ ascii "'")

end Parsing

/-- `address_from_string`; `addr` is a variable of the caller. -/
def addressFromString {σ : Type} (str : Text) (addr : StatePart σ Address) : Exec Text σ Unit :=
  onPart addr (fromString 20 "address" "address" str)

/-- `b32_from_string`; `tokenId` is a value of the caller, and what is written to it is lost. -/
def b32FromString {σ : Type} (str : Text) (tokenId : TokenId) : Exec Text σ Unit := ⟨fun state =>
  ((fromString 32 "value" "token_id" str).run tokenId).mapState fun _ => state⟩

/-- `b32_from_string(str, token_id)` for a variable of the caller. -/
def tokenIdFromString {σ : Type} (str : Text) (tokenId : StatePart σ TokenId) :
    Exec Text σ Unit := do
  b32FromString str (tokenId.get (← read))

/-- The variables of `main` that hold the identity. -/
structure Identity where
  /-- `owner_address`. -/
  ownerAddress : Address
  /-- `token_address`. -/
  tokenAddress : Address
  /-- `token_id`. -/
  tokenId : TokenId

/-- `owner_address`. -/
def ownerAddress : StatePart Identity Address where
  get := Identity.ownerAddress
  set value identity := { identity with ownerAddress := value }
  get_set _ _ := rfl

/-- `token_address`. -/
def tokenAddress : StatePart Identity Address where
  get := Identity.tokenAddress
  set value identity := { identity with tokenAddress := value }
  get_set _ _ := rfl

/-- `token_id`. -/
def tokenId : StatePart Identity TokenId where
  get := Identity.tokenId
  set value identity := { identity with tokenId := value }
  get_set _ _ := rfl

/-- The operations of `drive_operation_t` that look an identity up. -/
inductive DriveOperation where
  /-- `FIND_BASE`. -/
  | findBase
  /-- `FIND_TOKEN_ADDRESS`. -/
  | findTokenAddress
  /-- `FIND_TOKEN_ADDRESS_ID`. -/
  | findTokenAddressId
  deriving DecidableEq

/-- The switch of `main` over the arguments behind the name of the drive. -/
def detectOperation : List Text → Exec Text Identity DriveOperation
  | [owner] => do
    addressFromString owner ownerAddress
    pure .findBase
  | [owner, token] => do
    addressFromString owner ownerAddress
    addressFromString token tokenAddress
    pure .findTokenAddress
  | [owner, token, id] => do
    addressFromString owner ownerAddress
    addressFromString token tokenAddress
    tokenIdFromString id tokenId
    pure .findTokenAddressId
  | _ => raise (ascii "Cannot detect operation")

/-- `0x` or `0X` and characters behind it: no more than an array has nibbles, and what kind of text
they are. -/
def HexArgument (length : ℕ) (kind : Text → Prop) (str : Text) : Prop :=
  (str.take 2 = ascii "0x" ∨ str.take 2 = ascii "0X") ∧ (str.drop 2).length ≤ 2 * length ∧
    kind (str.drop 2)

instance (length : ℕ) (kind : Text → Prop) [DecidablePred kind] (str : Text) :
    Decidable (HexArgument length kind str) :=
  inferInstanceAs (Decidable (_ ∧ _))

/-- A parser accepts a text exactly when it is digits, and then the caller's variable holds the
number they write. -/
def LooksUp {σ : Type} {length : ℕ} (parser : Exec Text σ Unit) (place : StatePart σ (Bytes length))
    (str : Text) (before : σ) : Prop :=
  ((∃ after, parser.run before = .ok () after) ↔ HexArgument length Hex.Digits str) ∧
    ∀ after, parser.run before = .ok () after →
      (place.get after).toNat = Hex.value (str.drop 2)

/-- A parser accepts its text and leaves a value in the caller's variable. -/
def ReadsBack {σ τ : Type} (parser : Exec Text σ Unit) (place : StatePart σ τ) (value : τ)
    (before : σ) : Prop :=
  ∃ after, parser.run before = .ok () after ∧ place.get after = value

/-- The bytes in front of those a text is written to are zero. -/
def Padded {length : ℕ} (str : Text) (data : Bytes length) : Prop :=
  ∀ byte ∈ data.toList.take (length - ((str.drop 2).length + 1) / 2), byte = 0

instance {length : ℕ} (str : Text) (data : Bytes length) : Decidable (Padded str data) :=
  inferInstanceAs (Decidable (∀ byte ∈ _, _))

section Filling

variable {length : ℕ} (message : Text)

/-- A conversion sets the byte behind some bytes, or finds no digit. -/
theorem convert_meets (chars : Text) (front old : List UInt8) (data : Bytes length)
    (laid : data.toList = front ++ old) (room : 0 < old.length) :
    ((convert chars front.length message).run data).Meets
      (fun _ after => ∃ value, Hex.fromChars chars = some value ∧
        after.toList = (front ++ [value]) ++ old.tail)
      fun _ _ => Hex.fromChars chars = none := by
  have total := congrArg List.length laid
  rw [List.Vector.toList_length, List.length_append] at total
  have inside : front.length < length := by omega
  simp only [convert, dif_pos inside]
  cases found : Hex.fromChars chars with
  | none => trivial
  | some value =>
    obtain ⟨first, rest, rfl⟩ := List.exists_cons_of_length_pos room
    have set : (data.set ⟨front.length, inside⟩ value).toList = (front ++ [value]) ++ rest := by
      rw [List.Vector.toList_set, laid]
      simp
    exact ⟨value, rfl, set⟩

/-- The loop stores the pairs of a text behind some bytes, or stops at one without a digit. -/
theorem convertPairs_meets (text : Text) (front old : List UInt8) (data : Bytes length)
    (laid : data.toList = front ++ old) (even : 2 ∣ text.length)
    (fits : text.length / 2 = old.length) :
    ((convertPairs message front.length text).run data).Meets
      (fun _ after => Hex.Begun text ∧ after.toList = front ++ Hex.octets text)
      fun _ _ => ¬Hex.Begun text := by
  induction text using Hex.octets.induct generalizing front old data with
  | case1 first second rest ih =>
    simp only [List.length_cons] at even fits
    have begins := Hex.isSome_fromChars first (show [second].length ≤ 1 from Nat.le_refl 1)
    apply Exec.meets_bind ((convert_meets message [first, second] front old data laid
      (by omega)).mono (fun _ _ => id) ?_)
    · rintro _ reached ⟨value, found, set⟩
      rw [found] at begins
      have digit : Hex.isDigit first := begins.mp rfl
      have later := ih (front ++ [value]) old.tail reached set (by omega) (by simp; omega)
      rw [List.length_append, List.length_singleton] at later
      apply later.mono
      · intro _ after stored
        refine ⟨⟨digit, stored.1⟩, ?_⟩
        rw [stored.2, Hex.octets, found]
        simp
      · intro _ _ stopped whole
        exact stopped whole.2
    · intro _ _ none begun
      rw [none] at begins
      exact absurd (begins.mpr begun.1) (by decide)
  | case2 last => simp at even
  | case3 =>
    have none : old = [] := List.eq_nil_of_length_eq_zero fits.symm
    subst none
    exact ⟨trivial, laid⟩

/-- The characters behind the prefix fill the end of the array, or a pair begins with no digit. -/
theorem convertBody_meets (body : Text) (data : Bytes length) (short : body.length ≤ 2 * length) :
    ((convertBody body message).run data).Meets
      (fun _ after => Hex.RightBegun body ∧
        after.toList = data.toList.take (length - (body.length + 1) / 2) ++ Hex.rightOctets body)
      fun _ _ => ¬Hex.RightBegun body := by
  have laid : data.toList = data.toList.take (length - (body.length + 1) / 2) ++
      data.toList.drop (length - (body.length + 1) / 2) := (List.take_append_drop _ _).symm
  have start : (data.toList.take (length - (body.length + 1) / 2)).length =
      length - (body.length + 1) / 2 := by
    rw [List.length_take, List.Vector.toList_length]
    omega
  have room : (data.toList.drop (length - (body.length + 1) / 2)).length =
      (body.length + 1) / 2 := by
    rw [List.length_drop, List.Vector.toList_length]
    omega
  unfold convertBody Hex.RightBegun Hex.rightOctets
  rcases Nat.mod_two_eq_zero_or_one body.length with even | odd
  · simp only [even, ne_eq, not_true_eq_false, if_false, Nat.add_zero, List.take_zero,
      List.drop_zero]
    have filled := convertPairs_meets message body _ _ data laid
      (Nat.dvd_of_mod_eq_zero even) (by rw [room]; omega)
    rw [start] at filled
    apply filled.mono
    · exact fun _ _ stored => ⟨⟨trivial, stored.1⟩, stored.2⟩
    · exact fun _ _ stopped whole => stopped whole.2
  · simp only [odd, ne_eq, Nat.one_ne_zero, not_false_eq_true, if_true]
    obtain ⟨first, rest, rfl⟩ := List.exists_cons_of_length_pos (show 0 < body.length by omega)
    simp only [List.take_succ_cons, List.take_zero, List.drop_succ_cons, List.drop_zero]
    have begins := Hex.isSome_fromChars first (show [].length ≤ 1 from Nat.zero_le 1)
    have alone := convert_meets message [first] _ _ data laid (by rw [room]; omega)
    rw [start] at alone
    apply Exec.meets_bind (alone.mono (fun _ _ => id) ?_)
    · rintro _ reached ⟨value, found, set⟩
      rw [found] at begins
      have digit : Hex.isDigit first := begins.mp rfl
      have filled := convertPairs_meets message rest _ _ reached set
        (by rw [List.length_cons] at odd; omega) (by
          rw [List.length_tail, room, List.length_cons]
          rw [List.length_cons] at odd
          omega)
      rw [List.length_append, List.length_singleton, start] at filled
      apply filled.mono
      · intro _ after stored
        refine ⟨⟨digit, stored.1⟩, ?_⟩
        rw [stored.2, Hex.octets, found]
        simp
      · intro _ _ stopped whole
        exact stopped whole.2
    · intro _ _ none begun
      rw [none] at begins
      exact absurd (begins.mpr begun.1) (by decide)

/-- The parsers accept the texts whose pairs begin with digits, and fill the end of the array with
what is read of them. -/
theorem fromString_meets (noun field : String) (str : Text) (data : Bytes length) :
    ((fromString length noun field str).run data).Meets
      (fun _ after => HexArgument length Hex.RightBegun str ∧
        after.toList = data.toList.take (length - ((str.drop 2).length + 1) / 2) ++
          Hex.rightOctets (str.drop 2))
      fun _ _ => ¬HexArgument length Hex.RightBegun str := by
  apply Exec.meets_bind (Exec.meets_refuseIf ?unmarked)
  case unmarked => exact fun missing formed => formed.1.elim missing.1 missing.2
  intro _ reached passed
  have marked : str.take 2 = ascii "0x" ∨ str.take 2 = ascii "0X" := by
    by_contra missing
    exact passed.1 (not_or.mp missing)
  rw [passed.2]
  apply Exec.meets_bind (Exec.meets_refuseIf ?long)
  case long => exact fun long formed => Nat.not_lt.mpr formed.2.1 long
  intro _ still fits
  have short : (str.drop 2).length ≤ 2 * length := Nat.not_lt.mp fits.1
  rw [fits.2]
  apply (convertBody_meets _ (str.drop 2) data short).mono
  · exact fun _ _ stored => ⟨⟨marked, short, stored.1⟩, stored.2⟩
  · exact fun _ _ stopped formed => stopped formed.2.2

/-- A parser fills the array and accepts, or refuses. -/
theorem fromString_cases (noun field : String) (str : Text) (data : Bytes length) :
    (∃ after, (fromString length noun field str).run data = .ok () after ∧
      HexArgument length Hex.RightBegun str ∧
      after.toList = data.toList.take (length - ((str.drop 2).length + 1) / 2) ++
        Hex.rightOctets (str.drop 2)) ∨
    ∃ error after, (fromString length noun field str).run data = .throw error after ∧
      ¬HexArgument length Hex.RightBegun str := by
  have meets := fromString_meets noun field str data
  cases ended : (fromString length noun field str).run data with
  | ok value after => exact .inl ⟨after, rfl, meets.of_ok ended⟩
  | throw error after => exact .inr ⟨error, after, rfl, meets.of_throw ended⟩
  | undefined =>
    rw [ended] at meets
    exact absurd meets id

/-- A text of digits begins its pairs with digits. -/
theorem HexArgument.rightBegun {str : Text} (typed : HexArgument length Hex.Digits str) :
    HexArgument length Hex.RightBegun str :=
  ⟨typed.1, typed.2.1, typed.2.2.rightBegun⟩

/-- What is filled in behind other bytes is the number typed exactly when those are zero. -/
theorem toNat_filled {str : Text} {data after : Bytes length} (digits : Hex.Digits (str.drop 2))
    (filled : after.toList = data.toList.take (length - ((str.drop 2).length + 1) / 2) ++
      Hex.rightOctets (str.drop 2)) :
    after.toNat = Hex.value (str.drop 2) ↔ Padded str data := by
  have positive : 256 ^ (Hex.rightOctets (str.drop 2)).length ≠ 0 :=
    Nat.ne_of_gt (Nat.pow_pos (by decide))
  rw [List.Vector.toNat, filled, Bytes.listNat_append, Hex.listNat_rightOctets digits,
    Nat.add_eq_right, Nat.mul_eq_zero, or_iff_left positive, Bytes.listNat_eq_zero]
  rfl

end Filling

section Lookup

variable {σ : Type} {length : ℕ} {parser : Exec Text σ Unit} {place : StatePart σ (Bytes length)}
  {str : Text} {before after : σ}

/-- A parser that accepts a text does as it should when the text is digits and their number is in
the variable. -/
theorem looksUp_accepted (accepted : parser.run before = .ok () after)
    (begun : HexArgument length Hex.RightBegun str) :
    LooksUp parser place str before ↔
      Hex.Digits (str.drop 2) ∧ (place.get after).toNat = Hex.value (str.drop 2) := by
  constructor
  · intro looks
    have typed := looks.1.mp ⟨after, accepted⟩
    exact ⟨typed.2.2, looks.2 after accepted⟩
  · intro right
    constructor
    · exact iff_of_true ⟨after, accepted⟩ ⟨begun.1, begun.2.1, right.1⟩
    · intro other returned
      rw [accepted] at returned
      cases returned
      exact right.2

/-- A parser that refuses a text whose pairs do not begin with digits does as it should. -/
theorem looksUp_refused {error : Text} (refused : parser.run before = .throw error after)
    (stopped : ¬HexArgument length Hex.RightBegun str) : LooksUp parser place str before := by
  have never : ∀ other, parser.run before ≠ .ok () other := by
    intro other returned
    rw [refused] at returned
    cases returned
  constructor
  · apply iff_of_false
    · intro accepted
      obtain ⟨other, returned⟩ := accepted
      exact never other returned
    · exact fun typed => stopped typed.rightBegun
  · exact fun other returned => absurd returned (never other)

/-- When an address is parsed as it should: a text the code accepts is digits, and the variable was
zero in front of them. -/
theorem looksUp_address_iff (str : Text) (address : StatePart σ Address) (before : σ) :
    LooksUp (addressFromString str address) address str before ↔
      (HexArgument 20 Hex.RightBegun str →
        Hex.Digits (str.drop 2) ∧ Padded str (address.get before)) := by
  rcases fromString_cases "address" "address" str (address.get before) with
    ⟨filled, accepted, begun, laid⟩ | ⟨error, left, refused, stopped⟩
  · have runs : (addressFromString str address).run before =
        .ok () (address.set filled before) := by
      show Outcome.mapState _ _ = _
      rw [accepted]
      rfl
    have back : address.get (address.set filled before) = filled := address.get_set filled before
    rw [looksUp_accepted runs begun, back]
    constructor
    · intro right _
      exact ⟨right.1, (toNat_filled right.1 laid).mp right.2⟩
    · intro ready
      obtain ⟨digits, padded⟩ := ready begun
      exact ⟨digits, (toNat_filled digits laid).mpr padded⟩
  · have runs : (addressFromString str address).run before =
        .throw error (address.set left before) := by
      show Outcome.mapState _ _ = _
      rw [refused]
      rfl
    exact iff_of_true (looksUp_refused runs stopped) fun begun => absurd begun stopped

/-- When a token id is parsed as it should: a text the code accepts is digits, and the variable
held their number before. -/
theorem looksUp_tokenId_iff (str : Text) (tokenId : StatePart σ TokenId) (before : σ) :
    LooksUp (tokenIdFromString str tokenId) tokenId str before ↔
      (HexArgument 32 Hex.RightBegun str →
        Hex.Digits (str.drop 2) ∧ (tokenId.get before).toNat = Hex.value (str.drop 2)) := by
  rcases fromString_cases "value" "token_id" str (tokenId.get before) with
    ⟨filled, accepted, begun, -⟩ | ⟨error, left, refused, stopped⟩
  · have runs : (tokenIdFromString str tokenId).run before = .ok () before := by
      show Outcome.mapState _ _ = _
      rw [accepted]
      rfl
    rw [looksUp_accepted runs begun]
    exact ⟨fun right _ => right, fun ready => ready begun⟩
  · have runs : (tokenIdFromString str tokenId).run before = .throw error before := by
      show Outcome.mapState _ _ = _
      rw [refused]
      rfl
    exact iff_of_true (looksUp_refused runs stopped) fun begun => absurd begun stopped

end Lookup

section RoundTrip

/-- The two characters of a byte are digits. -/
theorem digits_hexPair : ∀ byte, Hex.Digits (hexPair byte) :=
  Hex.forall_character (fun byte => Hex.Digits (hexPair byte)) (by decide +kernel)

/-- The two characters of a byte write it. -/
theorem value_hexPair : ∀ byte, Hex.value (hexPair byte) = byte.toNat :=
  Hex.forall_character (fun byte => Hex.value (hexPair byte) = byte.toNat) (by decide +kernel)

/-- What `int_to_hex` prints behind the prefix is eight digits that write the number. -/
theorem intToHex_digits (value : BitVec 32) :
    ∃ digits, intToHex value = ascii "0x" ++ digits ∧ digits.length = 8 ∧ Hex.Digits digits ∧
      Hex.value digits = value.toNat := by
  have short : (Hex.print value.toNat).length ≤ 8 :=
    Hex.length_print (by decide) value.isLt
  refine ⟨_, rfl, ?length, ?digits, ?value⟩
  case length =>
    rw [List.length_leftpad]
    exact Nat.max_eq_left short
  case digits =>
    intro character listed
    rw [List.leftpad, List.mem_append, List.mem_replicate] at listed
    rcases listed with ⟨-, rfl⟩ | printed
    · decide
    · exact Hex.digits_print _ character printed
  case value => rw [Hex.value_leftpad, Hex.value_print]

/-- There are two characters for each byte. -/
theorem length_hexPairs (bytes : List UInt8) :
    (bytes.flatMap hexPair).length = 2 * bytes.length := by
  induction bytes with
  | nil => rfl
  | cons byte rest ih =>
    rw [List.flatMap_cons, List.length_append, ih]
    simp only [hexPair, List.length_cons, List.length_nil]
    omega

/-- The characters of some bytes write the number they denote. -/
theorem value_hexPairs (bytes : List UInt8) :
    Hex.value (bytes.flatMap hexPair) = Bytes.listNat bytes := by
  induction bytes with
  | nil => rfl
  | cons byte rest ih =>
    have powers : 16 ^ (2 * rest.length) = 256 ^ rest.length := by rw [Nat.pow_mul]
    rw [List.flatMap_cons, Hex.value_append, value_hexPair, ih, length_hexPairs, powers,
      Bytes.listNat]

/-- The text of some bytes is digits, no more than their array has nibbles. -/
theorem hexArgument_toHex {length : ℕ} (bytes : Bytes length) :
    HexArgument length Hex.Digits (toHex bytes.toList) := by
  have size : (bytes.toList.flatMap hexPair).length = 2 * length := by
    rw [length_hexPairs, List.Vector.toList_length]
  refine ⟨.inl rfl, Nat.le_of_eq size, ?_⟩
  intro character listed
  obtain ⟨byte, -, written⟩ := List.mem_flatMap.mp listed
  exact digits_hexPair byte character written

/-- The text of an address is parsed as the address, whatever the variable held. -/
theorem addressFromString_addressToString {σ : Type} (address : StatePart σ Address)
    (addr : Address) (before : σ) : (addressFromString (addressToString addr) address).run before =
      .ok () (address.set addr before) := by
  have typed := hexArgument_toHex addr
  rcases fromString_cases "address" "address" (addressToString addr) (address.get before) with
    ⟨filled, accepted, -, laid⟩ | ⟨error, left, refused, stopped⟩
  · have number : filled.toNat = addr.toNat := by
      have padded : Padded (addressToString addr) (address.get before) := by
        have size : ((addressToString addr).drop 2).length = 2 * addr.toList.length :=
          length_hexPairs addr.toList
        rw [List.Vector.toList_length] at size
        unfold Padded
        rw [size]
        intro byte listed
        cases listed
      rw [(toNat_filled typed.2.2 laid).mpr padded]
      exact value_hexPairs addr.toList
    show Outcome.mapState _ _ = _
    rw [accepted, List.Vector.toNat_inj.mp number]
    rfl
  · exact absurd typed.rightBegun stopped

/-- The text of a token id is accepted, and the variable is left as it was. -/
theorem tokenIdFromString_b32ToString {σ : Type} (tokenId : StatePart σ TokenId) (val : TokenId)
    (before : σ) : (tokenIdFromString (b32ToString val) tokenId).run before = .ok () before := by
  have typed := hexArgument_toHex val
  rcases fromString_cases "value" "token_id" (b32ToString val) (tokenId.get before) with
    ⟨filled, accepted, -, -⟩ | ⟨error, left, refused, stopped⟩
  · show Outcome.mapState _ _ = _
    rw [accepted]
    rfl
  · exact absurd typed.rightBegun stopped

end RoundTrip

section Operations

/-- Parsing an address keeps the variables apart from its own. -/
theorem keeps_addressFromString {σ τ : Type} {view : σ → τ} (str : Text)
    (address : StatePart σ Address) (apart : ∀ value state,
      view (address.set value state) = view state) :
    Keeps view (addressFromString str address) := by
  intro state
  show (Outcome.mapState _ _).Satisfies _ _
  cases (fromString 20 "address" "address" str).run (address.get state) with
  | ok value after => exact apart after state
  | throw error after => exact apart after state
  | undefined => trivial

/-- Parsing a token id keeps every variable. -/
theorem keeps_tokenIdFromString {σ τ : Type} {view : σ → τ} (str : Text)
    (tokenId : StatePart σ TokenId) : Keeps view (tokenIdFromString str tokenId) := by
  apply Keeps.bind .read
  intro reached state
  show (Outcome.mapState _ _).Satisfies _ _
  cases (fromString 32 "value" "token_id" str).run (tokenId.get reached) with
  | ok value after => rfl
  | throw error after => rfl
  | undefined => trivial

/-- Whatever is typed, the token id that is looked up is what its variable held before. -/
theorem detectOperation_keeps_tokenId (arguments : List Text) :
    Keeps Identity.tokenId (detectOperation arguments) := by
  have owner (str : Text) : Keeps Identity.tokenId (addressFromString str ownerAddress) :=
    keeps_addressFromString str ownerAddress fun _ _ => rfl
  have token (str : Text) : Keeps Identity.tokenId (addressFromString str tokenAddress) :=
    keeps_addressFromString str tokenAddress fun _ _ => rfl
  have id (str : Text) : Keeps Identity.tokenId (tokenIdFromString str tokenId) :=
    keeps_tokenIdFromString str tokenId
  unfold detectOperation
  split
  · exact .bind (owner _) fun _ => .pure _
  · exact .bind (owner _) fun _ => .bind (token _) fun _ => .pure _
  · exact .bind (owner _) fun _ => .bind (token _) fun _ => .bind (id _) fun _ => .pure _
  · exact .raise _

end Operations

/-- The drive reader looks up the address that was typed exactly when a text it accepts is digits
and the variable was zero in front of them; for a token id, when the variable held it before. The
text of an address is read back always, that of a token id only if it was there. Whatever is typed,
`main` looks up the token id its variable held before. -/
theorem looksUp_iff {σ : Type} (address : StatePart σ Address) (tokenId : StatePart σ TokenId)
    (before : σ) :
    (∀ str, LooksUp (addressFromString str address) address str before ↔
      (HexArgument 20 Hex.RightBegun str →
        Hex.Digits (str.drop 2) ∧ Padded str (address.get before))) ∧
    (∀ str, LooksUp (tokenIdFromString str tokenId) tokenId str before ↔
      (HexArgument 32 Hex.RightBegun str →
        Hex.Digits (str.drop 2) ∧ (tokenId.get before).toNat = Hex.value (str.drop 2))) ∧
    (∀ addr, ReadsBack (addressFromString (addressToString addr) address) address addr before) ∧
    (∀ val, ReadsBack (tokenIdFromString (b32ToString val) tokenId) tokenId val before ↔
      tokenId.get before = val) ∧
    ∀ arguments, Keeps Identity.tokenId (detectOperation arguments) := by
  refine ⟨fun str => ?address, fun str => ?tokenId, fun addr => ?addressBack, fun val => ?back,
    detectOperation_keeps_tokenId⟩
  case address => exact looksUp_address_iff str address before
  case tokenId => exact looksUp_tokenId_iff str tokenId before
  case addressBack =>
    have parsed := addressFromString_addressToString address addr before
    exact ⟨_, parsed, address.get_set addr before⟩
  case back =>
    have parsed := tokenIdFromString_b32ToString tokenId val before
    constructor
    · intro back
      obtain ⟨after, returned, there⟩ := back
      rw [parsed] at returned
      cases returned
      exact there
    · intro there
      exact ⟨before, parsed, there⟩

/-- A character that is no digit is skipped over, a short address is read over what its variable
held, and a token id is not read at all. -/
theorem not_looksUp :
    ¬LooksUp (addressFromString (ascii "0x1g") ownerAddress) ownerAddress (ascii "0x1g")
      ⟨zeros 20, zeros 20, zeros 32⟩ ∧
    ¬LooksUp (addressFromString (ascii "0x1") ownerAddress) ownerAddress (ascii "0x1")
      ⟨List.Vector.replicate 20 1, zeros 20, zeros 32⟩ ∧
    ¬LooksUp (tokenIdFromString (ascii "0x01") tokenId) tokenId (ascii "0x01")
      ⟨zeros 20, zeros 20, zeros 32⟩ := by
  rw [looksUp_address_iff, looksUp_address_iff, looksUp_tokenId_iff]
  decide +kernel

end Libcma.DriveReader
