import Libcma.Parser.Inspect

/-!
# The parameters of an inspect request

`Formed` is the grammar of the parameters of a method; the texts behind `0x` are of a kind.
`Hex.Digits` is the kind that is meant, and `Hex.Readable` the kind that `std::stoi` accepts. Each
stage of the inspect decoders stores its parameter as the number of its pairs, or finds it not to
be of the form.
-/

namespace Libcma.Parser

/-- `0x` and characters after it: how many, and what kind of text they are. -/
def HexText (counts : ℕ → Prop) (kind : Text → Prop) (text : Text) : Prop :=
  text.take 2 = ascii "0x" ∧ counts (text.length - 2) ∧ kind (text.drop 2)

instance (counts : ℕ → Prop) (kind : Text → Prop) (text : Text) [DecidablePred counts]
    [DecidablePred kind] : Decidable (HexText counts kind text) :=
  inferInstanceAs (Decidable (_ ∧ _))

/-- The text of an account: an address, or 32 bytes. -/
abbrev AccountText : (Text → Prop) → Text → Prop := HexText fun count => count = 40 ∨ count = 64

/-- The text of a token address. -/
abbrev TokenText : (Text → Prop) → Text → Prop := HexText fun count => count = 40

/-- The text of a token id. -/
abbrev TokenIdText : (Text → Prop) → Text → Prop := HexText fun count => 2 ∣ count ∧ count ≤ 64

/-- A text that begins with `0x` has two characters. -/
theorem two_le_length {text : Text} (marked : text.take 2 = ascii "0x") : 2 ≤ text.length := by
  have length := congrArg List.length marked
  rw [List.length_take] at length
  have two : (ascii "0x").length = 2 := rfl
  omega

/-- The methods of inspect requests. -/
inductive Method where
  | balance
  | supply
  deriving DecidableEq

/-- The parameters of a method: how many there may be, and the text of each that is given. -/
def Formed (kind : Text → Prop) : Method → List Text → Prop
  | .balance, params => 1 ≤ params.length ∧ params.length ≤ 4 ∧
      (∀ text ∈ params[0]?, AccountText kind text) ∧ (∀ text ∈ params[1]?, TokenText kind text) ∧
      ∀ text ∈ params[2]?, TokenIdText kind text
  | .supply, params => params.length ≤ 3 ∧
      (∀ text ∈ params[0]?, TokenText kind text) ∧ ∀ text ∈ params[1]?, TokenIdText kind text

instance (kind : Text → Prop) (method : Method) (params : List Text) [DecidablePred kind] :
    Decidable (Formed kind method params) :=
  match method with
  | .balance => inferInstanceAs (Decidable (_ ∧ _))
  | .supply => inferInstanceAs (Decidable (_ ∧ _))

section Stages

variable {length : ℕ} {raises : CmaException → Bytes length → Prop}

/-- A byte that is set behind some bytes lies behind them. -/
theorem setByte_meets (front old : List UInt8) (span : Bytes length) (value : UInt8)
    (laid : span.toList = front ++ old) (room : 0 < old.length) :
    ((setByte front.length value).run span).Meets
      (fun _ after => after.toList = (front ++ [value]) ++ old.tail) raises := by
  have total := congrArg List.length laid
  rw [List.Vector.toList_length, List.length_append] at total
  have inside : front.length < length := by omega
  obtain ⟨first, rest, rfl⟩ := List.exists_cons_of_length_pos room
  simp only [setByte, dif_pos inside]
  show (span.set ⟨front.length, inside⟩ value).toList = _
  rw [List.Vector.toList_set, laid]
  simp

/-- The zeros lie in front. -/
theorem fillZeros_meets (count : ℕ) (span : Bytes length) (inside : count ≤ length) :
    ((fillZeros count).run span).Meets
      (fun _ after => after.toList = List.replicate count 0 ++ span.toList.drop count)
      raises := by
  simp only [fillZeros, dif_pos inside]
  rfl

/-- The loop stores the pairs of a text behind some bytes, or stops at one that is not read. -/
theorem storePairs_meets (text : Text) (front old : List UInt8) (span : Bytes length)
    (laid : span.toList = front ++ old) (even : 2 ∣ text.length)
    (fits : text.length / 2 = old.length) :
    ((storePairs front.length text).run span).Meets
      (fun _ after => Hex.Readable text ∧ after.toList = front ++ Hex.pairs text)
      fun _ _ => ¬Hex.Readable text := by
  induction text using Hex.pairs.induct generalizing front old span with
  | case1 first second rest ih =>
    simp only [List.length_cons] at even fits
    have reads := Hex.isSome_byte_pair first second
    unfold storePairs
    cases found : Hex.byte [first, second] with
    | none =>
      intro readable
      rw [found] at reads
      exact absurd (reads.mpr readable.1) (by decide)
    | some value =>
      have readable : Hex.ReadablePair first second := reads.mp (by rw [found]; rfl)
      rw [Exec.orRaise_some]
      apply Exec.meets_bind (setByte_meets front old span value laid (by omega))
      intro _ reached set
      have later := ih (front ++ [value]) old.tail reached set (by omega) (by simp; omega)
      rw [List.length_append, List.length_singleton] at later
      apply later.mono
      · intro _ after stored
        refine ⟨⟨readable, stored.1⟩, ?_⟩
        rw [stored.2, Hex.pairs, found]
        simp
      · intro _ _ unreadable whole
        exact unreadable whole.2
  | case2 last => simp at even
  | case3 =>
    have none : old = [] := List.eq_nil_of_length_eq_zero fits.symm
    subst none
    exact ⟨trivial, laid⟩

/-- The loop behind zeros stores the number that the pairs after `0x` are. -/
theorem storeDigits_meets {counts : ℕ → Prop} {text : Text} (count : ℕ) {old : List UInt8}
    {span : Bytes length} (laid : span.toList = List.replicate count 0 ++ old)
    (marked : text.take 2 = ascii "0x") (counted : counts (text.length - 2))
    (even : 2 ∣ text.length - 2) (fits : (text.length - 2) / 2 = old.length) :
    ((storePairs count (text.drop 2)).run span).Meets
      (fun _ after => HexText counts Hex.Readable text ∧
        after.toNat = Bytes.listNat (Hex.pairs (text.drop 2)))
      fun _ _ => ¬HexText counts Hex.Readable text := by
  rw [← List.length_drop] at even fits
  have stored := storePairs_meets (text.drop 2) (List.replicate count 0) old span laid even fits
  rw [List.length_replicate] at stored
  apply stored.mono
  · intro _ after kept
    refine ⟨⟨marked, counted, kept.1⟩, ?_⟩
    rw [List.Vector.toNat, kept.2, Bytes.listNat_zeros_append]
  · exact fun _ _ unreadable formed => unreadable formed.2.2

end Stages

/-- An account is stored, or its text is not of the form. -/
theorem storeAccount_meets (text : Text) (span : Bytes32) :
    ((storeAccount text).run span).Meets
      (fun _ after => AccountText Hex.Readable text ∧
        after.toNat = Bytes.listNat (Hex.pairs (text.drop 2)))
      fun _ _ => ¬AccountText Hex.Readable text := by
  unfold storeAccount
  by_cases short : text.length = addressHexLength
  · have size : text.length = 42 := short
    simp only [short, if_true]
    apply Exec.meets_bind (fillZeros_meets 12 span (by decide))
    intro _ padded laid
    apply Exec.meets_bind (Exec.meets_refuseIf fun wrong formed => wrong formed.1)
    rintro _ _ ⟨marked, rfl⟩
    exact storeDigits_meets 12 laid (not_not.mp marked) (by omega) (by omega) (by simp [size])
  · simp only [short, if_false]
    apply Exec.meets_bind (Exec.meets_refuseIf ?size)
    case size =>
      intro wrong formed
      have long := two_le_length formed.1
      rcases formed.2.1 with count | count
      · exact short (show _ = 42 by omega)
      · exact wrong (show _ = 66 by omega)
    rintro _ _ ⟨sized, rfl⟩
    have size : text.length = 66 := not_not.mp sized
    apply Exec.meets_bind (Exec.meets_refuseIf fun wrong formed => wrong formed.1)
    rintro _ _ ⟨marked, rfl⟩
    exact storeDigits_meets 0 rfl (not_not.mp marked) (by omega) (by omega) (by simp [size])

/-- A token address is stored, or its text is not of the form. -/
theorem storeToken_meets (text : Text) (span : Address) :
    ((storeToken text).run span).Meets
      (fun _ after => TokenText Hex.Readable text ∧
        after.toNat = Bytes.listNat (Hex.pairs (text.drop 2)))
      fun _ _ => ¬TokenText Hex.Readable text := by
  apply Exec.meets_bind (Exec.meets_refuseIf ?size)
  case size =>
    intro wrong formed
    have long := two_le_length formed.1
    have count := formed.2.1
    exact wrong (show _ = 42 by omega)
  rintro _ _ ⟨sized, rfl⟩
  have size : text.length = 42 := not_not.mp sized
  apply Exec.meets_bind (Exec.meets_refuseIf fun wrong formed => wrong formed.1)
  rintro _ _ ⟨marked, rfl⟩
  exact storeDigits_meets 0 rfl (not_not.mp marked) (by omega) (by omega) (by simp [size])

/-- A token id is stored, or its text is not of the form. -/
theorem storeTokenId_meets (text : Text) (span : Bytes32) :
    ((storeTokenId text).run span).Meets
      (fun _ after => TokenIdText Hex.Readable text ∧
        after.toNat = Bytes.listNat (Hex.pairs (text.drop 2)))
      fun _ _ => ¬TokenIdText Hex.Readable text := by
  have limit : maxIdHexLength = 66 := rfl
  apply Exec.meets_bind (Exec.meets_refuseIf ?size)
  case size =>
    intro wrong formed
    have long := two_le_length formed.1
    have count := formed.2.1
    omega
  rintro _ _ ⟨sized, rfl⟩
  apply Exec.meets_bind (Exec.meets_refuseIf fun wrong formed => wrong formed.1)
  rintro _ _ ⟨marked, rfl⟩
  have long := two_le_length (not_not.mp marked)
  by_cases short : text.length < maxIdHexLength
  · simp only [short, if_true]
    apply Exec.meets_bind (fillZeros_meets _ _ (by omega))
    intro _ padded laid
    apply storeDigits_meets _ laid (not_not.mp marked)
    · omega
    · omega
    · simp
      omega
  · simp only [short, if_false]
    apply storeDigits_meets 0 rfl (not_not.mp marked)
    · omega
    · omega
    · simp
      omega

end Libcma.Parser
