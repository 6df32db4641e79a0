import Libcma.Parser.Requests

/-!
# Exactness of inspect parameters

`std::stoi` reads more than two digits: a blank or a sign and a digit, or a digit and anything. A
request with such a pair is accepted although it is not of the form, so a decoder is exact on the
requests where every pair that is read is a pair of digits (`decodeInspect_exact_iff`).
-/

namespace Libcma.Parser

/-- A request is accepted when its parameters are of the form, and then the fields are the numbers
of their digits. -/
def Exact (method : Method) (params : List Text) (outcome : Outcome CmaException Inspection Unit) :
    Prop :=
  ((∃ after, outcome = .ok () after) ↔ Formed Hex.Digits method params) ∧
    ∀ after, outcome = .ok () after →
      Values (fun text => Hex.value (text.drop 2)) method params after

/-- Texts of one kind are texts of a wider kind. -/
theorem HexText.mono {counts : ℕ → Prop} {kind wider : Text → Prop}
    (widens : ∀ text, kind text → wider text) {text : Text} (formed : HexText counts kind text) :
    HexText counts wider text :=
  ⟨formed.1, formed.2.1, widens _ formed.2.2⟩

/-- Parameters of one kind are parameters of a wider kind. -/
theorem Formed.mono {kind wider : Text → Prop} (widens : ∀ text, kind text → wider text)
    {method : Method} {params : List Text} (formed : Formed kind method params) :
    Formed wider method params := by
  cases method with
  | balance =>
    obtain ⟨least, most, account, token, tokenId⟩ := formed
    exact ⟨least, most, fun text given => (account text given).mono widens,
      fun text given => (token text given).mono widens,
      fun text given => (tokenId text given).mono widens⟩
  | supply =>
    obtain ⟨most, token, tokenId⟩ := formed
    exact ⟨most, fun text given => (token text given).mono widens,
      fun text given => (tokenId text given).mono widens⟩

/-- The pairs behind `0x` are the number of the digits. -/
theorem pairsNumber_eq {counts : ℕ → Prop} {text : Text} (formed : HexText counts Hex.Digits text)
    (even : ∀ count, counts count → 2 ∣ count) : pairsNumber text = Hex.value (text.drop 2) := by
  apply Hex.listNat_pairs
  · rw [List.length_drop]
    exact even _ formed.2.1
  · exact formed.2.2

/-- Parameters of digits are stored as the numbers of the digits. -/
theorem Values.digits {method : Method} {params : List Text} {state : Inspection}
    (values : Values pairsNumber method params state) (formed : Formed Hex.Digits method params) :
    Values (fun text => Hex.value (text.drop 2)) method params state := by
  cases method with
  | balance =>
    obtain ⟨_, _, accountText, tokenText, tokenIdText⟩ := formed
    refine ⟨?_, ?_, ?_⟩
    · intro text given
      rw [values.1 text given, pairsNumber_eq (accountText text given) (by omega)]
    · intro text given
      rw [values.2.1 text given, pairsNumber_eq (tokenText text given) (by omega)]
    · intro text given
      rw [values.2.2 text given, pairsNumber_eq (tokenIdText text given) fun _ even => even.1]
  | supply =>
    obtain ⟨_, tokenText, tokenIdText⟩ := formed
    refine ⟨?_, ?_⟩
    · intro text given
      rw [values.1 text given, pairsNumber_eq (tokenText text given) (by omega)]
    · intro text given
      rw [values.2 text given, pairsNumber_eq (tokenIdText text given) fun _ even => even.1]

/-- A request is decoded exactly when it is not one that is read without being of the form. -/
theorem decodeInspect_exact_iff (parse : Text → Parsed) (payload : Payload) (type : InputType)
    (state : Inspection) (method : Method) (jsonInput : Request) (params : List Text)
    (requests : Requests parse payload type state method jsonInput)
    (lists : jsonInput.params.Lists params) :
    Exact method params ((decodeInspect parse type payload).run state) ↔
      (Formed Hex.Readable method params → Formed Hex.Digits method params) := by
  have accepted := requests.accepted_iff lists
  constructor
  · intro exact readable
    exact exact.1.mp (accepted.mpr readable)
  · intro strict
    constructor
    · constructor
      · exact fun returned => strict (accepted.mp returned)
      · exact fun digits => accepted.mpr (digits.mono fun _ => Hex.Digits.readable)
    · intro after returns
      have stored := requests.accepted lists returns
      exact stored.values.digits (strict stored.formed)

/-- A request with these parameters is decoded exactly. -/
theorem wholeParams_exact :
    Exact .balance wholeParams
      ((decodeInspect (readsOnly (requestText .balance wholeParams)
        (request .balance wholeParams)) .auto
        (textPayload (requestText .balance wholeParams) wholeParams_short)).run
        (textState (requestText .balance wholeParams) 0)) :=
  (decodeInspect_exact_iff _ _ .auto _ .balance _ wholeParams
    (requests_request .balance wholeParams 0 wholeParams_short) (.inl rfl)).mpr
    fun _ => by decide +kernel

/-- An account with a blank in its last pair. -/
def blankAccount : Text := ascii "0x00000000000000000000000000000000000000 1"

/-- A request with this account is accepted. -/
theorem blankAccount_not_exact :
    ¬Exact .balance [blankAccount]
      ((decodeInspect (readsOnly (requestText .balance [blankAccount])
        (request .balance [blankAccount])) .auto
        (textPayload (requestText .balance [blankAccount]) (by decide +kernel))).run
        (textState (requestText .balance [blankAccount]) 0)) := by
  intro exact
  have requests := requests_request .balance [blankAccount] 0 (by decide +kernel)
  have accepted := (requests.accepted_iff (.inl rfl)).mpr
    (show Formed Hex.Readable .balance [blankAccount] by decide +kernel)
  exact absurd (exact.1.mp accepted) (by decide +kernel)

end Libcma.Parser
