import Libcma.Parser.Grammar

/-!
# Inspect requests

What the inspect decoders do with a request. `Accepted` says what an accepted request leaves,
`Refused` where a request is refused and which type has been stored by then; every request is one
of the two. `Requests` says which decoder `cma_parser_decode_inspect` runs.
-/

namespace Libcma.Parser

/-- The parameters under a key; a key that is missing stands for none. -/
def Entry.Lists (entry : Entry (List Text)) (params : List Text) : Prop :=
  entry = .value params ∨ entry = .missing ∧ params = []

namespace Method

/-- The name of a method in a request. -/
def name : Method → Text
  | .balance => getBalance
  | .supply => getTotalSupply

/-- The type that asks for a method. -/
def type : Method → InputType
  | .balance => .balance
  | .supply => .supply

/-- The decoder of a method. -/
def decode : Method → Request → InspectDecoder Unit
  | .balance => decodeGetBalanceJson
  | .supply => decodeGetTotalSupplyJson

/-- `exec_layer_data` of a method. -/
def execLayerData : Method → Inspection → AbiBytes
  | .balance, state => state.balance.execLayerData
  | .supply, state => state.supply.execLayerData

/-- The parameter with the execution layer data. -/
def execParam : Method → List Text → Option Text
  | .balance, params => params[3]?
  | .supply, params => params[2]?

/-- A request of the method that leaves `exec_layer_data` as it was: one with an account only, or
an account and a token. -/
def Forgets (method : Method) (params : List Text) : Prop :=
  method = .balance ∧ params.length ≤ 2

instance (method : Method) (params : List Text) : Decidable (method.Forgets params) :=
  inferInstanceAs (Decidable (_ ∧ _))

end Method

/-- The fields hold the numbers of the parameters that are given. -/
def Values (number : Text → ℕ) : Method → List Text → Inspection → Prop
  | .balance, params, state =>
      (∀ text ∈ params[0]?, state.balance.account.toNat = number text) ∧
      (∀ text ∈ params[1]?, state.balance.token.toNat = number text) ∧
      ∀ text ∈ params[2]?, state.balance.tokenId.toNat = number text
  | .supply, params, state =>
      (∀ text ∈ params[0]?, state.supply.token.toNat = number text) ∧
      ∀ text ∈ params[1]?, state.supply.tokenId.toNat = number text

/-- The number whose bytes are the pairs behind `0x`. -/
def pairsNumber (text : Text) : ℕ := Bytes.listNat (Hex.pairs (text.drop 2))

/-- What an accepted request leaves. -/
structure Accepted (method : Method) (params : List Text) (state after : Inspection) : Prop where
  /-- The parameters are of the form. -/
  formed : Formed Hex.Readable method params
  /-- They are stored. -/
  values : Values pairsNumber method params after
  /-- A request that forgets the buffer leaves it as it was. -/
  forgotten : method.Forgets params →
    method.execLayerData after = method.execLayerData state
  /-- Any other stores its execution layer data. -/
  filled : ¬method.Forgets params →
    (storeExec (method.execParam params)).run (method.execLayerData state, state.memory) =
      .ok () (method.execLayerData after, after.memory)

/-- A supply request forgets no buffer. -/
theorem Method.not_forgets_supply (params : List Text) : ¬Method.supply.Forgets params :=
  fun forgets => absurd forgets.1 (by decide)

/-- What a request leaves that ends before its token id. -/
theorem Accepted.of_short {params : List Text} {state after : Inspection}
    (short : params.length ≤ 2) (formed : Formed Hex.Readable .balance params)
    (values : Values pairsNumber .balance params after)
    (kept : after.balance.execLayerData = state.balance.execLayerData) :
    Accepted .balance params state after where
  formed := formed
  values := values
  forgotten _ := kept
  filled fills := absurd ⟨rfl, short⟩ fills

/-- What a request leaves that fills the buffer. -/
theorem Accepted.of_filled {method : Method} {params : List Text} {state after : Inspection}
    (fills : ¬method.Forgets params) (formed : Formed Hex.Readable method params)
    (values : Values pairsNumber method params after)
    (filled : (storeExec (method.execParam params)).run
      (method.execLayerData state, state.memory) =
        .ok () (method.execLayerData after, after.memory)) :
    Accepted method params state after where
  formed := formed
  values := values
  forgotten forgets := absurd forgets fills
  filled _ := filled

/-- Where a request is refused, and the type that has been stored by then. -/
inductive Refused : Method → Entry (List Text) → Option InputType → Prop
  /-- There are no parameters. -/
  | balanceMissing : Refused .balance .missing none
  /-- The parameters are no list of strings. -/
  | balanceMalformed (what : String) : Refused .balance (.malformed what) none
  /-- There are none, or too many. -/
  | balanceCount {params : List Text} (count : params.length = 0 ∨ 4 < params.length) :
      Refused .balance (.value params) none
  /-- The account is not of the form. -/
  | account {account : Text} {rest : List Text} (count : rest.length ≤ 3)
      (wrong : ¬AccountText Hex.Readable account) :
      Refused .balance (.value (account :: rest)) none
  /-- The token is not of the form. -/
  | balanceToken {account token : Text} {rest : List Text} (count : rest.length ≤ 2)
      (right : AccountText Hex.Readable account) (wrong : ¬TokenText Hex.Readable token) :
      Refused .balance (.value (account :: token :: rest)) (some .balanceAccount)
  /-- The token id is not of the form. -/
  | balanceTokenId {account token tokenId : Text} {rest : List Text} (count : rest.length ≤ 1)
      (right : AccountText Hex.Readable account) (next : TokenText Hex.Readable token)
      (wrong : ¬TokenIdText Hex.Readable tokenId) :
      Refused .balance (.value (account :: token :: tokenId :: rest))
        (some .balanceAccountTokenAddress)
  /-- The parameters are no list of strings. -/
  | supplyMalformed (what : String) : Refused .supply (.malformed what) (some .supply)
  /-- There are too many. -/
  | supplyCount {params : List Text} (count : 3 < params.length) :
      Refused .supply (.value params) (some .supply)
  /-- The token is not of the form. -/
  | supplyToken {token : Text} {rest : List Text} (count : rest.length ≤ 2)
      (wrong : ¬TokenText Hex.Readable token) :
      Refused .supply (.value (token :: rest)) (some .supply)
  /-- The token id is not of the form. -/
  | supplyTokenId {token tokenId : Text} {rest : List Text} (count : rest.length ≤ 1)
      (right : TokenText Hex.Readable token) (wrong : ¬TokenIdText Hex.Readable tokenId) :
      Refused .supply (.value (token :: tokenId :: rest)) (some .supplyTokenAddress)

/-- A request that is refused is not of the form. -/
theorem Refused.not_formed {method : Method} {params : List Text} {left : Option InputType}
    (refused : Refused method (.value params) left) : ¬Formed Hex.Readable method params := by
  intro formed
  cases refused with
  | balanceCount count =>
    have least := formed.1
    have most := formed.2.1
    omega
  | account count wrong => exact wrong (formed.2.2.1 _ rfl)
  | balanceToken count right wrong => exact wrong (formed.2.2.2.1 _ rfl)
  | balanceTokenId count right next wrong => exact wrong (formed.2.2.2.2 _ rfl)
  | supplyCount count => exact absurd formed.1 (Nat.not_le.mpr count)
  | supplyToken count wrong => exact wrong (formed.2.1 _ rfl)
  | supplyTokenId count right wrong => exact wrong (formed.2.2 _ rfl)

/-- A request that lists parameters and is refused does not list them in the form. -/
theorem Refused.not_formed_of_lists {method : Method} {entry : Entry (List Text)}
    {params : List Text} {left : Option InputType} (refused : Refused method entry left)
    (lists : entry.Lists params) : ¬Formed Hex.Readable method params := by
  rcases lists with rfl | ⟨rfl, rfl⟩
  · exact refused.not_formed
  · cases refused with
    | balanceMissing => exact fun formed => absurd formed.1 (by decide)

/-- A request is refused at one place only. -/
theorem Refused.unique {method : Method} {entry : Entry (List Text)}
    {left other : Option InputType} (here : Refused method entry left)
    (there : Refused method entry other) : left = other := by
  cases here <;> cases there <;>
    first
      | rfl
      | contradiction
      | (simp only [List.length_cons] at *; omega)

/-- The condition on what an accepted request leaves. -/
def Accepts (method : Method) (entry : Entry (List Text)) (state after : Inspection) : Prop :=
  ∃ params, entry.Lists params ∧ Accepted method params state after

/-- The condition on what a refused request leaves. -/
def Refuses (method : Method) (entry : Entry (List Text)) (state after : Inspection) : Prop :=
  ∃ left, Refused method entry left ∧ after.type = left.getD state.type

/-- Execution layer data with an empty buffer. -/
theorem storeExec_empty {text : Text} {exec : AbiBytes × Memory}
    (empty : exec.1.data = 0 ∨ exec.1.length = 0) :
    (storeExec (some text)).run exec = .ok () (⟨0, 0⟩, exec.2) := by
  show (if _ then clearExec else _ : Exec CmaException (AbiBytes × Memory) Unit).run exec = _
  rw [if_pos empty]
  rfl

/-- Execution layer data with a buffer. -/
theorem storeExec_buffer {text : Text} {exec : AbiBytes × Memory}
    (buffer : ¬(exec.1.data = 0 ∨ exec.1.length = 0)) :
    (storeExec (some text)).run exec =
      .ok () (⟨(BitVec.ofNat 32 (min text.length exec.1.length.toNat)).signExtend 64, exec.1.data⟩,
        Cells.write exec.2 exec.1.data
          (text.take (BitVec.ofNat 32 (min text.length exec.1.length.toNat)).toInt.toNat)) := by
  show (if _ then clearExec else _ : Exec CmaException (AbiBytes × Memory) Unit).run exec = _
  rw [if_neg buffer]
  rfl

/-- Execution layer data is never refused. -/
theorem storeExec_meets (execLayerData : Option Text) (exec : AbiBytes × Memory) :
    ((storeExec execLayerData).run exec).Meets
      (fun _ after => (storeExec execLayerData).run exec = .ok () after) fun _ _ => False := by
  cases execLayerData with
  | none => exact rfl
  | some text =>
    by_cases empty : exec.1.data = 0 ∨ exec.1.length = 0
    · rw [storeExec_empty empty]
      exact rfl
    · rw [storeExec_buffer empty]
      exact rfl

/-- What follows the storing of a type starts from there. -/
theorem storeInspectType_meets {type : InputType} {next : Unit → InspectDecoder Unit}
    {state : Inspection} {ensures : Unit → Inspection → Prop}
    {raises : CmaException → Inspection → Prop}
    (rest : ((next ()).run { state with type := type }).Meets ensures raises) :
    ((storeInspectType type >>= next).run state).Meets ensures raises := rest

/-- A balance request is accepted or refused. -/
theorem decodeGetBalanceJson_meets (jsonInput : Request) (state : Inspection) :
    ((decodeGetBalanceJson jsonInput).run state).Meets
      (fun _ after => Accepts .balance jsonInput.params state after)
      fun _ after => Refuses .balance jsonInput.params state after := by
  unfold decodeGetBalanceJson
  cases given : jsonInput.params with
  | missing => exact ⟨none, .balanceMissing, rfl⟩
  | malformed what => exact ⟨none, .balanceMalformed what, rfl⟩
  | value params =>
    show ((Exec.refuseIf _ _ >>= _).run state).Meets _ _
    apply Exec.meets_bind (Exec.meets_refuseIf fun count => ⟨none, .balanceCount count, rfl⟩)
    rintro _ _ ⟨count, rfl⟩
    obtain _ | ⟨account, rest⟩ := params
    · exact absurd (.inl rfl) count
    have few : rest.length ≤ 3 := by
      simp only [List.length_cons] at count
      omega
    apply Exec.meets_stage (storeAccount_meets account _)
    · exact fun wrong _ _ => ⟨none, .account few wrong, rfl⟩
    intro right _ stored
    apply storeInspectType_meets
    obtain _ | ⟨token, rest⟩ := rest
    · refine ⟨[account], .inl rfl, .of_short (by simp) ?formed ?values rfl⟩
      case formed => simpa [Formed] using right
      case values =>
        refine ⟨?_, ?_, ?_⟩ <;> rintro _ ⟨⟩
        exact stored
    have few : rest.length ≤ 2 := Nat.le_of_succ_le_succ few
    rw [if_neg (by simp)]
    apply Exec.meets_stage (storeToken_meets token _)
    · exact fun wrong _ _ => ⟨some .balanceAccount, .balanceToken few right wrong, rfl⟩
    intro next _ put
    apply storeInspectType_meets
    obtain _ | ⟨tokenId, rest⟩ := rest
    · refine ⟨[account, token], .inl rfl, .of_short (by simp) ?formed ?values rfl⟩
      case formed => simpa [Formed] using ⟨right, next⟩
      case values =>
        refine ⟨?_, ?_, ?_⟩ <;> rintro _ ⟨⟩
        · exact stored
        · exact put
    have few : rest.length ≤ 1 := Nat.le_of_succ_le_succ few
    rw [if_neg (by simp)]
    apply Exec.meets_stage (storeTokenId_meets tokenId _)
    · exact fun wrong _ _ =>
        ⟨some .balanceAccountTokenAddress, .balanceTokenId few right next wrong, rfl⟩
    intro last _ kept
    apply storeInspectType_meets
    apply Exec.meets_last (storeExec_meets _ _)
    intro exec filled
    refine ⟨account :: token :: tokenId :: rest, .inl rfl, .of_filled ?fills ?formed ?values filled⟩
    case fills => exact fun forgets => absurd forgets.2 (by simp)
    case formed =>
      refine ⟨by simp, by simp; omega, ?_, ?_, ?_⟩ <;> rintro _ ⟨⟩
      · exact right
      · exact next
      · exact last
    case values =>
      refine ⟨?_, ?_, ?_⟩ <;> rintro _ ⟨⟩
      · exact stored
      · exact put
      · exact kept

/-- A supply request is accepted or refused. -/
theorem decodeGetTotalSupplyJson_meets (jsonInput : Request) (state : Inspection) :
    ((decodeGetTotalSupplyJson jsonInput).run state).Meets
      (fun _ after => Accepts .supply jsonInput.params state after)
      fun _ after => Refuses .supply jsonInput.params state after := by
  unfold decodeGetTotalSupplyJson
  apply storeInspectType_meets
  cases given : jsonInput.params with
  | missing =>
    exact ⟨[], .inr ⟨rfl, rfl⟩, .of_filled (Method.not_forgets_supply []) (by simp [Formed])
      (by simp [Values]) rfl⟩
  | malformed what => exact ⟨some .supply, .supplyMalformed what, rfl⟩
  | value params =>
    obtain _ | ⟨token, rest⟩ := params
    · exact ⟨[], .inl rfl, .of_filled (Method.not_forgets_supply []) (by simp [Formed])
        (by simp [Values]) rfl⟩
    show (Exec.run (if _ then _ else _) _).Meets _ _
    rw [if_neg (by simp)]
    apply Exec.meets_bind (Exec.meets_refuseIf fun count => ⟨some .supply, .supplyCount count, rfl⟩)
    rintro _ _ ⟨count, rfl⟩
    have few : rest.length ≤ 2 := by
      simp only [List.length_cons] at count
      omega
    apply Exec.meets_stage (storeToken_meets token _)
    · exact fun wrong _ _ => ⟨some .supply, .supplyToken few wrong, rfl⟩
    intro right _ stored
    apply storeInspectType_meets
    obtain _ | ⟨tokenId, rest⟩ := rest
    · refine ⟨[token], .inl rfl, .of_filled (Method.not_forgets_supply _) ?formed ?values rfl⟩
      case formed => simpa [Formed] using right
      case values =>
        refine ⟨?_, ?_⟩ <;> rintro _ ⟨⟩
        exact stored
    have few : rest.length ≤ 1 := Nat.le_of_succ_le_succ few
    rw [if_neg (by simp)]
    apply Exec.meets_stage (storeTokenId_meets tokenId _)
    · exact fun wrong _ _ => ⟨some .supplyTokenAddress, .supplyTokenId few right wrong, rfl⟩
    intro next _ put
    apply storeInspectType_meets
    apply Exec.meets_last (storeExec_meets _ _)
    intro exec filled
    refine ⟨token :: tokenId :: rest, .inl rfl,
      .of_filled (Method.not_forgets_supply _) ?formed ?values filled⟩
    case formed =>
      refine ⟨by simp; omega, ?_, ?_⟩ <;> rintro _ ⟨⟩
      · exact right
      · exact next
    case values =>
      refine ⟨?_, ?_⟩ <;> rintro _ ⟨⟩
      · exact stored
      · exact put

/-- A request is accepted or refused. -/
theorem Method.decode_meets (method : Method) (jsonInput : Request) (state : Inspection) :
    ((method.decode jsonInput).run state).Meets
      (fun _ after => Accepts method jsonInput.params state after)
      fun _ after => Refuses method jsonInput.params state after := by
  cases method with
  | balance => exact decodeGetBalanceJson_meets jsonInput state
  | supply => exact decodeGetTotalSupplyJson_meets jsonInput state

/-- The two methods have different names. -/
theorem getTotalSupply_ne_getBalance : getTotalSupply ≠ getBalance := by decide

section Dispatch

variable {parse : Text → Parsed} {payload : Payload} {type : InputType}

/-- A payload is a request of a method, and the type asks for that method or for any. -/
structure Requests (parse : Text → Parsed) (payload : Payload) (type : InputType)
    (state : Inspection) (method : Method) (jsonInput : Request) : Prop where
  /-- The payload is a JSON text. -/
  parsed : parse (state.memory.bytes payload.data payload.length.toNat).toList = .json jsonInput
  /-- It names the method. -/
  named : jsonInput.method = .value method.name
  /-- The type asks for it. -/
  asked : type = .auto ∨ type = method.type

/-- The request of a payload that is read. -/
theorem readRequest_run {state : Inspection} {jsonInput : Request} {method : Text}
    (parsed : parse (state.memory.bytes payload.data payload.length.toNat).toList = .json jsonInput)
    (named : jsonInput.method = .value method) :
    (readRequest parse payload).run state = .ok (jsonInput, method) state := by
  simp [readRequest, parsed, named, Entry.required]

/-- A request is decoded by the decoder of its method. -/
theorem Requests.run_eq {state : Inspection} {method : Method} {jsonInput : Request}
    (requests : Requests parse payload type state method jsonInput) :
    (decodeInspect parse type payload).run state = (method.decode jsonInput).run state := by
  have read := readRequest_run requests.parsed requests.named
  rcases requests.asked with rfl | rfl
  · cases method with
    | balance => simp [decodeInspect, decodeInspectAuto, read, Method.name, Method.decode]
    | supply =>
      simp [decodeInspect, decodeInspectAuto, read, Method.name, Method.decode,
        getTotalSupply_ne_getBalance]
  · cases method with
    | balance =>
      simp [decodeInspect, decodeGetBalance, read, Method.name, Method.decode, Method.type]
    | supply =>
      simp [decodeInspect, decodeGetTotalSupply, read, Method.name, Method.decode, Method.type]

/-- A payload without a method is refused, and nothing is stored. -/
theorem readRequest_cases (parse : Text → Parsed) (payload : Payload) (state : Inspection) :
    (∃ error, (readRequest parse payload).run state = .throw error state) ∨
      ∃ jsonInput method,
        parse (state.memory.bytes payload.data payload.length.toNat).toList = .json jsonInput ∧
          jsonInput.method = .value method := by
  cases parsed : parse (state.memory.bytes payload.data payload.length.toNat).toList with
  | error what =>
    exact .inl ⟨⟨"Error parsing input: " ++ what, -einval⟩, by simp [readRequest, parsed]⟩
  | json jsonInput =>
    cases named : jsonInput.method with
    | missing =>
      exact .inl ⟨⟨"Missing method key", -einval⟩,
        by simp [readRequest, parsed, named, Entry.required]⟩
    | malformed what =>
      exact .inl ⟨⟨what, errorException⟩, by simp [readRequest, parsed, named, Entry.required]⟩
    | value method => exact .inr ⟨jsonInput, method, rfl, named⟩

/-- What is no request of a method is refused before anything is stored. -/
theorem decodeInspect_cases (parse : Text → Parsed) (payload : Payload) (type : InputType)
    (state : Inspection) :
    (∃ error, (decodeInspect parse type payload).run state = .throw error state) ∨
      ∃ method jsonInput, Requests parse payload type state method jsonInput := by
  rcases readRequest_cases parse payload state with
    ⟨error, refused⟩ | ⟨jsonInput, text, parsed, named⟩
  · left
    cases type <;> first
      | exact ⟨_, rfl⟩
      | exact ⟨error, by simp [decodeInspect, decodeInspectAuto, decodeGetBalance,
          decodeGetTotalSupply, refused]⟩
  · have read := readRequest_run parsed named
    by_cases known : ∃ method : Method, text = method.name ∧ (type = .auto ∨ type = method.type)
    · obtain ⟨method, rfl, asked⟩ := known
      exact .inr ⟨method, jsonInput, parsed, named, asked⟩
    · left
      have other (method : Method) (asked : type = .auto ∨ type = method.type) :
          text ≠ method.name := fun same => known ⟨method, same, asked⟩
      cases type
      case auto =>
        have first : text ≠ getBalance := other .balance (.inl rfl)
        have second : text ≠ getTotalSupply := other .supply (.inl rfl)
        exact ⟨⟨"Invalid method", -einval⟩,
          by simp [decodeInspect, decodeInspectAuto, read, first, second]⟩
      case balance =>
        have first : text ≠ getBalance := other .balance (.inr rfl)
        exact ⟨⟨"Invalid method", -einval⟩, by simp [decodeInspect, decodeGetBalance, read, first]⟩
      case supply =>
        have second : text ≠ getTotalSupply := other .supply (.inr rfl)
        exact ⟨⟨"Invalid method", -einval⟩,
          by simp [decodeInspect, decodeGetTotalSupply, read, second]⟩
      all_goals exact ⟨_, rfl⟩

/-- A key lists its parameters only. -/
theorem Entry.Lists.unique {entry : Entry (List Text)} {params others : List Text}
    (here : entry.Lists params) (there : entry.Lists others) : others = params := by
  rcases here with rfl | ⟨rfl, rfl⟩ <;> rcases there with same | ⟨same, none⟩ <;> cases same
  · rfl
  · exact none

/-- What a request that was accepted leaves. -/
theorem Requests.accepted {state after : Inspection} {method : Method} {jsonInput : Request}
    {params : List Text} (requests : Requests parse payload type state method jsonInput)
    (lists : jsonInput.params.Lists params)
    (returns : (decodeInspect parse type payload).run state = .ok () after) :
    Accepted method params state after := by
  rw [requests.run_eq] at returns
  obtain ⟨others, listed, accepted⟩ := (method.decode_meets jsonInput state).of_ok returns
  rw [lists.unique listed] at accepted
  exact accepted

/-- What a request that was refused leaves. -/
theorem Requests.refused {state after : Inspection} {method : Method} {jsonInput : Request}
    {error : CmaException} (requests : Requests parse payload type state method jsonInput)
    (throws : (decodeInspect parse type payload).run state = .throw error after) :
    Refuses method jsonInput.params state after := by
  rw [requests.run_eq] at throws
  exact (method.decode_meets jsonInput state).of_throw throws

/-- A request that is to be refused is, and its type is the one stored by then. -/
theorem Requests.throws {state : Inspection} {method : Method} {jsonInput : Request}
    {left : Option InputType} (requests : Requests parse payload type state method jsonInput)
    (refused : Refused method jsonInput.params left) :
    ∃ error after, (decodeInspect parse type payload).run state = .throw error after ∧
      after.type = left.getD state.type := by
  have meets := method.decode_meets jsonInput state
  rw [← requests.run_eq] at meets
  cases outcome : (decodeInspect parse type payload).run state with
  | ok value after =>
    obtain ⟨params, lists, accepted⟩ := meets.of_ok outcome
    exact absurd accepted.formed (refused.not_formed_of_lists lists)
  | throw error after =>
    obtain ⟨other, again, typed⟩ := meets.of_throw outcome
    rw [again.unique refused] at typed
    exact ⟨error, after, rfl, typed⟩
  | undefined =>
    rw [outcome] at meets
    exact absurd meets id

/-- A request is accepted when its parameters are of the form. -/
theorem Requests.accepted_iff {state : Inspection} {method : Method} {jsonInput : Request}
    {params : List Text} (requests : Requests parse payload type state method jsonInput)
    (lists : jsonInput.params.Lists params) :
    (∃ after, (decodeInspect parse type payload).run state = .ok () after) ↔
      Formed Hex.Readable method params := by
  constructor
  · rintro ⟨after, returns⟩
    exact (requests.accepted lists returns).formed
  · intro formed
    have meets := method.decode_meets jsonInput state
    cases outcome : (decodeInspect parse type payload).run state with
    | ok value after => exact ⟨after, rfl⟩
    | throw error after =>
      obtain ⟨left, refused, _⟩ := requests.refused outcome
      exact absurd formed (refused.not_formed_of_lists lists)
    | undefined =>
      rw [← requests.run_eq, outcome] at meets
      exact absurd meets id

end Dispatch

section Samples

/-- A memory with a text from address 4096 on. -/
def textMemory (text : Text) : Memory := fun address => text.getD (address.toNat - 4096) 0

/-- The text lies there. -/
theorem bytes_textMemory {text : Text} (short : text.length < 2 ^ 32) :
    ((textMemory text).bytes 4096 text.length).toList = text := by
  apply List.ext_getElem
  · simp
  · intro index below inside
    have distance : (4096 + index) % 18446744073709551616 - 4096 = index := by omega
    simp [Memory.bytes, textMemory, distance, inside]

/-- A state whose memory holds a text, with a buffer of some length for execution layer data. -/
def textState (text : Text) (capacity : BitVec 64) : Inspection where
  type := .none
  balance := ⟨zeros 32, zeros 20, zeros 32, ⟨capacity, 65536⟩⟩
  supply := ⟨zeros 20, zeros 32, ⟨capacity, 65536⟩⟩
  memory := textMemory text

/-- The payload that is this text. -/
def textPayload (text : Text) (short : text.length < 2 ^ 32) : Payload where
  length := BitVec.ofNat 64 text.length
  data := 4096
  fits := by
    show (4096#64).toNat + _ < _
    simp only [BitVec.toNat_ofNat]
    omega

/-- A JSON library that reads one text. -/
def readsOnly (text : Text) (jsonInput : Request) : Text → Parsed := fun payload =>
  if payload = text then .json jsonInput else .error "unexpected text"

/-- The text lies in the payload. -/
theorem bytes_textPayload {text : Text} (short : text.length < 2 ^ 32) (capacity : BitVec 64) :
    ((textState text capacity).memory.bytes (textPayload text short).data
      (textPayload text short).length.toNat).toList = text := by
  have length : (textPayload text short).length.toNat = text.length := by
    simp only [textPayload, BitVec.toNat_ofNat]
    omega
  rw [length]
  exact bytes_textMemory short

/-- The JSON text of a request. -/
def requestText (method : Method) (params : List Text) : Text :=
  ascii "\x7b\"method\":\"" ++ method.name ++ ascii "\",\"params\":[" ++
    (ascii ",").intercalate (params.map fun param => ascii "\"" ++ param ++ ascii "\"") ++
    ascii "]\x7d"

/-- The request with these parameters. -/
def request (method : Method) (params : List Text) : Request :=
  ⟨.value method.name, .value params⟩

/-- Parameters of a balance request: an account, a token, a token id and execution layer data. -/
def wholeParams : List Text :=
  [ascii "0x0000000000000000000000000000000000000001",
    ascii "0x00000000000000000000000000000000000000ff", ascii "0x11", ascii "abc"]

/-- The text of a request with these parameters is short. -/
theorem wholeParams_short : (requestText .balance wholeParams).length < 2 ^ 32 := by
  decide +kernel

/-- The text of a request is a request. -/
theorem requests_request (method : Method) (params : List Text) (capacity : BitVec 64)
    (short : (requestText method params).length < 2 ^ 32) :
    Requests (readsOnly (requestText method params) (request method params))
      (textPayload (requestText method params) short) .auto
      (textState (requestText method params) capacity) method (request method params) := by
  constructor
  case parsed => rw [bytes_textPayload, readsOnly, if_pos rfl]
  case named => rfl
  case asked => exact .inl rfl

end Samples

end Libcma.Parser
