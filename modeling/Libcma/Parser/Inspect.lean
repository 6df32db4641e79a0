import Libcma.Lib.Cells
import Libcma.Lib.Hex
import Libcma.Lib.Stage
import Libcma.Parser.Input

/-!
# Decoding of inspect inputs

The decoders of `ledger_getBalance` and `ledger_getTotalSupply` in `parser_impl.cpp`, and their
dispatcher. A payload is read by the JSON library, which is not part of this repository: `parse` is
`nlohmann::json::parse` together with what the decoders ask of its result, and the texts of its
exceptions come from it. The two decoders store one parameter after another and note after each
how far they are in the type.

`balance` and `supply` are members of one union in the source; a decoder reads and writes only its
own. The buffer for the execution layer data belongs to the caller and lies in memory. The pointers
to the input and to the parser input are not null.
-/

namespace Libcma.Parser

/-- `std::string`. -/
abbrev Text : Type := List UInt8

/-- The text of a literal. -/
def ascii (literal : String) : Text := literal.toList.map Char.toUInt8

/-- `GET_BALANCE`. -/
def getBalance : Text := ascii "ledger_getBalance"

/-- `GET_TOTAL_SUPPLY`. -/
def getTotalSupply : Text := ascii "ledger_getTotalSupply"

/-- `CMA_ADDRESS_HEX_LENGTH`. -/
def addressHexLength : ℕ := 2 + 2 * addressLength

/-- `CMA_MAX_ID_HEX_LENGTH`. -/
def maxIdHexLength : ℕ := 2 + 2 * u256Length.toNat

/-- `CMA_PARSER_ERROR_EXCEPTION`, the code of an exception that is not the repository's own. -/
def errorException : Int := -2002

/-- What a request holds under a key. -/
inductive Entry (α : Type) where
  /-- There is no such key. -/
  | missing
  /-- There is something of another type; reading it throws with this text. -/
  | malformed (what : String)
  /-- There is a value. -/
  | value (content : α)

/-- The keys of a request that the decoders read. -/
structure Request where
  /-- `method`. -/
  method : Entry Text
  /-- `params`. -/
  params : Entry (List Text)

/-- The result of `nlohmann::json::parse`. -/
inductive Parsed where
  /-- The payload is no JSON text; the exception says why. -/
  | error (what : String)
  /-- The payload is a JSON text with these keys. -/
  | json (request : Request)

/-- `cma_parser_balance_t`. -/
structure Balance where
  /-- `account`. -/
  account : Bytes32
  /-- `token`. -/
  token : Address
  /-- `token_id`. -/
  tokenId : Bytes32
  /-- `exec_layer_data`. -/
  execLayerData : AbiBytes

/-- `cma_parser_supply_t`. -/
structure Supply where
  /-- `token`. -/
  token : Address
  /-- `token_id`. -/
  tokenId : Bytes32
  /-- `exec_layer_data`. -/
  execLayerData : AbiBytes

/-- `cma_parser_input_t` with the members that the inspect decoders write, and the memory. -/
structure Inspection where
  /-- `type`. -/
  type : InputType
  /-- `balance`. -/
  balance : Balance
  /-- `supply`. -/
  supply : Supply
  /-- Memory, where the caller's buffers are. -/
  memory : Memory

/-- A decoder of an inspect input. -/
abbrev InspectDecoder (α : Type) : Type := Exec CmaException Inspection α

namespace Inspection

/-- `balance.account.data`. -/
def balanceAccount : StatePart Inspection Bytes32 where
  get state := state.balance.account
  set account state := { state with balance.account := account }
  get_set _ _ := rfl

/-- `balance.token.data`. -/
def balanceToken : StatePart Inspection Address where
  get state := state.balance.token
  set token state := { state with balance.token := token }
  get_set _ _ := rfl

/-- `balance.token_id.data`. -/
def balanceTokenId : StatePart Inspection Bytes32 where
  get state := state.balance.tokenId
  set tokenId state := { state with balance.tokenId := tokenId }
  get_set _ _ := rfl

/-- `balance.exec_layer_data` and what it points to. -/
def balanceExec : StatePart Inspection (AbiBytes × Memory) where
  get state := (state.balance.execLayerData, state.memory)
  set exec state := { state with balance.execLayerData := exec.1, memory := exec.2 }
  get_set _ _ := rfl

/-- `supply.token.data`. -/
def supplyToken : StatePart Inspection Address where
  get state := state.supply.token
  set token state := { state with supply.token := token }
  get_set _ _ := rfl

/-- `supply.token_id.data`. -/
def supplyTokenId : StatePart Inspection Bytes32 where
  get state := state.supply.tokenId
  set tokenId state := { state with supply.tokenId := tokenId }
  get_set _ _ := rfl

/-- `supply.exec_layer_data` and what it points to. -/
def supplyExec : StatePart Inspection (AbiBytes × Memory) where
  get state := (state.supply.execLayerData, state.memory)
  set exec state := { state with supply.execLayerData := exec.1, memory := exec.2 }
  get_set _ _ := rfl

end Inspection

/-- Write the type of the parser input. -/
def storeInspectType (type : InputType) : InspectDecoder Unit :=
  Exec.update fun state => { state with type := type }

section Spans

variable {length : ℕ}

/-- `span[index] = value`; undefined outside the span. -/
def setByte (index : ℕ) (value : UInt8) : Exec CmaException (Bytes length) Unit := ⟨fun span =>
  if inside : index < length then .ok () (span.set ⟨index, inside⟩ value) else .undefined⟩

/-- `std::fill_n` with zeros from the first byte on; undefined outside the span. -/
def fillZeros (count : ℕ) : Exec CmaException (Bytes length) Unit := ⟨fun span =>
  if inside : count ≤ length then
    .ok () ⟨List.replicate count 0 ++ span.toList.drop count, by simp [inside]⟩
  else
    .undefined⟩

/-- The loop that reads a text two characters at a time and stores a byte for each. -/
def storePairs (offset : ℕ) : Text → Exec CmaException (Bytes length) Unit
  | first :: second :: rest => do
    let byteValue ← Exec.orRaise (Hex.byte [first, second]) ⟨"stoi", errorException⟩
    setByte offset byteValue
    storePairs (offset + 1) rest
  | [last] => do
    let byteValue ← Exec.orRaise (Hex.byte [last]) ⟨"stoi", errorException⟩
    setByte offset byteValue
  | [] => pure ()

end Spans

/-- An account is stored: an address goes to the end of its 32 bytes. -/
def storeAccount (accountStr : Text) : Exec CmaException Bytes32 Unit := do
  let mut offset := 0
  if accountStr.length = addressHexLength then
    offset := u256Length.toNat - addressLength
    fillZeros offset
  else
    Exec.refuseIf (accountStr.length ≠ maxIdHexLength) ⟨"Invalid account address", -einval⟩
  Exec.refuseIf (accountStr.take 2 ≠ ascii "0x") ⟨"Invalid account address", -einval⟩
  storePairs offset (accountStr.drop 2)

/-- A token address is stored. -/
def storeToken (tokenStr : Text) : Exec CmaException Address Unit := do
  Exec.refuseIf (tokenStr.length ≠ addressHexLength) ⟨"Invalid token address", -einval⟩
  Exec.refuseIf (tokenStr.take 2 ≠ ascii "0x") ⟨"Invalid token address", -einval⟩
  storePairs 0 (tokenStr.drop 2)

/-- A token id is stored at the end of its 32 bytes. -/
def storeTokenId (tokenIdStr : Text) : Exec CmaException Bytes32 Unit := do
  Exec.refuseIf (maxIdHexLength < tokenIdStr.length ∨ tokenIdStr.length % 2 ≠ 0)
    ⟨"Invalid token id", -einval⟩
  Exec.refuseIf (tokenIdStr.take 2 ≠ ascii "0x") ⟨"Invalid token id", -einval⟩
  let mut offset := 0
  if tokenIdStr.length < maxIdHexLength then
    offset := (maxIdHexLength - tokenIdStr.length) / 2
    fillZeros offset
  storePairs offset (tokenIdStr.drop 2)

/-- `exec_layer_data` becomes null and empty. -/
def clearExec : Exec CmaException (AbiBytes × Memory) Unit :=
  Exec.update fun exec => (⟨0, 0⟩, exec.2)

/-- The execution layer data is copied into the caller's buffer as far as it fits, when there is
such a parameter and such a buffer. -/
def storeExec (execLayerData : Option Text) : Exec CmaException (AbiBytes × Memory) Unit := do
  let (buffer, memory) ← Exec.read
  match execLayerData with
  | none => clearExec
  | some execLayerDataStr =>
    if buffer.data = 0 ∨ buffer.length = 0 then
      clearExec
    else
      -- The smaller size becomes an `int`, and the `int` a `size_t` again.
      let minExecDataLength :=
        BitVec.ofNat 32 (min execLayerDataStr.length buffer.length.toNat)
      Exec.update fun _ => (⟨minExecDataLength.signExtend 64, buffer.data⟩,
        Cells.write memory buffer.data (execLayerDataStr.take minExecDataLength.toInt.toNat))

/-- `json_input.at(key).get`, or an exception when the key is missing. -/
def Entry.required {α : Type} (entry : Entry α) (message : String) : InspectDecoder α :=
  match entry with
  | .missing => Exec.raise ⟨message, -einval⟩
  | .malformed what => Exec.raise ⟨what, errorException⟩
  | .value content => pure content

/-- `cma_parser_decode_get_balance_json`. -/
def decodeGetBalanceJson (jsonInput : Request) : InspectDecoder Unit := do
  let params ← jsonInput.params.required "Missing params key"
  Exec.refuseIf (params.length = 0 ∨ 4 < params.length) ⟨"Invalid params size", -einval⟩
  Exec.onPart Inspection.balanceAccount (storeAccount (params.getD 0 []))
  storeInspectType .balanceAccount
  if params.length = 1 then
    return
  Exec.onPart Inspection.balanceToken (storeToken (params.getD 1 []))
  storeInspectType .balanceAccountTokenAddress
  if params.length = 2 then
    return
  Exec.onPart Inspection.balanceTokenId (storeTokenId (params.getD 2 []))
  storeInspectType .balanceAccountTokenAddressId
  Exec.onPart Inspection.balanceExec (storeExec params[3]?)

/-- `cma_parser_decode_get_total_supply_json`. -/
def decodeGetTotalSupplyJson (jsonInput : Request) : InspectDecoder Unit := do
  storeInspectType .supply
  match jsonInput.params with
  | .missing => Exec.onPart Inspection.supplyExec clearExec
  | .malformed what => Exec.raise ⟨what, errorException⟩
  | .value params =>
    if params.length = 0 then
      Exec.onPart Inspection.supplyExec clearExec
      return
    Exec.refuseIf (3 < params.length) ⟨"Invalid params size", -einval⟩
    Exec.onPart Inspection.supplyToken (storeToken (params.getD 0 []))
    storeInspectType .supplyTokenAddress
    if params.length = 1 then
      Exec.onPart Inspection.supplyExec clearExec
      return
    Exec.onPart Inspection.supplyTokenId (storeTokenId (params.getD 1 []))
    storeInspectType .supplyTokenAddressId
    Exec.onPart Inspection.supplyExec (storeExec params[2]?)

section

variable (parse : Text → Parsed)

/-- The payload as a JSON text with a method. -/
def readRequest (payload : Payload) : InspectDecoder (Request × Text) := do
  let state ← Exec.read
  match parse (state.memory.bytes payload.data payload.length.toNat).toList with
  | .error what => Exec.raise ⟨"Error parsing input: " ++ what, -einval⟩
  | .json jsonInput =>
    let method ← jsonInput.method.required "Missing method key"
    pure (jsonInput, method)

/-- `cma_parser_decode_inspect_auto`. -/
def decodeInspectAuto (payload : Payload) : InspectDecoder Unit := do
  let (jsonInput, method) ← readRequest parse payload
  if method = getBalance then
    decodeGetBalanceJson jsonInput
  else if method = getTotalSupply then
    decodeGetTotalSupplyJson jsonInput
  else
    Exec.raise ⟨"Invalid method", -einval⟩

/-- `cma_parser_decode_get_balance`. -/
def decodeGetBalance (payload : Payload) : InspectDecoder Unit := do
  let (jsonInput, method) ← readRequest parse payload
  Exec.refuseIf (method ≠ getBalance) ⟨"Invalid method", -einval⟩
  decodeGetBalanceJson jsonInput

/-- `cma_parser_decode_get_total_supply`. -/
def decodeGetTotalSupply (payload : Payload) : InspectDecoder Unit := do
  let (jsonInput, method) ← readRequest parse payload
  Exec.refuseIf (method ≠ getTotalSupply) ⟨"Invalid method", -einval⟩
  decodeGetTotalSupplyJson jsonInput

/-- `cma_parser_decode_inspect`. -/
def decodeInspect (type : InputType) (payload : Payload) : InspectDecoder Unit :=
  match type with
  | .auto => decodeInspectAuto parse payload
  | .balance => decodeGetBalance parse payload
  | .supply => decodeGetTotalSupply parse payload
  | _ => Exec.raise ⟨"Invalid inspect decode type", -einval⟩

end

end Libcma.Parser
