import Libcma.Parser.Put

/-!
# Voucher encoders

`cma_parser_encode_voucher` and the five encoders of `parser_impl.cpp`. An encoder writes the
voucher's address and value, and the bytes of its payload, which are somewhere in memory; an
encoder that throws leaves what it has written. The request is read only, and its lists and byte
strings are values here: they share no memory with the payload. The union of the source has one
member for each voucher type; an encoder reads only its own, so the members are separate fields.

The four encoders with a payload begin with the same text, `beginPayload`, and three of them go on
with the same two addresses, `putParties`. `putTails` is the end of the batch encoder.
-/

namespace Libcma.Parser

/-- `cma_parser_voucher_type_t`. -/
inductive VoucherType where
  | none
  | ether
  | erc20
  | erc721
  | erc1155Single
  | erc1155Batch
  deriving DecidableEq

/-- `length` and `data` of a request, for elements of a size. No object has 2^63 bytes. -/
structure SizedList (α : Type) (elementSize : ℕ) where
  /-- The elements. -/
  items : List α
  /-- The elements are an object in memory. -/
  fits : elementSize * items.length < 2 ^ 63

/-- `length`. -/
def SizedList.length {α : Type} {elementSize : ℕ} (list : SizedList α elementSize) : BitVec 64 :=
  BitVec.ofNat 64 list.items.length

/-- `cma_parser_ether_voucher_fields_t`. -/
structure EtherVoucherFields where
  /-- `amount`. -/
  amount : Amount

/-- `cma_parser_erc20_voucher_fields_t`. -/
structure Erc20VoucherFields where
  /-- `token`. -/
  token : Address
  /-- `amount`. -/
  amount : Amount

/-- `cma_parser_erc721_voucher_fields_t`. -/
structure Erc721VoucherFields where
  /-- `token`. -/
  token : Address
  /-- `token_id`. -/
  tokenId : TokenId

/-- `cma_parser_erc1155_single_voucher_fields_t`. -/
structure Erc1155SingleVoucherFields where
  /-- `token`. -/
  token : Address
  /-- `token_id`. -/
  tokenId : TokenId
  /-- `amount`. -/
  amount : Amount
  /-- `exec_layer_data`. -/
  execLayerData : SizedList UInt8 1

/-- `cma_parser_erc1155_batch_voucher_fields_t`. -/
structure Erc1155BatchVoucherFields where
  /-- `token`. -/
  token : Address
  /-- `token_ids`. -/
  tokenIds : SizedList TokenId 32
  /-- `amounts`. -/
  amounts : SizedList Amount 32
  /-- `exec_layer_data`. -/
  execLayerData : SizedList UInt8 1

/-- `cma_parser_voucher_data_t`. -/
structure VoucherData where
  /-- `receiver`. -/
  receiver : Address
  /-- `ether`. -/
  ether : EtherVoucherFields
  /-- `erc20`. -/
  erc20 : Erc20VoucherFields
  /-- `erc721`. -/
  erc721 : Erc721VoucherFields
  /-- `erc1155_single`. -/
  erc1155Single : Erc1155SingleVoucherFields
  /-- `erc1155_batch`. -/
  erc1155Batch : Erc1155BatchVoucherFields

/-- `cma_voucher_t`. -/
structure Voucher where
  /-- `address`. -/
  address : Address
  /-- `value`. -/
  value : Bytes32
  /-- `payload`; a null payload has the address zero. -/
  payload : Payload

/-- What an encoder writes. -/
structure Draft where
  /-- `voucher`. -/
  voucher : Voucher
  /-- The memory that the payload is in. -/
  memory : Memory

/-- An encoder: it writes the voucher and its payload, and may throw. -/
abbrev Encoder (α : Type) : Type := Exec CmaException Draft α

/-- `ERC20_TRANSFER_FUNCTION_SELECTOR_FUNSEL`. -/
def erc20TransferFunsel : UInt32 := 0xa9059cbb

/-- `ERC721_TRANSFER_FUNCTION_SELECTOR_FUNSEL`. -/
def erc721TransferFunsel : UInt32 := 0x42842e0e

/-- `ERC1155_SINGLE_TRANSFER_FUNCTION_SELECTOR_FUNSEL`. -/
def erc1155SingleTransferFunsel : UInt32 := 0xf242432a

/-- `ERC1155_BATCH_TRANSFER_FUNCTION_SELECTOR_FUNSEL`. -/
def erc1155BatchTransferFunsel : UInt32 := 0x2eb2c2d6

/-- `CMA_PARSER_SELECTOR_SIZE`. -/
def selectorSize : BitVec 64 := 4

/-- `CMA_PARSER_ERC20_VOUCHER_PAYLOAD_SIZE`. -/
def erc20VoucherPayloadSize : BitVec 64 := selectorSize + 2 * u256Length

/-- `CMA_PARSER_ERC721_VOUCHER_PAYLOAD_SIZE`. -/
def erc721VoucherPayloadSize : BitVec 64 := selectorSize + 3 * u256Length

/-- `CMA_PARSER_ERC1155_SINGLE_VOUCHER_PAYLOAD_MIN_SIZE`. -/
def erc1155SingleVoucherPayloadMinSize : BitVec 64 := selectorSize + 6 * u256Length

/-- `CMA_PARSER_ERC1155_BATCH_VOUCHER_PAYLOAD_MIN_SIZE`. -/
def erc1155BatchVoucherPayloadMinSize : BitVec 64 := selectorSize + 8 * u256Length

/-- The length of a byte string in whole words, as the encoders compute it. -/
def wholeWords (length : BitVec 64) : BitVec 64 :=
  (length / u256Length + if length % u256Length = 0 then 0 else 1) * u256Length

/-- `if (err != 0) throw CmaException(message, err)`. -/
def checkPut (err : Int) (message : String) : Encoder Unit :=
  Exec.refuseIf (err ≠ 0) ⟨message, err⟩

/-- Call a function that puts into the payload, and throw when it fails. The memory is what the
call leaves, also when it fails. -/
def put (call : Memory → Returned (Memory × Buf)) (message : String) : Encoder Buf := do
  let draft ← Exec.read
  let result := call draft.memory
  Exec.update fun draft => { draft with memory := result.out.1 }
  checkPut result.code message
  pure result.out.2

section

variable (libcmt : LibcmtPut)

/-- Check the payload's buffer, write the voucher's address and value, and put the selector; the
buffer after it. -/
def beginPayload (leastLength : BitVec 64) (token : Address) (funsel : UInt32) : Encoder Buf := do
  let draft ← Exec.read
  let payload := draft.voucher.payload
  Exec.refuseIf (payload.data = 0) ⟨"Invalid voucher payload buffer", -enobufs⟩
  Exec.refuseIf (payload.length < leastLength) ⟨"Invalid voucher payload buffersize", -enobufs⟩
  let buf := libcmt.bufInit payload.length payload.data
  -- copy token address to voucher address
  Exec.update fun draft => { draft with voucher := { draft.voucher with address := token } }
  -- ensure no value
  Exec.update fun draft => { draft with voucher := { draft.voucher with value := zeros 32 } }
  put (fun memory => libcmt.putFunsel memory buf (convertToCmtFunsel libcmt.toLibcmt funsel))
    "Error putting funsel"

/-- Put the application's address and the receiver's. -/
def putParties (buf : Buf) (appAddress receiver : Address) : Encoder Buf := do
  let buf ← put (fun memory => libcmt.putAddress memory buf appAddress) "Error putting sender"
  put (fun memory => libcmt.putAddress memory buf receiver) "Error putting receiver"

/-- `cma_parser_encode_ether_voucher`. -/
def encodeEtherVoucher (request : VoucherData) : Encoder Unit :=
  Exec.update fun draft => { draft with
    voucher := ⟨request.receiver, request.ether.amount, ⟨0, 0, by decide⟩⟩ }

/-- `cma_parser_encode_erc20_voucher`. -/
def encodeErc20Voucher (request : VoucherData) : Encoder Unit := do
  let buf ← beginPayload libcmt erc20VoucherPayloadSize request.erc20.token erc20TransferFunsel
  let buf ← put (fun memory => libcmt.putAddress memory buf request.receiver)
    "Error putting receiver"
  let _ ← put (fun memory => libcmt.putUint256 memory buf request.erc20.amount)
    "Error putting amount"

/-- `cma_parser_encode_erc721_voucher`. -/
def encodeErc721Voucher (appAddress : Address) (request : VoucherData) : Encoder Unit := do
  let buf ← beginPayload libcmt erc721VoucherPayloadSize request.erc721.token erc721TransferFunsel
  let buf ← putParties libcmt buf appAddress request.receiver
  let _ ← put (fun memory => libcmt.putUint256 memory buf request.erc721.tokenId)
    "Error putting amount"

/-- `cma_parser_encode_erc1155_single_voucher`. -/
def encodeErc1155SingleVoucher (appAddress : Address) (request : VoucherData) : Encoder Unit := do
  let fields := request.erc1155Single
  let buf ← beginPayload libcmt
    (erc1155SingleVoucherPayloadMinSize + wholeWords fields.execLayerData.length) fields.token
    erc1155SingleTransferFunsel
  let frame := libcmt.markFrame buf
  checkPut frame.code "Error marking frame"
  let buf ← putParties libcmt buf appAddress request.receiver
  let buf ← put (fun memory => libcmt.putUint256 memory buf fields.tokenId) "Error putting amount"
  let buf ← put (fun memory => libcmt.putUint256 memory buf fields.amount) "Error putting amount"
  let offset := libcmt.putBytesS buf
  checkPut offset.code "Error putting offset"
  let _ ← put (fun memory => libcmt.putBytesD memory offset.out.rhs offset.out.lhs frame.out
    fields.execLayerData.items) "Error putting data"

/-- Put the token ids, the amounts and the data of a batch behind their offset words. -/
def putTails (buf offsetTokenId offsetAmount offsetExec frame : Buf)
    (fields : Erc1155BatchVoucherFields) : Encoder Unit := do
  let buf ← put (fun memory => putUint256List libcmt memory buf offsetTokenId frame
    fields.tokenIds.items) "Error putting token ids"
  let buf ← put (fun memory => putUint256List libcmt memory buf offsetAmount frame
    fields.amounts.items) "Error putting amounts"
  let _ ← put (fun memory => libcmt.putBytesD memory buf offsetExec frame
    fields.execLayerData.items) "Error putting offset"

/-- `cma_parser_encode_erc1155_batch_voucher`. -/
def encodeErc1155BatchVoucher (appAddress : Address) (request : VoucherData) : Encoder Unit := do
  let fields := request.erc1155Batch
  Exec.refuseIf (fields.tokenIds.length ≠ fields.amounts.length)
    ⟨"Mismatched token ids and amounts lengths", -einval⟩
  let buf ← beginPayload libcmt
    (erc1155BatchVoucherPayloadMinSize + 2 * fields.tokenIds.length + u256Length +
      wholeWords fields.execLayerData.length) fields.token erc1155BatchTransferFunsel
  let frame := libcmt.markFrame buf
  checkPut frame.code "Error marking frame"
  let buf ← putParties libcmt buf appAddress request.receiver
  let offsetTokenId := libcmt.putBytesS buf
  checkPut offsetTokenId.code "Error putting token id offset"
  let offsetAmount := libcmt.putBytesS offsetTokenId.out.rhs
  checkPut offsetAmount.code "Error putting amount offset"
  let offsetExec := libcmt.putBytesS offsetAmount.out.rhs
  checkPut offsetExec.code "Error putting data offset"
  putTails libcmt offsetExec.out.rhs offsetTokenId.out.lhs offsetAmount.out.lhs offsetExec.out.lhs
    frame.out fields

/-- The application's address, when it is given. -/
def givenAddress (appAddress : Option Address) : Encoder Address :=
  Exec.orRaise appAddress ⟨"Invalid app address", -einval⟩

/-- `cma_parser_encode_voucher`; a null application address or request is `none`. -/
def encodeVoucher (type : VoucherType) (appAddress : Option Address)
    (voucherRequest : Option VoucherData) : Encoder Unit := do
  let request ← Exec.orRaise voucherRequest ⟨"Invalid request", -einval⟩
  match type with
  | .none => Exec.raise ⟨"Invalid voucher type", -einval⟩
  | .ether => encodeEtherVoucher request
  | .erc20 => encodeErc20Voucher libcmt request
  | .erc721 =>
    let address ← givenAddress appAddress
    encodeErc721Voucher libcmt address request
  | .erc1155Single =>
    let address ← givenAddress appAddress
    encodeErc1155SingleVoucher libcmt address request
  | .erc1155Batch =>
    let address ← givenAddress appAddress
    encodeErc1155BatchVoucher libcmt address request

end

end Libcma.Parser
