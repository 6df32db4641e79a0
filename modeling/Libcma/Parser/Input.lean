import Libcma.Parser.Abi

/-!
# Parser input and its helpers

`cma_parser_input_t` as far as the batch decoders write it, and the helpers of `parser_impl.cpp`
they share. The union of the source has one member for each input type; a decoder writes only its
own, so the members are separate fields here. A decoder that throws leaves what it has written.

`Session.lengthWords` is not in the source. It notes which words `peekUint256List` has read as
list lengths; no decoder looks at it.
-/

namespace Libcma.Parser

/-- `cma_parser_input_type_t`. -/
inductive InputType where
  | none
  | auto
  | etherDeposit
  | erc20Deposit
  | erc721Deposit
  | erc1155SingleDeposit
  | erc1155BatchDeposit
  | etherWithdrawal
  | erc20Withdrawal
  | erc721Withdrawal
  | erc1155SingleWithdrawal
  | erc1155BatchWithdrawal
  | etherTransfer
  | erc20Transfer
  | erc721Transfer
  | erc1155SingleTransfer
  | erc1155BatchTransfer
  | balance
  | balanceAccount
  | balanceAccountTokenAddress
  | balanceAccountTokenAddressId
  | supply
  | supplyTokenAddress
  | supplyTokenAddressId
  deriving DecidableEq

/-- `cma_parser_erc1155_batch_deposit_t`. -/
structure Erc1155BatchDeposit where
  /-- `sender`. -/
  sender : Address
  /-- `token`. -/
  token : Address
  /-- `token_ids`. -/
  tokenIds : U256List
  /-- `amounts`. -/
  amounts : U256List
  /-- `base_layer_data`. -/
  baseLayerData : AbiBytes
  /-- `exec_layer_data`. -/
  execLayerData : AbiBytes

/-- `cma_parser_erc1155_batch_withdrawal_t`. -/
structure Erc1155BatchWithdrawal where
  /-- `token`. -/
  token : Address
  /-- `token_ids`. -/
  tokenIds : U256List
  /-- `amounts`. -/
  amounts : U256List
  /-- `exec_layer_data`. -/
  execLayerData : AbiBytes

/-- `cma_parser_erc1155_batch_transfer_t`. -/
structure Erc1155BatchTransfer where
  /-- `receiver`. -/
  receiver : Bytes32
  /-- `token`. -/
  token : Address
  /-- `token_ids`. -/
  tokenIds : U256List
  /-- `amounts`. -/
  amounts : U256List
  /-- `exec_layer_data`. -/
  execLayerData : AbiBytes

/-- `cma_parser_input_t`, with the members of its union that the batch decoders write. -/
structure ParserInput where
  /-- `type`. -/
  type : InputType
  /-- `erc1155_batch_deposit`. -/
  erc1155BatchDeposit : Erc1155BatchDeposit
  /-- `erc1155_batch_withdrawal`. -/
  erc1155BatchWithdrawal : Erc1155BatchWithdrawal
  /-- `erc1155_batch_transfer`. -/
  erc1155BatchTransfer : Erc1155BatchTransfer

/-- A value-initialised parser input. -/
def ParserInput.zero : ParserInput where
  type := .none
  erc1155BatchDeposit := ⟨zeros 20, zeros 20, ⟨0, 0⟩, ⟨0, 0⟩, ⟨0, 0⟩, ⟨0, 0⟩⟩
  erc1155BatchWithdrawal := ⟨zeros 20, ⟨0, 0⟩, ⟨0, 0⟩, ⟨0, 0⟩⟩
  erc1155BatchTransfer := ⟨zeros 32, zeros 20, ⟨0, 0⟩, ⟨0, 0⟩, ⟨0, 0⟩⟩

/-- The payload of `cmt_rollup_advance_t`: bytes somewhere in memory. A payload does not wrap around
the address space, and the address past its last byte exists. -/
structure Payload where
  /-- Number of bytes. -/
  length : BitVec 64
  /-- First byte. -/
  data : Pointer
  /-- The end of the payload is an address. -/
  fits : data.toNat + length.toNat < 2 ^ 64

/-- What a decoder writes. -/
structure Session where
  /-- `parser_input`. -/
  input : ParserInput
  /-- The words read as list lengths, in order. -/
  lengthWords : List Buf

/-- A decoder: it writes the parser input and may throw. -/
abbrev Decoder (α : Type) : Type := Exec CmaException Session α

/-- `if (err != 0) throw CmaException(message, err)`. -/
def check (err : Int) (message : String) : Decoder Unit :=
  Exec.refuseIf (err ≠ 0) ⟨message, err⟩

/-- Write a member of the parser input. -/
def store (change : ParserInput → ParserInput) : Decoder Unit :=
  Exec.update fun session => { session with input := change session.input }

/-- Note the word that was read as a list length. -/
def noteLengthWord (word : Option Buf) : Decoder Unit :=
  Exec.update fun session => { session with lengthWords := session.lengthWords ++ word.toList }

section

variable (libcmt : Libcmt) (memory : Memory)

/-- `convert_to_cmt_funsel`; the union sees the least significant byte first. -/
def convertToCmtFunsel (originalFunsel : UInt32) : UInt32 :=
  libcmt.funsel (originalFunsel >>> 24).toUInt8 (originalFunsel >>> 16).toUInt8
    (originalFunsel >>> 8).toUInt8 originalFunsel.toUInt8

/-- `cma_abi_get_bytes`. -/
def getBytes (buf : Buf) (nBytes : ℕ) : Decoder (Bytes nBytes) := do
  Exec.refuseIf ((libcmt.bufLength buf).toNat < nBytes) ⟨"Invalid buffer length", -enobufs⟩
  pure (memory.bytes buf.begin nBytes)

/-- `cma_abi_get_address_packed`. The code of the split is not looked at. -/
def getAddressPacked (buf : Buf) : Decoder (Address × Buf) := do
  Exec.refuseIf ((libcmt.bufLength buf).toNat < addressLength)
    ⟨"Invalid buffer length", -enobufs⟩
  let address ← getBytes libcmt memory buf addressLength
  pure (address, (libcmt.bufSplit buf (BitVec.ofNat 64 addressLength)).out.rhs)

/-- `cma_abi_peek_uint256_list_d`; the buffer of the list's elements. -/
def peekUint256List (start offsetBuf : Buf) : Decoder (Returned Buf) := do
  let offset := libcmt.getUint memory offsetBuf 8
  if offset.code ≠ 0 then
    return ⟨offset.code, ⟨0, 0⟩⟩
  -- The pointer addition wraps, and nothing compares the result with `start->begin`.
  let it : Buf := ⟨start.begin + BitVec.ofNat 64 offset.out.value, start.stop⟩
  let count := libcmt.getUint memory it 8
  noteLengthWord count.out.word
  if count.code ≠ 0 then
    return ⟨count.code, ⟨0, 0⟩⟩
  let size := BitVec.ofNat 64 count.out.value * u256Length
  if libcmt.bufLength count.out.rest < size then
    return ⟨-enobufs, ⟨0, 0⟩⟩
  let bytes := libcmt.bufSplit count.out.rest size
  return ⟨bytes.code, bytes.out.lhs⟩

/-- `cma_abi_get_uint256_list_d`. -/
def getUint256List (start offsetBuf : Buf) : Decoder (Returned U256List) := do
  let bytes ← peekUint256List libcmt memory start offsetBuf
  if bytes.code ≠ 0 then
    return ⟨bytes.code, ⟨0, 0⟩⟩
  return ⟨0, ⟨libcmt.bufLength bytes.out / u256Length, bytes.out.begin⟩⟩

end

end Libcma.Parser
