import Libcma.Parser.Batch

/-!
# Decoding of advance inputs

The other decoders of `parser_impl.cpp` and the two dispatchers over all of them. These decoders
differ in which static fields they read, where they put them and what follows: raw bytes after the
fields of an ether or ERC20 deposit, a frame with two byte strings after those of an ERC721 or
single ERC1155 deposit, and one byte string behind a selector's frame in a withdrawal or transfer.
Each keeps its own definition, with its fields in the order it reads them.

`Members` are the members of the union that the batch decoders do not write. The pointers to the
input and to the parser input are not null.
-/

namespace Libcma.Parser

/-- `WITHDRAW_ETHER`. -/
def withdrawEther : UInt32 := 0x8cf70f0b

/-- `WITHDRAW_ERC20`. -/
def withdrawErc20 : UInt32 := 0x4f94d342

/-- `WITHDRAW_ERC721`. -/
def withdrawErc721 : UInt32 := 0x33acf293

/-- `WITHDRAW_ERC1155_SINGLE`. -/
def withdrawErc1155Single : UInt32 := 0x8bb0a811

/-- `TRANSFER_ETHER`. -/
def transferEther : UInt32 := 0xff67c903

/-- `TRANSFER_ERC20`. -/
def transferErc20 : UInt32 := 0x03d61dcd

/-- `TRANSFER_ERC721`. -/
def transferErc721 : UInt32 := 0xaf615a5a

/-- `TRANSFER_ERC1155_SINGLE`. -/
def transferErc1155Single : UInt32 := 0xe1c913ed

/-- `cma_parser_ether_deposit_t`. -/
structure EtherDeposit where
  /-- `sender`. -/
  sender : Address
  /-- `amount`. -/
  amount : Bytes32
  /-- `exec_layer_data`. -/
  execLayerData : AbiBytes

/-- `cma_parser_erc20_deposit_t`. -/
structure Erc20Deposit where
  /-- `sender`. -/
  sender : Address
  /-- `token`. -/
  token : Address
  /-- `amount`. -/
  amount : Bytes32
  /-- `exec_layer_data`. -/
  execLayerData : AbiBytes

/-- `cma_parser_erc721_deposit_t`. -/
structure Erc721Deposit where
  /-- `sender`. -/
  sender : Address
  /-- `token`. -/
  token : Address
  /-- `token_id`. -/
  tokenId : Bytes32
  /-- `base_layer_data`. -/
  baseLayerData : AbiBytes
  /-- `exec_layer_data`. -/
  execLayerData : AbiBytes

/-- `cma_parser_erc1155_single_deposit_t`. -/
structure Erc1155SingleDeposit where
  /-- `sender`. -/
  sender : Address
  /-- `token`. -/
  token : Address
  /-- `token_id`. -/
  tokenId : Bytes32
  /-- `amount`. -/
  amount : Bytes32
  /-- `base_layer_data`. -/
  baseLayerData : AbiBytes
  /-- `exec_layer_data`. -/
  execLayerData : AbiBytes

/-- `cma_parser_ether_withdrawal_t`. -/
structure EtherWithdrawal where
  /-- `amount`. -/
  amount : Bytes32
  /-- `exec_layer_data`. -/
  execLayerData : AbiBytes

/-- `cma_parser_erc20_withdrawal_t`. -/
structure Erc20Withdrawal where
  /-- `token`. -/
  token : Address
  /-- `amount`. -/
  amount : Bytes32
  /-- `exec_layer_data`. -/
  execLayerData : AbiBytes

/-- `cma_parser_erc721_withdrawal_t`. -/
structure Erc721Withdrawal where
  /-- `token`. -/
  token : Address
  /-- `token_id`. -/
  tokenId : Bytes32
  /-- `exec_layer_data`. -/
  execLayerData : AbiBytes

/-- `cma_parser_erc1155_single_withdrawal_t`. -/
structure Erc1155SingleWithdrawal where
  /-- `token`. -/
  token : Address
  /-- `token_id`. -/
  tokenId : Bytes32
  /-- `amount`. -/
  amount : Bytes32
  /-- `exec_layer_data`. -/
  execLayerData : AbiBytes

/-- `cma_parser_ether_transfer_t`. -/
structure EtherTransfer where
  /-- `receiver`. -/
  receiver : Bytes32
  /-- `amount`. -/
  amount : Bytes32
  /-- `exec_layer_data`. -/
  execLayerData : AbiBytes

/-- `cma_parser_erc20_transfer_t`. -/
structure Erc20Transfer where
  /-- `receiver`. -/
  receiver : Bytes32
  /-- `token`. -/
  token : Address
  /-- `amount`. -/
  amount : Bytes32
  /-- `exec_layer_data`. -/
  execLayerData : AbiBytes

/-- `cma_parser_erc721_transfer_t`. -/
structure Erc721Transfer where
  /-- `receiver`. -/
  receiver : Bytes32
  /-- `token`. -/
  token : Address
  /-- `token_id`. -/
  tokenId : Bytes32
  /-- `exec_layer_data`. -/
  execLayerData : AbiBytes

/-- `cma_parser_erc1155_single_transfer_t`. -/
structure Erc1155SingleTransfer where
  /-- `receiver`. -/
  receiver : Bytes32
  /-- `token`. -/
  token : Address
  /-- `token_id`. -/
  tokenId : Bytes32
  /-- `amount`. -/
  amount : Bytes32
  /-- `exec_layer_data`. -/
  execLayerData : AbiBytes

/-- The members of the union in `cma_parser_input_t` for the inputs without lists. -/
structure Members where
  /-- `ether_deposit`. -/
  etherDeposit : EtherDeposit
  /-- `erc20_deposit`. -/
  erc20Deposit : Erc20Deposit
  /-- `erc721_deposit`. -/
  erc721Deposit : Erc721Deposit
  /-- `erc1155_single_deposit`. -/
  erc1155SingleDeposit : Erc1155SingleDeposit
  /-- `ether_withdrawal`. -/
  etherWithdrawal : EtherWithdrawal
  /-- `erc20_withdrawal`. -/
  erc20Withdrawal : Erc20Withdrawal
  /-- `erc721_withdrawal`. -/
  erc721Withdrawal : Erc721Withdrawal
  /-- `erc1155_single_withdrawal`. -/
  erc1155SingleWithdrawal : Erc1155SingleWithdrawal
  /-- `ether_transfer`. -/
  etherTransfer : EtherTransfer
  /-- `erc20_transfer`. -/
  erc20Transfer : Erc20Transfer
  /-- `erc721_transfer`. -/
  erc721Transfer : Erc721Transfer
  /-- `erc1155_single_transfer`. -/
  erc1155SingleTransfer : Erc1155SingleTransfer

/-- The members of a value-initialised parser input. -/
def Members.zero : Members where
  etherDeposit := ⟨zeros 20, zeros 32, ⟨0, 0⟩⟩
  erc20Deposit := ⟨zeros 20, zeros 20, zeros 32, ⟨0, 0⟩⟩
  erc721Deposit := ⟨zeros 20, zeros 20, zeros 32, ⟨0, 0⟩, ⟨0, 0⟩⟩
  erc1155SingleDeposit := ⟨zeros 20, zeros 20, zeros 32, zeros 32, ⟨0, 0⟩, ⟨0, 0⟩⟩
  etherWithdrawal := ⟨zeros 32, ⟨0, 0⟩⟩
  erc20Withdrawal := ⟨zeros 20, zeros 32, ⟨0, 0⟩⟩
  erc721Withdrawal := ⟨zeros 20, zeros 32, ⟨0, 0⟩⟩
  erc1155SingleWithdrawal := ⟨zeros 20, zeros 32, zeros 32, ⟨0, 0⟩⟩
  etherTransfer := ⟨zeros 32, zeros 32, ⟨0, 0⟩⟩
  erc20Transfer := ⟨zeros 32, zeros 20, zeros 32, ⟨0, 0⟩⟩
  erc721Transfer := ⟨zeros 32, zeros 20, zeros 32, ⟨0, 0⟩⟩
  erc1155SingleTransfer := ⟨zeros 32, zeros 20, zeros 32, zeros 32, ⟨0, 0⟩⟩

/-- A decoder of any advance input. -/
abbrev AdvanceDecoder (α : Type) : Type := Exec CmaException (Session × Members) α

/-- `if (err != 0) throw CmaException(message, err)`. -/
def require (err : Int) (message : String) : AdvanceDecoder Unit :=
  Exec.onFirst (check err message)

/-- Write one of the members. -/
def fill (change : Members → Members) : AdvanceDecoder Unit :=
  Exec.update fun state => (state.1, change state.2)

/-- Write the type of the parser input. -/
def storeType (type : InputType) : AdvanceDecoder Unit :=
  Exec.onFirst (store fun input => { input with type := type })

/-- A static field of a payload: how it is read and where it goes. -/
inductive Static where
  /-- An address in its 20 bytes. -/
  | packed (write : Address → Members → Members)
  /-- An address in a word; the message when it cannot be read. -/
  | address (message : String) (write : Address → Members → Members)
  /-- A word; the message when it cannot be read. -/
  | uint256 (message : String) (write : Bytes32 → Members → Members)

section

variable (libcmt : Libcmt) (memory : Memory)

/-- `cma_abi_get_bytes_packed`. -/
def getBytesPacked (start : Buf) : AdvanceDecoder AbiBytes := do
  Exec.refuseIf (start.stop < start.begin) ⟨"Invalid buffer pointer range", -enobufs⟩
  pure ⟨libcmt.bufLength start, start.begin⟩

/-- Read static fields; the buffer after them. -/
def getStatics (buf : Buf) : List Static → AdvanceDecoder Buf
  | [] => pure buf
  | .packed write :: rest => do
    let (address, buf) ← Exec.onFirst (getAddressPacked libcmt memory buf)
    fill (write address)
    getStatics buf rest
  | .address message write :: rest => do
    let address := libcmt.getAddress memory buf
    require address.code message
    fill (write address.out.1)
    getStatics address.out.2 rest
  | .uint256 message write :: rest => do
    let word := libcmt.getUint256 memory buf
    require word.code message
    fill (write word.out.1)
    getStatics word.out.2 rest

/-- A deposit whose fields are followed by raw execution layer data. -/
def decodePackedDeposit (statics : List Static) (writeExec : AbiBytes → Members → Members)
    (type : InputType) (payload : Payload) : AdvanceDecoder Unit := do
  let buf := libcmt.bufInit payload.length payload.data
  let buf ← getStatics libcmt memory buf statics
  let exec ← getBytesPacked libcmt buf
  fill (writeExec exec)
  storeType type

/-- A deposit whose fields are followed by a frame with base and execution layer data. -/
def decodeFramedDeposit (statics : List Static)
    (writeBase writeExec : AbiBytes → Members → Members) (type : InputType)
    (payload : Payload) : AdvanceDecoder Unit := do
  let buf := libcmt.bufInit payload.length payload.data
  let buf ← getStatics libcmt memory buf statics
  -- get data
  let buf := libcmt.bufInit (libcmt.bufLength buf) buf.begin
  let frame := libcmt.markFrame buf
  require frame.code "Error marking frame"
  let offsetBase := libcmt.getBytesS buf
  require offsetBase.code "Error getting bytes base offset"
  let offsetExec := libcmt.getBytesS offsetBase.out.rhs
  require offsetExec.code "Error getting bytes exec offset"
  let base := libcmt.getBytesD memory frame.out offsetBase.out.lhs
  require base.code "Error getting base bytes"
  fill (writeBase base.out)
  let exec := libcmt.getBytesD memory frame.out offsetExec.out.lhs
  require exec.code "Error getting exec bytes"
  fill (writeExec exec.out)
  storeType type

/-- A withdrawal or a transfer: a selector, and the frame after it with the fields and the
execution layer data. -/
def decodeCall (originalFunsel : UInt32) (statics : List Static)
    (writeExec : AbiBytes → Members → Members) (type : InputType) (payload : Payload) :
    AdvanceDecoder Unit := do
  let buf := libcmt.bufInit payload.length payload.data
  let funsel := libcmt.checkFunsel memory buf (convertToCmtFunsel libcmt originalFunsel)
  require funsel.code "Invalid funsel"
  let frame := libcmt.markFrame funsel.out
  require frame.code "Error marking frame"
  let buf ← getStatics libcmt memory funsel.out statics
  let offset := libcmt.getBytesS buf
  require offset.code "Error getting bytes offset"
  let exec := libcmt.getBytesD memory frame.out offset.out.lhs
  require exec.code "Error getting bytes"
  fill (writeExec exec.out)
  storeType type

/-- `cma_parser_decode_ether_deposit`. -/
def decodeEtherDeposit : Payload → AdvanceDecoder Unit :=
  decodePackedDeposit libcmt memory
    [.packed fun sender members => { members with etherDeposit.sender := sender },
      .uint256 "Error getting amount" fun amount members =>
        { members with etherDeposit.amount := amount }]
    (fun exec members => { members with etherDeposit.execLayerData := exec }) .etherDeposit

/-- `cma_parser_decode_erc20_deposit`. -/
def decodeErc20Deposit : Payload → AdvanceDecoder Unit :=
  decodePackedDeposit libcmt memory
    [.packed fun token members => { members with erc20Deposit.token := token },
      .packed fun sender members => { members with erc20Deposit.sender := sender },
      .uint256 "Error getting amount" fun amount members =>
        { members with erc20Deposit.amount := amount }]
    (fun exec members => { members with erc20Deposit.execLayerData := exec }) .erc20Deposit

/-- `cma_parser_decode_erc721_deposit`. -/
def decodeErc721Deposit : Payload → AdvanceDecoder Unit :=
  decodeFramedDeposit libcmt memory
    [.packed fun token members => { members with erc721Deposit.token := token },
      .packed fun sender members => { members with erc721Deposit.sender := sender },
      .uint256 "Error getting token id" fun tokenId members =>
        { members with erc721Deposit.tokenId := tokenId }]
    (fun base members => { members with erc721Deposit.baseLayerData := base })
    (fun exec members => { members with erc721Deposit.execLayerData := exec }) .erc721Deposit

/-- `cma_parser_decode_erc1155_single_deposit`. -/
def decodeErc1155SingleDeposit : Payload → AdvanceDecoder Unit :=
  decodeFramedDeposit libcmt memory
    [.packed fun token members => { members with erc1155SingleDeposit.token := token },
      .packed fun sender members => { members with erc1155SingleDeposit.sender := sender },
      .uint256 "Error getting token id" fun tokenId members =>
        { members with erc1155SingleDeposit.tokenId := tokenId },
      .uint256 "Error getting amount" fun amount members =>
        { members with erc1155SingleDeposit.amount := amount }]
    (fun base members => { members with erc1155SingleDeposit.baseLayerData := base })
    (fun exec members => { members with erc1155SingleDeposit.execLayerData := exec })
    .erc1155SingleDeposit

/-- `cma_parser_decode_ether_withdrawal`. -/
def decodeEtherWithdrawal : Payload → AdvanceDecoder Unit :=
  decodeCall libcmt memory withdrawEther
    [.uint256 "Error getting amount" fun amount members =>
      { members with etherWithdrawal.amount := amount }]
    (fun exec members => { members with etherWithdrawal.execLayerData := exec }) .etherWithdrawal

/-- `cma_parser_decode_erc20_withdrawal`. -/
def decodeErc20Withdrawal : Payload → AdvanceDecoder Unit :=
  decodeCall libcmt memory withdrawErc20
    [.address "Error getting token" fun token members =>
        { members with erc20Withdrawal.token := token },
      .uint256 "Error getting amount" fun amount members =>
        { members with erc20Withdrawal.amount := amount }]
    (fun exec members => { members with erc20Withdrawal.execLayerData := exec }) .erc20Withdrawal

/-- `cma_parser_decode_erc721_withdrawal`. -/
def decodeErc721Withdrawal : Payload → AdvanceDecoder Unit :=
  decodeCall libcmt memory withdrawErc721
    [.address "Error getting token" fun token members =>
        { members with erc721Withdrawal.token := token },
      .uint256 "Error getting token id" fun tokenId members =>
        { members with erc721Withdrawal.tokenId := tokenId }]
    (fun exec members => { members with erc721Withdrawal.execLayerData := exec })
    .erc721Withdrawal

/-- `cma_parser_decode_erc1155_single_withdrawal`. -/
def decodeErc1155SingleWithdrawal : Payload → AdvanceDecoder Unit :=
  decodeCall libcmt memory withdrawErc1155Single
    [.address "Error getting token" fun token members =>
        { members with erc1155SingleWithdrawal.token := token },
      .uint256 "Error getting token id" fun tokenId members =>
        { members with erc1155SingleWithdrawal.tokenId := tokenId },
      .uint256 "Error getting amount" fun amount members =>
        { members with erc1155SingleWithdrawal.amount := amount }]
    (fun exec members => { members with erc1155SingleWithdrawal.execLayerData := exec })
    .erc1155SingleWithdrawal

/-- `cma_parser_decode_ether_transfer`. -/
def decodeEtherTransfer : Payload → AdvanceDecoder Unit :=
  decodeCall libcmt memory transferEther
    [.uint256 "Error getting receiver" fun receiver members =>
        { members with etherTransfer.receiver := receiver },
      .uint256 "Error getting amount" fun amount members =>
        { members with etherTransfer.amount := amount }]
    (fun exec members => { members with etherTransfer.execLayerData := exec }) .etherTransfer

/-- `cma_parser_decode_erc20_transfer`. -/
def decodeErc20Transfer : Payload → AdvanceDecoder Unit :=
  decodeCall libcmt memory transferErc20
    [.address "Error getting token" fun token members =>
        { members with erc20Transfer.token := token },
      .uint256 "Error getting receiver" fun receiver members =>
        { members with erc20Transfer.receiver := receiver },
      .uint256 "Error getting amount" fun amount members =>
        { members with erc20Transfer.amount := amount }]
    (fun exec members => { members with erc20Transfer.execLayerData := exec }) .erc20Transfer

/-- `cma_parser_decode_erc721_transfer`. -/
def decodeErc721Transfer : Payload → AdvanceDecoder Unit :=
  decodeCall libcmt memory transferErc721
    [.address "Error getting token" fun token members =>
        { members with erc721Transfer.token := token },
      .uint256 "Error getting receiver" fun receiver members =>
        { members with erc721Transfer.receiver := receiver },
      .uint256 "Error getting token id" fun tokenId members =>
        { members with erc721Transfer.tokenId := tokenId }]
    (fun exec members => { members with erc721Transfer.execLayerData := exec }) .erc721Transfer

/-- `cma_parser_decode_erc1155_single_transfer`. -/
def decodeErc1155SingleTransfer : Payload → AdvanceDecoder Unit :=
  decodeCall libcmt memory transferErc1155Single
    [.address "Error getting token" fun token members =>
        { members with erc1155SingleTransfer.token := token },
      .uint256 "Error getting receiver" fun receiver members =>
        { members with erc1155SingleTransfer.receiver := receiver },
      .uint256 "Error getting token id" fun tokenId members =>
        { members with erc1155SingleTransfer.tokenId := tokenId },
      .uint256 "Error getting amount" fun amount members =>
        { members with erc1155SingleTransfer.amount := amount }]
    (fun exec members => { members with erc1155SingleTransfer.execLayerData := exec })
    .erc1155SingleTransfer

/-- The selectors of `cma_parser_decode_advance_auto` in its order, each with its decoder. -/
def autoDecoders : List (UInt32 × (Payload → AdvanceDecoder Unit)) :=
  [(withdrawEther, decodeEtherWithdrawal libcmt memory),
    (withdrawErc20, decodeErc20Withdrawal libcmt memory),
    (withdrawErc721, decodeErc721Withdrawal libcmt memory),
    (withdrawErc1155Single, decodeErc1155SingleWithdrawal libcmt memory),
    (withdrawErc1155Batch, fun payload =>
      Exec.onFirst (decodeErc1155BatchWithdrawal libcmt memory payload)),
    (transferEther, decodeEtherTransfer libcmt memory),
    (transferErc20, decodeErc20Transfer libcmt memory),
    (transferErc721, decodeErc721Transfer libcmt memory),
    (transferErc1155Single, decodeErc1155SingleTransfer libcmt memory),
    (transferErc1155Batch, fun payload =>
      Exec.onFirst (decodeErc1155BatchTransfer libcmt memory payload))]

/-- Run the decoder of the first selector that the buffer begins with. -/
def decodeFirst (payload : Payload) (buf : Buf) :
    List (UInt32 × (Payload → AdvanceDecoder Unit)) → AdvanceDecoder Unit
  | [] => Exec.raise ⟨"Invalid funsel", -einval⟩
  | (originalFunsel, decode) :: rest =>
    let funsel := libcmt.checkFunsel memory buf (convertToCmtFunsel libcmt originalFunsel)
    if funsel.code = 0 then decode payload else decodeFirst payload funsel.out rest

/-- `cma_parser_decode_advance_auto`. -/
def decodeAdvanceAuto (payload : Payload) : AdvanceDecoder Unit :=
  decodeFirst libcmt memory payload (libcmt.bufInit payload.length payload.data)
    (autoDecoders libcmt memory)

/-- `cma_parser_decode_advance`. -/
def decodeAdvance (type : InputType) (payload : Payload) : AdvanceDecoder Unit :=
  match type with
  | .auto => decodeAdvanceAuto libcmt memory payload
  | .etherDeposit => decodeEtherDeposit libcmt memory payload
  | .erc20Deposit => decodeErc20Deposit libcmt memory payload
  | .erc721Deposit => decodeErc721Deposit libcmt memory payload
  | .erc1155SingleDeposit => decodeErc1155SingleDeposit libcmt memory payload
  | .erc1155BatchDeposit => Exec.onFirst (decodeErc1155BatchDeposit libcmt memory payload)
  | .etherWithdrawal => decodeEtherWithdrawal libcmt memory payload
  | .erc20Withdrawal => decodeErc20Withdrawal libcmt memory payload
  | .erc721Withdrawal => decodeErc721Withdrawal libcmt memory payload
  | .erc1155SingleWithdrawal => decodeErc1155SingleWithdrawal libcmt memory payload
  | .erc1155BatchWithdrawal => Exec.onFirst (decodeErc1155BatchWithdrawal libcmt memory payload)
  | .etherTransfer => decodeEtherTransfer libcmt memory payload
  | .erc20Transfer => decodeErc20Transfer libcmt memory payload
  | .erc721Transfer => decodeErc721Transfer libcmt memory payload
  | .erc1155SingleTransfer => decodeErc1155SingleTransfer libcmt memory payload
  | .erc1155BatchTransfer => Exec.onFirst (decodeErc1155BatchTransfer libcmt memory payload)
  | _ => Exec.raise ⟨"Invalid advance decode type", -einval⟩

end

end Libcma.Parser
