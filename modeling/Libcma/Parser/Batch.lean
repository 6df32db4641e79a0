import Libcma.Parser.Input

/-!
# Decoders of the ERC1155 batch inputs

The three decoders of `parser_impl.cpp` that read lists. A deposit has two packed addresses before
its frame, a withdrawal and a transfer a selector; the frames then begin with their static words
and the offset words of the two lists and of the byte strings. The list reads are the same text
three times in the source, and what follows the static words of a withdrawal and of a transfer is
the same text twice; `getBatchLists` and `getListsAndExec` are these texts.
-/

namespace Libcma.Parser

/-- `WITHDRAW_ERC1155_BATCH`. -/
def withdrawErc1155Batch : UInt32 := 0x50c80019

/-- `TRANSFER_ERC1155_BATCH`. -/
def transferErc1155Batch : UInt32 := 0x638ac6f9

variable (libcmt : Libcmt) (memory : Memory)

/-- Read the token ids and the amounts behind their offset words, each into its member, and compare
their lengths. -/
def getBatchLists (frame offsetTokenId offsetAmount : Buf)
    (storeTokenIds storeAmounts : U256List → ParserInput → ParserInput) : Decoder Unit := do
  let tokenIds ← getUint256List libcmt memory frame offsetTokenId
  check tokenIds.code "Error getting base bytes"
  store (storeTokenIds tokenIds.out)
  let amounts ← getUint256List libcmt memory frame offsetAmount
  check amounts.code "Error getting base bytes"
  store (storeAmounts amounts.out)
  Exec.refuseIf (tokenIds.out.length ≠ amounts.out.length)
    ⟨"Mismatched token ids and amounts lengths", -einval⟩

/-- Take the offset words behind the static words, then read the lists and the execution layer
data, each into its member. -/
def getListsAndExec (frame buf : Buf)
    (storeTokenIds storeAmounts : U256List → ParserInput → ParserInput)
    (storeExec : AbiBytes → ParserInput → ParserInput) : Decoder Unit := do
  let offsetTokenId := libcmt.getBytesS buf
  check offsetTokenId.code "Error getting bytes token id offset"
  let offsetAmount := libcmt.getBytesS offsetTokenId.out.rhs
  check offsetAmount.code "Error getting bytes amount offset"
  let offsetExec := libcmt.getBytesS offsetAmount.out.rhs
  check offsetExec.code "Error getting bytes exec offset"
  getBatchLists libcmt memory frame offsetTokenId.out.lhs offsetAmount.out.lhs storeTokenIds
    storeAmounts
  let exec := libcmt.getBytesD memory frame offsetExec.out.lhs
  check exec.code "Error getting bytes"
  store (storeExec exec.out)

/-- `cma_parser_decode_erc1155_batch_deposit`. -/
def decodeErc1155BatchDeposit (payload : Payload) : Decoder Unit := do
  let buf := libcmt.bufInit payload.length payload.data
  let (token, buf) ← getAddressPacked libcmt memory buf
  store fun input =>
    { input with erc1155BatchDeposit := { input.erc1155BatchDeposit with token := token } }
  let (sender, buf) ← getAddressPacked libcmt memory buf
  store fun input =>
    { input with erc1155BatchDeposit := { input.erc1155BatchDeposit with sender := sender } }
  -- get data field
  let buf := libcmt.bufInit (libcmt.bufLength buf) buf.begin
  let frame := libcmt.markFrame buf
  check frame.code "Error marking frame"
  let offsetTokenId := libcmt.getBytesS buf
  check offsetTokenId.code "Error getting bytes token id offset"
  let offsetAmount := libcmt.getBytesS offsetTokenId.out.rhs
  check offsetAmount.code "Error getting bytes amount offset"
  let offsetBase := libcmt.getBytesS offsetAmount.out.rhs
  check offsetBase.code "Error getting bytes base offset"
  let offsetExec := libcmt.getBytesS offsetBase.out.rhs
  check offsetExec.code "Error getting bytes exec offset"
  getBatchLists libcmt memory frame.out offsetTokenId.out.lhs offsetAmount.out.lhs
    (fun list input =>
      { input with erc1155BatchDeposit := { input.erc1155BatchDeposit with tokenIds := list } })
    (fun list input =>
      { input with erc1155BatchDeposit := { input.erc1155BatchDeposit with amounts := list } })
  let base := libcmt.getBytesD memory frame.out offsetBase.out.lhs
  check base.code "Error getting base bytes"
  store fun input => { input with
    erc1155BatchDeposit := { input.erc1155BatchDeposit with baseLayerData := base.out } }
  let exec := libcmt.getBytesD memory frame.out offsetExec.out.lhs
  check exec.code "Error getting exec bytes"
  store fun input => { input with
    erc1155BatchDeposit := { input.erc1155BatchDeposit with execLayerData := exec.out } }
  store fun input => { input with type := .erc1155BatchDeposit }

/-- `cma_parser_decode_erc1155_batch_withdrawal`. -/
def decodeErc1155BatchWithdrawal (payload : Payload) : Decoder Unit := do
  let buf := libcmt.bufInit payload.length payload.data
  let funsel := libcmt.checkFunsel memory buf (convertToCmtFunsel libcmt withdrawErc1155Batch)
  check funsel.code "Invalid funsel"
  let frame := libcmt.markFrame funsel.out
  check frame.code "Error marking frame"
  let token := libcmt.getAddress memory funsel.out
  check token.code "Error getting token"
  store fun input => { input with
    erc1155BatchWithdrawal := { input.erc1155BatchWithdrawal with token := token.out.1 } }
  getListsAndExec libcmt memory frame.out token.out.2
    (fun list input => { input with
      erc1155BatchWithdrawal := { input.erc1155BatchWithdrawal with tokenIds := list } })
    (fun list input => { input with
      erc1155BatchWithdrawal := { input.erc1155BatchWithdrawal with amounts := list } })
    (fun exec input => { input with
      erc1155BatchWithdrawal := { input.erc1155BatchWithdrawal with execLayerData := exec } })
  store fun input => { input with type := .erc1155BatchWithdrawal }

/-- `cma_parser_decode_erc1155_batch_transfer`. -/
def decodeErc1155BatchTransfer (payload : Payload) : Decoder Unit := do
  let buf := libcmt.bufInit payload.length payload.data
  let funsel := libcmt.checkFunsel memory buf (convertToCmtFunsel libcmt transferErc1155Batch)
  check funsel.code "Invalid funsel"
  let frame := libcmt.markFrame funsel.out
  check frame.code "Error marking frame"
  let token := libcmt.getAddress memory funsel.out
  check token.code "Error getting token"
  store fun input => { input with
    erc1155BatchTransfer := { input.erc1155BatchTransfer with token := token.out.1 } }
  let receiver := libcmt.getUint256 memory token.out.2
  check receiver.code "Error getting receiver"
  store fun input => { input with
    erc1155BatchTransfer := { input.erc1155BatchTransfer with receiver := receiver.out.1 } }
  getListsAndExec libcmt memory frame.out receiver.out.2
    (fun list input => { input with
      erc1155BatchTransfer := { input.erc1155BatchTransfer with tokenIds := list } })
    (fun list input => { input with
      erc1155BatchTransfer := { input.erc1155BatchTransfer with amounts := list } })
    (fun exec input => { input with
      erc1155BatchTransfer := { input.erc1155BatchTransfer with execLayerData := exec } })
  store fun input => { input with type := .erc1155BatchTransfer }

/-- The inputs with lists. -/
inductive BatchKind where
  | deposit
  | withdrawal
  | transfer
  deriving DecidableEq

/-- The decoder of a kind, as `cma_parser_decode_advance` selects it. -/
def decodeBatch (kind : BatchKind) (payload : Payload) : Decoder Unit :=
  match kind with
  | .deposit => decodeErc1155BatchDeposit libcmt memory payload
  | .withdrawal => decodeErc1155BatchWithdrawal libcmt memory payload
  | .transfer => decodeErc1155BatchTransfer libcmt memory payload

end Libcma.Parser
