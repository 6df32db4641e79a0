import Libcma.Parser.Decode
import Libcma.Parser.Standard

/-!
# Canonical payloads are decoded to their arguments

`Arguments` are the arguments of the fifteen kinds of advance inputs and `Arguments.canonical` is
their canonical payload: packed fields and then the raw or encoded rest for a deposit, a selector
and the encoding of its signature for a withdrawal or a transfer. `Spells` relates the static
fields a decoder reads to bytes; what follows the fields is read by one lemma for each of the three
endings, and by `getBatchLists_run` for the lists.
-/

namespace Libcma.Parser

/-- The arguments of an advance input. A batch has as many amounts as token ids. -/
inductive Arguments where
  /-- An ether deposit. -/
  | etherDeposit (sender : Address) (amount : Bytes32) (exec : List UInt8)
  /-- An ERC20 deposit. -/
  | erc20Deposit (token sender : Address) (amount : Bytes32) (exec : List UInt8)
  /-- An ERC721 deposit. -/
  | erc721Deposit (token sender : Address) (tokenId : Bytes32) (base exec : List UInt8)
  /-- A deposit of one ERC1155 token. -/
  | erc1155SingleDeposit (token sender : Address) (tokenId amount : Bytes32)
    (base exec : List UInt8)
  /-- A deposit of several ERC1155 tokens. -/
  | erc1155BatchDeposit (token sender : Address) (tokenIds amounts : List Bytes32)
    (paired : tokenIds.length = amounts.length) (base exec : List UInt8)
  /-- `WithdrawEther(uint256,bytes)`. -/
  | etherWithdrawal (amount : Bytes32) (exec : List UInt8)
  /-- `WithdrawErc20(address,uint256,bytes)`. -/
  | erc20Withdrawal (token : Address) (amount : Bytes32) (exec : List UInt8)
  /-- `WithdrawErc721(address,uint256,bytes)`. -/
  | erc721Withdrawal (token : Address) (tokenId : Bytes32) (exec : List UInt8)
  /-- `WithdrawErc1155Single(address,uint256,uint256,bytes)`. -/
  | erc1155SingleWithdrawal (token : Address) (tokenId amount : Bytes32) (exec : List UInt8)
  /-- `WithdrawErc1155Batch(address,uint256[],uint256[],bytes)`. -/
  | erc1155BatchWithdrawal (token : Address) (tokenIds amounts : List Bytes32)
    (paired : tokenIds.length = amounts.length) (exec : List UInt8)
  /-- `TransferEther(bytes32,uint256,bytes)`. -/
  | etherTransfer (receiver amount : Bytes32) (exec : List UInt8)
  /-- `TransferErc20(address,bytes32,uint256,bytes)`. -/
  | erc20Transfer (token : Address) (receiver amount : Bytes32) (exec : List UInt8)
  /-- `TransferErc721(address,bytes32,uint256,bytes)`. -/
  | erc721Transfer (token : Address) (receiver tokenId : Bytes32) (exec : List UInt8)
  /-- `TransferErc1155Single(address,bytes32,uint256,uint256,bytes)`. -/
  | erc1155SingleTransfer (token : Address) (receiver tokenId amount : Bytes32)
    (exec : List UInt8)
  /-- `TransferErc1155Batch(address,bytes32,uint256[],uint256[],bytes)`. -/
  | erc1155BatchTransfer (token : Address) (receiver : Bytes32) (tokenIds amounts : List Bytes32)
    (paired : tokenIds.length = amounts.length) (exec : List UInt8)

namespace Arguments

/-- The type of an input with these arguments. -/
def type : Arguments → InputType
  | .etherDeposit .. => .etherDeposit
  | .erc20Deposit .. => .erc20Deposit
  | .erc721Deposit .. => .erc721Deposit
  | .erc1155SingleDeposit .. => .erc1155SingleDeposit
  | .erc1155BatchDeposit .. => .erc1155BatchDeposit
  | .etherWithdrawal .. => .etherWithdrawal
  | .erc20Withdrawal .. => .erc20Withdrawal
  | .erc721Withdrawal .. => .erc721Withdrawal
  | .erc1155SingleWithdrawal .. => .erc1155SingleWithdrawal
  | .erc1155BatchWithdrawal .. => .erc1155BatchWithdrawal
  | .etherTransfer .. => .etherTransfer
  | .erc20Transfer .. => .erc20Transfer
  | .erc721Transfer .. => .erc721Transfer
  | .erc1155SingleTransfer .. => .erc1155SingleTransfer
  | .erc1155BatchTransfer .. => .erc1155BatchTransfer

/-- The canonical payload with these arguments. -/
def canonical : Arguments → List UInt8
  | .etherDeposit sender amount exec => [sender.toList, amount.toList].flatten ++ exec
  | .erc20Deposit token sender amount exec =>
    [token.toList, sender.toList, amount.toList].flatten ++ exec
  | .erc721Deposit token sender tokenId base exec =>
    [token.toList, sender.toList, tokenId.toList].flatten ++
      Abi.encode [.ofBytes base, .ofBytes exec]
  | .erc1155SingleDeposit token sender tokenId amount base exec =>
    [token.toList, sender.toList, tokenId.toList, amount.toList].flatten ++
      Abi.encode [.ofBytes base, .ofBytes exec]
  | .erc1155BatchDeposit token sender tokenIds amounts _ base exec =>
    [token.toList, sender.toList].flatten ++
      Abi.encode [.words tokenIds, .words amounts, .ofBytes base, .ofBytes exec]
  | .etherWithdrawal amount exec =>
    selectorBytes withdrawEther ++ Abi.encode [.word amount, .ofBytes exec]
  | .erc20Withdrawal token amount exec =>
    selectorBytes withdrawErc20 ++ Abi.encode [.word (walletId token), .word amount, .ofBytes exec]
  | .erc721Withdrawal token tokenId exec =>
    selectorBytes withdrawErc721 ++
      Abi.encode [.word (walletId token), .word tokenId, .ofBytes exec]
  | .erc1155SingleWithdrawal token tokenId amount exec =>
    selectorBytes withdrawErc1155Single ++
      Abi.encode [.word (walletId token), .word tokenId, .word amount, .ofBytes exec]
  | .erc1155BatchWithdrawal token tokenIds amounts _ exec =>
    selectorBytes withdrawErc1155Batch ++
      Abi.encode [.word (walletId token), .words tokenIds, .words amounts, .ofBytes exec]
  | .etherTransfer receiver amount exec =>
    selectorBytes transferEther ++ Abi.encode [.word receiver, .word amount, .ofBytes exec]
  | .erc20Transfer token receiver amount exec =>
    selectorBytes transferErc20 ++
      Abi.encode [.word (walletId token), .word receiver, .word amount, .ofBytes exec]
  | .erc721Transfer token receiver tokenId exec =>
    selectorBytes transferErc721 ++
      Abi.encode [.word (walletId token), .word receiver, .word tokenId, .ofBytes exec]
  | .erc1155SingleTransfer token receiver tokenId amount exec =>
    selectorBytes transferErc1155Single ++ Abi.encode
      [.word (walletId token), .word receiver, .word tokenId, .word amount, .ofBytes exec]
  | .erc1155BatchTransfer token receiver tokenIds amounts _ exec =>
    selectorBytes transferErc1155Batch ++ Abi.encode
      [.word (walletId token), .word receiver, .words tokenIds, .words amounts, .ofBytes exec]

/-- The parser input has these arguments in the member of their type. -/
def ReturnedIn (memory : Memory) (input : ParserInput) (members : Members) : Arguments → Prop
  | .etherDeposit sender amount exec =>
    members.etherDeposit.sender = sender ∧ members.etherDeposit.amount = amount ∧
      members.etherDeposit.execLayerData.Denotes memory exec
  | .erc20Deposit token sender amount exec =>
    members.erc20Deposit.token = token ∧ members.erc20Deposit.sender = sender ∧
      members.erc20Deposit.amount = amount ∧
      members.erc20Deposit.execLayerData.Denotes memory exec
  | .erc721Deposit token sender tokenId base exec =>
    members.erc721Deposit.token = token ∧ members.erc721Deposit.sender = sender ∧
      members.erc721Deposit.tokenId = tokenId ∧
      members.erc721Deposit.baseLayerData.Denotes memory base ∧
      members.erc721Deposit.execLayerData.Denotes memory exec
  | .erc1155SingleDeposit token sender tokenId amount base exec =>
    members.erc1155SingleDeposit.token = token ∧ members.erc1155SingleDeposit.sender = sender ∧
      members.erc1155SingleDeposit.tokenId = tokenId ∧
      members.erc1155SingleDeposit.amount = amount ∧
      members.erc1155SingleDeposit.baseLayerData.Denotes memory base ∧
      members.erc1155SingleDeposit.execLayerData.Denotes memory exec
  | .erc1155BatchDeposit token sender tokenIds amounts _ base exec =>
    input.erc1155BatchDeposit.token = token ∧ input.erc1155BatchDeposit.sender = sender ∧
      input.erc1155BatchDeposit.tokenIds.Denotes memory tokenIds ∧
      input.erc1155BatchDeposit.amounts.Denotes memory amounts ∧
      input.erc1155BatchDeposit.baseLayerData.Denotes memory base ∧
      input.erc1155BatchDeposit.execLayerData.Denotes memory exec
  | .etherWithdrawal amount exec =>
    members.etherWithdrawal.amount = amount ∧
      members.etherWithdrawal.execLayerData.Denotes memory exec
  | .erc20Withdrawal token amount exec =>
    members.erc20Withdrawal.token = token ∧ members.erc20Withdrawal.amount = amount ∧
      members.erc20Withdrawal.execLayerData.Denotes memory exec
  | .erc721Withdrawal token tokenId exec =>
    members.erc721Withdrawal.token = token ∧ members.erc721Withdrawal.tokenId = tokenId ∧
      members.erc721Withdrawal.execLayerData.Denotes memory exec
  | .erc1155SingleWithdrawal token tokenId amount exec =>
    members.erc1155SingleWithdrawal.token = token ∧
      members.erc1155SingleWithdrawal.tokenId = tokenId ∧
      members.erc1155SingleWithdrawal.amount = amount ∧
      members.erc1155SingleWithdrawal.execLayerData.Denotes memory exec
  | .erc1155BatchWithdrawal token tokenIds amounts _ exec =>
    input.erc1155BatchWithdrawal.token = token ∧
      input.erc1155BatchWithdrawal.tokenIds.Denotes memory tokenIds ∧
      input.erc1155BatchWithdrawal.amounts.Denotes memory amounts ∧
      input.erc1155BatchWithdrawal.execLayerData.Denotes memory exec
  | .etherTransfer receiver amount exec =>
    members.etherTransfer.receiver = receiver ∧ members.etherTransfer.amount = amount ∧
      members.etherTransfer.execLayerData.Denotes memory exec
  | .erc20Transfer token receiver amount exec =>
    members.erc20Transfer.token = token ∧ members.erc20Transfer.receiver = receiver ∧
      members.erc20Transfer.amount = amount ∧
      members.erc20Transfer.execLayerData.Denotes memory exec
  | .erc721Transfer token receiver tokenId exec =>
    members.erc721Transfer.token = token ∧ members.erc721Transfer.receiver = receiver ∧
      members.erc721Transfer.tokenId = tokenId ∧
      members.erc721Transfer.execLayerData.Denotes memory exec
  | .erc1155SingleTransfer token receiver tokenId amount exec =>
    members.erc1155SingleTransfer.token = token ∧
      members.erc1155SingleTransfer.receiver = receiver ∧
      members.erc1155SingleTransfer.tokenId = tokenId ∧
      members.erc1155SingleTransfer.amount = amount ∧
      members.erc1155SingleTransfer.execLayerData.Denotes memory exec
  | .erc1155BatchTransfer token receiver tokenIds amounts _ exec =>
    input.erc1155BatchTransfer.token = token ∧ input.erc1155BatchTransfer.receiver = receiver ∧
      input.erc1155BatchTransfer.tokenIds.Denotes memory tokenIds ∧
      input.erc1155BatchTransfer.amounts.Denotes memory amounts ∧
      input.erc1155BatchTransfer.execLayerData.Denotes memory exec

end Arguments

/-- The static fields are read from the bytes, and reading them makes the change. -/
inductive Spells : List Static → List UInt8 → (Members → Members) → Prop
  /-- No fields. -/
  | nil : Spells [] [] id
  /-- The bytes of an address. -/
  | packed {statics bytes change} (write : Address → Members → Members) (address : Address)
    (rest : Spells statics bytes change) :
    Spells (.packed write :: statics) (address.toList ++ bytes) (change ∘ write address)
  /-- The word of an address. -/
  | address {statics bytes change} (message : String) (write : Address → Members → Members)
    (address : Address) (rest : Spells statics bytes change) :
    Spells (.address message write :: statics) (addressWord address ++ bytes)
      (change ∘ write address)
  /-- A word. -/
  | uint256 {statics bytes change} (message : String) (write : Bytes32 → Members → Members)
    (value : Bytes32) (rest : Spells statics bytes change) :
    Spells (.uint256 message write :: statics) (value.toList ++ bytes) (change ∘ write value)

section

variable {libcmt : Libcmt} {memory : Memory} {payload : Payload} {session : Session}
  {members : Members}

/-- A call that succeeded is not refused. -/
theorem require_zero (message : String) (state : Session × Members) :
    (require 0 message).run state = .ok () state := by
  rw [require, Exec.onFirst_run, check_zero]
  rfl

/-- Writing a member. -/
theorem fill_run (change : Members → Members) (state : Session × Members) :
    (fill change).run state = .ok () (state.1, change state.2) := rfl

/-- Writing the type. -/
theorem storeType_run (type : InputType) (state : Session × Members) :
    (storeType type).run state =
      .ok () ({ state.1 with input := { state.1.input with type := type } }, state.2) := rfl

namespace Libcmt.Standard

variable (standard : libcmt.Standard)

include standard

/-- A buffer is initialised again from its own length and first byte. -/
theorem bufInit_again (me : Buf) : libcmt.bufInit (libcmt.bufLength me) me.begin = me := by
  rw [standard.bufInit, standard.bufLength, add_sub_cancel]

/-- The bytes left behind a position. -/
theorem bufLength_from {position : ℕ} (inside : position ≤ payload.length.toNat) :
    (libcmt.bufLength (payload.from position)).toNat = payload.length.toNat - position := by
  have bound := payload.fits
  have start : (payload.from position).begin.toNat = payload.data.toNat + position :=
    Span.toNat_add_ofNat (by omega)
  have stop : (payload.from position).stop.toNat = payload.data.toNat + payload.length.toNat :=
    payload.toNat_stop
  rw [standard.bufLength, BitVec.toNat_sub_of_le (BitVec.le_def.mpr (by omega))]
  omega

/-- A packed address is read where its bytes lie. -/
theorem getAddressPacked_from {position : ℕ} {address : Address} (session : Session)
    (fits : position + 20 ≤ payload.length.toNat)
    (holds : Cells.Holds memory (payload.data + BitVec.ofNat 64 position) address.toList) :
    (getAddressPacked libcmt memory (payload.from position)).run session =
      .ok (address, payload.from (position + 20)) session := by
  have length := standard.bufLength_from (show position ≤ payload.length.toNat by omega)
  have enough : ¬(libcmt.bufLength (payload.from position)).toNat < addressLength := by
    rw [length, addressLength]
    omega
  have bytes : memory.bytes (payload.from position).begin addressLength = address :=
    bytes_of_holds address holds
  have split := standard.bufSplit_from fits (BitVec.ofNat 64 addressLength) rfl
  simp only [getAddressPacked, getBytes, Exec.bind_run, Exec.refuseIf_run, if_neg enough,
    Outcome.andThen_ok, bytes, split]
  rfl

/-- Static fields are read where their bytes lie. -/
theorem getStatics_run {statics : List Static} {bytes : List UInt8} {change : Members → Members}
    (spells : Spells statics bytes change) {position : ℕ}
    (fits : position + bytes.length ≤ payload.length.toNat)
    (holds : Cells.Holds memory (payload.data + BitVec.ofNat 64 position) bytes)
    (session : Session) (members : Members) :
    (getStatics libcmt memory (payload.from position) statics).run (session, members) =
      .ok (payload.from (position + bytes.length)) (session, change members) := by
  induction spells generalizing position members with
  | nil => rfl
  | packed write address rest ih =>
    rw [Cells.holds_append, ← payload.data_add] at holds
    rw [List.length_append, List.Vector.toList_length] at fits ⊢
    rw [List.Vector.toList_length] at holds
    have read := standard.getAddressPacked_from session (by omega) holds.1
    have later := ih (by omega) holds.2 (write address members)
    simp only [getStatics, Exec.bind_run, Exec.onFirst_run, read, Outcome.mapState_ok,
      Outcome.andThen_ok, fill_run, later, Nat.add_assoc, Function.comp_apply]
  | address message write address rest ih =>
    rw [Cells.holds_append, ← payload.data_add, length_addressWord] at holds
    rw [List.length_append, length_addressWord] at fits ⊢
    have read := standard.getAddress_from (by omega) holds.1
    have later := ih (by omega) holds.2 (write address members)
    simp only [getStatics, Exec.bind_run, read, require_zero, Outcome.andThen_ok, fill_run, later,
      Nat.add_assoc, Function.comp_apply]
  | uint256 message write value rest ih =>
    rw [Cells.holds_append, ← payload.data_add, List.Vector.toList_length] at holds
    rw [List.length_append, List.Vector.toList_length] at fits ⊢
    have read := standard.getUint256_from (by omega) holds.1
    have later := ih (by omega) holds.2 (write value members)
    simp only [getStatics, Exec.bind_run, read, require_zero, Outcome.andThen_ok, fill_run, later,
      Nat.add_assoc, Function.comp_apply]

end Libcmt.Standard

/-- The heads of words, and of what follows them. -/
theorem heads_words (offset : ℕ) (words : List Bytes32) (rest : List Abi.Arg) :
    Abi.heads offset (words.map .word ++ rest) =
      words.flatMap List.Vector.toList ++ Abi.heads offset rest := by
  induction words with
  | nil => rfl
  | cons word words ih =>
    rw [List.map_cons, List.cons_append, Abi.heads, Abi.Arg.tail, List.length_nil, Nat.add_zero,
      ih, List.flatMap_cons, List.append_assoc]
    rfl

/-- A deposit followed by raw data is decoded. -/
theorem decodePackedDeposit_run (standard : libcmt.Standard) {statics : List Static}
    {writeExec : AbiBytes → Members → Members} {type : InputType} {bytes exec : List UInt8}
    {change : Members → Members} {returned : Session → Members → Prop}
    (spells : Spells statics bytes change)
    (sized : payload.length.toNat = (bytes ++ exec).length)
    (holds : Cells.Holds memory payload.data (bytes ++ exec))
    (returns : ∀ data, data.Denotes memory exec →
      returned { session with input := { session.input with type := type } }
        (writeExec data (change members))) :
    ∃ decoded written, (decodePackedDeposit libcmt memory statics writeExec type payload).run
        (session, members) = .ok () (decoded, written) ∧ decoded.input.type = type ∧
      returned decoded written := by
  rw [List.length_append] at sized
  obtain ⟨fields, raw⟩ := (Cells.holds_append _ _).mp holds
  rw [← BitVec.add_zero payload.data] at fields
  have read := standard.getStatics_run spells
    (show 0 + bytes.length ≤ payload.length.toNat by omega) fields session members
  rw [Nat.zero_add] at read
  have ordered : ¬(payload.from bytes.length).stop < (payload.from bytes.length).begin := by
    have fits : Fits (payload.from bytes.length) 0 := fits_from (by omega)
    exact BitVec.not_lt.mpr (BitVec.le_def.mpr fits)
  have denotes : AbiBytes.Denotes ⟨libcmt.bufLength (payload.from bytes.length),
      (payload.from bytes.length).begin⟩ memory exec := by
    constructor
    · rw [standard.bufLength_from (by omega)]
      omega
    · exact raw
  refine ⟨{ session with input := { session.input with type := type } }, _, ?_, rfl,
    returns _ denotes⟩
  simp only [decodePackedDeposit, Exec.bind_run, standard.bufInit_whole, read,
    Outcome.andThen_ok, getBytesPacked, Exec.refuseIf_run, if_neg ordered, Exec.pure_run,
    fill_run, storeType_run]

/-- A deposit followed by a frame with two byte strings is decoded. -/
theorem decodeFramedDeposit_run (standard : libcmt.Standard) {statics : List Static}
    {writeBase writeExec : AbiBytes → Members → Members} {type : InputType}
    {bytes base exec : List UInt8} {change : Members → Members}
    {returned : Session → Members → Prop}
    (spells : Spells statics bytes change)
    (sized : payload.length.toNat =
      (bytes ++ Abi.encode [.ofBytes base, .ofBytes exec]).length)
    (holds : Cells.Holds memory payload.data
      (bytes ++ Abi.encode [.ofBytes base, .ofBytes exec]))
    (returns : ∀ baseData execData, baseData.Denotes memory base →
      execData.Denotes memory exec →
        returned { session with input := { session.input with type := type } }
          (writeExec execData (writeBase baseData (change members)))) :
    ∃ decoded written, (decodeFramedDeposit libcmt memory statics writeBase writeExec type
        payload).run (session, members) = .ok () (decoded, written) ∧
      decoded.input.type = type ∧ returned decoded written := by
  rw [List.length_append] at sized
  obtain ⟨fields, args⟩ := (Cells.holds_append _ _).mp holds
  rw [← BitVec.add_zero payload.data] at fields
  have read := standard.getStatics_run spells
    (show 0 + bytes.length ≤ payload.length.toNat by omega) fields session members
  rw [Nat.zero_add] at read
  have heads : 64 ≤ (Abi.encode [.ofBytes base, .ofBytes exec]).length := by
    rw [Abi.length_encode]
    exact Nat.le_add_right _ _
  have offsetBase := standard.getBytesS_from
    (show bytes.length + 32 ≤ payload.length.toNat by omega)
  have offsetExec := standard.getBytesS_from
    (show bytes.length + 32 + 32 ≤ payload.length.toNat by omega)
  obtain ⟨baseData, baseRead, baseDenotes, _⟩ :=
    standard.getBytesD_arg args 0 rfl (Nat.le_of_eq sized.symm)
  obtain ⟨execData, execRead, execDenotes, _⟩ :=
    standard.getBytesD_arg args 1 rfl (Nat.le_of_eq sized.symm)
  rw [Nat.mul_zero, Nat.add_zero] at baseRead
  rw [Nat.mul_one] at execRead
  refine ⟨{ session with input := { session.input with type := type } }, _, ?_, rfl,
    returns _ _ baseDenotes execDenotes⟩
  simp only [decodeFramedDeposit, Exec.bind_run, standard.bufInit_whole, read, Outcome.andThen_ok,
    standard.bufInit_again, standard.markFrame, require_zero, offsetBase, offsetExec, baseRead,
    execRead, fill_run, storeType_run]

/-- A withdrawal or a transfer without lists is decoded. -/
theorem decodeCall_run (standard : libcmt.Standard) {originalFunsel : UInt32}
    {statics : List Static} {writeExec : AbiBytes → Members → Members} {type : InputType}
    {exec : List UInt8} {change : Members → Members} {returned : Session → Members → Prop}
    (words : List Bytes32) (spells : Spells statics (words.flatMap List.Vector.toList) change)
    (sized : payload.length.toNat = (selectorBytes originalFunsel ++
      Abi.encode (words.map .word ++ [.ofBytes exec])).length)
    (holds : Cells.Holds memory payload.data (selectorBytes originalFunsel ++
      Abi.encode (words.map .word ++ [.ofBytes exec])))
    (returns : ∀ data, data.Denotes memory exec →
      returned { session with input := { session.input with type := type } }
        (writeExec data (change members))) :
    ∃ decoded written, (decodeCall libcmt memory originalFunsel statics writeExec type
        payload).run (session, members) = .ok () (decoded, written) ∧
      decoded.input.type = type ∧ returned decoded written := by
  rw [List.length_append] at sized
  change _ = 4 + _ at sized
  obtain ⟨selector, args⟩ := (Cells.holds_append _ _).mp holds
  change Cells.Holds memory (payload.data + BitVec.ofNat 64 4) _ at args
  have heads : 32 * words.length + 32 ≤
      (Abi.encode (words.map .word ++ [.ofBytes exec])).length := by
    rw [Abi.length_encode, List.length_append, List.length_map, List.length_singleton]
    omega
  have fields : Cells.Holds memory (payload.data + BitVec.ofNat 64 4)
      (words.flatMap List.Vector.toList) := by
    have front := args
    rw [Abi.encode, heads_words, List.append_assoc] at front
    exact ((Cells.holds_append _ _).mp front).1
  have read := standard.getStatics_run spells
    (show 4 + (words.flatMap List.Vector.toList).length ≤ _ by rw [Abi.length_words]; omega) fields
    session members
  rw [Abi.length_words] at read
  have offset := standard.getBytesS_from
    (show 4 + 32 * words.length + 32 ≤ payload.length.toNat by omega)
  have last : (words.map Abi.Arg.word ++ [.ofBytes exec])[words.length]? =
      some (.ofBytes exec) := by
    rw [List.getElem?_append_right (Nat.le_of_eq (List.length_map _)), List.length_map,
      Nat.sub_self]
    rfl
  obtain ⟨data, dataRead, denotes, _⟩ :=
    standard.getBytesD_arg args words.length last (Nat.le_of_eq sized.symm)
  refine ⟨{ session with input := { session.input with type := type } }, _, ?_, rfl,
    returns _ denotes⟩
  simp only [decodeCall, Exec.bind_run, standard.checkFunsel_whole (by omega) selector,
    require_zero, Outcome.andThen_ok, standard.markFrame, read, offset, dataRead, fill_run,
    storeType_run]

/-- The lists behind the heads of two list arguments are read, each into its member. -/
theorem getBatchLists_run (standard : libcmt.Standard) {frame : ℕ} {args : List Abi.Arg}
    {ids amounts : List Bytes32}
    (holds : Cells.Holds memory (payload.data + BitVec.ofNat 64 frame) (Abi.encode args))
    (fits : frame + (Abi.encode args).length ≤ payload.length.toNat) (index : ℕ)
    (foundIds : args[index]? = some (.words ids))
    (foundAmounts : args[index + 1]? = some (.words amounts))
    (paired : ids.length = amounts.length)
    (storeTokenIds storeAmounts : U256List → ParserInput → ParserInput) (session : Session) :
    ∃ idList amountList words, (getBatchLists libcmt memory (payload.from frame)
        (payload.word (frame + 32 * index)) (payload.word (frame + 32 * (index + 1)))
        storeTokenIds storeAmounts).run session =
        .ok () ⟨storeAmounts amountList (storeTokenIds idList session.input), words⟩ ∧
      idList.Denotes memory ids ∧ amountList.Denotes memory amounts := by
  obtain ⟨idList, idWords, idRun, idDenotes, _⟩ :=
    standard.getUint256List_arg holds index foundIds fits session
  obtain ⟨amountList, amountWords, amountRun, amountDenotes, _⟩ :=
    standard.getUint256List_arg holds (index + 1) foundAmounts fits
      ⟨storeTokenIds idList session.input, idWords⟩
  have same : ¬idList.length ≠ amountList.length := by
    apply not_not.mpr
    apply BitVec.eq_of_toNat_eq
    rw [idDenotes.1, amountDenotes.1, paired]
  refine ⟨idList, amountList, amountWords, ?_, idDenotes, amountDenotes⟩
  simp only [getBatchLists, Exec.bind_run, idRun, Outcome.andThen_ok, check_zero, store,
    Exec.update_run, amountRun, Exec.refuseIf_run, if_neg same]

/-- The lists and the byte string behind three heads are read, each into its member. -/
theorem getListsAndExec_run (standard : libcmt.Standard) {frame : ℕ} {args : List Abi.Arg}
    {ids amounts : List Bytes32} {exec : List UInt8}
    (holds : Cells.Holds memory (payload.data + BitVec.ofNat 64 frame) (Abi.encode args))
    (fits : frame + (Abi.encode args).length ≤ payload.length.toNat) (index : ℕ)
    (foundIds : args[index]? = some (.words ids))
    (foundAmounts : args[index + 1]? = some (.words amounts))
    (foundExec : args[index + 2]? = some (.ofBytes exec)) (paired : ids.length = amounts.length)
    (storeTokenIds storeAmounts : U256List → ParserInput → ParserInput)
    (storeExec : AbiBytes → ParserInput → ParserInput) (session : Session) :
    ∃ idList amountList data words, (getListsAndExec libcmt memory (payload.from frame)
        (payload.from (frame + 32 * index)) storeTokenIds storeAmounts storeExec).run session =
        .ok () ⟨storeExec data (storeAmounts amountList (storeTokenIds idList session.input)),
          words⟩ ∧
      idList.Denotes memory ids ∧ amountList.Denotes memory amounts ∧
        data.Denotes memory exec := by
  obtain ⟨idList, amountList, words, run, idDenotes, amountDenotes⟩ := getBatchLists_run standard
    holds fits index foundIds foundAmounts paired storeTokenIds storeAmounts session
  obtain ⟨data, dataRead, dataDenotes, _⟩ := standard.getBytesD_arg holds (index + 2) foundExec fits
  have room := head_add_le foundExec
  have offsetIds := standard.getBytesS_from
    (show frame + 32 * index + 32 ≤ payload.length.toNat by omega)
  have offsetAmounts := standard.getBytesS_from
    (show frame + 32 * (index + 1) + 32 ≤ payload.length.toNat by omega)
  have offsetExec := standard.getBytesS_from
    (show frame + 32 * (index + 2) + 32 ≤ payload.length.toNat by omega)
  refine ⟨idList, amountList, data, words, ?_, idDenotes, amountDenotes, dataDenotes⟩
  have next (position : ℕ) : frame + 32 * position + 32 = frame + 32 * (position + 1) := by ring
  rw [next] at offsetIds offsetAmounts
  simp only [getListsAndExec, Exec.bind_run, offsetIds, check_zero, Outcome.andThen_ok,
    offsetAmounts, offsetExec, run, dataRead, store, Exec.update_run]

/-- A canonical batch deposit is decoded. -/
theorem decodeErc1155BatchDeposit_run (standard : libcmt.Standard) (token sender : Address)
    (tokenIds amounts : List Bytes32) (paired : tokenIds.length = amounts.length)
    (base exec : List UInt8)
    (sized : payload.length.toNat =
      (Arguments.erc1155BatchDeposit token sender tokenIds amounts paired base
        exec).canonical.length)
    (holds : Cells.Holds memory payload.data
      (Arguments.erc1155BatchDeposit token sender tokenIds amounts paired base exec).canonical)
    (session : Session) :
    ∃ idList amountList baseData execData words,
      (decodeErc1155BatchDeposit libcmt memory payload).run session =
        .ok () ⟨{ session.input with
          type := .erc1155BatchDeposit
          erc1155BatchDeposit := ⟨sender, token, idList, amountList, baseData, execData⟩ }, words⟩ ∧
      idList.Denotes memory tokenIds ∧ amountList.Denotes memory amounts ∧
        baseData.Denotes memory base ∧ execData.Denotes memory exec := by
  obtain ⟨packed, args⟩ := (Cells.holds_append _ _).mp holds
  have length : [token.toList, sender.toList].flatten.length = 40 := by simp
  rw [Arguments.canonical, List.length_append, length] at sized
  rw [length] at args
  have first := ((Cells.holds_append _ _).mp packed).1
  rw [← BitVec.add_zero payload.data] at first
  have second := ((Cells.holds_append _ _).mp ((Cells.holds_append _ _).mp packed).2).1
  rw [List.Vector.toList_length] at second
  have heads : 128 ≤ (Abi.encode
      [.words tokenIds, .words amounts, .ofBytes base, .ofBytes exec]).length := by
    rw [Abi.length_encode]
    exact Nat.le_add_right _ _
  have fits := Nat.le_of_eq sized.symm
  have tokenRead (session : Session) := standard.getAddressPacked_from session
    (show 0 + 20 ≤ payload.length.toNat by omega) first
  have senderRead (session : Session) := standard.getAddressPacked_from session
    (show 20 + 20 ≤ payload.length.toNat by omega) second
  have offsetIds := standard.getBytesS_from (show 40 + 32 ≤ payload.length.toNat by omega)
  have offsetAmounts := standard.getBytesS_from (show 72 + 32 ≤ payload.length.toNat by omega)
  have offsetBase := standard.getBytesS_from (show 104 + 32 ≤ payload.length.toNat by omega)
  have offsetExec := standard.getBytesS_from (show 136 + 32 ≤ payload.length.toNat by omega)
  obtain ⟨baseData, baseRead, baseDenotes, _⟩ := standard.getBytesD_arg args 2 rfl fits
  obtain ⟨execData, execRead, execDenotes, _⟩ := standard.getBytesD_arg args 3 rfl fits
  obtain ⟨idList, amountList, words, run, idDenotes, amountDenotes⟩ := getBatchLists_run standard
    args fits 0 rfl rfl paired
    (fun list input => { input with
      erc1155BatchDeposit := { input.erc1155BatchDeposit with tokenIds := list } })
    (fun list input => { input with
      erc1155BatchDeposit := { input.erc1155BatchDeposit with amounts := list } })
    { session with input := { session.input with
      erc1155BatchDeposit :=
        { session.input.erc1155BatchDeposit with token := token, sender := sender } } }
  refine ⟨idList, amountList, baseData, execData, words, ?_, idDenotes, amountDenotes,
    baseDenotes, execDenotes⟩
  -- The packed fields come first, so that the frame is a plain buffer in what is left.
  simp only [decodeErc1155BatchDeposit, Exec.bind_run, standard.bufInit_whole, tokenRead,
    senderRead, Outcome.andThen_ok, store, Exec.update_run, standard.bufInit_again]
  simp only [standard.markFrame, check_zero, offsetIds, offsetAmounts, offsetBase, offsetExec, run,
    baseRead, execRead, Exec.bind_run, Outcome.andThen_ok, Exec.update_run]

/-- A canonical batch withdrawal is decoded. -/
theorem decodeErc1155BatchWithdrawal_run (standard : libcmt.Standard) (token : Address)
    (tokenIds amounts : List Bytes32) (paired : tokenIds.length = amounts.length)
    (exec : List UInt8)
    (sized : payload.length.toNat =
      (Arguments.erc1155BatchWithdrawal token tokenIds amounts paired exec).canonical.length)
    (holds : Cells.Holds memory payload.data
      (Arguments.erc1155BatchWithdrawal token tokenIds amounts paired exec).canonical)
    (session : Session) :
    ∃ idList amountList data words,
      (decodeErc1155BatchWithdrawal libcmt memory payload).run session =
        .ok () ⟨{ session.input with
          type := .erc1155BatchWithdrawal
          erc1155BatchWithdrawal := ⟨token, idList, amountList, data⟩ }, words⟩ ∧
      idList.Denotes memory tokenIds ∧ amountList.Denotes memory amounts ∧
        data.Denotes memory exec := by
  obtain ⟨selector, args⟩ := (Cells.holds_append _ _).mp holds
  change Cells.Holds memory (payload.data + BitVec.ofNat 64 4) _ at args
  rw [Arguments.canonical, List.length_append] at sized
  change _ = 4 + _ at sized
  have heads : 128 ≤ (Abi.encode
      [.word (walletId token), .words tokenIds, .words amounts, .ofBytes exec]).length := by
    rw [Abi.length_encode]
    exact Nat.le_add_right _ _
  have tokenRead := standard.getAddress_from (show 4 + 32 ≤ payload.length.toNat by omega)
    (holds_head_at args 0 rfl)
  obtain ⟨idList, amountList, data, words, run, idDenotes, amountDenotes, denotes⟩ :=
    getListsAndExec_run standard args (Nat.le_of_eq sized.symm) 1 rfl rfl rfl paired
      (fun list input => { input with
        erc1155BatchWithdrawal := { input.erc1155BatchWithdrawal with tokenIds := list } })
      (fun list input => { input with
        erc1155BatchWithdrawal := { input.erc1155BatchWithdrawal with amounts := list } })
      (fun exec input => { input with
        erc1155BatchWithdrawal := { input.erc1155BatchWithdrawal with execLayerData := exec } })
      { session with input := { session.input with
        erc1155BatchWithdrawal := { session.input.erc1155BatchWithdrawal with token := token } } }
  refine ⟨idList, amountList, data, words, ?_, idDenotes, amountDenotes, denotes⟩
  simp only [decodeErc1155BatchWithdrawal, Exec.bind_run,
    standard.checkFunsel_whole (by omega) selector, check_zero, Outcome.andThen_ok,
    standard.markFrame, tokenRead, store, Exec.update_run, run]

/-- A canonical batch transfer is decoded. -/
theorem decodeErc1155BatchTransfer_run (standard : libcmt.Standard) (token : Address)
    (receiver : Bytes32) (tokenIds amounts : List Bytes32)
    (paired : tokenIds.length = amounts.length) (exec : List UInt8)
    (sized : payload.length.toNat =
      (Arguments.erc1155BatchTransfer token receiver tokenIds amounts paired
        exec).canonical.length)
    (holds : Cells.Holds memory payload.data
      (Arguments.erc1155BatchTransfer token receiver tokenIds amounts paired exec).canonical)
    (session : Session) :
    ∃ idList amountList data words,
      (decodeErc1155BatchTransfer libcmt memory payload).run session =
        .ok () ⟨{ session.input with
          type := .erc1155BatchTransfer
          erc1155BatchTransfer := ⟨receiver, token, idList, amountList, data⟩ }, words⟩ ∧
      idList.Denotes memory tokenIds ∧ amountList.Denotes memory amounts ∧
        data.Denotes memory exec := by
  obtain ⟨selector, args⟩ := (Cells.holds_append _ _).mp holds
  change Cells.Holds memory (payload.data + BitVec.ofNat 64 4) _ at args
  rw [Arguments.canonical, List.length_append] at sized
  change _ = 4 + _ at sized
  have heads : 160 ≤ (Abi.encode [.word (walletId token), .word receiver, .words tokenIds,
      .words amounts, .ofBytes exec]).length := by
    rw [Abi.length_encode]
    exact Nat.le_add_right _ _
  have tokenRead := standard.getAddress_from (show 4 + 32 ≤ payload.length.toNat by omega)
    (holds_head_at args 0 rfl)
  have receiverRead := standard.getUint256_from (show 36 + 32 ≤ payload.length.toNat by omega)
    (holds_head_at args 1 rfl)
  obtain ⟨idList, amountList, data, words, run, idDenotes, amountDenotes, denotes⟩ :=
    getListsAndExec_run standard args (Nat.le_of_eq sized.symm) 2 rfl rfl rfl paired
      (fun list input => { input with
        erc1155BatchTransfer := { input.erc1155BatchTransfer with tokenIds := list } })
      (fun list input => { input with
        erc1155BatchTransfer := { input.erc1155BatchTransfer with amounts := list } })
      (fun exec input => { input with
        erc1155BatchTransfer := { input.erc1155BatchTransfer with execLayerData := exec } })
      { session with input := { session.input with
        erc1155BatchTransfer :=
          { session.input.erc1155BatchTransfer with token := token, receiver := receiver } } }
  refine ⟨idList, amountList, data, words, ?_, idDenotes, amountDenotes, denotes⟩
  simp only [decodeErc1155BatchTransfer, Exec.bind_run,
    standard.checkFunsel_whole (by omega) selector, check_zero, Outcome.andThen_ok,
    standard.markFrame, tokenRead, receiverRead, store, Exec.update_run, run]

end

/-- Decoding inverts the canonical encoding: a canonical payload is decoded as an input of its
type, and the input has exactly its arguments. -/
theorem decodeAdvance_canonical {libcmt : Libcmt} (standard : libcmt.Standard)
    (arguments : Arguments) {memory : Memory} {payload : Payload}
    (sized : payload.length.toNat = arguments.canonical.length)
    (holds : Cells.Holds memory payload.data arguments.canonical) (session : Session)
    (members : Members) :
    ∃ decoded written, (decodeAdvance libcmt memory arguments.type payload).run
        (session, members) = .ok () (decoded, written) ∧
      decoded.input.type = arguments.type ∧
        arguments.ReturnedIn memory decoded.input written := by
  cases arguments with
  | etherDeposit sender amount exec =>
    rw [Arguments.type, decodeAdvance, decodeEtherDeposit]
    exact decodePackedDeposit_run standard
      (.packed _ sender (.uint256 _ _ amount .nil))
      sized holds fun _ denotes => ⟨rfl, rfl, denotes⟩
  | erc20Deposit token sender amount exec =>
    rw [Arguments.type, decodeAdvance, decodeErc20Deposit]
    exact decodePackedDeposit_run standard
      (.packed _ token (.packed _ sender (.uint256 _ _ amount .nil)))
      sized holds fun _ denotes => ⟨rfl, rfl, rfl, denotes⟩
  | erc721Deposit token sender tokenId base exec =>
    rw [Arguments.type, decodeAdvance, decodeErc721Deposit]
    exact decodeFramedDeposit_run standard
      (.packed _ token (.packed _ sender (.uint256 _ _ tokenId .nil)))
      sized holds fun _ _ baseDenotes execDenotes => ⟨rfl, rfl, rfl, baseDenotes, execDenotes⟩
  | erc1155SingleDeposit token sender tokenId amount base exec =>
    rw [Arguments.type, decodeAdvance, decodeErc1155SingleDeposit]
    exact decodeFramedDeposit_run standard
      (.packed _ token (.packed _ sender (.uint256 _ _ tokenId (.uint256 _ _ amount .nil))))
      sized holds fun _ _ baseDenotes execDenotes => ⟨rfl, rfl, rfl, rfl, baseDenotes, execDenotes⟩
  | erc1155BatchDeposit token sender tokenIds amounts paired base exec =>
    obtain ⟨_, _, _, _, words, run, idDenotes, amountDenotes, baseDenotes, denotes⟩ :=
      decodeErc1155BatchDeposit_run standard token sender tokenIds amounts paired base exec sized
        holds session
    rw [Arguments.type, decodeAdvance, Exec.onFirst_run, run]
    exact ⟨_, members, rfl, rfl, rfl, rfl, idDenotes, amountDenotes, baseDenotes, denotes⟩
  | etherWithdrawal amount exec =>
    rw [Arguments.type, decodeAdvance, decodeEtherWithdrawal]
    exact decodeCall_run standard [amount]
      (.uint256 _ _ amount .nil)
      sized holds fun _ denotes => ⟨rfl, denotes⟩
  | erc20Withdrawal token amount exec =>
    rw [Arguments.type, decodeAdvance, decodeErc20Withdrawal]
    exact decodeCall_run standard [walletId token, amount]
      (.address _ _ token (.uint256 _ _ amount .nil))
      sized holds fun _ denotes => ⟨rfl, rfl, denotes⟩
  | erc721Withdrawal token tokenId exec =>
    rw [Arguments.type, decodeAdvance, decodeErc721Withdrawal]
    exact decodeCall_run standard [walletId token, tokenId]
      (.address _ _ token (.uint256 _ _ tokenId .nil))
      sized holds fun _ denotes => ⟨rfl, rfl, denotes⟩
  | erc1155SingleWithdrawal token tokenId amount exec =>
    rw [Arguments.type, decodeAdvance, decodeErc1155SingleWithdrawal]
    exact decodeCall_run standard [walletId token, tokenId, amount]
      (.address _ _ token (.uint256 _ _ tokenId (.uint256 _ _ amount .nil)))
      sized holds fun _ denotes => ⟨rfl, rfl, rfl, denotes⟩
  | erc1155BatchWithdrawal token tokenIds amounts paired exec =>
    obtain ⟨_, _, _, words, run, idDenotes, amountDenotes, denotes⟩ :=
      decodeErc1155BatchWithdrawal_run standard token tokenIds amounts paired exec sized holds
        session
    rw [Arguments.type, decodeAdvance, Exec.onFirst_run, run]
    exact ⟨_, members, rfl, rfl, rfl, idDenotes, amountDenotes, denotes⟩
  | etherTransfer receiver amount exec =>
    rw [Arguments.type, decodeAdvance, decodeEtherTransfer]
    exact decodeCall_run standard [receiver, amount]
      (.uint256 _ _ receiver (.uint256 _ _ amount .nil))
      sized holds fun _ denotes => ⟨rfl, rfl, denotes⟩
  | erc20Transfer token receiver amount exec =>
    rw [Arguments.type, decodeAdvance, decodeErc20Transfer]
    exact decodeCall_run standard [walletId token, receiver, amount]
      (.address _ _ token (.uint256 _ _ receiver (.uint256 _ _ amount .nil)))
      sized holds fun _ denotes => ⟨rfl, rfl, rfl, denotes⟩
  | erc721Transfer token receiver tokenId exec =>
    rw [Arguments.type, decodeAdvance, decodeErc721Transfer]
    exact decodeCall_run standard [walletId token, receiver, tokenId]
      (.address _ _ token (.uint256 _ _ receiver (.uint256 _ _ tokenId .nil)))
      sized holds fun _ denotes => ⟨rfl, rfl, rfl, denotes⟩
  | erc1155SingleTransfer token receiver tokenId amount exec =>
    rw [Arguments.type, decodeAdvance, decodeErc1155SingleTransfer]
    exact decodeCall_run standard [walletId token, receiver, tokenId, amount]
      (.address _ _ token (.uint256 _ _ receiver (.uint256 _ _ tokenId (.uint256 _ _ amount .nil))))
      sized holds fun _ denotes => ⟨rfl, rfl, rfl, rfl, denotes⟩
  | erc1155BatchTransfer token receiver tokenIds amounts paired exec =>
    obtain ⟨_, _, _, words, run, idDenotes, amountDenotes, denotes⟩ :=
      decodeErc1155BatchTransfer_run standard token receiver tokenIds amounts paired exec sized
        holds session
    rw [Arguments.type, decodeAdvance, Exec.onFirst_run, run]
    exact ⟨_, members, rfl, rfl, rfl, rfl, idDenotes, amountDenotes, denotes⟩

/-- A transfer of two tokens with three bytes for the execution layer. -/
def twoTokens : Arguments :=
  .erc1155BatchTransfer (zeros 20) (zeros 32) [zeros 32, zeros 32] [zeros 32, zeros 32] rfl [1, 2, 3]

/-- Where the transfer's payload lies. -/
def twoTokensPayload : Payload := ⟨420, 4096, by decide⟩

/-- The transfer's payload has the length of its encoding. -/
theorem twoTokens_sized : twoTokensPayload.length.toNat = twoTokens.canonical.length := by
  decide +kernel

/-- The canonical payload of the transfer, in a memory of zeros, is decoded to it. -/
theorem twoTokens_decoded :
    ∃ decoded written, (decodeAdvance Libcmt.exact
        (Cells.write (fun _ => 0) twoTokensPayload.data twoTokens.canonical) twoTokens.type
        twoTokensPayload).run (⟨.zero, []⟩, .zero) = .ok () (decoded, written) ∧
      decoded.input.type = twoTokens.type ∧
        twoTokens.ReturnedIn (Cells.write (fun _ => 0) twoTokensPayload.data twoTokens.canonical)
          decoded.input written := by
  have short : twoTokens.canonical.length ≤ 2 ^ 64 := by
    rw [← twoTokens_sized]
    decide
  exact decodeAdvance_canonical Libcmt.exact_standard twoTokens twoTokens_sized
    (Cells.holds_write _ _ short) _ _

end Libcma.Parser
