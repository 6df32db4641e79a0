import Libcma.Parser.VoucherSize

/-!
# Reading a voucher's payload back

`readSingleVoucher` and `readBatchVoucher` are not in the source: they are the standard way to read
the two ERC1155 payloads, the selector first and then the arguments from the frame after it, the
lists through `cma_abi_get_uint256_list_d`. `readsBack_single` and `readsBack_batch` say that a
payload that an encoder returned is read as the request. An encoder that returns had room for the
payload, also where the test of its buffer is wrong (`putTails_room`), as long as no address of the
payload wraps.
-/

/-- No address is in both ranges. -/
def Span.Apart {width : ℕ} (left right : Span width) : Prop :=
  ∀ address, ¬(left.Holds address ∧ right.Holds address)

/-- A range that begins where another has ended is apart from it. -/
theorem Span.apart_of_le {width : ℕ} {left right : Span width} (ordered : left.stop ≤ right.begin) :
    left.Apart right := by
  intro address both
  have before : address < left.stop := both.1.2
  have behind : right.begin ≤ address := both.2.1
  exact absurd before (BitVec.not_lt.mpr (BitVec.le_trans ordered behind))

namespace Libcma.Parser

/-- The length word and the elements. -/
def U256List.region (list : U256List) : Span 64 :=
  ⟨list.data - u256Length, list.data + list.length * u256Length⟩

/-- The length word and the bytes in whole words. -/
def AbiBytes.region (bytes : AbiBytes) : Span 64 :=
  ⟨bytes.data - u256Length, bytes.data + wholeWords bytes.length⟩

/-- The arguments of a single transfer. -/
structure SingleCall where
  /-- The sender. -/
  sender : Address
  /-- The receiver. -/
  receiver : Address
  /-- The token id. -/
  tokenId : Bytes32
  /-- The amount. -/
  amount : Bytes32
  /-- The data. -/
  data : AbiBytes

/-- The arguments of a batch transfer. -/
structure BatchCall where
  /-- The sender. -/
  sender : Address
  /-- The receiver. -/
  receiver : Address
  /-- The token ids. -/
  tokenIds : U256List
  /-- The amounts. -/
  amounts : U256List
  /-- The data. -/
  data : AbiBytes

section

variable (libcmt : Libcmt) (memory : Memory)

/-- Read the selector; the frame after it. -/
def readFunsel (payload : Payload) (funsel : UInt32) : Decoder Buf := do
  let buf := libcmt.bufInit payload.length payload.data
  let checked := libcmt.checkFunsel memory buf (convertToCmtFunsel libcmt funsel)
  check checked.code "Invalid funsel"
  pure checked.out

/-- Read the call of a single transfer. -/
def readSingleVoucher (payload : Payload) : Decoder SingleCall := do
  let frame ← readFunsel libcmt memory payload erc1155SingleTransferFunsel
  let sender := libcmt.getAddress memory frame
  check sender.code "Error getting sender"
  let receiver := libcmt.getAddress memory sender.out.2
  check receiver.code "Error getting receiver"
  let tokenId := libcmt.getUint256 memory receiver.out.2
  check tokenId.code "Error getting token id"
  let amount := libcmt.getUint256 memory tokenId.out.2
  check amount.code "Error getting amount"
  let offset := libcmt.getBytesS amount.out.2
  check offset.code "Error getting bytes offset"
  let data := libcmt.getBytesD memory frame offset.out.lhs
  check data.code "Error getting bytes"
  pure ⟨sender.out.1, receiver.out.1, tokenId.out.1, amount.out.1, data.out⟩

/-- Read the call of a batch transfer. -/
def readBatchVoucher (payload : Payload) : Decoder BatchCall := do
  let frame ← readFunsel libcmt memory payload erc1155BatchTransferFunsel
  let sender := libcmt.getAddress memory frame
  check sender.code "Error getting sender"
  let receiver := libcmt.getAddress memory sender.out.2
  check receiver.code "Error getting receiver"
  let offsetTokenId := libcmt.getBytesS receiver.out.2
  check offsetTokenId.code "Error getting bytes token id offset"
  let offsetAmount := libcmt.getBytesS offsetTokenId.out.rhs
  check offsetAmount.code "Error getting bytes amount offset"
  let offsetExec := libcmt.getBytesS offsetAmount.out.rhs
  check offsetExec.code "Error getting bytes exec offset"
  let tokenIds ← getUint256List libcmt memory frame offsetTokenId.out.lhs
  check tokenIds.code "Error getting token ids"
  let amounts ← getUint256List libcmt memory frame offsetAmount.out.lhs
  check amounts.code "Error getting amounts"
  let data := libcmt.getBytesD memory frame offsetExec.out.lhs
  check data.code "Error getting bytes"
  pure ⟨sender.out.1, receiver.out.1, tokenIds.out, amounts.out, data.out⟩

end

/-- The call read is the one requested. -/
structure SingleCall.Matches (call : SingleCall) (memory : Memory) (appAddress : Address)
    (request : VoucherData) : Prop where
  /-- The application sends. -/
  sender : call.sender = appAddress
  /-- The receiver is the request's. -/
  receiver : call.receiver = request.receiver
  /-- The token id is the request's. -/
  tokenId : call.tokenId = request.erc1155Single.tokenId
  /-- The amount is the request's. -/
  amount : call.amount = request.erc1155Single.amount
  /-- The data are the request's. -/
  data : call.data.Denotes memory request.erc1155Single.execLayerData.items

/-- The call read is the one requested, and its dynamic parts do not overlap. -/
structure BatchCall.Matches (call : BatchCall) (memory : Memory) (appAddress : Address)
    (request : VoucherData) : Prop where
  /-- The application sends. -/
  sender : call.sender = appAddress
  /-- The receiver is the request's. -/
  receiver : call.receiver = request.receiver
  /-- The token ids are the request's. -/
  tokenIds : call.tokenIds.Denotes memory request.erc1155Batch.tokenIds.items
  /-- The amounts are the request's. -/
  amounts : call.amounts.Denotes memory request.erc1155Batch.amounts.items
  /-- The data are the request's. -/
  data : call.data.Denotes memory request.erc1155Batch.execLayerData.items
  /-- The token ids and the amounts do not overlap. -/
  idsAmounts : call.tokenIds.region.Apart call.amounts.region
  /-- The token ids and the data do not overlap. -/
  idsData : call.tokenIds.region.Apart call.data.region
  /-- The amounts and the data do not overlap. -/
  amountsData : call.amounts.region.Apart call.data.region

section

variable {libcmt : Libcmt} {memory : Memory} {payload : Payload} {session : Session}

/-- The selector is read at the front of the payload. -/
theorem readFunsel_run (standard : libcmt.Standard) {funsel : UInt32}
    (fits : 4 ≤ payload.length.toNat)
    (holds : Cells.Holds memory payload.data (selectorBytes funsel)) :
    (readFunsel libcmt memory payload funsel).run session = .ok (payload.from 4) session := by
  simp only [readFunsel, Exec.bind_run, standard.checkFunsel_whole fits holds, check_zero,
    Outcome.andThen_ok, Exec.pure_run]

/-- A single payload is read as the call it encodes. -/
theorem readSingle_run (standard : libcmt.Standard) (appAddress : Address) (request : VoucherData)
    {padding : List UInt8}
    (fits : 4 + (Abi.encode (singleArgs appAddress request padding)).length ≤
      payload.length.toNat)
    (holds : Cells.Holds memory payload.data (selectorBytes erc1155SingleTransferFunsel ++
      Abi.encode (singleArgs appAddress request padding))) (session : Session) :
    ∃ call, (readSingleVoucher libcmt memory payload).run session = .ok call session ∧
      call.Matches memory appAddress request := by
  have heads : 160 ≤ (Abi.encode (singleArgs appAddress request padding)).length := by
    rw [Abi.length_encode]
    exact Nat.le_add_right _ _
  obtain ⟨selector, args⟩ := (Cells.holds_append _ _).mp holds
  change Cells.Holds memory (payload.data + BitVec.ofNat 64 4) _ at args
  have sender := standard.getAddress_from (show 4 + 32 ≤ payload.length.toNat by omega)
    (holds_head_at args 0 rfl)
  have receiver := standard.getAddress_from (show 36 + 32 ≤ payload.length.toNat by omega)
    (holds_head_at args 1 rfl)
  have tokenId := standard.getUint256_from (show 68 + 32 ≤ payload.length.toNat by omega)
    (holds_head_at args 2 rfl)
  have amount := standard.getUint256_from (show 100 + 32 ≤ payload.length.toNat by omega)
    (holds_head_at args 3 rfl)
  have offset := standard.getBytesS_from (show 132 + 32 ≤ payload.length.toNat by omega)
  obtain ⟨data, dataRead, dataDenotes, -⟩ := standard.getBytesD_arg args 4 rfl fits
  refine ⟨⟨appAddress, request.receiver, request.erc1155Single.tokenId,
    request.erc1155Single.amount, data⟩, ?_, rfl, rfl, rfl, rfl, dataDenotes⟩
  simp only [readSingleVoucher, Exec.bind_run, readFunsel_run standard (by omega) selector,
    Outcome.andThen_ok, sender, receiver, tokenId, amount, offset, check_zero, dataRead,
    Exec.pure_run]

/-- The region of a list read at a position. -/
theorem region_of_list {list : U256List} {items : List Bytes32} {position : ℕ}
    (denotes : list.Denotes memory items)
    (placed : list.data = payload.data + BitVec.ofNat 64 (position + 32)) :
    list.region = ⟨payload.data + BitVec.ofNat 64 position, payload.data +
      BitVec.ofNat 64 (position + (Abi.Arg.words items).tail.length)⟩ := by
  have count : list.length = BitVec.ofNat 64 items.length := by
    rw [← denotes.1, BitVec.ofNat_toNat, BitVec.setWidth_eq]
  have word : u256Length = BitVec.ofNat 64 32 := rfl
  rw [U256List.region, placed, count, word, Abi.Arg.length_tail_words, payload.data_add,
    add_sub_cancel_right, ← BitVec.ofNat_mul, ← payload.data_add, ← payload.data_add]
  have total : position + 32 + items.length * 32 = position + (32 + 32 * items.length) := by ring
  rw [total]

/-- The region of a byte string read at a position begins there. -/
theorem region_of_bytes {bytes : AbiBytes} {position : ℕ}
    (placed : bytes.data = payload.data + BitVec.ofNat 64 (position + 32)) :
    bytes.region.begin = payload.data + BitVec.ofNat 64 position := by
  have word : u256Length = BitVec.ofNat 64 32 := rfl
  rw [AbiBytes.region, placed, word, payload.data_add, add_sub_cancel_right]

/-- A batch payload is read as the call it encodes. -/
theorem readBatch_run (standard : libcmt.Standard) (appAddress : Address) (request : VoucherData)
    {padding : List UInt8}
    (fits : 4 + (Abi.encode (batchArgs appAddress request padding)).length ≤
      payload.length.toNat)
    (holds : Cells.Holds memory payload.data (selectorBytes erc1155BatchTransferFunsel ++
      Abi.encode (batchArgs appAddress request padding))) (session : Session) :
    ∃ call reached, (readBatchVoucher libcmt memory payload).run session = .ok call reached ∧
      call.Matches memory appAddress request := by
  have bound := payload.fits
  have heads : 160 ≤ (Abi.encode (batchArgs appAddress request padding)).length := by
    rw [Abi.length_encode]
    exact Nat.le_add_right _ _
  obtain ⟨selector, args⟩ := (Cells.holds_append _ _).mp holds
  change Cells.Holds memory (payload.data + BitVec.ofNat 64 4) _ at args
  have sender := standard.getAddress_from (show 4 + 32 ≤ payload.length.toNat by omega)
    (holds_head_at args 0 rfl)
  have receiver := standard.getAddress_from (show 36 + 32 ≤ payload.length.toNat by omega)
    (holds_head_at args 1 rfl)
  have offsetId := standard.getBytesS_from (show 68 + 32 ≤ payload.length.toNat by omega)
  have offsetAmount := standard.getBytesS_from (show 100 + 32 ≤ payload.length.toNat by omega)
  have offsetExec := standard.getBytesS_from (show 132 + 32 ≤ payload.length.toNat by omega)
  obtain ⟨ids, idWords, idsRun, idsDenote, idsPlaced⟩ :=
    standard.getUint256List_arg args 2 rfl fits session
  obtain ⟨amounts, amountWords, amountsRun, amountsDenote, amountsPlaced⟩ :=
    standard.getUint256List_arg args 3 rfl fits { session with lengthWords := idWords }
  obtain ⟨data, dataRead, dataDenotes, dataPlaced⟩ := standard.getBytesD_arg args 4 rfl fits
  have idsRegion := region_of_list idsDenote idsPlaced
  have amountsRegion := region_of_list amountsDenote amountsPlaced
  have dataBegin := region_of_bytes dataPlaced
  have second : Abi.tailOffset (batchArgs appAddress request padding) 3 = _ :=
    Abi.tailOffset_succ (show (batchArgs appAddress request padding)[2]? = _ from rfl)
  have third : Abi.tailOffset (batchArgs appAddress request padding) 4 = _ :=
    Abi.tailOffset_succ (show (batchArgs appAddress request padding)[3]? = _ from rfl)
  have last := Abi.tailOffset_add_le (show (batchArgs appAddress request padding)[4]? = _ from rfl)
  refine ⟨⟨appAddress, request.receiver, ids, amounts, data⟩,
    { session with lengthWords := amountWords }, ?_, ?_⟩
  · simp only [readBatchVoucher, Exec.bind_run, readFunsel_run standard (by omega) selector,
      Outcome.andThen_ok, sender, receiver, offsetId, offsetAmount, offsetExec, check_zero, idsRun,
      amountsRun, dataRead, Exec.pure_run]
  · constructor
    case sender => rfl
    case receiver => rfl
    case tokenIds => exact idsDenote
    case amounts => exact amountsDenote
    case data => exact dataDenotes
    case idsAmounts =>
      apply Span.apart_of_le
      rw [idsRegion, amountsRegion, second, Nat.add_assoc]
      exact BitVec.le_refl _
    case idsData =>
      apply Span.apart_of_le
      rw [idsRegion, dataBegin, BitVec.le_def, Span.toNat_add_ofNat (by omega),
        Span.toNat_add_ofNat (by omega)]
      omega
    case amountsData =>
      apply Span.apart_of_le
      rw [amountsRegion, dataBegin, third, Nat.add_assoc]
      exact BitVec.le_refl _

end

section

variable {libcmt : LibcmtPut} {payload : Payload} {draft after : Draft}

/-- A put that returned has succeeded. -/
theorem put_code {call : Memory → Returned (Memory × Buf)} {message : String} {rest : Buf}
    (returns : (put call message).run draft = .ok rest after) :
    (call draft.memory).code = 0 ∧ rest = (call draft.memory).out.2 ∧
      after.memory = (call draft.memory).out.1 := by
  simp only [put, Exec.bind_run, Exec.read_run, Outcome.andThen_ok, Exec.update_run] at returns
  obtain ⟨_, checked, passed, returns⟩ := Outcome.andThen_eq_ok returns
  obtain ⟨succeeds, rfl⟩ := Exec.refuseIf_eq_ok passed
  cases returns
  exact ⟨not_not.mp succeeds, rfl, rfl⟩

/-- The rest of a payload is a range. -/
theorem from_ordered {position : ℕ} (inside : position ≤ payload.length.toNat) :
    (payload.from position).begin ≤ (payload.from position).stop := by
  have fits : Fits (payload.from position) 0 := fits_from inside
  rw [Fits] at fits
  exact BitVec.le_def.mpr fits

/-- Bytes that fit behind a position are in the payload. -/
theorem room_of_fits {position count : ℕ} (inside : position ≤ payload.length.toNat)
    (fits : Fits (payload.from position) count) : position + count ≤ payload.length.toNat := by
  have bound := payload.fits
  change (payload.data + BitVec.ofNat 64 position).toNat + count ≤
    (payload.data + payload.length).toNat at fits
  rw [Span.toNat_add_ofNat (by omega), payload.toNat_stop] at fits
  omega

/-- A list that is put fits. -/
theorem putUint256List_room (standard : libcmt.Standard) (refuses : libcmt.Refuses)
    {position : ℕ} {offset frame : Buf} {memory : Memory} {list : SizedList Bytes32 32}
    (inside : position ≤ payload.length.toNat)
    (succeeds : (putUint256List libcmt memory (payload.from position) offset frame
      list.items).code = 0) :
    position + 32 + 32 * list.items.length ≤ payload.length.toNat := by
  have small := list.fits
  have size : BitVec.ofNat 64 list.items.length * u256Length =
      BitVec.ofNat 64 (32 * list.items.length) := by
    rw [Nat.mul_comm, BitVec.ofNat_mul]
    rfl
  have sizeNat : (BitVec.ofNat 64 (32 * list.items.length)).toNat = 32 * list.items.length :=
    Nat.mod_eq_of_lt (by omega)
  by_cases uintsFit : (libcmt.bufSplit (payload.from position) u256Length).code = 0
  · have room : position + 32 ≤ payload.length.toNat :=
      room_of_fits inside (refuses.bufSplit _ _ (from_ordered inside) uintsFit)
    have uints := standard.bufSplit_from room u256Length rfl
    by_cases outFits : (libcmt.bufSplit (payload.from (position + 32))
        (BitVec.ofNat 64 (32 * list.items.length))).code = 0
    · have fits := refuses.bufSplit _ _ (from_ordered room) outFits
      rw [sizeNat] at fits
      exact room_of_fits room fits
    · simp only [putUint256List, reserveUints, uints, size, ne_eq, outFits, not_true_eq_false,
        not_false_eq_true, if_false, if_true] at succeeds
  · simp only [putUint256List, reserveUints, ne_eq, uintsFit, not_false_eq_true,
      if_true] at succeeds

/-- Tails that were put had room. -/
theorem putTails_room (standard : libcmt.Standard) (refuses : libcmt.Refuses)
    {fields : Erc1155BatchVoucherFields} {offsetTokenId offsetAmount offsetExec : Buf}
    (aligned : fields.tokenIds.items.length = fields.amounts.items.length)
    (inside : 164 ≤ payload.length.toNat)
    (returns : (putTails libcmt (payload.from 164) offsetTokenId offsetAmount offsetExec
      (payload.from 4) fields).run draft = .ok () after) :
    260 + 64 * fields.tokenIds.items.length +
      Abi.paddedLength fields.execLayerData.items.length ≤ payload.length.toNat := by
  have small := paddedLength_le fields.execLayerData
  rw [putTails, Exec.bind_run] at returns
  obtain ⟨afterIds, listed, idsRun, returns⟩ := Outcome.andThen_eq_ok returns
  obtain ⟨idsCode, idsRest, -⟩ := put_code idsRun
  have idsRoom := putUint256List_room standard refuses inside idsCode
  rw [putUint256List_from standard _ (by decide) idsRoom] at idsRest
  subst idsRest
  rw [Exec.bind_run] at returns
  obtain ⟨afterAmounts, priced, amountsRun, returns⟩ := Outcome.andThen_eq_ok returns
  obtain ⟨amountsCode, amountsRest, -⟩ := put_code amountsRun
  have amountsRoom := putUint256List_room standard refuses idsRoom amountsCode
  rw [putUint256List_from standard _ (by omega) amountsRoom] at amountsRest
  subst amountsRest
  rw [Exec.bind_run] at returns
  obtain ⟨afterData, filled, dataRun, -⟩ := Outcome.andThen_eq_ok returns
  obtain ⟨dataCode, -, -⟩ := put_code dataRun
  have dataFits := refuses.putBytesD _ _ _ _ _ (from_ordered amountsRoom) (by omega) dataCode
  have dataRoom := room_of_fits amountsRoom dataFits
  omega

/-- A payload that was begun is given and passes the test. -/
theorem beginPayload_passes {leastLength : BitVec 64} {token : Address} {funsel : UInt32}
    {rest : Buf}
    (returns : (beginPayload libcmt leastLength token funsel).run draft = .ok rest after) :
    draft.voucher.payload.data ≠ 0 ∧ leastLength ≤ draft.voucher.payload.length := by
  rw [beginPayload, Exec.bind_run, Exec.read_run, Outcome.andThen_ok, Exec.bind_run] at returns
  obtain ⟨_, tested, given, returns⟩ := Outcome.andThen_eq_ok returns
  obtain ⟨nonNull, kept⟩ := Exec.refuseIf_eq_ok given
  rw [kept, Exec.bind_run] at returns
  obtain ⟨_, passed, long, -⟩ := Outcome.andThen_eq_ok returns
  exact ⟨nonNull, BitVec.not_lt.mp (Exec.refuseIf_eq_ok long).1⟩

/-- A batch encoder that returned had equal lists, and a given buffer with room for the payload that
passes its test. -/
theorem encodeBatch_room (standard : libcmt.Standard) (refuses : libcmt.Refuses)
    {appAddress : Address} {request : VoucherData}
    (returns : (encodeErc1155BatchVoucher libcmt appAddress request).run draft = .ok () after) :
    request.erc1155Batch.tokenIds.items.length = request.erc1155Batch.amounts.items.length ∧
      draft.voucher.payload.data ≠ 0 ∧
      request.payloadSize .erc1155Batch ≤ draft.voucher.payload.length.toNat ∧
      erc1155BatchVoucherPayloadMinSize + 2 * request.erc1155Batch.tokenIds.length + u256Length +
        wholeWords request.erc1155Batch.execLayerData.length ≤ draft.voucher.payload.length := by
  have begins := returns
  rw [encodeErc1155BatchVoucher, Exec.bind_run] at begins
  obtain ⟨_, tested, accepted, begins⟩ := Outcome.andThen_eq_ok begins
  obtain ⟨matched, kept⟩ := Exec.refuseIf_eq_ok accepted
  rw [kept, Exec.bind_run] at begins
  have aligned : request.erc1155Batch.tokenIds.items.length =
      request.erc1155Batch.amounts.items.length := by
    rw [← toNat_listLength, ← toNat_listLength, not_not.mp matched]
  obtain ⟨buf, begun, beginRun, -⟩ := Outcome.andThen_eq_ok begins
  obtain ⟨given, passes⟩ := beginPayload_passes beginRun
  have long := BitVec.le_def.mp passes
  rw [toNat_batchLeast, VoucherData.testedSize] at long
  have headFits : 164 ≤ draft.voucher.payload.length.toNat := by omega
  obtain ⟨reserved, _, _, _, _, _, _, run, -⟩ := encodeBatch_begins standard given rfl appAddress
    request aligned headFits passes
  have room := putTails_room standard refuses aligned headFits (run.symm.trans returns)
  exact ⟨aligned, given, room, passes⟩

/-- A single encoder that returned had a given buffer with room for the payload, which its test
asks for. -/
theorem encodeSingle_room {appAddress : Address} {request : VoucherData}
    (returns : (encodeErc1155SingleVoucher libcmt appAddress request).run draft = .ok () after) :
    draft.voucher.payload.data ≠ 0 ∧
      request.payloadSize .erc1155Single ≤ draft.voucher.payload.length.toNat ∧
      erc1155SingleVoucherPayloadMinSize + wholeWords request.erc1155Single.execLayerData.length ≤
        draft.voucher.payload.length := by
  rw [encodeErc1155SingleVoucher, Exec.bind_run] at returns
  obtain ⟨buf, begun, beginRun, -⟩ := Outcome.andThen_eq_ok returns
  obtain ⟨given, passes⟩ := beginPayload_passes beginRun
  have long := BitVec.le_def.mp passes
  rw [toNat_singleLeast] at long
  exact ⟨given, long, passes⟩

/-- The encoding of a single voucher's arguments has the size of the payload without selector. -/
theorem length_singleArgs (appAddress : Address) (request : VoucherData) {padding : List UInt8}
    (padded : padding.length =
      Abi.paddedLength request.erc1155Single.execLayerData.items.length -
        request.erc1155Single.execLayerData.items.length) :
    4 + (Abi.encode (singleArgs appAddress request padding)).length =
      request.payloadSize .erc1155Single := by
  have whole := (Abi.paddedLength_bounds request.erc1155Single.execLayerData.items.length).1
  have tail := Abi.Arg.length_tail_bytes request.erc1155Single.execLayerData.items padding
  have tails : Abi.tails (singleArgs appAddress request padding) =
      (Abi.Arg.bytes request.erc1155Single.execLayerData.items padding).tail :=
    List.append_nil _
  have size : request.payloadSize .erc1155Single = 4 + 6 * 32 +
    Abi.paddedLength request.erc1155Single.execLayerData.items.length := rfl
  have heads : (singleArgs appAddress request padding).length = 5 := rfl
  rw [Abi.length_encode, tails, heads]
  omega

/-- The encoding of a batch voucher's arguments has the size of the payload without selector. -/
theorem length_batchArgs (appAddress : Address) (request : VoucherData) {padding : List UInt8}
    (aligned : request.erc1155Batch.tokenIds.items.length =
      request.erc1155Batch.amounts.items.length)
    (padded : padding.length =
      Abi.paddedLength request.erc1155Batch.execLayerData.items.length -
        request.erc1155Batch.execLayerData.items.length) :
    4 + (Abi.encode (batchArgs appAddress request padding)).length =
      request.payloadSize .erc1155Batch := by
  have whole := (Abi.paddedLength_bounds request.erc1155Batch.execLayerData.items.length).1
  have ids := Abi.Arg.length_tail_words request.erc1155Batch.tokenIds.items
  have amounts := Abi.Arg.length_tail_words request.erc1155Batch.amounts.items
  have tail := Abi.Arg.length_tail_bytes request.erc1155Batch.execLayerData.items padding
  have tails : Abi.tails (batchArgs appAddress request padding) =
      (Abi.Arg.words request.erc1155Batch.tokenIds.items).tail ++
        ((Abi.Arg.words request.erc1155Batch.amounts.items).tail ++
          ((Abi.Arg.bytes request.erc1155Batch.execLayerData.items padding).tail ++ [])) := rfl
  have size : request.payloadSize .erc1155Batch = 4 + 8 * 32 +
    2 * 32 * request.erc1155Batch.tokenIds.items.length +
      Abi.paddedLength request.erc1155Batch.execLayerData.items.length := rfl
  have heads : (batchArgs appAddress request padding).length = 5 := rfl
  rw [Abi.length_encode, tails, heads, List.append_nil, List.length_append, List.length_append]
  omega

/-- The payload of a single voucher that an encoder returned is read as the request. -/
theorem readsBack_single (standard : libcmt.Standard) {appAddress : Address}
    {request : VoucherData}
    (returns : (encodeErc1155SingleVoucher libcmt appAddress request).run draft = .ok () after)
    (session : Session) :
    after.voucher.address = request.erc1155Single.token ∧ after.voucher.value = zeros 32 ∧
      ∃ call reached, (readSingleVoucher libcmt.toLibcmt after.memory after.voucher.payload).run
          session = .ok call reached ∧ call.Matches after.memory appAddress request := by
  obtain ⟨given, enough, passes⟩ := encodeSingle_room returns
  obtain ⟨written, padding, run, carries, padded⟩ :=
    encodes_single standard given rfl appAddress request enough passes
  obtain ⟨-, rfl⟩ := Outcome.ok.inj (run.symm.trans returns)
  have fits : 4 + (Abi.encode (singleArgs appAddress request padding)).length ≤
      written.voucher.payload.length.toNat := by
    rw [length_singleArgs appAddress request padded, carries.buffer]
    exact enough
  have holds := carries.holds
  rw [← carries.buffer] at holds
  obtain ⟨call, read, matched⟩ :=
    readSingle_run standard.toStandard appAddress request fits holds session
  exact ⟨carries.address, carries.value, call, session, read, matched⟩

/-- The payload of a batch voucher that an encoder returned is read as the request. -/
theorem readsBack_batch (standard : libcmt.Standard) (refuses : libcmt.Refuses)
    {appAddress : Address} {request : VoucherData}
    (returns : (encodeErc1155BatchVoucher libcmt appAddress request).run draft = .ok () after)
    (session : Session) :
    after.voucher.address = request.erc1155Batch.token ∧ after.voucher.value = zeros 32 ∧
      ∃ call reached, (readBatchVoucher libcmt.toLibcmt after.memory after.voucher.payload).run
          session = .ok call reached ∧ call.Matches after.memory appAddress request := by
  obtain ⟨aligned, given, enough, passes⟩ := encodeBatch_room standard refuses returns
  obtain ⟨written, padding, run, carries, padded⟩ :=
    encodes_batch standard given rfl appAddress request aligned enough passes
  obtain ⟨-, rfl⟩ := Outcome.ok.inj (run.symm.trans returns)
  have fits : 4 + (Abi.encode (batchArgs appAddress request padding)).length ≤
      written.voucher.payload.length.toNat := by
    rw [length_batchArgs appAddress request aligned padded, carries.buffer]
    exact enough
  have holds := carries.holds
  rw [← carries.buffer] at holds
  obtain ⟨call, reached, read, matched⟩ :=
    readBatch_run standard.toStandard appAddress request fits holds session
  exact ⟨carries.address, carries.value, call, reached, read, matched⟩

/-- Reading the payload of an ERC1155 voucher that was encoded returns the request: the
application, the receiver, the token ids, the amounts and the data. -/
theorem encodeVoucher_readsBack (libcmt : LibcmtPut) (standard : libcmt.Standard)
    (refuses : libcmt.Refuses) (appAddress : Address) (request : VoucherData)
    (draft after : Draft) (session : Session) :
    ((encodeVoucher libcmt .erc1155Single (some appAddress) (some request)).run draft =
        .ok () after →
      after.voucher.address = request.erc1155Single.token ∧ after.voucher.value = zeros 32 ∧
      ∃ call reached, (readSingleVoucher libcmt.toLibcmt after.memory after.voucher.payload).run
          session = .ok call reached ∧ call.Matches after.memory appAddress request) ∧
    ((encodeVoucher libcmt .erc1155Batch (some appAddress) (some request)).run draft =
        .ok () after →
      after.voucher.address = request.erc1155Batch.token ∧ after.voucher.value = zeros 32 ∧
      ∃ call reached, (readBatchVoucher libcmt.toLibcmt after.memory after.voucher.payload).run
          session = .ok call reached ∧ call.Matches after.memory appAddress request) := by
  constructor
  · intro returns
    exact readsBack_single standard returns session
  · intro returns
    exact readsBack_batch standard refuses returns session

/-- An empty voucher with a buffer of 420 bytes that holds ones. -/
def exactDraft : Draft := ⟨⟨zeros 20, zeros 32, exactBuffer⟩, fun _ => 1⟩

/-- A batch of two elements is read back. -/
theorem twoElement_readsBack : ∃ after call reached,
    (encodeVoucher LibcmtPut.reference .erc1155Batch (some sampleApplication)
        (some twoElementBatch)).run exactDraft = .ok () after ∧
      (readBatchVoucher LibcmtPut.reference.toLibcmt after.memory after.voucher.payload).run
        ⟨ParserInput.zero, []⟩ = .ok call reached ∧
      call.Matches after.memory sampleApplication twoElementBatch := by
  have room : twoElementBatch.Fits .erc1155Batch exactDraft.voucher.payload.length.toNat :=
    ⟨by decide, by decide⟩
  have returns : ∃ after, (encodeVoucher LibcmtPut.reference .erc1155Batch (some sampleApplication)
      (some twoElementBatch)).run exactDraft = .ok () after := by
    apply encodeVoucher_returns LibcmtPut.reference_standard
    case named => exact fun _ => rfl
    case aligned => exact fun _ => rfl
    case given => decide
    case fits => exact room
    case passes => decide
  obtain ⟨after, run⟩ := returns
  obtain ⟨-, -, call, reached, read, matched⟩ := (encodeVoucher_readsBack LibcmtPut.reference
    LibcmtPut.reference_standard LibcmtPut.reference_refuses sampleApplication twoElementBatch
    exactDraft after ⟨ParserInput.zero, []⟩).2 run
  exact ⟨after, call, reached, run, read, matched⟩

end

end Libcma.Parser
