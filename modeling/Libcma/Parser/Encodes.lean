import Libcma.Parser.Putting

/-!
# Encoders with room enough

`encodes_*` follow the encoders whose buffer has the size of the payload: they return, and the
payload carries the selector and the encoding of the call's arguments. `payloadSize` is that size.
-/

namespace Libcma.Parser

variable {libcmt : LibcmtPut} {payload : Payload} {draft : Draft}

/-- The size of the ABI payload of a request. -/
def VoucherData.payloadSize (request : VoucherData) : VoucherType → ℕ
  | .none => 0
  | .ether => 0
  | .erc20 => 4 + 2 * 32
  | .erc721 => 4 + 3 * 32
  | .erc1155Single =>
    4 + 6 * 32 + Abi.paddedLength request.erc1155Single.execLayerData.items.length
  | .erc1155Batch => 4 + 8 * 32 + 2 * 32 * request.erc1155Batch.tokenIds.items.length +
      Abi.paddedLength request.erc1155Batch.execLayerData.items.length

/-- A selector has four bytes. -/
@[simp] theorem length_selectorBytes (funsel : UInt32) : (selectorBytes funsel).length = 4 := rfl

/-- A call that succeeded is not refused. -/
theorem checkPut_zero (message : String) : (checkPut 0 message).run draft = .ok () draft := by
  rw [checkPut, Exec.refuseIf_run]
  rfl

/-- An ERC20 voucher with room enough carries the selector, the receiver and the amount. -/
theorem encodes_erc20 (standard : libcmt.Standard) (given : payload.data ≠ 0)
    (placed : draft.voucher.payload = payload) (request : VoucherData)
    (enough : request.payloadSize .erc20 ≤ payload.length.toNat) :
    ∃ after, (encodeErc20Voucher libcmt request).run draft = .ok () after ∧
      after.Carries request.erc20.token payload (selectorBytes erc20TransferFunsel ++
        addressWord request.receiver ++ request.erc20.amount.toList) := by
  have size : 4 + 2 * 32 ≤ payload.length.toNat := enough
  have long : erc20VoucherPayloadSize ≤ payload.length := BitVec.le_def.mpr size
  obtain ⟨begun, beginRun, carriesBegun⟩ := beginPayload_run standard given placed long
    (by omega) request.erc20.token erc20TransferFunsel
  obtain ⟨received, receiverRun, carriesReceiver⟩ := putAddress_appends standard carriesBegun
    (by simp only [length_selectorBytes]; omega) request.receiver "Error putting receiver"
  obtain ⟨after, amountRun, carries⟩ := putUint256_appends standard carriesReceiver
    (by simp only [List.length_append, length_selectorBytes, length_addressWord]; omega)
    request.erc20.amount "Error putting amount"
  refine ⟨after, ?_, carries⟩
  rw [encodeErc20Voucher, Exec.bind_run, beginRun, Outcome.andThen_ok, Exec.bind_run, receiverRun,
    Outcome.andThen_ok, Exec.bind_run, amountRun, Outcome.andThen_ok, Exec.pure_run]

/-- An ERC721 voucher with room enough carries the selector, the addresses and the token id. -/
theorem encodes_erc721 (standard : libcmt.Standard) (given : payload.data ≠ 0)
    (placed : draft.voucher.payload = payload) (appAddress : Address) (request : VoucherData)
    (enough : request.payloadSize .erc721 ≤ payload.length.toNat) :
    ∃ after, (encodeErc721Voucher libcmt appAddress request).run draft = .ok () after ∧
      after.Carries request.erc721.token payload (selectorBytes erc721TransferFunsel ++
        addressWord appAddress ++ addressWord request.receiver ++
          request.erc721.tokenId.toList) := by
  have size : 4 + 3 * 32 ≤ payload.length.toNat := enough
  have long : erc721VoucherPayloadSize ≤ payload.length := BitVec.le_def.mpr size
  obtain ⟨begun, beginRun, carriesBegun⟩ := beginPayload_run standard given placed long
    (by omega) request.erc721.token erc721TransferFunsel
  obtain ⟨addressed, partiesRun, carriesParties⟩ := putParties_appends standard carriesBegun
    (by simp only [length_selectorBytes]; omega) appAddress request.receiver
  obtain ⟨after, tokenRun, carries⟩ := putUint256_appends standard carriesParties
    (by simp only [List.length_append, length_selectorBytes, length_addressWord]; omega)
    request.erc721.tokenId "Error putting amount"
  refine ⟨after, ?_, carries⟩
  rw [encodeErc721Voucher, Exec.bind_run, beginRun, Outcome.andThen_ok, Exec.bind_run, partiesRun,
    Outcome.andThen_ok, Exec.bind_run, tokenRun, Outcome.andThen_ok, Exec.pure_run]

/-- The arguments of a single voucher's call. -/
def singleArgs (appAddress : Address) (request : VoucherData) (padding : List UInt8) :
    List Abi.Arg :=
  [.word (walletId appAddress), .word (walletId request.receiver),
    .word request.erc1155Single.tokenId, .word request.erc1155Single.amount,
    .bytes request.erc1155Single.execLayerData.items padding]

/-- The arguments of a batch voucher's call. -/
def batchArgs (appAddress : Address) (request : VoucherData) (padding : List UInt8) :
    List Abi.Arg :=
  [.word (walletId appAddress), .word (walletId request.receiver),
    .words request.erc1155Batch.tokenIds.items, .words request.erc1155Batch.amounts.items,
    .bytes request.erc1155Batch.execLayerData.items padding]

/-- A single voucher with room enough carries the selector and the encoding of its arguments. -/
theorem encodes_single (standard : libcmt.Standard) (given : payload.data ≠ 0)
    (placed : draft.voucher.payload = payload) (appAddress : Address) (request : VoucherData)
    (enough : request.payloadSize .erc1155Single ≤ payload.length.toNat)
    (passes : erc1155SingleVoucherPayloadMinSize +
      wholeWords request.erc1155Single.execLayerData.length ≤ payload.length) :
    ∃ after padding, (encodeErc1155SingleVoucher libcmt appAddress request).run draft =
        .ok () after ∧
      after.Carries request.erc1155Single.token payload
        (selectorBytes erc1155SingleTransferFunsel ++
          Abi.encode (singleArgs appAddress request padding)) ∧
      padding.length = Abi.paddedLength request.erc1155Single.execLayerData.items.length -
        request.erc1155Single.execLayerData.items.length := by
  have size : 4 + 6 * 32 + Abi.paddedLength request.erc1155Single.execLayerData.items.length ≤
    payload.length.toNat := enough
  obtain ⟨begun, beginRun, carriesBegun⟩ := beginPayload_run standard given placed passes
    (by omega) request.erc1155Single.token erc1155SingleTransferFunsel
  obtain ⟨addressed, partiesRun, carriesParties⟩ := putParties_appends standard carriesBegun
    (by simp only [length_selectorBytes]; omega) appAddress request.receiver
  obtain ⟨named, tokenRun, carriesToken⟩ := putUint256_appends standard carriesParties
    (by simp only [List.length_append, length_selectorBytes, length_addressWord]; omega)
    request.erc1155Single.tokenId "Error putting amount"
  obtain ⟨valued, amountRun, carriesAmount⟩ := putUint256_appends standard carriesToken
    (by simp only [List.length_append, length_selectorBytes, length_addressWord,
      List.Vector.toList_length]; omega)
    request.erc1155Single.amount "Error putting amount"
  obtain ⟨reserved, reservedWord, reserves, offsetThere, rest, carriesReserved⟩ :=
    reserve_appends standard carriesAmount (by
      simp only [List.length_append, length_selectorBytes, length_addressWord,
        List.Vector.toList_length]
      omega)
  rw [← List.append_nil (_ ++ reserved)] at rest carriesReserved
  obtain ⟨padding, padded, after, dataRun, carries⟩ := putBytesD_appends standard
    carriesReserved reservedWord offsetThere
    (show (selectorBytes erc1155SingleTransferFunsel).length ≤ _ by
      simp only [List.length_append, length_selectorBytes]; omega)
    request.erc1155Single.execLayerData.items (by
      simp only [List.length_append, length_selectorBytes, length_addressWord,
        List.Vector.toList_length, reservedWord, List.length_nil]
      omega) "Error putting data"
  rw [List.append_nil] at rest dataRun
  refine ⟨after, padding, ?_, ?_, padded⟩
  · simp only [encodeErc1155SingleVoucher, Exec.bind_run, beginRun, Outcome.andThen_ok,
      standard.markFrame, checkPut_zero, partiesRun, tokenRun, amountRun, reserves, rest, dataRun,
      Exec.pure_run]
  · simp only [List.length_append, length_selectorBytes, length_addressWord,
      List.Vector.toList_length, reservedWord, List.length_nil] at carries
    simp only [singleArgs, Abi.encode, Abi.heads, Abi.tails, Abi.Arg.head, List.flatMap_cons,
      List.flatMap_nil, Abi.Arg.tail, List.append_nil, List.nil_append, List.length_cons,
      List.length_nil, List.append_assoc] at carries ⊢
    exact carries

/-- The selector and the addresses of a batch voucher's call. -/
def batchHead (appAddress receiver : Address) : List UInt8 :=
  selectorBytes erc1155BatchTransferFunsel ++ addressWord appAddress ++ addressWord receiver

/-- The head of a batch has two words behind the selector. -/
@[simp] theorem length_batchHead (appAddress receiver : Address) :
    (batchHead appAddress receiver).length = 68 := by
  rw [batchHead, List.length_append, List.length_append, length_selectorBytes, length_addressWord,
    length_addressWord]

/-- The offset words of a batch are reserved behind its head. -/
structure Draft.Reserves (draft : Draft) (token : Address) (payload : Payload) (head : List UInt8)
    (offsetTokenId offsetAmount offsetExec : Buf) (idWord amountWord execWord : List UInt8) :
    Prop where
  /-- The words lie behind the head. -/
  carries : draft.Carries token payload (head ++ idWord ++ (amountWord ++ execWord))
  /-- The head is the selector and two words. -/
  headLength : head.length = 68
  /-- The first offset is a word. -/
  idLength : idWord.length = 32
  /-- The second offset is a word. -/
  amountLength : amountWord.length = 32
  /-- The third offset is a word. -/
  execLength : execWord.length = 32
  /-- The first offset lies behind the head. -/
  idThere : offsetTokenId.begin = payload.data + BitVec.ofNat 64 68
  /-- The second offset lies behind the first. -/
  amountThere : offsetAmount.begin = payload.data + BitVec.ofNat 64 100
  /-- The third offset lies behind the second. -/
  execThere : offsetExec.begin = payload.data + BitVec.ofNat 64 132

/-- A batch voucher that passes the test comes to its tails. -/
theorem encodeBatch_begins (standard : libcmt.Standard) (given : payload.data ≠ 0)
    (placed : draft.voucher.payload = payload) (appAddress : Address) (request : VoucherData)
    (aligned : request.erc1155Batch.tokenIds.items.length =
      request.erc1155Batch.amounts.items.length)
    (headFits : 164 ≤ payload.length.toNat)
    (passes : erc1155BatchVoucherPayloadMinSize + 2 * request.erc1155Batch.tokenIds.length +
      u256Length + wholeWords request.erc1155Batch.execLayerData.length ≤ payload.length) :
    ∃ begun offsetTokenId offsetAmount offsetExec idWord amountWord execWord,
      (encodeErc1155BatchVoucher libcmt appAddress request).run draft =
        (putTails libcmt (payload.from 164) offsetTokenId offsetAmount offsetExec (payload.from 4)
          request.erc1155Batch).run begun ∧
      begun.Reserves request.erc1155Batch.token payload (batchHead appAddress request.receiver)
        offsetTokenId offsetAmount offsetExec idWord amountWord execWord := by
  have matched : request.erc1155Batch.tokenIds.length = request.erc1155Batch.amounts.length := by
    rw [SizedList.length, SizedList.length, aligned]
  obtain ⟨started, beginRun, carriesBegun⟩ := beginPayload_run standard given placed passes
    (by omega) request.erc1155Batch.token erc1155BatchTransferFunsel
  obtain ⟨begun, partiesRun, carriesHead⟩ := putParties_appends standard carriesBegun
    (by rw [length_selectorBytes]; omega) appAddress request.receiver
  rw [← batchHead] at partiesRun carriesHead
  have headLength := length_batchHead appAddress request.receiver
  obtain ⟨idWord, idLength, idReserves, idThere, idRest, carriesId⟩ :=
    reserve_appends standard carriesHead (by omega)
  obtain ⟨amountWord, amountLength, amountReserves, amountThere, amountRest, carriesAmount⟩ :=
    reserve_appends standard carriesId (by rw [List.length_append]; omega)
  obtain ⟨execWord, execLength, execReserves, execThere, execRest, carriesExec⟩ :=
    reserve_appends standard carriesAmount (by
      rw [List.length_append, List.length_append]
      omega)
  have last : (batchHead appAddress request.receiver ++ idWord ++ amountWord ++
      execWord).length = 164 := by
    simp only [List.length_append]
    omega
  rw [last] at execRest
  rw [List.append_assoc (_ ++ idWord)] at carriesExec
  have reserves : begun.Reserves request.erc1155Batch.token payload
      (batchHead appAddress request.receiver)
      (libcmt.putBytesS (payload.from (batchHead appAddress request.receiver).length)).out.lhs
      (libcmt.putBytesS (payload.from
        (batchHead appAddress request.receiver ++ idWord).length)).out.lhs
      (libcmt.putBytesS (payload.from
        (batchHead appAddress request.receiver ++ idWord ++ amountWord).length)).out.lhs
      idWord amountWord execWord := by
    constructor
    case carries => exact carriesExec
    case headLength => exact headLength
    case idLength => exact idLength
    case amountLength => exact amountLength
    case execLength => exact execLength
    case idThere => rw [idThere, headLength]
    case amountThere => rw [amountThere, List.length_append, headLength, idLength]
    case execThere =>
      rw [execThere, List.length_append, List.length_append, headLength, idLength, amountLength]
  refine ⟨begun, _, _, _, idWord, amountWord, execWord, ?_, reserves⟩
  simp only [encodeErc1155BatchVoucher, Exec.bind_run, Exec.refuseIf_run,
    if_neg (not_not.mpr matched), beginRun, Outcome.andThen_ok, standard.markFrame,
    checkPut_zero, partiesRun, idReserves, idRest, amountReserves, amountRest, execReserves,
    execRest]
  rfl

/-- The tails of a batch with room enough. -/
theorem putTails_carries (standard : libcmt.Standard) {token : Address}
    {fields : Erc1155BatchVoucherFields} {head idWord amountWord execWord : List UInt8}
    {offsetTokenId offsetAmount offsetExec : Buf}
    (reserves : draft.Reserves token payload head offsetTokenId offsetAmount offsetExec idWord
      amountWord execWord)
    (aligned : fields.tokenIds.items.length = fields.amounts.items.length)
    (enough : 260 + 64 * fields.tokenIds.items.length +
      Abi.paddedLength fields.execLayerData.items.length ≤ payload.length.toNat) :
    let ids := (Abi.Arg.words fields.tokenIds.items).tail
    let amounts := (Abi.Arg.words fields.amounts.items).tail
    ∃ after padding, (putTails libcmt (payload.from 164) offsetTokenId offsetAmount offsetExec
        (payload.from 4) fields).run draft = .ok () after ∧
      after.Carries token payload (head ++ Abi.word 160 ++ Abi.word (160 + ids.length) ++
        Abi.word (160 + ids.length + amounts.length) ++ (ids ++ amounts) ++
          (Abi.Arg.bytes fields.execLayerData.items padding).tail) ∧
      padding.length = Abi.paddedLength fields.execLayerData.items.length -
        fields.execLayerData.items.length := by
  intro ids amounts
  have idsLength : ids.length = 32 + 32 * fields.tokenIds.items.length :=
    Abi.Arg.length_tail_words fields.tokenIds.items
  have amountsLength : amounts.length = 32 + 32 * fields.amounts.items.length :=
    Abi.Arg.length_tail_words fields.amounts.items
  have lengths := And.intro reserves.headLength (And.intro reserves.idLength
    (And.intro reserves.amountLength reserves.execLength))
  have first : (head ++ idWord ++ (amountWord ++ execWord)).length = 164 := by
    simp only [List.length_append]
    omega
  obtain ⟨listed, idsRun, carriesIds⟩ := putUint256List_appends standard reserves.carries
    reserves.idLength (by rw [reserves.idThere, reserves.headLength])
    (show 4 ≤ _ by omega) fields.tokenIds.items (by omega) "Error putting token ids"
  rw [first] at idsRun carriesIds
  -- Each offset word in turn is the one between what is written and what is reserved or put.
  have afterIds : head ++ Abi.word (164 - 4) ++ (amountWord ++ execWord) ++ ids =
      head ++ Abi.word 160 ++ amountWord ++ (execWord ++ ids) := by
    simp only [List.append_assoc]
  have second : (head ++ Abi.word 160 ++ amountWord ++ (execWord ++ ids)).length =
      164 + ids.length := by
    simp only [List.length_append, Abi.length_word]
    omega
  rw [afterIds] at idsRun carriesIds
  obtain ⟨priced, amountsRun, carriesAmounts⟩ := putUint256List_appends standard carriesIds
    reserves.amountLength (by
      rw [reserves.amountThere, List.length_append, reserves.headLength, Abi.length_word])
    (show 4 ≤ _ by omega) fields.amounts.items (by omega) "Error putting amounts"
  have amountsAt : 164 + ids.length - 4 = 160 + ids.length := by omega
  rw [second, amountsAt] at amountsRun carriesAmounts
  have afterAmounts : head ++ Abi.word 160 ++ Abi.word (160 + ids.length) ++ (execWord ++ ids) ++
      amounts = head ++ Abi.word 160 ++ Abi.word (160 + ids.length) ++ execWord ++
        (ids ++ amounts) := by
    simp only [List.append_assoc]
  have third : (head ++ Abi.word 160 ++ Abi.word (160 + ids.length) ++ execWord ++
      (ids ++ amounts)).length = 164 + ids.length + amounts.length := by
    simp only [List.length_append, Abi.length_word]
    omega
  rw [afterAmounts] at amountsRun carriesAmounts
  obtain ⟨padding, padded, after, dataRun, carries⟩ := putBytesD_appends standard carriesAmounts
    reserves.execLength (by
      rw [reserves.execThere, List.length_append, List.length_append, reserves.headLength,
        Abi.length_word, Abi.length_word])
    (show 4 ≤ _ by omega) fields.execLayerData.items (by omega) "Error putting offset"
  have dataAt : 164 + ids.length + amounts.length - 4 = 160 + ids.length + amounts.length := by
    omega
  rw [third, dataAt] at dataRun carries
  refine ⟨after, padding, ?_, carries, padded⟩
  rw [second] at idsRun
  rw [third] at amountsRun
  simp only [putTails, Exec.bind_run, idsRun, amountsRun, dataRun, Outcome.andThen_ok,
    Exec.pure_run]

/-- A batch voucher with room enough carries the selector and the encoding of its arguments. -/
theorem encodes_batch (standard : libcmt.Standard) (given : payload.data ≠ 0)
    (placed : draft.voucher.payload = payload) (appAddress : Address) (request : VoucherData)
    (aligned : request.erc1155Batch.tokenIds.items.length =
      request.erc1155Batch.amounts.items.length)
    (enough : request.payloadSize .erc1155Batch ≤ payload.length.toNat)
    (passes : erc1155BatchVoucherPayloadMinSize + 2 * request.erc1155Batch.tokenIds.length +
      u256Length + wholeWords request.erc1155Batch.execLayerData.length ≤ payload.length) :
    ∃ after padding, (encodeErc1155BatchVoucher libcmt appAddress request).run draft =
        .ok () after ∧
      after.Carries request.erc1155Batch.token payload
        (selectorBytes erc1155BatchTransferFunsel ++
          Abi.encode (batchArgs appAddress request padding)) ∧
      padding.length = Abi.paddedLength request.erc1155Batch.execLayerData.items.length -
        request.erc1155Batch.execLayerData.items.length := by
  have size : 4 + 8 * 32 + 2 * 32 * request.erc1155Batch.tokenIds.items.length +
    Abi.paddedLength request.erc1155Batch.execLayerData.items.length ≤
      payload.length.toNat := enough
  obtain ⟨begun, _, _, _, _, _, _, run, reserves⟩ := encodeBatch_begins standard given placed
    appAddress request aligned (by omega) passes
  obtain ⟨after, padding, tailsRun, carries, padded⟩ := putTails_carries standard reserves
    aligned (by omega)
  refine ⟨after, padding, run.trans tailsRun, ?_, padded⟩
  simp only [batchHead, batchArgs, Abi.encode, Abi.heads, Abi.tails, Abi.Arg.head,
    List.flatMap_cons, List.flatMap_nil, Abi.Arg.tail, List.append_nil, List.nil_append,
    List.length_cons, List.length_nil, List.append_assoc] at carries ⊢
  exact carries

end Libcma.Parser
