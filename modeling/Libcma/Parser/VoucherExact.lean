import Libcma.Parser.VoucherRead

/-!
# The bytes of a voucher's payload

`voucher.payload.length` is the capacity of the buffer before the call and the length of the
payload after it. The ether encoder sets it; the other four leave it as it is, so that the payload
is the encoding of the call only in a buffer of exactly that size. `VoucherData.call` is the
encoding, and `encodeVoucher_exact_iff` says when the payload of a voucher is it.
-/

namespace Libcma.Parser

variable {libcmt : LibcmtPut} {draft after : Draft}

/-- The bytes of a payload. -/
def Memory.contents (memory : Memory) (payload : Payload) : List UInt8 :=
  (memory.bytes payload.data payload.length.toNat).toList

/-- The ABI encoding of the call that a voucher makes; the padding lies behind the execution layer
data. An ether voucher calls nothing. -/
def VoucherData.call (request : VoucherData) (appAddress : Address) (padding : List UInt8) :
    VoucherType → List UInt8
  | .none => []
  | .ether => []
  | .erc20 => selectorBytes erc20TransferFunsel ++
      Abi.encode [.word (walletId request.receiver), .word request.erc20.amount]
  | .erc721 => selectorBytes erc721TransferFunsel ++
      Abi.encode [.word (walletId appAddress), .word (walletId request.receiver),
        .word request.erc721.tokenId]
  | .erc1155Single => selectorBytes erc1155SingleTransferFunsel ++
      Abi.encode (singleArgs appAddress request padding)
  | .erc1155Batch => selectorBytes erc1155BatchTransferFunsel ++
      Abi.encode (batchArgs appAddress request padding)

/-- How many bytes pad the execution layer data of a voucher to whole words. -/
def VoucherData.paddingLength (request : VoucherData) : VoucherType → ℕ
  | .erc1155Single => Abi.paddedLength request.erc1155Single.execLayerData.items.length -
      request.erc1155Single.execLayerData.items.length
  | .erc1155Batch => Abi.paddedLength request.erc1155Batch.execLayerData.items.length -
      request.erc1155Batch.execLayerData.items.length
  | _ => 0

/-- The payload is the encoding of the call, whatever pads the execution layer data. An application
that is not given is not named in the call. -/
def Draft.IsCall (draft : Draft) (request : VoucherData) (appAddress : Option Address)
    (type : VoucherType) : Prop :=
  ∃ padding : List UInt8, padding.length = request.paddingLength type ∧
    draft.memory.contents draft.voucher.payload =
      request.call (appAddress.getD (zeros 20)) padding type

/-- A payload has as many bytes as its length says. -/
@[simp] theorem length_contents (memory : Memory) (payload : Payload) :
    (memory.contents payload).length = payload.length.toNat :=
  List.Vector.toList_length _

/-- A payload that holds as many bytes as it has is those bytes. -/
theorem contents_eq_of_holds {memory : Memory} {payload : Payload} {bytes : List UInt8}
    (holds : Cells.Holds memory payload.data bytes)
    (whole : bytes.length = payload.length.toNat) : memory.contents payload = bytes := by
  have read : memory.bytes payload.data payload.length.toNat = ⟨bytes, whole⟩ :=
    bytes_of_holds _ holds
  rw [Memory.contents, read]
  rfl

/-- The encoding of the call has the size of the payload. -/
theorem length_call (request : VoucherData) (appAddress : Address) (type : VoucherType)
    (aligned : type = .erc1155Batch → request.erc1155Batch.tokenIds.items.length =
      request.erc1155Batch.amounts.items.length) {padding : List UInt8}
    (padded : padding.length = request.paddingLength type) :
    (request.call appAddress padding type).length = request.payloadSize type := by
  cases type with
  | none => rfl
  | ether => rfl
  | erc20 =>
    rw [VoucherData.call, List.length_append, Abi.length_encode]
    rfl
  | erc721 =>
    rw [VoucherData.call, List.length_append, Abi.length_encode]
    rfl
  | erc1155Single =>
    rw [VoucherData.call, List.length_append, length_selectorBytes]
    exact length_singleArgs appAddress request padded
  | erc1155Batch =>
    rw [VoucherData.call, List.length_append, length_selectorBytes]
    exact length_batchArgs appAddress request (aligned rfl) padded

/-- A voucher that carries the call's encoding is exact when its buffer has the size of it. -/
theorem Draft.Carries.isCall_iff {token : Address} {payload : Payload} {padding : List UInt8}
    {request : VoucherData} {appAddress : Option Address} {type : VoucherType}
    (aligned : type = .erc1155Batch → request.erc1155Batch.tokenIds.items.length =
      request.erc1155Batch.amounts.items.length)
    (padded : padding.length = request.paddingLength type)
    (carries : after.Carries token payload
      (request.call (appAddress.getD (zeros 20)) padding type)) :
    after.IsCall request appAddress type ↔ payload.length.toNat = request.payloadSize type := by
  constructor
  · rintro ⟨other, otherPadded, same⟩
    rw [← length_call request (appAddress.getD (zeros 20)) type aligned otherPadded, ← same,
      length_contents, carries.buffer]
  · intro exact
    have sized := length_call request (appAddress.getD (zeros 20)) type aligned padded
    have holds := carries.holds
    refine ⟨padding, padded, ?_⟩
    rw [carries.buffer]
    exact contents_eq_of_holds holds (sized.trans exact.symm)

/-- An application that the encoder takes is the one given. -/
theorem givenAddress_eq_ok {appAddress : Option Address} {address : Address} {reached : Draft}
    (returns : (givenAddress appAddress).run draft = .ok address reached) :
    appAddress = some address ∧ reached = draft := by
  cases appAddress with
  | none => cases returns
  | some given =>
    cases returns
    exact ⟨rfl, rfl⟩

/-- An ERC20 encoder that returned had a given buffer with room for the payload. -/
theorem encodeErc20_room {request : VoucherData}
    (returns : (encodeErc20Voucher libcmt request).run draft = .ok () after) :
    draft.voucher.payload.data ≠ 0 ∧
      request.payloadSize .erc20 ≤ draft.voucher.payload.length.toNat := by
  rw [encodeErc20Voucher, Exec.bind_run] at returns
  obtain ⟨buf, begun, beginRun, -⟩ := Outcome.andThen_eq_ok returns
  obtain ⟨given, passes⟩ := beginPayload_passes beginRun
  exact ⟨given, BitVec.le_def.mp passes⟩

/-- An ERC721 encoder that returned had a given buffer with room for the payload. -/
theorem encodeErc721_room {appAddress : Address} {request : VoucherData}
    (returns : (encodeErc721Voucher libcmt appAddress request).run draft = .ok () after) :
    draft.voucher.payload.data ≠ 0 ∧
      request.payloadSize .erc721 ≤ draft.voucher.payload.length.toNat := by
  rw [encodeErc721Voucher, Exec.bind_run] at returns
  obtain ⟨buf, begun, beginRun, -⟩ := Outcome.andThen_eq_ok returns
  obtain ⟨given, passes⟩ := beginPayload_passes beginRun
  exact ⟨given, BitVec.le_def.mp passes⟩

/-- An encoder with a payload that returned leaves the call's encoding at the front of its buffer,
which is the one it was given. -/
theorem encodeVoucher_carries (standard : libcmt.Standard) (refuses : libcmt.Refuses)
    {type : VoucherType} (payable : type ≠ .ether) {appAddress : Option Address}
    {request : VoucherData}
    (returns : (encodeVoucher libcmt type appAddress (some request)).run draft = .ok () after) :
    (type = .erc1155Batch → request.erc1155Batch.tokenIds.items.length =
      request.erc1155Batch.amounts.items.length) ∧
    ∃ token padding, padding.length = request.paddingLength type ∧
      after.Carries token draft.voucher.payload
        (request.call (appAddress.getD (zeros 20)) padding type) := by
  cases type with
  | none => cases returns
  | ether => exact absurd rfl payable
  | erc20 =>
    change (encodeErc20Voucher libcmt request).run draft = _ at returns
    obtain ⟨given, enough⟩ := encodeErc20_room returns
    obtain ⟨written, run, carries⟩ := encodes_erc20 standard given rfl request enough
    obtain ⟨-, rfl⟩ := Outcome.ok.inj (run.symm.trans returns)
    refine ⟨fun batch => absurd batch (by decide), request.erc20.token, [], rfl, ?_⟩
    simp only [VoucherData.call, Abi.encode, Abi.heads, Abi.tails, Abi.Arg.head, Abi.Arg.tail,
      List.flatMap_cons, List.flatMap_nil, List.append_nil, List.append_assoc] at carries ⊢
    exact carries
  | erc721 =>
    change ((givenAddress appAddress >>= _ : Encoder Unit)).run draft = _ at returns
    rw [Exec.bind_run] at returns
    obtain ⟨address, reached, named, returns⟩ := Outcome.andThen_eq_ok returns
    obtain ⟨rfl, rfl⟩ := givenAddress_eq_ok named
    obtain ⟨given, enough⟩ := encodeErc721_room returns
    obtain ⟨written, run, carries⟩ := encodes_erc721 standard given rfl address request enough
    obtain ⟨-, rfl⟩ := Outcome.ok.inj (run.symm.trans returns)
    refine ⟨fun batch => absurd batch (by decide), request.erc721.token, [], rfl, ?_⟩
    simp only [VoucherData.call, Abi.encode, Abi.heads, Abi.tails, Abi.Arg.head, Abi.Arg.tail,
      List.flatMap_cons, List.flatMap_nil, List.append_nil, List.append_assoc,
      Option.getD_some] at carries ⊢
    exact carries
  | erc1155Single =>
    change ((givenAddress appAddress >>= _ : Encoder Unit)).run draft = _ at returns
    rw [Exec.bind_run] at returns
    obtain ⟨address, reached, named, returns⟩ := Outcome.andThen_eq_ok returns
    obtain ⟨rfl, rfl⟩ := givenAddress_eq_ok named
    obtain ⟨given, enough, passes⟩ := encodeSingle_room returns
    obtain ⟨written, padding, run, carries, padded⟩ :=
      encodes_single standard given rfl address request enough passes
    obtain ⟨-, rfl⟩ := Outcome.ok.inj (run.symm.trans returns)
    exact ⟨fun batch => absurd batch (by decide), _, padding, padded, carries⟩
  | erc1155Batch =>
    change ((givenAddress appAddress >>= _ : Encoder Unit)).run draft = _ at returns
    rw [Exec.bind_run] at returns
    obtain ⟨address, reached, named, returns⟩ := Outcome.andThen_eq_ok returns
    obtain ⟨rfl, rfl⟩ := givenAddress_eq_ok named
    obtain ⟨aligned, given, enough, passes⟩ := encodeBatch_room standard refuses returns
    obtain ⟨written, padding, run, carries, padded⟩ :=
      encodes_batch standard given rfl address request aligned enough passes
    obtain ⟨-, rfl⟩ := Outcome.ok.inj (run.symm.trans returns)
    exact ⟨fun _ => aligned, _, padding, padded, carries⟩

/-- The payload of a voucher that was encoded is the call's encoding exactly when it is an ether
voucher or its buffer had the size of the encoding. -/
theorem encodeVoucher_exact_iff (libcmt : LibcmtPut) (standard : libcmt.Standard)
    (refuses : libcmt.Refuses) (type : VoucherType) (appAddress : Option Address)
    (request : VoucherData) (draft after : Draft)
    (returns : (encodeVoucher libcmt type appAddress (some request)).run draft = .ok () after) :
    after.IsCall request appAddress type ↔
      type = .ether ∨ draft.voucher.payload.length.toNat = request.payloadSize type := by
  by_cases ether : type = .ether
  · subst ether
    cases returns
    exact iff_of_true ⟨[], rfl, rfl⟩ (.inl rfl)
  · obtain ⟨aligned, token, padding, padded, carries⟩ :=
      encodeVoucher_carries standard refuses ether returns
    rw [carries.isCall_iff aligned padded, or_iff_right ether]

/-- A batch of two elements is exact in a buffer of 420 bytes. -/
theorem twoElement_exact : ∃ after,
    (encodeVoucher LibcmtPut.reference .erc1155Batch (some sampleApplication)
        (some twoElementBatch)).run exactDraft = .ok () after ∧
      after.IsCall twoElementBatch (some sampleApplication) .erc1155Batch := by
  have returns : ∃ after, (encodeVoucher LibcmtPut.reference .erc1155Batch (some sampleApplication)
      (some twoElementBatch)).run exactDraft = .ok () after := by
    apply encodeVoucher_returns LibcmtPut.reference_standard
    case named => exact fun _ => rfl
    case aligned => exact fun _ => rfl
    case given => decide
    case fits => exact ⟨by decide, by decide⟩
    case passes => decide
  obtain ⟨after, run⟩ := returns
  have exact := (encodeVoucher_exact_iff LibcmtPut.reference LibcmtPut.reference_standard
    LibcmtPut.reference_refuses .erc1155Batch (some sampleApplication) twoElementBatch exactDraft
    after run).mpr (.inr rfl)
  exact ⟨after, run, exact⟩

/-- An empty voucher with a buffer of 100 bytes that holds ones. -/
def wideDraft : Draft :=
  ⟨⟨zeros 20, zeros 32, ⟨100, 4096, by decide⟩⟩, fun _ => 1⟩

/-- An ERC20 voucher in a buffer of 100 bytes has 32 bytes behind its encoding. -/
theorem wide_not_exact : ∃ after,
    (encodeVoucher LibcmtPut.reference .erc20 none (some oneElementBatch)).run wideDraft =
        .ok () after ∧
      ¬after.IsCall oneElementBatch none .erc20 := by
  obtain ⟨after, run, -⟩ := encodes_erc20 LibcmtPut.reference_standard
    (show wideDraft.voucher.payload.data ≠ 0 by decide) rfl oneElementBatch (by decide)
  have returns : (encodeVoucher LibcmtPut.reference .erc20 none (some oneElementBatch)).run
    wideDraft = .ok () after := run
  obtain ⟨aligned, token, padding, padded, carries⟩ := encodeVoucher_carries
    LibcmtPut.reference_standard LibcmtPut.reference_refuses (by decide) returns
  refine ⟨after, run, ?_⟩
  rw [carries.isCall_iff aligned padded]
  decide

end Libcma.Parser
