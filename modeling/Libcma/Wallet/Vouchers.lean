import Libcma.Wallet.Calls

/-!
# The vouchers of the application

What a withdrawal has to send, as the ABI encodes it: `etherVoucher` and its siblings say so without
the encoder. In the buffers that the handlers prepare, the encoder writes exactly that or refuses
with a negative code, so that what is sent is what was withdrawn.
-/

namespace Libcma.Wallet

open Exec Libcma.Parser

/-- The voucher of ether: no call, only its value. -/
def etherVoucher (receiver : Address) (amount : Amount) : Emitted := ⟨receiver, amount, []⟩

/-- A voucher that calls a contract without value. -/
def callVoucher (token : Address) (funsel : UInt32) (args : List Abi.Arg) : Emitted :=
  ⟨token, zeros 32, selectorBytes funsel ++ Abi.encode args⟩

/-- The voucher of ERC-20 tokens: `transfer` to the receiver. -/
def erc20Voucher (receiver token : Address) (amount : Amount) : Emitted :=
  callVoucher token erc20TransferFunsel [.word (walletId receiver), .word amount]

/-- The voucher of an ERC-721 token: `safeTransferFrom` the application to the receiver. -/
def erc721Voucher (appContract receiver token : Address) (tokenId : TokenId) : Emitted :=
  callVoucher token erc721TransferFunsel
    [.word (walletId appContract), .word (walletId receiver), .word tokenId]

/-- The voucher of ERC-1155 tokens of one id: `safeTransferFrom` without data. -/
def erc1155SingleVoucher (appContract receiver token : Address) (tokenId : TokenId)
    (amount : Amount) : Emitted :=
  callVoucher token erc1155SingleTransferFunsel
    [.word (walletId appContract), .word (walletId receiver), .word tokenId, .word amount,
      .bytes [] []]

/-- The voucher of ERC-1155 tokens of some ids: `safeBatchTransferFrom` without data. -/
def erc1155BatchVoucher (appContract receiver token : Address) (tokenIds amounts : List Bytes32) :
    Emitted :=
  callVoucher token erc1155BatchTransferFunsel
    [.word (walletId appContract), .word (walletId receiver), .words tokenIds, .words amounts,
      .bytes [] []]

/-- Encoding leaves a voucher, or refuses with a negative code. -/
def Encodes (libcmt : LibcmtPut) (type : VoucherType) (appContract : Option Address)
    (request : VoucherData) (payload : Payload) (emitted : Emitted) : Prop :=
  ∀ memory, ((Parser.encodeVoucher libcmt type appContract (some request)).run
    ⟨⟨zeros 20, zeros 32, payload⟩, memory⟩).Satisfies (fun _ draft => emittedOf draft = emitted)
      fun error _ => error.code < 0

/-- Encoding leaves a voucher and does not refuse. -/
def Writes (libcmt : LibcmtPut) (type : VoucherType) (appContract : Option Address)
    (request : VoucherData) (payload : Payload) (emitted : Emitted) : Prop :=
  ∀ memory, ∃ draft, (Parser.encodeVoucher libcmt type appContract (some request)).run
    ⟨⟨zeros 20, zeros 32, payload⟩, memory⟩ = .ok () draft ∧ emittedOf draft = emitted

variable {libcmt : LibcmtPut} {payload : Payload} {appContract : Address} {request : VoucherData}
  {draft : Draft}

/-- What is not refused is left. -/
theorem Writes.encodes {type : VoucherType} {given : Option Address} {emitted : Emitted}
    (writes : Writes libcmt type given request payload emitted) :
    Encodes libcmt type given request payload emitted := by
  intro memory
  obtain ⟨draft, run, same⟩ := writes memory
  rw [run]
  exact same

/-- A voucher that carries a call in a buffer of its size is the voucher of the call. -/
theorem emittedOf_carries {token : Address} {funsel : UInt32} {args : List Abi.Arg}
    (carries : draft.Carries token payload (selectorBytes funsel ++ Abi.encode args))
    (sized : (selectorBytes funsel ++ Abi.encode args).length = payload.length.toNat) :
    emittedOf draft = callVoucher token funsel args := by
  obtain ⟨address, value, buffer, holds⟩ := carries
  unfold emittedOf callVoucher
  rw [address, value, buffer, contents_eq_of_holds holds sized]

/-- The ether voucher. -/
theorem writes_etherVoucher (libcmt : LibcmtPut) (request : VoucherData) (payload : Payload) :
    Writes libcmt .ether none request payload
      (etherVoucher request.receiver request.ether.amount) :=
  fun _ => ⟨_, rfl, rfl⟩

/-- The ERC-20 voucher. -/
theorem writes_erc20Voucher (standard : libcmt.Standard) (request : VoucherData)
    (buffer : Buffer erc20VoucherPayloadSize) :
    Writes libcmt .erc20 none request buffer.payload
      (erc20Voucher request.receiver request.erc20.token request.erc20.amount) := by
  intro memory
  have size : buffer.payload.length.toNat = request.payloadSize .erc20 :=
    congrArg BitVec.toNat buffer.sized
  have drafted : (⟨⟨zeros 20, zeros 32, buffer.payload⟩, memory⟩ : Draft).voucher.payload =
      buffer.payload := rfl
  obtain ⟨after, run, carries⟩ := encodes_erc20 standard buffer.given drafted request
    (Nat.le_of_eq size.symm)
  refine ⟨after, run, ?_⟩
  apply emittedOf_carries
  · simp only [Abi.encode, Abi.heads, Abi.tails, Abi.Arg.head, Abi.Arg.tail, List.flatMap_cons,
      List.flatMap_nil, List.append_nil, List.append_assoc] at carries ⊢
    exact carries
  · rw [List.length_append, Abi.length_encode, size]
    rfl

/-- The ERC-721 voucher. -/
theorem writes_erc721Voucher (standard : libcmt.Standard) (appContract : Address)
    (request : VoucherData) (buffer : Buffer erc721VoucherPayloadSize) :
    Writes libcmt .erc721 (some appContract) request buffer.payload
      (erc721Voucher appContract request.receiver request.erc721.token
        request.erc721.tokenId) := by
  intro memory
  have size : buffer.payload.length.toNat = request.payloadSize .erc721 :=
    congrArg BitVec.toNat buffer.sized
  have drafted : (⟨⟨zeros 20, zeros 32, buffer.payload⟩, memory⟩ : Draft).voucher.payload =
      buffer.payload := rfl
  obtain ⟨after, run, carries⟩ := encodes_erc721 standard buffer.given drafted appContract request
    (Nat.le_of_eq size.symm)
  refine ⟨after, run, ?_⟩
  apply emittedOf_carries
  · simp only [Abi.encode, Abi.heads, Abi.tails, Abi.Arg.head, Abi.Arg.tail, List.flatMap_cons,
      List.flatMap_nil, List.append_nil, List.append_assoc] at carries ⊢
    exact carries
  · rw [List.length_append, Abi.length_encode, size]
    rfl

/-- The ERC-1155 voucher of one id, without data. -/
theorem writes_erc1155SingleVoucher (standard : libcmt.Standard) (appContract : Address)
    (request : VoucherData) (bare : request.erc1155Single.execLayerData.items = [])
    (buffer : Buffer erc1155SingleVoucherPayloadMinSize) :
    Writes libcmt .erc1155Single (some appContract) request buffer.payload
      (erc1155SingleVoucher appContract request.receiver request.erc1155Single.token
        request.erc1155Single.tokenId request.erc1155Single.amount) := by
  intro memory
  have length : buffer.payload.length.toNat = 4 + 6 * 32 := congrArg BitVec.toNat buffer.sized
  have size : request.payloadSize .erc1155Single = 4 + 6 * 32 := by
    simp [VoucherData.payloadSize, bare, Abi.paddedLength]
  have passes : erc1155SingleVoucherPayloadMinSize +
      wholeWords request.erc1155Single.execLayerData.length ≤ buffer.payload.length := by
    rw [BitVec.le_def, toNat_singleLeast, size, length]
  have drafted : (⟨⟨zeros 20, zeros 32, buffer.payload⟩, memory⟩ : Draft).voucher.payload =
      buffer.payload := rfl
  obtain ⟨after, padding, run, carries, padded⟩ := encodes_single standard buffer.given drafted
    appContract request (Nat.le_of_eq (size.trans length.symm)) passes
  have none : padding = [] := by
    rw [bare] at padded
    exact List.length_eq_zero_iff.mp padded
  have args : singleArgs appContract request padding = [.word (walletId appContract),
      .word (walletId request.receiver), .word request.erc1155Single.tokenId,
      .word request.erc1155Single.amount, .bytes [] []] := by
    rw [singleArgs, bare, none]
  rw [args] at carries
  refine ⟨after, run, emittedOf_carries carries ?_⟩
  rw [List.length_append, Abi.length_encode, length]
  rfl

/-- The size of the buffer of a voucher of some ids, which may wrap around. -/
theorem toNat_batchBuffer {tokenIds : SizedList Bytes32 32}
    (buffer : Buffer (erc1155BatchVoucherPayloadMinSize + 2 * tokenIds.length * u256Length)) :
    buffer.payload.length.toNat = (260 + 64 * tokenIds.items.length) % 2 ^ 64 := by
  have ids := toNat_listLength tokenIds
  have least : erc1155BatchVoucherPayloadMinSize.toNat = 260 := rfl
  have word : u256Length.toNat = 32 := rfl
  have two : (2 : BitVec 64).toNat = 2 := rfl
  rw [buffer.sized, BitVec.toNat_add, BitVec.toNat_mul, BitVec.toNat_mul, ids, least, word, two]
  omega

/-- The ERC-1155 voucher of some ids, without data, when the size of the buffer passes. -/
theorem writes_erc1155BatchVoucher (standard : libcmt.Standard) (appContract : Address)
    (request : VoucherData) (bare : request.erc1155Batch.execLayerData.items = [])
    (aligned : request.erc1155Batch.tokenIds.items.length =
      request.erc1155Batch.amounts.items.length)
    (buffer : Buffer (erc1155BatchVoucherPayloadMinSize +
      2 * request.erc1155Batch.tokenIds.length * u256Length))
    (passes : request.testedSize .erc1155Batch ≤ buffer.payload.length.toNat) :
    Writes libcmt .erc1155Batch (some appContract) request buffer.payload
      (erc1155BatchVoucher appContract request.receiver request.erc1155Batch.token
        request.erc1155Batch.tokenIds.items request.erc1155Batch.amounts.items) := by
  intro memory
  have tested : request.testedSize .erc1155Batch =
      292 + 2 * request.erc1155Batch.tokenIds.items.length := by
    rw [VoucherData.testedSize, bare]
    change 4 + 8 * 32 + 2 * _ + 32 + 0 = _
    omega
  have length := toNat_batchBuffer buffer
  have fits := request.erc1155Batch.tokenIds.fits
  -- The size of the buffer did not wrap around.
  have size : buffer.payload.length.toNat = request.payloadSize .erc1155Batch := by
    rw [VoucherData.payloadSize, bare]
    change _ = 4 + 8 * 32 + 2 * 32 * _ + 0
    omega
  have least : erc1155BatchVoucherPayloadMinSize +
      2 * request.erc1155Batch.tokenIds.length + u256Length +
      wholeWords request.erc1155Batch.execLayerData.length ≤ buffer.payload.length := by
    rw [BitVec.le_def, toNat_batchLeast]
    exact passes
  have drafted : (⟨⟨zeros 20, zeros 32, buffer.payload⟩, memory⟩ : Draft).voucher.payload =
      buffer.payload := rfl
  obtain ⟨after, padding, run, carries, padded⟩ := encodes_batch standard buffer.given drafted
    appContract request aligned (Nat.le_of_eq size.symm) least
  have none : padding = [] := by
    rw [bare] at padded
    exact List.length_eq_zero_iff.mp padded
  have args : batchArgs appContract request padding = [.word (walletId appContract),
      .word (walletId request.receiver), .words request.erc1155Batch.tokenIds.items,
      .words request.erc1155Batch.amounts.items, .bytes [] []] := by
    rw [batchArgs, bare, none]
  have whole := length_batchArgs appContract request aligned padded
  rw [args] at carries whole
  refine ⟨after, run, emittedOf_carries carries ?_⟩
  rw [List.length_append, length_selectorBytes, size]
  exact whole

/-- The ERC-1155 voucher of some ids, without data. Lists of two lengths and empty lists are
refused, and so are lists so long that the size of the buffer wraps around. -/
theorem encodes_erc1155BatchVoucher (standard : libcmt.Standard) (appContract : Address)
    (request : VoucherData) (bare : request.erc1155Batch.execLayerData.items = [])
    (buffer : Buffer (erc1155BatchVoucherPayloadMinSize +
      2 * request.erc1155Batch.tokenIds.length * u256Length)) :
    Encodes libcmt .erc1155Batch (some appContract) request buffer.payload
      (erc1155BatchVoucher appContract request.receiver request.erc1155Batch.token
        request.erc1155Batch.tokenIds.items request.erc1155Batch.amounts.items) := by
  intro memory
  have ids := toNat_listLength request.erc1155Batch.tokenIds
  by_cases aligned : request.erc1155Batch.tokenIds.items.length =
      request.erc1155Batch.amounts.items.length
  · by_cases passes : request.testedSize .erc1155Batch ≤ buffer.payload.length.toNat
    · exact (writes_erc1155BatchVoucher standard appContract request bare aligned buffer
        passes).encodes memory
    · have matched : request.erc1155Batch.tokenIds.length =
          request.erc1155Batch.amounts.length := by
        rw [SizedList.length, SizedList.length, aligned]
      have below : buffer.payload.length < erc1155BatchVoucherPayloadMinSize +
          2 * request.erc1155Batch.tokenIds.length + u256Length +
          wholeWords request.erc1155Batch.execLayerData.length := by
        rw [BitVec.lt_def, toNat_batchLeast]
        exact Nat.not_le.mp passes
      change ((encodeErc1155BatchVoucher libcmt appContract request).run _).Satisfies _ _
      rw [encodeErc1155BatchVoucher, bind_run, refuseIf_run, if_neg (not_not.mpr matched),
        Outcome.andThen_ok, bind_run, beginPayload_refused libcmt buffer.given below]
      exact (by decide : -enobufs < 0)
  · have mismatched : request.erc1155Batch.tokenIds.length ≠
        request.erc1155Batch.amounts.length := by
      intro same
      have amounts := toNat_listLength request.erc1155Batch.amounts
      rw [← same] at amounts
      exact aligned (ids.symm.trans amounts)
    change ((encodeErc1155BatchVoucher libcmt appContract request).run _).Satisfies _ _
    rw [encodeErc1155BatchVoucher, bind_run, refuseIf_run, if_pos mismatched]
    exact (by decide : -einval < 0)

section Sending

variable {platform : Platform} {app : App} {type : VoucherType} {given : Option Address}
  {emitted : Emitted}

/-- Sending a voucher sends it, or throws. -/
theorem carries_sendVoucher (sound : app.Sound platform.config)
    (encodes : Encodes platform.libcmt type given request payload emitted)
    (memory : Parser.Memory) (encodeContext emitContext : String) :
    Carries (custodian platform.config) [.send emitted]
      (sendVoucher platform type given request payload memory encodeContext emitContext) app
      fun _ _ => True := by
  have encoded : Carries (custodian platform.config) []
      (Wallet.encodeVoucher platform type given request ⟨zeros 20, zeros 32, payload⟩ memory
        encodeContext) app fun told now => emittedOf told.1 = emitted ∧ now = app := by
    have ended := encodes memory
    unfold Wallet.encodeVoucher
    generalize (Parser.encodeVoucher platform.libcmt type given (some request)).run _ = outcome at *
    cases outcome with
    | ok value draft => exact .pure sound ⟨ended, rfl⟩
    | throw error draft =>
      refine (Carries.refuseIf sound _ _).silent fun _ now still passed => ?_
      exact absurd ended passed.1
    | undefined => trivial
  have sent {now : App} (still : now.Sound platform.config) (err : Int) (lastError : String) :
      Carries (custodian platform.config) [.send emitted]
        (do
          let done ← rollupEmitVoucher platform emitted
          refuseIf (¬done) (.app (emitContext ++ lastError) err)) now fun _ _ => True := by
    unfold rollupEmitVoucher Carries
    by_cases fails : platform.emitVoucher now.vouchers emitted < 0
    · simp [fails, Outcome.Satisfies]
      exact .idle still _
    · simp [fails, Outcome.Satisfies]
      have moves : Custody.Moves now.custody (.send emitted)
          ({ now with vouchers := now.vouchers ++ [emitted] } : App).custody := ⟨rfl, rfl, rfl⟩
      exact ⟨⟨still.ledger, still.covered, still.ether, still.typed⟩, moves.performs⟩
  unfold sendVoucher
  refine encoded.silent fun told now still same => ?_
  obtain ⟨draft, err, lastError⟩ := told
  obtain ⟨rfl, rfl⟩ := same
  exact sent still err lastError

end Sending

end Libcma.Wallet
