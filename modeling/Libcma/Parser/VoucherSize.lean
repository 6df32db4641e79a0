import Libcma.Lib.Keeps
import Libcma.Parser.Encodes

/-!
# Voucher buffers that are large enough

An encoder tests the length of its buffer before it writes anything. `testedSize` is the length
that the test asks for, `payloadSize` the length that the payload takes; they are the same except
for a batch, where the test counts two bytes for a pair of elements and one word too many. A buffer
between the two is `Misjudged`: it is refused although the payload fits, or accepted although it
does not, and then the voucher is written before the encoder throws. `encodesByRoom_iff` says that
nothing else goes wrong.
-/

namespace Libcma.Parser

variable {libcmt : LibcmtPut} {payload : Payload} {draft : Draft}

/-- The length that the test of an encoder asks for. -/
def VoucherData.testedSize (request : VoucherData) : VoucherType → ℕ
  | .erc1155Batch => 4 + 8 * 32 + 2 * request.erc1155Batch.tokenIds.items.length + 32 +
      Abi.paddedLength request.erc1155Batch.execLayerData.items.length
  | type => request.payloadSize type

/-- The types whose payload names the application. -/
def VoucherType.NamesApplication (type : VoucherType) : Prop :=
  type = .erc721 ∨ type = .erc1155Single ∨ type = .erc1155Batch

/-- A buffer has room for the payload of a voucher of the type, which is none of `none`. -/
def VoucherData.Fits (request : VoucherData) (type : VoucherType) (length : ℕ) : Prop :=
  type ≠ .none ∧ request.payloadSize type ≤ length

/-- The voucher's address and value and the bytes of its payload are what they were. -/
def Draft.Untouched (before after : Draft) : Prop :=
  after.voucher.address = before.voucher.address ∧ after.voucher.value = before.voucher.value ∧
    ∀ index < before.voucher.payload.length.toNat,
      after.memory (before.voucher.payload.data + BitVec.ofNat 64 index) =
        before.memory (before.voucher.payload.data + BitVec.ofNat 64 index)

/-- Whatever the voucher and the memory were, encoding returns in a buffer with room for the
payload, and otherwise throws and leaves them untouched. -/
def EncodesByRoom (libcmt : LibcmtPut) (type : VoucherType) (appAddress : Option Address)
    (request : VoucherData) (payload : Payload) : Prop :=
  ∀ draft : Draft, draft.voucher.payload = payload →
    let outcome := (encodeVoucher libcmt type appAddress (some request)).run draft
    outcome.Defined ∧ outcome.Satisfies
      (fun _ _ => request.Fits type payload.length.toNat)
      fun _ after => ¬request.Fits type payload.length.toNat ∧ draft.Untouched after

/-- A batch's buffer between the tested size and the size: of empty lists it has room and less than
the tested word too many, of others it passes the test and lacks room for the elements. -/
def VoucherData.Misjudged (request : VoucherData) (type : VoucherType) (length : ℕ) : Prop :=
  let count := request.erc1155Batch.tokenIds.items.length
  let data := Abi.paddedLength request.erc1155Batch.execLayerData.items.length
  type = .erc1155Batch ∧
    (count = 0 ∧ 260 + data ≤ length ∧ length < 292 + data ∨
      0 < count ∧ 292 + 2 * count + data ≤ length ∧ length < 260 + 64 * count + data)

/-- The test and the payload disagree about the misjudged buffers. -/
theorem misjudged_iff (request : VoucherData) (length : ℕ) :
    request.Misjudged .erc1155Batch length ↔
      ¬(request.testedSize .erc1155Batch ≤ length ↔ request.payloadSize .erc1155Batch ≤ length) := by
  rw [VoucherData.Misjudged, and_iff_right rfl, VoucherData.testedSize, VoucherData.payloadSize]
  omega

/-- A computation that leaves the voucher alone. -/
def KeepsVoucher {α : Type} (encoder : Encoder α) : Prop :=
  ∀ draft, (encoder.run draft).Satisfies (fun _ after => after.voucher = draft.voucher)
    fun _ after => after.voucher = draft.voucher

namespace KeepsVoucher

variable {α β : Type}

theorem pure (value : α) : KeepsVoucher (Pure.pure value) := Exec.Keeps.pure value

theorem checkPut (err : Int) (message : String) : KeepsVoucher (checkPut err message) :=
  Exec.Keeps.refuseIf _ _

theorem put (call : Memory → Returned (Memory × Buf)) (message : String) :
    KeepsVoucher (put call message) := by
  intro draft
  simp only [Parser.put, Parser.checkPut, Exec.satisfies_bind, Exec.satisfies_read,
    Exec.satisfies_update, Exec.satisfies_refuseIf, Exec.satisfies_pure, implies_true, and_self]

/-- Two computations in order. -/
theorem bind {first : Encoder α} {next : α → Encoder β} (keeps : KeepsVoucher first)
    (later : ∀ value, KeepsVoucher (next value)) : KeepsVoucher (first >>= next) :=
  Exec.Keeps.bind keeps later

/-- The address that the voucher has is kept. -/
theorem address {encoder : Encoder α} (keeps : KeepsVoucher encoder) {token : Address}
    (addressed : draft.voucher.address = token) :
    (encoder.run draft).Satisfies (fun _ after => after.voucher.address = token)
      fun _ after => after.voucher.address = token := by
  apply (keeps draft).mono
  · intro value after same
    rw [same]
    exact addressed
  · intro error after same
    rw [same]
    exact addressed

theorem putParties (libcmt : LibcmtPut) (buf : Buf) (appAddress receiver : Address) :
    KeepsVoucher (putParties libcmt buf appAddress receiver) :=
  bind (put _ _) fun _ => put _ _

end KeepsVoucher

/-- The machine number of the length in whole words. -/
theorem toNat_wholeWords (length : BitVec 64) :
    (wholeWords length).toNat = Abi.paddedLength length.toNat % 2 ^ 64 := by
  have quotient : (length / u256Length).toNat = length.toNat / 32 := BitVec.toNat_udiv
  have remainder : (length % u256Length).toNat = length.toNat % 32 := BitVec.toNat_umod
  have bound := length.isLt
  have extra : (if length % u256Length = 0 then (0 : BitVec 64) else 1).toNat =
      if length.toNat % 32 = 0 then 0 else 1 := by
    have whole : length % u256Length = 0 ↔ length.toNat % 32 = 0 := by
      rw [← remainder, ← BitVec.toNat_inj]
      rfl
    by_cases exact : length.toNat % 32 = 0
    · rw [if_pos exact, if_pos (whole.mpr exact)]
      rfl
    · rw [if_neg exact, if_neg fun zero => exact (whole.mp zero)]
      rfl
  have word : u256Length.toNat = 32 := rfl
  rw [wholeWords, BitVec.toNat_mul, BitVec.toNat_add, quotient, extra, word, Abi.paddedLength]
  omega

/-- A byte string of a request has fewer than 2^63 bytes, in whole words too. -/
theorem paddedLength_le (data : SizedList UInt8 1) :
    Abi.paddedLength data.items.length ≤ 2 ^ 63 := by
  have fits := data.fits
  have bounds := Abi.paddedLength_bounds data.items.length
  omega

/-- The machine number of the length of a byte string. -/
theorem toNat_dataLength (data : SizedList UInt8 1) :
    data.length.toNat = data.items.length := by
  have fits := data.fits
  exact Nat.mod_eq_of_lt (by omega)

/-- The machine number of the length of a list. -/
theorem toNat_listLength (list : SizedList Bytes32 32) : list.length.toNat = list.items.length := by
  have fits := list.fits
  exact Nat.mod_eq_of_lt (by omega)

/-- The length that the test of a single voucher asks for. -/
theorem toNat_singleLeast (request : VoucherData) :
    (erc1155SingleVoucherPayloadMinSize +
      wholeWords request.erc1155Single.execLayerData.length).toNat =
        request.payloadSize .erc1155Single := by
  have least : erc1155SingleVoucherPayloadMinSize.toNat = 4 + 6 * 32 := rfl
  have small := paddedLength_le request.erc1155Single.execLayerData
  rw [VoucherData.payloadSize, BitVec.toNat_add, toNat_wholeWords, toNat_dataLength, least]
  omega

/-- The length that the test of a batch voucher asks for. -/
theorem toNat_batchLeast (request : VoucherData) :
    (erc1155BatchVoucherPayloadMinSize + 2 * request.erc1155Batch.tokenIds.length + u256Length +
      wholeWords request.erc1155Batch.execLayerData.length).toNat =
        request.testedSize .erc1155Batch := by
  have least : erc1155BatchVoucherPayloadMinSize.toNat = 4 + 8 * 32 := rfl
  have word : u256Length.toNat = 32 := rfl
  have two : (2 : BitVec 64).toNat = 2 := rfl
  have small := paddedLength_le request.erc1155Batch.execLayerData
  have fits := request.erc1155Batch.tokenIds.fits
  rw [VoucherData.testedSize, BitVec.toNat_add, BitVec.toNat_add, BitVec.toNat_add,
    BitVec.toNat_mul, toNat_wholeWords, toNat_dataLength, toNat_listLength, least, word, two]
  omega

/-- A buffer that is too short for the test is refused before anything is written. -/
theorem beginPayload_refused (libcmt : LibcmtPut) {leastLength : BitVec 64}
    (given : draft.voucher.payload.data ≠ 0)
    (short : draft.voucher.payload.length < leastLength) (token : Address) (funsel : UInt32) :
    (beginPayload libcmt leastLength token funsel).run draft =
      .throw ⟨"Invalid voucher payload buffersize", -enobufs⟩ draft := by
  simp only [beginPayload, Exec.bind_run, Exec.read_run, Outcome.andThen_ok, Exec.refuseIf_run,
    given, if_false, short, if_true, Outcome.andThen_throw]

/-- Once the test is passed the voucher's address is the token, whatever follows. -/
theorem beginPayload_addresses {leastLength : BitVec 64} (given : draft.voucher.payload.data ≠ 0)
    (long : leastLength ≤ draft.voucher.payload.length) (token : Address) (funsel : UInt32) :
    ((beginPayload libcmt leastLength token funsel).run draft).Satisfies
      (fun _ after => after.voucher.address = token)
      fun _ after => after.voucher.address = token := by
  simp only [beginPayload, Exec.bind_run, Exec.read_run, Outcome.andThen_ok, Exec.refuseIf_run,
    given, if_false, BitVec.not_lt.mpr long, Exec.update_run]
  exact (KeepsVoucher.put _ "Error putting funsel").address rfl

/-- A batch that passes the test leaves the voucher's address set to the token. -/
theorem encodeBatch_addresses (libcmt : LibcmtPut) (appAddress : Address) {request : VoucherData}
    (aligned : request.erc1155Batch.tokenIds.items.length =
      request.erc1155Batch.amounts.items.length)
    (given : draft.voucher.payload.data ≠ 0)
    (passes : request.testedSize .erc1155Batch ≤ draft.voucher.payload.length.toNat) :
    ((encodeErc1155BatchVoucher libcmt appAddress request).run draft).Satisfies
      (fun _ after => after.voucher.address = request.erc1155Batch.token)
      fun _ after => after.voucher.address = request.erc1155Batch.token := by
  have matched : request.erc1155Batch.tokenIds.length = request.erc1155Batch.amounts.length := by
    rw [SizedList.length, SizedList.length, aligned]
  rw [← toNat_batchLeast] at passes
  rw [encodeErc1155BatchVoucher, Exec.satisfies_bind, Exec.satisfies_refuseIf]
  constructor
  · intro mismatched
    exact absurd matched mismatched
  · intro _
    rw [Exec.satisfies_bind]
    apply (beginPayload_addresses given passes _ _).mono
    · intro buf begun addressed
      apply KeepsVoucher.address _ addressed
      apply KeepsVoucher.bind (KeepsVoucher.checkPut (libcmt.markFrame buf).code
        "Error marking frame")
      intro marked
      apply KeepsVoucher.bind (KeepsVoucher.putParties libcmt buf appAddress request.receiver)
      intro buf
      apply KeepsVoucher.bind (KeepsVoucher.checkPut _ "Error putting token id offset")
      intro idReserved
      apply KeepsVoucher.bind (KeepsVoucher.checkPut _ "Error putting amount offset")
      intro amountReserved
      apply KeepsVoucher.bind (KeepsVoucher.checkPut _ "Error putting data offset")
      intro execReserved
      apply KeepsVoucher.bind (KeepsVoucher.put _ "Error putting token ids")
      intro buf
      apply KeepsVoucher.bind (KeepsVoucher.put _ "Error putting amounts")
      intro buf
      apply KeepsVoucher.bind (KeepsVoucher.put _ "Error putting offset")
      intro last
      exact KeepsVoucher.pure ()
    · intro error begun addressed
      exact addressed

section

variable {type : VoucherType} {appAddress : Option Address} {request : VoucherData}

/-- A buffer that has room and passes the test takes the payload. -/
theorem encodeVoucher_returns (standard : libcmt.Standard)
    (named : type.NamesApplication → appAddress.isSome)
    (aligned : type = .erc1155Batch → request.erc1155Batch.tokenIds.items.length =
      request.erc1155Batch.amounts.items.length)
    (given : draft.voucher.payload.data ≠ 0)
    (fits : request.Fits type draft.voucher.payload.length.toNat)
    (passes : request.testedSize type ≤ draft.voucher.payload.length.toNat) :
    ∃ after, (encodeVoucher libcmt type appAddress (some request)).run draft = .ok () after := by
  have enough := fits.2
  cases type with
  | none => exact absurd rfl fits.1
  | ether => exact ⟨_, rfl⟩
  | erc20 =>
    obtain ⟨after, run, _⟩ := encodes_erc20 standard given rfl request enough
    exact ⟨after, run⟩
  | erc721 =>
    obtain ⟨address, rfl⟩ := Option.isSome_iff_exists.mp (named (.inl rfl))
    obtain ⟨after, run, _⟩ := encodes_erc721 standard given rfl address request enough
    exact ⟨after, run⟩
  | erc1155Single =>
    obtain ⟨address, rfl⟩ := Option.isSome_iff_exists.mp (named (.inr (.inl rfl)))
    have least := toNat_singleLeast request
    obtain ⟨after, _, run, _⟩ := encodes_single standard given rfl address request enough
      (BitVec.le_def.mpr (by rw [least]; exact enough))
    exact ⟨after, run⟩
  | erc1155Batch =>
    obtain ⟨address, rfl⟩ := Option.isSome_iff_exists.mp (named (.inr (.inr rfl)))
    have least := toNat_batchLeast request
    obtain ⟨after, _, run, _⟩ := encodes_batch standard given rfl address request (aligned rfl)
      enough (BitVec.le_def.mpr (by rw [least]; exact passes))
    exact ⟨after, run⟩

/-- A buffer that does not pass the test is refused before anything is written. -/
theorem encodeVoucher_refused (libcmt : LibcmtPut)
    (named : type.NamesApplication → appAddress.isSome)
    (aligned : type = .erc1155Batch → request.erc1155Batch.tokenIds.items.length =
      request.erc1155Batch.amounts.items.length)
    (given : draft.voucher.payload.data ≠ 0)
    (fails : type = .none ∨ draft.voucher.payload.length.toNat < request.testedSize type) :
    ∃ error, (encodeVoucher libcmt type appAddress (some request)).run draft =
      .throw error draft := by
  have short (leastLength : BitVec 64) (token : Address) (funsel : UInt32)
      (below : draft.voucher.payload.length.toNat < leastLength.toNat) :=
    beginPayload_refused libcmt given (BitVec.lt_def.mpr below) token funsel
  cases type with
  | none => exact ⟨_, rfl⟩
  | ether =>
    rcases fails with none | below
    · cases none
    · exact absurd below (Nat.not_lt_zero _)
  | erc20 =>
    rcases fails with none | below
    · cases none
    · refine ⟨⟨"Invalid voucher payload buffersize", -enobufs⟩, ?_⟩
      show (encodeErc20Voucher libcmt request).run draft = _
      rw [encodeErc20Voucher, Exec.bind_run, short erc20VoucherPayloadSize _ _ below]
      rfl
  | erc721 =>
    obtain ⟨address, rfl⟩ := Option.isSome_iff_exists.mp (named (.inl rfl))
    rcases fails with none | below
    · cases none
    · refine ⟨⟨"Invalid voucher payload buffersize", -enobufs⟩, ?_⟩
      show (encodeErc721Voucher libcmt address request).run draft = _
      rw [encodeErc721Voucher, Exec.bind_run, short erc721VoucherPayloadSize _ _ below]
      rfl
  | erc1155Single =>
    obtain ⟨address, rfl⟩ := Option.isSome_iff_exists.mp (named (.inr (.inl rfl)))
    rcases fails with none | below
    · cases none
    · refine ⟨⟨"Invalid voucher payload buffersize", -enobufs⟩, ?_⟩
      change _ < request.payloadSize .erc1155Single at below
      rw [← toNat_singleLeast request] at below
      show (encodeErc1155SingleVoucher libcmt address request).run draft = _
      rw [encodeErc1155SingleVoucher, Exec.bind_run, short _ _ _ below]
      rfl
  | erc1155Batch =>
    obtain ⟨address, rfl⟩ := Option.isSome_iff_exists.mp (named (.inr (.inr rfl)))
    rcases fails with none | below
    · cases none
    · refine ⟨⟨"Invalid voucher payload buffersize", -enobufs⟩, ?_⟩
      have matched :
          request.erc1155Batch.tokenIds.length = request.erc1155Batch.amounts.length := by
        rw [SizedList.length, SizedList.length, aligned rfl]
      rw [← toNat_batchLeast] at below
      show (encodeErc1155BatchVoucher libcmt address request).run draft = _
      rw [encodeErc1155BatchVoucher, Exec.bind_run, Exec.refuseIf_run, if_neg (not_not.mpr matched),
        Outcome.andThen_ok, Exec.bind_run, short _ _ _ below]
      rfl

/-- An address that is not the one given. -/
theorem exists_other_address (token : Address) : ∃ other : Address, other ≠ token := by
  by_cases zero : token = zeros 20
  · exact ⟨List.Vector.replicate 20 1, fun same => absurd (same.trans zero) (by decide)⟩
  · exact ⟨zeros 20, fun same => zero same.symm⟩

/-- A misjudged buffer is refused though it has room, or written though it has not. -/
theorem misjudged_not_encodesByRoom (named : type.NamesApplication → appAddress.isSome)
    (aligned : type = .erc1155Batch → request.erc1155Batch.tokenIds.items.length =
      request.erc1155Batch.amounts.items.length)
    (given : payload.data ≠ 0)
    (misjudged : request.Misjudged type payload.length.toNat) :
    ¬EncodesByRoom libcmt type appAddress request payload := by
  have batch := misjudged.1
  subst batch
  have differ := (misjudged_iff request payload.length.toNat).mp misjudged
  intro byRoom
  obtain ⟨address, rfl⟩ := Option.isSome_iff_exists.mp (named (.inr (.inr rfl)))
  obtain ⟨other, distinct⟩ := exists_other_address request.erc1155Batch.token
  obtain ⟨start, placed, addressed⟩ : ∃ start : Draft, start.voucher.payload = payload ∧
    start.voucher.address = other := ⟨⟨⟨other, zeros 32, payload⟩, fun _ => 0⟩, rfl, rfl⟩
  subst placed
  have judged := byRoom start rfl
  by_cases passes : request.testedSize .erc1155Batch ≤ start.voucher.payload.length.toNat
  · have small : ¬request.payloadSize .erc1155Batch ≤ start.voucher.payload.length.toNat :=
      fun large => differ (iff_of_true passes large)
    -- The test is passed, so whatever the outcome is, the address is the token's.
    have written := encodeBatch_addresses libcmt address (aligned rfl) given passes
    change ((encodeVoucher libcmt .erc1155Batch (some address) (some request)).run
      start).Satisfies _ _ at written
    cases outcome :
      (encodeVoucher libcmt .erc1155Batch (some address) (some request)).run start with
    | ok value after =>
      rw [outcome] at judged
      exact small judged.2.2
    | throw error after =>
      rw [outcome] at judged written
      have kept : after.voucher.address = start.voucher.address := judged.2.2.1
      exact distinct (addressed.symm.trans (kept.symm.trans written))
    | undefined =>
      rw [outcome] at judged
      exact judged.1
  · obtain ⟨error, run⟩ := encodeVoucher_refused libcmt named aligned given
      (.inr (Nat.not_le.mp passes))
    rw [run] at judged
    apply judged.2.1
    constructor
    · decide
    · by_contra small
      exact differ (iff_of_false passes small)

/-- Encoding returns exactly in buffers with room for the payload, and touches nothing when it
throws, unless the buffer of a batch is misjudged. -/
theorem encodesByRoom_iff (libcmt : LibcmtPut) (standard : libcmt.Standard) (type : VoucherType)
    (appAddress : Option Address) (named : type.NamesApplication → appAddress.isSome)
    (request : VoucherData)
    (aligned : type = .erc1155Batch → request.erc1155Batch.tokenIds.items.length =
      request.erc1155Batch.amounts.items.length) (payload : Payload) (given : payload.data ≠ 0) :
    EncodesByRoom libcmt type appAddress request payload ↔
      ¬request.Misjudged type payload.length.toNat := by
  constructor
  · intro byRoom misjudged
    exact misjudged_not_encodesByRoom named aligned given misjudged byRoom
  · intro judged draft placed
    subst placed
    have agrees : request.testedSize type ≤ draft.voucher.payload.length.toNat ↔
        request.payloadSize type ≤ draft.voucher.payload.length.toNat := by
      by_cases batch : type = .erc1155Batch
      · subst batch
        exact not_not.mp fun differ => judged ((misjudged_iff request _).mpr differ)
      · cases type <;> first | rfl | exact absurd rfl batch
    by_cases fits : request.Fits type draft.voucher.payload.length.toNat
    · obtain ⟨after, run⟩ := encodeVoucher_returns standard named aligned given fits
        (agrees.mpr fits.2)
      rw [run]
      exact ⟨trivial, fits⟩
    · have fails : type = .none ∨ draft.voucher.payload.length.toNat < request.testedSize type := by
        by_cases none : type = .none
        · exact .inl none
        · right
          rw [← Nat.not_le, agrees]
          exact fun enough => fits ⟨none, enough⟩
      obtain ⟨error, run⟩ := encodeVoucher_refused libcmt named aligned given fails
      rw [run]
      exact ⟨trivial, fits, rfl, rfl, fun _ _ => rfl⟩

end

/-- A batch voucher of one token id and one amount, without data. -/
def oneElementBatch : VoucherData where
  receiver := zeros 20
  ether := ⟨zeros 32⟩
  erc20 := ⟨zeros 20, zeros 32⟩
  erc721 := ⟨zeros 20, zeros 32⟩
  erc1155Single := ⟨zeros 20, zeros 32, zeros 32, ⟨[], by decide⟩⟩
  erc1155Batch := ⟨zeros 20, ⟨[zeros 32], by decide⟩, ⟨[zeros 32], by decide⟩, ⟨[], by decide⟩⟩

/-- The application that sends it. -/
def sampleApplication : Address := .ofNat 20 1

/-- A batch voucher of two token ids and two amounts, with three bytes of data. -/
def twoElementBatch : VoucherData where
  receiver := .ofNat 20 2
  ether := ⟨zeros 32⟩
  erc20 := ⟨zeros 20, zeros 32⟩
  erc721 := ⟨zeros 20, zeros 32⟩
  erc1155Single := ⟨zeros 20, zeros 32, zeros 32, ⟨[], by decide⟩⟩
  erc1155Batch := ⟨.ofNat 20 3, ⟨[.ofNat 32 4, .ofNat 32 (2 ^ 200)], by decide⟩,
    ⟨[.ofNat 32 6, .ofNat 32 7], by decide⟩, ⟨[8, 9, 10], by decide⟩⟩

/-- A buffer of the size of its payload. -/
def exactBuffer : Payload := ⟨420, 8192, by decide⟩

/-- It is judged right. -/
theorem encodesByRoom_twoElement : EncodesByRoom LibcmtPut.reference .erc1155Batch
    (some sampleApplication) twoElementBatch exactBuffer :=
  (encodesByRoom_iff LibcmtPut.reference LibcmtPut.reference_standard .erc1155Batch
    (some sampleApplication) (fun _ => rfl) twoElementBatch (fun _ => rfl) exactBuffer
    (by decide)).mpr fun misjudged => absurd misjudged.2 (by decide)

/-- A buffer of 294 bytes is accepted for the 324 bytes of the payload. -/
theorem oneElement_not_encodesByRoom : ¬EncodesByRoom LibcmtPut.reference .erc1155Batch
    (some (zeros 20)) oneElementBatch ⟨294, 4096, by decide⟩ :=
  misjudged_not_encodesByRoom (fun _ => rfl) (fun _ => rfl) (by decide) ⟨rfl, by decide⟩

end Libcma.Parser
