import Libcma.Parser.Voucher

/-!
# What the encoders put

An encoder appends to the payload. `Draft.Carries` says which bytes lie there from its first one on,
with the voucher's address set to the token and its value cleared; each put of a piece that fits
appends the piece (`put_appends`), a reserved word is appended unwritten (`reserve_appends`), and a
list or a byte string patches its reserved word and appends its tail (`putUint256List_appends`,
`putBytesD_appends`). What is put before a failure is not looked at: `KeepsVoucher` is all that is
known of an encoder that runs out of room.
-/

namespace Libcma.Parser

variable {libcmt : LibcmtPut} {payload : Payload} {token : Address} {draft : Draft}

/-- The voucher calls the token with no value, and the bytes lie at the front of its payload. -/
structure Draft.Carries (draft : Draft) (token : Address) (payload : Payload) (bytes : List UInt8) :
    Prop where
  /-- The voucher calls the token. -/
  address : draft.voucher.address = token
  /-- The voucher has no value. -/
  value : draft.voucher.value = zeros 32
  /-- The payload is the one given. -/
  buffer : draft.voucher.payload = payload
  /-- The bytes lie at its front. -/
  holds : Cells.Holds draft.memory payload.data bytes

/-- A put that succeeds. -/
theorem put_run {call : Memory → Returned (Memory × Buf)} {memory : Memory} {rest : Buf}
    (succeeds : call draft.memory = ⟨0, memory, rest⟩) (message : String) :
    (put call message).run draft = .ok rest { draft with memory := memory } := by
  simp only [put, checkPut, Exec.bind_run, Exec.read_run, Outcome.andThen_ok, succeeds,
    Exec.update_run, Exec.refuseIf_run, ne_eq, not_true_eq_false, if_false, Exec.pure_run]

/-- A put that appends a piece. -/
theorem put_appends {bytes piece : List UInt8} (carries : draft.Carries token payload bytes)
    (fits : bytes.length + piece.length ≤ payload.length.toNat)
    (call : Memory → Returned (Memory × Buf)) (message : String)
    (appends : call draft.memory =
      ⟨0, draft.memory.write (payload.data + BitVec.ofNat 64 bytes.length) piece,
        payload.from (bytes.length + piece.length)⟩) :
    ∃ after, (put call message).run draft = .ok (payload.from (bytes ++ piece).length) after ∧
      after.Carries token payload (bytes ++ piece) := by
  have bound := payload.fits
  refine ⟨{ draft with memory := draft.memory.write _ piece }, ?_, carries.address, carries.value,
    carries.buffer, carries.holds.extend piece (by omega)⟩
  rw [put_run appends, List.length_append]

/-- An address that fits. -/
theorem putAddress_from (standard : libcmt.Standard) {position : ℕ}
    (fits : position + 32 ≤ payload.length.toNat) (memory : Memory) (address : Address) :
    libcmt.putAddress memory (payload.from position) address =
      ⟨0, memory.write (payload.data + BitVec.ofNat 64 position) (addressWord address),
        payload.from (position + 32)⟩ := by
  rw [standard.putAddress memory _ address (fits_from fits), ← from_add]
  rfl

/-- A 256-bit number that fits. -/
theorem putUint256_from (standard : libcmt.Standard) {position : ℕ}
    (fits : position + 32 ≤ payload.length.toNat) (memory : Memory) (value : Bytes32) :
    libcmt.putUint256 memory (payload.from position) value =
      ⟨0, memory.write (payload.data + BitVec.ofNat 64 position) value.toList,
        payload.from (position + 32)⟩ := by
  rw [standard.putUint256 memory _ value (fits_from fits), ← from_add]
  rfl

/-- Putting an address appends its word. -/
theorem putAddress_appends (standard : libcmt.Standard) {bytes : List UInt8}
    (carries : draft.Carries token payload bytes)
    (fits : bytes.length + 32 ≤ payload.length.toNat) (address : Address) (message : String) :
    ∃ after, (put (fun memory => libcmt.putAddress memory (payload.from bytes.length) address)
        message).run draft = .ok (payload.from (bytes ++ addressWord address).length) after ∧
      after.Carries token payload (bytes ++ addressWord address) := by
  apply put_appends carries
  · rw [length_addressWord]
    exact fits
  · rw [length_addressWord]
    exact putAddress_from standard fits draft.memory address

/-- Putting a 256-bit number appends its bytes. -/
theorem putUint256_appends (standard : libcmt.Standard) {bytes : List UInt8}
    (carries : draft.Carries token payload bytes)
    (fits : bytes.length + 32 ≤ payload.length.toNat) (value : Bytes32) (message : String) :
    ∃ after, (put (fun memory => libcmt.putUint256 memory (payload.from bytes.length) value)
        message).run draft = .ok (payload.from (bytes ++ value.toList).length) after ∧
      after.Carries token payload (bytes ++ value.toList) := by
  apply put_appends carries
  · rw [List.Vector.toList_length]
    exact fits
  · rw [List.Vector.toList_length]
    exact putUint256_from standard fits draft.memory value

/-- Putting both addresses appends their words. -/
theorem putParties_appends (standard : libcmt.Standard) {bytes : List UInt8}
    (carries : draft.Carries token payload bytes)
    (fits : bytes.length + 64 ≤ payload.length.toNat) (appAddress receiver : Address) :
    ∃ after, (putParties libcmt (payload.from bytes.length) appAddress receiver).run draft =
        .ok (payload.from (bytes ++ addressWord appAddress ++ addressWord receiver).length) after ∧
      after.Carries token payload (bytes ++ addressWord appAddress ++ addressWord receiver) := by
  obtain ⟨middle, first, held⟩ := putAddress_appends standard carries (by omega) appAddress
    "Error putting sender"
  have room : (bytes ++ addressWord appAddress).length + 32 ≤ payload.length.toNat := by
    rw [List.length_append, length_addressWord]
    omega
  obtain ⟨after, second, carried⟩ := putAddress_appends standard held room receiver
    "Error putting receiver"
  refine ⟨after, ?_, carried⟩
  rw [putParties, Exec.bind_run, first, Outcome.andThen_ok]
  exact second

/-- A payload that is long enough is begun with the selector. -/
theorem beginPayload_run (standard : libcmt.Standard) (given : payload.data ≠ 0)
    (placed : draft.voucher.payload = payload) {leastLength : BitVec 64}
    (enough : leastLength ≤ payload.length) (fits : 4 ≤ payload.length.toNat) (token : Address)
    (funsel : UInt32) :
    ∃ after, (beginPayload libcmt leastLength token funsel).run draft =
        .ok (payload.from (selectorBytes funsel).length) after ∧
      after.Carries token payload (selectorBytes funsel) := by
  subst placed
  have whole := standard.bufInit_whole draft.voucher.payload
  have called : Draft.Carries
      ⟨⟨token, zeros 32, draft.voucher.payload⟩, draft.memory⟩ token draft.voucher.payload [] :=
    ⟨rfl, rfl, rfl, Cells.holds_nil⟩
  have putting (memory : Memory) : libcmt.putFunsel memory
      (draft.voucher.payload.from ([] : List UInt8).length)
      (convertToCmtFunsel libcmt.toLibcmt funsel) =
        ⟨0, memory.write (draft.voucher.payload.data + BitVec.ofNat 64 ([] : List UInt8).length)
          (selectorBytes funsel), draft.voucher.payload.from 4⟩ := by
    rw [convertToCmtFunsel, standard.putFunsel memory _ _ _ _ _
      (fits_from (show ([] : List UInt8).length + 4 ≤ _ from fits))]
    exact congrArg (fun rest => (⟨0, _, rest⟩ : Returned (Memory × Buf)))
      (from_add draft.voucher.payload 0 4)
  have room : ([] : List UInt8).length + (selectorBytes funsel).length ≤
      draft.voucher.payload.length.toNat := fits
  obtain ⟨after, run, carried⟩ := put_appends called room (fun memory => libcmt.putFunsel memory
    (draft.voucher.payload.from ([] : List UInt8).length)
    (convertToCmtFunsel libcmt.toLibcmt funsel)) "Error putting funsel" (putting draft.memory)
  refine ⟨after, ?_, carried⟩
  simp only [beginPayload, Exec.bind_run, Exec.read_run, Outcome.andThen_ok, Exec.refuseIf_run,
    given, if_false, BitVec.not_lt.mpr enough, Exec.update_run, whole]
  exact run

/-- A word is reserved behind the bytes; what lies there is not known. -/
theorem reserve_appends (standard : libcmt.Standard) {bytes : List UInt8}
    (carries : draft.Carries token payload bytes)
    (fits : bytes.length + 32 ≤ payload.length.toNat) :
    ∃ reserved : List UInt8, reserved.length = 32 ∧
      (libcmt.putBytesS (payload.from bytes.length)).code = 0 ∧
      (libcmt.putBytesS (payload.from bytes.length)).out.lhs.begin =
        payload.data + BitVec.ofNat 64 bytes.length ∧
      (libcmt.putBytesS (payload.from bytes.length)).out.rhs =
        payload.from (bytes ++ reserved).length ∧
      draft.Carries token payload (bytes ++ reserved) := by
  have split := standard.bufSplit_word fits
  obtain ⟨reserved, sized, holds⟩ := carries.holds.grow 32
  refine ⟨reserved, sized, ?_⟩
  rw [standard.putBytesS, split, List.length_append, sized]
  exact ⟨rfl, rfl, rfl, carries.address, carries.value, carries.buffer, holds⟩

/-- Writing an offset over its reserved word, and a tail behind everything. -/
theorem holds_patch_tail {memory : Memory} {front reserved between offset size content : List UInt8}
    (holds : Cells.Holds memory payload.data (front ++ reserved ++ between))
    (reservedWord : reserved.length = 32) (offsetWord : offset.length = 32)
    (fits : (front ++ reserved ++ between ++ (size ++ content)).length ≤ payload.length.toNat) :
    Cells.Holds (((memory.write (payload.data + BitVec.ofNat 64 front.length) offset).write
      (payload.data + BitVec.ofNat 64 (front ++ reserved ++ between).length) size).write
      (payload.data + BitVec.ofNat 64 ((front ++ reserved ++ between).length + size.length)) content)
      payload.data (front ++ offset ++ between ++ (size ++ content)) := by
  have bound := payload.fits
  simp only [List.length_append] at fits
  have same : (front ++ reserved ++ between).length = (front ++ offset ++ between).length := by
    simp only [List.length_append, reservedWord, offsetWord]
  have patched := holds.patch offset (offsetWord.trans reservedWord.symm) (by omega)
  have sized := patched.extend size (by
    simp only [List.length_append]
    omega)
  have filled := sized.extend content (by
    simp only [List.length_append]
    omega)
  rw [same, ← List.length_append, ← List.append_assoc]
  exact filled

/-- The distance of a position from the frame. -/
theorem position_sub_frame {position frame : ℕ} (behind : frame ≤ position)
    (fits : position ≤ payload.length.toNat) :
    ((payload.from position).begin - (payload.from frame).begin).toNat = position - frame := by
  have bound := payload.fits
  have distance := Cells.toNat_sub_offset payload.data (show frame < 2 ^ 64 by omega)
    (show position < 2 ^ 64 by omega)
  rw [if_pos behind] at distance
  exact distance

/-- A list that fits: its offset, its length and its elements. -/
theorem putUint256List_from (standard : libcmt.Standard) {position frame : ℕ}
    (list : List Bytes32) (behind : frame ≤ position)
    (fits : position + 32 + 32 * list.length ≤ payload.length.toNat) (memory : Memory)
    (offset : Buf) :
    putUint256List libcmt memory (payload.from position) offset (payload.from frame) list =
      ⟨0, ((memory.write offset.begin (Abi.word (position - frame))).write
        (payload.data + BitVec.ofNat 64 position) (Abi.word list.length)).write
        (payload.data + BitVec.ofNat 64 (position + 32)) (list.flatMap List.Vector.toList),
        payload.from (position + 32 + 32 * list.length)⟩ := by
  have bound := payload.fits
  have size : BitVec.ofNat 64 list.length * u256Length = BitVec.ofNat 64 (32 * list.length) := by
    rw [Nat.mul_comm, BitVec.ofNat_mul]
    rfl
  have uints := standard.bufSplit_from (show position + 32 ≤ payload.length.toNat by omega)
    u256Length rfl
  have out := standard.bufSplit_from fits _ size
  have count : (BitVec.ofNat 64 list.length).toNat = list.length :=
    Nat.mod_eq_of_lt (by omega)
  have distance := position_sub_frame behind (show position ≤ payload.length.toNat by omega)
  have inRange (value : ℕ) (small : value < 2 ^ 64) : value < 256 ^ 8 := small
  have offsetPut := standard.encodeUint memory 8 (position - frame) offset.begin (by decide)
    (inRange _ (by omega))
  have countPut := standard.encodeUint
    (memory.write offset.begin (Abi.word (position - frame))) 8 list.length
    (payload.data + BitVec.ofNat 64 position) (by decide) (inRange _ (by omega))
  change ((payload.data + BitVec.ofNat 64 position) - _).toNat = _ at distance
  simp only [putUint256List, reserveUints, uints, out, ne_eq, not_true_eq_false, if_false,
    distance, offsetPut, count, countPut]

/-- A byte string that fits: its offset, its length and its bytes. -/
theorem putBytesD_from (standard : libcmt.Standard) {position frame : ℕ} (data : List UInt8)
    (behind : frame ≤ position)
    (fits : position + 32 + Abi.paddedLength data.length ≤ payload.length.toNat) (memory : Memory)
    (offset : Buf) :
    ∃ padding : List UInt8, padding.length = Abi.paddedLength data.length - data.length ∧
      libcmt.putBytesD memory (payload.from position) offset (payload.from frame) data =
        ⟨0, ((memory.write offset.begin (Abi.word (position - frame))).write
          (payload.data + BitVec.ofNat 64 position) (Abi.word data.length)).write
          (payload.data + BitVec.ofNat 64 (position + 32)) (data ++ padding),
          payload.from (position + 32 + Abi.paddedLength data.length)⟩ := by
  have bound := payload.fits
  have distance := position_sub_frame behind (show position ≤ payload.length.toNat by omega)
  obtain ⟨padding, padded, result⟩ := standard.putBytesD memory (payload.from position) offset
    (payload.from frame) data (fits_from (by omega))
  have behind : (payload.from position).begin + 32 =
      payload.data + BitVec.ofNat 64 (position + 32) := (payload.data_add position 32).symm
  refine ⟨padding, padded, ?_⟩
  rw [result, distance, behind, ← from_add]
  rfl

section

variable {front reserved between : List UInt8} {frame : ℕ} {offset : Buf}

/-- A put that writes an offset over its reserved word and appends a tail. -/
theorem put_patches (carries : draft.Carries token payload (front ++ reserved ++ between))
    (reservedWord : reserved.length = 32)
    (offsetThere : offset.begin = payload.data + BitVec.ofNat 64 front.length) {value size : ℕ}
    {content : List UInt8}
    (fits : (front ++ reserved ++ between).length + 32 + content.length ≤ payload.length.toNat)
    (call : Memory → Returned (Memory × Buf)) (message : String)
    (puts : call draft.memory =
      ⟨0, ((draft.memory.write offset.begin (Abi.word value)).write
        (payload.data + BitVec.ofNat 64 (front ++ reserved ++ between).length)
        (Abi.word size)).write
        (payload.data + BitVec.ofNat 64 ((front ++ reserved ++ between).length + 32)) content,
        payload.from ((front ++ reserved ++ between).length + 32 + content.length)⟩) :
    let bytes := front ++ Abi.word value ++ between ++ (Abi.word size ++ content)
    ∃ after, (put call message).run draft = .ok (payload.from bytes.length) after ∧
      after.Carries token payload bytes := by
  intro bytes
  have total : (front ++ reserved ++ between).length + 32 + content.length = bytes.length := by
    simp only [bytes, List.length_append, Abi.length_word, reservedWord]
    omega
  have room : (front ++ reserved ++ between ++ (Abi.word size ++ content)).length ≤
      payload.length.toNat := by
    have tail : (Abi.word size ++ content).length = 32 + content.length := by
      rw [List.length_append, Abi.length_word]
    rw [List.length_append, tail]
    omega
  have holds := holds_patch_tail carries.holds reservedWord (Abi.length_word value) room
  rw [Abi.length_word, ← offsetThere] at holds
  rw [total] at puts
  exact ⟨{ draft with memory := _ }, put_run puts message, carries.address, carries.value,
    carries.buffer, holds⟩

/-- Putting a list writes its offset over the reserved word and appends its tail. -/
theorem putUint256List_appends (standard : libcmt.Standard)
    (carries : draft.Carries token payload (front ++ reserved ++ between))
    (reservedWord : reserved.length = 32)
    (offsetThere : offset.begin = payload.data + BitVec.ofNat 64 front.length)
    (behind : frame ≤ (front ++ reserved ++ between).length) (list : List Bytes32)
    (fits : (front ++ reserved ++ between).length + 32 + 32 * list.length ≤
      payload.length.toNat) (message : String) :
    let bytes := front ++ Abi.word ((front ++ reserved ++ between).length - frame) ++ between ++
      (Abi.Arg.words list).tail
    ∃ after, (put (fun memory => putUint256List libcmt memory
        (payload.from (front ++ reserved ++ between).length) offset (payload.from frame) list)
          message).run draft = .ok (payload.from bytes.length) after ∧
      after.Carries token payload bytes := by
  have puts := putUint256List_from standard list behind fits draft.memory offset
  rw [← Abi.length_words list] at fits puts
  exact put_patches carries reservedWord offsetThere fits (fun memory => putUint256List libcmt memory
    (payload.from (front ++ reserved ++ between).length) offset (payload.from frame) list) message
    puts

/-- Putting a byte string writes its offset over the reserved word and appends its tail. -/
theorem putBytesD_appends (standard : libcmt.Standard)
    (carries : draft.Carries token payload (front ++ reserved ++ between))
    (reservedWord : reserved.length = 32)
    (offsetThere : offset.begin = payload.data + BitVec.ofNat 64 front.length)
    (behind : frame ≤ (front ++ reserved ++ between).length) (data : List UInt8)
    (fits : (front ++ reserved ++ between).length + 32 + Abi.paddedLength data.length ≤
      payload.length.toNat) (message : String) :
    ∃ padding : List UInt8, padding.length = Abi.paddedLength data.length - data.length ∧
      let bytes := front ++ Abi.word ((front ++ reserved ++ between).length - frame) ++ between ++
        (Abi.Arg.bytes data padding).tail
      ∃ after, (put (fun memory => libcmt.putBytesD memory
          (payload.from (front ++ reserved ++ between).length) offset (payload.from frame) data)
            message).run draft = .ok (payload.from bytes.length) after ∧
        after.Carries token payload bytes := by
  obtain ⟨padding, padded, puts⟩ :=
    putBytesD_from standard data behind fits draft.memory offset
  have whole : Abi.paddedLength data.length = (data ++ padding).length := by
    have bounds := Abi.paddedLength_bounds data.length
    rw [List.length_append, padded]
    omega
  rw [whole] at fits puts
  exact ⟨padding, padded, put_patches carries reservedWord offsetThere fits (fun memory =>
    libcmt.putBytesD memory (payload.from (front ++ reserved ++ between).length) offset
      (payload.from frame) data) message puts⟩

end

end Libcma.Parser
