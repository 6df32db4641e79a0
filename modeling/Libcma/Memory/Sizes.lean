import Libcma.Memory.State
import Libcma.Parser.Abi
import Mathlib.Data.BitVec

/-!
# The size checks of the initialisation

`cma_ledger_init_buffer` and `cma_ledger_init_file` compare the memory they are given with
`estimate_required_size`, which is computed in `size_t` and wraps. The same formula over the
naturals is the size that is truly required: `toNat_requiredSize` says how the two differ, and
`initChecks_sound_iff` when the checks hold what they are for.
-/

namespace Libcma.Memory

/-- `size_t`. -/
abbrev Size : Type := BitVec 64

/-- `CMA_LEDGER_MIN_MEM_LENGTH`. -/
def minMemLength : ℕ := 262144

/-- `sizeof(cma_ledger_asset_id_t)`, `sizeof(cma_ledger_account_id_t)`. -/
def idSize : ℕ := 8

/-- `sizeof(cma_ledger_asset_struct_t)`: a type, a token address, a token id and a supply. -/
def assetStructSize : ℕ := 4 + 20 + 32 + 32

/-- `sizeof(cma_ledger_asset_key_bytes_t)`, `CMA_LEDGER_ASSET_MAP_KEY_SIZE`. -/
def assetKeyBytesSize : ℕ := 1 + 20 + 32

/-- `sizeof(cma_ledger_account_struct_t)`: a type, an account id, four bytes that align the
counter, and the counter. -/
def accountStructSize : ℕ := 4 + 32 + 4 + 8

/-- `sizeof(cma_ledger_account_key_bytes_t)`. -/
def accountKeyBytesSize : ℕ := 32

/-- `sizeof(cma_map_key_t)`: two ids. -/
def mapKeySize : ℕ := idSize + idSize

/-- `sizeof(cma_balance_t)`: a type, four bytes that align the pointers, and two pointers. -/
def balanceSize : ℕ := 4 + 4 + 8 + 8

/-- The sizes of the container headers, which the container library fixes. -/
structure HeaderSizes where
  /-- `sizeof(interprocess::void_allocator)`. -/
  voidAllocator : ℕ
  /-- `sizeof(lassid_to_asset_t)`. -/
  lassidToAsset : ℕ
  /-- `sizeof(asset_to_lassid_t)`. -/
  assetToLassid : ℕ
  /-- `sizeof(laccid_to_account_t)`. -/
  laccidToAccount : ℕ
  /-- `sizeof(account_to_laccid_t)`. -/
  accountToLaccid : ℕ
  /-- `sizeof(account_asset_map_t)`. -/
  accountAssetMap : ℕ

/-- How many accounts, assets and balances the caller asks for. -/
structure Counts (α : Type) where
  /-- `n_accounts`. -/
  nAccounts : α
  /-- `n_assets`. -/
  nAssets : α
  /-- `n_balances`. -/
  nBalances : α

/-- The counts as naturals. -/
def Counts.toNat (counts : Counts Size) : Counts ℕ :=
  ⟨counts.nAccounts.toNat, counts.nAssets.toNat, counts.nBalances.toNat⟩

section Estimate

variable {α : Type} [NatCast α] [Add α] [Mul α] [Div α]

/-- The sum that `estimate_required_size` scales, in any arithmetic. -/
def contentsSize (headers : HeaderSizes) (counts : Counts α) : α :=
  (headers.voidAllocator : α) +
    ((headers.lassidToAsset : α) +
      counts.nAssets * ((idSize : α) + (assetStructSize : α))) +
    ((headers.assetToLassid : α) +
      counts.nAssets * ((assetKeyBytesSize : α) + (idSize : α))) +
    ((headers.laccidToAccount : α) +
      counts.nAccounts * ((idSize : α) + (accountStructSize : α))) +
    ((headers.accountToLaccid : α) +
      counts.nAccounts * ((accountKeyBytesSize : α) + (idSize : α))) +
    ((headers.accountAssetMap : α) +
      counts.nBalances * ((mapKeySize : α) + (balanceSize : α) + (AccountBalance.size : α) +
        (mapKeySize : α) + (mapKeySize : α))) +
    (3 : ℕ) * (idSize : α) + (1 : ℕ)

/-- `estimate_required_size`: a quarter more than the contents, and the least length. -/
def requiredSize (headers : HeaderSizes) (counts : Counts α) : α :=
  contentsSize headers counts * (5 : ℕ) / (4 : ℕ) + (minMemLength : α)

end Estimate

/-- The part of the memory behind the balances array, where the managed segment is made. -/
structure Segment where
  /-- Distance from the beginning of the memory. -/
  start : Size
  /-- Number of bytes. -/
  length : Size
  deriving DecidableEq

/-- `balances` at the beginning of the memory, `m_memory` behind it. -/
def segmentOf (counts : Counts Size) (memLength : Size) : Segment :=
  ⟨counts.nBalances * BitVec.ofNat 64 AccountBalance.size,
    memLength - counts.nBalances * BitVec.ofNat 64 AccountBalance.size⟩

/-- "Mem length too small". -/
def checkMemLength (headers : HeaderSizes) (counts : Counts Size) (memLength : Size) :
    Except CmaException Unit :=
  if requiredSize headers counts > memLength then
    throw ⟨"Mem length too small", -Parser.enobufs⟩
  else
    return

/-- `cma_ledger_memory::cma_ledger_memory`, over a memory of the given length. The segment is made
before the length is checked; what the container library refuses is left out. -/
def construct (headers : HeaderSizes) (counts : Counts Size) (memLength : Size) :
    Except CmaException Segment := do
  let segment := segmentOf counts memLength
  checkMemLength headers counts memLength
  return segment

/-- `cma_ledger_init_buffer`. -/
def initBuffer (headers : HeaderSizes) (counts : Counts Size) (memLength : Size) :
    Except CmaException Segment := do
  checkMemLength headers counts memLength
  construct headers counts memLength

/-- `cma_ledger_memory_mode_t`. -/
inductive MemoryMode where
  | openOnly
  | createOnly
  deriving DecidableEq

/-- `cma_ledger_init_file`. The length of a file that cannot be opened is 0. -/
def initFile (headers : HeaderSizes) (mode : Option MemoryMode) (filesize offset : Size)
    (counts : Counts Size) (memLength : Size) : Except CmaException Segment := do
  checkMemLength headers counts memLength
  if requiredSize headers counts > filesize - offset then
    throw ⟨"File size too small", -Parser.enobufs⟩
  match mode with
  | some .openOnly => construct headers counts memLength
  | some .createOnly => construct headers counts memLength
  | none => throw ⟨"Invalid file mode type", -einval⟩

/-- The balances array and the least length fit in the memory. -/
def BalancesFit (counts : Counts Size) (memLength : Size) : Prop :=
  counts.nBalances.toNat * AccountBalance.size + minMemLength ≤ memLength.toNat

/-- What is truly required lies in the file, behind the offset. -/
def LiesInFile (headers : HeaderSizes) (counts : Counts Size) (filesize offset : Size) : Prop :=
  offset ≤ filesize ∧ offset.toNat + requiredSize headers counts.toNat ≤ filesize.toNat

/-- A buffer that is accepted is large enough. -/
def BufferSound (headers : HeaderSizes) (counts : Counts Size) (memLength : Size) : Prop :=
  ∀ segment, initBuffer headers counts memLength = .ok segment → BalancesFit counts memLength

/-- A file that is accepted is large enough. -/
def FileSound (headers : HeaderSizes) (mode : Option MemoryMode) (filesize offset : Size)
    (counts : Counts Size) (memLength : Size) : Prop :=
  ∀ segment, initFile headers mode filesize offset counts memLength = .ok segment →
    BalancesFit counts memLength ∧ LiesInFile headers counts filesize offset

/-- What the contents take, with the security factor. -/
def scaledSize (headers : HeaderSizes) (counts : Counts Size) : ℕ :=
  contentsSize headers counts.toNat * 5 / 4

/-- The sum of the contents is computed modulo `2 ^ 64`. -/
theorem contentsSize_eq (headers : HeaderSizes) (counts : Counts Size) :
    contentsSize headers counts = BitVec.ofNat 64 (contentsSize headers counts.toNat) := by
  simp only [contentsSize, Counts.toNat, BitVec.natCast_eq_ofNat, BitVec.ofNat_add,
    BitVec.ofNat_mul, BitVec.ofNat_toNat, BitVec.setWidth_eq, Nat.cast_id]

/-- Five quarters in a machine word leave out the multiples of `2 ^ 62`. -/
theorem fiveQuarters_wrap (contents : ℕ) :
    (contents % 2 ^ 64 * (5 % 2 ^ 64) % 2 ^ 64 / (4 % 2 ^ 64) + minMemLength % 2 ^ 64) % 2 ^ 64 =
      minMemLength + contents * 5 / 4 % 2 ^ 62 := by
  have small : minMemLength < 2 ^ 61 := by decide
  have wrapped : contents % 2 ^ 64 * 5 % 2 ^ 64 = contents * 5 % 2 ^ 64 := by omega
  rw [Nat.mod_eq_of_lt (show 5 < 2 ^ 64 by decide), Nat.mod_eq_of_lt (show 4 < 2 ^ 64 by decide),
    wrapped]
  generalize contents * 5 = scaled
  omega

/-- The estimate leaves out the multiples of `2 ^ 62` in what the contents take. -/
theorem toNat_requiredSize (headers : HeaderSizes) (counts : Counts Size) :
    (requiredSize headers counts).toNat = minMemLength + scaledSize headers counts % 2 ^ 62 := by
  rw [requiredSize, scaledSize, contentsSize_eq]
  generalize contentsSize headers counts.toNat = contents
  rw [← fiveQuarters_wrap, BitVec.toNat_add, BitVec.toNat_udiv, BitVec.toNat_mul]
  simp only [BitVec.natCast_eq_ofNat, BitVec.toNat_ofNat]

/-- Over the naturals nothing is left out. -/
theorem requiredSize_toNat (headers : HeaderSizes) (counts : Counts Size) :
    requiredSize headers counts.toNat = scaledSize headers counts + minMemLength := rfl

/-- The balances array is part of what the contents take. -/
theorem balances_le_scaledSize (headers : HeaderSizes) (counts : Counts Size) :
    counts.nBalances.toNat * AccountBalance.size ≤ scaledSize headers counts := by
  simp only [scaledSize, contentsSize, Counts.toNat, Nat.cast_id, idSize, mapKeySize, balanceSize,
    AccountBalance.size]
  omega

/-- The check passes in a memory as long as the estimate. -/
theorem checkMemLength_eq_ok {headers : HeaderSizes} {counts : Counts Size} {memLength : Size} :
    checkMemLength headers counts memLength = .ok () ↔
      requiredSize headers counts ≤ memLength := by
  rw [← BitVec.not_lt]
  unfold checkMemLength
  split
  next small => exact iff_of_false nofun (not_not_intro small)
  next large => exact iff_of_true rfl large

/-- A text that begins with the check returns what the rest returns in a memory as long as the
estimate. -/
theorem checkMemLength_bind_eq_ok {headers : HeaderSizes} {counts : Counts Size} {memLength : Size}
    {rest : Except CmaException Segment} {segment : Segment} :
    (checkMemLength headers counts memLength >>= fun _ => rest) = .ok segment ↔
      requiredSize headers counts ≤ memLength ∧ rest = .ok segment := by
  rw [← checkMemLength_eq_ok]
  cases checkMemLength headers counts memLength with
  | error refusal => exact iff_of_false nofun fun both => nomatch both.1
  | ok done => exact (and_iff_right rfl).symm

/-- The constructor repeats the check. -/
theorem construct_eq_ok {headers : HeaderSizes} {counts : Counts Size} {memLength : Size}
    {segment : Segment} : construct headers counts memLength = .ok segment ↔
      requiredSize headers counts ≤ memLength ∧ segmentOf counts memLength = segment := by
  apply checkMemLength_bind_eq_ok.trans
  apply and_congr_right
  intro large
  exact ⟨Except.ok.inj, congrArg Except.ok⟩

/-- A buffer is accepted if it is as long as the estimate. -/
theorem initBuffer_eq_ok {headers : HeaderSizes} {counts : Counts Size} {memLength : Size}
    {segment : Segment} : initBuffer headers counts memLength = .ok segment ↔
      requiredSize headers counts ≤ memLength ∧ segmentOf counts memLength = segment := by
  apply checkMemLength_bind_eq_ok.trans
  rw [construct_eq_ok, and_self_left]

/-- A file is accepted if it is as long as the estimate behind the offset, in wrapping
arithmetic. -/
theorem initFile_eq_ok {headers : HeaderSizes} {mode : Option MemoryMode}
    {filesize offset : Size} {counts : Counts Size} {memLength : Size} {segment : Segment} :
    initFile headers mode filesize offset counts memLength = .ok segment ↔
      requiredSize headers counts ≤ memLength ∧ requiredSize headers counts ≤ filesize - offset ∧
        mode.isSome ∧ segmentOf counts memLength = segment := by
  apply checkMemLength_bind_eq_ok.trans
  apply and_congr_right
  intro large
  by_cases small : requiredSize headers counts > filesize - offset
  · rw [if_pos small]
    exact iff_of_false nofun fun both => absurd both.1 (BitVec.not_le.mpr small)
  · rw [if_neg small, and_iff_right (BitVec.not_lt.mp small)]
    cases mode with
    | none => exact iff_of_false nofun nofun
    | some mode =>
      have constructs : construct headers counts memLength = .ok segment ↔
          segmentOf counts memLength = segment := construct_eq_ok.trans (and_iff_right large)
      rw [and_iff_right (show (some mode).isSome = true from rfl), ← constructs]
      cases mode <;> rfl

/-- The estimate fits in a length. -/
theorem requiredSize_le {headers : HeaderSizes} {counts : Counts Size} {length : Size} :
    requiredSize headers counts ≤ length ↔
      minMemLength + scaledSize headers counts % 2 ^ 62 ≤ length.toNat := by
  rw [BitVec.le_def, toNat_requiredSize]

/-- The estimate of the contents wraps, and the memory is as long as what is left of it, but not
as the balances. -/
def WrapsInMemory (headers : HeaderSizes) (counts : Counts Size) (memLength : Size) : Prop :=
  2 ^ 62 ≤ scaledSize headers counts ∧
    minMemLength + scaledSize headers counts % 2 ^ 62 ≤ memLength.toNat ∧
    memLength.toNat < minMemLength + counts.nBalances.toNat * AccountBalance.size

/-- The offset lies behind the file, and the wrapped distance is as long as the estimate. -/
def BehindFile (headers : HeaderSizes) (counts : Counts Size) (filesize offset : Size) : Prop :=
  filesize < offset ∧
    minMemLength + scaledSize headers counts % 2 ^ 62 + offset.toNat ≤ filesize.toNat + 2 ^ 64

/-- The estimate of the contents wraps, and the file is as long as what is left of it, but not as
what is truly required. -/
def WrapsInFile (headers : HeaderSizes) (counts : Counts Size) (filesize offset : Size) : Prop :=
  2 ^ 62 ≤ scaledSize headers counts ∧
    minMemLength + scaledSize headers counts % 2 ^ 62 + offset.toNat ≤ filesize.toNat ∧
    filesize.toNat < minMemLength + scaledSize headers counts + offset.toNat

/-- What the checks of a file overlook. -/
def OverlookedInFile (headers : HeaderSizes) (mode : Option MemoryMode) (filesize offset : Size)
    (counts : Counts Size) (memLength : Size) : Prop :=
  mode.isSome ∧ minMemLength + scaledSize headers counts % 2 ^ 62 ≤ memLength.toNat ∧
    (BehindFile headers counts filesize offset ∨ WrapsInFile headers counts filesize offset ∨
      (minMemLength + scaledSize headers counts % 2 ^ 62 + offset.toNat ≤ filesize.toNat ∧
        WrapsInMemory headers counts memLength))

instance (headers : HeaderSizes) (counts : Counts Size) (memLength : Size) :
    Decidable (WrapsInMemory headers counts memLength) :=
  inferInstanceAs (Decidable (_ ∧ _))

instance (headers : HeaderSizes) (mode : Option MemoryMode) (filesize offset : Size)
    (counts : Counts Size) (memLength : Size) :
    Decidable (OverlookedInFile headers mode filesize offset counts memLength) :=
  inferInstanceAs (Decidable (_ ∧ _ ∧ ((_ ∧ _) ∨ (_ ∧ _) ∨ (_ ∧ _))))

/-- The check of a buffer is sound unless the estimate wraps below its length. -/
theorem bufferSound_iff (headers : HeaderSizes) (counts : Counts Size) (memLength : Size) :
    BufferSound headers counts memLength ↔ ¬WrapsInMemory headers counts memLength := by
  have balances := balances_le_scaledSize headers counts
  simp only [BufferSound, initBuffer_eq_ok, requiredSize_le, BalancesFit, WrapsInMemory]
  constructor
  · rintro sound ⟨wraps, passes, short⟩
    have fits := sound _ ⟨passes, rfl⟩
    omega
  · rintro apart segment ⟨passes, -⟩
    omega

/-- The distance from the offset to the end of the file wraps when the offset lies behind it. -/
theorem requiredSize_le_sub {headers : HeaderSizes} {counts : Counts Size}
    {filesize offset : Size} : requiredSize headers counts ≤ filesize - offset ↔
      minMemLength + scaledSize headers counts % 2 ^ 62 + offset.toNat ≤ filesize.toNat ∨
        BehindFile headers counts filesize offset := by
  have ends := filesize.isLt
  have begins := offset.isLt
  rw [requiredSize_le, BehindFile, BitVec.toNat_sub, BitVec.lt_def]
  omega

/-- The checks of a file are sound unless they overlook something. -/
theorem fileSound_iff (headers : HeaderSizes) (mode : Option MemoryMode) (filesize offset : Size)
    (counts : Counts Size) (memLength : Size) :
    FileSound headers mode filesize offset counts memLength ↔
      ¬OverlookedInFile headers mode filesize offset counts memLength := by
  have balances := balances_le_scaledSize headers counts
  simp only [FileSound, initFile_eq_ok, requiredSize_le_sub]
  simp only [requiredSize_le, BalancesFit, LiesInFile, OverlookedInFile, BehindFile, WrapsInFile,
    WrapsInMemory, requiredSize_toNat]
  rw [BitVec.lt_def, BitVec.le_def]
  constructor
  · rintro sound ⟨given, passes, overlooked⟩
    have fits := sound _ ⟨passes, by omega, given, rfl⟩
    omega
  · rintro apart segment ⟨passes, ends, given, -⟩
    rw [and_iff_right given, and_iff_right passes] at apart
    omega

/-- When the size checks of a buffer and of a file are sound. -/
theorem initChecks_sound_iff (headers : HeaderSizes) (mode : Option MemoryMode)
    (filesize offset : Size) (counts : Counts Size) (memLength : Size) :
    (BufferSound headers counts memLength ↔ ¬WrapsInMemory headers counts memLength) ∧
      (FileSound headers mode filesize offset counts memLength ↔
        ¬OverlookedInFile headers mode filesize offset counts memLength) := by
  constructor
  · exact bufferSound_iff headers counts memLength
  · exact fileSound_iff headers mode filesize offset counts memLength

/-- Where the contents take less than `2 ^ 62` bytes and the offset lies in the file, the checks are
sound. -/
theorem sound_of_small {headers : HeaderSizes} {filesize offset : Size} {counts : Counts Size}
    (small : scaledSize headers counts < 2 ^ 62) (inside : offset ≤ filesize)
    (mode : Option MemoryMode) (memLength : Size) :
    BufferSound headers counts memLength ∧
      FileSound headers mode filesize offset counts memLength := by
  have apart : ¬2 ^ 62 ≤ scaledSize headers counts := Nat.not_le.mpr small
  rw [bufferSound_iff, fileSound_iff]
  constructor
  · exact fun wraps => apart wraps.1
  · rintro ⟨-, -, behind | wraps | ⟨-, wraps⟩⟩
    · exact BitVec.not_lt.mpr inside behind.1
    · exact apart wraps.1
    · exact apart wraps.1

/-- Headers of the sizes the container library has. -/
def exampleHeaders : HeaderSizes := ⟨8, 48, 48, 48, 48, 48⟩

/-- `2 ^ 61` balances pass the check in a buffer of a mebibyte, and the managed segment is laid over
the balances array; a file is accepted at an offset behind its end. -/
theorem hugeCounts_not_sound :
    initBuffer exampleHeaders ⟨0, 0, 2 ^ 61⟩ (2 ^ 20) = .ok ⟨0, 2 ^ 20⟩ ∧
      ¬BufferSound exampleHeaders ⟨0, 0, 2 ^ 61⟩ (2 ^ 20) ∧
      ¬FileSound exampleHeaders (some .createOnly) 0 4096 ⟨10, 1, 10⟩ (2 ^ 20) := by
  rw [bufferSound_iff, fileSound_iff, not_not, not_not]
  refine ⟨by decide +kernel, by decide +kernel, by decide +kernel⟩

end Libcma.Memory
