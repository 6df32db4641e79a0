import Libcma.DriveReader
import Libcma.Memory.Typed
import Libcma.Merkle.Binding
import Libcma.Merkle.Slices
import Libcma.Merkle.TreeHash
import Mathlib.Data.Nat.Size

/-!
# The tree over the account drive

`account-driver-reader.cpp` builds a complete tree over the 32-byte words of the drive and dumps
its proof of a record, four words of it. For a ledger over a drive of zeros, whatever its run, it
gives a proof for exactly the records in use, and the root commits to all of them.
-/

namespace Libcma.DriveReader

open Exec
open Libcma.Merkle
open Libcma.Parser (Text ascii)

variable (keccak : List UInt8 → MachineHash)

/-- `WORD_SIZE`. -/
def wordSize : ℕ := 32

/-- `LOG2_WORD_SIZE`. -/
def log2WordSize : ℕ := 5

/-- `ACCOUNT_SIZE`. -/
def accountSize : ℕ := AccountBalance.size

/-- `log2_account_size`: `std::log2` of `ACCOUNT_SIZE`. -/
def log2AccountSize : ℕ := Nat.log2 accountSize

/-- The bytes of a number of four, least significant first. -/
def littleEndian (value : UInt32) : List UInt8 :=
  [value.toUInt8, (value >>> 8).toUInt8, (value >>> 16).toUInt8, (value >>> 24).toUInt8]

/-- `account_bytes`. -/
def accountBytes (record : AccountBalance) : List UInt8 :=
  littleEndian record.type ++ record.owner.toList ++ record.tokenAddress.toList ++
    record.tokenId.toList ++ record.amount.toList ++ record.padding.toList

/-- The bytes of the drive, taken for words by the cast to `partial_ledger_account_balance_t`. -/
def driveBytes (nBalances : ℕ) (balances : ℕ → AccountBalance) : List UInt8 :=
  (List.range nBalances).flatMap fun slot => accountBytes (balances slot)

/-- `log2_max_accounts`; `std::bit_width` is the number of binary digits. -/
def log2MaxAccounts (nBalances : ℕ) : ℕ := if nBalances < 1 then 0 else Nat.size (nBalances - 1)

/-- The tree over the words of the drive. -/
def driveTree (nBalances : ℕ) (balances : ℕ → AccountBalance) :
    Exec String Unit CompleteMerkleTree :=
  completeMerkleTree keccak ((log2MaxAccounts nBalances + log2AccountSize : ℕ) : ℤ)
    (log2WordSize : ℤ) (log2WordSize : ℤ)
    (leafHashes keccak (driveBytes nBalances balances) wordSize)

/-- What `dump` of a proof prints: the fields of the proof, the bytes of the record, and the offset
as `int_to_hex` writes it. -/
structure Dumped where
  /-- `proof`. -/
  proof : HashTreeProof
  /-- `balance`. -/
  balance : AccountBalance
  /-- The text behind `"drive_offset"`. -/
  driveOffset : Text

/-- `dump` of a proof. The offset is converted to `int`, which keeps its low 32 bits. -/
def dump (proof : HashTreeProof) (balance : AccountBalance) (driveOffset : BitVec 64) : Dumped where
  proof := proof
  balance := balance
  driveOffset := intToHex (driveOffset.setWidth 32)

/-- `--balance-index` with `--dump-proof`: the proof of the record at an index. An index past the
drive reads outside it. -/
def findIndex (config : Config) (ledger : Memory) (balanceIndex : ℕ) :
    Exec String Unit Dumped := do
  let balance ← orUndefined
    (if balanceIndex < config.maxBalances then some (ledger.balances balanceIndex) else none)
  refuseIf (balance.type = 0) "Invalid balance type"
  let driveOffset := BitVec.ofNat 64 (config.memOffset + balanceIndex * accountSize)
  let tree ← driveTree keccak config.maxBalances ledger.balances
  let proof ← tree.getProof (BitVec.ofNat 64 (balanceIndex * accountSize)) log2AccountSize
  pure (dump proof balance driveOffset)

section Bytes_

@[simp] theorem length_accountBytes (record : AccountBalance) :
    (accountBytes record).length = accountSize := by
  simp [accountBytes, littleEndian, accountSize, AccountBalance.size]

/-- The part of a concatenation that comes from one index. -/
theorem take_drop_flatMap {width count : ℕ} {bytes : ℕ → List UInt8}
    (sized : ∀ index, (bytes index).length = width) {index : ℕ} (inside : index < count) :
    (((List.range count).flatMap bytes).drop (index * width)).take width = bytes index := by
  induction count generalizing index bytes with
  | zero => omega
  | succ count ih =>
    rw [List.range_succ_eq_map, List.flatMap_cons, List.flatMap_map]
    cases index with
    | zero =>
      rw [Nat.zero_mul, List.drop_zero, List.take_append_of_le_length (by rw [sized]),
        List.take_of_length_le (by rw [sized])]
    | succ index =>
      have front : (bytes 0).length ≤ (index + 1) * width := by
        rw [sized, Nat.add_mul, Nat.one_mul]
        omega
      have rest : (index + 1) * width - (bytes 0).length = index * width := by
        rw [sized, Nat.add_mul, Nat.one_mul, Nat.add_sub_cancel]
      rw [List.drop_append, List.drop_of_length_le front, List.nil_append, rest]
      exact @ih (fun index => bytes (index + 1)) (fun index => sized (index + 1)) index (by omega)

end Bytes_

section Tree

variable {keccak} {nBalances : ℕ} {balances : ℕ → AccountBalance}

/-- The sizes of the tree over the drive. -/
def driveShape (nBalances : ℕ) (small : nBalances ≤ 2 ^ 56) : Shape where
  root := log2MaxAccounts nBalances + log2AccountSize
  leaf := log2WordSize
  word := log2WordSize
  wordLe := Nat.le_refl _
  leafLe := by
    have account : log2AccountSize = 7 := by decide
    have word : log2WordSize = 5 := rfl
    omega
  wordLt := by decide
  rootLt := by
    have account : log2AccountSize = 7 := by decide
    have digits : log2MaxAccounts nBalances ≤ 56 := by
      unfold log2MaxAccounts
      split
      · omega
      · exact Nat.size_le.mpr (by omega)
    omega

/-- The hash of a record. -/
def recordHash (keccak : List UInt8 → MachineHash) (record : AccountBalance) : MachineHash :=
  HashTree.node (join keccak) (leafHash keccak (accountBytes record) wordSize) 2 0

/-- It is the hash of the record's bytes as data of words. -/
theorem recordHash_run (record : AccountBalance) {σ : Type} (state : σ) :
    (getMerkleTreeHash keccak (accountBytes record) wordSize).run state =
      .ok (recordHash keccak record) state :=
  getMerkleTreeHash_run _ (by decide) (length_accountBytes record) state

@[simp] theorem length_driveBytes :
    (driveBytes nBalances balances).length = nBalances * accountSize := by
  simp [driveBytes, List.length_flatMap]

/-- A word of the drive is a word of a record. -/
theorem leafHash_driveBytes {slot word : ℕ} (inside : slot < nBalances) (short : word < 4) :
    leafHash keccak (driveBytes nBalances balances) wordSize (slot * 4 + word) =
      leafHash keccak (accountBytes (balances slot)) wordSize word := by
  have record := take_drop_flatMap (fun index => length_accountBytes (balances index)) inside
  have size : accountSize = 4 * wordSize := by decide
  have place : (slot * 4 + word) * wordSize = slot * accountSize + word * wordSize := by
    rw [size, Nat.add_mul, Nat.mul_assoc]
  have within : wordSize ≤ accountSize - word * wordSize := by
    have width : wordSize = 32 := rfl
    rw [size, width]
    omega
  rw [leafHash, leafHash, leafBytes, leafBytes, ← record, List.drop_take, List.take_take,
    Nat.min_eq_left within, List.drop_drop, place]
  rfl

/-- A record's node in the tree is the hash of the record. -/
theorem node_slot (small : nBalances ≤ 2 ^ 56) {slot : ℕ} (inside : slot < nBalances) :
    (driveShape nBalances small).node keccak
        (leafHashes keccak (driveBytes nBalances balances) wordSize) 2 slot =
      recordHash keccak (balances slot) := by
  have shifted := HashTree.node_shift (join keccak)
    (HashTree.padded (leafHashes keccak (driveBytes nBalances balances) wordSize)
      ((driveShape nBalances small).blankLeaf keccak)) 2 slot 0
  rw [Nat.add_zero] at shifted
  rw [Shape.node, ← shifted, recordHash]
  apply HashTree.node_congr
  intro word under
  have short : word < 4 := by omega
  have width : wordSize = 32 := rfl
  have size : accountSize = 128 := by decide
  have count : slot * 2 ^ 2 + word < (driveBytes nBalances balances).length / wordSize := by
    rw [length_driveBytes, size, width]
    omega
  rw [HashTree.padded, List.getD_eq_getElem?_getD, leafHashes, List.getElem?_map,
    List.getElem?_range count, Option.map_some, Option.getD_some]
  exact leafHash_driveBytes inside short

variable (keccak balances) in
/-- The tree over the drive. -/
theorem driveTree_run (small : nBalances ≤ 2 ^ 56) :
    (driveTree keccak nBalances balances).run () =
      .ok ((driveShape nBalances small).tree keccak
        (leafHashes keccak (driveBytes nBalances balances) wordSize)) () :=
  completeMerkleTree_run _ (driveShape nBalances small) _

/-- A slot is in the tree. -/
theorem slot_lt {slot : ℕ} (inside : slot < nBalances) :
    slot * accountSize < 2 ^ (log2MaxAccounts nBalances + log2AccountSize) := by
  have size : accountSize = 2 ^ log2AccountSize := by decide
  have digits : slot < 2 ^ log2MaxAccounts nBalances := by
    have below := Nat.lt_size_self (nBalances - 1)
    unfold log2MaxAccounts
    rw [if_neg (by omega)]
    omega
  rw [pow_add, ← size]
  exact Nat.mul_lt_mul_of_pos_right digits (by decide)

/-- The place of a record is a 64-bit address. -/
theorem toNat_slot (small : nBalances ≤ 2 ^ 56) {slot : ℕ} (inside : slot < nBalances) :
    (BitVec.ofNat 64 (slot * accountSize)).toNat = slot * accountSize := by
  have rootLt := (driveShape nBalances small).rootLt
  have bound : 2 ^ (log2MaxAccounts nBalances + log2AccountSize) < 2 ^ 64 :=
    Nat.pow_lt_pow_right (by omega) rootLt
  exact Nat.mod_eq_of_lt (Nat.lt_trans (slot_lt inside) bound)

/-- What the tree's proof of a record is. -/
structure OfSlot (keccak : List UInt8 → MachineHash) (small : nBalances ≤ 2 ^ 56)
    (balances : ℕ → AccountBalance) (slot : ℕ) (own : HashTreeProof) : Prop where
  /-- It is at the record's place. -/
  address : own.targetAddress.toNat = slot * accountSize
  /-- It is of the record's size. -/
  targetSize : own.log2TargetSize = log2AccountSize
  /-- It is of the record's hash. -/
  targetHash : own.targetHash = recordHash keccak (balances slot)
  /-- It is against the root of the tree. -/
  rootHash : (((driveShape nBalances small).tree keccak
    (leafHashes keccak (driveBytes nBalances balances) wordSize)).getRootHash).run () =
      .ok own.rootHash ()
  /-- It is of the tree's size. -/
  rootSize : own.log2RootSize = ((log2MaxAccounts nBalances + log2AccountSize : ℕ) : ℤ)
  /-- It verifies. -/
  verified : (own.verify keccak).run () = .ok true ()

variable (keccak balances) in
/-- The tree has a proof of every record. -/
theorem getProof_slot (small : nBalances ≤ 2 ^ 56) {slot : ℕ} (inside : slot < nBalances) :
    ∃ own, (((driveShape nBalances small).tree keccak
        (leafHashes keccak (driveBytes nBalances balances) wordSize)).getProof
          (BitVec.ofNat 64 (slot * accountSize)) log2AccountSize).run () = .ok own () ∧
      OfSlot keccak small balances slot own := by
  have account : log2AccountSize = 7 := by decide
  have size : accountSize = 2 ^ (5 + 2) := by decide
  have rootLt := (driveShape nBalances small).rootLt
  have root : (driveShape nBalances small).root = log2MaxAccounts nBalances + log2AccountSize := rfl
  have leaf : (driveShape nBalances small).leaf = 5 := rfl
  have within := slot_lt inside
  have place := toNat_slot small inside
  rw [← place] at within
  have aligned : 2 ^ ((driveShape nBalances small).leaf + 2) ∣
      (BitVec.ofNat 64 (slot * accountSize)).toNat := by
    rw [place, size, leaf]
    exact Nat.dvd_mul_left _ _
  have fits : 2 ≤ (driveShape nBalances small).root - (driveShape nBalances small).leaf := by omega
  have rootPos : 0 < (driveShape nBalances small).root := by omega
  have returned := getProof_run keccak (driveShape nBalances small) rootPos
    (leafHashes keccak (driveBytes nBalances balances) wordSize) fits within aligned ()
  have climbed := climb_proof keccak (driveShape nBalances small)
    rootPos (leafHashes keccak (driveBytes nBalances balances) wordSize)
    (leafHashes keccak (driveBytes nBalances balances) wordSize) fits within (fun _ _ _ => rfl)
  refine ⟨_, returned, ?_⟩
  constructor
  case address => exact place
  case targetSize => rfl
  case targetHash =>
    have index : (BitVec.ofNat 64 (slot * accountSize)).toNat /
        2 ^ ((driveShape nBalances small).leaf + 2) = slot := by
      rw [place, leaf, size, Nat.mul_div_cancel _ (Nat.two_pow_pos _)]
    rw [Shape.proof]
    simp only [index]
    exact node_slot small inside
  case rootHash => exact getRootHash_run _ _ _ ()
  case rootSize => rfl
  case verified =>
    rw [HashTreeProof.verify_run _ (by
      rw [HashTreeProof.root, Shape.proof, Int.toNat_natCast]
      omega)]
    exact congrArg (Outcome.ok · ()) (decide_eq_true climbed)

end Tree

variable {keccak} {config : Config} {ledger : Memory}

/-- What the reader dumps of a record that is in use. -/
structure Proves (keccak : List UInt8 → MachineHash) (config : Config) (ledger : Memory)
    (balanceIndex : ℕ) (dumped : Dumped) : Prop where
  /-- The record is the one at the index. -/
  balance : dumped.balance = ledger.balances balanceIndex
  /-- The offset is printed as eight digits, of the low 32 bits of the record's offset. -/
  driveOffset : ∃ digits, dumped.driveOffset = ascii "0x" ++ digits ∧ digits.length = 8 ∧
    Hex.Digits digits ∧
      Hex.value digits = (config.memOffset + balanceIndex * accountSize) % 2 ^ 32
  /-- The proof verifies. -/
  verified : (dumped.proof.verify keccak).run () = .ok true ()
  /-- It is of the record's place. -/
  address : dumped.proof.targetAddress.toNat = balanceIndex * accountSize
  /-- It is of the record's size. -/
  size : 2 ^ dumped.proof.log2TargetSize.toNat = accountSize
  /-- It is of the record's bytes. -/
  target : (getMerkleTreeHash keccak (accountBytes dumped.balance) wordSize).run () =
    .ok dumped.proof.targetHash ()
  /-- It is against the root of the drive. -/
  root : ∃ tree, (driveTree keccak config.maxBalances ledger.balances).run () = .ok tree () ∧
    tree.getRootHash.run () = .ok dumped.proof.rootHash ()

/-- The offset that `dump` prints. -/
theorem dump_driveOffset (proof : HashTreeProof) (balance : AccountBalance) (offset : ℕ) :
    ∃ digits, (dump proof balance (BitVec.ofNat 64 offset)).driveOffset = ascii "0x" ++ digits ∧
      digits.length = 8 ∧ Hex.Digits digits ∧ Hex.value digits = offset % 2 ^ 32 := by
  obtain ⟨digits, printed, length, all, value⟩ :=
    intToHex_digits ((BitVec.ofNat 64 offset).setWidth 32)
  refine ⟨digits, printed, length, all, ?_⟩
  rw [value, BitVec.toNat_setWidth, BitVec.toNat_ofNat]
  exact Nat.mod_mod_of_dvd _ (by decide)

/-- Over a drive of zeros and after any run, the reader dumps a proof of the record for exactly the
indices in use. The bound says that the drive takes at most 2 ^ 63 bytes, so that the constructor
accepts the size of its tree. -/
theorem findIndex_proves (config : Config) (ledger : Memory) (small : config.maxBalances ≤ 2 ^ 56)
    (reachable : Memory.Reachable config (fun _ => .zero) Memory.AnyCall ledger)
    (balanceIndex : ℕ) (inside : balanceIndex < config.maxBalances) :
    (balanceIndex < ledger.getBalancesSize →
        ∃ dumped, (findIndex keccak config ledger balanceIndex).run () = .ok dumped () ∧
          Proves keccak config ledger balanceIndex dumped) ∧
      (ledger.getBalancesSize ≤ balanceIndex →
        (findIndex keccak config ledger balanceIndex).run () =
          .throw "Invalid balance type" ()) := by
  constructor
  · intro inUse
    have typed := reachable.recordsTyped balanceIndex inUse
    obtain ⟨own, returned, ofSlot⟩ := getProof_slot keccak ledger.balances small inside
    have dumps : (findIndex keccak config ledger balanceIndex).run () =
        .ok (dump own (ledger.balances balanceIndex)
          (BitVec.ofNat 64 (config.memOffset + balanceIndex * accountSize))) () := by
      simp only [findIndex, bind_run, if_pos inside, orUndefined_some, pure_run,
        Outcome.andThen_ok, refuseIf_run, if_neg typed, driveTree_run _ _ small, returned]
    have size : 2 ^ own.log2TargetSize.toNat = accountSize := by
      rw [ofSlot.targetSize]
      decide
    have target : (getMerkleTreeHash keccak (accountBytes (ledger.balances balanceIndex))
        wordSize).run () = .ok own.targetHash () := by
      rw [recordHash_run, ofSlot.targetHash]
    exact ⟨_, dumps, rfl, dump_driveOffset _ _ _, ofSlot.verified, ofSlot.address, size, target,
      _, driveTree_run _ _ small, ofSlot.rootHash⟩
  · intro unused
    have blank := reachable.drive.blank balanceIndex unused
    have zero : (ledger.balances balanceIndex).type = 0 := by rw [blank]; rfl
    rw [findIndex, bind_run, if_pos inside, orUndefined_some, pure_run, Outcome.andThen_ok,
      bind_run, refuseIf_run, if_pos zero, Outcome.andThen_throw]

/-- The proof of the one record of a drive. -/
theorem findIndex_proves_single :
    ∃ ledger, Memory.Reachable Memory.singleBalance (fun _ => .zero) Memory.AnyCall ledger ∧
      ledger.getBalancesSize = 1 ∧
      ∃ dumped, (findIndex firstBytes Memory.singleBalance ledger 0).run () = .ok dumped () ∧
        Proves firstBytes Memory.singleBalance ledger 0 dumped := by
  obtain ⟨ledger, reachable, single⟩ := Memory.exists_reachable Memory.singleBalance
    (fun _ => .zero)
    [retrieveToken .create, createWallet, .deposit 0 0 oneAmount]
    Memory.getBalancesSize 1 (by decide +kernel)
  have inUse : 0 < ledger.getBalancesSize := by omega
  exact ⟨ledger, reachable, single,
    (findIndex_proves Memory.singleBalance ledger (by decide) reachable 0 (by decide)).1 inUse⟩

/-- What proofs and bytes that disagree about a record contain. -/
def disclosureClash (keccak : List UInt8 → MachineHash) (proof own : HashTreeProof)
    (bytes record : List UInt8) : Option (List UInt8 × List UInt8) :=
  (proofClash keccak proof own).or (dataClash keccak bytes record wordSize 2)

/-- The root commits to the records: bytes whose hash a proof at a record's place verifies are the
record's, or a collision is computed from the proof, the tree's own, the bytes and the record. -/
theorem record_of_proof (nBalances : ℕ) (balances : ℕ → AccountBalance) (small : nBalances ≤ 2 ^ 56)
    (tree : CompleteMerkleTree) (built : (driveTree keccak nBalances balances).run () = .ok tree ())
    (proof : HashTreeProof) (rooted : tree.getRootHash.run () = .ok proof.rootHash ())
    (rootSize : proof.log2RootSize = ((log2MaxAccounts nBalances + log2AccountSize : ℕ) : ℤ))
    (targetSize : proof.log2TargetSize = log2AccountSize)
    (verified : (proof.verify keccak).run () = .ok true ()) (balanceIndex : ℕ)
    (inside : balanceIndex < nBalances)
    (address : proof.targetAddress.toNat = balanceIndex * accountSize) (bytes : List UInt8)
    (sized : bytes.length = accountSize)
    (hashed : (getMerkleTreeHash keccak bytes wordSize).run () = .ok proof.targetHash ()) :
    ∃ own, (tree.getProof proof.targetAddress log2AccountSize).run () = .ok own () ∧
      (bytes = accountBytes (balances balanceIndex) ∨
        IsCollision keccak (disclosureClash keccak proof own bytes
          (accountBytes (balances balanceIndex)))) := by
  rw [driveTree_run _ _ small] at built
  cases built
  have within := slot_lt inside
  have width : accountSize = 2 ^ log2AccountSize := by decide
  have target : proof.target = log2AccountSize := by
    rw [HashTreeProof.target, targetSize, Int.toNat_natCast]
  have root : proof.root = log2MaxAccounts nBalances + log2AccountSize := by
    rw [HashTreeProof.root, rootSize, Int.toNat_natCast]
  have read : proof.readAddress = proof.targetAddress := by
    apply BitVec.eq_of_toNat_eq
    rw [toNat_readAddress, target, root, address, Nat.mod_eq_of_lt within, width,
      Nat.mul_div_cancel _ (Nat.two_pow_pos _)]
  have large : ((driveShape nBalances small).leaf : ℤ) ≤ proof.log2TargetSize := by
    have word : (log2WordSize : ℤ) ≤ log2AccountSize := by decide
    rw [targetSize]
    exact word
  obtain ⟨own, returned, same⟩ := own_of_verified keccak (driveShape nBalances small)
    (leafHashes keccak (driveBytes nBalances balances) wordSize) proof rooted rootSize large
    verified
  rw [read, targetSize] at returned
  obtain ⟨mine, gives, ofSlot⟩ := getProof_slot keccak balances small inside
  have there : BitVec.ofNat 64 (balanceIndex * accountSize) = proof.targetAddress :=
    BitVec.eq_of_toNat_eq ((toNat_slot small inside).trans address.symm)
  rw [there, returned] at gives
  have ownHash : own.targetHash = recordHash keccak (balances balanceIndex) := by
    rw [(Outcome.ok.inj gives).1, ofSlot.targetHash]
  refine ⟨own, returned, ?_⟩
  rcases same with equal | collision
  · have targetHash : proof.targetHash = own.targetHash := by
      rw [← equal]
    rw [getMerkleTreeHash_run 2 (by decide) sized] at hashed
    have hashes := (Outcome.ok.inj hashed).1
    rw [targetHash, ownHash] at hashes
    rcases data_of_hash 2 sized (length_accountBytes _) hashes with data | clash
    · exact .inl data
    · exact .inr (IsCollision.or (findsCollisions_proofClash proof own) (.inr clash))
  · exact .inr (IsCollision.or (findsCollisions_proofClash proof own) (.inl collision))

/-- Bytes that differ from a blank record behind the first word. -/
def otherBytes : List UInt8 := List.replicate 127 0 ++ [1]

/-- To a digest that reads the first word only, they are the record. -/
theorem record_of_proof_blank :
    ∃ proof own, (((driveShape 1 (by decide)).tree firstBytes
        (leafHashes firstBytes (driveBytes 1 fun _ => .zero) wordSize)).getProof
          proof.targetAddress log2AccountSize).run () = .ok own () ∧
      (otherBytes = accountBytes .zero ∨
        IsCollision firstBytes (disclosureClash firstBytes proof own otherBytes
          (accountBytes .zero))) := by
  obtain ⟨proof, -, ofSlot⟩ := getProof_slot firstBytes (fun _ => .zero) (by decide)
    Nat.zero_lt_one
  have sized : otherBytes.length = accountSize := by
    rw [otherBytes, List.length_append, List.length_replicate]
    rfl
  have hash : HashTree.node (join firstBytes) (leafHash firstBytes otherBytes wordSize) 2 0 =
      recordHash firstBytes .zero := by decide +kernel
  obtain ⟨own, found⟩ := record_of_proof 1 (fun _ => .zero) (by decide) _
    (driveTree_run firstBytes _ (by decide)) proof ofSlot.rootHash ofSlot.rootSize
    ofSlot.targetSize ofSlot.verified 0 Nat.zero_lt_one ofSlot.address otherBytes sized
    (by rw [getMerkleTreeHash_run 2 (by decide) sized, hash, ofSlot.targetHash])
  exact ⟨proof, own, found⟩

end Libcma.DriveReader
