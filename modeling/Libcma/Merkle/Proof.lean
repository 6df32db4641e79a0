import Libcma.Merkle.CompleteTree
import Mathlib.Data.Nat.Bitwise

/-!
# Proofs of nodes

`hash-tree-proof.h`, and `get_proof` of the complete tree. A proof holds a node's address, size and
hash, the hash of the root, and one hash for every size between the two. `verify` bubbles the
node's hash up past the siblings; of the address it reads the bits between the two sizes only.

A shift of a 64-bit address by 64 or more is undefined.
-/

namespace Libcma.Merkle

open Exec

variable (keccak : List UInt8 → MachineHash)

/-- `hash_tree_proof`, with what its constructor checks. -/
@[ext] structure HashTreeProof where
  /-- `m_target_address`. -/
  targetAddress : BitVec 64
  /-- `m_log2_target_size`. -/
  log2TargetSize : ℤ
  /-- `m_target_hash`. -/
  targetHash : MachineHash
  /-- `m_log2_root_size`. -/
  log2RootSize : ℤ
  /-- `m_root_hash`. -/
  rootHash : MachineHash
  /-- `m_sibling_hashes`. -/
  siblingHashes : List MachineHash
  /-- The tree is larger than a byte. -/
  rootPos : 0 < log2RootSize
  /-- The node is at least a byte. -/
  targetNat : 0 ≤ log2TargetSize
  /-- The node is at most the tree. -/
  targetLe : log2TargetSize ≤ log2RootSize
  /-- There is a sibling for every size below the root. -/
  sized : siblingHashes.length = (log2RootSize - log2TargetSize).toNat
  deriving DecidableEq

/-- The constructor of `hash_tree_proof`. -/
def hashTreeProof {σ : Type} (log2RootSize log2TargetSize : ℤ) : Exec String σ HashTreeProof := do
  let _ ← orUndefined (asInt (log2RootSize - log2TargetSize))
  if rootPos : 0 < log2RootSize then
    if targetNat : 0 ≤ log2TargetSize then
      if targetLe : log2TargetSize ≤ log2RootSize then
        pure {
          targetAddress := 0
          log2TargetSize
          targetHash := zeros 32
          log2RootSize
          rootHash := zeros 32
          siblingHashes := List.replicate (log2RootSize - log2TargetSize).toNat (zeros 32)
          rootPos
          targetNat
          targetLe
          sized := List.length_replicate }
      else raise "log2_target_size is greater than log2_root_size"
    else raise "log2_target_size is negative"
  else raise "log2_root_size is not positive"

/-- The test of an address bit; the shift is undefined from 64 on. -/
def addressBit {σ : Type} (address : BitVec 64) (log2Size : ℤ) : Exec String σ Bool :=
  orUndefined (if log2Size < 64 then
    some (decide (address &&& (1 : BitVec 64) <<< log2Size.toNat ≠ 0)) else none)

namespace HashTreeProof

variable {σ : Type}

/-- `hash_tree_proof::log2_size_to_index`. -/
def log2SizeToIndex (proof : HashTreeProof) (log2Size : ℤ) : Exec String σ ℕ := do
  let index := log2Size - proof.log2TargetSize
  refuseIf (index < 0 ∨ (proof.siblingHashes.length : ℤ) ≤ index) "log2_size is out of range"
  pure index.toNat

/-- `hash_tree_proof::get_sibling_hash`. -/
def getSiblingHash (proof : HashTreeProof) (log2Size : ℤ) : Exec String σ MachineHash := do
  let index ← proof.log2SizeToIndex log2Size
  orUndefined proof.siblingHashes[index]?

/-- `hash_tree_proof::set_sibling_hash`. -/
def setSiblingHash (proof : HashTreeProof) (hash : MachineHash) (log2Size : ℤ) :
    Exec String σ HashTreeProof := do
  let index ← proof.log2SizeToIndex log2Size
  pure { proof with
    siblingHashes := proof.siblingHashes.set index hash
    sized := by rw [List.length_set, proof.sized] }

/-- The loop of `bubble_up` over the sizes from some size on. -/
def bubbleUpFrom (proof : HashTreeProof) : ℕ → ℤ → MachineHash → Exec String σ MachineHash
  | 0, _, hash => pure hash
  | count + 1, log2Size, hash => do
    let bit ← addressBit proof.targetAddress log2Size
    let sibling ← proof.getSiblingHash log2Size
    let hash := if bit then getConcatHash keccak sibling hash else getConcatHash keccak hash sibling
    proof.bubbleUpFrom count (log2Size + 1) hash

/-- `hash_tree_proof::bubble_up`. -/
def bubbleUp (proof : HashTreeProof) (newTargetHash : MachineHash) : Exec String σ MachineHash :=
  proof.bubbleUpFrom keccak (proof.log2RootSize - proof.log2TargetSize).toNat proof.log2TargetSize
    newTargetHash

/-- `hash_tree_proof::verify`. -/
def verify (proof : HashTreeProof) : Exec String σ Bool := do
  let hash ← proof.bubbleUp keccak proof.targetHash
  pure (decide (hash = proof.rootHash))

/-- The second loop of `slice`: bubble up, and copy the siblings. -/
def sliceFrom (proof : HashTreeProof) :
    ℕ → ℤ → MachineHash → HashTreeProof → Exec String σ (MachineHash × HashTreeProof)
  | 0, _, hash, sliced => pure (hash, sliced)
  | count + 1, log2Size, hash, sliced => do
    let bit ← addressBit proof.targetAddress log2Size
    let sibling ← proof.getSiblingHash log2Size
    let hash := if bit then getConcatHash keccak sibling hash else getConcatHash keccak hash sibling
    let sliced ← sliced.setSiblingHash sibling log2Size
    proof.sliceFrom count (log2Size + 1) hash sliced

/-- `hash_tree_proof::slice`. -/
def slice (proof : HashTreeProof) (newLog2RootSize newLog2TargetSize : ℤ) :
    Exec String σ HashTreeProof := do
  refuseIf (newLog2RootSize ≤ 0) "log2_root_size is not positive"
  refuseIf (newLog2TargetSize < 0) "log2_target_size is negative"
  refuseIf (newLog2RootSize < newLog2TargetSize) "log2_target_size is greater than log2_root_size"
  refuseIf (proof.log2RootSize < newLog2RootSize) "log2_root_size is too large"
  refuseIf (newLog2TargetSize < proof.log2TargetSize) "log2_target_size is too small"
  let sliced ← hashTreeProof newLog2RootSize newLog2TargetSize
  let hash ← proof.bubbleUpFrom keccak (newLog2TargetSize - proof.log2TargetSize).toNat
    proof.log2TargetSize proof.targetHash
  let sliced := { sliced with targetHash := hash }
  let (hash, sliced) ← proof.sliceFrom keccak (newLog2RootSize - newLog2TargetSize).toNat
    newLog2TargetSize hash sliced
  let sliced := { sliced with rootHash := hash }
  -- the two shifts of the address
  orUndefined (if newLog2TargetSize < 64 then some () else none)
  let sliced := { sliced with
    targetAddress := proof.targetAddress >>> newLog2TargetSize.toNat <<< newLog2TargetSize.toNat }
  let verified ← sliced.verify keccak
  refuseIf (verified = false) "produced invalid sliced proof"
  pure sliced

end HashTreeProof

/-- The loop of `get_proof` over the siblings, from some size on. -/
def CompleteMerkleTree.setSiblings {σ : Type} (tree : CompleteMerkleTree) (address : BitVec 64) :
    ℕ → ℤ → HashTreeProof → Exec String σ HashTreeProof
  | 0, _, proof => pure proof
  | count + 1, log2SiblingSize, proof => do
    let siblingAddress := address ^^^ (1 : BitVec 64) <<< log2SiblingSize.toNat
    let hash ← tree.getNodeHash siblingAddress log2SiblingSize
    let proof ← proof.setSiblingHash hash log2SiblingSize
    tree.setSiblings address count (log2SiblingSize + 1) proof

/-- `complete_merkle_tree::get_proof`. -/
def CompleteMerkleTree.getProof {σ : Type} (tree : CompleteMerkleTree) (address : BitVec 64)
    (log2Size : ℤ) : Exec String σ HashTreeProof := do
  refuseIf (log2Size < tree.log2LeafSize ∨ tree.log2RootSize < log2Size)
    "log2_size is out of bounds"
  let alignedAddress := address >>> log2Size.toNat <<< log2Size.toNat
  refuseIf (address ≠ alignedAddress) "address is misaligned"
  let proof ← hashTreeProof tree.log2RootSize log2Size
  let rootHash ← tree.getRootHash
  let targetHash ← tree.getNodeHash address log2Size
  let proof := { proof with rootHash, targetAddress := address, targetHash }
  tree.setSiblings address (tree.log2RootSize - log2Size).toNat log2Size proof

section Addresses

/-- The address with the bits below a size cleared. -/
theorem toNat_align (address : BitVec 64) (size : ℕ) :
    (address >>> size <<< size).toNat = address.toNat / 2 ^ size * 2 ^ size := by
  have small : address.toNat / 2 ^ size * 2 ^ size < 2 ^ 64 :=
    Nat.lt_of_le_of_lt (Nat.div_mul_le_self _ _) address.isLt
  rw [BitVec.toNat_shiftLeft, BitVec.toNat_ushiftRight, Nat.shiftLeft_eq, Nat.shiftRight_eq_div_pow,
    Nat.mod_eq_of_lt small]

/-- Clearing bits and then more bits. -/
theorem align_align (address : BitVec 64) {size larger : ℕ} (ordered : size ≤ larger) :
    (address >>> size <<< size) >>> larger <<< larger = address >>> larger <<< larger := by
  obtain ⟨more, rfl⟩ := Nat.exists_eq_add_of_le ordered
  have same : address.toNat / 2 ^ size * 2 ^ size / 2 ^ (size + more) =
      address.toNat / 2 ^ (size + more) := by
    rw [pow_add, ← Nat.div_div_eq_div_mul (address.toNat / 2 ^ size * 2 ^ size),
      Nat.mul_div_cancel _ (Nat.two_pow_pos size), Nat.div_div_eq_div_mul]
  apply BitVec.eq_of_toNat_eq
  rw [toNat_align, toNat_align, toNat_align, same]

/-- An address is aligned when its size divides it. -/
theorem eq_align_iff (address : BitVec 64) (size : ℕ) :
    address = address >>> size <<< size ↔ 2 ^ size ∣ address.toNat := by
  rw [BitVec.toNat_inj.symm, toNat_align]
  constructor
  · intro same
    exact ⟨_, by rw [Nat.mul_comm]; exact same⟩
  · intro divides
    exact (Nat.div_mul_cancel divides).symm

/-- The tested bit says which child of its parent a node is. -/
theorem addressBit_run {σ : Type} (address : BitVec 64) {size : ℕ} (small : size < 64) (state : σ) :
    (addressBit address size).run state =
      .ok (decide (address.toNat / 2 ^ size % 2 = 1)) state := by
  have shift : ((size : ℕ) : ℤ) < 64 := by omega
  have bit : decide (address &&& (1 : BitVec 64) <<< size ≠ 0) =
      decide (address.toNat / 2 ^ size % 2 = 1) := by
    have twoPow : (1 : BitVec 64) <<< size = BitVec.twoPow 64 size := rfl
    have positive : BitVec.twoPow 64 size ≠ 0#64 := by
      intro zero
      have value := congrArg BitVec.toNat zero
      rw [BitVec.toNat_twoPow_of_lt small] at value
      exact absurd value (Nat.two_pow_pos size).ne'
    rw [twoPow, BitVec.and_twoPow, decide_eq_decide, BitVec.getLsbD,
      Nat.testBit_eq_decide_div_mod_eq]
    by_cases odd : address.toNat / 2 ^ size % 2 = 1
    · simpa [odd] using positive
    · simp [odd]
  rw [addressBit, if_pos shift, orUndefined_some, pure_run, Int.toNat_natCast, bit]

/-- A bit that was tested is one of the address. -/
theorem addressBit_ok {σ : Type} {address : BitVec 64} {size : ℤ} {bit : Bool} {state after : σ}
    (tested : (addressBit address size).run state = .ok bit after) : size < 64 := by
  by_contra large
  rw [addressBit, if_neg large, orUndefined_none] at tested
  cases tested

/-- The address of the sibling of a node. -/
theorem toNat_sibling (address : BitVec 64) {size : ℕ} (small : size < 64) :
    (address ^^^ (1 : BitVec 64) <<< size).toNat / 2 ^ size =
      HashTree.sibling (address.toNat / 2 ^ size) := by
  have one : ((1 : BitVec 64) <<< size).toNat / 2 ^ size = 1 := by
    have twoPow : (1 : BitVec 64) <<< size = BitVec.twoPow 64 size := rfl
    rw [twoPow, BitVec.toNat_twoPow_of_lt small, Nat.div_self (Nat.two_pow_pos size)]
  rw [BitVec.toNat_xor, Nat.xor_div_two_pow, one, HashTree.sibling]
  by_cases even : address.toNat / 2 ^ size % 2 = 0
  · rw [if_pos even, Nat.xor_one_of_even (Nat.even_iff.mpr even)]
  · rw [if_neg even, Nat.xor_one_of_odd (Nat.odd_iff.mpr (by omega))]

/-- The sibling of a node of a tree is in the tree. -/
theorem toNat_sibling_lt (address : BitVec 64) {size root : ℕ} (small : root < 64)
    (below : size < root) (inside : address.toNat < 2 ^ root) :
    (address ^^^ (1 : BitVec 64) <<< size).toNat < 2 ^ root := by
  have twoPow : (1 : BitVec 64) <<< size = BitVec.twoPow 64 size := rfl
  rw [BitVec.toNat_xor, twoPow, BitVec.toNat_twoPow_of_lt (by omega)]
  exact Nat.xor_lt_two_pow inside (Nat.pow_lt_pow_right (by omega) below)

end Addresses

namespace HashTreeProof

variable {keccak} {σ : Type} {proof : HashTreeProof}

/-- The size of the node, a natural number. -/
def target (proof : HashTreeProof) : ℕ := proof.log2TargetSize.toNat

/-- The size of the tree, a natural number. -/
def root (proof : HashTreeProof) : ℕ := proof.log2RootSize.toNat

/-- The index of the node among those of its size. -/
def index (proof : HashTreeProof) : ℕ := proof.targetAddress.toNat / 2 ^ proof.target

/-- The hash that a hash in the place of the node bubbles up to. -/
def climb (keccak : List UInt8 → MachineHash) (proof : HashTreeProof) (hash : MachineHash) :
    MachineHash :=
  HashTree.climb (join keccak) proof.index hash proof.siblingHashes

/-- The sizes are natural numbers. -/
theorem log2TargetSize_eq (proof : HashTreeProof) : proof.log2TargetSize = proof.target :=
  (Int.toNat_of_nonneg proof.targetNat).symm

theorem log2RootSize_eq (proof : HashTreeProof) : proof.log2RootSize = proof.root :=
  (Int.toNat_of_nonneg (Int.le_of_lt proof.rootPos)).symm

/-- There is a sibling for every size from that of the node on. -/
theorem target_add_length (proof : HashTreeProof) :
    proof.target + proof.siblingHashes.length = proof.root := by
  have sized := proof.sized
  have targetLe := proof.targetLe
  have target := proof.log2TargetSize_eq
  have root := proof.log2RootSize_eq
  omega

/-- The index of a size that has a sibling. -/
theorem log2SizeToIndex_run {index : ℕ} (inside : index < proof.siblingHashes.length) (state : σ) :
    (proof.log2SizeToIndex ((proof.target + index : ℕ) : ℤ)).run state = .ok index state := by
  have difference : ((proof.target + index : ℕ) : ℤ) - proof.log2TargetSize = index := by
    rw [proof.log2TargetSize_eq]
    omega
  have bounds : ¬((index : ℤ) < 0 ∨ (proof.siblingHashes.length : ℤ) ≤ index) := by omega
  simp only [log2SizeToIndex, bind_run, difference, refuseIf_run, if_neg bounds, pure_run,
    Outcome.andThen_ok, Int.toNat_natCast]

/-- The sibling of a size. -/
theorem getSiblingHash_run {index : ℕ} (inside : index < proof.siblingHashes.length) (state : σ) :
    (proof.getSiblingHash ((proof.target + index : ℕ) : ℤ)).run state =
      .ok proof.siblingHashes[index] state := by
  rw [getSiblingHash, bind_run, log2SizeToIndex_run inside, Outcome.andThen_ok,
    List.getElem?_eq_getElem inside, orUndefined_some, pure_run]

/-- The hash of a parent, left child first. -/
theorem join_eq (keccak : List UInt8 → MachineHash) (index : ℕ) (hash sibling : MachineHash) :
    (if decide (index % 2 = 1) then getConcatHash keccak sibling hash
      else getConcatHash keccak hash sibling) = join keccak (HashTree.pair index hash sibling) := by
  rw [HashTree.pair]
  by_cases even : index % 2 = 0
  · have bit : decide (index % 2 = 1) = false := decide_eq_false (by omega)
    rw [bit, if_pos even]
    rfl
  · have bit : decide (index % 2 = 1) = true := decide_eq_true (by omega)
    rw [bit, if_neg even]
    rfl

variable (keccak) in
/-- The loop of `bubble_up` climbs past the siblings it meets. -/
theorem bubbleUpFrom_run (count first : ℕ) (bounded : proof.target + (first + count) ≤ 64)
    (total : first + count ≤ proof.siblingHashes.length) (hash : MachineHash) (state : σ) :
    (proof.bubbleUpFrom keccak count ((proof.target + first : ℕ) : ℤ) hash).run state =
      .ok (HashTree.climb (join keccak) (proof.index / 2 ^ first) hash
        ((proof.siblingHashes.drop first).take count)) state := by
  induction count generalizing first hash with
  | zero => rfl
  | succ count ih =>
    have inside : first < proof.siblingHashes.length := by omega
    have index : proof.targetAddress.toNat / 2 ^ (proof.target + first) =
        proof.index / 2 ^ first := by
      rw [HashTreeProof.index, Nat.div_div_eq_div_mul, pow_add]
    have next : ((proof.target + first : ℕ) : ℤ) + 1 = ((proof.target + (first + 1) : ℕ) : ℤ) := by
      omega
    have later := @ih (first + 1) (by omega) (by omega)
    have parent : proof.index / 2 ^ (first + 1) = proof.index / 2 ^ first / 2 := by
      rw [pow_succ, Nat.div_div_eq_div_mul]
    rw [bubbleUpFrom, bind_run, addressBit_run _ (by omega), Outcome.andThen_ok, bind_run,
      getSiblingHash_run inside, Outcome.andThen_ok, index, join_eq, next, later, parent,
      List.drop_eq_getElem_cons inside, List.take_succ_cons, HashTree.climb]

/-- `bubble_up` climbs past all siblings. -/
theorem bubbleUp_run (bounded : proof.root ≤ 64) (hash : MachineHash) (state : σ) :
    (proof.bubbleUp keccak hash).run state = .ok (proof.climb keccak hash) state := by
  have whole := proof.target_add_length
  have below : proof.target + (0 + proof.siblingHashes.length) ≤ 64 := by omega
  have climbed := bubbleUpFrom_run keccak proof.siblingHashes.length 0 below (by omega) hash state
  rw [Nat.add_zero, pow_zero, Nat.div_one, List.drop_zero, List.take_length,
    ← proof.log2TargetSize_eq, proof.sized] at climbed
  exact climbed

variable (keccak) in
/-- `verify` compares what the node's hash climbs to with the hash of the root. -/
theorem verify_run (bounded : proof.root ≤ 64) (state : σ) :
    (proof.verify keccak).run state =
      .ok (decide (proof.climb keccak proof.targetHash = proof.rootHash)) state := by
  rw [verify, bind_run, bubbleUp_run bounded, Outcome.andThen_ok, pure_run]

/-- The proof with other siblings. -/
def withSiblings (proof : HashTreeProof) (siblings : List MachineHash)
    (length : siblings.length = proof.siblingHashes.length) : HashTreeProof :=
  { proof with siblingHashes := siblings, sized := length.trans proof.sized }

/-- Writing the sibling of a size. -/
theorem setSiblingHash_run {index : ℕ} (inside : index < proof.siblingHashes.length)
    (hash : MachineHash) (state : σ) :
    (proof.setSiblingHash hash ((proof.target + index : ℕ) : ℤ)).run state =
      .ok (proof.withSiblings (proof.siblingHashes.set index hash) List.length_set) state := by
  rw [setSiblingHash, bind_run, log2SizeToIndex_run inside, Outcome.andThen_ok]
  rfl

/-- The entries up to one that was written. -/
theorem take_set_succ {hashes : List MachineHash} {index : ℕ} (inside : index < hashes.length)
    (hash : MachineHash) (rest : List MachineHash) :
    (hashes.set index hash).take (index + 1) ++ rest = hashes.take index ++ hash :: rest := by
  have written : index < (hashes.set index hash).length := by rwa [List.length_set]
  rw [List.take_succ_eq_append_getElem written, List.take_set_of_le (Nat.le_refl index),
    List.getElem_set_self, List.append_assoc, List.singleton_append]

end HashTreeProof

/-- The constructor of a proof accepts the sizes of a tree and of a node in it. -/
theorem hashTreeProof_run {σ : Type} (root target : ℕ) (positive : 0 < root)
    (ordered : target ≤ root) (small : root ≤ 64) (state : σ) :
    ∃ proof : HashTreeProof, (hashTreeProof root target).run state = .ok proof state ∧
      proof.log2RootSize = root ∧ proof.log2TargetSize = target := by
  have difference : asInt ((root : ℤ) - target) = some ((root : ℤ) - target) := by
    rw [asInt, if_pos (by omega)]
  have rootPos : (0 : ℤ) < root := by omega
  have targetNat : (0 : ℤ) ≤ target := by omega
  have targetLe : (target : ℤ) ≤ root := by omega
  rw [hashTreeProof, bind_run, difference, orUndefined_some, pure_run, Outcome.andThen_ok,
    dif_pos rootPos, dif_pos targetNat, dif_pos targetLe]
  exact ⟨_, rfl, rfl, rfl⟩

end Libcma.Merkle
