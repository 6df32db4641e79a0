import Libcma.Merkle.TreeProofs

/-!
# What a root commits to

There are more byte strings than digests, so that some two have the same one, and a statement that
they exist says nothing. Here two such strings are computed, from two proofs that verify against
one root or from the leaves of two trees with one root: whoever shows both has found them.
-/

namespace Libcma.Merkle

open Exec

variable (keccak : List UInt8 → MachineHash)

/-- The bytes that two hashes are joined from. -/
def concatBytes (hashes : MachineHash × MachineHash) : List UInt8 :=
  hashes.1.toList ++ hashes.2.toList

/-- Two different byte strings with the same digest. -/
def IsCollision (found : Option (List UInt8 × List UInt8)) : Prop :=
  ∃ one two, found = some (one, two) ∧ one ≠ two ∧ keccak one = keccak two

/-- The byte strings of two pairs of hashes. -/
def clashBytes (found : Option ((MachineHash × MachineHash) × (MachineHash × MachineHash))) :
    Option (List UInt8 × List UInt8) :=
  found.map fun pairs => (concatBytes pairs.1, concatBytes pairs.2)

/-- The byte strings that two proofs of one node join into the same hash on the way to the root. -/
def proofClash (proof other : HashTreeProof) : Option (List UInt8 × List UInt8) :=
  clashBytes (HashTree.clash (join keccak) other.index proof.targetHash proof.siblingHashes
    other.targetHash other.siblingHashes)

/-- The byte strings that two trees of a height join into the same hash. -/
def leavesClash (one two : ℕ → MachineHash) (height : ℕ) : Option (List UInt8 × List UInt8) :=
  clashBytes (HashTree.treeClash (join keccak) one two height 0)

variable {keccak}

/-- The bytes determine the two hashes. -/
theorem concatBytes_injective {one two : MachineHash × MachineHash}
    (same : concatBytes one = concatBytes two) : one = two := by
  obtain ⟨left, right⟩ := List.append_inj same (by simp)
  exact Prod.ext (List.Vector.eq _ _ left) (List.Vector.eq _ _ right)

/-- Pairs that are joined into the same hash are byte strings with the same digest. -/
theorem isCollision_clashBytes
    {found : Option ((MachineHash × MachineHash) × (MachineHash × MachineHash))}
    (collides : HashTree.Collides (join keccak) found) :
    IsCollision keccak (clashBytes found) := by
  obtain ⟨first, second, rfl, different, same⟩ := collides
  exact ⟨_, _, rfl, fun bytes => different (concatBytes_injective bytes), same⟩

/-- What was found, if anything, is a collision. -/
def FindsCollisions (keccak : List UInt8 → MachineHash)
    (found : Option (List UInt8 × List UInt8)) : Prop :=
  found.isSome → IsCollision keccak found

/-- A collision that is looked for in two places. -/
theorem IsCollision.or {found other : Option (List UInt8 × List UInt8)}
    (finds : FindsCollisions keccak found)
    (either : IsCollision keccak found ∨ IsCollision keccak other) :
    IsCollision keccak (found.or other) := by
  cases found with
  | none =>
    rcases either with ⟨one, two, none, -⟩ | second
    · cases none
    · exact second
  | some pair => exact finds rfl

/-- Climbs find collisions. -/
theorem findsCollisions_proofClash (proof other : HashTreeProof) :
    FindsCollisions keccak (proofClash keccak proof other) := by
  intro found
  cases computed : HashTree.clash (join keccak) other.index proof.targetHash proof.siblingHashes
      other.targetHash other.siblingHashes with
  | none =>
    rw [proofClash, computed] at found
    cases found
  | some pairs =>
    have sound := HashTree.clash_sound computed
    exact isCollision_clashBytes ⟨pairs.1, pairs.2, computed, sound⟩

/-- Trees with one root find collisions. -/
theorem findsCollisions_leavesClash {one two : ℕ → MachineHash} {height : ℕ}
    (same : HashTree.node (join keccak) one height 0 = HashTree.node (join keccak) two height 0) :
    FindsCollisions keccak (leavesClash keccak one two height) := by
  intro found
  cases computed : HashTree.treeClash (join keccak) one two height 0 with
  | none =>
    rw [leavesClash, computed] at found
    cases found
  | some pairs =>
    have sound := HashTree.treeClash_sound same computed
    exact isCollision_clashBytes ⟨pairs.1, pairs.2, computed, sound⟩

/-- The bits of the address that `verify` reads. -/
def HashTreeProof.readAddress (proof : HashTreeProof) : BitVec 64 :=
  BitVec.ofNat 64 (proof.targetAddress.toNat % 2 ^ proof.root / 2 ^ proof.target * 2 ^ proof.target)

/-- The address read is one of the tree. -/
theorem toNat_readAddress (proof : HashTreeProof) :
    proof.readAddress.toNat =
      proof.targetAddress.toNat % 2 ^ proof.root / 2 ^ proof.target * 2 ^ proof.target := by
  apply Nat.mod_eq_of_lt
  calc
    _ ≤ proof.targetAddress.toNat % 2 ^ proof.root := Nat.div_mul_le_self _ _
    _ ≤ proof.targetAddress.toNat := Nat.mod_le _ _
    _ < 2 ^ 64 := proof.targetAddress.isLt

variable {shape : Shape}

variable (keccak shape) in
/-- A proof that verifies against the root of the tree over some leaves is the tree's own. -/
theorem own_of_verified (leaves : List MachineHash) (proof : HashTreeProof)
    (rooted : (shape.tree keccak leaves).getRootHash.run () = .ok proof.rootHash ())
    (rootSize : proof.log2RootSize = shape.root) (targetSize : shape.leaf ≤ proof.log2TargetSize)
    (verified : (proof.verify keccak).run () = .ok true ()) :
    ∃ own, ((shape.tree keccak leaves).getProof proof.readAddress proof.log2TargetSize).run () =
        .ok own () ∧
      ({ proof with targetAddress := proof.readAddress } = own ∨
        IsCollision keccak (proofClash keccak proof own)) := by
  have rootLt := shape.rootLt
  have leafLe := shape.leafLe
  have rootPos := proof.rootPos
  have targetLe := proof.targetLe
  have root : proof.root = shape.root := by
    rw [HashTreeProof.root, rootSize, Int.toNat_natCast]
  have target := proof.log2TargetSize_eq
  have length := proof.target_add_length
  have size : proof.target = shape.leaf + (proof.target - shape.leaf) := by omega
  have address := toNat_readAddress proof
  have positive := Nat.two_pow_pos proof.target
  have within : proof.readAddress.toNat < 2 ^ shape.root := by
    rw [address, root]
    exact Nat.lt_of_le_of_lt (Nat.div_mul_le_self _ _) (Nat.mod_lt _ (Nat.two_pow_pos _))
  have aligned : 2 ^ (shape.leaf + (proof.target - shape.leaf)) ∣ proof.readAddress.toNat := by
    rw [← size, address]
    exact Nat.dvd_mul_left _ _
  have inside : proof.target - shape.leaf ≤ shape.root - shape.leaf := by omega
  have returned := getProof_run keccak shape (by omega) leaves inside within
    aligned ()
  rw [← size, ← target] at returned
  refine ⟨_, returned, ?_⟩
  rw [getRootHash_run] at rooted
  have rootHash := (Outcome.ok.inj rooted).1
  have rootPos : 0 < shape.root := by omega
  set own := shape.proof keccak rootPos leaves proof.readAddress (proof.target - shape.leaf) inside
    with defined
  have ownIndex : own.index = proof.index % 2 ^ proof.siblingHashes.length := by
    have ownTarget : own.target = proof.target := by
      rw [HashTreeProof.target, defined, Shape.proof, Int.toNat_natCast, ← size]
    have exponent : 2 ^ proof.root = 2 ^ proof.target * 2 ^ proof.siblingHashes.length := by
      rw [← pow_add, length]
    rw [HashTreeProof.index, ownTarget, HashTreeProof.index, ← Nat.mod_mul_right_div_self,
      ← exponent]
    change proof.readAddress.toNat / _ = _
    rw [address, Nat.mul_div_cancel _ positive]
  have theirs : HashTree.climb (join keccak) own.index proof.targetHash proof.siblingHashes =
      proof.rootHash := by
    rw [HashTreeProof.verify_run _ (by omega)] at verified
    have climbed := of_decide_eq_true (Outcome.ok.inj verified).1
    rw [ownIndex, HashTree.climb_mod]
    exact climbed
  have ours : HashTree.climb (join keccak) own.index own.targetHash own.siblingHashes =
      proof.rootHash := by
    rw [← rootHash]
    exact climb_proof keccak _ rootPos leaves leaves inside within (fun _ _ _ => rfl)
  have lengths : proof.siblingHashes.length = own.siblingHashes.length := by
    rw [defined, Shape.proof, HashTree.length_siblings]
    omega
  by_cases same : proof.targetHash = own.targetHash ∧ proof.siblingHashes = own.siblingHashes
  · left
    apply HashTreeProof.ext
    · rfl
    · change proof.log2TargetSize = ((shape.leaf + (proof.target - shape.leaf) : ℕ) : ℤ)
      rw [← size]
      exact target
    · exact same.1
    · exact rootSize
    · exact rootHash.symm
    · exact same.2
  · right
    exact isCollision_clashBytes
      (HashTree.clash_collides lengths same (theirs.trans ours.symm))

/-- A proof that verifies against the root of a tree is the tree's own, up to the address bits that
are not read, or two byte strings with the same digest are computed from the two. -/
theorem proof_is_own (root leaf word : ℤ) (leaves : List MachineHash) (tree : CompleteMerkleTree)
    (built : (completeMerkleTree keccak root leaf word leaves).run () = .ok tree ())
    (proof : HashTreeProof) (rooted : tree.getRootHash.run () = .ok proof.rootHash ())
    (rootSize : proof.log2RootSize = root) (targetSize : leaf ≤ proof.log2TargetSize)
    (verified : (proof.verify keccak).run () = .ok true ()) :
    ∃ own, (tree.getProof proof.readAddress proof.log2TargetSize).run () = .ok own () ∧
      ({ proof with targetAddress := proof.readAddress } = own ∨
        IsCollision keccak (proofClash keccak proof own)) := by
  obtain ⟨shape, rfl, rfl, rfl, rfl⟩ := shape_of_completeMerkleTree built
  exact own_of_verified keccak _ leaves proof rooted rootSize targetSize verified

/-- The proof of the second leaf of two, under another address with the same bit. -/
def farAddress : HashTreeProof :=
  { twoBytes.proof firstBytes (by decide) [zeros 32] 1 0 (by decide) with targetAddress := 7 }

/-- It is the proof of the second leaf. -/
theorem proof_is_own_far :
    ∃ own, ((twoBytes.tree firstBytes [zeros 32]).getProof farAddress.readAddress 0).run () =
        .ok own () ∧
      ({ farAddress with targetAddress := farAddress.readAddress } = own ∨
        IsCollision firstBytes (proofClash firstBytes farAddress own)) :=
  proof_is_own 1 0 0 [zeros 32] _ (completeMerkleTree_run _ twoBytes [zeros 32])
    farAddress (getRootHash_run _ twoBytes [zeros 32] ()) rfl (by decide)
    (by
      have climbed : farAddress.climb firstBytes farAddress.targetHash = farAddress.rootHash := by
        decide +kernel
      rw [HashTreeProof.verify_run _ (by decide)]
      exact congrArg (Outcome.ok · ()) (decide_eq_true climbed))

end Libcma.Merkle
