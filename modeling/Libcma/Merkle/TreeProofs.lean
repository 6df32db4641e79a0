import Libcma.Merkle.Pushes
import Libcma.Merkle.Proof

/-!
# Proofs of a complete tree

What `get_proof` returns verifies, and it is returned for exactly the nodes of the tree. A proof
that verifies against the root of a tree is the tree's own, up to the address bits that `verify`
does not read, or two inputs with the same digest are computed from it. A new hash bubbles up to
the root of the tree that has it.
-/

namespace Libcma.Merkle

open Exec

variable {keccak : List UInt8 → MachineHash} {shape : Shape} {σ : Type}

/-- The proof of a node of the tree over some leaves. -/
def Shape.proof (keccak : List UInt8 → MachineHash) (shape : Shape) (rootPos : 0 < shape.root)
    (leaves : List MachineHash) (address : BitVec 64) (height : ℕ)
    (inside : height ≤ shape.root - shape.leaf) : HashTreeProof where
  targetAddress := address
  log2TargetSize := ((shape.leaf + height : ℕ) : ℤ)
  targetHash := shape.node keccak leaves height (address.toNat / 2 ^ (shape.leaf + height))
  log2RootSize := shape.root
  rootHash := shape.node keccak leaves (shape.root - shape.leaf) 0
  siblingHashes := HashTree.siblings (join keccak)
    (HashTree.padded leaves (shape.blankLeaf keccak)) height
    (address.toNat / 2 ^ (shape.leaf + height)) (shape.root - shape.leaf - height)
  rootPos := by omega
  targetNat := by omega
  targetLe := by
    have leafLe := shape.leafLe
    omega
  sized := by
    have leafLe := shape.leafLe
    rw [HashTree.length_siblings]
    omega

variable (keccak shape) in
/-- The loop of `get_proof` sets the siblings of the tree. -/
theorem setSiblings_run (leaves : List MachineHash) {address : BitVec 64} {height count : ℕ}
    (first : ℕ) (proof : HashTreeProof) (within : address.toNat < 2 ^ shape.root)
    (target : proof.target = shape.leaf + height)
    (total : height + (first + count) = shape.root - shape.leaf)
    (length : proof.siblingHashes.length = first + count) (state : σ) :
    ∃ sized, ((shape.tree keccak leaves).setSiblings address count
        ((proof.target + first : ℕ) : ℤ) proof).run state =
      .ok (proof.withSiblings (proof.siblingHashes.take first ++
        HashTree.siblings (join keccak) (HashTree.padded leaves (shape.blankLeaf keccak))
          (height + first) (address.toNat / 2 ^ (shape.leaf + (height + first))) count) sized)
        state := by
  induction count generalizing first proof with
  | zero =>
    have all : proof.siblingHashes.take first = proof.siblingHashes := by
      rw [List.take_of_length_le (by omega)]
    refine ⟨by simp [HashTree.siblings, all], ?_⟩
    simp [CompleteMerkleTree.setSiblings, HashTree.siblings, all, HashTreeProof.withSiblings]
  | succ count ih =>
    have leafLe := shape.leafLe
    have rootLt := shape.rootLt
    have size : ((proof.target + first : ℕ) : ℤ) = ((shape.leaf + (height + first) : ℕ) : ℤ) := by
      omega
    have shift : ((proof.target + first : ℕ) : ℤ).toNat = shape.leaf + (height + first) := by
      omega
    have sibling := getNodeHash_run keccak shape leaves
      (address ^^^ (1 : BitVec 64) <<< (shape.leaf + (height + first))) state
      (by omega : height + first ≤ shape.root - shape.leaf)
    rw [if_pos (toNat_sibling_lt address rootLt (by omega) within),
      toNat_sibling address (by omega), ← size] at sibling
    have bound : first < proof.siblingHashes.length := by omega
    have next : ((proof.target + first : ℕ) : ℤ) + 1 = ((proof.target + (first + 1) : ℕ) : ℤ) := by
      omega
    have parent : address.toNat / 2 ^ (shape.leaf + (height + (first + 1))) =
        address.toNat / 2 ^ (shape.leaf + (height + first)) / 2 := HashTree.div_pow_succ _ _
    obtain ⟨sized, later⟩ := ih (first + 1)
      (proof.withSiblings (proof.siblingHashes.set first
        (shape.node keccak leaves (height + first)
          (HashTree.sibling (address.toNat / 2 ^ (shape.leaf + (height + first))))))
        List.length_set)
      target (by omega) (List.length_set.trans (by omega))
    have joined := HashTreeProof.take_set_succ bound
      (shape.node keccak leaves (height + first)
        (HashTree.sibling (address.toNat / 2 ^ (shape.leaf + (height + first)))))
      (HashTree.siblings (join keccak) (HashTree.padded leaves (shape.blankLeaf keccak))
        (height + (first + 1)) (address.toNat / 2 ^ (shape.leaf + (height + (first + 1)))) count)
    rw [HashTree.siblings, Nat.add_assoc height first 1, ← parent]
    refine ⟨(congrArg List.length joined).symm.trans (sized.trans List.length_set), ?_⟩
    rw [CompleteMerkleTree.setSiblings, bind_run, shift, sibling, Outcome.andThen_ok, bind_run,
      HashTreeProof.setSiblingHash_run bound, Outcome.andThen_ok, next]
    refine later.trans ?_
    congr 1
    exact HashTreeProof.ext rfl rfl rfl rfl rfl joined

variable (keccak shape) in
/-- The hash of the root. -/
theorem getRootHash_run (leaves : List MachineHash) (state : σ) :
    ((shape.tree keccak leaves).getRootHash).run state =
      .ok (shape.node keccak leaves (shape.root - shape.leaf) 0) state := by
  have leafLe := shape.leafLe
  have hash := getNodeHash_run keccak shape leaves 0 state
    (Nat.le_refl (shape.root - shape.leaf))
  have zero : (0 : BitVec 64).toNat = 0 := rfl
  rw [zero, if_pos (Nat.two_pow_pos _), Nat.zero_div, Nat.add_sub_cancel' leafLe] at hash
  exact hash

variable (keccak shape) in
/-- `get_proof` returns the proof of a node of the tree. -/
theorem getProof_run (rootPos : 0 < shape.root) (leaves : List MachineHash) {address : BitVec 64}
    {height : ℕ} (inside : height ≤ shape.root - shape.leaf)
    (within : address.toNat < 2 ^ shape.root) (aligned : 2 ^ (shape.leaf + height) ∣ address.toNat)
    (state : σ) :
    ((shape.tree keccak leaves).getProof address ((shape.leaf + height : ℕ) : ℤ)).run state =
      .ok (shape.proof keccak rootPos leaves address height inside) state := by
  have leafLe := shape.leafLe
  have rootLt := shape.rootLt
  have bounds : ¬(((shape.leaf + height : ℕ) : ℤ) < shape.leaf ∨
      (shape.root : ℤ) < ((shape.leaf + height : ℕ) : ℤ)) := by omega
  have straight : ¬address ≠ address >>> (shape.leaf + height) <<< (shape.leaf + height) :=
    not_not.mpr ((eq_align_iff address _).mpr aligned)
  obtain ⟨proof, constructed, rootSize, targetSize⟩ := hashTreeProof_run shape.root
    (shape.leaf + height) rootPos (by omega) (by omega) state
  have target : proof.target = shape.leaf + height := by
    rw [HashTreeProof.target, targetSize, Int.toNat_natCast]
  have count : ((shape.root : ℤ) - ((shape.leaf + height : ℕ) : ℤ)).toNat =
      shape.root - shape.leaf - height := depth_eq shape height
  have length : proof.siblingHashes.length = 0 + (shape.root - shape.leaf - height) := by
    rw [proof.sized, rootSize, targetSize, count, Nat.zero_add]
  obtain ⟨sized, looped⟩ := setSiblings_run keccak shape leaves 0
    { proof with
      rootHash := shape.node keccak leaves (shape.root - shape.leaf) 0
      targetAddress := address
      targetHash := shape.node keccak leaves height (address.toNat / 2 ^ (shape.leaf + height)) }
    within target (by omega) length state
  have start : (({ proof with
      rootHash := shape.node keccak leaves (shape.root - shape.leaf) 0
      targetAddress := address
      targetHash := shape.node keccak leaves height
        (address.toNat / 2 ^ (shape.leaf + height)) } : HashTreeProof).target + 0 : ℕ) =
      shape.leaf + height := target
  rw [start] at looped
  have rootField : (shape.tree keccak leaves).log2RootSize = shape.root := rfl
  have leafField : (shape.tree keccak leaves).log2LeafSize = shape.leaf := rfl
  rw [CompleteMerkleTree.getProof, bind_run, rootField, leafField, refuseIf_run, if_neg bounds,
    Outcome.andThen_ok, bind_run, Int.toNat_natCast, refuseIf_run, if_neg straight,
    Outcome.andThen_ok, bind_run, constructed, Outcome.andThen_ok, bind_run, getRootHash_run,
    Outcome.andThen_ok, bind_run, getNodeHash_run _ _ leaves address state inside, if_pos within,
    Outcome.andThen_ok, count, looped]
  congr 1
  exact HashTreeProof.ext rfl targetSize rfl rootSize rfl rfl

variable (keccak shape) in
/-- Past the siblings of a tree, the hash that a node has in a tree with other leaves below it
bubbles up to that tree's root. -/
theorem climb_proof (rootPos : 0 < shape.root) (leaves others : List MachineHash)
    {address : BitVec 64} {height : ℕ} (inside : height ≤ shape.root - shape.leaf)
    (within : address.toNat < 2 ^ shape.root)
    (same : ∀ position, position < shape.capacity →
      position / 2 ^ height ≠ address.toNat / 2 ^ (shape.leaf + height) →
      HashTree.padded leaves (shape.blankLeaf keccak) position =
        HashTree.padded others (shape.blankLeaf keccak) position) :
    (shape.proof keccak rootPos leaves address height inside).climb keccak
        (shape.node keccak others height (address.toNat / 2 ^ (shape.leaf + height))) =
      shape.node keccak others (shape.root - shape.leaf) 0 := by
  have leafLe := shape.leafLe
  have index : (shape.proof keccak rootPos leaves address height inside).index =
      address.toNat / 2 ^ (shape.leaf + height) := by
    rw [HashTreeProof.index, HashTreeProof.target, Shape.proof, Int.toNat_natCast]
  have top : address.toNat / 2 ^ (shape.leaf + height) / 2 ^ (shape.root - shape.leaf - height) =
      0 := by
    have exponent : shape.leaf + height + (shape.root - shape.leaf - height) = shape.root := by
      omega
    rw [Nat.div_div_eq_div_mul, ← pow_add, exponent]
    exact Nat.div_eq_of_lt within
  have replaced := HashTree.climb_replaced (join keccak) height
    (address.toNat / 2 ^ (shape.leaf + height)) (shape.root - shape.leaf - height)
    (fun position below => same position (by
      rw [top, Nat.add_sub_cancel' inside] at below
      rw [Shape.capacity]
      exact (Nat.div_eq_zero_iff_lt (Nat.two_pow_pos _)).mp below))
  rw [top, Nat.add_sub_cancel' inside] at replaced
  rw [HashTreeProof.climb, index]
  exact replaced

/-- The address is one of a node of the tree. -/
def NodeAddress (root leaf : ℤ) (address : BitVec 64) (log2Size : ℤ) : Prop :=
  leaf ≤ log2Size ∧ log2Size ≤ root ∧ 2 ^ log2Size.toNat ∣ address.toNat ∧
    address.toNat < 2 ^ root.toNat

instance (root leaf : ℤ) (address : BitVec 64) (log2Size : ℤ) :
    Decidable (NodeAddress root leaf address log2Size) :=
  inferInstanceAs (Decidable (_ ∧ _))

/-- A node's size is that of a leaf and its height. -/
theorem NodeAddress.exists_height {address : BitVec 64} {log2Size : ℤ}
    (node : NodeAddress shape.root shape.leaf address log2Size) :
    ∃ height, log2Size = ((shape.leaf + height : ℕ) : ℤ) ∧ height ≤ shape.root - shape.leaf ∧
      2 ^ (shape.leaf + height) ∣ address.toNat ∧ address.toNat < 2 ^ shape.root := by
  obtain ⟨lower, upper, aligned, within⟩ := node
  have size : log2Size = ((shape.leaf + (log2Size - shape.leaf).toNat : ℕ) : ℤ) := by omega
  rw [size, Int.toNat_natCast] at aligned
  rw [Int.toNat_natCast] at within
  exact ⟨_, size, by omega, aligned, within⟩

variable (keccak shape) in
/-- `get_proof` refuses everything else. -/
theorem getProof_refuses (leaves : List MachineHash) {address : BitVec 64} {log2Size : ℤ}
    (outside : ¬(0 < shape.root ∧ NodeAddress shape.root shape.leaf address log2Size)) :
    ∃ error, ((shape.tree keccak leaves).getProof address log2Size).run () = .throw error () := by
  have leafLe := shape.leafLe
  have rootLt := shape.rootLt
  have rootField : (shape.tree keccak leaves).log2RootSize = shape.root := rfl
  have leafField : (shape.tree keccak leaves).log2LeafSize = shape.leaf := rfl
  rw [CompleteMerkleTree.getProof, bind_run, rootField, leafField, refuseIf_run]
  by_cases bounds : log2Size < shape.leaf ∨ (shape.root : ℤ) < log2Size
  · rw [if_pos bounds]
    exact ⟨_, rfl⟩
  rw [if_neg bounds, Outcome.andThen_ok, bind_run, refuseIf_run]
  by_cases crooked : address ≠ address >>> log2Size.toNat <<< log2Size.toNat
  · rw [if_pos crooked]
    exact ⟨_, rfl⟩
  rw [if_neg crooked, Outcome.andThen_ok, bind_run]
  have aligned := (eq_align_iff address _).mp (not_not.mp crooked)
  obtain ⟨size, natural⟩ := Int.eq_ofNat_of_zero_le (a := log2Size) (by omega)
  by_cases rootPos : 0 < shape.root
  · have within : ¬address.toNat < 2 ^ shape.root := by
      intro within
      exact outside ⟨rootPos, by omega, by omega, aligned, by rwa [Int.toNat_natCast]⟩
    obtain ⟨proof, constructed, -⟩ := hashTreeProof_run shape.root size rootPos
      (by omega) (by omega) ()
    have size_eq : size = shape.leaf + (size - shape.leaf) := by omega
    have hash := getNodeHash_run keccak shape leaves address ()
      (by omega : size - shape.leaf ≤ shape.root - shape.leaf)
    rw [if_neg within, ← size_eq] at hash
    rw [natural, constructed, Outcome.andThen_ok, bind_run, getRootHash_run, Outcome.andThen_ok,
      bind_run, hash]
    exact ⟨_, rfl⟩
  · have zero : shape.root = 0 := by omega
    have none : size = 0 := by omega
    rw [natural, zero, none]
    exact ⟨_, rfl⟩

/-- A proof from a tree is the tree's own. -/
theorem getProof_eq_ok {leaves : List MachineHash} {address : BitVec 64} {log2Size : ℤ}
    {proof : HashTreeProof}
    (returned : ((shape.tree keccak leaves).getProof address log2Size).run () = .ok proof ()) :
    ∃ (rootPos : 0 < shape.root) (height : ℕ) (inside : height ≤ shape.root - shape.leaf),
      log2Size = ((shape.leaf + height : ℕ) : ℤ) ∧ address.toNat < 2 ^ shape.root ∧
      2 ^ (shape.leaf + height) ∣ address.toNat ∧
      proof = shape.proof keccak rootPos leaves address height inside := by
  have node : 0 < shape.root ∧ NodeAddress shape.root shape.leaf address log2Size := by
    by_contra outside
    obtain ⟨error, refused⟩ := getProof_refuses keccak _ leaves outside
    rw [returned] at refused
    cases refused
  obtain ⟨height, rfl, inside, aligned, within⟩ := node.2.exists_height
  have own := getProof_run keccak _ node.1 leaves inside within aligned ()
  rw [returned] at own
  cases own
  exact ⟨node.1, height, inside, rfl, within, aligned, rfl⟩

/-- `get_proof` answers for exactly the nodes of a tree that is larger than a byte, and what it
returns is a proof of the node's hash that verifies against the root. -/
theorem getProof_verifies (root leaf word : ℤ) (leaves : List MachineHash)
    (tree : CompleteMerkleTree)
    (built : (completeMerkleTree keccak root leaf word leaves).run () = .ok tree ())
    (address : BitVec 64) (log2Size : ℤ) :
    ((tree.getProof address log2Size).run ()).Defined ∧
      ((∃ proof, (tree.getProof address log2Size).run () = .ok proof ()) ↔
        0 < root ∧ NodeAddress root leaf address log2Size) ∧
      ∀ proof, (tree.getProof address log2Size).run () = .ok proof () →
        (proof.verify keccak).run () = .ok true () ∧
          proof.targetAddress = address ∧ proof.log2TargetSize = log2Size ∧
          proof.log2RootSize = root ∧
          (tree.getNodeHash address log2Size).run () = .ok proof.targetHash () ∧
          tree.getRootHash.run () = .ok proof.rootHash () := by
  obtain ⟨shape, rfl, rfl, rfl, rfl⟩ := shape_of_completeMerkleTree built
  have rootLt := shape.rootLt
  have answers : (0 : ℤ) < shape.root ∧ NodeAddress shape.root shape.leaf address log2Size →
      ∃ proof, ((shape.tree keccak leaves).getProof address log2Size).run () = .ok proof () := by
    intro node
    obtain ⟨height, rfl, inside, aligned, within⟩ := node.2.exists_height
    exact ⟨_, getProof_run _ _ (by omega) leaves inside within aligned ()⟩
  refine ⟨?_, ⟨?_, answers⟩, ?_⟩
  · by_cases node : (0 : ℤ) < shape.root ∧ NodeAddress shape.root shape.leaf address log2Size
    · obtain ⟨proof, returned⟩ := answers node
      rw [returned]
      trivial
    · obtain ⟨error, refused⟩ := getProof_refuses keccak shape leaves
        (fun found => node ⟨by omega, found.2⟩)
      rw [refused]
      trivial
  · intro answered
    obtain ⟨proof, returned⟩ := answered
    by_contra outside
    obtain ⟨error, refused⟩ := getProof_refuses keccak shape leaves
      (fun found => outside ⟨by omega, found.2⟩)
    rw [returned] at refused
    cases refused
  · intro proof returned
    obtain ⟨rootPos, height, inside, rfl, within, aligned, rfl⟩ := getProof_eq_ok returned
    have root : (shape.proof keccak rootPos leaves address height inside).root = shape.root := by
      rw [HashTreeProof.root, Shape.proof, Int.toNat_natCast]
    have climbed := climb_proof keccak _ rootPos leaves leaves inside within
      (fun _ _ _ => rfl)
    have hash := getNodeHash_run keccak _ leaves address () inside
    rw [if_pos within] at hash
    refine ⟨?_, rfl, rfl, rfl, hash, getRootHash_run _ _ leaves ()⟩
    rw [HashTreeProof.verify_run _ (by omega)]
    exact congrArg (Outcome.ok · ()) (decide_eq_true climbed)

/-- The proof of the second leaf of two. -/
theorem getProof_verifies_pair :
    (((twoBytes.tree firstBytes [zeros 32]).getProof 1 0).run ()).Defined ∧
      ((∃ proof, ((twoBytes.tree firstBytes [zeros 32]).getProof 1 0).run () = .ok proof ()) ↔
        (0 : ℤ) < 1 ∧ NodeAddress 1 0 1 0) ∧
      ∀ proof, ((twoBytes.tree firstBytes [zeros 32]).getProof 1 0).run () = .ok proof () →
        (proof.verify firstBytes).run () = .ok true () ∧
          proof.targetAddress = 1 ∧ proof.log2TargetSize = 0 ∧ proof.log2RootSize = 1 ∧
          ((twoBytes.tree firstBytes [zeros 32]).getNodeHash 1 0).run () =
            .ok proof.targetHash () ∧
          (twoBytes.tree firstBytes [zeros 32]).getRootHash.run () = .ok proof.rootHash () :=
  getProof_verifies 1 0 0 [zeros 32] _ (completeMerkleTree_run _ twoBytes [zeros 32]) 1 0

/-- Two trees have the same hash at every leaf outside a node. -/
def AgreeOutside (leaf : ℤ) (tree other : CompleteMerkleTree) (address : BitVec 64)
    (log2Size : ℤ) : Prop :=
  ∀ place : BitVec 64, place.toNat / 2 ^ log2Size.toNat ≠ address.toNat / 2 ^ log2Size.toNat →
    (tree.getNodeHash place leaf).run () = (other.getNodeHash place leaf).run ()

variable (keccak shape) in
/-- The leaf that is read at an address is the one of the list, or a blank one. -/
theorem getNodeHash_leaf (leaves : List MachineHash) {position : ℕ}
    (inside : position < shape.capacity) :
    ∃ place : BitVec 64, place.toNat = position * 2 ^ shape.leaf ∧
      ((shape.tree keccak leaves).getNodeHash place shape.leaf).run () =
        .ok (HashTree.padded leaves (shape.blankLeaf keccak) position) () := by
  have leafLe := shape.leafLe
  have rootLt := shape.rootLt
  have split : 2 ^ shape.root = 2 ^ (shape.root - shape.leaf) * 2 ^ shape.leaf := by
    rw [← pow_add, Nat.sub_add_cancel leafLe]
  have within : position * 2 ^ shape.leaf < 2 ^ shape.root := by
    rw [split]
    exact Nat.mul_lt_mul_of_pos_right inside (Nat.two_pow_pos _)
  have small : 2 ^ shape.root < 2 ^ 64 := Nat.pow_lt_pow_right (by omega) rootLt
  have place : (BitVec.ofNat 64 (position * 2 ^ shape.leaf)).toNat = position * 2 ^ shape.leaf :=
    Nat.mod_eq_of_lt (Nat.lt_trans within small)
  have hash := getNodeHash_run keccak shape leaves
    (BitVec.ofNat 64 (position * 2 ^ shape.leaf)) () (Nat.zero_le _)
  rw [place, if_pos within, Nat.add_zero, Nat.mul_div_cancel _ (Nat.two_pow_pos _)] at hash
  exact ⟨_, place, hash⟩

variable (keccak shape) in
/-- Appending a leaf changes no other leaf. -/
theorem agreeOutside_append (leaves : List MachineHash) (hash : MachineHash) {address : BitVec 64}
    (next : address.toNat = leaves.length * 2 ^ shape.leaf) :
    AgreeOutside shape.leaf (shape.tree keccak leaves) (shape.tree keccak (leaves ++ [hash]))
      address shape.leaf := by
  intro place outside
  rw [Int.toNat_natCast, next, Nat.mul_div_cancel _ (Nat.two_pow_pos _)] at outside
  have old := getNodeHash_run keccak shape leaves place () (Nat.zero_le _)
  have new := getNodeHash_run keccak shape (leaves ++ [hash]) place ()
    (Nat.zero_le _)
  have same : shape.node keccak leaves 0 (place.toNat / 2 ^ shape.leaf) =
      shape.node keccak (leaves ++ [hash]) 0 (place.toNat / 2 ^ shape.leaf) := by
    rw [Shape.node, Shape.node, HashTree.node, HashTree.node, HashTree.padded, HashTree.padded,
      List.getD_eq_getElem?_getD, List.getD_eq_getElem?_getD]
    by_cases before : place.toNat / 2 ^ shape.leaf < leaves.length
    · rw [List.getElem?_append_left before]
    · have none : (leaves ++ [hash])[place.toNat / 2 ^ shape.leaf]? = none :=
        List.getElem?_eq_none (by rw [List.length_append, List.length_singleton]; omega)
      rw [none, List.getElem?_eq_none (by omega)]
  rw [Nat.add_zero] at old new
  rw [old, new, same]

/-- A new hash for a node bubbles up to the root of the tree that has it: one whose leaves outside
the node are the same. -/
theorem bubbleUp_replaces (root leaf word : ℤ) (leaves others : List MachineHash)
    (tree other : CompleteMerkleTree)
    (built : (completeMerkleTree keccak root leaf word leaves).run () = .ok tree ())
    (rebuilt : (completeMerkleTree keccak root leaf word others).run () = .ok other ())
    (address : BitVec 64) (log2Size : ℤ) (proof : HashTreeProof) (hash : MachineHash)
    (returned : (tree.getProof address log2Size).run () = .ok proof ())
    (agree : AgreeOutside leaf tree other address log2Size)
    (new : (other.getNodeHash address log2Size).run () = .ok hash ()) :
    (proof.bubbleUp keccak hash).run () = other.getRootHash.run () := by
  obtain ⟨shape, rfl, rfl, rfl, rfl⟩ := shape_of_completeMerkleTree built
  rw [completeMerkleTree_run] at rebuilt
  cases rebuilt
  have rootLt := shape.rootLt
  obtain ⟨rootPos, height, inside, rfl, within, aligned, rfl⟩ := getProof_eq_ok returned
  have found := getNodeHash_run keccak _ others address () inside
  rw [if_pos within, new] at found
  cases found
  have climbed := climb_proof keccak _ rootPos leaves others inside within (by
    intro position room outside
    obtain ⟨place, at_, own⟩ := getNodeHash_leaf keccak _ leaves room
    obtain ⟨spot, same, theirs⟩ := getNodeHash_leaf keccak _ others room
    have spot_eq : spot = place := BitVec.toNat_inj.mp (same.trans at_.symm)
    have apart : place.toNat / 2 ^ (shape.leaf + height) = position / 2 ^ height := by
      rw [at_, pow_add, ← Nat.div_div_eq_div_mul, Nat.mul_div_cancel _ (Nat.two_pow_pos _)]
    have equal := agree place (by rwa [Int.toNat_natCast, apart])
    rw [own, ← spot_eq, theirs] at equal
    exact (Outcome.ok.inj equal).1)
  have size : (shape.proof keccak rootPos leaves address height inside).root = shape.root := by
    rw [HashTreeProof.root, Shape.proof, Int.toNat_natCast]
  rw [HashTreeProof.bubbleUp_run (by omega), climbed, getRootHash_run]

/-- The proof of the first blank leaf gives the root that appending a leaf leads to. -/
theorem bubbleUp_replaces_pair :
    ((twoBytes.proof firstBytes (by decide) [zeros 32] 1 0 (by decide)).bubbleUp firstBytes
        (firstBytes [1])).run () =
      (twoBytes.tree firstBytes [zeros 32, firstBytes [1]]).getRootHash.run () :=
  bubbleUp_replaces 1 0 0 [zeros 32] [zeros 32, firstBytes [1]] _ _
    (completeMerkleTree_run _ twoBytes [zeros 32])
    (completeMerkleTree_run _ twoBytes [zeros 32, firstBytes [1]]) 1 0 _ (firstBytes [1])
    (getProof_run _ twoBytes (by decide) [zeros 32] (Nat.zero_le _) (by decide) (by decide) ())
    (agreeOutside_append _ twoBytes [zeros 32] (firstBytes [1]) (by decide))
    (getNodeHash_run _ twoBytes [zeros 32, firstBytes [1]] 1 () (Nat.zero_le _))

end Libcma.Merkle
