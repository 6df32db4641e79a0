import Libcma.Merkle.Binding

/-!
# The hash of data

`get_merkle_tree_hash` halves its data down to leaves. It accepts data of a power of two leaves and
nothing else, and returns the root of the complete tree over the hashes of the leaves. From two
byte strings of one length with the same hash, a collision of the digest is computed.
-/

namespace Libcma.Merkle

open Exec

/-- One leaf of some data. -/
def leafBytes (data : List UInt8) (leafLength position : ℕ) : List UInt8 :=
  (data.drop (position * leafLength)).take leafLength

variable (keccak : List UInt8 → MachineHash)

/-- The hash of one leaf of some data. -/
def leafHash (data : List UInt8) (leafLength position : ℕ) : MachineHash :=
  keccak (leafBytes data leafLength position)

/-- The hashes of the leaves of some data. -/
def leafHashes (data : List UInt8) (leafLength : ℕ) : List MachineHash :=
  (List.range (data.length / leafLength)).map (leafHash keccak data leafLength)

variable {keccak} {σ : Type}

/-- The hash of data of a power of two leaves is a node over the leaves. -/
theorem getMerkleTreeHash_run {leafLength : ℕ} (height : ℕ) {data : List UInt8}
    (nonzero : 0 < leafLength) (sized : data.length = leafLength * 2 ^ height) (state : σ) :
    (getMerkleTreeHash keccak data leafLength).run state =
      .ok (HashTree.node (join keccak) (leafHash keccak data leafLength) height 0) state := by
  induction height generalizing data with
  | zero =>
    rw [pow_zero, Nat.mul_one] at sized
    have short : ¬leafLength < data.length := by omega
    rw [getMerkleTreeHash, dif_neg short, if_neg (not_not.mpr sized), pure_run, HashTree.node,
      leafHash, leafBytes, Nat.zero_mul, List.drop_zero, List.take_of_length_le (by omega)]
  | succ height ih =>
    have positive := Nat.two_pow_pos height
    have double : data.length = 2 * (leafLength * 2 ^ height) := by
      rw [sized, pow_succ, ← Nat.mul_assoc, Nat.mul_comm]
    have half : data.length / 2 = leafLength * 2 ^ height := by omega
    have large : leafLength ≤ leafLength * 2 ^ height := Nat.le_mul_of_pos_right _ positive
    have longer : leafLength < data.length := by omega
    have even : ¬data.length % 2 ≠ 0 := by omega
    have left := @ih (data.take (leafLength * 2 ^ height)) (by rw [List.length_take]; omega)
    have right := @ih (data.drop (leafLength * 2 ^ height)) (by rw [List.length_drop]; omega)
    have front : HashTree.node (join keccak)
        (leafHash keccak (data.take (leafLength * 2 ^ height)) leafLength) height 0 =
        HashTree.node (join keccak) (leafHash keccak data leafLength) height 0 := by
      apply HashTree.node_congr
      intro position under
      have small : position < 2 ^ height := (Nat.div_eq_zero_iff_lt positive).mp under
      have inside : (position + 1) * leafLength ≤ 2 ^ height * leafLength :=
        Nat.mul_le_mul_right leafLength small
      rw [Nat.add_mul, Nat.one_mul, Nat.mul_comm (2 ^ height)] at inside
      rw [leafHash, leafHash, leafBytes, leafBytes, List.drop_take, List.take_take,
        Nat.min_eq_left (by omega)]
    have back : HashTree.node (join keccak)
        (leafHash keccak (data.drop (leafLength * 2 ^ height)) leafLength) height 0 =
        HashTree.node (join keccak) (leafHash keccak data leafLength) height 1 := by
      have shifted := HashTree.node_shift (join keccak) (leafHash keccak data leafLength)
        height 1 0
      rw [← shifted]
      congr 1
      funext position
      rw [leafHash, leafHash, leafBytes, leafBytes, List.drop_drop, Nat.one_mul, Nat.add_mul,
        Nat.mul_comm leafLength]
    rw [getMerkleTreeHash, dif_pos longer, dif_neg even, bind_run, half, left, Outcome.andThen_ok,
      bind_run, right, Outcome.andThen_ok, pure_run, front, back]
    rfl

variable (keccak) in
/-- Data that is not of a power of two leaves is refused. -/
theorem getMerkleTreeHash_refuses {leafLength : ℕ} {data : List UInt8}
    (unsized : ∀ height, data.length ≠ leafLength * 2 ^ height) (state : σ) :
    ∃ error, (getMerkleTreeHash keccak data leafLength).run state = .throw error state := by
  induction data using getMerkleTreeHash.induct leafLength with
  | case1 data longer odd =>
    rw [getMerkleTreeHash, dif_pos longer, dif_pos odd]
    exact ⟨_, rfl⟩
  | case2 data longer even half left right =>
    rw [getMerkleTreeHash, dif_pos longer, dif_neg even, bind_run]
    have halved : (data.take (data.length / 2)).length * 2 = data.length := by
      rw [List.length_take]
      omega
    have refused := left (by
      intro height short
      apply unsized (height + 1)
      rw [← halved, short, pow_succ, Nat.mul_assoc])
    obtain ⟨error, thrown⟩ := refused
    rw [thrown]
    exact ⟨error, rfl⟩
  | case3 data short different =>
    rw [getMerkleTreeHash, dif_neg short, if_pos different]
    exact ⟨_, rfl⟩
  | case4 data short same =>
    exact absurd (not_not.mp same) (by simpa using unsized 0)

variable (keccak) in
/-- `get_merkle_tree_hash` accepts exactly data of a power of two leaves, and returns the root of
the complete tree over the hashes of the leaves. -/
theorem merkle_tree_hash_root (data : List UInt8) (leafLength : ℕ) :
    ((getMerkleTreeHash keccak data leafLength).run ()).Defined ∧
      ((∃ hash, (getMerkleTreeHash keccak data leafLength).run () = .ok hash ()) ↔
        ∃ height, data.length = leafLength * 2 ^ height) ∧
      ∀ (root leaf word : ℤ) (tree : CompleteMerkleTree), leafLength = 2 ^ leaf.toNat →
        data.length = 2 ^ root.toNat →
        (completeMerkleTree keccak root leaf word (leafHashes keccak data leafLength)).run () =
          .ok tree () →
        (getMerkleTreeHash keccak data leafLength).run () = tree.getRootHash.run () := by
  have accepts : (∃ height, data.length = leafLength * 2 ^ height) →
      ∃ hash, (getMerkleTreeHash keccak data leafLength).run () = .ok hash () := by
    intro sized
    obtain ⟨height, sized⟩ := sized
    by_cases nonzero : 0 < leafLength
    · exact ⟨_, getMerkleTreeHash_run height nonzero sized ()⟩
    · have zero : leafLength = 0 := by omega
      rw [zero, Nat.zero_mul] at sized
      have short : ¬leafLength < data.length := by omega
      have same : ¬data.length ≠ leafLength := by omega
      rw [getMerkleTreeHash, dif_neg short, if_neg same]
      exact ⟨_, rfl⟩
  refine ⟨?_, ⟨?_, accepts⟩, ?_⟩
  · by_cases sized : ∃ height, data.length = leafLength * 2 ^ height
    · obtain ⟨hash, returned⟩ := accepts sized
      rw [returned]
      trivial
    · obtain ⟨error, thrown⟩ := getMerkleTreeHash_refuses keccak
        (not_exists.mp sized) ()
      rw [thrown]
      trivial
  · intro returns
    obtain ⟨hash, returned⟩ := returns
    by_contra unsized
    obtain ⟨error, thrown⟩ := getMerkleTreeHash_refuses keccak
      (not_exists.mp unsized) ()
    rw [returned] at thrown
    cases thrown
  · intro root leaf word tree leafEq dataEq built
    obtain ⟨shape, rfl, rfl, rfl, rfl⟩ := shape_of_completeMerkleTree built
    rw [Int.toNat_natCast] at leafEq dataEq
    have leafLe := shape.leafLe
    have sized : data.length = leafLength * 2 ^ (shape.root - shape.leaf) := by
      rw [dataEq, leafEq, ← pow_add, Nat.add_sub_cancel' leafLe]
    have nonzero : 0 < leafLength := by
      rw [leafEq]
      exact Nat.two_pow_pos _
    have count : data.length / leafLength = 2 ^ (shape.root - shape.leaf) := by
      rw [sized, Nat.mul_div_cancel_left _ nonzero]
    rw [getMerkleTreeHash_run _ nonzero sized, getRootHash_run, Shape.node]
    congr 1
    apply HashTree.node_congr
    intro position under
    have inside : position < data.length / leafLength := by
      rw [count]
      exact (Nat.div_eq_zero_iff_lt (Nat.two_pow_pos _)).mp under
    rw [HashTree.padded, List.getD_eq_getElem?_getD, leafHashes, List.getElem?_map,
      List.getElem?_range inside]
    rfl

/-- The hash of two bytes. -/
theorem merkle_tree_hash_root_pair :
    (getMerkleTreeHash firstBytes [1, 2] 1).run () =
      (twoBytes.tree firstBytes (leafHashes firstBytes [1, 2] 1)).getRootHash.run () :=
  (merkle_tree_hash_root firstBytes [1, 2] 1).2.2 1 0 0 _ rfl rfl
    (completeMerkleTree_run _ twoBytes (leafHashes firstBytes [1, 2] 1))

/-- The last leaves at one position that differ and have the same digest. -/
def wordsClash (keccak : List UInt8 → MachineHash) (one two : List UInt8) (leafLength : ℕ) :
    ℕ → Option (List UInt8 × List UInt8)
  | 0 => none
  | count + 1 =>
    if leafBytes one leafLength count ≠ leafBytes two leafLength count ∧
        keccak (leafBytes one leafLength count) = keccak (leafBytes two leafLength count) then
      some (leafBytes one leafLength count, leafBytes two leafLength count)
    else wordsClash keccak one two leafLength count

/-- The byte strings with one digest that two data of a height with one hash contain. -/
def dataClash (keccak : List UInt8 → MachineHash) (one two : List UInt8) (leafLength height : ℕ) :
    Option (List UInt8 × List UInt8) :=
  (leavesClash keccak (leafHash keccak one leafLength) (leafHash keccak two leafLength) height).or
    (wordsClash keccak one two leafLength (2 ^ height))

/-- Different leaves with one digest are found. -/
theorem isCollision_wordsClash {one two : List UInt8} {leafLength position count : ℕ}
    (inside : position < count)
    (different : leafBytes one leafLength position ≠ leafBytes two leafLength position)
    (same : leafHash keccak one leafLength position = leafHash keccak two leafLength position) :
    IsCollision keccak (wordsClash keccak one two leafLength count) := by
  induction count with
  | zero => omega
  | succ count ih =>
    rw [wordsClash]
    by_cases here : leafBytes one leafLength count ≠ leafBytes two leafLength count ∧
        keccak (leafBytes one leafLength count) = keccak (leafBytes two leafLength count)
    · rw [if_pos here]
      exact ⟨_, _, rfl, here⟩
    · rw [if_neg here]
      have other : position ≠ count := by
        intro last
        rw [last] at different same
        exact here ⟨different, same⟩
      exact ih (by omega)

/-- Data is the list of its leaves. -/
theorem take_eq_of_leaves {one two : List UInt8} {leafLength count : ℕ}
    (same : ∀ position, position < count →
      leafBytes one leafLength position = leafBytes two leafLength position) :
    one.take (count * leafLength) = two.take (count * leafLength) := by
  induction count with
  | zero => rw [Nat.zero_mul, List.take_zero, List.take_zero]
  | succ count ih =>
    have front := ih (fun position below => same position (by omega))
    have last := same count (Nat.lt_succ_self count)
    rw [leafBytes, leafBytes] at last
    rw [Nat.succ_mul, List.take_add, List.take_add, front, last]

/-- Data of one length with the same hash is the same data, or contains a collision. -/
theorem data_of_hash {one two : List UInt8} {leafLength : ℕ} (height : ℕ)
    (oneSized : one.length = leafLength * 2 ^ height)
    (twoSized : two.length = leafLength * 2 ^ height)
    (same : HashTree.node (join keccak) (leafHash keccak one leafLength) height 0 =
      HashTree.node (join keccak) (leafHash keccak two leafLength) height 0) :
    one = two ∨ IsCollision keccak (dataClash keccak one two leafLength height) := by
  by_cases equal : one = two
  · exact .inl equal
  right
  have differ : ∃ position, position < 2 ^ height ∧
      leafBytes one leafLength position ≠ leafBytes two leafLength position := by
    by_contra none
    have each : ∀ position, position < 2 ^ height →
        leafBytes one leafLength position = leafBytes two leafLength position := by
      intro position inside
      by_contra different
      exact none ⟨position, inside, different⟩
    have leaves := take_eq_of_leaves each
    rw [Nat.mul_comm, List.take_of_length_le (by omega), List.take_of_length_le (by omega)]
      at leaves
    exact equal leaves
  obtain ⟨position, inside, different⟩ := differ
  apply IsCollision.or (findsCollisions_leavesClash same)
  by_cases hashes : leafHash keccak one leafLength position =
      leafHash keccak two leafLength position
  · exact .inr (isCollision_wordsClash inside different hashes)
  · have under : position / 2 ^ height = 0 := Nat.div_eq_of_lt inside
    exact .inl (isCollision_clashBytes (HashTree.treeClash_collides same under hashes))

end Libcma.Merkle
