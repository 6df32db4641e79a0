import Libcma.Lib.Exec
import Libcma.Lib.HashTree
import Libcma.Types

/-!
# Hashes and pristine trees

`i-hasher.h` and `pristine-merkle-tree.cpp`. The digest behind `keccak_256_hasher` is of a library
that is not in the repository; it is a parameter here. A size is the base-two logarithm of a number
of bytes, an `int` of the source. An exception is its text.

A pristine tree holds the hashes of the subtrees over zero words, one for each size.
-/

namespace Libcma.Merkle

open Exec

/-- `machine_hash`. -/
abbrev MachineHash : Type := Bytes 32

/-- The value is one of an `int`; undefined arithmetic when it is not. -/
def asInt (value : ℤ) : Option ℤ := if -2 ^ 31 ≤ value ∧ value < 2 ^ 31 then some value else none

/-- The number of sizes from one to another. -/
def countSizes {σ : Type} (first last : ℤ) : Exec String σ ℕ := do
  let difference ← orUndefined (asInt (last - first))
  let count ← orUndefined (asInt (difference + 1))
  pure count.toNat

variable (keccak : List UInt8 → MachineHash)

/-- `get_concat_hash`. -/
def getConcatHash (left right : MachineHash) : MachineHash := keccak (left.toList ++ right.toList)

/-- `get_concat_hash` of a pair. -/
def join (hashes : MachineHash × MachineHash) : MachineHash :=
  getConcatHash keccak hashes.1 hashes.2

/-- `get_merkle_tree_hash`. -/
def getMerkleTreeHash {σ : Type} (data : List UInt8) (leafLength : ℕ) : Exec String σ MachineHash :=
  if longer : leafLength < data.length then
    if odd : data.length % 2 ≠ 0 then
      raise "data size must be a power of 2 multiple of leaf_length"
    else do
      let halfSize := data.length / 2
      let left ← getMerkleTreeHash (data.take halfSize) leafLength
      let right ← getMerkleTreeHash (data.drop halfSize) leafLength
      pure (getConcatHash keccak left right)
  else if data.length ≠ leafLength then
    raise "data size must be a power of 2 multiple of leaf length"
  else
    pure (keccak data)
termination_by data.length
decreasing_by
  · rw [List.length_take]
    omega
  · rw [List.length_drop]
    omega

/-- `pristine_merkle_tree`. -/
structure PristineMerkleTree where
  /-- `m_log2_root_size`. -/
  log2RootSize : ℤ
  /-- `m_log2_word_size`. -/
  log2WordSize : ℤ
  /-- `m_hashes`. -/
  hashes : List MachineHash
  deriving DecidableEq

/-- The constructor of `pristine_merkle_tree`. `1 << 31` is negative, and no vector is as long as
it is when it is taken for a `size_t`; a longer shift is undefined. -/
def pristineMerkleTree {σ : Type} (log2RootSize log2WordSize : ℤ) :
    Exec String σ PristineMerkleTree := do
  let count ← countSizes log2WordSize log2RootSize
  refuseIf (log2RootSize < 0) "log2_root_size is negative"
  refuseIf (log2WordSize < 0) "log2_word_size is negative"
  refuseIf (log2RootSize < log2WordSize) "log2_word_size is greater than log2_root_size"
  refuseIf (log2WordSize = 31) "cannot create std::vector larger than max_size()"
  orUndefined (if log2WordSize < 31 then some () else none)
  let word := keccak (List.replicate (2 ^ log2WordSize.toNat) 0)
  pure {
    log2RootSize
    log2WordSize
    hashes := List.iterate (fun hash => getConcatHash keccak hash hash) word count }

/-- `pristine_merkle_tree::get_hash`. -/
def PristineMerkleTree.getHash {σ : Type} (tree : PristineMerkleTree) (log2Size : ℤ) :
    Exec String σ MachineHash := do
  refuseIf (log2Size < tree.log2WordSize ∨ tree.log2RootSize < log2Size)
    "log2_size is out of range"
  orUndefined tree.hashes[(log2Size - tree.log2WordSize).toNat]?

/-- The sizes of a tree that its constructors accept. -/
structure Shape where
  /-- Size of the tree. -/
  root : ℕ
  /-- Size of a leaf. -/
  leaf : ℕ
  /-- Size of a word. -/
  word : ℕ
  /-- A word is at most a leaf. -/
  wordLe : word ≤ leaf
  /-- A leaf is at most the tree. -/
  leafLe : leaf ≤ root
  /-- The zero word is no longer than a vector. -/
  wordLt : word < 31
  /-- Addresses of the tree are of 64 bits. -/
  rootLt : root < 64

namespace Shape

variable {σ : Type} (shape : Shape)

/-- The hash of a zero word. -/
def wordHash : MachineHash := keccak (List.replicate (2 ^ shape.word) 0)

/-- The hash of a leaf of zero words. -/
def blankLeaf : MachineHash :=
  HashTree.blank (join keccak) (shape.wordHash keccak) (shape.leaf - shape.word)

/-- The number of leaves that the tree has room for. -/
def capacity : ℕ := 2 ^ (shape.root - shape.leaf)

/-- The pristine tree of the shape. -/
def pristine : PristineMerkleTree where
  log2RootSize := shape.root
  log2WordSize := shape.word
  hashes := List.iterate (fun hash => getConcatHash keccak hash hash) (shape.wordHash keccak)
    (shape.root - shape.word + 1)

end Shape

section Counting

variable {σ : Type}

/-- The sizes from one natural number to another. -/
theorem countSizes_run {first last : ℕ} (ordered : first ≤ last) (small : last < 64) (state : σ) :
    (countSizes first last).run state = .ok (last - first + 1) state := by
  have difference : asInt ((last : ℤ) - first) = some ((last - first : ℕ) : ℤ) := by
    rw [asInt, if_pos (by omega), Int.ofNat_sub ordered]
  have count : asInt (((last - first : ℕ) : ℤ) + 1) = some ((last - first + 1 : ℕ) : ℤ) := by
    rw [asInt, if_pos (by omega), Int.natCast_succ]
  rw [countSizes, bind_run, difference, orUndefined_some, pure_run, Outcome.andThen_ok, bind_run,
    count, orUndefined_some, pure_run, Outcome.andThen_ok, pure_run, Int.toNat_natCast]

end Counting

namespace Shape

variable {keccak} {σ : Type} (shape : Shape)

variable (keccak) in
/-- An entry of the vector of pristine hashes. -/
theorem getElem?_iterate (hash : MachineHash) (count height : ℕ) (inside : height < count) :
    (List.iterate (fun hash => getConcatHash keccak hash hash) hash count)[height]? =
      some (HashTree.blank (join keccak) hash height) := by
  induction count generalizing hash height with
  | zero => omega
  | succ count ih =>
    rw [List.iterate]
    cases height with
    | zero => rfl
    | succ height =>
      rw [List.getElem?_cons_succ, ih _ height (by omega), Nat.add_comm height 1,
        ← HashTree.blank_blank]
      rfl

/-- The constructor builds the pristine tree of a shape. -/
theorem pristineMerkleTree_run (state : σ) :
    (pristineMerkleTree keccak shape.root shape.word).run state =
      .ok (shape.pristine keccak) state := by
  have ordered : shape.word ≤ shape.root := Nat.le_trans shape.wordLe shape.leafLe
  have wordLt := shape.wordLt
  have positive : ¬(shape.root : ℤ) < 0 := by omega
  have natural : ¬(shape.word : ℤ) < 0 := by omega
  have below : ¬(shape.root : ℤ) < shape.word := by omega
  have short : ¬(shape.word : ℤ) = 31 := by omega
  have shifted : (shape.word : ℤ) < 31 := by omega
  simp only [pristineMerkleTree, bind_run, countSizes_run ordered shape.rootLt, refuseIf_run,
    if_neg positive, if_neg natural, if_neg below, if_neg short, if_pos shifted, orUndefined_some,
    pure_run, Outcome.andThen_ok, Int.toNat_natCast, pristine, wordHash]

/-- The pristine hash of a size from that of a leaf on. -/
theorem getHash_run {height : ℕ} (inside : shape.leaf + height ≤ shape.root) (state : σ) :
    ((shape.pristine keccak).getHash ((shape.leaf + height : ℕ) : ℤ)).run state =
      .ok (HashTree.blank (join keccak) (shape.blankLeaf keccak) height) state := by
  have wordLe := shape.wordLe
  have index : (((shape.leaf + height : ℕ) : ℤ) - shape.word).toNat =
      shape.leaf - shape.word + height := by omega
  have bounds : ¬(((shape.leaf + height : ℕ) : ℤ) < shape.word ∨
      (shape.root : ℤ) < ((shape.leaf + height : ℕ) : ℤ)) := by omega
  have entry := getElem?_iterate keccak (shape.wordHash keccak)
    (shape.root - shape.word + 1) (shape.leaf - shape.word + height) (by omega)
  rw [PristineMerkleTree.getHash, bind_run, refuseIf_run, pristine, if_neg bounds,
    Outcome.andThen_ok, index, entry, orUndefined_some, pure_run, blankLeaf, HashTree.blank_blank]

end Shape

end Libcma.Merkle
