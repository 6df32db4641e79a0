import Libcma.Merkle.Pristine
import Libcma.Lib.Run

/-!
# The complete tree

`complete-merkle-tree.cpp`. A tree keeps the hashes of every level that are not pristine, the root
first. Leaves are appended, and `bubble_up` brings the levels above up to date: it redoes the last
entry of a level and computes those behind it.

Whatever leaves a tree was built over and whatever was appended since, it is the tree over all of
these leaves (`Shape.tree`), so that appending one by one is building at once.
-/

namespace Libcma.Merkle

open Exec

variable (keccak : List UInt8 → MachineHash)

/-- `complete_merkle_tree`. -/
structure CompleteMerkleTree where
  /-- `m_log2_root_size`. -/
  log2RootSize : ℤ
  /-- `m_log2_leaf_size`. -/
  log2LeafSize : ℤ
  /-- `m_pristine`. -/
  pristine : PristineMerkleTree
  /-- `m_tree`, the level of the root first. -/
  tree : List (List MachineHash)
  deriving DecidableEq

/-- `std::vector::resize`. -/
def resize (hashes : List MachineHash) (size : ℕ) : List MachineHash :=
  hashes.take size ++ List.replicate (size - hashes.length) (zeros 32)

/-- The loop of `bubble_up` over the entries with two children that are not pristine. -/
def fillEntries (prev : List MachineHash) : ℕ → ℕ → List MachineHash → List MachineHash
  | 0, _, next => next
  | count + 1, entry, next =>
    let left := prev.getD (2 * entry) (zeros 32)
    let right := prev.getD (2 * entry + 1) (zeros 32)
    fillEntries prev count (entry + 1) (next.set entry (getConcatHash keccak left right))

/-- What `bubble_up` does with one level and the one above it. -/
def bubbleLevel {σ : Type} (pristine : PristineMerkleTree) (log2PrevSize : ℤ)
    (prev next : List MachineHash) : Exec String σ (List MachineHash) := do
  -- the last entry may have been computed from a pristine child that has a leaf now
  let firstEntry := if next ≠ [] then next.length - 1 else next.length
  let next := resize next ((prev.length + 1) / 2)
  -- the assertion of the source
  orUndefined (if firstEntry ≤ next.length then some () else none)
  let lastSafeEntry := prev.length / 2
  let next := fillEntries keccak prev (lastSafeEntry - firstEntry) firstEntry next
  if 2 * lastSafeEntry < prev.length then do
    let blank ← pristine.getHash log2PrevSize
    pure (next.set lastSafeEntry (getConcatHash keccak (prev.getLastD (zeros 32)) blank))
  else
    pure next

namespace CompleteMerkleTree

/-- `complete_merkle_tree::check_log2_sizes`. -/
def checkLog2Sizes {σ : Type} (log2RootSize log2LeafSize log2WordSize : ℤ) :
    Exec String σ Unit := do
  refuseIf (log2RootSize < 0) "log2_root_size is negative"
  refuseIf (log2LeafSize < 0) "log2_leaf_size is negative"
  refuseIf (log2WordSize < 0) "log2_word_size is negative"
  refuseIf (log2RootSize < log2LeafSize) "log2_leaf_size is greater than log2_root_size"
  refuseIf (log2LeafSize < log2WordSize) "log2_word_size is greater than log2_word_size"
  refuseIf (64 ≤ log2RootSize) "tree is too large for address type"

/-- `complete_merkle_tree::get_level`. -/
def getLevel {σ : Type} (tree : CompleteMerkleTree) (log2Size : ℤ) :
    Exec String σ (List MachineHash) := do
  refuseIf (log2Size < tree.log2LeafSize ∨ tree.log2RootSize < log2Size)
    "log2_size is out of bounds"
  orUndefined tree.tree[(tree.log2RootSize - log2Size).toNat]?

/-- Write the level that `get_level` returned a reference to. -/
def setLevel (log2Size : ℤ) (level : List MachineHash) : Exec String CompleteMerkleTree Unit :=
  update fun tree =>
    { tree with tree := tree.tree.set (tree.log2RootSize - log2Size).toNat level }

/-- `complete_merkle_tree::get_node_hash`. -/
def getNodeHash {σ : Type} (tree : CompleteMerkleTree) (address : BitVec 64) (log2Size : ℤ) :
    Exec String σ MachineHash := do
  let level ← tree.getLevel log2Size
  let address := address >>> log2Size.toNat
  refuseIf ((1 : BitVec 64) <<< (tree.log2RootSize - log2Size).toNat ≤ address)
    "log2_size is out of bounds"
  match level[address.toNat]? with
  | some hash => pure hash
  | none => tree.pristine.getHash log2Size

/-- `complete_merkle_tree::get_root_hash`. -/
def getRootHash {σ : Type} (tree : CompleteMerkleTree) : Exec String σ MachineHash :=
  tree.getNodeHash 0 tree.log2RootSize

/-- The loop of `bubble_up`, from some size on. -/
def bubbleUpFrom : ℕ → ℤ → Exec String CompleteMerkleTree Unit
  | 0, _ => pure ()
  | count + 1, log2NextSize => do
    let tree ← read
    let prev ← tree.getLevel (log2NextSize - 1)
    let next ← tree.getLevel log2NextSize
    let next ← bubbleLevel keccak tree.pristine (log2NextSize - 1) prev next
    setLevel log2NextSize next
    bubbleUpFrom count (log2NextSize + 1)

/-- `complete_merkle_tree::bubble_up`. -/
def bubbleUp : Exec String CompleteMerkleTree Unit := do
  let tree ← read
  bubbleUpFrom keccak (tree.log2RootSize - tree.log2LeafSize).toNat (tree.log2LeafSize + 1)

/-- `complete_merkle_tree::push_back`. -/
def pushBack (hash : MachineHash) : Exec String CompleteMerkleTree Unit := do
  let tree ← read
  let leaves ← tree.getLevel tree.log2LeafSize
  refuseIf (2 ^ (tree.log2RootSize - tree.log2LeafSize).toNat ≤ leaves.length) "tree is full"
  setLevel tree.log2LeafSize (leaves ++ [hash])
  bubbleUp keccak

end CompleteMerkleTree

/-- The constructor of `complete_merkle_tree` for a pristine tree. -/
def pristineTree {σ : Type} (log2RootSize log2LeafSize log2WordSize : ℤ) :
    Exec String σ CompleteMerkleTree := do
  let pristine ← pristineMerkleTree keccak log2RootSize log2WordSize
  let count ← countSizes log2LeafSize log2RootSize
  CompleteMerkleTree.checkLog2Sizes log2RootSize log2LeafSize log2WordSize
  pure { log2RootSize, log2LeafSize, pristine, tree := List.replicate count [] }

/-- The constructor of `complete_merkle_tree` from leaves. -/
def completeMerkleTree (log2RootSize log2LeafSize log2WordSize : ℤ) (leaves : List MachineHash) :
    Exec String Unit CompleteMerkleTree := do
  let tree ← pristineTree keccak log2RootSize log2LeafSize log2WordSize
  let building := do
    let _ ← tree.getLevel log2LeafSize
    CompleteMerkleTree.setLevel log2LeafSize leaves
    CompleteMerkleTree.bubbleUp keccak
  ⟨fun state => match building.run tree with
    | .ok _ built => .ok built state
    | .throw error _ => .throw error state
    | .undefined => .undefined⟩

namespace Shape

variable (shape : Shape)

/-- The levels of a tree, the root first. -/
def stack (levels : ℕ → List MachineHash) : List (List MachineHash) :=
  (List.range (shape.root - shape.leaf + 1)).map fun depth =>
    levels (shape.root - shape.leaf - depth)

/-- A tree with some levels. -/
def withLevels (levels : ℕ → List MachineHash) : CompleteMerkleTree where
  log2RootSize := shape.root
  log2LeafSize := shape.leaf
  pristine := shape.pristine keccak
  tree := shape.stack levels

/-- The level of a height over some leaves. -/
def level (leaves : List MachineHash) (height : ℕ) : List MachineHash :=
  HashTree.level (join keccak) leaves (shape.blankLeaf keccak) height

/-- The tree over some leaves. -/
def tree (leaves : List MachineHash) : CompleteMerkleTree :=
  shape.withLevels keccak (shape.level keccak leaves)

/-- The hash of a node of the tree over some leaves. -/
def node (leaves : List MachineHash) (height index : ℕ) : MachineHash :=
  HashTree.node (join keccak) (HashTree.padded leaves (shape.blankLeaf keccak)) height index

end Shape

section Levels

variable {keccak} {σ : Type} {shape : Shape} {levels : ℕ → List MachineHash}

/-- The level of a height is at its depth. -/
theorem getElem?_stack {height : ℕ} (inside : height ≤ shape.root - shape.leaf) :
    (shape.stack levels)[shape.root - shape.leaf - height]? = some (levels height) := by
  have depth : shape.root - shape.leaf - (shape.root - shape.leaf - height) = height := by omega
  have bound : shape.root - shape.leaf - height < shape.root - shape.leaf + 1 := by omega
  rw [Shape.stack, List.getElem?_map, List.getElem?_range bound, Option.map_some, depth]

/-- Writing a level. -/
theorem set_stack {height : ℕ} (inside : height ≤ shape.root - shape.leaf)
    (level : List MachineHash) :
    (shape.stack levels).set (shape.root - shape.leaf - height) level =
      shape.stack (Function.update levels height level) := by
  apply List.ext_getElem
  · simp [Shape.stack]
  · intro depth _ bound
    have small : depth < shape.root - shape.leaf + 1 := by simpa [Shape.stack] using bound
    by_cases here : shape.root - shape.leaf - height = depth
    · have back : shape.root - shape.leaf - depth = height := by omega
      simp [Shape.stack, here, back]
    · have other : shape.root - shape.leaf - depth ≠ height := by omega
      simp [Shape.stack, here, Function.update_of_ne other]

/-- The place of a size among the levels. -/
theorem depth_eq (shape : Shape) (height : ℕ) :
    ((shape.root : ℤ) - ((shape.leaf + height : ℕ) : ℤ)).toNat =
      shape.root - shape.leaf - height := by
  have leafLe := shape.leafLe
  omega

variable (keccak shape levels) in
/-- The level of a size in the tree. -/
theorem getLevel_run {height : ℕ} (inside : height ≤ shape.root - shape.leaf) (state : σ) :
    ((shape.withLevels keccak levels).getLevel ((shape.leaf + height : ℕ) : ℤ)).run state =
      .ok (levels height) state := by
  have leafLe := shape.leafLe
  have bounds : ¬(((shape.leaf + height : ℕ) : ℤ) < shape.leaf ∨
      (shape.root : ℤ) < ((shape.leaf + height : ℕ) : ℤ)) := by omega
  rw [CompleteMerkleTree.getLevel, bind_run, refuseIf_run, Shape.withLevels, if_neg bounds,
    Outcome.andThen_ok, depth_eq shape height, getElem?_stack inside, orUndefined_some, pure_run]

/-- No other size has a level. -/
theorem getLevel_outside {log2Size : ℤ}
    (outside : log2Size < shape.leaf ∨ (shape.root : ℤ) < log2Size) (state : σ) :
    ((shape.withLevels keccak levels).getLevel log2Size).run state =
      .throw "log2_size is out of bounds" state := by
  rw [CompleteMerkleTree.getLevel, bind_run, refuseIf_run, Shape.withLevels, if_pos outside,
    Outcome.andThen_throw]

variable (keccak shape levels) in
/-- Writing the level of a size. -/
theorem setLevel_run {height : ℕ} (inside : height ≤ shape.root - shape.leaf)
    (level : List MachineHash) :
    (CompleteMerkleTree.setLevel ((shape.leaf + height : ℕ) : ℤ) level).run
        (shape.withLevels keccak levels) =
      .ok () (shape.withLevels keccak (Function.update levels height level)) := by
  rw [CompleteMerkleTree.setLevel, update_run, Shape.withLevels, depth_eq shape height,
    set_stack inside]
  rfl

end Levels

section Bubbling

variable {keccak} {σ : Type} {shape : Shape}

@[simp] theorem length_resize (hashes : List MachineHash) (size : ℕ) :
    (resize hashes size).length = size := by
  rw [resize, List.length_append, List.length_take, List.length_replicate]
  omega

/-- Resizing keeps the entries in front. -/
theorem getElem?_resize {hashes : List MachineHash} {size index : ℕ} (kept : index < size)
    (inside : index < hashes.length) : (resize hashes size)[index]? = hashes[index]? := by
  rw [resize, List.getElem?_append_left (by rw [List.length_take]; omega),
    List.getElem?_take_of_lt kept]

@[simp] theorem length_fillEntries (prev : List MachineHash) (count entry : ℕ)
    (next : List MachineHash) :
    (fillEntries keccak prev count entry next).length = next.length := by
  induction count generalizing entry next with
  | zero => rfl
  | succ count ih => rw [fillEntries, ih, List.length_set]

/-- The loop computes the entries it runs over and leaves the others. -/
theorem getElem?_fillEntries (prev : List MachineHash) (count entry : ℕ) (next : List MachineHash)
    {index : ℕ} (inside : index < next.length) :
    (fillEntries keccak prev count entry next)[index]? =
      if entry ≤ index ∧ index < entry + count then
        some (getConcatHash keccak (prev.getD (2 * index) (zeros 32))
          (prev.getD (2 * index + 1) (zeros 32)))
      else next[index]? := by
  induction count generalizing entry next with
  | zero => rw [fillEntries, if_neg (by omega)]
  | succ count ih =>
    rw [fillEntries, ih _ _ (by rwa [List.length_set])]
    by_cases first : entry = index
    · subst first
      rw [if_neg (by omega), if_pos (by omega), List.getElem?_set_self inside]
    · rw [List.getElem?_set_ne first]
      by_cases later : entry + 1 ≤ index ∧ index < entry + 1 + count
      · rw [if_pos later, if_pos (by omega)]
      · rw [if_neg later, if_neg (by omega)]

/-- An entry of a level. -/
theorem getD_level {leaves : List MachineHash} {height index : ℕ}
    (inside : index < HashTree.width leaves.length height) (hash : MachineHash) :
    (shape.level keccak leaves height).getD index hash = shape.node keccak leaves height index := by
  have bound : index < (shape.level keccak leaves height).length := by
    rwa [Shape.level, HashTree.length_level]
  rw [List.getD_eq_getElem?_getD, List.getElem?_eq_getElem bound, Option.getD_some]
  exact HashTree.getElem_level bound

/-- The last entry of a level. -/
theorem getLastD_level {leaves : List MachineHash} {height index : ℕ}
    (last : HashTree.width leaves.length height = index + 1) (hash : MachineHash) :
    (shape.level keccak leaves height).getLastD hash = shape.node keccak leaves height index := by
  have length : (shape.level keccak leaves height).length = index + 1 := by
    rw [Shape.level, HashTree.length_level, last]
  rw [List.getLastD_eq_getLast?, List.getLast?_eq_getElem?, length, Nat.add_sub_cancel,
    ← List.getD_eq_getElem?_getD, getD_level (by omega)]

/-- A node of a level above joins its children. -/
theorem node_succ (leaves : List MachineHash) (height index : ℕ) :
    shape.node keccak leaves (height + 1) index =
      getConcatHash keccak (shape.node keccak leaves height (2 * index))
        (shape.node keccak leaves height (2 * index + 1)) := rfl

/-- A node behind the last leaf is blank. -/
theorem node_blank {leaves : List MachineHash} {height index : ℕ}
    (behind : HashTree.width leaves.length height ≤ index) :
    shape.node keccak leaves height index =
      HashTree.blank (join keccak) (shape.blankLeaf keccak) height := by
  apply HashTree.node_padded_blank
  by_contra before
  have inside := HashTree.lt_width.mpr (Nat.lt_of_not_le before)
  omega

/-- The entries with two children that are not pristine, after the loop. -/
theorem getElem?_filled (leaves more : List MachineHash) {height index : ℕ}
    (grown : HashTree.width leaves.length (height + 1) ≤
      (HashTree.width (leaves ++ more).length height + 1) / 2)
    (safe : index < HashTree.width (leaves ++ more).length height / 2) :
    (fillEntries keccak (shape.level keccak (leaves ++ more) height)
        (HashTree.width (leaves ++ more).length height / 2 -
          (HashTree.width leaves.length (height + 1) - 1))
        (HashTree.width leaves.length (height + 1) - 1)
        (resize (shape.level keccak leaves (height + 1))
          ((HashTree.width (leaves ++ more).length height + 1) / 2)))[index]? =
      some (shape.node keccak (leaves ++ more) (height + 1) index) := by
  rw [getElem?_fillEntries _ _ _ _ (by rw [length_resize]; omega)]
  by_cases computed : HashTree.width leaves.length (height + 1) - 1 ≤ index ∧
      index < HashTree.width leaves.length (height + 1) - 1 +
        (HashTree.width (leaves ++ more).length height / 2 -
          (HashTree.width leaves.length (height + 1) - 1))
  · rw [if_pos computed, getD_level (by omega), getD_level (by omega), ← node_succ]
  · have complete : index + 1 < HashTree.width leaves.length (height + 1) := by omega
    have bound : index < (shape.level keccak leaves (height + 1)).length := by
      rw [Shape.level, HashTree.length_level]
      omega
    have old : (shape.level keccak leaves (height + 1))[index] =
        shape.node keccak leaves (height + 1) index := HashTree.getElem_level bound
    rw [if_neg computed, getElem?_resize (by omega) bound, List.getElem?_eq_getElem bound, old,
      Shape.node, Shape.node, HashTree.node_append complete]

/-- A level is the list of its nodes. -/
theorem eq_level {leaves hashes : List MachineHash} {height : ℕ}
    (sized : hashes.length = HashTree.width leaves.length height)
    (entries : ∀ index, index < HashTree.width leaves.length height →
      hashes[index]? = some (shape.node keccak leaves height index)) :
    hashes = shape.level keccak leaves height := by
  apply List.ext_getElem
  · rw [sized, Shape.level, HashTree.length_level]
  · intro index first second
    have entry := entries index (by omega)
    rw [List.getElem?_eq_getElem first, Option.some.injEq] at entry
    rw [entry]
    exact (HashTree.getElem_level second).symm

/-- A level above one over more leaves is brought up to date. -/
theorem bubbleLevel_run (leaves more : List MachineHash) {height : ℕ}
    (inside : shape.leaf + height ≤ shape.root) (state : σ) :
    (bubbleLevel keccak (shape.pristine keccak) ((shape.leaf + height : ℕ) : ℤ)
        (shape.level keccak (leaves ++ more) height)
        (shape.level keccak leaves (height + 1))).run state =
      .ok (shape.level keccak (leaves ++ more) (height + 1)) state := by
  have prevLength : (shape.level keccak (leaves ++ more) height).length =
      HashTree.width (leaves ++ more).length height := HashTree.length_level _ _ _
  have nextLength : (shape.level keccak leaves (height + 1)).length =
      HashTree.width leaves.length (height + 1) := HashTree.length_level _ _ _
  have grown : HashTree.width leaves.length (height + 1) ≤
      (HashTree.width (leaves ++ more).length height + 1) / 2 :=
    HashTree.width_mono (height + 1) (by rw [List.length_append]; omega)
  have first : (if shape.level keccak leaves (height + 1) ≠ [] then
      (shape.level keccak leaves (height + 1)).length - 1 else
      (shape.level keccak leaves (height + 1)).length) =
      HashTree.width leaves.length (height + 1) - 1 := by
    split
    · rw [nextLength]
    · have empty : shape.level keccak leaves (height + 1) = [] := by simp_all
      rw [← nextLength, empty, List.length_nil]
  have asserted : HashTree.width leaves.length (height + 1) - 1 ≤
      (HashTree.width (leaves ++ more).length height + 1) / 2 := by omega
  simp only [bubbleLevel, bind_run, first, prevLength, length_resize, if_pos asserted,
    orUndefined_some, pure_run, Outcome.andThen_ok]
  by_cases odd : 2 * (HashTree.width (leaves ++ more).length height / 2) <
      HashTree.width (leaves ++ more).length height
  · have last : HashTree.width (leaves ++ more).length height =
        2 * (HashTree.width (leaves ++ more).length height / 2) + 1 := by omega
    rw [if_pos odd, bind_run, shape.getHash_run inside, Outcome.andThen_ok, pure_run,
      getLastD_level last, ← node_blank (Nat.le_of_eq last)]
    congr 1
    apply eq_level
    · rw [List.length_set, length_fillEntries, length_resize, HashTree.width]
    · intro index within
      by_cases end_ : HashTree.width (leaves ++ more).length height / 2 = index
      · rw [← end_, List.getElem?_set_self (by rw [length_fillEntries, length_resize]; omega),
          node_succ]
      · rw [List.getElem?_set_ne end_, getElem?_filled leaves more grown]
        rw [HashTree.width] at within
        omega
  · rw [if_neg odd, pure_run]
    congr 1
    apply eq_level
    · rw [length_fillEntries, length_resize, HashTree.width]
    · intro index within
      rw [getElem?_filled leaves more grown]
      rw [HashTree.width] at within
      omega

/-- The levels of a tree in the middle of `bubble_up`: those up to a height are over more leaves. -/
def midway (keccak : List UInt8 → MachineHash) (shape : Shape) (leaves more : List MachineHash)
    (done height : ℕ) : List MachineHash :=
  if height ≤ done then shape.level keccak (leaves ++ more) height
  else shape.level keccak leaves height

variable (keccak shape) in
/-- The loop of `bubble_up` brings the levels above up to date, one after the other. -/
theorem bubbleUpFrom_run (leaves more : List MachineHash) {count done : ℕ}
    (total : done + count = shape.root - shape.leaf) :
    (CompleteMerkleTree.bubbleUpFrom keccak count ((shape.leaf + done : ℕ) + 1)).run
        (shape.withLevels keccak (midway keccak shape leaves more done)) =
      .ok () (shape.withLevels keccak (midway keccak shape leaves more (done + count))) := by
  induction count generalizing done with
  | zero => rfl
  | succ count ih =>
    have leafLe := shape.leafLe
    have prevSize : ((shape.leaf + done : ℕ) : ℤ) + 1 - 1 = ((shape.leaf + done : ℕ) : ℤ) := by
      omega
    have nextSize : ((shape.leaf + done : ℕ) : ℤ) + 1 = ((shape.leaf + (done + 1) : ℕ) : ℤ) := by
      omega
    have prev : midway keccak shape leaves more done done =
        shape.level keccak (leaves ++ more) done := if_pos (Nat.le_refl done)
    have next : midway keccak shape leaves more done (done + 1) =
        shape.level keccak leaves (done + 1) := if_neg (by omega)
    have updated : Function.update (midway keccak shape leaves more done) (done + 1)
        (shape.level keccak (leaves ++ more) (done + 1)) =
        midway keccak shape leaves more (done + 1) := by
      funext height
      by_cases here : height = done + 1
      · rw [here, Function.update_self, midway, if_pos (Nat.le_refl _)]
      · rw [Function.update_of_ne here, midway, midway]
        by_cases below : height ≤ done
        · rw [if_pos below, if_pos (by omega)]
        · rw [if_neg below, if_neg (by omega)]
    have rest := @ih (done + 1) (by omega)
    rw [CompleteMerkleTree.bubbleUpFrom, bind_run, read_run, Outcome.andThen_ok, bind_run, prevSize,
      getLevel_run _ _ _ (by omega), Outcome.andThen_ok, bind_run, nextSize,
      getLevel_run _ _ _ (by omega), Outcome.andThen_ok, bind_run, prev, next, Shape.withLevels,
      bubbleLevel_run leaves more (by omega), Outcome.andThen_ok, bind_run, ← Shape.withLevels,
      setLevel_run _ _ _ (by omega), Outcome.andThen_ok, updated, rest, Nat.add_right_comm,
      Nat.add_assoc]

end Bubbling

end Libcma.Merkle
