import Libcma.Merkle.CompleteTree

/-!
# Building and reading a complete tree

Every tree a constructor returns has a shape and is the tree over its leaves. Appending keeps it
so, and is refused exactly when the tree has as many leaves as it has room for. What is read of a
node is its hash in the tree whose other leaves are blank.
-/

namespace Libcma.Merkle

open Exec

variable {keccak : List UInt8 → MachineHash} {shape : Shape}

/-- A tree depends on the levels up to its root alone. -/
theorem withLevels_congr {levels others : ℕ → List MachineHash}
    (same : ∀ height, height ≤ shape.root - shape.leaf → levels height = others height) :
    shape.withLevels keccak levels = shape.withLevels keccak others := by
  have piled : shape.stack levels = shape.stack others := by
    apply List.map_congr_left
    intro depth _
    exact same _ (Nat.sub_le _ _)
  rw [Shape.withLevels, Shape.withLevels, piled]

variable (keccak shape) in
/-- `bubble_up` after leaves were added. -/
theorem bubbleUp_run (leaves more : List MachineHash) :
    (CompleteMerkleTree.bubbleUp keccak).run
        (shape.withLevels keccak
          (Function.update (shape.level keccak leaves) 0 (leaves ++ more))) =
      .ok () (shape.tree keccak (leaves ++ more)) := by
  have leafLe := shape.leafLe
  have start : shape.withLevels keccak
      (Function.update (shape.level keccak leaves) 0 (leaves ++ more)) =
      shape.withLevels keccak (midway keccak shape leaves more 0) := by
    apply withLevels_congr
    intro height _
    by_cases bottom : height = 0
    · rw [bottom, Function.update_self, midway, if_pos (Nat.le_refl 0), Shape.level,
        HashTree.level_zero]
    · rw [Function.update_of_ne bottom, midway, if_neg (by omega)]
  have finish : shape.withLevels keccak
      (midway keccak shape leaves more (shape.root - shape.leaf)) =
      shape.tree keccak (leaves ++ more) := by
    apply withLevels_congr
    intro height inside
    rw [midway, if_pos inside]
  have count : ((shape.root : ℤ) - shape.leaf).toNat = shape.root - shape.leaf := by omega
  have looped := bubbleUpFrom_run keccak shape leaves more
    (Nat.zero_add (shape.root - shape.leaf))
  rw [Nat.add_zero, Nat.zero_add, finish] at looped
  rw [start, CompleteMerkleTree.bubbleUp, bind_run, read_run, Outcome.andThen_ok, ← looped, ← count]
  rfl

variable (keccak shape) in
/-- A constructor builds the tree over its leaves. -/
theorem completeMerkleTree_run (leaves : List MachineHash) :
    (completeMerkleTree keccak shape.root shape.leaf shape.word leaves).run () =
      .ok (shape.tree keccak leaves) () := by
  have leafLe := shape.leafLe
  have wordLe := shape.wordLe
  have rootLt := shape.rootLt
  have checked : (CompleteMerkleTree.checkLog2Sizes shape.root shape.leaf shape.word).run () =
      .ok () () := by
    have rootPos : ¬(shape.root : ℤ) < 0 := by omega
    have leafPos : ¬(shape.leaf : ℤ) < 0 := by omega
    have wordPos : ¬(shape.word : ℤ) < 0 := by omega
    have leafFits : ¬(shape.root : ℤ) < shape.leaf := by omega
    have wordFits : ¬(shape.leaf : ℤ) < shape.word := by omega
    have addressed : ¬(64 : ℤ) ≤ shape.root := by omega
    simp only [CompleteMerkleTree.checkLog2Sizes, bind_run, refuseIf_run, if_neg rootPos,
      if_neg leafPos, if_neg wordPos, if_neg leafFits, if_neg wordFits, if_neg addressed,
      Outcome.andThen_ok]
  have empty : CompleteMerkleTree.mk shape.root shape.leaf (shape.pristine keccak)
      (List.replicate (shape.root - shape.leaf + 1) []) =
      shape.withLevels keccak (shape.level keccak []) := by
    have levels : shape.stack (shape.level keccak []) =
        List.replicate (shape.root - shape.leaf + 1) [] := by
      simp [Shape.stack, Shape.level, HashTree.level_nil]
    rw [Shape.withLevels, levels]
  have found := getLevel_run keccak shape (shape.level keccak [])
    (Nat.zero_le _) (shape.withLevels keccak (shape.level keccak []))
  have written := setLevel_run keccak shape (shape.level keccak []) (Nat.zero_le _) leaves
  rw [Nat.add_zero] at found written
  have bubbled := bubbleUp_run keccak shape [] leaves
  rw [List.nil_append] at bubbled
  simp only [completeMerkleTree, pristineTree, bind_run, shape.pristineMerkleTree_run,
    countSizes_run leafLe rootLt, checked, pure_run, Outcome.andThen_ok, empty, found, written,
    bubbled]

/-- Sizes that a constructor accepted are a shape. -/
theorem shape_of_completeMerkleTree {root leaf word : ℤ} {leaves : List MachineHash}
    {tree : CompleteMerkleTree}
    (built : (completeMerkleTree keccak root leaf word leaves).run () = .ok tree ()) :
    ∃ shape : Shape, root = shape.root ∧ leaf = shape.leaf ∧ word = shape.word ∧
      tree = shape.tree keccak leaves := by
  have sizes : 0 ≤ root ∧ 0 ≤ leaf ∧ 0 ≤ word ∧ leaf ≤ root ∧ word ≤ leaf ∧ root < 64 ∧
      word < 31 := by
    have checks : ((pristineTree keccak root leaf word).run ()).Satisfies
        (fun _ _ => 0 ≤ root ∧ 0 ≤ leaf ∧ 0 ≤ word ∧ leaf ≤ root ∧ word ≤ leaf ∧ root < 64 ∧
          word < 31) fun _ _ => True := by
      simp only [pristineTree, pristineMerkleTree, countSizes, CompleteMerkleTree.checkLog2Sizes,
        satisfies_bind, satisfies_refuseIf, satisfies_orUndefined, satisfies_pure, implies_true,
        true_and]
      intro _ _ _ _ rootPos wordPos _ _ _ shifted _ _ _ _ _ leafPos _ leafLe wordLe rootLt
      have wordLt : word < 31 := by
        by_contra long
        rw [if_neg long] at shifted
        cases shifted
      omega
    obtain ⟨pristine, ⟨⟩, accepted, -⟩ := Outcome.andThen_eq_ok built
    rw [accepted] at checks
    exact checks
  obtain ⟨rootPos, leafPos, wordPos, leafLe, wordLe, rootLt, wordLt⟩ := sizes
  let shape : Shape := ⟨root.toNat, leaf.toNat, word.toNat, by omega, by omega, by omega, by omega⟩
  have rootEq : root = shape.root := (Int.toNat_of_nonneg rootPos).symm
  have leafEq : leaf = shape.leaf := (Int.toNat_of_nonneg leafPos).symm
  have wordEq : word = shape.word := (Int.toNat_of_nonneg wordPos).symm
  have builds := completeMerkleTree_run keccak shape leaves
  rw [← rootEq, ← leafEq, ← wordEq, built] at builds
  cases builds
  exact ⟨shape, rootEq, leafEq, wordEq, rfl⟩

/-- Appending a leaf, or refusing it when the tree is full. -/
theorem pushBack_run (leaves : List MachineHash) (hash : MachineHash) :
    (CompleteMerkleTree.pushBack keccak hash).run (shape.tree keccak leaves) =
      if leaves.length < shape.capacity then .ok () (shape.tree keccak (leaves ++ [hash]))
      else .throw "tree is full" (shape.tree keccak leaves) := by
  have leafLe := shape.leafLe
  have bottom : shape.level keccak leaves 0 = leaves := HashTree.level_zero _ _
  have found := getLevel_run keccak shape (shape.level keccak leaves) (Nat.zero_le _) (shape.tree keccak leaves)
  have written := setLevel_run keccak shape (shape.level keccak leaves) (Nat.zero_le _) (leaves ++ [hash])
  rw [Nat.add_zero] at found written
  have room : 2 ^ ((shape.tree keccak leaves).log2RootSize -
      (shape.tree keccak leaves).log2LeafSize).toNat = shape.capacity := by
    have difference : ((shape.root : ℤ) - shape.leaf).toNat = shape.root - shape.leaf := by omega
    rw [Shape.capacity, ← difference]
    rfl
  rw [CompleteMerkleTree.pushBack, bind_run, read_run, Outcome.andThen_ok, bind_run, room]
  change ((((shape.withLevels keccak (shape.level keccak leaves)).getLevel shape.leaf).run
    (shape.tree keccak leaves)).andThen _) = _
  rw [found, Outcome.andThen_ok, bottom, bind_run, refuseIf_run]
  by_cases full : shape.capacity ≤ leaves.length
  · rw [if_pos full, if_neg (by omega), Outcome.andThen_throw]
  · rw [if_neg full, if_pos (by omega), Outcome.andThen_ok, bind_run]
    change ((CompleteMerkleTree.setLevel shape.leaf (leaves ++ [hash])).run
      (shape.withLevels keccak (shape.level keccak leaves))).andThen _ = _
    rw [written, Outcome.andThen_ok, bubbleUp_run]

/-- The answer to an appended leaf; a refusal leaves the tree as it is. -/
def pushStep (keccak : List UInt8 → MachineHash) (tree : CompleteMerkleTree) (hash : MachineHash) :
    Option (CompleteMerkleTree × Option String) :=
  match (CompleteMerkleTree.pushBack keccak hash).run tree with
  | .ok _ next => some (next, none)
  | .throw error next => some (next, some error)
  | .undefined => none

/-- The answer to a leaf that is appended when there are some leaves already. -/
def pushAnswer (capacity leaves : ℕ) : Option String :=
  if leaves < capacity then none else some "tree is full"

/-- Leaves appended one after the other, to a tree that takes those it has room for. -/
theorem execute_pushes (leaves hashes : List MachineHash) :
    Run.execute (pushStep keccak) (shape.tree keccak leaves) hashes =
      some (shape.tree keccak (leaves ++ hashes.take (shape.capacity - leaves.length)),
        (List.range hashes.length).map fun index =>
          pushAnswer shape.capacity (leaves.length + index)) := by
  induction hashes generalizing leaves with
  | nil => simp [Run.execute]
  | cons hash rest ih =>
    have answers : (List.range (hash :: rest).length).map
        (fun index => pushAnswer shape.capacity (leaves.length + index)) =
        pushAnswer shape.capacity leaves.length :: (List.range rest.length).map
          fun index => pushAnswer shape.capacity (leaves.length + 1 + index) := by
      rw [List.length_cons, List.range_succ_eq_map, List.map_cons, List.map_map, Nat.add_zero]
      congr 1
      apply List.map_congr_left
      intro index _
      rw [Function.comp_apply, Nat.succ_eq_add_one, Nat.add_comm index 1, ← Nat.add_assoc]
    by_cases room : leaves.length < shape.capacity
    · have taken : shape.capacity - leaves.length = shape.capacity - (leaves.length + 1) + 1 := by
        omega
      have step : pushStep keccak (shape.tree keccak leaves) hash =
          some (shape.tree keccak (leaves ++ [hash]), none) := by
        rw [pushStep, pushBack_run, if_pos room]
      have later := ih (leaves ++ [hash])
      rw [List.length_append, List.length_singleton, List.append_assoc] at later
      rw [Run.execute, step, answers, pushAnswer, if_pos room, taken, List.take_succ_cons]
      simp only [later]
      rfl
    · have taken : shape.capacity - leaves.length = 0 := by omega
      have full : pushAnswer shape.capacity (leaves.length + 1) =
          pushAnswer shape.capacity leaves.length := by
        rw [pushAnswer, pushAnswer, if_neg room, if_neg (by omega)]
      have step : pushStep keccak (shape.tree keccak leaves) hash =
          some (shape.tree keccak leaves, some "tree is full") := by
        rw [pushStep, pushBack_run, if_neg room]
      have refused : (List.range rest.length).map
          (fun index => pushAnswer shape.capacity (leaves.length + index)) =
          (List.range rest.length).map
            fun index => pushAnswer shape.capacity (leaves.length + 1 + index) := by
        apply List.map_congr_left
        intro index _
        rw [pushAnswer, pushAnswer, if_neg (by omega), if_neg (by omega)]
      have later := ih leaves
      rw [taken, List.take_zero, refused] at later
      rw [Run.execute, step, answers, pushAnswer, if_neg room, taken, List.take_zero]
      simp only [later]

/-- A tree that leaves were appended to is the tree built over all of them at once; what no longer
fits is refused and changes nothing. -/
theorem pushes_build (root leaf word : ℤ) (leaves hashes : List MachineHash)
    (start : CompleteMerkleTree)
    (built : (completeMerkleTree keccak root leaf word leaves).run () = .ok start ()) :
    ∃ finish, Run.execute (pushStep keccak) start hashes =
        some (finish, (List.range hashes.length).map fun index =>
          pushAnswer (2 ^ (root - leaf).toNat) (leaves.length + index)) ∧
      (completeMerkleTree keccak root leaf word
        (leaves ++ hashes.take (2 ^ (root - leaf).toNat - leaves.length))).run () =
        .ok finish () := by
  obtain ⟨shape, rfl, rfl, rfl, rfl⟩ := shape_of_completeMerkleTree built
  have leafLe := shape.leafLe
  have height : ((shape.root : ℤ) - shape.leaf).toNat = shape.root - shape.leaf := by omega
  rw [height]
  exact ⟨_, execute_pushes leaves hashes, completeMerkleTree_run _ _ _⟩

/-- A digest to compute with: the first bytes. -/
def firstBytes (data : List UInt8) : MachineHash :=
  ⟨data.take 32 ++ List.replicate (32 - data.length) 0, by
    rw [List.length_append, List.length_take, List.length_replicate]
    omega⟩

/-- The shape of a tree of two bytes. -/
def twoBytes : Shape := ⟨1, 0, 0, by decide, by decide, by decide, by decide⟩

/-- A tree of two leaves takes one more behind the first, and no third. -/
theorem pushes_build_pair : ∃ finish,
    Run.execute (pushStep firstBytes) (twoBytes.tree firstBytes [zeros 32])
        [firstBytes [1], firstBytes [2]] = some (finish, [none, some "tree is full"]) ∧
      (completeMerkleTree firstBytes 1 0 0 [zeros 32, firstBytes [1]]).run () = .ok finish () :=
  pushes_build 1 0 0 [zeros 32] [firstBytes [1], firstBytes [2]] _
    (completeMerkleTree_run _ twoBytes [zeros 32])

variable (keccak shape) in
/-- The hash of a node of the tree, or the refusal of one that is not in it. -/
theorem getNodeHash_run (leaves : List MachineHash) (address : BitVec 64) {σ : Type} (state : σ)
    {height : ℕ} (inside : height ≤ shape.root - shape.leaf) :
    ((shape.tree keccak leaves).getNodeHash address ((shape.leaf + height : ℕ) : ℤ)).run state =
      if address.toNat < 2 ^ shape.root then
        .ok (shape.node keccak leaves height (address.toNat / 2 ^ (shape.leaf + height))) state
      else .throw "log2_size is out of bounds" state := by
  have leafLe := shape.leafLe
  have rootLt := shape.rootLt
  have shifted : (address >>> (shape.leaf + height)).toNat =
      address.toNat / 2 ^ (shape.leaf + height) := by
    rw [BitVec.toNat_ushiftRight, Nat.shiftRight_eq_div_pow]
  have split : 2 ^ shape.root =
      2 ^ (shape.root - shape.leaf - height) * 2 ^ (shape.leaf + height) := by
    rw [← pow_add]
    congr 1
    omega
  have bound : (1 : BitVec 64) <<< (shape.root - shape.leaf - height) ≤
      address >>> (shape.leaf + height) ↔ ¬address.toNat < 2 ^ shape.root := by
    have small : 2 ^ (shape.root - shape.leaf - height) < 2 ^ 64 :=
      Nat.pow_lt_pow_right (by omega) (by omega)
    have one : (1 : BitVec 64).toNat = 1 := rfl
    rw [BitVec.le_def, shifted, BitVec.toNat_shiftLeft, Nat.shiftLeft_eq, one, Nat.one_mul,
      Nat.mod_eq_of_lt small, split,
      ← Nat.div_lt_iff_lt_mul (Nat.two_pow_pos _)]
    omega
  have found := getLevel_run keccak _ (shape.level keccak leaves) inside state
  have root : (shape.tree keccak leaves).log2RootSize = shape.root := rfl
  rw [← Shape.tree] at found
  rw [CompleteMerkleTree.getNodeHash, bind_run, found, Outcome.andThen_ok, bind_run,
    Int.toNat_natCast, refuseIf_run, root, depth_eq]
  by_cases within : address.toNat < 2 ^ shape.root
  · rw [if_neg (by rw [bound]; exact not_not.mpr within), if_pos within, Outcome.andThen_ok,
      shifted]
    have sized : (shape.level keccak leaves height).length =
        HashTree.width leaves.length height := HashTree.length_level _ _ _
    by_cases stored : address.toNat / 2 ^ (shape.leaf + height) <
        HashTree.width leaves.length height
    · rw [List.getElem?_eq_getElem (by rwa [sized])]
      exact congrArg (Outcome.ok · state) (HashTree.getElem_level _)
    · rw [List.getElem?_eq_none (by rw [sized]; omega), node_blank (by omega)]
      exact shape.getHash_run (by omega) state
  · rw [if_pos (bound.mpr within), if_neg within, Outcome.andThen_throw]

/-- What is read of a tree: the hashes of the nodes over its leaves and blank ones behind them, at
the sizes and addresses it has, and a refusal at all others. -/
theorem node_of_built (root leaf word : ℤ) (leaves : List MachineHash) (tree : CompleteMerkleTree)
    (built : (completeMerkleTree keccak root leaf word leaves).run () = .ok tree ()) :
    ∃ shape : Shape, root = shape.root ∧ leaf = shape.leaf ∧ word = shape.word ∧
      ∀ (address : BitVec 64) (log2Size : ℤ),
        (tree.getNodeHash address log2Size).run () =
          if leaf ≤ log2Size ∧ log2Size ≤ root ∧ address.toNat < 2 ^ shape.root then
            .ok (shape.node keccak leaves (log2Size - leaf).toNat
              (address.toNat / 2 ^ log2Size.toNat)) ()
          else .throw "log2_size is out of bounds" () := by
  obtain ⟨shape, rfl, rfl, rfl, rfl⟩ := shape_of_completeMerkleTree built
  refine ⟨shape, rfl, rfl, rfl, ?_⟩
  intro address log2Size
  have leafLe := shape.leafLe
  by_cases sized : (shape.leaf : ℤ) ≤ log2Size ∧ log2Size ≤ shape.root
  · have size : log2Size = ((shape.leaf + (log2Size - shape.leaf).toNat : ℕ) : ℤ) := by omega
    have exponent : log2Size.toNat = shape.leaf + (log2Size - shape.leaf).toNat := by omega
    have hash := getNodeHash_run keccak shape leaves address ()
      (by omega : (log2Size - shape.leaf).toNat ≤ shape.root - shape.leaf)
    rw [← size, ← exponent] at hash
    rw [hash]
    by_cases within : address.toNat < 2 ^ shape.root
    · rw [if_pos within, if_pos ⟨sized.1, sized.2, within⟩]
    · rw [if_neg within, if_neg (fun all => within all.2.2)]
  · have outside : log2Size < shape.leaf ∨ (shape.root : ℤ) < log2Size := by omega
    rw [if_neg (fun all => sized ⟨all.1, all.2.1⟩), CompleteMerkleTree.getNodeHash, bind_run,
      Shape.tree, getLevel_outside outside, Outcome.andThen_throw]

/-- The root of a tree of two leaves. -/
theorem node_of_built_pair : ∃ shape : Shape, (1 : ℤ) = shape.root ∧ (0 : ℤ) = shape.leaf ∧
    (0 : ℤ) = shape.word ∧ ∀ (address : BitVec 64) (log2Size : ℤ),
      ((twoBytes.tree firstBytes [zeros 32]).getNodeHash address log2Size).run () =
        if 0 ≤ log2Size ∧ log2Size ≤ 1 ∧ address.toNat < 2 ^ shape.root then
          .ok (shape.node firstBytes [zeros 32] (log2Size - 0).toNat
            (address.toNat / 2 ^ log2Size.toNat)) ()
        else .throw "log2_size is out of bounds" () :=
  node_of_built 1 0 0 [zeros 32] _ (completeMerkleTree_run _ twoBytes [zeros 32])

end Libcma.Merkle
