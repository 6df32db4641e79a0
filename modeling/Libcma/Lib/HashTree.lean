import Mathlib.Algebra.Order.Group.Nat
import Mathlib.Data.List.Basic

/-!
# Binary hash trees

A hash tree over leaves joins two hashes into one, level by level. `node` is the hash at a height
and an index. A climb starts from one node and joins it with the node beside it at every level; the
climb past the siblings of a tree arrives at the tree's own node (`climb_node`).

No function into a finite type is injective, so that a statement about the existence of a collision
says nothing. `clash` and `treeClash` therefore compute one: from two climbs that end in the same
hash, and from two trees with the same root.
-/

namespace HashTree

variable {H : Type} (join : H × H → H)

/-- The hash of the subtree with the given height and index. -/
def node (leaf : ℕ → H) : ℕ → ℕ → H
  | 0, index => leaf index
  | height + 1, index => join (node leaf height (2 * index), node leaf height (2 * index + 1))

/-- The hash of a subtree whose leaves are all the same. -/
def blank (hash : H) : ℕ → H
  | 0 => hash
  | height + 1 => join (blank hash height, blank hash height)

/-- The leaves of a list, and blank ones behind them. -/
def padded (leaves : List H) (hash : H) (index : ℕ) : H := leaves.getD index hash

/-- The index of the other child of the same parent. -/
def sibling (index : ℕ) : ℕ := if index % 2 = 0 then index + 1 else index - 1

/-- A hash and the one beside it, left before right. -/
def pair (index : ℕ) (hash beside : H) : H × H :=
  if index % 2 = 0 then (hash, beside) else (beside, hash)

/-- Join a hash with one hash beside it at every level. -/
def climb : ℕ → H → List H → H
  | _, hash, [] => hash
  | index, hash, beside :: rest => climb (index / 2) (join (pair index hash beside)) rest

/-- How many nodes of a level have a leaf of a list below them. -/
def width (leaves : ℕ) : ℕ → ℕ
  | 0 => leaves
  | height + 1 => (width leaves height + 1) / 2

/-- The nodes of a level that have a leaf of a list below them. -/
def level (leaves : List H) (hash : H) (height : ℕ) : List H :=
  (List.range (width leaves.length height)).map (node join (padded leaves hash) height)

/-- The siblings that a climb of some levels meets in a tree. -/
def siblings (leaf : ℕ → H) (height index : ℕ) : ℕ → List H
  | 0 => []
  | count + 1 =>
    node join leaf height (sibling index) :: siblings leaf (height + 1) (index / 2) count

section Nodes

variable {join} {leaf other : ℕ → H}

variable (join) in
/-- A parent is the join of an index and its sibling. -/
theorem join_pair (leaf : ℕ → H) (height index : ℕ) :
    join (pair index (node join leaf height index) (node join leaf height (sibling index))) =
      node join leaf (height + 1) (index / 2) := by
  rw [node, pair, sibling]
  by_cases even : index % 2 = 0
  · have left : 2 * (index / 2) = index := by omega
    rw [if_pos even, if_pos even, left]
  · have left : 2 * (index / 2) = index - 1 := by omega
    have right : 2 * (index / 2) + 1 = index := by omega
    rw [if_neg even, if_neg even, right, left]

/-- The parent of an index one level up. -/
theorem div_pow_succ (index height : ℕ) : index / 2 ^ (height + 1) = index / 2 ^ height / 2 := by
  rw [pow_succ, Nat.div_div_eq_div_mul]

/-- A node depends on the leaves below it alone. -/
theorem node_congr {height index : ℕ}
    (same : ∀ position, position / 2 ^ height = index → leaf position = other position) :
    node join leaf height index = node join other height index := by
  induction height generalizing index with
  | zero => exact same index (by rw [pow_zero, Nat.div_one])
  | succ height ih =>
    have below (child : ℕ) (parent : child / 2 = index) :
        node join leaf height child = node join other height child := by
      apply ih
      intro position under
      apply same
      rw [div_pow_succ, under, parent]
    rw [node, node, below (2 * index) (by omega), below (2 * index + 1) (by omega)]

/-- Equal leaves make a blank node. -/
theorem node_blank {hash : H} {height index : ℕ}
    (same : ∀ position, position / 2 ^ height = index → leaf position = hash) :
    node join leaf height index = blank join hash height := by
  induction height generalizing index with
  | zero => exact same index (by rw [pow_zero, Nat.div_one])
  | succ height ih =>
    have below (child : ℕ) (parent : child / 2 = index) :
        node join leaf height child = blank join hash height := by
      apply ih
      intro position under
      apply same
      rw [div_pow_succ, under, parent]
    rw [node, blank, below (2 * index) (by omega), below (2 * index + 1) (by omega)]

/-- A subtree behind the last leaf of a list is blank. -/
theorem node_padded_blank {leaves : List H} {hash : H} {height index : ℕ}
    (behind : leaves.length ≤ index * 2 ^ height) :
    node join (padded leaves hash) height index = blank join hash height := by
  apply node_blank
  intro position under
  have first : index * 2 ^ height ≤ position := under ▸ Nat.div_mul_le_self position (2 ^ height)
  have none : leaves[position]? = none := List.getElem?_eq_none (Nat.le_trans behind first)
  rw [padded, List.getD_eq_getElem?_getD, none, Option.getD_none]

variable (join) in
/-- A node of a tree is one of the tree over the leaves from some node of its height on. -/
theorem node_shift (leaf : ℕ → H) (height offset index : ℕ) :
    node join (fun position => leaf (offset * 2 ^ height + position)) height index =
      node join leaf height (offset + index) := by
  induction height generalizing offset index with
  | zero => rw [node, node, pow_zero, Nat.mul_one]
  | succ height ih =>
    have places : (fun position => leaf (offset * 2 ^ (height + 1) + position)) =
        fun position => leaf (2 * offset * 2 ^ height + position) := by
      rw [pow_succ', ← Nat.mul_assoc, Nat.mul_comm offset 2]
    rw [node, places, ih, ih, node, Nat.mul_add, Nat.add_assoc]

/-- Blank leaves of a level are blank subtrees of the levels above it. -/
theorem blank_blank (hash : H) (height above : ℕ) :
    blank join (blank join hash height) above = blank join hash (height + above) := by
  induction above with
  | zero => rfl
  | succ above ih => rw [blank, ih, ← Nat.add_assoc, blank]

/-- A node is of the list when its first leaf is. -/
theorem lt_width {leaves height index : ℕ} :
    index < width leaves height ↔ index * 2 ^ height < leaves := by
  induction height generalizing index with
  | zero => rw [width, pow_zero, Nat.mul_one]
  | succ height ih =>
    have left : 2 * index * 2 ^ height = index * 2 ^ (height + 1) := by
      rw [pow_succ', Nat.mul_comm 2 index, Nat.mul_assoc]
    have child := @ih (2 * index)
    rw [width, ← left, ← child]
    omega

/-- More leaves have no fewer nodes. -/
theorem width_mono {leaves more : ℕ} (height : ℕ) (fewer : leaves ≤ more) :
    width leaves height ≤ width more height := by
  induction height with
  | zero => exact fewer
  | succ height ih =>
    rw [width, width]
    omega

@[simp] theorem length_level (leaves : List H) (hash : H) (height : ℕ) :
    (level join leaves hash height).length = width leaves.length height := by
  rw [level, List.length_map, List.length_range]

/-- The level of the leaves is the list. -/
theorem level_zero (leaves : List H) (hash : H) : level join leaves hash 0 = leaves := by
  apply List.ext_getElem
  · rw [length_level, width]
  · intro index _ inside
    simp [level, node, padded, inside]

/-- An empty list has no nodes. -/
theorem level_nil (hash : H) (height : ℕ) : level join [] hash height = [] := by
  have none : width 0 height = 0 := by
    induction height with
    | zero => rfl
    | succ height ih => rw [width, ih]
  rw [level, List.length_nil, none]
  rfl

/-- An entry of a level. -/
theorem getElem_level {leaves : List H} {hash : H} {height index : ℕ}
    (inside : index < (level join leaves hash height).length) :
    (level join leaves hash height)[index] = node join (padded leaves hash) height index := by
  simp [level]

/-- A node whose successor is of the list stays when leaves are added behind. -/
theorem node_append {leaves more : List H} {hash : H} {height index : ℕ}
    (complete : index + 1 < width leaves.length height) :
    node join (padded (leaves ++ more) hash) height index =
      node join (padded leaves hash) height index := by
  apply node_congr
  intro position under
  have last : position < (index + 1) * 2 ^ height :=
    (Nat.div_lt_iff_lt_mul (Nat.two_pow_pos height)).mp (by omega)
  have inside : position < leaves.length := Nat.lt_trans last (lt_width.mp complete)
  rw [padded, padded, List.getD_eq_getElem?_getD, List.getD_eq_getElem?_getD,
    List.getElem?_append_left inside]

end Nodes

section Climbs

variable {join} {leaf other : ℕ → H}

variable (join) in
@[simp] theorem length_siblings (leaf : ℕ → H) (height index count : ℕ) :
    (siblings join leaf height index count).length = count := by
  induction count generalizing height index with
  | zero => rfl
  | succ count ih => rw [siblings, List.length_cons, ih]

variable (join) in
/-- The siblings of a long climb are those of two shorter ones. -/
theorem siblings_add (leaf : ℕ → H) (height index count more : ℕ) :
    siblings join leaf height index (count + more) =
      siblings join leaf height index count ++
        siblings join leaf (height + count) (index / 2 ^ count) more := by
  induction count generalizing height index with
  | zero => rw [Nat.zero_add, siblings, List.nil_append, pow_zero, Nat.div_one, Nat.add_zero]
  | succ count ih =>
    have parent : index / 2 / 2 ^ count = index / 2 ^ (count + 1) := by
      rw [Nat.div_div_eq_div_mul, pow_succ']
    rw [Nat.succ_add, siblings, siblings, ih, parent, List.cons_append, Nat.add_right_comm,
      Nat.add_assoc]

/-- A long climb is two shorter ones. -/
theorem climb_append (index : ℕ) (hash : H) (first second : List H) :
    climb join index hash (first ++ second) =
      climb join (index / 2 ^ first.length) (climb join index hash first) second := by
  induction first generalizing index hash with
  | nil => rw [List.nil_append, List.length_nil, pow_zero, Nat.div_one, climb]
  | cons beside rest ih =>
    have parent : index / 2 / 2 ^ rest.length = index / 2 ^ (rest.length + 1) := by
      rw [Nat.div_div_eq_div_mul, pow_succ']
    rw [List.cons_append, climb, ih, parent, climb, List.length_cons]

/-- The climb past the siblings of a tree arrives at the tree's node. -/
theorem climb_node (leaf : ℕ → H) (height index count : ℕ) :
    climb join index (node join leaf height index) (siblings join leaf height index count) =
      node join leaf (height + count) (index / 2 ^ count) := by
  induction count generalizing height index with
  | zero => rw [siblings, climb, pow_zero, Nat.div_one, Nat.add_zero]
  | succ count ih =>
    have parent : index / 2 / 2 ^ count = index / 2 ^ (count + 1) := by
      rw [Nat.div_div_eq_div_mul, pow_succ']
    rw [siblings, climb, join_pair join leaf height index, ih, parent,
      Nat.add_right_comm, Nat.add_assoc]

/-- An index is not its own sibling. -/
theorem sibling_ne (index : ℕ) : sibling index ≠ index := by
  unfold sibling
  split <;> omega

/-- A sibling has the same parent. -/
theorem sibling_div (index : ℕ) : sibling index / 2 = index / 2 := by
  unfold sibling
  split <;> omega

/-- The siblings of a climb do not depend on the leaves it starts above, or on those of other
trees. -/
theorem siblings_congr {height index : ℕ} (count : ℕ)
    (same : ∀ position, position / 2 ^ (height + count) = index / 2 ^ count →
      position / 2 ^ height ≠ index → leaf position = other position) :
    siblings join leaf height index count = siblings join other height index count := by
  induction count generalizing height index with
  | zero => rfl
  | succ count ih =>
    have parent (child : ℕ) : child / 2 ^ (count + 1) = child / 2 / 2 ^ count := by
      rw [Nat.div_div_eq_div_mul, pow_succ']
    have beside : node join leaf height (sibling index) =
        node join other height (sibling index) := by
      apply node_congr
      intro position under
      apply same
      · rw [pow_add, ← Nat.div_div_eq_div_mul, under, parent, parent, sibling_div]
      · rw [under]
        exact sibling_ne index
    have above : siblings join leaf (height + 1) (index / 2) count =
        siblings join other (height + 1) (index / 2) count := by
      apply ih
      intro position under outside
      apply same
      · rw [parent, ← under, Nat.add_right_comm, Nat.add_assoc]
      · intro below
        apply outside
        rw [div_pow_succ, below]
    rw [siblings, siblings, beside, above]

variable (join) in
/-- The climb from a new hash past the siblings of a tree arrives at the node of the tree that has
the new hash there. -/
theorem climb_replaced (height index count : ℕ)
    (same : ∀ position, position / 2 ^ (height + count) = index / 2 ^ count →
      position / 2 ^ height ≠ index → leaf position = other position) :
    climb join index (node join other height index) (siblings join leaf height index count) =
      node join other (height + count) (index / 2 ^ count) := by
  rw [siblings_congr count same, climb_node]

/-- A climb reads as many bits of its index as it has levels. -/
theorem climb_mod (index : ℕ) (hash : H) (rest : List H) :
    climb join (index % 2 ^ rest.length) hash rest = climb join index hash rest := by
  induction rest generalizing index hash with
  | nil => rfl
  | cons beside rest ih =>
    have bit : index % 2 ^ (rest.length + 1) % 2 = index % 2 :=
      Nat.mod_mod_of_dvd _ ⟨2 ^ rest.length, pow_succ' 2 rest.length⟩
    have half : index % 2 ^ (rest.length + 1) / 2 = index / 2 % 2 ^ rest.length := by
      rw [pow_succ', Nat.mod_mul_right_div_self]
    rw [List.length_cons, climb, climb, half, ih, pair, pair, bit]

end Climbs

/-- A pair determines both hashes. -/
theorem pair_injective {index : ℕ} {one beside two other : H}
    (same : pair index one beside = pair index two other) : one = two ∧ beside = other := by
  unfold pair at same
  split at same
  · exact Prod.mk.inj same
  · exact (Prod.mk.inj same).symm

section Clashes

variable [DecidableEq H]

/-- The first pairs of two climbs that differ and are joined into the same hash. -/
def clash : ℕ → H → List H → H → List H → Option ((H × H) × (H × H))
  | index, one, beside :: rest, two, other :: others =>
    let first := pair index one beside
    let second := pair index two other
    if first ≠ second ∧ join first = join second then some (first, second)
    else clash (index / 2) (join first) rest (join second) others
  | _, _, _, _, _ => none

/-- The first pairs of two trees that differ below the same parent. -/
def treeClash (one two : ℕ → H) : ℕ → ℕ → Option ((H × H) × (H × H))
  | 0, _ => none
  | height + 1, index =>
    let first := (node join one height (2 * index), node join one height (2 * index + 1))
    let second := (node join two height (2 * index), node join two height (2 * index + 1))
    if first ≠ second then some (first, second)
    else (treeClash one two height (2 * index)).or (treeClash one two height (2 * index + 1))

/-- What was computed is a collision: two pairs that are joined into the same hash. -/
def Collides (found : Option ((H × H) × (H × H))) : Prop :=
  ∃ first second, found = some (first, second) ∧ first ≠ second ∧ join first = join second

variable {join} {one two : H} {first second : List H}

/-- What two climbs are found to differ in is joined into the same hash. -/
theorem clash_sound {index : ℕ} {found : (H × H) × (H × H)}
    (computed : clash join index one first two second = some found) :
    found.1 ≠ found.2 ∧ join found.1 = join found.2 := by
  induction first generalizing index one two second with
  | nil => cases computed
  | cons beside rest ih =>
    cases second with
    | nil => cases computed
    | cons other others =>
      rw [clash] at computed
      by_cases here : pair index one beside ≠ pair index two other ∧
          join (pair index one beside) = join (pair index two other)
      · rw [if_pos here, Option.some.injEq] at computed
        rw [← computed]
        exact here
      · rw [if_neg here] at computed
        exact ih computed

/-- Two different climbs of one length that end in the same hash collide on the way. -/
theorem clash_collides {index : ℕ} (sized : first.length = second.length)
    (different : ¬(one = two ∧ first = second))
    (same : climb join index one first = climb join index two second) :
    Collides join (clash join index one first two second) := by
  induction first generalizing index one two second with
  | nil =>
    rw [List.length_nil] at sized
    obtain rfl := List.length_eq_zero_iff.mp sized.symm
    exact absurd ⟨same, rfl⟩ different
  | cons beside rest ih =>
    cases second with
    | nil => cases sized
    | cons other others =>
      rw [List.length_cons, List.length_cons, Nat.add_right_cancel_iff] at sized
      rw [climb, climb] at same
      rw [clash]
      by_cases here : pair index one beside ≠ pair index two other ∧
          join (pair index one beside) = join (pair index two other)
      · rw [if_pos here]
        exact ⟨_, _, rfl, here⟩
      · rw [if_neg here]
        refine ih sized ?_ same
        rintro ⟨joined, rfl⟩
        have pairs : pair index one beside = pair index two other := by
          by_contra apart
          exact here ⟨apart, joined⟩
        obtain ⟨rfl, rfl⟩ := pair_injective pairs
        exact different ⟨rfl, rfl⟩

variable {leaf other : ℕ → H}

/-- What trees with the same node there disagree about is joined into the same hash. -/
theorem treeClash_sound {height index : ℕ} {found : (H × H) × (H × H)}
    (same : node join leaf height index = node join other height index)
    (computed : treeClash join leaf other height index = some found) :
    found.1 ≠ found.2 ∧ join found.1 = join found.2 := by
  induction height generalizing index with
  | zero => cases computed
  | succ height ih =>
    rw [treeClash] at computed
    by_cases apart : (node join leaf height (2 * index), node join leaf height (2 * index + 1)) ≠
        (node join other height (2 * index), node join other height (2 * index + 1))
    · rw [if_pos apart, Option.some.injEq] at computed
      subst computed
      exact ⟨apart, same⟩
    · rw [if_neg apart, Option.or_eq_some_iff] at computed
      obtain ⟨left, right⟩ := Prod.mk.inj (not_not.mp apart)
      rcases computed with below | ⟨-, below⟩
      · exact ih left below
      · exact ih right below

/-- Two trees with the same node and different leaves below it collide. -/
theorem treeClash_collides {height index position : ℕ}
    (same : node join leaf height index = node join other height index)
    (under : position / 2 ^ height = index) (different : leaf position ≠ other position) :
    Collides join (treeClash join leaf other height index) := by
  have found : treeClash join leaf other height index ≠ none := by
    induction height generalizing index with
    | zero =>
      rw [pow_zero, Nat.div_one] at under
      subst under
      exact absurd same different
    | succ height ih =>
      rw [treeClash]
      by_cases apart : (node join leaf height (2 * index), node join leaf height (2 * index + 1)) ≠
          (node join other height (2 * index), node join other height (2 * index + 1))
      · rw [if_pos apart]
        exact Option.some_ne_none _
      · rw [if_neg apart, ne_eq, Option.or_eq_none_iff]
        rintro ⟨noLeft, noRight⟩
        obtain ⟨left, right⟩ := Prod.mk.inj (not_not.mp apart)
        rw [div_pow_succ] at under
        by_cases even : position / 2 ^ height % 2 = 0
        · have child : position / 2 ^ height = 2 * index := by omega
          exact ih left child noLeft
        · have child : position / 2 ^ height = 2 * index + 1 := by omega
          exact ih right child noRight
  obtain ⟨pairs, computed⟩ := Option.ne_none_iff_exists'.mp found
  exact ⟨pairs.1, pairs.2, computed, treeClash_sound same computed⟩

end Clashes

end HashTree
