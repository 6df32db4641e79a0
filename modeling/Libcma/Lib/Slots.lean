import Mathlib.Data.List.Basic
import Mathlib.Data.List.Nodup

/-!
# Dense slots with removal by swapping in the last

A dense array keeps one key in each slot and a map gives the slot of each key. A new key takes the
next slot; a removed key's slot is taken over by the last key. `Indexes` ties the two structures
together, and both operations keep it.
-/

namespace Slots

variable {κ ν : Type}

/-- The list of keys in slot order and the slot of each key describe the same placement. -/
def Indexes (keys : List κ) (slot : κ → Option ℕ) : Prop :=
  ∀ (position : ℕ) (key : κ), keys[position]? = some key ↔ slot key = some position

/-- Overwrite a slot and drop the last one. -/
def swapRemove (cells : List ν) (position : ℕ) (moved : ν) : List ν :=
  (cells.set position moved).dropLast

/-- No key is placed in an empty array. -/
theorem Indexes.empty : Indexes ([] : List κ) (fun _ => none) := by
  intro position key
  simp

/-- A key's slot lies inside the array. -/
theorem Indexes.slot_lt {keys : List κ} {slot : κ → Option ℕ} (indexes : Indexes keys slot)
    {key : κ} {position : ℕ} (found : slot key = some position) : position < keys.length :=
  (List.getElem?_eq_some_iff.mp ((indexes position key).mpr found)).1

/-- A key is listed exactly when it has a slot. -/
theorem Indexes.mem_iff {keys : List κ} {slot : κ → Option ℕ} (indexes : Indexes keys slot)
    (key : κ) : key ∈ keys ↔ ∃ position, slot key = some position := by
  rw [List.mem_iff_getElem?]
  exact exists_congr fun position => indexes position key

/-- No key has two slots. -/
theorem Indexes.nodup {keys : List κ} {slot : κ → Option ℕ} (indexes : Indexes keys slot) :
    keys.Nodup := by
  rw [List.nodup_iff_getElem?_ne_getElem?]
  intro first second ordered inside same
  have present : keys[first]? = some (keys.get ⟨first, Nat.lt_trans ordered inside⟩) :=
    List.getElem?_eq_getElem _
  have one := (indexes first _).mp present
  have two := (indexes second _).mp (same ▸ present)
  rw [one] at two
  exact absurd (Option.some.inj two) (Nat.ne_of_lt ordered)

/-- No slot has two keys. -/
theorem Indexes.unique {keys : List κ} {slot : κ → Option ℕ} (indexes : Indexes keys slot)
    {one two : κ} {position : ℕ} (first : slot one = some position)
    (second : slot two = some position) : one = two :=
  Option.some.inj (((indexes _ _).mpr first).symm.trans ((indexes _ _).mpr second))

/-- A key's slot is the first place it is listed at. -/
theorem Indexes.idxOf? [BEq κ] [LawfulBEq κ] {keys : List κ} {slot : κ → Option ℕ}
    (indexes : Indexes keys slot) {key : κ} {position : ℕ} (found : slot key = some position) :
    keys.idxOf? key = some position := by
  have inside := indexes.slot_lt found
  have listed := (indexes position key).mpr found
  rw [List.getElem?_eq_getElem inside, Option.some.injEq] at listed
  rw [List.idxOf?_eq_some_iff]
  refine ⟨inside, listed, fun earlier before => ?_⟩
  have other : earlier < keys.length := Nat.lt_trans before inside
  intro same
  have twice := (indexes earlier key).mp (by rw [List.getElem?_eq_getElem other, same])
  rw [found, Option.some.injEq] at twice
  omega

/-- Where one key has a slot, the array has a last key, in the last slot. -/
theorem Indexes.last {keys : List κ} {slot : κ → Option ℕ} (indexes : Indexes keys slot)
    {key : κ} {position : ℕ} (found : slot key = some position) :
    ∃ moved, keys.getLast? = some moved ∧ slot moved = some (keys.length - 1) := by
  have inside := indexes.slot_lt found
  have bound : keys.length - 1 < keys.length := by omega
  refine ⟨keys[keys.length - 1], ?_, ?_⟩
  · rw [List.getLast?_eq_getElem?, List.getElem?_eq_getElem bound]
  · exact (indexes _ _).mp (List.getElem?_eq_getElem bound)

/-- A new key takes the slot after the last. -/
theorem Indexes.push [DecidableEq κ] {keys : List κ} {slot after : κ → Option ℕ} {key : κ}
    (indexes : Indexes keys slot) (fresh : slot key = none)
    (placed : ∀ other, after other = if other = key then some keys.length else slot other) :
    Indexes (keys ++ [key]) after := by
  intro position other
  rw [placed]
  by_cases inside : position < keys.length
  · rw [List.getElem?_append_left inside, indexes]
    by_cases same : other = key
    · subst other
      simp only [fresh, reduceCtorEq, ↓reduceIte, Option.some.injEq, false_iff]
      omega
    · rw [if_neg same]
  · rw [List.getElem?_append_right (by omega)]
    have beyond : slot other ≠ some position := fun found => inside (indexes.slot_lt found)
    by_cases same : other = key
    · subst other
      rw [if_pos rfl, List.getElem?_singleton]
      by_cases last : position - keys.length = 0
      · rw [if_pos last]
        simp only [Option.some.injEq, true_iff]
        omega
      · rw [if_neg last]
        simp only [reduceCtorEq, Option.some.injEq, false_iff]
        omega
    · rw [if_neg same, List.getElem?_singleton]
      split
      · simp only [Option.some.injEq, beyond, iff_false]
        exact fun equal => same equal.symm
      · simp only [reduceCtorEq, beyond]

/-- Removing a key by moving the last key into its slot. When the removed key is the last one it
is moved onto itself first and dropped. -/
theorem Indexes.swapRemove [DecidableEq κ] {keys : List κ} {slot after : κ → Option ℕ}
    {key moved : κ} {position : ℕ} (indexes : Indexes keys slot) (found : slot key = some position)
    (last : keys.getLast? = some moved)
    (placed : ∀ other, after other =
      if other = key then none else if other = moved then some position else slot other) :
    Indexes (swapRemove keys position moved) after := by
  have inside := indexes.slot_lt found
  rw [List.getLast?_eq_getElem?] at last
  have lastSlot := (indexes _ _).mp last
  intro index other
  rw [placed, Slots.swapRemove, List.getElem?_dropLast, List.length_set]
  by_cases kept : index < keys.length - 1
  · rw [if_pos kept, List.getElem?_set]
    by_cases freed : position = index
    · subst index
      -- The freed slot: `key` was not the last, so the last key arrives here.
      have different : moved ≠ key := by
        rintro rfl
        rw [found, Option.some.injEq] at lastSlot
        omega
      rw [if_pos rfl, if_pos inside]
      constructor
      · intro arrived
        obtain rfl := Option.some.inj arrived
        rw [if_neg different, if_pos rfl]
      · intro stays
        split at stays
        · contradiction
        · split at stays
          · rw [‹other = moved›]
          · exact absurd (Option.some.inj (((indexes _ _).mpr stays).symm.trans
              ((indexes _ _).mpr found))) ‹¬other = key›
    · rw [if_neg freed, indexes]
      by_cases removed : other = key
      · subst other
        rw [if_pos rfl, found]
        simp [freed]
      · rw [if_neg removed]
        by_cases shifted : other = moved
        · subst other
          rw [if_pos rfl, lastSlot]
          simp only [Option.some.injEq, freed, iff_false]
          omega
        · rw [if_neg shifted]
  · rw [if_neg kept]
    simp only [reduceCtorEq, false_iff]
    split
    · simp
    · split
      · simp only [Option.some.injEq]
        intro same
        -- The freed slot is the last, so the moved key is the removed one.
        have equal : position = keys.length - 1 := by omega
        rw [equal] at found
        exact ‹¬other = key› (‹other = moved› ▸ Option.some.inj
          (last.symm.trans ((indexes _ _).mpr found)))
      · intro stays
        have bound := indexes.slot_lt stays
        have equal : index = keys.length - 1 := by omega
        subst index
        exact ‹¬other = moved› (Option.some.inj
          (((indexes _ _).mpr stays).symm.trans last))

/-- One slot is gone after a removal. -/
theorem length_swapRemove (cells : List ν) (position : ℕ) (moved : ν) :
    (Slots.swapRemove cells position moved).length = cells.length - 1 := by
  rw [Slots.swapRemove, List.length_dropLast, List.length_set]

/-- A removal moves the cells with their keys: every other key finds at its new slot what it had
at its old one. -/
theorem Indexes.getElem?_swapRemove [DecidableEq κ] {keys : List κ} {slot : κ → Option ℕ}
    {key moved other : κ} {position index : ℕ} {cells : List ν} {cell : ν}
    (indexes : Indexes keys slot) (found : slot key = some position)
    (last : keys.getLast? = some moved) (aligned : cells.length = keys.length)
    (lastCell : cells[keys.length - 1]? = some cell) (different : other ≠ key)
    (held : slot other = some index) :
    (Slots.swapRemove cells position cell)[if other = moved then position else index]? =
      cells[index]? := by
  have inside := indexes.slot_lt found
  have bound := indexes.slot_lt held
  rw [List.getLast?_eq_getElem?] at last
  have lastSlot := (indexes _ _).mp last
  have apart : position ≠ index := by
    rintro rfl
    exact different (Option.some.inj (((indexes _ _).mpr held).symm.trans
      ((indexes _ _).mpr found)))
  rw [Slots.swapRemove, List.getElem?_dropLast, List.length_set, aligned]
  by_cases shifted : other = moved
  · subst other
    rw [held, Option.some.injEq] at lastSlot
    rw [if_pos rfl, if_pos (by omega), List.getElem?_set_self (by omega), lastSlot, lastCell]
  · have notLast : index ≠ keys.length - 1 := by
      rintro rfl
      exact shifted (Option.some.inj (((indexes _ _).mpr held).symm.trans last))
    rw [if_neg shifted, if_pos (by omega), List.getElem?_set_ne apart]

end Slots
