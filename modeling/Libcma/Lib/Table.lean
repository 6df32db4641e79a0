import Mathlib.Data.Finmap
import Mathlib.Algebra.BigOperators.Group.Finset.Basic
import Mathlib.Algebra.Order.BigOperators.Group.Finset
import Mathlib.Data.Set.Card

/-!
# Finite tables

Hash maps are read as Mathlib's finite maps: extensional, with one value for a key. This module
adds what a ledger needs of them: the number of entries, the number of entries whose key has a
property, and how both change when an entry is inserted or erased.
-/

/-- A finite map from keys to values. -/
abbrev Table (κ ν : Type) : Type := Finmap fun _ : κ => ν

namespace Finmap

variable {κ ν : Type}

/-- The number of entries. -/
def size (table : Table κ ν) : ℕ := table.keys.card

/-- The number of entries whose key has a property. -/
def countKeys (property : κ → Prop) [DecidablePred property] (table : Table κ ν) : ℕ :=
  (table.keys.filter property).card

/-- The empty table has no entries. -/
@[simp] theorem size_empty : (∅ : Table κ ν).size = 0 := rfl

/-- The empty table has no keys to count. -/
@[simp] theorem countKeys_empty (property : κ → Prop) [DecidablePred property] :
    (∅ : Table κ ν).countKeys property = 0 := rfl

variable [DecidableEq κ]

/-- An insertion is found at its key and changes nothing elsewhere. -/
theorem lookup_insert_if (table : Table κ ν) (key other : κ) (value : ν) :
    (table.insert key value).lookup other =
      if other = key then some value else table.lookup other := by
  split
  · subst other
    exact Finmap.lookup_insert table
  · exact Finmap.lookup_insert_of_ne table ‹_›

/-- An erased key is not found; nothing else changes. -/
theorem lookup_erase_if (table : Table κ ν) (key other : κ) :
    (table.erase key).lookup other = if other = key then none else table.lookup other := by
  split
  · subst other
    exact Finmap.lookup_erase key table
  · exact Finmap.lookup_erase_ne ‹_›

/-- Erasing what was just inserted. -/
theorem erase_insert_self (table : Table κ ν) (key : κ) (value : ν) :
    (table.insert key value).erase key = table.erase key := by
  refine Finmap.ext_lookup fun other => ?_
  rw [lookup_erase_if, lookup_erase_if, lookup_insert_if]
  split <;> rfl

/-- The keys after an insertion. -/
theorem keys_insert (table : Table κ ν) (key : κ) (value : ν) :
    (table.insert key value).keys = Insert.insert key table.keys := by
  ext other
  simp [Finmap.mem_keys]

/-- A key is present exactly when a value is found at it. -/
theorem mem_keys_iff (table : Table κ ν) (key : κ) :
    key ∈ table.keys ↔ ∃ value, table.lookup key = some value := by
  rw [Finmap.mem_keys, Finmap.mem_iff]

/-- Inserting at a new key adds one entry. -/
theorem size_insert_new {table : Table κ ν} {key : κ} (value : ν)
    (absent : table.lookup key = none) : (table.insert key value).size = table.size + 1 := by
  rw [size, keys_insert, Finset.card_insert_of_notMem]
  · rfl
  · rwa [Finmap.mem_keys, ← Finmap.lookup_eq_none]

/-- Inserting at a present key keeps the number of entries. -/
theorem size_insert_old {table : Table κ ν} {key : κ} {old : ν} (value : ν)
    (present : table.lookup key = some old) : (table.insert key value).size = table.size := by
  rw [size, keys_insert, Finset.insert_eq_of_mem ((mem_keys_iff _ _).mpr ⟨old, present⟩)]
  rfl

/-- Erasing a present key removes one entry. -/
theorem size_erase {table : Table κ ν} {key : κ} {old : ν}
    (present : table.lookup key = some old) : (table.erase key).size + 1 = table.size := by
  rw [size, Finmap.keys_erase]
  exact Finset.card_erase_add_one ((mem_keys_iff _ _).mpr ⟨old, present⟩)

/-- A table with an entry is not empty. -/
theorem size_pos {table : Table κ ν} {key : κ} {old : ν}
    (present : table.lookup key = some old) : 0 < table.size :=
  Finset.card_pos.mpr ⟨key, (mem_keys_iff _ _).mpr ⟨old, present⟩⟩

/-- Insert a key that may be absent. -/
def insertKey (table : Table κ ν) (key : Option κ) (value : ν) :
    Table κ ν :=
  match key with
  | some key => table.insert key value
  | none => table

/-- Erase a key that may be absent. -/
def eraseKey (table : Table κ ν) (key : Option κ) : Table κ ν :=
  match key with
  | some key => table.erase key
  | none => table

/-- Looking up after inserting a key that may be absent. -/
theorem lookup_insertKey (table : Table κ ν) (key : Option κ) (value : ν)
    (other : κ) :
    (insertKey table key value).lookup other =
      if key = some other then some value else table.lookup other := by
  cases key with
  | none => rfl
  | some key =>
    rw [insertKey, Finmap.lookup_insert_if]
    by_cases same : other = key
    · rw [if_pos same, if_pos (by rw [same])]
    · rw [if_neg same, if_neg fun equal => same (Option.some.inj equal).symm]

/-- Looking up after erasing a key that may be absent. -/
theorem lookup_eraseKey (table : Table κ ν) (key : Option κ)
    (other : κ) :
    (eraseKey table key).lookup other =
      if key = some other then none else table.lookup other := by
  cases key with
  | none => rfl
  | some key =>
    rw [eraseKey, Finmap.lookup_erase_if]
    by_cases same : other = key
    · rw [if_pos same, if_pos (by rw [same])]
    · rw [if_neg same, if_neg fun equal => same (Option.some.inj equal).symm]

section Naming

variable {ι : Type} {keys : Table κ ι} {items after : ι → Option ν} {keyOf : ν → Option κ}
  {place : ι} {item : ν}

/-- Keys name items: a key leads to the place of the one item that has it. -/
def Names (keys : Table κ ι) (items : ι → Option ν) (keyOf : ν → Option κ) : Prop :=
  ∀ key id, keys.lookup key = some id ↔ ∃ item, items id = some item ∧ keyOf item = some key

/-- Where there are no items, no key names one. -/
theorem names_empty (keyOf : ν → Option κ) : Names (∅ : Table κ ι) (fun _ => none) keyOf := by
  intro key id
  simp [lookup_empty]

/-- A new item at a free place, under a key that is not taken. -/
theorem Names.insertKey (names : Names keys items keyOf) [DecidableEq ι] (free : items place = none)
    (fresh : ∀ key, keyOf item = some key → keys.lookup key = none)
    (placed : ∀ id, after id = if id = place then some item else items id) :
    Names (keys.insertKey (keyOf item) place) after keyOf := by
  intro key id
  rw [lookup_insertKey, placed]
  by_cases same : keyOf item = some key
  · -- The key is new: no older item has it.
    have unused := fresh key same
    rw [if_pos same, Option.some.injEq]
    constructor
    · rintro rfl
      exact ⟨item, if_pos rfl, same⟩
    · rintro ⟨other, there, keyed⟩
      by_contra different
      rw [if_neg (Ne.symm different)] at there
      have named := (names key id).mpr ⟨other, there, keyed⟩
      rw [unused] at named
      contradiction
  · rw [if_neg same, names]
    constructor
    · rintro ⟨other, there, keyed⟩
      refine ⟨other, (if_neg ?_).trans there, keyed⟩
      rintro rfl
      rw [free] at there
      contradiction
    · rintro ⟨other, there, keyed⟩
      split at there
      · exact absurd (Option.some.inj there ▸ keyed) same
      · exact ⟨other, there, keyed⟩

/-- An item leaves, and its key with it. -/
theorem Names.eraseKey (names : Names keys items keyOf) [DecidableEq ι]
    (present : items place = some item)
    (placed : ∀ id, after id = if id = place then none else items id) :
    Names (keys.eraseKey (keyOf item)) after keyOf := by
  intro key id
  rw [lookup_eraseKey, placed]
  by_cases same : keyOf item = some key
  · rw [if_pos same]
    have named := (names key place).mpr ⟨item, present, same⟩
    constructor
    · rintro ⟨⟩
    · rintro ⟨other, there, keyed⟩
      split at there
      · contradiction
      · have again := (names key id).mpr ⟨other, there, keyed⟩
        rw [named, Option.some.injEq] at again
        exact absurd again.symm ‹_›
  · rw [if_neg same, names]
    constructor
    · rintro ⟨other, there, keyed⟩
      refine ⟨other, (if_neg ?_).trans there, keyed⟩
      rintro rfl
      exact same (Option.some.inj (present.symm.trans there) ▸ keyed)
    · rintro ⟨other, there, keyed⟩
      split at there
      · contradiction
      · exact ⟨other, there, keyed⟩

/-- An item changes in place and keeps its key. -/
theorem Names.replace (names : Names keys items keyOf) [DecidableEq ι] {old : ν} (item : ν)
    (present : items place = some old) (kept : keyOf item = keyOf old)
    (placed : ∀ id, after id = if id = place then some item else items id) :
    Names keys after keyOf := by
  intro key id
  rw [placed, names]
  split
  · rw [‹id = place›, present]
    simp [kept]
  · rfl

end Naming

section Counting

variable (property : κ → Prop) [DecidablePred property]

/-- Inserting at a new key counts it when it has the property. -/
theorem countKeys_insert_new {table : Table κ ν} {key : κ} (value : ν)
    (absent : table.lookup key = none) :
    (table.insert key value).countKeys property =
      table.countKeys property + if property key then 1 else 0 := by
  have fresh : key ∉ table.keys.filter property := by
    rw [Finset.mem_filter, Finmap.mem_keys, ← Finmap.lookup_isSome, absent]
    simp
  rw [countKeys, keys_insert, Finset.filter_insert]
  split
  · rw [Finset.card_insert_of_notMem fresh, countKeys]
  · rfl

/-- Inserting at a present key keeps the count. -/
theorem countKeys_insert_old {table : Table κ ν} {key : κ} {old : ν} (value : ν)
    (present : table.lookup key = some old) :
    (table.insert key value).countKeys property = table.countKeys property := by
  rw [countKeys, keys_insert, Finset.insert_eq_of_mem ((mem_keys_iff _ _).mpr ⟨old, present⟩)]
  rfl

/-- Erasing a present key uncounts it when it has the property. -/
theorem countKeys_erase {table : Table κ ν} {key : κ} {old : ν}
    (present : table.lookup key = some old) :
    (table.erase key).countKeys property + (if property key then 1 else 0) =
      table.countKeys property := by
  rw [countKeys, Finmap.keys_erase, Finset.filter_erase]
  split
  · refine Finset.card_erase_add_one (Finset.mem_filter.mpr ⟨?_, ‹_›⟩)
    exact (mem_keys_iff _ _).mpr ⟨old, present⟩
  · rw [Finset.erase_eq_of_notMem (fun member => ‹¬property key› (Finset.mem_filter.mp member).2)]
    rfl

/-- A zero count says that no key with the property is present. -/
theorem lookup_of_countKeys_zero {table : Table κ ν} (zero : table.countKeys property = 0)
    {key : κ} (holds : property key) : table.lookup key = none := by
  rw [countKeys, Finset.card_eq_zero, Finset.filter_eq_empty_iff] at zero
  rw [Finmap.lookup_eq_none, ← Finmap.mem_keys]
  exact fun member => zero member holds

end Counting

/-- Counting the entries with a second component counts the first components they have. -/
theorem countKeys_second {α β ν : Type} [DecidableEq α] [DecidableEq β] (table : Table (α × β) ν)
    (second : β) :
    table.countKeys (·.2 = second) = {first | (first, second) ∈ table.keys}.ncard := by
  have image : ({first | (first, second) ∈ table.keys} : Set α) =
      ((table.keys.filter (·.2 = second)).image Prod.fst : Finset α) := by
    ext first
    simp
  rw [image, Set.ncard_coe_finset, Finset.card_image_of_injOn, countKeys]
  intro one onePresent two twoPresent same
  rw [Finset.mem_coe, Finset.mem_filter] at onePresent twoPresent
  exact Prod.ext same (onePresent.2.trans twoPresent.2.symm)

end Finmap
