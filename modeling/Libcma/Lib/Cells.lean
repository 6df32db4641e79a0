import Mathlib.Data.BitVec
import Mathlib.Data.List.Basic

/-!
# Runs of cells in a wrapping address space

A memory is a function from addresses to cells. `Cells.Holds` says that a list of values lies from
an address on, and `Cells.write` puts one there; addresses have a fixed width and wrap. A list that
lies somewhere is read piece by piece (`holds_append`), and a write changes one piece and leaves
the others (`Holds.patch`), so that a text of several writes is followed by appending.
-/

namespace Cells

variable {width : ℕ} {α : Type} {cells : BitVec width → α} {start : BitVec width}

/-- The values lie in the cells from an address on. -/
def Holds (cells : BitVec width → α) (start : BitVec width) (values : List α) : Prop :=
  ∀ index value, values[index]? = some value → cells (start + BitVec.ofNat width index) = value

/-- Put values into the cells from an address on. -/
def write (cells : BitVec width → α) (start : BitVec width) (values : List α) : BitVec width → α :=
  fun address => values[(address - start).toNat]?.getD (cells address)

/-- No values lie anywhere. -/
theorem holds_nil : Holds cells start [] := by
  intro index value found
  simp at found

/-- Values lie one after another. -/
theorem holds_append (front back : List α) :
    Holds cells start (front ++ back) ↔
      Holds cells start front ∧ Holds cells (start + BitVec.ofNat width front.length) back := by
  have address (index : ℕ) : start + BitVec.ofNat width (front.length + index) =
      start + BitVec.ofNat width front.length + BitVec.ofNat width index := by
    rw [BitVec.ofNat_add, BitVec.add_assoc]
  constructor
  · intro holds
    constructor
    · intro index value found
      apply holds
      rw [List.getElem?_append_left (List.getElem?_eq_some_iff.mp found).1]
      exact found
    · intro index value found
      rw [← address]
      apply holds
      rw [List.getElem?_append_right (Nat.le_add_right _ _), Nat.add_sub_cancel_left]
      exact found
  · intro both index value found
    by_cases early : index < front.length
    · rw [List.getElem?_append_left early] at found
      exact both.1 index value found
    · have late := Nat.not_lt.mp early
      rw [List.getElem?_append_right late] at found
      have there := both.2 _ value found
      rw [← address, Nat.add_sub_cancel' late] at there
      exact there

/-- Something lies behind the values that lie from an address on. -/
theorem Holds.grow {front : List α} (holds : Holds cells start front) (count : ℕ) :
    ∃ back, back.length = count ∧ Holds cells start (front ++ back) := by
  refine ⟨List.ofFn fun index : Fin count =>
    cells (start + BitVec.ofNat width front.length + BitVec.ofNat width index),
    List.length_ofFn, (holds_append _ _).mpr ⟨holds, ?_⟩⟩
  intro index value found
  rw [List.getElem?_ofFn] at found
  split at found
  · exact Option.some.inj found
  · cases found

/-- How far one address is past another, both counted from one base. -/
theorem toNat_sub_offset (base : BitVec width) {first second : ℕ} (low : first < 2 ^ width)
    (high : second < 2 ^ width) :
    (base + BitVec.ofNat width second - (base + BitVec.ofNat width first)).toNat =
      if first ≤ second then second - first else 2 ^ width + second - first := by
  rw [add_sub_add_left_eq_sub, BitVec.toNat_sub, BitVec.toNat_ofNat, BitVec.toNat_ofNat,
    Nat.mod_eq_of_lt low, Nat.mod_eq_of_lt high]
  split
  next before =>
    have shifted : 2 ^ width - first + second = 2 ^ width + (second - first) := by omega
    rw [shifted, Nat.add_mod_left, Nat.mod_eq_of_lt (by omega)]
  next behind =>
    rw [Nat.mod_eq_of_lt (by omega)]
    omega

/-- Values that are put somewhere lie there. -/
theorem holds_write (cells : BitVec width → α) (start : BitVec width) {values : List α}
    (fits : values.length ≤ 2 ^ width) : Holds (write cells start values) start values := by
  intro index value found
  have below : index < values.length := (List.getElem?_eq_some_iff.mp found).1
  have distance : (start + BitVec.ofNat width index - start).toNat = index := by
    rw [add_sub_cancel_left, BitVec.toNat_ofNat, Nat.mod_eq_of_lt (by omega)]
  rw [write, distance, found]
  rfl

/-- Values that lie apart from a write stay; both places are counted from one base. -/
theorem Holds.write_apart {base : BitVec width} {place : ℕ} {values : List α}
    (holds : Holds cells (base + BitVec.ofNat width place) values) (other : ℕ) (written : List α)
    (fits : place + values.length ≤ 2 ^ width) (inside : other + written.length ≤ 2 ^ width)
    (apart : place + values.length ≤ other ∨ other + written.length ≤ place) :
    Holds (write cells (base + BitVec.ofNat width other) written)
      (base + BitVec.ofNat width place) values := by
  intro index value found
  have below : index < values.length := (List.getElem?_eq_some_iff.mp found).1
  have there := holds index value found
  rw [BitVec.add_assoc, ← BitVec.ofNat_add] at there ⊢
  rcases Nat.eq_zero_or_pos written.length with none | some
  · rw [write, List.length_eq_zero_iff.mp none]
    exact there
  · have distance := toNat_sub_offset base (show other < 2 ^ width by omega)
      (show place + index < 2 ^ width by omega)
    have outside : written.length ≤
        (base + BitVec.ofNat width (place + index) - (base + BitVec.ofNat width other)).toNat := by
      rw [distance]
      split <;> omega
    rw [write, List.getElem?_eq_none outside]
    exact there

/-- Values that lie from the base on and apart from a write stay. -/
theorem Holds.write_behind {values : List α} (holds : Holds cells start values) (other : ℕ)
    (written : List α) (inside : other + written.length ≤ 2 ^ width)
    (apart : values.length ≤ other) :
    Holds (write cells (start + BitVec.ofNat width other) written) start values := by
  rw [← BitVec.add_zero start] at holds
  have kept := holds.write_apart other written (by omega) inside (by omega)
  rw [BitVec.add_zero] at kept
  exact kept

/-- A write over one piece of the values that lie from a base on. -/
theorem Holds.patch {front middle back : List α}
    (holds : Holds cells start (front ++ middle ++ back)) (written : List α)
    (aligned : written.length = middle.length)
    (fits : front.length + middle.length + back.length ≤ 2 ^ width) :
    Holds (write cells (start + BitVec.ofNat width front.length) written) start
      (front ++ written ++ back) := by
  simp only [holds_append, List.length_append] at holds ⊢
  constructor
  · constructor
    · exact holds.1.1.write_behind front.length written (by omega) (Nat.le_refl _)
    · exact holds_write cells _ (by omega)
  · rw [aligned]
    exact holds.2.write_apart front.length written (by omega) (by omega) (by omega)

/-- A write behind the values that lie from a base on. -/
theorem Holds.extend {front : List α} (holds : Holds cells start front) (written : List α)
    (fits : front.length + written.length ≤ 2 ^ width) :
    Holds (write cells (start + BitVec.ofNat width front.length) written) start
      (front ++ written) := by
  have kept := holds.write_behind front.length written fits (Nat.le_refl _)
  exact (holds_append front written).mpr ⟨kept, holds_write cells _ (by omega)⟩

end Cells
