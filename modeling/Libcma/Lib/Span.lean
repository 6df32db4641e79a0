import Mathlib.Order.Basic
import Mathlib.Tactic.Ring

/-!
# Ranges of a wrapping address space

Addresses have a fixed width and their addition wraps. A span holds the addresses from its first
to its last byte and never wraps itself; a run of bytes counted from an address may. `covers_iff`
turns the run's bytes, address by address, into one inequality between naturals.
-/

/-- A half-open range of addresses. -/
structure Span (width : ℕ) where
  /-- First address. -/
  begin : BitVec width
  /-- First address past the range. -/
  stop : BitVec width
  deriving DecidableEq

namespace Span

variable {width : ℕ} {span : Span width} {start offset : BitVec width} {count : ℕ}

/-- The address is in the range. -/
def Holds (span : Span width) (address : BitVec width) : Prop :=
  span.begin ≤ address ∧ address < span.stop

/-- Every byte of a run is in the range; the run's addresses wrap. -/
def Covers (span : Span width) (start : BitVec width) (count : ℕ) : Prop :=
  ∀ index < count, span.Holds (start + BitVec.ofNat width index)

instance (span : Span width) (address : BitVec width) : Decidable (span.Holds address) :=
  inferInstanceAs (Decidable (_ ∧ _))

instance (span : Span width) (start : BitVec width) (count : ℕ) :
    Decidable (span.Covers start count) :=
  inferInstanceAs (Decidable (∀ index < count, _))

/-- An empty run is covered. -/
theorem covers_zero : span.Covers start 0 := by
  intro index below
  exact absurd below (Nat.not_lt_zero index)

/-- An address that does not wrap is the sum of naturals. -/
theorem toNat_add_ofNat {index : ℕ} (fits : start.toNat + index < 2 ^ width) :
    (start + BitVec.ofNat width index).toNat = start.toNat + index := by
  have small : index < 2 ^ width := by omega
  rw [BitVec.toNat_add, BitVec.toNat_ofNat, Nat.mod_eq_of_lt small, Nat.mod_eq_of_lt fits]

/-- A run is covered when it starts in the range and ends in it without wrapping. -/
theorem covers_iff (positive : 0 < count) :
    span.Covers start count ↔
      span.begin.toNat ≤ start.toNat ∧ start.toNat + count ≤ span.stop.toNat := by
  have bound := span.stop.isLt
  constructor
  · intro covers
    have first := covers 0 positive
    have zero : start + BitVec.ofNat width 0 = start := by simp
    rw [zero] at first
    have above : span.begin.toNat ≤ start.toNat := first.1
    have below : start.toNat < span.stop.toNat := first.2
    constructor
    · exact above
    · by_contra exceeds
      -- The byte at the end of the range is one of the run.
      have last := (covers (span.stop.toNat - start.toNat) (by omega)).2
      have address : (start + BitVec.ofNat width (span.stop.toNat - start.toNat)).toNat =
          span.stop.toNat := by
        rw [toNat_add_ofNat (by omega)]
        omega
      have strict := BitVec.lt_def.mp last
      omega
  · rintro ⟨above, below⟩ index inside
    have fits : start.toNat + index < 2 ^ width := by omega
    have address := toNat_add_ofNat fits
    constructor
    · show span.begin.toNat ≤ _
      omega
    · show _ < span.stop.toNat
      omega

/-- A run at an offset from the range's first byte is covered when the offset and the run fit in
the range as naturals. -/
theorem covers_offset (positive : 0 < count) :
    span.Covers (span.begin + offset) count ↔
      span.begin.toNat + offset.toNat + count ≤ span.stop.toNat := by
  have bound := span.stop.isLt
  have small := offset.isLt
  have low := span.begin.isLt
  rw [covers_iff positive, BitVec.toNat_add]
  by_cases wraps : span.begin.toNat + offset.toNat < 2 ^ width
  · rw [Nat.mod_eq_of_lt wraps]
    omega
  · have wrapped : (span.begin.toNat + offset.toNat) % 2 ^ width =
        span.begin.toNat + offset.toNat - 2 ^ width := by
      rw [Nat.mod_eq_sub_mod (by omega), Nat.mod_eq_of_lt (by omega)]
    omega

end Span
