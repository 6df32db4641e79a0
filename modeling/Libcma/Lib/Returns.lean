import Libcma.Lib.Orders

/-!
# Computations that return

`Returns` says that a computation neither throws nor has undefined behaviour, and what it leaves.
The rules follow the text; what a line carries out is added to what is known when it returns.
-/

namespace Exec

variable {ε σ β γ : Type}

/-- The computation returns, with a value and in a state as stated. -/
def Returns (computation : Exec ε σ β) (start : σ) (ensures : β → σ → Prop) : Prop :=
  ∃ value now, computation.run start = .ok value now ∧ ensures value now

namespace Returns

variable {start : σ} {ensures weaker : β → σ → Prop} {computation : Exec ε σ β}

/-- Ensure less. -/
theorem mono (returns : Returns computation start ensures)
    (weaken : ∀ value now, ensures value now → weaker value now) :
    Returns computation start weaker := by
  obtain ⟨value, now, run, ensured⟩ := returns
  exact ⟨value, now, run, weaken value now ensured⟩

/-- A value is returned. -/
theorem pure {value : β} (ensured : ensures value start) :
    Returns (Pure.pure value : Exec ε σ β) start ensures := ⟨value, start, rfl, ensured⟩

/-- The state is read. -/
theorem read : Returns (Exec.read : Exec ε σ σ) start fun value now =>
    value = start ∧ now = start := ⟨start, start, rfl, rfl, rfl⟩

/-- An option that has a value. -/
theorem orUndefined {value : Option β} {found : β} (present : value = some found) :
    Returns (Exec.orUndefined value : Exec ε σ β) start fun result now =>
      result = found ∧ now = start := by
  subst present
  exact ⟨found, start, rfl, rfl, rfl⟩

/-- An option that has a value, where a throw would follow otherwise. -/
theorem orRaise {value : Option β} {found : β} (present : value = some found) (error : ε) :
    Returns (Exec.orRaise value error : Exec ε σ β) start fun result now =>
      result = found ∧ now = start := by
  subst present
  exact ⟨found, start, rfl, rfl, rfl⟩

/-- Lines that return, one after the other. -/
theorem bind {first : Exec ε σ β} {next : β → Exec ε σ γ} {middle : β → σ → Prop}
    {ensures : γ → σ → Prop} (early : Returns first start middle)
    (late : ∀ value now, middle value now → Returns (next value) now ensures) :
    Returns (first >>= next) start ensures := by
  obtain ⟨value, now, run, reached⟩ := early
  obtain ⟨result, last, rest, ensured⟩ := late value now reached
  refine ⟨result, last, ?_, ensured⟩
  rw [bind_run, run]
  exact rest

/-- A branch that is taken either way. -/
theorem ite {condition : Prop} [Decidable condition] {left right : Exec ε σ β}
    (first : condition → Returns left start ensures)
    (second : ¬condition → Returns right start ensures) :
    Returns (if condition then left else right) start ensures := by
  by_cases holds : condition
  · rw [if_pos holds]
    exact first holds
  · rw [if_neg holds]
    exact second holds

/-- What a computation carries out is done when it returns. -/
theorem carried {τ α ν : Type} [DecidableEq τ] {custodian : Custodian σ τ α ν}
    {orders : List (Custody.Order τ α ν)} {told : β → σ → Prop}
    (returns : Returns computation start ensures)
    (carries : Carries custodian orders computation start told) :
    Returns computation start fun value now =>
      ensures value now ∧ Advances custodian start orders now ∧ told value now := by
  obtain ⟨value, now, run, ensured⟩ := returns
  unfold Carries at carries
  rw [run] at carries
  exact ⟨value, now, run, ensured, carries⟩

end Returns

end Exec
