import Libcma.Lib.Exec

/-!
# Views that a computation keeps

A view reads something of a state. `Exec.Keeps` says that a computation leaves it as it was, whether
it returns or throws; `Exec.ThrowKeeps` says so of throws only. A text that writes to the view in
its last line keeps it when it throws, since the lines before keep it.
-/

namespace Exec

variable {ε σ τ α β γ : Type} {view : σ → γ}

/-- The computation leaves the view as it was. -/
def Keeps (view : σ → γ) (computation : Exec ε σ α) : Prop :=
  ∀ state, (computation.run state).Satisfies (fun _ after => view after = view state)
    fun _ after => view after = view state

/-- When the computation throws, it leaves the view as it was. -/
def ThrowKeeps (view : σ → γ) (computation : Exec ε σ α) : Prop :=
  ∀ state, (computation.run state).Satisfies (fun _ _ => True) fun _ after =>
    view after = view state

namespace Keeps

theorem pure (value : α) : Keeps view (Pure.pure value : Exec ε σ α) := fun _ => rfl

theorem raise (error : ε) : Keeps view (Exec.raise error : Exec ε σ α) := fun _ => rfl

theorem read : Keeps view (Exec.read : Exec ε σ σ) := fun _ => rfl

theorem update {change : σ → σ} (kept : ∀ state, view (change state) = view state) :
    Keeps view (Exec.update change : Exec ε σ Unit) := kept

theorem refuseIf (condition : Prop) [Decidable condition] (error : ε) :
    Keeps view (Exec.refuseIf condition error : Exec ε σ Unit) := by
  unfold Exec.refuseIf
  split
  · exact raise error
  · exact pure ()

/-- A sequence keeps what its parts keep. -/
theorem bind {first : Exec ε σ α} {next : α → Exec ε σ β} (early : Keeps view first)
    (late : ∀ value, Keeps view (next value)) : Keeps view (first >>= next) := by
  intro state
  rw [satisfies_bind]
  apply (early state).mono
  · intro value reached kept
    rw [← kept]
    exact late value reached
  · exact fun _ _ kept => kept

theorem ite (condition : Prop) [Decidable condition] {left right : Exec ε σ α}
    (first : Keeps view left) (second : Keeps view right) :
    Keeps view (if condition then left else right) := by
  split
  · exact first
  · exact second

theorem onFirst {computation : Exec ε σ α} (keeps : Keeps view computation) :
    Keeps (fun state : σ × τ => view state.1) (Exec.onFirst computation) := by
  intro state
  rw [satisfies_onFirst]
  exact keeps state.1

end Keeps

namespace ThrowKeeps

theorem raise (error : ε) : ThrowKeeps view (Exec.raise error : Exec ε σ α) := fun _ => rfl

theorem update (change : σ → σ) : ThrowKeeps view (Exec.update change : Exec ε σ Unit) :=
  fun _ => trivial

/-- A sequence keeps a view when it throws, if its first part always does. -/
theorem bind {first : Exec ε σ α} {next : α → Exec ε σ β} (early : Keeps view first)
    (late : ∀ value, ThrowKeeps view (next value)) : ThrowKeeps view (first >>= next) := by
  intro state
  rw [satisfies_bind]
  apply (early state).mono
  · intro value reached kept
    rw [← kept]
    exact late value reached
  · exact fun _ _ kept => kept

theorem ite (condition : Prop) [Decidable condition] {left right : Exec ε σ α}
    (first : ThrowKeeps view left) (second : ThrowKeeps view right) :
    ThrowKeeps view (if condition then left else right) := by
  split
  · exact first
  · exact second

theorem onFirst {computation : Exec ε σ α} (keeps : ThrowKeeps view computation) :
    ThrowKeeps (fun state : σ × τ => view state.1) (Exec.onFirst computation) := by
  intro state
  rw [satisfies_onFirst]
  exact keeps state.1

end ThrowKeeps

end Exec
