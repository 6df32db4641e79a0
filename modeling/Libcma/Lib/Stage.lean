import Libcma.Lib.Exec

/-!
# Stages over parts of a state

A `StatePart` is a place in a state; `Exec.onPart` runs a computation there. A text that fills one
part after another is a sequence of stages, each of which returns or throws. `Outcome.Meets` is
what a stage ensures of either, and that it is not undefined; the rules put the stages together.
-/

/-- A part of a state that can be read and replaced. -/
structure StatePart (σ τ : Type) where
  /-- Read the part. -/
  get : σ → τ
  /-- Replace the part. -/
  set : τ → σ → σ
  /-- What replaced the part is read back. -/
  get_set : ∀ part state, get (set part state) = part

namespace Outcome

variable {ε σ τ α β : Type} {ensures stronger : α → σ → Prop} {raises harder : ε → σ → Prop}

/-- What an outcome meets: one condition if it returned, another if it threw, and it did one of
them. -/
def Meets (ensures : α → σ → Prop) (raises : ε → σ → Prop) : Outcome ε σ α → Prop
  | .ok value state => ensures value state
  | .throw error state => raises error state
  | .undefined => False

/-- A weaker pair of conditions is met too. -/
theorem Meets.mono {outcome : Outcome ε σ α} (meets : outcome.Meets stronger harder)
    (ok : ∀ value state, stronger value state → ensures value state)
    (throw : ∀ error state, harder error state → raises error state) :
    outcome.Meets ensures raises := by
  cases outcome with
  | ok value state => exact ok value state meets
  | throw error state => exact throw error state meets
  | undefined => exact absurd meets id

/-- What meets a condition on what it returned, and returned. -/
theorem Meets.of_ok {outcome : Outcome ε σ α} {value : α} {state : σ}
    (meets : outcome.Meets ensures raises) (returned : outcome = .ok value state) :
    ensures value state := by
  subst returned
  exact meets

/-- What meets a condition on what it threw, and threw. -/
theorem Meets.of_throw {outcome : Outcome ε σ α} {error : ε} {state : σ}
    (meets : outcome.Meets ensures raises) (threw : outcome = .throw error state) :
    raises error state := by
  subst threw
  exact meets

end Outcome

namespace Exec

variable {ε σ τ α β : Type}

/-- Run a computation on a part of the state. -/
def onPart (part : StatePart σ τ) (computation : Exec ε τ α) : Exec ε σ α := ⟨fun state =>
  (computation.run (part.get state)).mapState fun value => part.set value state⟩

variable {raises : ε → σ → Prop}

/-- A sequence: the rest meets its conditions from wherever the first stage leads. -/
theorem meets_bind {ensures : β → σ → Prop} {between : α → σ → Prop} {first : Exec ε σ α}
    {next : α → Exec ε σ β} {state : σ} (early : (first.run state).Meets between raises)
    (late : ∀ value reached, between value reached →
      ((next value).run reached).Meets ensures raises) :
    ((first >>= next).run state).Meets ensures raises := by
  rw [bind_run]
  cases stage : first.run state with
  | ok value reached => exact late value reached (early.of_ok stage)
  | throw error reached => exact early.of_throw stage
  | undefined =>
    rw [stage] at early
    exact absurd early id

/-- A test throws when its condition holds, and otherwise changes nothing. -/
theorem meets_refuseIf {condition : Prop} [Decidable condition] {error : ε} {state : σ}
    (refused : condition → raises error state) :
    ((refuseIf condition error : Exec ε σ Unit).run state).Meets
      (fun _ reached => ¬condition ∧ reached = state) raises := by
  rw [refuseIf_run]
  by_cases holds : condition
  · rw [if_pos holds]
    exact refused holds
  · rw [if_neg holds]
    exact ⟨holds, rfl⟩

/-- A stage on a part replaces that part, whether it returns or throws. -/
theorem meets_onPart {part : StatePart σ τ} {ensures : α → τ → Prop} {raises : ε → τ → Prop}
    {computation : Exec ε τ α} {state : σ}
    (meets : (computation.run (part.get state)).Meets ensures raises) :
    ((onPart part computation).run state).Meets
      (fun value reached => ∃ content, ensures value content ∧ reached = part.set content state)
      fun error reached => ∃ content, raises error content ∧ reached = part.set content state := by
  unfold onPart
  cases stage : computation.run (part.get state) with
  | ok value content =>
    simp only [stage]
    exact ⟨content, meets.of_ok stage, rfl⟩
  | throw error content =>
    simp only [stage]
    exact ⟨content, meets.of_throw stage, rfl⟩
  | undefined =>
    rw [stage] at meets
    exact absurd meets id

/-- A last stage on a part that never throws. -/
theorem meets_last {part : StatePart σ τ} {result : τ → Prop} {stage : Exec ε τ Unit}
    {ensures : Unit → σ → Prop} {state : σ}
    (meets : (stage.run (part.get state)).Meets (fun _ content => result content)
      fun _ _ => False)
    (rest : ∀ content, result content → ensures () (part.set content state)) :
    ((onPart part stage).run state).Meets ensures raises := by
  apply (meets_onPart meets).mono
  · rintro _ _ ⟨content, stored, rfl⟩
    exact rest content stored
  · rintro _ _ ⟨_, impossible, _⟩
    exact absurd impossible id

/-- A stage on a part that accepts or throws, and what follows it. -/
theorem meets_stage {part : StatePart σ τ} {accepts : Prop} {result : τ → Prop}
    {stage : Exec ε τ Unit} {next : Unit → Exec ε σ β} {ensures : β → σ → Prop} {state : σ}
    (meets : (stage.run (part.get state)).Meets (fun _ content => accepts ∧ result content)
      fun _ _ => ¬accepts)
    (refused : ¬accepts → ∀ error content, raises error (part.set content state))
    (rest : accepts → ∀ content, result content →
      ((next ()).run (part.set content state)).Meets ensures raises) :
    ((onPart part stage >>= next).run state).Meets ensures raises := by
  apply meets_bind ((meets_onPart meets).mono (fun _ _ => id) ?_)
  · rintro _ _ ⟨content, ⟨right, stored⟩, rfl⟩
    exact rest right content stored
  · rintro error _ ⟨content, wrong, rfl⟩
    exact refused wrong error content

end Exec
