import Libcma.Lib.Exec

/-!
# Two runs side by side

One text is run from two states that correspond without being equal. `Outcome.Alike` compares how
the runs end: both returned the same value, or both threw the same error, and the states they leave
correspond. Where one of the two runs is undefined there is nothing to compare.

`Exec.Twins` says that two texts end alike from all corresponding states; its rules follow the
structure of the texts.
-/

namespace Outcome

variable {ε σ τ α β : Type}

/-- Two outcomes are alike: the same value in states related by `returned`, or the same error in
states related by `thrown`. -/
inductive Alike (returned : α → σ → τ → Prop) (thrown : σ → τ → Prop) :
    Outcome ε σ α → Outcome ε τ α → Prop
  /-- Both returned. -/
  | ok (value : α) {left : σ} {right : τ} (states : returned value left right) :
      Alike returned thrown (.ok value left) (.ok value right)
  /-- Both threw. -/
  | throw (error : ε) {left : σ} {right : τ} (states : thrown left right) :
      Alike returned thrown (.throw error left) (.throw error right)
  /-- The left run has no end. -/
  | leftUndefined (right : Outcome ε τ α) : Alike returned thrown .undefined right
  /-- The right run has no end. -/
  | rightUndefined (left : Outcome ε σ α) : Alike returned thrown left .undefined

variable {returned weaker : α → σ → τ → Prop} {thrown milder : σ → τ → Prop}
  {left : Outcome ε σ α} {right : Outcome ε τ α}

/-- Weaker relations hold too. -/
theorem Alike.mono (alike : left.Alike returned thrown right)
    (ok : ∀ value one two, returned value one two → weaker value one two)
    (throw : ∀ one two, thrown one two → milder one two) : left.Alike weaker milder right := by
  cases alike with
  | ok value states => exact .ok value (ok _ _ _ states)
  | throw error states => exact .throw error (throw _ _ states)
  | leftUndefined => exact .leftUndefined _
  | rightUndefined => exact .rightUndefined _

/-- What the left run ensures holds of the value both returned. -/
theorem Alike.ensuring {ensures : α → σ → Prop} {raises : ε → σ → Prop}
    (alike : left.Alike returned thrown right) (satisfies : left.Satisfies ensures raises) :
    left.Alike (fun value one two => returned value one two ∧ ensures value one) thrown right := by
  cases alike with
  | ok value states => exact .ok value ⟨states, satisfies⟩
  | throw error states => exact .throw error states
  | leftUndefined => exact .leftUndefined _
  | rightUndefined => exact .rightUndefined _

end Outcome

namespace Exec

variable {ε σ τ π ρ α β : Type}

section Alike

variable {one : σ} {two : τ} {returned : β → σ → τ → Prop} {thrown : σ → τ → Prop}

/-- Runs that are alike, continued by runs that are alike from the states reached. -/
theorem alike_bind {reached : α → σ → τ → Prop} {first : Exec ε σ α} {twin : Exec ε τ α}
    {next : α → Exec ε σ β} {other : α → Exec ε τ β}
    (alike : (first.run one).Alike reached thrown (twin.run two))
    (rest : ∀ value middle met, reached value middle met →
      ((next value).run middle).Alike returned thrown ((other value).run met)) :
    ((first >>= next).run one).Alike returned thrown ((twin >>= other).run two) := by
  rw [bind_run, bind_run]
  generalize first.run one = left at alike
  generalize twin.run two = right at alike
  cases alike with
  | ok value states => exact rest value _ _ states
  | throw error states => exact .throw error states
  | leftUndefined => exact .leftUndefined _
  | rightUndefined => exact .rightUndefined _

/-- The same test on both sides. -/
theorem alike_refuseIf {condition likewise : Prop} [Decidable condition] [Decidable likewise]
    (same : condition ↔ likewise) (error : ε) {returned : Unit → σ → τ → Prop}
    (passes : ¬condition → returned () one two) (fails : condition → thrown one two) :
    ((refuseIf condition error : Exec ε σ Unit).run one).Alike returned thrown
      ((refuseIf likewise error : Exec ε τ Unit).run two) := by
  rw [refuseIf_run, refuseIf_run]
  by_cases holds : condition
  · rw [if_pos holds, if_pos (same.mp holds)]
    exact .throw error (fails holds)
  · rw [if_neg holds, if_neg (mt same.mpr holds)]
    exact .ok () (passes holds)

/-- Runs on the first part of two pairs. -/
theorem alike_onFirst {first : Exec ε σ α} {twin : Exec ε τ α} {returned : α → σ → τ → Prop}
    (alike : (first.run one).Alike returned thrown (twin.run two)) (left : π) (right : ρ) :
    ((onFirst first).run (one, left)).Alike
      (fun value start finish => returned value start.1 finish.1 ∧ start.2 = left ∧
        finish.2 = right)
      (fun start finish => thrown start.1 finish.1 ∧ start.2 = left ∧ finish.2 = right)
      ((onFirst twin).run (two, right)) := by
  rw [onFirst_run, onFirst_run]
  generalize first.run one = start at alike
  generalize twin.run two = finish at alike
  cases alike with
  | ok value states => exact .ok value ⟨states, rfl, rfl⟩
  | throw error states => exact .throw error ⟨states, rfl, rfl⟩
  | leftUndefined => exact .leftUndefined _
  | rightUndefined => exact .rightUndefined _

end Alike

/-- From corresponding states, two computations end alike. -/
def Twins (related : σ → τ → Prop) (left : Exec ε σ α) (right : Exec ε τ α) : Prop :=
  ∀ one two, related one two →
    (left.run one).Alike (fun _ => related) related (right.run two)

namespace Twins

variable {related : σ → τ → Prop}

theorem pure (value : α) : Twins related (Pure.pure value : Exec ε σ α) (Pure.pure value) :=
  fun _ _ states => .ok value states

theorem refuseIf (condition : Prop) [Decidable condition] {likewise : Prop} [Decidable likewise]
    (same : condition ↔ likewise) (error : ε) :
    Twins related (Exec.refuseIf condition error) (Exec.refuseIf likewise error) :=
  fun _ _ states => alike_refuseIf same error (fun _ => states) fun _ => states

theorem orRaise (value : Option α) (error : ε) :
    Twins related (Exec.orRaise value error) (Exec.orRaise value error) := by
  cases value with
  | none => exact fun _ _ states => .throw error states
  | some found => exact pure found

/-- The same value on both sides, where there is one. -/
theorem orUndefined {value other : Option α}
    (same : ∀ one two, value = some one → other = some two → one = two) :
    Twins related (Exec.orUndefined value : Exec ε σ α) (Exec.orUndefined other) := by
  intro start finish states
  cases value with
  | none => exact .leftUndefined _
  | some one =>
    cases other with
    | none => exact .rightUndefined _
    | some two =>
      obtain rfl := same one two rfl rfl
      exact .ok one states

/-- Two texts that are twins, and what follows them. -/
theorem bind {left : Exec ε σ α} {right : Exec ε τ α} {next : α → Exec ε σ β}
    {other : α → Exec ε τ β} (first : Twins related left right)
    (rest : ∀ value, Twins related (next value) (other value)) :
    Twins related (left >>= next) (right >>= other) :=
  fun one two states => alike_bind (first one two states) rest

end Twins

end Exec
