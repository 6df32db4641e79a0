import Mathlib.Logic.Basic
import Mathlib.Data.List.Basic

/-!
# Runs of a machine

A machine answers an input in a state with a new state and an output, or has no defined answer.
`Reaches` relates the states of a run whose inputs are all allowed where they are given; its
induction is packaged once as `Reaches.invariant`. `execute` computes a run.
-/

namespace Run

variable {σ ι ο : Type}

/-- `Reaches step allowed start finish`: a run from `start` to `finish` in which every input was
allowed in the state it met and had a defined answer. -/
inductive Reaches (step : σ → ι → Option (σ × ο)) (allowed : σ → ι → Prop) (start : σ) :
    σ → Prop
  /-- The empty run. -/
  | refl : Reaches step allowed start start
  /-- One more input. -/
  | tail {middle : σ} {input : ι} {finish : σ} {output : ο} :
      Reaches step allowed start middle → allowed middle input →
      step middle input = some (finish, output) → Reaches step allowed start finish

variable {step : σ → ι → Option (σ × ο)} {allowed : σ → ι → Prop} {start middle finish : σ}

/-- A property of the first state that every allowed step keeps holds of the last state. -/
theorem Reaches.invariant (run : Reaches step allowed start finish) (property : σ → Prop)
    (first : property start)
    (kept : ∀ state input next output, property state → allowed state input →
      step state input = some (next, output) → property next) : property finish := by
  induction run with
  | refl => exact first
  | tail _ permitted stepped ih => exact kept _ _ _ _ ih permitted stepped

/-- Two runs, one after the other, are a run. -/
theorem Reaches.trans (run : Reaches step allowed start middle)
    (later : Reaches step allowed middle finish) : Reaches step allowed start finish := by
  induction later with
  | refl => exact run
  | tail _ permitted stepped ih => exact .tail ih permitted stepped

/-- A run under a condition is a run under a weaker one. -/
theorem Reaches.weaken {weaker : σ → ι → Prop} (run : Reaches step allowed start finish)
    (weaken : ∀ state input, allowed state input → weaker state input) :
    Reaches step weaker start finish := by
  induction run with
  | refl => exact .refl
  | tail _ permitted stepped ih => exact .tail ih (weaken _ _ permitted) stepped

/-- Feed a list of inputs, collecting the outputs; `none` when one has no defined answer. -/
def execute (step : σ → ι → Option (σ × ο)) (state : σ) : List ι → Option (σ × List ο)
  | [] => some (state, [])
  | input :: rest =>
    match step state input with
    | none => none
    | some (next, output) =>
      match execute step next rest with
      | none => none
      | some (finish, outputs) => some (finish, output :: outputs)

/-- Every input of a list is allowed where it is fed. -/
def Permits (step : σ → ι → Option (σ × ο)) (allowed : σ → ι → Prop) (state : σ) : List ι → Prop
  | [] => True
  | input :: rest => allowed state input ∧
    match step state input with
    | none => True
    | some (next, _) => Permits step allowed next rest

instance decidablePermits (step : σ → ι → Option (σ × ο)) (allowed : σ → ι → Prop)
    [∀ state input, Decidable (allowed state input)] (state : σ) (inputs : List ι) :
    Decidable (Permits step allowed state inputs) :=
  match inputs with
  | [] => inferInstanceAs (Decidable True)
  | input :: rest =>
    match stepped : step state input with
    | none => decidable_of_iff (allowed state input) (by simp [Permits, stepped])
    | some (next, _) =>
      let _ := decidablePermits step allowed next rest
      decidable_of_iff (allowed state input ∧ Permits step allowed next rest)
        (by simp [Permits, stepped])

/-- A computed run takes its first input and then the rest. -/
theorem execute_cons {input : ι} {rest : List ι} {outputs : List ο}
    (executed : execute step start (input :: rest) = some (finish, outputs)) :
    ∃ next output others, step start input = some (next, output) ∧
      execute step next rest = some (finish, others) ∧ outputs = output :: others := by
  cases stepped : step start input with
  | none => simp [execute, stepped] at executed
  | some answer =>
    obtain ⟨next, output⟩ := answer
    cases later : execute step next rest with
    | none => simp [execute, stepped, later] at executed
    | some found =>
      obtain ⟨last, others⟩ := found
      simp only [execute, stepped, later, Option.some.injEq, Prod.mk.injEq] at executed
      obtain ⟨rfl, rfl⟩ := executed
      exact ⟨next, output, others, rfl, later, rfl⟩

/-- A computed run is a run. -/
theorem reaches_of_execute {inputs : List ι} {outputs : List ο}
    (executed : execute step start inputs = some (finish, outputs))
    (permitted : Permits step allowed start inputs) : Reaches step allowed start finish := by
  induction inputs generalizing start outputs with
  | nil =>
    simp only [execute, Option.some.injEq, Prod.mk.injEq] at executed
    rw [← executed.1]
    exact .refl
  | cons input rest ih =>
    obtain ⟨next, output, others, stepped, later, -⟩ := execute_cons executed
    simp only [Permits, stepped] at permitted
    have first : Reaches step allowed start next := .tail .refl permitted.1 stepped
    exact first.trans (ih later permitted.2)

/-- A condition that always holds permits any list. -/
theorem permits_of_forall (step : σ → ι → Option (σ × ο)) {allowed : σ → ι → Prop}
    (always : ∀ state input, allowed state input) (state : σ) (inputs : List ι) :
    Permits step allowed state inputs := by
  induction inputs generalizing state with
  | nil => trivial
  | cons input rest ih =>
    refine ⟨always state input, ?_⟩
    split
    · trivial
    · exact ih _

/-- What is computed of the end of a run holds of a state that the run reaches. -/
theorem exists_reaches {α : Type} (step : σ → ι → Option (σ × ο)) (allowed : σ → ι → Prop)
    (start : σ) (inputs : List ι) (permitted : Permits step allowed start inputs) (fact : σ → α)
    (value : α)
    (computed : (execute step start inputs).map (fun finish => fact finish.1) = some value) :
    ∃ finish, Reaches step allowed start finish ∧ fact finish = value := by
  obtain ⟨⟨finish, outputs⟩, executed, same⟩ := Option.map_eq_some_iff.mp computed
  exact ⟨finish, reaches_of_execute executed permitted, same⟩

end Run
