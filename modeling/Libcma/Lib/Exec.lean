import Mathlib.Logic.Basic
import Mathlib.Order.Basic

/-!
# Computations that keep their state when they throw

A computation reads and writes a state and ends in one of three ways: with a value, with a thrown
error, or with undefined behaviour. As in C++, a throw undoes nothing: the state it leaves is
part of its outcome. Undefined behaviour has no outcome at all, so nothing is claimed after it.

`Outcome.Satisfies` says what a computation ensures; the rules `satisfies_*` compute what a text
ensures from its last line back. `Exec.Total` says that a computation is never undefined.
`Exec.Simulates` compares two computations over different states; its rules follow the structure
of the computations, so that two texts that read alike are compared line by line.
-/

/-- How a computation ends. The state reached survives a throw. -/
inductive Outcome (ε σ α : Type) where
  /-- The computation returned a value. -/
  | ok (value : α) (state : σ)
  /-- The computation threw; what it wrote before stays written. -/
  | throw (error : ε) (state : σ)
  /-- The computation has undefined behaviour. -/
  | undefined

/-- A computation over a state `σ` with errors `ε` and results `α`. -/
structure Exec (ε σ α : Type) where
  /-- Run the computation from a state. -/
  run : σ → Outcome ε σ α

namespace Outcome

variable {ε σ τ α β : Type}

/-- Continue with the value of a computation that returned. -/
def andThen (outcome : Outcome ε σ α) (next : α → Exec ε σ β) : Outcome ε σ β :=
  match outcome with
  | .ok value state => (next value).run state
  | .throw error state => .throw error state
  | .undefined => .undefined

@[simp] theorem andThen_ok (value : α) (state : σ) (next : α → Exec ε σ β) :
    (Outcome.ok value state : Outcome ε σ α).andThen next = (next value).run state := rfl

@[simp] theorem andThen_throw (error : ε) (state : σ) (next : α → Exec ε σ β) :
    (Outcome.throw error state : Outcome ε σ α).andThen next = .throw error state := rfl

@[simp] theorem andThen_undefined (next : α → Exec ε σ β) :
    (Outcome.undefined : Outcome ε σ α).andThen next = .undefined := rfl

/-- A continuation that returned, returned from what the computation returned. -/
theorem andThen_eq_ok {outcome : Outcome ε σ α} {next : α → Exec ε σ β} {result : β} {last : σ}
    (returns : outcome.andThen next = .ok result last) :
    ∃ value state, outcome = .ok value state ∧ (next value).run state = .ok result last := by
  cases outcome with
  | ok value state => exact ⟨value, state, rfl, returns⟩
  | throw error state => cases returns
  | undefined => cases returns

/-- Rename the state an outcome carries. -/
def mapState (rename : σ → τ) : Outcome ε σ α → Outcome ε τ α
  | .ok value state => .ok value (rename state)
  | .throw error state => .throw error (rename state)
  | .undefined => .undefined

@[simp] theorem mapState_ok (rename : σ → τ) (value : α) (state : σ) :
    (Outcome.ok value state : Outcome ε σ α).mapState rename = .ok value (rename state) := rfl

@[simp] theorem mapState_throw (rename : σ → τ) (error : ε) (state : σ) :
    (Outcome.throw error state : Outcome ε σ α).mapState rename = .throw error (rename state) := rfl

@[simp] theorem mapState_undefined (rename : σ → τ) :
    (Outcome.undefined : Outcome ε σ α).mapState rename = .undefined := rfl

/-- An outcome that returned after renaming, returned before. -/
theorem mapState_eq_ok {rename : σ → τ} {outcome : Outcome ε σ α} {value : α} {last : τ}
    (returns : outcome.mapState rename = .ok value last) :
    ∃ state, outcome = .ok value state ∧ rename state = last := by
  cases outcome with
  | ok result state =>
    cases returns
    exact ⟨state, rfl, rfl⟩
  | throw error state => cases returns
  | undefined => cases returns

/-- What an outcome satisfies: one condition if it returned, another if it threw. Nothing is
required of undefined behaviour. -/
def Satisfies (ensures : α → σ → Prop) (raises : ε → σ → Prop) : Outcome ε σ α → Prop
  | .ok value state => ensures value state
  | .throw error state => raises error state
  | .undefined => True

instance (ensures : α → σ → Prop) (raises : ε → σ → Prop) (outcome : Outcome ε σ α)
    [∀ value state, Decidable (ensures value state)]
    [∀ error state, Decidable (raises error state)] :
    Decidable (outcome.Satisfies ensures raises) :=
  match outcome with
  | .ok value state => inferInstanceAs (Decidable (ensures value state))
  | .throw error state => inferInstanceAs (Decidable (raises error state))
  | .undefined => inferInstanceAs (Decidable True)

theorem satisfies_ok (ensures : α → σ → Prop) (raises : ε → σ → Prop) (value : α) (state : σ) :
    (Outcome.ok value state).Satisfies ensures raises ↔ ensures value state := .rfl

/-- A weaker pair of conditions is satisfied too. -/
theorem Satisfies.mono {ensures weaker : α → σ → Prop} {raises milder : ε → σ → Prop}
    {outcome : Outcome ε σ α} (satisfies : outcome.Satisfies ensures raises)
    (ok : ∀ value state, ensures value state → weaker value state)
    (throw : ∀ error state, raises error state → milder error state) :
    outcome.Satisfies weaker milder := by
  cases outcome with
  | ok value state => exact ok value state satisfies
  | throw error state => exact throw error state satisfies
  | undefined => trivial

/-- Two pairs of conditions are satisfied together. -/
theorem Satisfies.and {ensures ensured : α → σ → Prop} {raises raised : ε → σ → Prop}
    {outcome : Outcome ε σ α} (first : outcome.Satisfies ensures raises)
    (second : outcome.Satisfies ensured raised) :
    outcome.Satisfies (fun value state => ensures value state ∧ ensured value state)
      fun error state => raises error state ∧ raised error state := by
  cases outcome with
  | ok value state => exact ⟨first, second⟩
  | throw error state => exact ⟨first, second⟩
  | undefined => trivial

/-- The outcome is not undefined behaviour. -/
def Defined : Outcome ε σ α → Prop
  | .ok _ _ => True
  | .throw _ _ => True
  | .undefined => False

/-- A defined outcome has a state, and what it satisfies on either side holds there. -/
theorem Satisfies.exists_state {condition : σ → Prop} {outcome : Outcome ε σ α}
    (satisfies : outcome.Satisfies (fun _ state => condition state) fun _ state => condition state)
    (defined : outcome.Defined) : ∃ state, condition state := by
  cases outcome with
  | ok value state => exact ⟨state, satisfies⟩
  | throw error state => exact ⟨state, satisfies⟩
  | undefined => exact absurd defined id

/-- Renaming the state defines nothing and undefines nothing. -/
@[simp] theorem defined_mapState (rename : σ → τ) (outcome : Outcome ε σ α) :
    (outcome.mapState rename).Defined ↔ outcome.Defined := by
  cases outcome <;> rfl

/-- Two outcomes agree: the same value or error in related states. The right one may also have
thrown an error that excuses it. -/
inductive Agree (related : σ → τ → Prop) (excused : ε → Prop) :
    Outcome ε σ α → Outcome ε τ α → Prop
  | ok (value : α) {left : σ} {right : τ} (states : related left right) :
      Agree related excused (.ok value left) (.ok value right)
  | throw (error : ε) {left : σ} {right : τ} (states : related left right) :
      Agree related excused (.throw error left) (.throw error right)
  | undefined : Agree related excused .undefined .undefined
  | excuse (outcome : Outcome ε σ α) (error : ε) (right : τ) (permitted : excused error) :
      Agree related excused outcome (.throw error right)

end Outcome

namespace Exec

variable {ε σ τ α β : Type}

instance : Monad (Exec ε σ) where
  pure value := ⟨fun state => .ok value state⟩
  bind first next := ⟨fun state => (first.run state).andThen next⟩

/-- Throw an error, leaving the state as it is. -/
def raise (error : ε) : Exec ε σ α := ⟨fun state => .throw error state⟩

/-- Read the state. -/
def read : Exec ε σ σ := ⟨fun state => .ok state state⟩

/-- Rewrite the state. -/
def update (change : σ → σ) : Exec ε σ Unit := ⟨fun state => .ok () (change state)⟩

/-- Refuse with an error when a condition holds. -/
def refuseIf (condition : Prop) [Decidable condition] (error : ε) : Exec ε σ Unit :=
  if condition then raise error else pure ()

/-- The value of an option; an error when there is none. -/
def orRaise (value : Option α) (error : ε) : Exec ε σ α :=
  match value with
  | some found => pure found
  | none => raise error

/-- The value of an option; undefined behaviour when there is none. -/
def orUndefined (value : Option α) : Exec ε σ α := ⟨fun state =>
  match value with
  | some found => .ok found state
  | none => .undefined⟩

/-- Run a computation on the first part of a pair. -/
def onFirst (computation : Exec ε σ α) : Exec ε (σ × τ) α := ⟨fun state =>
  (computation.run state.1).mapState fun first => (first, state.2)⟩

@[simp] theorem pure_run (value : α) (state : σ) :
    (pure value : Exec ε σ α).run state = .ok value state := rfl

@[simp] theorem bind_run (first : Exec ε σ α) (next : α → Exec ε σ β) (state : σ) :
    (first >>= next).run state = (first.run state).andThen next := rfl

@[simp] theorem raise_run (error : ε) (state : σ) :
    (raise error : Exec ε σ α).run state = .throw error state := rfl

@[simp] theorem read_run (state : σ) : (read : Exec ε σ σ).run state = .ok state state := rfl

@[simp] theorem update_run (change : σ → σ) (state : σ) :
    (update change : Exec ε σ Unit).run state = .ok () (change state) := rfl

@[simp] theorem onFirst_run (computation : Exec ε σ α) (state : σ × τ) :
    (onFirst computation).run state =
      (computation.run state.1).mapState fun first => (first, state.2) := rfl

@[simp] theorem refuseIf_run (condition : Prop) [Decidable condition] (error : ε) (state : σ) :
    (refuseIf condition error : Exec ε σ Unit).run state =
      if condition then .throw error state else .ok () state := by
  unfold refuseIf
  split <;> rfl

/-- A test that returned was passed, and changed nothing. -/
theorem refuseIf_eq_ok {condition : Prop} [Decidable condition] {error : ε} {state last : σ}
    {value : Unit}
    (returns : (refuseIf condition error : Exec ε σ Unit).run state = .ok value last) :
    ¬condition ∧ last = state := by
  rw [refuseIf_run] at returns
  by_cases holds : condition
  · rw [if_pos holds] at returns
    cases returns
  · rw [if_neg holds] at returns
    cases returns
    exact ⟨holds, rfl⟩

@[simp] theorem orRaise_some (found : α) (error : ε) :
    (orRaise (some found) error : Exec ε σ α) = pure found := rfl

@[simp] theorem orRaise_none (error : ε) :
    (orRaise none error : Exec ε σ α) = raise error := rfl

@[simp] theorem orUndefined_some (found : α) :
    (orUndefined (some found) : Exec ε σ α) = pure found := rfl

@[simp] theorem orUndefined_none (state : σ) :
    (orUndefined none : Exec ε σ α).run state = .undefined := rfl

/-- Two continuations that run alike wherever the first computation leads. -/
theorem bind_run_congr {first : Exec ε σ α} {next other : α → Exec ε σ β} {state : σ}
    (alike : ∀ value reached, first.run state = .ok value reached →
      (next value).run reached = (other value).run reached) :
    (first >>= next).run state = (first >>= other).run state := by
  rw [bind_run, bind_run]
  cases leads : first.run state with
  | ok value reached => exact alike value reached leads
  | throw error reached => rfl
  | undefined => rfl

section Triples

variable (ensures : α → σ → Prop) (raises : ε → σ → Prop)

theorem satisfies_pure (value : α) (state : σ) :
    ((pure value : Exec ε σ α).run state).Satisfies ensures raises ↔ ensures value state := .rfl

theorem satisfies_read (ensures : σ → σ → Prop) (state : σ) :
    ((read : Exec ε σ σ).run state).Satisfies ensures raises ↔ ensures state state := .rfl

theorem satisfies_update (ensures : Unit → σ → Prop) (change : σ → σ) (state : σ) :
    ((update change : Exec ε σ Unit).run state).Satisfies ensures raises ↔
      ensures () (change state) := .rfl

/-- What the first computation must ensure is what the rest needs. -/
theorem satisfies_bind (ensures : β → σ → Prop) (first : Exec ε σ α) (next : α → Exec ε σ β)
    (state : σ) :
    ((first >>= next).run state).Satisfies ensures raises ↔
      (first.run state).Satisfies
        (fun value reached => ((next value).run reached).Satisfies ensures raises) raises := by
  rw [bind_run]
  cases first.run state <;> rfl

theorem satisfies_refuseIf (ensures : Unit → σ → Prop) (condition : Prop) [Decidable condition]
    (error : ε) (state : σ) :
    ((refuseIf condition error : Exec ε σ Unit).run state).Satisfies ensures raises ↔
      (condition → raises error state) ∧ (¬condition → ensures () state) := by
  rw [refuseIf_run]
  by_cases holds : condition <;> simp [holds, Outcome.Satisfies]

theorem satisfies_orRaise (value : Option α) (error : ε) (state : σ) :
    ((orRaise value error : Exec ε σ α).run state).Satisfies ensures raises ↔
      (value = none → raises error state) ∧ ∀ found, value = some found → ensures found state := by
  cases value <;> simp [Outcome.Satisfies]

theorem satisfies_orUndefined (value : Option α) (state : σ) :
    ((orUndefined value : Exec ε σ α).run state).Satisfies ensures raises ↔
      ∀ found, value = some found → ensures found state := by
  cases value <;> simp [Outcome.Satisfies]

theorem satisfies_onFirst (ensures : α → σ × τ → Prop) (raises : ε → σ × τ → Prop)
    (computation : Exec ε σ α) (state : σ × τ) :
    ((onFirst computation).run state).Satisfies ensures raises ↔
      (computation.run state.1).Satisfies (fun value first => ensures value (first, state.2))
        fun error first => raises error (first, state.2) := by
  rw [onFirst_run]
  cases computation.run state.1 <;> rfl

theorem satisfies_ite (condition : Prop) [Decidable condition] (left right : Exec ε σ α)
    (state : σ) :
    ((if condition then left else right).run state).Satisfies ensures raises ↔
      (condition → (left.run state).Satisfies ensures raises) ∧
        (¬condition → (right.run state).Satisfies ensures raises) := by
  by_cases holds : condition <;> simp [holds]

theorem defined_pure (value : α) (state : σ) :
    ((pure value : Exec ε σ α).run state).Defined := trivial

theorem defined_raise (error : ε) (state : σ) :
    ((raise error : Exec ε σ α).run state).Defined := trivial

theorem defined_read (state : σ) : ((read : Exec ε σ σ).run state).Defined := trivial

theorem defined_update (change : σ → σ) (state : σ) :
    ((update change : Exec ε σ Unit).run state).Defined := trivial

theorem defined_refuseIf (condition : Prop) [Decidable condition] (error : ε) (state : σ) :
    ((refuseIf condition error : Exec ε σ Unit).run state).Defined := by
  rw [refuseIf_run]
  split <;> trivial

theorem defined_orRaise (value : Option α) (error : ε) (state : σ) :
    ((orRaise value error : Exec ε σ α).run state).Defined := by
  cases value <;> trivial

theorem defined_orUndefined (value : Option α) (state : σ) :
    ((orUndefined value : Exec ε σ α).run state).Defined ↔ value.isSome := by
  cases value <;> simp [Outcome.Defined]

/-- A sequence is defined when its first part is and leads where the rest is. -/
theorem defined_bind (first : Exec ε σ α) (next : α → Exec ε σ β) (state : σ) :
    ((first >>= next).run state).Defined ↔ (first.run state).Defined ∧
      (first.run state).Satisfies (fun value reached => ((next value).run reached).Defined)
        fun _ _ => True := by
  rw [bind_run]
  cases first.run state <;> simp [Outcome.Defined, Outcome.Satisfies]

end Triples

/-- The computation is defined from every state. -/
def Total (computation : Exec ε σ α) : Prop := ∀ state, (computation.run state).Defined

namespace Total

theorem pure (value : α) : Total (Pure.pure value : Exec ε σ α) := defined_pure value

theorem raise (error : ε) : Total (Exec.raise error : Exec ε σ α) := defined_raise error

theorem read : Total (Exec.read : Exec ε σ σ) := defined_read

theorem update (change : σ → σ) : Total (Exec.update change : Exec ε σ Unit) :=
  defined_update change

theorem refuseIf (condition : Prop) [Decidable condition] (error : ε) :
    Total (Exec.refuseIf condition error : Exec ε σ Unit) := defined_refuseIf condition error

theorem orRaise (value : Option α) (error : ε) : Total (Exec.orRaise value error : Exec ε σ α) :=
  defined_orRaise value error

/-- A sequence of total computations. -/
theorem bind {first : Exec ε σ α} {next : α → Exec ε σ β} (total : Total first)
    (rest : ∀ value, Total (next value)) : Total (first >>= next) := by
  intro state
  refine (defined_bind first next state).mpr ⟨total state, ?_⟩
  cases first.run state with
  | ok value reached => exact rest value reached
  | throw error reached => trivial
  | undefined => trivial

theorem ite (condition : Prop) [Decidable condition] {left right : Exec ε σ α}
    (first : Total left) (second : Total right) : Total (if condition then left else right) := by
  split
  · exact first
  · exact second

theorem onFirst {computation : Exec ε σ α} (total : Total computation) :
    Total (Exec.onFirst computation : Exec ε (σ × τ) α) := by
  intro state
  rw [onFirst_run, Outcome.defined_mapState]
  exact total state.1

end Total

/-- Every error the computation raises is allowed. -/
def Raises (allowed : ε → Prop) (computation : Exec ε σ α) : Prop :=
  ∀ state, (computation.run state).Satisfies (fun _ _ => True) fun error _ => allowed error

namespace Raises

variable {allowed : ε → Prop}

theorem pure (value : α) : Raises allowed (Pure.pure value : Exec ε σ α) := fun _ => trivial

theorem raise {error : ε} (permitted : allowed error) :
    Raises allowed (Exec.raise error : Exec ε σ α) := fun _ => permitted

theorem read : Raises allowed (Exec.read : Exec ε σ σ) := fun _ => trivial

theorem update (change : σ → σ) : Raises allowed (Exec.update change : Exec ε σ Unit) :=
  fun _ => trivial

theorem refuseIf (condition : Prop) [Decidable condition] {error : ε} (permitted : allowed error) :
    Raises allowed (Exec.refuseIf condition error : Exec ε σ Unit) := by
  unfold Exec.refuseIf
  split
  · exact raise permitted
  · exact pure ()

theorem orRaise (value : Option α) {error : ε} (permitted : allowed error) :
    Raises allowed (Exec.orRaise value error : Exec ε σ α) := by
  cases value with
  | none => exact raise permitted
  | some found => exact pure found

theorem orUndefined (value : Option α) :
    Raises allowed (Exec.orUndefined value : Exec ε σ α) := by
  cases value with
  | none => exact fun _ => trivial
  | some found => exact pure found

/-- A sequence raises what its parts raise. -/
theorem bind {first : Exec ε σ α} {next : α → Exec ε σ β} (early : Raises allowed first)
    (late : ∀ value, Raises allowed (next value)) : Raises allowed (first >>= next) := by
  intro state
  rw [satisfies_bind]
  apply (early state).mono
  · exact fun value reached _ => late value reached
  · exact fun _ _ permitted => permitted

theorem ite (condition : Prop) [Decidable condition] {left right : Exec ε σ α}
    (first : Raises allowed left) (second : Raises allowed right) :
    Raises allowed (if condition then left else right) := by
  split
  · exact first
  · exact second

/-- Two branches that go on alike raise what they and the rest raise. -/
theorem branch (condition : Prop) [Decidable condition] {left right : Exec ε σ α}
    {next : α → Exec ε σ β} (first : Raises allowed left) (second : Raises allowed right)
    (late : ∀ value, Raises allowed (next value)) :
    Raises allowed (if condition then left >>= next else right >>= next) :=
  ite condition (bind first late) (bind second late)

/-- A branch that may be skipped. -/
theorem optional (condition : Prop) [Decidable condition] {first : Exec ε σ Unit}
    {next : Unit → Exec ε σ β} (early : Raises allowed first)
    (late : ∀ value, Raises allowed (next value)) :
    Raises allowed (if condition then first >>= next else next ()) :=
  ite condition (bind early late) (late ())

theorem onFirst {computation : Exec ε σ α} (raises : Raises allowed computation) :
    Raises allowed (Exec.onFirst computation : Exec ε (σ × τ) α) := by
  intro state
  rw [satisfies_onFirst]
  exact raises state.1

end Raises

/-- Agreeing outcomes, followed by computations that agree from the states they end in. -/
theorem agree_andThen {related after : σ → τ → Prop} {excused : ε → Prop}
    {left : Outcome ε σ α} {right : Outcome ε τ α} {next : α → Exec ε σ β} {other : α → Exec ε τ β}
    (first : left.Agree related excused right)
    (error : ∀ one two, related one two → after one two)
    (rest : ∀ value one two, related one two →
      ((next value).run one).Agree after excused ((other value).run two)) :
    (left.andThen next).Agree after excused (right.andThen other) := by
  cases first with
  | ok value states => exact rest value _ _ states
  | throw raised states => exact .throw raised (error _ _ states)
  | undefined => exact .undefined
  | excuse _ raised _ permitted => exact .excuse _ raised _ permitted

/-- From related states, two computations agree. -/
def Simulates (related : σ → τ → Prop) (excused : ε → Prop) (left : Exec ε σ α)
    (right : Exec ε τ α) : Prop :=
  ∀ first second, related first second →
    (left.run first).Agree related excused (right.run second)

namespace Simulates

variable {related : σ → τ → Prop} {excused : ε → Prop}

theorem pure (value : α) :
    Simulates related excused (Pure.pure value) (Pure.pure value : Exec ε τ α) :=
  fun _ _ states => .ok value states

theorem raise (error : ε) :
    Simulates related excused (Exec.raise error) (Exec.raise error : Exec ε τ α) :=
  fun _ _ states => .throw error states

theorem refuseIf (condition : Prop) [Decidable condition] (error : ε) :
    Simulates related excused (Exec.refuseIf condition error)
      (Exec.refuseIf condition error) := by
  unfold Exec.refuseIf
  split
  · exact raise error
  · exact pure ()

theorem orRaise (value : Option α) (error : ε) :
    Simulates related excused (Exec.orRaise value error) (Exec.orRaise value error) := by
  cases value with
  | none => exact raise error
  | some found => exact pure found

theorem orUndefined (value : Option α) :
    Simulates related excused (Exec.orUndefined value)
      (Exec.orUndefined value : Exec ε τ α) := by
  cases value with
  | none => exact fun _ _ _ => .undefined
  | some found => exact pure found

/-- Agreeing computations, followed by agreeing computations. -/
theorem bind {left : Exec ε σ α} {right : Exec ε τ α} {next : α → Exec ε σ β}
    {other : α → Exec ε τ β} (first : Simulates related excused left right)
    (rest : ∀ value, Simulates related excused (next value) (other value)) :
    Simulates related excused (left >>= next) (right >>= other) := by
  intro one two states
  exact agree_andThen (first one two states) (fun _ _ => id) rest

end Simulates

end Exec
