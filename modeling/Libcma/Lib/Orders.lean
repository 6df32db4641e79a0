import Libcma.Lib.Custody
import Libcma.Lib.Exec

/-!
# Computations that carry out orders

A `Custodian` reads a custody off the states of a computation and says which states are sound.
`Carries` says that a computation, when it returns, has performed a list of orders and left a sound
state; when it throws, it has performed the list up to a point where it was cut. The rules compose
the orders of a text from those of its lines, so that the accounting of a program is done once for
each primitive and read off the text for everything above.
-/

namespace Exec

variable {ε σ β γ τ α ν : Type} [DecidableEq τ]

/-- How the states of a computation keep custody. -/
structure Custodian (σ τ α ν : Type) where
  /-- What a state keeps. -/
  custody : σ → Custody τ α ν
  /-- The states that can be relied on. -/
  Sound : σ → Prop

open Custody

/-- A sound state in which the orders were performed since the start. -/
structure Advances (custodian : Custodian σ τ α ν) (start : σ) (orders : List (Order τ α ν))
    (now : σ) : Prop where
  /-- The state is sound. -/
  sound : custodian.Sound now
  /-- The orders lead from the custody at the start to the custody now. -/
  performs : Performs (custodian.custody start) orders (custodian.custody now)

/-- A sound state in which the orders were performed up to a point, and nothing was sent. -/
def Halts (custodian : Custodian σ τ α ν) (start : σ) (orders : List (Order τ α ν)) (now : σ) :
    Prop :=
  ∃ done, Cut done orders ∧ Silent done ∧ Advances custodian start done now

/-- The computation performs the orders, or throws after some of them. -/
def Carries (custodian : Custodian σ τ α ν) (orders : List (Order τ α ν))
    (computation : Exec ε σ β) (start : σ) (ensures : β → σ → Prop) : Prop :=
  (computation.run start).Satisfies
    (fun value now => Advances custodian start orders now ∧ ensures value now)
    fun _ now => Halts custodian start orders now

variable {custodian : Custodian σ τ α ν} {orders later : List (Order τ α ν)}
  {start middle now : σ}

/-- Nothing was done yet. -/
theorem Advances.idle (sound : custodian.Sound start) : Advances custodian start [] start :=
  ⟨sound, .done _⟩

/-- Orders and then more orders. -/
theorem Advances.trans (first : Advances custodian start orders middle)
    (second : Advances custodian middle later now) :
    Advances custodian start (orders ++ later) now :=
  ⟨second.sound, first.performs.append second.performs⟩

/-- Nothing was done, and nothing will be. -/
theorem Halts.idle (sound : custodian.Sound start) (orders : List (Order τ α ν)) :
    Halts custodian start orders start :=
  ⟨[], .stop orders, silent_nil, .idle sound⟩

/-- What was cut is cut before further orders too. -/
theorem Halts.append_right (halts : Halts custodian start orders now)
    (later : List (Order τ α ν)) : Halts custodian start (orders ++ later) now := by
  obtain ⟨done, cut, silent, advances⟩ := halts
  exact ⟨done, cut.append_right later, silent, advances⟩

/-- Orders that were performed and sent nothing, and then orders that were cut. -/
theorem Halts.append_left (first : Advances custodian start orders middle)
    (quiet : Silent orders) (halts : Halts custodian middle later now) :
    Halts custodian start (orders ++ later) now := by
  obtain ⟨done, cut, silent, advances⟩ := halts
  exact ⟨orders ++ done, cut.append_left orders, quiet.append silent, first.trans advances⟩

namespace Carries

variable {ensures weaker : β → σ → Prop}

/-- Ensure less. -/
theorem mono {computation : Exec ε σ β}
    (carries : Carries custodian orders computation start ensures)
    (weaken : ∀ value now, custodian.Sound now → ensures value now → weaker value now) :
    Carries custodian orders computation start weaker := by
  apply Outcome.Satisfies.mono carries
  · intro value now done
    exact ⟨done.1, weaken value now done.1.sound done.2⟩
  · exact fun _ _ halts => halts

/-- Returning does nothing. -/
theorem pure (sound : custodian.Sound start) {value : β} (ensured : ensures value start) :
    Carries custodian [] (Pure.pure value : Exec ε σ β) start ensures :=
  ⟨.idle sound, ensured⟩

/-- Throwing leaves everything undone. -/
theorem raise (sound : custodian.Sound start) (error : ε) :
    Carries custodian orders (Exec.raise error : Exec ε σ β) start ensures :=
  Halts.idle sound orders

/-- Reading does nothing. -/
theorem read (sound : custodian.Sound start) :
    Carries custodian [] (Exec.read : Exec ε σ σ) start fun value now =>
      value = start ∧ now = start :=
  ⟨.idle sound, rfl, rfl⟩

/-- A test does nothing, and what comes after it was not refused. -/
theorem refuseIf (sound : custodian.Sound start) (condition : Prop) [Decidable condition]
    (error : ε) :
    Carries custodian [] (Exec.refuseIf condition error : Exec ε σ Unit) start fun _ now =>
      ¬condition ∧ now = start := by
  unfold Carries
  rw [refuseIf_run]
  by_cases refused : condition
  · rw [if_pos refused]
    exact Halts.idle sound []
  · rw [if_neg refused]
    exact ⟨.idle sound, refused, rfl⟩

/-- An option that has a value. -/
theorem orUndefined (sound : custodian.Sound start) (value : Option β) :
    Carries custodian [] (Exec.orUndefined value : Exec ε σ β) start fun found now =>
      value = some found ∧ now = start := by
  cases value with
  | none => trivial
  | some found => exact ⟨.idle sound, rfl, rfl⟩

/-- An option that has a value, or a throw. -/
theorem orRaise (sound : custodian.Sound start) (value : Option β) (error : ε) :
    Carries custodian [] (Exec.orRaise value error : Exec ε σ β) start fun found now =>
      value = some found ∧ now = start := by
  cases value with
  | none => exact Halts.idle sound []
  | some found => exact ⟨.idle sound, rfl, rfl⟩

/-- The orders of a sequence are those of its parts; nothing is sent before its end. -/
theorem bind {first : Exec ε σ β} {next : β → Exec ε σ γ} {middle : β → σ → Prop}
    {ensures : γ → σ → Prop} (early : Carries custodian orders first start middle)
    (quiet : Silent orders) (late : ∀ value now, custodian.Sound now → middle value now →
      Carries custodian later (next value) now ensures) :
    Carries custodian (orders ++ later) (first >>= next) start ensures := by
  unfold Carries
  rw [satisfies_bind]
  apply Outcome.Satisfies.mono early
  · intro value now done
    apply Outcome.Satisfies.mono (late value now done.1.sound done.2)
    · exact fun _ _ rest => ⟨done.1.trans rest.1, rest.2⟩
    · exact fun _ _ halts => .append_left done.1 quiet halts
  · exact fun _ _ halts => halts.append_right later

/-- A line that does nothing, before the lines that carry out the orders. -/
theorem silent {first : Exec ε σ β} {next : β → Exec ε σ γ} {middle : β → σ → Prop}
    {ensures : γ → σ → Prop} (early : Carries custodian [] first start middle)
    (late : ∀ value now, custodian.Sound now → middle value now →
      Carries custodian orders (next value) now ensures) :
    Carries custodian orders (first >>= next) start ensures :=
  early.bind silent_nil late

/-- Lines that do nothing, after those that carry out the orders. -/
theorem settled {first : Exec ε σ β} {next : β → Exec ε σ γ} {middle : β → σ → Prop}
    {ensures : γ → σ → Prop} (early : Carries custodian orders first start middle)
    (quiet : Silent orders) (late : ∀ value now, custodian.Sound now → middle value now →
      Carries custodian [] (next value) now ensures) :
    Carries custodian orders (first >>= next) start ensures :=
  List.append_nil orders ▸ early.bind quiet late

/-- A branch. -/
theorem ite {condition : Prop} [Decidable condition] {left right : Exec ε σ β}
    (first : condition → Carries custodian orders left start ensures)
    (second : ¬condition → Carries custodian orders right start ensures) :
    Carries custodian orders (if condition then left else right) start ensures := by
  by_cases holds : condition
  · rw [if_pos holds]
    exact first holds
  · rw [if_neg holds]
    exact second holds

end Carries

end Exec
