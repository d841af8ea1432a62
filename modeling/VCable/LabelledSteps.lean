import Mathlib.Tactic.Common

/-!
# Reachability by labelled steps

A machine given by a partial step function on states and actions.  An action
that is not enabled in a state has no step.  An invariant of the initial state
that every enabled step preserves holds in every state of every run.
-/

namespace LabelledSteps

variable {σ α ω : Type*}

/-- The states of the runs of `step` from `start`, over all sequences of
actions. -/
inductive Reachable (step : σ → α → Option (σ × ω)) (start : σ) : σ → Prop where
  | start : Reachable step start start
  | step {state next : σ} {action : α} {output : ω} (earlier : Reachable step start state)
      (taken : step state action = some (next, output)) : Reachable step start next

/-- A property that holds at the start and is kept by every step. -/
structure Invariant (step : σ → α → Option (σ × ω)) (start : σ) (holds : σ → Prop) : Prop where
  start : holds start
  step : ∀ {state next : σ} {action : α} {output : ω}, holds state →
    step state action = some (next, output) → holds next

theorem Invariant.reachable {step : σ → α → Option (σ × ω)} {start : σ} {holds : σ → Prop}
    (invariant : Invariant step start holds) {state : σ}
    (reached : Reachable step start state) : holds state := by
  induction reached with
  | start => exact invariant.start
  | step _ taken ih => exact invariant.step ih taken

/-- An invariant may be used to show that the steps keep another property. -/
theorem Invariant.and {step : σ → α → Option (σ × ω)} {start : σ} {holds further : σ → Prop}
    (invariant : Invariant step start holds) (first : further start)
    (keeps : ∀ {state next : σ} {action : α} {output : ω}, holds state → further state →
      step state action = some (next, output) → further next) :
    Invariant step start fun state => holds state ∧ further state where
  start := ⟨invariant.start, first⟩
  step := fun both taken => ⟨invariant.step both.1 taken, keeps both.1 both.2 taken⟩

/-- The state after a sequence of actions. -/
def run (step : σ → α → Option (σ × ω)) : σ → List α → Option σ
  | state, [] => some state
  | state, action :: actions =>
      match step state action with
      | some (next, _) => run step next actions
      | none => none

theorem Reachable.run {step : σ → α → Option (σ × ω)} {start state finish : σ}
    (reached : Reachable step start state) {actions : List α}
    (ran : LabelledSteps.run step state actions = some finish) :
    Reachable step start finish := by
  induction actions generalizing state with
  | nil =>
      cases ran
      exact reached
  | cons action actions ih =>
      rw [LabelledSteps.run] at ran
      split at ran
      · rename_i next output taken
        exact ih (reached.step taken) ran
      · cases ran

/-- The steps that meet a condition on the state and the action. -/
def restrict (allowed : σ → α → Bool) (step : σ → α → Option (σ × ω)) (state : σ) (action : α) :
    Option (σ × ω) :=
  if allowed state action then step state action else none

theorem restrict_eq_some_iff {allowed : σ → α → Bool} {step : σ → α → Option (σ × ω)}
    {state next : σ} {action : α} {output : ω} :
    restrict allowed step state action = some (next, output) ↔
      allowed state action = true ∧ step state action = some (next, output) := by
  rw [restrict]
  by_cases meets : allowed state action = true
  · rw [if_pos meets, and_iff_right meets]
  · rw [if_neg meets]
    exact iff_of_false nofun fun both => meets both.1

end LabelledSteps
