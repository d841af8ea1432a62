import Mathlib.Algebra.Ring.Nat
import Mathlib.Tactic.Common

/-!
# Systems of independent parts

The parts of a system take steps one at a time, and the step of a part does not
look at the others.  Whatever the order of the steps, every part gets where its
own steps take it.
-/

namespace IndependentParts

variable {σ α : Type*} {act : σ → α → σ}

/-- A step of the part of a number, if there is one. -/
def step (act : σ → α → σ) (parts : List σ) (turn : Nat × α) : List σ :=
  parts.modify turn.1 fun part => act part turn.2

def run (act : σ → α → σ) (parts : List σ) (turns : List (Nat × α)) : List σ :=
  turns.foldl (step act) parts

theorem run_append (parts : List σ) (turns more : List (Nat × α)) :
    run act parts (turns ++ more) = run act (run act parts turns) more :=
  List.foldl_append

/-- The steps of the part of a number. -/
def turnsOf (number : Nat) (turns : List (Nat × α)) : List α :=
  (turns.filter fun turn => turn.1 = number).map Prod.snd

theorem turnsOf_append (number : Nat) (turns more : List (Nat × α)) :
    turnsOf number (turns ++ more) = turnsOf number turns ++ turnsOf number more := by
  rw [turnsOf, List.filter_append, List.map_append, turnsOf, turnsOf]

theorem turnsOf_flatMap {ι : Type*} (number : Nat) (items : List ι) (turns : ι → List (Nat × α)) :
    turnsOf number (items.flatMap turns) =
      items.flatMap fun item => turnsOf number (turns item) := by
  induction items with
  | nil => rfl
  | cons item items ih => rw [List.flatMap_cons, turnsOf_append, ih, List.flatMap_cons]

theorem turnsOf_eq_nil {number : Nat} {turns : List (Nat × α)}
    (others : ∀ turn ∈ turns, turn.1 ≠ number) : turnsOf number turns = [] := by
  have none : turns.filter (fun turn => turn.1 = number) = [] :=
    List.filter_eq_nil_iff.mpr fun turn member own => others turn member (of_decide_eq_true own)
  rw [turnsOf, none, List.map_nil]

theorem getElem?_step (parts : List σ) (turn : Nat × α) (number : Nat) :
    (step act parts turn)[number]? =
      parts[number]?.map fun part => if turn.1 = number then act part turn.2 else part := by
  rw [step, List.getElem?_modify]
  rfl

theorem length_step (parts : List σ) (turn : Nat × α) :
    (step act parts turn).length = parts.length :=
  List.length_modify ..

/-- A part is moved by its own steps only. -/
theorem getElem?_run (parts : List σ) (turns : List (Nat × α)) (number : Nat) :
    (run act parts turns)[number]? =
      parts[number]?.map fun part => (turnsOf number turns).foldl act part := by
  induction turns generalizing parts with
  | nil => exact (Option.map_id' ..).symm
  | cons turn turns ih =>
      rw [run, List.foldl_cons, ← run, ih, getElem?_step, Option.map_map]
      refine Option.map_congr fun part _ => ?_
      by_cases own : turn.1 = number
      · simp [turnsOf, own]
      · simp [turnsOf, own]

/-- What a step of a part changes in a total over all parts. -/
theorem sum_step {parts : List σ} {turn : Nat × α} {part : σ} (found : parts[turn.1]? = some part)
    (size : σ → Nat) :
    ((step act parts turn).map size).sum + size part =
      (parts.map size).sum + size (act part turn.2) := by
  obtain ⟨number, action⟩ := turn
  induction parts generalizing number with
  | nil => cases found
  | cons first parts ih =>
      cases number with
      | zero =>
          obtain rfl : first = part := Option.some.inj found
          simp only [step, List.modify_zero_cons, List.map_cons, List.sum_cons]
          omega
      | succ number =>
          have later := ih number found
          simp only [step, List.modify_succ_cons, List.map_cons, List.sum_cons] at later ⊢
          omega

end IndependentParts
