import Mathlib.Tactic.Common

/-!
# Queues that refuse what they have no place for

A queue of bounded length with the values that ever came into it and the number
of refused ones.  Values are taken from its front at any time.
-/

/-- The waiting values of a queue, and its history. -/
structure BoundedQueue (α : Type*) where
  waiting : List α
  entered : List α
  refused : Nat

namespace BoundedQueue

variable {α : Type*}

def empty : BoundedQueue α where
  waiting := []
  entered := []
  refused := 0

def offer (capacity : Nat) (queue : BoundedQueue α) (value : α) : BoundedQueue α :=
  if queue.waiting.length < capacity then
    { queue with waiting := queue.waiting ++ [value], entered := queue.entered ++ [value] }
  else { queue with refused := queue.refused + 1 }

def take (count : Nat) (queue : BoundedQueue α) : BoundedQueue α :=
  { queue with waiting := queue.waiting.drop count }

/-- Offers of values, before each of which some are taken. -/
def offers (capacity : Nat) : List Nat → List α → BoundedQueue α → BoundedQueue α
  | _, [], queue => queue
  | [], value :: values, queue => offers capacity [] values (queue.offer capacity value)
  | taken :: turns, value :: values, queue =>
      offers capacity turns values ((queue.take taken).offer capacity value)

theorem offers_cons (capacity : Nat) (turns : List Nat) (value : α) (values : List α)
    (queue : BoundedQueue α) :
    queue.offers capacity turns (value :: values) =
      ((queue.take (turns.headD 0)).offer capacity value).offers capacity turns.tail values := by
  cases turns <;> rfl

/-- The history of a queue to which values were offered. -/
structure Accounts (capacity : Nat) (offered : List α) (queue : BoundedQueue α) : Prop where
  waiting_suffix : queue.waiting <:+ queue.entered
  waiting_le : queue.waiting.length ≤ capacity
  entered_sublist : queue.entered.Sublist offered
  offered_eq : queue.entered.length + queue.refused = offered.length

namespace Accounts

variable {capacity : Nat} {offered : List α} {queue : BoundedQueue α}

theorem empty (capacity : Nat) : Accounts capacity [] (empty : BoundedQueue α) where
  waiting_suffix := List.suffix_refl _
  waiting_le := Nat.zero_le _
  entered_sublist := List.Sublist.refl _
  offered_eq := rfl

theorem take (accounts : Accounts capacity offered queue) (count : Nat) :
    Accounts capacity offered (queue.take count) :=
  { accounts with
    waiting_suffix := (List.drop_suffix count _).trans accounts.waiting_suffix
    waiting_le := Nat.le_trans (List.drop_suffix count _).length_le accounts.waiting_le }

theorem offer (accounts : Accounts capacity offered queue) (value : α) :
    Accounts capacity (offered ++ [value]) (queue.offer capacity value) := by
  have counted := accounts.offered_eq
  unfold BoundedQueue.offer
  split
  · rename_i place
    refine ⟨?_, ?_, accounts.entered_sublist.append (List.Sublist.refl _), ?_⟩
    · obtain ⟨earlier, entered⟩ := accounts.waiting_suffix
      exact ⟨earlier, by rw [← entered, List.append_assoc]⟩
    · rw [List.length_append]
      exact place
    · rw [List.length_append, List.length_append, List.length_singleton, ← counted]
      exact Nat.add_right_comm _ _ _
  · refine ⟨accounts.waiting_suffix, accounts.waiting_le,
      accounts.entered_sublist.trans (List.sublist_append_left _ _), ?_⟩
    rw [List.length_append, List.length_singleton, ← counted, Nat.add_assoc]

theorem offers (accounts : Accounts capacity offered queue) (turns : List Nat) (values : List α) :
    Accounts capacity (offered ++ values) (queue.offers capacity turns values) := by
  induction values generalizing offered queue turns with
  | nil =>
      rw [List.append_nil, BoundedQueue.offers]
      exact accounts
  | cons value values ih =>
      rw [List.append_cons, offers_cons]
      exact ih ((accounts.take _).offer value) turns.tail

end Accounts

end BoundedQueue
