import Mathlib.Data.List.Chain
import Mathlib.Logic.Relation
import Mathlib.Tactic.Common

/-!
# Worklist search

A depth-first search that keeps a stack of pending vertices and a set of
visited ones, written with explicit fuel.  When the successors come from a
finite list of edges, fuel above the number of edges suffices, and the verdict
is reachability of the target from a pending vertex.
-/

namespace WorklistSearch

open Relation

variable {α : Type*}

/-- One pass of the loop for each unit of fuel; `none` means out of fuel.  The
head of `pending` is the top of the stack, so a vertex's successors are pushed
in order and popped in reverse. -/
def search [DecidableEq α] (successors : α → List α) (target : α) :
    Nat → List α → List α → Option Bool
  | 0, _, _ => none
  | _ + 1, [], _ => some false
  | fuel + 1, vertex :: pending, visited =>
      if vertex = target then some true
      else if vertex ∈ visited then search successors target fuel pending visited
      else search successors target fuel
        ((successors vertex).reverse ++ pending) (vertex :: visited)

/-- The edge relation of a successor function. -/
def Step (successors : α → List α) : α → α → Prop :=
  fun first second => second ∈ successors first

/-- Every vertex's successors are its edges in one list of edges. -/
def FromEdges [DecidableEq α] (successors : α → List α) (edges : List (α × α)) : Prop :=
  ∀ vertex, successors vertex = (edges.filter (·.1 = vertex)).map Prod.snd

/-- The edges that leave a vertex not yet visited. -/
def unexplored [DecidableEq α] (edges : List (α × α)) (visited : List α) : List (α × α) :=
  edges.filter (·.1 ∉ visited)

section Explored

variable {successors : α → List α} {target : α}

/-- Visited vertices are not the target, and whatever they lead to is visited
or still pending. -/
structure Explored (successors : α → List α) (target : α)
    (pending visited : List α) : Prop where
  notTarget : target ∉ visited
  closed : ∀ vertex ∈ visited, ∀ next ∈ successors vertex,
    next ∈ visited ∨ next ∈ pending

theorem Explored.nil {pending : List α} : Explored successors target pending [] :=
  ⟨by simp, by simp⟩

theorem Explored.skip {vertex : α} {pending visited : List α}
    (explored : Explored successors target (vertex :: pending) visited)
    (old : vertex ∈ visited) : Explored successors target pending visited where
  notTarget := explored.notTarget
  closed := by
    intro first firstMem next nextMem
    rcases explored.closed first firstMem next nextMem with seen | waiting
    · exact Or.inl seen
    · rcases List.mem_cons.mp waiting with rfl | later
      · exact Or.inl old
      · exact Or.inr later

theorem Explored.visit {vertex : α} {pending visited : List α}
    (explored : Explored successors target (vertex :: pending) visited)
    (notTarget : vertex ≠ target) :
    Explored successors target ((successors vertex).reverse ++ pending)
      (vertex :: visited) where
  notTarget := by
    simp only [List.mem_cons, not_or]
    exact ⟨notTarget.symm, explored.notTarget⟩
  closed := by
    intro first firstMem next nextMem
    simp only [List.mem_cons, List.mem_append, List.mem_reverse]
    rcases List.mem_cons.mp firstMem with rfl | seen
    · exact Or.inr (Or.inl nextMem)
    · rcases explored.closed first seen next nextMem with old | waiting
      · exact Or.inl (Or.inr old)
      · rcases List.mem_cons.mp waiting with rfl | later
        · exact Or.inl (Or.inl rfl)
        · exact Or.inr (Or.inr later)

/-- A finished exploration reaches the target from no visited vertex. -/
theorem Explored.not_reaches {visited : List α}
    (explored : Explored successors target [] visited) {start : α}
    (startMem : start ∈ visited) :
    ¬ ReflTransGen (Step successors) start target := by
  intro reachable
  apply explored.notTarget
  induction reachable using ReflTransGen.head_induction_on with
  | refl => exact startMem
  | head edge _ ih => exact ih (by simpa using explored.closed _ startMem _ edge)

end Explored

section Loop

variable [DecidableEq α] {successors : α → List α} {edges : List (α × α)} {target : α}

theorem length_unexplored_cons (fromEdges : FromEdges successors edges)
    {vertex : α} {visited : List α} (fresh : vertex ∉ visited) :
    (unexplored edges (vertex :: visited)).length + (successors vertex).length =
      (unexplored edges visited).length := by
  rw [fromEdges vertex, List.length_map]
  unfold unexplored
  clear fromEdges
  induction edges with
  | nil => rfl
  | cons edge edges ih =>
      by_cases leaves : edge.1 = vertex
      · simp [leaves, fresh] at ih ⊢
        omega
      · by_cases old : edge.1 ∈ visited
        · simp [leaves, old] at ih ⊢
          omega
        · simp [leaves, old] at ih ⊢
          omega

/-- The pending vertices and the unexplored edges together bound the number of
remaining passes. -/
theorem search_ne_none (fromEdges : FromEdges successors edges) {fuel : Nat}
    {pending visited : List α}
    (enough : pending.length + (unexplored edges visited).length < fuel) :
    search successors target fuel pending visited ≠ none := by
  induction fuel generalizing pending visited with
  | zero => omega
  | succ fuel ih =>
      cases pending with
      | nil => simp [search]
      | cons vertex pending =>
          simp only [List.length_cons] at enough
          unfold search
          split_ifs with found old
          · simp
          · exact ih (by omega)
          · have spent := length_unexplored_cons fromEdges old
            apply ih
            simp only [List.length_append, List.length_reverse]
            omega

theorem reaches_of_search {fuel : Nat} {pending visited : List α}
    (verdict : search successors target fuel pending visited = some true) :
    ∃ start ∈ pending, ReflTransGen (Step successors) start target := by
  induction fuel generalizing pending visited with
  | zero => simp [search] at verdict
  | succ fuel ih =>
      cases pending with
      | nil => simp [search] at verdict
      | cons vertex pending =>
          unfold search at verdict
          split_ifs at verdict with found old
          · exact ⟨vertex, by simp, by rw [found]⟩
          · obtain ⟨start, startMem, reachable⟩ := ih verdict
            exact ⟨start, List.mem_cons_of_mem _ startMem, reachable⟩
          · obtain ⟨start, startMem, reachable⟩ := ih verdict
            rcases List.mem_append.mp startMem with pushed | waiting
            · exact ⟨vertex, by simp, reachable.head (List.mem_reverse.mp pushed)⟩
            · exact ⟨start, List.mem_cons_of_mem _ waiting, reachable⟩

theorem not_reaches_of_search {fuel : Nat} {pending visited : List α}
    (explored : Explored successors target pending visited)
    (verdict : search successors target fuel pending visited = some false) :
    ∀ start, start ∈ pending ∨ start ∈ visited →
      ¬ ReflTransGen (Step successors) start target := by
  induction fuel generalizing pending visited with
  | zero => simp [search] at verdict
  | succ fuel ih =>
      cases pending with
      | nil =>
          rintro start (waiting | seen)
          · simp at waiting
          · exact explored.not_reaches seen
      | cons vertex pending =>
          have found : vertex ≠ target := by
            intro found
            simp [search, found] at verdict
          by_cases old : vertex ∈ visited
          · rw [search, if_neg found, if_pos old] at verdict
            rintro start (waiting | seen)
            · rcases List.mem_cons.mp waiting with rfl | later
              · exact ih (explored.skip old) verdict _ (Or.inr old)
              · exact ih (explored.skip old) verdict _ (Or.inl later)
            · exact ih (explored.skip old) verdict _ (Or.inr seen)
          · rw [search, if_neg found, if_neg old] at verdict
            rintro start (waiting | seen)
            · rcases List.mem_cons.mp waiting with rfl | later
              · exact ih (explored.visit found) verdict _ (Or.inr (by simp))
              · exact ih (explored.visit found) verdict _ (Or.inl (by simp [later]))
            · exact ih (explored.visit found) verdict _ (Or.inr (by simp [seen]))

/-- With enough fuel the search from one vertex terminates, and it answers
`true` exactly when the target can be reached. -/
theorem search_spec (fromEdges : FromEdges successors edges) {fuel : Nat} {start : α}
    (enough : edges.length + 1 < fuel) :
    ∃ verdict, search successors target fuel [start] [] = some verdict ∧
      (verdict = true ↔ ReflTransGen (Step successors) start target) := by
  have bound : ([start].length + (unexplored edges []).length) < fuel := by
    simpa [unexplored, Nat.add_comm] using enough
  obtain ⟨verdict, result⟩ : ∃ verdict, search successors target fuel [start] [] = some verdict :=
    Option.ne_none_iff_exists'.mp (search_ne_none fromEdges bound)
  refine ⟨verdict, result, ?_⟩
  cases verdict with
  | true => simpa using reaches_of_search result
  | false => simpa using not_reaches_of_search Explored.nil result start (by simp)

end Loop

end WorklistSearch
