import Mathlib.Data.List.Chain
import Mathlib.Logic.Relation

/-!
# Walks and closed walks of a relation

The general theory behind feedback rejection: when a relation has no closed
walk, which single edges may be added without creating one, and what happens
when one more vertex is admitted to the vertex set that a walk may visit.
-/

namespace DirectedWalks

open Relation

variable {α : Type*} {step wider : α → α → Prop} {allowed : α → Prop}

/-- A relation without a non-empty closed walk. -/
def Acyclic (step : α → α → Prop) : Prop :=
  ∀ vertex, ¬ TransGen step vertex vertex

theorem Acyclic.mono (subset : ∀ first second, step first second → wider first second)
    (acyclic : Acyclic wider) : Acyclic step := by
  intro vertex closed
  exact acyclic vertex (TransGen.mono subset _ _ closed)

/-- The relation with one more edge, from `source` to `target`. -/
def InsertEdge (step : α → α → Prop) (source target : α) : α → α → Prop :=
  fun first second => step first second ∨ (first = source ∧ second = target)

theorem transGen_of_insertEdge {source target first last : α}
    (walk : TransGen (InsertEdge step source target) first last) :
    TransGen step first last ∨
      (ReflTransGen step first source ∧ ReflTransGen step target last) := by
  induction walk with
  | single edge =>
      rcases edge with old | ⟨rfl, rfl⟩
      · exact Or.inl (TransGen.single old)
      · exact Or.inr ⟨ReflTransGen.refl, ReflTransGen.refl⟩
  | tail _ edge ih =>
      rcases edge with old | ⟨rfl, rfl⟩
      · rcases ih with plain | ⟨before, after⟩
        · exact Or.inl (plain.tail old)
        · exact Or.inr ⟨before, after.tail old⟩
      · rcases ih with plain | ⟨before, _⟩
        · exact Or.inr ⟨plain.to_reflTransGen, ReflTransGen.refl⟩
        · exact Or.inr ⟨before, ReflTransGen.refl⟩

/-- A new edge closes a walk exactly when the relation already leads from its
target back to its source. -/
theorem acyclic_insertEdge_iff {source target : α} :
    Acyclic (InsertEdge step source target) ↔
      Acyclic step ∧ ¬ ReflTransGen step target source := by
  have included : ∀ first second, step first second →
      InsertEdge step source target first second := fun _ _ old => Or.inl old
  constructor
  · intro acyclic
    refine ⟨acyclic.mono included, ?_⟩
    intro back
    apply acyclic source
    exact TransGen.head' (Or.inr ⟨rfl, rfl⟩) (ReflTransGen.mono included _ _ back)
  · rintro ⟨acyclic, noReturn⟩ vertex closed
    rcases transGen_of_insertEdge closed with old | ⟨before, after⟩
    · exact acyclic vertex old
    · exact noReturn (after.trans before)

/-- The edges of `step` between allowed vertices. -/
def Within (allowed : α → Prop) (step : α → α → Prop) : α → α → Prop :=
  fun first second => allowed first ∧ allowed second ∧ step first second

/-- A walk listed by its vertices, from `first` to `last`, all of them
allowed.  A single vertex is a walk of length zero. -/
def HasWalk (allowed : α → Prop) (step : α → α → Prop) (first last : α) : Prop :=
  ∃ vertices : List α, vertices.head? = some first ∧ vertices.getLast? = some last ∧
    (∀ vertex ∈ vertices, allowed vertex) ∧ vertices.IsChain step

theorem HasWalk.first_allowed {first last : α} (walk : HasWalk allowed step first last) :
    allowed first := by
  obtain ⟨vertices, starts, _, inside, _⟩ := walk
  exact inside first (List.mem_of_mem_head? starts)

private theorem isChain_within {vertices : List α}
    (inside : ∀ vertex ∈ vertices, allowed vertex) (chain : vertices.IsChain step) :
    vertices.IsChain (Within allowed step) :=
  chain.imp_of_mem_imp fun first second firstMem secondMem edge =>
    ⟨inside first firstMem, inside second secondMem, edge⟩

/-- Listed walks are reachability inside the allowed vertices. -/
theorem hasWalk_iff_reflTransGen {first last : α} :
    HasWalk allowed step first last ↔
      allowed first ∧ ReflTransGen (Within allowed step) first last := by
  constructor
  · intro walk
    refine ⟨walk.first_allowed, ?_⟩
    obtain ⟨vertices, starts, ends, inside, chain⟩ := walk
    cases vertices with
    | nil => simp at starts
    | cons head rest =>
        obtain rfl : head = first := by simpa using starts
        apply List.relationReflTransGen_of_exists_isChain_cons rest (isChain_within inside chain)
        rw [List.getLast?_eq_some_getLast (List.cons_ne_nil _ _)] at ends
        exact Option.some.inj ends
  · rintro ⟨firstAllowed, reachable⟩
    obtain ⟨rest, chain, ends⟩ := List.exists_isChain_cons_of_relationReflTransGen reachable
    refine ⟨first :: rest, rfl, ?_, ?_, chain.imp fun _ _ edge => edge.2.2⟩
    · rw [List.getLast?_eq_some_getLast (List.cons_ne_nil _ _), ends]
    · intro vertex vertexMem
      rcases List.mem_cons.mp vertexMem with rfl | restMem
      · exact firstAllowed
      · exact chain.induction allowed _ (fun _ _ edge _ => edge.2.1)
          (by simpa using firstAllowed) vertex vertexMem

/-- A closed walk at `vertex` all of whose other vertices are allowed, listed
by those other vertices. -/
def Encloses (allowed : α → Prop) (step : α → α → Prop) (vertex : α) : Prop :=
  ∃ between : List α, (∀ other ∈ between, allowed other) ∧
    (vertex :: between ++ [vertex]).IsChain step

/-- Admit one more vertex. -/
def Admit (allowed : α → Prop) (vertex : α) : α → Prop :=
  fun other => allowed other ∨ other = vertex

/-- A walk with at least one edge whose interior vertices are allowed. -/
private def Via (allowed : α → Prop) (step : α → α → Prop) (first last : α) : Prop :=
  ∃ between : List α, (∀ other ∈ between, allowed other) ∧
    (first :: between ++ [last]).IsChain step

private theorem Via.extend {first middle last : α} (walk : Via allowed step first middle)
    (middleAllowed : allowed middle) (edge : step middle last) :
    Via allowed step first last := by
  obtain ⟨between, inside, chain⟩ := walk
  refine ⟨between ++ [middle], ?_, ?_⟩
  · intro other otherMem
    rcases List.mem_append.mp otherMem with old | new
    · exact inside other old
    · rw [List.mem_singleton.mp new]
      exact middleAllowed
  · have extended := chain.append (List.isChain_singleton (R := step) last)
      (fun final finalMem start startMem => by
        simp only [List.getLast?_append, List.getLast?_singleton, List.head?_cons,
          Option.mem_def, Option.some_or, Option.some.injEq] at finalMem startMem
        rw [← finalMem, ← startMem]
        exact edge)
    simpa using extended

private theorem via_of_transGen {vertex last : α}
    (walk : TransGen (Within (Admit allowed vertex) step) vertex last) :
    Via allowed step vertex vertex ∨ Via allowed step vertex last := by
  induction walk with
  | single edge => exact Or.inr ⟨[], by simp, by simpa using edge.2.2⟩
  | tail _ edge ih =>
      rcases ih with closed | via
      · exact Or.inl closed
      · rcases edge.1 with old | rfl
        · exact Or.inr (via.extend old edge.2.2)
        · exact Or.inl via

private theorem transGen_avoids_or_visits {vertex first last : α}
    (walk : TransGen (Within (Admit allowed vertex) step) first last) :
    TransGen (Within allowed step) first last ∨
      (ReflTransGen (Within (Admit allowed vertex) step) first vertex ∧
        ReflTransGen (Within (Admit allowed vertex) step) vertex last) := by
  have included : ∀ first second, Within allowed step first second →
      Within (Admit allowed vertex) step first second :=
    fun _ _ edge => ⟨Or.inl edge.1, Or.inl edge.2.1, edge.2.2⟩
  have avoids_or_visits : ∀ {first second : α},
      Within (Admit allowed vertex) step first second →
        Within allowed step first second ∨ first = vertex ∨ second = vertex := by
    rintro first second ⟨firstAllowed | firstEq, secondAllowed | secondEq, edge⟩
    · exact Or.inl ⟨firstAllowed, secondAllowed, edge⟩
    · exact Or.inr (Or.inr secondEq)
    · exact Or.inr (Or.inl firstEq)
    · exact Or.inr (Or.inl firstEq)
  induction walk with
  | single edge =>
      rcases avoids_or_visits edge with old | rfl | rfl
      · exact Or.inl (TransGen.single old)
      · exact Or.inr ⟨ReflTransGen.refl, ReflTransGen.single edge⟩
      · exact Or.inr ⟨ReflTransGen.single edge, ReflTransGen.refl⟩
  | tail walk edge ih =>
      rcases ih with plain | ⟨before, after⟩
      · rcases avoids_or_visits edge with old | rfl | rfl
        · exact Or.inl (plain.tail old)
        · exact Or.inr ⟨walk.to_reflTransGen, ReflTransGen.single edge⟩
        · exact Or.inr ⟨(walk.tail edge).to_reflTransGen, ReflTransGen.refl⟩
      · exact Or.inr ⟨before, after.tail edge⟩

/-- A vertex may be admitted without creating a closed walk exactly when it
closes no walk through vertices that were already allowed. -/
theorem acyclic_within_admit_iff {vertex : α} :
    Acyclic (Within (Admit allowed vertex) step) ↔
      Acyclic (Within allowed step) ∧ ¬ Encloses allowed step vertex := by
  constructor
  · intro acyclic
    refine ⟨acyclic.mono fun _ _ edge => ⟨Or.inl edge.1, Or.inl edge.2.1, edge.2.2⟩, ?_⟩
    rintro ⟨between, inside, chain⟩
    have admitted : ∀ other ∈ vertex :: between ++ [vertex], Admit allowed vertex other := by
      intro other otherMem
      simp only [List.cons_append, List.mem_cons, List.mem_append, List.not_mem_nil,
        or_false] at otherMem
      rcases otherMem with rfl | old | rfl
      · exact Or.inr rfl
      · exact Or.inl (inside other old)
      · exact Or.inr rfl
    have withinChain := isChain_within admitted chain
    apply acyclic vertex
    cases between with
    | nil => exact TransGen.single (by simpa using withinChain)
    | cons next rest =>
        have parts : Within (Admit allowed vertex) step vertex next ∧
            (next :: (rest ++ [vertex])).IsChain (Within (Admit allowed vertex) step) := by
          simpa using withinChain
        refine TransGen.head' parts.1 ?_
        exact List.relationReflTransGen_of_exists_isChain_cons _ parts.2 (by simp)
  · rintro ⟨acyclic, encloses⟩ start closed
    have through : TransGen (Within (Admit allowed vertex) step) vertex vertex := by
      rcases transGen_avoids_or_visits closed with old | ⟨before, after⟩
      · exact (acyclic start old).elim
      · rcases reflTransGen_iff_eq_or_transGen.mp after with rfl | proper
        · exact closed
        · exact proper.trans_left before
    rcases via_of_transGen through with via | via <;> exact encloses via

end DirectedWalks
