import Mathlib.Data.List.Nodup
import Mathlib.Logic.Function.Basic
import Mathlib.Tactic.Common

/-!
# Tables of handles

A party gives out handles for callbacks, each with the client that it calls, and
its users start, stop and destroy them.  The table says which handles there are;
what a user may do depends on it.  A client may be freed once no handle is left
that calls it.
-/

structure HandleEntry (κ : Type*) where
  client : κ
  running : Bool

inductive HandleEvent (η κ : Type*) where
  | created (handle : η) (client : κ)
  /-- A call for a handle that does not change it. -/
  | used (handle : η)
  | started (handle : η)
  | stopped (handle : η)
  | destroyed (handle : η)
  | freed (client : κ)

/-- The entry of every handle that there is. -/
abbrev HandleTable (η κ : Type*) : Type _ :=
  η → Option (HandleEntry κ)

namespace HandleTable

variable {η κ : Type*}

def empty : HandleTable η κ := fun _ => none

/-- Started handles are stopped before they are destroyed, and only handles that
are there are used. -/
def Permits (table : HandleTable η κ) : HandleEvent η κ → Prop
  | .created handle _ => table handle = none
  | .used handle => ∃ client, table handle = some ⟨client, false⟩
  | .started handle => ∃ client, table handle = some ⟨client, false⟩
  | .stopped handle => ∃ client, table handle = some ⟨client, true⟩
  | .destroyed handle => ∃ client, table handle = some ⟨client, false⟩
  | .freed client => ∀ handle entry, table handle = some entry → entry.client ≠ client

variable [DecidableEq η]

def setRunning (table : HandleTable η κ) (handle : η) (running : Bool) : HandleTable η κ :=
  Function.update table handle ((table handle).map fun entry => { entry with running := running })

def after (table : HandleTable η κ) : HandleEvent η κ → HandleTable η κ
  | .created handle client => Function.update table handle (some ⟨client, false⟩)
  | .used _ => table
  | .started handle => table.setRunning handle true
  | .stopped handle => table.setRunning handle false
  | .destroyed handle => Function.update table handle none
  | .freed _ => table

def afterAll (table : HandleTable η κ) (events : List (HandleEvent η κ)) : HandleTable η κ :=
  events.foldl after table

def PermitsAll : HandleTable η κ → List (HandleEvent η κ) → Prop
  | _, [] => True
  | table, event :: events => table.Permits event ∧ PermitsAll (table.after event) events

theorem afterAll_append {table : HandleTable η κ} {first second : List (HandleEvent η κ)} :
    table.afterAll (first ++ second) = (table.afterAll first).afterAll second :=
  List.foldl_append

theorem permitsAll_append {table : HandleTable η κ} {first second : List (HandleEvent η κ)} :
    table.PermitsAll (first ++ second) ↔
      table.PermitsAll first ∧ (table.afterAll first).PermitsAll second := by
  induction first generalizing table with
  | nil => exact ⟨fun second => ⟨trivial, second⟩, fun both => both.2⟩
  | cons event events ih =>
      rw [List.cons_append, PermitsAll, PermitsAll, ih, and_assoc]
      rfl

/-- A handle that is there was created, or was there before. -/
theorem after_eq_some {table : HandleTable η κ} {event : HandleEvent η κ} {handle : η}
    {entry : HandleEntry κ} (found : table.after event handle = some entry) :
    (∃ client, event = .created handle client) ∨ (table handle).isSome = true := by
  have kept : ∀ (other : η) (value : Option (HandleEntry κ)),
      Function.update table other value handle = some entry → other ≠ handle →
        (table handle).isSome = true := by
    intro other value found different
    rw [Function.update_of_ne different.symm] at found
    rw [found]
    rfl
  have running : ∀ (other : η) (running : Bool),
      table.setRunning other running handle = some entry → (table handle).isSome = true := by
    intro other running found
    by_cases same : other = handle
    · subst same
      rw [setRunning, Function.update_self, Option.map_eq_some_iff] at found
      obtain ⟨earlier, there, _⟩ := found
      rw [there]
      rfl
    · exact kept other _ found same
  cases event with
  | created other client =>
      by_cases same : other = handle
      · exact Or.inl ⟨client, by rw [same]⟩
      · exact Or.inr (kept other _ found same)
  | used other => exact Or.inr (Option.isSome_of_eq_some found)
  | started other => exact Or.inr (running other true found)
  | stopped other => exact Or.inr (running other false found)
  | destroyed other =>
      by_cases same : other = handle
      · subst same
        change Function.update table other none other = some entry at found
        rw [Function.update_self] at found
        cases found
      · exact Or.inr (kept other _ found same)
  | freed client => exact Or.inr (Option.isSome_of_eq_some found)

/-- The table has the entries of the list, every handle once. -/
structure Holds (table : HandleTable η κ) (entries : List (η × HandleEntry κ)) : Prop where
  distinct : (entries.map Prod.fst).Nodup
  entry_iff : ∀ handle entry, table handle = some entry ↔ (handle, entry) ∈ entries

/-- From every table with some entries, the events are permitted and lead to a
table with others. -/
def Moves (before after : List (η × HandleEntry κ)) (events : List (HandleEvent η κ)) : Prop :=
  ∀ table : HandleTable η κ, table.Holds before →
    table.PermitsAll events ∧ (table.afterAll events).Holds after

omit [DecidableEq η] in
theorem holds_empty : (empty : HandleTable η κ).Holds [] where
  distinct := List.nodup_nil
  entry_iff := fun _ _ => iff_of_false (Option.some_ne_none _).symm List.not_mem_nil

omit [DecidableEq η] in
theorem Holds.perm {table : HandleTable η κ} {entries others : List (η × HandleEntry κ)}
    (holds : table.Holds entries) (same : entries.Perm others) : table.Holds others where
  distinct := (same.map Prod.fst).nodup_iff.mp holds.distinct
  entry_iff := fun handle entry => (holds.entry_iff handle entry).trans same.mem_iff

omit [DecidableEq η] in
/-- A handle without an entry has no place in the list. -/
theorem Holds.notMem {table : HandleTable η κ} {entries : List (η × HandleEntry κ)} {handle : η}
    (holds : table.Holds entries) (absent : table handle = none) :
    handle ∉ entries.map Prod.fst := by
  intro member
  obtain ⟨⟨_, entry⟩, within, rfl⟩ := List.mem_map.mp member
  rw [(holds.entry_iff _ _).mpr within] at absent
  cases absent

section Moves

variable {before middle after entries : List (η × HandleEntry κ)}
  {first second events : List (HandleEvent η κ)} {handle : η} {client : κ} {running : Bool}

theorem Moves.refl : Moves entries entries ([] : List (HandleEvent η κ)) :=
  fun _ holds => ⟨trivial, holds⟩

theorem Moves.append (one : Moves before middle first) (rest : Moves middle after second) :
    Moves before after (first ++ second) := by
  intro table holds
  obtain ⟨firstPermitted, reached⟩ := one table holds
  obtain ⟨secondPermitted, last⟩ := rest _ reached
  rw [permitsAll_append, afterAll_append]
  exact ⟨⟨firstPermitted, secondPermitted⟩, last⟩

theorem moves_created (absent : handle ∉ entries.map Prod.fst) :
    Moves entries ((handle, ⟨client, false⟩) :: entries) [.created handle client] := by
  intro table holds
  have free : table handle = none := by
    by_contra there
    obtain ⟨entry, found⟩ := Option.ne_none_iff_exists'.mp there
    exact absent (List.mem_map.mpr ⟨_, (holds.entry_iff _ _).mp found, rfl⟩)
  refine ⟨⟨free, trivial⟩, List.nodup_cons.mpr ⟨absent, holds.distinct⟩, fun other entry => ?_⟩
  change Function.update table handle (some ⟨client, false⟩) other = some entry ↔ _
  by_cases same : other = handle
  · subst same
    have unlisted : (other, entry) ∉ entries := fun member =>
      absent (List.mem_map.mpr ⟨_, member, rfl⟩)
    rw [Function.update_self, List.mem_cons, or_iff_left unlisted, Prod.mk.injEq, Option.some.injEq]
    exact ⟨fun equal => ⟨rfl, equal.symm⟩, fun both => both.2.symm⟩
  · rw [Function.update_of_ne same, holds.entry_iff, List.mem_cons,
      or_iff_right fun equal => same (congrArg Prod.fst equal)]

theorem moves_used :
    Moves ((handle, ⟨client, false⟩) :: entries) ((handle, ⟨client, false⟩) :: entries)
      [.used handle] :=
  fun _ holds => ⟨⟨⟨client, (holds.entry_iff _ _).mpr List.mem_cons_self⟩, trivial⟩, holds⟩

/-- A handle is set to running or not. -/
theorem Holds.setRunning {table : HandleTable η κ} {was : Bool}
    (holds : table.Holds ((handle, ⟨client, was⟩) :: entries)) (running : Bool) :
    (table.setRunning handle running).Holds ((handle, ⟨client, running⟩) :: entries) := by
  have found : table handle = some ⟨client, was⟩ :=
    (holds.entry_iff _ _).mpr List.mem_cons_self
  have absent : handle ∉ entries.map Prod.fst := (List.nodup_cons.mp holds.distinct).1
  refine ⟨holds.distinct, fun other entry => ?_⟩
  rw [HandleTable.setRunning, found]
  by_cases same : other = handle
  · subst same
    have unlisted : (other, entry) ∉ entries := fun member =>
      absent (List.mem_map.mpr ⟨_, member, rfl⟩)
    rw [Function.update_self, List.mem_cons, or_iff_left unlisted, Prod.mk.injEq]
    exact ⟨fun equal => ⟨rfl, (Option.some.inj equal).symm⟩, fun both => congrArg some both.2.symm⟩
  · rw [Function.update_of_ne same, holds.entry_iff, List.mem_cons, List.mem_cons,
      or_iff_right fun equal => same (congrArg Prod.fst equal),
      or_iff_right fun equal => same (congrArg Prod.fst equal)]

theorem moves_started :
    Moves ((handle, ⟨client, false⟩) :: entries) ((handle, ⟨client, true⟩) :: entries)
      [.started handle] :=
  fun _ holds => ⟨⟨⟨client, (holds.entry_iff _ _).mpr List.mem_cons_self⟩, trivial⟩,
    holds.setRunning true⟩

theorem moves_stopped :
    Moves ((handle, ⟨client, true⟩) :: entries) ((handle, ⟨client, false⟩) :: entries)
      [.stopped handle] :=
  fun _ holds => ⟨⟨⟨client, (holds.entry_iff _ _).mpr List.mem_cons_self⟩, trivial⟩,
    holds.setRunning false⟩

theorem moves_destroyed :
    Moves ((handle, ⟨client, false⟩) :: entries) entries [.destroyed handle] := by
  intro table holds
  obtain ⟨absent, distinct⟩ := List.nodup_cons.mp holds.distinct
  refine ⟨⟨⟨client, (holds.entry_iff _ _).mpr List.mem_cons_self⟩, trivial⟩, distinct,
    fun other entry => ?_⟩
  change Function.update table handle none other = some entry ↔ _
  by_cases same : other = handle
  · subst same
    rw [Function.update_self]
    exact iff_of_false (Option.some_ne_none _).symm fun member =>
      absent (List.mem_map.mpr ⟨_, member, rfl⟩)
  · rw [Function.update_of_ne same, holds.entry_iff, List.mem_cons,
      or_iff_right fun equal => same (congrArg Prod.fst equal)]

theorem moves_freed (unused : ∀ entry ∈ entries, entry.2.client ≠ client) :
    Moves entries entries [.freed client] :=
  fun _ holds => ⟨⟨fun _ entry found => unused _ ((holds.entry_iff _ entry).mp found), trivial⟩,
    holds⟩

end Moves

end HandleTable
