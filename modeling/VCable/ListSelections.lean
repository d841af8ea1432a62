import Mathlib.Data.List.Basic
import Mathlib.Data.List.Perm.Basic
import Mathlib.Data.List.Nodup
import Mathlib.Tactic.Common

/-!
# Selecting from lists

Entries of a list that are found by their keys or by their numbers, and passes
over a list that take some of its entries.
-/

namespace ListSelections

theorem mapM_eq_some_map {α β : Type} {convert : α → Option β} {image : α → β} {values : List α}
    (converts : ∀ value ∈ values, convert value = some (image value)) :
    values.mapM convert = some (values.map image) := by
  induction values with
  | nil => rfl
  | cons value values ih =>
      rw [List.mapM_cons, converts value List.mem_cons_self,
        ih fun other member => converts other (List.mem_cons_of_mem _ member)]
      rfl

/-- The place of an item is the first one with its key, if the keys differ. -/
theorem findIdx?_eq_of_nodup {κ α : Type*} [DecidableEq κ] {keyOf : α → κ} {items : List α}
    (distinct : (items.map keyOf).Nodup) {index : Nat} {item : α}
    (found : items[index]? = some item) :
    (items.findIdx? fun other => keyOf other = keyOf item) = some index := by
  obtain ⟨within, rfl⟩ := List.getElem?_eq_some_iff.mp found
  refine List.findIdx?_eq_some_iff_getElem.mpr ⟨within, decide_eq_true rfl, ?_⟩
  intro earlier before same
  refine List.nodup_iff_getElem?_ne_getElem?.mp distinct earlier index before
    (by rwa [List.length_map]) ?_
  rw [List.getElem?_map, List.getElem?_map, List.getElem?_eq_getElem (Nat.lt_trans before within),
    List.getElem?_eq_getElem within]
  exact congrArg some (of_decide_eq_true same)

/-- Groups of the entries of a list, one for each of their keys, have every entry once. -/
theorem flatMap_filter_perm {κ α : Type*} [DecidableEq κ] {keyOf : α → κ} {keys : List κ}
    {entries : List α} (distinct : keys.Nodup) (present : ∀ entry ∈ entries, keyOf entry ∈ keys) :
    (keys.flatMap fun key => entries.filter fun entry => keyOf entry = key).Perm entries := by
  induction keys generalizing entries with
  | nil =>
      cases entries with
      | nil => exact List.Perm.refl _
      | cons entry entries => cases present entry List.mem_cons_self
  | cons key keys ih =>
      obtain ⟨absent, distinct⟩ := List.nodup_cons.mp distinct
      have others : ∀ entry ∈ entries.filter (fun entry => !decide (keyOf entry = key)),
          keyOf entry ∈ keys := by
        intro entry member
        obtain ⟨within, other⟩ := List.mem_filter.mp member
        rcases List.mem_cons.mp (present entry within) with same | later
        · simp [same] at other
        · exact later
      have rest : (keys.flatMap fun other => entries.filter fun entry => keyOf entry = other) =
          keys.flatMap fun other =>
            (entries.filter fun entry => !decide (keyOf entry = key)).filter fun entry =>
              keyOf entry = other := by
        refine List.flatMap_congr fun other member => ?_
        rw [List.filter_filter]
        refine List.filter_congr fun entry _ => ?_
        by_cases same : keyOf entry = other
        · have different : keyOf entry ≠ key := fun equal => absent (equal ▸ same ▸ member)
          simp [same, same ▸ different]
        · simp [same]
      rw [List.flatMap_cons, rest]
      exact ((ih distinct others).append_left _).trans (List.filter_append_perm _ _)

/-- The entry of a number in a numbered list. -/
theorem filter_zipIdx {α : Type*} {values : List α} {start index : Nat} {value : α}
    (found : values[index]? = some value) :
    (values.zipIdx start).filter (fun entry => entry.2 = start + index) =
      [(value, start + index)] := by
  induction values generalizing start index with
  | nil => cases found
  | cons first values ih =>
      rw [List.zipIdx_cons]
      cases index with
      | zero =>
          obtain rfl : first = value := Option.some.inj found
          rw [List.filter_cons_of_pos (by simp), List.filter_eq_nil_iff.mpr]
          · rfl
          · intro entry member own
            have later := List.le_snd_of_mem_zipIdx member
            have same := of_decide_eq_true own
            omega
      | succ index =>
          rw [List.filter_cons_of_neg (by simp)]
          have later := @ih (start + 1) index found
          rw [Nat.add_assoc, Nat.add_comm 1] at later
          exact later

/-- Values for some items are the values of these items. -/
theorem flatMap_ite {α β : Type*} (keep : α → Prop) [DecidablePred keep] (items : List α)
    (values : α → List β) :
    (items.flatMap fun item => if keep item then values item else []) =
      (items.filter fun item => keep item).flatMap values := by
  induction items with
  | nil => rfl
  | cons item items ih => by_cases kept : keep item <;> simp [kept, ih]

end ListSelections
