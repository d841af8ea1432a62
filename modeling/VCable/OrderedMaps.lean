import Mathlib.Data.List.Basic
import Mathlib.Tactic.Common

/-!
# Ordered maps keyed by their values

Additions to the extensional ordered map: its values in key order, maps in
which every entry sits under a key computed from its value, and the insertion
of a whole list of such values.  Two lists with the same members give the same
map, which is what makes the result of a rebuild independent of its order.
-/

namespace Std.ExtTreeMap

variable {κ ν : Type*} {cmp : κ → κ → Ordering} [TransCmp cmp]

/-- The values of the map in the order of their keys. -/
def valuesInOrder (map : ExtTreeMap κ ν cmp) : List ν :=
  map.toList.map Prod.snd

@[simp]
theorem valuesInOrder_empty : (∅ : ExtTreeMap κ ν cmp).valuesInOrder = [] := by
  simp [valuesInOrder]

variable [LawfulEqCmp cmp]

theorem getElem?_insert_of_ne {map : ExtTreeMap κ ν cmp} {key other : κ} {value : ν}
    (different : key ≠ other) : (map.insert key value)[other]? = map[other]? := by
  simp [getElem?_insert, different]

theorem getElem?_erase_of_ne {map : ExtTreeMap κ ν cmp} {key other : κ}
    (different : key ≠ other) : (map.erase key)[other]? = map[other]? := by
  simp [getElem?_erase, different]

theorem erase_of_none {map : ExtTreeMap κ ν cmp} {key : κ} (absent : map[key]? = none) :
    map.erase key = map := by
  apply ext_getElem?
  intro other
  by_cases same : key = other
  · rw [← same, getElem?_erase_self, absent]
  · rw [getElem?_erase_of_ne same]

theorem erase_insert_of_none {map : ExtTreeMap κ ν cmp} {key : κ} {value : ν}
    (fresh : map[key]? = none) : (map.insert key value).erase key = map := by
  apply ext_getElem?
  intro other
  by_cases same : key = other
  · rw [← same, getElem?_erase_self, fresh]
  · rw [getElem?_erase_of_ne same, getElem?_insert_of_ne same]

theorem insert_erase_of_some {map : ExtTreeMap κ ν cmp} {key : κ} {value : ν}
    (present : map[key]? = some value) : (map.erase key).insert key value = map := by
  apply ext_getElem?
  intro other
  by_cases same : key = other
  · rw [← same, getElem?_insert_self, present]
  · rw [getElem?_insert_of_ne same, getElem?_erase_of_ne same]

theorem mem_valuesInOrder {map : ExtTreeMap κ ν cmp} {value : ν} :
    value ∈ map.valuesInOrder ↔ ∃ key : κ, map[key]? = some value := by
  simp [valuesInOrder]

theorem mem_valuesInOrder_insert {map : ExtTreeMap κ ν cmp} {key : κ} {value other : ν}
    (fresh : map[key]? = none) :
    other ∈ (map.insert key value).valuesInOrder ↔ other = value ∨ other ∈ map.valuesInOrder := by
  simp only [mem_valuesInOrder]
  constructor
  · rintro ⟨place, found⟩
    by_cases same : key = place
    · subst same
      rw [getElem?_insert_self] at found
      exact Or.inl (Option.some.inj found).symm
    · rw [getElem?_insert_of_ne same] at found
      exact Or.inr ⟨place, found⟩
  · rintro (rfl | ⟨place, found⟩)
    · exact ⟨key, getElem?_insert_self⟩
    · refine ⟨place, ?_⟩
      rw [getElem?_insert_of_ne, found]
      rintro rfl
      rw [fresh] at found
      cases found

theorem mem_of_mem_valuesInOrder_erase {map : ExtTreeMap κ ν cmp} {key : κ} {value : ν}
    (member : value ∈ (map.erase key).valuesInOrder) : value ∈ map.valuesInOrder := by
  rw [mem_valuesInOrder] at member ⊢
  obtain ⟨place, found⟩ := member
  refine ⟨place, ?_⟩
  by_cases same : key = place
  · subst same
    simp at found
  · rwa [getElem?_erase_of_ne same] at found

/-- Every entry sits under the key of its value. -/
def KeyedBy (keyOf : ν → κ) (map : ExtTreeMap κ ν cmp) : Prop :=
  ∀ key value, map[key]? = some value → keyOf value = key

/-- Insert the values of a list one after another under their own keys. -/
def insertAll (keyOf : ν → κ) (map : ExtTreeMap κ ν cmp) (values : List ν) :
    ExtTreeMap κ ν cmp :=
  values.foldl (fun partialMap value => partialMap.insert (keyOf value) value) map

section Keyed

variable {keyOf : ν → κ} {map : ExtTreeMap κ ν cmp}

omit [LawfulEqCmp cmp] in
theorem KeyedBy.empty : KeyedBy keyOf (∅ : ExtTreeMap κ ν cmp) := by
  intro key value found
  simp at found

theorem KeyedBy.insert (keyed : map.KeyedBy keyOf) (value : ν) :
    (map.insert (keyOf value) value).KeyedBy keyOf := by
  intro key other found
  by_cases same : keyOf value = key
  · subst same
    rw [getElem?_insert_self] at found
    rw [Option.some.inj found]
  · rw [getElem?_insert_of_ne same] at found
    exact keyed key other found

theorem KeyedBy.erase (keyed : map.KeyedBy keyOf) (key : κ) :
    (map.erase key).KeyedBy keyOf := by
  intro other value found
  by_cases same : key = other
  · subst same
    simp at found
  · rw [getElem?_erase_of_ne same] at found
    exact keyed other value found

theorem KeyedBy.mem_iff (keyed : map.KeyedBy keyOf) {value : ν} :
    value ∈ map.valuesInOrder ↔ map[keyOf value]? = some value := by
  rw [mem_valuesInOrder]
  constructor
  · rintro ⟨key, found⟩
    rw [keyed key value found]
    exact found
  · intro found
    exact ⟨keyOf value, found⟩

theorem KeyedBy.map_keyOf (keyed : map.KeyedBy keyOf) :
    map.valuesInOrder.map keyOf = map.keys := by
  rw [← map_fst_toList_eq_keys, valuesInOrder, List.map_map]
  apply List.map_congr_left
  rintro ⟨key, value⟩ member
  exact keyed key value (mem_toList_iff_getElem?_eq_some.mp member)

theorem KeyedBy.ordered (keyed : map.KeyedBy keyOf) :
    map.valuesInOrder.Pairwise fun first second => cmp (keyOf first) (keyOf second) = .lt := by
  have keys : (map.valuesInOrder.map keyOf).Pairwise fun first second =>
      cmp first second = .lt := by
    rw [keyed.map_keyOf]
    exact ordered_keys
  exact List.pairwise_map.mp keys

theorem KeyedBy.nodup_keys (keyed : map.KeyedBy keyOf) :
    (map.valuesInOrder.map keyOf).Nodup := by
  rw [List.Nodup, List.pairwise_map]
  apply keyed.ordered.imp
  intro first second less same
  have reflexive : cmp (keyOf second) (keyOf second) = .eq := ReflCmp.compare_self
  rw [same, reflexive] at less
  cases less

theorem KeyedBy.insertAll (keyed : map.KeyedBy keyOf) (values : List ν) :
    (map.insertAll keyOf values).KeyedBy keyOf := by
  induction values generalizing map with
  | nil => exact keyed
  | cons value values ih => exact ih (keyed.insert value)

omit [LawfulEqCmp cmp] in
@[simp]
theorem insertAll_nil : map.insertAll keyOf [] = map := rfl

omit [LawfulEqCmp cmp] in
@[simp]
theorem insertAll_cons {value : ν} {values : List ν} :
    map.insertAll keyOf (value :: values) =
      (map.insert (keyOf value) value).insertAll keyOf values := rfl

omit [LawfulEqCmp cmp] in
theorem insertAll_append {first second : List ν} :
    map.insertAll keyOf (first ++ second) =
      (map.insertAll keyOf first).insertAll keyOf second :=
  List.foldl_append

theorem getElem?_insertAll_of_notMem {key : κ} {values : List ν}
    (absent : ∀ value ∈ values, keyOf value ≠ key) :
    (map.insertAll keyOf values)[key]? = map[key]? := by
  induction values generalizing map with
  | nil => rfl
  | cons value values ih =>
      rw [insertAll_cons, ih fun other otherMem => absent other (by simp [otherMem]),
        getElem?_insert_of_ne (absent value (by simp))]

theorem getElem?_insertAll_of_mem {value : ν} {values : List ν}
    (distinct : (values.map keyOf).Nodup) (member : value ∈ values) :
    (map.insertAll keyOf values)[keyOf value]? = some value := by
  induction values generalizing map with
  | nil => simp at member
  | cons head values ih =>
      rw [List.map_cons, List.nodup_cons] at distinct
      rw [insertAll_cons]
      rcases List.mem_cons.mp member with rfl | later
      · rw [getElem?_insertAll_of_notMem, getElem?_insert_self]
        intro other otherMem same
        exact distinct.1 (List.mem_map.mpr ⟨other, otherMem, same⟩)
      · exact ih distinct.2 later

/-- Lookup in a map built from values with distinct keys. -/
theorem getElem?_insertAll_empty {key : κ} {value : ν} {values : List ν}
    (distinct : (values.map keyOf).Nodup) :
    ((∅ : ExtTreeMap κ ν cmp).insertAll keyOf values)[key]? = some value ↔
      value ∈ values ∧ keyOf value = key := by
  constructor
  · intro found
    have keyEq : keyOf value = key := KeyedBy.empty.insertAll values key value found
    refine ⟨?_, keyEq⟩
    by_contra absent
    by_cases other : ∃ candidate ∈ values, keyOf candidate = key
    · obtain ⟨candidate, candidateMem, rfl⟩ := other
      rw [getElem?_insertAll_of_mem distinct candidateMem] at found
      exact absent (Option.some.inj found ▸ candidateMem)
    · push Not at other
      rw [getElem?_insertAll_of_notMem other] at found
      simp at found
  · rintro ⟨member, rfl⟩
    exact getElem?_insertAll_of_mem distinct member

theorem mem_valuesInOrder_insertAll_empty {value : ν} {values : List ν}
    (distinct : (values.map keyOf).Nodup) :
    value ∈ ((∅ : ExtTreeMap κ ν cmp).insertAll keyOf values).valuesInOrder ↔
      value ∈ values := by
  simp [mem_valuesInOrder, getElem?_insertAll_empty distinct]

/-- The map built from a list depends only on the list's members. -/
theorem insertAll_empty_congr {first second : List ν}
    (firstDistinct : (first.map keyOf).Nodup) (secondDistinct : (second.map keyOf).Nodup)
    (sameMembers : ∀ value, value ∈ first ↔ value ∈ second) :
    (∅ : ExtTreeMap κ ν cmp).insertAll keyOf first =
      (∅ : ExtTreeMap κ ν cmp).insertAll keyOf second := by
  apply ext_getElem?
  intro key
  apply Option.ext
  intro value
  rw [getElem?_insertAll_empty firstDistinct, getElem?_insertAll_empty secondDistinct,
    sameMembers]

/-- A keyed map is the one built from its own values. -/
theorem KeyedBy.insertAll_valuesInOrder (keyed : map.KeyedBy keyOf) :
    (∅ : ExtTreeMap κ ν cmp).insertAll keyOf map.valuesInOrder = map := by
  apply ext_getElem?
  intro key
  apply Option.ext
  intro value
  rw [getElem?_insertAll_empty keyed.nodup_keys, keyed.mem_iff]
  constructor
  · rintro ⟨found, rfl⟩
    exact found
  · intro found
    rw [keyed key value found]
    exact ⟨found, rfl⟩

end Keyed

section Entries

/-- Change the value of a key, or the default where the map has none. -/
def changeEntry (map : ExtTreeMap κ ν cmp) (default : ν) (key : κ) (change : ν → ν) :
    ExtTreeMap κ ν cmp :=
  map.insert key (change (map[key]?.getD default))

/-- Changes of entries, one after another. -/
def changeEntries (map : ExtTreeMap κ ν cmp) (default : ν) (changes : List (κ × (ν → ν))) :
    ExtTreeMap κ ν cmp :=
  changes.foldl (fun partialMap change => partialMap.changeEntry default change.1 change.2) map

variable {map : ExtTreeMap κ ν cmp} {default : ν}

omit [LawfulEqCmp cmp] in
theorem changeEntries_append {first second : List (κ × (ν → ν))} :
    map.changeEntries default (first ++ second) =
      (map.changeEntries default first).changeEntries default second :=
  List.foldl_append

/-- An entry gets the changes of its own key, in their order. -/
theorem getElem?_changeEntries [DecidableEq κ] {changes : List (κ × (ν → ν))} {key : κ} :
    (map.changeEntries default changes)[key]? =
      if (changes.filter (·.1 = key)).isEmpty then map[key]?
      else some ((changes.filter (·.1 = key)).foldl (fun value change => change.2 value)
        (map[key]?.getD default)) := by
  induction changes generalizing map with
  | nil => rfl
  | cons change changes ih =>
      have first : map.changeEntries default (change :: changes) =
          (map.changeEntry default change.1 change.2).changeEntries default changes := rfl
      rw [first, ih]
      by_cases own : change.1 = key
      · subst own
        rw [List.filter_cons_of_pos (by simp), changeEntry, getElem?_insert_self]
        split
        · rename_i none
          rw [List.isEmpty_iff.mp none]
          rfl
        · rfl
      · rw [List.filter_cons_of_neg (by simpa using own), changeEntry, getElem?_insert_of_ne own]

end Entries

end Std.ExtTreeMap
