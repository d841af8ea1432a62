import Mathlib.Algebra.BigOperators.Group.Finset.Basic
import Mathlib.Algebra.BigOperators.Ring.Finset

/-!
# Row-major arrays

The places of a table that is stored row after row, and the product of a row
with a column as a sum over the places.
-/

namespace RowMajor

/-! ## Places -/

section Places

variable {rows width row column other another : Nat}

theorem place_lt (rowWithin : row < rows) (columnWithin : column < width) :
    row * width + column < rows * width := by
  have next : (row + 1) * width ≤ rows * width := Nat.mul_le_mul_right width rowWithin
  rw [Nat.succ_mul] at next
  omega

@[simp]
theorem place_div (within : column < width) : (row * width + column) / width = row := by
  rw [Nat.mul_comm, Nat.mul_add_div (Nat.zero_lt_of_lt within), Nat.div_eq_of_lt within,
    Nat.add_zero]

@[simp]
theorem place_mod (within : column < width) : (row * width + column) % width = column := by
  rw [Nat.mul_comm, Nat.mul_add_mod, Nat.mod_eq_of_lt within]

theorem place_eq_iff (within : column < width) (otherWithin : another < width) :
    row * width + column = other * width + another ↔ row = other ∧ column = another := by
  constructor
  · intro same
    have rows := congrArg (· / width) same
    have columns := congrArg (· % width) same
    simp only [place_div within, place_div otherWithin] at rows
    simp only [place_mod within, place_mod otherWithin] at columns
    exact ⟨rows, columns⟩
  · rintro ⟨rfl, rfl⟩
    rfl

/-- Every place is the one of its row and its column. -/
theorem exists_place {place : Nat} (within : place < rows * width) :
    ∃ row column, row < rows ∧ column < width ∧ row * width + column = place := by
  have positive : 0 < width := by
    by_contra! none
    rw [Nat.le_zero.mp none, Nat.mul_zero] at within
    exact Nat.not_lt_zero _ within
  refine ⟨place / width, place % width, ?_, Nat.mod_lt _ positive, Nat.div_add_mod' _ _⟩
  exact (Nat.div_lt_iff_lt_mul positive).mpr within

end Places

/-! ## Rows -/

section Rows

variable {α : Type*} {rows width row : Nat} {values : List α}

/-- Changing the elements of a slice in their place. -/
theorem append_mapIdx_slice {start count : Nat} (within : start + count ≤ values.length)
    (update : Nat → α → α) :
    values.take start ++ ((values.drop start).take count).mapIdx update ++
        (values.drop start).drop count =
      values.mapIdx fun place value =>
        if start ≤ place ∧ place < start + count then update (place - start) value else value := by
  have headLength : (values.take start).length = start := List.length_take_of_le (by omega)
  have sliceLength : (((values.drop start).take count).mapIdx update).length = count := by
    rw [List.length_mapIdx, List.length_take, List.length_drop]
    omega
  refine List.ext_getElem? fun place => ?_
  rw [List.getElem?_mapIdx, List.append_assoc]
  rcases Nat.lt_or_ge place start with before | inside
  · have outside : ¬ (start ≤ place ∧ place < start + count) := by omega
    rw [List.getElem?_append_left (by omega), List.getElem?_take_of_lt before]
    simp [outside]
  obtain ⟨offset, rfl⟩ := Nat.exists_eq_add_of_le inside
  rw [List.getElem?_append_right (by omega), headLength, Nat.add_sub_cancel_left]
  rcases Nat.lt_or_ge offset count with own | after
  · have member : start ≤ start + offset ∧ start + offset < start + count := by omega
    rw [List.getElem?_append_left (by omega), List.getElem?_mapIdx, List.getElem?_take_of_lt own,
      List.getElem?_drop]
    simp [member]
  · rw [List.getElem?_append_right (by omega), sliceLength, List.getElem?_drop, List.getElem?_drop,
      Nat.add_sub_cancel' after]
    simp [Nat.not_lt.mpr after]

/-- The places of the first columns of a row. -/
theorem place_mem_slice {place count : Nat} (positive : 0 < width) (narrow : count ≤ width) :
    row * width ≤ place ∧ place < row * width + count ↔
      place / width = row ∧ place % width < count := by
  have remainder := Nat.mod_lt place positive
  have parts := Nat.div_add_mod' place width
  constructor
  · rintro ⟨after, before⟩
    obtain ⟨column, rfl⟩ := Nat.exists_eq_add_of_le after
    have own : column < width := by omega
    rw [place_div own, place_mod own]
    omega
  · rintro ⟨rfl, inside⟩
    omega

/-- Changing the elements of one row in their place. -/
theorem append_mapIdx_row (positive : 0 < width) (length : values.length = rows * width)
    (within : row < rows) (update : Nat → α → α) :
    values.take (row * width) ++ ((values.drop (row * width)).take width).mapIdx update ++
        (values.drop (row * width)).drop width =
      values.mapIdx fun place value =>
        if place / width = row then update (place % width) value else value := by
  have next : (row + 1) * width ≤ rows * width := Nat.mul_le_mul_right width within
  rw [Nat.succ_mul] at next
  rw [append_mapIdx_slice (length ▸ next)]
  refine congrArg (List.mapIdx · values) ?_
  funext place value
  have member := @place_mem_slice width row place width positive le_rfl
  refine if_ctx_congr (member.trans (and_iff_left (Nat.mod_lt place positive))) ?_ fun _ => rfl
  rintro rfl
  have parts := Nat.div_add_mod' place width
  rw [show place - place / width * width = place % width by omega]

end Rows

/-! ## Products -/

section Products

variable {α : Type*} [CommSemiring α]

/-- The sum of the products of two lists, as a loop adds them up. -/
def dot (coefficients samples : List α) : α :=
  ((coefficients.zip samples).map fun (coefficient, sample) => coefficient * sample).foldl
    (fun sum product => sum + product) 0

theorem foldl_add (start : α) (values : List α) :
    values.foldl (fun sum value => sum + value) start = start + values.sum := by
  induction values generalizing start with
  | nil => simp
  | cons value values ih => rw [List.foldl_cons, ih, List.sum_cons, add_assoc]

theorem dot_eq_sum {coefficients samples : List α} (same : coefficients.length = samples.length) :
    dot coefficients samples =
      ∑ index ∈ Finset.range samples.length, coefficients.getD index 0 * samples.getD index 0 := by
  rw [dot, foldl_add, zero_add]
  induction coefficients generalizing samples with
  | nil => simp [← same]
  | cons coefficient coefficients ih =>
      cases samples with
      | nil => cases same
      | cons sample samples =>
          rw [List.zip_cons_cons, List.map_cons, List.sum_cons, ih (Nat.succ.inj same),
            List.length_cons, Finset.sum_range_succ']
          simp [add_comm]

/-- Steps that each add to the elements at their places add up. -/
theorem foldlM_mapIdx_add {ι : Type*} {step : List α → ι → Option (List α)}
    {addend : ι → Nat → α} {values : List ι} {length : Nat}
    (steps : ∀ value ∈ values, ∀ output : List α, output.length = length →
      step output value = some (output.mapIdx fun place sample => sample + addend value place))
    {output : List α} (sized : output.length = length) :
    values.foldlM step output = some (output.mapIdx fun place sample =>
      sample + (values.map fun value => addend value place).sum) := by
  induction values generalizing output with
  | nil => exact congrArg some (List.ext_getElem? fun place => by simp)
  | cons value values ih =>
      rw [List.foldlM_cons, steps value List.mem_cons_self output sized]
      simp only [Option.bind_eq_bind, Option.bind_some]
      rw [ih (fun other member => steps other (List.mem_cons_of_mem _ member))
        ((List.length_mapIdx ..).trans sized), List.mapIdx_mapIdx]
      refine congrArg some (congrArg (List.mapIdx · output) ?_)
      funext place sample
      simp only [Function.comp_apply, List.map_cons, List.sum_cons, add_assoc]

end Products

end RowMajor
