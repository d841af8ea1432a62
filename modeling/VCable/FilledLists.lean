import Mathlib.Data.List.Basic
import Mathlib.Tactic.Common

/-!
# Filling a range of a list

A loop that stores one value after the other into consecutive places of an
array, and what the array holds afterwards.
-/

namespace FilledLists

variable {α : Type*}

/-- The list after the first values were stored from a place on. -/
def fill (values : Nat → α) (base : Nat) : Nat → List α → List α
  | 0, stored => stored
  | count + 1, stored => (fill values base count stored).set (base + count) (values count)

@[simp]
theorem length_fill (values : Nat → α) (base count : Nat) (stored : List α) :
    (fill values base count stored).length = stored.length := by
  induction count with
  | zero => rfl
  | succ count ih => rw [fill, List.length_set, ih]

theorem getElem?_fill {values : Nat → α} {base count : Nat} {stored : List α}
    (inside : base + count ≤ stored.length) (index : Nat) :
    (fill values base count stored)[index]? =
      if base ≤ index ∧ index < base + count then some (values (index - base))
      else stored[index]? := by
  induction count with
  | zero =>
      rw [fill, if_neg]
      omega
  | succ count ih =>
      have before := ih (by omega)
      rw [fill]
      by_cases last : base + count = index
      · subst last
        rw [List.getElem?_set_self (by rw [length_fill]; omega), if_pos (by omega),
          Nat.add_sub_cancel_left]
      · rw [List.getElem?_set_ne last, before]
        by_cases earlier : base ≤ index ∧ index < base + count
        · rw [if_pos earlier, if_pos (by omega)]
        · rw [if_neg earlier, if_neg (by omega)]

theorem getElem?_fill_of_lt {values : Nat → α} {base count : Nat} {stored : List α}
    (inside : base + count ≤ stored.length) {offset : Nat} (within : offset < count) :
    (fill values base count stored)[base + offset]? = some (values offset) := by
  rw [getElem?_fill inside, if_pos (by omega), Nat.add_sub_cancel_left]

theorem getElem?_fill_of_outside {values : Nat → α} {base count : Nat} {stored : List α}
    (inside : base + count ≤ stored.length) {index : Nat}
    (outside : index < base ∨ base + count ≤ index) :
    (fill values base count stored)[index]? = stored[index]? := by
  rw [getElem?_fill inside, if_neg (by omega)]

/-- Places of different rows of the same width are different. -/
theorem row_disjoint {width row other column : Nat} (within : column < width)
    (differ : row ≠ other) :
    row * width + column < other * width ∨ (other + 1) * width ≤ row * width + column := by
  rcases Nat.lt_or_gt_of_ne differ with before | after
  · refine Or.inl ?_
    have next := Nat.mul_le_mul_right width (Nat.succ_le_of_lt before)
    rw [Nat.succ_mul] at next
    omega
  · refine Or.inr ?_
    have next := Nat.mul_le_mul_right width (Nat.succ_le_of_lt after)
    exact Nat.le_add_right_of_le next

end FilledLists
