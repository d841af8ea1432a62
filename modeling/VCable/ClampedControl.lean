import Mathlib.Algebra.Order.Field.Basic
import Mathlib.Tactic.FieldSimp
import Mathlib.Tactic.Linarith
import Mathlib.Tactic.Ring

/-!
# Clamped proportional control

A loop that measures its error with some noise and takes a proportional part of
it away, up to a limit, while a steady drift adds to the error.  If the drift
is within the limit, the error never leaves a band around zero.
-/

namespace ClampedControl

variable {α : Type*} [Field α] [LinearOrder α]

/-- A correction proportional to the error that reaches the limit at the given
span, and is clamped there. -/
def correction (limit span error : α) : α :=
  max (-limit) (min (error / span * limit) limit)

variable [IsStrictOrderedRing α] {limit span drift error noise : α}

theorem correction_neg (nonneg : 0 ≤ limit) (error : α) :
    correction limit span (-error) = -correction limit span error := by
  have ordered : -limit ≤ limit := by linarith
  rw [correction, correction, neg_div, neg_mul, neg_sup, neg_neg, neg_inf, max_min_distrib_left,
    max_eq_right ordered, min_comm, max_comm]

theorem correction_mono (nonneg : 0 ≤ limit) (positive : 0 < span) {lower upper : α}
    (le : lower ≤ upper) : correction limit span lower ≤ correction limit span upper := by
  unfold correction
  gcongr

/-- Where the span is no less than the limit, the correction grows no faster
than the error. -/
theorem correction_sub_le (positive : 0 < span) (gentle : limit ≤ span)
    {lower upper : α} (le : lower ≤ upper) :
    correction limit span upper - correction limit span lower ≤ upper - lower := by
  have scaled : upper / span * limit - lower / span * limit ≤ upper - lower := by
    have ratio : limit / span ≤ 1 := (div_le_one positive).mpr gentle
    calc upper / span * limit - lower / span * limit
        = (upper - lower) * (limit / span) := by ring
      _ ≤ upper - lower := mul_le_of_le_one_right (sub_nonneg.mpr le) ratio
  have clampedMin : min (upper / span * limit) limit ≤
      min (lower / span * limit) limit + (upper - lower) := by
    rw [← min_add_add_right]
    exact min_le_min (sub_le_iff_le_add'.mp scaled) (le_add_of_nonneg_right (sub_nonneg.mpr le))
  unfold correction
  rw [sub_le_iff_le_add']
  refine max_le ?_ ?_
  · exact (le_max_left _ _).trans (le_add_of_nonneg_right (sub_nonneg.mpr le))
  · exact clampedMin.trans (add_le_add (le_max_right _ _) le_rfl)

/-- At the edge of the band the correction makes up for the drift. -/
theorem correction_balance (limit_pos : 0 < limit) (positive : 0 < span)
    (within : |drift| ≤ limit) :
    correction limit span (span * |drift| / limit) = |drift| := by
  have scaled : span * |drift| / limit / span * limit = |drift| := by
    field_simp
  rw [correction, scaled, min_eq_left within, max_eq_right]
  exact (neg_nonpos.mpr limit_pos.le).trans (abs_nonneg drift)

theorem band_upper (limit_pos : 0 < limit) (positive : 0 < span) (gentle : limit ≤ span)
    (within : |drift| ≤ limit) (noisy : -1 ≤ noise)
    (inside : error ≤ span * |drift| / limit + 1) :
    error + drift - correction limit span (error + noise) ≤ span * |drift| / limit + 1 := by
  have measured := correction_mono limit_pos.le positive
    (show error - 1 ≤ error + noise by linarith)
  have lipschitz := correction_sub_le positive gentle (sub_le_iff_le_add.mpr inside)
  rw [correction_balance limit_pos positive within] at lipschitz
  linarith [le_abs_self drift]

/-- One round of the loop stays in the band. -/
theorem band_step (limit_pos : 0 < limit) (positive : 0 < span) (gentle : limit ≤ span)
    (within : |drift| ≤ limit) (noisy : |noise| ≤ 1)
    (inside : |error| ≤ span * |drift| / limit + 1) :
    |error + drift - correction limit span (error + noise)| ≤ span * |drift| / limit + 1 := by
  obtain ⟨noiseLower, noiseUpper⟩ := abs_le.mp noisy
  obtain ⟨lower, upper⟩ := abs_le.mp inside
  refine abs_le.mpr ⟨?_, band_upper limit_pos positive gentle within noiseLower upper⟩
  have mirrored := @band_upper _ _ _ _ limit span (-drift) (-error) (-noise) limit_pos positive
    gentle (by rwa [abs_neg]) (neg_le_neg noiseUpper) (by rw [abs_neg]; exact neg_le.mp lower)
  rw [← neg_add error noise, correction_neg limit_pos.le, abs_neg] at mirrored
  linarith

end ClampedControl
