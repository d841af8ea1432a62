import Mathlib.Algebra.Order.Archimedean.Basic
import Mathlib.Algebra.Order.Field.Basic
import Mathlib.Tactic.Linarith
import Mathlib.Tactic.LinearCombination
import Mathlib.Tactic.Ring

/-!
# Reading at the fill level of a queue

A source puts whole frames into a queue at a rate that deviates from one, and a
reader takes them out at a rate that follows the number of queued frames.  The
reader sees whole frames only, and only on one side of the target can it be
slowed down as much as sped up.  A potential of the fill level tells for which
deviations the queue never runs dry.
-/

namespace FillLevelControl

variable {α : Type*} [Field α] [LinearOrder α] [IsStrictOrderedRing α]

/-- A correction of the speed that is proportional to the distance from the target,
and is clamped.  An empty queue is not far enough to be clamped. -/
structure Control (α : Type*) [Field α] [LinearOrder α] where
  target : Nat
  gain : α
  limit : α
  target_pos : 1 ≤ target
  gain_pos : 0 < gain
  gain_lt_one : gain < 1
  gentle : target * gain ≤ limit

/-- The reader when it looks at the queue: the part of a frame that it has read,
the frames in the queue, what the source has still to gather for its next
frame, and the frames that came last. -/
structure Level (α : Type*) where
  phase : α
  queued : Nat
  wait : α
  fresh : Nat

namespace Control

variable (control : Control α)

def correction (queued : Nat) : α :=
  max (-control.limit) (min ((queued - control.target) * control.gain) control.limit)

/-- The fill level can make up for the deviation: it is not slower than the reader
with one frame left. -/
def Absorbs (deviation : α) : Prop :=
  -((control.target - 1) * control.gain) ≤ deviation * (1 - control.gain)

/-- The distance that the queue never exceeds. -/
def reach : α :=
  control.target + control.limit / control.gain + 2 * control.limit

theorem limit_pos : 0 < control.limit := by
  have target : (1 : α) ≤ control.target := by exact_mod_cast control.target_pos
  have positive := mul_pos (zero_lt_one.trans_le target) control.gain_pos
  exact positive.trans_le control.gentle

/-- Only fast reading is ever clamped. -/
theorem correction_le (queued : Nat) :
    control.correction queued ≤ (queued - control.target) * control.gain := by
  have fill : (0 : α) ≤ queued * control.gain :=
    mul_nonneg queued.cast_nonneg control.gain_pos.le
  have gentle := control.gentle
  refine max_le ?_ (min_le_left _ _)
  linarith

omit [IsStrictOrderedRing α] in
theorem neg_limit_le (queued : Nat) : -control.limit ≤ control.correction queued :=
  le_max_left _ _

/-- The reader is not slower than for fewer frames. -/
theorem le_correction {fewer queued : Nat} (le : fewer ≤ queued)
    (low : fewer ≤ control.target) :
    (fewer - control.target) * control.gain ≤ control.correction queued := by
  have fewer_le : (fewer : α) ≤ queued := by exact_mod_cast le
  have low_le : (fewer : α) ≤ control.target := by exact_mod_cast low
  refine le_max_of_le_right (le_min ?_ ?_)
  · exact mul_le_mul_of_nonneg_right (by linarith) control.gain_pos.le
  · have slow := mul_nonneg (sub_nonneg.mpr low_le) control.gain_pos.le
    linarith [control.limit_pos]

/-- Far above the target the reader is as fast as it gets. -/
theorem correction_of_full {queued : Nat}
    (full : control.limit ≤ (queued - control.target) * control.gain) :
    control.correction queued = control.limit := by
  have positive := control.limit_pos
  rw [correction, min_eq_right full, max_eq_right (by linarith)]

end Control

/-! ## Levels -/

namespace Level

/-- What holds at every look: the source has put in a frame whenever it could. -/
structure Regular (deviation : α) (level : Level α) : Prop where
  phase_nonneg : 0 ≤ level.phase
  phase_lt_one : level.phase < 1
  wait_pos : 0 < level.wait
  wait_le_one : level.wait ≤ 1
  wait_le : level.wait ≤ level.fresh - deviation
  fresh_le : level.fresh ≤ level.queued

/-- From one look to the next, while the queue has the frames that are taken. -/
structure Turn (control : Control α) (deviation : α) (level later : Level α) : Prop where
  taken : ∃ taken : Nat,
    later.phase + taken = level.phase + 1 + control.correction level.queued ∧
      later.queued + taken = level.queued + later.fresh
  wait_eq : later.wait = level.wait - 1 - deviation + later.fresh

/-- How far the reader is from the source. -/
def lead (level : Level α) : α :=
  level.phase - level.queued + level.wait

/-- The lead without the part of it that comes and goes with every frame of the
source. -/
def potential (control : Control α) (level : Level α) : α :=
  level.lead - control.gain * level.wait - control.gain * (1 - level.fresh)

variable {control : Control α} {deviation : α} {level later : Level α}

theorem Turn.lead_eq (turn : Turn control deviation level later) :
    later.lead = level.lead + control.correction level.queued - deviation := by
  obtain ⟨taken, phase, queued⟩ := turn.taken
  have queued' : (later.queued : α) + taken = level.queued + later.fresh := by
    exact_mod_cast queued
  rw [lead, lead, turn.wait_eq]
  linear_combination phase - queued'

theorem Turn.potential_eq (turn : Turn control deviation level later) :
    later.potential control = level.potential control + control.correction level.queued +
      control.gain * (1 - level.fresh) - deviation * (1 - control.gain) := by
  rw [potential, potential, turn.lead_eq, turn.wait_eq]
  ring

/-! ## Deviations that are absorbed -/

/-- The potential stays below what the deviation takes from the queue. -/
theorem Turn.potential_lt (turn : Turn control deviation level later)
    (regular : level.Regular deviation) (absorbs : control.Absorbs deviation)
    (low : level.potential control < -(deviation * (1 - control.gain))) :
    later.potential control < -(deviation * (1 - control.gain)) := by
  have measured := control.correction_le level.queued
  have absorbed : -((control.target - 1) * control.gain) ≤ deviation * (1 - control.gain) := absorbs
  rw [turn.potential_eq]
  rcases regular.fresh_le.eq_or_lt with same | more
  · -- Nothing but the frames that came last: the potential does not grow.
    rw [same]
    linarith
  · -- With more frames than that the reader is far behind the source.
    have gain_le := sub_nonneg.mpr control.gain_lt_one.le
    have more' : (0 : α) ≤ level.queued - 1 - level.fresh := by
      have counted : (level.fresh : α) + 1 ≤ level.queued := by exact_mod_cast more
      linarith
    have filled := mul_nonneg more' gain_le
    have waited := mul_nonneg (sub_nonneg.mpr regular.wait_le) gain_le
    have phase := regular.phase_lt_one
    rw [potential, lead]
    linarith

/-- Below that potential the reader does not catch up with the source. -/
theorem not_dry_of_potential_lt (regular : level.Regular deviation)
    (absorbs : control.Absorbs deviation)
    (low : level.potential control < -(deviation * (1 - control.gain))) :
    level.phase + control.correction level.queued < level.queued := by
  have measured := control.correction_le level.queued
  have absorbed : -((control.target - 1) * control.gain) ≤ deviation * (1 - control.gain) := absorbs
  have gain_le := sub_nonneg.mpr control.gain_lt_one.le
  rcases Nat.eq_zero_or_pos level.queued with empty | any
  · have none : level.fresh = 0 := Nat.le_zero.mp (empty ▸ regular.fresh_le)
    have waited := mul_nonneg regular.wait_pos.le gain_le
    rw [potential, lead, empty, none] at low
    rw [empty] at measured ⊢
    push_cast at low measured ⊢
    linarith
  · have any' : (1 : α) ≤ level.queued := by exact_mod_cast any
    have target : (1 : α) ≤ control.target := by exact_mod_cast control.target_pos
    have filled := mul_nonneg (sub_nonneg.mpr any') gain_le
    have slowed := mul_nonneg (sub_nonneg.mpr target) control.gain_pos.le
    have phase := regular.phase_lt_one
    linarith

/-! ## The other end -/

/-- A deviation within the limit does not fill the queue beyond its reach. -/
theorem Turn.reach_le (turn : Turn control deviation level later)
    (regular : level.Regular deviation) (within : deviation ≤ control.limit)
    (high : -control.reach ≤ level.lead) : -control.reach ≤ later.lead := by
  rw [turn.lead_eq]
  by_cases full : control.limit ≤ (level.queued - control.target) * control.gain
  · rw [control.correction_of_full full]
    linarith
  · have slow := control.neg_limit_le level.queued
    have few : level.queued - control.target < control.limit / control.gain :=
      (lt_div_iff₀ control.gain_pos).mpr (not_le.mp full)
    have phase := regular.phase_nonneg
    have wait := regular.wait_pos
    rw [Control.reach, lead]
    linarith

theorem queued_lt_of_reach_le (regular : level.Regular deviation)
    (high : -control.reach ≤ level.lead) : (level.queued : α) < control.reach + 2 := by
  have phase := regular.phase_lt_one
  have wait := regular.wait_le_one
  rw [lead] at high
  linarith

/-! ## Deviations that are not absorbed -/

/-- The potential grows by a fixed amount with every turn. -/
theorem Turn.potential_ge (turn : Turn control deviation level later)
    (regular : level.Regular deviation) (few : level.fresh ≤ control.target) :
    level.potential control +
        (-((control.target - 1) * control.gain) - deviation * (1 - control.gain)) ≤
      later.potential control := by
  have measured := control.le_correction regular.fresh_le few
  rw [turn.potential_eq]
  linarith

theorem potential_lt_two (regular : level.Regular deviation) : level.potential control < 2 := by
  have gain_pos := control.gain_pos
  have fresh : (level.fresh : α) ≤ level.queued := by exact_mod_cast regular.fresh_le
  have waited := mul_pos gain_pos regular.wait_pos
  have filled := mul_nonneg (level.fresh.cast_nonneg (α := α))
    (sub_nonneg.mpr control.gain_lt_one.le)
  have phase := regular.phase_lt_one
  have wait := regular.wait_le_one
  rw [potential, lead]
  linarith

/-- A deviation that is not absorbed leads past every level after some turns. -/
theorem exists_turns [Archimedean α] (drifts : ¬ control.Absorbs deviation) (start : α) :
    ∃ turns : Nat, 2 < start + turns *
      (-((control.target - 1) * control.gain) - deviation * (1 - control.gain)) := by
  have positive := sub_pos.mpr (not_le.mp drifts)
  obtain ⟨turns, many⟩ := exists_nat_gt ((2 - start) /
    (-((control.target - 1) * control.gain) - deviation * (1 - control.gain)))
  exact ⟨turns, by linarith [(div_lt_iff₀ positive).mp many]⟩

end Level

end FillLevelControl
