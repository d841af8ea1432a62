import VCable.FillLevelControl
import VCable.RouterPreparation
import Mathlib.Data.Rat.Floor

/-!
# Clock drift of a route

A source at the nominal rate of its sink, but for a constant deviation of its
clock.  The correction by the fill level of the ring absorbs a fast source up to
the limit of the correction, and a slow one up to a little less than half of it.
-/

namespace VCable

open FillLevelControl FrameStreams IncomingRoute

/-- An incoming route with the source at the other end of its ring: the part of a
frame that the source has accumulated, and the frames that it has recorded. -/
structure RouterDriftRun where
  accumulated : ℚ
  recorded : Nat
  playing : PlayingRoute

namespace RouterDriftRun

/-- The source's callback records one frame, if the ring has room. -/
def record (capacity : Nat) (source : Nat → Nat → ℚ) (run : RouterDriftRun) : RouterDriftRun :=
  let route := run.playing.route
  let metrics := run.playing.metrics
  if capacity - route.consumer.length < route.sourceChannels then
    { run with
      recorded := run.recorded + 1
      playing :=
        { run.playing with metrics := { metrics with overruns := metrics.overruns + 1 } } }
  else
    let frame := (List.range route.sourceChannels).map (source run.recorded)
    { run with
      recorded := run.recorded + 1
      playing := { run.playing with route := { route with consumer := route.consumer ++ frame } } }

def records (capacity : Nat) (source : Nat → Nat → ℚ) : Nat → RouterDriftRun → RouterDriftRun
  | 0, run => run
  | count + 1, run => records capacity source count (run.record capacity source)

/-- The sink's callback prepares one frame. -/
def prepare (run : RouterDriftRun) : RouterDriftRun :=
  { run with playing := run.playing.prepareOutputFrame.2 }

/-- The source records a frame for each whole unit that it has accumulated, and
then one frame is prepared. -/
def tick (capacity : Nat) (deviation : ℚ) (source : Nat → Nat → ℚ) (run : RouterDriftRun) :
    RouterDriftRun :=
  let accumulated := run.accumulated + (1 + deviation)
  let whole := accumulated.floor.toNat
  ({ run with accumulated := accumulated - whole }.records capacity source whole).prepare

def ticks (capacity : Nat) (deviation : ℚ) (source : Nat → Nat → ℚ) (run : RouterDriftRun) :
    Nat → RouterDriftRun
  | 0 => run
  | count + 1 => (ticks capacity deviation source run count).tick capacity deviation source

/-- A route with what is queued in its ring, before the first tick. -/
def start (route : IncomingRoute ℚ) (metrics : RouterMetrics) : RouterDriftRun where
  accumulated := 0
  recorded := 0
  playing := { route := route, metrics := metrics }

end RouterDriftRun

/-! ## The correction -/

/-- The correction of `prepare_output_frame`. -/
def routerControl : Control ℚ where
  target := startupFrames
  gain := 1 / 1024000
  limit := 1 / 1000
  target_pos := by decide
  gain_pos := by norm_num
  gain_lt_one := by norm_num
  gentle := by
    rw [startupFrames]
    norm_num

theorem correction_eq (queued : Nat) :
    PlayingRoute.correction queued = routerControl.correction queued := by
  have scaled : ((queued : ℚ) - startupFrames) / startupFrames * (1 / 2000) =
      (queued - startupFrames) * (1 / 1024000) := by
    rw [startupFrames]
    push_cast
    ring
  rw [PlayingRoute.correction, scaled]
  rfl

/-- What the correction can make up for. -/
theorem absorbs_iff {deviation : ℚ} :
    routerControl.Absorbs deviation ↔ -(511 / 1023999) ≤ deviation := by
  change -(((startupFrames : ℚ) - 1) * (1 / 1024000)) ≤ deviation * (1 - 1 / 1024000) ↔ _
  rw [startupFrames]
  push_cast
  constructor <;> intro le <;> linarith

/-! ## The loop -/

namespace PlayingRoute

variable {playing : PlayingRoute} {passes frames : Nat}

theorem enough_of_queued
    (queued : playing.route.consumer.length = (frames + 1) * playing.route.sourceChannels) :
    playing.route.sourceChannels ≤ playing.route.consumer.length ∧
      playing.route.shift.consumer.length = frames * playing.route.sourceChannels := by
  rw [Nat.succ_mul] at queued
  refine ⟨queued ▸ Nat.le_add_left _ _, ?_⟩
  change (playing.route.consumer.drop _).length = _
  rw [List.length_drop, queued, Nat.add_sub_cancel]

/-- With enough frames in the ring, the loop takes the whole frames of the phase. -/
theorem shifts_of_queued (wellFormed : playing.route.WellFormed)
    (primed : playing.route.primed = true) (nonneg : 0 ≤ playing.route.phase)
    (bound : playing.route.phase < passes + 1)
    (queued : playing.route.consumer.length = frames * playing.route.sourceChannels)
    (ahead : playing.route.phase < frames + 1) :
    (playing.shifts passes).route.primed = true ∧
      (playing.shifts passes).metrics = playing.metrics ∧
      0 ≤ (playing.shifts passes).route.phase ∧ (playing.shifts passes).route.phase < 1 ∧
      ∃ taken left : Nat, (playing.shifts passes).route.phase + taken = playing.route.phase ∧
        left + taken = frames ∧
        (playing.shifts passes).route.consumer.length = left * playing.route.sourceChannels := by
  induction passes generalizing playing frames with
  | zero =>
      have lt_one : playing.route.phase < 1 := by simpa using bound
      exact ⟨primed, rfl, nonneg, lt_one, 0, frames, by simp [shifts], Nat.add_zero _, queued⟩
  | succ passes ih =>
      rcases lt_or_ge playing.route.phase 1 with stops | goes
      · rw [shifts_of_lt stops]
        exact ⟨primed, rfl, nonneg, stops, 0, frames, by simp, Nat.add_zero _, queued⟩
      obtain ⟨more, rfl⟩ : ∃ more, frames = more + 1 := by
        refine Nat.exists_eq_add_one_of_ne_zero fun none => ?_
        rw [none] at ahead
        push_cast at ahead
        linarith
      obtain ⟨enough, left⟩ := enough_of_queued queued
      have phase : playing.route.shift.phase = playing.route.phase - 1 := rfl
      push_cast at bound ahead
      obtain ⟨stays, same, phaseNonneg, phaseLt, taken, rest, taken_eq, counts, consumer⟩ :=
        @ih ⟨playing.route.shift, playing.metrics⟩ more (wellFormed.shift enough).wellFormed primed
          (by linarith) (by linarith) left (by linarith)
      rw [shifts_of_enough wellFormed goes enough]
      refine ⟨stays, same, phaseNonneg, phaseLt, taken + 1, rest, ?_, by omega, consumer⟩
      push_cast
      linarith

/-- Without the frames for the phase the priming is lost. -/
theorem shifts_of_dry (wellFormed : playing.route.WellFormed)
    (queued : playing.route.consumer.length = frames * playing.route.sourceChannels)
    (dry : frames + 1 ≤ playing.route.phase) (bound : frames < passes) :
    (playing.shifts passes).route.primed = false := by
  induction frames generalizing playing passes with
  | zero =>
      obtain ⟨passes, rfl⟩ := Nat.exists_eq_add_one_of_ne_zero bound.ne'
      have goes : 1 ≤ playing.route.phase := by simpa using dry
      have short : playing.route.consumer.length < playing.route.sourceChannels := by
        rw [queued, Nat.zero_mul]
        exact wellFormed.sourceChannels_pos
      rw [shifts_of_short wellFormed goes short]
  | succ frames ih =>
      obtain ⟨passes, rfl⟩ := Nat.exists_eq_add_one_of_ne_zero (Nat.zero_lt_of_lt bound).ne'
      obtain ⟨enough, left⟩ := enough_of_queued queued
      have count : (0 : ℚ) ≤ frames := frames.cast_nonneg
      have phase : playing.route.shift.phase = playing.route.phase - 1 := rfl
      push_cast at dry
      rw [shifts_of_enough wellFormed (by linarith) enough]
      exact @ih ⟨playing.route.shift, playing.metrics⟩ passes (wellFormed.shift enough).wellFormed
        left (by linarith) (Nat.lt_of_succ_lt_succ bound)

/-! ## One look at the ring -/

/-- A primed route with whole frames in its ring, after a call for it. -/
structure Taken (channels queued : Nat) (position : ℚ) (playing : PlayingRoute) : Prop where
  primed : playing.route.primed = true
  phase_nonneg : 0 ≤ playing.route.phase
  phase_lt_one : playing.route.phase < 1
  taken : ∃ taken left : Nat, playing.route.phase + taken = position ∧ left + taken = queued ∧
    playing.route.consumer.length = left * channels

/-- A primed route with the nominal step of one goes on by the corrected step, if
the ring has the frames, and loses its priming otherwise. -/
theorem prepare_of_prime {started : PlayingRoute} {queued : Nat}
    (primes : playing.prime = (true, started)) (wellFormed : started.route.WellFormed)
    (step : started.route.nominalStep = 1) (primed : started.route.primed = true)
    (nonneg : 0 ≤ started.route.phase)
    (queue : started.route.consumer.length = queued * started.route.sourceChannels) :
    playing.prepareOutputFrame.2.metrics = started.metrics ∧
        Taken started.route.sourceChannels queued
          (started.route.phase + 1 + routerControl.correction queued)
          playing.prepareOutputFrame.2 ∨
      queued ≤ started.route.phase + routerControl.correction queued ∧
        playing.prepareOutputFrame.2.route.primed = false := by
  have prepared : playing.prepareOutputFrame.2 = started.interpolate.advance := by
    rw [prepareOutputFrame, primes]
  have phase : started.interpolate.route.phase =
      started.route.phase + 1 + routerControl.correction queued := by
    change started.route.phase + started.route.nominalStep *
      (1 + correction (started.route.consumer.length / started.route.sourceChannels)) = _
    rw [step, queue, Nat.mul_div_cancel _ wellFormed.sourceChannels_pos, correction_eq]
    ring
  have slowest : -(1 / 1000) ≤ routerControl.correction queued := routerControl.neg_limit_le queued
  have ahead_nonneg : 0 ≤ started.interpolate.route.phase := by
    rw [phase]
    linarith
  obtain ⟨floor_le, lt_floor⟩ := floor_toNat_bounds ahead_nonneg
  have interpolates := (interpolate_progress wellFormed).1.wellFormed
  rw [prepared, advance]
  rcases lt_or_ge (started.route.phase + routerControl.correction queued) queued with ahead | dry
  · obtain ⟨stays, same, phaseNonneg, phaseLt, taken, left, taken_eq, counts, consumer⟩ :=
      shifts_of_queued interpolates primed ahead_nonneg lt_floor queue (by
        rw [phase]
        linarith)
    exact Or.inl ⟨same, stays, phaseNonneg, phaseLt, taken, left, taken_eq.trans phase, counts,
      consumer⟩
  · refine Or.inr ⟨dry, shifts_of_dry interpolates queue (by
      rw [phase]
      linarith) ?_⟩
    have below : (queued : ℚ) < started.interpolate.route.phase.floor.toNat := by
      rw [phase] at lt_floor ⊢
      linarith
    exact_mod_cast below

end PlayingRoute

/-! ## Recording -/

namespace RouterDriftRun

variable {run : RouterDriftRun} {capacity frames count : Nat} {source : Nat → Nat → ℚ}
  {deviation : ℚ} {metrics : RouterMetrics}

/-- The route with more samples in its ring. -/
def received (run : RouterDriftRun) (added : List ℚ) : PlayingRoute :=
  { run.playing with
    route := { run.playing.route with consumer := run.playing.route.consumer ++ added } }

theorem received_wellFormed (wellFormed : run.playing.route.WellFormed) (added : List ℚ) :
    (run.received added).route.WellFormed :=
  { wellFormed with }

theorem received_received (added more : List ℚ) :
    { run with playing := run.received added }.received more = run.received (added ++ more) := by
  rw [received, received, received, List.append_assoc]

theorem record_of_room (room : run.playing.route.sourceChannels ≤
    capacity - run.playing.route.consumer.length) :
    run.record capacity source =
      { run with
        recorded := run.recorded + 1
        playing := run.received
          ((List.range run.playing.route.sourceChannels).map (source run.recorded)) } :=
  if_neg (not_lt.mpr room)

/-- While the ring has room, every frame of the source is recorded. -/
theorem records_eq (run : RouterDriftRun) (source : Nat → Nat → ℚ)
    (queued : run.playing.route.consumer.length = frames * run.playing.route.sourceChannels)
    (room : (frames + count) * run.playing.route.sourceChannels ≤ capacity) :
    ∃ added : List ℚ, added.length = count * run.playing.route.sourceChannels ∧
      (run.records capacity source count).accumulated = run.accumulated ∧
      (run.records capacity source count).playing = run.received added := by
  induction count generalizing run frames with
  | zero =>
      refine ⟨[], (Nat.zero_mul _).symm, rfl, ?_⟩
      rw [received, List.append_nil]
      rfl
  | succ count ih =>
      have fits : run.playing.route.sourceChannels ≤
          capacity - run.playing.route.consumer.length := by
        have more : (frames + 1) * run.playing.route.sourceChannels ≤ capacity :=
          (Nat.mul_le_mul_right _ (by omega)).trans room
        rw [Nat.succ_mul] at more
        omega
      have length : ((List.range run.playing.route.sourceChannels).map
          (source run.recorded)).length = run.playing.route.sourceChannels := by
        rw [List.length_map, List.length_range]
      rw [records, record_of_room fits]
      generalize (List.range run.playing.route.sourceChannels).map (source run.recorded) = frame
        at length ⊢
      have more : (run.received frame).route.consumer.length =
          (frames + 1) * run.playing.route.sourceChannels := by
        change (run.playing.route.consumer ++ frame).length = _
        rw [List.length_append, length, queued, Nat.succ_mul]
      obtain ⟨added, rest, accumulated, playing⟩ := @ih (frames + 1)
        { run with recorded := run.recorded + 1, playing := run.received frame } more
        (by rwa [Nat.add_assoc, Nat.add_comm 1])
      refine ⟨frame ++ added, ?_, accumulated, playing.trans (received_received frame added)⟩
      rw [List.length_append, length, rest, Nat.succ_mul]
      exact Nat.add_comm _ _

/-! ## One tick -/

/-- A run after a tick in which the reader found the ring at a level. -/
structure After (channels : Nat) (metrics : RouterMetrics) (level : Level ℚ)
    (run : RouterDriftRun) : Prop where
  wellFormed : run.playing.route.WellFormed
  nominalStep_eq : run.playing.route.nominalStep = 1
  channels_eq : run.playing.route.sourceChannels = channels
  accumulated_eq : run.accumulated = 1 - level.wait
  metrics_eq : run.playing.metrics = metrics
  taken : run.playing.Taken channels level.queued
    (level.phase + 1 + routerControl.correction level.queued)

/-- A tick in which the reader finds the ring at a level, or finds it dry. -/
theorem tick_cases {level : Level ℚ} (wellFormed : run.playing.route.WellFormed)
    (step : run.playing.route.nominalStep = 1)
    (whole : (run.accumulated + (1 + deviation)).floor.toNat = level.fresh)
    (wait : level.wait = 1 - (run.accumulated + (1 + deviation) - level.fresh))
    (phase_nonneg : 0 ≤ level.phase)
    (queued : run.playing.route.consumer.length = frames * run.playing.route.sourceChannels)
    (room : (frames + level.fresh) * run.playing.route.sourceChannels ≤ capacity)
    (primes : ∀ added : List ℚ, added.length = level.fresh * run.playing.route.sourceChannels →
      ∃ started, (run.received added).prime = (true, started) ∧
        PlayingRoute.Primed (run.received added) started ∧ started.route.phase = level.phase ∧
        started.route.consumer.length = level.queued * run.playing.route.sourceChannels) :
    After run.playing.route.sourceChannels run.playing.metrics level
        (run.tick capacity deviation source) ∨
      level.queued ≤ level.phase + routerControl.correction level.queued ∧
        (run.tick capacity deviation source).playing.route.primed = false := by
  obtain ⟨added, length, accumulated, recorded⟩ := @records_eq capacity frames level.fresh
    { run with accumulated := run.accumulated + (1 + deviation) - level.fresh } source queued room
  obtain ⟨started, prime, primed, phase, consumer⟩ := primes added length
  have settings := primed.progress.settings
  have channels : started.route.sourceChannels = run.playing.route.sourceChannels :=
    settings.sourceChannels_eq
  have prepared : (run.tick capacity deviation source).playing =
      (run.received added).prepareOutputFrame.2 := by
    rw [tick, whole]
    exact congrArg (·.prepareOutputFrame.2) recorded
  have prepares := PlayingRoute.prepareOutputFrame_progress (received_wellFormed wellFormed added)
  rw [← prepared] at prepares
  rcases PlayingRoute.prepare_of_prime prime primed.progress.wellFormed
    (settings.nominalStep_eq.trans step) primed.primed (phase ▸ phase_nonneg)
    (channels.symm ▸ consumer) with ⟨metrics, taken⟩ | dry
  · refine Or.inl ⟨prepares.1.wellFormed, prepares.1.settings.nominalStep_eq.trans step,
      prepares.1.settings.sourceChannels_eq, ?_, ?_, ?_⟩
    · rw [wait, tick, whole]
      exact accumulated.trans (by ring)
    · rw [prepared, metrics]
      exact primed.metrics_eq
    · rw [prepared, ← channels, ← phase]
      exact taken
  · rw [prepared, ← phase]
    exact Or.inr dry

/-- What the source accumulates in one tick is less than three frames. -/
theorem whole_bounds {accumulated : ℚ} (nonneg : 0 ≤ accumulated) (lt_one : accumulated < 1)
    (within : |deviation| ≤ 1 / 1000) :
    ((accumulated + (1 + deviation)).floor.toNat : ℚ) ≤ accumulated + (1 + deviation) ∧
      accumulated + (1 + deviation) < (accumulated + (1 + deviation)).floor.toNat + 1 ∧
      (accumulated + (1 + deviation)).floor.toNat ≤ 2 := by
  obtain ⟨slow, fast⟩ := abs_le.mp within
  obtain ⟨floor_le, lt_floor⟩ := @floor_toNat_bounds (accumulated + (1 + deviation)) (by linarith)
  refine ⟨floor_le, lt_floor, ?_⟩
  have below : ((accumulated + (1 + deviation)).floor.toNat : ℚ) < 3 := by linarith
  exact Nat.le_of_lt_succ (by exact_mod_cast below)

/-- From one level to the next, unless the ring is dry there. -/
theorem After.tick {channels : Nat} {level : Level ℚ} (after : After channels metrics level run)
    (regular : level.Regular deviation) (within : |deviation| ≤ 1 / 1000)
    (room : (level.queued + 2) * channels ≤ capacity)
    (source : Nat → Nat → ℚ) :
    ∃ later : Level ℚ, later.Regular deviation ∧ Level.Turn routerControl deviation level later ∧
      later.fresh ≤ 2 ∧
      (After channels metrics later (run.tick capacity deviation source) ∨
        later.queued ≤ later.phase + routerControl.correction later.queued ∧
          (run.tick capacity deviation source).playing.route.primed = false) := by
  obtain ⟨primed, phaseNonneg, phaseLt, taken, left, position, counts, consumer⟩ := after.taken
  have wait_pos := regular.wait_pos
  have wait_le_one := regular.wait_le_one
  obtain ⟨whole_le, lt_whole, few⟩ := @whole_bounds deviation run.accumulated
    (by rw [after.accumulated_eq]; linarith) (by rw [after.accumulated_eq]; linarith) within
  rw [after.accumulated_eq] at whole_le lt_whole few
  refine ⟨
    { phase := run.playing.route.phase
      queued := left + (1 - level.wait + (1 + deviation)).floor.toNat
      wait := 1 - (1 - level.wait + (1 + deviation) -
        (1 - level.wait + (1 + deviation)).floor.toNat)
      fresh := (1 - level.wait + (1 + deviation)).floor.toNat }, ?_, ?_, few, ?_⟩
  · refine ⟨phaseNonneg, phaseLt, ?_, ?_, ?_, Nat.le_add_left _ _⟩ <;> dsimp only <;> linarith
  · refine ⟨⟨taken, position, by dsimp only; omega⟩, ?_⟩
    dsimp only
    ring
  · obtain rfl := after.channels_eq
    rw [← after.metrics_eq]
    refine @tick_cases run capacity left source deviation _ after.wellFormed after.nominalStep_eq
      (by rw [after.accumulated_eq]) (by rw [after.accumulated_eq]) phaseNonneg consumer ?_ ?_
    · refine (Nat.mul_le_mul_right _ ?_).trans room
      dsimp only
      omega
    · intro added length
      have ready : ¬ (run.received added).route.Waits := fun waits =>
        Bool.noConfusion (primed.symm.trans waits.1)
      obtain ⟨started, primes, isPrimed⟩ := PlayingRoute.prime_of_not_waits
        (received_wellFormed after.wellFormed added) ready
      obtain rfl := isPrimed.kept primed
      refine ⟨_, primes, isPrimed, rfl, ?_⟩
      change (run.playing.route.consumer ++ added).length = _
      rw [List.length_append, consumer, length, ← Nat.add_mul]

/-- The level at which the first tick finds a ring that is just full enough. -/
def firstLevel (deviation : ℚ) (whole : Nat) : Level ℚ where
  phase := 0
  queued := 510 + whole
  wait := 1 - (0 + (1 + deviation) - whole)
  fresh := whole

/-- The first tick primes the route. -/
theorem after_start {route : IncomingRoute ℚ} (wellFormed : route.WellFormed)
    (step : route.nominalStep = 1) (unprimed : route.primed = false)
    (filled : route.consumer.length = startupFrames * route.sourceChannels)
    (within : |deviation| ≤ 1 / 1000)
    (room : (startupFrames + 2) * route.sourceChannels ≤ capacity) (source : Nat → Nat → ℚ) :
    ∃ level : Level ℚ, level.Regular deviation ∧ level.fresh ≤ 2 ∧
      level.lead = -510 - deviation ∧ level.wait = level.fresh - deviation ∧
      After route.sourceChannels metrics level
        ((start route metrics).tick capacity deviation source) := by
  obtain ⟨whole_le, lt_whole, few⟩ := @whole_bounds deviation 0 le_rfl zero_lt_one within
  generalize whole_eq : (0 + (1 + deviation)).floor.toNat = whole at *
  refine ⟨firstLevel deviation whole, ?_, few, ?_, ?_, ?_⟩
  · refine ⟨le_rfl, zero_lt_one, ?_, ?_, ?_, Nat.le_add_left _ _⟩ <;> dsimp only [firstLevel] <;>
      linarith
  · rw [Level.lead, firstLevel]
    push_cast
    ring
  · dsimp only [firstLevel]
    ring
  rcases @tick_cases (start route metrics) capacity startupFrames source deviation
    (firstLevel deviation whole) wellFormed step whole_eq rfl le_rfl filled
    ((Nat.mul_le_mul_right _ (Nat.add_le_add_left few _)).trans room) (by
      intro added length
      have queue : ((start route metrics).received added).route.consumer.length =
          (startupFrames + whole) * route.sourceChannels := by
        change (route.consumer ++ added).length = _
        rw [List.length_append, filled, length, Nat.add_mul]
        rfl
      have ready : ¬ ((start route metrics).received added).route.Waits := by
        rintro ⟨-, less⟩
        rw [queue] at less
        change (startupFrames + whole) * route.sourceChannels / route.sourceChannels < _ at less
        rw [Nat.mul_div_cancel _ wellFormed.sourceChannels_pos] at less
        omega
      obtain ⟨started, primes, isPrimed⟩ := PlayingRoute.prime_of_not_waits
        (@received_wellFormed (start route metrics) wellFormed added) ready
      obtain ⟨phase, taken⟩ := isPrimed.begun unprimed
      refine ⟨started, primes, isPrimed, phase, ?_⟩
      rw [queue] at taken
      change _ + 2 * route.sourceChannels = (512 + whole) * route.sourceChannels at taken
      change _ = (510 + whole) * route.sourceChannels
      rw [Nat.add_mul] at taken ⊢
      omega) with after | ⟨dry, -⟩
  · exact after
  · have measured := routerControl.correction_le (510 + whole)
    change routerControl.correction (510 + whole) ≤ (((510 + whole : Nat) : ℚ) - (512 : Nat)) *
      (1 / 1024000) at measured
    dsimp only [firstLevel] at dry
    have count : (0 : ℚ) ≤ whole := whole.cast_nonneg
    push_cast at dry measured
    linarith

/-! ## Many ticks -/

/-- In a run of any length the priming is never lost and the ring never fills:
there is neither an underrun nor an overrun. -/
def TracksClock (capacity : Nat) (deviation : ℚ) (source : Nat → Nat → ℚ)
    (route : IncomingRoute ℚ) (metrics : RouterMetrics) : Prop :=
  ∀ count : Nat,
    let run := ticks capacity deviation source (start route metrics) count
    run.playing.metrics = metrics ∧ run.playing.route.consumer.length < capacity ∧
      (0 < count → run.playing.route.primed = true)

/-- A run at a level within the reach of the correction. -/
structure Tracks (channels : Nat) (metrics : RouterMetrics) (deviation : ℚ) (level : Level ℚ)
    (run : RouterDriftRun) : Prop where
  regular : level.Regular deviation
  few : level.fresh ≤ 2
  reach_le : -routerControl.reach ≤ level.lead
  after : After channels metrics level run

theorem reach_eq : routerControl.reach = 1536 + 1 / 500 := by
  change ((startupFrames : Nat) : ℚ) + 1 / 1000 / (1 / 1024000) + 2 * (1 / 1000) = _
  rw [startupFrames]
  norm_num

variable {channels : Nat} {level : Level ℚ}

/-- The ring is far from full. -/
theorem Tracks.queued_le (tracks : Tracks channels metrics deviation level run) :
    level.queued ≤ 1538 := by
  have queued := Level.queued_lt_of_reach_le tracks.regular tracks.reach_le
  rw [reach_eq] at queued
  have below : (level.queued : ℚ) < 1539 := by linarith
  exact Nat.le_of_lt_succ (by exact_mod_cast below)

/-- What the listener can tell about a run that tracks its source. -/
theorem Tracks.kept (tracks : Tracks channels metrics deviation level run)
    (ring : 16384 * channels ≤ capacity) :
    run.playing.metrics = metrics ∧ run.playing.route.consumer.length < capacity ∧
      run.playing.route.primed = true := by
  have queued := tracks.queued_le
  obtain ⟨taken, left, -, counts, consumer⟩ := tracks.after.taken.taken
  have positive : 0 < channels :=
    tracks.after.channels_eq ▸ tracks.after.wellFormed.sourceChannels_pos
  refine ⟨tracks.after.metrics_eq, ?_, tracks.after.taken.primed⟩
  rw [consumer]
  exact (Nat.mul_lt_mul_of_pos_right (by omega) positive).trans_le ring

/-- A run that tracks its source goes on doing so, unless the ring is dry. -/
theorem Tracks.tick (tracks : Tracks channels metrics deviation level run)
    (ring : 16384 * channels ≤ capacity) (within : |deviation| ≤ 1 / 1000)
    (source : Nat → Nat → ℚ) :
    ∃ later : Level ℚ, Level.Turn routerControl deviation level later ∧
      later.Regular deviation ∧
      (Tracks channels metrics deviation later (run.tick capacity deviation source) ∨
        later.queued ≤ later.phase + routerControl.correction later.queued ∧
          (run.tick capacity deviation source).playing.route.primed = false) := by
  have queued := tracks.queued_le
  obtain ⟨later, regular, turn, few, next⟩ := tracks.after.tick tracks.regular within
    ((Nat.mul_le_mul_right channels (by omega)).trans ring) source
  have reach := turn.reach_le tracks.regular (abs_le.mp within).2 tracks.reach_le
  exact ⟨later, turn, regular, next.imp_left (⟨regular, few, reach, ·⟩)⟩

theorem tracks_start {route : IncomingRoute ℚ} (wellFormed : route.WellFormed)
    (step : route.nominalStep = 1) (unprimed : route.primed = false)
    (filled : route.consumer.length = startupFrames * route.sourceChannels)
    (ring : 16384 * route.sourceChannels ≤ capacity) (within : |deviation| ≤ 1 / 1000)
    (source : Nat → Nat → ℚ) :
    ∃ level : Level ℚ,
      Tracks route.sourceChannels metrics deviation level
        (ticks capacity deviation source (start route metrics) 1) ∧
      level.lead = -510 - deviation ∧ level.wait = level.fresh - deviation := by
  obtain ⟨level, regular, few, lead, wait, after⟩ := @after_start capacity deviation metrics route
    wellFormed step unprimed filled within
    ((Nat.mul_le_mul_right _ (by decide)).trans ring) source
  refine ⟨level, ⟨regular, few, ?_, after⟩, lead, wait⟩
  rw [reach_eq, lead]
  linarith [(abs_le.mp within).2]

/-- Where the correction makes up for the deviation, the route never runs dry. -/
theorem tracks_of_absorbs {route : IncomingRoute ℚ} (wellFormed : route.WellFormed)
    (step : route.nominalStep = 1) (unprimed : route.primed = false)
    (filled : route.consumer.length = startupFrames * route.sourceChannels)
    (ring : 16384 * route.sourceChannels ≤ capacity) (within : |deviation| ≤ 1 / 1000)
    (absorbs : routerControl.Absorbs deviation) (source : Nat → Nat → ℚ) (count : Nat) :
    ∃ level : Level ℚ,
      level.potential routerControl < -(deviation * (1 - routerControl.gain)) ∧
      Tracks route.sourceChannels metrics deviation level
        (ticks capacity deviation source (start route metrics) (count + 1)) := by
  induction count with
  | zero =>
      obtain ⟨level, tracks, lead, wait⟩ := tracks_start wellFormed step unprimed filled ring
        within source
      have gain_pos := routerControl.gain_pos
      refine ⟨level, ?_, tracks⟩
      rw [Level.potential, lead, wait]
      linarith
  | succ count ih =>
      obtain ⟨level, low, tracks⟩ := ih
      obtain ⟨later, turn, regular, next⟩ := tracks.tick ring within source
      have lower := turn.potential_lt tracks.regular absorbs low
      have ahead := Level.not_dry_of_potential_lt regular absorbs lower
      exact ⟨later, lower, next.resolve_right fun dry => dry.1.not_gt ahead⟩

/-- Where it does not, the source falls behind by as much with every tick, until
the route runs dry. -/
theorem runs_dry_of_not_absorbs {route : IncomingRoute ℚ} (wellFormed : route.WellFormed)
    (step : route.nominalStep = 1) (unprimed : route.primed = false)
    (filled : route.consumer.length = startupFrames * route.sourceChannels)
    (ring : 16384 * route.sourceChannels ≤ capacity) (within : |deviation| ≤ 1 / 1000)
    (drifts : ¬ routerControl.Absorbs deviation) (source : Nat → Nat → ℚ) :
    ∃ count : Nat, (ticks capacity deviation source (start route metrics)
      (count + 1)).playing.route.primed = false := by
  by_contra! primed
  have behind : ∀ count : Nat, ∃ level : Level ℚ,
      -512 + count *
          (-((routerControl.target - 1) * routerControl.gain) -
            deviation * (1 - routerControl.gain)) ≤ level.potential routerControl ∧
        Tracks route.sourceChannels metrics deviation level
          (ticks capacity deviation source (start route metrics) (count + 1)) := by
    intro count
    induction count with
    | zero =>
        obtain ⟨level, tracks, lead, wait⟩ := tracks_start wellFormed step unprimed filled ring
          within source
        have gain_lt_one := routerControl.gain_lt_one
        have slow := (abs_le.mp within).2
        have gain : routerControl.gain = 1 / 1024000 := rfl
        refine ⟨level, ?_, tracks⟩
        rw [Level.potential, lead, wait, gain, Nat.cast_zero, zero_mul]
        linarith
    | succ count ih =>
        obtain ⟨level, grown, tracks⟩ := ih
        obtain ⟨later, turn, -, next⟩ := tracks.tick ring within source
        have grows := turn.potential_ge tracks.regular (tracks.few.trans (by decide))
        refine ⟨later, ?_, next.resolve_right fun dry => primed (count + 1) dry.2⟩
        push_cast
        linarith
  obtain ⟨count, past⟩ := Level.exists_turns drifts (-512)
  obtain ⟨level, grown, tracks⟩ := behind count
  have below := @Level.potential_lt_two ℚ _ _ _ routerControl _ _ tracks.regular
  linarith

/-- For a source at the nominal rate of the sink but for a deviation of at most
1000 ppm: the route keeps its priming, with neither an underrun nor an overrun,
exactly if the source is not slower than by 511/1023999. -/
theorem router_tracks_clock_iff {route : IncomingRoute ℚ} (wellFormed : route.WellFormed)
    (step : route.nominalStep = 1) (unprimed : route.primed = false)
    (filled : route.consumer.length = startupFrames * route.sourceChannels)
    (ring : 16384 * route.sourceChannels ≤ capacity) (within : |deviation| ≤ 1 / 1000)
    (source : Nat → Nat → ℚ) (metrics : RouterMetrics) :
    TracksClock capacity deviation source route metrics ↔ -(511 / 1023999) ≤ deviation := by
  rw [← absorbs_iff]
  constructor
  · intro kept
    by_contra drifts
    obtain ⟨count, dry⟩ := @runs_dry_of_not_absorbs capacity deviation metrics route wellFormed step
      unprimed filled ring within drifts source
    exact Bool.noConfusion (dry.symm.trans ((kept (count + 1)).2.2 count.succ_pos))
  · rintro absorbs (- | count)
    · refine ⟨rfl, ?_, fun positive => absurd positive (Nat.lt_irrefl 0)⟩
      change route.consumer.length < capacity
      rw [filled]
      exact (Nat.mul_lt_mul_of_pos_right (by decide) wellFormed.sourceChannels_pos).trans_le ring
    · obtain ⟨level, -, tracks⟩ := @tracks_of_absorbs capacity deviation metrics route wellFormed
        step unprimed filled ring within absorbs source count
      obtain ⟨same, room, primed⟩ := tracks.kept ring
      exact ⟨same, room, fun _ => primed⟩

/-- A mono route between two devices of the same rate, with silence in its ring. -/
def evenRoute : IncomingRoute ℚ where
  consumer := List.replicate 512 0
  sourceChannels := 1
  sinkChannels := 1
  nominalStep := 1
  gain := 1
  matrix := [1]
  current := [0]
  next := [0]
  interpolated := [0]
  phase := 0
  primed := false

theorem evenRoute_wellFormed : evenRoute.WellFormed where
  sourceChannels_pos := by decide
  sinkChannels_pos := by decide
  sourceChannels_small := by decide
  sinkChannels_small := by decide
  nominalStep_pos := one_pos
  length_matrix := rfl
  length_current := rfl
  length_next := rfl

theorem evenRoute_filled :
    evenRoute.consumer.length = startupFrames * evenRoute.sourceChannels :=
  List.length_replicate

/-- A source that is 400 ppm too slow is made up for. -/
theorem evenRoute_tracks_clock :
    TracksClock 16384 (-(1 / 2500)) (fun _ _ => 0) evenRoute ⟨0, 0, 0⟩ :=
  (router_tracks_clock_iff evenRoute_wellFormed rfl rfl evenRoute_filled (by decide)
    (by norm_num [abs_le]) (fun _ _ => 0) ⟨0, 0, 0⟩).mpr (by norm_num)

/-- A source that is 1000 ppm too slow is not. -/
theorem evenRoute_loses_slow_source :
    |(-(1 / 1000) : ℚ)| ≤ 1 / 1000 ∧
      ¬ TracksClock 16384 (-(1 / 1000)) (fun _ _ => 0) evenRoute ⟨0, 0, 0⟩ := by
  have within : |(-(1 / 1000) : ℚ)| ≤ 1 / 1000 := by norm_num [abs_le]
  refine ⟨within, fun kept => ?_⟩
  have drifts : ¬ routerControl.Absorbs (-(1 / 1000)) := fun absorbs => by
    have slow := absorbs_iff.mp absorbs
    norm_num at slow
  obtain ⟨count, dry⟩ := @runs_dry_of_not_absorbs 16384 (-(1 / 1000)) ⟨0, 0, 0⟩ evenRoute
    evenRoute_wellFormed rfl rfl evenRoute_filled (by decide) within drifts (fun _ _ => 0)
  exact Bool.noConfusion (dry.symm.trans ((kept (count + 1)).2.2 count.succ_pos))

end RouterDriftRun

end VCable
