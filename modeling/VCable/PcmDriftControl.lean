import VCable.ClampedControl
import VCable.PcmLossless

/-!
# Clock drift within the limit is absorbed for ever

A producer whose rate deviates from the reader's feeds a stream at equal
nominal rates.  The gap between the produced and the read position is a clamped
proportional control loop: the fill level measures it up to less than one
frame, so it never leaves a band around the target fill.
-/

namespace VCable

open FrameStreams PcmCall

/-- A stream with its producer: the part of a frame that it has accumulated,
the frames it has committed, and how often a frame was refused or a call
delivered nothing. -/
structure DriftRun where
  accumulated : ℚ
  committed : Nat
  refused : Nat
  missed : Nat
  stream : PcmStream

namespace DriftRun

/-- The producer commits one frame of its source, if there is capacity. -/
def commit (source : Nat → Nat → ℚ) (run : DriftRun) : DriftRun :=
  if run.stream.producer.hasCapacityForFrame run.stream.ring then
    { run with
      committed := run.committed + 1
      stream := run.stream.step (.write (.captured (source run.committed))) }
  else { run with refused := run.refused + 1 }

def commits (source : Nat → Nat → ℚ) : Nat → DriftRun → DriftRun
  | 0, run => run
  | count + 1, run => commits source count (run.commit source)

/-- A call of `next_frame`. -/
def nextFrame (run : DriftRun) : DriftRun :=
  { run with
    missed := run.missed + if (run.stream.call []).prepareNextFrame.1.isNone then 1 else 0
    stream := run.stream.step (.nextFrame []) }

/-- The producer commits a frame for each whole unit that it has accumulated,
and then one frame is read. -/
def tick (deviation : ℚ) (source : Nat → Nat → ℚ) (run : DriftRun) : DriftRun :=
  let accumulated := run.accumulated + (1 + deviation)
  let whole := accumulated.floor.toNat
  ({ run with accumulated := accumulated - whole }.commits source whole).nextFrame

def ticks (deviation : ℚ) (source : Nat → Nat → ℚ) (run : DriftRun) : Nat → DriftRun
  | 0 => run
  | count + 1 => (ticks deviation source run count).tick deviation source

/-- A new stream with the target fill queued. -/
def start (config : PcmStreamConfig) (validated : ValidatedConfig)
    (direction : PcmStreamDirection) (deviceRate : UInt32) (source : Nat → Nat → ℚ) : DriftRun :=
  commits source config.targetFillFrames
    { accumulated := 0
      committed := 0
      refused := 0
      missed := 0
      stream := .start config validated direction deviceRate }

/-- The position of the next frame to be read. -/
def position (run : DriftRun) : ℚ :=
  readPosition 1 run.stream.delivered run.stream.delivered.length

def buffered (run : DriftRun) : Nat :=
  (run.stream.call []).bufferedFrames

end DriftRun

/-! ## Feeding -/

/-- With no write in between, the correction is the one for the fill level. -/
theorem PcmCall.Reading.correction_interpolate {config : PcmStreamConfig} {producer : PcmProducer}
    {before : List ℚ} {position : ℚ} {call : PcmCall} {base : Nat}
    (reading : Reading config producer before position call base) (quiet : call.arriving = []) :
    call.interpolate.1.correction = ClampedControl.correction config.driftRatio
      (min config.targetFillFrames (config.capacityFrames - config.targetFillFrames) : Nat)
      (call.bufferedFrames - config.targetFillFrames) := by
  have targetEq : call.resampler.targetFillFrames = config.targetFillFrames :=
    congrArg ResamplerSettings.targetFillFrames reading.settings_eq
  have spanEq : call.resampler.controlSpanFrames =
      min config.targetFillFrames (config.capacityFrames - config.targetFillFrames) :=
    congrArg ResamplerSettings.controlSpanFrames reading.settings_eq
  have driftEq : call.resampler.maxDriftRatio = config.driftRatio :=
    congrArg ResamplerSettings.maxDriftRatio reading.settings_eq
  change driftCorrection call.look.bufferedFrames call.look.resampler.targetFillFrames
    call.look.resampler.controlSpanFrames call.look.resampler.maxDriftRatio = _
  rw [look_of_nil quiet, targetEq, spanEq, driftEq]
  rfl

/-- All that the ring has accepted are the committed frames. -/
structure Feeding (config : PcmStreamConfig) (run : DriftRun) : Prop where
  following : Following config run.stream
  logical_eq : run.stream.producer.logicalCapacitySamples =
    config.capacityFrames * run.stream.producer.channels
  accepted_eq : run.stream.ring.accepted.length = run.committed * run.stream.producer.channels
  ready : run.stream.resampler.primed = true → run.stream.resampler.haveNext = true

/-- Further frames were committed. -/
structure CommitsFrames (run later : DriftRun) (count : Nat) : Prop where
  committed_eq : later.committed = run.committed + count
  accumulated_eq : later.accumulated = run.accumulated
  refused_eq : later.refused = run.refused
  missed_eq : later.missed = run.missed
  resampler_eq : later.stream.resampler = run.stream.resampler
  delivered_eq : later.stream.delivered = run.stream.delivered

namespace Feeding

variable {config : PcmStreamConfig} {run : DriftRun}

/-- The fill level is the gap between the committed frames and the read
position, up to the phase. -/
theorem buffered_eq (feeding : Feeding config run) :
    (run.buffered : ℚ) = run.committed - run.position + run.stream.resampler.phase := by
  obtain ⟨base, reading⟩ := feeding.following.reading
  have channelsEq : run.stream.producer.channels = run.stream.resampler.channels :=
    reading.channels_eq
  have sum : base + run.buffered = run.committed := by
    have total := reading.base_add_bufferedFrames
    have accepted : (run.stream.call []).ring.accepted.length =
        run.committed * (run.stream.call []).resampler.channels := by
      change run.stream.ring.accepted.length = run.committed * run.stream.resampler.channels
      rw [feeding.accepted_eq, channelsEq]
    rw [accepted, Nat.mul_div_cancel _ reading.channels_pos] at total
    exact total
  have position : run.position = base + run.stream.resampler.phase := reading.position_eq
  have cast : (base : ℚ) + run.buffered = run.committed := by exact_mod_cast sum
  linarith

/-- A frame is accepted while less than the capacity is buffered. -/
theorem hasCapacity (feeding : Feeding config run) (room : run.buffered < config.capacityFrames) :
    run.stream.producer.hasCapacityForFrame run.stream.ring = true := by
  obtain ⟨base, reading⟩ := feeding.following.reading
  have channelsEq : run.stream.producer.channels = run.stream.resampler.channels :=
    reading.channels_eq
  have whole : run.stream.resampler.channels ∣ run.stream.ring.samples.length := by
    have samples : run.stream.ring.samples = _ := reading.samples_eq
    rw [samples, List.length_drop]
    exact Nat.dvd_sub reading.whole (Nat.dvd_mul_left _ _)
  have frames : run.stream.ring.samples.length / run.stream.resampler.channels + 1 ≤
      config.capacityFrames := by
    have buffered : run.buffered = run.stream.ring.samples.length /
        run.stream.resampler.channels + run.stream.resampler.haveCurrent.toNat +
          run.stream.resampler.haveNext.toNat := rfl
    omega
  have samples := Nat.mul_le_mul_right run.stream.resampler.channels frames
  rw [Nat.succ_mul, Nat.div_mul_cancel whole] at samples
  rw [PcmProducer.hasCapacityForFrame, PcmProducer.available, feeding.logical_eq, channelsEq]
  refine decide_eq_true ?_
  omega

/-- Every committed frame is buffered. -/
theorem buffered_commits {later : DriftRun} {count : Nat} (feeding : Feeding config run)
    (fed : Feeding config later) (commits : CommitsFrames run later count) :
    later.buffered = run.buffered + count := by
  have before := feeding.buffered_eq
  have after := fed.buffered_eq
  have positionEq : later.position = run.position := by
    rw [DriftRun.position, DriftRun.position, commits.delivered_eq]
  rw [commits.committed_eq, commits.resampler_eq, positionEq, Nat.cast_add] at after
  have sum : (later.buffered : ℚ) = run.buffered + count := by linarith
  exact_mod_cast sum

theorem commit (feeding : Feeding config run) (source : Nat → Nat → ℚ)
    (room : run.buffered < config.capacityFrames) :
    Feeding config (run.commit source) ∧ CommitsFrames run (run.commit source) 1 := by
  have fits : run.stream.producer.Fits := by
    obtain ⟨base, reading⟩ := feeding.following.reading
    exact reading.fits
  have capacity := feeding.hasCapacity room
  rw [DriftRun.commit, if_pos capacity]
  refine ⟨⟨feeding.following.write _, feeding.logical_eq, ?_, feeding.ready⟩,
    ⟨rfl, rfl, rfl, rfl, rfl, rfl⟩⟩
  have grown := apply_accepted fits run.stream.ring (.captured (source run.committed))
  have length := congrArg List.length grown
  rw [PcmWrite.acceptedSamples, if_pos capacity, List.length_append, List.length_map,
    List.length_range, feeding.accepted_eq] at length
  exact length.trans (Nat.succ_mul _ _).symm

theorem commits (feeding : Feeding config run) (source : Nat → Nat → ℚ) {count : Nat}
    (room : run.buffered + count ≤ config.capacityFrames) :
    Feeding config (run.commits source count) ∧
      CommitsFrames run (run.commits source count) count := by
  induction count generalizing run with
  | zero => exact ⟨feeding, ⟨rfl, rfl, rfl, rfl, rfl, rfl⟩⟩
  | succ count ih =>
      obtain ⟨fed, one⟩ := feeding.commit source (by omega)
      have bufferedEq := feeding.buffered_commits fed one
      obtain ⟨all, rest⟩ := ih fed (by omega)
      refine ⟨all, ?_⟩
      exact
        { committed_eq := by rw [DriftRun.commits, rest.committed_eq, one.committed_eq]; omega
          accumulated_eq := rest.accumulated_eq.trans one.accumulated_eq
          refused_eq := rest.refused_eq.trans one.refused_eq
          missed_eq := rest.missed_eq.trans one.missed_eq
          resampler_eq := rest.resampler_eq.trans one.resampler_eq
          delivered_eq := rest.delivered_eq.trans one.delivered_eq }

/-- A call delivers a frame, and goes on from its position by the step that the
fill level leads to. -/
theorem nextFrame (feeding : Feeding config run) (nonneg : 0 ≤ config.driftRatio)
    (lt_one : config.driftRatio < 1) (target : 2 ≤ config.targetFillFrames)
    (going : run.stream.resampler.primed = true ∨ config.targetFillFrames ≤ run.buffered)
    (enough : 4 ≤ run.buffered) :
    Feeding config run.nextFrame ∧ run.nextFrame.missed = run.missed ∧
      run.nextFrame.stream.resampler.primed = true ∧
      run.nextFrame.stream.delivered.length = run.stream.delivered.length + 1 ∧
      run.nextFrame.position = run.position + (1 + ClampedControl.correction config.driftRatio
        (min config.targetFillFrames (config.capacityFrames - config.targetFillFrames) : Nat)
        (run.buffered - config.targetFillFrames)) := by
  have goesOn := feeding.following.nextFrame nonneg lt_one (Or.inl target) []
  obtain ⟨base, reading⟩ := feeding.following.reading
  rcases reading.prepareNextFrame_cases feeding.ready with
    ⟨_, unprimed, few⟩ | ⟨filled, result, filling, someNext, primed, phaseEq, undisturbed⟩
  · rw [look_of_nil rfl] at few
    have few : run.buffered < max config.targetFillFrames 2 := few
    rcases going with already | full
    · have unprimed : run.stream.resampler.primed = false := unprimed
      rw [already] at unprimed
      cases unprimed
    · omega
  obtain ⟨quiet, acceptedEq⟩ := undisturbed rfl
  have lookEq := look_of_nil quiet
  have bufferedEq : filled.bufferedFrames = run.buffered :=
    reading.bufferedFrames_congr filling acceptedEq
  have correctionEq := filling.correction_interpolate quiet
  rw [bufferedEq] at correctionEq
  have phases : 0 ≤ filled.resampler.phase ∧ filled.resampler.phase < 1 := by
    rw [phaseEq]
    exact ⟨feeding.following.phase_nonneg, feeding.following.phase_lt_one⟩
  obtain ⟨interpolated, interpolatedNext, _, lt_three, _⟩ :=
    filling.interpolate someNext nonneg lt_one (Or.inl target) phases.1 phases.2
  have enough : 4 ≤ filled.interpolate.2.bufferedFrames := by
    change 4 ≤ filled.look.bufferedFrames
    rw [lookEq, bufferedEq]
    exact enough
  have advancedNext := interpolated.advance_haveNext interpolatedNext lt_three enough
  have advancedRing := (undisturbed_interpolate filled).trans (undisturbed_advance _) quiet
  have stepEq : run.nextFrame.stream = { run.stream with
      ring := filled.interpolate.2.advance.finish.ring
      resampler := filled.interpolate.2.advance.finish.resampler
      delivered := run.stream.delivered ++ [filled.interpolate.1] } := by
    change run.stream.step (.nextFrame []) = _
    simp only [PcmStream.step, result]
    rfl
  refine ⟨⟨goesOn, feeding.logical_eq, ?_, ?_⟩, ?_, ?_, ?_, ?_⟩
  · rw [stepEq]
    change filled.interpolate.2.advance.finish.ring.accepted.length = _
    rw [finish_ring, advancedRing.2, acceptedEq]
    exact feeding.accepted_eq
  · rw [stepEq]
    exact finish_primed
  · rw [DriftRun.nextFrame, result]
    rfl
  · rw [stepEq]
    change filled.interpolate.2.advance.finish.resampler.primed = true
    rw [finish, if_pos advancedNext, advance_primed, interpolate_primed, primed]
  · rw [stepEq]
    exact List.length_append
  · have found : (run.stream.delivered ++ [filled.interpolate.1])[run.stream.delivered.length]? =
        some filled.interpolate.1 := by
      simp
    rw [DriftRun.position, stepEq, List.length_append, List.length_singleton,
      readPosition_succ 1 found, readPosition_append 1 le_rfl, correctionEq, one_mul]
    rfl

end Feeding

/-! ## The band -/

/-- How far the drift can push the fill level from its target. -/
def PcmStreamConfig.driftMargin (config : PcmStreamConfig) (deviation : ℚ) : ℚ :=
  (min config.targetFillFrames (config.capacityFrames - config.targetFillFrames) : Nat) *
    |deviation| / config.driftRatio

/-- The limits on the deviation: the margin keeps away from both ends of the
ring by eight frames. -/
structure Absorbable (config : PcmStreamConfig) (deviation : ℚ) : Prop where
  drift_pos : 0 < config.driftRatio
  drift_lt : config.driftRatio < 1
  target_lt : config.targetFillFrames < config.capacityFrames
  within : |deviation| ≤ config.driftRatio
  above_empty : 8 ≤ config.targetFillFrames - config.driftMargin deviation
  below_full : config.targetFillFrames + config.driftMargin deviation ≤ config.capacityFrames - 8

namespace Absorbable

variable {config : PcmStreamConfig} {deviation : ℚ}

theorem margin_nonneg (absorbable : Absorbable config deviation) :
    0 ≤ config.driftMargin deviation :=
  div_nonneg (mul_nonneg (Nat.cast_nonneg _) (abs_nonneg _)) absorbable.drift_pos.le

theorem eight_le_target (absorbable : Absorbable config deviation) :
    8 ≤ config.targetFillFrames := by
  have margin := absorbable.margin_nonneg
  have large : (8 : ℚ) ≤ config.targetFillFrames := by linarith [absorbable.above_empty]
  exact_mod_cast large

theorem one_le_span (absorbable : Absorbable config deviation) :
    (1 : ℚ) ≤ (min config.targetFillFrames
      (config.capacityFrames - config.targetFillFrames) : Nat) := by
  have target := absorbable.eight_le_target
  have below := absorbable.target_lt
  exact_mod_cast (by omega : 1 ≤ min config.targetFillFrames
    (config.capacityFrames - config.targetFillFrames))

theorem deviation_bounds (absorbable : Absorbable config deviation) :
    -1 < deviation ∧ deviation < 1 :=
  abs_lt.mp (absorbable.within.trans_lt absorbable.drift_lt)

/-- The first frame that is accumulated lies within the margin. -/
theorem one_add_le (absorbable : Absorbable config deviation) :
    |1 + deviation| ≤ config.driftMargin deviation + 1 := by
  have span := absorbable.one_le_span
  have ratio : |deviation| ≤ config.driftMargin deviation := by
    rw [PcmStreamConfig.driftMargin, le_div_iff₀ absorbable.drift_pos]
    nlinarith [abs_nonneg deviation, absorbable.drift_lt]
  have sum := abs_add_le 1 deviation
  rw [abs_one] at sum
  linarith

end Absorbable

/-- What holds after a number of ticks. -/
structure Steady (config : PcmStreamConfig) (deviation : ℚ) (count : Nat) (run : DriftRun) :
    Prop where
  feeding : Feeding config run
  refused_eq : run.refused = 0
  missed_eq : run.missed = 0
  delivered_eq : run.stream.delivered.length = count
  accumulated_nonneg : 0 ≤ run.accumulated
  accumulated_lt_one : run.accumulated < 1
  produced_eq : run.committed + run.accumulated =
    config.targetFillFrames + count * (1 + deviation)
  going : run.stream.resampler.primed = true ∨ config.targetFillFrames ≤ run.buffered
  gap : |count * (1 + deviation) + (1 + deviation) - run.position| ≤
    config.driftMargin deviation + 1

theorem steady_start {config : PcmStreamConfig} {validated : ValidatedConfig} {deviation : ℚ}
    (valid : config.Valid validated) (absorbable : Absorbable config deviation)
    (direction : PcmStreamDirection) {deviceRate : UInt32}
    (sameRate : deviceRate = config.clientFormat.sampleRate) (source : Nat → Nat → ℚ) :
    Steady config deviation 0 (.start config validated direction deviceRate source) := by
  let empty : DriftRun :=
    { accumulated := 0
      committed := 0
      refused := 0
      missed := 0
      stream := .start config validated direction deviceRate }
  have emptyFeeding : Feeding config empty :=
    { following := following_start valid direction sameRate
      logical_eq := valid.logical_eq
      accepted_eq := by simp [empty, PcmStream.start]
      ready := nofun }
  have emptyBuffered : empty.buffered = 0 := by
    simp [DriftRun.buffered, bufferedFrames, PcmStream.call, empty, PcmStream.start,
      RingResampler.new]
  have emptyPosition : empty.position = 0 := readPosition_zero 1 []
  have below := absorbable.target_lt
  obtain ⟨feeding, queued⟩ := @Feeding.commits _ _ emptyFeeding source config.targetFillFrames
    (by omega)
  have bufferedEq := emptyFeeding.buffered_commits feeding queued
  have positionEq : (empty.commits source config.targetFillFrames).position = empty.position := by
    rw [DriftRun.position, DriftRun.position, queued.delivered_eq]
  have startEq : DriftRun.start config validated direction deviceRate source =
      empty.commits source config.targetFillFrames := rfl
  rw [startEq]
  exact
    { feeding := feeding
      refused_eq := queued.refused_eq
      missed_eq := queued.missed_eq
      delivered_eq := by
        rw [queued.delivered_eq]
        rfl
      accumulated_nonneg := queued.accumulated_eq.ge
      accumulated_lt_one := by
        rw [queued.accumulated_eq]
        exact one_pos
      produced_eq := by
        rw [queued.accumulated_eq, queued.committed_eq]
        simp [empty]
      going := Or.inr (by omega)
      gap := by
        rw [positionEq, emptyPosition]
        simpa using absorbable.one_add_le }

/-- A tick keeps the gap in its band, and the fill level away from both ends of
the ring. -/
theorem Steady.tick {config : PcmStreamConfig} {deviation : ℚ} {count : Nat} {run : DriftRun}
    (steady : Steady config deviation count run) (absorbable : Absorbable config deviation)
    (source : Nat → Nat → ℚ) : Steady config deviation (count + 1) (run.tick deviation source) := by
  obtain ⟨slow, fast⟩ := absorbable.deviation_bounds
  obtain ⟨gapLower, gapUpper⟩ := abs_le.mp steady.gap
  have phaseNonneg := steady.feeding.following.phase_nonneg
  have phaseLt := steady.feeding.following.phase_lt_one
  have accumulatedNonneg := steady.accumulated_nonneg
  have produced := steady.produced_eq
  have fill := steady.feeding.buffered_eq
  have aboveEmpty := absorbable.above_empty
  have belowFull := absorbable.below_full
  let whole := (run.accumulated + (1 + deviation)).floor.toNat
  obtain ⟨wholeLe, ltWhole⟩ : (whole : ℚ) ≤ run.accumulated + (1 + deviation) ∧
      run.accumulated + (1 + deviation) < whole + 1 := floor_toNat_bounds (by linarith)
  let fresh : DriftRun :=
    { run with accumulated := run.accumulated + (1 + deviation) - whole }
  have freshFeeding : Feeding config fresh :=
    ⟨steady.feeding.following, steady.feeding.logical_eq, steady.feeding.accepted_eq,
      steady.feeding.ready⟩
  have room : fresh.buffered + whole ≤ config.capacityFrames := by
    have freshBuffered : fresh.buffered = run.buffered := rfl
    have sum : (run.buffered : ℚ) + whole ≤ config.capacityFrames := by linarith
    rw [freshBuffered]
    exact_mod_cast sum
  obtain ⟨fed, commits⟩ := freshFeeding.commits source room
  have bufferedEq : (fresh.commits source whole).buffered = run.buffered + whole :=
    freshFeeding.buffered_commits fed commits
  have bufferedCast : ((fresh.commits source whole).buffered : ℚ) = run.buffered + whole := by
    exact_mod_cast bufferedEq
  have samePosition : (fresh.commits source whole).position = run.position := by
    rw [DriftRun.position, DriftRun.position, commits.delivered_eq]
  have enough : 4 ≤ (fresh.commits source whole).buffered := by
    have large : (4 : ℚ) ≤ (fresh.commits source whole).buffered := by linarith
    exact_mod_cast large
  have going : (fresh.commits source whole).stream.resampler.primed = true ∨
      config.targetFillFrames ≤ (fresh.commits source whole).buffered := by
    rw [commits.resampler_eq, bufferedEq]
    exact steady.going.imp id fun full => full.trans (Nat.le_add_right _ _)
  have target : 2 ≤ config.targetFillFrames := le_trans (by norm_num) absorbable.eight_le_target
  obtain ⟨feeding, missedEq, primed, lengthEq, positionEq⟩ :=
    fed.nextFrame absorbable.drift_pos.le absorbable.drift_lt target going enough
  have tickEq : run.tick deviation source = (fresh.commits source whole).nextFrame := rfl
  have committedEq : (fresh.commits source whole).nextFrame.committed = run.committed + whole :=
    commits.committed_eq
  have accumulatedEq : (fresh.commits source whole).nextFrame.accumulated =
      run.accumulated + (1 + deviation) - whole := commits.accumulated_eq
  -- The fill level shows the gap up to less than one frame.
  have noise : |run.stream.resampler.phase - (run.accumulated + (1 + deviation) - whole)| ≤ 1 :=
    abs_le.mpr ⟨by linarith, by linarith⟩
  have measured : ((fresh.commits source whole).buffered : ℚ) - config.targetFillFrames =
      count * (1 + deviation) + (1 + deviation) - run.position +
        (run.stream.resampler.phase - (run.accumulated + (1 + deviation) - whole)) := by
    linarith
  have span := absorbable.one_le_span
  have band := ClampedControl.band_step absorbable.drift_pos (by linarith)
    (absorbable.drift_lt.le.trans span) absorbable.within noise steady.gap
  rw [tickEq]
  refine ⟨feeding, ?_, ?_, ?_, ?_, ?_, ?_, Or.inl primed, ?_⟩
  · exact commits.refused_eq.trans steady.refused_eq
  · rw [missedEq, commits.missed_eq]
    exact steady.missed_eq
  · rw [lengthEq, commits.delivered_eq]
    exact congrArg (· + 1) steady.delivered_eq
  · rw [accumulatedEq]
    linarith
  · rw [accumulatedEq]
    linarith
  · rw [committedEq, accumulatedEq]
    push_cast
    linarith
  · rw [positionEq, samePosition, measured]
    have regrouped : ((count + 1 : Nat) : ℚ) * (1 + deviation) + (1 + deviation) -
        (run.position + (1 + ClampedControl.correction config.driftRatio
          (min config.targetFillFrames (config.capacityFrames - config.targetFillFrames) : Nat)
          (count * (1 + deviation) + (1 + deviation) - run.position +
            (run.stream.resampler.phase - (run.accumulated + (1 + deviation) - whole))))) =
        count * (1 + deviation) + (1 + deviation) - run.position + deviation -
          ClampedControl.correction config.driftRatio
            (min config.targetFillFrames (config.capacityFrames - config.targetFillFrames) : Nat)
            (count * (1 + deviation) + (1 + deviation) - run.position +
              (run.stream.resampler.phase - (run.accumulated + (1 + deviation) - whole))) := by
      push_cast
      ring
    rw [regrouped]
    exact band

/-- A deviation within the drift limit, with a margin to both ends of the ring,
is absorbed for ever: no call misses a frame and no frame is refused. -/
theorem clock_drift_absorbed {w : Nat} {config : PcmStreamConfig} {validated : ValidatedConfig}
    (accepted : validateConfig w config = .ok validated) (direction : PcmStreamDirection)
    {deviceRate : UInt32} (sameRate : deviceRate = config.clientFormat.sampleRate)
    (drift : 0 < config.driftRatio) {deviation : ℚ} (within : |deviation| ≤ config.driftRatio)
    (aboveEmpty : 8 ≤ config.targetFillFrames - config.driftMargin deviation)
    (belowFull : config.targetFillFrames + config.driftMargin deviation ≤
      config.capacityFrames - 8)
    (source : Nat → Nat → ℚ) (count : Nat) :
    let run := (DriftRun.start config validated direction deviceRate source).ticks deviation source
      count
    run.missed = 0 ∧ run.refused = 0 ∧ run.stream.delivered.length = count := by
  have valid := validateConfig_valid accepted
  have absorbable : Absorbable config deviation :=
    { drift_pos := drift
      drift_lt := valid.driftRatio_bounds.2
      target_lt := valid.target_lt
      within := within
      above_empty := aboveEmpty
      below_full := belowFull }
  have steady : Steady config deviation count
      ((DriftRun.start config validated direction deviceRate source).ticks deviation source
        count) := by
    induction count with
    | zero => exact steady_start valid absorbable direction sameRate source
    | succ count ih => exact ih.tick absorbable source
  exact ⟨steady.missed_eq, steady.refused_eq, steady.delivered_eq⟩

/-- The ring of 8192 frames of the drift simulation, at any source and for any
number of ticks. -/
theorem clock_drift_absorbed_simulation :
    let config : PcmStreamConfig := ⟨"test-device", ⟨48000, 2⟩, 8192, 2048, 1000⟩
    validateConfig 64 config = .ok ⟨2, 16384, 16384⟩ ∧
      ∀ source count,
        let run := (DriftRun.start config ⟨2, 16384, 16384⟩ .output 48000 source).ticks (1 / 2000)
          source count
        run.missed = 0 ∧ run.refused = 0 ∧ run.stream.delivered.length = count := by
  have accepted : validateConfig 64 ⟨"test-device", ⟨48000, 2⟩, 8192, 2048, 1000⟩ =
      .ok ⟨2, 16384, 16384⟩ := by
    decide +kernel
  have ratio : PcmStreamConfig.driftRatio ⟨"test-device", ⟨48000, 2⟩, 8192, 2048, 1000⟩ =
      1 / 1000 := by
    decide +kernel
  have margin : PcmStreamConfig.driftMargin ⟨"test-device", ⟨48000, 2⟩, 8192, 2048, 1000⟩
      (1 / 2000) = 1024 := by
    decide +kernel
  refine ⟨accepted, fun source count => clock_drift_absorbed accepted .output rfl ?_ ?_ ?_ ?_
    source count⟩
  · rw [ratio]
    norm_num
  · rw [ratio, abs_of_nonneg (by norm_num)]
    norm_num
  · rw [margin]
    norm_num
  · rw [margin]
    norm_num

end VCable
