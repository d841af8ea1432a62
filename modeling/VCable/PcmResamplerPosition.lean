import VCable.PcmResampler
import Mathlib.Tactic.Ring

/-!
# The read position of the resampler

The resampler reads the stream of accepted frames at a position that advances
by the nominal step and the drift correction with every delivered frame.  The
phase stays below one except with a target of one frame and drift control: the
ring can then run dry while the correction still speeds the reader up.
-/

namespace VCable

open FrameStreams

/-! ## Accepted configurations -/

/-- What `validate_config` has checked. -/
structure PcmStreamConfig.Valid (config : PcmStreamConfig) (validated : ValidatedConfig) :
    Prop where
  channels_pos : 0 < validated.channels
  rate_ne_zero : config.clientFormat.sampleRate ≠ 0
  target_pos : 0 < config.targetFillFrames
  target_lt : config.targetFillFrames < config.capacityFrames
  drift_lt : config.maxDriftPpm.toNat < 1000000
  logical_eq : validated.logicalCapacitySamples = config.capacityFrames * validated.channels
  logical_le : validated.logicalCapacitySamples ≤ validated.internalSampleCapacity

theorem le_checkedNextPowerOfTwo {w value power : Nat}
    (found : checkedNextPowerOfTwo w value = some power) : value ≤ power := by
  simp only [checkedNextPowerOfTwo] at found
  split_ifs at found with small below
  · cases found
    exact small
  · cases found
    have above := @Nat.lt_log2_self (value - 1)
    omega

theorem validateConfig_valid {w : Nat} {config : PcmStreamConfig} {validated : ValidatedConfig}
    (accepted : validateConfig w config = .ok validated) : config.Valid validated := by
  simp only [validateConfig] at accepted
  split_ifs at accepted with channels rate capacity target drift logical
  split at accepted
  · cases accepted
  · rename_i power found
    cases accepted
    exact
      { channels_pos := by
          change 0 < config.clientFormat.channels.toNat
          omega
        rate_ne_zero := rate
        target_pos := by omega
        target_lt := by omega
        drift_lt := by
          have below := UInt32.not_le.mp drift
          exact UInt32.lt_iff_toNat_lt.mp below
        logical_eq := rfl
        logical_le := le_checkedNextPowerOfTwo found }

/-! ## Writes -/

/-- The producer writes frames that the ring has place for. -/
structure PcmProducer.Fits (producer : PcmProducer) : Prop where
  channels_pos : 0 < producer.channels
  logical_le : producer.logicalCapacitySamples ≤ producer.capacity

/-- The ring after whole frames were written to it. -/
def PcmRing.Extends (channels : Nat) (ring later : PcmRing) : Prop :=
  ∃ pcm, channels ∣ pcm.length ∧
    later = { samples := ring.samples ++ pcm, accepted := ring.accepted ++ pcm }

theorem PcmRing.Extends.refl (channels : Nat) (ring : PcmRing) : ring.Extends channels ring :=
  ⟨[], by simp, by simp⟩

theorem PcmRing.Extends.trans {channels : Nat} {first second third : PcmRing}
    (one : first.Extends channels second) (other : second.Extends channels third) :
    first.Extends channels third := by
  obtain ⟨pcm, whole, rfl⟩ := one
  obtain ⟨more, moreWhole, rfl⟩ := other
  refine ⟨pcm ++ more, ?_, by simp⟩
  rw [List.length_append]
  exact Nat.dvd_add whole moreWhole

/-- A push of whole frames that fit takes all of them. -/
theorem extends_pushSlice {producer : PcmProducer} {ring : PcmRing} {pcm : List ℚ}
    (whole : producer.channels ∣ pcm.length)
    (fits : pcm.length ≤ producer.capacity - ring.samples.length) :
    ring.Extends producer.channels (producer.pushSlice pcm ring) := by
  refine ⟨pcm, whole, ?_⟩
  simp only [PcmProducer.pushSlice, min_eq_left fits, List.take_length]

theorem extends_tryWriteInterleaved {producer : PcmProducer} (fits : producer.Fits)
    (ring : PcmRing) (pcm : List ℚ) :
    ring.Extends producer.channels (producer.tryWriteInterleaved pcm ring).2 := by
  have logical := fits.logical_le
  unfold PcmProducer.tryWriteInterleaved
  by_cases whole : pcm.length % producer.channels = 0
  · have divides : producer.channels ∣ pcm.length := Nat.dvd_of_mod_eq_zero whole
    rw [if_neg (not_not.mpr whole)]
    dsimp only
    split_ifs with full
    · exact .refl _ _
    · refine extends_pushSlice divides ?_
      have place := Nat.mul_le_of_le_div _ _ _ (not_lt.mp full)
      rw [Nat.div_mul_cancel divides, PcmProducer.available] at place
      omega
  · rw [if_pos whole]
    exact .refl _ _

theorem extends_captureFrame {producer : PcmProducer} (fits : producer.Fits) (ring : PcmRing)
    (scratch : Nat → ℚ) :
    ring.Extends producer.channels (producer.captureFrame scratch ring) := by
  unfold PcmProducer.captureFrame
  by_cases place : producer.hasCapacityForFrame ring = true
  · rw [if_pos place]
    refine extends_pushSlice (by simp) ?_
    have fitting := of_decide_eq_true place
    have logical := fits.logical_le
    have positive := fits.channels_pos
    rw [PcmProducer.available] at fitting
    rw [List.length_map, List.length_range]
    omega
  · rw [if_neg place]
    exact .refl _ _

/-- A write adds whole frames, or nothing. -/
theorem extends_apply {producer : PcmProducer} (fits : producer.Fits) (ring : PcmRing)
    (write : PcmWrite) : ring.Extends producer.channels (write.apply producer ring) := by
  cases write with
  | interleaved pcm => exact extends_tryWriteInterleaved fits ring pcm
  | captured scratch => exact extends_captureFrame fits ring scratch

namespace PcmCall

theorem extends_look {call : PcmCall} (fits : call.producer.Fits) :
    call.ring.Extends call.producer.channels call.look.ring := by
  have writes : ∀ (batch : List PcmWrite) (ring : PcmRing), ring.Extends call.producer.channels
      (batch.foldl (PcmWrite.apply call.producer) ring) := by
    intro batch
    induction batch with
    | nil => exact fun ring => .refl _ ring
    | cons write batch ih => exact fun ring => (extends_apply fits ring write).trans (ih _)
  unfold look
  split
  · exact .refl _ _
  · exact writes _ _

theorem look_of_nil {call : PcmCall} (quiet : call.arriving = []) : call.look = call := by
  rw [look, quiet]

theorem look_resampler (call : PcmCall) : call.look.resampler = call.resampler := by
  unfold look
  split <;> rfl

theorem look_eq (call : PcmCall) :
    call.look = { call with ring := call.look.ring, arriving := call.look.arriving } := by
  unfold look
  split <;> rfl

end PcmCall

/-! ## Drift corrections -/

/-- The drift limit as a ratio. -/
def PcmStreamConfig.driftRatio (config : PcmStreamConfig) : ℚ :=
  config.maxDriftPpm.toNat / 1000000

theorem PcmStreamConfig.Valid.driftRatio_bounds {config : PcmStreamConfig}
    {validated : ValidatedConfig} (valid : config.Valid validated) :
    0 ≤ config.driftRatio ∧ config.driftRatio < 1 := by
  unfold driftRatio
  refine ⟨by positivity, ?_⟩
  rw [div_lt_one (by norm_num)]
  exact_mod_cast valid.drift_lt

theorem driftCorrection_bounds (fill target span : Nat) {limit : ℚ} (nonneg : 0 ≤ limit) :
    -limit ≤ driftCorrection fill target span limit ∧
      driftCorrection fill target span limit ≤ limit :=
  ⟨le_max_left _ _, max_le (by linarith) (min_le_right _ _)⟩

/-- A reader that is not ahead of its target is not sped up. -/
theorem driftCorrection_nonpos {fill target : Nat} (span : Nat) {limit : ℚ} (nonneg : 0 ≤ limit)
    (le : fill ≤ target) : driftCorrection fill target span limit ≤ 0 := by
  have error : (fill : ℚ) - target ≤ 0 := sub_nonpos.mpr (Nat.cast_le.mpr le)
  have scaled : ((fill : ℚ) - target) / span * limit ≤ 0 :=
    mul_nonpos_of_nonpos_of_nonneg (div_nonpos_of_nonpos_of_nonneg error (Nat.cast_nonneg span))
      nonneg
  exact max_le (by linarith) ((min_le_left _ _).trans scaled)

/-! ## Where the resampler reads -/

/-- The fields of the resampler that no call changes. -/
structure ResamplerSettings where
  targetFillFrames : Nat
  primingThresholdFrames : Nat
  controlSpanFrames : Nat
  nominalStep : ℚ
  maxDriftRatio : ℚ

def RingResampler.settings (resampler : RingResampler) : ResamplerSettings where
  targetFillFrames := resampler.targetFillFrames
  primingThresholdFrames := resampler.primingThresholdFrames
  controlSpanFrames := resampler.controlSpanFrames
  nominalStep := resampler.nominalStep
  maxDriftRatio := resampler.maxDriftRatio

/-- The settings that a configuration leads to at equal rates. -/
def PcmStreamConfig.settings (config : PcmStreamConfig) : ResamplerSettings where
  targetFillFrames := config.targetFillFrames
  primingThresholdFrames := max config.targetFillFrames 2
  controlSpanFrames :=
    min config.targetFillFrames (config.capacityFrames - config.targetFillFrames)
  nominalStep := 1
  maxDriftRatio := config.driftRatio

namespace PcmCall

/-- The number of popped frames, when the frame `base` is or will be the
current one. -/
def popped (call : PcmCall) (base : Nat) : Nat :=
  base + call.resampler.haveCurrent.toNat + call.resampler.haveNext.toNat

/-- The resampler reads the accepted frames, which go on from those before, at
the given position: its cached frames are the ones at `base`, and the ring has
the frames after them. -/
structure Reading (config : PcmStreamConfig) (producer : PcmProducer) (before : List ℚ)
    (position : ℚ) (call : PcmCall) (base : Nat) : Prop where
  producer_eq : call.producer = producer
  settings_eq : call.resampler.settings = config.settings
  fits : call.producer.Fits
  channels_eq : call.producer.channels = call.resampler.channels
  whole : call.resampler.channels ∣ call.ring.accepted.length
  grown : before <+: call.ring.accepted
  popped_le : call.popped base * call.resampler.channels ≤ call.ring.accepted.length
  samples_eq : call.ring.samples =
    call.ring.accepted.drop (call.popped base * call.resampler.channels)
  next_current : call.resampler.haveNext = true → call.resampler.haveCurrent = true
  base_eq : call.resampler.haveCurrent = false → base = 0
  current_eq : call.resampler.haveCurrent = true →
    call.resampler.current = frameAt call.resampler.channels call.ring.accepted base
  next_eq : call.resampler.haveNext = true →
    call.resampler.next = frameAt call.resampler.channels call.ring.accepted (base + 1)
  position_eq : position = base + call.resampler.phase

namespace Reading

variable {config : PcmStreamConfig} {producer : PcmProducer} {before : List ℚ} {position : ℚ}
  {call : PcmCall} {base : Nat}

theorem current_present (reading : Reading config producer before position call base)
    (have_current : call.resampler.haveCurrent = true) :
    (base + 1) * call.resampler.channels ≤ call.ring.accepted.length := by
  refine (Nat.mul_le_mul_right _ ?_).trans reading.popped_le
  rw [popped, have_current, Bool.toNat_true]
  omega

theorem next_present (reading : Reading config producer before position call base)
    (have_next : call.resampler.haveNext = true) :
    (base + 2) * call.resampler.channels ≤ call.ring.accepted.length := by
  refine (Nat.mul_le_mul_right _ ?_).trans reading.popped_le
  rw [popped, have_next, reading.next_current have_next, Bool.toNat_true]

/-- Further writes do not move the reader. -/
theorem extend (reading : Reading config producer before position call base) {later : PcmRing}
    (grows : call.ring.Extends call.producer.channels later)
    (arriving : List (List PcmWrite)) :
    Reading config producer before position
      { call with ring := later, arriving := arriving } base := by
  obtain ⟨pcm, whole, rfl⟩ := grows
  rw [reading.channels_eq] at whole
  exact
    { reading with
      whole := by
        rw [List.length_append]
        exact Nat.dvd_add reading.whole whole
      grown := reading.grown.trans (List.prefix_append _ _)
      popped_le := by
        rw [List.length_append]
        exact reading.popped_le.trans (Nat.le_add_right _ _)
      samples_eq := by
        change call.ring.samples ++ pcm = (call.ring.accepted ++ pcm).drop
          (call.popped base * call.resampler.channels)
        rw [List.drop_append_of_le_length reading.popped_le, reading.samples_eq]
      current_eq := fun have_current => by
        rw [frameAt_append (reading.current_present have_current)]
        exact reading.current_eq have_current
      next_eq := fun have_next => by
        rw [frameAt_append (reading.next_present have_next)]
        exact reading.next_eq have_next }

/-- Between the calls no write is waiting. -/
theorem rest (reading : Reading config producer before position call base) :
    Reading config producer call.ring.accepted position
      { producer := producer, ring := call.ring, arriving := [], resampler := call.resampler }
      base := by
  have rested := reading.extend (.refl _ _) []
  cases reading.producer_eq
  exact { rested with grown := List.prefix_refl _ }

theorem look (reading : Reading config producer before position call base) :
    Reading config producer before position call.look base := by
  rw [look_eq]
  exact reading.extend (extends_look reading.fits) _

/-- A frame in the ring is the first one that was not popped. -/
theorem frame_ready (reading : Reading config producer before position call base)
    (enough : call.resampler.channels ≤ call.ring.samples.length) :
    (call.popped base + 1) * call.resampler.channels ≤ call.ring.accepted.length ∧
      call.ring.samples.take call.resampler.channels =
        frameAt call.resampler.channels call.ring.accepted (call.popped base) ∧
      call.ring.samples.drop call.resampler.channels =
        call.ring.accepted.drop ((call.popped base + 1) * call.resampler.channels) := by
  have popped := reading.popped_le
  rw [reading.samples_eq, List.length_drop] at enough
  refine ⟨?_, ?_, ?_⟩
  · rw [Nat.succ_mul]
    omega
  · rw [reading.samples_eq, frameAt]
  · rw [reading.samples_eq, drop_frame]

end Reading

/-- A pop looks at the ring and takes a frame if there is one. -/
theorem popFrame_cases (next : Bool) (call : PcmCall) :
    (call.look.ring.samples.length < call.resampler.channels ∧
      call.popFrame next = (false, call.look)) ∨
    (call.resampler.channels ≤ call.look.ring.samples.length ∧
      call.popFrame next = (true, { call.look with
        ring := { call.look.ring with
          samples := call.look.ring.samples.drop call.look.resampler.channels }
        resampler :=
          if next then { call.look.resampler with
            next := call.look.ring.samples.take call.look.resampler.channels }
          else { call.look.resampler with
            current := call.look.ring.samples.take call.look.resampler.channels } })) := by
  unfold popFrame
  by_cases short : call.look.ring.samples.length < call.resampler.channels
  · refine Or.inl ⟨short, ?_⟩
    simp only [look_resampler, if_pos short]
  · refine Or.inr ⟨not_lt.mp short, ?_⟩
    cases next <;> simp [look_resampler, short]

namespace Reading

variable {config : PcmStreamConfig} {producer : PcmProducer} {before : List ℚ} {position : ℚ}
  {call : PcmCall} {base : Nat}

theorem prime (reading : Reading config producer before position call base) :
    Reading config producer before position call.prime.2 base ∧
      call.prime.2.resampler.phase = call.resampler.phase := by
  unfold PcmCall.prime
  by_cases primed : call.resampler.primed = true
  · rw [if_pos primed]
    exact ⟨reading, rfl⟩
  · rw [if_neg primed]
    have looked := reading.look
    have phaseEq : call.look.resampler.phase = call.resampler.phase := by rw [look_resampler]
    dsimp only
    split_ifs
    · exact ⟨looked, phaseEq⟩
    · exact ⟨{ looked with whole := looked.whole }, phaseEq⟩

theorem fillCurrent (reading : Reading config producer before position call base) :
    Reading config producer before position call.fillCurrent.2 base ∧
      call.fillCurrent.2.resampler.phase = call.resampler.phase ∧
        (call.fillCurrent.1 = true → call.fillCurrent.2.resampler.haveCurrent = true) := by
  unfold PcmCall.fillCurrent
  by_cases have_current : call.resampler.haveCurrent = true
  · rw [if_pos have_current]
    exact ⟨reading, rfl, fun _ => have_current⟩
  rw [if_neg have_current]
  have looked := reading.look
  have phaseEq : call.look.resampler.phase = call.resampler.phase := by rw [look_resampler]
  have noCurrent : call.look.resampler.haveCurrent = false := by
    rw [look_resampler]
    exact Bool.eq_false_iff.mpr have_current
  have noNext : call.look.resampler.haveNext = false := by
    refine Bool.eq_false_iff.mpr fun have_next => ?_
    rw [looked.next_current have_next] at noCurrent
    cases noCurrent
  have poppedEq : call.look.popped base = base := by
    simp [popped, noCurrent, noNext]
  rcases popFrame_cases false call with ⟨short, result⟩ | ⟨enough, result⟩
  · rw [result]
    refine ⟨{ looked with
      popped_le := ?_
      samples_eq := ?_
      next_current := ?_
      base_eq := fun _ => looked.base_eq noCurrent
      current_eq := nofun }, phaseEq, nofun⟩
    · have le := looked.popped_le
      rw [poppedEq] at le
      simpa [popped, noNext] using le
    · have samples := looked.samples_eq
      rw [poppedEq] at samples
      simpa [popped, noNext] using samples
    · intro have_next
      rw [noNext] at have_next
      cases have_next
  · rw [result]
    rw [← look_resampler] at enough
    have ready := looked.frame_ready enough
    rw [poppedEq] at ready
    obtain ⟨present, output, rest⟩ := ready
    refine ⟨{ looked with
      popped_le := ?_
      samples_eq := ?_
      next_current := fun _ => rfl
      base_eq := nofun
      current_eq := fun _ => output
      next_eq := ?_ }, phaseEq, fun _ => rfl⟩
    · simpa [popped, noNext] using present
    · simpa [popped, noNext] using rest
    · intro have_next
      have have_next : call.look.resampler.haveNext = true := have_next
      rw [noNext] at have_next
      cases have_next

theorem fillNext (reading : Reading config producer before position call base)
    (have_current : call.resampler.haveCurrent = true) :
    Reading config producer before position call.fillNext.2 base ∧
      call.fillNext.2.resampler.phase = call.resampler.phase ∧
        (call.fillNext.1 = true → call.fillNext.2.resampler.haveNext = true) := by
  unfold PcmCall.fillNext
  by_cases have_next : call.resampler.haveNext = true
  · rw [if_pos have_next]
    exact ⟨reading, rfl, fun _ => have_next⟩
  rw [if_neg have_next]
  have looked := reading.look
  have phaseEq : call.look.resampler.phase = call.resampler.phase := by rw [look_resampler]
  have someCurrent : call.look.resampler.haveCurrent = true := by
    rw [look_resampler]
    exact have_current
  have noNext : call.look.resampler.haveNext = false := by
    rw [look_resampler]
    exact Bool.eq_false_iff.mpr have_next
  have poppedEq : call.look.popped base = base + 1 := by
    simp [popped, someCurrent, noNext]
  rcases popFrame_cases true call with ⟨short, result⟩ | ⟨enough, result⟩
  · rw [result]
    refine ⟨{ looked with
      popped_le := ?_
      samples_eq := ?_
      next_current := nofun
      next_eq := nofun }, phaseEq, nofun⟩
    · have le := looked.popped_le
      rw [poppedEq] at le
      simpa [popped, someCurrent] using le
    · have samples := looked.samples_eq
      rw [poppedEq] at samples
      simpa [popped, someCurrent] using samples
  · rw [result]
    rw [← look_resampler] at enough
    have ready := looked.frame_ready enough
    rw [poppedEq] at ready
    obtain ⟨present, output, rest⟩ := ready
    refine ⟨{ looked with
      popped_le := ?_
      samples_eq := ?_
      next_current := fun _ => someCurrent
      next_eq := fun _ => output }, phaseEq, fun _ => rfl⟩
    · simpa [popped, someCurrent] using present
    · simpa [popped, someCurrent] using rest

/-- Everything that is accepted now stays accepted. -/
theorem rebase (reading : Reading config producer before position call base) :
    Reading config producer call.ring.accepted position call base :=
  { reading with grown := List.prefix_refl _ }

end Reading

/-! ## Going on -/

theorem shift_phase (call : PcmCall) :
    call.shift.resampler.phase = call.resampler.phase - 1 := by
  unfold shift
  rcases popFrame_cases true { call with
    resampler := { call.resampler with
      current := call.resampler.next
      haveCurrent := true
      haveNext := false
      phase := call.resampler.phase - 1 } } with ⟨_, result⟩ | ⟨_, result⟩
  · simp only [result, look_resampler]
  · simp only [result, look_resampler, if_true]

theorem shifts_of_done {call : PcmCall}
    (done : ¬ (1 ≤ call.resampler.phase ∧ call.resampler.haveNext = true)) (passes : Nat) :
    call.shifts passes = call := by
  cases passes with
  | zero => rfl
  | succ passes => rw [shifts, if_neg done]

/-- The loop goes on as long as its condition holds. -/
theorem advance_eq (call : PcmCall) :
    call.advance =
      if 1 ≤ call.resampler.phase ∧ call.resampler.haveNext = true then call.shift.advance
      else call := by
  by_cases goes : 1 ≤ call.resampler.phase ∧ call.resampler.haveNext = true
  · have passes : call.resampler.phase.floor.toNat =
        call.shift.resampler.phase.floor.toNat + 1 := by
      have whole : 1 ≤ call.resampler.phase.floor := Rat.le_floor_iff.mpr (by simpa using goes.1)
      have less : (call.resampler.phase - 1).floor = call.resampler.phase.floor - 1 :=
        Int.floor_sub_one call.resampler.phase
      rw [shift_phase, less]
      omega
    rw [if_pos goes, advance, passes, shifts, if_pos goes, advance]
  · rw [if_neg goes, advance, shifts_of_done goes]

namespace Reading

variable {config : PcmStreamConfig} {producer : PcmProducer} {before : List ℚ} {position : ℚ}
  {call : PcmCall} {base : Nat}

/-- One pass of the loop goes on by one frame; the ring may have no next frame
then. -/
theorem shift (reading : Reading config producer before position call base)
    (have_next : call.resampler.haveNext = true) :
    Reading config producer before position call.shift (base + 1) ∧
      (call.shift.resampler.haveNext = true ∨
        call.ring.samples.length < call.resampler.channels) := by
  have have_current := reading.next_current have_next
  have next_eq := reading.next_eq have_next
  let shifted : PcmCall :=
    { call with
      resampler := { call.resampler with
        current := call.resampler.next
        haveCurrent := true
        haveNext := false
        phase := call.resampler.phase - 1 } }
  have moved : Reading config producer before position shifted (base + 1) :=
    { reading with
      popped_le := by
        have le := reading.popped_le
        simpa [popped, shifted, have_current, have_next] using le
      samples_eq := by
        have samples := reading.samples_eq
        simpa [popped, shifted, have_current, have_next] using samples
      next_current := nofun
      base_eq := nofun
      current_eq := fun _ => next_eq
      next_eq := nofun
      position_eq := by
        rw [reading.position_eq]
        push_cast
        ring }
  have shiftEq : call.shift = { (shifted.popFrame true).2 with
      resampler := { (shifted.popFrame true).2.resampler with
        haveNext := (shifted.popFrame true).1 } } := rfl
  rcases popFrame_cases true shifted with ⟨short, result⟩ | ⟨enough, result⟩
  · have noNext : shifted.look.resampler.haveNext = false := by rw [look_resampler]
    have same : { shifted.look.resampler with haveNext := false } = shifted.look.resampler := by
      rw [← noNext]
    rw [shiftEq, result]
    dsimp only
    rw [same]
    refine ⟨moved.look, Or.inr ?_⟩
    obtain ⟨pcm, _, ringEq⟩ := extends_look moved.fits
    rw [ringEq, List.length_append] at short
    exact (Nat.le_add_right _ _).trans_lt short
  · have filled := (moved.fillNext rfl).1
    rw [PcmCall.fillNext, if_neg (by simp [shifted]), result] at filled
    rw [shiftEq, result]
    exact ⟨filled, Or.inl rfl⟩

/-- The loop ends with a phase below one, unless the ring runs dry before. -/
theorem advance (reading : Reading config producer before position call base)
    (have_next : call.resampler.haveNext = true) (nonneg : 0 ≤ call.resampler.phase)
    (lt_three : call.resampler.phase < 3)
    (supply : call.resampler.phase < 2 ∨
      call.resampler.channels ≤ call.ring.samples.length) :
    (∃ reached, Reading config producer before position call.advance reached) ∧
      0 ≤ call.advance.resampler.phase ∧ call.advance.resampler.phase < 1 := by
  by_cases one : 1 ≤ call.resampler.phase
  · obtain ⟨shifted, popped⟩ := reading.shift have_next
    have phaseEq := shift_phase call
    rw [advance_eq, if_pos ⟨one, have_next⟩, advance_eq]
    by_cases two : 1 ≤ call.shift.resampler.phase
    · have some_next : call.shift.resampler.haveNext = true := by
        rcases popped with some_next | dry
        · exact some_next
        · rcases supply with slow | enough
          · linarith
          · exact absurd dry (not_lt.mpr enough)
      have twice := (shifted.shift some_next).1
      have phaseTwice := shift_phase call.shift
      rw [if_pos ⟨two, some_next⟩, advance_eq, if_neg (by intro goes; linarith [goes.1])]
      exact ⟨⟨_, twice⟩, by linarith, by linarith⟩
    · rw [if_neg fun goes => two goes.1]
      exact ⟨⟨_, shifted⟩, by linarith, not_le.mp two⟩
  · rw [advance_eq, if_neg fun goes => one goes.1]
    exact ⟨⟨base, reading⟩, nonneg, not_le.mp one⟩

theorem finish (reading : Reading config producer before position call base) :
    Reading config producer before position call.finish base ∧
      call.finish.resampler.phase = call.resampler.phase := by
  unfold PcmCall.finish
  split
  · exact ⟨reading, rfl⟩
  · exact ⟨{ reading with whole := reading.whole }, rfl⟩

/-- The correction speeds the reader up only while the ring has another frame. -/
theorem correction_nonpos_or (reading : Reading config producer before position call base)
    (have_next : call.resampler.haveNext = true) (nonneg : 0 ≤ config.driftRatio)
    (steady : 2 ≤ config.targetFillFrames ∨ config.maxDriftPpm = 0) :
    driftCorrection call.bufferedFrames call.resampler.targetFillFrames
        call.resampler.controlSpanFrames call.resampler.maxDriftRatio ≤ 0 ∨
      call.resampler.channels ≤ call.ring.samples.length := by
  by_cases enough : call.resampler.channels ≤ call.ring.samples.length
  · exact Or.inr enough
  refine Or.inl ?_
  have targetEq : call.resampler.targetFillFrames = config.targetFillFrames :=
    congrArg ResamplerSettings.targetFillFrames reading.settings_eq
  have driftEq : call.resampler.maxDriftRatio = config.driftRatio :=
    congrArg ResamplerSettings.maxDriftRatio reading.settings_eq
  rw [targetEq, driftEq]
  rcases steady with two | none
  · have fill : call.bufferedFrames = 2 := by
      simp [bufferedFrames, have_next, reading.next_current have_next,
        Nat.div_eq_of_lt (not_le.mp enough)]
    rw [fill]
    exact driftCorrection_nonpos _ nonneg two
  · have limit : config.driftRatio = 0 := by simp [PcmStreamConfig.driftRatio, none]
    rw [limit]
    exact (driftCorrection_bounds _ _ _ le_rfl).2

/-- The interpolated frame is the stream's value at the position, which then
goes on by the corrected step. -/
theorem interpolate (reading : Reading config producer before position call base)
    (have_next : call.resampler.haveNext = true) (nonneg : 0 ≤ config.driftRatio)
    (lt_one : config.driftRatio < 1)
    (steady : 2 ≤ config.targetFillFrames ∨ config.maxDriftPpm = 0)
    (phase_nonneg : 0 ≤ call.resampler.phase) (phase_lt_one : call.resampler.phase < 1) :
    Reading config producer call.ring.accepted (position + (1 + call.interpolate.1.correction))
        call.interpolate.2 base ∧
      call.interpolate.2.resampler.haveNext = true ∧
      0 ≤ call.interpolate.2.resampler.phase ∧ call.interpolate.2.resampler.phase < 3 ∧
      (call.interpolate.2.resampler.phase < 2 ∨ call.interpolate.2.resampler.channels ≤
        call.interpolate.2.ring.samples.length) ∧
      call.interpolate.1.phase = call.resampler.phase ∧
      IsValueAt producer.channels call.ring.accepted position call.interpolate.1.frame := by
  have looked := reading.rebase.look
  have look_next : call.look.resampler.haveNext = true := by rw [look_resampler, have_next]
  have stepEq : call.look.resampler.nominalStep = 1 :=
    congrArg ResamplerSettings.nominalStep looked.settings_eq
  have driftEq : call.look.resampler.maxDriftRatio = config.driftRatio :=
    congrArg ResamplerSettings.maxDriftRatio looked.settings_eq
  have correctionEq : call.interpolate.1.correction =
      driftCorrection call.look.bufferedFrames call.look.resampler.targetFillFrames
        call.look.resampler.controlSpanFrames call.look.resampler.maxDriftRatio := rfl
  have phaseEq : call.interpolate.2.resampler.phase =
      call.resampler.phase + (1 + call.interpolate.1.correction) := by
    change call.look.resampler.phase + call.look.resampler.nominalStep *
      (1 + call.interpolate.1.correction) = _
    rw [stepEq, look_resampler, one_mul]
  have bounds := driftCorrection_bounds call.look.bufferedFrames
    call.look.resampler.targetFillFrames call.look.resampler.controlSpanFrames nonneg
  rw [← driftEq, ← correctionEq, driftEq] at bounds
  have supply := looked.correction_nonpos_or look_next nonneg steady
  rw [← correctionEq] at supply
  refine ⟨{ looked with position_eq := ?_ }, look_next, ?_, ?_, ?_, rfl, ?_⟩
  · rw [phaseEq, reading.position_eq]
    ring
  · linarith [bounds.1]
  · linarith [bounds.2]
  · rcases supply with slow | enough
    · exact Or.inl (by linarith)
    · exact Or.inr enough
  · have frameEq : call.interpolate.1.frame =
        blend call.resampler.current call.resampler.next call.resampler.phase := rfl
    rw [frameEq, reading.current_eq (reading.next_current have_next), reading.next_eq have_next,
      reading.position_eq, ← reading.producer_eq, reading.channels_eq]
    exact isValueAt_blend (reading.next_present have_next) phase_nonneg phase_lt_one

/-- A call of the resampler delivers nothing and stays where it is, or delivers
the stream's value at the position and goes on by the corrected step. -/
theorem prepareNextFrame (reading : Reading config producer before position call base)
    (nonneg : 0 ≤ config.driftRatio) (lt_one : config.driftRatio < 1)
    (steady : 2 ≤ config.targetFillFrames ∨ config.maxDriftPpm = 0)
    (phase_nonneg : 0 ≤ call.resampler.phase) (phase_lt_one : call.resampler.phase < 1) :
    (call.prepareNextFrame.1 = none ∧
      (∃ reached, Reading config producer before position call.prepareNextFrame.2 reached) ∧
      call.prepareNextFrame.2.resampler.phase = call.resampler.phase) ∨
    ∃ delivery middle, call.prepareNextFrame.1 = some delivery ∧ before <+: middle ∧
      (∃ reached, Reading config producer middle (position + (1 + delivery.correction))
        call.prepareNextFrame.2 reached) ∧
      0 ≤ call.prepareNextFrame.2.resampler.phase ∧
      call.prepareNextFrame.2.resampler.phase < 1 ∧ delivery.phase = call.resampler.phase ∧
      IsValueAt producer.channels middle position delivery.frame := by
  obtain ⟨primed, primedPhase⟩ := reading.prime
  unfold PcmCall.prepareNextFrame
  split
  · rename_i first primeEq
    rw [primeEq] at primed primedPhase
    exact Or.inl ⟨rfl, ⟨base, primed⟩, primedPhase⟩
  rename_i first primeEq
  rw [primeEq] at primed primedPhase
  obtain ⟨current, currentPhase, someCurrent⟩ := primed.fillCurrent
  split
  · rename_i second currentEq
    rw [currentEq] at current currentPhase
    exact Or.inl ⟨rfl, ⟨base, current⟩, currentPhase.trans primedPhase⟩
  rename_i second currentEq
  rw [currentEq] at current currentPhase someCurrent
  obtain ⟨filled, filledPhase, someNext⟩ := current.fillNext (someCurrent rfl)
  split
  · rename_i third nextEq
    rw [nextEq] at filled filledPhase
    exact Or.inl ⟨rfl, ⟨base, filled⟩, filledPhase.trans (currentPhase.trans primedPhase)⟩
  rename_i third nextEq
  rw [nextEq] at filled filledPhase someNext
  have samePhase : third.resampler.phase = call.resampler.phase :=
    filledPhase.trans (currentPhase.trans primedPhase)
  obtain ⟨read, readNext, readNonneg, readLt, supply, deliveryPhase, isValue⟩ :=
    filled.interpolate (someNext rfl) nonneg lt_one steady (samePhase ▸ phase_nonneg)
      (samePhase ▸ phase_lt_one)
  obtain ⟨⟨reached, advanced⟩, advancedNonneg, advancedLt⟩ :=
    read.advance readNext readNonneg readLt supply
  obtain ⟨finished, finishedPhase⟩ := advanced.finish
  refine Or.inr ⟨third.interpolate.1, third.ring.accepted, rfl, filled.grown, ⟨reached, finished⟩,
    ?_, ?_, deliveryPhase.trans samePhase, isValue⟩
  · exact finishedPhase ▸ advancedNonneg
  · exact finishedPhase ▸ advancedLt

end Reading

end PcmCall

end VCable
