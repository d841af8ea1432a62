import VCable.PcmResamplerPosition

/-!
# When delivered frames follow the read position

Over whole runs of writes and calls of the resampler, every delivered frame is
the value of the accepted stream at the read position, if and only if the
configuration has a target of at least two frames or no drift control.
-/

namespace VCable

open FrameStreams PcmCall

/-- The position of a delivered frame: the steps of the frames before it. -/
def readPosition (nominalStep : ℚ) (delivered : List Delivery) (count : Nat) : ℚ :=
  ((delivered.take count).map fun delivery => nominalStep * (1 + delivery.correction)).sum

@[simp]
theorem readPosition_zero (nominalStep : ℚ) (delivered : List Delivery) :
    readPosition nominalStep delivered 0 = 0 := by
  simp [readPosition]

theorem readPosition_succ (nominalStep : ℚ) {delivered : List Delivery} {count : Nat}
    {delivery : Delivery} (found : delivered[count]? = some delivery) :
    readPosition nominalStep delivered (count + 1) =
      readPosition nominalStep delivered count + nominalStep * (1 + delivery.correction) := by
  simp [readPosition, List.take_add_one, found]

theorem readPosition_append (nominalStep : ℚ) {delivered : List Delivery} {count : Nat}
    (le : count ≤ delivered.length) (more : List Delivery) :
    readPosition nominalStep (delivered ++ more) count =
      readPosition nominalStep delivered count := by
  rw [readPosition, List.take_append_of_le_length le, readPosition]

/-- Every delivered frame was interpolated at a phase from zero up to one, and
is the value of the accepted frames at its read position. -/
def FollowsReadPosition (stream : PcmStream) : Prop :=
  ∀ count delivery, stream.delivered[count]? = some delivery →
    0 ≤ delivery.phase ∧ delivery.phase < 1 ∧
      IsValueAt stream.producer.channels stream.ring.accepted
        (readPosition stream.resampler.nominalStep stream.delivered count) delivery.frame

/-- A stream that goes on with at most one delivery at its read position. -/
theorem FollowsReadPosition.extend {stream later : PcmStream} {more : Option Delivery}
    (follows : FollowsReadPosition stream) (producerEq : later.producer = stream.producer)
    (stepEq : later.resampler.nominalStep = stream.resampler.nominalStep)
    (grown : stream.ring.accepted <+: later.ring.accepted)
    (deliveredEq : later.delivered = stream.delivered ++ more.toList)
    (last : ∀ delivery, more = some delivery → 0 ≤ delivery.phase ∧ delivery.phase < 1 ∧
      IsValueAt stream.producer.channels later.ring.accepted
        (readPosition stream.resampler.nominalStep stream.delivered stream.delivered.length)
        delivery.frame) :
    FollowsReadPosition later := by
  intro count delivery found
  rw [deliveredEq] at found
  rw [producerEq, stepEq, deliveredEq]
  rcases lt_or_ge count stream.delivered.length with old | fresh
  · rw [List.getElem?_append_left old] at found
    obtain ⟨nonneg, lt_one, isValue⟩ := follows count delivery found
    rw [readPosition_append _ old.le]
    exact ⟨nonneg, lt_one, isValue.mono grown⟩
  · rw [List.getElem?_append_right fresh] at found
    obtain ⟨rfl, atEnd⟩ : more = some delivery ∧ count - stream.delivered.length = 0 := by
      cases more with
      | none => cases found
      | some one => simpa [List.getElem?_singleton, and_comm] using found
    obtain rfl : count = stream.delivered.length :=
      le_antisymm (Nat.sub_eq_zero_iff_le.mp atEnd) fresh
    rw [readPosition_append _ le_rfl]
    exact last delivery rfl

theorem PcmStream.run_append (stream : PcmStream) (first second : List PcmAction) :
    stream.run (first ++ second) = (stream.run first).run second :=
  List.foldl_append

/-! ## Runs that follow -/

/-- What holds of a stream between the calls. -/
structure Following (config : PcmStreamConfig) (stream : PcmStream) : Prop where
  reading : ∃ base, Reading config stream.producer stream.ring.accepted
    (readPosition 1 stream.delivered stream.delivered.length) (stream.call []) base
  phase_nonneg : 0 ≤ stream.resampler.phase
  phase_lt_one : stream.resampler.phase < 1
  follows : FollowsReadPosition stream

theorem Following.step_eq {config : PcmStreamConfig} {stream : PcmStream}
    (following : Following config stream) : stream.resampler.nominalStep = 1 := by
  obtain ⟨base, reading⟩ := following.reading
  exact congrArg ResamplerSettings.nominalStep reading.settings_eq

theorem Following.write {config : PcmStreamConfig} {stream : PcmStream}
    (following : Following config stream) (write : PcmWrite) :
    Following config (stream.step (.write write)) := by
  obtain ⟨base, reading⟩ := following.reading
  have extended := reading.extend (extends_apply reading.fits stream.ring write) []
  refine ⟨⟨base, extended.rebase⟩, following.phase_nonneg, following.phase_lt_one, ?_⟩
  exact @FollowsReadPosition.extend _ _ none following.follows rfl rfl extended.grown
    (List.append_nil _).symm nofun

/-- A call goes on from where the one before stopped. -/
theorem Following.nextFrame {config : PcmStreamConfig} {stream : PcmStream}
    (following : Following config stream) (nonneg : 0 ≤ config.driftRatio)
    (lt_one : config.driftRatio < 1)
    (steady : 2 ≤ config.targetFillFrames ∨ config.maxDriftPpm = 0)
    (arriving : List (List PcmWrite)) :
    Following config (stream.step (.nextFrame arriving)) := by
  obtain ⟨base, resting⟩ := following.reading
  have reading : Reading config stream.producer stream.ring.accepted
      (readPosition 1 stream.delivered stream.delivered.length) (stream.call arriving) base :=
    resting.extend (.refl _ _) arriving
  have outcome := reading.prepareNextFrame nonneg lt_one steady following.phase_nonneg
    following.phase_lt_one
  have stepEq : stream.step (.nextFrame arriving) =
      { stream with
        ring := (stream.call arriving).prepareNextFrame.2.ring
        resampler := (stream.call arriving).prepareNextFrame.2.resampler
        delivered := stream.delivered ++ (stream.call arriving).prepareNextFrame.1.toList } := rfl
  have sameStep : ∀ {before : List ℚ} {position : ℚ} {reached : Nat},
      Reading config stream.producer before position (stream.call arriving).prepareNextFrame.2
        reached → (stream.call arriving).prepareNextFrame.2.resampler.nominalStep =
          stream.resampler.nominalStep := fun after =>
    (congrArg ResamplerSettings.nominalStep after.settings_eq).trans following.step_eq.symm
  rw [stepEq]
  rcases outcome with ⟨silent, ⟨reached, after⟩, phaseEq⟩ |
    ⟨delivery, middle, delivers, grown, ⟨reached, after⟩, phaseNonneg, phaseLt, deliveryPhase,
      isValue⟩
  · rw [silent, Option.toList_none, List.append_nil]
    refine ⟨⟨reached, after.rest⟩, ?_, ?_, ?_⟩
    · exact phaseEq ▸ following.phase_nonneg
    · exact phaseEq ▸ following.phase_lt_one
    · exact @FollowsReadPosition.extend _ _ none following.follows rfl (sameStep after)
        after.grown (List.append_nil _).symm nofun
  · rw [delivers, Option.toList_some]
    have found : (stream.delivered ++ [delivery])[stream.delivered.length]? = some delivery := by
      simp
    have positionEq : readPosition 1 (stream.delivered ++ [delivery])
        (stream.delivered ++ [delivery]).length =
          readPosition 1 stream.delivered stream.delivered.length + (1 + delivery.correction) := by
      rw [List.length_append, List.length_singleton, readPosition_succ 1 found,
        readPosition_append 1 le_rfl, one_mul]
    refine ⟨⟨reached, positionEq ▸ after.rest⟩, phaseNonneg, phaseLt, ?_⟩
    refine @FollowsReadPosition.extend _ _ (some delivery) following.follows rfl
      (sameStep after) (grown.trans after.grown) rfl ?_
    rintro _ ⟨⟩
    rw [deliveryPhase, following.step_eq]
    exact ⟨following.phase_nonneg, following.phase_lt_one, isValue.mono after.grown⟩

/-- Equal rates give the settings of a nominal step of one. -/
theorem settings_start {config : PcmStreamConfig} {validated : ValidatedConfig}
    (valid : config.Valid validated) (direction : PcmStreamDirection) {deviceRate : UInt32}
    (sameRate : deviceRate = config.clientFormat.sampleRate) :
    (PcmStream.start config validated direction deviceRate).resampler.settings =
      config.settings := by
  have stepEq : PcmStream.nominalStep direction config.clientFormat.sampleRate deviceRate = 1 := by
    subst sameRate
    have rate : (config.clientFormat.sampleRate.toNat : ℚ) ≠ 0 := by
      intro zero
      exact valid.rate_ne_zero (UInt32.toNat_inj.mp (by exact_mod_cast zero))
    cases direction <;> exact div_self rate
  simp only [PcmStream.start, RingResampler.new, RingResampler.settings,
    PcmStreamConfig.settings, PcmStreamConfig.driftRatio, stepEq]

/-- A stream that has just been started. -/
theorem following_start {config : PcmStreamConfig} {validated : ValidatedConfig}
    (valid : config.Valid validated) (direction : PcmStreamDirection) {deviceRate : UInt32}
    (sameRate : deviceRate = config.clientFormat.sampleRate) :
    Following config (.start config validated direction deviceRate) := by
  refine ⟨⟨0, ?_⟩, le_rfl, one_pos, nofun⟩
  exact
    { producer_eq := rfl
      settings_eq := settings_start valid direction sameRate
      fits := ⟨valid.channels_pos, valid.logical_le⟩
      channels_eq := rfl
      whole := by simp [PcmStream.call, PcmStream.start]
      grown := List.prefix_refl _
      popped_le := by simp [PcmStream.call, PcmStream.start, RingResampler.new, popped]
      samples_eq := by simp [PcmStream.call, PcmStream.start]
      next_current := nofun
      base_eq := fun _ => rfl
      current_eq := nofun
      next_eq := nofun
      position_eq := by simp [PcmStream.call, PcmStream.start, RingResampler.new] }

theorem Following.run {config : PcmStreamConfig} {stream : PcmStream}
    (following : Following config stream) (nonneg : 0 ≤ config.driftRatio)
    (lt_one : config.driftRatio < 1)
    (steady : 2 ≤ config.targetFillFrames ∨ config.maxDriftPpm = 0) (actions : List PcmAction) :
    Following config (stream.run actions) := by
  induction actions generalizing stream with
  | nil => exact following
  | cons action actions ih =>
      cases action with
      | write write => exact ih (following.write write)
      | nextFrame arriving => exact ih (following.nextFrame nonneg lt_one steady arriving)

/-! ## Runs that get ahead -/

/-- The ring is empty and no next frame is cached. -/
structure Dry (config : PcmStreamConfig) (stream : PcmStream) (phase : ℚ) : Prop where
  settings_eq : stream.resampler.settings = config.settings
  fits : stream.producer.Fits
  channels_eq : stream.producer.channels = stream.resampler.channels
  room : 2 * stream.producer.channels ≤ stream.producer.logicalCapacitySamples
  samples_eq : stream.ring.samples = []
  no_next : stream.resampler.haveNext = false
  unprimed : stream.resampler.primed = false
  phase_eq : stream.resampler.phase = phase

/-- With a target of one frame, a reader on an empty ring is sped up by the
whole drift limit. -/
theorem driftCorrection_two {config : PcmStreamConfig} {validated : ValidatedConfig}
    (valid : config.Valid validated) (target : config.targetFillFrames = 1) :
    driftCorrection 2 config.settings.targetFillFrames config.settings.controlSpanFrames
      config.settings.maxDriftRatio = config.driftRatio := by
  have span : min 1 (config.capacityFrames - 1) = 1 := by
    have below := valid.target_lt
    omega
  have limit := valid.driftRatio_bounds.1
  simp only [driftCorrection, PcmStreamConfig.settings, target, span]
  norm_num
  linarith

namespace PcmCall

theorem popFrame_of_dry {call : PcmCall} (quiet : call.arriving = [])
    (samples : call.ring.samples = []) (positive : 0 < call.resampler.channels) (next : Bool) :
    call.popFrame next = (false, call) := by
  have cases := popFrame_cases next call
  rw [look_of_nil quiet, samples] at cases
  rcases cases with ⟨_, result⟩ | ⟨enough, _⟩
  · exact result
  · exact absurd enough (not_le.mpr positive)

theorem shift_of_dry {call : PcmCall} (quiet : call.arriving = [])
    (samples : call.ring.samples = []) (positive : 0 < call.resampler.channels) :
    call.shift = { call with
      resampler := { call.resampler with
        current := call.resampler.next
        haveCurrent := true
        haveNext := false
        phase := call.resampler.phase - 1 } } := by
  have popped := @popFrame_of_dry { call with
      resampler := { call.resampler with
        current := call.resampler.next
        haveCurrent := true
        haveNext := false
        phase := call.resampler.phase - 1 } } quiet samples positive true
  unfold shift
  simp only [popped]

/-- Going on with an empty ring leaves no next frame. -/
theorem advance_of_dry {call : PcmCall} (quiet : call.arriving = [])
    (samples : call.ring.samples = []) (positive : 0 < call.resampler.channels)
    (fast : 1 ≤ call.resampler.phase) (have_next : call.resampler.haveNext = true) :
    call.advance.finish = { call with
      resampler := { call.resampler with
        current := call.resampler.next
        haveCurrent := true
        haveNext := false
        primed := false
        phase := call.resampler.phase - 1 } } := by
  rw [advance_eq, if_pos ⟨fast, have_next⟩, shift_of_dry quiet samples positive, advance_eq,
    if_neg (by simp), finish, if_neg (by simp)]

theorem popFrame_of_enough {call : PcmCall} (quiet : call.arriving = [])
    (enough : call.resampler.channels ≤ call.ring.samples.length) (next : Bool) :
    call.popFrame next = (true, { call with
      ring := { call.ring with samples := call.ring.samples.drop call.resampler.channels }
      resampler :=
        if next then { call.resampler with
          next := call.ring.samples.take call.resampler.channels }
        else { call.resampler with
          current := call.ring.samples.take call.resampler.channels } }) := by
  have cases := popFrame_cases next call
  rw [look_of_nil quiet] at cases
  rcases cases with ⟨short, _⟩ | ⟨_, result⟩
  · exact absurd enough (not_le.mpr short)
  · exact result

/-- What stays the same while a call fills its cached frames. -/
structure Keeps (call filled : PcmCall) : Prop where
  producer_eq : filled.producer = call.producer
  arriving_eq : filled.arriving = call.arriving
  channels_eq : filled.resampler.channels = call.resampler.channels
  settings_eq : filled.resampler.settings = call.resampler.settings
  phase_eq : filled.resampler.phase = call.resampler.phase

theorem Keeps.trans {first second third : PcmCall} (one : first.Keeps second)
    (other : second.Keeps third) : first.Keeps third where
  producer_eq := other.producer_eq.trans one.producer_eq
  arriving_eq := other.arriving_eq.trans one.arriving_eq
  channels_eq := other.channels_eq.trans one.channels_eq
  settings_eq := other.settings_eq.trans one.settings_eq
  phase_eq := other.phase_eq.trans one.phase_eq

theorem prime_of_two {call : PcmCall} (quiet : call.arriving = [])
    (buffered : call.bufferedFrames = 2) (threshold : call.resampler.primingThresholdFrames = 2)
    (unprimed : call.resampler.primed = false) :
    call.prime = (true, { call with
      resampler := { call.resampler with primed := true, hasPrimed := true } }) := by
  rw [prime, if_neg (by simp [unprimed]), look_of_nil quiet]
  dsimp only
  rw [if_neg (by rw [buffered, threshold]; omega)]

/-- Filling the current frame leaves one frame in the ring. -/
theorem fillCurrent_of_two {call : PcmCall} (quiet : call.arriving = [])
    (samples : call.ring.samples.length =
      (2 - call.resampler.haveCurrent.toNat) * call.resampler.channels)
    (no_next : call.resampler.haveNext = false) :
    ∃ filled : PcmCall, call.fillCurrent = (true, filled) ∧ call.Keeps filled ∧
      filled.ring.samples.length = call.resampler.channels ∧
      filled.resampler.haveCurrent = true ∧ filled.resampler.haveNext = false := by
  unfold fillCurrent
  cases have_current : call.resampler.haveCurrent with
  | true =>
      rw [have_current] at samples
      exact ⟨call, rfl, ⟨rfl, rfl, rfl, rfl, rfl⟩, by simpa using samples, have_current, no_next⟩
  | false =>
      rw [have_current, Bool.toNat_false] at samples
      rw [if_neg (by simp), popFrame_of_enough quiet (by omega)]
      refine ⟨_, rfl, ⟨rfl, rfl, rfl, rfl, rfl⟩, ?_, rfl, no_next⟩
      dsimp only
      rw [List.length_drop]
      omega

theorem fillNext_of_one {call : PcmCall} (quiet : call.arriving = [])
    (samples : call.ring.samples.length = call.resampler.channels)
    (have_current : call.resampler.haveCurrent = true)
    (no_next : call.resampler.haveNext = false) :
    ∃ filled : PcmCall, call.fillNext = (true, filled) ∧ call.Keeps filled ∧
      filled.ring.samples = [] ∧ filled.resampler.haveCurrent = true ∧
      filled.resampler.haveNext = true := by
  rw [fillNext, if_neg (by simp [no_next]), popFrame_of_enough quiet samples.ge]
  refine ⟨_, rfl, ⟨rfl, rfl, rfl, rfl, rfl⟩, ?_, have_current, rfl⟩
  exact List.drop_eq_nil_of_le samples.le

/-- With two frames in all, an unprimed call caches both and empties the ring. -/
theorem prepareNextFrame_of_two {call : PcmCall} (quiet : call.arriving = [])
    (positive : 0 < call.resampler.channels)
    (samples : call.ring.samples.length =
      (2 - call.resampler.haveCurrent.toNat) * call.resampler.channels)
    (threshold : call.resampler.primingThresholdFrames = 2)
    (unprimed : call.resampler.primed = false) (no_next : call.resampler.haveNext = false) :
    ∃ filled : PcmCall, call.prepareNextFrame =
        (some filled.interpolate.1, filled.interpolate.2.advance.finish) ∧ call.Keeps filled ∧
      filled.ring.samples = [] ∧ filled.resampler.haveCurrent = true ∧
      filled.resampler.haveNext = true := by
  have buffered : call.bufferedFrames = 2 := by
    rw [bufferedFrames, samples, Nat.mul_div_cancel _ positive, no_next]
    cases call.resampler.haveCurrent <;> rfl
  have primed := prime_of_two quiet buffered threshold unprimed
  obtain ⟨second, currentEq, currentKeeps, currentSamples, someCurrent, noNext⟩ :=
    @fillCurrent_of_two { call with
      resampler := { call.resampler with primed := true, hasPrimed := true } } quiet samples no_next
  obtain ⟨third, nextEq, nextKeeps, nextSamples, haveCurrent, haveNext⟩ :=
    fillNext_of_one (currentKeeps.arriving_eq.trans quiet)
      (currentSamples.trans currentKeeps.channels_eq.symm) someCurrent noNext
  refine ⟨third, ?_, ?_, nextSamples, haveCurrent, haveNext⟩
  · simp only [prepareNextFrame, primed, currentEq, nextEq]
  · have started : call.Keeps { call with
        resampler := { call.resampler with primed := true, hasPrimed := true } } :=
      ⟨rfl, rfl, rfl, rfl, rfl⟩
    exact started.trans (currentKeeps.trans nextKeeps)

/-- Interpolating on an empty ring speeds the reader up by the drift limit. -/
theorem interpolate_of_dry {config : PcmStreamConfig} {validated : ValidatedConfig}
    {call : PcmCall} (valid : config.Valid validated) (target : config.targetFillFrames = 1)
    (settings : call.resampler.settings = config.settings) (quiet : call.arriving = [])
    (samples : call.ring.samples = []) (have_current : call.resampler.haveCurrent = true)
    (have_next : call.resampler.haveNext = true) :
    call.interpolate.2 = { call with
      resampler := { call.resampler with
        interpolated := blend call.resampler.current call.resampler.next call.resampler.phase
        phase := call.resampler.phase + (1 + config.driftRatio) } } := by
  have fill : call.bufferedFrames = 2 := by
    simp [bufferedFrames, samples, have_current, have_next]
  have correction : driftCorrection 2 call.resampler.targetFillFrames
      call.resampler.controlSpanFrames call.resampler.maxDriftRatio = config.driftRatio := by
    rw [← driftCorrection_two valid target, ← settings]
    rfl
  have stepEq : call.resampler.nominalStep = 1 := congrArg ResamplerSettings.nominalStep settings
  simp only [interpolate, look_of_nil quiet, fill, correction, stepEq, one_mul]

end PcmCall

/-! ## One round -/

/-- Write as many frames as are missing to two, and call the resampler. -/
def dryRound (stream : PcmStream) : List PcmAction :=
  [.write (.interleaved (List.replicate
    ((2 - stream.resampler.haveCurrent.toNat) * stream.producer.channels) 0)), .nextFrame []]

theorem apply_of_dry {producer : PcmProducer} (fits : producer.Fits) {ring : PcmRing}
    (samples : ring.samples = []) (pcm : List ℚ) (whole : producer.channels ∣ pcm.length)
    (room : pcm.length ≤ producer.logicalCapacitySamples) :
    (PcmWrite.apply producer ring (.interleaved pcm)).samples = pcm := by
  have logical := fits.logical_le
  have aligned : ¬ pcm.length % producer.channels ≠ 0 :=
    not_not.mpr (Nat.mod_eq_zero_of_dvd whole)
  have place : ¬ pcm.length / producer.channels >
      (producer.logicalCapacitySamples - 0) / producer.channels :=
    not_lt.mpr (Nat.div_le_div_right room)
  have count : min pcm.length (producer.capacity - 0) = pcm.length := by omega
  have used : producer.capacity - (producer.capacity - 0) = 0 := by omega
  unfold PcmWrite.apply PcmProducer.tryWriteInterleaved PcmProducer.available
    PcmProducer.pushSlice
  simp only [samples, List.length_nil, used, if_neg aligned, if_neg place, count,
    List.take_length, List.nil_append]

/-- A round interpolates at the phase and adds the whole drift limit to it. -/
theorem Dry.round {config : PcmStreamConfig} {validated : ValidatedConfig} {stream : PcmStream}
    {phase : ℚ} (valid : config.Valid validated) (target : config.targetFillFrames = 1)
    (nonneg : 0 ≤ phase) (dry : Dry config stream phase) :
    Dry config (stream.run (dryRound stream)) (phase + config.driftRatio) ∧
      ∃ delivery, (stream.run (dryRound stream)).delivered = stream.delivered ++ [delivery] ∧
        delivery.phase = phase := by
  have limit := valid.driftRatio_bounds.1
  have positive : 0 < stream.resampler.channels := dry.channels_eq ▸ dry.fits.channels_pos
  let pcm : List ℚ := List.replicate
    ((2 - stream.resampler.haveCurrent.toNat) * stream.producer.channels) 0
  let written := stream.step (.write (.interleaved pcm))
  have samples : (written.call []).ring.samples = pcm := by
    refine apply_of_dry dry.fits dry.samples_eq pcm (by simp [pcm]) ?_
    have few := Nat.mul_le_mul_right stream.producer.channels
      (Nat.sub_le 2 stream.resampler.haveCurrent.toNat)
    simpa [pcm] using few.trans dry.room
  have threshold : stream.resampler.primingThresholdFrames = 2 := by
    have fromSettings := congrArg ResamplerSettings.primingThresholdFrames dry.settings_eq
    have two : max config.targetFillFrames 2 = 2 := by omega
    exact fromSettings.trans two
  have count : (written.call []).ring.samples.length =
      (2 - stream.resampler.haveCurrent.toNat) * stream.resampler.channels := by
    rw [samples, List.length_replicate, dry.channels_eq]
  obtain ⟨filled, result, keeps, filledSamples, haveCurrent, haveNext⟩ :=
    @prepareNextFrame_of_two (written.call []) rfl positive count threshold dry.unprimed
      dry.no_next
  have runEq : stream.run (dryRound stream) =
      { written with
        ring := filled.interpolate.2.advance.finish.ring
        resampler := filled.interpolate.2.advance.finish.resampler
        delivered := stream.delivered ++ [filled.interpolate.1] } := by
    change written.step (.nextFrame []) = _
    simp only [PcmStream.step, result]
    rfl
  have settings : filled.resampler.settings = config.settings :=
    keeps.settings_eq.trans dry.settings_eq
  have phaseEq : filled.resampler.phase = phase := keeps.phase_eq.trans dry.phase_eq
  have channels : filled.resampler.channels = stream.resampler.channels := keeps.channels_eq
  have interpolated := interpolate_of_dry valid target settings keeps.arriving_eq filledSamples
    haveCurrent haveNext
  have advanced := @advance_of_dry { filled with
      resampler := { filled.resampler with
        interpolated := blend filled.resampler.current filled.resampler.next filled.resampler.phase
        phase := filled.resampler.phase + (1 + config.driftRatio) } }
    keeps.arriving_eq filledSamples (channels ▸ positive) (by dsimp only; linarith) haveNext
  rw [runEq, interpolated, advanced]
  refine ⟨?_, filled.interpolate.1, rfl, phaseEq⟩
  exact
    { settings_eq := settings
      fits := dry.fits
      channels_eq := dry.channels_eq.trans channels.symm
      room := dry.room
      samples_eq := filledSamples
      no_next := rfl
      unprimed := rfl
      phase_eq := by
        dsimp only
        rw [phaseEq]
        ring }

/-- A stream that has just been started is dry. -/
theorem dry_start {config : PcmStreamConfig} {validated : ValidatedConfig}
    (valid : config.Valid validated) (direction : PcmStreamDirection) {deviceRate : UInt32}
    (sameRate : deviceRate = config.clientFormat.sampleRate) :
    Dry config (.start config validated direction deviceRate) 0 where
  settings_eq := settings_start valid direction sameRate
  fits := ⟨valid.channels_pos, valid.logical_le⟩
  channels_eq := rfl
  room := by
    have two : 2 ≤ config.capacityFrames := lt_of_le_of_lt valid.target_pos valid.target_lt
    exact (Nat.mul_le_mul_right validated.channels two).trans_eq valid.logical_eq.symm
  samples_eq := rfl
  no_next := rfl
  unprimed := rfl
  phase_eq := rfl

/-- The rounds add up. -/
theorem Dry.rounds {config : PcmStreamConfig} {validated : ValidatedConfig} {stream : PcmStream}
    (valid : config.Valid validated) (target : config.targetFillFrames = 1)
    (dry : Dry config stream 0) (count : Nat) :
    ∃ actions, Dry config (stream.run actions) (count * config.driftRatio) := by
  induction count with
  | zero => exact ⟨[], by simpa [PcmStream.run] using dry⟩
  | succ count ih =>
      obtain ⟨actions, reached⟩ := ih
      have nonneg := mul_nonneg (Nat.cast_nonneg' count) valid.driftRatio_bounds.1
      have next := (reached.round valid target nonneg).1
      refine ⟨actions ++ dryRound (stream.run actions), ?_⟩
      rw [PcmStream.run_append, Nat.cast_succ, add_mul, one_mul]
      exact next

/-- With a target of one frame and drift control, some run delivers a frame at
a phase of one or more. -/
theorem exists_ahead {config : PcmStreamConfig} {validated : ValidatedConfig}
    (valid : config.Valid validated) (direction : PcmStreamDirection) {deviceRate : UInt32}
    (sameRate : deviceRate = config.clientFormat.sampleRate)
    (target : config.targetFillFrames = 1) (drift : config.maxDriftPpm ≠ 0) :
    ∃ actions, ∃ delivery ∈
      ((PcmStream.start config validated direction deviceRate).run actions).delivered,
        1 ≤ delivery.phase := by
  obtain ⟨actions, reached⟩ := (dry_start valid direction sameRate).rounds valid target 1000000
  have ppm : (1 : ℚ) ≤ config.maxDriftPpm.toNat := by
    have positive : config.maxDriftPpm.toNat ≠ 0 := fun zero => drift (UInt32.toNat_inj.mp zero)
    exact_mod_cast Nat.one_le_iff_ne_zero.mpr positive
  have ahead : (1 : ℚ) ≤ ((1000000 : Nat) : ℚ) * config.driftRatio := by
    rw [PcmStreamConfig.driftRatio, Nat.cast_ofNat, mul_div_cancel₀ _ (by norm_num)]
    exact ppm
  obtain ⟨_, delivery, deliveredEq, phaseEq⟩ :=
    reached.round valid target (zero_le_one.trans ahead)
  refine ⟨actions ++ dryRound ((PcmStream.start config validated direction deviceRate).run actions),
    delivery, ?_, ahead.trans_eq phaseEq.symm⟩
  rw [PcmStream.run_append, deliveredEq]
  exact List.mem_append_right _ (List.mem_singleton_self _)

/-! ## All runs -/

/-- Every run follows the read position if and only if the target is two frames
or more, or there is no drift control. -/
theorem resampling_follows_position_iff {w : Nat} {config : PcmStreamConfig}
    {validated : ValidatedConfig} (accepted : validateConfig w config = .ok validated)
    (direction : PcmStreamDirection) {deviceRate : UInt32}
    (sameRate : deviceRate = config.clientFormat.sampleRate) :
    (∀ actions, FollowsReadPosition
        ((PcmStream.start config validated direction deviceRate).run actions)) ↔
      2 ≤ config.targetFillFrames ∨ config.maxDriftPpm = 0 := by
  have valid := validateConfig_valid accepted
  constructor
  · intro follows
    by_contra neither
    obtain ⟨small, drift⟩ := not_or.mp neither
    have target : config.targetFillFrames = 1 := by
      have positive := valid.target_pos
      omega
    obtain ⟨actions, delivery, delivered, ahead⟩ := exists_ahead valid direction sameRate target drift
    obtain ⟨count, found⟩ := List.mem_iff_getElem?.mp delivered
    exact absurd (follows actions count delivery found).2.1 (not_lt.mpr ahead)
  · intro steady actions
    obtain ⟨nonneg, lt_one⟩ := valid.driftRatio_bounds
    exact ((following_start valid direction sameRate).run nonneg lt_one steady actions).follows

/-- A mono configuration with the given target, at equal rates. -/
def monoConfig (targetFillFrames : Nat) : PcmStreamConfig where
  deviceUid := "vcable"
  clientFormat := ⟨48000, 1⟩
  capacityFrames := 4
  targetFillFrames := targetFillFrames
  maxDriftPpm := 600000

theorem resampling_follows_position_iff_mono :
    validateConfig 64 (monoConfig 2) = .ok ⟨1, 4, 4⟩ ∧
      ((∀ actions, FollowsReadPosition
          ((PcmStream.start (monoConfig 2) ⟨1, 4, 4⟩ .output 48000).run actions)) ↔
        2 ≤ (monoConfig 2).targetFillFrames ∨ (monoConfig 2).maxDriftPpm = 0) := by
  have accepted : validateConfig 64 (monoConfig 2) = .ok ⟨1, 4, 4⟩ := by decide +kernel
  exact ⟨accepted, resampling_follows_position_iff accepted .output rfl⟩

/-- With a target of one frame the third frame is interpolated at a phase of
`6/5`, and lies beyond both of its neighbours. -/
theorem resampling_extrapolates :
    validateConfig 64 (monoConfig 1) = .ok ⟨1, 4, 4⟩ ∧
      ∃ actions,
        ((PcmStream.start (monoConfig 1) ⟨1, 4, 4⟩ .output 48000).run actions).delivered =
            [⟨[1], 0, 3 / 5⟩, ⟨[16 / 5], 3 / 5, 3 / 5⟩, ⟨[56 / 5], 6 / 5, 3 / 5⟩] ∧
          ((PcmStream.start (monoConfig 1) ⟨1, 4, 4⟩ .output 48000).run actions).ring.accepted =
            [1, 2, 4, 10] ∧
          ¬ FollowsReadPosition
            ((PcmStream.start (monoConfig 1) ⟨1, 4, 4⟩ .output 48000).run actions) := by
  have accepted : validateConfig 64 (monoConfig 1) = .ok ⟨1, 4, 4⟩ := by decide +kernel
  let actions : List PcmAction := [.write (.interleaved [1, 2]), .nextFrame [],
    .write (.interleaved [4]), .nextFrame [], .write (.interleaved [10]), .nextFrame []]
  have deliveredEq :
      ((PcmStream.start (monoConfig 1) ⟨1, 4, 4⟩ .output 48000).run actions).delivered =
        [⟨[1], 0, 3 / 5⟩, ⟨[16 / 5], 3 / 5, 3 / 5⟩, ⟨[56 / 5], 6 / 5, 3 / 5⟩] := by
    decide +kernel
  refine ⟨accepted, actions, deliveredEq, by decide +kernel, ?_⟩
  intro follows
  have third := (follows 2 ⟨[56 / 5], 6 / 5, 3 / 5⟩ (by rw [deliveredEq]; rfl)).2.1
  norm_num at third

end VCable
