import VCable.PcmResamplerFill
import VCable.PcmStreamRuns

/-!
# Lossless transport at unity ratio

Without drift control and at equal rates, the accepted frames are at any time
the delivered frames followed by the ones held in the cached frames and in the
ring.  A call delivers nothing only when fewer frames are held than the stream
waits for.
-/

namespace VCable

open FrameStreams PcmCall

/-- The whole frames accepted so far. -/
def PcmStream.acceptedFrames (stream : PcmStream) : List (List ℚ) :=
  frames stream.producer.channels stream.ring.accepted

/-- The frames that are accepted and not yet delivered: the cached ones and
those in the ring. -/
def PcmStream.heldFrames (stream : PcmStream) : List (List ℚ) :=
  (if stream.resampler.haveCurrent then [stream.resampler.current] else []) ++
    (if stream.resampler.haveNext then [stream.resampler.next] else []) ++
      frames stream.producer.channels stream.ring.samples

theorem PcmStream.length_heldFrames {stream : PcmStream}
    (channelsEq : stream.producer.channels = stream.resampler.channels) :
    stream.heldFrames.length = (stream.call []).bufferedFrames := by
  rw [heldFrames, bufferedFrames, channelsEq]
  cases current : stream.resampler.haveCurrent <;> cases next : stream.resampler.haveNext <;>
    simp [PcmStream.call, current, next]

/-- The samples of a write that the ring accepts: all of them or none. -/
def PcmWrite.acceptedSamples (producer : PcmProducer) (ring : PcmRing) : PcmWrite → List ℚ
  | .interleaved pcm => if (producer.tryWriteInterleaved pcm ring).1 = .ok () then pcm else []
  | .captured scratch =>
      if producer.hasCapacityForFrame ring then (List.range producer.channels).map scratch else []

theorem pushSlice_of_fits {producer : PcmProducer} {ring : PcmRing} {pcm : List ℚ}
    (fits : pcm.length ≤ producer.capacity - ring.samples.length) :
    producer.pushSlice pcm ring =
      { samples := ring.samples ++ pcm, accepted := ring.accepted ++ pcm } := by
  simp only [PcmProducer.pushSlice, min_eq_left fits, List.take_length]

/-- A write adds what it accepts. -/
theorem apply_accepted {producer : PcmProducer} (fits : producer.Fits) (ring : PcmRing)
    (write : PcmWrite) :
    (write.apply producer ring).accepted =
      ring.accepted ++ write.acceptedSamples producer ring := by
  have logical := fits.logical_le
  cases write with
  | interleaved pcm =>
      rw [PcmWrite.apply, PcmWrite.acceptedSamples, PcmProducer.tryWriteInterleaved]
      by_cases whole : pcm.length % producer.channels = 0
      · have divides : producer.channels ∣ pcm.length := Nat.dvd_of_mod_eq_zero whole
        rw [if_neg (not_not.mpr whole)]
        by_cases full : pcm.length / producer.channels >
            (producer.logicalCapacitySamples -
              (producer.capacity - producer.available ring)) / producer.channels
        · rw [if_pos full]
          simp
        · have place := Nat.mul_le_of_le_div _ _ _ (not_lt.mp full)
          rw [Nat.div_mul_cancel divides, PcmProducer.available] at place
          rw [if_neg full, if_pos rfl, pushSlice_of_fits (by omega)]
      · rw [if_pos whole]
        simp
  | captured scratch =>
      rw [PcmWrite.apply, PcmWrite.acceptedSamples, PcmProducer.captureFrame]
      by_cases place : producer.hasCapacityForFrame ring = true
      · have fitting := of_decide_eq_true place
        rw [PcmProducer.available] at fitting
        rw [if_pos place, if_pos place, pushSlice_of_fits]
        rw [List.length_map, List.length_range]
        have positive := fits.channels_pos
        omega
      · rw [if_neg place, if_neg place, List.append_nil]

/-- Without corrections the reader is at the frame that comes next. -/
theorem readPosition_of_uncorrected {delivered : List Delivery}
    (uncorrected : ∀ delivery ∈ delivered, delivery.correction = 0) {count : Nat}
    (le : count ≤ delivered.length) : readPosition 1 delivered count = count := by
  induction count with
  | zero => simp
  | succ count ih =>
      have found : delivered[count]? = some delivered[count] := List.getElem?_eq_getElem le
      rw [readPosition_succ 1 found, ih (Nat.le_of_succ_le le),
        uncorrected _ (List.getElem_mem le), Nat.cast_succ]
      ring

/-- What holds between the calls of a stream without drift control. -/
structure Lossless (config : PcmStreamConfig) (stream : PcmStream) : Prop
    extends Following config stream where
  uncorrected : ∀ delivery ∈ stream.delivered, delivery.correction = 0
  ready : stream.resampler.primed = true → stream.resampler.haveNext = true

namespace Lossless

variable {config : PcmStreamConfig} {stream : PcmStream}

/-- The current frame is the first one that was not delivered. -/
theorem reading_at_length (lossless : Lossless config stream) :
    Reading config stream.producer stream.ring.accepted (stream.delivered.length : ℚ)
      (stream.call []) stream.delivered.length := by
  obtain ⟨base, reading⟩ := lossless.reading
  rw [readPosition_of_uncorrected lossless.uncorrected le_rfl] at reading
  have position : (stream.delivered.length : ℚ) = base + stream.resampler.phase :=
    reading.position_eq
  have lower : (base : ℚ) ≤ stream.delivered.length := by
    linarith [lossless.phase_nonneg]
  have upper : (stream.delivered.length : ℚ) < base + 1 := by
    linarith [lossless.phase_lt_one]
  have baseEq : base = stream.delivered.length := by
    have le : base ≤ stream.delivered.length := by exact_mod_cast lower
    have lt : stream.delivered.length < base + 1 := by exact_mod_cast upper
    omega
  exact baseEq ▸ reading

/-- Every delivered frame is the accepted frame of its number. -/
theorem delivered_eq (lossless : Lossless config stream) :
    stream.delivered.map Delivery.frame = (List.range stream.delivered.length).map
      (frameAt stream.producer.channels stream.ring.accepted) := by
  refine List.ext_getElem (by simp) ?_
  intro count within _
  rw [List.length_map] at within
  have found : stream.delivered[count]? = some stream.delivered[count] :=
    List.getElem?_eq_getElem within
  have isValue := (lossless.follows count _ found).2.2
  rw [lossless.step_eq, readPosition_of_uncorrected lossless.uncorrected within.le] at isValue
  simpa using isValue.eq_frameAt

/-- The accepted frames are the delivered ones and the held ones, in order. -/
theorem acceptedFrames_eq (lossless : Lossless config stream) :
    stream.acceptedFrames = stream.delivered.map Delivery.frame ++ stream.heldFrames := by
  have reading := lossless.reading_at_length
  have channelsEq : stream.producer.channels = stream.resampler.channels := reading.channels_eq
  have samples := reading.samples_eq
  have current := reading.current_eq
  have next := reading.next_eq
  have ordered := reading.next_current
  have split := frames_eq_append reading.channels_pos reading.popped_le
  simp only [PcmStream.call, popped] at samples current next ordered split
  rw [PcmStream.acceptedFrames, PcmStream.heldFrames, lossless.delivered_eq, channelsEq, split,
    ← samples, ← List.append_assoc]
  congr 1
  cases someCurrent : stream.resampler.haveCurrent with
  | false =>
      have noNext : stream.resampler.haveNext = false := by
        refine Bool.eq_false_iff.mpr fun have_next => ?_
        rw [ordered have_next] at someCurrent
        cases someCurrent
      simp [noNext]
  | true =>
      cases someNext : stream.resampler.haveNext with
      | false => simp [List.range_succ, current someCurrent]
      | true => simp [List.range_succ, current someCurrent, next someNext]

theorem write (lossless : Lossless config stream) (write : PcmWrite) :
    Lossless config (stream.step (.write write)) where
  toFollowing := lossless.toFollowing.write write
  uncorrected := lossless.uncorrected
  ready := lossless.ready

/-- The two outcomes of a call, with the reader at the first frame that was not
delivered. -/
theorem call_cases (lossless : Lossless config stream) (arriving : List (List PcmWrite)) :
    ((stream.call arriving).prepareNextFrame = (none, (stream.call arriving).look) ∧
      stream.resampler.primed = false ∧
      (stream.call arriving).look.bufferedFrames < max config.targetFillFrames 2) ∨
    ∃ filled : PcmCall, (stream.call arriving).prepareNextFrame =
        (some filled.interpolate.1, filled.interpolate.2.advance.finish) ∧
      filled.resampler.settings = config.settings := by
  have reading : Reading config stream.producer stream.ring.accepted
      (stream.delivered.length : ℚ) (stream.call arriving) stream.delivered.length :=
    lossless.reading_at_length.extend (.refl _ _) arriving
  rcases reading.prepareNextFrame_cases lossless.ready with waits | ⟨filled, result, filling, _⟩
  · exact Or.inl waits
  · exact Or.inr ⟨filled, result, filling.settings_eq⟩

/-- Without drift control a call keeps on delivering uncorrected frames. -/
theorem nextFrame (lossless : Lossless config stream) (noDrift : config.maxDriftPpm = 0)
    (arriving : List (List PcmWrite)) : Lossless config (stream.step (.nextFrame arriving)) := by
  have limit : config.driftRatio = 0 := by simp [PcmStreamConfig.driftRatio, noDrift]
  have goesOn := lossless.toFollowing.nextFrame limit.ge (limit.trans_lt one_pos) (Or.inr noDrift)
    arriving
  refine { goesOn with uncorrected := ?_, ready := ?_ }
  · intro delivery delivered
    have deliveredEq : (stream.step (.nextFrame arriving)).delivered =
        stream.delivered ++ (stream.call arriving).prepareNextFrame.1.toList := rfl
    rw [deliveredEq, List.mem_append] at delivered
    rcases delivered with earlier | fresh
    · exact lossless.uncorrected delivery earlier
    rcases lossless.call_cases arriving with ⟨result, _⟩ | ⟨filled, result, settings⟩
    · rw [result] at fresh
      simp at fresh
    · rw [result, Option.toList_some, List.mem_singleton] at fresh
      have driftEq : filled.look.resampler.maxDriftRatio = 0 := by
        rw [look_resampler]
        exact (congrArg ResamplerSettings.maxDriftRatio settings).trans limit
      have bounds := driftCorrection_bounds filled.look.bufferedFrames
        filled.look.resampler.targetFillFrames filled.look.resampler.controlSpanFrames driftEq.ge
      have correctionEq : delivery.correction = driftCorrection filled.look.bufferedFrames
          filled.look.resampler.targetFillFrames filled.look.resampler.controlSpanFrames
          filled.look.resampler.maxDriftRatio := by
        rw [fresh]
        rfl
      rw [← correctionEq, driftEq] at bounds
      linarith [bounds.1, bounds.2]
  · change (stream.call arriving).prepareNextFrame.2.resampler.primed = true →
      (stream.call arriving).prepareNextFrame.2.resampler.haveNext = true
    rcases lossless.call_cases arriving with ⟨result, unprimed, _⟩ | ⟨filled, result, _⟩
    · rw [result, look_resampler]
      exact lossless.ready
    · rw [result]
      exact finish_primed

theorem run (lossless : Lossless config stream) (noDrift : config.maxDriftPpm = 0)
    (actions : List PcmAction) : Lossless config (stream.run actions) := by
  induction actions generalizing stream with
  | nil => exact lossless
  | cons action actions ih =>
      cases action with
      | write write => exact ih (lossless.write write)
      | nextFrame arriving => exact ih (lossless.nextFrame noDrift arriving)

/-- A call that delivers nothing leaves fewer frames than the stream waits for. -/
theorem few_held (lossless : Lossless config stream) (noDrift : config.maxDriftPpm = 0)
    {arriving : List (List PcmWrite)}
    (silent : (stream.call arriving).prepareNextFrame.1 = none) :
    (stream.step (.nextFrame arriving)).heldFrames.length <
      max config.targetFillFrames 2 := by
  have after := (lossless.nextFrame noDrift arriving).reading_at_length
  have same : ((stream.step (.nextFrame arriving)).call []).bufferedFrames =
      (stream.call arriving).prepareNextFrame.2.bufferedFrames := rfl
  rw [PcmStream.length_heldFrames after.channels_eq, same]
  rcases lossless.call_cases arriving with ⟨result, _, few⟩ | ⟨filled, result, _⟩
  · rw [result]
    exact few
  · rw [result] at silent
    cases silent

end Lossless

theorem lossless_start {config : PcmStreamConfig} {validated : ValidatedConfig}
    (valid : config.Valid validated) (direction : PcmStreamDirection) {deviceRate : UInt32}
    (sameRate : deviceRate = config.clientFormat.sampleRate) :
    Lossless config (.start config validated direction deviceRate) where
  toFollowing := following_start valid direction sameRate
  uncorrected := nofun
  ready := nofun

/-- An accepted write adds its frames to the accepted ones. -/
theorem Lossless.acceptedFrames_write {config : PcmStreamConfig} {stream : PcmStream}
    (lossless : Lossless config stream) (write : PcmWrite) :
    (stream.step (.write write)).acceptedFrames = stream.acceptedFrames ++
      frames stream.producer.channels (write.acceptedSamples stream.producer stream.ring) := by
  have reading := lossless.reading_at_length
  have positive : 0 < stream.producer.channels := reading.fits.channels_pos
  have whole : stream.producer.channels ∣ stream.ring.accepted.length := by
    have channelsEq : stream.producer.channels = stream.resampler.channels := reading.channels_eq
    exact channelsEq ▸ reading.whole
  rw [PcmStream.acceptedFrames, PcmStream.acceptedFrames,
    ← frames_append positive whole]
  exact congrArg (frames stream.producer.channels) (apply_accepted reading.fits stream.ring write)

/-- Without drift control and at equal rates nothing is lost, repeated or
altered: under every interleaving of writes and calls the accepted frames are
the delivered ones followed by the held ones, and a call that delivers nothing
leaves fewer held frames than the priming threshold. -/
theorem pcm_transport_lossless {w : Nat} {config : PcmStreamConfig} {validated : ValidatedConfig}
    (accepted : validateConfig w config = .ok validated) (noDrift : config.maxDriftPpm = 0)
    (direction : PcmStreamDirection) {deviceRate : UInt32}
    (sameRate : deviceRate = config.clientFormat.sampleRate) (actions : List PcmAction) :
    let stream := (PcmStream.start config validated direction deviceRate).run actions
    stream.acceptedFrames = stream.delivered.map Delivery.frame ++ stream.heldFrames ∧
      (∀ write, (stream.step (.write write)).acceptedFrames = stream.acceptedFrames ++
        frames stream.producer.channels (write.acceptedSamples stream.producer stream.ring)) ∧
      ∀ arriving, (stream.call arriving).prepareNextFrame.1 = none →
        (stream.step (.nextFrame arriving)).heldFrames.length <
          max config.targetFillFrames 2 := by
  have lossless := (lossless_start (validateConfig_valid accepted) direction sameRate).run noDrift
    actions
  exact ⟨lossless.acceptedFrames_eq, lossless.acceptedFrames_write,
    fun _ silent => lossless.few_held noDrift silent⟩

/-- A stereo capture stream without drift control, under an arbitrary run. -/
theorem pcm_transport_lossless_stereo :
    let config : PcmStreamConfig := ⟨"vcable", ⟨48000, 2⟩, 5, 3, 0⟩
    validateConfig 64 config = .ok ⟨2, 10, 16⟩ ∧
      ∀ actions, let stream := (PcmStream.start config ⟨2, 10, 16⟩ .input 48000).run actions
        stream.acceptedFrames = stream.delivered.map Delivery.frame ++ stream.heldFrames ∧
          (∀ write, (stream.step (.write write)).acceptedFrames = stream.acceptedFrames ++
            frames stream.producer.channels
              (write.acceptedSamples stream.producer stream.ring)) ∧
          ∀ arriving, (stream.call arriving).prepareNextFrame.1 = none →
            (stream.step (.nextFrame arriving)).heldFrames.length < max 3 2 := by
  have accepted : validateConfig 64 ⟨"vcable", ⟨48000, 2⟩, 5, 3, 0⟩ = .ok ⟨2, 10, 16⟩ := by
    decide +kernel
  exact ⟨accepted, fun actions => pcm_transport_lossless accepted rfl .input rfl actions⟩

end VCable
