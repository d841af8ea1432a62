import VCable.PcmPriming

/-!
# The fill level of the resampler

The buffered frames are the accepted ones from the current frame on.  A primed
resampler has its next frame cached, so a call delivers nothing only when it
waits for the priming threshold.
-/

namespace VCable

open FrameStreams

namespace PcmCall

namespace Reading

variable {config : PcmStreamConfig} {producer : PcmProducer} {before : List ℚ} {position : ℚ}
  {call later : PcmCall} {base : Nat}

theorem channels_pos (reading : Reading config producer before position call base) :
    0 < call.resampler.channels :=
  reading.channels_eq ▸ reading.fits.channels_pos

/-- The buffered frames are the accepted ones from the current frame on. -/
theorem base_add_bufferedFrames (reading : Reading config producer before position call base) :
    base + call.bufferedFrames = call.ring.accepted.length / call.resampler.channels := by
  have positive := reading.channels_pos
  have rest : (call.ring.accepted.length - call.popped base * call.resampler.channels) /
      call.resampler.channels =
        call.ring.accepted.length / call.resampler.channels - call.popped base := by
    rw [Nat.mul_comm, Nat.sub_mul_div]
  have popped_le : call.popped base ≤ call.ring.accepted.length / call.resampler.channels :=
    (Nat.le_div_iff_mul_le positive).mpr reading.popped_le
  rw [bufferedFrames, reading.samples_eq, List.length_drop, rest]
  unfold popped at popped_le ⊢
  omega

/-- All calls of a stream have the channels of its producer. -/
theorem channels_congr {later : PcmCall} {grown : List ℚ} {next : ℚ} {start : Nat}
    (reading : Reading config producer before position call base)
    (reads : Reading config producer grown next later start) :
    later.resampler.channels = call.resampler.channels := by
  rw [← reads.channels_eq, reads.producer_eq, ← reading.producer_eq, reading.channels_eq]

/-- The fill level depends on the frame that is read and on what was accepted. -/
theorem bufferedFrames_congr {later : PcmCall} {grown : List ℚ} {next : ℚ}
    (reading : Reading config producer before position call base)
    (reads : Reading config producer grown next later base)
    (accepted : later.ring.accepted = call.ring.accepted) :
    later.bufferedFrames = call.bufferedFrames := by
  have earlier := reading.base_add_bufferedFrames
  have after := reads.base_add_bufferedFrames
  rw [reading.channels_congr reads, accepted] at after
  omega

theorem buffering (reading : Reading config producer before position call base) :
    call.Buffering producer (max config.targetFillFrames 2) where
  producer_eq := reading.producer_eq
  fits := reading.fits
  channels_eq := reading.channels_eq
  threshold_eq := congrArg ResamplerSettings.primingThresholdFrames reading.settings_eq
  next_current := reading.next_current
  length_current := fun have_current => by
    rw [reading.current_eq have_current]
    exact length_frameAt (reading.current_present have_current)
  length_next := fun have_next => by
    rw [reading.next_eq have_next]
    exact length_frameAt (reading.next_present have_next)

/-- Going on by one frame finds a next frame, if another one is buffered. -/
theorem shift_buffered (reading : Reading config producer before position call base)
    (have_next : call.resampler.haveNext = true) (enough : 3 ≤ call.bufferedFrames) :
    call.shift.resampler.haveNext = true ∧
      call.bufferedFrames ≤ call.shift.bufferedFrames + 1 := by
  obtain ⟨shifted, popped⟩ := reading.rebase.shift have_next
  constructor
  · rcases popped with some_next | dry
    · exact some_next
    · simp [bufferedFrames, have_next, reading.next_current have_next,
        Nat.div_eq_of_lt dry] at enough
  · have earlier := reading.base_add_bufferedFrames
    have after := shifted.base_add_bufferedFrames
    have grown := Nat.div_le_div_right (c := call.resampler.channels) shifted.grown.length_le
    rw [reading.channels_congr shifted] at after
    omega

/-- The loop ends with a next frame, if enough frames are buffered. -/
theorem advance_haveNext (reading : Reading config producer before position call base)
    (have_next : call.resampler.haveNext = true) (lt_three : call.resampler.phase < 3)
    (enough : 4 ≤ call.bufferedFrames) : call.advance.resampler.haveNext = true := by
  rw [advance_eq]
  by_cases one : 1 ≤ call.resampler.phase
  · obtain ⟨some_next, fewer⟩ := reading.shift_buffered have_next (by omega)
    have shifted := (reading.shift have_next).1
    have phaseEq := shift_phase call
    rw [if_pos ⟨one, have_next⟩, advance_eq]
    by_cases two : 1 ≤ call.shift.resampler.phase
    · have some_more := (shifted.shift_buffered some_next (by omega)).1
      have phaseTwice := shift_phase call.shift
      rw [if_pos ⟨two, some_next⟩, advance_eq, if_neg (by intro goes; linarith [goes.1])]
      exact some_more
    · rw [if_neg fun goes => two goes.1]
      exact some_next
  · rw [if_neg fun goes => one goes.1]
    exact have_next

/-- A call that delivers reads from the filled frames at the same position. -/
theorem prepareNextFrame_cases (reading : Reading config producer before position call base)
    (ready : call.resampler.primed = true → call.resampler.haveNext = true) :
    (call.prepareNextFrame = (none, call.look) ∧ call.resampler.primed = false ∧
      call.look.bufferedFrames < max config.targetFillFrames 2) ∨
    ∃ filled, call.prepareNextFrame =
        (some filled.interpolate.1, filled.interpolate.2.advance.finish) ∧
      Reading config producer call.ring.accepted position filled base ∧
      filled.resampler.haveNext = true ∧ filled.resampler.primed = true ∧
      filled.resampler.phase = call.resampler.phase ∧ call.Undisturbed filled := by
  rcases reading.buffering.prepareNextFrame_cases (le_max_right _ _) ready with
    ⟨waits, unprimed, _, few⟩ |
      ⟨current, filled, currentEq, filledEq, delivers, _, some_next, primed, _⟩
  · exact Or.inl ⟨waits, unprimed, few⟩
  · obtain ⟨readingPrimed, primedPhase⟩ := reading.rebase.prime
    obtain ⟨readingCurrent, currentPhase, someCurrent⟩ := readingPrimed.fillCurrent
    have quietCurrent := undisturbed_fillCurrent call.prime.2
    have quietFilled := undisturbed_fillNext current
    rw [currentEq] at readingCurrent currentPhase someCurrent quietCurrent
    obtain ⟨readingFilled, filledPhase, _⟩ := readingCurrent.fillNext (someCurrent rfl)
    rw [filledEq] at readingFilled filledPhase quietFilled
    refine Or.inr ⟨filled, delivers, readingFilled, some_next, primed, ?_, ?_⟩
    · exact filledPhase.trans (currentPhase.trans primedPhase)
    · exact (undisturbed_prime call).trans (quietCurrent.trans quietFilled)

end Reading

end PcmCall

end VCable
