import VCable.PcmResamplerPosition
import Mathlib.Algebra.BigOperators.Ring.List

/-!
# The priming of the resampler

A resampler primes when enough frames are buffered, and then fills both cached
frames.  A primed resampler has them between the calls, so the pops before an
output never fail.  A call that delivers nothing changes nothing, and a reader
may therefore ask for its frames in portions of any size.
-/

namespace VCable

open FrameStreams

/-! ## Reading -/

inductive PcmReadError where
  | streamClosed
  | invalidBufferLength
  deriving DecidableEq, Repr

namespace PcmCall

/-- The loop of `try_read_interleaved` over the frames of the buffer. -/
def readChunks : List (List ℚ) → PcmCall → Nat × List (List ℚ) × PcmCall
  | [], call => (0, [], call)
  | output :: chunks, call =>
      match call.prepareNextFrame with
      | (none, call) => (0, output :: chunks, call)
      | (some delivery, call) =>
          let (readFrames, chunks, call) := readChunks chunks call
          (readFrames + 1, delivery.frame :: chunks, call)

/-- `PcmReader::try_read_interleaved`, with the buffer after the call.  The flag
is loaded at the start of the call, and again at its end. -/
def tryReadInterleaved (closed closedAfter : Bool) (pcm : List ℚ) (call : PcmCall) :
    Except PcmReadError Nat × List ℚ × PcmCall :=
  if closed then (.error .streamClosed, pcm, call)
  else if pcm.length % call.resampler.channels ≠ 0 then (.error .invalidBufferLength, pcm, call)
  else
    let (readFrames, chunks, call) := readChunks (frames call.resampler.channels pcm) call
    (if closedAfter then .error .streamClosed else .ok readFrames, chunks.flatten, call)

/-- The samples that reads with a list of buffers deliver, on an open stream. -/
def readBuffers : List (List ℚ) → PcmCall → Except PcmReadError (List ℚ × PcmCall)
  | [], call => .ok ([], call)
  | pcm :: buffers, call =>
      match call.tryReadInterleaved false false pcm with
      | (.error error, _) => .error error
      | (.ok readFrames, pcm, call) =>
          (readBuffers buffers call).map fun (samples, later) =>
            (pcm.take (readFrames * call.resampler.channels) ++ samples, later)

/-! ## Calls without writes -/

/-- A call that no write gets done in goes on from `call` to `later`. -/
def Undisturbed (call later : PcmCall) : Prop :=
  call.arriving = [] → later.arriving = [] ∧ later.ring.accepted = call.ring.accepted

theorem Undisturbed.trans {first second third : PcmCall} (one : first.Undisturbed second)
    (other : second.Undisturbed third) : first.Undisturbed third := by
  intro quiet
  obtain ⟨stillQuiet, same⟩ := one quiet
  obtain ⟨quietAfter, sameAfter⟩ := other stillQuiet
  exact ⟨quietAfter, sameAfter.trans same⟩

theorem undisturbed_look (call : PcmCall) : call.Undisturbed call.look := by
  intro quiet
  rw [look, quiet]
  exact ⟨quiet, rfl⟩

theorem undisturbed_popFrame (next : Bool) (call : PcmCall) :
    call.Undisturbed (call.popFrame next).2 := by
  intro quiet
  obtain ⟨looked, same⟩ := undisturbed_look call quiet
  rcases popFrame_cases next call with ⟨_, result⟩ | ⟨_, result⟩
  · rw [result]
    exact ⟨looked, same⟩
  · rw [result]
    exact ⟨looked, same⟩

theorem undisturbed_shift (call : PcmCall) : call.Undisturbed call.shift :=
  undisturbed_popFrame true { call with
    resampler := { call.resampler with
      current := call.resampler.next
      haveCurrent := true
      haveNext := false
      phase := call.resampler.phase - 1 } }

theorem undisturbed_advance (call : PcmCall) : call.Undisturbed call.advance := by
  have passes : ∀ (count : Nat) (call : PcmCall), call.Undisturbed (call.shifts count) := by
    intro count
    induction count with
    | zero => exact fun call quiet => ⟨quiet, rfl⟩
    | succ count ih =>
        intro call
        rw [shifts]
        split
        · exact (undisturbed_shift call).trans (ih call.shift)
        · exact fun quiet => ⟨quiet, rfl⟩
  exact passes _ call

theorem undisturbed_prime (call : PcmCall) : call.Undisturbed call.prime.2 := by
  unfold prime
  split
  · exact fun quiet => ⟨quiet, rfl⟩
  · dsimp only
    split
    · exact undisturbed_look call
    · exact undisturbed_look call

theorem undisturbed_fillCurrent (call : PcmCall) : call.Undisturbed call.fillCurrent.2 := by
  unfold fillCurrent
  have popped := undisturbed_popFrame false call
  split
  · exact fun quiet => ⟨quiet, rfl⟩
  · split <;> rename_i result
    · rw [result] at popped
      exact popped
    · rw [result] at popped
      exact popped

theorem undisturbed_fillNext (call : PcmCall) : call.Undisturbed call.fillNext.2 := by
  unfold fillNext
  have popped := undisturbed_popFrame true call
  split
  · exact fun quiet => ⟨quiet, rfl⟩
  · split <;> rename_i result
    · rw [result] at popped
      exact popped
    · rw [result] at popped
      exact popped

theorem undisturbed_interpolate (call : PcmCall) : call.Undisturbed call.interpolate.2 :=
  undisturbed_look call

theorem undisturbed_finish (call : PcmCall) : call.Undisturbed call.finish := by
  unfold finish
  split
  · exact fun quiet => ⟨quiet, rfl⟩
  · exact fun quiet => ⟨quiet, rfl⟩

theorem undisturbed_prepareNextFrame (call : PcmCall) :
    call.Undisturbed call.prepareNextFrame.2 := by
  unfold prepareNextFrame
  have primed := undisturbed_prime call
  generalize call.prime = prime at primed ⊢
  obtain ⟨_ | _, priming⟩ := prime
  · exact primed
  have current := undisturbed_fillCurrent priming
  dsimp only
  generalize priming.fillCurrent = fill at current ⊢
  obtain ⟨_ | _, filling⟩ := fill
  · exact primed.trans current
  have next := undisturbed_fillNext filling
  dsimp only
  generalize filling.fillNext = fill at next ⊢
  obtain ⟨_ | _, filled⟩ := fill
  · exact primed.trans (current.trans next)
  · exact primed.trans (current.trans (next.trans ((undisturbed_interpolate filled).trans
      ((undisturbed_advance _).trans (undisturbed_finish _)))))

/-! ## Staying primed -/

theorem popFrame_primed (next : Bool) (call : PcmCall) :
    (call.popFrame next).2.resampler.primed = call.resampler.primed := by
  rcases popFrame_cases next call with ⟨_, result⟩ | ⟨_, result⟩
  · rw [result, look_resampler]
  · rw [result, look_resampler]
    cases next <;> rfl

/-- Priming waits for the threshold, unless the resampler is primed. -/
theorem prime_cases (call : PcmCall) :
    (call.resampler.primed = false ∧
      call.look.bufferedFrames < call.resampler.primingThresholdFrames ∧
        call.prime = (false, call.look)) ∨
    (call.prime.1 = true ∧ ((call.resampler.primed = true ∧ call.prime.2 = call) ∨
      call.resampler.primingThresholdFrames ≤ call.look.bufferedFrames ∧
        call.prime.2.bufferedFrames = call.look.bufferedFrames)) := by
  unfold prime
  by_cases primed : call.resampler.primed = true
  · rw [if_pos primed]
    exact Or.inr ⟨rfl, Or.inl ⟨primed, rfl⟩⟩
  rw [if_neg primed]
  dsimp only
  by_cases few : call.look.bufferedFrames < call.look.resampler.primingThresholdFrames
  · rw [if_pos few]
    rw [look_resampler] at few
    exact Or.inl ⟨Bool.eq_false_iff.mpr primed, few, rfl⟩
  · rw [if_neg few]
    rw [look_resampler] at few
    exact Or.inr ⟨rfl, Or.inr ⟨not_lt.mp few, rfl⟩⟩

theorem prime_primed {call : PcmCall} (primed : call.prime.1 = true) :
    call.prime.2.resampler.primed = true := by
  unfold prime at primed ⊢
  split
  · assumption
  · rename_i unprimed
    rw [if_neg unprimed] at primed
    dsimp only at primed ⊢
    split
    · rename_i few
      rw [if_pos few] at primed
      cases primed
    · rfl

theorem fillCurrent_primed {call : PcmCall} (filled : call.fillCurrent.1 = true) :
    call.fillCurrent.2.resampler.primed = call.resampler.primed := by
  have popped := popFrame_primed false call
  unfold fillCurrent at filled ⊢
  split
  · rfl
  · rename_i without
    rw [if_neg without] at filled
    split <;> rename_i result
    · rw [result] at popped
      exact popped
    · rw [result] at filled
      cases filled

theorem fillNext_primed {call : PcmCall} (filled : call.fillNext.1 = true) :
    call.fillNext.2.resampler.primed = call.resampler.primed := by
  have popped := popFrame_primed true call
  unfold fillNext at filled ⊢
  split
  · rfl
  · rename_i without
    rw [if_neg without] at filled
    split <;> rename_i result
    · rw [result] at popped
      exact popped
    · rw [result] at filled
      cases filled

theorem interpolate_primed (call : PcmCall) :
    call.interpolate.2.resampler.primed = call.resampler.primed := by
  change call.look.resampler.primed = _
  rw [look_resampler]

theorem advance_primed (call : PcmCall) :
    call.advance.resampler.primed = call.resampler.primed := by
  have passes : ∀ (count : Nat) (call : PcmCall),
      (call.shifts count).resampler.primed = call.resampler.primed := by
    intro count
    induction count with
    | zero => exact fun call => rfl
    | succ count ih =>
        intro call
        rw [shifts]
        split
        · rw [ih]
          exact popFrame_primed true _
        · rfl
  exact passes _ call

theorem finish_ring (call : PcmCall) : call.finish.ring = call.ring := by
  unfold finish
  split <;> rfl

theorem finish_haveNext (call : PcmCall) :
    call.finish.resampler.haveNext = call.resampler.haveNext := by
  unfold finish
  split <;> rfl

/-- A call that stays primed has a next frame. -/
theorem finish_primed {call : PcmCall} (primed : call.finish.resampler.primed = true) :
    call.finish.resampler.haveNext = true := by
  rw [finish_haveNext]
  by_contra without
  rw [finish, if_neg without] at primed
  cases primed

/-! ## Filling the cached frames -/

/-- The next frame is cached only with the current one, and both are frames of
the channels that the producer writes. -/
structure Buffering (producer : PcmProducer) (threshold : Nat) (call : PcmCall) : Prop where
  producer_eq : call.producer = producer
  fits : call.producer.Fits
  channels_eq : call.producer.channels = call.resampler.channels
  threshold_eq : call.resampler.primingThresholdFrames = threshold
  next_current : call.resampler.haveNext = true → call.resampler.haveCurrent = true
  length_current : call.resampler.haveCurrent = true →
    call.resampler.current.length = call.resampler.channels
  length_next : call.resampler.haveNext = true →
    call.resampler.next.length = call.resampler.channels

namespace Buffering

variable {producer : PcmProducer} {threshold : Nat} {call : PcmCall}

theorem channels_pos (buffering : call.Buffering producer threshold) :
    0 < call.resampler.channels :=
  buffering.channels_eq ▸ buffering.fits.channels_pos

theorem look (buffering : call.Buffering producer threshold) :
    call.look.Buffering producer threshold := by
  rw [look_eq]
  exact { buffering with fits := buffering.fits }

/-- The writes of others leave no less in the ring. -/
theorem look_bufferedFrames (buffering : call.Buffering producer threshold) :
    call.bufferedFrames ≤ call.look.bufferedFrames := by
  obtain ⟨pcm, _, grown⟩ := extends_look buffering.fits
  have more : call.ring.samples.length ≤ call.look.ring.samples.length := by
    rw [grown, List.length_append]
    exact Nat.le_add_right _ _
  have frames := Nat.div_le_div_right (c := call.resampler.channels) more
  rw [bufferedFrames, bufferedFrames, look_resampler]
  omega

theorem prime (buffering : call.Buffering producer threshold) :
    call.prime.2.Buffering producer threshold := by
  unfold PcmCall.prime
  split
  · exact buffering
  · have looked := buffering.look
    dsimp only
    split
    · exact looked
    · exact { looked with fits := looked.fits }

theorem length_taken {call : PcmCall}
    (whole : call.resampler.channels ≤ call.look.ring.samples.length) :
    (call.look.ring.samples.take call.look.resampler.channels).length =
      call.look.resampler.channels := by
  rw [look_resampler, List.length_take, min_eq_left whole]

/-- With two buffered frames there is a current one, and they stay buffered. -/
theorem fillCurrent (buffering : call.Buffering producer threshold)
    (two : 2 ≤ call.bufferedFrames) :
    call.fillCurrent.1 = true ∧ call.fillCurrent.2.Buffering producer threshold ∧
      call.fillCurrent.2.resampler.haveCurrent = true ∧
      2 ≤ call.fillCurrent.2.bufferedFrames := by
  unfold PcmCall.fillCurrent
  by_cases have_current : call.resampler.haveCurrent = true
  · rw [if_pos have_current]
    exact ⟨rfl, buffering, have_current, two⟩
  rw [if_neg have_current]
  have noCurrent : call.resampler.haveCurrent = false := Bool.eq_false_iff.mpr have_current
  have noNext : call.resampler.haveNext = false :=
    Bool.eq_false_iff.mpr fun have_next => have_current (buffering.next_current have_next)
  have looked := buffering.look
  have enough := two.trans buffering.look_bufferedFrames
  simp only [bufferedFrames, look_resampler, noCurrent, noNext, Bool.toNat_false] at enough
  rcases popFrame_cases false call with ⟨short, _⟩ | ⟨whole, result⟩
  · rw [Nat.div_eq_of_lt short] at enough
    omega
  · rw [result]
    refine ⟨rfl, { looked with
      fits := looked.fits
      next_current := fun _ => rfl
      length_current := fun _ => length_taken whole }, rfl, ?_⟩
    have left := Nat.div_eq_sub_div buffering.channels_pos whole
    simp only [bufferedFrames, look_resampler, noNext, Bool.toNat_true, Bool.toNat_false,
      List.length_drop, Bool.false_eq_true, if_false]
    omega

/-- With another buffered frame than the current one there is a next frame. -/
theorem fillNext (buffering : call.Buffering producer threshold)
    (have_current : call.resampler.haveCurrent = true) (two : 2 ≤ call.bufferedFrames) :
    call.fillNext.1 = true ∧ call.fillNext.2.Buffering producer threshold ∧
      call.fillNext.2.resampler.haveNext = true := by
  unfold PcmCall.fillNext
  by_cases have_next : call.resampler.haveNext = true
  · rw [if_pos have_next]
    exact ⟨rfl, buffering, have_next⟩
  rw [if_neg have_next]
  have noNext : call.resampler.haveNext = false := Bool.eq_false_iff.mpr have_next
  have looked := buffering.look
  have enough := two.trans buffering.look_bufferedFrames
  simp only [bufferedFrames, look_resampler, have_current, noNext, Bool.toNat_true,
    Bool.toNat_false] at enough
  rcases popFrame_cases true call with ⟨short, _⟩ | ⟨whole, result⟩
  · rw [Nat.div_eq_of_lt short] at enough
    omega
  · rw [result]
    refine ⟨rfl, { looked with
      fits := looked.fits
      next_current := fun _ => ?_
      length_next := fun _ => length_taken whole }, rfl⟩
    change call.look.resampler.haveCurrent = true
    rw [look_resampler]
    exact have_current

theorem shift (buffering : call.Buffering producer threshold)
    (have_next : call.resampler.haveNext = true) : call.shift.Buffering producer threshold := by
  have shifted : Buffering producer threshold { call with
      resampler := { call.resampler with
        current := call.resampler.next
        haveCurrent := true
        haveNext := false
        phase := call.resampler.phase - 1 } } :=
    { buffering with
      fits := buffering.fits
      next_current := nofun
      length_current := fun _ => buffering.length_next have_next
      length_next := nofun }
  have looked := shifted.look
  unfold PcmCall.shift
  dsimp only
  rcases popFrame_cases true { call with
      resampler := { call.resampler with
        current := call.resampler.next
        haveCurrent := true
        haveNext := false
        phase := call.resampler.phase - 1 } } with ⟨_, result⟩ | ⟨whole, result⟩
  · rw [result]
    exact { looked with fits := looked.fits, next_current := nofun, length_next := nofun }
  · rw [result]
    refine { looked with
      fits := looked.fits
      next_current := fun _ => ?_
      length_next := fun _ => length_taken whole }
    change (PcmCall.look _).resampler.haveCurrent = true
    rw [look_resampler]

theorem advance (buffering : call.Buffering producer threshold) :
    call.advance.Buffering producer threshold := by
  unfold PcmCall.advance
  generalize call.resampler.phase.floor.toNat = passes
  induction passes generalizing call with
  | zero => exact buffering
  | succ passes ih =>
      rw [shifts]
      split
      · rename_i goes
        exact ih (buffering.shift goes.2)
      · exact buffering

theorem finish (buffering : call.Buffering producer threshold) :
    call.finish.Buffering producer threshold := by
  unfold PcmCall.finish
  split
  · exact buffering
  · exact { buffering with fits := buffering.fits }

/-- A call delivers nothing only when it waits for the priming threshold.
Otherwise it fills both cached frames first, and delivers from them. -/
theorem prepareNextFrame_cases (buffering : call.Buffering producer threshold) (two : 2 ≤ threshold)
    (ready : call.resampler.primed = true → call.resampler.haveNext = true) :
    (call.prepareNextFrame = (none, call.look) ∧ call.resampler.primed = false ∧
      call.prime.1 = false ∧ call.look.bufferedFrames < threshold) ∨
    ∃ current filled, call.prime.2.fillCurrent = (true, current) ∧
      current.fillNext = (true, filled) ∧ call.prepareNextFrame =
        (some filled.interpolate.1, filled.interpolate.2.advance.finish) ∧
      filled.Buffering producer threshold ∧ filled.resampler.haveNext = true ∧
      filled.resampler.primed = true ∧
      (call.resampler.primed = true ∨ threshold ≤ call.look.bufferedFrames) := by
  rcases prime_cases call with ⟨unprimed, few, waits⟩ | ⟨goesOn, enough⟩
  · refine Or.inl ⟨?_, unprimed, by rw [waits], buffering.threshold_eq ▸ few⟩
    rw [PcmCall.prepareNextFrame, waits]
  · have many : 2 ≤ call.prime.2.bufferedFrames ∧
        (call.resampler.primed = true ∨ threshold ≤ call.look.bufferedFrames) := by
      rw [buffering.threshold_eq] at enough
      rcases enough with ⟨already, primeEq⟩ | ⟨reached, same⟩
      · have have_next := ready already
        rw [primeEq, bufferedFrames, have_next, buffering.next_current have_next, Bool.toNat_true]
        exact ⟨Nat.le_add_left 2 _, Or.inl already⟩
      · exact ⟨two.trans (reached.trans same.ge), Or.inr reached⟩
    obtain ⟨first, current, have_current, stillTwo⟩ := buffering.prime.fillCurrent many.1
    obtain ⟨second, filled, have_next⟩ := current.fillNext have_current stillTwo
    have primeEq : call.prime = (true, call.prime.2) := Prod.ext goesOn rfl
    have currentEq : call.prime.2.fillCurrent = (true, call.prime.2.fillCurrent.2) :=
      Prod.ext first rfl
    have nextEq : call.prime.2.fillCurrent.2.fillNext =
        (true, call.prime.2.fillCurrent.2.fillNext.2) := Prod.ext second rfl
    refine Or.inr ⟨_, _, currentEq, nextEq, ?_, filled, have_next, ?_, many.2⟩
    · rw [PcmCall.prepareNextFrame, primeEq]
      dsimp only
      rw [currentEq]
      dsimp only
      rw [nextEq]
    · rw [fillNext_primed second, fillCurrent_primed first, prime_primed goesOn]

theorem length_interpolate (buffering : call.Buffering producer threshold)
    (have_next : call.resampler.haveNext = true) :
    call.interpolate.1.frame.length = producer.channels := by
  have current := buffering.length_current (buffering.next_current have_next)
  have next := buffering.length_next have_next
  change (blend call.resampler.current call.resampler.next _).length = _
  rw [blend, List.length_zipWith, current, next, min_self, ← buffering.channels_eq,
    buffering.producer_eq]

theorem interpolate (buffering : call.Buffering producer threshold) :
    call.interpolate.2.Buffering producer threshold := by
  have looked := buffering.look
  exact { looked with fits := looked.fits }

end Buffering

/-- Between the calls a resampler is primed when it has a next frame. -/
structure Ready (producer : PcmProducer) (threshold : Nat) (call : PcmCall) : Prop
    extends call.Buffering producer threshold where
  two_le : 2 ≤ threshold
  primed_eq : call.resampler.primed = call.resampler.haveNext

theorem finish_primed_eq {call : PcmCall} (primed : call.resampler.primed = true) :
    call.finish.resampler.primed = call.finish.resampler.haveNext := by
  unfold finish
  split
  · rename_i have_next
    rw [primed, have_next]
  · rename_i without
    exact (Bool.eq_false_iff.mpr without).symm

namespace Ready

variable {producer : PcmProducer} {threshold : Nat} {call : PcmCall}

/-- What a call of `next_frame` can do. -/
theorem prepareNextFrame_cases (ready : call.Ready producer threshold) :
    (call.prepareNextFrame = (none, call.look) ∧ call.resampler.primed = false ∧
      call.look.bufferedFrames < threshold) ∨
    ∃ delivery later, call.prepareNextFrame = (some delivery, later) ∧
      later.Ready producer threshold ∧ delivery.frame.length = producer.channels ∧
      (call.resampler.primed = true ∨ threshold ≤ call.look.bufferedFrames) := by
  rcases ready.toBuffering.prepareNextFrame_cases ready.two_le
      fun primed => ready.primed_eq ▸ primed with
    ⟨waits, unprimed, _, few⟩ |
      ⟨_, filled, _, _, delivers, buffering, have_next, primed, reached⟩
  · exact Or.inl ⟨waits, unprimed, few⟩
  · have advanced := buffering.interpolate.advance
    refine Or.inr ⟨_, _, delivers, ⟨advanced.finish, ready.two_le, ?_⟩,
      buffering.length_interpolate have_next, reached⟩
    refine finish_primed_eq ?_
    rw [advance_primed, interpolate_primed, primed]

theorem look (ready : call.Ready producer threshold) : call.look.Ready producer threshold where
  toBuffering := ready.toBuffering.look
  two_le := ready.two_le
  primed_eq := by
    rw [look_resampler]
    exact ready.primed_eq

theorem prepareNextFrame (ready : call.Ready producer threshold) :
    call.prepareNextFrame.2.Ready producer threshold := by
  rcases ready.prepareNextFrame_cases with ⟨waits, _⟩ | ⟨_, _, delivers, later, _⟩
  · rw [waits]
    exact ready.look
  · rw [delivers]
    exact later

/-- The pops of a call do not fail once it is primed. -/
theorem pops_succeed (ready : call.Ready producer threshold) (primed : call.prime.1 = true) :
    call.prime.2.fillCurrent.1 = true ∧ call.prime.2.fillCurrent.2.fillNext.1 = true := by
  rcases ready.toBuffering.prepareNextFrame_cases ready.two_le
      fun primed => ready.primed_eq ▸ primed with
    ⟨_, _, waits, _⟩ | ⟨_, _, currentEq, filledEq, _⟩
  · rw [primed] at waits
    cases waits
  · rw [currentEq, filledEq]
    exact ⟨rfl, rfl⟩

end Ready

/-! ## Portions -/

/-- The frames of as many calls of `next_frame`, up to one that has none. -/
def deliveries : Nat → PcmCall → List (List ℚ) × PcmCall
  | 0, call => ([], call)
  | count + 1, call =>
      match call.prepareNextFrame with
      | (none, call) => ([], call)
      | (some delivery, call) =>
          let (frames, call) := deliveries count call
          (delivery.frame :: frames, call)

theorem readChunks_eq (chunks : List (List ℚ)) (call : PcmCall) :
    readChunks chunks call = ((deliveries chunks.length call).1.length,
      (deliveries chunks.length call).1 ++ chunks.drop (deliveries chunks.length call).1.length,
      (deliveries chunks.length call).2) := by
  induction chunks generalizing call with
  | nil => rfl
  | cons output chunks ih =>
      rw [readChunks, List.length_cons, deliveries]
      rcases call.prepareNextFrame with ⟨_ | delivery, later⟩
      · rfl
      · dsimp only
        rw [ih later]
        rfl

namespace Ready

variable {producer : PcmProducer} {threshold : Nat} {call : PcmCall}

/-- Without writes, a call that has no frame leaves everything as it is. -/
theorem prepareNextFrame_quiet (ready : call.Ready producer threshold)
    (quiet : call.arriving = []) :
    call.prepareNextFrame = (none, call) ∨
      ∃ delivery later, call.prepareNextFrame = (some delivery, later) ∧
        later.Ready producer threshold ∧ later.arriving = [] ∧
        delivery.frame.length = producer.channels := by
  rcases ready.prepareNextFrame_cases with ⟨waits, _⟩ | ⟨delivery, later, delivers, goesOn, size, _⟩
  · rw [look_of_nil quiet] at waits
    exact Or.inl waits
  · have still := (undisturbed_prepareNextFrame call quiet).1
    rw [delivers] at still
    exact Or.inr ⟨delivery, later, delivers, goesOn, still, size⟩

theorem deliveries (ready : call.Ready producer threshold) (quiet : call.arriving = [])
    (count : Nat) :
    (call.deliveries count).2.Ready producer threshold ∧
      (call.deliveries count).2.arriving = [] ∧
      ∀ frame ∈ (call.deliveries count).1, frame.length = producer.channels := by
  induction count generalizing call with
  | zero => exact ⟨ready, quiet, nofun⟩
  | succ count ih =>
      rw [PcmCall.deliveries]
      rcases ready.prepareNextFrame_quiet quiet with
        waits | ⟨delivery, later, delivers, goesOn, still, size⟩
      · rw [waits]
        exact ⟨ready, quiet, nofun⟩
      · rw [delivers]
        obtain ⟨after, quietAfter, sizes⟩ := ih goesOn still
        refine ⟨after, quietAfter, fun frame member => ?_⟩
        rcases List.mem_cons.mp member with rfl | more
        · exact size
        · exact sizes frame more

/-- Asking for some frames and then for others is asking for all of them. -/
theorem deliveries_add (ready : call.Ready producer threshold) (quiet : call.arriving = [])
    (first second : Nat) :
    call.deliveries (first + second) =
      ((call.deliveries first).1 ++ ((call.deliveries first).2.deliveries second).1,
        ((call.deliveries first).2.deliveries second).2) := by
  induction first generalizing call with
  | zero =>
      rw [Nat.zero_add]
      rfl
  | succ first ih =>
      rw [Nat.add_right_comm, PcmCall.deliveries, PcmCall.deliveries]
      rcases ready.prepareNextFrame_quiet quiet with
        waits | ⟨delivery, later, delivers, goesOn, still, _⟩
      · -- The call has no frame, and neither has the first one of the rest.
        rw [waits]
        cases second with
        | zero => rfl
        | succ second =>
            dsimp only
            rw [PcmCall.deliveries, waits]
            rfl
      · rw [delivers]
        dsimp only
        rw [ih goesOn still]
        rfl

/-- What a read of whole frames does on an open stream. -/
theorem tryReadInterleaved (ready : call.Ready producer threshold) {pcm : List ℚ}
    (whole : producer.channels ∣ pcm.length) :
    ∃ rest, call.tryReadInterleaved false false pcm =
      (.ok (call.deliveries (pcm.length / producer.channels)).1.length,
        (call.deliveries (pcm.length / producer.channels)).1.flatten ++ rest,
        (call.deliveries (pcm.length / producer.channels)).2) := by
  have channels_eq : call.resampler.channels = producer.channels := by
    rw [← ready.channels_eq, ready.producer_eq]
  rw [PcmCall.tryReadInterleaved, if_neg Bool.false_ne_true, channels_eq,
    if_neg (not_not.mpr (Nat.mod_eq_zero_of_dvd whole)), readChunks_eq, length_frames]
  dsimp only
  rw [List.flatten_append]
  exact ⟨_, rfl⟩

/-- Reads of any sizes deliver the frames that there are. -/
theorem readBuffers (ready : call.Ready producer threshold) (quiet : call.arriving = [])
    {buffers : List (List ℚ)} (whole : ∀ pcm ∈ buffers, producer.channels ∣ pcm.length) :
    call.readBuffers buffers =
      .ok ((call.deliveries (buffers.flatten.length / producer.channels)).1.flatten,
        (call.deliveries (buffers.flatten.length / producer.channels)).2) := by
  induction buffers generalizing call with
  | nil =>
      rw [List.flatten_nil, List.length_nil, Nat.zero_div]
      rfl
  | cons pcm buffers ih =>
      have first := whole pcm List.mem_cons_self
      obtain ⟨rest, result⟩ := ready.tryReadInterleaved first
      obtain ⟨later, still, sizes⟩ := ready.deliveries quiet (pcm.length / producer.channels)
      have channels_eq : (call.deliveries (pcm.length / producer.channels)).2.resampler.channels =
          producer.channels := by
        rw [← later.channels_eq, later.producer_eq]
      have size : (call.deliveries (pcm.length / producer.channels)).1.flatten.length =
          (call.deliveries (pcm.length / producer.channels)).1.length * producer.channels := by
        rw [List.length_flatten, List.map_congr_left sizes]
        simp
      have total : (pcm :: buffers).flatten.length / producer.channels =
          pcm.length / producer.channels + buffers.flatten.length / producer.channels := by
        rw [List.flatten_cons, List.length_append, Nat.add_div_of_dvd_right first]
      rw [PcmCall.readBuffers, result]
      dsimp only
      rw [ih later still fun other member => whole other (List.mem_cons_of_mem _ member),
        channels_eq, ← size, List.take_left, total, ready.deliveries_add quiet, List.flatten_append]
      rfl

end Ready

end PcmCall

/-! ## Runs -/

namespace PcmStream

/-- A new stream with any nominal step. -/
def resampling (config : PcmStreamConfig) (validated : ValidatedConfig) (nominalStep : ℚ) :
    PcmStream where
  producer :=
    { capacity := validated.internalSampleCapacity
      channels := validated.channels
      logicalCapacitySamples := validated.logicalCapacitySamples }
  ring := ⟨[], []⟩
  resampler := .new validated.channels config.targetFillFrames config.capacityFrames nominalStep
    config.maxDriftPpm
  delivered := []

/-- The two kinds of streams are such streams. -/
theorem start_eq_resampling (config : PcmStreamConfig) (validated : ValidatedConfig)
    (direction : PcmStreamDirection) (deviceRate : UInt32) :
    start config validated direction deviceRate =
      resampling config validated
        (nominalStep direction config.clientFormat.sampleRate deviceRate) :=
  rfl

/-- What holds between the calls of every run. -/
def Ready (producer : PcmProducer) (threshold : Nat) (stream : PcmStream) : Prop :=
  ∀ arriving, (stream.call arriving).Ready producer threshold

theorem ready_resampling {config : PcmStreamConfig} {validated : ValidatedConfig}
    (valid : config.Valid validated) (nominalStep : ℚ) :
    (resampling config validated nominalStep).Ready
      (resampling config validated nominalStep).producer (max config.targetFillFrames 2) :=
  fun _ =>
    { producer_eq := rfl
      fits := ⟨valid.channels_pos, valid.logical_le⟩
      channels_eq := rfl
      threshold_eq := rfl
      next_current := nofun
      length_current := nofun
      length_next := nofun
      two_le := le_max_right _ _
      primed_eq := rfl }

theorem Ready.step {producer : PcmProducer} {threshold : Nat} {stream : PcmStream}
    (ready : stream.Ready producer threshold) (action : PcmAction) :
    (stream.step action).Ready producer threshold := by
  intro arriving
  cases action with
  | write write => exact { ready [] with fits := (ready []).fits }
  | nextFrame during =>
      have later := (ready during).prepareNextFrame
      have same : (stream.call during).prepareNextFrame.2.producer = stream.producer :=
        later.producer_eq.trans (ready []).producer_eq.symm
      exact { later with
        producer_eq := (ready []).producer_eq
        fits := (ready []).fits
        channels_eq := (congrArg PcmProducer.channels same).symm.trans later.channels_eq }

theorem Ready.run {producer : PcmProducer} {threshold : Nat} {stream : PcmStream}
    (ready : stream.Ready producer threshold) (actions : List PcmAction) :
    (stream.run actions).Ready producer threshold := by
  induction actions generalizing stream with
  | nil => exact ready
  | cons action actions ih => exact ih (ready.step action)

end PcmStream

/-- After any run, a call of `next_frame` has a frame if the resampler is primed
or finds enough frames, and otherwise leaves the resampler and all samples as
they are.  A primed resampler has both cached frames, the pops of a primed call
succeed, and the portions in which a reader asks for its frames do not matter. -/
theorem priming_rule {w : Nat} {config : PcmStreamConfig} {validated : ValidatedConfig}
    (accepted : validateConfig w config = .ok validated) (nominalStep : ℚ)
    (actions : List PcmAction) (arriving : List (List PcmWrite)) :
    let stream := (PcmStream.resampling config validated nominalStep).run actions
    let call := stream.call arriving
    (call.prepareNextFrame.1.isSome ↔ stream.resampler.primed = true ∨
      max config.targetFillFrames 2 ≤ call.look.bufferedFrames) ∧
    (call.prepareNextFrame.1 = none →
      call.prepareNextFrame.2.resampler = stream.resampler ∧
      call.prepareNextFrame.2.ring =
        (arriving.headD []).foldl (PcmWrite.apply stream.producer) stream.ring) ∧
    (stream.resampler.primed = true →
      stream.resampler.haveCurrent = true ∧ stream.resampler.haveNext = true) ∧
    (call.prime.1 = true →
      call.prime.2.fillCurrent.1 = true ∧ call.prime.2.fillCurrent.2.fillNext.1 = true) ∧
    ∀ buffers pcm, (∀ buffer ∈ buffers, validated.channels ∣ buffer.length) →
      pcm.length = buffers.flatten.length →
      ∃ delivered, (stream.call []).readBuffers buffers = .ok delivered ∧
        (stream.call []).readBuffers [pcm] = .ok delivered := by
  intro stream call
  have start := PcmStream.ready_resampling (validateConfig_valid accepted) nominalStep
  have ready := start.run actions
  have calling : call.Ready _ _ := ready arriving
  refine ⟨?_, ?_, ?_, calling.pops_succeed, ?_⟩
  · rcases calling.prepareNextFrame_cases with
      ⟨waits, unprimed, few⟩ | ⟨_, _, delivers, _, _, enough⟩
    · rw [waits]
      refine ⟨nofun, fun enough => ?_⟩
      rcases enough with primed | enough
      · rw [show stream.resampler.primed = false from unprimed] at primed
        cases primed
      · omega
    · rw [delivers]
      exact ⟨fun _ => enough, fun _ => rfl⟩
  · intro nothing
    rcases calling.prepareNextFrame_cases with ⟨waits, _⟩ | ⟨_, _, delivers, _⟩
    · rw [waits]
      refine ⟨call.look_resampler, ?_⟩
      cases arriving <;> rfl
    · rw [delivers] at nothing
      cases nothing
  · intro primed
    have have_next : stream.resampler.haveNext = true := calling.primed_eq ▸ primed
    exact ⟨calling.next_current have_next, have_next⟩
  · intro buffers pcm whole total
    have quiet : (stream.call []).Ready _ _ := ready []
    refine ⟨_, quiet.readBuffers rfl whole, ?_⟩
    have divides : validated.channels ∣ pcm.length := by
      rw [total, List.length_flatten]
      exact List.dvd_sum fun size member => by
        obtain ⟨buffer, among, rfl⟩ := List.mem_map.mp member
        exact whole buffer among
    rw [quiet.readBuffers rfl fun buffer member => List.mem_singleton.mp member ▸ divides,
      List.flatten_singleton, total]

/-- A stereo stream with a target of two frames. -/
theorem priming_rule_stereo :
    let stream := (PcmStream.resampling ⟨"", ⟨48000, 2⟩, 4, 2, 500⟩ ⟨2, 8, 8⟩ (1 / 2)).run
      [.write (.interleaved [1, 10, 2, 20, 3, 30]), .nextFrame []]
    ∃ delivered, (stream.call []).readBuffers [[0, 0], [0, 0, 0, 0]] = .ok delivered ∧
      (stream.call []).readBuffers [[0, 0, 0, 0, 0, 0]] = .ok delivered :=
  (priming_rule (w := 64) (by rfl) (1 / 2)
    [.write (.interleaved [1, 10, 2, 20, 3, 30]), .nextFrame []] []).2.2.2.2
    [[0, 0], [0, 0, 0, 0]] [0, 0, 0, 0, 0, 0] (by decide) (by decide)

end VCable
