import VCable.PcmCallbacks
import Mathlib.Data.List.ReduceOption

/-!
# What a playback stream is heard as

The callbacks of a playback stream play the delivered frames into the outputs
that fit it, each in its place and in order, with silence where there was none.
An output that does not fit is silenced, and takes nothing from the stream.
-/

namespace VCable

open FallibleState

/-! ## Results of the resampler -/

namespace PcmCall

/-- What is set by priming and by interpolating only. -/
def result (call : PcmCall) : Bool × List ℚ :=
  (call.resampler.hasPrimed, call.resampler.interpolated)

theorem look_result (call : PcmCall) : call.look.result = call.result := by
  rw [result, look_resampler]
  rfl

theorem popFrame_result (next : Bool) (call : PcmCall) :
    (call.popFrame next).2.result = call.result := by
  rcases popFrame_cases next call with ⟨_, popped⟩ | ⟨_, popped⟩
  · rw [popped]
    exact call.look_result
  · rw [popped, ← call.look_result]
    cases next <;> rfl

theorem fillCurrent_result (call : PcmCall) : call.fillCurrent.2.result = call.result := by
  have kept := popFrame_result false call
  unfold fillCurrent
  split
  · rfl
  · split <;> rename_i popped
    · rw [popped] at kept
      exact kept
    · rw [popped] at kept
      exact kept

theorem fillNext_result (call : PcmCall) : call.fillNext.2.result = call.result := by
  have kept := popFrame_result true call
  unfold fillNext
  split
  · rfl
  · split <;> rename_i popped
    · rw [popped] at kept
      exact kept
    · rw [popped] at kept
      exact kept

theorem advance_result (call : PcmCall) : call.advance.result = call.result := by
  have passes : ∀ (count : Nat) (call : PcmCall), (call.shifts count).result = call.result := by
    intro count
    induction count with
    | zero => exact fun call => rfl
    | succ count ih =>
        intro call
        rw [shifts]
        split
        · rw [ih]
          exact popFrame_result true _
        · rfl
  exact passes _ call

theorem finish_result (call : PcmCall) : call.finish.result = call.result := by
  unfold finish
  split <;> rfl

theorem interpolate_result (call : PcmCall) :
    call.interpolate.2.result = (call.resampler.hasPrimed, call.interpolate.1.frame) := by
  have looked : call.look.resampler.hasPrimed = call.resampler.hasPrimed := by
    rw [look_resampler]
  exact Prod.ext looked rfl

theorem prime_hasPrimed {call : PcmCall} (primed : call.prime.1 = true)
    (primes : call.resampler.primed = true → call.resampler.hasPrimed = true) :
    call.prime.2.resampler.hasPrimed = true := by
  unfold prime at primed ⊢
  split
  · exact primes ‹_›
  · rename_i unprimed
    rw [if_neg unprimed] at primed
    dsimp only at primed ⊢
    split
    · rename_i few
      rw [if_pos few] at primed
      cases primed
    · rfl

/-- A call of `next_frame` has nothing and only looks at the ring, or it has the
interpolated frame of the delivery. -/
theorem Ready.prepareNextFrame_result {producer : PcmProducer} {threshold : Nat} {call : PcmCall}
    (ready : call.Ready producer threshold)
    (primes : call.resampler.primed = true → call.resampler.hasPrimed = true) :
    call.prepareNextFrame = (none, call.look) ∨
      ∃ delivery later, call.prepareNextFrame = (some delivery, later) ∧
        later.result = (true, delivery.frame) ∧ delivery.frame.length = producer.channels := by
  rcases ready.toBuffering.prepareNextFrame_cases ready.two_le
      fun primed => ready.primed_eq ▸ primed with
    ⟨waits, _⟩ | ⟨current, filled, currentEq, filledEq, delivers, buffering, have_next, _⟩
  · exact Or.inl waits
  · refine Or.inr ⟨_, _, delivers, ?_, buffering.length_interpolate have_next⟩
    have primed : call.prime.1 = true := by
      rcases prime_cases call with ⟨_, _, waits⟩ | ⟨goesOn, _⟩
      · rw [PcmCall.prepareNextFrame, waits] at delivers
        cases delivers
      · exact goesOn
    have first := fillCurrent_result call.prime.2
    rw [currentEq] at first
    have second := fillNext_result current
    rw [filledEq] at second
    have hasPrimed : filled.resampler.hasPrimed = true :=
      (congrArg Prod.fst (second.trans first)).trans (prime_hasPrimed primed primes)
    rw [finish_result, advance_result, interpolate_result, hasPrimed]

end PcmCall

/-! ## Frames that were played -/

/-- The calls without a frame that come after one with a frame. -/
def silencesAfterPlaying {α : Type*} (played : List (Option α)) : Nat :=
  (played.dropWhile Option.isNone).countP Option.isNone

theorem silencesAfterPlaying_append_some {α : Type*} (played : List (Option α)) (frame : α) :
    silencesAfterPlaying (played ++ [some frame]) = silencesAfterPlaying played := by
  induction played with
  | nil => rfl
  | cons first played ih =>
      cases first with
      | none => exact ih
      | some earlier => simp [silencesAfterPlaying]

theorem silencesAfterPlaying_append_none {α : Type*} (played : List (Option α)) :
    silencesAfterPlaying (played ++ [none]) =
      silencesAfterPlaying played + (played.any Option.isSome).toNat := by
  induction played with
  | nil => rfl
  | cons first played ih =>
      cases first with
      | none => exact ih
      | some earlier => simp [silencesAfterPlaying]

theorem Playback.nextFrame_none {state : PlaybackState} {later : PcmCall}
    (waits : (state.stream.call state.arriving).prepareNextFrame = (none, later)) :
    Playback.nextFrame state = (.ok none,
      { stream := state.stream.step (.nextFrame state.arriving)
        arriving := later.arriving
        counters :=
          if state.stream.resampler.hasPrimed then state.counters.underrun 1 else state.counters
        output := state.output }) := by
  have prepared : Playback.prepareNextFrame state = (.ok false,
      { state with
        stream := state.stream.step (.nextFrame state.arriving)
        arriving := later.arriving }) := by
    rw [Playback.prepareNextFrame, waits]
    rfl
  rw [Playback.nextFrame]
  exact Eq.trans (inspect_bind_apply rfl) (Eq.trans (bind_apply_ok prepared) rfl)

theorem Playback.nextFrame_some {state : PlaybackState} {delivery : Delivery} {later : PcmCall}
    (delivers : (state.stream.call state.arriving).prepareNextFrame = (some delivery, later)) :
    Playback.nextFrame state = (.ok (some later.resampler.interpolated),
      { stream := state.stream.step (.nextFrame state.arriving)
        arriving := later.arriving
        counters := state.counters.transferred 1
        output := state.output }) := by
  have prepared : Playback.prepareNextFrame state = (.ok true,
      { state with
        stream := state.stream.step (.nextFrame state.arriving)
        arriving := later.arriving }) := by
    rw [Playback.prepareNextFrame, delivers]
    rfl
  have resampler : (state.stream.step (.nextFrame state.arriving)).resampler = later.resampler := by
    rw [PcmStream.step, delivers]
  rw [Playback.nextFrame, ← resampler]
  exact Eq.trans (inspect_bind_apply rfl) (Eq.trans (bind_apply_ok prepared) rfl)

/-- A stream with the writes that are still to get done, after another call of
`next_frame`. -/
def PcmStream.nextCall (coming : PcmStream × List (List PcmWrite)) :
    PcmStream × List (List PcmWrite) :=
  (coming.1.step (.nextFrame coming.2), (coming.1.call coming.2).prepareNextFrame.2.arriving)

theorem PcmStream.exists_run_nextCall (coming : PcmStream × List (List PcmWrite)) (count : Nat) :
    ∃ actions, (nextCall^[count] coming).1 = coming.1.run actions := by
  induction count with
  | zero => exact ⟨[], rfl⟩
  | succ count ih =>
      obtain ⟨actions, ran⟩ := ih
      refine ⟨actions ++ [.nextFrame (nextCall^[count] coming).2], ?_⟩
      rw [Function.iterate_succ_apply', PcmStream.run, List.foldl_append]
      exact congrArg (PcmStream.step · (.nextFrame (nextCall^[count] coming).2)) ran

/-- What another call of `next_frame` has. -/
def PcmStream.nextResult (coming : PcmStream × List (List PcmWrite)) : Option (List ℚ) :=
  (coming.1.call coming.2).prepareNextFrame.1.map Delivery.frame

/-- What some calls of `next_frame` have, one after the other. -/
def PcmStream.nextResults (coming : PcmStream × List (List PcmWrite)) (count : Nat) :
    List (Option (List ℚ)) :=
  (List.range count).map fun number => nextResult (nextCall^[number] coming)

@[simp]
theorem PcmStream.length_nextResults (coming : PcmStream × List (List PcmWrite)) (count : Nat) :
    (nextResults coming count).length = count := by
  rw [nextResults, List.length_map, List.length_range]

theorem PcmStream.nextResults_succ (coming : PcmStream × List (List PcmWrite)) (count : Nat) :
    nextResults coming (count + 1) =
      nextResults coming count ++ [nextResult (nextCall^[count] coming)] := by
  rw [nextResults, List.range_succ, List.map_append, List.map_singleton, nextResults]

/-- The stream of a callback with the writes that are still to get done. -/
def PlaybackState.coming (state : PlaybackState) : PcmStream × List (List PcmWrite) :=
  (state.stream, state.arriving)

/-- What the calls of `next_frame` have come to on a playback stream. -/
structure HasPlayed (producer : PcmProducer) (threshold : Nat) (stream : PcmStream)
    (counters : PcmCounters) (played : List (Option (List ℚ))) : Prop where
  ready : stream.Ready producer threshold
  primes : stream.resampler.primed = true → stream.resampler.hasPrimed = true
  hasPrimed_eq : stream.resampler.hasPrimed = played.any Option.isSome
  delivered_eq : stream.delivered.map Delivery.frame = played.reduceOption
  sizes : ∀ frame, some frame ∈ played → frame.length = producer.channels
  transferred_eq : counters.transferredFrames = UInt64.ofNat played.reduceOption.length
  underruns_eq : counters.underrunFrames = UInt64.ofNat (silencesAfterPlaying played)

/-- The counters that `next_frame` leaves. -/
def PcmCounters.calls (counters : PcmCounters) : UInt64 × UInt64 × UInt64 :=
  (counters.callbacks, counters.overrunFrames, counters.formatErrors)

namespace HasPlayed

variable {producer : PcmProducer} {threshold : Nat} {stream : PcmStream} {counters : PcmCounters}
  {played : List (Option (List ℚ))}

theorem of_calls (plays : HasPlayed producer threshold stream counters played) {other : PcmCounters}
    (transferred : other.transferredFrames = counters.transferredFrames)
    (underruns : other.underrunFrames = counters.underrunFrames) :
    HasPlayed producer threshold stream other played :=
  { plays with
    transferred_eq := transferred.trans plays.transferred_eq
    underruns_eq := underruns.trans plays.underruns_eq }

theorem write (plays : HasPlayed producer threshold stream counters played) (write : PcmWrite) :
    HasPlayed producer threshold (stream.step (.write write)) counters played :=
  { plays with ready := plays.ready.step (.write write) }

theorem channels_eq (plays : HasPlayed producer threshold stream counters played) :
    stream.resampler.channels = producer.channels :=
  ((congrArg PcmProducer.channels (plays.ready []).producer_eq).symm.trans
    (plays.ready []).channels_eq).symm

/-- A call that has nothing. -/
theorem silent (plays : HasPlayed producer threshold stream counters played)
    {arriving : List (List PcmWrite)}
    (waits : (stream.call arriving).prepareNextFrame = (none, (stream.call arriving).look)) :
    HasPlayed producer threshold (stream.step (.nextFrame arriving))
      (if stream.resampler.hasPrimed then counters.underrun 1 else counters)
      (played ++ [none]) := by
  have ready := plays.ready.step (.nextFrame arriving)
  have resampler : (stream.step (.nextFrame arriving)).resampler = stream.resampler := by
    rw [PcmStream.step, waits]
    exact PcmCall.look_resampler _
  have delivered : (stream.step (.nextFrame arriving)).delivered = stream.delivered := by
    rw [PcmStream.step, waits]
    exact List.append_nil _
  have reduced : (played ++ [none]).reduceOption = played.reduceOption := by
    rw [List.reduceOption_append]
    exact List.append_nil _
  have counted := silencesAfterPlaying_append_none played
  rw [← plays.hasPrimed_eq] at counted
  refine
    { ready := ready
      primes := by
        rw [resampler]
        exact plays.primes
      hasPrimed_eq := by
        rw [resampler, plays.hasPrimed_eq, List.any_append]
        exact (Bool.or_false _).symm
      delivered_eq := by rw [delivered, plays.delivered_eq, reduced]
      sizes := fun frame member => plays.sizes frame (by simpa using member)
      transferred_eq := ?_
      underruns_eq := ?_ }
  · rw [reduced, ← plays.transferred_eq]
    split <;> rfl
  · rw [counted]
    cases stream.resampler.hasPrimed with
    | false => exact plays.underruns_eq
    | true => exact (congrArg (· + 1) plays.underruns_eq).trans (UInt64.ofNat_add _ _).symm

/-- A call that has a frame. -/
theorem playing (plays : HasPlayed producer threshold stream counters played)
    {arriving : List (List PcmWrite)} {delivery : Delivery} {later : PcmCall}
    (delivers : (stream.call arriving).prepareNextFrame = (some delivery, later))
    (hasPrimed : later.resampler.hasPrimed = true)
    (size : delivery.frame.length = producer.channels) :
    HasPlayed producer threshold (stream.step (.nextFrame arriving)) (counters.transferred 1)
      (played ++ [some delivery.frame]) := by
  have ready := plays.ready.step (.nextFrame arriving)
  have resampler : (stream.step (.nextFrame arriving)).resampler = later.resampler := by
    rw [PcmStream.step, delivers]
  have delivered : (stream.step (.nextFrame arriving)).delivered =
      stream.delivered ++ [delivery] := by
    rw [PcmStream.step, delivers]
    rfl
  have reduced : (played ++ [some delivery.frame]).reduceOption =
      played.reduceOption ++ [delivery.frame] := by
    rw [List.reduceOption_append]
    rfl
  refine
    { ready := ready
      primes := fun _ => by rw [resampler, hasPrimed]
      hasPrimed_eq := by
        rw [resampler, hasPrimed, List.any_append]
        exact (Bool.or_true _).symm
      delivered_eq := by
        rw [delivered, List.map_append, plays.delivered_eq, reduced]
        rfl
      sizes := ?_
      transferred_eq := ?_
      underruns_eq := ?_ }
  · intro frame member
    rcases List.mem_append.mp member with earlier | fresh
    · exact plays.sizes frame earlier
    · obtain rfl := Option.some.inj (List.mem_singleton.mp fresh)
      exact size
  · rw [reduced, List.length_append, UInt64.ofNat_add]
    exact congrArg (· + 1) plays.transferred_eq
  · rw [silencesAfterPlaying_append_some]
    exact plays.underruns_eq

/-- A call of `next_frame` adds what it has to what was played. -/
theorem nextFrame {state : PlaybackState}
    (plays : HasPlayed producer threshold state.stream state.counters played) :
    ∃ reached, Playback.nextFrame state = (.ok (PcmStream.nextResult state.coming), reached) ∧
      HasPlayed producer threshold reached.stream reached.counters
        (played ++ [PcmStream.nextResult state.coming]) ∧
      reached.coming = PcmStream.nextCall state.coming ∧
      reached.counters.calls = state.counters.calls ∧ reached.output = state.output := by
  rcases (plays.ready state.arriving).prepareNextFrame_result plays.primes with
    waits | ⟨delivery, later, delivers, result, size⟩
  · have nothing : PcmStream.nextResult state.coming = none := by
      rw [PcmStream.nextResult, PlaybackState.coming, waits, Option.map_none]
    rw [nothing]
    refine ⟨_, Playback.nextFrame_none waits, plays.silent waits, ?_, ?_, ?_⟩
    · rw [PcmStream.nextCall, PlaybackState.coming, PlaybackState.coming, waits]
    · dsimp only
      split <;> rfl
    · rfl
  · have interpolated : later.resampler.interpolated = delivery.frame := congrArg Prod.snd result
    have frame : PcmStream.nextResult state.coming = some delivery.frame := by
      rw [PcmStream.nextResult, PlaybackState.coming, delivers, Option.map_some]
    have called := Playback.nextFrame_some delivers
    rw [interpolated] at called
    rw [frame]
    refine ⟨_, called, plays.playing delivers (congrArg Prod.fst result) size, ?_, ?_, ?_⟩
    · rw [PcmStream.nextCall, PlaybackState.coming, PlaybackState.coming, delivers]
    · rfl
    · rfl

end HasPlayed

/-! ## Outputs -/

/-- The frames of an output that has as many channels as the stream. -/
def fittingFrames (channels : Nat) (output : Option (AudioBufferList ℚ)) : Option Nat :=
  output.bind fun list =>
    if audioBufferListChannels list = some channels then audioBufferListFrames list else none

/-- What a sequence of frames adds to the samples of an output. -/
def frameAmount (played : List (Option (List ℚ))) (frame channel : Nat) : ℚ :=
  ((played.getD frame none).getD []).getD channel 0

theorem frameAmount_append (played : List (Option (List ℚ))) (next : Option (List ℚ))
    (frame channel : Nat) :
    frameAmount (played ++ [next]) frame channel = frameAmount played frame channel +
      if frame = played.length then (next.getD []).getD channel 0 else 0 := by
  rcases Nat.lt_trichotomy frame played.length with before | rfl | after
  · rw [frameAmount, List.getD_append _ _ _ _ before, if_neg before.ne, add_zero, frameAmount]
  · simp [frameAmount]
  · have beyond : (played ++ [next]).length ≤ frame := by
      rw [List.length_append]
      exact after
    rw [if_neg after.ne', add_zero, frameAmount, frameAmount, List.getD_eq_default _ none beyond,
      List.getD_eq_default _ none after.le]

namespace Playback

variable {state : PlaybackState} {output : AudioBufferList ℚ} {frames frameIndex : Nat}

theorem addSample_adds (pointed : state.output = some output)
    (framed : audioBufferListFrames output = some frames) (within : frameIndex < frames)
    {channel : Nat} (channelWithin : channel < channelCount output.buffers) (sample : ℚ) :
    ∃ after, addSample frameIndex channel sample state =
        (.ok (), { state with output := some after }) ∧
      Adds frames output after fun other another =>
        if other = frameIndex ∧ another = channel then sample else 0 := by
  obtain ⟨after, added, adds⟩ := adds_addAudioSample framed within channelWithin sample
  refine ⟨after, ?_, adds⟩
  have adding : okOr CallbackExit.undefined
      (state.output.bind (addAudioSample · frameIndex channel sample)) = .ok (true, after) := by
    rw [pointed, Option.bind_some, added]
    rfl
  rw [addSample]
  exact Eq.trans (inspect_bind_apply adding) rfl

/-- The loop over the samples of a frame, from any channel on. -/
theorem addSamples_adds {frame : List ℚ} {start : Nat} (pointed : state.output = some output)
    (framed : audioBufferListFrames output = some frames) (within : frameIndex < frames)
    (narrow : start + frame.length ≤ channelCount output.buffers) :
    ∃ after, (frame.zipIdx start).forM (fun entry => addSample frameIndex entry.2 entry.1) state =
        (.ok (), { state with output := some after }) ∧
      Adds frames output after fun other channel =>
        if other = frameIndex ∧ start ≤ channel then frame.getD (channel - start) 0 else 0 := by
  induction frame generalizing state output start with
  | nil =>
      refine ⟨output, ?_, .nothing fun _ _ => by simp⟩
      rw [← pointed]
      rfl
  | cons sample frame ih =>
      rw [List.length_cons] at narrow
      obtain ⟨middle, one, adds⟩ := addSample_adds pointed framed within
        (show start < channelCount output.buffers by omega) sample
      obtain ⟨after, rest, more⟩ := @ih { state with output := some middle } middle (start + 1) rfl
        (adds.framed framed) (by
          rw [adds.layout.channelCount_eq]
          omega)
      refine ⟨after, Eq.trans (@forM_cons_apply PlaybackState CallbackExit (ℚ × Nat)
        (fun entry => addSample frameIndex entry.2 entry.1) (sample, start) _ state _ one) rest,
        (adds.trans more).congr fun other channel => ?_⟩
      by_cases same : other = frameIndex
      · rcases Nat.lt_trichotomy channel start with before | rfl | later
        · simp [before.ne, Nat.not_le.mpr before, Nat.not_le.mpr (Nat.lt_succ_of_lt before)]
        · simp [same]
        · obtain ⟨beyond, rfl⟩ := Nat.exists_eq_add_of_lt later
          have left : start + (beyond + 1) - (start + 1) = beyond := by omega
          simp [same, Nat.add_assoc, left]
      · simp [same]

end Playback

/-! ## Calls of the callback -/

section Callbacks

variable {producer : PcmProducer} {threshold : Nat} {played : List (Option (List ℚ))}
  {state : PlaybackState} {output : AudioBufferList ℚ} {frames : Nat}

/-- A pass of the loop over the frames of the output. -/
theorem HasPlayed.playFrame
    (plays : HasPlayed producer threshold state.stream state.counters played)
    (pointed : state.output = some output) (framed : audioBufferListFrames output = some frames)
    (wide : channelCount output.buffers = producer.channels) {frameIndex : Nat}
    (within : frameIndex < frames) :
    ∃ reached after, Playback.playFrame frameIndex state = (.ok (), reached) ∧
      HasPlayed producer threshold reached.stream reached.counters
        (played ++ [PcmStream.nextResult state.coming]) ∧
      reached.coming = PcmStream.nextCall state.coming ∧
      reached.counters.calls = state.counters.calls ∧ reached.output = some after ∧
      Adds frames output after fun other channel =>
        if other = frameIndex then
          ((PcmStream.nextResult state.coming).getD []).getD channel 0
        else 0 := by
  obtain ⟨middle, called, goesOn, stepped, calls, kept⟩ := plays.nextFrame
  generalize PcmStream.nextResult state.coming = frame at called goesOn ⊢
  cases frame with
  | none =>
      refine ⟨middle, output, ?_, goesOn, stepped, calls, kept.trans pointed,
        .nothing fun _ _ => by simp⟩
      rw [Playback.playFrame]
      exact Eq.trans (bind_apply_ok called) rfl
  | some frame =>
      have size := goesOn.sizes frame (List.mem_append_right _ List.mem_cons_self)
      obtain ⟨after, added, adds⟩ := @Playback.addSamples_adds middle output frames frameIndex frame
        0 (kept.trans pointed) framed within (by
          rw [wide, size, Nat.zero_add])
      refine ⟨{ middle with output := some after }, after, ?_, goesOn, stepped, calls, rfl,
        adds.congr fun other channel => by simp⟩
      rw [Playback.playFrame]
      exact Eq.trans (bind_apply_ok called) added

/-- The loop over the frames of the output. -/
theorem HasPlayed.playFrames
    (plays : HasPlayed producer threshold state.stream state.counters played)
    (pointed : state.output = some output) (framed : audioBufferListFrames output = some frames)
    (wide : channelCount output.buffers = producer.channels) :
    ∃ reached after, (List.range frames).forM Playback.playFrame state = (.ok (), reached) ∧
      HasPlayed producer threshold reached.stream reached.counters
        (played ++ PcmStream.nextResults state.coming frames) ∧
      reached.coming = PcmStream.nextCall^[frames] state.coming ∧
      reached.counters.calls = state.counters.calls ∧ reached.output = some after ∧
      Adds frames output after (frameAmount (PcmStream.nextResults state.coming frames)) := by
  obtain ⟨reached, looped, after, goesOn, ran, calls, reachedOutput, adds⟩ :=
    @forM_range_ok PlaybackState CallbackExit Playback.playFrame (fun count reached =>
      ∃ after, HasPlayed producer threshold reached.stream reached.counters
          (played ++ PcmStream.nextResults state.coming count) ∧
        reached.coming = PcmStream.nextCall^[count] state.coming ∧
        reached.counters.calls = state.counters.calls ∧ reached.output = some after ∧
        Adds frames output after (frameAmount (PcmStream.nextResults state.coming count)))
      frames state
      ⟨output, (List.append_nil played).symm ▸ plays, rfl, rfl, pointed,
        .nothing fun _ _ => by simp [frameAmount, PcmStream.nextResults]⟩ (by
        rintro count within reached ⟨middle, goesOn, ran, calls, reachedOutput, adds⟩
        obtain ⟨next, after, pass, further, stepped, sameCalls, nextOutput, adding⟩ :=
          goesOn.playFrame reachedOutput (adds.framed framed)
            (adds.layout.channelCount_eq.trans wide) within
        rw [ran] at further stepped adding
        rw [PcmStream.nextResults_succ]
        refine ⟨next, pass, after, by rwa [← List.append_assoc], ?_, sameCalls.trans calls,
          nextOutput, (adds.trans adding).congr fun other channel => ?_⟩
        · rw [stepped, Function.iterate_succ_apply']
        · rw [frameAmount_append, PcmStream.length_nextResults])
  exact ⟨reached, after, looped, goesOn, ran, calls, reachedOutput, adds⟩

/-- What a cleared output holds after frames were added to it. -/
theorem listFrames_of_adds {list after : AudioBufferList ℚ} {channels : Nat}
    {more : List (Option (List ℚ))} (framed : audioBufferListFrames list = some frames)
    (wide : channelCount list.buffers = channels) (length : more.length = frames)
    (sizes : ∀ frame, some frame ∈ more → frame.length = channels)
    (adds : Adds frames (clearAudioBufferList list) after (frameAmount more)) :
    listFrames frames channels after = more.map (·.getD (List.replicate channels 0)) := by
  have layout := sameLayout_clearAudioBufferList list
  refine List.ext_getElem (by simp [listFrames, length]) fun index within _ => ?_
  have inMore : index < more.length := by simpa [listFrames, length] using within
  have row : ∀ channel < channels, (readAudioSample after index channel).getD 0 =
      (more[index].getD []).getD channel 0 := by
    intro channel channelWithin
    have sample := adds.samples index (length ▸ inMore) channel
      (layout.channelCount_eq ▸ wide ▸ channelWithin)
    rw [readAudioSample_clear framed (length ▸ inMore) (wide ▸ channelWithin)] at sample
    rw [sample, Option.map_some, zero_add, Option.getD_some, frameAmount,
      List.getD_eq_getElem _ _ inMore]
  simp only [listFrames, frameOf, List.getElem_map, List.getElem_range]
  refine List.ext_getElem ?_ fun channel channelWithin frameWithin => ?_
  · cases found : more[index] with
    | none => simp
    | some frame => simpa using (sizes frame (found ▸ List.getElem_mem inMore)).symm
  · rw [List.length_map, List.length_range] at channelWithin
    rw [List.getElem_map, List.getElem_range, row channel channelWithin,
      ← List.getD_eq_getElem _ 0 frameWithin]
    cases more[index] with
    | none => simp [channelWithin]
    | some frame => rfl

/-- The frames heard from an output that fits. -/
def heardFrames (channels : Nat) (output : Option (AudioBufferList ℚ)) : List (List ℚ) :=
  ((fittingFrames channels output).bind fun frames =>
    output.map (listFrames frames channels)).getD []

theorem fittingFrames_eq_some {channels : Nat} {output : Option (AudioBufferList ℚ)}
    (fits : fittingFrames channels output = some frames) :
    ∃ list, output = some list ∧ channelCount list.buffers = channels ∧
      audioBufferListFrames list = some frames := by
  obtain ⟨list, rfl, framed⟩ := Option.bind_eq_some_iff.mp fits
  split at framed
  · rename_i channelsEq
    rw [audioBufferListChannels_eq] at channelsEq
    exact ⟨list, rfl, Option.some.inj channelsEq, framed⟩
  · cases framed

/-- An output that fits is played into. -/
theorem HasPlayed.playbackIoProc
    (plays : HasPlayed producer threshold state.stream state.counters played)
    (fits : fittingFrames producer.channels state.output = some frames) :
    ∃ reached, playbackIoProc state = (.ok (), reached) ∧
      HasPlayed producer threshold reached.stream reached.counters
        (played ++ PcmStream.nextResults state.coming frames) ∧
      reached.coming = PcmStream.nextCall^[frames] state.coming ∧
      reached.counters.calls = state.counters.callback.calls ∧
      heardFrames producer.channels reached.output =
        (PcmStream.nextResults state.coming frames).map
          (·.getD (List.replicate producer.channels 0)) := by
  obtain ⟨list, pointed, wide, framed⟩ := fittingFrames_eq_some fits
  have layout := sameLayout_clearAudioBufferList list
  have clearFramed := layout.audioBufferListFrames_eq.trans framed
  have clearWide := layout.channelCount_eq.trans wide
  have counted : HasPlayed producer threshold state.stream state.counters.callback played :=
    plays.of_calls rfl rfl
  obtain ⟨reached, after, looped, goesOn, ran, calls, reachedOutput, adds⟩ :=
    @HasPlayed.playFrames producer threshold played
      { state with
        counters := state.counters.callback
        output := some (clearAudioBufferList list) } (clearAudioBufferList list) frames counted rfl
      clearFramed clearWide
  refine ⟨reached, ?_, goesOn, ran, calls, ?_⟩
  · have channels : audioBufferListChannels (clearAudioBufferList list) =
        some state.stream.resampler.channels := by
      rw [audioBufferListChannels_eq, clearWide, plays.channels_eq]
    rw [VCable.playbackIoProc]
    refine Eq.trans change_bind_apply
      (Eq.trans (inspect_bind_apply (congrArg Except.ok pointed)) ?_)
    refine Eq.trans change_bind_apply ?_
    rw [clearFramed]
    refine Eq.trans (inspect_bind_apply rfl) ?_
    rw [if_neg (not_not.mpr channels)]
    exact looped
  · have afterFits : fittingFrames producer.channels reached.output = some frames := by
      rw [reachedOutput, fittingFrames, Option.bind_some, audioBufferListChannels_eq,
        adds.layout.channelCount_eq, clearWide, if_pos rfl, adds.framed clearFramed]
    rw [heardFrames, afterFits, reachedOutput]
    exact listFrames_of_adds framed wide (PcmStream.length_nextResults _ _)
      (fun frame member => goesOn.sizes frame (List.mem_append_right _ member)) adds

/-- Any other output is silenced, and nothing is taken from the stream. -/
theorem playbackIoProc_of_unfit
    (unfit : fittingFrames state.stream.resampler.channels state.output = none) :
    playbackIoProc state = (.error .returned,
      { state with
        counters := state.counters.callback.formatError
        output := state.output.map clearAudioBufferList }) := by
  obtain ⟨stream, arriving, counters, output⟩ := state
  rw [playbackIoProc]
  refine Eq.trans change_bind_apply ?_
  cases output with
  | none => exact Eq.trans (inspect_bind_apply rfl) rfl
  | some list =>
      have layout := sameLayout_clearAudioBufferList list
      rw [fittingFrames, Option.bind_some, audioBufferListChannels_eq] at unfit
      refine Eq.trans (inspect_bind_apply rfl) (Eq.trans change_bind_apply ?_)
      rw [layout.audioBufferListFrames_eq]
      cases framed : audioBufferListFrames list with
      | none => rfl
      | some frames =>
          have other : audioBufferListChannels (clearAudioBufferList list) ≠
              some stream.resampler.channels := by
            rw [audioBufferListChannels_eq, layout.channelCount_eq]
            intro same
            rw [if_pos same, framed] at unfit
            cases unfit
          refine Eq.trans (inspect_bind_apply rfl) ?_
          rw [if_pos other]
          rfl

end Callbacks

/-! ## Runs -/

/-- A playback stream with its counters.  What was heard of it so far, and what
the calls of `next_frame` for it have had, are written down for the record. -/
structure PlaybackRun where
  stream : PcmStream
  counters : PcmCounters
  heard : List (List ℚ)
  played : List (Option (List ℚ))

inductive PlaybackEvent where
  | write (write : PcmWrite)
  /-- A call of the callback, with the writes that get done before each of its
  looks at the ring. -/
  | callback (output : Option (AudioBufferList ℚ)) (arriving : List (List PcmWrite))

namespace PlaybackRun

/-- The stream that `PcmPlaybackStream::start` makes. -/
def start (config : PcmStreamConfig) (validated : ValidatedConfig) (deviceRate : UInt32) :
    PlaybackRun where
  stream := .start config validated .output deviceRate
  counters := .new
  heard := []
  played := []

/-- A call of the callback. -/
def callback (run : PlaybackRun) (output : Option (AudioBufferList ℚ))
    (arriving : List (List PcmWrite)) : Except CallbackExit Unit × PlaybackState :=
  playbackIoProc
    { stream := run.stream
      arriving := arriving
      counters := run.counters
      output := output }

/-- What `next_frame` has in a callback, once for each frame of an output that
fits. -/
def results (run : PlaybackRun) (output : Option (AudioBufferList ℚ))
    (arriving : List (List PcmWrite)) : List (Option (List ℚ)) :=
  PcmStream.nextResults (run.stream, arriving)
    ((fittingFrames run.stream.resampler.channels output).getD 0)

def step (run : PlaybackRun) : PlaybackEvent → PlaybackRun
  | .write write => { run with stream := run.stream.step (.write write) }
  | .callback output arriving =>
      let after := (run.callback output arriving).2
      { stream := after.stream
        counters := after.counters
        heard := run.heard ++ heardFrames run.stream.resampler.channels after.output
        played := run.played ++ run.results output arriving }

def run (start : PlaybackRun) (events : List PlaybackEvent) : PlaybackRun :=
  events.foldl step start

end PlaybackRun

def PlaybackEvent.isCallback : PlaybackEvent → Bool
  | .write _ => false
  | .callback _ _ => true

/-- A callback with an output that does not fit. -/
def PlaybackEvent.isUnfit (channels : Nat) : PlaybackEvent → Bool
  | .write _ => false
  | .callback output _ => (fittingFrames channels output).isNone

namespace PlaybackRun

/-- What the events so far have come to. -/
structure Sounds (producer : PcmProducer) (threshold : Nat) (origin : PcmStream)
    (events : List PlaybackEvent) (run : PlaybackRun) : Prop where
  plays : HasPlayed producer threshold run.stream run.counters run.played
  ran : ∃ actions, run.stream = origin.run actions
  heard_eq : run.heard = run.played.map (·.getD (List.replicate producer.channels 0))
  calls_eq : run.counters.calls = (UInt64.ofNat (events.countP PlaybackEvent.isCallback), 0,
    UInt64.ofNat (events.countP (PlaybackEvent.isUnfit producer.channels)))

variable {producer : PcmProducer} {threshold : Nat} {origin : PcmStream}
  {events : List PlaybackEvent} {run : PlaybackRun}

theorem Sounds.callback_fits (sounds : Sounds producer threshold origin events run)
    {output : Option (AudioBufferList ℚ)} {frames : Nat}
    (fits : fittingFrames producer.channels output = some frames)
    (arriving : List (List PcmWrite)) :
    (run.callback output arriving).1 = .ok () ∧
      (run.callback output arriving).2.coming =
        PcmStream.nextCall^[frames] (run.stream, arriving) ∧
      Sounds producer threshold origin (events ++ [.callback output arriving])
        (run.step (.callback output arriving)) := by
  obtain ⟨reached, called, goesOn, ran, calls, heard⟩ :=
    @HasPlayed.playbackIoProc producer threshold run.played
      ⟨run.stream, arriving, run.counters, output⟩ frames sounds.plays fits
  obtain ⟨earlier, origin_eq⟩ := sounds.ran
  obtain ⟨actions, further⟩ := PcmStream.exists_run_nextCall (run.stream, arriving) frames
  have taken : run.callback output arriving = (.ok (), reached) := called
  have results : run.results output arriving =
      PcmStream.nextResults (run.stream, arriving) frames := by
    rw [PlaybackRun.results, sounds.plays.channels_eq, fits, Option.getD_some]
  rw [step, taken, results]
  refine ⟨rfl, ran, goesOn, ⟨earlier ++ actions, ?_⟩, ?_, ?_⟩
  · rw [PcmStream.run, List.foldl_append]
    exact (congrArg Prod.fst ran).trans
      (further.trans (congrArg (PcmStream.run · actions) origin_eq))
  · rw [List.map_append, ← sounds.heard_eq, sounds.plays.channels_eq]
    exact congrArg (run.heard ++ ·) heard
  · have before := sounds.calls_eq
    rw [PcmCounters.calls, Prod.mk.injEq, Prod.mk.injEq] at before
    rw [List.countP_append, List.countP_append, UInt64.ofNat_add, UInt64.ofNat_add,
      ← before.1, ← before.2.2]
    refine calls.trans ?_
    simp [PlaybackEvent.isCallback, PlaybackEvent.isUnfit, fits, PcmCounters.calls,
      PcmCounters.callback, before.2.1]

theorem Sounds.callback_unfit (sounds : Sounds producer threshold origin events run)
    {output : Option (AudioBufferList ℚ)}
    (unfit : fittingFrames producer.channels output = none) (arriving : List (List PcmWrite)) :
    run.callback output arriving = (.error .returned,
        { stream := run.stream
          arriving := arriving
          counters := run.counters.callback.formatError
          output := output.map clearAudioBufferList }) ∧
      Sounds producer threshold origin (events ++ [.callback output arriving])
        (run.step (.callback output arriving)) := by
  have taken := @playbackIoProc_of_unfit ⟨run.stream, arriving, run.counters, output⟩
    (sounds.plays.channels_eq.symm ▸ unfit)
  have called : run.callback output arriving = _ := taken
  refine ⟨called, ?_⟩
  have silent :
      heardFrames run.stream.resampler.channels (output.map clearAudioBufferList) = [] := by
    have stillUnfit : fittingFrames run.stream.resampler.channels
        (output.map clearAudioBufferList) = none := by
      rw [sounds.plays.channels_eq, ← unfit]
      cases output with
      | none => rfl
      | some list =>
          have layout := sameLayout_clearAudioBufferList list
          rw [Option.map_some, fittingFrames, Option.bind_some, audioBufferListChannels_eq,
            layout.channelCount_eq, layout.audioBufferListFrames_eq, fittingFrames,
            Option.bind_some, audioBufferListChannels_eq]
    rw [heardFrames, stillUnfit]
    rfl
  have results : run.results output arriving = [] := by
    rw [PlaybackRun.results, sounds.plays.channels_eq, unfit]
    rfl
  rw [step, called, results, List.append_nil]
  refine ⟨sounds.plays.of_calls rfl rfl, sounds.ran, ?_, ?_⟩
  · rw [← sounds.heard_eq]
    dsimp only
    rw [silent, List.append_nil]
  · have before := sounds.calls_eq
    rw [PcmCounters.calls, Prod.mk.injEq, Prod.mk.injEq] at before
    rw [List.countP_append, List.countP_append, UInt64.ofNat_add, UInt64.ofNat_add,
      ← before.1, ← before.2.2]
    simp [PlaybackEvent.isCallback, PlaybackEvent.isUnfit, unfit, PcmCounters.calls,
      PcmCounters.callback, PcmCounters.formatError, before.2.1]

theorem Sounds.step (sounds : Sounds producer threshold origin events run)
    (event : PlaybackEvent) :
    Sounds producer threshold origin (events ++ [event]) (run.step event) := by
  cases event with
  | write write =>
      obtain ⟨earlier, origin_eq⟩ := sounds.ran
      refine ⟨sounds.plays.write write, ⟨earlier ++ [.write write], ?_⟩, sounds.heard_eq, ?_⟩
      · rw [PcmStream.run, List.foldl_append]
        exact congrArg (PcmStream.step · (.write write)) origin_eq
      · rw [List.countP_append, List.countP_append]
        exact sounds.calls_eq
  | callback output arriving =>
      cases fits : fittingFrames producer.channels output with
      | some frames => exact (sounds.callback_fits fits arriving).2.2
      | none => exact (sounds.callback_unfit fits arriving).2

theorem sounds_start {config : PcmStreamConfig} {validated : ValidatedConfig}
    (valid : config.Valid validated) (deviceRate : UInt32) :
    Sounds (start config validated deviceRate).stream.producer (max config.targetFillFrames 2)
      (start config validated deviceRate).stream [] (start config validated deviceRate) where
  plays :=
    { ready := PcmStream.ready_resampling valid _
      primes := nofun
      hasPrimed_eq := rfl
      delivered_eq := rfl
      sizes := nofun
      transferred_eq := rfl
      underruns_eq := rfl }
  ran := ⟨[], rfl⟩
  heard_eq := rfl
  calls_eq := rfl

theorem sounds_run {config : PcmStreamConfig} {validated : ValidatedConfig}
    (valid : config.Valid validated) (deviceRate : UInt32) (events : List PlaybackEvent) :
    Sounds (start config validated deviceRate).stream.producer (max config.targetFillFrames 2)
      (start config validated deviceRate).stream events
      ((start config validated deviceRate).run events) := by
  induction events using List.reverseRecOn with
  | nil => exact sounds_start valid deviceRate
  | append_singleton events event ih =>
      rw [PlaybackRun.run, List.foldl_append]
      exact ih.step event

end PlaybackRun

/-- What is heard of a playback stream is what its calls of `next_frame` have had,
one for each frame of the outputs that fit, with silence for those that had
nothing.  These are the delivered frames, in order, and the counters say how many
there were and how often there was nothing, not counting the silence before the
first frame.  Without drift control and at equal rates they are the accepted
frames but for those still held.  A callback comes to its end exactly when its
output fits; any other output is silenced, and the stream stays as it is. -/
theorem playback_heard {w : Nat} {config : PcmStreamConfig} {validated : ValidatedConfig}
    (accepted : validateConfig w config = .ok validated) (deviceRate : UInt32)
    (events : List PlaybackEvent) :
    let run := (PlaybackRun.start config validated deviceRate).run events
    (run.heard = run.played.map (·.getD (List.replicate validated.channels 0)) ∧
      run.stream.delivered.map Delivery.frame = run.played.reduceOption ∧
      run.counters =
        { callbacks := UInt64.ofNat (events.countP PlaybackEvent.isCallback)
          transferredFrames := UInt64.ofNat run.played.reduceOption.length
          underrunFrames := UInt64.ofNat (silencesAfterPlaying run.played)
          overrunFrames := 0
          formatErrors :=
            UInt64.ofNat (events.countP (PlaybackEvent.isUnfit validated.channels)) } ∧
      (config.maxDriftPpm = 0 → deviceRate = config.clientFormat.sampleRate →
        run.stream.acceptedFrames = run.played.reduceOption ++ run.stream.heldFrames)) ∧
    ∀ output arriving,
      ((run.callback output arriving).1 = .ok () ↔
        (fittingFrames validated.channels output).isSome) ∧
      (∀ frames, fittingFrames validated.channels output = some frames →
        (run.callback output arriving).2.coming =
            PcmStream.nextCall^[frames] (run.stream, arriving) ∧
          (run.step (.callback output arriving)).played =
            run.played ++ PcmStream.nextResults (run.stream, arriving) frames) ∧
      (fittingFrames validated.channels output = none →
        run.callback output arriving = (.error .returned,
          { stream := run.stream
            arriving := arriving
            counters := run.counters.callback.formatError
            output := output.map clearAudioBufferList })) := by
  intro run
  have valid := validateConfig_valid accepted
  have sounds := PlaybackRun.sounds_run valid deviceRate events
  refine ⟨⟨sounds.heard_eq, sounds.plays.delivered_eq, ?_, ?_⟩, fun output arriving => ?_⟩
  · rw [← sounds.plays.transferred_eq, ← sounds.plays.underruns_eq]
    exact congrArg (fun calls : UInt64 × UInt64 × UInt64 =>
      PcmCounters.mk calls.1 run.counters.transferredFrames run.counters.underrunFrames calls.2.1
        calls.2.2) sounds.calls_eq
  · intro noDrift sameRate
    obtain ⟨actions, ran⟩ := sounds.ran
    have lossless := (lossless_start valid .output sameRate).run noDrift actions
    have frames := lossless.acceptedFrames_eq
    rw [← sounds.plays.delivered_eq]
    exact ran ▸ frames
  · cases fits : fittingFrames validated.channels output with
    | some frames =>
        obtain ⟨returned, coming, -⟩ := sounds.callback_fits fits arriving
        refine ⟨iff_of_true returned rfl, ?_, nofun⟩
        rintro _ ⟨⟩
        refine ⟨coming, congrArg (run.played ++ ·) ?_⟩
        rw [PlaybackRun.results, sounds.plays.channels_eq]
        exact congrArg (fun fitting => PcmStream.nextResults _ (Option.getD fitting 0)) fits
    | none =>
        have rejected := (sounds.callback_unfit fits arriving).1
        refine ⟨iff_of_false ?_ Bool.false_ne_true, nofun, fun _ => rejected⟩
        rw [show run.callback output arriving = _ from rejected]
        nofun

/-- An output of two stereo frames. -/
def stereoOutput : AudioBufferList ℚ where
  buffers := [⟨2, 16, some [9, 8, 7, 6], by rintro _ ⟨⟩; rfl⟩]
  counted := by decide

/-- Three stereo frames are written between two callbacks, and two of them played. -/
def stereoPlayback : List PlaybackEvent :=
  [.callback (some stereoOutput) [], .write (.interleaved [1, 10, 2, 20, 3, 30]),
    .callback none [], .callback (some stereoOutput) [], .callback (some stereoOutput) []]

/-- Silence before the first frame, two frames, and two underruns. -/
theorem playback_heard_stereo :
    let run := (PlaybackRun.start ⟨"vcable", ⟨48000, 2⟩, 5, 2, 0⟩ ⟨2, 10, 16⟩ 48000).run
      stereoPlayback
    run.played = [none, none, some [1, 10], some [2, 20], none, none] ∧
      run.heard = run.played.map (·.getD [0, 0]) ∧ run.counters = ⟨4, 2, 2, 0, 1⟩ ∧
      run.stream.acceptedFrames = run.played.reduceOption ++ run.stream.heldFrames ∧
      (run.callback (some stereoOutput) []).1 = .ok () := by
  have accepted : validateConfig 64 ⟨"vcable", ⟨48000, 2⟩, 5, 2, 0⟩ = .ok ⟨2, 10, 16⟩ := by
    decide +kernel
  have played : ((PlaybackRun.start ⟨"vcable", ⟨48000, 2⟩, 5, 2, 0⟩ ⟨2, 10, 16⟩ 48000).run
      stereoPlayback).played = [none, none, some [1, 10], some [2, 20], none, none] := by
    decide +kernel
  obtain ⟨⟨heard, -, counters, lossless⟩, calls⟩ := playback_heard accepted 48000 stereoPlayback
  refine ⟨played, heard, counters.trans ?_, lossless rfl rfl, (calls _ []).1.mpr ?_⟩
  · rw [played]
    decide +kernel
  · decide +kernel

end VCable
