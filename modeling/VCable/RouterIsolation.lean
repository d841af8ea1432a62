import VCable.RouterMixing

/-!
# Playing and recording

A device that plays and records does both in one callback.  What is played does
not depend on the input, unless a format error of the input ends the callback
before it plays.
-/

namespace VCable

open FallibleState IncomingRoute

/-- The same incoming routes and the same output. -/
def SamePlaying (first second : CallbackState) : Prop :=
  first.context.incoming = second.context.incoming ∧ first.output = second.output

namespace Callback

/-! ## Playing depends on the incoming routes and the output -/

theorem respects_formatError : Respects SamePlaying formatError :=
  (respects_change fun _ _ same => same).bind fun _ => respects_fail _

theorem respects_incomingRoute (number : Nat) : Respects SamePlaying (incomingRoute number) :=
  respects_inspect fun _ _ same => by rw [same.1]

theorem respects_playSample (number frame channel : Nat) :
    Respects SamePlaying (playSample number frame channel) := by
  refine (respects_incomingRoute number).bind fun route => ?_
  refine (respects_inspect fun _ _ _ => rfl).bind fun value => ?_
  refine (respects_inspect fun _ _ same => by rw [same.2]).bind fun (added, output) => ?_
  refine (respects_change fun _ _ same => ⟨same.1, rfl⟩).bind fun _ => ?_
  cases added
  · exact respects_formatError
  · exact respects_pure ()

/-- Preparing counts in the metrics, but does not look at them. -/
theorem respects_playFrame (number frame : Nat) :
    Respects SamePlaying (playFrame number frame) := by
  intro first second same
  cases found : second.context.incoming[number]? with
  | none =>
      rw [playFrame_of_missing (same.1 ▸ found), playFrame_of_missing found]
      exact ⟨rfl, same⟩
  | some route =>
      obtain ⟨returns, routes⟩ := PlayingRoute.prepareOutputFrame_metrics route
        first.context.metrics second.context.metrics
      have stored : SamePlaying
          { first with
            context := first.context.setPlaying number
              (PlayingRoute.prepareOutputFrame ⟨route, first.context.metrics⟩).2 }
          { second with
            context := second.context.setPlaying number
              (PlayingRoute.prepareOutputFrame ⟨route, second.context.metrics⟩).2 } := by
        refine ⟨?_, same.2⟩
        change first.context.incoming.set _ _ = second.context.incoming.set _ _
        rw [same.1, routes]
      rw [playFrame_apply (same.1 ▸ found), playFrame_apply found, returns, routes]
      split_ifs
      · exact Respects.forM (respects_playSample number frame) _ _ stored
      · exact ⟨rfl, stored⟩

theorem respects_play : Respects SamePlaying play := by
  refine (respects_inspect fun _ _ same => by rw [same.1]).bind fun count => ?_
  refine (respects_inspect fun _ _ same => by rw [same.2]).bind fun output => ?_
  cases output with
  | none => exact respects_pure ()
  | some output =>
      dsimp only
      split_ifs
      · exact respects_pure ()
      split
      · exact respects_formatError
      · refine (respects_change fun _ _ same => ⟨same.1, rfl⟩).bind fun _ => ?_
        exact Respects.forM fun number => Respects.forM fun frame => respects_playFrame number frame

end Callback

/-! ## Routes that go on -/

namespace IncomingRoute

/-- A route that has gone on, and cannot come back without new samples. -/
def Moved (route later : IncomingRoute ℚ) : Prop :=
  later.consumer.length < route.consumer.length ∨
    route.primed = true ∧ later.primed = false ∧ later.consumer.length < later.sourceChannels ∨
    route.primed = true ∧ later.primed = true ∧ route.phase < later.phase

theorem Moved.ne {route later : IncomingRoute ℚ} (moved : route.Moved later) : later ≠ route := by
  rintro rfl
  rcases moved with shorter | ⟨primed, unprimed, -⟩ | ⟨-, -, later⟩
  · exact Nat.lt_irrefl _ shorter
  · exact Bool.noConfusion (primed.symm.trans unprimed)
  · exact lt_irrefl _ later

end IncomingRoute

namespace PlayingRoute

/-- A primed route gets further, takes a frame, or runs dry. -/
theorem moved_advance {route : IncomingRoute ℚ} {playing : PlayingRoute}
    (progress : route.Progress playing.route) (wasPrimed : route.primed = true)
    (primed : playing.route.primed = true) (ahead : route.phase ≤ playing.route.phase) :
    route.Moved playing.interpolate.advance.route := by
  obtain ⟨interpolates, -⟩ := interpolate_progress progress.wellFormed
  have bounds := correction_bounds (playing.route.consumer.length / playing.route.sourceChannels)
  have forward : 0 < playing.route.nominalStep * (1 +
      correction (playing.route.consumer.length / playing.route.sourceChannels)) :=
    mul_pos progress.wellFormed.nominalStep_pos (by linarith [bounds.1])
  have phase : playing.interpolate.route.phase = playing.route.phase +
      playing.route.nominalStep * (1 +
        correction (playing.route.consumer.length / playing.route.sourceChannels)) := rfl
  obtain ⟨advances, -, stays | shorter | ⟨unprimed, short⟩⟩ := @shifts_cases playing.interpolate
    playing.interpolate.route.phase.floor.toNat interpolates.wellFormed
  · rw [advance, stays]
    exact Or.inr (Or.inr ⟨wasPrimed, primed, by rw [phase]; linarith⟩)
  · exact Or.inl (shorter.trans_le progress.consumer_le)
  · refine Or.inr (Or.inl ⟨wasPrimed, unprimed, ?_⟩)
    exact short.trans_eq advances.settings.sourceChannels_eq.symm

theorem moved_of_not_waits {playing : PlayingRoute} (wellFormed : playing.route.WellFormed)
    (ready : ¬ playing.route.Waits) :
    playing.route.Moved playing.prepareOutputFrame.2.route := by
  obtain ⟨started, primed, prepared⟩ := prepareOutputFrame_of_not_waits wellFormed ready
  rw [prepared]
  cases wasPrimed : playing.route.primed with
  | true =>
      obtain rfl := primed.kept wasPrimed
      exact moved_advance wellFormed.progress_self wasPrimed wasPrimed le_rfl
  | false =>
      obtain ⟨interpolates, -⟩ := interpolate_progress primed.progress.wellFormed
      have advances := (@shifts_cases started.interpolate
        started.interpolate.route.phase.floor.toNat interpolates.wellFormed).1
      have taken := (primed.begun wasPrimed).2
      have positive := wellFormed.sourceChannels_pos
      have shorter : started.route.consumer.length < playing.route.consumer.length := by omega
      exact Or.inl ((advances.consumer_le.trans interpolates.consumer_le).trans_lt shorter)

/-- Further calls do not bring a route back. -/
theorem moved_prepareOutputFrame {route : IncomingRoute ℚ} {playing : PlayingRoute}
    (progress : route.Progress playing.route) (moved : route.Moved playing.route) :
    route.Moved playing.prepareOutputFrame.2.route := by
  rcases moved with shorter | ⟨wasPrimed, unprimed, short⟩ | ⟨wasPrimed, isPrimed, ahead⟩
  · have prepares := (prepareOutputFrame_progress progress.wellFormed).1
    exact Or.inl (prepares.consumer_le.trans_lt shorter)
  · have waits : playing.route.Waits :=
      ⟨unprimed, by rw [Nat.div_eq_of_lt short]; decide⟩
    rw [prepareOutputFrame_of_waits waits]
    exact Or.inr (Or.inl ⟨wasPrimed, unprimed, short⟩)
  · have ready : ¬ playing.route.Waits := fun waits =>
      Bool.noConfusion (isPrimed.symm.trans waits.1)
    obtain ⟨started, primed, prepared⟩ := prepareOutputFrame_of_not_waits progress.wellFormed ready
    rw [prepared]
    obtain rfl := primed.kept isPrimed
    exact moved_advance progress wasPrimed isPrimed ahead.le

end PlayingRoute

/-! ## What playing changes -/

section Changes

open Callback

variable {state : CallbackState} {output : AudioBufferList ℚ} {frames number : Nat}
  {route : IncomingRoute ℚ}

/-- The route has moved on from what it was. -/
def MovedAt (number : Nat) (route : IncomingRoute ℚ) (state : CallbackState) : Prop :=
  ∃ later, state.context.incoming[number]? = some later ∧ route.Progress later ∧ route.Moved later

theorem preserves_playSamples (other frame count : Nat) :
    Preserves (MovedAt number route) ((List.range count).forM (playSample other frame)) :=
  Preserves.forM fun channel _ =>
    @preserves_playSample (fun routes => ∃ later, routes[number]? = some later ∧
      route.Progress later ∧ route.Moved later) other frame channel

theorem preserves_playFrame (other frame : Nat) :
    Preserves (MovedAt number route) (playFrame other frame) := by
  refine @preserves_playFrame_of_prepares (fun routes => ∃ later, routes[number]? = some later ∧
    route.Progress later ∧ route.Moved later) other ?_ frame
  rintro routes current metrics found ⟨later, laterFound, progress, moves⟩
  by_cases same : other = number
  · obtain rfl := same
    obtain rfl := Option.some.inj (found.symm.trans laterFound)
    exact ⟨_, List.getElem?_set_self (List.getElem?_eq_some_iff.mp found).1,
      progress.trans (@PlayingRoute.prepareOutputFrame_progress ⟨_, metrics⟩
        progress.wellFormed).1,
      @PlayingRoute.moved_prepareOutputFrame route ⟨_, metrics⟩ progress moves⟩
  · exact ⟨later, (List.getElem?_set_ne same).trans laterFound, progress, moves⟩

theorem movedAt_playFrame (found : state.context.incoming[number]? = some route)
    (wellFormed : route.WellFormed) (ready : ¬ route.Waits) (frame : Nat) :
    MovedAt number route (playFrame number frame state).2 := by
  have stored : MovedAt number route { state with
      context := state.context.setPlaying number
        (PlayingRoute.prepareOutputFrame ⟨route, state.context.metrics⟩).2 } :=
    ⟨_, List.getElem?_set_self (List.getElem?_eq_some_iff.mp found).1,
      (@PlayingRoute.prepareOutputFrame_progress ⟨route, state.context.metrics⟩ wellFormed).1,
      @PlayingRoute.moved_of_not_waits ⟨route, state.context.metrics⟩ wellFormed ready⟩
  rw [playFrame_apply found]
  split_ifs
  · exact preserves_playSamples number frame _ _ stored
  · exact stored

/-- A route that waits is left as it is. -/
theorem playFrame_of_waits (found : state.context.incoming[number]? = some route)
    (waits : route.Waits) (frame : Nat) : playFrame number frame state = (.ok (), state) := by
  obtain ⟨within, same⟩ := List.getElem?_eq_some_iff.mp found
  have unchanged : state.context.incoming.set number route = state.context.incoming := by
    rw [← same]
    exact List.set_getElem_self within
  have prepares : PlayingRoute.prepareOutputFrame ⟨route, state.context.metrics⟩ =
      (false, ⟨route, state.context.metrics⟩) := PlayingRoute.prepareOutputFrame_of_waits waits
  rw [playFrame_apply found, prepares, if_neg Bool.false_ne_true]
  exact congrArg (fun routes => (Except.ok (), (CallbackState.mk
    ⟨state.context.outgoing, routes, state.context.metrics⟩ state.output))) unchanged

theorem playFrames_of_waits (found : state.context.incoming[number]? = some route)
    (waits : route.Waits) :
    (List.range frames).forM (playFrame number) state = (.ok (), state) := by
  obtain ⟨reached, looped, rfl⟩ := @forM_range_ok CallbackState CallbackExit (playFrame number)
    (fun _ reached => state = reached) frames state rfl (by
      rintro frame - _ rfl
      exact ⟨state, playFrame_of_waits found waits frame, rfl⟩)
  exact looped

/-- All samples of the list are zero. -/
def Silent (list : AudioBufferList ℚ) : Prop :=
  ∀ buffer ∈ list.buffers, ∀ samples, buffer.data = some samples → ∀ sample ∈ samples, sample = 0

theorem AudioBuffer.clear_eq_iff {buffer : AudioBuffer ℚ} :
    buffer.clear = buffer ↔
      ∀ samples, buffer.data = some samples → ∀ sample ∈ samples, sample = 0 := by
  obtain ⟨channels, size, data, sized⟩ := buffer
  rw [AudioBuffer.clear, AudioBuffer.mk.injEq]
  cases data with
  | none =>
      refine iff_of_true ⟨rfl, rfl, rfl⟩ ?_
      rintro samples ⟨⟩
  | some samples =>
      have zeros : samples.map (fun _ => (0 : ℚ)) = samples.map id ↔
          ∀ sample ∈ samples, 0 = sample := List.map_inj_left
      rw [List.map_id] at zeros
      constructor
      · rintro ⟨-, -, same⟩ other pointed sample member
        obtain rfl : samples = other := Option.some.inj pointed
        exact (zeros.mp (Option.some.inj same) sample member).symm
      · intro silent
        exact ⟨rfl, rfl, congrArg some (zeros.mpr fun sample member =>
          (silent samples rfl sample member).symm)⟩

theorem silent_iff {list : AudioBufferList ℚ} : Silent list ↔ clearAudioBufferList list = list := by
  have cleared : list.buffers.map AudioBuffer.clear = list.buffers.map id ↔
      ∀ buffer ∈ list.buffers, buffer.clear = buffer := List.map_inj_left
  rw [List.map_id] at cleared
  obtain ⟨buffers, counted⟩ := list
  rw [clearAudioBufferList, AudioBufferList.mk.injEq, cleared, Silent]
  exact forall₂_congr fun buffer _ => AudioBuffer.clear_eq_iff.symm

/-- A route that does not wait is not left as it is. -/
theorem play_moves (pointed : state.output = some output)
    (framed : audioBufferListFrames output = some frames) (anyFrame : 0 < frames)
    (wellFormed : ∀ route ∈ state.context.incoming, route.WellFormed)
    (ready : ∃ route ∈ state.context.incoming, ¬ route.Waits) :
    (play state).2.context.incoming ≠ state.context.incoming := by
  -- The routes before the first one that does not wait pass their turns.
  have exists_ready : ∃ number, ∃ within : number < state.context.incoming.length,
      ¬ state.context.incoming[number].Waits := by
    obtain ⟨route, member, moves⟩ := ready
    obtain ⟨number, within, rfl⟩ := List.getElem_of_mem member
    exact ⟨number, within, moves⟩
  classical
  obtain ⟨within, moves⟩ := Nat.find_spec exists_ready
  have earlier : ∀ number < Nat.find exists_ready,
      ∀ inside : number < state.context.incoming.length,
        state.context.incoming[number].Waits := by
    intro number before inside
    by_contra moving
    exact Nat.find_min exists_ready before ⟨inside, moving⟩
  have anyRoute : state.context.incoming ≠ [] :=
    List.ne_nil_of_length_pos (Nat.zero_lt_of_lt within)
  have reached : MovedAt (Nat.find exists_ready) state.context.incoming[Nat.find exists_ready]
      (play state).2 := by
    rw [play_apply anyRoute pointed framed]
    refine @forM_range_reaches CallbackState CallbackExit _
      (fun reached => reached.context.incoming = state.context.incoming) _ _ _ within ?_ ?_
      (fun number => Preserves.forM fun frame _ => preserves_playFrame number frame) _ rfl
    · intro number before reached same
      have inside : number < state.context.incoming.length := before.trans within
      exact ⟨reached, playFrames_of_waits (by rw [same, List.getElem?_eq_getElem inside])
        (earlier number before inside), same⟩
    · intro reached same
      refine @forM_range_reaches CallbackState CallbackExit _
        (fun reached => reached.context.incoming = state.context.incoming) _ _ 0 anyFrame nofun ?_
        (preserves_playFrame _) _ same
      intro reached same
      have found : reached.context.incoming[Nat.find exists_ready]? =
          some state.context.incoming[Nat.find exists_ready] := by
        rw [same, List.getElem?_eq_getElem within]
      exact movedAt_playFrame found (wellFormed _ (List.getElem_mem within)) moves 0
  intro same
  obtain ⟨later, found, -, moved⟩ := reached
  rw [same, List.getElem?_eq_getElem within] at found
  exact moved.ne (Option.some.inj found).symm

/-- Without frames, or while all routes wait, playing only clears the output. -/
theorem play_clears (anyRoute : state.context.incoming ≠ []) (pointed : state.output = some output)
    (framed : audioBufferListFrames output = some frames)
    (idle : frames = 0 ∨ ∀ route ∈ state.context.incoming, route.Waits) :
    play state = (.ok (), { state with output := some (clearAudioBufferList output) }) := by
  rw [play_apply anyRoute pointed framed]
  obtain ⟨reached, looped, rfl⟩ := @forM_range_ok CallbackState CallbackExit
    (fun number => (List.range frames).forM (playFrame number))
    (fun _ reached => { state with output := some (clearAudioBufferList output) } = reached)
    state.context.incoming.length { state with output := some (clearAudioBufferList output) } rfl (by
      rintro number within _ rfl
      refine ⟨_, ?_, rfl⟩
      rcases idle with rfl | waits
      · rfl
      · exact playFrames_of_waits (List.getElem?_eq_getElem within)
          (waits _ (List.getElem_mem within)))
  exact looped

/-- There is nothing to play into, or nothing to play and nothing to clear. -/
def PlaysNothing (state : CallbackState) : Prop :=
  state.context.incoming = [] ∨ state.output = none ∨
    ∃ output, state.output = some output ∧ Silent output ∧
      (audioBufferListFrames output = some 0 ∨ ∀ route ∈ state.context.incoming, route.Waits)

/-- The second half of the callback leaves the routes and the output alone only if
it plays nothing. -/
theorem samePlaying_play_iff (wellFormed : ∀ route ∈ state.context.incoming, route.WellFormed)
    (framed : ∀ list, state.output = some list → (audioBufferListFrames list).isSome = true) :
    SamePlaying (play state).2 state ↔ PlaysNothing state := by
  by_cases none : state.context.incoming = []
  · rw [play_of_no_route none]
    exact iff_of_true ⟨rfl, rfl⟩ (Or.inl none)
  cases pointed : state.output with
  | none =>
      have untouched : play state = (.ok (), state) := by
        rw [play]
        refine Eq.trans (inspect_bind_apply rfl) (Eq.trans (inspect_bind_apply rfl) ?_)
        rw [pointed]
        rfl
      rw [untouched]
      exact iff_of_true ⟨rfl, rfl⟩ (Or.inr (Or.inl pointed))
  | some output =>
      obtain ⟨frames, counted⟩ := Option.isSome_iff_exists.mp (framed output pointed)
      constructor
      · intro same
        have idle : frames = 0 ∨ ∀ route ∈ state.context.incoming, route.Waits := by
          by_contra! busy
          obtain ⟨anyFrame, ready⟩ := busy
          exact play_moves pointed counted (Nat.pos_of_ne_zero anyFrame) wellFormed ready same.1
        have cleared := same.2
        rw [play_clears none pointed counted idle, pointed] at cleared
        refine Or.inr (Or.inr ⟨output, pointed, silent_iff.mpr (Option.some.inj cleared), ?_⟩)
        exact idle.imp_left fun zero => by rw [counted, zero]
      · rintro (impossible | impossible | ⟨other, otherPointed, silent, idle⟩)
        · exact absurd impossible none
        · rw [pointed] at impossible
          cases impossible
        obtain rfl : output = other := Option.some.inj (pointed.symm.trans otherPointed)
        rw [play_clears none pointed counted (idle.imp_left fun zero =>
          Option.some.inj (counted.symm.trans zero))]
        exact ⟨rfl, by rw [pointed, silent_iff.mp silent]⟩

end Changes

/-! ## What recording changes -/

/-- No incoming route of the device reads a ring of its own outgoing routes. -/
def Unfed (context : DeviceIoContext) : Prop :=
  ∀ route ∈ context.outgoing, ∃ queue, route.reader = .elsewhere queue

/-- The input ends the callback: its layout is not valid, or a ring with room for a
frame belongs to a route with more channels than the input has. -/
def CaptureRejects (context : DeviceIoContext) (input : Option (AudioBufferList ℚ)) : Prop :=
  context.outgoing ≠ [] ∧ ∃ list, input = some list ∧
    (audioBufferListFrames list = none ∨
      ∃ frames, audioBufferListFrames list = some frames ∧ 0 < frames ∧
        ∃ route ∈ context.outgoing, channelCount list.buffers < route.channels ∧
          route.channels ≤ context.available route)

/-- A route of the context before, with less room in its ring. -/
def OutgoingRoute.Follows (context : DeviceIoContext) (route earlier : OutgoingRoute) : Prop :=
  earlier.channels = route.channels ∧ ∃ queue, route.reader = .elsewhere queue ∧
    route.capacity - queue.length ≤ context.available earlier

/-- Recording fills the rings of the outgoing routes, and nothing else. -/
structure Recorded (before state : CallbackState) : Prop where
  playing : SamePlaying state before
  length_eq : state.context.outgoing.length = before.context.outgoing.length
  outgoing : ∀ (number : Nat) (route : OutgoingRoute),
    state.context.outgoing[number]? = some route →
      ∃ earlier, before.context.outgoing[number]? = some earlier ∧
        route.Follows before.context earlier

namespace Recorded

open Callback

variable {before state : CallbackState} {input : AudioBufferList ℚ} {frames : Nat}

theorem self (unfed : Unfed before.context) : Recorded before before where
  playing := ⟨rfl, rfl⟩
  length_eq := rfl
  outgoing number route found := by
    obtain ⟨queue, reader⟩ := unfed route (List.mem_of_getElem? found)
    refine ⟨route, found, rfl, queue, reader, ?_⟩
    rw [DeviceIoContext.available, reader]
    exact le_rfl

theorem push (recorded : Recorded before state) (number : Nat) (sample : ℚ) :
    Recorded before { state with context := state.context.push number sample } := by
  have unchanged : Recorded before { state with context := state.context } := recorded
  unfold DeviceIoContext.push
  split
  · exact unchanged
  rename_i route found
  split
  · exact unchanged
  obtain ⟨earlier, earlierFound, channels, queue, reader, room⟩ :=
    recorded.outgoing number route found
  rw [reader]
  refine ⟨recorded.playing, (List.length_set ..).trans recorded.length_eq, ?_⟩
  intro other current currentFound
  by_cases same : number = other
  · obtain rfl := same
    rw [List.getElem?_set_self (List.getElem?_eq_some_iff.mp found).1] at currentFound
    obtain rfl := Option.some.inj currentFound
    refine ⟨earlier, earlierFound, channels, queue ++ [sample], rfl, ?_⟩
    rw [List.length_append]
    exact (Nat.sub_le_sub_left (Nat.le_add_right _ _) _).trans room
  · rw [List.getElem?_set_ne same] at currentFound
    exact recorded.outgoing other current currentFound

theorem meets_captureRoute (framed : audioBufferListFrames input = some frames) {frame : Nat}
    (within : frame < frames) {number : Nat} (present : number < before.context.outgoing.length) :
    Meets (Recorded before) (fun _ => True) (fun _ => CaptureRejects before.context (some input))
      (captureRoute input frame number) := by
  have looks : Meets (Recorded before)
      (fun route => ∃ earlier ∈ before.context.outgoing, route.Follows before.context earlier)
      (fun _ => CaptureRejects before.context (some input)) (outgoingRoute number) := by
    refine meets_inspect fun state recorded => ?_
    have inside : number < state.context.outgoing.length := recorded.length_eq.symm ▸ present
    have found := List.getElem?_eq_getElem inside
    obtain ⟨earlier, earlierFound, follows⟩ := recorded.outgoing number _ found
    rw [found]
    exact ⟨earlier, List.mem_of_getElem? earlierFound, follows⟩
  refine looks.bind fun route ⟨earlier, member, channels, queue, reader, room⟩ => ?_
  have measures : Meets (Recorded before) (fun available =>
        available ≤ before.context.available earlier)
      (fun _ : CallbackExit => CaptureRejects before.context (some input))
      (inspect fun state => .ok (state.context.available route)) := by
    refine meets_inspect fun state _ => ?_
    change state.context.available route ≤ _
    rw [DeviceIoContext.available, reader]
    exact room
  refine measures.bind fun available less => ?_
  split_ifs with full
  · exact fun state recorded =>
      ⟨⟨recorded.playing, recorded.length_eq, recorded.outgoing⟩, trivial⟩
  · refine Meets.forM fun channel channelMem => ?_
    have channelWithin := List.mem_range.mp channelMem
    unfold captureSample
    cases read : readAudioSample input frame channel with
    | some sample => exact fun state recorded => ⟨recorded.push number sample, trivial⟩
    | none =>
        have missing : ¬ channel < channelCount input.buffers := fun there => by
          have readable := (isSome_readAudioSample framed within).mpr there
          rw [read] at readable
          cases readable
        refine Meets.before (fun state recorded =>
          ⟨⟨recorded.playing, recorded.length_eq, recorded.outgoing⟩, trivial⟩) fun _ =>
          meets_fail ⟨List.ne_nil_of_mem member, input, rfl, Or.inr ⟨frames, framed,
            Nat.zero_lt_of_lt within, earlier, member, ?_, ?_⟩⟩
        · omega
        · omega

/-- Recording leaves what is played, and fails only on an input that it rejects. -/
theorem meets_capture {input : Option (AudioBufferList ℚ)} :
    Meets (Recorded before) (fun _ => True) (fun _ => CaptureRejects before.context input)
      (capture input) := by
  unfold capture
  have counts : Meets (Recorded before) (fun count => count = before.context.outgoing.length)
      (fun _ : CallbackExit => CaptureRejects before.context input)
      (inspect fun state => .ok state.context.outgoing.length) :=
    meets_inspect fun state recorded => recorded.length_eq
  refine counts.bind ?_
  rintro _ rfl
  cases input with
  | none => exact meets_pure trivial
  | some input =>
      dsimp only
      split_ifs with empty
      · exact meets_pure trivial
      cases framed : audioBufferListFrames input with
      | none =>
          refine Meets.before (fun state recorded =>
            ⟨⟨recorded.playing, recorded.length_eq, recorded.outgoing⟩, trivial⟩) fun _ =>
            meets_fail ⟨fun none => empty (by rw [none]; rfl), input, rfl, Or.inl framed⟩
      | some frames =>
          refine Meets.forM fun frame frameMem => Meets.forM fun number numberMem => ?_
          exact meets_captureRoute framed (List.mem_range.mp frameMem) (List.mem_range.mp numberMem)

end Recorded

section Rejected

open Callback

variable {input : AudioBufferList ℚ} {frames frame number : Nat} {route : OutgoingRoute}

/-- Recording into the other routes leaves a route. -/
theorem preserves_captureRoute {other : Nat} (different : other ≠ number) :
    Preserves (fun state => state.context.outgoing[number]? = some route)
      (captureRoute input frame other) := by
  refine (preserves_inspect _).bind fun current => (preserves_inspect _).bind fun available => ?_
  split_ifs
  · exact fun _ held => held
  refine Preserves.forM fun channel _ => ?_
  unfold captureSample
  split
  · rename_i sample read
    intro state held
    change (state.context.push other sample).outgoing[number]? = _
    unfold DeviceIoContext.push
    split
    · exact held
    split
    · exact held
    split
    · exact held
    · exact (List.getElem?_set_ne different).trans held
  · exact Preserves.bind (fun _ held => held) fun _ => preserves_fail _

/-- A frame of a route with too many channels ends the callback if it has room. -/
theorem captureRoute_raises {state : CallbackState}
    (framed : audioBufferListFrames input = some frames)
    (found : state.context.outgoing[number]? = some route)
    (narrow : channelCount input.buffers < route.channels)
    (roomy : route.channels ≤ state.context.available route) :
    ∃ failure, (captureRoute input frame number state).1 = .error failure := by
  have looked : okOr CallbackExit.panicked state.context.outgoing[number]? = .ok route := by
    rw [found]
    rfl
  have looks : captureRoute input frame number state =
      (List.range route.channels).forM (captureSample input frame number) state := by
    rw [captureRoute]
    refine Eq.trans (inspect_bind_apply looked) (Eq.trans (inspect_bind_apply rfl) ?_)
    rw [if_neg (not_lt.mpr roomy)]
  rw [looks]
  refine @forM_raises CallbackState CallbackExit Nat _ (fun _ => True) _ _
    (List.mem_range.mpr narrow) (fun _ _ _ _ => trivial) (fun reached _ => ?_) _ trivial
  have missing : readAudioSample input frame (channelCount input.buffers) = none :=
    readAudioSample_past framed (Or.inr le_rfl)
  rw [captureSample, missing]
  exact ⟨.returned, rfl⟩

/-- An input that is rejected ends the callback. -/
theorem capture_raises {before : CallbackState} {input : Option (AudioBufferList ℚ)}
    (unfed : Unfed before.context) (rejects : CaptureRejects before.context input) :
    ∃ failure, (capture input before).1 = .error failure := by
  obtain ⟨nonempty, list, rfl, refused⟩ := rejects
  have count : ¬ before.context.outgoing.length = 0 := fun empty =>
    nonempty (List.length_eq_zero_iff.mp empty)
  have records : capture (some list) before =
      (audioBufferListFrames list).elim formatError (fun frames =>
        (List.range frames).forM fun frame =>
          (List.range before.context.outgoing.length).forM (captureRoute list frame)) before := by
    rw [capture]
    refine Eq.trans (inspect_bind_apply rfl) (Eq.trans (congrFun (if_neg count) before) ?_)
    cases audioBufferListFrames list <;> rfl
  rw [records]
  rcases refused with malformed | ⟨frames, framed, anyFrame, route, member, narrow, roomy⟩
  · rw [malformed]
    exact ⟨.returned, rfl⟩
  obtain ⟨number, within, rfl⟩ := List.getElem_of_mem member
  obtain ⟨queue, reader⟩ := unfed _ member
  have first : ∃ failure, ((List.range before.context.outgoing.length).forM
      (captureRoute list 0) before).1 = .error failure := by
    refine @forM_raises CallbackState CallbackExit Nat _
      (fun state => state.context.outgoing[number]? = some before.context.outgoing[number]) _ number
      (List.mem_range.mpr within) (fun other different => preserves_captureRoute different)
      (fun state found => captureRoute_raises framed found narrow ?_) before
      (List.getElem?_eq_getElem within)
    rw [DeviceIoContext.available, reader] at roomy ⊢
    exact roomy
  obtain ⟨more, rfl⟩ := Nat.exists_eq_add_of_lt anyFrame
  rw [framed, Option.elim_some, Nat.zero_add, List.range_succ_eq_map]
  cases taken : (List.range before.context.outgoing.length).forM (captureRoute list 0) before with
  | mk result reached =>
      obtain ⟨failure, failed⟩ := first
      rw [taken] at failed
      obtain rfl : result = .error failure := failed
      exact ⟨failure, congrArg Prod.fst (bind_apply_error taken)⟩

end Rejected

/-! ## Both halves -/

/-- A call leaves what the second half alone leaves, unless the input is rejected. -/
theorem samePlaying_audioDeviceIoProc {before : CallbackState} (unfed : Unfed before.context)
    (input : Option (AudioBufferList ℚ)) :
    (CaptureRejects before.context input →
        SamePlaying (audioDeviceIoProc input before).2 before) ∧
      (¬ CaptureRejects before.context input →
        SamePlaying (audioDeviceIoProc input before).2 (Callback.play before).2) := by
  obtain ⟨recorded, yields⟩ := @Recorded.meets_capture before input before (Recorded.self unfed)
  cases taken : Callback.capture input before with
  | mk result reached =>
      rw [taken] at recorded yields
      cases result with
      | ok done =>
          refine ⟨fun rejects => ?_, fun _ => ?_⟩
          · obtain ⟨failure, failed⟩ := capture_raises unfed rejects
            rw [taken] at failed
            cases failed
          · rw [audioDeviceIoProc, bind_apply_ok taken]
            exact (Callback.respects_play reached before recorded.playing).2
      | error failure =>
          refine ⟨fun _ => ?_, fun passes => absurd yields passes⟩
          rw [audioDeviceIoProc, bind_apply_error taken]
          exact recorded.playing

theorem SamePlaying.symm {first second : CallbackState} (same : SamePlaying first second) :
    SamePlaying second first :=
  ⟨same.1.symm, same.2.symm⟩

theorem SamePlaying.trans {first second third : CallbackState} (one : SamePlaying first second)
    (other : SamePlaying second third) : SamePlaying first third :=
  ⟨one.1.trans other.1, one.2.trans other.2⟩

/-- Two inputs leave the same routes and the same output exactly if both or none of
them end the callback while recording, or there is nothing to play. -/
theorem playing_independent_of_recording {before : CallbackState}
    (wellFormed : ∀ route ∈ before.context.incoming, route.WellFormed)
    (unfed : Unfed before.context)
    (framed : ∀ list, before.output = some list → (audioBufferListFrames list).isSome = true)
    (first second : Option (AudioBufferList ℚ)) :
    SamePlaying (audioDeviceIoProc first before).2 (audioDeviceIoProc second before).2 ↔
      (CaptureRejects before.context first ↔ CaptureRejects before.context second) ∨
        PlaysNothing before := by
  have idle := samePlaying_play_iff wellFormed framed
  obtain ⟨firstStops, firstPlays⟩ := samePlaying_audioDeviceIoProc unfed first
  obtain ⟨secondStops, secondPlays⟩ := samePlaying_audioDeviceIoProc unfed second
  by_cases one : CaptureRejects before.context first <;>
    by_cases other : CaptureRejects before.context second
  · exact iff_of_true ((firstStops one).trans (secondStops other).symm)
      (Or.inl (iff_of_true one other))
  · rw [or_iff_right fun same => other (same.mp one), ← idle]
    exact ⟨fun same => (secondPlays other).symm.trans (same.symm.trans (firstStops one)),
      fun same => (firstStops one).trans (same.symm.trans (secondPlays other).symm)⟩
  · rw [or_iff_right fun same => one (same.mpr other), ← idle]
    exact ⟨fun same => (firstPlays one).symm.trans (same.trans (secondStops other)),
      fun same => (firstPlays one).trans (same.trans (secondStops other).symm)⟩
  · exact iff_of_true ((firstPlays one).trans (secondPlays other).symm)
      (Or.inl (iff_of_false one other))

/-- One mono frame. -/
def monoInput : AudioBufferList ℚ where
  buffers :=
    [{ numberChannels := 1, dataByteSize := 4, data := some [1],
       sized := fun _ same => Option.some.inj same ▸ rfl }]
  counted := by decide

/-- A frame of two channels. -/
def stereoInput : AudioBufferList ℚ where
  buffers :=
    [{ numberChannels := 2, dataByteSize := 8, data := some [1, 2],
       sized := fun _ same => Option.some.inj same ▸ rfl }]
  counted := by decide

/-- A device that records two channels and plays one. -/
def stereoRecorder : CallbackState where
  context :=
    { outgoing := [{ capacity := 32768, reader := .elsewhere [], channels := 2 }]
      incoming := [halfwayRoute]
      metrics := ⟨0, 0, 0⟩ }
  output := some staleOutput

theorem stereoRecorder_unfed : Unfed stereoRecorder.context :=
  List.forall_mem_singleton.mpr ⟨[], rfl⟩

theorem stereoRecorder_framed (list : AudioBufferList ℚ)
    (pointed : stereoRecorder.output = some list) : (audioBufferListFrames list).isSome = true := by
  obtain rfl := Option.some.inj pointed
  decide

theorem not_rejects_none (context : DeviceIoContext) : ¬ CaptureRejects context none :=
  fun ⟨_, _, impossible, _⟩ => nomatch impossible

theorem not_rejects_stereoInput : ¬ CaptureRejects stereoRecorder.context (some stereoInput) := by
  rintro ⟨-, list, same, malformed | ⟨frames, -, -, route, member, narrow, -⟩⟩
  · obtain rfl := Option.some.inj same
    revert malformed
    decide
  · obtain rfl := Option.some.inj same
    obtain rfl := List.mem_singleton.mp member
    revert narrow
    decide

/-- The device plays the same when it records a stereo frame and when it records nothing. -/
theorem stereoRecorder_plays_alike :
    SamePlaying (audioDeviceIoProc none stereoRecorder).2
      (audioDeviceIoProc (some stereoInput) stereoRecorder).2 :=
  (playing_independent_of_recording (List.forall_mem_singleton.mpr halfwayRoute_wellFormed)
    stereoRecorder_unfed stereoRecorder_framed none (some stereoInput)).mpr
      (Or.inl (iff_of_false (not_rejects_none _) not_rejects_stereoInput))

/-- A mono input keeps the device from playing. -/
theorem stereoRecorder_silenced :
    (∀ route ∈ stereoRecorder.context.incoming, route.WellFormed) ∧ Unfed stereoRecorder.context ∧
      audioBufferListFrames staleOutput = some 1 ∧
      ¬ SamePlaying (audioDeviceIoProc (some monoInput) stereoRecorder).2
        (audioDeviceIoProc none stereoRecorder).2 := by
  refine ⟨List.forall_mem_singleton.mpr halfwayRoute_wellFormed, stereoRecorder_unfed, by decide,
    fun same => ?_⟩
  have rejects : CaptureRejects stereoRecorder.context (some monoInput) :=
    ⟨List.cons_ne_nil _ _, monoInput, rfl, Or.inr ⟨1, by decide, Nat.one_pos, _,
      List.mem_singleton_self _, by decide, by decide⟩⟩
  have stopped := (samePlaying_audioDeviceIoProc stereoRecorder_unfed (some monoInput)).1 rejects
  have played := (samePlaying_audioDeviceIoProc stereoRecorder_unfed none).2 (not_rejects_none _)
  rcases (samePlaying_play_iff (List.forall_mem_singleton.mpr halfwayRoute_wellFormed)
    stereoRecorder_framed).mp (played.symm.trans (same.symm.trans stopped)) with
      impossible | impossible | ⟨list, pointed, silent, -⟩
  · cases impossible
  · cases impossible
  · obtain rfl := Option.some.inj pointed
    have zero : (7 : ℚ) = 0 := silent _ (List.mem_singleton_self _) [7] rfl 7
      (List.mem_singleton_self _)
    norm_num at zero

end VCable
