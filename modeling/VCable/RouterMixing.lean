import VCable.ChannelMixing
import VCable.RouterCallback
import VCable.RouterPreparation

/-!
# The mix of the router

After a callback that plays, the output is what `mix_interleaved` makes of
zeros with the frames that the incoming routes have prepared, in any order.
-/

namespace VCable

open FallibleState IncomingRoute RowMajor

/-- A frame that was prepared, and the route after it, with the interpolated
samples. -/
structure PreparedFrame where
  frame : Nat
  route : IncomingRoute ℚ

namespace PlayingRoute

/-- The route after so many calls of `prepare_output_frame`. -/
def calls (playing : PlayingRoute) (count : Nat) : PlayingRoute :=
  (fun playing => playing.prepareOutputFrame.2)^[count] playing

/-- The frame of the next call, if it returns true. -/
def preparedFrame (playing : PlayingRoute) (frame : Nat) : Option PreparedFrame :=
  match playing.prepareOutputFrame with
  | (true, playing) => some { frame := frame, route := playing.route }
  | (false, _) => none

/-- The frames that calls for so many frames prepare. -/
def preparedFrames (playing : PlayingRoute) (frames : Nat) : List PreparedFrame :=
  (List.range frames).filterMap fun frame => (playing.calls frame).preparedFrame frame

end PlayingRoute

namespace PlayingRoute

theorem calls_succ (playing : PlayingRoute) (count : Nat) :
    playing.calls (count + 1) = (playing.calls count).prepareOutputFrame.2 :=
  Function.iterate_succ_apply' _ _ _

theorem calls_progress {playing : PlayingRoute} (wellFormed : playing.route.WellFormed)
    (count : Nat) : playing.route.Progress (playing.calls count).route := by
  induction count with
  | zero => exact wellFormed.progress_self
  | succ count ih =>
      rw [calls_succ]
      exact ih.trans (prepareOutputFrame_progress ih.wellFormed).1

theorem calls_metrics (route : IncomingRoute ℚ) (metrics other : RouterMetrics) (count : Nat) :
    (calls ⟨route, metrics⟩ count).route = (calls ⟨route, other⟩ count).route := by
  induction count with
  | zero => rfl
  | succ count ih =>
      rw [calls_succ, calls_succ]
      have same := (prepareOutputFrame_metrics (calls ⟨route, metrics⟩ count).route
        (calls ⟨route, metrics⟩ count).metrics (calls ⟨route, other⟩ count).metrics).2
      rw [ih] at same
      rw [← same, ← ih]

theorem preparedFrame_metrics (route : IncomingRoute ℚ) (metrics other : RouterMetrics)
    (frame : Nat) :
    preparedFrame ⟨route, metrics⟩ frame = preparedFrame ⟨route, other⟩ frame := by
  obtain ⟨returns, routes⟩ := prepareOutputFrame_metrics route metrics other
  unfold preparedFrame
  cases one : prepareOutputFrame ⟨route, metrics⟩ with
  | mk returned playing =>
      cases two : prepareOutputFrame ⟨route, other⟩ with
      | mk otherReturned otherPlaying =>
          rw [one, two] at returns routes
          obtain rfl : returned = otherReturned := returns
          have equal : playing.route = otherPlaying.route := routes
          cases returned
          · rfl
          · dsimp only
            rw [equal]

theorem preparedFrames_metrics (route : IncomingRoute ℚ) (metrics other : RouterMetrics)
    (frames : Nat) :
    preparedFrames ⟨route, metrics⟩ frames = preparedFrames ⟨route, other⟩ frames := by
  refine List.filterMap_congr fun frame _ => ?_
  have same := preparedFrame_metrics (calls ⟨route, metrics⟩ frame).route
    (calls ⟨route, metrics⟩ frame).metrics (calls ⟨route, other⟩ frame).metrics frame
  rw [calls_metrics route metrics other] at same
  rw [← same, ← calls_metrics route metrics other]

theorem preparedFrames_succ (playing : PlayingRoute) (frames : Nat) :
    playing.preparedFrames (frames + 1) =
      playing.preparedFrames frames ++ ((playing.calls frames).preparedFrame frames).toList := by
  rw [preparedFrames, List.range_succ, List.filterMap_append, ← preparedFrames]
  cases found : (playing.calls frames).preparedFrame frames with
  | none => simp [found]
  | some prepared => simp [found]

end PlayingRoute

namespace PreparedFrame

/-- Mix the frame into its place in a buffer, with the matrix and the gain of the
route.  The channels after those of the sink stay. -/
def mixInto (channels : Nat) (output : List ℚ) (prepared : PreparedFrame) : Option (List ℚ) :=
  let route := prepared.route
  let start := prepared.frame * channels
  match ChannelMatrix.new route.sinkChannels route.sourceChannels route.matrix with
  | .error _ => none
  | .ok matrix =>
      match matrix.mixInterleaved 1 route.interpolated
        ((output.drop start).take route.sinkChannels) route.gain with
      | some (.ok (), mixed) =>
          some (output.take start ++ mixed ++ (output.drop start).drop route.sinkChannels)
      | _ => none

/-- What a prepared frame adds to a channel of a frame. -/
def share (prepared : PreparedFrame) (frame channel : Nat) : ℚ :=
  if frame = prepared.frame ∧ channel < prepared.route.sinkChannels then
    (prepared.route.mixedSample channel).getD 0
  else 0

/-- A frame of a route that the router accepts, for an output with enough channels. -/
structure Sound (prepared : PreparedFrame) (frames channels : Nat) : Prop where
  wellFormed : prepared.route.WellFormed
  length_interpolated : prepared.route.interpolated.length = prepared.route.sourceChannels
  frame_lt : prepared.frame < frames
  sinkChannels_le : prepared.route.sinkChannels ≤ channels

end PreparedFrame

theorem sound_of_mem_preparedFrames {route : IncomingRoute ℚ} {metrics : RouterMetrics}
    {frames channels : Nat} (wellFormed : route.WellFormed)
    (narrow : route.sinkChannels ≤ channels) {prepared : PreparedFrame}
    (member : prepared ∈ PlayingRoute.preparedFrames ⟨route, metrics⟩ frames) :
    prepared.Sound frames channels := by
  obtain ⟨frame, frameMem, found⟩ := List.mem_filterMap.mp member
  have progress := @PlayingRoute.calls_progress ⟨route, metrics⟩ wellFormed frame
  obtain ⟨after, interpolated⟩ := PlayingRoute.prepareOutputFrame_progress progress.wellFormed
  rw [PlayingRoute.preparedFrame] at found
  cases prepares : (PlayingRoute.calls ⟨route, metrics⟩ frame).prepareOutputFrame with
  | mk returned playing =>
      rw [prepares] at found after interpolated
      cases returned
      · cases found
      cases found
      exact
        { wellFormed := after.wellFormed
          length_interpolated :=
            (interpolated rfl).trans after.settings.sourceChannels_eq.symm
          frame_lt := List.mem_range.mp frameMem
          sinkChannels_le := by
            change playing.route.sinkChannels ≤ channels
            rw [after.settings.sinkChannels_eq, progress.settings.sinkChannels_eq]
            exact narrow }

/-! ## The reference -/

theorem exists_matrix {route : IncomingRoute ℚ} (wellFormed : route.WellFormed) :
    ∃ matrix, ChannelMatrix.new route.sinkChannels route.sourceChannels route.matrix = .ok matrix ∧
      matrix.outputChannels = route.sinkChannels ∧ matrix.inputChannels = route.sourceChannels ∧
      matrix.coefficients = route.matrix := by
  have nonzero : ¬ (route.sinkChannels = 0 ∨ route.sourceChannels = 0) := by
    have sinks := wellFormed.sinkChannels_pos
    have sources := wellFormed.sourceChannels_pos
    omega
  have small : route.sinkChannels * route.sourceChannels < usizeBound :=
    calc route.sinkChannels * route.sourceChannels
        < 2 ^ 32 * 2 ^ 32 := Nat.mul_lt_mul'' wellFormed.sinkChannels_small
          wellFormed.sourceChannels_small
      _ = usizeBound := rfl
  have finite : route.matrix.findIdx? (fun value => !SinglePrecision.isFinite value) = none :=
    List.findIdx?_eq_none_iff.mpr fun _ _ => rfl
  suffices built : ∃ matrix,
      ChannelMatrix.new route.sinkChannels route.sourceChannels route.matrix = .ok matrix by
    obtain ⟨matrix, built⟩ := built
    exact ⟨matrix, built, ChannelMatrix.new_dimensions built⟩
  rw [ChannelMatrix.new, dif_neg nonzero, checkedMul, if_pos small]
  dsimp only
  rw [dif_pos wellFormed.length_matrix]
  split
  · rename_i found
    rw [finite] at found
    cases found
  · exact ⟨_, rfl⟩

/-- The mix of a channel is the one of the route's matrix. -/
theorem mixedSample_eq {route : IncomingRoute ℚ} {matrix : ChannelMatrix ℚ} {channel : Nat}
    (outputChannels : matrix.outputChannels = route.sinkChannels)
    (inputChannels : matrix.inputChannels = route.sourceChannels)
    (coefficients : matrix.coefficients = route.matrix)
    (interpolated : route.interpolated.length = route.sourceChannels)
    (within : channel < route.sinkChannels) :
    route.mixedSample channel =
      some (route.gain * matrix.mixed route.interpolated 0 channel) := by
  have row : route.row channel = matrix.row channel := by
    rw [row, ChannelMatrix.row, inputChannels, coefficients]
  have whole : ((route.interpolated.drop (0 * matrix.inputChannels)).take matrix.inputChannels) =
      route.interpolated := by
    rw [Nat.zero_mul, List.drop_zero, inputChannels, ← interpolated, List.take_length]
  have product := @ChannelMatrix.dot_row matrix 1 route.interpolated 0 channel
    (outputChannels ▸ within) (by rw [interpolated, inputChannels, Nat.one_mul]) Nat.one_pos
  rw [whole] at product
  rw [mixedSample, row, ChannelMatrix.row_eq (outputChannels ▸ within), Option.map_some,
    ← product, mul_comm]
  simp [dot]

namespace PreparedFrame

/-- The reference mix of a prepared frame adds its share. -/
theorem mixInto_eq {prepared : PreparedFrame} {frames channels : Nat} {output : List ℚ}
    (sound : prepared.Sound frames channels) (length : output.length = frames * channels) :
    prepared.mixInto channels output = some (output.mapIdx fun place sample =>
      sample + prepared.share (place / channels) (place % channels)) := by
  obtain ⟨matrix, built, outputChannels, inputChannels, coefficients⟩ :=
    exists_matrix sound.wellFormed
  have sinks := sound.wellFormed.sinkChannels_pos
  have narrow := sound.sinkChannels_le
  have next : (prepared.frame + 1) * channels ≤ frames * channels :=
    Nat.mul_le_mul_right channels sound.frame_lt
  rw [Nat.succ_mul] at next
  have within : prepared.frame * channels + prepared.route.sinkChannels ≤ output.length := by
    omega
  have fits : matrix.Fits 1 prepared.route.interpolated
      ((output.drop (prepared.frame * channels)).take prepared.route.sinkChannels) := by
    have sinkSmall := sound.wellFormed.sinkChannels_small
    have sourceSmall := sound.wellFormed.sourceChannels_small
    have bound : usizeBound = 18446744073709551616 := rfl
    refine ⟨by omega, by omega, ?_, ?_⟩
    · rw [sound.length_interpolated, inputChannels, Nat.one_mul]
    · rw [List.length_take, List.length_drop, outputChannels]
      omega
  rw [mixInto, built]
  dsimp only
  rw [ChannelMatrix.mixInterleaved_of_fits fits]
  dsimp only
  rw [append_mapIdx_slice within]
  refine congrArg some (congrArg (List.mapIdx · output) ?_)
  funext place sample
  rw [if_congr (place_mem_slice (sinks.trans_le narrow) narrow) rfl rfl, share]
  by_cases own : place / channels = prepared.frame ∧ place % channels < prepared.route.sinkChannels
  · have parts := Nat.div_add_mod' place channels
    rw [own.1] at parts
    rw [if_pos own, if_pos own, mixedSample_eq outputChannels inputChannels coefficients
      sound.length_interpolated own.2, Option.getD_some,
      show place - prepared.frame * channels = place % channels by omega, outputChannels,
      Nat.div_eq_of_lt own.2, Nat.mod_eq_of_lt own.2]
  · rw [if_neg own, if_neg own, add_zero]

/-- What frames add together. -/
def shares (preparedFrames : List PreparedFrame) (frame channel : Nat) : ℚ :=
  (preparedFrames.map fun prepared => prepared.share frame channel).sum

theorem shares_append (first second : List PreparedFrame) (frame channel : Nat) :
    shares (first ++ second) frame channel =
      shares first frame channel + shares second frame channel := by
  rw [shares, List.map_append, List.sum_append, shares, shares]

/-- The reference mixes of frames, in any order, add their shares to zeros. -/
theorem foldlM_mixInto {preparedFrames order : List PreparedFrame} {frames channels : Nat}
    (sound : ∀ prepared ∈ preparedFrames, prepared.Sound frames channels)
    (reordered : order.Perm preparedFrames) :
    ∃ mixed, order.foldlM (mixInto channels) (List.replicate (frames * channels) 0) = some mixed ∧
      ∀ frame < frames, ∀ channel < channels, mixed[frame * channels + channel]? =
        some (shares preparedFrames frame channel) := by
  have folded := @foldlM_mapIdx_add ℚ _ PreparedFrame (mixInto channels)
    (fun prepared place => prepared.share (place / channels) (place % channels)) order
    (frames * channels)
    (fun prepared member _ length => mixInto_eq (sound prepared (reordered.mem_iff.mp member)) length)
    (List.replicate (frames * channels) 0) List.length_replicate
  refine ⟨_, folded, ?_⟩
  intro frame frameWithin channel channelWithin
  rw [List.getElem?_mapIdx, List.getElem?_replicate_of_lt (place_lt frameWithin channelWithin),
    Option.map_some, zero_add, place_div channelWithin, place_mod channelWithin,
    (reordered.map _).sum_eq, shares]

end PreparedFrame

/-! ## Playing -/

section Playing

open Callback

variable {state : CallbackState} {number frames frame channel : Nat} {route : IncomingRoute ℚ}
  {output : AudioBufferList ℚ}

theorem incomingRoute_bind_apply {α : Type} {next : IncomingRoute ℚ → Callback α}
    (found : state.context.incoming[number]? = some route) :
    (incomingRoute number >>= next) state = next route state :=
  inspect_bind_apply (by rw [found]; rfl)

theorem playSample_adds (found : state.context.incoming[number]? = some route)
    (pointed : state.output = some output) (framed : audioBufferListFrames output = some frames)
    (frameWithin : frame < frames) (channelWithin : channel < channelCount output.buffers)
    {value : ℚ} (mixes : route.mixedSample channel = some value) :
    ∃ after, playSample number frame channel state =
        (.ok (), { state with output := some after }) ∧
      Adds frames output after fun other another =>
        if other = frame ∧ another = channel then value else 0 := by
  obtain ⟨after, added, adds⟩ := adds_addAudioSample framed frameWithin channelWithin value
  refine ⟨after, ?_, adds⟩
  have mixed : okOr CallbackExit.panicked (route.mixedSample channel) = .ok value := by
    rw [mixes]
    rfl
  have adding : okOr CallbackExit.undefined
      (state.output.bind (addAudioSample · frame channel value)) = .ok (true, after) := by
    rw [pointed, Option.bind_some, added]
    rfl
  rw [playSample, incomingRoute_bind_apply found]
  refine Eq.trans (inspect_bind_apply mixed) (Eq.trans (inspect_bind_apply adding) ?_)
  rfl

/-- The loop over the channels of a frame adds the share of the frame. -/
theorem playSamples_adds (found : state.context.incoming[number]? = some route)
    (pointed : state.output = some output) (framed : audioBufferListFrames output = some frames)
    (sound : PreparedFrame.Sound ⟨frame, route⟩ frames (channelCount output.buffers)) :
    ∃ after, (List.range route.sinkChannels).forM (playSample number frame) state =
        (.ok (), { state with output := some after }) ∧
      Adds frames output after (PreparedFrame.share ⟨frame, route⟩) := by
  obtain ⟨reached, looped, after, rfl, adds⟩ := @forM_range_ok CallbackState CallbackExit
    (playSample number frame) (fun count reached => ∃ after,
      reached = { state with output := some after } ∧
        Adds frames output after fun other channel =>
          if other = frame ∧ channel < count then (route.mixedSample channel).getD 0 else 0)
    route.sinkChannels state ⟨output, by rw [← pointed], .nothing fun _ _ => by simp⟩ (by
      rintro channel within _ ⟨middle, rfl, adds⟩
      obtain ⟨matrix, -, outputChannels, inputChannels, coefficients⟩ :=
        exists_matrix sound.wellFormed
      have mixes := mixedSample_eq outputChannels inputChannels coefficients
        sound.length_interpolated within
      obtain ⟨after, played, more⟩ := @playSample_adds { state with output := some middle } number
        frames frame channel route middle found rfl (adds.framed framed) sound.frame_lt
        (adds.layout.channelCount_eq ▸ within.trans_le sound.sinkChannels_le) _ mixes
      refine ⟨_, played, after, rfl, (adds.trans more).congr fun other another => ?_⟩
      rcases Nat.lt_trichotomy another channel with before | rfl | later
      · simp [before, before.ne, Nat.lt_succ_of_lt before]
      · simp [mixes]
      · have beyond : ¬ another < channel + 1 := by omega
        simp [later.ne', Nat.not_lt.mpr later.le, beyond])
  exact ⟨after, looped, adds⟩

theorem playFrame_of_missing (missing : state.context.incoming[number]? = none) :
    playFrame number frame state = (.error .panicked, state) :=
  bind_apply_error (congrArg (·, state)
    (show okOr CallbackExit.panicked state.context.incoming[number]? = _ by
      rw [missing]
      rfl))

theorem playFrame_apply (found : state.context.incoming[number]? = some route) :
    playFrame number frame state =
      (if (PlayingRoute.prepareOutputFrame ⟨route, state.context.metrics⟩).1 = true then
        (List.range (PlayingRoute.prepareOutputFrame
          ⟨route, state.context.metrics⟩).2.route.sinkChannels).forM (playSample number frame)
      else pure ())
        { state with
          context := state.context.setPlaying number
            (PlayingRoute.prepareOutputFrame ⟨route, state.context.metrics⟩).2 } := by
  rw [playFrame, incomingRoute_bind_apply found]
  rfl

/-- A pass of the loop over the frames prepares the route, and adds the share of
the frame if there is one. -/
theorem playFrame_adds (found : state.context.incoming[number]? = some route)
    (pointed : state.output = some output) (framed : audioBufferListFrames output = some frames)
    (wellFormed : route.WellFormed) (within : frame < frames)
    (narrow : route.sinkChannels ≤ channelCount output.buffers) :
    ∃ after, playFrame number frame state = (.ok (),
        { context := state.context.setPlaying number
            (PlayingRoute.prepareOutputFrame ⟨route, state.context.metrics⟩).2
          output := some after }) ∧
      Adds frames output after (PreparedFrame.shares
        (PlayingRoute.preparedFrame ⟨route, state.context.metrics⟩ frame).toList) := by
  obtain ⟨progress, interpolated⟩ :=
    @PlayingRoute.prepareOutputFrame_progress ⟨route, state.context.metrics⟩ wellFormed
  rw [playFrame_apply found, PlayingRoute.preparedFrame]
  cases prepares : PlayingRoute.prepareOutputFrame ⟨route, state.context.metrics⟩ with
  | mk returned playing =>
      rw [prepares] at progress interpolated
      cases returned
      · refine ⟨output, ?_, .nothing fun _ _ => rfl⟩
        rw [← pointed]
        rfl
      · have stored : (state.context.setPlaying number playing).incoming[number]? =
            some playing.route :=
          List.getElem?_set_self (List.getElem?_eq_some_iff.mp found).1
        have sinks := progress.settings.sinkChannels_eq
        obtain ⟨after, played, adds⟩ := @playSamples_adds
          { state with context := state.context.setPlaying number playing } number frames frame
          playing.route output stored pointed framed
          ⟨progress.wellFormed, (interpolated rfl).trans progress.settings.sourceChannels_eq.symm,
            within, sinks.trans_le narrow⟩
        refine ⟨after, played, adds.congr fun _ _ => ?_⟩
        simp [PreparedFrame.shares]

/-- The loop over the frames of a route. -/
theorem playFrames_adds (found : state.context.incoming[number]? = some route)
    (pointed : state.output = some output) (framed : audioBufferListFrames output = some frames)
    (wellFormed : route.WellFormed) (narrow : route.sinkChannels ≤ channelCount output.buffers) :
    ∃ reached, (List.range frames).forM (playFrame number) state = (.ok (), reached) ∧
      reached.context.incoming = state.context.incoming.set number
        (PlayingRoute.calls ⟨route, state.context.metrics⟩ frames).route ∧
      ∃ after, reached.output = some after ∧ Adds frames output after (PreparedFrame.shares
        (PlayingRoute.preparedFrames ⟨route, state.context.metrics⟩ frames)) := by
  refine @forM_range_ok CallbackState CallbackExit (playFrame number) (fun count reached =>
    reached.context.incoming = state.context.incoming.set number
        (PlayingRoute.calls ⟨route, state.context.metrics⟩ count).route ∧
      ∃ after, reached.output = some after ∧ Adds frames output after (PreparedFrame.shares
        (PlayingRoute.preparedFrames ⟨route, state.context.metrics⟩ count))) frames state ?_ ?_
  · obtain ⟨within, same⟩ := List.getElem?_eq_some_iff.mp found
    refine ⟨?_, output, pointed, .nothing fun _ _ => rfl⟩
    rw [← same]
    exact (List.set_getElem_self within).symm
  · rintro count within reached ⟨incoming, middle, output_eq, adds⟩
    have progress := @PlayingRoute.calls_progress ⟨route, state.context.metrics⟩ wellFormed count
    have current : reached.context.incoming[number]? =
        some (PlayingRoute.calls ⟨route, state.context.metrics⟩ count).route := by
      rw [incoming]
      exact List.getElem?_set_self (List.getElem?_eq_some_iff.mp found).1
    obtain ⟨after, played, more⟩ := playFrame_adds current output_eq (adds.framed framed)
      progress.wellFormed within (by
        rw [progress.settings.sinkChannels_eq, adds.layout.channelCount_eq]
        exact narrow)
    refine ⟨_, played, ?_, after, rfl, (adds.trans more).congr fun other channel => ?_⟩
    · have routes := (PlayingRoute.prepareOutputFrame_metrics
        (PlayingRoute.calls ⟨route, state.context.metrics⟩ count).route reached.context.metrics
        (PlayingRoute.calls ⟨route, state.context.metrics⟩ count).metrics).2
      rw [PlayingRoute.calls_succ]
      change reached.context.incoming.set number _ = _
      rw [incoming, List.set_set, routes]
    · rw [PlayingRoute.preparedFrames_succ, PreparedFrame.shares_append,
        PlayingRoute.preparedFrame_metrics _ reached.context.metrics
          (PlayingRoute.calls ⟨route, state.context.metrics⟩ count).metrics]

/-- The loop over the routes. -/
theorem playRoutes_adds (pointed : state.output = some output)
    (framed : audioBufferListFrames output = some frames)
    (wellFormed : ∀ route ∈ state.context.incoming, route.WellFormed)
    (wide : ∀ route ∈ state.context.incoming, route.sinkChannels ≤ channelCount output.buffers) :
    ∃ reached, (List.range state.context.incoming.length).forM
        (fun number => (List.range frames).forM (playFrame number)) state = (.ok (), reached) ∧
      ∃ after, reached.output = some after ∧ Adds frames output after (PreparedFrame.shares
        (state.context.incoming.flatMap fun route =>
          PlayingRoute.preparedFrames ⟨route, state.context.metrics⟩ frames)) := by
  obtain ⟨reached, looped, -, after, output_eq, adds⟩ := @forM_range_ok CallbackState CallbackExit
    (fun number => (List.range frames).forM (playFrame number)) (fun count reached =>
      (∀ number ≥ count, reached.context.incoming[number]? = state.context.incoming[number]?) ∧
        ∃ after, reached.output = some after ∧ Adds frames output after (PreparedFrame.shares
          ((state.context.incoming.take count).flatMap fun route =>
            PlayingRoute.preparedFrames ⟨route, state.context.metrics⟩ frames)))
    state.context.incoming.length state
    ⟨fun _ _ => rfl, output, pointed, .nothing fun _ _ => rfl⟩ (by
      rintro number within reached ⟨later, middle, output_eq, adds⟩
      have found : reached.context.incoming[number]? = some state.context.incoming[number] :=
        (later number le_rfl).trans (List.getElem?_eq_getElem within)
      have member := List.getElem_mem within
      obtain ⟨next, played, incoming, after, nextOutput, more⟩ := playFrames_adds found output_eq
        (adds.framed framed) (wellFormed _ member)
        (adds.layout.channelCount_eq ▸ wide _ member)
      refine ⟨next, played, fun other after => ?_, after, nextOutput,
        (adds.trans more).congr fun frame channel => ?_⟩
      · rw [incoming, List.getElem?_set_ne (by omega), later other (by omega)]
      · rw [List.take_succ_eq_append_getElem within, List.flatMap_append,
          PreparedFrame.shares_append, List.flatMap_singleton,
          PlayingRoute.preparedFrames_metrics _ reached.context.metrics state.context.metrics])
  rw [List.take_length] at adds
  exact ⟨reached, looped, after, output_eq, adds⟩

theorem play_of_no_route (none : state.context.incoming = []) : play state = (.ok (), state) := by
  have counted : (Except.ok state.context.incoming.length : Except CallbackExit Nat) = .ok 0 := by
    rw [none]
    rfl
  rw [play]
  refine Eq.trans (inspect_bind_apply counted) (Eq.trans (inspect_bind_apply rfl) ?_)
  cases state.output <;> rfl

theorem play_apply (anyRoute : state.context.incoming ≠ []) (pointed : state.output = some output)
    (framed : audioBufferListFrames output = some frames) :
    play state = (List.range state.context.incoming.length).forM
      (fun number => (List.range frames).forM (playFrame number))
        { state with output := some (clearAudioBufferList output) } := by
  have nonempty : ¬ state.context.incoming.length = 0 := fun empty =>
    anyRoute (List.length_eq_zero_iff.mp empty)
  rw [play]
  refine Eq.trans (inspect_bind_apply rfl) (Eq.trans (inspect_bind_apply rfl) ?_)
  rw [pointed]
  dsimp only
  rw [if_neg nonempty, framed]
  rfl

/-- Playing starts from zeros. -/
theorem play_adds (pointed : state.output = some output)
    (framed : audioBufferListFrames output = some frames)
    (wellFormed : ∀ route ∈ state.context.incoming, route.WellFormed)
    (wide : ∀ route ∈ state.context.incoming, route.sinkChannels ≤ channelCount output.buffers)
    (anyRoute : state.context.incoming ≠ []) :
    ∃ reached after, play state = (.ok (), reached) ∧ reached.output = some after ∧
      Adds frames (clearAudioBufferList output) after (PreparedFrame.shares
        (state.context.incoming.flatMap fun route =>
          PlayingRoute.preparedFrames ⟨route, state.context.metrics⟩ frames)) := by
  have layout := sameLayout_clearAudioBufferList output
  obtain ⟨reached, looped, after, output_eq, adds⟩ := @playRoutes_adds
    { state with output := some (clearAudioBufferList output) } frames
    (clearAudioBufferList output) rfl (layout.audioBufferListFrames_eq.trans framed) wellFormed
    (by rwa [layout.channelCount_eq])
  exact ⟨reached, after, (play_apply anyRoute pointed framed).trans looped, output_eq, adds⟩

end Playing

/-! ## Recording -/

/-- The route but for the samples in its ring. -/
def IncomingRoute.emptied (route : IncomingRoute ℚ) : IncomingRoute ℚ :=
  { route with consumer := [] }

/-- What recording leaves as it was. -/
structure Records (before state : CallbackState) : Prop where
  output_eq : state.output = before.output
  outgoing : state.context.outgoing.map OutgoingRoute.channels =
    before.context.outgoing.map OutgoingRoute.channels
  incoming : state.context.incoming.map emptied = before.context.incoming.map emptied

namespace Records

open Callback

variable {before state : CallbackState} {input : AudioBufferList ℚ} {frames : Nat}

theorem length_outgoing (records : Records before state) :
    state.context.outgoing.length = before.context.outgoing.length := by
  have lengths := congrArg List.length records.outgoing
  rwa [List.length_map, List.length_map] at lengths

theorem length_incoming (records : Records before state) :
    state.context.incoming.length = before.context.incoming.length := by
  have lengths := congrArg List.length records.incoming
  rwa [List.length_map, List.length_map] at lengths

theorem exists_outgoing (records : Records before state) {route : OutgoingRoute}
    (member : route ∈ state.context.outgoing) :
    ∃ earlier ∈ before.context.outgoing, earlier.channels = route.channels := by
  refine List.mem_map.mp ?_
  rw [← records.outgoing]
  exact List.mem_map_of_mem member

theorem exists_incoming (records : Records before state) {route : IncomingRoute ℚ}
    (member : route ∈ state.context.incoming) :
    ∃ earlier ∈ before.context.incoming, earlier.emptied = route.emptied := by
  refine List.mem_map.mp ?_
  rw [← records.incoming]
  exact List.mem_map_of_mem member

theorem push (records : Records before state) (number : Nat) (sample : ℚ) :
    Records before { state with context := state.context.push number sample } := by
  have unchanged : Records before { state with context := state.context } := records
  unfold DeviceIoContext.push
  split
  · exact unchanged
  rename_i route found
  split
  · exact unchanged
  split
  · refine { unchanged with incoming := Eq.trans (map_modify_eq_map ?_ _ _) records.incoming }
    exact fun _ => rfl
  · exact { unchanged with outgoing := Eq.trans (map_set_eq_map found rfl) records.outgoing }

theorem meets_captureSample (framed : audioBufferListFrames input = some frames) {frame : Nat}
    (within : frame < frames) {channel : Nat} (present : channel < channelCount input.buffers)
    (number : Nat) :
    Meets (Records before) (fun _ => True) (fun _ => False)
      (captureSample input frame number channel) := by
  obtain ⟨sample, read⟩ := Option.isSome_iff_exists.mp
    ((isSome_readAudioSample framed within).mpr present)
  rw [captureSample, read]
  exact fun state records => ⟨records.push number sample, trivial⟩

/-- With enough channels in the input, recording a frame of a route goes through. -/
theorem meets_captureRoute (framed : audioBufferListFrames input = some frames)
    (wide : ∀ route ∈ before.context.outgoing, route.channels ≤ channelCount input.buffers)
    {frame : Nat} (within : frame < frames) {number : Nat}
    (present : number < before.context.outgoing.length) :
    Meets (Records before) (fun _ => True) (fun _ => False) (captureRoute input frame number) := by
  have looks : Meets (Records before) (fun route => route.channels ≤ channelCount input.buffers)
      (fun _ => False) (outgoingRoute number) := by
    refine meets_inspect fun state records => ?_
    have inside : number < state.context.outgoing.length :=
      records.length_outgoing.symm ▸ present
    obtain ⟨earlier, member, same⟩ := records.exists_outgoing (List.getElem_mem inside)
    rw [List.getElem?_eq_getElem inside]
    exact (show (state.context.outgoing[number]).channels ≤ channelCount input.buffers from
      same ▸ wide earlier member)
  refine looks.bind fun route narrow => ?_
  refine Meets.before (meets_inspect fun state records => trivial) fun available => ?_
  split_ifs
  · exact fun state records => ⟨⟨records.output_eq, records.outgoing, records.incoming⟩, trivial⟩
  · refine Meets.forM fun channel member => ?_
    exact meets_captureSample framed within ((List.mem_range.mp member).trans_le narrow) number

/-- Recording an input with enough channels, or none, goes through. -/
theorem capture_ok {input : Option (AudioBufferList ℚ)}
    (recordable : ∀ list, input = some list → (audioBufferListFrames list).isSome = true ∧
      ∀ route ∈ before.context.outgoing, route.channels ≤ channelCount list.buffers) :
    ∃ reached, capture input before = (.ok (), reached) ∧ Records before reached := by
  have meets : Meets (Records before) (fun _ => True) (fun _ => False) (capture input) := by
    have counts : Meets (Records before) (fun count => count = before.context.outgoing.length)
        (fun _ : CallbackExit => False)
        (inspect fun state => .ok state.context.outgoing.length) :=
      meets_inspect fun state records => records.length_outgoing
    refine counts.bind ?_
    rintro _ rfl
    cases input with
    | none => exact meets_pure trivial
    | some input =>
        dsimp only
        split_ifs
        · exact meets_pure trivial
        obtain ⟨counted, wide⟩ := recordable input rfl
        obtain ⟨frames, framed⟩ := Option.isSome_iff_exists.mp counted
        rw [framed]
        refine Meets.forM fun frame frameMem => Meets.forM fun number numberMem => ?_
        exact meets_captureRoute framed wide (List.mem_range.mp frameMem)
          (List.mem_range.mp numberMem)
  obtain ⟨records, yields⟩ := meets before ⟨rfl, rfl, rfl⟩
  cases taken : capture input before with
  | mk result reached =>
      rw [taken] at records yields
      cases result with
      | ok value => exact ⟨reached, rfl, records⟩
      | error failure => exact absurd yields id

end Records

/-! ## The reference mix -/

/-- The output after a call has the samples that `mix_interleaved` makes of zeros
with the frames that the routes prepare after recording, in any order, and no
others. -/
def PlaysReferenceMix (before : CallbackState) (input : Option (AudioBufferList ℚ))
    (output : AudioBufferList ℚ) (frames : Nat) : Prop :=
  ∃ captured played after, Callback.capture input before = (.ok (), captured) ∧
    audioDeviceIoProc input before = (.ok (), played) ∧ played.output = some after ∧
    SameLayout output.buffers after.buffers ∧
    (∀ place ∈ slotsInBytes after.buffers, ∃ frame < frames,
      ∃ channel < channelCount output.buffers,
        sampleAt after.buffers place = readAudioSample after frame channel) ∧
    ∀ order : List PreparedFrame, order.Perm (captured.context.incoming.flatMap fun route =>
        PlayingRoute.preparedFrames ⟨route, captured.context.metrics⟩ frames) →
      ∃ mixed, order.foldlM (PreparedFrame.mixInto (channelCount output.buffers))
          (List.replicate (frames * channelCount output.buffers) 0) = some mixed ∧
        ∀ frame < frames, ∀ channel < channelCount output.buffers,
          readAudioSample after frame channel =
            mixed[frame * channelCount output.buffers + channel]?

theorem Records.wellFormed {before state : CallbackState} (records : Records before state)
    (wellFormed : ∀ route ∈ before.context.incoming, route.WellFormed) :
    ∀ route ∈ state.context.incoming, route.WellFormed := by
  intro route member
  obtain ⟨earlier, earlierMem, same⟩ := records.exists_incoming member
  have emptied : earlier.emptied.WellFormed :=
    { wellFormed earlier earlierMem with }
  rw [same] at emptied
  exact { emptied with }

theorem Records.sinkChannels_le {before state : CallbackState} (records : Records before state)
    {channels : Nat} (wide : ∀ route ∈ before.context.incoming, route.sinkChannels ≤ channels) :
    ∀ route ∈ state.context.incoming, route.sinkChannels ≤ channels := by
  intro route member
  obtain ⟨earlier, earlierMem, same⟩ := records.exists_incoming member
  have sinks : earlier.emptied.sinkChannels = route.emptied.sinkChannels := by rw [same]
  exact (show earlier.sinkChannels = route.sinkChannels from sinks) ▸ wide earlier earlierMem

theorem Records.preserves_capture {before : CallbackState}
    (input : Option (AudioBufferList ℚ)) :
    Preserves (Records before) (Callback.capture input) := by
  have counted : ∀ update : DeviceIoContext → DeviceIoContext,
      (∀ context, (update context).outgoing = context.outgoing ∧
        (update context).incoming = context.incoming) →
      Preserves (Records before) (Callback.changeContext update) :=
    fun update keeps state records =>
    ⟨records.output_eq,
      (congrArg (List.map OutgoingRoute.channels) (keeps state.context).1).trans records.outgoing,
      (congrArg (List.map emptied) (keeps state.context).2).trans records.incoming⟩
  have formatError : Preserves (Records before) Callback.formatError :=
    (counted DeviceIoContext.addFormatError fun _ => ⟨rfl, rfl⟩).bind fun _ => preserves_fail _
  refine (preserves_inspect _).bind fun count => ?_
  cases input with
  | none => exact preserves_pure ()
  | some input =>
      dsimp only
      split_ifs
      · exact preserves_pure ()
      split
      · exact formatError
      refine Preserves.forM fun frame _ => Preserves.forM fun number _ => ?_
      refine (preserves_inspect _).bind fun route => (preserves_inspect _).bind fun available => ?_
      split_ifs
      · exact counted DeviceIoContext.addOverrun fun _ => ⟨rfl, rfl⟩
      refine Preserves.forM fun channel _ => ?_
      unfold Callback.captureSample
      split
      · exact fun state records => records.push number _
      · exact formatError

/-- Adding a share leaves the routes. -/
theorem preserves_playSample {holds : List (IncomingRoute ℚ) → Prop} (number frame channel : Nat) :
    Preserves (fun state => holds state.context.incoming)
      (Callback.playSample number frame channel) := by
  refine (preserves_inspect _).bind fun route => (preserves_inspect _).bind fun value =>
    (preserves_inspect _).bind fun (added, output) =>
      Preserves.bind (fun _ held => held) fun _ => ?_
  cases added
  · exact Preserves.bind (fun _ held => held) fun _ => preserves_fail _
  · exact preserves_pure ()

/-- A pass of the loop over the frames changes the routes only by preparing one. -/
theorem preserves_playFrame_of_prepares {holds : List (IncomingRoute ℚ) → Prop} {number : Nat}
    (prepares : ∀ routes route metrics, routes[number]? = some route → holds routes →
      holds (routes.set number (PlayingRoute.prepareOutputFrame ⟨route, metrics⟩).2.route))
    (frame : Nat) :
    Preserves (fun state => holds state.context.incoming) (Callback.playFrame number frame) := by
  intro state held
  cases found : state.context.incoming[number]? with
  | none =>
      rw [playFrame_of_missing found]
      exact held
  | some route =>
      rw [playFrame_apply found]
      have stored := prepares _ route state.context.metrics found held
      split_ifs
      · exact Preserves.forM (fun channel _ => preserves_playSample number frame channel) _ stored
      · exact stored

theorem wellFormed_of_prepares {routes : List (IncomingRoute ℚ)} {route : IncomingRoute ℚ}
    {number : Nat} (found : routes[number]? = some route)
    (wellFormed : ∀ route ∈ routes, route.WellFormed) (metrics : RouterMetrics) :
    ∀ other ∈ routes.set number (PlayingRoute.prepareOutputFrame ⟨route, metrics⟩).2.route,
      other.WellFormed := by
  intro other member
  rcases List.mem_or_eq_of_mem_set member with earlier | rfl
  · exact wellFormed other earlier
  · exact (@PlayingRoute.prepareOutputFrame_progress ⟨route, metrics⟩
      (wellFormed route (List.mem_of_getElem? found))).1.wellFormed

/-- The routes stay as `AudioRouter::start` made them, through every call. -/
theorem preserves_wellFormed (input : Option (AudioBufferList ℚ)) :
    Preserves (fun state => ∀ route ∈ state.context.incoming, route.WellFormed)
      (audioDeviceIoProc input) := by
  refine Preserves.bind (fun state wellFormed => ?_) fun _ => ?_
  · exact (Records.preserves_capture input state ⟨rfl, rfl, rfl⟩).wellFormed wellFormed
  refine (preserves_inspect _).bind fun count => (preserves_inspect _).bind fun output => ?_
  cases output with
  | none => exact preserves_pure ()
  | some output =>
      dsimp only
      split_ifs
      · exact preserves_pure ()
      split
      · exact Preserves.bind (fun _ wellFormed => wellFormed) fun _ => preserves_fail _
      · refine Preserves.bind (fun _ wellFormed => wellFormed) fun _ => ?_
        refine Preserves.forM fun number _ => Preserves.forM fun frame _ => ?_
        exact @preserves_playFrame_of_prepares (fun routes => ∀ route ∈ routes, route.WellFormed)
          number (fun routes route metrics found wellFormed =>
            wellFormed_of_prepares found wellFormed metrics) frame

/-- If the device has incoming routes, its output is their reference mix; without
one the output is left alone. -/
theorem router_plays_reference_mix {before : CallbackState} {input : Option (AudioBufferList ℚ)}
    {output : AudioBufferList ℚ} {frames : Nat}
    (wellFormed : ∀ route ∈ before.context.incoming, route.WellFormed)
    (pointed : before.output = some output)
    (framed : audioBufferListFrames output = some frames)
    (wide : ∀ route ∈ before.context.incoming, route.sinkChannels ≤ channelCount output.buffers)
    (recordable : ∀ list, input = some list → (audioBufferListFrames list).isSome = true ∧
      ∀ route ∈ before.context.outgoing, route.channels ≤ channelCount list.buffers) :
    (before.context.incoming ≠ [] → PlaysReferenceMix before input output frames) ∧
      (before.context.incoming = [] → ∃ played,
        audioDeviceIoProc input before = (.ok (), played) ∧ played.output = some output) := by
  obtain ⟨captured, records, kept⟩ := Records.capture_ok recordable
  have capturedOutput := kept.output_eq.trans pointed
  have nonempty : captured.context.incoming = [] ↔ before.context.incoming = [] := by
    rw [← List.length_eq_zero_iff, kept.length_incoming, List.length_eq_zero_iff]
  refine ⟨fun anyRoute => ?_, fun none => ?_⟩
  · obtain ⟨played, after, plays, playedOutput, adds⟩ := play_adds capturedOutput framed
      (kept.wellFormed wellFormed) (kept.sinkChannels_le wide) (mt nonempty.mp anyRoute)
    have cleared := sameLayout_clearAudioBufferList output
    have layout := cleared.trans adds.layout
    refine ⟨captured, played, after, records, ?_, playedOutput, layout, ?_, ?_⟩
    · rw [audioDeviceIoProc, bind_apply_ok records]
      exact plays
    · intro place member
      have framedAfter := layout.audioBufferListFrames_eq.trans framed
      obtain ⟨⟨frame, channel⟩, ⟨frameWithin, channelWithin⟩, rfl⟩ :=
        surjOn_slot (hasFrames_of_audioBufferListFrames framedAfter) member
      exact ⟨frame, frameWithin, channel, layout.channelCount_eq ▸ channelWithin,
        (readAudioSample_eq framedAfter frameWithin channelWithin).symm⟩
    · intro order reordered
      obtain ⟨mixed, folded, samples⟩ := @PreparedFrame.foldlM_mixInto _ order frames
        (channelCount output.buffers) (fun prepared member => by
          obtain ⟨route, routeMem, member⟩ := List.mem_flatMap.mp member
          exact sound_of_mem_preparedFrames (kept.wellFormed wellFormed route routeMem)
            (kept.sinkChannels_le wide route routeMem) member) reordered
      refine ⟨mixed, folded, fun frame frameWithin channel channelWithin => ?_⟩
      rw [adds.samples frame frameWithin channel (cleared.channelCount_eq ▸ channelWithin),
        readAudioSample_clear framed frameWithin channelWithin,
        samples frame frameWithin channel channelWithin, Option.map_some, zero_add]
  · refine ⟨captured, ?_, capturedOutput⟩
    rw [audioDeviceIoProc, bind_apply_ok records]
    exact play_of_no_route (nonempty.mpr none)

/-- One mono frame, with a sample from earlier. -/
def staleOutput : AudioBufferList ℚ where
  buffers :=
    [{ numberChannels := 1, dataByteSize := 4, data := some [7],
       sized := fun _ same => Option.some.inj same ▸ rfl }]
  counted := by decide

/-- A mono route between two frames. -/
def halfwayRoute : IncomingRoute ℚ where
  consumer := []
  sourceChannels := 1
  sinkChannels := 1
  nominalStep := 1
  gain := 1 / 2
  matrix := [1]
  current := [3]
  next := [5]
  interpolated := [0]
  phase := 1 / 2
  primed := true

theorem halfwayRoute_wellFormed : halfwayRoute.WellFormed where
  sourceChannels_pos := by decide
  sinkChannels_pos := by decide
  sourceChannels_small := by decide
  sinkChannels_small := by decide
  nominalStep_pos := by
    change (0 : ℚ) < 1
    norm_num
  length_matrix := rfl
  length_current := rfl
  length_next := rfl

theorem halfwayRoute_plays_reference_mix :
    PlaysReferenceMix ⟨⟨[], [halfwayRoute], ⟨0, 0, 0⟩⟩, some staleOutput⟩ none staleOutput 1 :=
  (@router_plays_reference_mix ⟨⟨[], [halfwayRoute], ⟨0, 0, 0⟩⟩, some staleOutput⟩ none staleOutput
    1 (List.forall_mem_singleton.mpr halfwayRoute_wellFormed) rfl (by decide)
    (List.forall_mem_singleton.mpr (by decide)) nofun).1 (List.cons_ne_nil _ _)

/-- The device of a source only, with an output from earlier. -/
def recordingOnly : CallbackState where
  context :=
    { outgoing := [{ capacity := 16384, reader := .elsewhere [], channels := 1 }]
      incoming := []
      metrics := ⟨0, 0, 0⟩ }
  output := some staleOutput

/-- Without incoming routes the output is not cleared. -/
theorem recordingOnly_keeps_output :
    (∀ route ∈ recordingOnly.context.incoming, route.WellFormed ∧
      route.sinkChannels ≤ channelCount staleOutput.buffers) ∧
    recordingOnly.output = some staleOutput ∧ audioBufferListFrames staleOutput = some 1 ∧
    ¬ PlaysReferenceMix recordingOnly none staleOutput 1 := by
  refine ⟨nofun, rfl, by decide, ?_⟩
  rintro ⟨captured, played, after, records, plays, playedOutput, -, -, mixes⟩
  obtain rfl : recordingOnly = captured := (Prod.mk.inj records).2
  obtain rfl : recordingOnly = played := (Prod.mk.inj plays).2
  obtain rfl : staleOutput = after := Option.some.inj playedOutput
  obtain ⟨mixed, zeros, samples⟩ := mixes [] (List.Perm.refl _)
  obtain rfl : [0] = mixed := Option.some.inj zeros
  have stale : some (7 : ℚ) = some 0 := samples 0 Nat.one_pos 0 (by decide)
  norm_num at stale

end VCable
