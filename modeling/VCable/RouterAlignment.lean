import VCable.RouterRingRuns

/-!
# The rings of the router stay aligned with frames

A route is aligned as long as every source frame that is begun can be finished.
A frame of a list with fewer channels than its route cannot, and moves the
channels of all later frames.
-/

namespace VCable

open LabelledSteps RingSystem

variable {α : Type*}

namespace RouterSystem

open RouterRoute

/-- A source frame is begun only if its list has all channels of the route. -/
def framesFit (system : RouterSystem α) : RouterAction α → Bool
  | .measure =>
      match system.input with
      | .measuring list frames frame number =>
          match system.outgoing[number]? with
          | some route =>
              frames ≤ frame || route.queue.ring.available < route.channels ||
                (audioBufferListChannels list).any (route.channels ≤ ·)
          | none => true
      | _ => true
  | _ => true

/-- Inside the input half of a callback. -/
def inCallback (system : RouterSystem α) (_ : RouterAction α) : Bool :=
  match system.input with
  | .idle => false
  | _ => true

/-- The list of a frame that is being pushed has all channels of the route. -/
def Fits (system : RouterSystem α) : Prop :=
  ∀ list frames frame number channel route,
    system.input = .pushing list frames frame number channel →
      system.outgoing[number]? = some route → route.channels ≤ channelCount list.buffers

/-- The list of a frame that is being pushed has too few channels for the route. -/
def Doomed (system : RouterSystem α) : Prop :=
  ∃ list frames frame number channel route,
    system.input = .pushing list frames frame number channel ∧
      system.outgoing[number]? = some route ∧ channelCount list.buffers < route.channels

section Steps

variable {system next : RouterSystem α} {action : RouterAction α} {list : AudioBufferList α}
  {frames frame number channel k : Nat} {route : RouterRoute α}

theorem channels_consumerStep {ringAction : RingAction α} {before : RouterRoute α}
    (stepped : before.consumerStep ringAction = some route) : route.channels = before.channels := by
  obtain ⟨output, queue, returned, _, _, rfl⟩ := consumerStep_eq_some stepped
  unfold continueRead
  split
  · split
    · rfl
    · rfl
  · rfl
  · rfl

/-- The routes of a context with the channels that they had before. -/
theorem found_of_setRoute {before : RouterRoute α}
    (found : system.outgoing[number]? = some before) (same : route.channels = before.channels)
    {other : Nat} {present : RouterRoute α}
    (presentAt : (system.setRoute number route).outgoing[other]? = some present) :
    ∃ earlier, system.outgoing[other]? = some earlier ∧ earlier.channels = present.channels := by
  have within : number < system.outgoing.length := (List.getElem?_eq_some_iff.mp found).1
  change (system.outgoing.set number route)[other]? = some present at presentAt
  by_cases this : other = number
  · subst this
    rw [List.getElem?_set_self within] at presentAt
    cases presentAt
    exact ⟨before, found, same.symm⟩
  · rw [List.getElem?_set_ne (Ne.symm this)] at presentAt
    exact ⟨present, presentAt, rfl⟩

theorem setRoute_found {before : RouterRoute α}
    (found : system.outgoing[number]? = some before) (same : route.channels = before.channels)
    {other : Nat} {earlier : RouterRoute α}
    (earlierAt : system.outgoing[other]? = some earlier) :
    ∃ present, (system.setRoute number route).outgoing[other]? = some present ∧
      present.channels = earlier.channels := by
  have within : number < system.outgoing.length := (List.getElem?_eq_some_iff.mp found).1
  change ∃ present, (system.outgoing.set number route)[other]? = some present ∧ _
  by_cases this : other = number
  · subst this
    cases found.symm.trans earlierAt
    exact ⟨route, List.getElem?_set_self within, same⟩
  · exact ⟨earlier, (List.getElem?_set_ne (Ne.symm this)).trans earlierAt, rfl⟩

theorem Fits.setRoute (fits : system.Fits) {before : RouterRoute α}
    (found : system.outgoing[number]? = some before) (same : route.channels = before.channels) :
    (system.setRoute number route).Fits := by
  intro list frames frame other channel present pushing presentAt
  obtain ⟨earlier, earlierAt, channels⟩ := found_of_setRoute found same presentAt
  exact channels ▸ fits list frames frame other channel earlier pushing earlierAt

theorem Doomed.setRoute (doomed : system.Doomed) {before : RouterRoute α}
    (found : system.outgoing[number]? = some before) (same : route.channels = before.channels) :
    (system.setRoute number route).Doomed := by
  obtain ⟨list, frames, frame, other, channel, earlier, pushing, earlierAt, short⟩ := doomed
  obtain ⟨present, presentAt, channels⟩ := setRoute_found found same earlierAt
  exact ⟨list, frames, frame, other, channel, present, pushing, presentAt, channels ▸ short⟩

/-- A frame that is begun fits, if the step is an allowed one. -/
theorem framesFit_eq (measuring : system.input = .measuring list frames frame number)
    (within : frame < frames) (found : system.outgoing[number]? = some route)
    (room : ¬ route.queue.ring.available < route.channels) :
    system.framesFit .measure = true ↔ route.channels ≤ channelCount list.buffers := by
  simp only [framesFit, measuring, found, audioBufferListChannels_eq, Option.any_some,
    Bool.or_eq_true, decide_eq_true_eq, Nat.not_le.mpr within, room, false_or]

theorem Fits.step (fits : system.Fits) (allowed : system.framesFit action = true)
    (effect : Effect system action next) : next.Fits := by
  cases effect with
  | begun measuring within found room =>
      have short := (framesFit_eq measuring within found room).mp allowed
      intro list frames frame number channel present pushing presentAt
      cases pushing
      obtain ⟨before, beforeAt, channels⟩ := found_of_setRoute found (by rfl) presentAt
      cases found.symm.trans beforeAt
      exact channels ▸ short
  | reads pushing found => exact fits.setRoute found rfl
  | inside acts pushing found => exact fits.setRoute found rfl
  | pushed acts pushing found =>
      intro list frames frame number channel present again presentAt
      cases again
      obtain ⟨before, beforeAt, channels⟩ := found_of_setRoute found (by rfl) presentAt
      exact channels ▸ fits _ _ _ _ _ before pushing beforeAt
  | readStarted found => exact fits.setRoute found rfl
  | popping acts found stepped => exact fits.setRoute found (channels_consumerStep stepped)
  | ignored => exact fits
  | readRefused => exact fits
  | formatError idle => exact fits
  | started => exact nofun
  | overrun => exact nofun
  | nextFrame => exact nofun
  | finished => exact nofun
  | torn => exact nofun
  | whole => exact nofun

theorem Fits.not_tears (fits : system.Fits) (sound : system.Sound) : ¬ system.Tears := by
  rintro ⟨list, frames, frame, number, channel, route, pushing, found, more, read⟩
  obtain ⟨counted, within⟩ := sound.counted_pushing pushing
  have readable := (@isSome_readAudioSample _ _ _ _ channel counted within).mpr
    (more.trans_le (fits _ _ _ _ _ route pushing found))
  rw [read] at readable
  cases readable

/-- No more channels are pushed than the list has. -/
theorem Sound.channel_le (sound : system.Sound)
    (pushing : system.input = .pushing list frames frame number channel)
    (found : system.outgoing[number]? = some route) : channel ≤ channelCount list.buffers := by
  obtain ⟨k, earlier, _, placed⟩ := sound.pushing pushing found
  obtain ⟨counted, within⟩ := sound.counted_pushing pushing
  by_contra! beyond
  have complete := congrArg (·[channelCount list.buffers]?) (map_some_sourceFrame placed.present)
  simp only [List.getElem?_map, List.getElem?_range beyond, Option.map_some] at complete
  cases read : readAudioSample list frame (channelCount list.buffers) with
  | none =>
      rw [read] at complete
      obtain ⟨sample, _, same⟩ := Option.map_eq_some_iff.mp complete
      cases same
  | some sample =>
      have readable := (@isSome_readAudioSample _ _ _ _ (channelCount list.buffers)
        counted within).mp (by rw [read]; rfl)
      exact absurd readable (Nat.lt_irrefl _)

/-- A frame of a list with too few channels is never finished. -/
theorem Doomed.step (doomed : system.Doomed) (sound : system.Sound)
    (effect : Effect system action next)
    (reads : ¬ (action = .readSample ∧ system.Tears)) : next.Doomed := by
  have doomed' := doomed
  obtain ⟨list, frames, frame, number, channel, route, pushing, found, short⟩ := doomed
  cases effect with
  | ignored => exact doomed'
  | readRefused => exact doomed'
  | formatError => exact doomed'
  | started idle => cases pushing.symm.trans idle
  | overrun measuring => cases pushing.symm.trans measuring
  | begun measuring => cases pushing.symm.trans measuring
  | nextFrame measuring => cases pushing.symm.trans measuring
  | finished measuring => cases pushing.symm.trans measuring
  | reads again foundAgain => exact doomed'.setRoute foundAgain rfl
  | torn again foundAgain more read =>
      exact absurd ⟨rfl, _, _, _, _, _, _, again, foundAgain, more, read⟩ reads
  | whole again foundAgain done =>
      cases pushing.symm.trans again
      cases found.symm.trans foundAgain
      have few := sound.channel_le pushing found
      omega
  | inside acts again foundAgain => exact doomed'.setRoute foundAgain rfl
  | @pushed _ _ _ _ _ _ _ before queue _ acts again foundAgain =>
      cases pushing.symm.trans again
      have same : ({ before with queue := queue } : RouterRoute α).channels = before.channels := rfl
      obtain ⟨present, presentAt, channels⟩ := setRoute_found foundAgain same found
      exact ⟨list, frames, frame, number, channel + 1, present, rfl, presentAt, channels ▸ short⟩
  | readStarted foundAgain => exact doomed'.setRoute foundAgain rfl
  | popping acts foundAgain stepped =>
      exact doomed'.setRoute foundAgain (channels_consumerStep stepped)

end Steps

/-! ## What the sinks read -/

/-- Every frame that a sink has read is the source frame of its number. -/
def ReadsFrames (route : RouterRoute α) : Prop :=
  ∀ (index : Nat) (frame : List α), route.frames[index]? = some frame →
    ∃ list number, route.begun[index]? = some (list, number) ∧
      frame.map some = (List.range route.channels).map (readAudioSample list number)

section Reading

variable {system : RouterSystem α} {k number : Nat} {route : RouterRoute α}

theorem sourceFrame_isPrefix {source : AudioBufferList α × Nat} {fewer channels : Nat}
    (fewer_le : fewer ≤ channels) : sourceFrame fewer source <+: sourceFrame channels source := by
  obtain ⟨more, rfl⟩ := Nat.exists_eq_add_of_le fewer_le
  rw [sourceFrame, sourceFrame, List.range_add, List.filterMap_append]
  exact List.prefix_append _ _

/-- The samples in the ring start the source frames, all but the last of them complete. -/
theorem RouteAt.pushed {input : InputProgress α} (placed : RouteAt k number route input) :
    route.queue.pushed <+: (route.begun.map (sourceFrame route.channels)).flatten ∧
      ∀ piece ∈ (route.begun.map (sourceFrame route.channels)).dropLast,
        piece.length = route.channels := by
  have between : route.Whole →
      route.queue.pushed <+: (route.begun.map (sourceFrame route.channels)).flatten ∧
        ∀ piece ∈ (route.begun.map (sourceFrame route.channels)).dropLast,
          piece.length = route.channels := by
    intro whole
    refine ⟨?_, fun piece member => ?_⟩
    · have same := whole.pushed.trans (List.flatMap_def ..)
      exact same ▸ List.prefix_refl _
    · obtain ⟨source, begun, rfl⟩ := List.mem_map.mp (List.dropLast_subset _ member)
      exact whole.complete source begun
  cases input with
  | idle => exact between placed
  | measuring => exact between placed
  | pushing list frames frame current channel =>
      by_cases same : current = number
      · subst same
        obtain ⟨earlier, pushing⟩ := routeAt_self.mp placed
        rw [pushing.begun, List.map_append, List.map_singleton, List.dropLast_concat,
          List.flatten_append, List.flatten_singleton, pushing.pushed, List.flatMap_def]
        refine ⟨(List.prefix_append_right_inj _).mpr (sourceFrame_isPrefix pushing.channel_le), ?_⟩
        intro piece member
        obtain ⟨source, begun, rfl⟩ := List.mem_map.mp member
        exact pushing.complete source begun
      · exact between (placed.whole_of_ne (Ne.symm same))

theorem frames_isPrefix_popped (sound : RouteSound k route) :
    route.frames.flatten <+: route.queue.popped := by
  have reader := sound.reader
  cases reading : route.reader with
  | none =>
      rw [reading] at reader
      exact (reader.2 ▸ List.prefix_refl _)
  | some output =>
      rw [reading] at reader
      exact reader.1 ▸ List.prefix_append _ _

theorem readsFrames_of_sound {input : InputProgress α} (sound : RouteSound k route)
    (placed : RouteAt k number route input) : ReadsFrames route := by
  obtain ⟨starts, complete⟩ := placed.pushed
  have short : ∀ piece ∈ route.begun.map (sourceFrame route.channels),
      piece.length ≤ route.channels := by
    intro piece member
    obtain ⟨source, _, rfl⟩ := List.mem_map.mp member
    exact length_sourceFrame_le
  intro index frame found
  have piece := FrameStreams.getElem?_of_flatten_isPrefix sound.positive sound.whole_frames complete
    short (((frames_isPrefix_popped sound).trans sound.holds.popped_prefix).trans starts) found
  obtain ⟨⟨list, number⟩, begun, rfl⟩ := Option.map_eq_some_iff.mp (List.getElem?_map ▸ piece)
  exact ⟨list, number, begun,
    map_some_sourceFrame (sound.whole_frames _ (List.mem_of_getElem? found))⟩

end Reading

/-! ## New contexts -/

section Start

variable {zero : α} {sourceChannels : List UInt32} {first : RouterSystem α}

theorem route_start {channels : UInt32} {route : RouterRoute α} (nonzero : channels ≠ 0)
    (started : RouterRoute.start zero channels = .ok route) :
    ∃ k, RouteSound k route ∧ route.Whole := by
  unfold RouterRoute.start at started
  split at started
  · cases started
  rename_i product _
  split at started
  · cases started
  · cases started
  rename_i ring created
  cases started
  cases power : checkedNextPowerOfTwo 64 product with
  | none =>
      rw [power] at created
      cases created
  | some capacity =>
      obtain ⟨k, narrow, rfl⟩ := checkedNextPowerOfTwo_eq power
      rw [power, Option.getD_some, spscRingBuffer] at created
      split at created
      · cases created
      split at created
      · cases created
      cases created
      refine ⟨k, ⟨narrow, ?_, holds_initial List.length_replicate rfl, List.forall_mem_nil _, rfl,
        rfl⟩, rfl, List.forall_mem_nil _, rfl⟩
      exact Nat.pos_of_ne_zero fun none => nonzero (UInt32.toNat_inj.mp none)

theorem routes_start {routes : List (RouterRoute α)}
    (nonzero : ∀ channels ∈ sourceChannels, channels ≠ 0)
    (started : sourceChannels.mapM (RouterRoute.start zero) = .ok routes) :
    ∀ route ∈ routes, ∃ k, RouteSound k route ∧ route.Whole := by
  induction sourceChannels generalizing routes with
  | nil =>
      cases started
      nofun
  | cons channels sourceChannels ih =>
      rw [List.mapM_cons] at started
      cases own : RouterRoute.start zero channels with
      | error message =>
          rw [own] at started
          cases started
      | ok route =>
          cases rest : sourceChannels.mapM (RouterRoute.start zero) with
          | error message =>
              rw [own, rest] at started
              cases started
          | ok others =>
              rw [own, rest] at started
              cases started
              intro present member
              rcases List.mem_cons.mp member with rfl | later
              · exact route_start (nonzero channels List.mem_cons_self) own
              · exact ih (fun other inside => nonzero other (List.mem_cons_of_mem _ inside)) rest
                  present later

theorem sound_start (started : RouterSystem.start zero sourceChannels = .ok first) :
    first.Sound ∧ first.Fits := by
  unfold RouterSystem.start at started
  split at started
  · cases started
  rename_i accepted
  have nonzero : ∀ channels ∈ sourceChannels, channels ≠ 0 := fun channels member none =>
    accepted (List.any_eq_true.mpr ⟨channels, member, decide_eq_true none⟩)
  cases routes : sourceChannels.mapM (RouterRoute.start zero) with
  | error message =>
      rw [routes] at started
      cases started
  | ok outgoing =>
      rw [routes] at started
      cases started
      exact ⟨⟨fun number route found => routes_start nonzero routes route
        (List.mem_of_getElem? found), trivial⟩, nofun⟩

end Start

/-! ## Runs -/

section Runs

variable {zero : α} {sourceChannels : List UInt32} {first system : RouterSystem α}

theorem Sound.aligned (sound : system.Sound) (idle : system.input = .idle) : system.Aligned := by
  intro route member
  obtain ⟨number, found⟩ := List.mem_iff_getElem?.mp member
  obtain ⟨k, _, placed⟩ := sound.routes number route found
  rw [idle] at placed
  exact Whole.dvd placed

/-- A callback that has begun a frame with too few channels ends inside it. -/
theorem not_aligned_of_doomed (sound : system.Sound) (doomed : system.Doomed)
    {final : RouterSystem α} (reached : Reachable (restrict inCallback step) system final)
    (idle : final.input = .idle) : ¬ final.Aligned := by
  have invariant : Invariant (restrict inCallback step) system fun state =>
      (state.Sound ∧ state.Doomed) ∨ (state.input = .idle ∧ ¬ state.Aligned) := by
    refine ⟨Or.inl ⟨sound, doomed⟩, ?_⟩
    intro state next action output holds stepped
    obtain ⟨inside, stepped⟩ := restrict_eq_some_iff.mp stepped
    rcases holds with ⟨sound, doomed⟩ | ⟨idle, _⟩
    · have effect := effect_of_step stepped
      by_cases reads : action = .readSample ∧ state.Tears
      · obtain ⟨rfl, tears⟩ := reads
        exact Or.inr (sound.torn effect tears)
      · exact Or.inl ⟨sound.step effect reads, doomed.step sound effect reads⟩
    · rw [inCallback, idle] at inside
      cases inside
  rcases invariant.reachable reached with ⟨_, _, _, _, _, _, _, pushing, _⟩ | ⟨_, torn⟩
  · cases idle.symm.trans pushing
  · exact torn

/-- A step that begins a frame with too few channels. -/
theorem doomed_of_framesFit {next : RouterSystem α} {action : RouterAction α}
    (effect : Effect system action next) (refused : system.framesFit action = false) :
    next.Doomed ∧ ¬ (action = .readSample ∧ system.Tears) := by
  have measures : action = .measure := by
    unfold framesFit at refused
    split at refused
    · rfl
    · cases refused
  subst measures
  cases effect with
  | @begun list frames frame number route measuring within found room =>
      refine ⟨⟨list, frames, frame, number, 0,
        { route with begun := route.begun ++ [(list, frame)] }, rfl, ?_, ?_⟩,
        fun both => nomatch both.1⟩
      · exact List.getElem?_set_self (List.getElem?_eq_some_iff.mp found).1
      · refine Nat.not_le.mp fun fits => ?_
        rw [(framesFit_eq measuring within found room).mpr fits] at refused
        cases refused
  | overrun measuring found full =>
      simp only [framesFit, measuring, found, full, decide_true, Bool.or_true,
        Bool.true_or] at refused
      cases refused
  | nextFrame measuring last =>
      simp only [framesFit, measuring, last] at refused
      cases refused
  | finished measuring done =>
      simp only [framesFit, measuring, Nat.not_lt.mp done, decide_true, Bool.true_or] at refused
      split at refused
      · cases refused
      · cases refused
  | inside acts => cases acts
  | pushed acts => cases acts
  | popping acts => cases acts

/-- What holds of the rings of a context in every run that begins no frame
without all its channels, and what such a frame would do. -/
structure FramesAligned (system : RouterSystem α) : Prop where
  aligned : system.input = .idle → system.Aligned
  reads : ∀ route ∈ system.outgoing, ReadsFrames route
  late : ∀ action next, system.step action = some (next, ()) → system.framesFit action = false →
    ∀ final, Reachable (restrict inCallback step) next final → final.input = .idle →
      ¬ final.Aligned

/-- In every run in which no source frame is begun whose list has too few
channels, the samples in each ring are whole frames after every callback, and a
sink reads the channels of one source frame.  A callback that begins another
frame leaves the ring inside it. -/
theorem router_rings_aligned (started : RouterSystem.start zero sourceChannels = .ok first)
    (reached : Reachable (restrict framesFit step) first system) : system.FramesAligned := by
  have invariant : Invariant (restrict framesFit step) first fun state =>
      state.Sound ∧ state.Fits := by
    refine ⟨sound_start started, ?_⟩
    rintro state next action output ⟨sound, fits⟩ stepped
    obtain ⟨allowed, stepped⟩ := restrict_eq_some_iff.mp stepped
    have effect := effect_of_step stepped
    exact ⟨sound.step effect fun tears => fits.not_tears sound tears.2, fits.step allowed effect⟩
  obtain ⟨sound, fits⟩ := invariant.reachable reached
  refine ⟨sound.aligned, fun route member => ?_,
    fun action next stepped refused final run idle => ?_⟩
  · obtain ⟨number, found⟩ := List.mem_iff_getElem?.mp member
    obtain ⟨k, routeSound, placed⟩ := sound.routes number route found
    exact readsFrames_of_sound routeSound placed
  · have effect := effect_of_step stepped
    obtain ⟨doomed, reads⟩ := doomed_of_framesFit effect refused
    exact not_aligned_of_doomed (sound.step effect reads) doomed run idle

end Runs

/-! ## A stereo route -/

/-- A context with one stereo route, by the samples of its ring. -/
def stereoContext (samples : List Nat) : RouterSystem Nat where
  outgoing :=
    [{ queue := RingSystem.initial ⟨samples, 32767, 0, 0⟩ 0
       channels := 2
       reader := none
       begun := []
       frames := [] }]
  input := .idle
  metrics := ⟨0, 0, 0⟩

theorem start_stereoContext :
    RouterSystem.start 0 [2] = .ok (stereoContext (List.replicate 32768 0)) := by
  have product : checkedMul (2 : UInt32).toNat 16384 = some 32768 := by decide
  have power : checkedNextPowerOfTwo 64 32768 = some 32768 := by decide
  have created : spscRingBuffer 64 0 32768 =
      .ok (⟨List.replicate 32768 0, 32767, 0, 0⟩ : Ring Nat 64) := by
    rw [spscRingBuffer, if_neg (by decide), if_neg (by decide)]
    rfl
  have route : RouterRoute.start 0 2 = .ok
      { queue := RingSystem.initial (⟨List.replicate 32768 0, 32767, 0, 0⟩ : Ring Nat 64) 0
        channels := 2
        reader := none
        begun := []
        frames := [] } := by
    unfold RouterRoute.start
    rw [product]
    dsimp only
    rw [power, Option.getD_some, created]
    rfl
  rw [RouterSystem.start, if_neg (by decide), List.mapM_cons, route]
  rfl

/-- One frame of two channels. -/
def stereoList : AudioBufferList Nat where
  buffers := [⟨2, 8, some [7, 8], by rintro _ ⟨⟩; rfl⟩]
  counted := by decide

/-- A callback with one stereo frame, and the sink that reads it. -/
def stereoCallback : List (RouterAction Nat) :=
  [.callback (some stereoList), .measure,
    .readSample, .loadRead, .writeSlot, .publishWrite,
    .readSample, .loadRead, .writeSlot, .publishWrite,
    .readSample, .measure, .measure,
    .startRead 0, .startPop 0, .loadWrite 0, .readSlot 0, .publishRead 0,
    .startPop 0, .loadWrite 0, .readSlot 0, .publishRead 0]

theorem run_stereoCallback {samples : List Nat} (length : samples.length = 32768) :
    ∃ final, LabelledSteps.run (restrict framesFit step) (stereoContext samples) stereoCallback =
        some final ∧
      final.input = .idle ∧ final.outgoing.map (fun route =>
        (route.channels, route.queue.pushed, route.frames)) = [(2, [7, 8], [[7, 8]])] := by
  have frames : audioBufferListFrames stereoList = some 1 := by decide
  have channels : audioBufferListChannels stereoList = some 2 := by decide
  have first : readAudioSample stereoList 0 0 = some 7 := by decide
  have second : readAudioSample stereoList 0 1 = some 8 := by decide
  simp [LabelledSteps.run, restrict, framesFit, stereoCallback, stereoContext, step, frames,
    channels, first, second, setRoute, producerStep, consumerStep, RouterRoute.consumerStep,
    continueRead, RingSystem.step, RingSystem.initial, Ring.available, Ring.capacity, Ring.used,
    Ring.slotAt, PushCall.stopsEarly, PushCall.count, PushCall.input, PushCall.result,
    PopCall.stopsEarly, PopCall.count, PopCall.result, length]

/-- A stereo frame is recorded, and its sink reads it. -/
theorem router_rings_aligned_stereo :
    ∃ final, LabelledSteps.run (restrict framesFit step) (stereoContext (List.replicate 32768 0))
        stereoCallback = some final ∧
      final.outgoing.map (fun route => (route.channels, route.queue.pushed, route.frames)) =
        [(2, [7, 8], [[7, 8]])] ∧
      final.FramesAligned := by
  obtain ⟨final, ran, -, seen⟩ := run_stereoCallback (@List.length_replicate _ 32768 0)
  exact ⟨final, ran, seen, router_rings_aligned start_stereoContext (Reachable.start.run ran)⟩

/-! ## A list with too few channels -/

/-- One frame of one channel. -/
def monoList : AudioBufferList Nat where
  buffers := [⟨1, 4, some [7], by rintro _ ⟨⟩; rfl⟩]
  counted := by decide

/-- A callback with one mono frame. -/
def monoCallback : List (RouterAction Nat) :=
  [.callback (some monoList), .measure, .readSample, .loadRead, .writeSlot, .publishWrite,
    .readSample]

theorem run_monoCallback {samples : List Nat} (length : samples.length = 32768) :
    ∃ final, LabelledSteps.run step (stereoContext samples) monoCallback = some final ∧
      final.input = .idle ∧ final.outgoing.map (fun route =>
        (route.channels, route.queue.pushed)) = [(2, [7])] := by
  have frames : audioBufferListFrames monoList = some 1 := by decide
  have present : readAudioSample monoList 0 0 = some 7 := by decide
  have absent : readAudioSample monoList 0 1 = none := by decide
  simp [LabelledSteps.run, monoCallback, stereoContext, step, frames, present, absent, setRoute,
    producerStep, RingSystem.step, RingSystem.initial, Ring.available, Ring.capacity, Ring.used,
    Ring.slotAt, PushCall.stopsEarly, PushCall.count, PushCall.input, length]

/-- The callback leaves one sample of a stereo frame in the ring. -/
theorem channels_shifted :
    ¬ ∀ (sourceChannels : List UInt32) (first system : RouterSystem Nat),
      RouterSystem.start 0 sourceChannels = .ok first → Reachable step first system →
        system.input = .idle → system.Aligned := by
  intro claimed
  obtain ⟨final, ran, idle, seen⟩ := run_monoCallback (@List.length_replicate _ 32768 0)
  have aligned := claimed [2] _ final start_stereoContext (Reachable.start.run ran) idle
  obtain ⟨route, member, same⟩ := List.mem_map.mp (seen ▸ List.mem_singleton.mpr rfl)
  obtain ⟨channels, pushed⟩ := Prod.mk.inj same
  have divides := aligned route member
  rw [channels, pushed] at divides
  exact absurd divides (by decide)

end RouterSystem

end VCable
