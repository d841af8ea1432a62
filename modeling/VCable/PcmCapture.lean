import VCable.BoundedQueues
import VCable.PcmPlayback

/-!
# The queue of a capture stream

The callbacks of a capture stream offer the frames of their inputs, one after
the other, to a queue of as many frames as the stream has capacity for.  Only
whole frames come to the ring, and an input that does not fit leaves it alone.
-/

namespace VCable

open FallibleState FrameStreams

/-- The ring, the scratch frame and the counters of a capture stream stand for a
queue of frames. -/
structure CaptureState.Represents (capacityFrames : Nat) (state : CaptureState)
    (queue : BoundedQueue (List ℚ)) : Prop where
  fits : state.producer.Fits
  logical_eq : state.producer.logicalCapacitySamples = capacityFrames * state.producer.channels
  samples_eq : state.ring.samples = queue.waiting.flatten
  accepted_eq : state.ring.accepted = queue.entered.flatten
  sizes : ∀ frame ∈ queue.waiting, frame.length = state.producer.channels
  within : queue.waiting.length ≤ capacityFrames
  length_scratch : state.scratch.length = state.producer.channels
  transferred_eq : state.counters.transferredFrames = UInt64.ofNat queue.entered.length
  overrun_eq : state.counters.overrunFrames = UInt64.ofNat queue.refused

namespace CaptureState.Represents

variable {capacityFrames : Nat} {state : CaptureState} {queue : BoundedQueue (List ℚ)}

theorem pop (represents : state.Represents capacityFrames queue) (frames : Nat) :
    (state.pop frames).Represents capacityFrames (queue.take frames) :=
  { represents with
    fits := represents.fits
    samples_eq := by
      change state.ring.samples.drop _ = _
      rw [represents.samples_eq]
      exact drop_flatten_of_sizes represents.sizes frames
    sizes := fun frame member => represents.sizes frame (List.mem_of_mem_drop member)
    within := ((List.drop_suffix frames _).length_le).trans represents.within }

theorem look (represents : state.Represents capacityFrames queue) :
    state.look.Represents capacityFrames (queue.take (state.reading.headD 0)) ∧
      state.look.reading = state.reading.tail := by
  unfold CaptureState.look
  cases turns : state.reading with
  | nil => exact ⟨represents, turns⟩
  | cons frames reading =>
      have popped := represents.pop frames
      exact ⟨{ popped with fits := popped.fits }, rfl⟩

/-- There is capacity for a frame when the queue has a place. -/
theorem hasCapacityForFrame (represents : state.Represents capacityFrames queue) :
    state.producer.hasCapacityForFrame state.ring = true ↔
      queue.waiting.length < capacityFrames := by
  have positive := represents.fits.channels_pos
  have logical := represents.fits.logical_le
  have length : state.ring.samples.length = queue.waiting.length * state.producer.channels := by
    rw [represents.samples_eq, length_flatten_of_sizes represents.sizes]
  have filled : queue.waiting.length * state.producer.channels ≤
      capacityFrames * state.producer.channels := Nat.mul_le_mul_right _ represents.within
  have used : state.producer.capacity - state.producer.available state.ring =
      queue.waiting.length * state.producer.channels := by
    rw [PcmProducer.available, length]
    rw [represents.logical_eq] at logical
    omega
  rw [PcmProducer.hasCapacityForFrame, decide_eq_true_iff, used, represents.logical_eq,
    ← Nat.succ_mul]
  exact (Nat.mul_le_mul_right_iff positive).trans Nat.succ_le_iff

end CaptureState.Represents

/-! ## Calls of the callback -/

section Callbacks

open CaptureState

variable {capacityFrames frames : Nat} {state : CaptureState} {queue : BoundedQueue (List ℚ)}
  {input : AudioBufferList ℚ}

/-- The counters that the frames of an input leave. -/
def PcmCounters.recordings (counters : PcmCounters) : UInt64 × UInt64 × UInt64 :=
  (counters.callbacks, counters.underrunFrames, counters.formatErrors)

/-- The loop over the channels fills the scratch frame. -/
theorem captureSamples_apply (framed : audioBufferListFrames input = some frames)
    (wide : channelCount input.buffers = state.producer.channels)
    (length : state.scratch.length = state.producer.channels) {frameIndex : Nat}
    (within : frameIndex < frames) :
    (List.range state.producer.channels).forM (Capture.captureSample input frameIndex) state =
      (.ok (), { state with scratch := frameOf input state.producer.channels frameIndex }) := by
  obtain ⟨reached, looped, scratch, rfl, filled, samples⟩ :=
    @forM_range_ok CaptureState CallbackExit (Capture.captureSample input frameIndex)
      (fun count reached => ∃ scratch, reached = { state with scratch := scratch } ∧
        scratch.length = state.producer.channels ∧ ∀ channel < count,
          scratch[channel]? = some ((readAudioSample input frameIndex channel).getD 0))
      state.producer.channels state ⟨state.scratch, rfl, length, fun _ => nofun⟩ (by
        rintro channel channelWithin _ ⟨scratch, rfl, filled, samples⟩
        obtain ⟨sample, read⟩ := Option.isSome_iff_exists.mp
          ((isSome_readAudioSample framed within).mpr (wide ▸ channelWithin))
        refine ⟨_, ?_, scratch.set channel sample, rfl, by rw [List.length_set, filled], ?_⟩
        · rw [Capture.captureSample, read]
          refine Eq.trans (inspect_bind_apply rfl) ?_
          rw [if_pos (filled ▸ channelWithin)]
          rfl
        · intro other before
          rcases Nat.lt_succ_iff_lt_or_eq.mp before with earlier | rfl
          · rw [List.getElem?_set_ne earlier.ne', samples other earlier]
          · rw [List.getElem?_set_self (filled ▸ channelWithin), read, Option.getD_some])
  have scratchEq : scratch = frameOf input state.producer.channels frameIndex := by
    refine List.ext_getElem? fun channel => ?_
    rcases Nat.lt_or_ge channel state.producer.channels with early | late
    · rw [samples channel early, frameOf, List.getElem?_map, List.getElem?_range early]
      rfl
    · rw [List.getElem?_eq_none (filled ▸ late), List.getElem?_eq_none]
      rwa [length_frameOf]
  rw [looped, scratchEq]

/-- A pass of the loop over the frames offers a frame to the queue. -/
theorem CaptureState.Represents.captureFrame
    (represents : state.Represents capacityFrames queue)
    (framed : audioBufferListFrames input = some frames)
    (wide : channelCount input.buffers = state.producer.channels) {frameIndex : Nat}
    (within : frameIndex < frames) :
    ∃ reached, Capture.captureFrame input frameIndex state = (.ok (), reached) ∧
      reached.Represents capacityFrames ((queue.take (state.reading.headD 0)).offer capacityFrames
        (frameOf input state.producer.channels frameIndex)) ∧
      reached.reading = state.reading.tail ∧ reached.producer = state.producer ∧
      reached.counters.recordings = state.counters.recordings := by
  obtain ⟨looked, turns⟩ := represents.look
  have producerEq : state.look.producer = state.producer := by
    unfold CaptureState.look
    split <;> rfl
  have countersEq : state.look.counters = state.counters := by
    unfold CaptureState.look
    split <;> rfl
  have place := looked.hasCapacityForFrame
  have checked : Capture.hasCapacityForFrame state =
      (.ok (state.look.producer.hasCapacityForFrame state.look.ring), state.look) := rfl
  rw [BoundedQueue.offer]
  cases fits : state.look.producer.hasCapacityForFrame state.look.ring with
  | false =>
      rw [fits] at place checked
      have full : ¬ (queue.take (state.reading.headD 0)).waiting.length < capacityFrames :=
        fun room => Bool.false_ne_true (place.mpr room)
      rw [if_neg full]
      refine ⟨{ state.look with counters := state.look.counters.overrun 1 }, ?_, ?_, turns,
        producerEq, ?_⟩
      · rw [Capture.captureFrame]
        exact Eq.trans (bind_apply_ok checked) rfl
      · refine { looked with fits := looked.fits, overrun_eq := ?_ }
        rw [UInt64.ofNat_add]
        exact congrArg (· + 1) looked.overrun_eq
      · rw [← countersEq]
        rfl
  | true =>
      rw [fits] at place checked
      have room := place.mp rfl
      rw [if_pos room]
      have filled := captureSamples_apply framed (wide.trans (congrArg _ producerEq.symm))
        looked.length_scratch within
      have size : (frameOf input state.look.producer.channels frameIndex).length =
          state.look.producer.channels := by
        exact length_frameOf _ _ _
      have pushed : state.look.producer.pushSlice
          (frameOf input state.look.producer.channels frameIndex) state.look.ring =
          { samples := state.look.ring.samples ++
              frameOf input state.look.producer.channels frameIndex
            accepted := state.look.ring.accepted ++
              frameOf input state.look.producer.channels frameIndex } := by
        refine pushSlice_of_fits ?_
        have fitting := of_decide_eq_true fits
        have logical := looked.fits.logical_le
        rw [PcmProducer.available] at fitting
        rw [size]
        have positive := looked.fits.channels_pos
        omega
      refine ⟨{ state.look with
        ring := state.look.producer.pushSlice
          (frameOf input state.look.producer.channels frameIndex) state.look.ring
        scratch := frameOf input state.look.producer.channels frameIndex
        counters := state.look.counters.transferred 1 }, ?_, ?_, turns, producerEq, ?_⟩
      · rw [Capture.captureFrame]
        exact Eq.trans (bind_apply_ok checked) (Eq.trans (inspect_bind_apply rfl)
          (Eq.trans (bind_apply_ok filled) rfl))
      · rw [pushed, ← producerEq]
        exact
          { fits := looked.fits
            logical_eq := looked.logical_eq
            samples_eq := by rw [List.flatten_append, ← looked.samples_eq, List.flatten_singleton]
            accepted_eq := by rw [List.flatten_append, ← looked.accepted_eq, List.flatten_singleton]
            sizes := by
              intro frame member
              rcases List.mem_append.mp member with earlier | fresh
              · exact looked.sizes frame earlier
              · rw [List.mem_singleton.mp fresh]
                exact size
            within := by
              rw [List.length_append]
              exact room
            length_scratch := size
            transferred_eq := by
              rw [List.length_append, UInt64.ofNat_add]
              exact congrArg (· + 1) looked.transferred_eq
            overrun_eq := looked.overrun_eq }
      · rw [← countersEq]
        rfl

/-- The loop over the frames of the input. -/
theorem CaptureState.Represents.captureFrames
    (represents : state.Represents capacityFrames queue)
    (framed : audioBufferListFrames input = some frames)
    (wide : channelCount input.buffers = state.producer.channels) :
    ∃ reached, (List.range frames).forM (Capture.captureFrame input) state = (.ok (), reached) ∧
      reached.Represents capacityFrames (queue.offers capacityFrames state.reading
        (listFrames frames state.producer.channels input)) ∧
      reached.producer = state.producer ∧
      reached.counters.recordings = state.counters.recordings := by
  have passes : ∀ (indices : List Nat), (∀ index ∈ indices, index < frames) →
      ∀ {state : CaptureState} {queue : BoundedQueue (List ℚ)},
      state.Represents capacityFrames queue → channelCount input.buffers = state.producer.channels →
      ∃ reached, indices.forM (Capture.captureFrame input) state = (.ok (), reached) ∧
        reached.Represents capacityFrames (queue.offers capacityFrames state.reading
          (indices.map (frameOf input state.producer.channels))) ∧
        reached.producer = state.producer ∧
        reached.counters.recordings = state.counters.recordings := by
    intro indices
    induction indices with
    | nil =>
        intro _ state queue represents _
        refine ⟨state, rfl, ?_, rfl, rfl⟩
        rw [List.map_nil, BoundedQueue.offers]
        exact represents
    | cons index indices ih =>
        intro within state queue represents wide
        rw [List.forall_mem_cons] at within
        obtain ⟨middle, pass, offered, turns, producerEq, calls⟩ :=
          represents.captureFrame framed wide within.1
        obtain ⟨reached, looped, finished, lastProducer, lastCalls⟩ := ih within.2 offered
          (producerEq.symm ▸ wide)
        refine ⟨reached, (forM_cons_apply pass).trans looped, ?_, lastProducer.trans producerEq,
          lastCalls.trans calls⟩
        rw [turns, producerEq] at finished
        rw [List.map_cons, BoundedQueue.offers_cons]
        exact finished
  exact passes (List.range frames) (fun index => List.mem_range.mp) represents wide

theorem heardFrames_of_fits {channels : Nat} {input : Option (AudioBufferList ℚ)}
    {list : AudioBufferList ℚ} (fits : fittingFrames channels input = some frames)
    (pointed : input = some list) :
    heardFrames channels input = listFrames frames channels list := by
  rw [heardFrames, fits, pointed]
  rfl

/-- An input that fits is offered to the queue. -/
theorem CaptureState.Represents.captureIoProc
    (represents : state.Represents capacityFrames queue) {input : Option (AudioBufferList ℚ)}
    (fits : fittingFrames state.producer.channels input = some frames) :
    ∃ reached, captureIoProc input state = (.ok (), reached) ∧
      reached.Represents capacityFrames (queue.offers capacityFrames state.reading
        (heardFrames state.producer.channels input)) ∧
      reached.producer = state.producer ∧
      reached.counters.recordings = state.counters.callback.recordings := by
  obtain ⟨list, pointed, wide, framed⟩ := fittingFrames_eq_some fits
  have counted : CaptureState.Represents capacityFrames
      { state with counters := state.counters.callback } queue :=
    { represents with fits := represents.fits }
  obtain ⟨reached, looped, offered, producerEq, calls⟩ := counted.captureFrames framed wide
  refine ⟨reached, ?_, ?_, producerEq, calls⟩
  · have channels : audioBufferListChannels list = some state.producer.channels := by
      rw [audioBufferListChannels_eq, wide]
    rw [pointed]
    unfold VCable.captureIoProc
    refine Eq.trans change_bind_apply ?_
    dsimp only
    rw [framed]
    refine Eq.trans (inspect_bind_apply rfl) ?_
    rw [if_neg (not_not.mpr channels)]
    exact looped
  · rw [heardFrames_of_fits fits pointed]
    exact offered

/-- Any other input is not recorded. -/
theorem captureIoProc_of_unfit {input : Option (AudioBufferList ℚ)}
    (unfit : fittingFrames state.producer.channels input = none) :
    captureIoProc input state = (.error .returned,
      { state with counters := state.counters.callback.formatError }) := by
  unfold captureIoProc
  refine Eq.trans change_bind_apply ?_
  cases input with
  | none => rfl
  | some list =>
      rw [fittingFrames, Option.bind_some] at unfit
      dsimp only
      cases framed : audioBufferListFrames list with
      | none => rfl
      | some frames =>
          have other : audioBufferListChannels list ≠ some state.producer.channels := by
            intro same
            rw [if_pos same, framed] at unfit
            cases unfit
          refine Eq.trans (inspect_bind_apply rfl) ?_
          rw [if_pos other]
          rfl

end Callbacks

/-! ## Runs -/

inductive CaptureEvent where
  | pop (frames : Nat)
  /-- A call of the callback, with the numbers of frames that the reader pops
  before each of its looks at the ring. -/
  | callback (input : Option (AudioBufferList ℚ)) (reading : List Nat)

namespace CaptureEvent

/-- The frames of an input that fits. -/
def offered (channels : Nat) : CaptureEvent → List (List ℚ)
  | .pop _ => []
  | .callback input _ => heardFrames channels input

def isCallback : CaptureEvent → Bool
  | .pop _ => false
  | .callback _ _ => true

/-- A callback with an input that does not fit. -/
def isUnfit (channels : Nat) : CaptureEvent → Bool
  | .pop _ => false
  | .callback input _ => (fittingFrames channels input).isNone

/-- What the queue makes of an event. -/
def queueStep (capacityFrames channels : Nat) (queue : BoundedQueue (List ℚ)) :
    CaptureEvent → BoundedQueue (List ℚ)
  | .pop frames => queue.take frames
  | .callback input reading =>
      queue.offers capacityFrames reading (heardFrames channels input)

end CaptureEvent

namespace CaptureState

/-- The stream that `PcmCaptureStream::start` makes. -/
def start (validated : ValidatedConfig) : CaptureState where
  producer :=
    { capacity := validated.internalSampleCapacity
      channels := validated.channels
      logicalCapacitySamples := validated.logicalCapacitySamples }
  ring := ⟨[], []⟩
  reading := []
  scratch := List.replicate validated.channels 0
  counters := .new

def step (state : CaptureState) : CaptureEvent → CaptureState
  | .pop frames => state.pop frames
  | .callback input reading => (captureIoProc input { state with reading := reading }).2

def run (start : CaptureState) (events : List CaptureEvent) : CaptureState :=
  events.foldl step start

/-- The state after events, with the queue that it represents. -/
structure Records (capacityFrames : Nat) (producer : PcmProducer) (events : List CaptureEvent)
    (state : CaptureState) (queue : BoundedQueue (List ℚ)) : Prop where
  represents : state.Represents capacityFrames queue
  producer_eq : state.producer = producer
  accounts : queue.Accounts capacityFrames (events.flatMap (·.offered producer.channels))
  recordings_eq : state.counters.recordings =
    (UInt64.ofNat (events.countP CaptureEvent.isCallback), 0,
      UInt64.ofNat (events.countP (CaptureEvent.isUnfit producer.channels)))

variable {capacityFrames : Nat} {producer : PcmProducer} {events : List CaptureEvent}
  {state : CaptureState} {queue : BoundedQueue (List ℚ)}

theorem Records.callback_fits (records : Records capacityFrames producer events state queue)
    {input : Option (AudioBufferList ℚ)} {frames : Nat}
    (fits : fittingFrames producer.channels input = some frames) (reading : List Nat) :
    (captureIoProc input { state with reading := reading }).1 = .ok () ∧
      Records capacityFrames producer (events ++ [.callback input reading])
        (state.step (.callback input reading))
        (CaptureEvent.queueStep capacityFrames producer.channels queue
          (.callback input reading)) := by
  have represents :
      CaptureState.Represents capacityFrames { state with reading := reading } queue :=
    { records.represents with fits := records.represents.fits }
  obtain ⟨reached, called, offered, producerEq, calls⟩ :=
    represents.captureIoProc (records.producer_eq.symm ▸ fits)
  rw [step, called]
  refine ⟨rfl, ?_, producerEq.trans records.producer_eq, ?_, ?_⟩
  · rw [← records.producer_eq]
    exact offered
  · rw [List.flatMap_append, List.flatMap_singleton]
    exact records.accounts.offers reading _
  · have before := records.recordings_eq
    rw [PcmCounters.recordings, Prod.mk.injEq, Prod.mk.injEq] at before
    rw [List.countP_append, List.countP_append, UInt64.ofNat_add, UInt64.ofNat_add,
      ← before.1, ← before.2.2]
    refine calls.trans ?_
    simp [CaptureEvent.isCallback, CaptureEvent.isUnfit, fits, PcmCounters.recordings,
      PcmCounters.callback, before.2.1]

theorem Records.callback_unfit (records : Records capacityFrames producer events state queue)
    {input : Option (AudioBufferList ℚ)}
    (unfit : fittingFrames producer.channels input = none) (reading : List Nat) :
    captureIoProc input { state with reading := reading } = (.error .returned,
        { state with
          reading := reading
          counters := state.counters.callback.formatError }) ∧
      Records capacityFrames producer (events ++ [.callback input reading])
        (state.step (.callback input reading))
        (CaptureEvent.queueStep capacityFrames producer.channels queue
          (.callback input reading)) := by
  have called := @captureIoProc_of_unfit { state with reading := reading } input
    (records.producer_eq.symm ▸ unfit)
  have nothing : heardFrames producer.channels input = [] := by
    rw [heardFrames, unfit]
    rfl
  refine ⟨called, ?_⟩
  rw [step, called, CaptureEvent.queueStep, nothing, BoundedQueue.offers]
  refine ⟨{ records.represents with fits := records.represents.fits }, records.producer_eq, ?_, ?_⟩
  · rw [List.flatMap_append, List.flatMap_singleton, CaptureEvent.offered, nothing, List.append_nil]
    exact records.accounts
  · have before := records.recordings_eq
    rw [PcmCounters.recordings, Prod.mk.injEq, Prod.mk.injEq] at before
    rw [List.countP_append, List.countP_append, UInt64.ofNat_add, UInt64.ofNat_add,
      ← before.1, ← before.2.2]
    simp [CaptureEvent.isCallback, CaptureEvent.isUnfit, unfit, PcmCounters.recordings,
      PcmCounters.callback, PcmCounters.formatError, before.2.1]

theorem Records.step (records : Records capacityFrames producer events state queue)
    (event : CaptureEvent) :
    Records capacityFrames producer (events ++ [event]) (state.step event)
      (event.queueStep capacityFrames producer.channels queue) := by
  cases event with
  | pop frames =>
      refine ⟨records.represents.pop frames, records.producer_eq, ?_, ?_⟩
      · rw [List.flatMap_append, List.flatMap_singleton, CaptureEvent.offered, List.append_nil]
        exact records.accounts.take frames
      · rw [List.countP_append, List.countP_append]
        exact records.recordings_eq
  | callback input reading =>
      cases fits : fittingFrames producer.channels input with
      | some frames => exact (records.callback_fits fits reading).2
      | none => exact (records.callback_unfit fits reading).2

theorem records_start {config : PcmStreamConfig} {validated : ValidatedConfig}
    (valid : config.Valid validated) :
    Records config.capacityFrames (start validated).producer [] (start validated) .empty where
  represents :=
    { fits := ⟨valid.channels_pos, valid.logical_le⟩
      logical_eq := valid.logical_eq
      samples_eq := rfl
      accepted_eq := rfl
      sizes := nofun
      within := Nat.zero_le _
      length_scratch := List.length_replicate
      transferred_eq := rfl
      overrun_eq := rfl }
  producer_eq := rfl
  accounts := .empty _
  recordings_eq := rfl

theorem records_run {config : PcmStreamConfig} {validated : ValidatedConfig}
    (valid : config.Valid validated) (events : List CaptureEvent) :
    Records config.capacityFrames (start validated).producer events ((start validated).run events)
      (events.foldl (CaptureEvent.queueStep config.capacityFrames validated.channels) .empty) := by
  induction events using List.reverseRecOn with
  | nil => exact records_start valid
  | append_singleton events event ih =>
      rw [CaptureState.run, List.foldl_append, List.foldl_append]
      exact ih.step event

end CaptureState

/-- A capture stream is a queue of as many frames as it has capacity for: over
any sequence of callbacks and pops its ring holds the waiting frames one after
the other, its counters say how many frames entered the queue and how many were
refused, and these are all frames of the inputs that fit.  A callback comes to
its end exactly when its input fits; any other input changes two counters only. -/
theorem capture_refines_queue {w : Nat} {config : PcmStreamConfig} {validated : ValidatedConfig}
    (accepted : validateConfig w config = .ok validated) (events : List CaptureEvent) :
    let state := (CaptureState.start validated).run events
    let queue := events.foldl
      (CaptureEvent.queueStep config.capacityFrames validated.channels) .empty
    state.ring.samples = queue.waiting.flatten ∧
    (∀ frame ∈ queue.waiting, frame.length = validated.channels) ∧
    state.ring.accepted = queue.entered.flatten ∧
    queue.Accounts config.capacityFrames (events.flatMap (·.offered validated.channels)) ∧
    state.counters =
      { callbacks := UInt64.ofNat (events.countP CaptureEvent.isCallback)
        transferredFrames := UInt64.ofNat queue.entered.length
        underrunFrames := 0
        overrunFrames := UInt64.ofNat queue.refused
        formatErrors := UInt64.ofNat (events.countP (CaptureEvent.isUnfit validated.channels)) } ∧
    ∀ input reading,
      ((captureIoProc input { state with reading := reading }).1 = .ok () ↔
        (fittingFrames validated.channels input).isSome) ∧
      (fittingFrames validated.channels input = none →
        captureIoProc input { state with reading := reading } = (.error .returned,
          { state with
            reading := reading
            counters := state.counters.callback.formatError })) := by
  intro state queue
  have records := CaptureState.records_run (validateConfig_valid accepted) events
  have represents := records.represents
  refine ⟨represents.samples_eq, fun frame member => ?_, represents.accepted_eq, records.accounts,
    ?_, fun input reading => ?_⟩
  · exact (represents.sizes frame member).trans (congrArg _ records.producer_eq)
  · rw [← represents.transferred_eq, ← represents.overrun_eq]
    exact congrArg (fun calls : UInt64 × UInt64 × UInt64 =>
      PcmCounters.mk calls.1 state.counters.transferredFrames calls.2.1
        state.counters.overrunFrames calls.2.2) records.recordings_eq
  · cases fits : fittingFrames validated.channels input with
    | some frames => exact ⟨iff_of_true (records.callback_fits fits reading).1 rfl, nofun⟩
    | none =>
        have rejected := (records.callback_unfit fits reading).1
        refine ⟨iff_of_false ?_ Bool.false_ne_true, fun _ => rejected⟩
        rw [show captureIoProc input { state with reading := reading } = _ from rejected]
        nofun

/-- Three frames of one channel. -/
def monoRecording : AudioBufferList ℚ where
  buffers :=
    [{ numberChannels := 1, dataByteSize := 12, data := some [5, 6, 7],
       sized := fun _ same => Option.some.inj same ▸ rfl }]
  counted := by decide

/-- A stream of one channel and two frames: of three recorded frames the last one
is refused, and the first one is popped.  A missing input is an error. -/
theorem capture_refines_queue_mono :
    let state := (CaptureState.start ⟨1, 2, 2⟩).run [.callback (some monoRecording) [], .pop 1]
    state.ring.samples = [6] ∧ state.ring.accepted = [5, 6] ∧
      state.counters.transferredFrames = 2 ∧ state.counters.overrunFrames = 1 ∧
      captureIoProc none { state with reading := [] } = (.error .returned,
        { state with reading := [], counters := state.counters.callback.formatError }) := by
  have accepted : validateConfig 64 ⟨"vcable", ⟨48000, 1⟩, 2, 1, 0⟩ = .ok ⟨1, 2, 2⟩ := by
    decide +kernel
  obtain ⟨samples, -, entered, -, counters, callbacks⟩ :=
    capture_refines_queue accepted [.callback (some monoRecording) [], .pop 1]
  have queued : [CaptureEvent.callback (some monoRecording) [], .pop 1].foldl
      (CaptureEvent.queueStep 2 1) .empty = ⟨[[6]], [[5], [6]], 1⟩ := by
    rfl
  refine ⟨samples.trans ?_, entered.trans ?_, ?_, ?_, (callbacks none []).2 rfl⟩
  · exact congrArg (fun queue : BoundedQueue (List ℚ) => queue.waiting.flatten) queued
  · exact congrArg (fun queue : BoundedQueue (List ℚ) => queue.entered.flatten) queued
  · rw [counters, queued]
    rfl
  · rw [counters, queued]
    rfl

end VCable
