import VCable.PcmLoopbackSides

/-!
# From a playback stream to a capture stream

A process writes to a playback stream of a device and reads from a capture
stream of the same device.  The host calls the callbacks and the driver, with
sample times that go on from call to call on either side.  Without drift control
and at equal rates the frames that were written are read in order, none of them
lost, repeated or altered, with nothing but silence in between.
-/

namespace VCable

open FrameStreams

/-! ## The system -/

/-- The two streams, the device between them, and the sample times at which the
host goes on.  The pending frames are those of a capture callback that is not
over. -/
structure LoopbackSystem where
  playback : PlaybackRun
  device : LoopbackRun
  outputTime : Nat
  inputTime : Nat
  capture : PcmStream
  pending : List (List ℚ)

inductive LoopbackEvent where
  | write (pcm : List ℚ)
  /-- A cycle of the output side, with the buffers that the process writes
  before each look of the callback at its ring. -/
  | play (count : UInt32) (arriving : List (List (List ℚ)))
  /-- A cycle of the input side, up to the frames of the callback. -/
  | record (count : UInt32)
  /-- The callback has its next frame come to the ring. -/
  | captureFrame
  /-- A call of `next_frame` by the reader, with the numbers of frames that the
  callback has come to the ring before each of its looks at it. -/
  | nextFrame (batches : List Nat)

/-- The frames that arrive in batches. -/
def batchesOf : List Nat → List (List ℚ) → List (List PcmWrite)
  | [], _ => []
  | count :: counts, frames =>
      (frames.take count).map capturedWrite :: batchesOf counts (frames.drop count)

namespace LoopbackSystem

variable (encode : ℚ → UInt32) (decode : UInt32 → ℚ)

/-- The host calls the playback callback with a buffer of the device's format,
and then the driver's `WriteMix`. -/
def play (system : LoopbackSystem) (count : UInt32) (arriving : List (List (List ℚ))) :
    Option LoopbackSystem :=
  let channels := system.device.device.outputChannels
  let output := some (interleavedList channels (List.replicate (count.toNat * channels.toNat) 0))
  let writes := arriving.map (·.map PcmWrite.interleaved)
  match system.playback.callback output writes with
  | (.error _, _) => none
  | (.ok (), after) =>
      let samples := (heardFrames channels.toNat after.output).flatten.map encode
      (system.device.step (.write (UInt64.ofNat system.outputTime) count (some samples))).map
        fun device =>
          { system with
            playback := system.playback.step (.callback output writes)
            device := device
            outputTime := system.outputTime + count.toNat }

/-- The host calls the driver's `ReadInput`, and then the capture callback with
what was read. -/
def record (system : LoopbackSystem) (count : UInt32) : Option LoopbackSystem :=
  let channels := system.device.device.inputChannels
  match system.device.device.read (UInt64.ofNat system.inputTime) count
      (some (List.replicate (count.toNat * channels.toNat) 0)) with
  | some (device, some samples) =>
      let input := some (interleavedList channels (samples.map decode))
      some
        { system with
          device := { system.device with device := device }
          inputTime := system.inputTime + count.toNat
          pending := system.pending ++ heardFrames channels.toNat input }
  | _ => none

def captureFrame (system : LoopbackSystem) : LoopbackSystem :=
  match system.pending with
  | [] => system
  | frame :: pending =>
      { system with
        capture := system.capture.step (.write (capturedWrite frame))
        pending := pending }

def nextFrame (system : LoopbackSystem) (batches : List Nat) : LoopbackSystem :=
  let arriving := batchesOf batches system.pending
  let call := (system.capture.call arriving).prepareNextFrame.2
  let arrived := (arriving.take (arriving.length - call.arriving.length)).flatten.length
  { system with
    capture := system.capture.step (.nextFrame arriving)
    pending := system.pending.drop arrived }

/-- There is no result when an access is out of bounds, or when the playback
callback does not come to its end. -/
def step (system : LoopbackSystem) : LoopbackEvent → Option LoopbackSystem
  | .write pcm =>
      some { system with playback := system.playback.step (.write (.interleaved pcm)) }
  | .play count arriving => system.play encode count arriving
  | .record count => system.record decode count
  | .captureFrame => some system.captureFrame
  | .nextFrame batches => some (system.nextFrame batches)

def run (system : LoopbackSystem) (events : List LoopbackEvent) : Option LoopbackSystem :=
  events.foldlM (step encode decode) system

/-- What the process and the host keep to: samples are numbers of the driver's
format, the host reads what is written and not yet written over, one callback
after the other, and the process keeps up with reading. -/
def Allowed (system : LoopbackSystem) : LoopbackEvent → Prop
  | .write pcm => ∀ sample ∈ pcm, decode (encode sample) = sample
  | .play count arriving =>
      (∀ pcm ∈ arriving.flatten, ∀ sample ∈ pcm, decode (encode sample) = sample) ∧
      system.outputTime + count.toNat + 512 < 2 ^ 64 ∧
      4 * (count.toNat * system.device.device.outputChannels.toNat) < 2 ^ 32
  | .record count =>
      system.pending = [] ∧
      system.inputTime + count.toNat ≤ system.outputTime + 512 ∧
      system.outputTime + 512 ≤ system.inputTime + kRingFrames ∧
      system.outputTime + 512 < 2 ^ 64 ∧
      4 * (count.toNat * system.device.device.inputChannels.toNat) < 2 ^ 32 ∧
      system.capture.ring.samples.length + count.toNat * system.capture.producer.channels ≤
        system.capture.producer.logicalCapacitySamples
  | .captureFrame => True
  | .nextFrame _ => True

def AllowedRun : LoopbackSystem → List LoopbackEvent → Prop
  | _, [] => True
  | system, event :: events =>
      Allowed encode decode system event ∧
        ∀ next, step encode decode system event = some next → AllowedRun next events

/-- Two new streams on a new device, and the sample times at which the host
starts. -/
def start (playbackConfig captureConfig : PcmStreamConfig)
    (playbackValidated captureValidated : ValidatedConfig) (deviceRate : UInt32)
    (outputStart inputStart : Nat) : LoopbackSystem where
  playback := .start playbackConfig playbackValidated deviceRate
  device :=
    { device := .new playbackConfig.clientFormat.channels playbackConfig.clientFormat.channels
      log := [] }
  outputTime := outputStart
  inputTime := inputStart
  capture := .start captureConfig captureValidated .input deviceRate
  pending := []

end LoopbackSystem

/-! ## What is heard where -/

/-- A frame that was played, or silence. -/
def orSilence (channels : Nat) (frame : Option (List ℚ)) : List ℚ :=
  frame.getD (List.replicate channels 0)

/-- What is heard at a position of the input side. -/
def soundAt (outputStart : Nat) (played : List (Option (List ℚ))) (position : Nat) :
    Option (List ℚ) :=
  if outputStart + 512 ≤ position then played.getD (position - 512 - outputStart) none else none

/-- What is heard from a position on. -/
def soundFrom (outputStart start : Nat) (played : List (Option (List ℚ))) (count : Nat) :
    List (Option (List ℚ)) :=
  (List.range count).map fun index => soundAt outputStart played (start + index)

theorem soundFrom_append (outputStart start : Nat) (played more : List (Option (List ℚ)))
    {count : Nat} (heard : start + count ≤ outputStart + played.length + 512) :
    soundFrom outputStart start (played ++ more) count =
      soundFrom outputStart start played count := by
  refine List.map_congr_left fun index within => ?_
  have early := List.mem_range.mp within
  rw [soundAt, soundAt]
  by_cases late : outputStart + 512 ≤ start + index
  · rw [if_pos late, if_pos late, List.getD_append _ _ _ _ (by omega)]
  · rw [if_neg late, if_neg late]

theorem soundFrom_add (outputStart start : Nat) (played : List (Option (List ℚ)))
    (count more : Nat) :
    soundFrom outputStart start played (count + more) =
      soundFrom outputStart start played count ++
        soundFrom outputStart (start + count) played more := by
  rw [soundFrom, List.range_add, List.map_append, List.map_map, soundFrom, soundFrom]
  refine congrArg (_ ++ ·) (List.map_congr_left fun index _ => ?_)
  rw [Function.comp_apply, Nat.add_assoc]

/-- The frames of a run, from the playback stream on to the capture stream. -/
structure LoopbackSystem.Carries (encode : ℚ → UInt32) (decode : UInt32 → ℚ)
    (playbackConfig captureConfig : PcmStreamConfig) (producer : PcmProducer) (threshold : Nat)
    (outputStart inputStart : Nat) (system : LoopbackSystem)
    (played : List (Option (List ℚ))) : Prop where
  plays : HasPlayed producer threshold system.playback.stream system.playback.counters played
  playback : Lossless playbackConfig system.playback.stream
  numbers : ∀ sample ∈ system.playback.stream.ring.accepted, decode (encode sample) = sample
  tracks : Tracks system.device
  logged : system.device.log = loggedFrames outputStart
    (played.map fun frame => (orSilence producer.channels frame).map encode)
  active : (system.device.device.inputActive, system.device.device.outputActive) = (true, true)
  sameChannels : system.device.device.inputChannels = system.device.device.outputChannels
  channels_eq : system.device.device.outputChannels.toNat = producer.channels
  outputTime_eq : system.outputTime = outputStart + played.length
  inputTime_ge : inputStart ≤ system.inputTime
  inputTime_le : system.inputTime ≤ system.outputTime + 512
  capture : Lossless captureConfig system.capture
  captureChannels_eq : system.capture.producer.channels = producer.channels
  sizes : ∀ frame ∈ system.pending, frame.length = producer.channels
  room : system.capture.ring.samples.length + system.pending.length * producer.channels ≤
    system.capture.producer.logicalCapacitySamples
  recorded : system.capture.ring.accepted ++ system.pending.flatten =
    ((soundFrom outputStart inputStart played (system.inputTime - inputStart)).map
      (orSilence producer.channels)).flatten

namespace LoopbackSystem.Carries

variable {encode : ℚ → UInt32} {decode : UInt32 → ℚ}
  {playbackConfig captureConfig : PcmStreamConfig} {producer : PcmProducer} {threshold : Nat}
  {outputStart inputStart : Nat} {system : LoopbackSystem} {played : List (Option (List ℚ))}

theorem channels_pos (carries : Carries encode decode playbackConfig captureConfig producer
    threshold outputStart inputStart system played) : 0 < producer.channels := by
  rw [← carries.captureChannels_eq]
  exact carries.capture.reading_at_length.fits.channels_pos

theorem write (carries : Carries encode decode playbackConfig captureConfig producer
      threshold outputStart inputStart system played) {pcm : List ℚ}
    (numbers : ∀ sample ∈ pcm, decode (encode sample) = sample) :
    Carries encode decode playbackConfig captureConfig producer threshold outputStart inputStart
      { system with playback := system.playback.step (.write (.interleaved pcm)) } played :=
  { carries with
    plays := carries.plays.write (.interleaved pcm)
    playback := carries.playback.write (.interleaved pcm)
    numbers := by
      intro sample member
      rcases mem_accepted_apply member with earlier | fresh
      · exact carries.numbers sample earlier
      · exact numbers sample fresh }

theorem captureFrame (carries : Carries encode decode playbackConfig captureConfig producer
      threshold outputStart inputStart system played) :
    Carries encode decode playbackConfig captureConfig producer threshold outputStart inputStart
      system.captureFrame played := by
  unfold LoopbackSystem.captureFrame
  split
  · exact carries
  rename_i frame pending pendingEq
  have sizes := carries.sizes
  have room := carries.room
  have recorded := carries.recorded
  rw [pendingEq] at sizes room recorded
  rw [List.forall_mem_cons] at sizes
  rw [List.length_cons, Nat.succ_mul] at room
  have fits := carries.capture.reading_at_length.fits
  have folded := @foldl_captured system.capture.producer fits [capturedWrite frame] (by
    intro write member
    exact ⟨frame, List.mem_singleton.mp member⟩) system.capture.ring (by
      rw [List.length_singleton, carries.captureChannels_eq]
      omega)
  rw [List.foldl_cons, List.foldl_nil, List.flatMap_singleton, carries.captureChannels_eq,
    offeredSamples_capturedWrite sizes.1] at folded
  refine { carries with
    capture := carries.capture.write (capturedWrite frame)
    sizes := sizes.2
    room := ?_
    recorded := ?_ }
  · change
      ((capturedWrite frame).apply system.capture.producer system.capture.ring).samples.length +
        pending.length * producer.channels ≤ system.capture.producer.logicalCapacitySamples
    rw [folded, List.length_append, sizes.1]
    omega
  · change ((capturedWrite frame).apply system.capture.producer system.capture.ring).accepted ++
      _ = _
    rw [folded, ← recorded, List.flatten_cons, List.append_assoc]

theorem batchesOf_prefix (batches : List Nat) (frames : List (List ℚ)) :
    (batchesOf batches frames).flatten <+: frames.map capturedWrite := by
  induction batches generalizing frames with
  | nil => exact List.nil_prefix
  | cons count batches ih =>
      rw [batchesOf, List.flatten_cons, ← List.take_append_drop count frames, List.map_append,
        List.take_append_drop]
      exact (List.prefix_append_right_inj _).mpr (ih (frames.drop count))

theorem nextFrame (carries : Carries encode decode playbackConfig captureConfig producer
      threshold outputStart inputStart system played) (noDrift : captureConfig.maxDriftPpm = 0)
    (batches : List Nat) :
    Carries encode decode playbackConfig captureConfig producer threshold outputStart inputStart
      (system.nextFrame batches) played := by
  unfold LoopbackSystem.nextFrame
  have starts := batchesOf_prefix batches system.pending
  generalize batchesOf batches system.pending = arriving at starts ⊢
  have call : (system.capture.call arriving).Room := by
    refine ⟨carries.capture.reading_at_length.fits, fun write member => ?_, ?_⟩
    · obtain ⟨frame, _, rfl⟩ := List.mem_map.mp (starts.subset member)
      exact ⟨frame, rfl⟩
    · have few := starts.length_le
      rw [List.length_map] at few
      have within := Nat.mul_le_mul_right producer.channels few
      have room := carries.room
      change system.capture.ring.samples.length + arriving.flatten.length *
        system.capture.producer.channels ≤ system.capture.producer.logicalCapacitySamples
      rw [carries.captureChannels_eq]
      omega
  obtain ⟨consumed, arrived⟩ := PcmCall.composes_arrived.prepareNextFrame _ call
  have accepted := arrived.accepted_eq
  have length := arrived.length_le
  have split : arriving =
      consumed ++ (system.capture.call arriving).prepareNextFrame.2.arriving := arrived.arriving_eq
  have channels : (system.capture.call arriving).producer.channels = producer.channels :=
    carries.captureChannels_eq
  -- The batches that the call took, as frames of the callback.
  have consumedEq : consumed.flatten =
      (system.pending.take consumed.flatten.length).map capturedWrite := by
    have first : consumed.flatten <+: system.pending.map capturedWrite := by
      refine List.IsPrefix.trans ?_ starts
      rw [split, List.flatten_append]
      exact List.prefix_append _ _
    rw [List.map_take]
    exact List.prefix_iff_eq_take.mp first
  have taken : (system.pending.take consumed.flatten.length).length = consumed.flatten.length := by
    have lengths := congrArg List.length consumedEq
    rw [List.length_map] at lengths
    exact lengths.symm
  rw [channels, consumedEq, flatMap_offeredSamples fun frame member =>
    carries.sizes frame (List.mem_of_mem_take member)] at accepted
  rw [channels] at length
  have count : arriving.take (arriving.length -
      (system.capture.call arriving).prepareNextFrame.2.arriving.length) = consumed := by
    have lengths := congrArg List.length split
    rw [List.length_append] at lengths
    have difference : arriving.length -
        (system.capture.call arriving).prepareNextFrame.2.arriving.length = consumed.length := by
      omega
    rw [difference]
    conv_lhs => rw [split]
    exact List.take_left
  dsimp only
  rw [count]
  refine { carries with
    capture := carries.capture.nextFrame noDrift _
    sizes := fun frame member => carries.sizes frame (List.mem_of_mem_drop member)
    room := ?_
    recorded := ?_ }
  · have room := carries.room
    have total : consumed.flatten.length * producer.channels +
        (system.pending.drop consumed.flatten.length).length * producer.channels =
        system.pending.length * producer.channels := by
      have lengths := congrArg List.length
        (List.take_append_drop consumed.flatten.length system.pending)
      rw [List.length_append, taken] at lengths
      rw [← Nat.add_mul, lengths]
    change (system.capture.call arriving).prepareNextFrame.2.ring.samples.length +
      (system.pending.drop consumed.flatten.length).length * producer.channels ≤
        system.capture.producer.logicalCapacitySamples
    change (system.capture.call arriving).prepareNextFrame.2.ring.samples.length ≤
      system.capture.ring.samples.length + _ at length
    omega
  · change (system.capture.call arriving).prepareNextFrame.2.ring.accepted ++
      (system.pending.drop consumed.flatten.length).flatten = _
    rw [accepted, ← carries.recorded, List.append_assoc, ← List.flatten_append,
      List.take_append_drop]
    rfl

theorem length_orSilence (carries : Carries encode decode playbackConfig captureConfig producer
      threshold outputStart inputStart system played) {frame : Option (List ℚ)}
    (member : frame ∈ played) : (orSilence producer.channels frame).length = producer.channels := by
  cases frame with
  | none => exact List.length_replicate
  | some frame => exact carries.plays.sizes frame member

/-- What was played is made of the numbers that were written. -/
theorem numbers_orSilence (carries : Carries encode decode playbackConfig captureConfig producer
      threshold outputStart inputStart system played) (zero : decode (encode 0) = 0)
    {frame : Option (List ℚ)} (member : frame ∈ played) :
    ∀ sample ∈ orSilence producer.channels frame, decode (encode sample) = sample := by
  intro sample among
  cases frame with
  | none => rwa [List.eq_of_mem_replicate among]
  | some frame =>
      have delivered : frame ∈ system.playback.stream.acceptedFrames := by
        rw [carries.playback.acceptedFrames_eq, carries.plays.delivered_eq]
        exact List.mem_append_left _ (List.reduceOption_mem_iff.mpr member)
      obtain ⟨index, _, rfl⟩ := List.mem_map.mp delivered
      exact carries.numbers sample (List.mem_of_mem_drop (List.mem_of_mem_take among))

theorem play (carries : Carries encode decode playbackConfig captureConfig producer
      threshold outputStart inputStart system played) (noDrift : playbackConfig.maxDriftPpm = 0)
    {count : UInt32} {arriving : List (List (List ℚ))}
    (allowed : Allowed encode decode system (.play count arriving)) :
    ∃ next more, system.play encode count arriving = some next ∧
      Carries encode decode playbackConfig captureConfig producer threshold outputStart inputStart
        next (played ++ more) := by
  obtain ⟨numbers, noWrap, small⟩ := allowed
  have positive : system.device.device.outputChannels ≠ 0 := by
    intro zero
    have none := carries.channels_eq
    rw [zero] at none
    exact carries.channels_pos.ne none
  obtain ⟨output, outputEq⟩ : ∃ output, output = some (interleavedList
      system.device.device.outputChannels
      (List.replicate (count.toNat * system.device.device.outputChannels.toNat) 0)) := ⟨_, rfl⟩
  obtain ⟨writes, writesEq⟩ : ∃ writes, writes = arriving.map (·.map PcmWrite.interleaved) :=
    ⟨_, rfl⟩
  have fits := (@interleavedList_frames system.device.device.outputChannels
    (List.replicate (count.toNat * system.device.device.outputChannels.toNat) 0) count.toNat
    positive List.length_replicate (by rwa [List.length_replicate])).1
  rw [← outputEq, carries.channels_eq] at fits
  obtain ⟨reached, called, goesOn, ran, -, heard⟩ :=
    @HasPlayed.playbackIoProc producer threshold played
      ⟨system.playback.stream, writes, system.playback.counters, output⟩ count.toNat carries.plays
      fits
  have length := PcmStream.length_nextResults
    (PlaybackState.coming ⟨system.playback.stream, writes, system.playback.counters, output⟩)
    count.toNat
  generalize PcmStream.nextResults _ count.toNat = more at goesOn heard length
  have heardEq : heardFrames producer.channels reached.output =
      more.map (orSilence producer.channels) := heard
  have sizes : ∀ samples ∈ more.map fun frame => (orSilence producer.channels frame).map encode,
      samples.length = producer.channels := by
    intro samples member
    obtain ⟨frame, among, rfl⟩ := List.mem_map.mp member
    rw [List.length_map]
    cases frame with
    | none => exact List.length_replicate
    | some frame => exact goesOn.sizes frame (List.mem_append_right _ among)
  have samplesEq : (heardFrames producer.channels reached.output).flatten.map encode =
      (more.map fun frame => (orSilence producer.channels frame).map encode).flatten := by
    rw [heardEq, List.map_flatten, List.map_map]
    rfl
  have placed : (UInt64.ofNat system.outputTime).toNat = system.outputTime := by
    rw [UInt64.toNat_ofNat', Nat.mod_eq_of_lt (by omega)]
  obtain ⟨device, written, tracks, sameInputs, sameOutputs⟩ := @Tracks.write system.device
    carries.tracks (UInt64.ofNat system.outputTime) count
    (some ((heardFrames producer.channels reached.output).flatten.map encode)) (by
      refine ⟨by omega, ?_⟩
      rintro _ ⟨⟩
      rw [samplesEq, length_flatten_of_sizes sizes, List.length_map, length, carries.channels_eq])
  have switches := Loopback.switches_write written
  have outputActive : system.device.device.outputActive = true := congrArg Prod.snd carries.active
  have logged : system.device.logAfter (UInt64.ofNat system.outputTime) count
      (some ((heardFrames producer.channels reached.output).flatten.map encode)) =
      loggedFrames outputStart
        ((played ++ more).map fun frame => (orSilence producer.channels frame).map encode) := by
    have consecutive := @logFrames_loggedFrames producer.channels outputStart
      (played.map fun frame => (orSilence producer.channels frame).map encode) _ sizes
    rw [List.length_map, List.length_map, length, ← carries.outputTime_eq] at consecutive
    rw [LoopbackRun.logAfter, if_pos outputActive, samplesEq, carries.logged, carries.channels_eq,
      consecutive, List.map_append]
  refine ⟨{ system with
    playback := ⟨reached.stream, reached.counters,
      system.playback.heard ++ heardFrames system.playback.stream.resampler.channels reached.output,
      system.playback.played ++ system.playback.results output writes⟩
    device := ⟨device, system.device.logAfter (UInt64.ofNat system.outputTime) count
      (some ((heardFrames producer.channels reached.output).flatten.map encode))⟩
    outputTime := system.outputTime + count.toNat }, more, ?_, ?_⟩
  · have taken : system.playback.callback output writes = (.ok (), reached) := called
    rw [LoopbackSystem.play]
    dsimp only
    rw [← outputEq, ← writesEq, taken]
    dsimp only
    rw [LoopbackRun.step, carries.channels_eq, written, PlaybackRun.step, taken]
    rfl
  obtain ⟨actions, further⟩ := PcmStream.exists_run_nextCall (system.playback.stream, writes)
    count.toNat
  have streamEq : reached.stream = system.playback.stream.run actions :=
    (congrArg Prod.fst ran).trans further
  have holding := @PcmStream.holding_nextCall (fun sample => decode (encode sample) = sample)
    (system.playback.stream, writes) ⟨carries.numbers, (by
      intro write member sample among
      rw [writesEq] at member
      obtain ⟨batch, batchMember, writeMember⟩ := List.mem_flatten.mp member
      obtain ⟨batch, inArriving, rfl⟩ := List.mem_map.mp batchMember
      obtain ⟨pcm, inBatch, rfl⟩ := List.mem_map.mp writeMember
      exact numbers pcm (List.mem_flatten.mpr ⟨batch, inArriving, inBatch⟩) sample among)⟩
    count.toNat
  have outputTime := carries.outputTime_eq
  have inputTime := carries.inputTime_le
  have started := carries.inputTime_ge
  have earlier : inputStart + (system.inputTime - inputStart) ≤
      outputStart + played.length + 512 := by
    omega
  exact
    { plays := goesOn
      playback := streamEq ▸ carries.playback.run noDrift actions
      numbers := by
        intro sample member
        have streamIs : reached.stream = _ := congrArg Prod.fst ran
        rw [streamIs] at member
        exact holding.accepted sample member
      tracks := tracks
      logged := logged
      active := switches.trans carries.active
      sameChannels := sameInputs.trans (carries.sameChannels.trans sameOutputs.symm)
      channels_eq := (congrArg UInt32.toNat sameOutputs).trans carries.channels_eq
      outputTime_eq := by
        rw [List.length_append, length, outputTime, Nat.add_assoc]
      inputTime_ge := started
      inputTime_le := by
        change system.inputTime ≤ system.outputTime + count.toNat + 512
        omega
      capture := carries.capture
      captureChannels_eq := carries.captureChannels_eq
      sizes := carries.sizes
      room := carries.room
      recorded := carries.recorded.trans (congrArg
        (fun sound => (sound.map (orSilence producer.channels)).flatten)
        (soundFrom_append outputStart inputStart played more earlier).symm) }

/-- A position that the input side has come to is silent or has a frame that was
played. -/
theorem soundAt_mem {position : Nat} (heard : position < outputStart + played.length + 512) :
    soundAt outputStart played position = none ∨ soundAt outputStart played position ∈ played := by
  rw [soundAt]
  split
  · have present : position - 512 - outputStart < played.length := by omega
    rw [List.getD_eq_getElem _ _ present]
    exact Or.inr (List.getElem_mem present)
  · exact Or.inl rfl

theorem length_soundAt (carries : Carries encode decode playbackConfig captureConfig producer
      threshold outputStart inputStart system played) {position : Nat}
    (heard : position < outputStart + played.length + 512) :
    (orSilence producer.channels (soundAt outputStart played position)).length =
      producer.channels := by
  rcases soundAt_mem heard with silent | member
  · rw [silent]
    exact List.length_replicate
  · exact carries.length_orSilence member

/-- The driver plays the bits of what is heard. -/
theorem decode_playedAt (carries : Carries encode decode playbackConfig captureConfig producer
      threshold outputStart inputStart system played) (zero : decode (encode 0) = 0)
    (silence : decode 0 = 0) {position : Nat}
    (heard : position < outputStart + played.length + 512) (channel : Nat) :
    decode ((playedAt outputStart (played.map fun frame =>
        (orSilence producer.channels frame).map encode) position).getD channel 0) =
      (orSilence producer.channels (soundAt outputStart played position)).getD channel 0 := by
  rw [playedAt, soundAt]
  by_cases late : outputStart + 512 ≤ position
  · have present : position - 512 - outputStart < played.length := by omega
    have mapped : position - 512 - outputStart < (played.map fun frame =>
        (orSilence producer.channels frame).map encode).length := by
      rwa [List.length_map]
    rw [if_pos late, if_pos late, List.getD_eq_getElem _ _ mapped, List.getElem_map,
      List.getD_eq_getElem _ none present]
    have numbers := carries.numbers_orSilence zero (List.getElem_mem present)
    rcases Nat.lt_or_ge channel
        (orSilence producer.channels played[position - 512 - outputStart]).length with there | past
    · rw [List.getD_eq_getElem _ _ (by rwa [List.length_map]), List.getElem_map,
        List.getD_eq_getElem _ _ there]
      exact numbers _ (List.getElem_mem there)
    · rw [List.getD_eq_default _ _ (by rwa [List.length_map]), List.getD_eq_default _ _ past]
      exact silence
  · rw [if_neg late, if_neg late]
    rcases Nat.lt_or_ge channel producer.channels with there | past
    · simpa [orSilence, there] using silence
    · simpa [orSilence, Nat.not_lt.mpr past] using silence

/-- What the driver reads are the frames that are heard. -/
theorem frames_read (carries : Carries encode decode playbackConfig captureConfig producer
      threshold outputStart inputStart system played) (zero : decode (encode 0) = 0)
    (silence : decode 0 = 0) {count : Nat} {samples : List UInt32}
    (heard : system.inputTime + count ≤ outputStart + played.length + 512)
    (length : samples.length = count * producer.channels)
    (read : ∀ frame < count, ∀ channel < producer.channels,
      samples[frame * producer.channels + channel]? =
        some ((playedAt outputStart (played.map fun frame =>
          (orSilence producer.channels frame).map encode) (system.inputTime + frame)).getD
            channel 0)) :
    FrameStreams.frames producer.channels (samples.map decode) =
      (soundFrom outputStart system.inputTime played count).map (orSilence producer.channels) := by
  have decoded : (samples.map decode).length = count * producer.channels := by
    rw [List.length_map, length]
  rw [FrameStreams.frames, decoded, Nat.mul_div_cancel _ carries.channels_pos, soundFrom,
    List.map_map]
  refine List.map_congr_left fun frame within => ?_
  have early := List.mem_range.mp within
  have soundSize := carries.length_soundAt
    (show system.inputTime + frame < outputStart + played.length + 512 by omega)
  have inside : (frame + 1) * producer.channels ≤ (samples.map decode).length := by
    rw [decoded]
    exact Nat.mul_le_mul_right _ early
  refine List.ext_getElem ((length_frameAt inside).trans soundSize.symm) ?_
  intro channel channelWithin soundWithin
  rw [length_frameAt inside] at channelWithin
  have sample : (frameAt producer.channels (samples.map decode) frame)[channel]? =
      some ((orSilence producer.channels (soundAt outputStart played
        (system.inputTime + frame))).getD channel 0) := by
    rw [frameAt, List.getElem?_take, if_pos channelWithin, List.getElem?_drop, List.getElem?_map,
      read frame early channel channelWithin, Option.map_some,
      carries.decode_playedAt zero silence (by omega)]
  refine Option.some.inj ((List.getElem?_eq_getElem _).symm.trans (sample.trans ?_))
  exact congrArg some (List.getD_eq_getElem _ 0 soundWithin)

theorem record (carries : Carries encode decode playbackConfig captureConfig producer
      threshold outputStart inputStart system played) (zero : decode (encode 0) = 0)
    (silence : decode 0 = 0) {count : UInt32}
    (allowed : Allowed encode decode system (.record count)) :
    ∃ next, system.record decode count = some next ∧
      Carries encode decode playbackConfig captureConfig producer threshold outputStart inputStart
        next played := by
  obtain ⟨ended, written, kept, noWrap, small, room⟩ := allowed
  have outputTime := carries.outputTime_eq
  have started := carries.inputTime_ge
  have inputs : system.device.device.inputChannels.toNat = producer.channels :=
    (congrArg UInt32.toNat carries.sameChannels).trans carries.channels_eq
  have positive : system.device.device.inputChannels ≠ 0 := by
    intro none
    rw [none] at inputs
    exact carries.channels_pos.ne inputs
  have bitsLength : (played.map fun frame =>
      (orSilence producer.channels frame).map encode).length = played.length := List.length_map _
  obtain ⟨samples, underruns, taken, length, heard⟩ := @Tracks.read_loggedFrames system.device
    carries.tracks outputStart system.inputTime _ carries.logged
    (congrArg Prod.fst carries.active) carries.sameChannels count (by omega) (by omega) (by omega)
  have fits := @interleavedList_frames system.device.device.inputChannels (samples.map decode)
    count.toNat positive (by rw [List.length_map, length]) (by rwa [List.length_map, length])
  have frames : heardFrames system.device.device.inputChannels.toNat
      (some (interleavedList system.device.device.inputChannels (samples.map decode))) =
      (soundFrom outputStart system.inputTime played count.toNat).map
        (orSilence producer.channels) := by
    rw [inputs] at heard length
    refine (heardFrames_of_fits fits.1 rfl).trans (fits.2.trans ?_)
    rw [inputs]
    exact carries.frames_read zero silence (by omega) length heard
  refine ⟨{ system with
    device := ⟨system.device.device.addUnderruns underruns, system.device.log⟩
    inputTime := system.inputTime + count.toNat
    pending := (soundFrom outputStart system.inputTime played count.toNat).map
      (orSilence producer.channels) }, ?_, ?_⟩
  · rw [LoopbackSystem.record]
    dsimp only
    rw [taken]
    dsimp only
    rw [frames, ended, List.nil_append]
  have inputTime : system.inputTime + count.toNat - inputStart =
      (system.inputTime - inputStart) + count.toNat := by omega
  have position : inputStart + (system.inputTime - inputStart) = system.inputTime := by omega
  have recorded := carries.recorded
  rw [ended, List.flatten_nil, List.append_nil] at recorded
  exact { carries with
    tracks := carries.tracks.of_switches _ _ _
    inputTime_ge := started.trans (Nat.le_add_right _ _)
    inputTime_le := written
    sizes := by
      intro frame member
      obtain ⟨sound, among, rfl⟩ := List.mem_map.mp member
      obtain ⟨index, within, rfl⟩ := List.mem_map.mp among
      have early := List.mem_range.mp within
      exact carries.length_soundAt (by omega)
    room := by
      rw [carries.captureChannels_eq] at room
      change system.capture.ring.samples.length + ((soundFrom outputStart system.inputTime played
        count.toNat).map (orSilence producer.channels)).length * producer.channels ≤ _
      rwa [List.length_map, soundFrom, List.length_map, List.length_range]
    recorded := by
      change system.capture.ring.accepted ++ _ =
        ((soundFrom outputStart inputStart played (system.inputTime + count.toNat - inputStart)).map
          (orSilence producer.channels)).flatten
      rw [inputTime, soundFrom_add, position, List.map_append, List.flatten_append, recorded] }

end LoopbackSystem.Carries

/-! ## Runs -/

namespace LoopbackSystem

section Runs

variable {encode : ℚ → UInt32} {decode : UInt32 → ℚ} {w : Nat}
  {playbackConfig captureConfig : PcmStreamConfig}
  {playbackValidated captureValidated : ValidatedConfig} {deviceRate : UInt32}
  {producer : PcmProducer} {threshold outputStart inputStart : Nat}

variable {system : LoopbackSystem} {played : List (Option (List ℚ))}

theorem Carries.step (carries : Carries encode decode playbackConfig captureConfig producer
      threshold outputStart inputStart system played) (zero : decode (encode 0) = 0)
    (silence : decode 0 = 0) (playbackDrift : playbackConfig.maxDriftPpm = 0)
    (captureDrift : captureConfig.maxDriftPpm = 0) {event : LoopbackEvent}
    (allowed : Allowed encode decode system event) :
    ∃ next more, system.step encode decode event = some next ∧
      Carries encode decode playbackConfig captureConfig producer threshold outputStart inputStart
        next (played ++ more) := by
  cases event with
  | write pcm => exact ⟨_, [], rfl, (List.append_nil played).symm ▸ carries.write allowed⟩
  | play count arriving => exact carries.play playbackDrift allowed
  | record count =>
      obtain ⟨next, taken, goesOn⟩ := carries.record zero silence allowed
      exact ⟨next, [], taken, (List.append_nil played).symm ▸ goesOn⟩
  | captureFrame => exact ⟨_, [], rfl, (List.append_nil played).symm ▸ carries.captureFrame⟩
  | nextFrame batches =>
      exact ⟨_, [], rfl, (List.append_nil played).symm ▸ carries.nextFrame captureDrift batches⟩

theorem Carries.run (carries : Carries encode decode playbackConfig captureConfig producer
      threshold outputStart inputStart system played) (zero : decode (encode 0) = 0)
    (silence : decode 0 = 0) (playbackDrift : playbackConfig.maxDriftPpm = 0)
    (captureDrift : captureConfig.maxDriftPpm = 0) {events : List LoopbackEvent}
    (allowed : AllowedRun encode decode system events) :
    ∃ finish all, system.run encode decode events = some finish ∧
      Carries encode decode playbackConfig captureConfig producer threshold outputStart inputStart
        finish all := by
  induction events generalizing system played with
  | nil => exact ⟨system, played, rfl, carries⟩
  | cons event events ih =>
      obtain ⟨next, more, taken, goesOn⟩ := carries.step zero silence playbackDrift captureDrift
        allowed.1
      obtain ⟨finish, all, ran, finished⟩ := ih goesOn (allowed.2 next taken)
      refine ⟨finish, all, ?_, finished⟩
      rw [LoopbackSystem.run, List.foldlM_cons, taken]
      exact ran

end Runs

end LoopbackSystem

namespace LoopbackSystem

/-- A cycle of the output side leaves the input side alone. -/
theorem play_apply {encode : ℚ → UInt32} {system next : LoopbackSystem} {count : UInt32}
    {arriving : List (List (List ℚ))} (taken : system.play encode count arriving = some next) :
    next.outputTime = system.outputTime + count.toNat ∧ next.inputTime = system.inputTime ∧
      next.pending = system.pending ∧ next.capture = system.capture := by
  rw [play] at taken
  dsimp only at taken
  split at taken
  · cases taken
  · obtain ⟨device, _, rfl⟩ := Option.map_eq_some_iff.mp taken
    exact ⟨rfl, rfl, rfl, rfl⟩

end LoopbackSystem

end VCable
