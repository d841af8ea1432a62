import VCable.PcmResamplerPosition
import VCable.PcmRing
import VCable.RingBufferFifo

/-!
# The PCM ring holds whole frames within its logical capacity

The producer computes the used space from a read index that may be old.  The
invariant counts in samples: what it has published since the read index that
it saw last, and what it has accepted but not published yet, fits into the
logical capacity.  The fill counter runs ahead of the published frames by what
is accepted, and by the popped frame that is not yet taken off.
-/

namespace VCable

open WrappingIndex LabelledSteps

namespace PcmRingSystem

variable {α : Type*} {w : Nat}

/-! ## The invariant -/

/-- What the producing side has established, from the samples published so far
and the position of the read index that it saw last. -/
def WriterSound (validated : ValidatedConfig) (published seen : Nat)
    (producer : ProducerState α w) : PcmWriterState α → Prop
  | .idle => producer = .idle
  | .called _ => producer = .idle
  | .measuring call => producer = .idle ∧
      call.samples.length = call.frames validated.channels * validated.channels
  | .accepted call => producer = .idle ∧
      call.samples.length = call.frames validated.channels * validated.channels ∧
      published + call.samples.length ≤ seen + validated.logicalCapacitySamples
  | .pushing call =>
      call.samples.length = call.frames validated.channels * validated.channels ∧
      published + call.samples.length ≤ seen + validated.logicalCapacitySamples ∧
      (producer = .called (.pushSlice call.samples) ∨
        ∃ write offset,
          producer = .copying (.pushSlice call.samples) write call.samples.length offset)
  | .pushed call written => producer = .idle ∧ written = call.samples.length
  | .panicked => False

/-- What the pop of a frame has established. -/
def ReaderSound (channels published popped : Nat) (consumer : ConsumerState α w) :
    PcmPopState → Prop
  | .idle => consumer = .idle
  | .called => consumer = .idle
  | .popping => popped + channels ≤ published ∧
      (consumer = .called (.popSlice channels) ∨
        ∃ read output, consumer = .copying (.popSlice channels) read channels output)
  | .popped read => consumer = .idle ∧ read = channels
  | .panicked => False

/-- The frames that the fill counter already has, but the ring not yet. -/
def pendingWrite (channels : Nat) : PcmWriterState α → Nat
  | .pushing call => call.frames channels
  | _ => 0

/-- The frames that the fill counter still has, but the ring no longer. -/
def pendingPop : PcmPopState → Nat
  | .popped _ => 1
  | _ => 0

/-- `written` and `taken` frames have been published and popped. -/
structure SoundAt (k : Nat) (start : BitVec w) (validated : ValidatedConfig)
    (stream : PcmRingSystem α w) (written taken : Nat) : Prop where
  queue : stream.queue.Holds k start
  pushed_eq : stream.queue.pushed.length = written * validated.channels
  popped_eq : stream.queue.popped.length = taken * validated.channels
  reads_length : stream.reads.length = taken + 1
  reads_eq : ∀ value ≤ taken, stream.reads[value]? = some (index start (value * validated.channels))
  seen_le : stream.seen ≤ taken
  room : written * validated.channels ≤
    stream.seen * validated.channels + validated.logicalCapacitySamples
  writer : WriterSound validated (written * validated.channels)
    (stream.seen * validated.channels) stream.queue.producer stream.writer
  reader : ReaderSound validated.channels (written * validated.channels)
    (taken * validated.channels) stream.queue.consumer stream.reader
  fill : stream.metrics.ringFillFrames = BitVec.ofNat w
    (written - taken + pendingWrite validated.channels stream.writer + pendingPop stream.reader)

def Sound (k : Nat) (start : BitVec w) (validated : ValidatedConfig)
    (stream : PcmRingSystem α w) : Prop :=
  ∃ written taken, SoundAt k start validated stream written taken

/-- What the ring and the configuration of a stream promise each other. -/
structure Settings (k w : Nat) (validated : ValidatedConfig) : Prop where
  narrow : k < w
  channels_pos : 0 < validated.channels
  logical_le : validated.logicalCapacitySamples ≤ 2 ^ k

theorem WriterSound.mono_seen {validated : ValidatedConfig} {published seen later : Nat}
    {producer : ProducerState α w} {writer : PcmWriterState α}
    (sound : WriterSound validated published seen producer writer) (newer : seen ≤ later) :
    WriterSound validated published later producer writer := by
  cases writer with
  | accepted call =>
      obtain ⟨idle, whole, room⟩ := sound
      exact ⟨idle, whole, room.trans (Nat.add_le_add_right newer _)⟩
  | pushing call =>
      obtain ⟨whole, room, progress⟩ := sound
      exact ⟨whole, room.trans (Nat.add_le_add_right newer _), progress⟩
  | _ => exact sound

theorem WriterSound.count_eq {validated : ValidatedConfig} {published seen : Nat}
    {call : PushCall α} {write : BitVec w} {count offset : Nat} {writer : PcmWriterState α}
    (sound : WriterSound validated published seen (.copying call write count offset) writer) :
    count = call.input.length := by
  cases writer with
  | idle => cases sound
  | called pcm => cases sound
  | measuring accepted => cases sound.1
  | accepted accepted => cases sound.1
  | pushing accepted =>
      obtain ⟨_, _, ⟨⟨⟩⟩ | ⟨_, _, ⟨⟩⟩⟩ := sound
      rfl
  | pushed accepted written => cases sound.1
  | panicked => cases sound

theorem ReaderSound.mono_published {channels published popped later : Nat}
    {consumer : ConsumerState α w} {reader : PcmPopState}
    (sound : ReaderSound channels published popped consumer reader) (more : published ≤ later) :
    ReaderSound channels later popped consumer reader := by
  cases reader with
  | popping => exact ⟨sound.1.trans more, sound.2⟩
  | _ => exact sound

section Steps

variable {k : Nat} {start : BitVec w} {validated : ValidatedConfig}
  {stream next : PcmRingSystem α w} {written taken : Nat} {returned : Option PcmRingReturn}

theorem SoundAt.taken_le (sound : SoundAt k start validated stream written taken)
    (settings : Settings k w validated) : taken ≤ written := by
  have ordered := sound.queue.popped_prefix.length_le
  rw [sound.pushed_eq, sound.popped_eq] at ordered
  exact Nat.le_of_mul_le_mul_right ordered settings.channels_pos

/-- What a load of the read index by the producer gives. -/
structure Loaded (start : BitVec w) (validated : ValidatedConfig) (stream : PcmRingSystem α w)
    (written taken value : Nat) (read : BitVec w) : Prop where
  seen_le : stream.seen ≤ value
  le_taken : value ≤ taken
  room : written * validated.channels ≤
    value * validated.channels + validated.logicalCapacitySamples
  difference : (stream.queue.ring.write - read).toNat =
    written * validated.channels - value * validated.channels

theorem SoundAt.loaded (sound : SoundAt k start validated stream written taken)
    (settings : Settings k w validated) {value : Nat} {read : BitVec w}
    (load : stream.loadedRead value = some read) :
    Loaded start validated stream written taken value read := by
  rw [loadedRead] at load
  split at load
  · rename_i newer
    have within : value ≤ taken := by
      obtain ⟨inside, _⟩ := List.getElem?_eq_some_iff.mp load
      have length := sound.reads_length
      omega
    rw [sound.reads_eq value within] at load
    cases load
    have grown := Nat.mul_le_mul_right validated.channels newer
    have room := sound.room
    have ordered := Nat.mul_le_mul_right validated.channels
      (within.trans (sound.taken_le settings))
    have logical := settings.logical_le
    have fits : 2 ^ k < 2 ^ w := Nat.pow_lt_pow_right (by decide) settings.narrow
    refine ⟨newer, within, by omega, ?_⟩
    rw [sound.queue.write_eq, sound.pushed_eq, toNat_index_sub ordered (by omega)]
  · cases load

theorem SoundAt.capacity_eq (sound : SoundAt k start validated stream written taken) :
    stream.queue.ring.capacity = 2 ^ k :=
  sound.queue.length_samples

/-- The subtraction in `Producer::available` does not underflow. -/
theorem SoundAt.availableSince (sound : SoundAt k start validated stream written taken)
    (settings : Settings k w validated) {value : Nat} {read : BitVec w}
    (loaded : Loaded start validated stream written taken value read) :
    stream.queue.ring.availableSince read =
      some (2 ^ k - (written * validated.channels - value * validated.channels)) := by
  have room := loaded.room
  have logical := settings.logical_le
  rw [Ring.availableSince, checkedSub, loaded.difference, sound.capacity_eq, if_pos (by omega)]

theorem SoundAt.usedSamples (sound : SoundAt k start validated stream written taken)
    (settings : Settings k w validated) {value : Nat} {read : BitVec w}
    (loaded : Loaded start validated stream written taken value read) :
    stream.queue.ring.usedSamples read =
      some (written * validated.channels - value * validated.channels) := by
  have room := loaded.room
  have logical := settings.logical_le
  rw [Ring.usedSamples, sound.availableSince settings loaded]
  dsimp only
  rw [checkedSub, sound.capacity_eq, if_pos (Nat.sub_le _ _), Nat.sub_sub_self (by omega)]

/-- A newer read index has been seen. -/
theorem SoundAt.setSeen (sound : SoundAt k start validated stream written taken) {value : Nat}
    {read : BitVec w} (loaded : Loaded start validated stream written taken value read) :
    SoundAt k start validated { stream with seen := value } written taken :=
  { sound with
    seen_le := loaded.le_taken
    room := loaded.room
    writer := sound.writer.mono_seen (Nat.mul_le_mul_right _ loaded.seen_le) }

/-- A step of the writer that neither reaches the ring nor the fill counter. -/
theorem SoundAt.setWriter (sound : SoundAt k start validated stream written taken)
    {writer : PcmWriterState α} {transferredFrames overrunFrames : UInt64}
    (writerSound : WriterSound validated (written * validated.channels)
      (stream.seen * validated.channels) stream.queue.producer writer)
    (noneBefore : pendingWrite validated.channels stream.writer = 0)
    (noneAfter : pendingWrite validated.channels writer = 0) :
    SoundAt k start validated { stream with
      writer := writer
      metrics := { stream.metrics with
        transferredFrames := transferredFrames
        overrunFrames := overrunFrames } } written taken :=
  { sound with
    writer := writerSound
    fill := by
      rw [sound.fill, noneBefore, noneAfter] }

theorem Loaded.setSeen {value : Nat} {read : BitVec w}
    (loaded : Loaded start validated stream written taken value read) :
    Loaded start validated { stream with seen := value } written taken value read :=
  { loaded with seen_le := Nat.le_refl _ }

/-- What the check of the capacity decides. -/
theorem SoundAt.measure (sound : SoundAt k start validated stream written taken)
    (settings : Settings k w validated) {call : PcmWriteCall α} {read : BitVec w}
    (measuring : stream.writer = .measuring call)
    (loaded : Loaded start validated stream written taken stream.seen read) :
    SoundAt k start validated (stream.measure validated call read).1 written taken := by
  have before := sound.writer
  rw [measuring] at before
  obtain ⟨idle, whole⟩ := before
  have noneBefore : pendingWrite validated.channels stream.writer = 0 := by
    rw [measuring]
    rfl
  have room := loaded.room
  have asIdle := @SoundAt.setWriter _ _ _ _ _ _ _ _ sound .idle
    stream.metrics.transferredFrames stream.metrics.overrunFrames idle noneBefore rfl
  unfold PcmRingSystem.measure
  rw [sound.usedSamples settings loaded]
  cases call with
  | tryWriteInterleaved pcm =>
      dsimp only
      rw [checkedSub, if_pos (by omega)]
      dsimp only
      by_cases full : pcm.length / validated.channels >
          (validated.logicalCapacitySamples - (written * validated.channels -
            stream.seen * validated.channels)) / validated.channels
      · rw [if_pos full]
        exact asIdle
      · rw [if_neg full]
        refine @SoundAt.setWriter _ _ _ _ _ _ _ _ sound (.accepted (.tryWriteInterleaved pcm))
          stream.metrics.transferredFrames stream.metrics.overrunFrames ⟨idle, whole, ?_⟩ noneBefore
          rfl
        have fits := (Nat.le_div_iff_mul_le settings.channels_pos).mp (Nat.le_of_not_gt full)
        rw [PcmWriteCall.frames] at whole
        rw [whole]
        omega
  | captureFrame scratch =>
      dsimp only
      by_cases fits : written * validated.channels - stream.seen * validated.channels +
          validated.channels ≤ validated.logicalCapacitySamples
      · rw [if_pos fits]
        refine @SoundAt.setWriter _ _ _ _ _ _ _ _ sound (.accepted (.captureFrame scratch))
          stream.metrics.transferredFrames stream.metrics.overrunFrames ⟨idle, whole, ?_⟩ noneBefore
          rfl
        rw [PcmWriteCall.frames, Nat.one_mul] at whole
        rw [whole]
        omega
      · rw [if_neg fits]
        exact @SoundAt.setWriter _ _ _ _ _ _ _ _ sound .idle stream.metrics.transferredFrames
          (stream.metrics.overrunFrames + 1) idle noneBefore rfl

theorem SoundAt.finish (sound : SoundAt k start validated stream written taken)
    {call : PcmWriteCall α} {count : Nat} (pushed : stream.writer = .pushed call count) :
    SoundAt k start validated (stream.finish call count).1 written taken := by
  have before := sound.writer
  rw [pushed] at before
  obtain ⟨idle, whole⟩ := before
  have noneBefore : pendingWrite validated.channels stream.writer = 0 := by
    rw [pushed]
    rfl
  unfold PcmRingSystem.finish
  rw [if_neg (not_not_intro whole)]
  cases call with
  | tryWriteInterleaved pcm =>
      exact @SoundAt.setWriter _ _ _ _ _ _ _ _ sound .idle stream.metrics.transferredFrames
        stream.metrics.overrunFrames idle noneBefore rfl
  | captureFrame scratch =>
      exact @SoundAt.setWriter _ _ _ _ _ _ _ _ sound .idle
        (stream.metrics.transferredFrames + 1) stream.metrics.overrunFrames idle noneBefore rfl

theorem SoundAt.addFill (sound : SoundAt k start validated stream written taken)
    {call : PcmWriteCall α} (accepted : stream.writer = .accepted call) :
    SoundAt k start validated { stream with
      metrics := stream.metrics.addFill (call.frames validated.channels)
      queue := { stream.queue with producer := .called (.pushSlice call.samples) }
      writer := .pushing call } written taken := by
  have before := sound.writer
  rw [accepted] at before
  obtain ⟨idle, whole, room⟩ := before
  have called : stream.queue.step (.startPush (.pushSlice call.samples)) =
      some ({ stream.queue with producer := .called (.pushSlice call.samples) }, none) := by
    rw [RingSystem.step, idle]
  refine { sound with
    queue := sound.queue.startPush called
    writer := ⟨whole, room, Or.inl rfl⟩
    fill := ?_ }
  have fill := sound.fill
  rw [accepted] at fill
  rw [PcmMetrics.addFill]
  dsimp only [pendingWrite] at fill ⊢
  rw [fill, ← BitVec.ofNat_add, Nat.add_right_comm _ 0 _]
  congr 1
  omega

/-- `push_slice` finds room for its whole argument. -/
theorem SoundAt.loadRead (sound : SoundAt k start validated stream written taken)
    (settings : Settings k w validated) {call : PcmWriteCall α} {read : BitVec w}
    (pushing : stream.writer = .pushing call)
    (loaded : Loaded start validated stream written taken stream.seen read) :
    stream.queue.ring.availableSince read = some (2 ^ k - (written * validated.channels -
      stream.seen * validated.channels)) ∧
    min call.samples.length (2 ^ k - (written * validated.channels -
      stream.seen * validated.channels)) = call.samples.length ∧
    SoundAt k start validated { stream with
      queue := { stream.queue with
        producer := .copying (.pushSlice call.samples) stream.queue.ring.write
          call.samples.length 0 } } written taken := by
  have before := sound.writer
  rw [pushing] at before
  obtain ⟨whole, room, _⟩ := before
  have logical := settings.logical_le
  have seenLe := Nat.mul_le_mul_right validated.channels sound.seen_le
  have takenLe := Nat.mul_le_mul_right validated.channels (sound.taken_le settings)
  refine ⟨sound.availableSince settings loaded, Nat.min_eq_left (by omega), ?_⟩
  refine { sound with
    queue := ?_
    writer := ?_ }
  · exact { sound.queue with
      producer_copy := by
        intro copied write count offset copying
        cases copying
        refine ⟨sound.queue.write_eq, Nat.zero_le _, Nat.le_refl _, ?_, by simp⟩
        rw [sound.pushed_eq, sound.popped_eq]
        omega
      consumer_copy := fun call read count output copying =>
        { sound.queue.consumer_copy call read count output copying with } }
  · dsimp only
    rw [pushing]
    exact ⟨whole, room, Or.inr ⟨_, _, rfl⟩⟩

theorem SoundAt.writeSlot (sound : SoundAt k start validated stream written taken)
    (settings : Settings k w validated) {call : PcmWriteCall α} {queue : RingSystem α w}
    {result : Option (Return α)} (pushing : stream.writer = .pushing call)
    (stepped : stream.queue.step .writeSlot = some (queue, result)) :
    SoundAt k start validated { stream with queue := queue } written taken := by
  have before := sound.writer
  rw [pushing] at before
  obtain ⟨whole, room, progress⟩ := before
  have holds := sound.queue.writeSlot settings.narrow stepped
  obtain ⟨_, write, count, offset, sample, copying, _, _, _, rfl, _⟩ :=
    RingSystem.step_writeSlot stepped
  refine { sound with
    queue := holds
    writer := ?_ }
  dsimp only
  rw [pushing]
  refine ⟨whole, room, Or.inr ⟨write, offset + 1, ?_⟩⟩
  rcases progress with called | ⟨_, _, same⟩
  · rw [called] at copying
    cases copying
  · rw [same] at copying
    cases copying
    rfl

/-- The store of the write index publishes the whole argument of `push_slice`. -/
theorem SoundAt.publishWrite (sound : SoundAt k start validated stream written taken)
    (settings : Settings k w validated) {call : PcmWriteCall α} {queue : RingSystem α w}
    {result : Option (Return α)} (pushing : stream.writer = .pushing call)
    (stepped : stream.queue.step .publishWrite = some (queue, result)) :
    result = some (.pushSlice call.samples.length) ∧
      SoundAt k start validated
        { stream with queue := queue, writer := .pushed call call.samples.length }
        (written + call.frames validated.channels) taken := by
  have before := sound.writer
  have fill := sound.fill
  rw [pushing] at before fill
  obtain ⟨whole, room, progress⟩ := before
  have holds := sound.queue.publishWrite stepped
  obtain ⟨_, write, count, copying, rfl, rfl⟩ := RingSystem.step_publishWrite stepped
  have ordered := sound.taken_le settings
  rcases progress with called | ⟨_, _, same⟩
  · rw [called] at copying
    cases copying
  rw [same] at copying
  cases copying
  refine ⟨rfl, { sound with
    queue := holds
    pushed_eq := ?_
    room := ?_
    writer := ⟨rfl, rfl⟩
    reader := ?_
    fill := ?_ }⟩
  · have all : call.samples.take call.samples.length = call.samples := List.take_length
    dsimp only [PushCall.input]
    rw [all, List.length_append, sound.pushed_eq, whole, Nat.add_mul]
  · rw [Nat.add_mul, ← whole]
    exact room
  · refine sound.reader.mono_published ?_
    exact Nat.mul_le_mul_right _ (Nat.le_add_right _ _)
  · dsimp only [pendingWrite] at fill ⊢
    rw [fill]
    congr 1
    omega

theorem SoundAt.setReader (sound : SoundAt k start validated stream written taken)
    {reader : PcmPopState}
    (readerSound : ReaderSound validated.channels (written * validated.channels)
      (taken * validated.channels) stream.queue.consumer reader)
    (noneBefore : pendingPop stream.reader = 0) (noneAfter : pendingPop reader = 0) :
    SoundAt k start validated { stream with reader := reader } written taken :=
  { sound with
    reader := readerSound
    fill := by
      rw [sound.fill, noneBefore, noneAfter] }

theorem SoundAt.used_eq (sound : SoundAt k start validated stream written taken)
    (settings : Settings k w validated) :
    stream.queue.ring.used = (written - taken) * validated.channels := by
  rw [sound.queue.used_eq settings.narrow, sound.pushed_eq, sound.popped_eq, Nat.sub_mul]

/-- A frame is only popped when there is one. -/
theorem SoundAt.measurePop (sound : SoundAt k start validated stream written taken)
    (settings : Settings k w validated) (called : stream.reader = .called)
    (enough : ¬ stream.queue.ring.used < validated.channels) :
    SoundAt k start validated { stream with
      queue := { stream.queue with consumer := .called (.popSlice validated.channels) }
      reader := .popping } written taken := by
  have before := sound.reader
  have fill := sound.fill
  rw [called] at before fill
  have started : stream.queue.step (.startPop (.popSlice validated.channels)) =
      some ({ stream.queue with consumer := .called (.popSlice validated.channels) }, none) := by
    rw [RingSystem.step, before]
  rw [sound.used_eq settings, Nat.sub_mul] at enough
  have positive := settings.channels_pos
  exact { sound with
    queue := sound.queue.startPop started
    reader := ⟨by omega, Or.inl rfl⟩
    fill := fill }

theorem SoundAt.loadWrite (sound : SoundAt k start validated stream written taken)
    (settings : Settings k w validated) {queue : RingSystem α w} {result : Option (Return α)}
    (popping : stream.reader = .popping)
    (stepped : stream.queue.step .loadWrite = some (queue, result)) :
    SoundAt k start validated { stream with queue := queue } written taken := by
  have before := sound.reader
  rw [popping] at before
  obtain ⟨present, progress⟩ := before
  have holds := sound.queue.loadWrite settings.narrow stepped
  obtain ⟨call, started, outcome⟩ := RingSystem.step_loadWrite stepped
  rcases progress with called | ⟨_, _, copying⟩
  · rw [called] at started
    cases started
    obtain ⟨stops, _⟩ | ⟨_, rfl, _⟩ := outcome
    · cases stops
    refine { sound with
      queue := holds
      reader := ?_ }
    dsimp only
    rw [popping]
    refine ⟨present, Or.inr ⟨stream.queue.ring.read, [], ?_⟩⟩
    rw [PopCall.count, sound.used_eq settings, Nat.sub_mul, Nat.min_eq_left (by omega)]
  · rw [copying] at started
    cases started

theorem SoundAt.readSlot (sound : SoundAt k start validated stream written taken)
    (settings : Settings k w validated) {queue : RingSystem α w} {result : Option (Return α)}
    (popping : stream.reader = .popping)
    (stepped : stream.queue.step .readSlot = some (queue, result)) :
    SoundAt k start validated { stream with queue := queue } written taken := by
  have before := sound.reader
  rw [popping] at before
  obtain ⟨present, progress⟩ := before
  have holds := sound.queue.readSlot settings.narrow stepped
  obtain ⟨_, read, count, output, sample, copying, _, _, rfl, _⟩ :=
    RingSystem.step_readSlot stepped
  refine { sound with
    queue := holds
    reader := ?_ }
  dsimp only
  rw [popping]
  refine ⟨present, Or.inr ⟨read, output ++ [sample], ?_⟩⟩
  rcases progress with called | ⟨_, _, same⟩
  · rw [called] at copying
    cases copying
  · rw [same] at copying
    cases copying
    rfl

/-- The store of the read index takes one whole frame. -/
theorem SoundAt.publishRead (sound : SoundAt k start validated stream written taken)
    (settings : Settings k w validated) {queue : RingSystem α w} {result : Option (Return α)}
    (popping : stream.reader = .popping)
    (stepped : stream.queue.step .publishRead = some (queue, result)) :
    (∃ output, result = some (.popSlice validated.channels output)) ∧
      SoundAt k start validated { stream with
        queue := queue
        reads := stream.reads ++ [queue.ring.read]
        reader := .popped validated.channels } written (taken + 1) := by
  have before := sound.reader
  have fill := sound.fill
  rw [popping] at before fill
  obtain ⟨present, progress⟩ := before
  have holds := sound.queue.publishRead stepped
  obtain ⟨_, read, output, copying, rfl, rfl⟩ := RingSystem.step_publishRead stepped
  have one : taken + 1 ≤ written := by
    rw [← Nat.succ_mul] at present
    exact Nat.le_of_mul_le_mul_right present settings.channels_pos
  rcases progress with called | ⟨_, _, same⟩
  · rw [called] at copying
    cases copying
  rw [same] at copying
  injection copying with callEq _ length _
  subst callEq
  refine ⟨⟨output, by rw [length]; rfl⟩, { sound with
    queue := holds
    popped_eq := ?_
    reads_length := ?_
    reads_eq := ?_
    seen_le := sound.seen_le.trans (Nat.le_succ _)
    reader := ⟨rfl, rfl⟩
    fill := ?_ }⟩
  · rw [List.length_append, sound.popped_eq, Nat.succ_mul, length]
  · rw [List.length_append, sound.reads_length]
    rfl
  · intro value within
    rcases Nat.lt_or_ge value (taken + 1) with earlier | last
    · rw [List.getElem?_append_left (by rw [sound.reads_length]; exact earlier)]
      exact sound.reads_eq value (Nat.le_of_lt_succ earlier)
    · obtain rfl := Nat.le_antisymm within last
      rw [← sound.reads_length, List.getElem?_concat_length, sound.reads_length, Nat.succ_mul]
      have position := holds.read_eq
      rw [List.length_append, sound.popped_eq] at position
      exact congrArg some (position.trans (by rw [length]))
  · dsimp only [pendingPop] at fill ⊢
    rw [fill]
    congr 1
    omega

/-- Taking the popped frame off the counter leaves the frames of the ring and
those on their way. -/
theorem SoundAt.removeFill (sound : SoundAt k start validated stream written taken) {read : Nat}
    (popped : stream.reader = .popped read) :
    read = validated.channels ∧
      SoundAt k start validated
        { stream with metrics := stream.metrics.removeFill 1, reader := .idle } written taken := by
  have before := sound.reader
  have fill := sound.fill
  rw [popped] at before fill
  refine ⟨before.2, { sound with
    reader := before.1
    fill := ?_ }⟩
  rw [PcmMetrics.removeFill]
  dsimp only [pendingPop] at fill ⊢
  rw [fill, BitVec.ofNat_add, BitVec.add_sub_cancel, Nat.add_zero]

/-! ## One step -/

theorem Sound.startWrite (sound : Sound k start validated stream) {pcm : List α}
    (stepped : stream.step validated (.startWrite pcm) = some (next, returned)) :
    Sound k start validated next := by
  obtain ⟨written, taken, sound⟩ := sound
  simp only [PcmRingSystem.step] at stepped
  split at stepped
  · rename_i idle
    cases stepped
    have before := sound.writer
    rw [idle] at before
    exact ⟨written, taken, @SoundAt.setWriter _ _ _ _ _ _ _ _ sound (.called pcm) _ _ before
      (by rw [idle]; rfl) rfl⟩
  · cases stepped

theorem Sound.startCapture (sound : Sound k start validated stream) {scratch : List α}
    (stepped : stream.step validated (.startCapture scratch) = some (next, returned)) :
    Sound k start validated next := by
  obtain ⟨written, taken, sound⟩ := sound
  simp only [PcmRingSystem.step] at stepped
  split at stepped
  · rename_i idle
    split at stepped
    · rename_i whole
      cases stepped
      have before := sound.writer
      rw [idle] at before
      refine ⟨written, taken, @SoundAt.setWriter _ _ _ _ _ _ _ _ sound
        (.measuring (.captureFrame scratch)) _ _ ⟨before, ?_⟩ (by rw [idle]; rfl) rfl⟩
      rw [PcmWriteCall.frames, Nat.one_mul]
      exact whole
    · cases stepped
  · cases stepped

theorem Sound.checkOpen (sound : Sound k start validated stream)
    (stepped : stream.step validated .checkOpen = some (next, returned)) :
    Sound k start validated next := by
  obtain ⟨written, taken, sound⟩ := sound
  simp only [PcmRingSystem.step] at stepped
  split at stepped
  · rename_i pcm called
    have before := sound.writer
    rw [called] at before
    have noneBefore : pendingWrite validated.channels stream.writer = 0 := by
      rw [called]
      rfl
    split at stepped
    · cases stepped
      exact ⟨written, taken, @SoundAt.setWriter _ _ _ _ _ _ _ _ sound .idle _ _ before
        noneBefore rfl⟩
    · split at stepped
      · cases stepped
        exact ⟨written, taken, @SoundAt.setWriter _ _ _ _ _ _ _ _ sound .idle _ _ before
          noneBefore rfl⟩
      · rename_i whole
        cases stepped
        refine ⟨written, taken, @SoundAt.setWriter _ _ _ _ _ _ _ _ sound
          (.measuring (.tryWriteInterleaved pcm)) _ _ ⟨before, ?_⟩ noneBefore rfl⟩
        have divides := Nat.dvd_of_mod_eq_zero (not_not.mp whole)
        exact (Nat.div_mul_cancel divides).symm
  · cases stepped

theorem Sound.measure (sound : Sound k start validated stream) (settings : Settings k w validated)
    {value : Nat} (stepped : stream.step validated (.measure value) = some (next, returned)) :
    Sound k start validated next := by
  obtain ⟨written, taken, sound⟩ := sound
  simp only [PcmRingSystem.step] at stepped
  split at stepped
  · rename_i call read measuring load
    have loaded := sound.loaded settings load
    have measured := (sound.setSeen loaded).measure settings measuring loaded.setSeen
    obtain rfl : _ = next := congrArg Prod.fst (Option.some.inj stepped)
    exact ⟨written, taken, measured⟩
  · cases stepped

theorem Sound.addFill (sound : Sound k start validated stream)
    (stepped : stream.step validated .addFill = some (next, returned)) :
    Sound k start validated next := by
  obtain ⟨written, taken, sound⟩ := sound
  simp only [PcmRingSystem.step] at stepped
  split at stepped
  · rename_i call accepted
    cases stepped
    exact ⟨written, taken, sound.addFill accepted⟩
  · cases stepped

theorem Sound.loadRead (sound : Sound k start validated stream) (settings : Settings k w validated)
    {value : Nat} (stepped : stream.step validated (.loadRead value) = some (next, returned)) :
    Sound k start validated next := by
  obtain ⟨written, taken, sound⟩ := sound
  simp only [PcmRingSystem.step] at stepped
  split at stepped
  · rename_i call pushCall read pushing called load
    have loaded := sound.loaded settings load
    obtain ⟨available, all, copying⟩ :=
      (sound.setSeen loaded).loadRead settings pushing loaded.setSeen
    have before := sound.writer
    rw [pushing] at before
    obtain ⟨_, _, progress⟩ := before
    obtain rfl : PushCall.pushSlice call.samples = pushCall := by
      rcases progress with same | ⟨_, _, same⟩
      · rw [called] at same
        cases same
        rfl
      · rw [called] at same
        cases same
    dsimp only at available copying
    rw [available] at stepped
    dsimp only [PushCall.input] at stepped
    rw [all] at stepped
    cases stepped
    exact ⟨written, taken, copying⟩
  · cases stepped

theorem Sound.writeSlot (sound : Sound k start validated stream) (settings : Settings k w validated)
    (stepped : stream.step validated .writeSlot = some (next, returned)) :
    Sound k start validated next := by
  obtain ⟨written, taken, sound⟩ := sound
  simp only [PcmRingSystem.step] at stepped
  split at stepped
  · rename_i call queue result pushing moved
    cases stepped
    exact ⟨written, taken, sound.writeSlot settings pushing moved⟩
  · cases stepped

theorem Sound.publishWrite (sound : Sound k start validated stream)
    (settings : Settings k w validated)
    (stepped : stream.step validated .publishWrite = some (next, returned)) :
    Sound k start validated next := by
  obtain ⟨written, taken, sound⟩ := sound
  simp only [PcmRingSystem.step] at stepped
  split at stepped
  · rename_i call queue count pushing moved
    obtain ⟨⟨⟩, published⟩ := sound.publishWrite settings pushing moved
    cases stepped
    exact ⟨_, taken, published⟩
  · cases stepped

theorem Sound.finish (sound : Sound k start validated stream)
    (stepped : stream.step validated .finish = some (next, returned)) :
    Sound k start validated next := by
  obtain ⟨written, taken, sound⟩ := sound
  simp only [PcmRingSystem.step] at stepped
  split at stepped
  · rename_i call count pushed
    obtain rfl : _ = next := congrArg Prod.fst (Option.some.inj stepped)
    exact ⟨written, taken, sound.finish pushed⟩
  · cases stepped

theorem Sound.startPop (sound : Sound k start validated stream)
    (stepped : stream.step validated .startPop = some (next, returned)) :
    Sound k start validated next := by
  obtain ⟨written, taken, sound⟩ := sound
  simp only [PcmRingSystem.step] at stepped
  split at stepped
  · rename_i idle
    cases stepped
    have before := sound.reader
    rw [idle] at before
    exact ⟨written, taken, sound.setReader before (by rw [idle]; rfl) rfl⟩
  · cases stepped

theorem Sound.measurePop (sound : Sound k start validated stream)
    (settings : Settings k w validated)
    (stepped : stream.step validated .measurePop = some (next, returned)) :
    Sound k start validated next := by
  obtain ⟨written, taken, sound⟩ := sound
  simp only [PcmRingSystem.step] at stepped
  split at stepped
  · rename_i called
    split at stepped
    · cases stepped
      have before := sound.reader
      rw [called] at before
      exact ⟨written, taken, sound.setReader before (by rw [called]; rfl) rfl⟩
    · rename_i enough
      cases stepped
      exact ⟨written, taken, sound.measurePop settings called enough⟩
  · cases stepped

theorem Sound.loadWrite (sound : Sound k start validated stream) (settings : Settings k w validated)
    (stepped : stream.step validated .loadWrite = some (next, returned)) :
    Sound k start validated next := by
  obtain ⟨written, taken, sound⟩ := sound
  simp only [PcmRingSystem.step] at stepped
  split at stepped
  · rename_i queue result popping moved
    cases stepped
    exact ⟨written, taken, sound.loadWrite settings popping moved⟩
  · cases stepped

theorem Sound.readSlot (sound : Sound k start validated stream) (settings : Settings k w validated)
    (stepped : stream.step validated .readSlot = some (next, returned)) :
    Sound k start validated next := by
  obtain ⟨written, taken, sound⟩ := sound
  simp only [PcmRingSystem.step] at stepped
  split at stepped
  · rename_i queue result popping moved
    cases stepped
    exact ⟨written, taken, sound.readSlot settings popping moved⟩
  · cases stepped

theorem Sound.publishRead (sound : Sound k start validated stream)
    (settings : Settings k w validated)
    (stepped : stream.step validated .publishRead = some (next, returned)) :
    Sound k start validated next := by
  obtain ⟨written, taken, sound⟩ := sound
  simp only [PcmRingSystem.step] at stepped
  split at stepped
  · rename_i queue count output popping moved
    obtain ⟨⟨_, ⟨⟩⟩, published⟩ := sound.publishRead settings popping moved
    cases stepped
    exact ⟨written, taken + 1, published⟩
  · cases stepped

theorem Sound.removeFill (sound : Sound k start validated stream)
    (stepped : stream.step validated .removeFill = some (next, returned)) :
    Sound k start validated next := by
  obtain ⟨written, taken, sound⟩ := sound
  simp only [PcmRingSystem.step] at stepped
  split at stepped
  · rename_i count popped
    obtain ⟨whole, removed⟩ := sound.removeFill popped
    rw [if_neg (not_not_intro whole)] at stepped
    cases stepped
    exact ⟨written, taken, removed⟩
  · cases stepped

theorem Sound.step (sound : Sound k start validated stream) (settings : Settings k w validated)
    {action : PcmRingAction α} (stepped : stream.step validated action = some (next, returned)) :
    Sound k start validated next := by
  cases action with
  | startWrite pcm => exact sound.startWrite stepped
  | startCapture scratch => exact sound.startCapture stepped
  | checkOpen => exact sound.checkOpen stepped
  | measure value => exact sound.measure settings stepped
  | addFill => exact sound.addFill stepped
  | loadRead value => exact sound.loadRead settings stepped
  | writeSlot => exact sound.writeSlot settings stepped
  | publishWrite => exact sound.publishWrite settings stepped
  | finish => exact sound.finish stepped
  | startPop => exact sound.startPop stepped
  | measurePop => exact sound.measurePop settings stepped
  | loadWrite => exact sound.loadWrite settings stepped
  | readSlot => exact sound.readSlot settings stepped
  | publishRead => exact sound.publishRead settings stepped
  | removeFill => exact sound.removeFill stepped
  | close =>
      obtain ⟨written, taken, sound⟩ := sound
      cases stepped
      exact ⟨written, taken, { sound with }⟩

end Steps

end PcmRingSystem

/-! ## Refused writes -/

/-- The steps of a call that only look whether it may go on. -/
def PcmRingAction.isCheck {α : Type*} : PcmRingAction α → Bool
  | .startWrite _ => true
  | .startCapture _ => true
  | .checkOpen => true
  | .measure _ => true
  | _ => false

def PcmWriterState.isChecking {α : Type*} : PcmWriterState α → Bool
  | .called _ => true
  | .measuring _ => true
  | _ => false

namespace PcmRingSystem

variable {α : Type*} {w : Nat}

/-- A refused write has only made checks, and these change neither the ring nor
a counter; a dropped frame of a capture is counted. -/
structure ChecksKeep (stream : PcmRingSystem α w) (action : PcmRingAction α)
    (next : PcmRingSystem α w) (returned : Option PcmRingReturn) : Prop where
  kept : action.isCheck = true → next.queue = stream.queue ∧
    (returned ≠ some (.captured false) → next.metrics = stream.metrics)
  entered : next.writer.isChecking = true → next.writer = stream.writer ∨ action.isCheck = true
  refused : ∀ error, returned = some (.written (.error error)) →
    stream.writer.isChecking = true ∧ action.isCheck = true

theorem measure_keeps {validated : ValidatedConfig} {stream : PcmRingSystem α w}
    {call : PcmWriteCall α} {read : BitVec w} :
    (stream.measure validated call read).1.queue = stream.queue ∧
      ((stream.measure validated call read).2 ≠ some (.captured false) →
        (stream.measure validated call read).1.metrics = stream.metrics) := by
  unfold measure
  split
  · exact ⟨rfl, fun _ => rfl⟩
  · split
    · exact ⟨rfl, fun _ => rfl⟩
    · dsimp only
      split
      · exact ⟨rfl, fun _ => rfl⟩
      · exact ⟨rfl, fun _ => rfl⟩
  · split
    · exact ⟨rfl, fun _ => rfl⟩
    · exact ⟨rfl, fun dropped => absurd rfl dropped⟩

theorem finish_result {stream : PcmRingSystem α w} {call : PcmWriteCall α} {count : Nat}
    (error : PcmStreamError) :
    (stream.finish call count).2 ≠ some (.written (.error error)) ∧
      (stream.finish call count).1.writer.isChecking = false := by
  unfold finish
  split
  · exact ⟨nofun, rfl⟩
  · split
    · refine ⟨?_, rfl⟩
      cases stream.closed with
      | false => exact nofun
      | true => exact nofun
    · exact ⟨nofun, rfl⟩

theorem ChecksKeep.of_check {stream next : PcmRingSystem α w} {action : PcmRingAction α}
    {returned : Option PcmRingReturn} (check : action.isCheck = true)
    (queue : next.queue = stream.queue)
    (metrics : returned ≠ some (.captured false) → next.metrics = stream.metrics)
    (checking : returned = none ∨ stream.writer.isChecking = true) :
    ChecksKeep stream action next returned where
  kept := fun _ => ⟨queue, metrics⟩
  entered := fun _ => Or.inr check
  refused := by
    rintro error rfl
    exact ⟨checking.resolve_left nofun, check⟩

theorem ChecksKeep.of_not_check {stream next : PcmRingSystem α w} {action : PcmRingAction α}
    {returned : Option PcmRingReturn} (other : action.isCheck = false)
    (entered : next.writer = stream.writer ∨ next.writer.isChecking = false)
    (accepted : ∀ error, returned ≠ some (.written (.error error))) :
    ChecksKeep stream action next returned where
  kept := by
    rw [other]
    exact nofun
  entered := by
    intro checking
    refine Or.inl (entered.resolve_right ?_)
    rw [checking]
    exact nofun
  refused := fun error refused => absurd refused (accepted error)

theorem step_checksKeep {validated : ValidatedConfig} {stream next : PcmRingSystem α w}
    {action : PcmRingAction α} {returned : Option PcmRingReturn}
    (stepped : stream.step validated action = some (next, returned)) :
    ChecksKeep stream action next returned := by
  cases action with
  | startWrite pcm =>
      simp only [step] at stepped
      split at stepped
      · cases stepped
        exact .of_check rfl rfl (fun _ => rfl) (Or.inl rfl)
      · cases stepped
  | startCapture scratch =>
      simp only [step] at stepped
      split at stepped
      · split at stepped
        · cases stepped
          exact .of_check rfl rfl (fun _ => rfl) (Or.inl rfl)
        · cases stepped
      · cases stepped
  | checkOpen =>
      simp only [step] at stepped
      split at stepped
      · rename_i pcm called
        have checking : stream.writer.isChecking = true := by
          rw [called]
          rfl
        split at stepped
        · cases stepped
          exact .of_check rfl rfl (fun _ => rfl) (Or.inr checking)
        · split at stepped
          · cases stepped
            exact .of_check rfl rfl (fun _ => rfl) (Or.inr checking)
          · cases stepped
            exact .of_check rfl rfl (fun _ => rfl) (Or.inr checking)
      · cases stepped
  | measure value =>
      simp only [step] at stepped
      split at stepped
      · rename_i call read measuring load
        obtain ⟨queue, metrics⟩ :=
          @measure_keeps _ _ validated { stream with seen := value } call read
        obtain ⟨rfl, rfl⟩ := Prod.mk.inj (Option.some.inj stepped)
        refine .of_check rfl queue metrics (Or.inr ?_)
        rw [measuring]
        rfl
      · cases stepped
  | finish =>
      simp only [step] at stepped
      split at stepped
      · rename_i call count pushed
        obtain ⟨rfl, rfl⟩ := Prod.mk.inj (Option.some.inj stepped)
        exact .of_not_check rfl (Or.inr (finish_result .invalidBufferLength).2)
          fun error => (finish_result error).1
      · cases stepped
  | close =>
      cases stepped
      exact .of_not_check rfl (Or.inl rfl) nofun
  | addFill =>
      simp only [step] at stepped
      split at stepped
      · cases stepped
        exact .of_not_check rfl (Or.inr rfl) nofun
      · cases stepped
  | loadRead value =>
      simp only [step] at stepped
      split at stepped
      · split at stepped
        · cases stepped
          exact .of_not_check rfl (Or.inl rfl) nofun
        · cases stepped
          exact .of_not_check rfl (Or.inr rfl) nofun
      · cases stepped
  | writeSlot =>
      simp only [step] at stepped
      split at stepped
      · cases stepped
        exact .of_not_check rfl (Or.inl rfl) nofun
      · cases stepped
  | publishWrite =>
      simp only [step] at stepped
      split at stepped
      · cases stepped
        exact .of_not_check rfl (Or.inr rfl) nofun
      · cases stepped
  | startPop =>
      simp only [step] at stepped
      split at stepped
      · cases stepped
        exact .of_not_check rfl (Or.inl rfl) nofun
      · cases stepped
  | measurePop =>
      simp only [step] at stepped
      split at stepped
      · split at stepped
        · cases stepped
          exact .of_not_check rfl (Or.inl rfl) nofun
        · cases stepped
          exact .of_not_check rfl (Or.inl rfl) nofun
      · cases stepped
  | loadWrite =>
      simp only [step] at stepped
      split at stepped
      · cases stepped
        exact .of_not_check rfl (Or.inl rfl) nofun
      · cases stepped
  | readSlot =>
      simp only [step] at stepped
      split at stepped
      · cases stepped
        exact .of_not_check rfl (Or.inl rfl) nofun
      · cases stepped
  | publishRead =>
      simp only [step] at stepped
      split at stepped
      · cases stepped
        exact .of_not_check rfl (Or.inl rfl) nofun
      · cases stepped
  | removeFill =>
      simp only [step] at stepped
      split at stepped
      · split at stepped
        · cases stepped
          exact .of_not_check rfl (Or.inl rfl) nofun
        · cases stepped
          exact .of_not_check rfl (Or.inl rfl) nofun
      · cases stepped

/-! ## Finished writes -/

end PcmRingSystem

/-- The samples that a write has put into the ring before it ends. -/
def PcmWriterState.published {α : Type*} : PcmWriterState α → List α
  | .pushed call _ => call.samples
  | _ => []

/-- What a write or a captured frame returns. -/
def PcmRingReturn.endsWrite : PcmRingReturn → Bool
  | .poppedFrame _ => false
  | _ => true

/-- A write, or a captured frame, that was taken. -/
def PcmRingReturn.accepts : PcmRingReturn → Bool
  | .written (.ok ()) => true
  | .captured accepted => accepted
  | _ => false

namespace PcmRingSystem

variable {α : Type*} {w : Nat}

/-- A stream with the samples that the writes so far had published when they ended. -/
def recorded (validated : ValidatedConfig) (record : PcmRingSystem α w × List α)
    (action : PcmRingAction α) :
    Option ((PcmRingSystem α w × List α) × Option PcmRingReturn) :=
  match record.1.step validated action with
  | some (next, returned) =>
      some ((next, if returned.any PcmRingReturn.endsWrite
        then record.2 ++ record.1.writer.published else record.2), returned)
  | none => none

/-- A step that neither publishes samples nor ends a write that has published some. -/
structure Unpublished (stream next : PcmRingSystem α w) (returned : Option PcmRingReturn) :
    Prop where
  pushed_eq : next.queue.pushed = stream.queue.pushed
  accepts : returned.any PcmRingReturn.accepts = false
  writer : (next.writer = stream.writer ∧ returned.any PcmRingReturn.endsWrite = false) ∨
    (stream.writer.published = [] ∧ next.writer.published = [])

section Published

variable {validated : ValidatedConfig} {stream next : PcmRingSystem α w}
  {returned : Option PcmRingReturn}

theorem Unpublished.of_writer {before after : PcmWriterState α} (was : stream.writer = before)
    (is : next.writer = after) (none : before.published = [] ∧ after.published = [])
    (pushed_eq : next.queue.pushed = stream.queue.pushed)
    (accepts : returned.any PcmRingReturn.accepts = false) : Unpublished stream next returned :=
  ⟨pushed_eq, accepts, Or.inr ⟨was ▸ none.1, is ▸ none.2⟩⟩

theorem unpublished_measure {call : PcmWriteCall α} {read : BitVec w}
    (measuring : stream.writer = .measuring call) :
    Unpublished stream (stream.measure validated call read).1
      (stream.measure validated call read).2 := by
  unfold measure
  split
  · exact .of_writer measuring rfl ⟨rfl, rfl⟩ rfl rfl
  · split
    · exact .of_writer measuring rfl ⟨rfl, rfl⟩ rfl rfl
    · dsimp only
      split
      · exact .of_writer measuring rfl ⟨rfl, rfl⟩ rfl rfl
      · exact .of_writer measuring rfl ⟨rfl, rfl⟩ rfl rfl
  · split
    · exact .of_writer measuring rfl ⟨rfl, rfl⟩ rfl rfl
    · exact .of_writer measuring rfl ⟨rfl, rfl⟩ rfl rfl

/-- Samples are published by `push_slice` alone, and a write that has published
its samples ends with the check of their number. -/
theorem step_published {action : PcmRingAction α}
    (stepped : stream.step validated action = some (next, returned)) :
    (∃ call count, stream.writer = .pushing call ∧ next.writer = .pushed call count ∧
      stream.queue.step .publishWrite = some (next.queue, some (.pushSlice count)) ∧
      returned = none) ∨
    (∃ call count, stream.writer = .pushed call count ∧
      stream.finish call count = (next, returned)) ∨
    Unpublished stream next returned := by
  cases action with
  | startWrite pcm =>
      simp only [step] at stepped
      split at stepped
      · rename_i idle
        cases stepped
        exact Or.inr (Or.inr (.of_writer idle rfl ⟨rfl, rfl⟩ rfl rfl))
      · cases stepped
  | startCapture scratch =>
      simp only [step] at stepped
      split at stepped
      · rename_i idle
        split at stepped
        · cases stepped
          exact Or.inr (Or.inr (.of_writer idle rfl ⟨rfl, rfl⟩ rfl rfl))
        · cases stepped
      · cases stepped
  | checkOpen =>
      simp only [step] at stepped
      split at stepped
      · rename_i pcm called
        refine Or.inr (Or.inr ?_)
        split at stepped
        · cases stepped
          exact .of_writer called rfl ⟨rfl, rfl⟩ rfl rfl
        · split at stepped
          · cases stepped
            exact .of_writer called rfl ⟨rfl, rfl⟩ rfl rfl
          · cases stepped
            exact .of_writer called rfl ⟨rfl, rfl⟩ rfl rfl
      · cases stepped
  | measure value =>
      simp only [step] at stepped
      split at stepped
      · rename_i call read measuring load
        have unpublished := @unpublished_measure _ _ validated { stream with seen := value } call
          read measuring
        obtain ⟨rfl, rfl⟩ := Prod.mk.inj (Option.some.inj stepped)
        exact Or.inr (Or.inr ⟨unpublished.pushed_eq, unpublished.accepts, unpublished.writer⟩)
      · cases stepped
  | addFill =>
      simp only [step] at stepped
      split at stepped
      · rename_i call accepted
        cases stepped
        exact Or.inr (Or.inr (.of_writer accepted rfl ⟨rfl, rfl⟩ rfl rfl))
      · cases stepped
  | loadRead value =>
      simp only [step] at stepped
      split at stepped
      · rename_i pushing _ _
        split at stepped
        · cases stepped
          exact Or.inr (Or.inr ⟨rfl, rfl, Or.inl ⟨rfl, rfl⟩⟩)
        · cases stepped
          exact Or.inr (Or.inr (.of_writer pushing rfl ⟨rfl, rfl⟩ rfl rfl))
      · cases stepped
  | writeSlot =>
      simp only [step] at stepped
      split at stepped
      · rename_i written
        cases stepped
        obtain ⟨_, _, _, _, _, _, _, _, _, rfl, _⟩ := RingSystem.step_writeSlot written
        exact Or.inr (Or.inr ⟨rfl, rfl, Or.inl ⟨rfl, rfl⟩⟩)
      · cases stepped
  | publishWrite =>
      simp only [step] at stepped
      split at stepped
      · rename_i call queue count pushing published
        cases stepped
        exact Or.inl ⟨call, count, pushing, rfl, published, rfl⟩
      · cases stepped
  | finish =>
      simp only [step] at stepped
      split at stepped
      · rename_i call count pushed
        exact Or.inr (Or.inl ⟨call, count, pushed, Option.some.inj stepped⟩)
      · cases stepped
  | startPop =>
      simp only [step] at stepped
      split at stepped
      · cases stepped
        exact Or.inr (Or.inr ⟨rfl, rfl, Or.inl ⟨rfl, rfl⟩⟩)
      · cases stepped
  | measurePop =>
      simp only [step] at stepped
      split at stepped
      · split at stepped
        · cases stepped
          exact Or.inr (Or.inr ⟨rfl, rfl, Or.inl ⟨rfl, rfl⟩⟩)
        · cases stepped
          exact Or.inr (Or.inr ⟨rfl, rfl, Or.inl ⟨rfl, rfl⟩⟩)
      · cases stepped
  | loadWrite =>
      simp only [step] at stepped
      split at stepped
      · rename_i looked
        cases stepped
        obtain ⟨_, _, ⟨_, rfl, _⟩ | ⟨_, rfl, _⟩⟩ := RingSystem.step_loadWrite looked
        · exact Or.inr (Or.inr ⟨rfl, rfl, Or.inl ⟨rfl, rfl⟩⟩)
        · exact Or.inr (Or.inr ⟨rfl, rfl, Or.inl ⟨rfl, rfl⟩⟩)
      · cases stepped
  | readSlot =>
      simp only [step] at stepped
      split at stepped
      · rename_i read
        cases stepped
        obtain ⟨_, _, _, _, _, _, _, _, rfl, _⟩ := RingSystem.step_readSlot read
        exact Or.inr (Or.inr ⟨rfl, rfl, Or.inl ⟨rfl, rfl⟩⟩)
      · cases stepped
  | publishRead =>
      simp only [step] at stepped
      split at stepped
      · rename_i released
        cases stepped
        obtain ⟨_, _, _, _, rfl, _⟩ := RingSystem.step_publishRead released
        exact Or.inr (Or.inr ⟨rfl, rfl, Or.inl ⟨rfl, rfl⟩⟩)
      · cases stepped
  | removeFill =>
      simp only [step] at stepped
      split at stepped
      · split at stepped
        · cases stepped
          exact Or.inr (Or.inr ⟨rfl, rfl, Or.inl ⟨rfl, rfl⟩⟩)
        · cases stepped
          exact Or.inr (Or.inr ⟨rfl, rfl, Or.inl ⟨rfl, rfl⟩⟩)
      · cases stepped
  | close =>
      cases stepped
      exact Or.inr (Or.inr ⟨rfl, rfl, Or.inl ⟨rfl, rfl⟩⟩)

/-- A write is accepted only after all of its samples were published. -/
theorem pushed_of_accepts {action : PcmRingAction α}
    (stepped : stream.step validated action = some (next, returned))
    (accepts : returned.any PcmRingReturn.accepts = true) :
    ∃ call, stream.writer = .pushed call call.samples.length := by
  obtain ⟨_, _, _, _, _, rfl⟩ | ⟨call, count, pushed, finished⟩ | unpublished :=
    step_published stepped
  · cases accepts
  · unfold finish at finished
    split at finished
    · cases finished
      cases accepts
    · rename_i whole
      exact ⟨call, by rw [pushed, not_not.mp whole]⟩
  · cases unpublished.accepts.symm.trans accepts

/-- The samples in the ring's history are those of the writes that have ended, and
of one that is about to end. -/
theorem Sound.recorded {k : Nat} {start : BitVec w} {settled : List α} {action : PcmRingAction α}
    (sound : Sound k start validated stream)
    (history : stream.queue.pushed = settled ++ stream.writer.published)
    (stepped : stream.step validated action = some (next, returned)) :
    next.queue.pushed = (if returned.any PcmRingReturn.endsWrite
      then settled ++ stream.writer.published else settled) ++ next.writer.published := by
  obtain ⟨written, taken, sound⟩ := sound
  have writer := sound.writer
  obtain ⟨call, count, pushing, pushed, published, rfl⟩ | ⟨call, count, pushed, finished⟩ |
    unpublished := step_published stepped
  · -- The count of the copy is all of the argument.
    rw [pushing] at writer history
    obtain ⟨copied, write, length, copying, queue, result⟩ := RingSystem.step_publishWrite published
    obtain called | ⟨_, _, whole⟩ := writer.2.2
    · cases called.symm.trans copying
    · cases whole.symm.trans copying
      rw [queue, pushed]
      change stream.queue.pushed ++ call.samples.take call.samples.length = settled ++ call.samples
      rw [history, List.take_length]
      exact congrArg (· ++ call.samples) (List.append_nil settled)
  · rw [pushed] at writer
    unfold PcmRingSystem.finish at finished
    rw [if_neg (not_not.mpr writer.2)] at finished
    cases call with
    | tryWriteInterleaved pcm =>
        cases finished
        cases closed : stream.closed <;> exact history.trans (List.append_nil _).symm
    | captureFrame scratch =>
        cases finished
        exact history.trans (List.append_nil _).symm
  · rw [unpublished.pushed_eq, history]
    obtain ⟨same, ends⟩ | ⟨before, after⟩ := unpublished.writer
    · rw [same, ends]
      rfl
    · rw [before, after]
      simp

end Published

/-! ## Whole runs -/

/-- What every state of every run satisfies. -/
structure WholeFrames (config : PcmStreamConfig) (validated : ValidatedConfig)
    (stream : PcmRingSystem α w) : Prop where
  queue : RingSystem.BoundedQueue validated.internalSampleCapacity stream.queue
  /-- The fill counter is never below the frames in the ring, and the same when
  no call is in progress. -/
  frames : ∃ frames ≤ config.capacityFrames,
    stream.queue.ring.used = frames * validated.channels ∧
      frames ≤ stream.metrics.ringFillFrames.toNat ∧
      (stream.writer = .idle → stream.reader = .idle →
        stream.metrics.ringFillFrames.toNat = frames)
  /-- No subtraction underflows, and the lengths of the copies are as asserted. -/
  no_panic : stream.writer ≠ .panicked ∧ stream.reader ≠ .panicked
  /-- What `push_slice` decides to copy is all of its argument. -/
  whole_push : ∀ call write count offset,
    stream.queue.producer = .copying call write count offset → count = call.input.length
  /-- The counter has a frame to take off. -/
  fill_pos : ∀ read, stream.reader = .popped read → 0 < stream.metrics.ringFillFrames.toNat

section Counter

variable {k : Nat} {start : BitVec w} {config : PcmStreamConfig} {validated : ValidatedConfig}
  {stream : PcmRingSystem α w} {written taken : Nat}

/-- What the counter has is at most the logical capacity, apart from a popped frame. -/
theorem SoundAt.counted_le (sound : SoundAt k start validated stream written taken)
    (settings : Settings k w validated) (valid : config.Valid validated) :
    written - taken + pendingWrite validated.channels stream.writer ≤ config.capacityFrames := by
  have seenLe := sound.seen_le
  have ordered := sound.taken_le settings
  have frames : ∀ count, count * validated.channels ≤
      stream.seen * validated.channels + validated.logicalCapacitySamples →
      count ≤ stream.seen + config.capacityFrames := by
    intro count fits
    rw [valid.logical_eq, ← Nat.add_mul] at fits
    exact Nat.le_of_mul_le_mul_right fits settings.channels_pos
  have published := frames written sound.room
  have before := sound.writer
  cases writer : stream.writer with
  | pushing call =>
      rw [writer] at before
      obtain ⟨whole, room, _⟩ := before
      rw [whole, ← Nat.add_mul] at room
      have accepted := frames _ room
      rw [pendingWrite]
      omega
  | _ =>
      dsimp only [pendingWrite]
      omega

theorem pendingPop_le (reader : PcmPopState) : pendingPop reader ≤ 1 := by
  cases reader with
  | popped read => exact Nat.le_refl 1
  | _ => exact Nat.zero_le 1

theorem SoundAt.fill_toNat (sound : SoundAt k start validated stream written taken)
    (settings : Settings k w validated) (valid : config.Valid validated) :
    stream.metrics.ringFillFrames.toNat = written - taken +
      pendingWrite validated.channels stream.writer + pendingPop stream.reader := by
  have counted := sound.counted_le settings valid
  have pop := pendingPop_le stream.reader
  have logical := settings.logical_le
  rw [valid.logical_eq] at logical
  have capacity := Nat.le_mul_of_pos_right config.capacityFrames settings.channels_pos
  have target := valid.target_pos
  have below := valid.target_lt
  have wide : 2 ^ (k + 1) ≤ 2 ^ w := Nat.pow_le_pow_right (by decide) settings.narrow
  rw [Nat.pow_succ] at wide
  rw [sound.fill, BitVec.toNat_ofNat, Nat.mod_eq_of_lt]
  omega

theorem SoundAt.wholeFrames (sound : SoundAt k start validated stream written taken)
    (settings : Settings k w validated) (valid : config.Valid validated)
    (capacity : validated.internalSampleCapacity = 2 ^ k) :
    WholeFrames config validated stream where
  queue := by
    rw [capacity]
    exact sound.queue.boundedQueue settings.narrow
  frames := by
    have counted := sound.counted_le settings valid
    have fill := sound.fill_toNat settings valid
    refine ⟨written - taken, by omega, sound.used_eq settings, by omega, ?_⟩
    intro writerIdle readerIdle
    rw [fill, writerIdle, readerIdle]
    rfl
  no_panic := by
    refine ⟨fun panicked => ?_, fun panicked => ?_⟩
    · have impossible := sound.writer
      rw [panicked] at impossible
      exact impossible
    · have impossible := sound.reader
      rw [panicked] at impossible
      exact impossible
  whole_push := by
    intro call write count offset copying
    have before := sound.writer
    rw [copying] at before
    exact before.count_eq
  fill_pos := by
    intro read popped
    rw [sound.fill_toNat settings valid, popped]
    exact Nat.succ_pos _

end Counter

end PcmRingSystem

theorem validateConfig_power {w : Nat} {config : PcmStreamConfig} {validated : ValidatedConfig}
    (accepted : validateConfig w config = .ok validated) :
    ∃ k < w, validated.internalSampleCapacity = 2 ^ k := by
  simp only [validateConfig] at accepted
  split_ifs at accepted
  split at accepted
  · cases accepted
  · rename_i power found
    cases accepted
    exact checkedNextPowerOfTwo_eq found

namespace PcmRingSystem

variable {α : Type*} {w : Nat}

theorem sound_start {k : Nat} {validated : ValidatedConfig} {ring : Ring α w}
    (length : ring.samples.length = 2 ^ k) (mask : ring.mask = BitVec.ofNat w (2 ^ k - 1))
    (first : BitVec w) : Sound k first validated (PcmRingSystem.start ring first) := by
  refine ⟨0, 0, RingSystem.holds_initial length mask, ?_, ?_, rfl, ?_, Nat.le_refl 0, ?_, rfl, rfl,
    rfl⟩
  · exact (Nat.zero_mul _).symm
  · exact (Nat.zero_mul _).symm
  · intro value none
    obtain rfl := Nat.le_zero.mp none
    rw [Nat.zero_mul, index_zero]
    rfl
  · rw [Nat.zero_mul]
    exact Nat.zero_le _

/-- On the ring of every accepted configuration, and under every interleaving of
writes, captured frames and pops, the published samples are whole frames within
the logical capacity.  No subtraction underflows, a refused write changes
nothing, and the fill counter is never below the frames of the ring.  What was
ever published is what the writes had published when they ended, and an
accepted write had published all of its samples. -/
theorem pcm_ring_whole_frames {config : PcmStreamConfig} {validated : ValidatedConfig}
    (accepted : validateConfig w config = .ok validated) (zero : α) :
    ∃ ring, spscRingBuffer w zero validated.internalSampleCapacity = .ok ring ∧
      ∀ first,
        (∀ stream, Reachable (step validated) (PcmRingSystem.start ring first) stream →
          WholeFrames config validated stream ∧
            ∀ action next returned, stream.step validated action = some (next, returned) →
              ChecksKeep stream action next returned ∧
              (returned.any PcmRingReturn.accepts = true →
                ∃ call, stream.writer = .pushed call call.samples.length)) ∧
        ∀ stream settled,
          Reachable (recorded validated) (PcmRingSystem.start ring first, []) (stream, settled) →
            stream.queue.pushed = settled ++ stream.writer.published := by
  have valid := validateConfig_valid accepted
  obtain ⟨k, narrow, capacity⟩ := validateConfig_power accepted
  have settings : Settings k w validated :=
    ⟨narrow, valid.channels_pos, capacity ▸ valid.logical_le⟩
  have frames : 2 ≤ config.capacityFrames := by
    have target := valid.target_pos
    have below := valid.target_lt
    omega
  have large : 2 ≤ validated.internalSampleCapacity := by
    refine Nat.le_trans ?_ valid.logical_le
    rw [valid.logical_eq]
    exact Nat.le_trans frames (Nat.le_mul_of_pos_right _ valid.channels_pos)
  obtain ⟨ring, created, length, mask⟩ :=
    RingSystem.spscRingBuffer_of_isPowerOfTwo w zero large ⟨k, capacity⟩
  rw [capacity] at length mask
  refine ⟨ring, created, fun first => ⟨fun stream reached => ?_, fun stream settled reached => ?_⟩⟩
  · have invariant : Invariant (step validated) (PcmRingSystem.start ring first)
        (Sound k first validated) :=
      ⟨sound_start length mask first, fun sound stepped => sound.step settings stepped⟩
    obtain ⟨written, taken, sound⟩ := invariant.reachable reached
    exact ⟨sound.wholeFrames settings valid capacity, fun action next returned stepped =>
      ⟨step_checksKeep stepped, pushed_of_accepts stepped⟩⟩
  · have invariant : Invariant (recorded validated) (PcmRingSystem.start ring first, [])
        fun record => Sound k first validated record.1 ∧
          record.1.queue.pushed = record.2 ++ record.1.writer.published :=
      { start := ⟨sound_start length mask first, rfl⟩
        step := by
          rintro ⟨stream, settled⟩ record action returned ⟨sound, history⟩ taken
          unfold recorded at taken
          split at taken
          · rename_i next result stepped
            cases taken
            exact ⟨sound.step settings stepped, sound.recorded history stepped⟩
          · cases taken }
    exact (invariant.reachable reached).2

/-- A stereo ring of five frames. -/
theorem pcm_ring_whole_frames_stereo :
    let config : PcmStreamConfig := ⟨"test-device", ⟨48000, 2⟩, 5, 3, 1000⟩
    let validated : ValidatedConfig := ⟨2, 10, 16⟩
    validateConfig 64 config = .ok validated ∧
      ∃ ring, spscRingBuffer 64 (0 : ℚ) validated.internalSampleCapacity = .ok ring ∧
        ∀ first,
          (∀ stream, Reachable (step validated) (PcmRingSystem.start ring first) stream →
            WholeFrames config validated stream ∧
              ∀ action next returned, stream.step validated action = some (next, returned) →
                ChecksKeep stream action next returned ∧
                (returned.any PcmRingReturn.accepts = true →
                  ∃ call, stream.writer = .pushed call call.samples.length)) ∧
          ∀ stream settled,
            Reachable (recorded validated) (PcmRingSystem.start ring first, []) (stream, settled) →
              stream.queue.pushed = settled ++ stream.writer.published := by
  have accepted : validateConfig 64 ⟨"test-device", ⟨48000, 2⟩, 5, 3, 1000⟩ = .ok ⟨2, 10, 16⟩ := by
    decide +kernel
  exact ⟨accepted, pcm_ring_whole_frames accepted 0⟩

end PcmRingSystem

end VCable
