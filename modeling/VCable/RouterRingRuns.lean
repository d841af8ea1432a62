import VCable.FrameStreams
import VCable.RingBufferFifo
import VCable.RouterRings

/-!
# Frames on the rings of the router

What is in a ring is a sequence of whole source frames, of which the last may
still be on its way.  A frame that cannot be finished, since its list has fewer
channels than the route, leaves its first samples in the ring.
-/

namespace VCable

open LabelledSteps RingSystem

variable {α : Type*}

/-! ## Source frames -/

/-- The first channels of a frame of a list. -/
def sourceFrame (channels : Nat) (source : AudioBufferList α × Nat) : List α :=
  (List.range channels).filterMap (readAudioSample source.1 source.2)

section SourceFrames

variable {source : AudioBufferList α × Nat} {channels : Nat}

theorem sourceFrame_succ {sample : α}
    (read : readAudioSample source.1 source.2 channels = some sample) :
    sourceFrame (channels + 1) source = sourceFrame channels source ++ [sample] := by
  rw [sourceFrame, List.range_succ, List.filterMap_append, List.filterMap_cons_some read]
  rfl

theorem length_sourceFrame_le : (sourceFrame channels source).length ≤ channels :=
  (List.length_filterMap_le _ _).trans List.length_range.le

/-- A frame that is complete has a sample of every channel. -/
theorem map_some_sourceFrame (complete : (sourceFrame channels source).length = channels) :
    (sourceFrame channels source).map some =
      (List.range channels).map (readAudioSample source.1 source.2) := by
  induction channels with
  | zero => rfl
  | succ channels ih =>
      cases read : readAudioSample source.1 source.2 channels with
      | none =>
          have short : sourceFrame (channels + 1) source = sourceFrame channels source := by
            rw [sourceFrame, List.range_succ, List.filterMap_append, List.filterMap_cons_none read]
            exact List.append_nil _
          rw [short] at complete
          exact absurd complete (Nat.lt_succ_of_le length_sourceFrame_le).ne
      | some sample =>
          rw [sourceFrame_succ read, List.length_append, List.length_singleton,
            Nat.succ_inj] at complete
          rw [sourceFrame_succ read, List.map_append, ih complete, List.range_succ,
            List.map_append, List.map_singleton, List.map_singleton, read]

end SourceFrames

theorem length_flatMap_sourceFrame {channels : Nat} {sources : List (AudioBufferList α × Nat)}
    (complete : ∀ source ∈ sources, (sourceFrame channels source).length = channels) :
    (sources.flatMap (sourceFrame channels)).length = sources.length * channels := by
  rw [List.length_flatMap, List.map_congr_left complete, List.map_const', List.sum_replicate_nat]

/-! ## Routes -/

namespace RouterRoute

/-- What the reader of a ring has taken: whole frames, and a part of the next one
if it is inside a `read_source_frame`. -/
def ReaderSound (channels : Nat) (frames : List (List α)) (queue : RingSystem α 64) :
    Option (List α) → Prop
  | none => queue.consumer = .idle ∧ queue.popped = frames.flatten
  | some output => queue.popped = frames.flatten ++ output ∧ output.length < channels ∧
      queue.popped.length + (channels - output.length) ≤ queue.pushed.length ∧
      (queue.consumer = .idle ∨ queue.consumer = .called .pop ∨
        ∃ read copied, queue.consumer = .copying .pop read 1 copied)

/-- The ring is a queue from which whole frames are taken. -/
structure RouteSound (k : Nat) (route : RouterRoute α) : Prop where
  narrow : k < 64
  positive : 0 < route.channels
  holds : Holds k 0 route.queue
  whole_frames : ∀ frame ∈ route.frames, frame.length = route.channels
  reader : ReaderSound route.channels route.frames route.queue route.reader

/-- A route between two source frames. -/
structure Whole (route : RouterRoute α) : Prop where
  idle : route.queue.producer = .idle
  complete : ∀ source ∈ route.begun, (sourceFrame route.channels source).length = route.channels
  pushed : route.queue.pushed = route.begun.flatMap (sourceFrame route.channels)

/-- The progress of the push of a sample. -/
def ProducerSound (channels channel : Nat) (source : AudioBufferList α × Nat)
    (producer : ProducerState α 64) : Prop :=
  producer = .idle ∨ (channel < channels ∧
    ∃ sample, readAudioSample source.1 source.2 channel = some sample ∧
      (producer = .called (.push sample) ∨
        ∃ write offset, producer = .copying (.push sample) write 1 offset))

/-- A route with a number of channels of a source frame in its ring. -/
structure Pushing (k : Nat) (earlier : List (AudioBufferList α × Nat))
    (source : AudioBufferList α × Nat) (channel : Nat) (route : RouterRoute α) : Prop where
  begun : route.begun = earlier ++ [source]
  complete : ∀ source ∈ earlier, (sourceFrame route.channels source).length = route.channels
  pushed : route.queue.pushed =
    earlier.flatMap (sourceFrame route.channels) ++ sourceFrame channel source
  present : (sourceFrame channel source).length = channel
  channel_le : channel ≤ route.channels
  room : route.queue.pushed.length + (route.channels - channel) ≤ route.queue.popped.length + 2 ^ k
  producer : ProducerSound route.channels channel source route.queue.producer

/-- A step of the reader keeps what the callback has done. -/
structure KeepsInput (route next : RouterRoute α) : Prop where
  channels : next.channels = route.channels
  begun : next.begun = route.begun
  producer : next.queue.producer = route.queue.producer
  pushed : next.queue.pushed = route.queue.pushed
  popped_le : route.queue.popped.length ≤ next.queue.popped.length

section Reading

variable {route next : RouterRoute α} {k : Nat}

theorem Whole.keep (whole : route.Whole) (keeps : route.KeepsInput next) : next.Whole := by
  refine ⟨keeps.producer.trans whole.idle, ?_, ?_⟩
  · rw [keeps.begun, keeps.channels]
    exact whole.complete
  · rw [keeps.pushed, keeps.begun, keeps.channels]
    exact whole.pushed

theorem Pushing.keep {earlier : List (AudioBufferList α × Nat)}
    {source : AudioBufferList α × Nat} {channel : Nat}
    (pushing : Pushing k earlier source channel route) (keeps : route.KeepsInput next) :
    Pushing k earlier source channel next where
  begun := keeps.begun.trans pushing.begun
  complete := by
    rw [keeps.channels]
    exact pushing.complete
  pushed := by
    rw [keeps.pushed, keeps.channels]
    exact pushing.pushed
  present := pushing.present
  channel_le := keeps.channels ▸ pushing.channel_le
  room := by
    rw [keeps.pushed, keeps.channels]
    exact pushing.room.trans (Nat.add_le_add_right keeps.popped_le _)
  producer := by
    rw [keeps.channels, keeps.producer]
    exact pushing.producer

theorem RouteSound.used (sound : route.RouteSound k) :
    route.queue.ring.used = route.queue.pushed.length - route.queue.popped.length :=
  sound.holds.used_eq sound.narrow

theorem RouteSound.startRead (sound : route.RouteSound k) (settled : route.reader = none)
    (available : route.channels ≤ route.queue.ring.used) :
    RouteSound k { route with reader := some [] } := by
  have reader := sound.reader
  rw [settled] at reader
  obtain ⟨idle, popped⟩ := reader
  have ordered := sound.holds.popped_prefix.length_le
  rw [sound.used] at available
  refine { sound with reader := ⟨?_, sound.positive, ?_, Or.inl idle⟩ }
  · rw [popped, List.append_nil]
  · change route.queue.popped.length + (route.channels - 0) ≤ route.queue.pushed.length
    omega

theorem consumerStep_eq_some {action : RingAction α}
    (taken : route.consumerStep action = some next) :
    ∃ output queue returned, route.reader = some output ∧
      route.queue.step action = some (queue, returned) ∧
      next = route.continueRead output queue returned := by
  unfold consumerStep at taken
  split at taken
  · cases taken
    exact ⟨_, _, _, ‹_›, ‹_›, rfl⟩
  · cases taken

/-- A step of the reader inside a pop. -/
theorem RouteSound.setQueue (sound : route.RouteSound k) {output : List α}
    (reading : route.reader = some output) {queue : RingSystem α 64} (holds : Holds k 0 queue)
    (popped : queue.popped = route.queue.popped) (pushed : queue.pushed = route.queue.pushed)
    (consumer : queue.consumer = .idle ∨ queue.consumer = .called .pop ∨
      ∃ read copied, queue.consumer = .copying .pop read 1 copied) :
    RouteSound k { route with queue := queue } := by
  have reader := sound.reader
  rw [reading] at reader
  refine { sound with holds := holds, reader := ?_ }
  change ReaderSound route.channels route.frames queue route.reader
  rw [reading]
  refine ⟨popped.trans reader.1, reader.2.1, ?_, consumer⟩
  rw [popped, pushed]
  exact reader.2.2.1

theorem RouteSound.startPop (sound : route.RouteSound k)
    (taken : route.consumerStep (.startPop .pop) = some next) :
    next.RouteSound k ∧ route.KeepsInput next := by
  obtain ⟨output, queue, returned, reading, stepped, rfl⟩ := consumerStep_eq_some taken
  have holds := sound.holds.step sound.narrow stepped
  obtain ⟨idle, rfl, rfl⟩ := step_startPop stepped
  exact ⟨sound.setQueue reading holds rfl rfl (Or.inr (Or.inl rfl)), rfl, rfl, rfl, rfl, le_rfl⟩

theorem RouteSound.loadWrite (sound : route.RouteSound k)
    (taken : route.consumerStep .loadWrite = some next) :
    next.RouteSound k ∧ route.KeepsInput next := by
  obtain ⟨output, queue, returned, reading, stepped, rfl⟩ := consumerStep_eq_some taken
  have holds := sound.holds.step sound.narrow stepped
  have used := sound.used
  have reader := sound.reader
  rw [reading] at reader
  obtain ⟨popped, short, available, consumer⟩ := reader
  obtain ⟨call, called, outcome⟩ := step_loadWrite stepped
  rw [called] at consumer
  obtain rfl : call = .pop := by
    rcases consumer with idle | pops | ⟨read, copied, copying⟩
    · cases idle
    · cases pops
      rfl
    · cases copying
  have nonempty : ¬ route.queue.ring.used = 0 := by omega
  rcases outcome with ⟨empty, _, _⟩ | ⟨_, rfl, rfl⟩
  · exact absurd (of_decide_eq_true empty) nonempty
  · have single : PopCall.count route.queue.ring.used .pop = 1 := if_neg nonempty
    exact ⟨sound.setQueue reading holds rfl rfl (Or.inr (Or.inr
      ⟨_, _, congrArg (ConsumerState.copying .pop route.queue.ring.read · []) single⟩)),
      rfl, rfl, rfl, rfl, le_rfl⟩

theorem RouteSound.readSlot (sound : route.RouteSound k)
    (taken : route.consumerStep .readSlot = some next) :
    next.RouteSound k ∧ route.KeepsInput next := by
  obtain ⟨output, queue, returned, reading, stepped, rfl⟩ := consumerStep_eq_some taken
  have holds := sound.holds.step sound.narrow stepped
  have reader := sound.reader
  rw [reading] at reader
  obtain ⟨call, read, count, copied, sample, copying, _, _, rfl, rfl⟩ := step_readSlot stepped
  have consumer := reader.2.2.2
  rw [copying] at consumer
  rcases consumer with idle | pops | ⟨read, copied, same⟩
  · cases idle
  · cases pops
  · cases same
    exact ⟨sound.setQueue reading holds rfl rfl (Or.inr (Or.inr ⟨_, _, rfl⟩)),
      rfl, rfl, rfl, rfl, le_rfl⟩

/-- The end of a pop gives a sample, and the last one a frame. -/
theorem RouteSound.publishRead (sound : route.RouteSound k)
    (taken : route.consumerStep .publishRead = some next) :
    next.RouteSound k ∧ route.KeepsInput next := by
  obtain ⟨output, queue, returned, reading, stepped, rfl⟩ := consumerStep_eq_some taken
  have holds := sound.holds.step sound.narrow stepped
  have reader := sound.reader
  rw [reading] at reader
  obtain ⟨popped, short, available, consumer⟩ := reader
  obtain ⟨call, read, copied, copying, rfl, rfl⟩ := step_publishRead stepped
  rw [copying] at consumer
  obtain ⟨rfl, single⟩ : call = .pop ∧ copied.length = 1 := by
    rcases consumer with idle | pops | ⟨read, copied, same⟩
    · cases idle
    · cases pops
    · injection same with sameCall _ sameCount
      exact ⟨sameCall, sameCount⟩
  obtain ⟨sample, rfl⟩ := List.length_eq_one_iff.mp single
  have result : (PopCall.pop.result [sample] : Return α) = .pop (some sample) := rfl
  rw [result, continueRead]
  have grows : route.queue.popped.length ≤ (route.queue.popped ++ [sample]).length :=
    (List.prefix_append _ _).length_le
  by_cases more : output.length + 1 < route.channels
  · rw [if_pos more]
    refine ⟨{ sound with holds := holds, reader := ⟨?_, ?_, ?_, Or.inl rfl⟩ },
      rfl, rfl, rfl, rfl, grows⟩
    · change route.queue.popped ++ [sample] = _
      rw [popped, List.append_assoc]
    · rwa [List.length_append, List.length_singleton]
    · change (route.queue.popped ++ [sample]).length + _ ≤ route.queue.pushed.length
      simp only [List.length_append, List.length_singleton]
      omega
  · rw [if_neg more]
    refine ⟨{ sound with holds := holds, whole_frames := ?_, reader := ⟨rfl, ?_⟩ },
      rfl, rfl, rfl, rfl, grows⟩
    · intro frame member
      rcases List.mem_append.mp member with before | new
      · exact sound.whole_frames frame before
      · rw [List.mem_singleton.mp new, List.length_append, List.length_singleton]
        change output.length + 1 = route.channels
        omega
    · change route.queue.popped ++ [sample] = _
      rw [popped, List.flatten_append, List.flatten_singleton, List.append_assoc]

end Reading

section Pushing

variable {route : RouterRoute α} {k channel : Nat} {earlier : List (AudioBufferList α × Nat)}
  {source : AudioBufferList α × Nat} {queue : RingSystem α 64} {returned : Option (Return α)}

/-- A step of the callback keeps what the reader has done. -/
theorem RouteSound.setProducer (sound : route.RouteSound k) (holds : Holds k 0 queue)
    (consumer : queue.consumer = route.queue.consumer)
    (popped : queue.popped = route.queue.popped)
    (grows : route.queue.pushed.length ≤ queue.pushed.length)
    (begun : List (AudioBufferList α × Nat)) :
    RouteSound k { route with queue := queue, begun := begun } := by
  refine { sound with holds := holds, reader := ?_ }
  have reader := sound.reader
  change ReaderSound route.channels route.frames queue route.reader
  cases reading : route.reader with
  | none =>
      rw [reading] at reader
      exact ⟨consumer.trans reader.1, popped.trans reader.2⟩
  | some output =>
      rw [reading] at reader
      obtain ⟨before, short, available, state⟩ := reader
      refine ⟨popped.trans before, short, ?_, ?_⟩
      · rw [popped]
        exact available.trans grows
      · rwa [consumer]

/-- A source frame is begun when the ring has room for all its channels. -/
theorem Whole.begin (whole : route.Whole) (sound : route.RouteSound k)
    (available : ¬ route.queue.ring.available < route.channels)
    (source : AudioBufferList α × Nat) :
    Pushing k route.begun source 0 { route with begun := route.begun ++ [source] } where
  begun := rfl
  complete := whole.complete
  pushed := whole.pushed.trans (List.append_nil _).symm
  present := rfl
  channel_le := Nat.zero_le _
  room := by
    have capacity : route.queue.ring.capacity = 2 ^ k := sound.holds.length_samples
    have bounded := sound.holds.bounded
    have ordered := sound.holds.popped_prefix.length_le
    have positive := sound.positive
    rw [Ring.available, sound.used, capacity] at available
    change route.queue.pushed.length + (route.channels - 0) ≤ route.queue.popped.length + 2 ^ k
    omega
  producer := Or.inl whole.idle

/-- A step inside the push of a sample. -/
theorem Pushing.setQueue (pushing : Pushing k earlier source channel route)
    (popped : queue.popped = route.queue.popped) (pushed : queue.pushed = route.queue.pushed)
    (producer : ProducerSound route.channels channel source queue.producer) :
    Pushing k earlier source channel { route with queue := queue } :=
  { pushing with
    pushed := pushed.trans pushing.pushed
    room := by
      change queue.pushed.length + _ ≤ queue.popped.length + _
      rw [pushed, popped]
      exact pushing.room
    producer := producer }

theorem Pushing.startPush (pushing : Pushing k earlier source channel route)
    (sound : route.RouteSound k) (more : channel < route.channels) {sample : α}
    (read : readAudioSample source.1 source.2 channel = some sample)
    (stepped : route.queue.step (.startPush (.push sample)) = some (queue, returned)) :
    RouteSound k { route with queue := queue } ∧
      Pushing k earlier source channel { route with queue := queue } := by
  have holds := sound.holds.step sound.narrow stepped
  obtain ⟨_, rfl, rfl⟩ := step_startPush stepped
  exact ⟨sound.setProducer holds rfl rfl le_rfl route.begun,
    pushing.setQueue rfl rfl (Or.inr ⟨more, sample, read, Or.inl rfl⟩)⟩

/-- The room that was found is still there, so that the push is not refused. -/
theorem Pushing.loadRead (pushing : Pushing k earlier source channel route)
    (sound : route.RouteSound k)
    (stepped : route.queue.step .loadRead = some (queue, returned)) :
    returned = none ∧ RouteSound k { route with queue := queue } ∧
      Pushing k earlier source channel { route with queue := queue } := by
  have holds := sound.holds.step sound.narrow stepped
  have producer := pushing.producer
  have room := pushing.room
  have used := sound.used
  have capacity : route.queue.ring.capacity = 2 ^ k := sound.holds.length_samples
  have ordered := sound.holds.popped_prefix.length_le
  obtain ⟨call, called, outcome⟩ := step_loadRead stepped
  rw [called] at producer
  rcases producer with idle | ⟨more, sample, read, pushes | ⟨write, offset, copying⟩⟩
  · cases idle
  · cases pushes
    have space : ¬ route.queue.ring.used = route.queue.ring.capacity := by omega
    rcases outcome with ⟨full, _, _⟩ | ⟨_, rfl, rfl⟩
    · exact absurd (of_decide_eq_true full) space
    · have single : PushCall.count route.queue.ring.capacity route.queue.ring.used
          (.push sample) = 1 := if_neg space
      exact ⟨rfl, sound.setProducer holds rfl rfl le_rfl route.begun,
        pushing.setQueue rfl rfl (Or.inr ⟨more, sample, read, Or.inr ⟨_, _,
          congrArg (ProducerState.copying (.push sample) route.queue.ring.write · 0) single⟩⟩)⟩
  · cases copying

theorem Pushing.writeSlot (pushing : Pushing k earlier source channel route)
    (sound : route.RouteSound k)
    (stepped : route.queue.step .writeSlot = some (queue, returned)) :
    returned = none ∧ RouteSound k { route with queue := queue } ∧
      Pushing k earlier source channel { route with queue := queue } := by
  have holds := sound.holds.step sound.narrow stepped
  have producer := pushing.producer
  obtain ⟨call, write, count, offset, written, copying, _, _, _, rfl, rfl⟩ :=
    step_writeSlot stepped
  rw [copying] at producer
  rcases producer with idle | ⟨more, sample, read, pushes | ⟨write, offset, same⟩⟩
  · cases idle
  · cases pushes
  · cases same
    exact ⟨rfl, sound.setProducer holds rfl rfl le_rfl route.begun,
      pushing.setQueue rfl rfl (Or.inr ⟨more, sample, read, Or.inr ⟨_, _, rfl⟩⟩)⟩

/-- The end of a push puts the sample of the channel into the ring. -/
theorem Pushing.publishWrite (pushing : Pushing k earlier source channel route)
    (sound : route.RouteSound k)
    (stepped : route.queue.step .publishWrite = some (queue, returned)) :
    (∃ result, returned = some result) ∧ RouteSound k { route with queue := queue } ∧
      Pushing k earlier source (channel + 1) { route with queue := queue } := by
  have holds := sound.holds.step sound.narrow stepped
  have producer := pushing.producer
  have room := pushing.room
  obtain ⟨call, write, count, copying, rfl, rfl⟩ := step_publishWrite stepped
  rw [copying] at producer
  rcases producer with idle | ⟨more, sample, read, pushes | ⟨write, offset, same⟩⟩
  · cases idle
  · cases pushes
  · injection same with sameCall _ sameCount
    subst sameCall
    subst sameCount
    have added : (route.queue.pushed ++ [sample]).length = route.queue.pushed.length + 1 :=
      List.length_append
    refine ⟨⟨_, rfl⟩, sound.setProducer holds rfl rfl ?_ route.begun,
      { pushing with
        pushed := ?_
        present := ?_
        channel_le := more
        room := ?_
        producer := Or.inl rfl }⟩
    · change _ ≤ (route.queue.pushed ++ [sample]).length
      omega
    · change route.queue.pushed ++ [sample] = _
      rw [sourceFrame_succ read, pushing.pushed, List.append_assoc]
    · rw [sourceFrame_succ read, List.length_append, pushing.present]
      rfl
    · change (route.queue.pushed ++ [sample]).length + (route.channels - (channel + 1)) ≤
        route.queue.popped.length + 2 ^ k
      omega

/-- After its last channel a source frame is whole. -/
theorem Pushing.finish (pushing : Pushing k earlier source channel route)
    (done : ¬ channel < route.channels) (idle : route.queue.producer = .idle) : route.Whole := by
  obtain rfl : channel = route.channels := le_antisymm pushing.channel_le (Nat.not_lt.mp done)
  refine ⟨idle, ?_, ?_⟩
  · rw [pushing.begun]
    intro other member
    rcases List.mem_append.mp member with before | last
    · exact pushing.complete other before
    · rw [List.mem_singleton.mp last]
      exact pushing.present
  · rw [pushing.pushed, pushing.begun, List.flatMap_append, List.flatMap_singleton]

theorem Pushing.idle (pushing : Pushing k earlier source channel route)
    (done : ¬ channel < route.channels) : route.queue.producer = .idle := by
  rcases pushing.producer with idle | ⟨more, _⟩
  · exact idle
  · exact absurd more done

theorem Whole.dvd (whole : route.Whole) : route.channels ∣ route.queue.pushed.length := by
  rw [whole.pushed, length_flatMap_sourceFrame whole.complete]
  exact Nat.dvd_mul_left _ _

/-- A source frame that was begun and cannot be finished tears the stream. -/
theorem Pushing.not_dvd (pushing : Pushing k earlier source channel route)
    (begun : 0 < channel) (more : channel < route.channels) :
    ¬ route.channels ∣ route.queue.pushed.length := by
  rw [pushing.pushed, List.length_append, length_flatMap_sourceFrame pushing.complete,
    pushing.present]
  intro divides
  have rest := (Nat.dvd_add_right (Nat.dvd_mul_left route.channels earlier.length)).mp divides
  exact absurd (Nat.le_of_dvd begun rest) (Nat.not_le.mpr more)

end Pushing

end RouterRoute

namespace RouterAction

/-- The step of the ring in the push of a sample. -/
def pushAction : RouterAction α → Option (RingAction α)
  | .loadRead => some .loadRead
  | .writeSlot => some .writeSlot
  | .publishWrite => some .publishWrite
  | _ => none

/-- The step of the ring in a pop of the sink, with its route. -/
def popAction : RouterAction α → Option (Nat × RingAction α)
  | .startPop number => some (number, .startPop .pop)
  | .loadWrite number => some (number, .loadWrite)
  | .readSlot number => some (number, .readSlot)
  | .publishRead number => some (number, .publishRead)
  | _ => none

end RouterAction

namespace RouterSystem

/-! ## What a step does -/

/-- All the ways in which a step can go. -/
inductive Effect (system : RouterSystem α) : RouterAction α → RouterSystem α → Prop where
  | ignored {input : Option (AudioBufferList α)} : Effect system (.callback input) system
  | formatError {list : AudioBufferList α} (idle : system.input = .idle) :
      Effect system (.callback (some list)) { system with metrics := { system.metrics with
        formatErrors := system.metrics.formatErrors + 1 } }
  | started {list : AudioBufferList α} {frames : Nat} (idle : system.input = .idle)
      (counted : audioBufferListFrames list = some frames) :
      Effect system (.callback (some list)) { system with input := .measuring list frames 0 0 }
  | overrun {list : AudioBufferList α} {frames frame number : Nat} {route : RouterRoute α}
      (measuring : system.input = .measuring list frames frame number)
      (found : system.outgoing[number]? = some route)
      (full : route.queue.ring.available < route.channels) :
      Effect system .measure { system with
        input := .measuring list frames frame (number + 1)
        metrics := { system.metrics with overruns := system.metrics.overruns + 1 } }
  | begun {list : AudioBufferList α} {frames frame number : Nat} {route : RouterRoute α}
      (measuring : system.input = .measuring list frames frame number) (within : frame < frames)
      (found : system.outgoing[number]? = some route)
      (room : ¬ route.queue.ring.available < route.channels) :
      Effect system .measure { system.setRoute number
        { route with begun := route.begun ++ [(list, frame)] } with
          input := .pushing list frames frame number 0 }
  | nextFrame {list : AudioBufferList α} {frames frame number : Nat}
      (measuring : system.input = .measuring list frames frame number)
      (last : system.outgoing[number]? = none) :
      Effect system .measure { system with input := .measuring list frames (frame + 1) 0 }
  | finished {list : AudioBufferList α} {frames frame number : Nat}
      (measuring : system.input = .measuring list frames frame number)
      (done : ¬ frame < frames) : Effect system .measure { system with input := .idle }
  | reads {list : AudioBufferList α} {frames frame number channel : Nat} {route : RouterRoute α}
      {sample : α} {queue : RingSystem α 64} {returned : Option (Return α)}
      (pushing : system.input = .pushing list frames frame number channel)
      (found : system.outgoing[number]? = some route) (more : channel < route.channels)
      (read : readAudioSample list frame channel = some sample)
      (stepped : route.queue.step (.startPush (.push sample)) = some (queue, returned)) :
      Effect system .readSample (system.setRoute number { route with queue := queue })
  | torn {list : AudioBufferList α} {frames frame number channel : Nat} {route : RouterRoute α}
      (pushing : system.input = .pushing list frames frame number channel)
      (found : system.outgoing[number]? = some route) (more : channel < route.channels)
      (read : readAudioSample list frame channel = none) :
      Effect system .readSample { system with
        input := .idle
        metrics := { system.metrics with formatErrors := system.metrics.formatErrors + 1 } }
  | whole {list : AudioBufferList α} {frames frame number channel : Nat} {route : RouterRoute α}
      (pushing : system.input = .pushing list frames frame number channel)
      (found : system.outgoing[number]? = some route) (done : ¬ channel < route.channels) :
      Effect system .readSample
        { system with input := .measuring list frames frame (number + 1) }
  | inside {action : RouterAction α} {ringAction : RingAction α} {list : AudioBufferList α}
      {frames frame number channel : Nat} {route : RouterRoute α} {queue : RingSystem α 64}
      (acts : action.pushAction = some ringAction)
      (pushing : system.input = .pushing list frames frame number channel)
      (found : system.outgoing[number]? = some route)
      (stepped : route.queue.step ringAction = some (queue, none)) :
      Effect system action (system.setRoute number { route with queue := queue })
  | pushed {action : RouterAction α} {ringAction : RingAction α} {list : AudioBufferList α}
      {frames frame number channel : Nat} {route : RouterRoute α} {queue : RingSystem α 64}
      {result : Return α} (acts : action.pushAction = some ringAction)
      (pushing : system.input = .pushing list frames frame number channel)
      (found : system.outgoing[number]? = some route)
      (stepped : route.queue.step ringAction = some (queue, some result)) :
      Effect system action { system.setRoute number { route with queue := queue } with
        input := .pushing list frames frame number (channel + 1) }
  | readRefused {number : Nat} : Effect system (.startRead number) system
  | readStarted {number : Nat} {route : RouterRoute α}
      (found : system.outgoing[number]? = some route) (settled : route.reader = none)
      (available : route.channels ≤ route.queue.ring.used) :
      Effect system (.startRead number) (system.setRoute number { route with reader := some [] })
  | popping {action : RouterAction α} {ringAction : RingAction α} {number : Nat}
      {route next : RouterRoute α} (acts : action.popAction = some (number, ringAction))
      (found : system.outgoing[number]? = some route)
      (stepped : route.consumerStep ringAction = some next) :
      Effect system action (system.setRoute number next)

section Cases

variable {system next : RouterSystem α} {action : RouterAction α} {ringAction : RingAction α}
  {output : Unit}

theorem effect_producerStep (acts : action.pushAction = some ringAction)
    (taken : (system.producerStep ringAction).map (·, ()) = some (next, output)) :
    Effect system action next := by
  obtain ⟨reached, stepped, same⟩ := Option.map_eq_some_iff.mp taken
  cases same
  unfold producerStep at stepped
  split at stepped
  · rename_i pushing
    split at stepped
    · split at stepped
      · cases stepped
        exact .inside acts pushing ‹_› ‹_›
      · cases stepped
        exact .pushed acts pushing ‹_› ‹_›
      · cases stepped
    · cases stepped
  · cases stepped

theorem effect_consumerStep {number : Nat} (acts : action.popAction = some (number, ringAction))
    (taken : (system.consumerStep number ringAction).map (·, ()) = some (next, output)) :
    Effect system action next := by
  obtain ⟨reached, stepped, same⟩ := Option.map_eq_some_iff.mp taken
  cases same
  unfold consumerStep at stepped
  split at stepped
  · obtain ⟨route, read, same⟩ := Option.map_eq_some_iff.mp stepped
    cases same
    exact .popping acts ‹_› read
  · cases stepped

theorem effect_of_step (taken : system.step action = some (next, output)) :
    Effect system action next := by
  cases action with
  | callback input =>
      simp only [step] at taken
      split at taken
      · split at taken
        · cases taken
          exact .ignored
        · split at taken
          · cases taken
            exact .ignored
          · split at taken
            · cases taken
              exact .started ‹_› ‹_›
            · cases taken
              exact .formatError ‹_›
      · cases taken
  | measure =>
      simp only [step] at taken
      split at taken
      · split at taken
        · split at taken
          · split at taken
            · cases taken
              exact .overrun ‹_› ‹_› ‹_›
            · cases taken
              exact .begun ‹_› ‹_› ‹_› ‹_›
          · cases taken
            exact .nextFrame ‹_› ‹_›
        · cases taken
          exact .finished ‹_› ‹_›
      · cases taken
  | readSample =>
      simp only [step] at taken
      split at taken
      · split at taken
        · split at taken
          · split at taken
            · split at taken
              · cases taken
                exact .reads ‹_› ‹_› ‹_› ‹_› ‹_›
              · cases taken
            · cases taken
              exact .torn ‹_› ‹_› ‹_› ‹_›
          · cases taken
            exact .whole ‹_› ‹_› ‹_›
        · cases taken
      · cases taken
  | loadRead => exact effect_producerStep rfl taken
  | writeSlot => exact effect_producerStep rfl taken
  | publishWrite => exact effect_producerStep rfl taken
  | startRead number =>
      simp only [step] at taken
      split at taken
      · split at taken
        · split at taken
          · cases taken
            exact .readRefused
          · cases taken
            exact .readStarted ‹_› ‹_› (Nat.not_lt.mp ‹_›)
        · cases taken
      · cases taken
  | startPop number => exact effect_consumerStep rfl taken
  | loadWrite number => exact effect_consumerStep rfl taken
  | readSlot number => exact effect_consumerStep rfl taken
  | publishRead number => exact effect_consumerStep rfl taken

end Cases

/-! ## The invariant of a callback -/

open RouterRoute

/-- Where a route is in the callback. -/
def RouteAt (k number : Nat) (route : RouterRoute α) : InputProgress α → Prop
  | .idle => route.Whole
  | .measuring _ _ _ _ => route.Whole
  | .pushing list _ frame current channel =>
      if current = number then ∃ earlier, Pushing k earlier (list, frame) channel route
      else route.Whole

/-- The list of the callback has passed `audio_buffer_list_frames`. -/
def Counted : InputProgress α → Prop
  | .idle => True
  | .measuring list frames _ _ => audioBufferListFrames list = some frames
  | .pushing list frames frame _ _ => audioBufferListFrames list = some frames ∧ frame < frames

/-- Every route is between two source frames, but for the one that is being pushed into. -/
structure Sound (system : RouterSystem α) : Prop where
  routes : ∀ number route, system.outgoing[number]? = some route →
    ∃ k, RouteSound k route ∧ RouteAt k number route system.input
  counted : Counted system.input

/-- A source frame has a channel whose sample cannot be read. -/
def Tears (system : RouterSystem α) : Prop :=
  ∃ list frames frame number channel route,
    system.input = .pushing list frames frame number channel ∧
      system.outgoing[number]? = some route ∧ channel < route.channels ∧
      readAudioSample list frame channel = none

/-- Every ring has had whole frames only. -/
def Aligned (system : RouterSystem α) : Prop :=
  ∀ route ∈ system.outgoing, route.channels ∣ route.queue.pushed.length

section Steps

variable {system next : RouterSystem α} {action : RouterAction α} {list : AudioBufferList α}
  {frames frame number channel k : Nat} {route : RouterRoute α}

theorem routeAt_self :
    RouteAt k number route (.pushing list frames frame number channel) ↔
      ∃ earlier, Pushing k earlier (list, frame) channel route := by
  rw [RouteAt, if_pos rfl]

theorem RouteAt.whole_of_ne {other : Nat} (differ : other ≠ number)
    (pushing : RouteAt k other route (.pushing list frames frame number channel)) :
    route.Whole := by
  rwa [RouteAt, if_neg (Ne.symm differ)] at pushing

theorem RouteAt.of_whole {other : Nat} (differ : other ≠ number) (whole : route.Whole) :
    RouteAt k other route (.pushing list frames frame number channel) := by
  rwa [RouteAt, if_neg (Ne.symm differ)]

/-- A step at one route leaves the others where they are. -/
theorem Sound.setRoute (sound : system.Sound) {before : RouterRoute α}
    (found : system.outgoing[number]? = some before) {input : InputProgress α}
    {metrics : RouterMetrics}
    (own : ∃ k, RouteSound k route ∧ RouteAt k number route input)
    (others : ∀ other route k, other ≠ number → RouteAt k other route system.input →
      RouteAt k other route input) (counted : Counted input) :
    Sound ⟨system.outgoing.set number route, input, metrics⟩ := by
  refine ⟨fun other present presentAt => ?_, counted⟩
  have within : number < system.outgoing.length := (List.getElem?_eq_some_iff.mp found).1
  by_cases same : other = number
  · subst same
    rw [List.getElem?_set_self within] at presentAt
    cases presentAt
    exact own
  · rw [List.getElem?_set_ne (Ne.symm same)] at presentAt
    obtain ⟨k, routeSound, placed⟩ := sound.routes other present presentAt
    exact ⟨k, routeSound, others other present k same placed⟩

/-- A step that changes no route. -/
theorem Sound.setInput (sound : system.Sound) {input : InputProgress α} {metrics : RouterMetrics}
    (moves : ∀ number route k, system.outgoing[number]? = some route →
      RouteAt k number route system.input → RouteAt k number route input)
    (counted : Counted input) : Sound ⟨system.outgoing, input, metrics⟩ := by
  refine ⟨fun number route found => ?_, counted⟩
  obtain ⟨k, routeSound, placed⟩ := sound.routes number route found
  exact ⟨k, routeSound, moves number route k found placed⟩

theorem Sound.pushing (sound : system.Sound)
    (pushing : system.input = .pushing list frames frame number channel)
    (found : system.outgoing[number]? = some route) :
    ∃ k earlier, RouteSound k route ∧ Pushing k earlier (list, frame) channel route := by
  obtain ⟨k, routeSound, placed⟩ := sound.routes number route found
  rw [pushing, routeAt_self] at placed
  obtain ⟨earlier, placed⟩ := placed
  exact ⟨k, earlier, routeSound, placed⟩

theorem Sound.counted_pushing (sound : system.Sound)
    (pushing : system.input = .pushing list frames frame number channel) :
    audioBufferListFrames list = some frames ∧ frame < frames := by
  have counted := sound.counted
  rwa [pushing] at counted

/-- A pop of a sink keeps the callback where it is. -/
theorem RouteAt.keep {before : RouterRoute α} {input : InputProgress α}
    (placed : RouteAt k number before input) (keeps : before.KeepsInput route) :
    RouteAt k number route input := by
  cases input with
  | idle => exact Whole.keep placed keeps
  | measuring => exact Whole.keep placed keeps
  | pushing list frames frame current channel =>
      by_cases same : current = number
      · subst same
        obtain ⟨earlier, pushing⟩ := routeAt_self.mp placed
        exact routeAt_self.mpr ⟨earlier, pushing.keep keeps⟩
      · exact .of_whole (Ne.symm same) (Whole.keep (placed.whole_of_ne (Ne.symm same)) keeps)

theorem Sound.popping (sound : system.Sound) {ringAction : RingAction α}
    {before : RouterRoute α} (acts : action.popAction = some (number, ringAction))
    (found : system.outgoing[number]? = some before)
    (stepped : before.consumerStep ringAction = some route) :
    (system.setRoute number route).Sound := by
  obtain ⟨k, routeSound, placed⟩ := sound.routes number before found
  have kept : RouteSound k route ∧ before.KeepsInput route := by
    unfold RouterAction.popAction at acts
    split at acts
    · cases acts
      exact routeSound.startPop stepped
    · cases acts
      exact routeSound.loadWrite stepped
    · cases acts
      exact routeSound.readSlot stepped
    · cases acts
      exact routeSound.publishRead stepped
    · cases acts
  exact sound.setRoute found ⟨k, kept.1, placed.keep kept.2⟩ (fun _ _ _ _ same => same)
    sound.counted

/-- A step inside a push, before its end. -/
theorem Sound.inside (sound : system.Sound) {ringAction : RingAction α}
    {queue : RingSystem α 64} (acts : action.pushAction = some ringAction)
    (pushing : system.input = .pushing list frames frame number channel)
    (found : system.outgoing[number]? = some route)
    (stepped : route.queue.step ringAction = some (queue, none)) :
    (system.setRoute number { route with queue := queue }).Sound := by
  obtain ⟨k, earlier, routeSound, placed⟩ := sound.pushing pushing found
  have kept : RouteSound k { route with queue := queue } ∧
      Pushing k earlier (list, frame) channel { route with queue := queue } := by
    unfold RouterAction.pushAction at acts
    split at acts
    · cases acts
      exact (placed.loadRead routeSound stepped).2
    · cases acts
      exact (placed.writeSlot routeSound stepped).2
    · cases acts
      obtain ⟨⟨result, returned⟩, _⟩ := placed.publishWrite routeSound stepped
      cases returned
    · cases acts
  refine sound.setRoute found ⟨k, kept.1, ?_⟩ (fun _ _ _ _ same => same) sound.counted
  rw [pushing, routeAt_self]
  exact ⟨earlier, kept.2⟩

/-- The end of a push. -/
theorem Sound.pushed (sound : system.Sound) {ringAction : RingAction α}
    {queue : RingSystem α 64} {result : Return α} (acts : action.pushAction = some ringAction)
    (pushing : system.input = .pushing list frames frame number channel)
    (found : system.outgoing[number]? = some route)
    (stepped : route.queue.step ringAction = some (queue, some result)) :
    Sound { system.setRoute number { route with queue := queue } with
      input := .pushing list frames frame number (channel + 1) } := by
  obtain ⟨k, earlier, routeSound, placed⟩ := sound.pushing pushing found
  have kept : RouteSound k { route with queue := queue } ∧
      Pushing k earlier (list, frame) (channel + 1) { route with queue := queue } := by
    unfold RouterAction.pushAction at acts
    split at acts
    · cases acts
      cases (placed.loadRead routeSound stepped).1
    · cases acts
      cases (placed.writeSlot routeSound stepped).1
    · cases acts
      exact (placed.publishWrite routeSound stepped).2
    · cases acts
  refine sound.setRoute found ⟨k, kept.1, routeAt_self.mpr ⟨earlier, kept.2⟩⟩ ?_
    (sound.counted_pushing pushing)
  intro other present k differ before
  rw [pushing] at before
  exact .of_whole differ (before.whole_of_ne differ)

/-- Every step but a failing read keeps the routes sound. -/
theorem Sound.step (sound : system.Sound) (effect : Effect system action next)
    (reads : ¬ (action = .readSample ∧ system.Tears)) : next.Sound := by
  cases effect with
  | ignored => exact sound
  | readRefused => exact sound
  | formatError idle =>
      exact sound.setInput (fun _ _ _ _ same => same) sound.counted
  | started idle counted =>
      refine sound.setInput (fun number route k _ placed => ?_) counted
      rw [idle] at placed
      exact placed
  | overrun measuring found full =>
      have counted := sound.counted
      rw [measuring] at counted
      refine sound.setInput (fun number route k _ placed => ?_) counted
      rw [measuring] at placed
      exact placed
  | begun measuring within found room =>
      have counted := sound.counted
      obtain ⟨k, routeSound, placed⟩ := sound.routes _ _ found
      rw [measuring] at counted placed
      have begins := placed.begin routeSound room
      refine sound.setRoute found ⟨k, ?_, routeAt_self.mpr ⟨_, begins _⟩⟩ ?_ ⟨counted, within⟩
      · exact routeSound.setProducer routeSound.holds rfl rfl le_rfl _
      · intro other present k differ before
        rw [measuring] at before
        exact .of_whole differ before
  | nextFrame measuring last =>
      have counted := sound.counted
      rw [measuring] at counted
      refine sound.setInput (fun number route k _ placed => ?_) counted
      rw [measuring] at placed
      exact placed
  | finished measuring done =>
      refine sound.setInput (fun number route k _ placed => ?_) trivial
      rw [measuring] at placed
      exact placed
  | reads pushing found more read stepped =>
      obtain ⟨k, earlier, routeSound, placed⟩ := sound.pushing pushing found
      obtain ⟨routeSound, placed⟩ := placed.startPush routeSound more read stepped
      refine sound.setRoute found ⟨k, routeSound, ?_⟩ (fun _ _ _ _ same => same) sound.counted
      rw [pushing, routeAt_self]
      exact ⟨earlier, placed⟩
  | torn pushing found more read =>
      exact absurd ⟨rfl, _, _, _, _, _, _, pushing, found, more, read⟩ reads
  | @whole list frames frame number channel route pushing found done =>
      refine sound.setInput (fun other present k presentAt placed => ?_)
        (sound.counted_pushing pushing).1
      rw [pushing] at placed
      by_cases same : other = number
      · subst same
        cases found.symm.trans presentAt
        obtain ⟨earlier, placed⟩ := routeAt_self.mp placed
        exact placed.finish done (placed.idle done)
      · exact placed.whole_of_ne same
  | inside acts pushing found stepped => exact sound.inside acts pushing found stepped
  | pushed acts pushing found stepped => exact sound.pushed acts pushing found stepped
  | readStarted found settled available =>
      obtain ⟨k, routeSound, placed⟩ := sound.routes _ _ found
      exact sound.setRoute found ⟨k, routeSound.startRead settled available,
        placed.keep ⟨rfl, rfl, rfl, rfl, le_rfl⟩⟩ (fun _ _ _ _ same => same) sound.counted
  | popping acts found stepped => exact sound.popping acts found stepped

/-- A failing read ends the callback inside a frame. -/
theorem Sound.torn (sound : system.Sound) (effect : Effect system .readSample next)
    (tears : system.Tears) : next.input = .idle ∧ ¬ next.Aligned := by
  obtain ⟨list, frames, frame, number, channel, route, pushing, found, more, read⟩ := tears
  obtain ⟨counted, within⟩ := sound.counted_pushing pushing
  have begun : 0 < channel := by
    refine Nat.pos_of_ne_zero fun zero => ?_
    have readable := (@isSome_readAudioSample _ _ _ _ channel counted within).mpr
      (zero ▸ channelCount_pos counted (Nat.zero_lt_of_lt within))
    rw [read] at readable
    cases readable
  obtain ⟨k, earlier, _, placed⟩ := sound.pushing pushing found
  have torn := placed.not_dvd begun more
  cases effect with
  | reads again foundAgain _ readAgain =>
      cases pushing.symm.trans again
      cases read.symm.trans readAgain
  | torn => exact ⟨rfl, fun aligned => torn (aligned route (List.mem_of_getElem? found))⟩
  | whole again foundAgain done =>
      cases pushing.symm.trans again
      cases found.symm.trans foundAgain
      exact absurd more done
  | inside acts => cases acts
  | pushed acts => cases acts
  | popping acts => cases acts

end Steps

end RouterSystem

end VCable
