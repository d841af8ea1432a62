import VCable.DriverIo
import VCable.DriverRunningDevices

/-!
# The devices of the driver as virtual cables

A cable plays what is written to its output side on its input side, a latency
later, and starts empty with the first client of each session.  Each device of
the driver is such a cable, whatever happens to the other devices and to the
table meanwhile.
-/

namespace VCable

open LabelledSteps

/-! ## Cables -/

/-- What a device is for, with the frames written to it, the newest one first. -/
structure Cable where
  inputChannels : UInt32
  outputChannels : UInt32
  clients : Nat
  inputActive : Bool
  outputActive : Bool
  log : List WrittenFrame
  deriving DecidableEq

namespace Cable

def new (inputChannels outputChannels : UInt32) : Cable where
  inputChannels := inputChannels
  outputChannels := outputChannels
  clients := 0
  inputActive := true
  outputActive := true
  log := []

/-- What an event makes of its cable. -/
def after (cable : Cable) : IoEvent → Cable
  | .created _ inputChannels outputChannels => new inputChannels outputChannels
  | .started _ _ _ =>
      { cable with
        clients := cable.clients + 1
        log := if cable.clients = 0 then [] else cable.log }
  | .stopped _ => { cable with clients := cable.clients - 1 }
  | .wrote _ sampleTime frames input =>
      { cable with
        log :=
          if cable.outputActive then
            logFrames cable.outputChannels.toNat sampleTime input cable.log frames.toNat
          else cable.log }
  | .switched _ true active => { cable with inputActive := active }
  | .switched _ false active => { cable with outputActive := active }
  | .played _ _ _ _ _ => cable
  | .stamped _ _ _ => cable

/-- A cable after all that happened to its device, in a record with the newest
event first. -/
def afterAll (start : Nat → Cable) (device : Nat) (events : List IoEvent) : Cable :=
  IoEvent.replay after device events (start device)

/-- What a read gives: at every frame what is heard there, and the rest of the
buffer as it was. -/
def Plays (cable : Cable) (sampleTime : UInt64) (frames : UInt32) (output result : List UInt32) :
    Prop :=
  PlayedUpTo (Loopback.new cable.inputChannels cable.outputChannels) cable.log cable.inputActive
    sampleTime frames.toNat frames.toNat output result

end Cable

/-- An event of a cable is one that the cable allows. -/
def IoEvent.Fits (cable : Cable) : IoEvent → Prop
  | started _ first _ => first = decide (cable.clients = 0)
  | stopped _ => cable.clients ≠ 0
  | played _ sampleTime frames output result => cable.Plays sampleTime frames output result
  | _ => True

/-! ## What the host keeps to -/

namespace IoSystem

/-- The buffers of an operation hold its frames, its sample times do not wrap,
and no counter of clients overflows. -/
def admissible (system : IoSystem) : IoAction → Bool
  | .table action => system.table.fewClients action
  | .operate thread =>
      match system.calls thread with
      | some (.doIoOperation _ _ operation frames (some cycle) (some buffer), .found device) =>
          if operation = kAudioServerPlugInIOOperationWriteMix then
            (max 0 cycle.mOutputTime).floor.toNat + frames.toNat < 2 ^ 64 &&
              frames.toNat * (system.table.driver.devices device).outputChannels.toNat ≤
                buffer.length
          else if operation = kAudioServerPlugInIOOperationReadInput then
            (max 0 cycle.mInputTime).floor.toNat + frames.toNat < 2 ^ 64 &&
              frames.toNat * (system.table.driver.devices device).inputChannels.toNat ≤
                buffer.length
          else true
      | _ => true
  | _ => true

theorem toNat_castSampleTime {sampleTime : ℚ} {frames : UInt32}
    (noWrap : (max 0 sampleTime).floor.toNat + frames.toNat < 2 ^ 64) :
    (castSampleTime sampleTime).toNat + frames.toNat < 2 ^ 64 := by
  rw [castSampleTime, UInt64.toNat_ofNat', Nat.mod_eq_of_lt (by omega)]
  exact noWrap

/-! ## Devices as cables -/

/-- The ring of a device holds the frames of a cable. -/
structure Carries (cable : Cable) (device : Device) (io : DeviceIo) : Prop where
  tracks : Tracks ⟨io.ring, cable.log⟩
  inputActive : io.ring.inputActive = cable.inputActive
  outputActive : io.ring.outputActive = cable.outputActive
  inputChannels : io.ring.inputChannels = cable.inputChannels
  outputChannels : io.ring.outputChannels = cable.outputChannels
  ring_inputs : io.ring.inputChannels = device.inputChannels
  ring_outputs : io.ring.outputChannels = device.outputChannels
  clients : device.runningClients.toNat = cable.clients

namespace Carries

variable {cable : Cable} {device next : Device} {io : DeviceIo}

theorem new (stopped : device.runningClients = 0) :
    Carries (.new device.inputChannels device.outputChannels) device (.new device) where
  tracks := tracks_new _ _
  inputActive := rfl
  outputActive := rfl
  inputChannels := rfl
  outputChannels := rfl
  ring_inputs := rfl
  ring_outputs := rfl
  clients := by rw [stopped]; rfl

/-- A device that keeps its format, with another number of clients. -/
theorem recount (carries : Carries cable device io) (format : next.format = device.format)
    {clients : Nat} (counted : next.runningClients.toNat = clients) :
    Carries { cable with clients := clients } next io :=
  { carries with
    ring_inputs := carries.ring_inputs.trans (congrArg Prod.fst format).symm
    ring_outputs := carries.ring_outputs.trans (congrArg (·.2.1) format).symm
    clients := counted }

theorem keep (carries : Carries cable device io) (format : next.format = device.format)
    (running : next.runningClients = device.runningClients) : Carries cable next io :=
  carries.recount format (by rw [running, carries.clients])

theorem other (carries : Carries cable device io) {io' : DeviceIo} (sameDevice : next = device)
    (sameIo : io' = io) : Carries cable next io' :=
  sameDevice ▸ sameIo ▸ carries

/-- The first client clears the ring. -/
theorem start (carries : Carries cable device io) (event : Nat) (now : UInt64)
    (format : next.format = device.format)
    (counted : next.runningClients = device.runningClients + 1)
    (few : device.runningClients.toNat + 1 < 2 ^ 32) :
    Carries (cable.after (.started event (decide (device.runningClients = 0)) now)) next
      (if decide (device.runningClients = 0) then io.beginSession now else io) := by
  have more : next.runningClients.toNat = cable.clients + 1 := by
    rw [counted, UInt32.toNat_add, UInt32.toNat_one, Nat.mod_eq_of_lt few, carries.clients]
  have none : device.runningClients = 0 ↔ cable.clients = 0 := by
    rw [← carries.clients, ← UInt32.toNat_inj, UInt32.toNat_zero]
  have counts := carries.recount format more
  rw [Cable.after]
  by_cases first : device.runningClients = 0
  · rw [if_pos (decide_eq_true first), if_pos (none.mp first)]
    exact { counts with tracks := tracks_clearTags carries.tracks.shaped }
  · rw [if_neg (ne_true_of_eq_false (decide_eq_false first)), if_neg (none.not.mp first)]
    exact counts

theorem stop (carries : Carries cable device io) (event : Nat)
    (format : next.format = device.format) (running : device.runningClients ≠ 0)
    (counted : next.runningClients = device.runningClients - 1) :
    cable.clients ≠ 0 ∧ Carries (cable.after (.stopped event)) next io := by
  have positive : 1 ≤ device.runningClients.toNat :=
    Nat.one_le_iff_ne_zero.mpr fun zero => running (UInt32.toNat_inj.mp zero)
  have one : (1 : UInt32) ≤ device.runningClients := by
    rw [UInt32.le_iff_toNat_le]
    exact positive
  refine ⟨?_, carries.recount format ?_⟩
  · rw [← carries.clients]
    exact Nat.one_le_iff_ne_zero.mp positive
  · rw [counted, UInt32.toNat_sub_of_le _ _ one, carries.clients, UInt32.toNat_one]

theorem write (carries : Carries cable device io) (event : Nat) {sampleTime : UInt64}
    {frames : UInt32} {input : List UInt32}
    (noWrap : sampleTime.toNat + frames.toNat < 2 ^ 64)
    (present : frames.toNat * device.outputChannels.toNat ≤ input.length) :
    ∃ ring, io.ring.write sampleTime frames (some input) = some ring ∧
      Carries (cable.after (.wrote event sampleTime frames input)) device
        { io with ring := ring } := by
  obtain ⟨ring, written, tracks, sameInputs, sameOutputs⟩ :=
    @Tracks.write _ carries.tracks sampleTime frames (some input) ⟨noWrap, by
      rintro _ ⟨⟩
      rw [carries.ring_outputs]
      exact present⟩
  obtain ⟨inputActive, outputActive⟩ := Prod.mk.inj (Loopback.switches_write written)
  refine ⟨ring, written, ?_⟩
  rw [Cable.after]
  refine
    { tracks := ?_
      inputActive := inputActive.trans carries.inputActive
      outputActive := outputActive.trans carries.outputActive
      inputChannels := sameInputs.trans carries.inputChannels
      outputChannels := sameOutputs.trans carries.outputChannels
      ring_inputs := sameInputs.trans carries.ring_inputs
      ring_outputs := sameOutputs.trans carries.ring_outputs
      clients := carries.clients }
  rw [LoopbackRun.logAfter, carries.outputActive, carries.outputChannels] at tracks
  exact tracks

theorem read (carries : Carries cable device io) {sampleTime : UInt64}
    {frames : UInt32} {output : List UInt32}
    (noWrap : sampleTime.toNat + frames.toNat < 2 ^ 64)
    (present : frames.toNat * device.inputChannels.toNat ≤ output.length) :
    ∃ ring result, io.ring.read sampleTime frames (some output) = some (ring, some result) ∧
      cable.Plays sampleTime frames output result ∧
      Carries cable device { io with ring := ring } := by
  obtain ⟨result, reached, plays⟩ := @Tracks.read _ carries.tracks sampleTime frames output
    ⟨noWrap, by
      rintro _ ⟨⟩
      rw [carries.ring_inputs]
      exact present⟩
  refine ⟨_, result, reached, ?_, ?_⟩
  · rw [carries.inputActive] at plays
    exact plays.congr carries.inputChannels carries.outputChannels
  · exact
      { tracks := carries.tracks.of_switches _ _ _
        inputActive := carries.inputActive
        outputActive := carries.outputActive
        inputChannels := carries.inputChannels
        outputChannels := carries.outputChannels
        ring_inputs := carries.ring_inputs
        ring_outputs := carries.ring_outputs
        clients := carries.clients }

theorem switch (carries : Carries cable device io) (event : Nat) (isInput active : Bool) :
    Carries (cable.after (.switched event isInput active)) device { io with
      ring := if isInput then { io.ring with inputActive := active }
        else { io.ring with outputActive := active } } := by
  cases isInput with
  | true =>
      exact
        { carries with
          tracks := carries.tracks.of_switches _ _ _
          inputActive := rfl }
  | false =>
      exact
        { carries with
          tracks := carries.tracks.of_switches _ _ _
          outputActive := rfl }

end Carries

/-! ## Whole runs -/

/-- The devices carry their cables, and the record has nothing that a cable does
not allow. -/
structure CarriesAll (start : Nat → Cable) (system : IoSystem) : Prop where
  device : ∀ device, Carries (Cable.afterAll start device system.events)
    (system.table.driver.devices device) (system.io device)
  fits : ∀ event earlier, event :: earlier <:+ system.events →
    event.Fits (Cable.afterAll start event.device earlier)

section Steps

variable {start : Nat → Cable} {system next : IoSystem}

namespace CarriesAll

/-- One more event, of one device. -/
theorem record (carries : system.CarriesAll start) {event : IoEvent}
    (events : next.events = event :: system.events)
    (own : Carries ((Cable.afterAll start event.device system.events).after event)
      (next.table.driver.devices event.device) (next.io event.device))
    (others : ∀ other ≠ event.device, Carries (Cable.afterAll start other system.events)
      (next.table.driver.devices other) (next.io other))
    (fits : event.Fits (Cable.afterAll start event.device system.events)) :
    next.CarriesAll start where
  device := by
    intro device
    rw [events]
    by_cases same : device = event.device
    · rw [same, Cable.afterAll, IoEvent.replay_cons_self]
      exact own
    · rw [Cable.afterAll, IoEvent.replay_cons_of_ne _ _ _ (Ne.symm same)]
      exact others device same
  fits := by
    intro last earlier suffix
    rw [events] at suffix
    rcases List.suffix_cons_iff.mp suffix with same | older
    · cases same
      exact fits
    · exact carries.fits last earlier older

/-- An event of a call without a lock, which changes the input and output of one
device. -/
theorem recordIo (carries : system.CarriesAll start) {event : IoEvent} {device thread : Nat}
    {io : DeviceIo} (ofDevice : event.device = device)
    (own : Carries ((Cable.afterAll start device system.events).after event)
      (system.table.driver.devices device) io)
    (fits : event.Fits (Cable.afterAll start device system.events)) :
    (((system.setIo device io).record event).setCall thread none).CarriesAll start := by
  subst ofDevice
  refine carries.record rfl (own.other rfl (Function.update_self _ _ _)) ?_ fits
  intro other differ
  exact (carries.device other).other rfl (Function.update_of_ne differ _ _)

/-- A step that has no event. -/
theorem keep (carries : system.CarriesAll start) (events : next.events = system.events)
    (devices : ∀ device, Carries (Cable.afterAll start device system.events)
      (next.table.driver.devices device) (next.io device)) : next.CarriesAll start where
  device := by rw [events]; exact devices
  fits := by rw [events]; exact carries.fits

end CarriesAll

/-- A client that starts is counted without an overflow. -/
theorem few_of_started {table : DriverSystem} {action : DriverAction} {now time : UInt64}
    {device : Nat} {first : Bool} (few : table.fewClients action = true)
    (started : table.ioEvents now action = [.started device first time]) :
    (table.driver.devices device).runningClients.toNat + 1 < 2 ^ 32 := by
  unfold DriverSystem.ioEvents at started
  split at started
  · split at started
    · rename_i call progress free calling
      split at started
      · rename_i sequel driver entered
        unfold sectionEvents at started
        split at started
        · cases started
        · cases started
          rw [DriverSystem.fewClients, calling] at few
          exact of_decide_eq_true few
        · cases started
        · cases started
      · cases started
    · cases started
  · cases started

/-- A step of a call that changes the table. -/
theorem CarriesAll.changed (carries : system.CarriesAll start) {action : DriverAction}
    {table : DriverSystem} (few : system.table.fewClients action = true)
    (change : TableChange system.absoluteTime system.table.driver table.driver
      (system.table.ioEvents system.absoluteTime action)) :
    IoSystem.CarriesAll start { system with
      table := table
      io := (system.table.ioEvents system.absoluteTime action).foldl (applyEvent table.driver)
        system.io
      events := system.table.ioEvents system.absoluteTime action ++ system.events } := by
  generalize events : system.table.ioEvents system.absoluteTime action = happened at change
  cases change with
  | @created device _ _ _ fresh devices _ =>
      have constructed : table.driver.devices system.table.driver.allocated = device := by
        rw [devices]
        exact Function.update_self _ _ _
      have own : Carries (.new device.inputChannels device.outputChannels)
          (table.driver.devices system.table.driver.allocated)
          (applyEvent table.driver system.io
            (.created system.table.driver.allocated device.inputChannels device.outputChannels)
            system.table.driver.allocated) := by
        rw [applyEvent_created, constructed]
        exact Carries.new fresh.not_running
      refine carries.record rfl own ?_ trivial
      intro other differ
      have kept : table.driver.devices other = system.table.driver.devices other := by
        rw [devices]
        exact Function.update_of_ne differ _ _
      exact (carries.device other).other kept (applyEvent_of_ne _ differ)
  | @started device same counted others =>
      have fits : decide ((system.table.driver.devices device).runningClients = 0) =
          decide ((Cable.afterAll start device system.events).clients = 0) := by
        rw [← (carries.device device).clients, decide_eq_decide, ← UInt32.toNat_inj]
        rfl
      have own := (carries.device device).start device system.absoluteTime (same.format device)
        counted (few_of_started few events)
      rw [← applyEvent_started table.driver] at own
      refine carries.record rfl own ?_ fits
      intro other differ
      exact ((carries.device other).keep (same.format other) (others other differ)).other rfl
        (applyEvent_of_ne _ differ)
  | @stopped device same running counted others =>
      obtain ⟨present, stopped⟩ := (carries.device device).stop device (same.format device)
        running counted
      refine carries.record rfl stopped ?_ present
      intro other differ
      exact (carries.device other).keep (same.format other) (others other differ)
  | kept same running =>
      exact carries.keep rfl fun device =>
        (carries.device device).keep (same.format device) (running device)

/-- What an admissible operation does with its buffer. -/
theorem noWrap_of_write {thread device : Nat} {objectID streamID frames : UInt32}
    {cycle : AudioServerPlugInIOCycleInfo} {buffer : List UInt32}
    (calling : system.calls thread = some (.doIoOperation objectID streamID
      kAudioServerPlugInIOOperationWriteMix frames (some cycle) (some buffer), .found device))
    (allowed : system.admissible (.operate thread) = true) :
    (castSampleTime cycle.mOutputTime).toNat + frames.toNat < 2 ^ 64 ∧
      frames.toNat * (system.table.driver.devices device).outputChannels.toNat ≤
        buffer.length := by
  rw [admissible, calling] at allowed
  dsimp only at allowed
  rw [if_pos rfl, Bool.and_eq_true, decide_eq_true_eq, decide_eq_true_eq] at allowed
  exact ⟨toNat_castSampleTime allowed.1, allowed.2⟩

theorem noWrap_of_read {thread device : Nat} {objectID streamID frames : UInt32}
    {cycle : AudioServerPlugInIOCycleInfo} {buffer : List UInt32}
    (calling : system.calls thread = some (.doIoOperation objectID streamID
      kAudioServerPlugInIOOperationReadInput frames (some cycle) (some buffer), .found device))
    (allowed : system.admissible (.operate thread) = true) :
    (castSampleTime cycle.mInputTime).toNat + frames.toNat < 2 ^ 64 ∧
      frames.toNat * (system.table.driver.devices device).inputChannels.toNat ≤
        buffer.length := by
  rw [admissible, calling] at allowed
  dsimp only at allowed
  rw [if_neg (by decide), if_pos rfl, Bool.and_eq_true, decide_eq_true_eq,
    decide_eq_true_eq] at allowed
  exact ⟨toNat_castSampleTime allowed.1, allowed.2⟩

theorem CarriesAll.step (carries : system.CarriesAll start) {action : IoAction}
    {returned : Option IoStatus} (allowed : system.admissible action = true)
    (stepped : system.step action = some (next, returned)) : next.CarriesAll start := by
  cases effect_of_step stepped with
  | changed changes => exact carries.changed allowed (.of_step changes)
  | called | classified | found | refused | ticked => exact carries.keep rfl carries.device
  | wrote calling operating streaming written =>
      subst operating
      obtain ⟨noWrap, present⟩ := noWrap_of_write calling allowed
      obtain ⟨ring, reached, own⟩ := (carries.device _).write _ noWrap present
      cases written.symm.trans reached
      exact carries.recordIo rfl own trivial
  | played calling operating streaming read =>
      subst operating
      obtain ⟨noWrap, present⟩ := noWrap_of_read calling allowed
      obtain ⟨ring, result, reached, plays, own⟩ := (carries.device _).read noWrap present
      cases read.symm.trans reached
      exact carries.recordIo rfl own plays
  | switched isInput calling resolved =>
      exact carries.recordIo rfl ((carries.device _).switch _ isInput _) trivial
  | stamped calling given =>
      refine carries.record rfl (carries.device _) ?_ trivial
      exact fun other _ => carries.device other

/-- An admissible operation stays inside the buffer and the ring. -/
theorem CarriesAll.operates (carries : system.CarriesAll start) {thread device : Nat}
    {objectID streamID operation frames : UInt32} {cycle : Option AudioServerPlugInIOCycleInfo}
    {buffer : Option (List UInt32)}
    (calling : system.calls thread = some (.doIoOperation objectID streamID operation frames
      cycle buffer, .found device))
    (allowed : system.admissible (.operate thread) = true) :
    (system.step (.operate thread)).isSome := by
  cases cycle with
  | none => simp only [IoSystem.step, calling, Option.isSome_some]
  | some cycle =>
  cases buffer with
  | none => simp only [IoSystem.step, calling, Option.isSome_some]
  | some buffer =>
  simp only [IoSystem.step, calling, transfer]
  by_cases writes : operation = kAudioServerPlugInIOOperationWriteMix ∧
      streamID = (system.table.driver.devices device).outputStreamObjectID
  · obtain ⟨rfl, streaming⟩ := writes
    obtain ⟨noWrap, present⟩ := noWrap_of_write calling allowed
    obtain ⟨ring, reached, _⟩ := (carries.device device).write device noWrap present
    rw [if_pos ⟨rfl, streaming⟩, reached]
    rfl
  rw [if_neg writes]
  by_cases reads : operation = kAudioServerPlugInIOOperationReadInput ∧
      streamID = (system.table.driver.devices device).inputStreamObjectID
  · obtain ⟨rfl, streaming⟩ := reads
    obtain ⟨noWrap, present⟩ := noWrap_of_read calling allowed
    obtain ⟨ring, result, reached, _⟩ := (carries.device device).read noWrap present
    rw [if_pos ⟨rfl, streaming⟩, reached]
    rfl
  · rw [if_neg reads]
    rfl

/-- A driver that has just been started has empty cables. -/
theorem carriesAll_idle (storage : Option String) (copyStatus : OSStatus) (allocates : Nat → Bool)
    (hostTicksPerSecond : ℚ) (absoluteTime : UInt64) :
    let driver := ((Driver.loaded storage).initializeDriver copyStatus allocates).2
    (idle driver hostTicksPerSecond absoluteTime).CarriesAll fun device =>
      .new (driver.devices device).inputChannels (driver.devices device).outputChannels where
  device := fun device =>
    .new (DriverSystem.stopped_initializeDriver storage copyStatus allocates device)
  fits := fun _ _ suffix => absurd (List.suffix_nil.mp suffix) (List.cons_ne_nil _ _)

end Steps

/-- In every run of admissible calls, each of which does its work in one step after
its lookup, among any calls that change the table, no operation reads or writes outside of its arrays, and the devices are independent
cables: a read plays at every frame what was written to the same device the
latency ago, since the device was created or its first client started, if the
ring still holds it and the input side is active, and silence everywhere else.
Exactly the clients that start when no other one is left begin with an empty
cable. -/
theorem driver_carries_audio (storage : Option String) (copyStatus : OSStatus)
    (allocates : Nat → Bool) (hostTicksPerSecond : ℚ) (absoluteTime : UInt64) {system : IoSystem}
    (reached : Reachable (restrict admissible step)
      (idle ((Driver.loaded storage).initializeDriver copyStatus allocates).2 hostTicksPerSecond
        absoluteTime) system) :
    (∀ thread device objectID streamID operation frames cycle buffer,
      system.calls thread = some (.doIoOperation objectID streamID operation frames cycle buffer,
        .found device) →
      system.admissible (.operate thread) = true → (system.step (.operate thread)).isSome) ∧
    ∀ event earlier, event :: earlier <:+ system.events →
      event.Fits (Cable.afterAll (fun device =>
        let driver := ((Driver.loaded storage).initializeDriver copyStatus allocates).2
        .new (driver.devices device).inputChannels (driver.devices device).outputChannels)
          event.device earlier) := by
  have invariant : Invariant (restrict admissible step)
      (idle ((Driver.loaded storage).initializeDriver copyStatus allocates).2 hostTicksPerSecond
        absoluteTime)
      fun state => state.CarriesAll fun device =>
        let driver := ((Driver.loaded storage).initializeDriver copyStatus allocates).2
        .new (driver.devices device).inputChannels (driver.devices device).outputChannels :=
    { start := carriesAll_idle storage copyStatus allocates hostTicksPerSecond absoluteTime
      step := by
        intro state next action returned carries stepped
        obtain ⟨allowed, stepped⟩ := restrict_eq_some_iff.mp stepped
        exact carries.step allowed stepped }
  have carries := invariant.reachable reached
  exact ⟨fun _ _ _ _ _ _ _ _ calling allowed => carries.operates calling allowed, carries.fits⟩

/-- A client that has started, and a frame that is about to be written. -/
def firstFrame : List IoAction :=
  [.table (.call 0 (.startIo 100)),
    .table (.lookup 0),
    .table (.enter 0 true .noErr),
    .call 1 (.doIoOperation 100 102 kAudioServerPlugInIOOperationWriteMix 1 (some ⟨0, 0⟩)
      (some [5, 6])),
    .lookup 1]

/-- What the run depends on in the rest of it. -/
theorem run_firstFrame :
    (LabelledSteps.run (restrict admissible step) (idle ((Driver.loaded
        (some "create\tcable\tCable\t2\t2\t48000\n")).initializeDriver .noErr fun _ => true).2
          24000000 1) firstFrame).map (fun system => (system.calls 1, system.events,
            system.table.driver.deviceForObject 100, system.table.driver.devices 0)) =
      some (some (.doIoOperation 100 102 kAudioServerPlugInIOOperationWriteMix 1 (some ⟨0, 0⟩)
          (some [5, 6]), .found 0), [.started 0 true 1], some 0,
        ⟨0, "cable", "Cable", 2, 2, 48000, true, false, 0, 1⟩) := by
  decide +kernel

section Operations

variable {system : IoSystem} {thread device : Nat} {objectID streamID operation frames : UInt32}
  {cycle : AudioServerPlugInIOCycleInfo} {buffer : List UInt32}

theorem step_write (calling : system.calls thread = some (.doIoOperation objectID streamID
      kAudioServerPlugInIOOperationWriteMix frames (some cycle) (some buffer), .found device))
    (streaming : streamID = (system.table.driver.devices device).outputStreamObjectID)
    (goes : (system.step (.operate thread)).isSome) :
    ∃ ring, system.step (.operate thread) =
      some (((system.setIo device { system.io device with ring := ring }).record
        (.wrote device (castSampleTime cycle.mOutputTime) frames buffer)).setCall thread none,
          some .noErr) := by
  simp only [step, calling, transfer, streaming, and_self, if_true] at goes ⊢
  split at goes
  · exact ⟨_, rfl⟩
  · cases goes

theorem step_read (calling : system.calls thread = some (.doIoOperation objectID streamID
      kAudioServerPlugInIOOperationReadInput frames (some cycle) (some buffer), .found device))
    (streaming : streamID = (system.table.driver.devices device).inputStreamObjectID)
    (goes : (system.step (.operate thread)).isSome) :
    ∃ ring result, system.step (.operate thread) =
      some (((system.setIo device { system.io device with ring := ring }).record
        (.played device (castSampleTime cycle.mInputTime) frames buffer result)).setCall thread
          none, some .noErr) := by
  subst streaming
  have other : ¬ (kAudioServerPlugInIOOperationReadInput = kAudioServerPlugInIOOperationWriteMix ∧
      (system.table.driver.devices device).inputStreamObjectID =
        (system.table.driver.devices device).outputStreamObjectID) :=
    fun writes => absurd writes.1 (by decide)
  simp only [step, calling, transfer, if_neg other, and_self, if_true] at goes ⊢
  split at goes
  · exact ⟨_, _, rfl⟩
  · cases goes

/-- A call of `DoIOOperation` that has looked its device up. -/
theorem reachable_found {start : IoSystem} (reached : Reachable (restrict admissible step) start
      system) (free : system.calls thread = none)
    (resolved : system.table.driver.deviceForObject objectID = some device)
    (call : Option AudioServerPlugInIOCycleInfo × Option (List UInt32)) :
    Reachable (restrict admissible step) start (system.setCall thread
      (some (.doIoOperation objectID streamID operation frames call.1 call.2, .found device))) := by
  have calls : system.step (.call thread (.doIoOperation objectID streamID operation frames call.1
      call.2)) = some (system.setCall thread (some (.doIoOperation objectID streamID operation frames
        call.1 call.2, .called)), none) :=
    if_pos (Option.isNone_iff_eq_none.mpr free)
  have lookup : (system.setCall thread (some (.doIoOperation objectID streamID operation frames
      call.1 call.2, .called))).step (.lookup thread) =
        some (system.setCall thread (some (.doIoOperation objectID streamID operation frames call.1
          call.2, .found device)), none) := by
    simp only [step, setCall, Function.update_self, resolved, Function.update_idem]
  exact (reached.step (restrict_eq_some_iff.mpr ⟨rfl, calls⟩)).step
    (restrict_eq_some_iff.mpr ⟨rfl, lookup⟩)

end Operations

/-- The frame is written, and read the latency later. -/
theorem driver_carries_audio_firstFrame :
    ∃ system, Reachable (restrict admissible step) (idle ((Driver.loaded
        (some "create\tcable\tCable\t2\t2\t48000\n")).initializeDriver .noErr fun _ => true).2
          24000000 1) system ∧
      system.events = [.played 0 512 1 [9, 9] [5, 6], .wrote 0 0 1 [5, 6], .started 0 true 1] := by
  obtain ⟨first, ran, seen⟩ := Option.map_eq_some_iff.mp run_firstFrame
  simp only [Prod.mk.injEq] at seen
  obtain ⟨calling, events, found, fields⟩ := seen
  have reached := Reachable.start.run ran
  have allowed : first.admissible (.operate 1) = true := by
    simp only [admissible, calling, fields]
    decide
  obtain ⟨ring, wrote⟩ := step_write calling (by rw [fields]; rfl)
    ((driver_carries_audio _ .noErr (fun _ => true) 24000000 1 reached).1 _ _ _ _ _ _ _ _ calling
      allowed)
  have start : castSampleTime 0 = 0 := by decide +kernel
  rw [start] at wrote
  have written := reached.step (restrict_eq_some_iff.mpr ⟨allowed, wrote⟩)
  generalize afterWrite : ((first.setIo 0 { first.io 0 with ring := ring }).record
    (.wrote 0 0 1 [5, 6])).setCall 1 none = middle at written
  have free : middle.calls 1 = none := by
    rw [← afterWrite, calls_setCall_self]
  have sameTable : middle.table = first.table := by rw [← afterWrite]; rfl
  have reading := @reachable_found _ 1 0 100 101 kAudioServerPlugInIOOperationReadInput 1 _ written
    free (by rw [sameTable]; exact found) (some ⟨512, 0⟩, some [9, 9])
  generalize afterFound : middle.setCall 1 _ = last at reading
  have lastCalling : last.calls 1 = some (.doIoOperation 100 101
      kAudioServerPlugInIOOperationReadInput 1 (some ⟨512, 0⟩) (some [9, 9]), .found 0) := by
    rw [← afterFound, calls_setCall_self]
  have lastFields : last.table.driver.devices 0 =
      ⟨0, "cable", "Cable", 2, 2, 48000, true, false, 0, 1⟩ := by
    rw [← afterFound, ← fields, ← sameTable]
    rfl
  have lastEvents : last.events = [.wrote 0 0 1 [5, 6], .started 0 true 1] := by
    rw [← afterFound, ← events, ← afterWrite]
    rfl
  have lastAllowed : last.admissible (.operate 1) = true := by
    simp only [admissible, lastCalling, lastFields]
    decide
  obtain ⟨ringAfter, result, played⟩ := step_read lastCalling (by rw [lastFields]; rfl)
    ((driver_carries_audio _ .noErr (fun _ => true) 24000000 1 reading).1 _ _ _ _ _ _ _ _
      lastCalling lastAllowed)
  have latency : castSampleTime 512 = 512 := by decide +kernel
  rw [latency] at played
  have finished := reading.step (restrict_eq_some_iff.mpr ⟨lastAllowed, played⟩)
  refine ⟨_, finished, ?_⟩
  have cable : Cable.afterAll (fun device =>
      let driver := ((Driver.loaded
        (some "create\tcable\tCable\t2\t2\t48000\n")).initializeDriver .noErr fun _ => true).2
      .new (driver.devices device).inputChannels (driver.devices device).outputChannels) 0
        [.wrote 0 0 1 [5, 6], .started 0 true 1] = ⟨2, 2, 1, true, true, [⟨0, [5, 6]⟩]⟩ := by
    decide +kernel
  have fits : IoEvent.Fits ⟨2, 2, 1, true, true, [⟨0, [5, 6]⟩]⟩ (.played 0 512 1 [9, 9] result) := by
    have own := (driver_carries_audio _ .noErr (fun _ => true) 24000000 1 finished).2
      (.played 0 512 1 [9, 9] result) last.events (List.suffix_refl _)
    rw [lastEvents] at own
    exact (congrArg (IoEvent.Fits · (.played 0 512 1 [9, 9] result)) cable).mp own
  obtain ⟨left, right, rfl⟩ := List.length_eq_two.mp fits.length
  have leftEq : some left = some 5 := fits.sample 0 (by decide) 0 (by decide)
  have rightEq : some right = some 6 := fits.sample 0 (by decide) 1 (by decide)
  obtain rfl := Option.some.inj leftEq
  obtain rfl := Option.some.inj rightEq
  exact congrArg (_ :: ·) lastEvents

end IoSystem

end VCable
