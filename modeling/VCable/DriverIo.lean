import VCable.DriverConfigurationChanges
import VCable.DriverProperties
import VCable.LoopbackRuns
import Mathlib.Data.Rat.Floor

/-!
# The audio and the time of the driver

The calls that carry the audio of the devices and tell their time, between any
calls that change the device table.  They take no lock: a call looks its device
up and then goes on with it, whatever happens to the table meanwhile.  What a
call does with its device is one step.
-/

namespace VCable

/-! ## Calls -/

def kAudioServerPlugInIOOperationReadInput : UInt32 := fourCharCode 'r' 'e' 'a' 'd'

def kAudioServerPlugInIOOperationWriteMix : UInt32 := fourCharCode 'r' 'i' 't' 'e'

/-- The sample times of an I/O cycle, as rational numbers. -/
structure AudioServerPlugInIOCycleInfo where
  mInputTime : ℚ
  mOutputTime : ℚ
  deriving DecidableEq

/-- The cast of a sample time, after the maximum with zero. -/
def castSampleTime (sampleTime : ℚ) : UInt64 :=
  UInt64.ofNat (max 0 sampleTime).floor.toNat

/-- A call without a lock.  A control command is none of them, but a call of the
device table. -/
inductive IoCall where
  | doIoOperation (objectID streamID operation frames : UInt32)
      (cycle : Option AudioServerPlugInIOCycleInfo) (mainBuffer : Option (List UInt32))
  | getZeroTimeStamp (objectID : UInt32)
  | setPropertyData (objectID : UInt32) (address : AudioObjectPropertyAddress)
      (inputSize input : UInt32)
  deriving DecidableEq

/-- How far a call is. -/
inductive IoProgress where
  | called
  /-- `SetPropertyData` after `KindForObject`. -/
  | classified (kind : ObjectKind)
  /-- The device was looked up. -/
  | found (device : Nat)
  deriving DecidableEq

/-- The status of a call; `table` is one of a call that changes the table. -/
inductive IoStatus where
  | noErr
  | illegalOperationError
  | notRunningError
  | unsupportedOperationError
  | badPropertySizeError
  | unknownPropertyError
  | table (status : OSStatus)

/-- The part of `Device` that carries its audio and its time. -/
structure DeviceIo where
  ring : Loopback
  anchorHostTime : UInt64
  clockSeed : UInt64

namespace DeviceIo

/-- The constructor of `Device`. -/
def new (device : Device) : DeviceIo where
  ring := Loopback.new device.inputChannels device.outputChannels
  anchorHostTime := 0
  clockSeed := 1

/-- What `StartIO` does for the first client, as one step. -/
def beginSession (now : UInt64) (io : DeviceIo) : DeviceIo where
  ring := io.ring.clearTags
  anchorHostTime := now
  clockSeed := io.clockSeed + 1

end DeviceIo

/-! ## Time -/

structure ZeroTimeStamp where
  sampleTime : UInt64
  hostTime : UInt64
  seed : UInt64
  deriving DecidableEq

def ticksPerPeriod (hostTicksPerSecond : ℚ) (device : Device) : ℚ :=
  hostTicksPerSecond / device.sampleRate.toNat * kZeroTimeStampPeriod.toNat

/-- `GetZeroTimeStamp` with its device, in rational numbers; its loads are one
step. -/
def DeviceIo.zeroTimeStamp (hostTicksPerSecond : ℚ) (device : Device) (now : UInt64)
    (io : DeviceIo) : Option ZeroTimeStamp :=
  let anchor := io.anchorHostTime
  if anchor = 0 ∨ hostTicksPerSecond ≤ 0 then none
  else
    let ticks := ticksPerPeriod hostTicksPerSecond device
    let period : UInt64 :=
      if now > anchor then UInt64.ofNat ((now - anchor).toNat / ticks).floor.toNat else 0
    some
      { sampleTime := period * kZeroTimeStampPeriod.toUInt64
        hostTime := anchor + UInt64.ofNat (period.toNat * ticks).floor.toNat
        seed := io.clockSeed }

/-! ## The record -/

/-- What happened to the audio and the time of a device. -/
inductive IoEvent where
  | created (device : Nat) (inputChannels outputChannels : UInt32)
  /-- A client has started; the first one begins a session. -/
  | started (device : Nat) (first : Bool) (now : UInt64)
  | stopped (device : Nat)
  | wrote (device : Nat) (sampleTime : UInt64) (frames : UInt32) (input : List UInt32)
  | played (device : Nat) (sampleTime : UInt64) (frames : UInt32) (output result : List UInt32)
  | switched (device : Nat) (input active : Bool)
  | stamped (device : Nat) (now : UInt64) (stamp : ZeroTimeStamp)
  deriving DecidableEq

def IoEvent.device : IoEvent → Nat
  | created device _ _ => device
  | started device _ _ => device
  | stopped device => device
  | wrote device _ _ _ => device
  | played device _ _ _ _ => device
  | switched device _ _ => device
  | stamped device _ _ => device

/-- What the events of a device make of a state, the oldest one first. -/
def IoEvent.replay {σ : Type} (after : σ → IoEvent → σ) (device : Nat) (events : List IoEvent)
    (start : σ) : σ :=
  (events.filter fun event => event.device = device).foldr (fun event state => after state event)
    start

theorem IoEvent.replay_cons_self {σ : Type} (after : σ → IoEvent → σ) (event : IoEvent)
    (events : List IoEvent) (start : σ) :
    replay after event.device (event :: events) start =
      after (replay after event.device events start) event := by
  rw [replay, List.filter_cons, if_pos (decide_eq_true rfl), List.foldr_cons, replay]

theorem IoEvent.replay_cons_of_ne {σ : Type} (after : σ → IoEvent → σ) {event : IoEvent}
    {device : Nat} (events : List IoEvent) (start : σ) (differ : event.device ≠ device) :
    replay after device (event :: events) start = replay after device events start := by
  rw [replay, List.filter_cons, if_neg (by simpa using differ), replay]

theorem IoEvent.replay_append {σ : Type} (after : σ → IoEvent → σ) (device : Nat)
    (later earlier : List IoEvent) (start : σ) :
    replay after device (later ++ earlier) start =
      replay after device later (replay after device earlier start) := by
  rw [replay, List.filter_append, List.foldr_append, replay, replay]

open Driver in
/-- What a section of a call that changes the table means for the audio. -/
def sectionEvents (now : UInt64) (driver next : Driver) :
    DriverCall → DriverProgress → Sequel → List IoEvent
  | .control _, .called, .creates device =>
      [.created device (next.devices device).inputChannels (next.devices device).outputChannels]
  | .startIo _, .found device, .returns .noErr =>
      [.started device (decide ((driver.devices device).runningClients = 0)) now]
  | .stopIo _, .found device, .returns .noErr => [.stopped device]
  | _, _, _ => []

def DriverSystem.ioEvents (now : UInt64) (table : DriverSystem) : DriverAction → List IoEvent
  | .enter thread allocates write =>
      match table.creation, table.calls thread with
      | none, some (call, progress) =>
          match table.driver.enter allocates write call progress with
          | some (sequel, next) => sectionEvents now table.driver next call progress sequel
          | none => []
      | _, _ => []
  | _ => []

/-! ## Steps -/

/-- The driver with all its calls in progress, and the host's clock.  The record
of what happened, newest first, is read by no step. -/
structure IoSystem where
  table : DriverSystem
  io : Nat → DeviceIo
  hostTicksPerSecond : ℚ
  absoluteTime : UInt64
  calls : Nat → Option (IoCall × IoProgress)
  events : List IoEvent

inductive IoAction where
  /-- A step of a call that changes the table. -/
  | table (action : DriverAction)
  | call (thread : Nat) (call : IoCall)
  /-- The first look at the slots. -/
  | lookup (thread : Nat)
  | operate (thread : Nat)
  /-- The clock goes on. -/
  | tick (ticks : UInt64)

namespace IoSystem

def setCall (system : IoSystem) (thread : Nat) (call : Option (IoCall × IoProgress)) : IoSystem :=
  { system with calls := Function.update system.calls thread call }

@[simp]
theorem calls_setCall_self (system : IoSystem) (thread : Nat)
    (call : Option (IoCall × IoProgress)) : (system.setCall thread call).calls thread = call :=
  Function.update_self _ _ _

def setIo (system : IoSystem) (device : Nat) (io : DeviceIo) : IoSystem :=
  { system with io := Function.update system.io device io }

def record (system : IoSystem) (event : IoEvent) : IoSystem :=
  { system with events := event :: system.events }

/-- A device is constructed when it is put into the table, and a session begins
with its first client. -/
def applyEvent (driver : Driver) (io : Nat → DeviceIo) : IoEvent → Nat → DeviceIo
  | .created device _ _ => Function.update io device (.new (driver.devices device))
  | .started device true now => Function.update io device ((io device).beginSession now)
  | _ => io

theorem applyEvent_of_ne (driver : Driver) {io : Nat → DeviceIo} {event : IoEvent} {other : Nat}
    (differ : other ≠ event.device) : applyEvent driver io event other = io other := by
  unfold applyEvent
  split
  · exact Function.update_of_ne differ _ _
  · exact Function.update_of_ne differ _ _
  · rfl

theorem applyEvent_created (driver : Driver) (io : Nat → DeviceIo) (device : Nat)
    (inputChannels outputChannels : UInt32) :
    applyEvent driver io (.created device inputChannels outputChannels) device =
      .new (driver.devices device) :=
  Function.update_self _ _ _

theorem applyEvent_started (driver : Driver) (io : Nat → DeviceIo) (device : Nat) (first : Bool)
    (now : UInt64) :
    applyEvent driver io (.started device first now) device =
      if first then (io device).beginSession now else io device := by
  cases first with
  | true => exact Function.update_self _ _ _
  | false => rfl

/-- `Device::Write` and `Device::Read` by `DoIOOperation`, each as one step. -/
def transfer (system : IoSystem) (thread device : Nat) (streamID operation frames : UInt32)
    (cycle : AudioServerPlugInIOCycleInfo) (buffer : List UInt32) :
    Option (IoSystem × Option IoStatus) :=
  let io := system.io device
  if operation = kAudioServerPlugInIOOperationWriteMix ∧
      streamID = (system.table.driver.devices device).outputStreamObjectID then
    let sampleTime := castSampleTime cycle.mOutputTime
    match io.ring.write sampleTime frames (some buffer) with
    | some ring =>
        some (((system.setIo device { io with ring := ring }).record
          (.wrote device sampleTime frames buffer)).setCall thread none, some .noErr)
    | none => none
  else if operation = kAudioServerPlugInIOOperationReadInput ∧
      streamID = (system.table.driver.devices device).inputStreamObjectID then
    let sampleTime := castSampleTime cycle.mInputTime
    match io.ring.read sampleTime frames (some buffer) with
    | some (ring, some result) =>
        some (((system.setIo device { io with ring := ring }).record
          (.played device sampleTime frames buffer result)).setCall thread none, some .noErr)
    | _ => none
  else some (system.setCall thread none, some .unsupportedOperationError)

/-- `SetPropertyData` after `KindForObject`.  A device that has left its slot
since then is not found again, which the call does not expect. -/
def setProperty (system : IoSystem) (thread : Nat) (objectID : UInt32)
    (address : AudioObjectPropertyAddress) (inputSize input : UInt32) (kind : ObjectKind) :
    Option (IoSystem × Option IoStatus) :=
  let switch (isInput : Bool) : Option (IoSystem × Option IoStatus) :=
    if address.selector = some .streamIsActive then
      if inputSize = 4 then
        match system.table.driver.deviceForObject objectID with
        | some device =>
            let io := system.io device
            let active : Bool := input ≠ 0
            let ring := if isInput then { io.ring with inputActive := active }
              else { io.ring with outputActive := active }
            some (((system.setIo device { io with ring := ring }).record
              (.switched device isInput active)).setCall thread none, some .noErr)
        | none => none
      else some (system.setCall thread none, some .badPropertySizeError)
    else some (system.setCall thread none, some .unknownPropertyError)
  match kind with
  | .inputStream _ => switch true
  | .outputStream _ => switch false
  | .plugIn =>
      if address.selector = some .vCableControl then none
      else some (system.setCall thread none, some .unknownPropertyError)
  | _ => some (system.setCall thread none, some .unknownPropertyError)

/-- One step, with the status that a finished call returns.  An access outside
of an array and one through a null pointer have no result. -/
def step (system : IoSystem) : IoAction → Option (IoSystem × Option IoStatus)
  | .table action =>
      match system.table.step action with
      | some (next, status) =>
          let events := system.table.ioEvents system.absoluteTime action
          some ({ system with
            table := next
            io := events.foldl (applyEvent next.driver) system.io
            events := events ++ system.events }, status.map .table)
      | none => none
  | .call thread call =>
      if (system.calls thread).isNone then
        some (system.setCall thread (some (call, .called)), none)
      else none
  | .lookup thread =>
      match system.calls thread with
      | some (.setPropertyData objectID address inputSize input, .called) =>
          some (system.setCall thread (some (.setPropertyData objectID address inputSize input,
            .classified (system.table.driver.kindForObject objectID))), none)
      | some (.doIoOperation objectID streamID operation frames cycle mainBuffer, .called) =>
          match system.table.driver.deviceForObject objectID with
          | some device =>
              some (system.setCall thread (some (.doIoOperation objectID streamID operation frames
                cycle mainBuffer, .found device)), none)
          | none => some (system.setCall thread none, some .illegalOperationError)
      | some (.getZeroTimeStamp objectID, .called) =>
          match system.table.driver.deviceForObject objectID with
          | some device =>
              some (system.setCall thread (some (.getZeroTimeStamp objectID, .found device)), none)
          | none => some (system.setCall thread none, some .illegalOperationError)
      | _ => none
  | .operate thread =>
      match system.calls thread with
      | some (.doIoOperation _ streamID operation frames (some cycle) (some buffer),
          .found device) => system.transfer thread device streamID operation frames cycle buffer
      | some (.doIoOperation _ _ _ _ _ _, .found _) =>
          some (system.setCall thread none, some .illegalOperationError)
      | some (.getZeroTimeStamp _, .found device) =>
          match (system.io device).zeroTimeStamp system.hostTicksPerSecond
              (system.table.driver.devices device) system.absoluteTime with
          | some stamp =>
              some ((system.record (.stamped device system.absoluteTime stamp)).setCall thread none,
                some .noErr)
          | none => some (system.setCall thread none, some .notRunningError)
      | some (.setPropertyData objectID address inputSize input, .classified kind) =>
          system.setProperty thread objectID address inputSize input kind
      | _ => none
  | .tick ticks =>
      if system.absoluteTime.toNat + ticks.toNat < 2 ^ 64 then
        some ({ system with absoluteTime := system.absoluteTime + ticks }, none)
      else none

/-- A driver without any call in progress. -/
def idle (driver : Driver) (hostTicksPerSecond : ℚ) (absoluteTime : UInt64) : IoSystem where
  table := .idle driver
  io := fun device => .new (driver.devices device)
  hostTicksPerSecond := hostTicksPerSecond
  absoluteTime := absoluteTime
  calls := fun _ => none
  events := []

end IoSystem

/-! ## What a step does -/

/-- What of a device never changes. -/
def Device.format (device : Device) : UInt32 × UInt32 × UInt32 :=
  (device.inputChannels, device.outputChannels, device.sampleRate)

/-- The devices before a step are the devices after it, and have their formats. -/
structure SameFormats (driver next : Driver) : Prop where
  allocated : next.allocated = driver.allocated
  format : ∀ device, (next.devices device).format = (driver.devices device).format

/-- What a change of the table means for the audio of the devices. -/
inductive TableChange (now : UInt64) (driver next : Driver) : List IoEvent → Prop where
  | created {device : Device} {parsed : DeviceFields} {texts : List String}
      (accepted : DeviceFields.parse texts = some parsed)
      (fresh : Driver.Fresh driver parsed device)
      (devices : next.devices = Function.update driver.devices driver.allocated device)
      (allocated : next.allocated = driver.allocated + 1) :
      TableChange now driver next
        [.created driver.allocated device.inputChannels device.outputChannels]
  | started {device : Nat} (same : SameFormats driver next)
      (counted : (next.devices device).runningClients =
        (driver.devices device).runningClients + 1)
      (others : ∀ other ≠ device,
        (next.devices other).runningClients = (driver.devices other).runningClients) :
      TableChange now driver next
        [.started device (decide ((driver.devices device).runningClients = 0)) now]
  | stopped {device : Nat} (same : SameFormats driver next)
      (running : (driver.devices device).runningClients ≠ 0)
      (counted : (next.devices device).runningClients =
        (driver.devices device).runningClients - 1)
      (others : ∀ other ≠ device,
        (next.devices other).runningClients = (driver.devices other).runningClients) :
      TableChange now driver next [.stopped device]
  | kept (same : SameFormats driver next)
      (running : ∀ device,
        (next.devices device).runningClients = (driver.devices device).runningClients) :
      TableChange now driver next []

namespace TableChange

open Driver

variable {now : UInt64} {driver next : Driver} {pointer : Nat}

theorem of_devices (devices : next.devices = driver.devices)
    (allocated : next.allocated = driver.allocated) : TableChange now driver next [] :=
  .kept ⟨allocated, fun _ => by rw [devices]⟩ fun _ => by rw [devices]

/-- A change of a device that keeps its format and its running clients. -/
theorem of_setDevice {device : Device} (format : device.format = (driver.devices pointer).format)
    (running : device.runningClients = (driver.devices pointer).runningClients)
    (devices : next.devices = (driver.setDevice pointer device).devices)
    (allocated : next.allocated = driver.allocated) : TableChange now driver next [] :=
  .kept
    ⟨allocated, fun other => by rw [devices]; exact apply_devices_setDevice _ format other⟩
    fun other => by rw [devices]; exact apply_devices_setDevice _ running other

theorem of_setPending (pending : Bool) :
    TableChange now driver (driver.setPending pointer pending) [] :=
  @of_setDevice _ _ _ pointer { driver.devices pointer with
    deletePending := pending } rfl rfl rfl rfl

theorem of_withoutDevice : TableChange now driver (driver.withoutDevice pointer) [] :=
  @of_setDevice _ _ _ pointer { driver.devices pointer with active := false } rfl rfl rfl rfl

theorem of_control {command : Option String} {allocates : Bool} {sequel : Sequel}
    (changed : driver.control command allocates = (sequel, next)) :
    TableChange now driver next
      (sectionEvents now driver next (.control command) .called sequel) := by
  rcases driver.control_cases command allocates with
    ⟨status, kept⟩ | ⟨text, parsed, device, rfl, accepted, fresh, creates⟩ |
    ⟨text, id, device, rfl, splits, listed, named, requests⟩
  · cases kept.symm.trans changed
    exact of_devices rfl rfl
  · cases creates.symm.trans changed
    have event : (driver.appendDevice device).devices driver.allocated = device :=
      Function.update_self _ _ _
    rw [sectionEvents, event]
    exact .created accepted fresh rfl rfl
  · cases requests.symm.trans changed
    exact of_setPending true

/-- A change of the number of running clients of a device. -/
theorem counted_setDevice (running : UInt32)
    (devices : next.devices = (driver.setDevice pointer
      { driver.devices pointer with runningClients := running }).devices)
    (allocated : next.allocated = driver.allocated) :
    SameFormats driver next ∧ (next.devices pointer).runningClients = running ∧
      ∀ other ≠ pointer,
        (next.devices other).runningClients = (driver.devices other).runningClients := by
  refine ⟨⟨allocated, fun other => ?_⟩, ?_, fun other differ => ?_⟩
  · rw [devices]
    refine apply_devices_setDevice Device.format ?_ other
    rfl
  · rw [devices, devices_setDevice_self]
  · rw [devices, devices_setDevice_of_ne driver _ differ]

theorem of_start {objectID : UInt32} {sequel : Sequel}
    (changed : driver.start pointer = (sequel, next)) :
    TableChange now driver next (sectionEvents now driver next (.startIo objectID) (.found pointer)
      sequel) := by
  rcases driver.start_cases pointer with ⟨active, started⟩ | refused
  · cases started.symm.trans changed
    obtain ⟨same, counted, others⟩ := @counted_setDevice driver _ pointer _ rfl rfl
    exact .started same counted others
  · cases refused.symm.trans changed
    exact of_devices rfl rfl

theorem of_stop {objectID : UInt32} {sequel : Sequel}
    (changed : driver.stop pointer = (sequel, next)) :
    TableChange now driver next (sectionEvents now driver next (.stopIo objectID) (.found pointer)
      sequel) := by
  rcases driver.stop_cases pointer with ⟨running, stopped⟩ | refused
  · cases stopped.symm.trans changed
    obtain ⟨same, counted, others⟩ := @counted_setDevice driver _ pointer _
      (devices_releaseRetiredSlotLocked _ pointer).1
      (DriverSystem.allocated_releaseRetiredSlotLocked _ pointer)
    exact .stopped same running counted others
  · cases refused.symm.trans changed
    exact of_devices rfl rfl

theorem of_removal {write : OSStatus} {sequel : Sequel}
    (changed : driver.removal pointer write = (sequel, next)) : TableChange now driver next [] := by
  rcases driver.removal_cases pointer write with ⟨_, _, removes⟩ | ⟨status, _, kept⟩
  · cases removes.symm.trans changed
    exact of_withoutDevice
  · cases kept.symm.trans changed
    exact of_devices rfl rfl

theorem of_perform {write : OSStatus} {sequel : Sequel}
    (changed : driver.perform pointer write = (sequel, next)) : TableChange now driver next [] := by
  rcases driver.perform_cases pointer write with ⟨_, _, _, removes⟩ | ⟨status, _, kept⟩
  · cases removes.symm.trans changed
    refine @of_setDevice _ _ _ pointer { driver.devices pointer with
      deletePending := false
      active := false } rfl rfl ?_ rfl
    funext other
    by_cases same : other = pointer
    · rw [same, devices_withoutDevice_self, setPending, devices_setDevice_self,
        devices_setDevice_self]
    · rw [devices_withoutDevice_of_ne _ same, setPending, devices_setDevice_of_ne _ _ same,
        devices_setDevice_of_ne _ _ same]
  · cases kept.symm.trans changed
    exact of_setPending false

theorem of_addClient {sequel : Sequel} (changed : driver.addClient pointer = (sequel, next)) :
    TableChange now driver next [] := by
  rcases driver.addClient_cases pointer with ⟨_, added⟩ | refused
  · cases added.symm.trans changed
    exact @of_setDevice _ _ _ pointer { driver.devices pointer with
      attachedClients := (driver.devices pointer).attachedClients + 1 } rfl rfl rfl rfl
  · cases refused.symm.trans changed
    exact of_devices rfl rfl

theorem of_removeClient {sequel : Sequel} (changed : driver.removeClient pointer = (sequel, next)) :
    TableChange now driver next [] := by
  rcases driver.removeClient_cases pointer with ⟨_, removed⟩ | ⟨status, _, refused⟩
  · cases removed.symm.trans changed
    exact @of_setDevice _ _ _ pointer { driver.devices pointer with
      attachedClients := (driver.devices pointer).attachedClients - 1 } rfl rfl
        (devices_releaseRetiredSlotLocked _ pointer).1
        (DriverSystem.allocated_releaseRetiredSlotLocked _ pointer)
  · cases refused.symm.trans changed
    exact of_devices rfl rfl

theorem of_enter {allocates : Bool} {write : OSStatus} {call : DriverCall}
    {progress : DriverProgress} {sequel : Sequel}
    (entered : driver.enter allocates write call progress = some (sequel, next)) :
    TableChange now driver next (sectionEvents now driver next call progress sequel) := by
  unfold enter at entered
  split at entered
  · exact of_control (Option.some.inj entered)
  · exact of_removal (Option.some.inj entered)
  · exact of_perform (Option.some.inj entered)
  · exact of_addClient (Option.some.inj entered)
  · exact of_removeClient (Option.some.inj entered)
  · exact of_start (Option.some.inj entered)
  · exact of_stop (Option.some.inj entered)
  · cases entered

end TableChange

open Driver DriverSystem in
theorem driver_afterSection (system : DriverSystem) (thread : Nat) (call : DriverCall)
    (driver : Driver) (sequel : Sequel) :
    (system.afterSection thread call driver sequel).1.driver = driver := by
  cases sequel <;> rfl

open Driver DriverSystem in
/-- A step of a call that changes the table. -/
theorem TableChange.of_step {now : UInt64} {table next : DriverSystem} {action : DriverAction}
    {returned : Option OSStatus} (stepped : table.step action = some (next, returned)) :
    TableChange now table.driver next.driver (table.ioEvents now action) := by
  cases action with
  | enter thread allocates write =>
      cases free : table.creation with
      | some creation => simp only [step, free, reduceCtorEq] at stepped
      | none =>
      cases calling : table.calls thread with
      | none => simp only [step, free, calling, reduceCtorEq] at stepped
      | some calls =>
      obtain ⟨call, progress⟩ := calls
      cases entered : table.driver.enter allocates write call progress with
      | none => simp only [step, free, calling, entered, reduceCtorEq] at stepped
      | some result =>
          obtain ⟨sequel, driver⟩ := result
          simp only [step, free, calling, entered, Option.some.injEq] at stepped
          have reached := congrArg Prod.fst stepped
          dsimp only at reached
          simp only [ioEvents, free, calling, entered]
          rw [← reached, driver_afterSection]
          exact of_enter entered
  | answer thread status =>
      cases effect_of_step stepped with
      | answered => exact of_devices rfl rfl
      | unanswered => exact of_setPending false
  | clearPending thread =>
      cases effect_of_step stepped with
      | aborted => exact of_setPending false
  | release thread =>
      cases effect_of_step stepped with
      | released =>
          exact of_devices (devices_releaseRetiredSlotLocked _ _).1
            (allocated_releaseRetiredSlotLocked _ _)
  | _ => cases effect_of_step stepped <;> exact of_devices rfl rfl

/-! ## What a step of the whole system does -/

namespace IoSystem

/-- All the ways in which a step can go. -/
inductive Effect (system : IoSystem) : IoAction → IoSystem → Option IoStatus → Prop where
  | changed {action : DriverAction} {table : DriverSystem} {status : Option OSStatus}
      (stepped : system.table.step action = some (table, status)) :
      Effect system (.table action)
        { system with
          table := table
          io := (system.table.ioEvents system.absoluteTime action).foldl (applyEvent table.driver)
            system.io
          events := system.table.ioEvents system.absoluteTime action ++ system.events }
        (status.map .table)
  | called {thread : Nat} {call : IoCall} (idle : system.calls thread = none) :
      Effect system (.call thread call) (system.setCall thread (some (call, .called))) none
  | classified {thread : Nat} {call : IoCall} {kind : ObjectKind} :
      Effect system (.lookup thread) (system.setCall thread (some (call, .classified kind))) none
  | found {thread device : Nat} {call : IoCall} {objectID : UInt32}
      (resolved : system.table.driver.deviceForObject objectID = some device) :
      Effect system (.lookup thread) (system.setCall thread (some (call, .found device))) none
  | refused {thread : Nat} {action : IoAction} {status : IoStatus} (failed : status ≠ .noErr) :
      Effect system action (system.setCall thread none) (some status)
  | wrote {thread device : Nat} {objectID streamID operation frames : UInt32}
      {cycle : AudioServerPlugInIOCycleInfo} {input : List UInt32} {ring : Loopback}
      (calling : system.calls thread = some (.doIoOperation objectID streamID operation frames
        (some cycle) (some input), .found device))
      (operating : operation = kAudioServerPlugInIOOperationWriteMix)
      (streaming : streamID = (system.table.driver.devices device).outputStreamObjectID)
      (written : (system.io device).ring.write (castSampleTime cycle.mOutputTime) frames
        (some input) = some ring) :
      Effect system (.operate thread)
        (((system.setIo device { system.io device with ring := ring }).record
          (.wrote device (castSampleTime cycle.mOutputTime) frames input)).setCall thread none)
        (some .noErr)
  | played {thread device : Nat} {objectID streamID operation frames : UInt32}
      {cycle : AudioServerPlugInIOCycleInfo} {output result : List UInt32} {ring : Loopback}
      (calling : system.calls thread = some (.doIoOperation objectID streamID operation frames
        (some cycle) (some output), .found device))
      (operating : operation = kAudioServerPlugInIOOperationReadInput)
      (streaming : streamID = (system.table.driver.devices device).inputStreamObjectID)
      (read : (system.io device).ring.read (castSampleTime cycle.mInputTime) frames
        (some output) = some (ring, some result)) :
      Effect system (.operate thread)
        (((system.setIo device { system.io device with ring := ring }).record
          (.played device (castSampleTime cycle.mInputTime) frames output result)).setCall thread
            none)
        (some .noErr)
  | switched {thread device : Nat} {objectID inputSize input : UInt32}
      {address : AudioObjectPropertyAddress} {kind : ObjectKind} (isInput : Bool)
      (calling : system.calls thread =
        some (.setPropertyData objectID address inputSize input, .classified kind))
      (resolved : system.table.driver.deviceForObject objectID = some device) :
      Effect system (.operate thread)
        (((system.setIo device { system.io device with
            ring := if isInput then { (system.io device).ring with inputActive := input ≠ 0 }
              else { (system.io device).ring with outputActive := input ≠ 0 } }).record
          (.switched device isInput (input ≠ 0))).setCall thread none)
        (some .noErr)
  | stamped {thread device : Nat} {objectID : UInt32} {stamp : ZeroTimeStamp}
      (calling : system.calls thread = some (.getZeroTimeStamp objectID, .found device))
      (given : (system.io device).zeroTimeStamp system.hostTicksPerSecond
        (system.table.driver.devices device) system.absoluteTime = some stamp) :
      Effect system (.operate thread)
        ((system.record (.stamped device system.absoluteTime stamp)).setCall thread none)
        (some .noErr)
  | ticked {ticks : UInt64} (later : system.absoluteTime.toNat + ticks.toNat < 2 ^ 64) :
      Effect system (.tick ticks) { system with absoluteTime := system.absoluteTime + ticks } none

/-- One case for each branch of `transfer`. -/
theorem effect_transfer {system next : IoSystem} {returned : Option IoStatus} {thread device : Nat}
    {objectID streamID operation frames : UInt32} {cycle : AudioServerPlugInIOCycleInfo}
    {buffer : List UInt32}
    (calling : system.calls thread = some (.doIoOperation objectID streamID operation frames
      (some cycle) (some buffer), .found device))
    (stepped : system.transfer thread device streamID operation frames cycle buffer =
      some (next, returned)) :
    Effect system (.operate thread) next returned := by
  unfold transfer at stepped
  dsimp only at stepped
  split at stepped
  · rename_i writes
    split at stepped
    · cases stepped
      exact .wrote calling writes.1 writes.2 ‹_›
    · cases stepped
  split at stepped
  · rename_i reads
    split at stepped
    · cases stepped
      exact .played calling reads.1 reads.2 ‹_›
    · cases stepped
  · cases stepped
    exact .refused nofun

theorem effect_setProperty {system next : IoSystem} {returned : Option IoStatus} {thread : Nat}
    {objectID inputSize input : UInt32} {address : AudioObjectPropertyAddress} {kind : ObjectKind}
    (calling : system.calls thread =
      some (.setPropertyData objectID address inputSize input, .classified kind))
    (stepped : system.setProperty thread objectID address inputSize input kind =
      some (next, returned)) :
    Effect system (.operate thread) next returned := by
  have switching : ∀ isInput : Bool,
      (if address.selector = some .streamIsActive then
        if inputSize = 4 then
          match system.table.driver.deviceForObject objectID with
          | some device =>
              some (((system.setIo device { system.io device with
                  ring := if isInput then { (system.io device).ring with inputActive := input ≠ 0 }
                    else { (system.io device).ring with outputActive := input ≠ 0 } }).record
                (.switched device isInput (input ≠ 0))).setCall thread none, some .noErr)
          | none => none
        else some (system.setCall thread none, some .badPropertySizeError)
      else some (system.setCall thread none, some .unknownPropertyError)) =
        some (next, returned) → Effect system (.operate thread) next returned := by
    intro isInput stepped
    split at stepped
    swap
    · cases stepped
      exact .refused nofun
    split at stepped
    swap
    · cases stepped
      exact .refused nofun
    split at stepped
    · cases stepped
      exact .switched isInput calling ‹_›
    · cases stepped
  unfold setProperty at stepped
  dsimp only at stepped
  split at stepped
  · exact switching true stepped
  · exact switching false stepped
  · split at stepped
    · cases stepped
    · cases stepped
      exact .refused nofun
  · cases stepped
    exact .refused nofun

theorem effect_of_step {system next : IoSystem} {action : IoAction} {returned : Option IoStatus}
    (stepped : system.step action = some (next, returned)) :
    Effect system action next returned := by
  cases action with
  | table action =>
      simp only [step] at stepped
      split at stepped
      · cases stepped
        exact .changed ‹_›
      · cases stepped
  | call thread call =>
      simp only [step] at stepped
      split at stepped
      · cases stepped
        exact .called (Option.isNone_iff_eq_none.mp ‹_›)
      · cases stepped
  | lookup thread =>
      simp only [step] at stepped
      split at stepped
      · cases stepped
        exact .classified
      · split at stepped
        · cases stepped
          exact .found ‹_›
        · cases stepped
          exact .refused nofun
      · split at stepped
        · cases stepped
          exact .found ‹_›
        · cases stepped
          exact .refused nofun
      · cases stepped
  | operate thread =>
      simp only [step] at stepped
      split at stepped
      · exact effect_transfer ‹_› stepped
      · cases stepped
        exact .refused nofun
      · split at stepped
        · cases stepped
          exact .stamped ‹_› ‹_›
        · cases stepped
          exact .refused nofun
      · exact effect_setProperty ‹_› stepped
      · cases stepped
  | tick ticks =>
      simp only [step] at stepped
      split at stepped
      · cases stepped
        exact .ticked ‹_›
      · cases stepped

end IoSystem

end VCable
