import VCable.DriverDevices

/-!
# Concurrent calls of the driver

Any number of threads call the driver.  A call looks its device up without a
lock, and then changes the table in one or two sections under `gStateMutex`.
A creation keeps the mutex over its publication, its write to the storage and
its rollback, between which other threads still look devices up.
-/

namespace VCable

/-! ## Calls -/

/-- A call of the plug-in interface; a control command is a text that
`SetPropertyData` got, if it has a UTF-8 form. -/
inductive DriverCall where
  | control (command : Option String)
  | destroyDevice (objectID : UInt32)
  | addDeviceClient (objectID : UInt32)
  | removeDeviceClient (objectID : UInt32)
  | performDeviceConfigurationChange (objectID : UInt32) (action : UInt64) (changeInfo : Nat)
  | abortDeviceConfigurationChange (objectID : UInt32) (action : UInt64) (changeInfo : Nat)
  | startIo (objectID : UInt32)
  | stopIo (objectID : UInt32)
  deriving DecidableEq

def kDeleteDeviceConfigurationAction : UInt64 := 1

/-- How far a call is. -/
inductive DriverProgress where
  | called
  /-- The device was looked up. -/
  | found (device : Nat)
  /-- Inside `AddDeviceLocked`. -/
  | creating
  /-- The host is asked for a configuration change. -/
  | requesting (device : Nat)
  /-- Between the two sections of a removal. -/
  | removed (device : Nat)
  deriving DecidableEq

/-- Where a creation is that holds the mutex. -/
inductive CreationStage where
  | appended
  | published
  | failed (status : OSStatus)
  deriving DecidableEq

structure Creation where
  thread : Nat
  device : Nat
  stage : CreationStage
  deriving DecidableEq

/-- A change of `deletePending`, written down for the record. -/
inductive PendingEvent where
  /-- A delete command with this id has set the flag of the device. -/
  | requested (device : Nat) (id : String)
  | cleared (device : Nat)
  deriving DecidableEq

def PendingEvent.device : PendingEvent → Nat
  | .requested device _ => device
  | .cleared device => device

/-- The driver with its calls in progress.  The mutex is free when no creation
holds it.  The record of pending flags, newest first, is read by no step. -/
structure DriverSystem where
  driver : Driver
  creation : Option Creation
  calls : Nat → Option (DriverCall × DriverProgress)
  events : List PendingEvent

inductive DriverAction where
  | call (thread : Nat) (call : DriverCall)
  /-- `DeviceForObject` and the checks that need no lock. -/
  | lookup (thread : Nat)
  /-- The first section under the mutex, with the memory for a new device and
  the result of a write to the storage that it may need. -/
  | enter (thread : Nat) (allocates : Bool) (write : OSStatus)
  | publish
  | writeStorage (write : OSStatus)
  | rollBack
  /-- What `RequestDeviceConfigurationChange` returns, if the host has it. -/
  | answer (thread : Nat) (status : Option OSStatus)
  /-- `AbortDeviceConfigurationChange` clears the flag outside of the mutex. -/
  | clearPending (thread : Nat)
  /-- The second section of a removal. -/
  | release (thread : Nat)

namespace Driver

/-- The device that a call goes on with. -/
def lookup (driver : Driver) : DriverCall → Option Nat
  | .control _ => none
  | .destroyDevice objectID => driver.deviceForDeviceObject objectID
  | .addDeviceClient objectID => driver.deviceForDeviceObject objectID
  | .removeDeviceClient objectID => driver.deviceForDeviceObject objectID
  | .performDeviceConfigurationChange objectID action changeInfo =>
      (driver.deviceForDeviceObject objectID).filter fun device =>
        action = kDeleteDeviceConfigurationAction && changeInfo = device
  | .abortDeviceConfigurationChange objectID action changeInfo =>
      (driver.deviceForDeviceObject objectID).filter fun device =>
        action = kDeleteDeviceConfigurationAction && changeInfo = device
  | .startIo objectID => driver.deviceForDeviceObject objectID
  | .stopIo objectID => driver.deviceForDeviceObject objectID

/-- What a section leaves to do. -/
inductive Sequel where
  | returns (status : OSStatus)
  | creates (device : Nat)
  | requests (device : Nat) (id : String)
  | removes (device : Nat)
  deriving DecidableEq

def setPending (pointer : Nat) (pending : Bool) (driver : Driver) : Driver :=
  driver.setDevice pointer { driver.devices pointer with deletePending := pending }

/-- The section of `SetPropertyData` for a control command. -/
def control (command : Option String) (allocates : Bool) (driver : Driver) : Sequel × Driver :=
  match command with
  | none => (.returns .illegalOperationError, driver)
  | some command =>
      match split '\t' (toCString command) with
      | "create" :: fields =>
          match driver.prepareDevice ("create" :: fields) allocates with
          | .done status => (.returns status, driver)
          | .fresh device => (.creates driver.allocated, driver.appendDevice device)
      | ["delete", id] =>
          match driver.findByIDLocked id with
          | none => (.returns .badObjectError, driver)
          | some pointer =>
              if (driver.devices pointer).runningClients ≠ 0 ∨
                  (driver.devices pointer).deletePending then
                (.returns .illegalOperationError, driver)
              else (.requests pointer id, driver.setPending pointer true)
      | _ => (.returns .illegalOperationError, driver)

/-- The removing section of `DestroyDevice` and `PerformDeviceConfigurationChange`. -/
def removal (pointer : Nat) (write : OSStatus) (driver : Driver) : Sequel × Driver :=
  match driver.removeDeviceLocked pointer true write with
  | (.noErr, removed) => (.removes pointer, removed)
  | (status, kept) => (.returns status, kept)

def perform (pointer : Nat) (write : OSStatus) (driver : Driver) : Sequel × Driver :=
  let cleared := driver.setPending pointer false
  if (driver.devices pointer).deletePending then cleared.removal pointer write
  else (.returns .illegalOperationError, cleared)

def addClient (pointer : Nat) (driver : Driver) : Sequel × Driver :=
  let device := driver.devices pointer
  if driver.slots device.slot = some pointer then
    (.returns .noErr,
      driver.setDevice pointer { device with attachedClients := device.attachedClients + 1 })
  else (.returns .badObjectError, driver)

def removeClient (pointer : Nat) (driver : Driver) : Sequel × Driver :=
  let device := driver.devices pointer
  if driver.slots device.slot = some pointer then
    if device.attachedClients = 0 then (.returns .illegalOperationError, driver)
    else
      (.returns .noErr, (driver.setDevice pointer
        { device with attachedClients := device.attachedClients - 1 }).releaseRetiredSlotLocked
          pointer)
  else (.returns .badObjectError, driver)

def start (pointer : Nat) (driver : Driver) : Sequel × Driver :=
  let device := driver.devices pointer
  if device.active then
    (.returns .noErr,
      driver.setDevice pointer { device with runningClients := device.runningClients + 1 })
  else (.returns .badObjectError, driver)

def stop (pointer : Nat) (driver : Driver) : Sequel × Driver :=
  let device := driver.devices pointer
  if device.runningClients = 0 then (.returns .illegalOperationError, driver)
  else
    (.returns .noErr, (driver.setDevice pointer
      { device with runningClients := device.runningClients - 1 }).releaseRetiredSlotLocked pointer)

/-- The first section of a call under the mutex. -/
def enter (allocates : Bool) (write : OSStatus) (driver : Driver) :
    DriverCall → DriverProgress → Option (Sequel × Driver)
  | .control command, .called => some (driver.control command allocates)
  | .destroyDevice _, .found device => some (driver.removal device write)
  | .performDeviceConfigurationChange _ _ _, .found device => some (driver.perform device write)
  | .addDeviceClient _, .found device => some (driver.addClient device)
  | .removeDeviceClient _, .found device => some (driver.removeClient device)
  | .startIo _, .found device => some (driver.start device)
  | .stopIo _, .found device => some (driver.stop device)
  | _, _ => none

end Driver

namespace DriverSystem

open Driver

def setCall (system : DriverSystem) (thread : Nat) (call : Option (DriverCall × DriverProgress)) :
    DriverSystem :=
  { system with calls := Function.update system.calls thread call }

/-- The changes of the pending flag that a first section has made. -/
def recorded : DriverCall → DriverProgress → Sequel → List PendingEvent
  | .control _, _, .requests device id => [.requested device id]
  | .performDeviceConfigurationChange _ _ _, .found device, _ => [.cleared device]
  | _, _, _ => []

/-- The state after a first section, by what it leaves to do. -/
def afterSection (system : DriverSystem) (thread : Nat) (call : DriverCall) (driver : Driver) :
    Sequel → DriverSystem × Option OSStatus
  | .returns status => ({ system with driver := driver }.setCall thread none, some status)
  | .creates device =>
      ({ system with
        driver := driver
        creation := some ⟨thread, device, .appended⟩ }.setCall thread (some (call, .creating)),
        none)
  | .requests device _ =>
      ({ system with driver := driver }.setCall thread (some (call, .requesting device)), none)
  | .removes device =>
      ({ system with driver := driver }.setCall thread (some (call, .removed device)), none)

/-- One step of the calls, with the status that a finished call returns. -/
def step (system : DriverSystem) : DriverAction → Option (DriverSystem × Option OSStatus)
  | .call thread call =>
      if system.calls thread = none then some (system.setCall thread (some (call, .called)), none)
      else none
  | .lookup thread =>
      match system.calls thread with
      | some (.control _, .called) => none
      | some (call, .called) =>
          match system.driver.lookup call with
          | some device => some (system.setCall thread (some (call, .found device)), none)
          | none => some (system.setCall thread none, some .badObjectError)
      | _ => none
  | .enter thread allocates write =>
      match system.creation, system.calls thread with
      | none, some (call, progress) =>
          match system.driver.enter allocates write call progress with
          | some (sequel, driver) =>
              some ({ system with events := recorded call progress sequel ++ system.events
                    }.afterSection thread call driver sequel)
          | none => none
      | _, _ => none
  | .publish =>
      match system.creation with
      | some ⟨thread, device, .appended⟩ =>
          some ({ system with
            driver := system.driver.publishDevice device
            creation := some ⟨thread, device, .published⟩ }, none)
      | _ => none
  | .writeStorage write =>
      match system.creation with
      | some ⟨thread, device, .published⟩ =>
          match system.driver.persistLocked write with
          | (.noErr, stored) =>
              some ({ system with driver := stored, creation := none }.setCall thread none,
                some .noErr)
          | (status, unstored) =>
              some ({ system with
                driver := unstored
                creation := some ⟨thread, device, .failed status⟩ }, none)
      | _ => none
  | .rollBack =>
      match system.creation with
      | some ⟨thread, device, .failed status⟩ =>
          some ({ system with
            driver := system.driver.rollBackDevice device
            creation := none }.setCall thread none, some status)
      | _ => none
  | .answer thread status =>
      match system.calls thread with
      | some (_, .requesting device) =>
          if status = some .noErr then some (system.setCall thread none, some .noErr)
          else
            some ({ system with
              driver := system.driver.setPending device false
              events := .cleared device :: system.events }.setCall thread none,
              some (status.getD .notReadyError))
      | _ => none
  | .clearPending thread =>
      match system.calls thread with
      | some (.abortDeviceConfigurationChange _ _ _, .found device) =>
          some ({ system with
            driver := system.driver.setPending device false
            events := .cleared device :: system.events }.setCall thread none, some .noErr)
      | _ => none
  | .release thread =>
      match system.creation, system.calls thread with
      | none, some (_, .removed device) =>
          some ({ system with driver := system.driver.releaseRetiredSlotLocked device
                }.setCall thread none, some .noErr)
      | _, _ => none

/-- A driver without any call in progress. -/
def idle (driver : Driver) : DriverSystem where
  driver := driver
  creation := none
  calls := fun _ => none
  events := []

/-- No section counts a client beyond the range of its counter. -/
def fewClients (system : DriverSystem) : DriverAction → Bool
  | .enter thread _ _ =>
      match system.calls thread with
      | some (.addDeviceClient _, .found device) =>
          (system.driver.devices device).attachedClients.toNat + 1 < 2 ^ 32
      | some (.startIo _, .found device) =>
          (system.driver.devices device).runningClients.toNat + 1 < 2 ^ 32
      | _ => true
  | _ => true

end DriverSystem

end VCable
