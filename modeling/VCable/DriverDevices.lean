import Mathlib.Data.List.InsertIdx
import Mathlib.Logic.Function.Basic
import VCable.Protocol

/-!
# The devices of the driver

The three structures that the driver keeps of its devices: the slots that turn
object ids into devices, the list of active devices and the objects themselves,
which are never freed.  An object is named by its place in `gAllDevices`.
-/

namespace VCable

open Utf8Text

/-! ## Objects -/

def kFirstDeviceObjectID : UInt32 := 100

def kObjectsPerDevice : Nat := 3

def kMaximumDevices : Nat := 4096

def kMaximumChannels : UInt32 := 64

/-- The status of a call; `host` is one that the host has returned. -/
inductive OSStatus where
  | noErr
  | illegalOperationError
  | badObjectError
  | notReadyError
  | unspecifiedError
  | host (code : Int32)
  deriving DecidableEq, Repr

/-- The part of `Device` that the device table uses.  A sample rate is given as
an integer, and stays one. -/
structure Device where
  slot : Nat
  id : String
  name : String
  inputChannels : UInt32
  outputChannels : UInt32
  sampleRate : UInt32
  active : Bool
  deletePending : Bool
  attachedClients : UInt32
  runningClients : UInt32
  deriving DecidableEq, Repr

namespace Device

def deviceObjectID (device : Device) : UInt32 :=
  kFirstDeviceObjectID + UInt32.ofNat (device.slot * kObjectsPerDevice)

def inputStreamObjectID (device : Device) : UInt32 :=
  device.deviceObjectID + 1

def outputStreamObjectID (device : Device) : UInt32 :=
  device.deviceObjectID + 2

end Device

/-- The state under `gStateMutex`, with the text that the host stores.  A
pointer to a device is its number in `gAllDevices`. -/
structure Driver where
  devices : Nat → Device
  /-- The size of `gAllDevices`. -/
  allocated : Nat
  slots : Nat → Option Nat
  active : List Nat
  /-- `gHost` is set. -/
  hosted : Bool
  storage : Option String

namespace Driver

/-- A driver that has just been loaded. -/
def loaded (storage : Option String) : Driver where
  devices := fun _ => ⟨0, "", "", 0, 0, 0, false, false, 0, 0⟩
  allocated := 0
  slots := fun _ => none
  active := []
  hosted := false
  storage := storage

def setDevice (driver : Driver) (pointer : Nat) (device : Device) : Driver :=
  { driver with devices := Function.update driver.devices pointer device }

def setSlot (driver : Driver) (slot : Nat) (pointer : Option Nat) : Driver :=
  { driver with slots := Function.update driver.slots slot pointer }

@[simp]
theorem devices_setDevice_self (driver : Driver) (pointer : Nat) (device : Device) :
    (driver.setDevice pointer device).devices pointer = device :=
  Function.update_self _ _ _

theorem devices_setDevice_of_ne (driver : Driver) {pointer other : Nat} (device : Device)
    (differ : other ≠ pointer) :
    (driver.setDevice pointer device).devices other = driver.devices other :=
  Function.update_of_ne differ _ _

/-- What a change of a device keeps, it keeps of all devices. -/
theorem apply_devices_setDevice {β : Type*} {driver : Driver} {pointer : Nat} {device : Device}
    (read : Device → β) (same : read device = read (driver.devices pointer)) (other : Nat) :
    read ((driver.setDevice pointer device).devices other) = read (driver.devices other) := by
  by_cases this : other = pointer
  · rw [this, devices_setDevice_self, same]
  · rw [devices_setDevice_of_ne driver device this]

@[simp]
theorem slots_setSlot_self (driver : Driver) (slot : Nat) (pointer : Option Nat) :
    (driver.setSlot slot pointer).slots slot = pointer :=
  Function.update_self _ _ _

theorem slots_setSlot_of_ne (driver : Driver) {slot other : Nat} (pointer : Option Nat)
    (differ : other ≠ slot) : (driver.setSlot slot pointer).slots other = driver.slots other :=
  Function.update_of_ne differ _ _

def deviceForObject (driver : Driver) (objectID : UInt32) : Option Nat :=
  if objectID < kFirstDeviceObjectID then none
  else
    let slot := (objectID - kFirstDeviceObjectID).toNat / kObjectsPerDevice
    if slot ≥ kMaximumDevices then none
    else
      match driver.slots slot with
      | some pointer =>
          if objectID > (driver.devices pointer).outputStreamObjectID then none else some pointer
      | none => none

/-- The device whose own object id is given, as most calls look it up. -/
def deviceForDeviceObject (driver : Driver) (objectID : UInt32) : Option Nat :=
  (driver.deviceForObject objectID).filter fun pointer =>
    objectID = (driver.devices pointer).deviceObjectID

end Driver

/-! ## Texts -/

/-- `ToString`: the characters before the first NUL. -/
def toCString (value : String) : String :=
  String.ofList (value.toList.takeWhile (· ≠ '\x00'))

/-- The bytes of an id besides letters and digits. -/
def driverIDPunctuation : List UInt8 := bytes "._-"

def validID (value : String) : Bool :=
  (bytes value).length ≠ 0 && (bytes value).length ≤ 128 &&
    (bytes value).all fun character =>
      isAsciiAlphanumeric character || driverIDPunctuation.contains character

def validName (value : String) : Bool :=
  (bytes value).length ≠ 0 && (bytes value).length ≤ 255 &&
    value.toList.all fun character => character ≠ '\t' && character ≠ '\r' && character ≠ '\n'

/-- The loop of `ParseUInt32`. -/
def parseUInt32From : Nat → List Char → Option Nat
  | parsed, [] => some parsed
  | parsed, character :: characters =>
      if character < '0' ∨ character > '9' then none
      else
        let parsed := parsed * 10 + (character.toNat - '0'.toNat)
        if parsed > 4294967295 then none else parseUInt32From parsed characters

def parseUInt32 (value : String) : Option UInt32 :=
  if value = "" then none else (parseUInt32From 0 value.toList).map UInt32.ofNat

/-- The fields of a create command. -/
structure DeviceFields where
  id : String
  name : String
  inputChannels : UInt32
  outputChannels : UInt32
  sampleRate : UInt32
  deriving DecidableEq

namespace DeviceFields

/-- The checks at the start of `AddDeviceLocked`. -/
def parse : List String → Option DeviceFields
  | ["create", id, name, input, output, rate] =>
      if validID id && validName name then
        match parseUInt32 input, parseUInt32 output, parseUInt32 rate with
        | some inputChannels, some outputChannels, some sampleRate =>
            if inputChannels = 0 ∨ outputChannels = 0 ∨ inputChannels > kMaximumChannels ∨
                outputChannels > kMaximumChannels ∨ sampleRate < 8000 ∨ sampleRate > 768000 then
              none
            else
              some
                { id := id
                  name := name
                  inputChannels := inputChannels
                  outputChannels := outputChannels
                  sampleRate := sampleRate }
        | _, _, _ => none
      else none
  | _ => none

def ofDevice (device : Device) : DeviceFields where
  id := device.id
  name := device.name
  inputChannels := device.inputChannels
  outputChannels := device.outputChannels
  sampleRate := device.sampleRate

/-- A line of the inventory. -/
def line (fields : DeviceFields) : String :=
  "create\t" ++ fields.id ++ "\t" ++ fields.name ++ "\t" ++ toString fields.inputChannels.toNat ++
    "\t" ++ toString fields.outputChannels.toNat ++ "\t" ++ toString fields.sampleRate.toNat ++ "\n"

end DeviceFields

/-! ## The table -/

namespace Driver

/-- What a listing of the active devices shows. -/
def listed (driver : Driver) : List DeviceFields :=
  driver.active.map fun pointer => .ofDevice (driver.devices pointer)

def findByIDLocked (driver : Driver) (id : String) : Option Nat :=
  driver.active.find? fun pointer => (driver.devices pointer).id = id

def inventoryLocked (driver : Driver) : String :=
  String.join (driver.listed.map DeviceFields.line)

/-- `PersistLocked`, by what `WriteToStorage` returns; a failing write leaves
the storage as it is. -/
def persistLocked (write : OSStatus) (driver : Driver) : OSStatus × Driver :=
  if driver.hosted then
    if write = .noErr then (.noErr, { driver with storage := some driver.inventoryLocked })
    else (write, driver)
  else (.notReadyError, driver)

/-- The first free slot. -/
def freeSlot (driver : Driver) : Option Nat :=
  (List.range kMaximumDevices).find? fun slot => (driver.slots slot).isNone

/-- What `AddDeviceLocked` does before it changes the table. -/
inductive Preparation where
  | done (status : OSStatus)
  | fresh (device : Device)

/-- The checks of `AddDeviceLocked` and the construction of the device, for
which there may be no memory. -/
def prepareDevice (fields : List String) (allocates : Bool) (driver : Driver) : Preparation :=
  match DeviceFields.parse fields with
  | none => .done .illegalOperationError
  | some parsed =>
      match driver.findByIDLocked parsed.id with
      | some existing =>
          if DeviceFields.ofDevice (driver.devices existing) = parsed then .done .noErr
          else .done .illegalOperationError
      | none =>
          match driver.freeSlot with
          | none => .done .illegalOperationError
          | some slot =>
              if allocates then
                .fresh
                  { slot := slot
                    id := parsed.id
                    name := parsed.name
                    inputChannels := parsed.inputChannels
                    outputChannels := parsed.outputChannels
                    sampleRate := parsed.sampleRate
                    active := true
                    deletePending := false
                    attachedClients := 0
                    runningClients := 0 }
              else .done .unspecifiedError

/-- The device is put into both lists. -/
def appendDevice (device : Device) (driver : Driver) : Driver :=
  { driver.setDevice driver.allocated device with
    allocated := driver.allocated + 1
    active := driver.active ++ [driver.allocated] }

/-- The device is put into its slot. -/
def publishDevice (pointer : Nat) (driver : Driver) : Driver :=
  driver.setSlot (driver.devices pointer).slot (some pointer)

/-- The device leaves its slot and the list of active devices. -/
def rollBackDevice (pointer : Nat) (driver : Driver) : Driver :=
  { driver.setSlot (driver.devices pointer).slot none with active := driver.active.dropLast }

def addDeviceLocked (fields : List String) (persist allocates : Bool) (write : OSStatus)
    (driver : Driver) : OSStatus × Driver :=
  match driver.prepareDevice fields allocates with
  | .done status => (status, driver)
  | .fresh device =>
      let published := (driver.appendDevice device).publishDevice driver.allocated
      if persist then
        match published.persistLocked write with
        | (.noErr, stored) => (.noErr, stored)
        | (status, unstored) => (status, unstored.rollBackDevice driver.allocated)
      else (.noErr, published)

def removeDeviceLocked (pointer : Nat) (persist : Bool) (write : OSStatus) (driver : Driver) :
    OSStatus × Driver :=
  if (driver.devices pointer).runningClients ≠ 0 then (.illegalOperationError, driver)
  else if pointer ∈ driver.active then
    let position := driver.active.idxOf pointer
    let erased := { driver with active := driver.active.eraseIdx position }
    match (if persist then erased.persistLocked write else (.noErr, erased)) with
    | (.noErr, stored) =>
        (.noErr, stored.setDevice pointer { stored.devices pointer with active := false })
    | (status, unstored) =>
        (status, { unstored with active := unstored.active.insertIdx position pointer })
  else (.badObjectError, driver)

def releaseRetiredSlotLocked (pointer : Nat) (driver : Driver) : Driver :=
  let device := driver.devices pointer
  if device.active ∨ device.attachedClients ≠ 0 ∨ device.runningClients ≠ 0 then driver
  else if driver.slots device.slot = some pointer then driver.setSlot device.slot none
  else driver

/-- The loop of `Initialize` over the lines of the inventory; there may be no
memory for some of the devices. -/
def loadLines (allocates : Nat → Bool) : List String → Driver → OSStatus × Driver
  | [], driver => (.noErr, driver)
  | line :: lines, driver =>
      if line = "" then loadLines allocates lines driver
      else
        match driver.addDeviceLocked (split '\t' line) false (allocates driver.allocated)
            .noErr with
        | (.noErr, added) => loadLines allocates lines added
        | (status, failed) => (status, failed)

/-- `Initialize`, with what `CopyFromStorage` returns. -/
def initializeDriver (copyStatus : OSStatus) (allocates : Nat → Bool) (driver : Driver) :
    OSStatus × Driver :=
  let hosted := { driver with hosted := true }
  if copyStatus = .noErr then
    match driver.storage with
    | none => (.noErr, hosted)
    | some inventory => hosted.loadLines allocates (split '\n' (toCString inventory))
  else (copyStatus, hosted)

end Driver

end VCable
