import VCable.DriverDevices
import VCable.LoopbackRing

/-!
# The properties of the driver

The host asks the driver for the properties of its objects: whether there is a
property, how large its data are, and the data.  Each question has its own
table for each of the three kinds of objects.  The references and pointers of
a call are valid, and a `CFStringRef` is given by its text.
-/

namespace VCable

/-! ## Selectors -/

/-- The selectors that some table knows.  The latency of a stream has the
selector of the latency of a device. -/
inductive Selector where
  | objectBaseClass
  | objectClass
  | objectOwner
  | objectName
  | objectManufacturer
  | objectOwnedObjects
  | objectControlList
  | objectCustomPropertyInfoList
  | plugInBundleID
  | plugInDeviceList
  | plugInTranslateUIDToDevice
  | plugInBoxList
  | plugInResourceBundle
  | vCableControl
  | vCableStatus
  | deviceDeviceUID
  | deviceModelUID
  | deviceTransportType
  | deviceRelatedDevices
  | deviceClockDomain
  | deviceDeviceIsAlive
  | deviceDeviceIsRunning
  | deviceDeviceCanBeDefaultDevice
  | deviceDeviceCanBeDefaultSystemDevice
  | deviceLatency
  | deviceStreams
  | deviceSafetyOffset
  | deviceNominalSampleRate
  | deviceAvailableNominalSampleRates
  | deviceIsHidden
  | devicePreferredChannelsForStereo
  | deviceStreamConfiguration
  | deviceZeroTimeStampPeriod
  | deviceClockIsStable
  | deviceBufferFrameSize
  | deviceBufferFrameSizeRange
  | streamIsActive
  | streamDirection
  | streamTerminalType
  | streamStartingChannel
  | streamVirtualFormat
  | streamPhysicalFormat
  | streamAvailableVirtualFormats
  | streamAvailablePhysicalFormats
  deriving DecidableEq

/-- A four-character code, as its characters are written in the source. -/
def fourCharCode (first second third fourth : Char) : UInt32 :=
  UInt32.ofNat (((first.toNat * 256 + second.toNat) * 256 + third.toNat) * 256 + fourth.toNat)

namespace Selector

def code : Selector → UInt32
  | objectBaseClass => fourCharCode 'b' 'c' 'l' 's'
  | objectClass => fourCharCode 'c' 'l' 'a' 's'
  | objectOwner => fourCharCode 's' 't' 'd' 'v'
  | objectName => fourCharCode 'l' 'n' 'a' 'm'
  | objectManufacturer => fourCharCode 'l' 'm' 'a' 'k'
  | objectOwnedObjects => fourCharCode 'o' 'w' 'n' 'd'
  | objectControlList => fourCharCode 'c' 't' 'r' 'l'
  | objectCustomPropertyInfoList => fourCharCode 'c' 'u' 's' 't'
  | plugInBundleID => fourCharCode 'p' 'i' 'i' 'd'
  | plugInDeviceList => fourCharCode 'd' 'e' 'v' '#'
  | plugInTranslateUIDToDevice => fourCharCode 'u' 'i' 'd' 'd'
  | plugInBoxList => fourCharCode 'b' 'o' 'x' '#'
  | plugInResourceBundle => fourCharCode 'r' 's' 'r' 'c'
  | vCableControl => fourCharCode 'v' 'c' 't' 'l'
  | vCableStatus => fourCharCode 'v' 's' 't' 'a'
  | deviceDeviceUID => fourCharCode 'u' 'i' 'd' ' '
  | deviceModelUID => fourCharCode 'm' 'u' 'i' 'd'
  | deviceTransportType => fourCharCode 't' 'r' 'a' 'n'
  | deviceRelatedDevices => fourCharCode 'a' 'k' 'i' 'n'
  | deviceClockDomain => fourCharCode 'c' 'l' 'k' 'd'
  | deviceDeviceIsAlive => fourCharCode 'l' 'i' 'v' 'n'
  | deviceDeviceIsRunning => fourCharCode 'g' 'o' 'i' 'n'
  | deviceDeviceCanBeDefaultDevice => fourCharCode 'd' 'f' 'l' 't'
  | deviceDeviceCanBeDefaultSystemDevice => fourCharCode 's' 'f' 'l' 't'
  | deviceLatency => fourCharCode 'l' 't' 'n' 'c'
  | deviceStreams => fourCharCode 's' 't' 'm' '#'
  | deviceSafetyOffset => fourCharCode 's' 'a' 'f' 't'
  | deviceNominalSampleRate => fourCharCode 'n' 's' 'r' 't'
  | deviceAvailableNominalSampleRates => fourCharCode 'n' 's' 'r' '#'
  | deviceIsHidden => fourCharCode 'h' 'i' 'd' 'n'
  | devicePreferredChannelsForStereo => fourCharCode 'd' 'c' 'h' '2'
  | deviceStreamConfiguration => fourCharCode 's' 'l' 'a' 'y'
  | deviceZeroTimeStampPeriod => fourCharCode 'r' 'i' 'n' 'g'
  | deviceClockIsStable => fourCharCode 'c' 's' 't' 'b'
  | deviceBufferFrameSize => fourCharCode 'f' 's' 'i' 'z'
  | deviceBufferFrameSizeRange => fourCharCode 'f' 's' 'z' '#'
  | streamIsActive => fourCharCode 's' 'a' 'c' 't'
  | streamDirection => fourCharCode 's' 'd' 'i' 'r'
  | streamTerminalType => fourCharCode 't' 'e' 'r' 'm'
  | streamStartingChannel => fourCharCode 's' 'c' 'h' 'n'
  | streamVirtualFormat => fourCharCode 's' 'f' 'm' 't'
  | streamPhysicalFormat => fourCharCode 'p' 'f' 't' ' '
  | streamAvailableVirtualFormats => fourCharCode 's' 'f' 'm' 'a'
  | streamAvailablePhysicalFormats => fourCharCode 'p' 'f' 't' 'a'

def all : List Selector :=
  [objectBaseClass, objectClass, objectOwner, objectName, objectManufacturer, objectOwnedObjects,
    objectControlList, objectCustomPropertyInfoList, plugInBundleID, plugInDeviceList,
    plugInTranslateUIDToDevice, plugInBoxList, plugInResourceBundle, vCableControl, vCableStatus,
    deviceDeviceUID, deviceModelUID, deviceTransportType, deviceRelatedDevices, deviceClockDomain,
    deviceDeviceIsAlive, deviceDeviceIsRunning, deviceDeviceCanBeDefaultDevice,
    deviceDeviceCanBeDefaultSystemDevice, deviceLatency, deviceStreams, deviceSafetyOffset,
    deviceNominalSampleRate, deviceAvailableNominalSampleRates, deviceIsHidden,
    devicePreferredChannelsForStereo, deviceStreamConfiguration, deviceZeroTimeStampPeriod,
    deviceClockIsStable, deviceBufferFrameSize, deviceBufferFrameSizeRange, streamIsActive,
    streamDirection, streamTerminalType, streamStartingChannel, streamVirtualFormat,
    streamPhysicalFormat, streamAvailableVirtualFormats, streamAvailablePhysicalFormats]

/-- The case of a `switch` that a code comes to, if it is no `default`. -/
def ofCode (code : UInt32) : Option Selector :=
  all.find? fun selector => selector.code = code

/-- No two cases of a `switch` have the same code. -/
theorem ofCode_code (selector : Selector) : ofCode selector.code = some selector := by
  cases selector <;> decide

end Selector

def kAudioObjectPropertyScopeGlobal : UInt32 := fourCharCode 'g' 'l' 'o' 'b'

def kAudioObjectPropertyScopeInput : UInt32 := fourCharCode 'i' 'n' 'p' 't'

def kAudioObjectPropertyScopeOutput : UInt32 := fourCharCode 'o' 'u' 't' 'p'

structure AudioObjectPropertyAddress where
  mSelector : UInt32
  mScope : UInt32
  mElement : UInt32
  deriving DecidableEq

def AudioObjectPropertyAddress.selector (address : AudioObjectPropertyAddress) : Option Selector :=
  Selector.ofCode address.mSelector

/-! ## Values -/

def kBufferFrameSize : UInt32 := 512

def kZeroTimeStampPeriod : UInt32 := 16384

def kManufacturer : String := "VCable Project"

def kModelUID : String := "dev.vcable.model"

def kBundleID : String := "dev.vcable.driver"

def kUIDPrefix : String := "dev.vcable.device."

/-- The errors of the property calls. -/
inductive PropertyError where
  | badObject
  | unknownProperty
  | badPropertySize
  | unspecified
  deriving DecidableEq

structure AudioStreamBasicDescription where
  mSampleRate : UInt32
  mFormatID : UInt32
  mFormatFlags : UInt32
  mBytesPerPacket : UInt32
  mFramesPerPacket : UInt32
  mBytesPerFrame : UInt32
  mChannelsPerFrame : UInt32
  mBitsPerChannel : UInt32
  deriving DecidableEq

structure AudioServerPlugInCustomPropertyInfo where
  mSelector : UInt32
  mPropertyDataType : UInt32
  mQualifierDataType : UInt32
  deriving DecidableEq

/-- What a call writes to its output.  A sample rate, a `Float64`, is given as
an integer. -/
inductive PropertyValue where
  /-- A `UInt32`, an `AudioClassID` or an `AudioObjectID`. -/
  | number (value : UInt32)
  | numbers (values : List UInt32)
  | string (text : String)
  | float64 (value : UInt32)
  | valueRange (minimum maximum : UInt32)
  | customPropertyInfos (infos : List AudioServerPlugInCustomPropertyInfo)
  | format (description : AudioStreamBasicDescription)
  | rangedFormat (description : AudioStreamBasicDescription) (minimum maximum : UInt32)
  /-- A buffer list with one buffer that has no data. -/
  | bufferList (mNumberChannels : UInt32)
  deriving DecidableEq

/-- `sizeof`. -/
def PropertyValue.size : PropertyValue → Nat
  | number _ => 4
  | numbers values => 4 * values.length
  | string _ => 8
  | float64 _ => 8
  | valueRange _ _ => 16
  | customPropertyInfos infos => 12 * infos.length
  | format _ => 40
  | rangedFormat _ _ _ => 56
  | bufferList _ => 24

/-- The output of a call and the size that it reports. -/
structure PropertyOutput where
  outputSize : UInt32
  output : PropertyValue
  deriving DecidableEq

/-- `PutBytes` and `PutValue`. -/
def putValue (inputSize : UInt32) (value : PropertyValue) : Except PropertyError PropertyOutput :=
  let requiredSize := UInt32.ofNat value.size
  if inputSize < requiredSize then .error .badPropertySize else .ok ⟨requiredSize, value⟩

/-- `PutString`, which has no string if there was no memory for it. -/
def putString (inputSize : UInt32) : Option String → Except PropertyError PropertyOutput
  | none => .error .unspecified
  | some text => putValue inputSize (.string text)

/-! ## Objects -/

/-- The driver with the flags of its streams. -/
structure StreamedDriver extends Driver where
  inputActive : Nat → Bool
  outputActive : Nat → Bool

/-- The object that an id names; a device by its number in `gAllDevices`. -/
inductive ObjectKind where
  | invalid
  | plugIn
  | device (pointer : Nat)
  | inputStream (pointer : Nat)
  | outputStream (pointer : Nat)
  deriving DecidableEq

def kAudioObjectPlugInObject : UInt32 := 1

def Driver.kindForObject (driver : Driver) (objectID : UInt32) : ObjectKind :=
  if objectID = kAudioObjectPlugInObject then .plugIn
  else
    match driver.deviceForObject objectID with
    | none => .invalid
    | some pointer =>
        if objectID = (driver.devices pointer).deviceObjectID then .device pointer
        else if objectID = (driver.devices pointer).inputStreamObjectID then .inputStream pointer
        else .outputStream pointer

def Device.uid (device : Device) : String :=
  kUIDPrefix ++ device.id

def Driver.findByUIDLocked (driver : Driver) (uid : String) : Option Nat :=
  driver.active.find? fun pointer => (driver.devices pointer).uid = uid

def streamFormat (device : Device) (input : Bool) : AudioStreamBasicDescription :=
  let channels := if input then device.inputChannels else device.outputChannels
  { mSampleRate := device.sampleRate
    mFormatID := fourCharCode 'l' 'p' 'c' 'm'
    mFormatFlags := 9
    mBytesPerPacket := channels * 4
    mFramesPerPacket := 1
    mBytesPerFrame := channels * 4
    mChannelsPerFrame := channels
    mBitsPerChannel := 32 }

def streamCountForScope (address : AudioObjectPropertyAddress) : UInt32 :=
  if address.mScope = kAudioObjectPropertyScopeGlobal then 2
  else if address.mScope = kAudioObjectPropertyScopeInput ∨
      address.mScope = kAudioObjectPropertyScopeOutput then 1
  else 0

def channelsForScope (device : Device) (mScope : UInt32) : UInt32 :=
  if mScope = kAudioObjectPropertyScopeInput then device.inputChannels
  else if mScope = kAudioObjectPropertyScopeOutput then device.outputChannels
  else device.inputChannels + device.outputChannels

/-! ## Is there a property? -/

open Selector

def plugInHas : Option Selector → Bool
  | some objectBaseClass
  | some objectClass
  | some objectOwner
  | some objectManufacturer
  | some objectOwnedObjects
  | some objectCustomPropertyInfoList
  | some plugInBundleID
  | some plugInDeviceList
  | some plugInTranslateUIDToDevice
  | some plugInBoxList
  | some plugInResourceBundle
  | some vCableControl
  | some vCableStatus => true
  | _ => false

def deviceHas : Option Selector → Bool
  | some objectBaseClass
  | some objectClass
  | some objectOwner
  | some objectName
  | some objectManufacturer
  | some objectOwnedObjects
  | some deviceDeviceUID
  | some deviceModelUID
  | some deviceTransportType
  | some deviceRelatedDevices
  | some deviceClockDomain
  | some deviceDeviceIsAlive
  | some deviceDeviceIsRunning
  | some deviceDeviceCanBeDefaultDevice
  | some deviceDeviceCanBeDefaultSystemDevice
  | some deviceLatency
  | some deviceStreams
  | some objectControlList
  | some deviceSafetyOffset
  | some deviceNominalSampleRate
  | some deviceAvailableNominalSampleRates
  | some deviceIsHidden
  | some devicePreferredChannelsForStereo
  | some deviceStreamConfiguration
  | some deviceZeroTimeStampPeriod
  | some deviceClockIsStable
  | some deviceBufferFrameSize
  | some deviceBufferFrameSizeRange => true
  | _ => false

def streamHas : Option Selector → Bool
  | some objectBaseClass
  | some objectClass
  | some objectOwner
  | some objectOwnedObjects
  | some streamIsActive
  | some streamDirection
  | some streamTerminalType
  | some streamStartingChannel
  | some deviceLatency
  | some streamVirtualFormat
  | some streamPhysicalFormat
  | some streamAvailableVirtualFormats
  | some streamAvailablePhysicalFormats => true
  | _ => false

/-! ## How large are its data? -/

def plugInDataSize (driver : Driver) (address : AudioObjectPropertyAddress) :
    Except PropertyError UInt32 :=
  match address.selector with
  | some objectBaseClass
  | some objectClass => .ok 4
  | some objectOwner => .ok 4
  | some objectManufacturer
  | some plugInBundleID
  | some plugInResourceBundle
  | some vCableControl
  | some vCableStatus => .ok 8
  | some objectOwnedObjects
  | some plugInDeviceList => .ok (UInt32.ofNat (driver.active.length * 4))
  | some objectCustomPropertyInfoList => .ok (2 * 12)
  | some plugInTranslateUIDToDevice => .ok 4
  | some plugInBoxList => .ok 0
  | _ => .error .unknownProperty

def deviceDataSize (address : AudioObjectPropertyAddress) : Except PropertyError UInt32 :=
  match address.selector with
  | some objectBaseClass
  | some objectClass => .ok 4
  | some objectOwner
  | some deviceTransportType
  | some deviceClockDomain
  | some deviceDeviceIsAlive
  | some deviceDeviceIsRunning
  | some deviceDeviceCanBeDefaultDevice
  | some deviceDeviceCanBeDefaultSystemDevice
  | some deviceLatency
  | some deviceSafetyOffset
  | some deviceIsHidden
  | some deviceZeroTimeStampPeriod
  | some deviceClockIsStable
  | some deviceBufferFrameSize => .ok 4
  | some objectName
  | some objectManufacturer
  | some deviceDeviceUID
  | some deviceModelUID => .ok 8
  | some objectOwnedObjects
  | some deviceStreams => .ok (streamCountForScope address * 4)
  | some deviceRelatedDevices => .ok 4
  | some objectControlList => .ok 0
  | some deviceNominalSampleRate => .ok 8
  | some deviceAvailableNominalSampleRates
  | some deviceBufferFrameSizeRange => .ok 16
  | some devicePreferredChannelsForStereo => .ok (2 * 4)
  | some deviceStreamConfiguration => .ok (8 + 16)
  | _ => .error .unknownProperty

def streamDataSize (address : AudioObjectPropertyAddress) : Except PropertyError UInt32 :=
  match address.selector with
  | some objectBaseClass
  | some objectClass => .ok 4
  | some objectOwner
  | some streamIsActive
  | some streamDirection
  | some streamTerminalType
  | some streamStartingChannel
  | some deviceLatency => .ok 4
  | some objectOwnedObjects => .ok 0
  | some streamVirtualFormat
  | some streamPhysicalFormat => .ok 40
  | some streamAvailableVirtualFormats
  | some streamAvailablePhysicalFormats => .ok 56
  | _ => .error .unknownProperty

/-! ## What are its data? -/

/-- The string of a text; `creates` says whether there is memory for it. -/
def createString (creates : Bool) (text : String) : Option String :=
  if creates then some text else none

/-- The qualifier is the UID that a call asks for. -/
def plugInData (driver : Driver) (creates : Bool) (address : AudioObjectPropertyAddress)
    (qualifierSize : UInt32) (qualifier : Option String) (inputSize : UInt32) :
    Except PropertyError PropertyOutput :=
  match address.selector with
  | some objectBaseClass => putValue inputSize (.number (fourCharCode 'a' 'o' 'b' 'j'))
  | some objectClass => putValue inputSize (.number (fourCharCode 'a' 'p' 'l' 'g'))
  | some objectOwner => putValue inputSize (.number 0)
  | some objectManufacturer => putString inputSize (createString creates kManufacturer)
  | some plugInBundleID => putString inputSize (createString creates kBundleID)
  | some plugInResourceBundle => putString inputSize (createString creates "")
  | some objectOwnedObjects
  | some plugInDeviceList =>
      let count := min driver.active.length (inputSize.toNat / 4)
      .ok
        { outputSize := UInt32.ofNat (count * 4)
          output := .numbers ((driver.active.take count).map fun pointer =>
            (driver.devices pointer).deviceObjectID) }
  | some objectCustomPropertyInfoList =>
      putValue inputSize (.customPropertyInfos
        [⟨vCableControl.code, fourCharCode 'c' 'f' 's' 't', 0⟩,
          ⟨vCableStatus.code, fourCharCode 'c' 'f' 's' 't', 0⟩])
  | some plugInTranslateUIDToDevice =>
      match qualifier with
      | none => .error .badPropertySize
      | some uid =>
          if qualifierSize ≠ 8 then .error .badPropertySize
          else
            match driver.findByUIDLocked uid with
            | none => putValue inputSize (.number 0)
            | some pointer => putValue inputSize (.number (driver.devices pointer).deviceObjectID)
  | some plugInBoxList => .ok ⟨0, .numbers []⟩
  | some vCableControl
  | some vCableStatus => putString inputSize (createString creates driver.inventoryLocked)
  | _ => .error .unknownProperty

def deviceData (creates : Bool) (device : Device) (address : AudioObjectPropertyAddress)
    (inputSize : UInt32) : Except PropertyError PropertyOutput :=
  match address.selector with
  | some objectBaseClass => putValue inputSize (.number (fourCharCode 'a' 'o' 'b' 'j'))
  | some objectClass => putValue inputSize (.number (fourCharCode 'a' 'd' 'e' 'v'))
  | some objectOwner => putValue inputSize (.number kAudioObjectPlugInObject)
  | some objectName => putString inputSize (some device.name)
  | some objectManufacturer => putString inputSize (createString creates kManufacturer)
  | some deviceDeviceUID => putString inputSize (some device.uid)
  | some deviceModelUID => putString inputSize (createString creates kModelUID)
  | some objectOwnedObjects
  | some deviceStreams =>
      putValue inputSize (.numbers
        (if address.mScope = kAudioObjectPropertyScopeInput then [device.inputStreamObjectID]
        else if address.mScope = kAudioObjectPropertyScopeOutput then [device.outputStreamObjectID]
        else [device.inputStreamObjectID, device.outputStreamObjectID]))
  | some deviceTransportType => putValue inputSize (.number (fourCharCode 'v' 'i' 'r' 't'))
  | some deviceRelatedDevices => putValue inputSize (.number device.deviceObjectID)
  | some deviceClockDomain => putValue inputSize (.number 1)
  | some deviceDeviceIsAlive
  | some deviceDeviceCanBeDefaultDevice
  | some deviceDeviceCanBeDefaultSystemDevice
  | some deviceClockIsStable => putValue inputSize (.number 1)
  | some deviceDeviceIsRunning =>
      putValue inputSize (.number (if device.runningClients > 0 then 1 else 0))
  | some deviceLatency =>
      putValue inputSize (.number
        (if address.mScope = kAudioObjectPropertyScopeInput then kLoopbackLatencyFrames.toUInt32
        else 0))
  | some deviceSafetyOffset => putValue inputSize (.number 0)
  | some objectControlList => .ok ⟨0, .numbers []⟩
  | some deviceNominalSampleRate => putValue inputSize (.float64 device.sampleRate)
  | some deviceAvailableNominalSampleRates =>
      putValue inputSize (.valueRange device.sampleRate device.sampleRate)
  | some deviceIsHidden => putValue inputSize (.number 0)
  | some devicePreferredChannelsForStereo =>
      let availableChannels := channelsForScope device address.mScope
      putValue inputSize (.numbers [1, if availableChannels ≥ 2 then 2 else 1])
  | some deviceStreamConfiguration =>
      putValue inputSize (.bufferList (channelsForScope device address.mScope))
  | some deviceZeroTimeStampPeriod => putValue inputSize (.number kZeroTimeStampPeriod)
  | some deviceBufferFrameSize => putValue inputSize (.number kBufferFrameSize)
  | some deviceBufferFrameSizeRange =>
      putValue inputSize (.valueRange kBufferFrameSize kBufferFrameSize)
  | _ => .error .unknownProperty

def streamData (device : Device) (input isActive : Bool) (address : AudioObjectPropertyAddress)
    (inputSize : UInt32) : Except PropertyError PropertyOutput :=
  match address.selector with
  | some objectBaseClass => putValue inputSize (.number (fourCharCode 'a' 'o' 'b' 'j'))
  | some objectClass => putValue inputSize (.number (fourCharCode 'a' 's' 't' 'r'))
  | some objectOwner => putValue inputSize (.number device.deviceObjectID)
  | some objectOwnedObjects => .ok ⟨0, .numbers []⟩
  | some streamIsActive => putValue inputSize (.number (if isActive then 1 else 0))
  | some streamDirection => putValue inputSize (.number (if input then 1 else 0))
  | some streamTerminalType =>
      putValue inputSize (.number
        (if input then fourCharCode 'm' 'i' 'c' 'r' else fourCharCode 's' 'p' 'k' 'r'))
  | some streamStartingChannel => putValue inputSize (.number 1)
  | some deviceLatency =>
      putValue inputSize (.number (if input then kLoopbackLatencyFrames.toUInt32 else 0))
  | some streamVirtualFormat
  | some streamPhysicalFormat => putValue inputSize (.format (streamFormat device input))
  | some streamAvailableVirtualFormats
  | some streamAvailablePhysicalFormats =>
      putValue inputSize
        (.rangedFormat (streamFormat device input) device.sampleRate device.sampleRate)
  | _ => .error .unknownProperty

/-! ## The calls of the host -/

namespace StreamedDriver

def hasProperty (driver : StreamedDriver) (objectID : UInt32)
    (address : AudioObjectPropertyAddress) : Bool :=
  match driver.kindForObject objectID with
  | .plugIn => plugInHas address.selector
  | .device _ => deviceHas address.selector
  | .inputStream _ | .outputStream _ => streamHas address.selector
  | .invalid => false

def getPropertyDataSize (driver : StreamedDriver) (objectID : UInt32)
    (address : AudioObjectPropertyAddress) : Except PropertyError UInt32 :=
  match driver.kindForObject objectID with
  | .plugIn => plugInDataSize driver.toDriver address
  | .device _ => deviceDataSize address
  | .inputStream _ | .outputStream _ => streamDataSize address
  | .invalid => .error .badObject

def getPropertyData (driver : StreamedDriver) (creates : Bool) (objectID : UInt32)
    (address : AudioObjectPropertyAddress) (qualifierSize : UInt32) (qualifier : Option String)
    (inputSize : UInt32) : Except PropertyError PropertyOutput :=
  match driver.kindForObject objectID with
  | .plugIn =>
      plugInData driver.toDriver creates address qualifierSize qualifier inputSize
  | .device pointer => deviceData creates (driver.devices pointer) address inputSize
  | .inputStream pointer =>
      streamData (driver.devices pointer) true (driver.inputActive pointer) address inputSize
  | .outputStream pointer =>
      streamData (driver.devices pointer) false (driver.outputActive pointer) address inputSize
  | .invalid => .error .badObject

end StreamedDriver

end VCable
