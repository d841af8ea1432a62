import VCable.DriverProperties

/-!
# The property tables of the driver agree

A property that an object has has data of a known size, and the data fit into
that size.  The tables agree for each kind of object, with one exception: for
a scope other than the three known ones, the size of the streams of a device is
the size of none, while the data are those of both.
-/

namespace VCable

open Selector

/-- What the three tables say about a property of an object. -/
structure Agrees (has : Bool) (dataSize : Except PropertyError UInt32)
    (data : UInt32 → Except PropertyError PropertyOutput) : Prop where
  has_iff : has = true ↔ ∃ size, dataSize = .ok size
  fits : ∀ size, dataSize = .ok size → ∃ value, data size = .ok ⟨size, value⟩

section Rules

variable {size : UInt32} {data : UInt32 → Except PropertyError PropertyOutput}
  {failure : PropertyError}

theorem agrees_ok {value : PropertyValue} (written : data size = .ok ⟨size, value⟩) :
    Agrees true (.ok size) data where
  has_iff := iff_of_true rfl ⟨size, rfl⟩
  fits := by
    rintro _ ⟨⟩
    exact ⟨value, written⟩

theorem agrees_error : Agrees false (.error failure) data where
  has_iff := iff_of_false nofun nofun
  fits := nofun

theorem putValue_size (value : PropertyValue) :
    putValue (UInt32.ofNat value.size) value = .ok ⟨UInt32.ofNat value.size, value⟩ :=
  if_neg (UInt32.lt_irrefl _)

theorem agrees_putValue (value : PropertyValue) :
    Agrees true (.ok (UInt32.ofNat value.size)) fun inputSize => putValue inputSize value :=
  agrees_ok (putValue_size value)

/-- A list that is cut where the output ends reaches that end. -/
theorem agrees_cut (length : Nat) (values : UInt32 → PropertyValue) :
    Agrees true (.ok (UInt32.ofNat (length * 4))) fun inputSize =>
      .ok ⟨UInt32.ofNat (min length (inputSize.toNat / 4) * 4), values inputSize⟩ := by
  have reached : UInt32.ofNat (min length ((UInt32.ofNat (length * 4)).toNat / 4) * 4) =
      UInt32.ofNat (length * 4) := by
    apply UInt32.toNat_inj.mp
    simp only [UInt32.toNat_ofNat']
    omega
  refine @agrees_ok _ _ (values (UInt32.ofNat (length * 4))) ?_
  rw [reached]

end Rules

section Tables

variable (driver : Driver) (device : Device) (address : AudioObjectPropertyAddress)

theorem plugIn_agrees (uid : String) :
    Agrees (plugInHas address.selector) (plugInDataSize driver address)
      fun inputSize => plugInData driver true address 8 (some uid) inputSize := by
  unfold plugInDataSize plugInData
  cases address.selector with
  | none => exact agrees_error
  | some selector =>
      cases selector with
      | objectOwnedObjects | plugInDeviceList => exact agrees_cut _ _
      | plugInTranslateUIDToDevice =>
          simp only [ne_eq, not_true_eq_false, if_false]
          cases driver.findByUIDLocked uid with
          | none => exact agrees_putValue (.number 0)
          | some pointer => exact agrees_putValue (.number _)
      | plugInBoxList => exact agrees_ok rfl
      | objectCustomPropertyInfoList => exact agrees_putValue (.customPropertyInfos [_, _])
      | objectBaseClass | objectClass | objectOwner => exact agrees_putValue (.number _)
      | objectManufacturer | plugInBundleID | plugInResourceBundle | vCableControl
      | vCableStatus => exact agrees_putValue (.string _)
      | _ => exact agrees_error

theorem stream_agrees (input isActive : Bool) :
    Agrees (streamHas address.selector) (streamDataSize address) (streamData device input isActive
      address) := by
  unfold streamDataSize streamData
  cases address.selector with
  | none => exact agrees_error
  | some selector =>
      cases selector with
      | objectOwnedObjects => exact agrees_ok rfl
      | objectBaseClass | objectClass | objectOwner | streamIsActive | streamDirection
      | streamTerminalType | streamStartingChannel | deviceLatency =>
          exact agrees_putValue (.number _)
      | streamVirtualFormat | streamPhysicalFormat => exact agrees_putValue (.format _)
      | streamAvailableVirtualFormats | streamAvailablePhysicalFormats =>
          exact agrees_putValue (.rangedFormat _ _ _)
      | _ => exact agrees_error

/-- The scopes that `StreamCountForScope` knows. -/
def KnownScope (mScope : UInt32) : Prop :=
  mScope = kAudioObjectPropertyScopeGlobal ∨ mScope = kAudioObjectPropertyScopeInput ∨
    mScope = kAudioObjectPropertyScopeOutput

instance : DecidablePred KnownScope := fun _ => inferInstanceAs (Decidable (_ ∨ _))

/-- The streams that `DeviceData` writes. -/
def streamsForScope (device : Device) (address : AudioObjectPropertyAddress) : List UInt32 :=
  if address.mScope = kAudioObjectPropertyScopeInput then [device.inputStreamObjectID]
  else if address.mScope = kAudioObjectPropertyScopeOutput then [device.outputStreamObjectID]
  else [device.inputStreamObjectID, device.outputStreamObjectID]

theorem streams_agree_iff :
    Agrees true (.ok (streamCountForScope address * 4))
        (fun inputSize => putValue inputSize (.numbers (streamsForScope device address))) ↔
      KnownScope address.mScope := by
  unfold streamCountForScope streamsForScope KnownScope
  by_cases globally : address.mScope = kAudioObjectPropertyScopeGlobal
  · have outside : address.mScope ≠ kAudioObjectPropertyScopeInput ∧
        address.mScope ≠ kAudioObjectPropertyScopeOutput := by rw [globally]; decide
    rw [if_pos globally, if_neg outside.1, if_neg outside.2]
    exact iff_of_true (agrees_putValue (.numbers [_, _])) (Or.inl globally)
  · rw [if_neg globally]
    by_cases inputs : address.mScope = kAudioObjectPropertyScopeInput
    · rw [if_pos (Or.inl inputs), if_pos inputs]
      exact iff_of_true (agrees_putValue (.numbers [_])) (Or.inr (Or.inl inputs))
    · rw [if_neg inputs]
      by_cases outputs : address.mScope = kAudioObjectPropertyScopeOutput
      · rw [if_pos (Or.inr outputs), if_pos outputs]
        exact iff_of_true (agrees_putValue (.numbers [_])) (Or.inr (Or.inr outputs))
      · rw [if_neg (not_or.mpr ⟨inputs, outputs⟩), if_neg outputs]
        -- No bytes are asked for, and eight are needed.
        refine iff_of_false (fun agrees => ?_) fun known =>
          known.elim globally fun side => side.elim inputs outputs
        obtain ⟨value, written⟩ := agrees.fits (0 * 4) rfl
        have small : (0 * 4 : UInt32) < 8 := by decide
        unfold putValue at written
        cases (if_pos small).symm.trans written

/-- A property whose data are a list of the device's streams. -/
def ListsStreams (address : AudioObjectPropertyAddress) : Prop :=
  address.selector = some objectOwnedObjects ∨ address.selector = some deviceStreams

instance : DecidablePred ListsStreams := fun _ => inferInstanceAs (Decidable (_ ∨ _))

theorem device_agrees (other : ¬ ListsStreams address) :
    Agrees (deviceHas address.selector) (deviceDataSize address)
      (deviceData true device address) := by
  unfold ListsStreams at other
  unfold deviceDataSize deviceData
  cases chosen : address.selector with
  | none => exact agrees_error
  | some selector =>
      rw [chosen] at other
      cases selector with
      | objectOwnedObjects => exact absurd (Or.inl rfl) other
      | deviceStreams => exact absurd (Or.inr rfl) other
      | objectControlList => exact agrees_ok rfl
      | objectBaseClass | objectClass | objectOwner | deviceTransportType | deviceRelatedDevices
      | deviceClockDomain | deviceDeviceIsAlive | deviceDeviceIsRunning
      | deviceDeviceCanBeDefaultDevice | deviceDeviceCanBeDefaultSystemDevice | deviceLatency
      | deviceSafetyOffset | deviceIsHidden | deviceZeroTimeStampPeriod | deviceClockIsStable
      | deviceBufferFrameSize => exact agrees_putValue (.number _)
      | objectName | objectManufacturer | deviceDeviceUID | deviceModelUID =>
          exact agrees_putValue (.string _)
      | deviceNominalSampleRate => exact agrees_putValue (.float64 _)
      | deviceAvailableNominalSampleRates | deviceBufferFrameSizeRange =>
          exact agrees_putValue (.valueRange _ _)
      | devicePreferredChannelsForStereo => exact agrees_putValue (.numbers [_, _])
      | deviceStreamConfiguration => exact agrees_putValue (.bufferList _)
      | _ => exact agrees_error

theorem device_agrees_iff :
    Agrees (deviceHas address.selector) (deviceDataSize address)
        (deviceData true device address) ↔
      (ListsStreams address → KnownScope address.mScope) := by
  by_cases streams : ListsStreams address
  · rw [forall_prop_of_true streams, ← streams_agree_iff device]
    unfold deviceDataSize deviceData
    rcases streams with chosen | chosen
    · rw [chosen]
      rfl
    · rw [chosen]
      rfl
  · exact iff_of_true (device_agrees device address streams) fun lists => absurd lists streams

end Tables

/-! ## The calls of the host -/

namespace StreamedDriver

/-- The three calls agree on a property of an object. -/
def CallsAgree (driver : StreamedDriver) (objectID : UInt32) (address : AudioObjectPropertyAddress)
    (uid : String) : Prop :=
  (driver.hasProperty objectID address = true ↔
    ∃ size, driver.getPropertyDataSize objectID address = .ok size) ∧
  ∀ size, driver.getPropertyDataSize objectID address = .ok size →
    ∃ value, driver.getPropertyData true objectID address 8 (some uid) size = .ok ⟨size, value⟩

/-- The calls agree on all properties, except for the streams of a device in a
scope that is neither the global one nor that of its input or output. -/
theorem callsAgree_iff (driver : StreamedDriver) (objectID : UInt32)
    (address : AudioObjectPropertyAddress) (uid : String) :
    driver.CallsAgree objectID address uid ↔
      ((∃ pointer, driver.kindForObject objectID = .device pointer) → ListsStreams address →
        KnownScope address.mScope) := by
  have agrees_iff : ∀ {has : Bool} {dataSize : Except PropertyError UInt32}
      {data : UInt32 → Except PropertyError PropertyOutput}, Agrees has dataSize data ↔
        (has = true ↔ ∃ size, dataSize = .ok size) ∧
          ∀ size, dataSize = .ok size → ∃ value, data size = .ok ⟨size, value⟩ :=
    ⟨fun agrees => ⟨agrees.has_iff, agrees.fits⟩, fun agrees => ⟨agrees.1, agrees.2⟩⟩
  unfold CallsAgree hasProperty getPropertyDataSize getPropertyData
  cases driver.kindForObject objectID with
  | invalid =>
      exact iff_of_true (agrees_iff.mp agrees_error) fun device => nomatch device
  | plugIn =>
      exact iff_of_true (agrees_iff.mp (plugIn_agrees driver.toDriver address uid))
        fun device => nomatch device
  | device pointer =>
      refine agrees_iff.symm.trans ((device_agrees_iff _ address).trans ?_)
      exact ⟨fun known _ => known, fun known => known ⟨pointer, rfl⟩⟩
  | inputStream pointer =>
      exact iff_of_true (agrees_iff.mp (stream_agrees _ address true _))
        fun device => nomatch device
  | outputStream pointer =>
      exact iff_of_true (agrees_iff.mp (stream_agrees _ address false _))
        fun device => nomatch device

/-- A driver with one device. -/
def cableDriver : StreamedDriver where
  toDriver := (({ Driver.loaded none with hosted := true } : Driver).appendDevice
    ⟨0, "cable", "Cable", 2, 2, 48000, true, false, 0, 0⟩).publishDevice 0
  inputActive := fun _ => true
  outputActive := fun _ => true

/-- The streams of the device in the scope for playing through. -/
def playThroughStreams : AudioObjectPropertyAddress where
  mSelector := deviceStreams.code
  mScope := fourCharCode 'p' 't' 'r' 'u'
  mElement := 0

/-- The data do not fit into the size that the driver has given for them. -/
theorem streams_do_not_fit :
    cableDriver.kindForObject 100 = .device 0 ∧
      cableDriver.getPropertyDataSize 100 playThroughStreams = .ok 0 ∧
      cableDriver.getPropertyData true 100 playThroughStreams 8 (some "dev.vcable.device.cable") 0 =
        .error .badPropertySize ∧
      ¬ cableDriver.CallsAgree 100 playThroughStreams "dev.vcable.device.cable" := by
  have kind : cableDriver.kindForObject 100 = .device 0 := by decide
  have size : cableDriver.getPropertyDataSize 100 playThroughStreams = .ok 0 := by decide
  have refused : cableDriver.getPropertyData true 100 playThroughStreams 8
      (some "dev.vcable.device.cable") 0 = .error .badPropertySize := by decide
  refine ⟨kind, size, refused, fun agree => ?_⟩
  obtain ⟨value, written⟩ := agree.2 0 size
  cases refused.symm.trans written

end StreamedDriver

end VCable
