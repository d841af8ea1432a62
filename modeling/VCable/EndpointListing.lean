import Mathlib.Data.List.Nodup
import VCable.EndpointIdentifiers

/-!
# When listing the devices succeeds

A refresh gives every device an endpoint on each side with channels, unless the
identifier of one is too long or two of them are the same.
-/

namespace VCable

open Std Utf8Text RoutingGraph

variable {F : Type} [SinglePrecision F]

/-! ## Devices -/

/-- Devices with distinct UIDs of a supported size, and supported rates. -/
structure Listable (devices : List AudioDevice) : Prop where
  uids_distinct : (devices.map AudioDevice.uid).Nodup
  uid_size : ∀ device ∈ devices, ¬ (device.uid.utf8ByteSize = 0 ∨ device.uid.utf8ByteSize > 255)
  rate : ∀ device ∈ devices, 8000 ≤ device.sampleRate ∧ device.sampleRate ≤ 768000

/-- Each UID fits into an identifier, and no two that have channels on one side
differ only in that escapes stand for bytes. -/
structure Encodable (devices : List AudioDevice) : Prop where
  size : ∀ device ∈ devices, ∀ direction, device.channels direction ≠ 0 →
    uidSize device.uid ≤ largestUid direction
  distinct : ∀ first ∈ devices, ∀ second ∈ devices, ∀ direction,
    first.channels direction ≠ 0 → second.channels direction ≠ 0 →
      uidEscaping.Alike (bytes first.uid) (bytes second.uid) → first.uid = second.uid

/-- Devices on sides with channels have distinct, valid identifiers. -/
structure Identified (devices : List AudioDevice) : Prop where
  valid : ∀ device ∈ devices, ∀ direction, device.channels direction ≠ 0 →
    isValidIdentifier (device.endpointId direction) = true
  distinct : ∀ first ∈ devices, ∀ second ∈ devices, ∀ direction otherDirection,
    first.channels direction ≠ 0 → second.channels otherDirection ≠ 0 →
      first.endpointId direction = second.endpointId otherDirection →
        first.uid = second.uid ∧ direction = otherDirection

theorem identified_iff {devices : List AudioDevice} : Identified devices ↔ Encodable devices := by
  constructor
  · intro identified
    refine ⟨fun device member direction channels => ?_,
      fun first firstMem second secondMem direction channels otherChannels alike => ?_⟩
    · rw [← isValidIdentifier_endpointId_iff, ← device.endpointId_eq]
      exact identified.valid device member direction channels
    · refine (identified.distinct first firstMem second secondMem direction direction channels
        otherChannels ?_).1
      rw [first.endpointId_eq, second.endpointId_eq]
      exact endpointId_eq_iff.mpr ⟨rfl, alike⟩
  · intro encodable
    refine ⟨fun device member direction channels => ?_,
      fun first firstMem second secondMem direction other channels otherChannels same => ?_⟩
    · rw [device.endpointId_eq, isValidIdentifier_endpointId_iff]
      exact encodable.size device member direction channels
    · rw [first.endpointId_eq, second.endpointId_eq] at same
      obtain ⟨rfl, alike⟩ := endpointId_eq_iff.mp same
      exact ⟨encodable.distinct first firstMem second secondMem direction channels otherChannels
        alike, rfl⟩

/-! ## Clock domains -/

theorem utf8ByteSize_toString (number : Nat) :
    (toString number).utf8ByteSize = (Nat.toDigits 10 number).length := by
  have ascii : ∀ character ∈ (toString number).toList, IsAscii character := fun character member =>
    isPrintable_isAscii (printable_natToString number character member)
  rw [← length_bytes, ← String.ofList_toList (s := toString number), bytes_ofList_of_ascii ascii,
    List.length_map]
  exact congrArg List.length Nat.toList_repr

/-- The clock domain of an object number always has a valid name. -/
theorem clockDomain_new (objectId : UInt32) :
    ∃ clock, ClockDomain.new ("coreaudio:" ++ toString objectId.toNat) = .ok clock ∧
      clock.value = "coreaudio:" ++ toString objectId.toNat := by
  have digits : (toString objectId.toNat).utf8ByteSize ≤ 10 := by
    rw [utf8ByteSize_toString]
    have below : objectId.toNat < 4294967296 := objectId.toNat_lt
    exact (Nat.length_toDigits_le_iff (by decide) (by decide)).mpr (by omega)
  have size : ("coreaudio:" ++ toString objectId.toNat).utf8ByteSize =
      10 + (toString objectId.toNat).utf8ByteSize := by
    rw [String.utf8ByteSize_append]
    rfl
  have valid : ¬ (("coreaudio:" ++ toString objectId.toNat).utf8ByteSize = 0 ∨
      ("coreaudio:" ++ toString objectId.toNat).utf8ByteSize > 255) := by
    omega
  exact ⟨⟨_, valid⟩, dif_neg valid, rfl⟩

/-! ## Adding endpoints -/

namespace Listed

variable {listed : Listed F} {described : AudioDevice → EndpointDescriptor → Prop}
  {device : AudioDevice}

/-- An endpoint whose identifier is valid and new is added. -/
theorem Holds.addEndpoint_ok (holds : listed.Holds described) (clock : ClockDomain)
    (direction : EndpointDirection)
    (size : ¬ (device.uid.utf8ByteSize = 0 ∨ device.uid.utf8ByteSize > 255))
    (rate : 8000 ≤ device.sampleRate ∧ device.sampleRate ≤ 768000)
    (valid : device.channels direction ≠ 0 →
      isValidIdentifier (device.endpointId direction) = true)
    (fresh : device.channels direction ≠ 0 → ∀ other endpoint, described other endpoint →
      endpoint.id.value ≠ device.endpointId direction) :
    ∃ next, listed.addEndpoint device clock direction = .ok next := by
  unfold Listed.addEndpoint
  split_ifs with channels
  · exact ⟨listed, rfl⟩
  have idNew : EndpointId.new (device.endpointId direction) =
      .ok ⟨device.endpointId direction, valid channels⟩ := StringId.new_eq_ok_iff.mpr rfl
  have absent : listed.graph.endpoints[(⟨device.endpointId direction, valid channels⟩ :
      EndpointId)]? = none := by
    by_contra present
    obtain ⟨endpoint, found⟩ := Option.ne_none_iff_exists'.mp present
    obtain ⟨sameId, other, old⟩ := (holds.endpoint_iff _ endpoint).mp found
    exact fresh channels other endpoint old (by rw [sameId])
  have added : listed.graph.addEndpoint
      { id := ⟨device.endpointId direction, valid channels⟩
        node := device.uid
        direction := direction
        channels := (device.channels direction).toNat
        sampleRate := device.sampleRate
        clockDomain := clock
        isLoopback := device.isVirtual } = .ok _ :=
    addEndpoint_eq_ok_iff.mpr
      ⟨fun zero => channels (UInt32.toNat_inj.mp zero), rate, size, absent, rfl⟩
  rw [idNew]
  dsimp only
  rw [added]
  exact ⟨_, rfl⟩

/-- A device whose identifiers are valid and new is added. -/
theorem Holds.addDevice_ok (holds : listed.Holds described)
    (size : ¬ (device.uid.utf8ByteSize = 0 ∨ device.uid.utf8ByteSize > 255))
    (rate : 8000 ≤ device.sampleRate ∧ device.sampleRate ≤ 768000)
    (valid : ∀ direction, device.channels direction ≠ 0 →
      isValidIdentifier (device.endpointId direction) = true)
    (fresh : ∀ direction, device.channels direction ≠ 0 → ∀ other endpoint,
      described other endpoint → endpoint.id.value ≠ device.endpointId direction) :
    ∃ next, listed.addDevice device = .ok next := by
  obtain ⟨clock, clockNew, clockEq⟩ := clockDomain_new device.objectId
  obtain ⟨half, halfAdded⟩ := holds.addEndpoint_ok clock .source size rate (valid .source)
    (fresh .source)
  have halfHolds := holds.addEndpoint clockEq halfAdded
  obtain ⟨next, added⟩ := halfHolds.addEndpoint_ok clock .sink size rate (valid .sink) (by
    rintro channels other endpoint (old | ⟨_, describes, side⟩)
    · exact fresh .sink channels other endpoint old
    · rw [describes.id_eq, side, device.endpointId_eq, device.endpointId_eq]
      intro same
      cases (endpointId_eq_iff.mp same).1)
  refine ⟨next, ?_⟩
  unfold Listed.addDevice
  rw [clockNew]
  dsimp only
  rw [halfAdded]
  exact added

/-- The devices after some listed ones are added. -/
theorem Holds.addDevices_ok {before devices : List AudioDevice} {listed : Listed F}
    (holds : listed.Holds fun device endpoint => device ∈ before ∧ device.Describes endpoint)
    (listable : Listable (before ++ devices)) (identified : Identified (before ++ devices)) :
    ∃ next, listed.addDevices devices = .ok next := by
  induction devices generalizing before listed with
  | nil => exact ⟨listed, rfl⟩
  | cons device devices ih =>
      have member : device ∈ before ++ device :: devices := by simp
      have newUid : ∀ other ∈ before, other.uid ≠ device.uid := by
        intro other old
        have distinct := listable.uids_distinct
        rw [List.map_append, List.nodup_append] at distinct
        exact distinct.2.2 other.uid (List.mem_map_of_mem old) device.uid (by simp)
      obtain ⟨extended, added⟩ := holds.addDevice_ok (listable.uid_size device member)
        (listable.rate device member) (identified.valid device member) (by
          rintro direction channels other endpoint ⟨old, describes⟩ same
          rw [describes.id_eq] at same
          exact newUid other old (identified.distinct other (by simp [old]) device member _
            direction describes.channels_ne_zero channels same).1)
      have more : before ++ device :: devices = (before ++ [device]) ++ devices := by simp
      rw [more] at listable identified
      have extendedHolds := (holds.addDevice added).congr fun other endpoint => show _ ↔
        other ∈ before ++ [device] ∧ other.Describes endpoint by
          rw [List.mem_append, List.mem_singleton, or_and_right]
          exact or_congr_right (and_congr_right_iff.mpr fun same => by rw [same])
      obtain ⟨next, rest⟩ := ih extendedHolds listable identified
      refine ⟨next, ?_⟩
      rw [Listed.addDevices, added]
      exact rest

/-! ## What a listing that goes through has checked -/

theorem valid_of_addEndpoint {listed next : Listed F} {clock : ClockDomain}
    {direction : EndpointDirection} (channels : device.channels direction ≠ 0)
    (added : listed.addEndpoint device clock direction = .ok next) :
    isValidIdentifier (device.endpointId direction) = true := by
  unfold Listed.addEndpoint at added
  rw [if_neg channels] at added
  cases idNew : EndpointId.new (device.endpointId direction) with
  | error failure =>
      rw [idNew] at added
      cases added
  | ok id =>
      have idEq : id.value = device.endpointId direction := StringId.new_eq_ok_iff.mp idNew
      exact idEq ▸ id.valid

theorem valid_of_addDevices {devices : List AudioDevice} {listed next : Listed F}
    (added : listed.addDevices devices = .ok next) (member : device ∈ devices)
    {direction : EndpointDirection} (channels : device.channels direction ≠ 0) :
    isValidIdentifier (device.endpointId direction) = true := by
  induction devices generalizing listed with
  | nil => cases member
  | cons first devices ih =>
      unfold Listed.addDevices at added
      split at added
      · cases added
      rename_i extended firstAdded
      rcases List.mem_cons.mp member with rfl | later
      · unfold Listed.addDevice at firstAdded
        split at firstAdded
        · cases firstAdded
        split at firstAdded
        · cases firstAdded
        rename_i half halfAdded
        cases direction with
        | source => exact valid_of_addEndpoint channels halfAdded
        | sink => exact valid_of_addEndpoint channels firstAdded
      · exact ih added later

end Listed

/-! ## The listing -/

/-- The graph has exactly one endpoint for each device and side with channels. -/
structure OneEach (devices : List AudioDevice) (listed : Listed F) : Prop where
  endpoint : ∀ device ∈ devices, ∀ direction, device.channels direction ≠ 0 →
    ∃! endpoint, endpoint ∈ listed.graph.endpoints.valuesInOrder ∧
      endpoint.node = device.uid ∧ endpoint.direction = direction
  device : ∀ endpoint ∈ listed.graph.endpoints.valuesInOrder,
    ∃ device ∈ devices, device.channels endpoint.direction ≠ 0 ∧ endpoint.node = device.uid

theorem Listed.Holds.mem_iff {listed : Listed F}
    {described : AudioDevice → EndpointDescriptor → Prop} (holds : listed.Holds described)
    {endpoint : EndpointDescriptor} :
    endpoint ∈ listed.graph.endpoints.valuesInOrder ↔ ∃ device, described device endpoint := by
  rw [ExtTreeMap.mem_valuesInOrder]
  constructor
  · rintro ⟨key, found⟩
    exact ((holds.endpoint_iff key endpoint).mp found).2
  · exact fun description => ⟨endpoint.id, (holds.endpoint_iff _ endpoint).mpr ⟨rfl, description⟩⟩

/-- A device with a valid identifier has an endpoint. -/
theorem AudioDevice.exists_describes {device : AudioDevice} {direction : EndpointDirection}
    (channels : device.channels direction ≠ 0)
    (valid : isValidIdentifier (device.endpointId direction) = true) :
    ∃ endpoint, device.Describes endpoint ∧ endpoint.direction = direction := by
  obtain ⟨clock, _, clockEq⟩ := clockDomain_new device.objectId
  exact ⟨
    { id := ⟨device.endpointId direction, valid⟩
      node := device.uid
      direction := direction
      channels := (device.channels direction).toNat
      sampleRate := device.sampleRate
      clockDomain := clock
      isLoopback := device.isVirtual },
    ⟨channels, rfl, rfl, rfl, rfl, clockEq, rfl⟩, rfl⟩

theorem Listed.Holds.oneEach {devices : List AudioDevice} {listed : Listed F}
    (holds : listed.Holds fun device endpoint => device ∈ devices ∧ device.Describes endpoint)
    (listable : Listable devices) (identified : Identified devices) : OneEach devices listed where
  endpoint := by
    intro device member direction channels
    obtain ⟨endpoint, describes, side⟩ :=
      device.exists_describes channels (identified.valid device member direction channels)
    refine ⟨endpoint, ⟨holds.mem_iff.mpr ⟨device, member, describes⟩, describes.node_eq, side⟩, ?_⟩
    rintro other ⟨otherMem, node, otherSide⟩
    obtain ⟨owner, ownerMem, ownerDescribes⟩ := holds.mem_iff.mp otherMem
    have sameUid : owner.uid = device.uid := ownerDescribes.node_eq.symm.trans node
    obtain rfl := List.inj_on_of_nodup_map listable.uids_distinct ownerMem member sameUid
    exact ownerDescribes.unique describes (otherSide.trans side.symm)
  device := by
    intro endpoint member
    obtain ⟨device, listedMem, describes⟩ := holds.mem_iff.mp member
    exact ⟨device, listedMem, describes.channels_ne_zero, describes.node_eq⟩

/-- A listing that goes through has given the devices distinct, valid identifiers. -/
theorem identified_of_listEndpoints {devices : List AudioDevice} {listed : Listed F}
    (found : listEndpoints (.ok devices) = .ok listed) : Identified devices := by
  have valid : ∀ device ∈ devices, ∀ direction, device.channels direction ≠ 0 →
      isValidIdentifier (device.endpointId direction) = true :=
    fun device member direction channels => Listed.valid_of_addDevices found member channels
  obtain ⟨_, ⟨⟩, holds⟩ := listEndpoints_holds found
  refine ⟨valid, fun first firstMem second secondMem direction other channels otherChannels same =>
    ?_⟩
  obtain ⟨one, firstDescribes, side⟩ :=
    first.exists_describes channels (valid first firstMem direction channels)
  obtain ⟨two, secondDescribes, otherSide⟩ :=
    second.exists_describes otherChannels (valid second secondMem other otherChannels)
  have sameId : one.id = two.id := by
    refine StringId.ext ?_
    rw [firstDescribes.id_eq, secondDescribes.id_eq, side, otherSide, same]
  have foundOne := (holds.endpoint_iff one.id one).mpr ⟨rfl, first, firstMem, firstDescribes⟩
  have foundTwo := (holds.endpoint_iff one.id two).mpr
    ⟨sameId.symm, second, secondMem, secondDescribes⟩
  obtain rfl : one = two := Option.some.inj (foundOne.symm.trans foundTwo)
  exact ⟨firstDescribes.node_eq.symm.trans secondDescribes.node_eq, side.symm.trans otherSide⟩

/-- For devices with distinct UIDs of a supported size and supported rates, a
refresh succeeds with exactly one endpoint for each device and side with
channels, all under distinct, valid identifiers, if and only if every UID fits
into an identifier and no two on one side differ only in escapes; under no other
condition does it succeed at all. -/
theorem own_endpoints_iff (devices : List AudioDevice) (listable : Listable devices) :
    (((∃ listed : Listed F, listEndpoints (.ok devices) = .ok listed ∧ OneEach devices listed) ∧
      Identified devices) ↔ Encodable devices) ∧
    ((∃ listed : Listed F, listEndpoints (.ok devices) = .ok listed) ↔ Encodable devices) := by
  rw [← identified_iff]
  have succeeds (identified : Identified devices) :
      ∃ listed : Listed F, listEndpoints (.ok devices) = .ok listed ∧ OneEach devices listed := by
    have start : (Listed.empty : Listed F).Holds fun device endpoint =>
        device ∈ [] ∧ device.Describes endpoint := Listed.Holds.empty.congr (by simp)
    obtain ⟨listed, added⟩ := start.addDevices_ok listable identified
    have found : listEndpoints (.ok devices) = .ok listed := added
    obtain ⟨_, ⟨⟩, holds⟩ := listEndpoints_holds found
    exact ⟨listed, found, holds.oneEach listable identified⟩
  refine ⟨⟨And.right, fun identified => ⟨succeeds identified, identified⟩⟩, ?_, fun identified => ?_⟩
  · rintro ⟨listed, found⟩
    exact identified_of_listEndpoints found
  · obtain ⟨listed, found, -⟩ := succeeds identified
    exact ⟨listed, found⟩

theorem own_endpoints_iff_microphone :
    (((∃ listed : Listed ℚ, listEndpoints (.ok [microphone, speaker]) = .ok listed ∧
      OneEach [microphone, speaker] listed) ∧ Identified [microphone, speaker]) ↔
        Encodable [microphone, speaker]) ∧
    ((∃ listed : Listed ℚ, listEndpoints (.ok [microphone, speaker]) = .ok listed) ↔
      Encodable [microphone, speaker]) :=
  own_endpoints_iff [microphone, speaker] ⟨by decide, by decide, by decide⟩

/-- Two devices whose UIDs differ, one by an underscore and two digits. -/
def clashingDevices : List AudioDevice :=
  [{ microphone with uid := "USB Mic" }, { microphone with uid := "USB_20Mic" }]

/-- Distinct UIDs with one identifier: the refresh fails. -/
theorem clashing_devices_refused :
    Listable clashingDevices ∧
      endpointId "USB Mic" "input" = endpointId "USB_20Mic" "input" ∧
      ¬ ∃ listed : Listed ℚ, listEndpoints (.ok clashingDevices) = .ok listed := by
  refine ⟨⟨by decide, by decide, by decide⟩, by decide +kernel, ?_⟩
  rintro ⟨listed, found⟩
  have refused : (listEndpoints (F := ℚ) (.ok clashingDevices)).toOption.isNone = true := by
    decide +kernel
  rw [found] at refused
  cases refused

end VCable
