import VCable.Daemon
import VCable.RoutingGraphOrder

/-!
# The endpoints of the listed devices

After `refresh_endpoints` the graph has exactly the endpoints of the listed
devices, one for each side with channels, and the device of each endpoint is
the listed one.
-/

namespace VCable

open Std RoutingGraph

variable {F : Type} [SinglePrecision F]

/-- The endpoint is the one that the device has on its side. -/
structure AudioDevice.Describes (device : AudioDevice) (endpoint : EndpointDescriptor) : Prop where
  channels_ne_zero : device.channels endpoint.direction ≠ 0
  id_eq : endpoint.id.value = device.endpointId endpoint.direction
  node_eq : endpoint.node = device.uid
  channels_eq : endpoint.channels = (device.channels endpoint.direction).toNat
  rate_eq : endpoint.sampleRate = device.sampleRate
  clock_eq : endpoint.clockDomain.value = "coreaudio:" ++ toString device.objectId.toNat
  loopback_eq : endpoint.isLoopback = device.isVirtual

/-- A device has one endpoint on each side. -/
theorem AudioDevice.Describes.unique {device : AudioDevice} {first second : EndpointDescriptor}
    (one : device.Describes first) (other : device.Describes second)
    (sameSide : first.direction = second.direction) : first = second := by
  apply EndpointDescriptor.ext
  · apply StringId.ext
    rw [one.id_eq, other.id_eq, sameSide]
  · rw [one.node_eq, other.node_eq]
  · exact sameSide
  · rw [one.channels_eq, other.channels_eq, sameSide]
  · rw [one.rate_eq, other.rate_eq]
  · exact ClockDomain.ext (one.clock_eq.trans other.clock_eq.symm)
  · rw [one.loopback_eq, other.loopback_eq]

namespace Listed

/-- The listing has exactly the endpoints that `described` relates to a
device, and their devices. -/
structure Holds (listed : Listed F) (described : AudioDevice → EndpointDescriptor → Prop) :
    Prop where
  routes_eq : listed.graph.routes = ∅
  endpoint_iff : ∀ id endpoint, listed.graph.endpoints[id]? = some endpoint ↔
    endpoint.id = id ∧ ∃ device, described device endpoint
  device_iff : ∀ key device, listed.endpointDevices[key]? = some device ↔
    ∃ endpoint, described device endpoint ∧ endpoint.id.value = key

theorem Holds.congr {listed : Listed F} {described others : AudioDevice → EndpointDescriptor → Prop}
    (holds : listed.Holds described)
    (same : ∀ device endpoint, described device endpoint ↔ others device endpoint) :
    listed.Holds others := by
  have equal : described = others := funext fun device => funext fun endpoint =>
    propext (same device endpoint)
  exact equal ▸ holds

theorem Holds.empty : (empty : Listed F).Holds fun _ _ => False where
  routes_eq := rfl
  endpoint_iff := by simp [Listed.empty, RoutingGraph.empty]
  device_iff := by simp [Listed.empty]

/-- A new endpoint is added together with its device. -/
theorem Holds.insert {listed : Listed F} {described : AudioDevice → EndpointDescriptor → Prop}
    {device : AudioDevice} {new : EndpointDescriptor} (holds : listed.Holds described)
    (fresh : listed.graph.endpoints[new.id]? = none) :
    Holds (F := F)
      { graph := { listed.graph with endpoints := listed.graph.endpoints.insert new.id new }
        endpointDevices := listed.endpointDevices.insert new.id.value device }
      fun other endpoint => described other endpoint ∨ other = device ∧ endpoint = new where
  routes_eq := holds.routes_eq
  endpoint_iff := by
    intro id endpoint
    by_cases same : new.id = id
    · subst same
      have undescribed : ∀ device, ¬ (endpoint.id = new.id ∧ described device endpoint) := by
        rintro device ⟨sameId, old⟩
        have found := (holds.endpoint_iff new.id endpoint).mpr ⟨sameId, device, old⟩
        rw [fresh] at found
        cases found
      simp only [ExtTreeMap.getElem?_insert_self, Option.some.injEq]
      constructor
      · rintro rfl
        exact ⟨rfl, device, Or.inr ⟨rfl, rfl⟩⟩
      · rintro ⟨sameId, other, old | ⟨_, rfl⟩⟩
        · exact absurd ⟨sameId, old⟩ (undescribed other)
        · rfl
    · simp only [ExtTreeMap.getElem?_insert_of_ne same, holds.endpoint_iff]
      constructor
      · rintro ⟨sameId, other, old⟩
        exact ⟨sameId, other, Or.inl old⟩
      · rintro ⟨sameId, other, old | ⟨_, rfl⟩⟩
        · exact ⟨sameId, other, old⟩
        · exact absurd sameId same
  device_iff := by
    intro key other
    by_cases same : new.id.value = key
    · subst same
      simp only [ExtTreeMap.getElem?_insert_self, Option.some.injEq]
      constructor
      · rintro rfl
        exact ⟨new, Or.inr ⟨rfl, rfl⟩, rfl⟩
      · rintro ⟨endpoint, old | ⟨rfl, _⟩, sameKey⟩
        · have found := (holds.endpoint_iff new.id endpoint).mpr
            ⟨StringId.ext sameKey, other, old⟩
          rw [fresh] at found
          cases found
        · rfl
    · simp only [ExtTreeMap.getElem?_insert_of_ne same, holds.device_iff]
      constructor
      · rintro ⟨endpoint, old, sameKey⟩
        exact ⟨endpoint, Or.inl old, sameKey⟩
      · rintro ⟨endpoint, old | ⟨_, rfl⟩, sameKey⟩
        · exact ⟨endpoint, old, sameKey⟩
        · exact absurd sameKey same

theorem Holds.addEndpoint {listed next : Listed F}
    {described : AudioDevice → EndpointDescriptor → Prop} {device : AudioDevice}
    {clock : ClockDomain} {direction : EndpointDirection} (holds : listed.Holds described)
    (clockEq : clock.value = "coreaudio:" ++ toString device.objectId.toNat)
    (added : listed.addEndpoint device clock direction = .ok next) :
    next.Holds fun other endpoint => described other endpoint ∨
      other = device ∧ device.Describes endpoint ∧ endpoint.direction = direction := by
  unfold Listed.addEndpoint at added
  split at added
  · rename_i noChannels
    cases added
    apply holds.congr
    intro other endpoint
    constructor
    · exact Or.inl
    · rintro (old | ⟨_, describes, rfl⟩)
      · exact old
      · exact absurd noChannels describes.channels_ne_zero
  rename_i someChannels
  split at added
  · cases added
  rename_i id idNew
  have idEq : id.value = device.endpointId direction := StringId.new_eq_ok_iff.mp idNew
  split at added
  · cases added
  rename_i graph graphAdded
  cases added
  obtain ⟨_, _, _, fresh, rfl⟩ := addEndpoint_eq_ok_iff.mp graphAdded
  have describes : device.Describes
      { id := id
        node := device.uid
        direction := direction
        channels := (device.channels direction).toNat
        sampleRate := device.sampleRate
        clockDomain := clock
        isLoopback := device.isVirtual } :=
    ⟨someChannels, idEq, rfl, rfl, rfl, clockEq, rfl⟩
  have isNew : ∀ endpoint, device.Describes endpoint ∧ endpoint.direction = direction ↔
      endpoint = _ :=
    fun endpoint => ⟨fun both => both.1.unique describes both.2, fun same => by
      subst same
      exact ⟨describes, rfl⟩⟩
  rw [← idEq]
  refine (Holds.insert holds fresh).congr fun other endpoint => ?_
  rw [isNew endpoint]

theorem Holds.addDevice {listed next : Listed F}
    {described : AudioDevice → EndpointDescriptor → Prop} {device : AudioDevice}
    (holds : listed.Holds described) (added : listed.addDevice device = .ok next) :
    next.Holds fun other endpoint => described other endpoint ∨
      other = device ∧ device.Describes endpoint := by
  unfold Listed.addDevice at added
  split at added
  · cases added
  rename_i clock clockNew
  have clockEq : clock.value = "coreaudio:" ++ toString device.objectId.toNat := by
    unfold ClockDomain.new at clockNew
    split at clockNew
    · cases clockNew
    · cases clockNew
      rfl
  split at added
  · cases added
  rename_i half halfAdded
  refine ((holds.addEndpoint clockEq halfAdded).addEndpoint clockEq added).congr ?_
  intro other endpoint
  rw [or_assoc]
  refine or_congr_right ⟨?_, ?_⟩
  · rintro (⟨same, describes, _⟩ | ⟨same, describes, _⟩) <;> exact ⟨same, describes⟩
  · rintro ⟨same, describes⟩
    cases side : endpoint.direction with
    | source => exact Or.inl ⟨same, describes, rfl⟩
    | sink => exact Or.inr ⟨same, describes, rfl⟩

theorem Holds.addDevices {devices : List AudioDevice} {listed next : Listed F}
    {described : AudioDevice → EndpointDescriptor → Prop} (holds : listed.Holds described)
    (added : listed.addDevices devices = .ok next) :
    next.Holds fun device endpoint => described device endpoint ∨
      device ∈ devices ∧ device.Describes endpoint := by
  induction devices generalizing listed described with
  | nil =>
      cases added
      exact holds.congr (by simp)
  | cons first devices ih =>
      unfold Listed.addDevices at added
      split at added
      · cases added
      rename_i extended firstAdded
      refine (ih (holds.addDevice firstAdded) added).congr ?_
      intro device endpoint
      rw [or_assoc]
      refine or_congr_right ⟨?_, ?_⟩
      · rintro (⟨rfl, describes⟩ | ⟨later, describes⟩)
        · exact ⟨by simp, describes⟩
        · exact ⟨by simp [later], describes⟩
      · rintro ⟨member, describes⟩
        rcases List.mem_cons.mp member with rfl | later
        · exact Or.inl ⟨rfl, describes⟩
        · exact Or.inr ⟨later, describes⟩

end Listed

/-- A listing that goes through has the endpoints of its devices, and no
routes. -/
theorem listEndpoints_holds {listing : Except CoreAudioError (List AudioDevice)}
    {listed : Listed F} (found : listEndpoints listing = .ok listed) :
    ∃ devices, listing = .ok devices ∧
      listed.Holds fun device endpoint => device ∈ devices ∧ device.Describes endpoint := by
  cases listing with
  | error failure => cases found
  | ok devices =>
      exact ⟨devices, rfl, (Listed.Holds.empty.addDevices found).congr (by simp)⟩

theorem listEndpoints_graph {listing : Except CoreAudioError (List AudioDevice)}
    {listed : Listed F} (found : listEndpoints listing = .ok listed) :
    listed.graph = withoutRoutes listed.graph.endpoints := by
  obtain ⟨_, _, holds⟩ := listEndpoints_holds found
  have routesEq := holds.routes_eq
  cases graphEq : listed.graph with
  | mk endpoints routes =>
      rw [graphEq] at routesEq
      cases routesEq
      rfl

end VCable
