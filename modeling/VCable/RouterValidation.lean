import VCable.DeletionGuard
import VCable.RouterWiring
import VCable.RoutingConsistency

/-!
# The routes that the daemon hands to the router

The daemon makes the routes of its router from its graph and the devices of a
listing.  `AudioRouter::start` lists the devices again and checks the routes
against them, so all that it can find wrong is what has changed since.
-/

namespace VCable

open Std RoutingGraph Relation

variable {F : Type} [SinglePrecision F]

theorem ChannelMatrix.isFinite_of_mem {matrix : ChannelMatrix F} {value : F}
    (member : value ∈ matrix.coefficients) : SinglePrecision.isFinite value = true :=
  matrix.finite_coefficients value member

/-- A route of the graph becomes a well-formed route between devices of the listing. -/
theorem audioRoute_wellFormed {devices : List AudioDevice} {listed : Listed F}
    {graph : RoutingGraph F} {route : Route F} (found : listEndpoints (.ok devices) = .ok listed)
    (wellFormed : graph.WellFormed) (endpoints : graph.endpoints = listed.graph.endpoints)
    (member : route ∈ graph.routes.valuesInOrder) :
    ∃ audio, audioRoute listed.endpointDevices route = .ok audio ∧ audio.WellFormed ∧
      ((devices.map AudioDevice.objectId).Nodup → audio.Available (devicesById devices)) := by
  obtain ⟨source, sink, matched⟩ := wellFormed.route_matches route member
  obtain ⟨sourceChannels, sourceRate, _⟩ := wellFormed.endpoint_valid source
    (ExtTreeMap.mem_valuesInOrder.mpr ⟨_, matched.source_found⟩)
  obtain ⟨sinkChannels, sinkRate, _⟩ := wellFormed.endpoint_valid sink
    (ExtTreeMap.mem_valuesInOrder.mpr ⟨_, matched.sink_found⟩)
  rw [endpoints] at matched
  obtain ⟨_, ⟨⟩, holds⟩ := listEndpoints_holds found
  obtain ⟨sourceId, sourceDevice, sourceMem, sourceDescribes⟩ :=
    (holds.endpoint_iff _ _).mp matched.source_found
  obtain ⟨sinkId, sinkDevice, sinkMem, sinkDescribes⟩ :=
    (holds.endpoint_iff _ _).mp matched.sink_found
  have sourceFound := (holds.device_iff route.source.value sourceDevice).mpr
    ⟨source, ⟨sourceMem, sourceDescribes⟩, by rw [sourceId]⟩
  have sinkFound := (holds.device_iff route.sink.value sinkDevice).mpr
    ⟨sink, ⟨sinkMem, sinkDescribes⟩, by rw [sinkId]⟩
  have inputs := sourceDescribes.channels_eq
  have outputs := sinkDescribes.channels_eq
  rw [matched.source_direction] at inputs
  rw [matched.sink_direction] at outputs
  have nonzero : ∀ {rate : UInt32}, 8000 ≤ rate → rate ≠ 0 := by
    rintro _ large rfl
    exact absurd large (by decide)
  refine ⟨
    { sourceDeviceId := sourceDevice.objectId
      sinkDeviceId := sinkDevice.objectId
      sourceChannels := sourceDevice.inputChannels
      sinkChannels := sinkDevice.outputChannels
      sourceSampleRate := sourceDevice.sampleRate
      sinkSampleRate := sinkDevice.sampleRate
      matrix := route.matrix.coefficients
      gain := route.gain }, ?_, ?_, fun distinct => ⟨⟨sourceDevice, ?_, rfl, rfl⟩,
        ⟨sinkDevice, ?_, rfl, rfl⟩⟩⟩
  · rw [audioRoute, sourceFound, sinkFound]
    rfl
  · exact
      { source_channels := fun none => sourceChannels (inputs.trans (congrArg UInt32.toNat none))
        sink_channels := fun none => sinkChannels (outputs.trans (congrArg UInt32.toNat none))
        matrix_length := by
          rw [route.matrix.length_coefficients, matched.inputs, matched.outputs, inputs, outputs,
            Nat.mul_comm]
          rfl
        matrix_finite := fun _ => ChannelMatrix.isFinite_of_mem
        gain_finite := matched.gain_finite
        source_rate := nonzero (sourceDescribes.rate_eq ▸ sourceRate)
        sink_rate := nonzero (sinkDescribes.rate_eq ▸ sinkRate) }
  · exact (ExtTreeMap.getElem?_insertAll_empty distinct).mpr ⟨sourceMem, rfl⟩
  · exact (ExtTreeMap.getElem?_insertAll_empty distinct).mpr ⟨sinkMem, rfl⟩

/-- What the checks of the router come to for the routes of a daemon. -/
def RefusedForDevices (routes : List (AudioRoute F))
    (listing : Except CoreAudioError (List AudioDevice)) :
    Except CoreAudioError (List (RouterContext F)) → Prop
  | .ok contexts => WiredFor routes contexts ∧ ∃ devices, listing = .ok devices ∧
      ∀ route ∈ routes, route.Available (devicesById devices)
  | .error failure => listing = .error failure ∨ ∃ devices, listing = .ok devices ∧
      ∃ route ∈ routes, ¬ route.Available (devicesById devices) ∧ failure ∈ route.deviceErrors

theorem wireRouter_refusedForDevices {routes : List (AudioRoute F)}
    (wellFormed : ∀ route ∈ routes, route.WellFormed)
    (listing : Except CoreAudioError (List AudioDevice)) :
    RefusedForDevices routes listing (wireRouter listing routes) := by
  have wiring := router_wiring listing routes
  cases checked : validateRoutes listing routes with
  | error failure =>
      rw [checked] at wiring
      rw [wiring]
      cases listing with
      | error cause =>
          cases checked
          exact Or.inl rfl
      | ok devices =>
          obtain ⟨route, member, refused⟩ := validateEach_eq_error checked
          obtain ⟨own, unavailable⟩ := (wellFormed route member).validateRoute_eq_error refused
          exact Or.inr ⟨devices, rfl, route, member, unavailable, own⟩
  | ok done =>
      rw [checked] at wiring
      obtain ⟨contexts, wired, wiredFor⟩ := wiring
      rw [wired]
      cases listing with
      | error cause => cases checked
      | ok devices =>
          refine ⟨wiredFor, devices, rfl, fun route member => ?_⟩
          exact (validateRoute_eq_ok_iff.mp
            (validateEach_eq_ok_iff.mp checked route member)).2

/-- In every state of every run of a daemon, the router can refuse its routes
only because the devices cannot be listed, or because those of a route are gone
or have changed; otherwise it is wired.  The listing that the endpoints come
from is accepted, if its identifiers are distinct. -/
theorem daemon_routes_refused_for_devices {path : DiskPath} {fault : Option IoError} {disk : Disk}
    {loaded started world : World F} {phase : Phase} (loads : load path fault disk = .ok loaded)
    (starts : bringUp phase loaded = (.ok (), started))
    (run : ReflTransGen HandleStep started world) :
    ∃ routes, world.graph.routes.valuesInOrder.mapM (audioRoute world.endpointDevices) =
        .ok routes ∧
      (∀ listing, RefusedForDevices routes listing (wireRouter listing routes)) ∧
        ∃ devices, Lists devices world ∧ ((devices.map AudioDevice.objectId).Nodup →
          ∃ contexts, wireRouter (.ok devices) routes = .ok contexts) := by
  obtain ⟨devices, listed, operations, found, built, endpoints, same⟩ :=
    listingInvariant_fromListing.run (listingInvariant_fromListing.started loads starts) run
  have wellFormed : world.graph.WellFormed := by
    rw [built, called_eq_run]
    exact run_wellFormed operations
  obtain ⟨routes, mapped, _, each⟩ := mapM_eq_ok fun route member =>
    audioRoute_wellFormed found wellFormed endpoints member
  rw [← same] at mapped
  have formed : ∀ route ∈ routes, route.WellFormed := by
    intro route member
    obtain ⟨_, _, formed, _⟩ := each route member
    exact formed
  refine ⟨routes, mapped, wireRouter_refusedForDevices formed, devices, ?_, fun distinct => ?_⟩
  · obtain ⟨_, ⟨⟩, holds⟩ := listEndpoints_holds found
    rw [Lists, endpoints, same, ← listEndpoints_graph found]
    exact holds
  · have accepted : validateRoutes (.ok devices) routes = .ok () := by
      refine validateEach_eq_ok_iff.mpr fun route member => validateRoute_eq_ok_iff.mpr ?_
      obtain ⟨_, _, formed, available⟩ := each route member
      exact ⟨formed, available distinct⟩
    have wiring := router_wiring (.ok devices) routes
    rw [accepted] at wiring
    obtain ⟨contexts, wired, _⟩ := wiring
    exact ⟨contexts, wired⟩

/-- The daemon that has connected the cable. -/
theorem daemon_routes_refused_for_devices_cable :
    ∃ routes, cableWorld.graph.routes.valuesInOrder.mapM (audioRoute cableWorld.endpointDevices) =
        .ok routes ∧
      (∀ listing, RefusedForDevices routes listing (wireRouter listing routes)) ∧
        ∃ devices, Lists devices cableWorld ∧ ((devices.map AudioDevice.objectId).Nodup →
          ∃ contexts, wireRouter (.ok devices) routes = .ok contexts) :=
  @daemon_routes_refused_for_devices _ _ [.rootDir, .normal "state"] none ⟨fun _ => none⟩
    (restoredWorld [] .empty none) startedWorld _ (smoothPhase [monoCable, speaker]) rfl
    (Prod.ext (by decide +kernel) rfl) cableWorld_run

end VCable
