import VCable.DaemonInvariants
import VCable.RouterResampler
import VCable.RoutingGraphCalls

/-!
# Consistent routing graphs

Whatever methods are called on a graph, its endpoints and routes fit together.
In a daemon the channels of an endpoint are those of its device, so the router
gets a matrix of the right size for every route.
-/

namespace VCable

open Std RoutingGraph FallibleState Relation

variable {F : Type} [SinglePrecision F]

/-! ## The graph -/

/-- A route between two endpoints of a graph. -/
structure RouteConsistent (graph : RoutingGraph F) (route : Route F)
    (source sink : EndpointDescriptor) : Prop where
  source_found : graph.endpoints[route.source]? = some source
  sink_found : graph.endpoints[route.sink]? = some sink
  source_direction : source.direction = .source
  sink_direction : sink.direction = .sink
  dimensions : route.matrix.outputChannels = sink.channels ∧
    route.matrix.inputChannels = source.channels
  coefficients : route.matrix.coefficients.length = sink.channels * source.channels
  gain_finite : SinglePrecision.isFinite route.gain = true

/-- The keys are the identifiers, the endpoints are valid and the routes consistent. -/
structure GraphConsistent (graph : RoutingGraph F) : Prop where
  endpoint_key : ∀ (id : EndpointId) (endpoint : EndpointDescriptor),
    graph.endpoints[id]? = some endpoint → endpoint.id = id
  route_key : ∀ (id : RouteId) (route : Route F), graph.routes[id]? = some route → route.id = id
  endpoint : ∀ (id : EndpointId) (endpoint : EndpointDescriptor),
    graph.endpoints[id]? = some endpoint →
      1 ≤ endpoint.channels ∧ 8000 ≤ endpoint.sampleRate ∧ endpoint.sampleRate ≤ 768000
  route : ∀ (id : RouteId) (route : Route F), graph.routes[id]? = some route →
    ∃ source sink, RouteConsistent graph route source sink

theorem routeConsistent_of_matches {graph : RoutingGraph F} {route : Route F}
    {source sink : EndpointDescriptor} (matched : RouteMatches graph.endpoints route source sink) :
    RouteConsistent graph route source sink where
  source_found := matched.source_found
  sink_found := matched.sink_found
  source_direction := matched.source_direction
  sink_direction := matched.sink_direction
  dimensions := ⟨matched.outputs, matched.inputs⟩
  coefficients := by rw [route.matrix.length_coefficients, matched.outputs, matched.inputs]
  gain_finite := matched.gain_finite

theorem graphConsistent_of_wellFormed {graph : RoutingGraph F} (wellFormed : graph.WellFormed) :
    GraphConsistent graph where
  endpoint_key := fun id endpoint found => wellFormed.endpoints_keyed id endpoint found
  route_key := fun id route found => wellFormed.routes_keyed id route found
  endpoint := by
    intro id endpoint found
    obtain ⟨channels, rate⟩ := wellFormed.endpoint_valid endpoint
      (ExtTreeMap.mem_valuesInOrder.mpr ⟨id, found⟩)
    exact ⟨Nat.one_le_iff_ne_zero.mpr channels, rate⟩
  route := by
    intro id route found
    obtain ⟨source, sink, matched⟩ := wellFormed.route_matches route
      (ExtTreeMap.mem_valuesInOrder.mpr ⟨id, found⟩)
    exact ⟨source, sink, routeConsistent_of_matches matched⟩

/-! ## The router -/

/-- The graph was built by its methods on the endpoints of a listing, and the
devices are those of the same listing. -/
def FromListing (graph : RoutingGraph F) (endpointDevices : ExtTreeMap String AudioDevice) : Prop :=
  ∃ (devices : List AudioDevice) (listed : Listed F) (operations : List (Operation F)),
    listEndpoints (.ok devices) = .ok listed ∧ graph = called operations ∧
      graph.endpoints = listed.graph.endpoints ∧ endpointDevices = listed.endpointDevices

theorem called_append_singleton (operations : List (Operation F)) (operation : Operation F) :
    called (operations ++ [operation]) = (called operations).after operation := by
  rw [called_eq_run, called_eq_run, run_append_singleton]

/-- A listing calls `add_endpoint` for its endpoints. -/
theorem called_addDevices {devices : List AudioDevice} {listed next : Listed F}
    (built : ∃ operations, listed.graph = called operations)
    (added : listed.addDevices devices = .ok next) :
    ∃ operations, next.graph = called operations := by
  have one : ∀ {listed next : Listed F} {device : AudioDevice} {clock : ClockDomain}
      {direction : EndpointDirection}, (∃ operations, listed.graph = called operations) →
      listed.addEndpoint device clock direction = .ok next →
        ∃ operations, next.graph = called operations := by
    rintro listed next device clock direction ⟨operations, built⟩ added
    unfold Listed.addEndpoint at added
    split at added
    · cases added
      exact ⟨operations, built⟩
    split at added
    · cases added
    split at added
    · cases added
    · rename_i id _ _ extended accepted
      cases added
      refine ⟨operations ++ [.addEndpoint
        ⟨id, device.uid, direction, (device.channels direction).toNat, device.sampleRate, clock,
          device.isVirtual⟩], ?_⟩
      rw [called_append_singleton, ← built, RoutingGraph.after, RoutingGraph.apply, accepted]
  induction devices generalizing listed with
  | nil =>
      cases added
      exact built
  | cons device devices ih =>
      unfold Listed.addDevices at added
      split at added
      · cases added
      rename_i extended deviceAdded
      unfold Listed.addDevice at deviceAdded
      split at deviceAdded
      · cases deviceAdded
      split at deviceAdded
      · cases deviceAdded
      · rename_i half halfAdded
        exact ih (one (one built halfAdded) deviceAdded) added

/-- Every daemon has its graph and its devices from one listing. -/
theorem listingInvariant_fromListing : ListingInvariant (FromListing (F := F)) where
  listed := by
    intro listing listed found
    obtain ⟨devices, rfl, _⟩ := listEndpoints_holds found
    obtain ⟨operations, built⟩ := called_addDevices ⟨[], rfl⟩ found
    exact ⟨devices, listed, operations, found, built, rfl, rfl⟩
  added := by
    rintro graph extended route endpointDevices added
      ⟨devices, listed, operations, found, built, endpoints, same⟩
    refine ⟨devices, listed, operations ++ [.addRoute route], found, ?_,
      (addRoute_endpoints added).trans endpoints, same⟩
    rw [called_append_singleton, ← built, RoutingGraph.after, RoutingGraph.apply, added]

/-- The matrix of the route has a row of source channels for each sink channel. -/
structure MatrixInBounds (audio : AudioRoute F) : Prop where
  length : audio.matrix.length = audio.sourceChannels.toNat * audio.sinkChannels.toNat
  rows : ∀ incoming : IncomingRoute F, incoming.matrix = audio.matrix →
    incoming.sourceChannels = audio.sourceChannels.toNat →
      ∀ sinkChannel < audio.sinkChannels.toNat, (incoming.mixedSample sinkChannel).isSome

theorem matrixInBounds_of_length {audio : AudioRoute F}
    (length : audio.matrix.length = audio.sourceChannels.toNat * audio.sinkChannels.toNat) :
    MatrixInBounds audio where
  length := length
  rows := by
    intro incoming matrixEq channelsEq sinkChannel within
    refine IncomingRoute.mixedSample_isSome ?_
    rw [matrixEq, channelsEq, length, Nat.mul_comm]
    exact Nat.mul_le_mul_left _ within

/-- Both devices of a route are found, and have the channels of its endpoints. -/
theorem audioRoute_inBounds {devices : List AudioDevice} {listed : Listed F} {route : Route F}
    {source sink : EndpointDescriptor}
    (found : listEndpoints (.ok devices) = .ok listed)
    (matched : RouteMatches listed.graph.endpoints route source sink) :
    ∃ audio, audioRoute listed.endpointDevices route = .ok audio ∧ MatrixInBounds audio := by
  obtain ⟨_, _, holds⟩ := listEndpoints_holds found
  obtain ⟨sourceId, sourceDevice, sourceMem, sourceDescribes⟩ :=
    (holds.endpoint_iff _ _).mp matched.source_found
  obtain ⟨sinkId, sinkDevice, sinkMem, sinkDescribes⟩ :=
    (holds.endpoint_iff _ _).mp matched.sink_found
  have sourceFound := (holds.device_iff route.source.value sourceDevice).mpr
    ⟨source, ⟨sourceMem, sourceDescribes⟩, by rw [sourceId]⟩
  have sinkFound := (holds.device_iff route.sink.value sinkDevice).mpr
    ⟨sink, ⟨sinkMem, sinkDescribes⟩, by rw [sinkId]⟩
  refine ⟨
    { sourceDeviceId := sourceDevice.objectId
      sinkDeviceId := sinkDevice.objectId
      sourceChannels := sourceDevice.inputChannels
      sinkChannels := sinkDevice.outputChannels
      sourceSampleRate := sourceDevice.sampleRate
      sinkSampleRate := sinkDevice.sampleRate
      matrix := route.matrix.coefficients
      gain := route.gain }, ?_, matrixInBounds_of_length ?_⟩
  · rw [audioRoute, sourceFound, sinkFound]
    rfl
  · have inputs := sourceDescribes.channels_eq
    have outputs := sinkDescribes.channels_eq
    rw [matched.source_direction] at inputs
    rw [matched.sink_direction] at outputs
    change route.matrix.coefficients.length =
      sourceDevice.inputChannels.toNat * sinkDevice.outputChannels.toNat
    rw [route.matrix.length_coefficients, matched.inputs, matched.outputs, inputs, outputs,
      Nat.mul_comm]
    rfl

/-- A router on the graph of a listing gets its matrices in bounds. -/
theorem audioRoutes_inBounds {graph : RoutingGraph F}
    {endpointDevices : ExtTreeMap String AudioDevice}
    (fromListing : FromListing graph endpointDevices) :
    ∃ routes, graph.routes.valuesInOrder.mapM (audioRoute endpointDevices) = .ok routes ∧
      ∀ audio ∈ routes, MatrixInBounds audio := by
  obtain ⟨devices, listed, operations, found, rfl, endpoints, rfl⟩ := fromListing
  have consistent : (called operations).WellFormed := called_eq_run operations ▸
    run_wellFormed operations
  have converts : ∀ route ∈ (called operations).routes.valuesInOrder, ∃ audio,
      audioRoute listed.endpointDevices route = .ok audio ∧ MatrixInBounds audio := by
    intro route member
    obtain ⟨source, sink, matched⟩ := consistent.route_matches route member
    rw [endpoints] at matched
    exact audioRoute_inBounds found matched
  obtain ⟨routes, mapped, _, each⟩ := mapM_eq_ok converts
  refine ⟨routes, mapped, fun audio member => ?_⟩
  obtain ⟨_, _, inBounds⟩ := each audio member
  exact inBounds

/-- So does the router of a daemon that has come up, after any run. -/
theorem audioRoutes_inBounds_of_run {path : DiskPath} {fault : Option IoError} {disk : Disk}
    {loaded started world : World F} {phase : Phase} (loads : load path fault disk = .ok loaded)
    (starts : bringUp phase loaded = (.ok (), started))
    (run : ReflTransGen HandleStep started world) :
    ∃ routes, world.graph.routes.valuesInOrder.mapM (audioRoute world.endpointDevices) =
        .ok routes ∧
      ∀ audio ∈ routes, MatrixInBounds audio :=
  audioRoutes_inBounds (listingInvariant_fromListing.run
    (listingInvariant_fromListing.started loads starts) run)

/-- Graphs stay consistent under all methods, a method that fails changes
nothing, and the router of a daemon gets a matrix in bounds for every route. -/
theorem routing_graph_consistent :
    (∀ operations : List (Operation F), GraphConsistent (called operations) ∧
      ∀ operation failure, (Method.call operation (called operations)).1 = .error failure →
        (Method.call operation (called operations)).2 = called operations) ∧
    ∀ world : World F, FromListing world.graph world.endpointDevices →
      ∃ routes, world.graph.routes.valuesInOrder.mapM (audioRoute world.endpointDevices) =
          .ok routes ∧
        ∀ audio ∈ routes, MatrixInBounds audio := by
  have wellFormed : ∀ operations : List (Operation F), (called operations).WellFormed :=
    fun operations => called_eq_run operations ▸ run_wellFormed operations
  exact ⟨fun operations => ⟨graphConsistent_of_wellFormed (wellFormed operations),
    fun operation failure failed => call_failed failed⟩,
      fun world fromListing => audioRoutes_inBounds fromListing⟩

/-- A daemon that has connected a microphone and a speaker. -/
def voiceWorld : World ℚ :=
  (handle (smoothCalls [microphone, speaker]) voiceRoute.request
    (restoredWorld [microphone, speaker] .empty none)).2

/-- Its router gets one route. -/
theorem routing_graph_consistent_voice :
    ∃ routes, voiceWorld.graph.routes.valuesInOrder.mapM (audioRoute voiceWorld.endpointDevices) =
        .ok routes ∧
      routes.length = 1 ∧ ∀ audio ∈ routes, MatrixInBounds audio := by
  have loads : load [.rootDir, .normal "state"] none ⟨fun _ => none⟩ =
      .ok (restoredWorld [] .empty none) := rfl
  have starts : bringUp (smoothPhase [microphone, speaker]) (restoredWorld [] .empty none) =
      (.ok (), restoredWorld [microphone, speaker] .empty none) := rfl
  have fromListing : FromListing voiceWorld.graph voiceWorld.endpointDevices :=
    listingInvariant_fromListing.run (listingInvariant_fromListing.started loads starts)
      (.single (handleStep _ _ _))
  obtain ⟨routes, mapped, inBounds⟩ := routing_graph_consistent.2 voiceWorld fromListing
  have one : (voiceWorld.graph.routes.valuesInOrder.mapM
      (audioRoute voiceWorld.endpointDevices)).toOption.map List.length = some 1 := by
    decide +kernel
  rw [mapped] at one
  exact ⟨routes, mapped, Option.some.inj one, inBounds⟩

end VCable
