import VCable.Daemon
import VCable.RoutingGraphOrder

/-!
# Building and restoring the saved routes

A saved route is built from the two endpoints that it names.  Restoring adds
the built routes one by one, so by the order independence of the graph it
depends only on the set of saved routes and on the endpoints.
-/

namespace VCable

open Std RoutingGraph

variable {F : Type} [SinglePrecision F]

/-- A built route carries the saved names and gain, and a matrix made for the
channels of its two endpoints. -/
theorem buildRoute_eq_ok_iff {endpoints : ExtTreeMap EndpointId EndpointDescriptor}
    {saved : SavedRoute} {route : Route F} :
    buildRoute endpoints saved = .ok route ↔
      route.id.value = saved.id ∧ route.source.value = saved.source ∧
        route.sink.value = saved.sink ∧ route.gain = routeGain saved.gainMillidb ∧
          ∃ source sink : EndpointDescriptor, endpoints[route.source]? = some source ∧
            endpoints[route.sink]? = some sink ∧
              routeMatrix source.channels sink.channels saved.matrixMillionths =
                .ok route.matrix := by
  simp only [buildRoute, bind_eq_ok_iff, mapError_eq_ok_iff, okOr_eq_ok_iff, EndpointId.new,
    RouteId.new, StringId.new_eq_ok_iff, pure, Except.pure, Except.ok.injEq]
  constructor
  · rintro ⟨sourceId, sourceEq, sinkId, sinkEq, source, sourceFound, sink, sinkFound, matrix,
      matrixNew, id, idEq, rfl⟩
    exact ⟨idEq, sourceEq, sinkEq, rfl, source, sink, sourceFound, sinkFound, matrixNew⟩
  · rintro ⟨idEq, sourceEq, sinkEq, gainEq, source, sink, sourceFound, sinkFound, matrixNew⟩
    refine ⟨route.source, sourceEq, route.sink, sinkEq, source, sourceFound, sink, sinkFound,
      route.matrix, matrixNew, route.id, idEq, ?_⟩
    rw [← gainEq]

/-- Two built routes of one saved route differ only in their matrix. -/
theorem buildRoute_congr {endpoints others : ExtTreeMap EndpointId EndpointDescriptor}
    {saved : SavedRoute} {route : Route F} (built : buildRoute endpoints saved = .ok route)
    (sameSource : others[route.source]? = endpoints[route.source]?)
    (sameSink : others[route.sink]? = endpoints[route.sink]?) :
    buildRoute others saved = .ok route := by
  rw [buildRoute_eq_ok_iff] at built ⊢
  rw [sameSource, sameSink]
  exact built

/-! ## Restoring -/

/-- The routes that the saved ones are built to. -/
def builtRoutes (endpoints : ExtTreeMap EndpointId EndpointDescriptor) (saved : List SavedRoute) :
    List (Route F) :=
  saved.filterMap fun saved => (buildRoute endpoints saved).toOption

theorem toOption_eq_some_iff {ε α : Type} {result : Except ε α} {value : α} :
    result.toOption = some value ↔ result = .ok value := by
  cases result <;> simp [Except.toOption]

theorem mem_builtRoutes {endpoints : ExtTreeMap EndpointId EndpointDescriptor}
    {saved : List SavedRoute} {route : Route F} :
    route ∈ builtRoutes endpoints saved ↔
      ∃ one ∈ saved, buildRoute endpoints one = .ok route := by
  simp only [builtRoutes, List.mem_filterMap, toOption_eq_some_iff]

theorem builtRoutes_cons_of_ok {endpoints : ExtTreeMap EndpointId EndpointDescriptor}
    {one : SavedRoute} {rest : List SavedRoute} {route : Route F}
    (built : buildRoute endpoints one = .ok route) :
    builtRoutes endpoints (one :: rest) = route :: builtRoutes endpoints rest := by
  simp [builtRoutes, built, Except.toOption]

theorem builtRoutes_cons_of_error {endpoints : ExtTreeMap EndpointId EndpointDescriptor}
    {one : SavedRoute} {rest : List SavedRoute} {failure : DaemonError}
    (unbuilt : buildRoute (F := F) endpoints one = .error failure) :
    builtRoutes (F := F) endpoints (one :: rest) = builtRoutes endpoints rest := by
  simp [builtRoutes, unbuilt, Except.toOption]

theorem addRoute_endpoints {graph extended : RoutingGraph F} {route : Route F}
    (added : graph.addRoute route = .ok extended) : extended.endpoints = graph.endpoints := by
  obtain ⟨_, _, _, _, rfl⟩ := addRoute_eq_ok_iff.mp added
  rfl

theorem addSavedRoutes_endpoints (graph : RoutingGraph F) (saved : List SavedRoute) :
    (addSavedRoutes graph saved).2.endpoints = graph.endpoints := by
  induction saved generalizing graph with
  | nil => rfl
  | cons one rest ih =>
      unfold addSavedRoutes
      split
      · rfl
      · split
        · rfl
        · rename_i extended added
          rw [ih, addRoute_endpoints added]

/-- Restoring only ever adds routes. -/
theorem addSavedRoutes_keeps {graph : RoutingGraph F} {saved : List SavedRoute} {id : RouteId}
    {route : Route F} (found : graph.routes[id]? = some route) :
    (addSavedRoutes graph saved).2.routes[id]? = some route := by
  induction saved generalizing graph with
  | nil => exact found
  | cons one rest ih =>
      unfold addSavedRoutes
      split
      · exact found
      · split
        · exact found
        · rename_i new _ _ extended added
          apply ih
          obtain ⟨_, _, fits, _, rfl⟩ := addRoute_eq_ok_iff.mp added
          have other : new.id ≠ id := by
            intro same
            rw [← same, fits.fresh] at found
            cases found
          rw [ExtTreeMap.getElem?_insert_of_ne other]
          exact found

theorem addSavedRoutes_append {graph middle : RoutingGraph F} {first second : List SavedRoute}
    (restored : addSavedRoutes graph first = (.ok (), middle)) :
    addSavedRoutes graph (first ++ second) = addSavedRoutes middle second := by
  induction first generalizing graph with
  | nil =>
      cases restored
      rfl
  | cons one rest ih =>
      unfold addSavedRoutes at restored
      rw [List.cons_append, addSavedRoutes]
      split at restored
      · cases restored
      · rename_i route built
        split at restored
        · cases restored
        · rename_i extended added
          exact ih restored

theorem addSavedRoutes_eq_ok_iff {graph restored : RoutingGraph F} {saved : List SavedRoute} :
    addSavedRoutes graph saved = (.ok (), restored) ↔
      (∀ one ∈ saved, ∃ route : Route F, buildRoute graph.endpoints one = .ok route) ∧
        graph.addRoutes (builtRoutes graph.endpoints saved) = .ok restored := by
  induction saved generalizing graph with
  | nil => simp [addSavedRoutes, builtRoutes, addRoutes, pure, Except.pure]
  | cons one rest ih =>
      unfold addSavedRoutes
      cases built : buildRoute (F := F) graph.endpoints one with
      | error failure => simp [built]
      | ok route =>
          rw [builtRoutes_cons_of_ok built, addRoutes, List.foldlM_cons]
          cases added : graph.addRoute route with
          | error failure => simp [added, bind, Except.bind]
          | ok extended =>
              simp only [added, ih, addRoute_endpoints added, List.forall_mem_cons, built,
                Except.ok.injEq, exists_eq', true_and]
              rfl

/-- Restoring on endpoints without routes, in terms of the set of built
routes. -/
theorem restore_eq_ok_iff {endpoints : ExtTreeMap EndpointId EndpointDescriptor}
    {saved : List SavedRoute} {restored : RoutingGraph F} :
    addSavedRoutes (withoutRoutes endpoints) saved = (.ok (), restored) ↔
      (∀ one ∈ saved, ∃ route : Route F, buildRoute endpoints one = .ok route) ∧
        Acceptable endpoints (builtRoutes (F := F) endpoints saved) ∧
          restored = withRoutes endpoints (builtRoutes endpoints saved) := by
  rw [addSavedRoutes_eq_ok_iff, ← addRoutes_eq_ok_iff]
  rfl

/-- Restoring that fails leaves out some saved route. -/
theorem addSavedRoutes_lacks {graph restored : RoutingGraph F} {saved : List SavedRoute}
    {failure : DaemonError} (failed : addSavedRoutes graph saved = (.error failure, restored))
    (distinct : (saved.map SavedRoute.id).Nodup)
    (fresh : ∀ one ∈ saved, ∀ id : RouteId, id.value = one.id → graph.routes[id]? = none) :
    ∃ one ∈ saved, ∀ id : RouteId, id.value = one.id → restored.routes[id]? = none := by
  induction saved generalizing graph with
  | nil => cases failed
  | cons one rest ih =>
      unfold addSavedRoutes at failed
      split at failed
      · cases failed
        exact ⟨one, by simp, fresh one (by simp)⟩
      · rename_i route built
        split at failed
        · cases failed
          exact ⟨one, by simp, fresh one (by simp)⟩
        · rename_i extended added
          obtain ⟨_, _, _, _, rfl⟩ := addRoute_eq_ok_iff.mp added
          rw [List.map_cons, List.nodup_cons] at distinct
          obtain ⟨left, leftMem, lacks⟩ := ih failed distinct.2 (by
            intro other otherMem id idEq
            have differs : route.id ≠ id := by
              rintro rfl
              rw [(buildRoute_eq_ok_iff.mp built).1] at idEq
              exact distinct.1 (idEq ▸ List.mem_map_of_mem otherMem)
            rw [ExtTreeMap.getElem?_insert_of_ne differs]
            exact fresh other (by simp [otherMem]) id idEq)
          exact ⟨left, by simp [leftMem], lacks⟩

/-- Restoring that goes through leaves every saved route in the graph. -/
theorem found_of_restored {endpoints : ExtTreeMap EndpointId EndpointDescriptor}
    {routes : List SavedRoute} {restored : RoutingGraph F} {saved : SavedRoute}
    (restore : addSavedRoutes (withoutRoutes endpoints) routes = (.ok (), restored))
    (member : saved ∈ routes) :
    ∃ route, buildRoute endpoints saved = .ok route ∧
      restored.routes[route.id]? = some route := by
  obtain ⟨builds, acceptable, rfl⟩ := restore_eq_ok_iff.mp restore
  obtain ⟨route, built⟩ := builds saved member
  exact ⟨route, built, ExtTreeMap.getElem?_insertAll_of_mem acceptable.distinct
    (mem_builtRoutes.mpr ⟨saved, member, built⟩)⟩

/-! ## Worlds whose graph is the restored one -/

/-- The routes of the graph are exactly the saved ones, rebuilt. -/
def Rebuilt (world : World F) : Prop :=
  addSavedRoutes (withoutRoutes world.graph.endpoints) world.routes.values = (.ok (), world.graph)

theorem Rebuilt.found {world : World F} (rebuilt : Rebuilt world) {saved : SavedRoute}
    (member : saved ∈ world.routes.values) :
    ∃ route, buildRoute world.graph.endpoints saved = .ok route ∧
      world.graph.routes[route.id]? = some route :=
  found_of_restored rebuilt member

theorem SavedRoutes.mem_values_iff {routes : SavedRoutes} {saved : SavedRoute} :
    saved ∈ routes.values ↔ routes.map[saved.id]? = some saved :=
  routes.keyed.mem_iff

theorem SavedRoutes.nodup_ids (routes : SavedRoutes) : (routes.values.map SavedRoute.id).Nodup :=
  routes.keyed.nodup_keys

/-- A saved identifier is in the graph, so its route cannot be added again. -/
theorem Rebuilt.fresh_of_added {world : World F} (rebuilt : Rebuilt world) {saved : SavedRoute}
    {route : Route F} {extended : RoutingGraph F}
    (built : buildRoute world.graph.endpoints saved = .ok route)
    (added : world.graph.addRoute route = .ok extended) : world.routes.map[saved.id]? = none := by
  obtain ⟨_, _, fits, _, _⟩ := addRoute_eq_ok_iff.mp added
  cases found : world.routes.map[saved.id]? with
  | none => rfl
  | some old =>
      have oldId : old.id = saved.id := world.routes.keyed _ _ found
      have member : old ∈ world.routes.values := by
        rw [SavedRoutes.mem_values_iff, oldId, found]
      obtain ⟨oldRoute, oldBuilt, oldFound⟩ := rebuilt.found member
      have sameId : oldRoute.id = route.id := by
        apply StringId.ext
        rw [(buildRoute_eq_ok_iff.mp oldBuilt).1, (buildRoute_eq_ok_iff.mp built).1, oldId]
      rw [sameId, fits.fresh] at oldFound
      cases oldFound

/-- A restored graph has the route that a rebuilt one has if and only if it is
built alike on both. -/
theorem Rebuilt.route_kept_iff {world : World F} (rebuilt : Rebuilt world) {saved : SavedRoute}
    (member : saved ∈ world.routes.values)
    {endpoints : ExtTreeMap EndpointId EndpointDescriptor} {restored : RoutingGraph F}
    (restore : addSavedRoutes (withoutRoutes endpoints) world.routes.values = (.ok (), restored)) :
    (∀ key : RouteId, key.value = saved.id → ∀ route,
      world.graph.routes[key]? = some route → restored.routes[key]? = some route) ↔
      buildRoute (F := F) endpoints saved = buildRoute world.graph.endpoints saved := by
  obtain ⟨route, built, found⟩ := rebuilt.found member
  obtain ⟨other, otherBuilt, otherFound⟩ := found_of_restored restore member
  have idEq := (buildRoute_eq_ok_iff.mp built).1
  have sameKey : other.id = route.id :=
    StringId.ext ((buildRoute_eq_ok_iff.mp otherBuilt).1.trans idEq.symm)
  rw [sameKey] at otherFound
  rw [built, otherBuilt, Except.ok.injEq]
  constructor
  · intro still
    have kept := still route.id idEq route found
    rw [otherFound] at kept
    exact Option.some.inj kept
  · rintro rfl key keyEq one oneFound
    obtain rfl : key = other.id := StringId.ext (keyEq.trans idEq.symm)
    rw [found] at oneFound
    rw [otherFound, oneFound]

theorem builtRoutes_congr {endpoints others : ExtTreeMap EndpointId EndpointDescriptor}
    {saved : List SavedRoute}
    (alike : ∀ one ∈ saved, buildRoute (F := F) others one = buildRoute endpoints one) :
    builtRoutes (F := F) others saved = builtRoutes endpoints saved :=
  List.filterMap_congr fun one member => congrArg Except.toOption (alike one member)

/-- A restored graph has the routes of a rebuilt one if and only if all are
built alike on both. -/
theorem Rebuilt.routes_kept_iff {world : World F} (rebuilt : Rebuilt world)
    {endpoints : ExtTreeMap EndpointId EndpointDescriptor} {restored : RoutingGraph F}
    (restore : addSavedRoutes (withoutRoutes endpoints) world.routes.values = (.ok (), restored)) :
    restored.routes = world.graph.routes ↔
      ∀ saved ∈ world.routes.values,
        buildRoute (F := F) endpoints saved = buildRoute world.graph.endpoints saved := by
  constructor
  · intro same saved member
    refine (rebuilt.route_kept_iff member restore).mp fun key _ route found => ?_
    rw [same, found]
  · intro alike
    obtain ⟨_, _, restoredEq⟩ := restore_eq_ok_iff.mp restore
    obtain ⟨_, _, graphEq⟩ := restore_eq_ok_iff.mp rebuilt
    rw [restoredEq, graphEq, withRoutes, builtRoutes_congr alike]
    rfl

section Fixtures

/-- A device with one input, and a device with one output. -/
def microphone : AudioDevice := ⟨1, "mic", "Microphone", 1, 0, 48000, false, false⟩

def speaker : AudioDevice := ⟨2, "speaker", "Speaker", 0, 1, 48000, false, false⟩

def voiceRoute : SavedRoute := ⟨"voice", "audio:mic:input", "audio:speaker:output", 0, []⟩

/-- A daemon that has restored the given routes on the given devices. -/
def restoredWorld (devices : List AudioDevice) (routes : SavedRoutes)
    (content : Option (List UInt8)) : World ℚ :=
  let listed := (listEndpoints (.ok devices)).toOption.getD Listed.empty
  { graph := (addSavedRoutes listed.graph routes.values).2
    routes := routes
    endpointDevices := listed.endpointDevices
    router := none
    statePath := [.rootDir, .normal "state"]
    disk := ⟨fun _ => content⟩ }

/-- Calls that go through on the given devices. -/
def smoothPhase (devices : List AudioDevice) : Phase where
  save := none
  listing := .ok devices
  start := none

/-- A request whose calls all go through. -/
def smoothCalls (devices : List AudioDevice) : Environment where
  create := none
  delete := none
  metrics := ⟨0, 0, 0⟩
  attempt := smoothPhase devices
  rollback := smoothPhase devices

end Fixtures

end VCable
