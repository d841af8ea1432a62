import VCable.DaemonDevices
import VCable.DaemonRequests

/-!
# Wired daemons

In a running daemon every endpoint of the graph has its device and every route
its endpoints, so restarting the router can only fail in the audio system.
Restored routes can be restored again in smaller sets, together with a route
that the graph accepted, and on other devices that keep their endpoints.
-/

namespace VCable

open Std RoutingGraph

variable {F : Type} [SinglePrecision F]

/-- Every endpoint has a device, and every route matches its endpoints. -/
structure Wired (world : World F) : Prop where
  endpoint_device : ∀ (id : EndpointId) (endpoint : EndpointDescriptor),
    world.graph.endpoints[id]? = some endpoint →
      ∃ device, world.endpointDevices[id.value]? = some device
  route_ends : ∀ route ∈ world.graph.routes.valuesInOrder,
    ∃ source sink, RouteMatches world.graph.endpoints route source sink

theorem route_ends_addRoute {graph extended : RoutingGraph F} {route : Route F}
    (added : graph.addRoute route = .ok extended)
    (ends : ∀ old ∈ graph.routes.valuesInOrder,
      ∃ source sink, RouteMatches graph.endpoints old source sink) :
    ∀ one ∈ extended.routes.valuesInOrder,
      ∃ source sink, RouteMatches extended.endpoints one source sink := by
  obtain ⟨source, sink, fits, _, rfl⟩ := addRoute_eq_ok_iff.mp added
  intro one member
  rcases (ExtTreeMap.mem_valuesInOrder_insert fits.fresh).mp member with rfl | old
  · exact ⟨source, sink, fits.toRouteMatches⟩
  · exact ends one old

theorem route_ends_addSavedRoutes {graph : RoutingGraph F} {saved : List SavedRoute}
    (ends : ∀ old ∈ graph.routes.valuesInOrder,
      ∃ source sink, RouteMatches graph.endpoints old source sink) :
    ∀ one ∈ (addSavedRoutes graph saved).2.routes.valuesInOrder,
      ∃ source sink, RouteMatches (addSavedRoutes graph saved).2.endpoints one source sink := by
  induction saved generalizing graph with
  | nil => exact ends
  | cons one rest ih =>
      unfold addSavedRoutes
      split
      · exact ends
      · split
        · exact ends
        · rename_i route _ _ extended added
          exact ih (route_ends_addRoute added ends)

theorem Wired.addRoute {world : World F} {route : Route F} {extended : RoutingGraph F}
    (wired : Wired world) (added : world.graph.addRoute route = .ok extended) :
    Wired { world with graph := extended } where
  endpoint_device := by
    intro id endpoint found
    apply wired.endpoint_device id endpoint
    rw [← addRoute_endpoints added]
    exact found
  route_ends := route_ends_addRoute added wired.route_ends

theorem Wired.restore {world : World F} (wired : Wired world) (saved : List SavedRoute) :
    Wired { world with graph := (addSavedRoutes world.graph saved).2 } where
  endpoint_device := by
    intro id endpoint found
    apply wired.endpoint_device id endpoint
    rw [← addSavedRoutes_endpoints world.graph saved]
    exact found
  route_ends := route_ends_addSavedRoutes wired.route_ends

/-- Wherever a listing is put in place, every endpoint has its device. -/
theorem Wired.relisted {listing : Except CoreAudioError (List AudioDevice)} {listed : Listed F}
    (found : listEndpoints listing = .ok listed) (world : World F) :
    Wired (relisted listed world) := by
  obtain ⟨devices, _, holds⟩ := listEndpoints_holds found
  have listedWired : Wired { world with
      graph := listed.graph, endpointDevices := listed.endpointDevices } := by
    refine ⟨?_, ?_⟩
    · intro id endpoint endpointFound
      obtain ⟨idEq, device, described⟩ := (holds.endpoint_iff id endpoint).mp endpointFound
      exact ⟨device, (holds.device_iff id.value device).mpr ⟨endpoint, described, by rw [idEq]⟩⟩
    · intro route member
      have none : (listed.graph.routes).valuesInOrder = [] := by
        rw [holds.routes_eq, ExtTreeMap.valuesInOrder_empty]
      rw [none] at member
      cases member
  exact listedWired.restore world.routes.values

/-! ## Starting the router -/

/-- The router plays the route. -/
def Plays (router : Option (List (AudioRoute F)))
    (endpointDevices : ExtTreeMap String AudioDevice) (route : Route F) : Prop :=
  ∃ playing, router = some playing ∧
    ∃ audio ∈ playing, audioRoute endpointDevices route = .ok audio

theorem Wired.audioRoute {world : World F} (wired : Wired world) {route : Route F}
    (member : route ∈ world.graph.routes.valuesInOrder) :
    ∃ audio, audioRoute world.endpointDevices route = .ok audio := by
  obtain ⟨source, sink, matched⟩ := wired.route_ends route member
  obtain ⟨sourceDevice, sourceFound⟩ := wired.endpoint_device _ _ matched.source_found
  obtain ⟨sinkDevice, sinkFound⟩ := wired.endpoint_device _ _ matched.sink_found
  simp [VCable.audioRoute, sourceFound, sinkFound, pure, Except.pure]

/-- In a wired daemon the router starts unless the audio system fails, and
plays every route. -/
theorem Wired.launch {world : World F} (wired : Wired world) :
    (launchRouter none world.graph world.endpointDevices).1 = .ok () ∧
      ∀ route ∈ world.graph.routes.valuesInOrder,
        Plays (launchRouter none world.graph world.endpointDevices).2 world.endpointDevices
          route := by
  obtain ⟨playing, mapped, each, _⟩ := mapM_eq_ok fun route member =>
    (wired.audioRoute member).imp fun _ converted => And.intro converted converted
  unfold launchRouter
  rw [mapped]
  cases playing with
  | nil =>
      refine ⟨rfl, fun route member => ?_⟩
      obtain ⟨audio, audioMem, _⟩ := each route member
      cases audioMem
  | cons first rest => exact ⟨rfl, fun route member => ⟨_, rfl, each route member⟩⟩

/-! ## Restoring again -/

theorem builtRoutes_nodup {endpoints : ExtTreeMap EndpointId EndpointDescriptor}
    {saved : List SavedRoute} (distinct : (saved.map SavedRoute.id).Nodup) :
    ((builtRoutes (F := F) endpoints saved).map Route.id).Nodup := by
  induction saved with
  | nil => simp [builtRoutes]
  | cons one rest ih =>
      rw [List.map_cons, List.nodup_cons] at distinct
      cases built : buildRoute (F := F) endpoints one with
      | error failure =>
          rw [builtRoutes_cons_of_error built]
          exact ih distinct.2
      | ok route =>
          rw [builtRoutes_cons_of_ok built, List.map_cons, List.nodup_cons]
          refine ⟨fun twice => ?_, ih distinct.2⟩
          obtain ⟨other, otherMem, sameId⟩ := List.mem_map.mp twice
          obtain ⟨late, lateMem, lateBuilt⟩ := mem_builtRoutes.mp otherMem
          apply distinct.1
          rw [← (buildRoute_eq_ok_iff.mp built).1, ← sameId,
            (buildRoute_eq_ok_iff.mp lateBuilt).1]
          exact List.mem_map_of_mem lateMem

/-- What is restored from some routes can be restored from fewer. -/
theorem restore_subset {endpoints : ExtTreeMap EndpointId EndpointDescriptor}
    {saved fewer : List SavedRoute} {restored : RoutingGraph F}
    (restore : addSavedRoutes (withoutRoutes endpoints) saved = (.ok (), restored))
    (distinct : (fewer.map SavedRoute.id).Nodup) (subset : ∀ one ∈ fewer, one ∈ saved) :
    (addSavedRoutes (F := F) (withoutRoutes endpoints) fewer).1 = .ok () := by
  obtain ⟨builds, acceptable, _⟩ := restore_eq_ok_iff.mp restore
  have again := restore_eq_ok_iff.mpr ⟨fun one member => builds one (subset one member),
    acceptable.of_subset (builtRoutes_nodup distinct) ?_, rfl⟩
  · rw [again]
  · intro route member
    obtain ⟨one, oneMem, built⟩ := mem_builtRoutes.mp member
    exact mem_builtRoutes.mpr ⟨one, subset one oneMem, built⟩

/-- A graph rebuilt from the saved routes that accepts one more route is the
one rebuilt from the routes with that one. -/
theorem Rebuilt.insert {world : World F} (rebuilt : Rebuilt world) {saved : SavedRoute}
    {route : Route F} {extended : RoutingGraph F}
    (built : buildRoute world.graph.endpoints saved = .ok route)
    (added : world.graph.addRoute route = .ok extended) :
    Rebuilt { world with graph := extended, routes := world.routes.insert saved } := by
  have fresh := rebuilt.fresh_of_added built added
  obtain ⟨builds, acceptable, graphEq⟩ := restore_eq_ok_iff.mp rebuilt
  have before : world.graph.addRoute route = .ok extended := added
  rw [graphEq] at added
  obtain ⟨source, sink, fits, noWalk, extendedEq⟩ := addRoute_eq_ok_iff.mp added
  have together := acceptable_append_singleton_iff.mpr ⟨acceptable, source, sink, fits, noWalk⟩
  have members : ∀ one, one ∈ (world.routes.insert saved).values ↔
      one = saved ∨ one ∈ world.routes.values :=
    fun one => ExtTreeMap.mem_valuesInOrder_insert fresh
  have builtMembers : ∀ one : Route F,
      one ∈ builtRoutes world.graph.endpoints (world.routes.insert saved).values ↔
        one ∈ builtRoutes world.graph.endpoints world.routes.values ++ [route] := by
    intro one
    rw [List.mem_append, List.mem_singleton, mem_builtRoutes, mem_builtRoutes]
    constructor
    · rintro ⟨origin, originMem, originBuilt⟩
      rcases (members origin).mp originMem with rfl | old
      · exact Or.inr (Except.ok.inj (originBuilt.symm.trans built))
      · exact Or.inl ⟨origin, old, originBuilt⟩
    · rintro (⟨origin, old, originBuilt⟩ | rfl)
      · exact ⟨origin, (members origin).mpr (Or.inr old), originBuilt⟩
      · exact ⟨saved, (members saved).mpr (Or.inl rfl), built⟩
  have distinct : ((builtRoutes (F := F) world.graph.endpoints
      (world.routes.insert saved).values).map Route.id).Nodup :=
    builtRoutes_nodup (world.routes.insert saved).nodup_ids
  have restored := restore_eq_ok_iff.mpr ⟨fun one member => ?_,
    together.of_subset distinct fun one member => (builtMembers one).mp member, rfl⟩
  · unfold Rebuilt
    simp only [addRoute_endpoints before]
    rw [restored, extendedEq]
    refine Prod.ext rfl ?_
    change _ = ({ withRoutes world.graph.endpoints _ with routes := _ } : RoutingGraph F)
    rw [← withRoutes_append_singleton]
    exact congrArg (RoutingGraph.mk world.graph.endpoints)
      (ExtTreeMap.insertAll_empty_congr distinct together.distinct builtMembers)
  · rcases (members one).mp member with rfl | old
    · exact ⟨route, built⟩
    · exact builds one old

/-- Whether a saved route names an endpoint. -/
def SavedRoute.Names (saved : SavedRoute) (id : EndpointId) : Prop :=
  id.value = saved.source ∨ id.value = saved.sink

/-- Restored routes can be restored on other devices if these keep the
endpoints of the routes, and make no node of them a loopback. -/
theorem restore_kept {endpoints others : ExtTreeMap EndpointId EndpointDescriptor}
    {saved : List SavedRoute} {restored : RoutingGraph F}
    (restore : addSavedRoutes (withoutRoutes endpoints) saved = (.ok (), restored))
    (kept : ∀ one ∈ saved, ∀ (id : EndpointId) (endpoint : EndpointDescriptor), one.Names id →
      endpoints[id]? = some endpoint → others[id]? = some endpoint)
    (loopbacks : ∀ one ∈ saved, ∀ (id : EndpointId) (endpoint : EndpointDescriptor), one.Names id →
      endpoints[id]? = some endpoint →
        (withoutRoutes (F := F) others).HasLoopback endpoint.node →
          (withoutRoutes (F := F) endpoints).HasLoopback endpoint.node) :
    (addSavedRoutes (F := F) (withoutRoutes others) saved).1 = .ok () := by
  obtain ⟨builds, acceptable, _⟩ := restore_eq_ok_iff.mp restore
  have sameEnds : ∀ one ∈ saved, ∀ route : Route F, buildRoute endpoints one = .ok route →
      others[route.source]? = endpoints[route.source]? ∧
        others[route.sink]? = endpoints[route.sink]? := by
    intro one member route built
    obtain ⟨_, sourceEq, sinkEq, _, source, sink, sourceFound, sinkFound, _⟩ :=
      buildRoute_eq_ok_iff.mp built
    rw [sourceFound, sinkFound]
    exact ⟨kept one member _ source (Or.inl sourceEq) sourceFound,
      kept one member _ sink (Or.inr sinkEq) sinkFound⟩
  have rebuilds : ∀ one ∈ saved, ∀ route : Route F, buildRoute endpoints one = .ok route →
      buildRoute others one = .ok route := fun one member route built =>
    buildRoute_congr built (sameEnds one member route built).1 (sameEnds one member route built).2
  have sameBuilt : builtRoutes (F := F) others saved = builtRoutes endpoints saved := by
    apply List.filterMap_congr
    intro one member
    obtain ⟨route, built⟩ := builds one member
    rw [built, rebuilds one member route built]
  have again := restore_eq_ok_iff.mpr ⟨fun one member =>
    (builds one member).imp (rebuilds one member), sameBuilt ▸ ?_, rfl⟩
  · rw [again]
  refine ⟨acceptable.distinct, ?_, ?_⟩
  · intro route member
    obtain ⟨one, oneMem, built⟩ := mem_builtRoutes.mp member
    obtain ⟨source, sink, matched⟩ := acceptable.matched route member
    obtain ⟨sameSource, sameSink⟩ := sameEnds one oneMem route built
    exact ⟨source, sink, matched.congr sameSource sameSink⟩
  · refine DirectedWalks.Acyclic.mono (fun first second edge => ?_) acceptable.feedbackFree
    obtain ⟨firstLoop, secondLoop, joined⟩ := edge
    obtain ⟨route, member, source, sink, sourceFound, sinkFound, rfl, rfl⟩ :=
      (joins_withRoutes_iff acceptable.distinct).mp joined
    obtain ⟨one, oneMem, built⟩ := mem_builtRoutes.mp member
    obtain ⟨sameSource, sameSink⟩ := sameEnds one oneMem route built
    obtain ⟨_, sourceEq, sinkEq, _⟩ := buildRoute_eq_ok_iff.mp built
    rw [sameSource] at sourceFound
    rw [sameSink] at sinkFound
    exact ⟨loopbacks one oneMem _ source (Or.inl sourceEq) sourceFound firstLoop,
      loopbacks one oneMem _ sink (Or.inr sinkEq) sinkFound secondLoop,
      (joins_withRoutes_iff acceptable.distinct).mpr
        ⟨route, member, source, sink, sourceFound, sinkFound, rfl, rfl⟩⟩

end VCable
