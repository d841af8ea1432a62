import VCable.RoutingGraphRuns

/-!
# Order independence of route acceptance

A list of routes is accepted one after another exactly when its identifiers
are distinct, every route matches the endpoints, and the whole list leaves the
graph free of feedback.  None of these depends on the order, and all of them
pass to sub-lists.
-/

namespace VCable.RoutingGraph

open Std DirectedWalks Relation

variable {F : Type} [SinglePrecision F]

/-- The graph with the given endpoints and no routes. -/
def withoutRoutes (endpoints : ExtTreeMap EndpointId EndpointDescriptor) : RoutingGraph F where
  endpoints := endpoints
  routes := ∅

/-- The graph with the given endpoints and the given routes. -/
def withRoutes (endpoints : ExtTreeMap EndpointId EndpointDescriptor)
    (routes : List (Route F)) : RoutingGraph F where
  endpoints := endpoints
  routes := (∅ : ExtTreeMap RouteId (Route F)).insertAll Route.id routes

variable {endpoints : ExtTreeMap EndpointId EndpointDescriptor} {routes : List (Route F)}

theorem withRoutes_append_singleton {route : Route F} :
    withRoutes endpoints (routes ++ [route]) =
      { withRoutes endpoints routes with
        routes := (withRoutes endpoints routes).routes.insert route.id route } := by
  simp [withRoutes, ExtTreeMap.insertAll_append]

theorem getElem?_withRoutes_eq_none {id : RouteId} (absent : ∀ route ∈ routes, route.id ≠ id) :
    (withRoutes endpoints routes).routes[id]? = none := by
  rw [withRoutes, ExtTreeMap.getElem?_insertAll_of_notMem absent, ExtTreeMap.getElem?_empty]

theorem joins_withRoutes_iff (distinct : (routes.map Route.id).Nodup) {first second : String} :
    (withRoutes endpoints routes).Joins first second ↔
      ∃ route ∈ routes, ∃ source sink, endpoints[route.source]? = some source ∧
        endpoints[route.sink]? = some sink ∧ source.node = first ∧ sink.node = second := by
  simp only [Joins, withRoutes, ExtTreeMap.mem_valuesInOrder_insertAll_empty distinct]

/-- What a list of routes needs in order to be accepted, in any order. -/
structure Acceptable (endpoints : ExtTreeMap EndpointId EndpointDescriptor)
    (routes : List (Route F)) : Prop where
  distinct : (routes.map Route.id).Nodup
  matched : ∀ route ∈ routes, ∃ source sink, RouteMatches endpoints route source sink
  feedbackFree : (withRoutes endpoints routes).FeedbackFree

theorem Acceptable.nil : Acceptable endpoints ([] : List (Route F)) where
  distinct := by simp
  matched := by simp
  feedbackFree := by
    intro node closed
    obtain ⟨_, ⟨_, _, joined⟩, _⟩ := TransGen.head'_iff.mp closed
    rw [joins_withRoutes_iff (by simp)] at joined
    simp at joined

/-- A list whose routes all occur in an acceptable list is acceptable. -/
theorem Acceptable.of_subset {fewer : List (Route F)} (acceptable : Acceptable endpoints routes)
    (distinct : (fewer.map Route.id).Nodup) (subset : ∀ route ∈ fewer, route ∈ routes) :
    Acceptable endpoints fewer where
  distinct := distinct
  matched := fun route routeMem => acceptable.matched route (subset route routeMem)
  feedbackFree := by
    apply acceptable.feedbackFree.mono
    · exact fun _ loopback => loopback
    · intro first second joined
      rw [joins_withRoutes_iff distinct] at joined
      rw [joins_withRoutes_iff acceptable.distinct]
      obtain ⟨route, routeMem, ends⟩ := joined
      exact ⟨route, subset route routeMem, ends⟩

theorem Acceptable.sublist {fewer : List (Route F)} (acceptable : Acceptable endpoints routes)
    (sublist : fewer.Sublist routes) : Acceptable endpoints fewer :=
  acceptable.of_subset (acceptable.distinct.sublist (sublist.map Route.id))
    fun _ routeMem => sublist.subset routeMem

theorem Acceptable.perm {reordered : List (Route F)} (acceptable : Acceptable endpoints routes)
    (perm : reordered.Perm routes) : Acceptable endpoints reordered :=
  acceptable.of_subset ((perm.map Route.id).nodup_iff.mpr acceptable.distinct)
    fun _ routeMem => perm.mem_iff.mp routeMem

theorem acceptable_append_singleton_iff {route : Route F} :
    Acceptable endpoints (routes ++ [route]) ↔
      Acceptable endpoints routes ∧ ∃ source sink,
        (withRoutes endpoints routes).RouteFits route source sink ∧
          ¬ (withRoutes endpoints routes).LoopbackWalk sink.node source.node := by
  constructor
  · intro acceptable
    have before : Acceptable endpoints routes :=
      acceptable.sublist (List.sublist_append_left routes [route])
    obtain ⟨source, sink, matched⟩ := acceptable.matched route (by simp)
    have fits : (withRoutes endpoints routes).RouteFits route source sink :=
      { matched with
        fresh := by
          apply getElem?_withRoutes_eq_none
          have distinct := acceptable.distinct
          rw [List.map_append, List.nodup_append] at distinct
          exact fun other otherMem =>
            distinct.2.2 other.id (List.mem_map_of_mem otherMem) route.id (by simp) }
    have feedbackFree := acceptable.feedbackFree
    rw [withRoutes_append_singleton, feedbackFree_insert_route_iff fits] at feedbackFree
    exact ⟨before, source, sink, fits, feedbackFree.2⟩
  · rintro ⟨before, source, sink, fits, noWalk⟩
    refine ⟨?_, ?_, ?_⟩
    · rw [List.map_append, List.nodup_append]
      refine ⟨before.distinct, by simp, ?_⟩
      rintro id idMem other otherMem rfl
      obtain ⟨old, oldMem, oldId⟩ := List.mem_map.mp idMem
      obtain rfl : id = route.id := by simpa using otherMem
      have found : (withRoutes endpoints routes).routes[old.id]? = some old :=
        ExtTreeMap.getElem?_insertAll_of_mem before.distinct oldMem
      rw [oldId] at found
      exact absurd (fits.fresh.symm.trans found) (by simp)
    · intro other otherMem
      rcases List.mem_append.mp otherMem with old | new
      · exact before.matched other old
      · rw [List.mem_singleton.mp new]
        exact ⟨source, sink, fits.toRouteMatches⟩
    · rw [withRoutes_append_singleton, feedbackFree_insert_route_iff fits]
      exact ⟨before.feedbackFree, noWalk⟩

theorem addRoutes_append_singleton {graph : RoutingGraph F} {route : Route F} :
    graph.addRoutes (routes ++ [route]) =
      (graph.addRoutes routes).bind fun partialGraph => partialGraph.addRoute route := by
  simp only [addRoutes, List.foldlM_append, List.foldlM_cons, List.foldlM_nil]
  cases List.foldlM addRoute graph routes with
  | error failure => rfl
  | ok partialGraph =>
      cases added : partialGraph.addRoute route <;>
        simp [bind, Except.bind, added, pure, Except.pure]

/-- Acceptance of a list of routes, one after another, by a graph without
routes. -/
theorem addRoutes_eq_ok_iff {extended : RoutingGraph F} :
    (withoutRoutes endpoints).addRoutes routes = .ok extended ↔
      Acceptable endpoints routes ∧ extended = withRoutes endpoints routes := by
  induction routes using List.reverseRecOn generalizing extended with
  | nil =>
      simp only [addRoutes, List.foldlM_nil, pure, Except.pure, Except.ok.injEq,
        Acceptable.nil, true_and]
      exact eq_comm
  | append_singleton routes route ih =>
      rw [addRoutes_append_singleton, acceptable_append_singleton_iff]
      constructor
      · intro accepted
        cases partialResult : (withoutRoutes endpoints).addRoutes routes with
        | error failure => simp [partialResult, Except.bind] at accepted
        | ok partialGraph =>
            obtain ⟨before, rfl⟩ := ih.mp partialResult
            rw [partialResult] at accepted
            obtain ⟨source, sink, fits, noWalk, rfl⟩ := addRoute_eq_ok_iff.mp accepted
            exact ⟨⟨before, source, sink, fits, noWalk⟩, withRoutes_append_singleton.symm⟩
      · rintro ⟨⟨before, source, sink, fits, noWalk⟩, rfl⟩
        rw [ih.mpr ⟨before, rfl⟩]
        exact addRoute_eq_ok_iff.mpr ⟨source, sink, fits, noWalk, withRoutes_append_singleton⟩

/-- Every permutation of every sub-list of an accepted list of routes is
accepted by the same graph without routes, and the permutations of one
sub-list all give the same graph. -/
theorem addRoutes_order_independent
    (endpoints : ExtTreeMap EndpointId EndpointDescriptor) (routes : List (Route F))
    (accepted : ∃ extended, (withoutRoutes endpoints).addRoutes routes = .ok extended) :
    ∀ fewer, fewer.Sublist routes → ∃ rebuilt, ∀ reordered, reordered.Perm fewer →
      (withoutRoutes endpoints).addRoutes reordered = .ok rebuilt := by
  obtain ⟨extended, added⟩ := accepted
  have acceptable := (addRoutes_eq_ok_iff.mp added).1
  intro fewer sublist
  have fewerAcceptable := acceptable.sublist sublist
  refine ⟨withRoutes endpoints fewer, ?_⟩
  intro reordered perm
  have reorderedAcceptable := fewerAcceptable.perm perm
  refine addRoutes_eq_ok_iff.mpr ⟨reorderedAcceptable, ?_⟩
  simp only [withRoutes, RoutingGraph.mk.injEq, true_and]
  exact ExtTreeMap.insertAll_empty_congr fewerAcceptable.distinct reorderedAcceptable.distinct
    fun route => perm.mem_iff.symm

/-- Two routes between the two test devices, connected in one order, are
accepted again in the other. -/
theorem addRoutes_order_independent_testGraph :
    ∃ rebuilt, (withoutRoutes testGraph.endpoints).addRoutes
      [testRoute "first" "a.in" "b.out", testRoute "second" "a.in" "b.out"] = .ok rebuilt := by
  obtain ⟨rebuilt, allOrders⟩ := addRoutes_order_independent testGraph.endpoints
    [testRoute "second" "a.in" "b.out", testRoute "first" "a.in" "b.out"]
    ⟨withRoutes testGraph.endpoints
      [testRoute "second" "a.in" "b.out", testRoute "first" "a.in" "b.out"], by rfl⟩
    _ (List.Sublist.refl _)
  exact ⟨rebuilt, allOrders _ (List.Perm.swap _ _ _)⟩

end VCable.RoutingGraph
