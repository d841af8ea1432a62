import VCable.DirectedWalks
import VCable.RoutingGraph

/-!
# Cycle rejection

`path_exists` is a worklist search over the routes.  This file proves that the
search terminates and decides the existence of a walk through loopback nodes,
and hence that `add_route` refuses exactly the routes that would close such a
walk.
-/

namespace VCable.RoutingGraph

open Std DirectedWalks Relation

variable {F : Type} [SinglePrecision F]

/-- Some route leads from the first node to the second. -/
def Joins (graph : RoutingGraph F) (first second : String) : Prop :=
  ∃ route ∈ graph.routes.valuesInOrder, ∃ source sink,
    graph.endpoints[route.source]? = some source ∧
      graph.endpoints[route.sink]? = some sink ∧
        source.node = first ∧ sink.node = second

/-- Some endpoint of the node is a loopback endpoint. -/
def HasLoopback (graph : RoutingGraph F) (node : String) : Prop :=
  ∃ endpoint ∈ graph.endpoints.valuesInOrder, endpoint.node = node ∧ endpoint.isLoopback = true

/-- A sequence of nodes, each with a loopback endpoint, joined by routes. -/
def LoopbackWalk (graph : RoutingGraph F) : String → String → Prop :=
  HasWalk graph.HasLoopback graph.Joins

/-- The routes between loopback nodes. -/
def LoopbackStep (graph : RoutingGraph F) : String → String → Prop :=
  Within graph.HasLoopback graph.Joins

/-- No non-empty closed walk of routes visits loopback nodes only. -/
def FeedbackFree (graph : RoutingGraph F) : Prop :=
  Acyclic graph.LoopbackStep

theorem nodeIsLoopback_iff {graph : RoutingGraph F} {node : String} :
    graph.nodeIsLoopback node = true ↔ graph.HasLoopback node := by
  simp [nodeIsLoopback, HasLoopback]

theorem loopbackSuccessor_eq_some_iff {graph : RoutingGraph F} {node next : String}
    {route : Route F} :
    graph.loopbackSuccessor node route = some next ↔
      (∃ source sink, graph.endpoints[route.source]? = some source ∧
        graph.endpoints[route.sink]? = some sink ∧
          source.node = node ∧ sink.node = next) ∧ graph.HasLoopback next := by
  unfold loopbackSuccessor
  cases graph.endpoints[route.source]? with
  | none => simp
  | some source =>
      by_cases starts : source.node = node
      · cases graph.endpoints[route.sink]? with
        | none => simp [starts]
        | some sink =>
            simp only [starts, ne_eq, not_true_eq_false, if_false, Option.ite_none_right_eq_some,
              nodeIsLoopback_iff, Option.some.injEq]
            constructor
            · rintro ⟨loopback, rfl⟩
              exact ⟨⟨source, sink, rfl, rfl, starts, rfl⟩, loopback⟩
            · rintro ⟨⟨_, _, _, rfl, _, rfl⟩, loopback⟩
              exact ⟨loopback, rfl⟩
      · simp [starts]

theorem mem_loopbackSuccessors {graph : RoutingGraph F} {node next : String} :
    next ∈ graph.loopbackSuccessors node ↔ graph.Joins node next ∧ graph.HasLoopback next := by
  simp only [loopbackSuccessors, List.mem_filterMap, loopbackSuccessor_eq_some_iff, Joins]
  constructor
  · rintro ⟨route, routeMem, endpoints, loopback⟩
    exact ⟨⟨route, routeMem, endpoints⟩, loopback⟩
  · rintro ⟨⟨route, routeMem, endpoints⟩, loopback⟩
    exact ⟨route, routeMem, endpoints, loopback⟩

/-- The edge that a route contributes to the search, if any. -/
def loopbackEdge (graph : RoutingGraph F) (route : Route F) : Option (String × String) :=
  match graph.endpoints[route.source]? with
  | none => none
  | some source => (graph.loopbackSuccessor source.node route).map (source.node, ·)

theorem loopbackSuccessors_fromEdges (graph : RoutingGraph F) :
    WorklistSearch.FromEdges graph.loopbackSuccessors
      (graph.routes.valuesInOrder.filterMap graph.loopbackEdge) := by
  intro node
  unfold loopbackSuccessors
  induction graph.routes.valuesInOrder with
  | nil => rfl
  | cons route routes ih =>
      rw [List.filterMap_cons, List.filterMap_cons, ih]
      unfold loopbackEdge loopbackSuccessor
      cases graph.endpoints[route.source]? with
      | none => rfl
      | some source =>
          cases graph.endpoints[route.sink]? with
          | none => by_cases starts : source.node = node <;> simp [starts]
          | some sink =>
              by_cases starts : source.node = node <;>
                by_cases loopback : graph.nodeIsLoopback sink.node = true <;>
                simp [starts, loopback]

/-- The loop of `path_exists` finishes: beyond one pass more than there are
routes, the number of passes does not matter, and the verdict is the existence
of a walk. -/
theorem pathSearch_terminates (graph : RoutingGraph F) (source target : String) :
    ∃ verdict, (∀ fuel, graph.routes.size + 1 < fuel →
        graph.pathSearch fuel source target = some verdict) ∧
      (verdict = true ↔
        ReflTransGen (WorklistSearch.Step graph.loopbackSuccessors) source target) := by
  classical
  have edgeBound :
      (graph.routes.valuesInOrder.filterMap graph.loopbackEdge).length ≤ graph.routes.size := by
    calc
      _ ≤ graph.routes.valuesInOrder.length := List.length_filterMap_le _ _
      _ = graph.routes.size := by simp [ExtTreeMap.valuesInOrder]
  refine ⟨decide (ReflTransGen (WorklistSearch.Step graph.loopbackSuccessors) source target),
    ?_, by simp⟩
  intro fuel enough
  obtain ⟨verdict, result, correct⟩ :
      ∃ verdict, WorklistSearch.search graph.loopbackSuccessors target fuel [source] [] =
          some verdict ∧
        (verdict = true ↔
          ReflTransGen (WorklistSearch.Step graph.loopbackSuccessors) source target) :=
    WorklistSearch.search_spec graph.loopbackSuccessors_fromEdges (by omega)
  rw [pathSearch, result]
  congr 1
  rw [Bool.eq_iff_iff, correct, decide_eq_true_iff]

private theorem reflTransGen_step_iff {graph : RoutingGraph F} {source target : String}
    (loopback : graph.HasLoopback source) :
    ReflTransGen (WorklistSearch.Step graph.loopbackSuccessors) source target ↔
      ReflTransGen graph.LoopbackStep source target := by
  constructor
  · intro reachable
    have both : graph.HasLoopback target ∧ ReflTransGen graph.LoopbackStep source target := by
      induction reachable with
      | refl => exact ⟨loopback, ReflTransGen.refl⟩
      | tail _ edge ih =>
          have joined := mem_loopbackSuccessors.mp edge
          exact ⟨joined.2, ih.2.tail ⟨ih.1, joined.2, joined.1⟩⟩
    exact both.2
  · intro reachable
    exact ReflTransGen.mono
      (fun _ _ edge => mem_loopbackSuccessors.mpr ⟨edge.2.2, edge.2.1⟩) _ _ reachable

/-- `path_exists` decides the existence of a walk through loopback nodes. -/
theorem pathExists_iff {graph : RoutingGraph F} {source target : String} :
    graph.pathExists source target = true ↔ graph.LoopbackWalk source target := by
  rw [LoopbackWalk, hasWalk_iff_reflTransGen, pathExists]
  by_cases loopback : graph.HasLoopback source
  · obtain ⟨verdict, result, correct⟩ := graph.pathSearch_terminates source target
    rw [result _ (by omega), nodeIsLoopback_iff.mpr loopback]
    simp only [Bool.not_true, Bool.false_eq_true, if_false, Option.getD_some]
    rw [correct, reflTransGen_step_iff loopback]
    exact ⟨fun reachable => ⟨loopback, reachable⟩, fun walk => walk.2⟩
  · simp [← nodeIsLoopback_iff] at loopback ⊢
    simp [loopback]

/-- The endpoints that a route names, and how the route has to match them. -/
structure RouteMatches (endpoints : ExtTreeMap EndpointId EndpointDescriptor)
    (route : Route F) (source sink : EndpointDescriptor) : Prop where
  source_found : endpoints[route.source]? = some source
  sink_found : endpoints[route.sink]? = some sink
  source_direction : source.direction = .source
  sink_direction : sink.direction = .sink
  inputs : route.matrix.inputChannels = source.channels
  outputs : route.matrix.outputChannels = sink.channels
  gain_finite : SinglePrecision.isFinite route.gain = true

/-- The checks that `add_route` makes before it looks for a cycle. -/
structure RouteFits (graph : RoutingGraph F) (route : Route F)
    (source sink : EndpointDescriptor) : Prop
    extends RouteMatches graph.endpoints route source sink where
  fresh : graph.routes[route.id]? = none

theorem addRoute_of_fits {graph : RoutingGraph F} {route : Route F}
    {source sink : EndpointDescriptor} (fits : graph.RouteFits route source sink) :
    graph.addRoute route =
      if graph.pathExists sink.node source.node then
        .error (.cycleDetected source.node sink.node)
      else .ok { graph with routes := graph.routes.insert route.id route } := by
  have absent : graph.routes.contains route.id = false := by
    rw [ExtTreeMap.contains_eq_isSome_getElem?, fits.fresh]
    rfl
  simp [addRoute, absent, fits.source_found, fits.sink_found, fits.source_direction,
    fits.sink_direction, fits.inputs, fits.outputs, fits.gain_finite]

theorem addRoute_eq_ok_iff {graph extended : RoutingGraph F} {route : Route F} :
    graph.addRoute route = .ok extended ↔
      ∃ source sink, graph.RouteFits route source sink ∧
        ¬ graph.LoopbackWalk sink.node source.node ∧
          extended = { graph with routes := graph.routes.insert route.id route } := by
  constructor
  · intro accepted
    unfold addRoute at accepted
    split at accepted
    · cases accepted
    rename_i fresh
    split at accepted
    · cases accepted
    rename_i source sourceFound
    split at accepted
    · cases accepted
    rename_i sink sinkFound
    split_ifs at accepted with sourceDirection sinkDirection inputs outputs gain cycle
    cases accepted
    have fits : graph.RouteFits route source sink :=
      { fresh := by
          rw [ExtTreeMap.contains_eq_isSome_getElem?] at fresh
          exact Option.not_isSome_iff_eq_none.mp fresh
        source_found := sourceFound
        sink_found := sinkFound
        source_direction := by simpa using sourceDirection
        sink_direction := by simpa using sinkDirection
        inputs := by simpa using inputs
        outputs := by simpa using outputs
        gain_finite := by simpa using gain }
    exact ⟨source, sink, fits, fun walk => cycle (pathExists_iff.mpr walk), rfl⟩
  · rintro ⟨source, sink, fits, noWalk, rfl⟩
    rw [addRoute_of_fits fits, if_neg fun cycle => noWalk (pathExists_iff.mp cycle)]

/-- For a route that passes the other checks, the search terminates, the route
is refused as a cycle exactly when a walk through loopback nodes leads from its
sink's node back to its source's node, and otherwise it is inserted. -/
theorem addRoute_cycleDetected_iff (graph : RoutingGraph F) (route : Route F)
    (source sink : EndpointDescriptor) (fits : graph.RouteFits route source sink) :
    (∃ verdict, (∀ fuel, graph.routes.size + 1 < fuel →
        graph.pathSearch fuel sink.node source.node = some verdict) ∧
      graph.pathExists sink.node source.node =
        (graph.nodeIsLoopback sink.node && verdict)) ∧
    ((∃ sourceNode sinkNode,
        graph.addRoute route = .error (.cycleDetected sourceNode sinkNode)) ↔
      graph.LoopbackWalk sink.node source.node) ∧
    (¬ graph.LoopbackWalk sink.node source.node →
      graph.addRoute route =
        .ok { graph with routes := graph.routes.insert route.id route }) := by
  refine ⟨?_, ?_, ?_⟩
  · obtain ⟨verdict, result, _⟩ := graph.pathSearch_terminates sink.node source.node
    refine ⟨verdict, result, ?_⟩
    rw [pathExists, result _ (by omega)]
    cases graph.nodeIsLoopback sink.node <;> simp
  · rw [addRoute_of_fits fits, ← pathExists_iff]
    split_ifs with cycle <;> simp [cycle]
  · intro noWalk
    rw [addRoute_of_fits fits, if_neg fun cycle => noWalk (pathExists_iff.mp cycle)]

section Fixtures

/-- The endpoint fixture of the crate's tests: stereo at 48 kHz. -/
def testEndpoint (id node : String) (direction : EndpointDirection) (isLoopback : Bool)
    (validId : isValidIdentifier id = true := by decide)
    (validClock : ¬ (node.utf8ByteSize = 0 ∨ node.utf8ByteSize > 255) := by decide) :
    EndpointDescriptor where
  id := ⟨id, validId⟩
  node := node
  direction := direction
  channels := 2
  sampleRate := 48000
  clockDomain := ⟨node, validClock⟩
  isLoopback := isLoopback

/-- `ChannelMatrix::identity(2)`. -/
def stereoIdentity : ChannelMatrix ℚ where
  outputChannels := 2
  inputChannels := 2
  coefficients := [1, 0, 0, 1]
  outputChannels_ne_zero := by decide
  inputChannels_ne_zero := by decide
  length_coefficients := by decide
  finite_coefficients := by decide

/-- The route fixture of the crate's tests. -/
def testRoute (id source sink : String) (validId : isValidIdentifier id = true := by decide)
    (validSource : isValidIdentifier source = true := by decide)
    (validSink : isValidIdentifier sink = true := by decide) : Route ℚ where
  id := ⟨id, validId⟩
  source := ⟨source, validSource⟩
  sink := ⟨sink, validSink⟩
  gain := 1
  matrix := stereoIdentity

/-- Two loopback devices `a` and `b` with the route of `rejects_feedback_cycles`. -/
def testGraph : RoutingGraph ℚ where
  endpoints := (∅ : ExtTreeMap EndpointId EndpointDescriptor).insertAll EndpointDescriptor.id
    [testEndpoint "a.in" "a" .source true, testEndpoint "a.out" "a" .sink true,
      testEndpoint "b.in" "b" .source true, testEndpoint "b.out" "b" .sink true]
  routes := (∅ : ExtTreeMap RouteId (Route ℚ)).insertAll Route.id
    [testRoute "a-to-b" "a.in" "b.out"]

end Fixtures

/-- The route back from `b` to `a` is refused: it closes the walk `a`, `b`. -/
theorem addRoute_cycleDetected_testGraph :
    (∃ sourceNode sinkNode,
      testGraph.addRoute (testRoute "b-to-a" "b.in" "a.out") =
        .error (.cycleDetected sourceNode sinkNode)) ↔
    testGraph.LoopbackWalk "a" "b" :=
  (addRoute_cycleDetected_iff testGraph (testRoute "b-to-a" "b.in" "a.out")
    (testEndpoint "b.in" "b" .source true) (testEndpoint "a.out" "a" .sink true)
    { fresh := by rfl
      source_found := by decide
      sink_found := by decide
      source_direction := rfl
      sink_direction := rfl
      inputs := rfl
      outputs := rfl
      gain_finite := rfl }).2.1

end VCable.RoutingGraph
