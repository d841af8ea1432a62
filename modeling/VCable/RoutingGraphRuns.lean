import VCable.RoutingGraphCycles

/-!
# Runs of graph operations

What one call of the four operations does to a graph, the well-formedness that
every call keeps, and the effect of each call on the walks through loopback
nodes.  A run has a feedback loop at some point exactly when some
`add_endpoint` turns a node into a loopback node on a walk of existing routes.
-/

namespace VCable.RoutingGraph

open Std DirectedWalks Relation

variable {F : Type} [SinglePrecision F]

/-- A call of one of the four operations. -/
inductive Operation (F : Type) [SinglePrecision F] where
  | addEndpoint (endpoint : EndpointDescriptor)
  | removeEndpoint (id : EndpointId)
  | addRoute (route : Route F)
  | removeRoute (id : RouteId)

def apply (graph : RoutingGraph F) : Operation F → Except GraphError (RoutingGraph F)
  | .addEndpoint endpoint => graph.addEndpoint endpoint
  | .removeEndpoint id => (graph.removeEndpoint id).map Prod.snd
  | .addRoute route => graph.addRoute route
  | .removeRoute id => (graph.removeRoute id).map Prod.snd

/-- The graph after a call; a call that fails leaves the graph as it was. -/
def after (graph : RoutingGraph F) (operation : Operation F) : RoutingGraph F :=
  match graph.apply operation with
  | .ok changed => changed
  | .error _ => graph

/-- The graph after a sequence of calls that starts from the default graph. -/
def run (operations : List (Operation F)) : RoutingGraph F :=
  operations.foldl after empty

@[simp]
theorem run_append_singleton {operations : List (Operation F)} {operation : Operation F} :
    run (operations ++ [operation]) = (run operations).after operation := by
  simp [run]

/-! ## One call -/

theorem addEndpoint_eq_ok_iff {graph extended : RoutingGraph F} {endpoint : EndpointDescriptor} :
    graph.addEndpoint endpoint = .ok extended ↔
      endpoint.channels ≠ 0 ∧ (8000 ≤ endpoint.sampleRate ∧ endpoint.sampleRate ≤ 768000) ∧
        ¬ (endpoint.node.utf8ByteSize = 0 ∨ endpoint.node.utf8ByteSize > 255) ∧
        graph.endpoints[endpoint.id]? = none ∧
        extended = { graph with endpoints := graph.endpoints.insert endpoint.id endpoint } := by
  have fresh : graph.endpoints.contains endpoint.id = true ↔
      ¬ graph.endpoints[endpoint.id]? = none := by
    rw [ExtTreeMap.contains_eq_isSome_getElem?, Option.isSome_iff_ne_none]
  unfold addEndpoint
  split_ifs with channels rate node present
  · simp [channels]
  · simp only [false_iff, not_and]
    rintro _ ⟨low, high⟩
    rcases rate with tooLow | tooHigh
    · exact absurd low (UInt32.not_le.mpr tooLow)
    · exact absurd high (UInt32.not_le.mpr tooHigh)
  · exact iff_of_false (by simp) fun accepted => accepted.2.2.1 node
  · exact iff_of_false (by simp) fun accepted => fresh.mp present accepted.2.2.2.1
  · rw [fresh, not_not] at present
    simp only [not_or, UInt32.not_lt] at rate
    constructor
    · intro built
      exact ⟨channels, rate, node, present, (Except.ok.inj built).symm⟩
    · rintro ⟨_, _, _, _, rfl⟩
      rfl

theorem removeEndpoint_eq_ok_iff {graph reduced : RoutingGraph F} {id : EndpointId}
    {endpoint : EndpointDescriptor} :
    graph.removeEndpoint id = .ok (endpoint, reduced) ↔
      (∀ route ∈ graph.routes.valuesInOrder, route.source ≠ id ∧ route.sink ≠ id) ∧
        graph.endpoints[id]? = some endpoint ∧
        reduced = { graph with endpoints := graph.endpoints.erase id } := by
  unfold removeEndpoint
  split_ifs with used
  · simp only [false_iff, not_and]
    intro unused
    simp only [List.any_eq_true, Bool.or_eq_true, decide_eq_true_eq] at used
    obtain ⟨route, routeMem, uses⟩ := used
    have := unused route routeMem
    tauto
  · have unused : ∀ route ∈ graph.routes.valuesInOrder, route.source ≠ id ∧ route.sink ≠ id := by
      simpa using used
    cases graph.endpoints[id]? with
    | none => simp
    | some found =>
        simp only [Except.ok.injEq, Prod.mk.injEq, Option.some.injEq]
        constructor
        · rintro ⟨same, erased⟩
          exact ⟨unused, same, erased.symm⟩
        · rintro ⟨-, same, erased⟩
          exact ⟨same, erased.symm⟩

theorem removeRoute_eq_ok_iff {graph reduced : RoutingGraph F} {id : RouteId} {route : Route F} :
    graph.removeRoute id = .ok (route, reduced) ↔
      graph.routes[id]? = some route ∧
        reduced = { graph with routes := graph.routes.erase id } := by
  unfold removeRoute
  cases graph.routes[id]? with
  | none => simp
  | some found => simp [eq_comm]

/-- What a call can do: leave the graph, or make one of four changes, each
with everything that the call checked. -/
theorem after_cases (graph : RoutingGraph F) (operation : Operation F) :
    graph.after operation = graph ∨
    (∃ endpoint, operation = .addEndpoint endpoint ∧
      graph.addEndpoint endpoint = .ok (graph.after operation)) ∨
    (∃ id endpoint, operation = .removeEndpoint id ∧
      graph.removeEndpoint id = .ok (endpoint, graph.after operation)) ∨
    (∃ route, operation = .addRoute route ∧
      graph.addRoute route = .ok (graph.after operation)) ∨
    (∃ id route, operation = .removeRoute id ∧
      graph.removeRoute id = .ok (route, graph.after operation)) := by
  cases operation with
  | addEndpoint endpoint =>
      cases result : graph.addEndpoint endpoint with
      | error failure => simp [after, apply, result]
      | ok changed => simp [after, apply, result]
  | removeEndpoint id =>
      cases result : graph.removeEndpoint id with
      | error failure => simp [after, apply, result, Except.map]
      | ok changed =>
          right; right; left
          exact ⟨id, changed.1, rfl, by simp [after, apply, result, Except.map]⟩
  | addRoute route =>
      cases result : graph.addRoute route with
      | error failure => simp [after, apply, result]
      | ok changed => simp [after, apply, result]
  | removeRoute id =>
      cases result : graph.removeRoute id with
      | error failure => simp [after, apply, result, Except.map]
      | ok changed =>
          right; right; right; right
          exact ⟨id, changed.1, rfl, by simp [after, apply, result, Except.map]⟩

/-! ## Well-formed graphs -/

/-- Every entry sits under its own identifier, every endpoint has channels and
a supported rate, and every route matches the endpoints that it names. -/
structure WellFormed (graph : RoutingGraph F) : Prop where
  endpoints_keyed : graph.endpoints.KeyedBy EndpointDescriptor.id
  routes_keyed : graph.routes.KeyedBy Route.id
  endpoint_valid : ∀ endpoint ∈ graph.endpoints.valuesInOrder,
    endpoint.channels ≠ 0 ∧ 8000 ≤ endpoint.sampleRate ∧ endpoint.sampleRate ≤ 768000
  route_matches : ∀ route ∈ graph.routes.valuesInOrder,
    ∃ source sink, RouteMatches graph.endpoints route source sink

theorem WellFormed.empty : (empty : RoutingGraph F).WellFormed where
  endpoints_keyed := ExtTreeMap.KeyedBy.empty
  routes_keyed := ExtTreeMap.KeyedBy.empty
  endpoint_valid := by simp [RoutingGraph.empty]
  route_matches := by simp [RoutingGraph.empty]

/-- Matching is kept when the named endpoints are. -/
theorem RouteMatches.congr {endpoints others : ExtTreeMap EndpointId EndpointDescriptor}
    {route : Route F} {source sink : EndpointDescriptor}
    (matched : RouteMatches endpoints route source sink)
    (sameSource : others[route.source]? = endpoints[route.source]?)
    (sameSink : others[route.sink]? = endpoints[route.sink]?) :
    RouteMatches others route source sink :=
  { matched with
    source_found := sameSource.trans matched.source_found
    sink_found := sameSink.trans matched.sink_found }

theorem RouteMatches.insert {endpoints : ExtTreeMap EndpointId EndpointDescriptor}
    {route : Route F} {source sink endpoint : EndpointDescriptor}
    (matched : RouteMatches endpoints route source sink)
    (fresh : endpoints[endpoint.id]? = none) :
    RouteMatches (endpoints.insert endpoint.id endpoint) route source sink := by
  have kept : ∀ (id : EndpointId) (found : EndpointDescriptor), endpoints[id]? = some found →
      (endpoints.insert endpoint.id endpoint)[id]? = endpoints[id]? := by
    intro id found present
    apply ExtTreeMap.getElem?_insert_of_ne
    rintro rfl
    rw [fresh] at present
    cases present
  exact matched.congr (kept _ _ matched.source_found) (kept _ _ matched.sink_found)

theorem WellFormed.addEndpoint {graph extended : RoutingGraph F} {endpoint : EndpointDescriptor}
    (wellFormed : graph.WellFormed) (added : graph.addEndpoint endpoint = .ok extended) :
    extended.WellFormed := by
  obtain ⟨channels, rate, _, fresh, rfl⟩ := addEndpoint_eq_ok_iff.mp added
  refine ⟨wellFormed.endpoints_keyed.insert endpoint, wellFormed.routes_keyed, ?_, ?_⟩
  · intro other otherMem
    rcases (ExtTreeMap.mem_valuesInOrder_insert fresh).mp otherMem with rfl | old
    · exact ⟨channels, rate⟩
    · exact wellFormed.endpoint_valid other old
  · intro route routeMem
    obtain ⟨source, sink, matched⟩ := wellFormed.route_matches route routeMem
    exact ⟨source, sink, matched.insert fresh⟩

theorem WellFormed.removeEndpoint {graph reduced : RoutingGraph F} {id : EndpointId}
    {endpoint : EndpointDescriptor} (wellFormed : graph.WellFormed)
    (removed : graph.removeEndpoint id = .ok (endpoint, reduced)) : reduced.WellFormed := by
  obtain ⟨unused, _, rfl⟩ := removeEndpoint_eq_ok_iff.mp removed
  refine ⟨wellFormed.endpoints_keyed.erase id, wellFormed.routes_keyed, ?_, ?_⟩
  · intro other otherMem
    exact wellFormed.endpoint_valid other (ExtTreeMap.mem_of_mem_valuesInOrder_erase otherMem)
  · intro route routeMem
    obtain ⟨source, sink, matched⟩ := wellFormed.route_matches route routeMem
    have other := unused route routeMem
    exact ⟨source, sink, matched.congr (ExtTreeMap.getElem?_erase_of_ne other.1.symm)
      (ExtTreeMap.getElem?_erase_of_ne other.2.symm)⟩

theorem WellFormed.addRoute {graph extended : RoutingGraph F} {route : Route F}
    (wellFormed : graph.WellFormed) (added : graph.addRoute route = .ok extended) :
    extended.WellFormed := by
  obtain ⟨source, sink, fits, _, rfl⟩ := addRoute_eq_ok_iff.mp added
  refine ⟨wellFormed.endpoints_keyed, wellFormed.routes_keyed.insert route,
    wellFormed.endpoint_valid, ?_⟩
  intro other otherMem
  rcases (ExtTreeMap.mem_valuesInOrder_insert fits.fresh).mp otherMem with rfl | old
  · exact ⟨source, sink, fits.toRouteMatches⟩
  · exact wellFormed.route_matches other old

theorem WellFormed.removeRoute {graph reduced : RoutingGraph F} {id : RouteId} {route : Route F}
    (wellFormed : graph.WellFormed) (removed : graph.removeRoute id = .ok (route, reduced)) :
    reduced.WellFormed := by
  obtain ⟨_, rfl⟩ := removeRoute_eq_ok_iff.mp removed
  exact ⟨wellFormed.endpoints_keyed, wellFormed.routes_keyed.erase id,
    wellFormed.endpoint_valid, fun other otherMem => wellFormed.route_matches other
      (ExtTreeMap.mem_of_mem_valuesInOrder_erase otherMem)⟩

theorem WellFormed.after {graph : RoutingGraph F} (wellFormed : graph.WellFormed)
    (operation : Operation F) : (graph.after operation).WellFormed := by
  rcases graph.after_cases operation with same | ⟨_, _, added⟩ | ⟨_, _, _, removed⟩ |
    ⟨_, _, added⟩ | ⟨_, _, _, removed⟩
  · rw [same]
    exact wellFormed
  · exact wellFormed.addEndpoint added
  · exact wellFormed.removeEndpoint removed
  · exact wellFormed.addRoute added
  · exact wellFormed.removeRoute removed

theorem run_wellFormed (operations : List (Operation F)) : (run operations).WellFormed := by
  induction operations using List.reverseRecOn with
  | nil => exact WellFormed.empty
  | append_singleton operations operation ih =>
      rw [run_append_singleton]
      exact ih.after operation

/-! ## Feedback loops -/

theorem FeedbackFree.empty : (empty : RoutingGraph F).FeedbackFree := by
  intro node closed
  obtain ⟨_, ⟨_, endpointMem, _⟩, _⟩ := (TransGen.head'_iff.mp closed).choose_spec.1
  simp [RoutingGraph.empty] at endpointMem

/-- Fewer routes and fewer loopback nodes leave fewer closed walks. -/
theorem FeedbackFree.mono {graph smaller : RoutingGraph F} (feedbackFree : graph.FeedbackFree)
    (loopback : ∀ node, smaller.HasLoopback node → graph.HasLoopback node)
    (joins : ∀ first second, smaller.Joins first second → graph.Joins first second) :
    smaller.FeedbackFree :=
  Acyclic.mono (fun _ _ edge => ⟨loopback _ edge.1, loopback _ edge.2.1, joins _ _ edge.2.2⟩)
    feedbackFree

theorem joins_insert_route {graph : RoutingGraph F} {route : Route F}
    {source sink : EndpointDescriptor} (fits : graph.RouteFits route source sink)
    (first second : String) :
    RoutingGraph.Joins { graph with routes := graph.routes.insert route.id route } first second ↔
      graph.Joins first second ∨ (first = source.node ∧ second = sink.node) := by
  simp only [Joins, ExtTreeMap.mem_valuesInOrder_insert fits.fresh]
  constructor
  · rintro ⟨other, rfl | old, otherSource, otherSink, sourceFound, sinkFound, rfl, rfl⟩
    · rw [fits.source_found, Option.some.injEq] at sourceFound
      rw [fits.sink_found, Option.some.injEq] at sinkFound
      subst sourceFound sinkFound
      exact Or.inr ⟨rfl, rfl⟩
    · exact Or.inl ⟨other, old, otherSource, otherSink, sourceFound, sinkFound, rfl, rfl⟩
  · rintro (⟨other, old, ends⟩ | ⟨rfl, rfl⟩)
    · exact ⟨other, Or.inr old, ends⟩
    · exact ⟨route, Or.inl rfl, source, sink, fits.source_found, fits.sink_found, rfl, rfl⟩

/-- The check of `add_route` is exact: a fitting route keeps the graph free of
feedback exactly when no walk leads from its sink back to its source. -/
theorem feedbackFree_insert_route_iff {graph : RoutingGraph F} {route : Route F}
    {source sink : EndpointDescriptor} (fits : graph.RouteFits route source sink) :
    RoutingGraph.FeedbackFree { graph with routes := graph.routes.insert route.id route } ↔
      graph.FeedbackFree ∧ ¬ graph.LoopbackWalk sink.node source.node := by
  have joins := joins_insert_route fits
  by_cases loopback : graph.HasLoopback source.node ∧ graph.HasLoopback sink.node
  · have stepEq : RoutingGraph.LoopbackStep
        { graph with routes := graph.routes.insert route.id route } =
          InsertEdge graph.LoopbackStep source.node sink.node := by
      funext first second
      apply propext
      constructor
      · rintro ⟨firstLoopback, secondLoopback, joined⟩
        rcases (joins first second).mp joined with old | new
        · exact Or.inl ⟨firstLoopback, secondLoopback, old⟩
        · exact Or.inr new
      · rintro (⟨firstLoopback, secondLoopback, old⟩ | ⟨rfl, rfl⟩)
        · exact ⟨firstLoopback, secondLoopback, (joins first second).mpr (Or.inl old)⟩
        · exact ⟨loopback.1, loopback.2, (joins _ _).mpr (Or.inr ⟨rfl, rfl⟩)⟩
    rw [FeedbackFree, stepEq, acyclic_insertEdge_iff, LoopbackWalk, hasWalk_iff_reflTransGen]
    simp only [loopback.2, true_and]
    rfl
  · have noWalk : ¬ graph.LoopbackWalk sink.node source.node := by
      intro walk
      have reachable := hasWalk_iff_reflTransGen.mp walk
      apply loopback
      refine ⟨?_, reachable.1⟩
      rcases ReflTransGen.cases_tail reachable.2 with same | ⟨_, _, edge⟩
      · rw [same]
        exact reachable.1
      · exact edge.2.1
    have stepEq : RoutingGraph.LoopbackStep
        { graph with routes := graph.routes.insert route.id route } = graph.LoopbackStep := by
      funext first second
      apply propext
      constructor
      · rintro ⟨firstLoopback, secondLoopback, joined⟩
        rcases (joins first second).mp joined with old | ⟨rfl, rfl⟩
        · exact ⟨firstLoopback, secondLoopback, old⟩
        · exact (loopback ⟨firstLoopback, secondLoopback⟩).elim
      · rintro ⟨firstLoopback, secondLoopback, old⟩
        exact ⟨firstLoopback, secondLoopback, (joins first second).mpr (Or.inl old)⟩
    rw [FeedbackFree, stepEq]
    exact ⟨fun feedbackFree => ⟨feedbackFree, noWalk⟩, fun both => both.1⟩

theorem hasLoopback_insert_endpoint {graph : RoutingGraph F} {endpoint : EndpointDescriptor}
    (fresh : graph.endpoints[endpoint.id]? = none) (node : String) :
    RoutingGraph.HasLoopback
        { graph with endpoints := graph.endpoints.insert endpoint.id endpoint } node ↔
      graph.HasLoopback node ∨ (endpoint.isLoopback = true ∧ node = endpoint.node) := by
  simp only [HasLoopback, ExtTreeMap.mem_valuesInOrder_insert fresh]
  constructor
  · rintro ⟨other, rfl | old, rfl, loopback⟩
    · exact Or.inr ⟨loopback, rfl⟩
    · exact Or.inl ⟨other, old, rfl, loopback⟩
  · rintro (⟨other, old, ends⟩ | ⟨loopback, rfl⟩)
    · exact ⟨other, Or.inr old, ends⟩
    · exact ⟨endpoint, Or.inl rfl, rfl, loopback⟩

theorem joins_insert_endpoint {graph : RoutingGraph F} {endpoint : EndpointDescriptor}
    (wellFormed : graph.WellFormed) (fresh : graph.endpoints[endpoint.id]? = none)
    (first second : String) :
    RoutingGraph.Joins
        { graph with endpoints := graph.endpoints.insert endpoint.id endpoint } first second ↔
      graph.Joins first second := by
  unfold Joins
  refine exists_congr fun route => and_congr_right fun routeMem => ?_
  obtain ⟨source, sink, matched⟩ := wellFormed.route_matches route routeMem
  have extended := matched.insert fresh
  simp only [matched.source_found, matched.sink_found, extended.source_found,
    extended.sink_found]

theorem joins_erase_endpoint {graph : RoutingGraph F} {id : EndpointId}
    (unused : ∀ route ∈ graph.routes.valuesInOrder, route.source ≠ id ∧ route.sink ≠ id)
    (first second : String) :
    RoutingGraph.Joins { graph with endpoints := graph.endpoints.erase id } first second ↔
      graph.Joins first second := by
  unfold Joins
  refine exists_congr fun route => and_congr_right fun routeMem => ?_
  have other := unused route routeMem
  simp only [ExtTreeMap.getElem?_erase_of_ne other.1.symm,
    ExtTreeMap.getElem?_erase_of_ne other.2.symm]

/-- The call that `add_route`'s check does not cover: an accepted loopback
endpoint whose node lies on a closed walk of existing routes that visits only
loopback nodes besides it. -/
def ClosesLoop (graph : RoutingGraph F) (operation : Operation F) : Prop :=
  ∃ endpoint extended, operation = .addEndpoint endpoint ∧
    graph.addEndpoint endpoint = .ok extended ∧ endpoint.isLoopback = true ∧
      Encloses graph.HasLoopback graph.Joins endpoint.node

theorem feedbackFree_addEndpoint_iff {graph extended : RoutingGraph F}
    {endpoint : EndpointDescriptor} (wellFormed : graph.WellFormed)
    (added : graph.addEndpoint endpoint = .ok extended) :
    extended.FeedbackFree ↔
      graph.FeedbackFree ∧ ¬ (endpoint.isLoopback = true ∧
        Encloses graph.HasLoopback graph.Joins endpoint.node) := by
  obtain ⟨_, _, _, fresh, rfl⟩ := addEndpoint_eq_ok_iff.mp added
  have joinsEq : RoutingGraph.Joins
      { graph with endpoints := graph.endpoints.insert endpoint.id endpoint } = graph.Joins := by
    funext first second
    exact propext (joins_insert_endpoint wellFormed fresh first second)
  rw [FeedbackFree, LoopbackStep, joinsEq]
  by_cases loopback : endpoint.isLoopback = true
  · have loopbackEq : RoutingGraph.HasLoopback
        { graph with endpoints := graph.endpoints.insert endpoint.id endpoint } =
          Admit graph.HasLoopback endpoint.node := by
      funext node
      apply propext
      rw [hasLoopback_insert_endpoint fresh, Admit]
      simp [loopback]
    rw [loopbackEq, acyclic_within_admit_iff]
    simp only [loopback, true_and]
    rfl
  · have loopbackEq : RoutingGraph.HasLoopback
        { graph with endpoints := graph.endpoints.insert endpoint.id endpoint } =
          graph.HasLoopback := by
      funext node
      apply propext
      rw [hasLoopback_insert_endpoint fresh]
      simp [loopback]
    rw [loopbackEq]
    simp only [loopback, Bool.false_eq_true, false_and, not_false_eq_true, and_true]
    rfl

theorem FeedbackFree.removeEndpoint {graph reduced : RoutingGraph F} {id : EndpointId}
    {endpoint : EndpointDescriptor} (feedbackFree : graph.FeedbackFree)
    (removed : graph.removeEndpoint id = .ok (endpoint, reduced)) : reduced.FeedbackFree := by
  obtain ⟨unused, _, rfl⟩ := removeEndpoint_eq_ok_iff.mp removed
  apply feedbackFree.mono
  · rintro node ⟨other, otherMem, ends⟩
    exact ⟨other, ExtTreeMap.mem_of_mem_valuesInOrder_erase otherMem, ends⟩
  · exact fun first second => (joins_erase_endpoint unused first second).mp

theorem FeedbackFree.removeRoute {graph reduced : RoutingGraph F} {id : RouteId}
    {route : Route F} (feedbackFree : graph.FeedbackFree)
    (removed : graph.removeRoute id = .ok (route, reduced)) : reduced.FeedbackFree := by
  obtain ⟨_, rfl⟩ := removeRoute_eq_ok_iff.mp removed
  apply feedbackFree.mono
  · exact fun _ loopback => loopback
  · rintro first second ⟨other, otherMem, ends⟩
    exact ⟨other, ExtTreeMap.mem_of_mem_valuesInOrder_erase otherMem, ends⟩

/-- One call, from a graph without feedback: a loop appears exactly through
the call that the cycle check does not cover. -/
theorem feedbackFree_after_iff {graph : RoutingGraph F} (wellFormed : graph.WellFormed)
    (feedbackFree : graph.FeedbackFree) (operation : Operation F) :
    (graph.after operation).FeedbackFree ↔ ¬ graph.ClosesLoop operation := by
  rcases graph.after_cases operation with same | ⟨endpoint, rfl, added⟩ |
    ⟨id, _, rfl, removed⟩ | ⟨route, rfl, added⟩ | ⟨id, _, rfl, removed⟩
  · rw [same]
    refine iff_of_true feedbackFree ?_
    rintro ⟨endpoint, extended, rfl, added, loopback, encloses⟩
    have changed : extended = graph := by
      rw [← same]
      simp [RoutingGraph.after, apply, added]
    rw [changed] at added
    obtain ⟨_, _, _, fresh, grown⟩ := addEndpoint_eq_ok_iff.mp added
    have found := congrArg (fun grown : RoutingGraph F => grown.endpoints[endpoint.id]?) grown
    simp [fresh] at found
  · rw [feedbackFree_addEndpoint_iff wellFormed added]
    constructor
    · rintro ⟨_, safe⟩ ⟨other, _, otherEq, _, closes⟩
      cases otherEq
      exact safe closes
    · intro safe
      exact ⟨feedbackFree, fun closes => safe ⟨endpoint, _, rfl, added, closes⟩⟩
  · exact iff_of_true (feedbackFree.removeEndpoint removed) (by rintro ⟨_, _, ⟨⟩, _⟩)
  · obtain ⟨source, sink, fits, noWalk, grown⟩ := addRoute_eq_ok_iff.mp added
    rw [grown]
    exact iff_of_true ((feedbackFree_insert_route_iff fits).mpr ⟨feedbackFree, noWalk⟩)
      (by rintro ⟨_, _, ⟨⟩, _⟩)
  · exact iff_of_true (feedbackFree.removeRoute removed) (by rintro ⟨_, _, ⟨⟩, _⟩)

/-- In a run from the default graph no feedback loop ever exists exactly when
no call of the run closes one by adding a loopback endpoint. -/
theorem run_feedbackFree_iff (operations : List (Operation F)) :
    (∀ done, done <+: operations → (run done).FeedbackFree) ↔
      ∀ done operation, done ++ [operation] <+: operations →
        ¬ (run done).ClosesLoop operation := by
  constructor
  · intro feedbackFree done operation isPrefix
    have before := feedbackFree done ((List.prefix_append _ _).trans isPrefix)
    have after := feedbackFree _ isPrefix
    rw [run_append_singleton, feedbackFree_after_iff (run_wellFormed done) before] at after
    exact after
  · intro safe done
    induction done using List.reverseRecOn with
    | nil => exact fun _ => FeedbackFree.empty
    | append_singleton done operation ih =>
        intro isPrefix
        rw [run_append_singleton, feedbackFree_after_iff (run_wellFormed done)
          (ih ((List.prefix_append _ _).trans isPrefix))]
        exact safe done operation isPrefix

/-- Two endpoints of one device, a route from its input to its output, and
then a loopback endpoint of the same device. -/
def lateLoopbackOperations : List (Operation ℚ) :=
  [.addEndpoint (testEndpoint "c.in" "c" .source false),
    .addEndpoint (testEndpoint "c.out" "c" .sink false),
    .addRoute (testRoute "monitor" "c.in" "c.out"),
    .addEndpoint (testEndpoint "c.loop" "c" .source true)]

/-- All four calls succeed, and the graph they build feeds `c` back to itself. -/
theorem run_lateLoopbackOperations_not_feedbackFree :
    (run lateLoopbackOperations).endpoints.size = 3 ∧
      (run lateLoopbackOperations).routes.size = 1 ∧
      ¬ (run lateLoopbackOperations).FeedbackFree := by
  refine ⟨by decide, by decide, ?_⟩
  intro feedbackFree
  have edge := mem_loopbackSuccessors.mp
    (by decide : "c" ∈ (run lateLoopbackOperations).loopbackSuccessors "c")
  exact feedbackFree "c" (TransGen.single ⟨edge.2, edge.2, edge.1⟩)

end VCable.RoutingGraph
