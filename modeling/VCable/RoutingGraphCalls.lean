import VCable.FallibleState
import VCable.RoutingGraphRuns

/-!
# Graph operations as methods

The four operations change the graph that they are called on, step by step: the
checks come first, and a removal takes its entry out before it looks whether
there was one.  Each method does what its operation says, so a call that fails
leaves the graph as it was.
-/

namespace VCable.RoutingGraph

open Std FallibleState

variable {F : Type} [SinglePrecision F]

/-- A method of the graph. -/
abbrev Method (F : Type) [SinglePrecision F] := FallibleState (RoutingGraph F) GraphError

/-- `return Err` under a condition. -/
def failIf (condition : Prop) [Decidable condition] (failure : GraphError) : Method F Unit :=
  if condition then fail failure else succeed ()

namespace Method

def addEndpoint (endpoint : EndpointDescriptor) : Method F Unit := do
  failIf (endpoint.channels = 0) .zeroChannels
  failIf (endpoint.sampleRate < 8000 ∨ endpoint.sampleRate > 768000)
    (.invalidSampleRate endpoint.sampleRate)
  failIf (endpoint.node.utf8ByteSize = 0 ∨ endpoint.node.utf8ByteSize > 255)
    (.invalidIdentifier endpoint.node)
  let present ← inspect fun graph => .ok (graph.endpoints.contains endpoint.id)
  failIf (present = true) (.endpointExists endpoint.id)
  change fun graph => { graph with endpoints := graph.endpoints.insert endpoint.id endpoint }

/-- `self.endpoints.remove`. -/
def takeEndpoint (id : EndpointId) : Method F (Option EndpointDescriptor) := fun graph =>
  (.ok graph.endpoints[id]?, { graph with endpoints := graph.endpoints.erase id })

def removeEndpoint (id : EndpointId) : Method F EndpointDescriptor := do
  let used ← inspect fun graph => .ok
    (graph.routes.valuesInOrder.any fun route => route.source = id || route.sink = id)
  failIf (used = true) (.endpointInUse id)
  let removed ← takeEndpoint id
  inspect fun _ => okOr (.endpointNotFound id) removed

def addRoute (route : Route F) : Method F Unit := do
  let present ← inspect fun graph => .ok (graph.routes.contains route.id)
  failIf (present = true) (.routeExists route.id)
  let source ← inspect fun graph =>
    okOr (.endpointNotFound route.source) graph.endpoints[route.source]?
  let sink ← inspect fun graph => okOr (.endpointNotFound route.sink) graph.endpoints[route.sink]?
  failIf (source.direction ≠ .source) (.sourceDirectionRequired source.id)
  failIf (sink.direction ≠ .sink) (.sinkDirectionRequired sink.id)
  failIf (route.matrix.inputChannels ≠ source.channels)
    (.matrixInputMismatch source.channels route.matrix.inputChannels)
  failIf (route.matrix.outputChannels ≠ sink.channels)
    (.matrixOutputMismatch sink.channels route.matrix.outputChannels)
  failIf (!SinglePrecision.isFinite route.gain) .gainNotFinite
  let cycle ← inspect fun graph => .ok (graph.pathExists sink.node source.node)
  failIf (cycle = true) (.cycleDetected source.node sink.node)
  change fun graph => { graph with routes := graph.routes.insert route.id route }

/-- `self.routes.remove`. -/
def takeRoute (id : RouteId) : Method F (Option (Route F)) := fun graph =>
  (.ok graph.routes[id]?, { graph with routes := graph.routes.erase id })

def removeRoute (id : RouteId) : Method F (Route F) := do
  let removed ← takeRoute id
  inspect fun _ => okOr (.routeNotFound id) removed

/-- The method that an operation calls, without what it returns. -/
def call : Operation F → Method F Unit
  | .addEndpoint endpoint => addEndpoint endpoint
  | .removeEndpoint id => do
      let _ ← removeEndpoint id
      succeed ()
  | .addRoute route => addRoute route
  | .removeRoute id => do
      let _ ← removeRoute id
      succeed ()

end Method

section Rules

variable {graph : RoutingGraph F} {α β : Type} {failure : GraphError}

theorem failIf_bind_of (condition : Prop) [Decidable condition] (next : Unit → Method F α) :
    (failIf condition failure >>= next) graph =
      if condition then (.error failure, graph) else next () graph := by
  unfold failIf
  split <;> rfl

theorem inspect_bind_ok (read : RoutingGraph F → β) (next : β → Method F α) :
    ((inspect fun graph => .ok (read graph)) >>= next : Method F α) graph =
      next (read graph) graph :=
  rfl

theorem inspect_bind_okOr (read : RoutingGraph F → Option β) (next : β → Method F α) :
    ((inspect fun graph => okOr failure (read graph)) >>= next : Method F α) graph =
      match read graph with
      | none => (.error failure, graph)
      | some value => next value graph := by
  cases found : read graph with
  | none => exact bind_apply_error (congrArg (fun found => (okOr failure found, graph)) found)
  | some value => exact bind_apply_ok (congrArg (fun found => (okOr failure found, graph)) found)

end Rules

/-- What a method does that comes to a result: it puts the new graph in place, or fails. -/
def outcome (graph : RoutingGraph F) :
    Except GraphError (RoutingGraph F) → Except GraphError Unit × RoutingGraph F
  | .ok changed => (.ok (), changed)
  | .error failure => (.error failure, graph)

theorem outcome_snd (graph : RoutingGraph F) (operation : Operation F) :
    (graph.outcome (graph.apply operation)).2 = graph.after operation := by
  unfold after
  cases graph.apply operation <;> rfl

theorem outcome_ite (graph : RoutingGraph F) (condition : Prop) [Decidable condition]
    (first second : Except GraphError (RoutingGraph F)) :
    graph.outcome (if condition then first else second) =
      if condition then graph.outcome first else graph.outcome second :=
  apply_ite _ _ _ _

theorem call_addEndpoint (graph : RoutingGraph F) (endpoint : EndpointDescriptor) :
    Method.addEndpoint endpoint graph = graph.outcome (graph.addEndpoint endpoint) := by
  unfold Method.addEndpoint RoutingGraph.addEndpoint
  simp only [failIf_bind_of, inspect_bind_ok, outcome_ite]
  rfl

theorem call_addRoute (graph : RoutingGraph F) (route : Route F) :
    Method.addRoute route graph = graph.outcome (graph.addRoute route) := by
  unfold Method.addRoute RoutingGraph.addRoute
  simp only [failIf_bind_of, inspect_bind_ok, inspect_bind_okOr, outcome_ite]
  cases graph.endpoints[route.source]? with
  | none => rfl
  | some source =>
      cases graph.endpoints[route.sink]? with
      | none => rfl
      | some sink =>
          simp only [outcome_ite]
          rfl

theorem call_removeEndpoint (graph : RoutingGraph F) (id : EndpointId) :
    Method.call (.removeEndpoint id) graph =
      graph.outcome ((graph.removeEndpoint id).map Prod.snd) := by
  have removed : Method.removeEndpoint id graph =
      if (graph.routes.valuesInOrder.any fun route => route.source = id || route.sink = id) = true
      then (.error (.endpointInUse id), graph)
      else
        (okOr (.endpointNotFound id) graph.endpoints[id]?,
          { graph with endpoints := graph.endpoints.erase id }) := by
    unfold Method.removeEndpoint
    simp only [failIf_bind_of, inspect_bind_ok]
    rfl
  unfold RoutingGraph.removeEndpoint
  split_ifs at removed ⊢ with used
  · exact bind_apply_error removed
  · cases found : graph.endpoints[id]? with
    | none =>
        -- Taking out what is not there changes nothing.
        rw [found, ExtTreeMap.erase_of_none found] at removed
        exact bind_apply_error removed
    | some endpoint =>
        rw [found] at removed
        exact bind_apply_ok removed

theorem call_removeRoute (graph : RoutingGraph F) (id : RouteId) :
    Method.call (.removeRoute id) graph = graph.outcome ((graph.removeRoute id).map Prod.snd) := by
  have removed : Method.removeRoute id graph =
      (okOr (.routeNotFound id) graph.routes[id]?,
        { graph with routes := graph.routes.erase id }) := rfl
  unfold RoutingGraph.removeRoute
  cases found : graph.routes[id]? with
  | none =>
      rw [found, ExtTreeMap.erase_of_none found] at removed
      exact bind_apply_error removed
  | some route =>
      rw [found] at removed
      exact bind_apply_ok removed

/-- Every method does what its operation says. -/
theorem call_eq (graph : RoutingGraph F) (operation : Operation F) :
    Method.call operation graph = graph.outcome (graph.apply operation) := by
  cases operation with
  | addEndpoint endpoint => exact call_addEndpoint graph endpoint
  | removeEndpoint id => exact call_removeEndpoint graph id
  | addRoute route => exact call_addRoute graph route
  | removeRoute id => exact call_removeRoute graph id

/-- The graph after a sequence of calls that starts from the default graph. -/
def called (operations : List (Operation F)) : RoutingGraph F :=
  operations.foldl (fun graph operation => (Method.call operation graph).2) empty

theorem called_eq_run (operations : List (Operation F)) : called operations = run operations := by
  simp only [called, call_eq, outcome_snd]
  rfl

/-- A call that fails leaves the graph as it was. -/
theorem call_failed {graph : RoutingGraph F} {operation : Operation F} {failure : GraphError}
    (failed : (Method.call operation graph).1 = .error failure) :
    (Method.call operation graph).2 = graph := by
  rw [call_eq] at failed ⊢
  cases applied : graph.apply operation with
  | error _ => rfl
  | ok changed =>
      rw [applied] at failed
      cases failed

end VCable.RoutingGraph
