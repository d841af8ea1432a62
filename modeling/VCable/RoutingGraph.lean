import VCable.ChannelMatrix
import VCable.OrderedMaps
import VCable.Utf8Text
import VCable.WorklistSearch

/-!
# The routing graph

Endpoints, routes and the four operations of `RoutingGraph`.  Each operation
checks before it writes, so a failing call returns its error and the caller
keeps the graph it had.
-/

namespace VCable

open Std Utf8Text

/-- `u8::is_ascii_alphanumeric`. -/
def isAsciiAlphanumeric (byte : UInt8) : Bool :=
  (48 ≤ byte && byte ≤ 57) || (65 ≤ byte && byte ≤ 90) || (97 ≤ byte && byte ≤ 122)

/-- The bytes that an identifier may hold besides letters and digits: `._:-`. -/
def identifierPunctuation : List UInt8 := bytes "._:-"

/-- The two identifier types that `string_id!` declares. -/
inductive IdKind where
  | endpoint
  | route
  deriving DecidableEq, Repr

/-- The check made by the `new` of a `string_id!` type. -/
def isValidIdentifier (value : String) : Bool :=
  !(value.utf8ByteSize = 0 || value.utf8ByteSize > 255 ||
    !(bytes value).all fun byte =>
      isAsciiAlphanumeric byte || identifierPunctuation.contains byte)

/-- A `string_id!` type. -/
@[ext]
structure StringId (kind : IdKind) where
  value : String
  valid : isValidIdentifier value = true
  deriving DecidableEq

abbrev EndpointId := StringId .endpoint

abbrev RouteId := StringId .route

namespace StringId

variable {kind : IdKind}

/-- The derived order of a `string_id!` type is that of its text. -/
instance : Ord (StringId kind) := ⟨fun first second => compare first.value second.value⟩

instance : TransOrd (StringId kind) where
  eq_swap := @fun first second => @OrientedCmp.eq_swap String compare _ first.value second.value
  isLE_trans := @fun first second third =>
    @TransCmp.isLE_trans String compare _ first.value second.value third.value

instance : LawfulEqOrd (StringId kind) where
  compare_self := @fun id => @ReflCmp.compare_self String compare _ id.value
  eq_of_compare := fun same => StringId.ext (@LawfulEqCmp.eq_of_compare String compare _ _ _ same)

end StringId

inductive EndpointDirection where
  | source
  | sink
  deriving DecidableEq, Repr

/-- A clock domain name: not empty and at most 255 bytes. -/
@[ext]
structure ClockDomain where
  value : String
  valid : ¬ (value.utf8ByteSize = 0 ∨ value.utf8ByteSize > 255)
  deriving DecidableEq

@[ext]
structure EndpointDescriptor where
  id : EndpointId
  node : String
  direction : EndpointDirection
  channels : Nat
  sampleRate : UInt32
  clockDomain : ClockDomain
  /-- Whether this device inherently feeds its sink back to its source. -/
  isLoopback : Bool
  deriving DecidableEq

structure Route (F : Type) [SinglePrecision F] where
  id : RouteId
  source : EndpointId
  sink : EndpointId
  gain : F
  matrix : ChannelMatrix F

inductive GraphError where
  | invalidIdentifier (value : String)
  | zeroChannels
  | invalidSampleRate (rate : UInt32)
  | endpointExists (id : EndpointId)
  | endpointNotFound (id : EndpointId)
  | endpointInUse (id : EndpointId)
  | routeExists (id : RouteId)
  | routeNotFound (id : RouteId)
  | sourceDirectionRequired (id : EndpointId)
  | sinkDirectionRequired (id : EndpointId)
  | matrixInputMismatch (expected actual : Nat)
  | matrixOutputMismatch (expected actual : Nat)
  | gainNotFinite
  | cycleDetected (sourceNode sinkNode : String)
  | matrix (error : MatrixError)
  deriving DecidableEq

/-- The `new` of a `string_id!` type. -/
def StringId.new {kind : IdKind} (value : String) : Except GraphError (StringId kind) :=
  if valid : isValidIdentifier value = true then .ok ⟨value, valid⟩
  else .error (.invalidIdentifier value)

theorem StringId.new_eq_ok_iff {kind : IdKind} {value : String} {id : StringId kind} :
    StringId.new value = .ok id ↔ id.value = value := by
  unfold StringId.new
  constructor
  · intro built
    split at built
    · cases built
      rfl
    · cases built
  · rintro rfl
    rw [dif_pos id.valid]

/-- `EndpointId::new`. -/
def EndpointId.new (value : String) : Except GraphError EndpointId := StringId.new value

/-- `RouteId::new`. -/
def RouteId.new (value : String) : Except GraphError RouteId := StringId.new value

/-- `ClockDomain::new`. -/
def ClockDomain.new (value : String) : Except GraphError ClockDomain :=
  if invalid : value.utf8ByteSize = 0 ∨ value.utf8ByteSize > 255 then
    .error (.invalidIdentifier value)
  else .ok ⟨value, invalid⟩

/-- The endpoints and routes of a graph, each in a map under its identifier. -/
structure RoutingGraph (F : Type) [SinglePrecision F] where
  endpoints : ExtTreeMap EndpointId EndpointDescriptor
  routes : ExtTreeMap RouteId (Route F)

namespace RoutingGraph

variable {F : Type} [SinglePrecision F]

/-- `RoutingGraph::default`. -/
def empty : RoutingGraph F where
  endpoints := ∅
  routes := ∅

def addEndpoint (graph : RoutingGraph F) (endpoint : EndpointDescriptor) :
    Except GraphError (RoutingGraph F) :=
  if endpoint.channels = 0 then
    .error .zeroChannels
  else if endpoint.sampleRate < 8000 ∨ endpoint.sampleRate > 768000 then
    .error (.invalidSampleRate endpoint.sampleRate)
  else if endpoint.node.utf8ByteSize = 0 ∨ endpoint.node.utf8ByteSize > 255 then
    .error (.invalidIdentifier endpoint.node)
  else if graph.endpoints.contains endpoint.id then
    .error (.endpointExists endpoint.id)
  else
    .ok { graph with endpoints := graph.endpoints.insert endpoint.id endpoint }

def removeEndpoint (graph : RoutingGraph F) (id : EndpointId) :
    Except GraphError (EndpointDescriptor × RoutingGraph F) :=
  if graph.routes.valuesInOrder.any fun route => route.source = id || route.sink = id then
    .error (.endpointInUse id)
  else
    match graph.endpoints[id]? with
    | none => .error (.endpointNotFound id)
    | some endpoint => .ok (endpoint, { graph with endpoints := graph.endpoints.erase id })

def nodeIsLoopback (graph : RoutingGraph F) (node : String) : Bool :=
  graph.endpoints.valuesInOrder.any fun endpoint => endpoint.node = node && endpoint.isLoopback

/-- The sink node that the inner loop of `path_exists` pushes for one route
when it visits `node`. -/
def loopbackSuccessor (graph : RoutingGraph F) (node : String) (route : Route F) :
    Option String :=
  match graph.endpoints[route.source]? with
  | none => none
  | some source =>
      if source.node ≠ node then none
      else
        match graph.endpoints[route.sink]? with
        | none => none
        | some sink => if graph.nodeIsLoopback sink.node then some sink.node else none

/-- The nodes pushed by the inner loop of `path_exists`, in order. -/
def loopbackSuccessors (graph : RoutingGraph F) (node : String) : List String :=
  graph.routes.valuesInOrder.filterMap (graph.loopbackSuccessor node)

/-- The loop of `path_exists`, for a given number of passes. -/
def pathSearch (graph : RoutingGraph F) (fuel : Nat) (source target : String) :
    Option Bool :=
  WorklistSearch.search graph.loopbackSuccessors target fuel [source] []

/-- The loop gets two passes more than there are routes, which is enough for
it to finish (`pathSearch_terminates`). -/
def pathExists (graph : RoutingGraph F) (source target : String) : Bool :=
  if !graph.nodeIsLoopback source then false
  else (graph.pathSearch (graph.routes.size + 2) source target).getD false

def addRoute (graph : RoutingGraph F) (route : Route F) :
    Except GraphError (RoutingGraph F) :=
  if graph.routes.contains route.id then
    .error (.routeExists route.id)
  else
    match graph.endpoints[route.source]? with
    | none => .error (.endpointNotFound route.source)
    | some source =>
      match graph.endpoints[route.sink]? with
      | none => .error (.endpointNotFound route.sink)
      | some sink =>
        if source.direction ≠ .source then
          .error (.sourceDirectionRequired source.id)
        else if sink.direction ≠ .sink then
          .error (.sinkDirectionRequired sink.id)
        else if route.matrix.inputChannels ≠ source.channels then
          .error (.matrixInputMismatch source.channels route.matrix.inputChannels)
        else if route.matrix.outputChannels ≠ sink.channels then
          .error (.matrixOutputMismatch sink.channels route.matrix.outputChannels)
        else if !SinglePrecision.isFinite route.gain then
          .error .gainNotFinite
        else if graph.pathExists sink.node source.node then
          .error (.cycleDetected source.node sink.node)
        else
          .ok { graph with routes := graph.routes.insert route.id route }

def removeRoute (graph : RoutingGraph F) (id : RouteId) :
    Except GraphError (Route F × RoutingGraph F) :=
  match graph.routes[id]? with
  | none => .error (.routeNotFound id)
  | some route => .ok (route, { graph with routes := graph.routes.erase id })

/-- `addRoute` for each route of a list, stopping at the first error. -/
def addRoutes (graph : RoutingGraph F) (routes : List (Route F)) :
    Except GraphError (RoutingGraph F) :=
  routes.foldlM addRoute graph

end RoutingGraph

end VCable
