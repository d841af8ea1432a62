import VCable.FallibleState
import VCable.RouterRings
import VCable.StateFile

/-!
# The daemon

The state of `vcabled` and its requests.  The calls into Core Audio and the
file system are given, for each request, by what they come to: the first time
that a request makes a call, and again when it rolls back.
-/

namespace VCable

open Std Utf8Text FallibleState

structure AudioDevice where
  objectId : UInt32
  uid : String
  name : String
  inputChannels : UInt32
  outputChannels : UInt32
  sampleRate : UInt32
  isVcable : Bool
  isVirtual : Bool
  deriving DecidableEq, Repr

structure AudioRoute (F : Type) where
  sourceDeviceId : UInt32
  sinkDeviceId : UInt32
  sourceChannels : UInt32
  sinkChannels : UInt32
  sourceSampleRate : UInt32
  sinkSampleRate : UInt32
  matrix : List F
  gain : F
  deriving DecidableEq

inductive CoreAudioError where
  | unsupportedPlatform
  | osStatus (status : Int32)
  | invalidProperty (name : String)
  | invalidUtf8
  | driverNotInstalled
  | driverRejected (message : String)
  | deviceChangeTimeout (uid : String) (expectedPresent : Bool)
  | invalidRoute (message : String)
  deriving DecidableEq

inductive DaemonError where
  | coreAudio (error : CoreAudioError)
  | graph (error : GraphError)
  | matrix (error : MatrixError)
  | io (error : IoError)
  | invalidDeviceId (id : String)
  | deviceInUse (id : String)
  | routeExists (id : String)
  | routeNotFound (id : String)
  | endpointNotFound (id : String)
  | matrixRequired (inputs outputs : Nat)
  | state (message : String)
  deriving DecidableEq

/-- `DaemonError::code`. -/
def DaemonError.code : DaemonError → String
  | .coreAudio _ => "core_audio"
  | .graph _ => "invalid_graph"
  | .matrix _ | .matrixRequired _ _ => "invalid_matrix"
  | .io _ | .state _ => "state_io"
  | .invalidDeviceId _ => "invalid_device_id"
  | .deviceInUse _ => "device_in_use"
  | .routeExists _ => "route_exists"
  | .routeNotFound _ => "route_not_found"
  | .endpointNotFound _ => "endpoint_not_found"

/-- The router is known by the routes that it was started with. -/
structure DaemonState (F : Type) [SinglePrecision F] where
  graph : RoutingGraph F
  routes : SavedRoutes
  endpointDevices : ExtTreeMap String AudioDevice
  router : Option (List (AudioRoute F))
  statePath : DiskPath

/-- The daemon together with the disk that it writes to. -/
structure World (F : Type) [SinglePrecision F] extends DaemonState F where
  disk : Disk

/-- A method of the daemon. -/
abbrev Daemon (F : Type) [SinglePrecision F] := FallibleState (World F) DaemonError

/-- What saving, listing the devices and starting a router come to. -/
structure Phase where
  save : Option SaveFault
  listing : Except CoreAudioError (List AudioDevice)
  start : Option CoreAudioError

/-- What the calls of one request come to. -/
structure Environment where
  create : Option CoreAudioError
  delete : Option CoreAudioError
  metrics : RouterMetrics
  attempt : Phase
  rollback : Phase

/-! ## Endpoints -/

/-- The encoding of a byte by `endpoint_id`. -/
def endpointIdByte (byte : UInt8) : List Char :=
  if isAsciiAlphanumeric byte || identifierPunctuation.contains byte then [asciiChar byte]
  else '_' :: (IntegerText.hexByte byte).map Char.toLower

def endpointId (uid direction : String) : String :=
  "audio:" ++ String.ofList ((bytes uid).flatMap endpointIdByte) ++ ":" ++ direction

/-- The bytes of a device identifier besides letters and digits. -/
def deviceIdPunctuation : List UInt8 := bytes "._-"

def isValidDeviceId (id : String) : Bool :=
  !(id.utf8ByteSize = 0 || id.utf8ByteSize > 128 ||
    !(bytes id).all fun byte => isAsciiAlphanumeric byte || deviceIdPunctuation.contains byte)

def validateDeviceId (id : String) : Except DaemonError Unit :=
  if isValidDeviceId id then .ok () else .error (.invalidDeviceId id)

namespace AudioDevice

/-- The channels of a device on one side: its inputs are a source. -/
def channels (device : AudioDevice) : EndpointDirection → UInt32
  | .source => device.inputChannels
  | .sink => device.outputChannels

/-- The identifier of a device's endpoint on one side. -/
def endpointId (device : AudioDevice) : EndpointDirection → String
  | .source => VCable.endpointId device.uid "input"
  | .sink => VCable.endpointId device.uid "output"

end AudioDevice

/-- The endpoints of the listed devices, and the devices by endpoint. -/
structure Listed (F : Type) [SinglePrecision F] where
  graph : RoutingGraph F
  endpointDevices : ExtTreeMap String AudioDevice

namespace Listed

variable {F : Type} [SinglePrecision F]

def empty : Listed F where
  graph := .empty
  endpointDevices := ∅

/-- The branch of `refresh_endpoints` for one side of a device. -/
def addEndpoint (listed : Listed F) (device : AudioDevice) (clock : ClockDomain)
    (direction : EndpointDirection) : Except DaemonError (Listed F) :=
  if device.channels direction = 0 then .ok listed
  else
    match EndpointId.new (device.endpointId direction) with
    | .error failure => .error (.graph failure)
    | .ok id =>
        match listed.graph.addEndpoint
          { id := id
            node := device.uid
            direction := direction
            channels := (device.channels direction).toNat
            sampleRate := device.sampleRate
            clockDomain := clock
            isLoopback := device.isVirtual } with
        | .error failure => .error (.graph failure)
        | .ok graph =>
            .ok
              { graph := graph
                endpointDevices :=
                  listed.endpointDevices.insert (device.endpointId direction) device }

/-- The body of the loop of `refresh_endpoints`. -/
def addDevice (listed : Listed F) (device : AudioDevice) : Except DaemonError (Listed F) :=
  match ClockDomain.new ("coreaudio:" ++ toString device.objectId.toNat) with
  | .error failure => .error (.graph failure)
  | .ok clock =>
      match listed.addEndpoint device clock .source with
      | .error failure => .error failure
      | .ok listed => listed.addEndpoint device clock .sink

/-- The loop of `refresh_endpoints`. -/
def addDevices (listed : Listed F) : List AudioDevice → Except DaemonError (Listed F)
  | [] => .ok listed
  | device :: devices =>
      match listed.addDevice device with
      | .error failure => .error failure
      | .ok listed => listed.addDevices devices

end Listed

section Methods

variable {F : Type} [SinglePrecision F]

/-- What `refresh_endpoints` finds, before it is put in place. -/
def listEndpoints (listing : Except CoreAudioError (List AudioDevice)) :
    Except DaemonError (Listed F) :=
  match listing with
  | .error failure => .error (.coreAudio failure)
  | .ok devices => Listed.empty.addDevices devices

def refreshEndpoints (listing : Except CoreAudioError (List AudioDevice)) : Daemon F Unit :=
  fun world =>
    match listEndpoints listing with
    | .error failure => (.error failure, world)
    | .ok listed =>
        (.ok (), { world with graph := listed.graph, endpointDevices := listed.endpointDevices })

/-! ## Routes -/

/-- The matrix of a saved route between endpoints with the given channels. -/
def routeMatrix (inputs outputs : Nat) (matrixMillionths : List Int32) :
    Except DaemonError (ChannelMatrix F) :=
  if matrixMillionths = [] then
    if inputs ≠ outputs then .error (.matrixRequired inputs outputs)
    else (ChannelMatrix.identity inputs).mapError .matrix
  else
    (ChannelMatrix.new outputs inputs
      (matrixMillionths.map fun value =>
        SinglePrecision.ofInt32 value / ((1000000 : Nat) : F))).mapError .matrix

/-- The linear gain of a route. -/
def routeGain (gainMillidb : Int32) : F :=
  let gainDb := SinglePrecision.ofInt32 gainMillidb / ((1000 : Nat) : F)
  SinglePrecision.powf ((10 : Nat) : F) (gainDb / ((20 : Nat) : F))

def buildRoute (endpoints : ExtTreeMap EndpointId EndpointDescriptor) (saved : SavedRoute) :
    Except DaemonError (Route F) := do
  let sourceId ← (EndpointId.new saved.source).mapError DaemonError.graph
  let sinkId ← (EndpointId.new saved.sink).mapError DaemonError.graph
  let source ← okOr (.endpointNotFound saved.source) endpoints[sourceId]?
  let sink ← okOr (.endpointNotFound saved.sink) endpoints[sinkId]?
  let coefficients ← routeMatrix source.channels sink.channels saved.matrixMillionths
  let id ← (RouteId.new saved.id).mapError DaemonError.graph
  return {
    id := id
    source := sourceId
    sink := sinkId
    gain := routeGain saved.gainMillidb
    matrix := coefficients }

/-- The loop of `restore_routes`: the graph keeps the routes before an error. -/
def addSavedRoutes (graph : RoutingGraph F) :
    List SavedRoute → Except DaemonError Unit × RoutingGraph F
  | [] => (.ok (), graph)
  | saved :: rest =>
      match buildRoute graph.endpoints saved with
      | .error failure => (.error failure, graph)
      | .ok route =>
          match graph.addRoute route with
          | .error failure => (.error (.graph failure), graph)
          | .ok graph => addSavedRoutes graph rest

def restoreRoutes : Daemon F Unit := fun world =>
  let restored := addSavedRoutes world.graph world.routes.values
  (restored.1, { world with graph := restored.2 })

/-- `self.graph.add_route(route)?`. -/
def addRoute (route : Route F) : Daemon F Unit := fun world =>
  match world.graph.addRoute route with
  | .error failure => (.error (.graph failure), world)
  | .ok graph => (.ok (), { world with graph := graph })

/-- `self.routes.insert`, and whether there was a route before. -/
def insertRoute (saved : SavedRoute) : Daemon F Bool := fun world =>
  (.ok (world.routes.map.contains saved.id), { world with routes := world.routes.insert saved })

/-- `self.routes.remove`. -/
def removeRoute (id : String) : Daemon F (Option SavedRoute) := fun world =>
  (.ok world.routes.map[id]?, { world with routes := world.routes.remove id })

/-- The `AudioRoute` that `restart_router` makes of a route. -/
def audioRoute (endpointDevices : ExtTreeMap String AudioDevice) (route : Route F) :
    Except DaemonError (AudioRoute F) := do
  let source ← okOr (.endpointNotFound route.source.value) endpointDevices[route.source.value]?
  let sink ← okOr (.endpointNotFound route.sink.value) endpointDevices[route.sink.value]?
  return {
    sourceDeviceId := source.objectId
    sinkDeviceId := sink.objectId
    sourceChannels := source.inputChannels
    sinkChannels := sink.outputChannels
    sourceSampleRate := source.sampleRate
    sinkSampleRate := sink.sampleRate
    matrix := route.matrix.coefficients
    gain := route.gain }

/-- What `restart_router` returns, and the router that runs afterwards; `start`
is the error of `AudioRouter::start`, if any. -/
def launchRouter (start : Option CoreAudioError) (graph : RoutingGraph F)
    (endpointDevices : ExtTreeMap String AudioDevice) :
    Except DaemonError Unit × Option (List (AudioRoute F)) :=
  match graph.routes.valuesInOrder.mapM (audioRoute endpointDevices) with
  | .error failure => (.error failure, none)
  | .ok [] => (.ok (), none)
  | .ok routes =>
      match start with
      | some failure => (.error (.coreAudio failure), none)
      | none => (.ok (), some routes)

def restartRouter (start : Option CoreAudioError) : Daemon F Unit := fun world =>
  let launched := launchRouter start world.graph world.endpointDevices
  (launched.1, { world with router := launched.2 })

/-- The error that `save_routes` returns. -/
def SaveError.toDaemonError : SaveError → DaemonError
  | .noParent => .state "state path has no parent directory"
  | .io error => .io error

def saveRoutes (fault : Option SaveFault) : Daemon F Unit := fun world =>
  let written := writeState world.statePath world.routes.content fault world.disk
  (written.1.mapError SaveError.toDaemonError, { world with disk := written.2 })

/-! ## Requests -/

/-- The text of a direction in `status`. -/
def EndpointDirection.debug : EndpointDirection → String
  | .source => "Source"
  | .sink => "Sink"

def status (metrics : RouterMetrics) (world : World F) : String :=
  let endpoints := world.graph.endpoints.valuesInOrder.map fun endpoint =>
    "\t".intercalate ["endpoint", endpoint.id.value, endpoint.direction.debug,
      toString endpoint.channels ++ "ch", toString endpoint.sampleRate.toNat ++ "Hz",
      endpoint.clockDomain.value]
  let routes := world.graph.routes.valuesInOrder.map fun route =>
    "\t".intercalate ["route", route.id.value, route.source.value, route.sink.value,
      SinglePrecision.fixed 6 route.gain]
  let router :=
    if world.router.isSome then
      ["\t".intercalate ["metrics", "underruns=" ++ toString metrics.underruns.toNat,
        "overruns=" ++ toString metrics.overruns.toNat,
        "format_errors=" ++ toString metrics.formatErrors.toNat]]
    else []
  "\n".intercalate (endpoints ++ routes ++ router)

/-- Whether a saved route uses an endpoint of the device with the given UID. -/
def isReferenced (world : World F) (node : String) : Bool :=
  world.routes.values.any fun route =>
    [route.source, route.sink].any fun endpoint =>
      match world.endpointDevices[endpoint]? with
      | some device => device.uid = node
      | none => false

/-- A call into Core Audio that fails with the given error, if any. -/
def coreAudioCall (failure : Option CoreAudioError) : Except DaemonError Unit :=
  match failure with
  | some failure => .error (.coreAudio failure)
  | none => .ok ()

/-- The prefix of the UIDs of the devices that the driver makes. -/
def virtualDeviceUid (id : String) : String :=
  "dev.vcable.device." ++ id

/-- The branch of `handle` for `Request::CreateDevice`. -/
def createDevice (environment : Environment) (id : String) : Daemon F String := do
  inspect fun _ => validateDeviceId id
  inspect fun _ => coreAudioCall environment.create
  refreshEndpoints environment.attempt.listing
  restoreRoutes
  return "created " ++ id

/-- The branch of `handle` for `Request::DeleteDevice`. -/
def deleteDevice (environment : Environment) (id : String) : Daemon F String := do
  inspect fun _ => validateDeviceId id
  inspect fun world =>
    if isReferenced world (virtualDeviceUid id) then .error (.deviceInUse id) else .ok ()
  inspect fun _ => coreAudioCall environment.delete
  refreshEndpoints environment.attempt.listing
  restoreRoutes
  return "deleted " ++ id

/-- The part of `Connect` after the route is in the graph and in the map. -/
def commitConnect (environment : Environment) (id : String) : Daemon F String := do
  onError (saveRoutes environment.attempt.save) fun failure => do
    let _ ← removeRoute id
    restoreRoutes
    fail failure
  onError (restartRouter environment.attempt.start) fun failure => do
    let _ ← removeRoute id
    saveRoutes environment.rollback.save
    refreshEndpoints environment.rollback.listing
    restoreRoutes
    restartRouter environment.rollback.start
    fail failure
  return "connected " ++ id

/-- The branch of `handle` for `Request::Connect`. -/
def connect (environment : Environment) (saved : SavedRoute) : Daemon F String := do
  let route ← inspect fun world => buildRoute world.graph.endpoints saved
  addRoute route
  if ← insertRoute saved then
    restoreRoutes
    fail (.routeExists saved.id)
  else
    commitConnect environment saved.id

/-- The part of `Disconnect` after the route is out of the map.  The route is
put back under the identifier that it was found under, which is its own. -/
def commitDisconnect (environment : Environment) (previous : SavedRoute) : Daemon F String := do
  onError (saveRoutes environment.attempt.save) fun failure => do
    let _ ← insertRoute previous
    fail failure
  refreshEndpoints environment.attempt.listing
  restoreRoutes
  onError (restartRouter environment.attempt.start) fun failure => do
    let _ ← insertRoute previous
    saveRoutes environment.rollback.save
    refreshEndpoints environment.rollback.listing
    restoreRoutes
    restartRouter environment.rollback.start
    fail failure
  return "disconnected " ++ previous.id

/-- The branch of `handle` for `Request::Disconnect`. -/
def disconnect (environment : Environment) (id : String) : Daemon F String := do
  match ← removeRoute id with
  | none => fail (.routeNotFound id)
  | some previous => commitDisconnect environment previous

def handle (environment : Environment) : Request → Daemon F String
  | .ping => pure "pong"
  | .status => inspect fun world => .ok (status environment.metrics world)
  | .shutdown => do
      change fun world => { world with router := none }
      return "shutting down"
  | .createDevice id _ _ _ _ => createDevice environment id
  | .deleteDevice id => deleteDevice environment id
  | .connect id source sink gainMillidb matrixMillionths =>
      connect environment ⟨id, source, sink, gainMillidb, matrixMillionths⟩
  | .disconnect id => disconnect environment id

/-! ## Startup -/

/-- `DaemonState::load`; `fault` is an error of opening or reading the file. -/
def load (path : DiskPath) (fault : Option IoError) (disk : Disk) :
    Except LoadError (World F) :=
  match disk.files path, fault with
  | some _, some failure => .error (.io failure)
  | content, _ => do
      let routes ← loadRoutes content
      return {
        graph := .empty
        routes := routes
        endpointDevices := ∅
        router := none
        statePath := path
        disk := disk }

/-- What `run` does with the loaded state before it serves requests. -/
def bringUp (phase : Phase) : Daemon F Unit := do
  refreshEndpoints phase.listing
  restoreRoutes
  restartRouter phase.start

end Methods

end VCable
