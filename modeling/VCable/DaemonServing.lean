import VCable.DaemonRoutes
import VCable.ProtocolRoundTrip

/-!
# Serving connections

The texts of the daemon's errors, the reply to a request, and the loop of `run`
over the incoming connections.  A request has taken its effect before its reply
is written, and the loop ends only after the reply to a `Shutdown`.
-/

namespace VCable

/-! ## Error texts -/

def MatrixError.text : MatrixError → String
  | .zeroChannels => "channel counts must be greater than zero"
  | .wrongCoefficientCount expected actual =>
      "expected " ++ toString expected ++ " coefficients, received " ++ toString actual
  | .nonFiniteCoefficient index => "coefficient " ++ toString index ++ " is not finite"
  | .bufferLengthMismatch => "audio buffer length does not match the matrix"
  | .frameCountOverflow => "frame count overflows the audio buffer length"

def GraphError.text : GraphError → String
  | .invalidIdentifier value => "invalid identifier: " ++ value
  | .zeroChannels => "endpoint channel count must be greater than zero"
  | .invalidSampleRate rate => "invalid sample rate: " ++ toString rate.toNat
  | .endpointExists id => "endpoint already exists: " ++ id.value
  | .endpointNotFound id => "endpoint not found: " ++ id.value
  | .endpointInUse id => "endpoint is referenced by a route: " ++ id.value
  | .routeExists id => "route already exists: " ++ id.value
  | .routeNotFound id => "route not found: " ++ id.value
  | .sourceDirectionRequired id => "endpoint is not a source: " ++ id.value
  | .sinkDirectionRequired id => "endpoint is not a sink: " ++ id.value
  | .matrixInputMismatch expected actual =>
      "matrix has " ++ toString actual ++ " inputs; source has " ++ toString expected
  | .matrixOutputMismatch expected actual =>
      "matrix has " ++ toString actual ++ " outputs; sink has " ++ toString expected
  | .gainNotFinite => "route gain must be finite"
  | .cycleDetected sourceNode sinkNode =>
      "route from " ++ sourceNode ++ " to " ++ sinkNode ++ " creates a cycle"
  | .matrix error => error.text

def CoreAudioError.text : CoreAudioError → String
  | .unsupportedPlatform => "Core Audio is available only on macOS"
  | .osStatus status => "Core Audio returned OSStatus " ++ toString status.toInt
  | .invalidProperty name => "invalid Core Audio property: " ++ name
  | .invalidUtf8 => "Core Audio returned a non-UTF-8 string"
  | .driverNotInstalled => "VCable HAL driver is not installed"
  | .driverRejected message => "VCable driver rejected the request: " ++ message
  | .deviceChangeTimeout uid expectedPresent =>
      "timed out waiting for Core Audio device " ++ uid ++ " to become " ++
        if expectedPresent then "visible" else "absent"
  | .invalidRoute message => "invalid audio route: " ++ message

def DaemonError.text : DaemonError → String
  | .coreAudio error => error.text
  | .graph error => error.text
  | .matrix error => error.text
  | .io error => error.description
  | .invalidDeviceId id => "invalid device id: " ++ id
  | .deviceInUse id => "device is referenced by a route: " ++ id
  | .routeExists id => "route already exists: " ++ id
  | .routeNotFound id => "route not found: " ++ id
  | .endpointNotFound id => "endpoint not found: " ++ id
  | .matrixRequired inputs outputs =>
      "an explicit " ++ toString outputs ++ "x" ++ toString inputs ++
        " channel matrix is required"
  | .state message => message

/-! ## Connections -/

/-- The response that `serve_connection` makes of what `handle` returns. -/
def respond : Except DaemonError String → Response
  | .ok message => .ok message
  | .error error => .error error.code error.text

/-- A client: the bytes that it sends, the errors of reading them and of
writing the reply, if any, and what the calls of its request come to. -/
structure Connection where
  received : List UInt8
  readFault : Option IoError
  writeFault : Option IoError
  environment : Environment

inductive ServeError where
  | protocol (error : ProtocolError)
  | io (error : IoError)
  deriving DecidableEq, Repr

namespace Connection

/-- `read_message` on the client's socket. -/
def readRequest (connection : Connection) : Except ServeError Request :=
  match connection.readFault with
  | some failure => .error (.io failure)
  | none =>
      match readMessage Request connection.received with
      | .error failure => .error (.protocol failure)
      | .ok (request, _) => .ok request

/-- `write_message` on the client's socket. -/
def writeResponse (connection : Connection) (response : Response) : Except ServeError Unit :=
  match (writeMessage [] response).1 with
  | .error failure => .error (.protocol failure)
  | .ok _ =>
      match connection.writeFault with
      | some failure => .error (.io failure)
      | none => .ok ()

/-- The request that the client gets handled. -/
def request? (connection : Connection) : Option Request :=
  connection.readRequest.toOption

end Connection

section Serving

variable {F : Type} [SinglePrecision F]

/-- `serve_connection`: whether the daemon is to end. -/
def serveConnection (connection : Connection) (world : World F) :
    Except ServeError Bool × World F :=
  match connection.readRequest with
  | .error failure => (.error failure, world)
  | .ok request =>
      let shutdown : Bool := request = .shutdown
      let (result, after) := handle connection.environment request world
      match connection.writeResponse (respond result) with
      | .error failure => (.error failure, after)
      | .ok _ => (.ok shutdown, after)

/-- What `listener.incoming()` yields. -/
inductive Incoming where
  | failed (error : IoError)
  | accepted (connection : Connection)

/-- The loop of `run`: the requests of the connections that were served, in
order, and the daemon at its end. -/
def acceptLoop : List Incoming → World F → List (Option Request) × World F
  | [], world => ([], world)
  | .failed _ :: rest, world => acceptLoop rest world
  | .accepted connection :: rest, world =>
      match serveConnection connection world with
      | (.ok true, after) => ([connection.request?], after)
      | (_, after) =>
          let (served, last) := acceptLoop rest after
          (connection.request? :: served, last)

/-! ## The end of the loop -/

variable {connection : Connection} {incoming rest : List Incoming} {world : World F}

/-- No reply to a `Shutdown` is too large. -/
theorem serveConnection_eq_ok_true_iff :
    (serveConnection connection world).1 = .ok true ↔
      connection.request? = some .shutdown ∧ connection.writeFault = none := by
  have small : (writeMessage [] (Response.ok "shutting down")).1 = .ok () := by decide +kernel
  unfold serveConnection Connection.request?
  cases connection.readRequest with
  | error failure => simp [Except.toOption]
  | ok request =>
      by_cases shutdown : request = .shutdown
      · subst shutdown
        have handled :
            (handle connection.environment .shutdown world).1 = .ok "shutting down" := rfl
        simp only [handled, respond, Connection.writeResponse, small, Except.toOption]
        cases connection.writeFault <;> simp
      · simp only [Except.toOption, Option.some.injEq, shutdown, decide_false, false_and, iff_false]
        split <;> simp

theorem acceptLoop_of_ends (ends : (serveConnection connection world).1 = .ok true) :
    (acceptLoop (.accepted connection :: rest) world).1 = [connection.request?] := by
  cases served : serveConnection connection world with
  | mk result after =>
      rw [served] at ends
      cases ends
      rw [acceptLoop, served]

theorem acceptLoop_of_not_ends (goesOn : (serveConnection connection world).1 ≠ .ok true) :
    (acceptLoop (.accepted connection :: rest) world).1 =
      connection.request? :: (acceptLoop rest (serveConnection connection world).2).1 := by
  cases served : serveConnection connection world with
  | mk result after =>
      rw [served] at goesOn
      rw [acceptLoop, served]
      match result with
      | .ok true => exact absurd rfl goesOn
      | .ok false => rfl
      | .error failure => rfl

/-- A loop serves nothing only if no connection comes. -/
theorem acceptLoop_eq_nil_iff :
    (acceptLoop incoming world).1 = [] ↔
      ∀ connection, Incoming.accepted connection ∉ incoming := by
  induction incoming with
  | nil => simp [acceptLoop]
  | cons first rest ih =>
      cases first with
      | failed error => simpa [acceptLoop] using ih
      | accepted connection =>
          refine iff_of_false ?_ fun none => none connection List.mem_cons_self
          by_cases ends : (serveConnection connection world).1 = .ok true
          · rw [acceptLoop_of_ends ends]
            exact List.cons_ne_nil _ _
          · rw [acceptLoop_of_not_ends ends]
            exact List.cons_ne_nil _ _

/-- Nothing is served after a `Shutdown` that was handled. -/
def ShutdownFinal (served : List (Option Request)) : Prop :=
  ∀ before after, served = before ++ some .shutdown :: after → after = []

theorem shutdownFinal_cons_iff {request : Option Request} {served : List (Option Request)} :
    ShutdownFinal (request :: served) ↔
      (request = some .shutdown → served = []) ∧ ShutdownFinal served := by
  constructor
  · refine fun final => ⟨?_, fun before after same => ?_⟩
    · rintro rfl
      exact final [] served rfl
    · exact final (request :: before) after (by rw [same, List.cons_append])
  · rintro ⟨here, later⟩ before after same
    rcases List.cons_eq_append_iff.mp same with ⟨rfl, first⟩ | ⟨before, rfl, shorter⟩
    · cases first
      exact here rfl
    · exact later before after shorter

/-- The reply to the first `Shutdown` can be written, or no connection comes
after it. -/
def FirstShutdownAnswered (incoming : List Incoming) : Prop :=
  ∀ before connection after, incoming = before ++ .accepted connection :: after →
    connection.request? = some .shutdown →
      (∀ earlier, Incoming.accepted earlier ∈ before → earlier.request? ≠ some .shutdown) →
        connection.writeFault = none ∨ ∀ later, Incoming.accepted later ∉ after

theorem firstShutdownAnswered_shutdown_iff (shutdown : connection.request? = some .shutdown) :
    FirstShutdownAnswered (.accepted connection :: rest) ↔
      connection.writeFault = none ∨ ∀ later, Incoming.accepted later ∉ rest := by
  constructor
  · exact fun answered => answered [] connection rest rfl shutdown fun _ member =>
      absurd member List.not_mem_nil
  · rintro ends before other after same _ first
    rcases List.cons_eq_append_iff.mp same with ⟨rfl, here⟩ | ⟨before, rfl, _⟩
    · cases here
      exact ends
    · exact absurd shutdown (first connection List.mem_cons_self)

theorem firstShutdownAnswered_cons_iff {first : Incoming}
    (other : ∀ connection, first = .accepted connection → connection.request? ≠ some .shutdown) :
    FirstShutdownAnswered (first :: rest) ↔ FirstShutdownAnswered rest := by
  constructor
  · intro answered before connection after same shutdown earliest
    refine answered (first :: before) connection after (by rw [same, List.cons_append]) shutdown ?_
    intro earlier member
    rcases List.mem_cons.mp member with here | before
    · exact other earlier here.symm
    · exact earliest earlier before
  · intro answered before connection after same shutdown earliest
    rcases List.cons_eq_append_iff.mp same with ⟨rfl, here⟩ | ⟨before, rfl, shorter⟩
    · cases here
      exact absurd shutdown (other connection rfl)
    · exact answered before connection after shorter shutdown fun earlier member =>
        earliest earlier (List.mem_cons_of_mem _ member)

/-- Whatever is requested and however reading and writing go, no connection is
served after a `Shutdown` was handled if and only if the reply to the first
`Shutdown` can be written or no connection comes after it. -/
theorem shutdown_final_iff (incoming : List Incoming) (world : World F) :
    ShutdownFinal (acceptLoop incoming world).1 ↔ FirstShutdownAnswered incoming := by
  induction incoming generalizing world with
  | nil => simp [acceptLoop, ShutdownFinal, FirstShutdownAnswered]
  | cons first rest ih =>
      cases first with
      | failed error =>
          rw [acceptLoop,
            firstShutdownAnswered_cons_iff fun _ same => Incoming.noConfusion same, ih]
      | accepted connection =>
          by_cases shutdown : connection.request? = some .shutdown
          · rw [firstShutdownAnswered_shutdown_iff shutdown]
            by_cases writes : connection.writeFault = none
            · rw [acceptLoop_of_ends (serveConnection_eq_ok_true_iff.mpr ⟨shutdown, writes⟩),
                shutdownFinal_cons_iff]
              exact iff_of_true ⟨fun _ => rfl, fun before after same => by simp at same⟩
                (Or.inl writes)
            · have goesOn : (serveConnection connection world).1 ≠ .ok true :=
                fun ends => writes (serveConnection_eq_ok_true_iff.mp ends).2
              rw [acceptLoop_of_not_ends goesOn, shutdownFinal_cons_iff, acceptLoop_eq_nil_iff]
              constructor
              · exact fun final => Or.inr (final.1 shutdown)
              · intro last
                have none := last.resolve_left writes
                refine ⟨fun _ => none, ?_⟩
                rw [acceptLoop_eq_nil_iff.mpr none]
                intro before after same
                simp at same
          · have goesOn : (serveConnection connection world).1 ≠ .ok true :=
              fun ends => shutdown (serveConnection_eq_ok_true_iff.mp ends).1
            have notFirst : ∀ other, Incoming.accepted connection = .accepted other →
                other.request? ≠ some .shutdown := by
              rintro other ⟨⟩
              exact shutdown
            rw [acceptLoop_of_not_ends goesOn, shutdownFinal_cons_iff,
              firstShutdownAnswered_cons_iff notFirst, ih]
            exact and_iff_right fun isShutdown => absurd isShutdown shutdown

end Serving

/-- A client that sends a message and reads the reply. -/
def client (received : List UInt8) : Connection :=
  ⟨received, none, none, smoothCalls [microphone, speaker]⟩

/-- The daemon with one route, which its router plays. -/
def playingWorld : World ℚ :=
  (handle (smoothCalls [microphone, speaker]) voiceRoute.request
    (restoredWorld [microphone, speaker] .empty none)).2

/-- A client goes away before the reply to its `Shutdown`, and another one
sends a `Ping`. -/
def abandonedShutdown : List Incoming :=
  [.accepted { client (frame Request.shutdown) with writeFault := some ⟨"Broken pipe"⟩ },
    .accepted (client (frame Request.ping))]

/-- The daemon goes on after a `Shutdown`, with its router stopped and a route
in its graph. -/
theorem shutdown_not_final :
    (¬ ∀ (incoming : List Incoming) (world : World ℚ),
        ShutdownFinal (acceptLoop incoming world).1) ∧
      (acceptLoop abandonedShutdown playingWorld).1 = [some .shutdown, some .ping] ∧
      playingWorld.router.isSome ∧ (acceptLoop abandonedShutdown playingWorld).2.router = none ∧
      (acceptLoop abandonedShutdown playingWorld).2.graph.routes.valuesInOrder ≠ [] := by
  have served : (acceptLoop abandonedShutdown playingWorld).1 = [some .shutdown, some .ping] := by
    decide +kernel
  refine ⟨fun final => ?_, served, by decide +kernel, by decide +kernel, ?_⟩
  · have nothing := final abandonedShutdown playingWorld [] [some .ping] served
    cases nothing
  · intro none
    have length : (acceptLoop abandonedShutdown playingWorld).2.graph.routes.valuesInOrder.length =
        1 := by decide +kernel
    rw [none] at length
    cases length

end VCable
