import VCable.AudioBufferSlots
import VCable.FallibleState
import VCable.RouterSessions

/-!
# The callback of the router

`audio_device_io_proc` records the input of its device into the rings of the
outgoing routes, and plays the incoming routes into the output.  A call is one
computation over the context and the output list, which may return early in any
of its loops; the other ends of the rings take their turns between the calls.
-/

namespace VCable

open FallibleState IncomingRoute

/-- The consumer of a ring: the one of an incoming route of the same device, or
one elsewhere, for which the samples in the ring are given. -/
inductive RingReader where
  | own (number : Nat)
  | elsewhere (queue : List ℚ)

structure OutgoingRoute where
  capacity : Nat
  reader : RingReader
  channels : Nat

structure DeviceIoContext where
  outgoing : List OutgoingRoute
  incoming : List (IncomingRoute ℚ)
  metrics : RouterMetrics

namespace DeviceIoContext

def addFormatError (context : DeviceIoContext) : DeviceIoContext :=
  { context with
    metrics := { context.metrics with formatErrors := context.metrics.formatErrors + 1 } }

def addOverrun (context : DeviceIoContext) : DeviceIoContext :=
  { context with metrics := { context.metrics with overruns := context.metrics.overruns + 1 } }

/-- The samples in the ring of an outgoing route. -/
def queued (context : DeviceIoContext) : RingReader → List ℚ
  | .own number => (context.incoming[number]?.map IncomingRoute.consumer).getD []
  | .elsewhere queue => queue

/-- `Producer::available`. -/
def available (context : DeviceIoContext) (route : OutgoingRoute) : Nat :=
  route.capacity - (context.queued route.reader).length

/-- `Producer::push` on the ring of an outgoing route. -/
def push (context : DeviceIoContext) (number : Nat) (sample : ℚ) : DeviceIoContext :=
  match context.outgoing[number]? with
  | none => context
  | some route =>
      if context.available route = 0 then context
      else
        match route.reader with
        | .own reader =>
            { context with
              incoming := context.incoming.modify reader fun route =>
                { route with consumer := route.consumer ++ [sample] } }
        | .elsewhere queue =>
            { context with
              outgoing := context.outgoing.set number
                { route with reader := .elsewhere (queue ++ [sample]) } }

/-- An incoming route with the metrics, after a call of one of its methods. -/
def setPlaying (context : DeviceIoContext) (number : Nat) (playing : PlayingRoute) :
    DeviceIoContext :=
  { context with
    incoming := context.incoming.set number playing.route
    metrics := playing.metrics }

end DeviceIoContext

/-- The context of a call and its output, which may be null. -/
structure CallbackState where
  context : DeviceIoContext
  output : Option (AudioBufferList ℚ)

/-- The ways out of the callback before its end. -/
inductive CallbackExit where
  /-- `return 0`. -/
  | returned
  /-- An index or a slice is out of bounds. -/
  | panicked
  /-- A sample is written through a null pointer. -/
  | undefined

abbrev Callback (α : Type) : Type :=
  FallibleState CallbackState CallbackExit α

namespace Callback

def changeContext (update : DeviceIoContext → DeviceIoContext) : Callback Unit :=
  FallibleState.change fun state => { state with context := update state.context }

/-- Count a format error and return. -/
def formatError : Callback Unit := do
  changeContext DeviceIoContext.addFormatError
  fail .returned

def outgoingRoute (number : Nat) : Callback OutgoingRoute :=
  inspect fun state => okOr .panicked state.context.outgoing[number]?

def incomingRoute (number : Nat) : Callback (IncomingRoute ℚ) :=
  inspect fun state => okOr .panicked state.context.incoming[number]?

/-! ## Recording -/

/-- A pass of the loop over the channels of an outgoing route. -/
def captureSample (input : AudioBufferList ℚ) (frame number channel : Nat) : Callback Unit :=
  match readAudioSample input frame channel with
  | some sample => changeContext fun context => context.push number sample
  | none => formatError

/-- A pass of the loop over the outgoing routes. -/
def captureRoute (input : AudioBufferList ℚ) (frame number : Nat) : Callback Unit := do
  let route ← outgoingRoute number
  let available ← inspect fun state => .ok (state.context.available route)
  if available < route.channels then changeContext DeviceIoContext.addOverrun
  else (List.range route.channels).forM (captureSample input frame number)

/-- The first half of `audio_device_io_proc`. -/
def capture (input : Option (AudioBufferList ℚ)) : Callback Unit := do
  let count ← inspect fun state => .ok state.context.outgoing.length
  match input with
  | none => pure ()
  | some input =>
      if count = 0 then pure ()
      else
        match audioBufferListFrames input with
        | none => formatError
        | some frames => (List.range frames).forM fun frame =>
            (List.range count).forM (captureRoute input frame)

/-! ## Playing -/

/-- A pass of the loop over the channels of an incoming route. -/
def playSample (number frame channel : Nat) : Callback Unit := do
  let route ← incomingRoute number
  let value ← inspect fun _ => okOr .panicked (route.mixedSample channel)
  let (added, output) ← inspect fun state =>
    okOr .undefined (state.output.bind (addAudioSample · frame channel value))
  FallibleState.change fun state => { state with output := some output }
  if added then pure () else formatError

/-- A pass of the loop over the frames of an incoming route. -/
def playFrame (number frame : Nat) : Callback Unit := do
  let route ← incomingRoute number
  let (returned, playing) ← inspect fun state =>
    .ok (PlayingRoute.prepareOutputFrame { route := route, metrics := state.context.metrics })
  changeContext fun context => context.setPlaying number playing
  if returned then (List.range playing.route.sinkChannels).forM (playSample number frame)
  else pure ()

/-- The second half of `audio_device_io_proc`. -/
def play : Callback Unit := do
  let count ← inspect fun state => .ok state.context.incoming.length
  let output ← inspect fun state => .ok state.output
  match output with
  | none => pure ()
  | some output =>
      if count = 0 then pure ()
      else
        match audioBufferListFrames output with
        | none => formatError
        | some frames => do
            FallibleState.change fun state =>
              { state with output := some (clearAudioBufferList output) }
            (List.range count).forM fun number => (List.range frames).forM (playFrame number)

end Callback

/-- `audio_device_io_proc`, for a client that is not null. -/
def audioDeviceIoProc (input : Option (AudioBufferList ℚ)) : Callback Unit := do
  Callback.capture input
  Callback.play

end VCable
