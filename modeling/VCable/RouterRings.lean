import VCable.AudioBufferList
import VCable.LabelledSteps
import VCable.PcmResampler
import VCable.RingBuffer

/-!
# The outgoing routes of the router

A callback of a device pushes the frames of its input into the ring of each
outgoing route, sample by sample, while the sinks read frames from the other
ends of the rings.  All steps of the rings interleave.
-/

namespace VCable

structure RouterMetrics where
  underruns : UInt64
  overruns : UInt64
  formatErrors : UInt64

/-- The producer of an `OutgoingRoute` and the consumer of its `IncomingRoute`
on their ring.  The source frames that were begun and the frames that were read
are written down for the record. -/
structure RouterRoute (α : Type*) where
  queue : RingSystem α 64
  channels : Nat
  /-- The samples that a `read_source_frame` in progress has popped. -/
  reader : Option (List α)
  begun : List (AudioBufferList α × Nat)
  frames : List (List α)

/-- The progress of the input half of `audio_device_io_proc`. -/
inductive InputProgress (α : Type*) where
  | idle
  /-- Before the route in the frame of a list with so many frames. -/
  | measuring (list : AudioBufferList α) (frames frame route : Nat)
  /-- Before the sample of the channel, or inside its push. -/
  | pushing (list : AudioBufferList α) (frames frame route channel : Nat)

/-- The outgoing routes of a `DeviceIoContext`. -/
structure RouterSystem (α : Type*) where
  outgoing : List (RouterRoute α)
  input : InputProgress α
  metrics : RouterMetrics

inductive RouterAction (α : Type*) where
  /-- A callback with its input, which may be null. -/
  | callback (input : Option (AudioBufferList α))
  /-- The check of the room in the ring of a route. -/
  | measure
  | readSample
  | loadRead
  | writeSlot
  | publishWrite
  /-- The sink of a route calls `read_source_frame`. -/
  | startRead (route : Nat)
  | startPop (route : Nat)
  | loadWrite (route : Nat)
  | readSlot (route : Nat)
  | publishRead (route : Nat)

/-- `Producer::available`. -/
def Ring.available {α : Type*} {w : Nat} (ring : Ring α w) : Nat :=
  ring.capacity - ring.used

namespace RouterRoute

variable {α : Type*}

/-- The two ends of a route as `AudioRouter::start` builds them; the power of two
of an `usize` is zero if it overflows. -/
def start (zero : α) (sourceChannels : UInt32) : Except String (RouterRoute α) :=
  match checkedMul sourceChannels.toNat 16384 with
  | none => .error "ring-buffer size overflow"
  | some product =>
      match spscRingBuffer 64 zero ((checkedNextPowerOfTwo 64 product).getD 0) with
      | .error .capacityTooSmall => .error "ring-buffer capacity must be at least two"
      | .error .capacityNotPowerOfTwo => .error "ring-buffer capacity must be a power of two"
      | .ok ring =>
          .ok
            { queue := RingSystem.initial ring 0
              channels := sourceChannels.toNat
              reader := none
              begun := []
              frames := [] }

/-- What a step of the consumer means for `read_source_frame`; a pop without a
sample ends it early. -/
def continueRead (route : RouterRoute α) (output : List α) (queue : RingSystem α 64) :
    Option (Return α) → RouterRoute α
  | some (.pop (some sample)) =>
      if output.length + 1 < route.channels then
        { route with queue := queue, reader := some (output ++ [sample]) }
      else
        { route with
          queue := queue
          reader := none
          frames := route.frames ++ [output ++ [sample]] }
  | some _ => { route with queue := queue, reader := none }
  | none => { route with queue := queue }

def consumerStep (route : RouterRoute α) (action : RingAction α) : Option (RouterRoute α) :=
  match route.reader, route.queue.step action with
  | some output, some (queue, returned) => some (route.continueRead output queue returned)
  | _, _ => none

end RouterRoute

namespace RouterSystem

variable {α : Type*}

def setRoute (system : RouterSystem α) (number : Nat) (route : RouterRoute α) : RouterSystem α :=
  { system with outgoing := system.outgoing.set number route }

/-- A step of the push that the callback is in.  What it returns is not used. -/
def producerStep (system : RouterSystem α) (action : RingAction α) : Option (RouterSystem α) :=
  match system.input with
  | .pushing list frames frame number channel =>
      match system.outgoing[number]? with
      | some route =>
          match route.queue.step action with
          | some (queue, none) => some (system.setRoute number { route with queue := queue })
          | some (queue, some _) =>
              some { system.setRoute number { route with queue := queue } with
                input := .pushing list frames frame number (channel + 1) }
          | none => none
      | none => none
  | _ => none

def consumerStep (system : RouterSystem α) (number : Nat) (action : RingAction α) :
    Option (RouterSystem α) :=
  match system.outgoing[number]? with
  | some route => (route.consumerStep action).map (system.setRoute number)
  | none => none

/-- One step; nothing is returned. -/
def step (system : RouterSystem α) : RouterAction α → Option (RouterSystem α × Unit)
  | .callback input =>
      match system.input with
      | .idle =>
          match input with
          | none => some (system, ())
          | some list =>
              if system.outgoing.isEmpty then some (system, ())
              else
                match audioBufferListFrames list with
                | some frames => some ({ system with input := .measuring list frames 0 0 }, ())
                | none =>
                    some ({ system with metrics := { system.metrics with
                      formatErrors := system.metrics.formatErrors + 1 } }, ())
      | _ => none
  | .measure =>
      match system.input with
      | .measuring list frames frame number =>
          if frame < frames then
            match system.outgoing[number]? with
            | some route =>
                if route.queue.ring.available < route.channels then
                  some ({ system with
                    input := .measuring list frames frame (number + 1)
                    metrics := { system.metrics with
                      overruns := system.metrics.overruns + 1 } }, ())
                else
                  some ({ system.setRoute number
                    { route with begun := route.begun ++ [(list, frame)] } with
                      input := .pushing list frames frame number 0 }, ())
            | none => some ({ system with input := .measuring list frames (frame + 1) 0 }, ())
          else some ({ system with input := .idle }, ())
      | _ => none
  | .readSample =>
      match system.input with
      | .pushing list frames frame number channel =>
          match system.outgoing[number]? with
          | some route =>
              if channel < route.channels then
                match readAudioSample list frame channel with
                | some sample =>
                    match route.queue.step (.startPush (.push sample)) with
                    | some (queue, _) =>
                        some (system.setRoute number { route with queue := queue }, ())
                    | none => none
                | none =>
                    some ({ system with
                      input := .idle
                      metrics := { system.metrics with
                        formatErrors := system.metrics.formatErrors + 1 } }, ())
              else some ({ system with input := .measuring list frames frame (number + 1) }, ())
          | none => none
      | _ => none
  | .loadRead => (system.producerStep .loadRead).map (·, ())
  | .writeSlot => (system.producerStep .writeSlot).map (·, ())
  | .publishWrite => (system.producerStep .publishWrite).map (·, ())
  | .startRead number =>
      match system.outgoing[number]? with
      | some route =>
          match route.reader with
          | none =>
              if route.queue.ring.used < route.channels then some (system, ())
              else some (system.setRoute number { route with reader := some [] }, ())
          | some _ => none
      | none => none
  | .startPop number => (system.consumerStep number (.startPop .pop)).map (·, ())
  | .loadWrite number => (system.consumerStep number .loadWrite).map (·, ())
  | .readSlot number => (system.consumerStep number .readSlot).map (·, ())
  | .publishRead number => (system.consumerStep number .publishRead).map (·, ())

/-- A context before its first callback, by the channels of the sources.  Of the
checks of `validate_routes` it has the one that the rings depend on. -/
def start (zero : α) (sourceChannels : List UInt32) : Except String (RouterSystem α) :=
  if sourceChannels.any (· = 0) then .error "channel counts must be greater than zero"
  else
    (sourceChannels.mapM (RouterRoute.start zero)).map fun outgoing =>
      { outgoing := outgoing
        input := .idle
        metrics := ⟨0, 0, 0⟩ }

end RouterSystem

end VCable
