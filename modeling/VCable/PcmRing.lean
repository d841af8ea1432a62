import VCable.PcmResampler
import VCable.RingBuffer

/-!
# The two sides of a PCM stream on its ring

Writes of any length, captured frames and the pops of the resampler, each call
split at its index loads, its slot copies, its index stores and its changes of
the counters.  The producer's loads of the read index may return an older
value, but none older than one that it has already seen.
-/

namespace VCable

/-- The counters of `AtomicPcmStreamMetrics` that these calls change. -/
structure PcmMetrics (w : Nat) where
  transferredFrames : UInt64
  overrunFrames : UInt64
  ringFillFrames : BitVec w
  deriving DecidableEq

namespace PcmMetrics

variable {w : Nat}

def transferred (metrics : PcmMetrics w) (frames : UInt64) : PcmMetrics w :=
  { metrics with transferredFrames := metrics.transferredFrames + frames }

def overrun (metrics : PcmMetrics w) (frames : UInt64) : PcmMetrics w :=
  { metrics with overrunFrames := metrics.overrunFrames + frames }

def addFill (metrics : PcmMetrics w) (frames : Nat) : PcmMetrics w :=
  { metrics with ringFillFrames := metrics.ringFillFrames + BitVec.ofNat w frames }

def removeFill (metrics : PcmMetrics w) (frames : Nat) : PcmMetrics w :=
  { metrics with ringFillFrames := metrics.ringFillFrames - BitVec.ofNat w frames }

end PcmMetrics

/-- A call of the producing side: `PcmWriter::try_write_interleaved`, or one
frame of a capture callback, which is in the scratch buffer. -/
inductive PcmWriteCall (α : Type*) where
  | tryWriteInterleaved (pcm : List α)
  | captureFrame (scratch : List α)
  deriving DecidableEq

namespace PcmWriteCall

variable {α : Type*}

def samples : PcmWriteCall α → List α
  | .tryWriteInterleaved pcm => pcm
  | .captureFrame scratch => scratch

/-- The frames by which the call raises the fill counter. -/
def frames (channels : Nat) : PcmWriteCall α → Nat
  | .tryWriteInterleaved pcm => pcm.length / channels
  | .captureFrame _ => 1

end PcmWriteCall

/-- The progress of the producing side.  An underflow or a failed assertion
panics. -/
inductive PcmWriterState (α : Type*) where
  | idle
  | called (pcm : List α)
  | measuring (call : PcmWriteCall α)
  | accepted (call : PcmWriteCall α)
  /-- Inside `push_slice`. -/
  | pushing (call : PcmWriteCall α)
  | pushed (call : PcmWriteCall α) (written : Nat)
  | panicked
  deriving DecidableEq

/-- The progress of `RingResampler::pop_frame`. -/
inductive PcmPopState where
  | idle
  | called
  /-- Inside `pop_slice`. -/
  | popping
  | popped (read : Nat)
  | panicked
  deriving DecidableEq

inductive PcmRingReturn where
  | written (result : Except PcmStreamError Unit)
  | streamClosed
  | captured (accepted : Bool)
  | poppedFrame (taken : Bool)

/-- A ring with both sides and the counters.  The values that the read index
has had are listed in order, with the one that the producer has seen last. -/
structure PcmRingSystem (α : Type*) (w : Nat) where
  queue : RingSystem α w
  reads : List (BitVec w)
  seen : Nat
  writer : PcmWriterState α
  reader : PcmPopState
  metrics : PcmMetrics w
  closed : Bool

inductive PcmRingAction (α : Type*) where
  | startWrite (pcm : List α)
  | startCapture (scratch : List α)
  /-- `ensure_open` and the check of the length. -/
  | checkOpen
  /-- `Producer::available`, with the loaded value of the read index, and the
  check of the capacity. -/
  | measure (value : Nat)
  | addFill
  /-- The load of the read index in `push_slice`. -/
  | loadRead (value : Nat)
  | writeSlot
  | publishWrite
  | finish
  | startPop
  /-- `Consumer::available`. -/
  | measurePop
  | loadWrite
  | readSlot
  | publishRead
  | removeFill
  | close

/-- A subtraction of `usize` values. -/
def checkedSub (minuend subtrahend : Nat) : Option Nat :=
  if subtrahend ≤ minuend then some (minuend - subtrahend) else none

namespace Ring

variable {α : Type*} {w : Nat}

/-- `Producer::available`, for a loaded value of the read index. -/
def availableSince (ring : Ring α w) (read : BitVec w) : Option Nat :=
  checkedSub ring.capacity (ring.write - read).toNat

/-- `self.producer.capacity() - self.producer.available()`. -/
def usedSamples (ring : Ring α w) (read : BitVec w) : Option Nat :=
  match ring.availableSince read with
  | some available => checkedSub ring.capacity available
  | none => none

end Ring

namespace PcmRingSystem

variable {α : Type*} {w : Nat}

/-- A load of the read index by the producer. -/
def loadedRead (stream : PcmRingSystem α w) (value : Nat) : Option (BitVec w) :=
  if stream.seen ≤ value then stream.reads[value]? else none

/-- The check of the capacity, after the load of the read index. -/
def measure (validated : ValidatedConfig) (stream : PcmRingSystem α w) (call : PcmWriteCall α)
    (read : BitVec w) : PcmRingSystem α w × Option PcmRingReturn :=
  match stream.queue.ring.usedSamples read, call with
  | none, _ => ({ stream with writer := .panicked }, none)
  | some usedSamples, .tryWriteInterleaved pcm =>
      match checkedSub validated.logicalCapacitySamples usedSamples with
      | none => ({ stream with writer := .panicked }, none)
      | some free =>
          let requestedFrames := pcm.length / validated.channels
          let availableFrames := free / validated.channels
          if requestedFrames > availableFrames then
            ({ stream with writer := .idle },
              some (.written (.error (.bufferFull requestedFrames availableFrames))))
          else ({ stream with writer := .accepted call }, none)
  | some usedSamples, .captureFrame _ =>
      if usedSamples + validated.channels ≤ validated.logicalCapacitySamples then
        ({ stream with writer := .accepted call }, none)
      else
        ({ stream with writer := .idle, metrics := stream.metrics.overrun 1 },
          some (.captured false))

/-- The end of a call, after `push_slice`. -/
def finish (stream : PcmRingSystem α w) (call : PcmWriteCall α) (written : Nat) :
    PcmRingSystem α w × Option PcmRingReturn :=
  if written ≠ call.samples.length then ({ stream with writer := .panicked }, none)
  else
    match call with
    | .tryWriteInterleaved _ =>
        ({ stream with writer := .idle },
          some (if stream.closed then .streamClosed else .written (.ok ())))
    | .captureFrame _ =>
        ({ stream with writer := .idle, metrics := stream.metrics.transferred 1 },
          some (.captured true))

/-- One step, with what it returns to the caller if it finishes a call. -/
def step (validated : ValidatedConfig) (stream : PcmRingSystem α w) :
    PcmRingAction α → Option (PcmRingSystem α w × Option PcmRingReturn)
  | .startWrite pcm =>
      match stream.writer with
      | .idle => some ({ stream with writer := .called pcm }, none)
      | _ => none
  | .startCapture scratch =>
      match stream.writer with
      | .idle =>
          if scratch.length = validated.channels then
            some ({ stream with writer := .measuring (.captureFrame scratch) }, none)
          else none
      | _ => none
  | .checkOpen =>
      match stream.writer with
      | .called pcm =>
          if stream.closed then some ({ stream with writer := .idle }, some .streamClosed)
          else if pcm.length % validated.channels ≠ 0 then
            some ({ stream with writer := .idle }, some (.written (.error .invalidBufferLength)))
          else some ({ stream with writer := .measuring (.tryWriteInterleaved pcm) }, none)
      | _ => none
  | .measure value =>
      match stream.writer, stream.loadedRead value with
      | .measuring call, some read =>
          some (measure validated { stream with seen := value } call read)
      | _, _ => none
  | .addFill =>
      match stream.writer with
      | .accepted call =>
          some ({ stream with
            metrics := stream.metrics.addFill (call.frames validated.channels)
            queue := { stream.queue with producer := .called (.pushSlice call.samples) }
            writer := .pushing call }, none)
      | _ => none
  | .loadRead value =>
      match stream.writer, stream.queue.producer, stream.loadedRead value with
      | .pushing _, .called call, some read =>
          match stream.queue.ring.availableSince read with
          | some available =>
              some ({ stream with
                seen := value
                queue := { stream.queue with
                  producer :=
                    .copying call stream.queue.ring.write (min call.input.length available) 0 } },
                none)
          | none => some ({ stream with seen := value, writer := .panicked }, none)
      | _, _, _ => none
  | .writeSlot =>
      match stream.writer, stream.queue.step .writeSlot with
      | .pushing _, some (queue, _) => some ({ stream with queue := queue }, none)
      | _, _ => none
  | .publishWrite =>
      match stream.writer, stream.queue.step .publishWrite with
      | .pushing call, some (queue, some (.pushSlice written)) =>
          some ({ stream with queue := queue, writer := .pushed call written }, none)
      | _, _ => none
  | .finish =>
      match stream.writer with
      | .pushed call written => some (stream.finish call written)
      | _ => none
  | .startPop =>
      match stream.reader with
      | .idle => some ({ stream with reader := .called }, none)
      | _ => none
  | .measurePop =>
      match stream.reader with
      | .called =>
          if stream.queue.ring.used < validated.channels then
            some ({ stream with reader := .idle }, some (.poppedFrame false))
          else
            some ({ stream with
              queue := { stream.queue with consumer := .called (.popSlice validated.channels) }
              reader := .popping }, none)
      | _ => none
  | .loadWrite =>
      match stream.reader, stream.queue.step .loadWrite with
      | .popping, some (queue, _) => some ({ stream with queue := queue }, none)
      | _, _ => none
  | .readSlot =>
      match stream.reader, stream.queue.step .readSlot with
      | .popping, some (queue, _) => some ({ stream with queue := queue }, none)
      | _, _ => none
  | .publishRead =>
      match stream.reader, stream.queue.step .publishRead with
      | .popping, some (queue, some (.popSlice read _)) =>
          some ({ stream with
            queue := queue
            reads := stream.reads ++ [queue.ring.read]
            reader := .popped read }, none)
      | _, _ => none
  | .removeFill =>
      match stream.reader with
      | .popped read =>
          if read ≠ validated.channels then some ({ stream with reader := .panicked }, none)
          else
            some ({ stream with
              metrics := stream.metrics.removeFill 1
              reader := .idle }, some (.poppedFrame true))
      | _ => none
  | .close => some ({ stream with closed := true }, none)

/-- A new stream on a ring whose indices start at a common value. -/
def start (ring : Ring α w) (start : BitVec w) : PcmRingSystem α w where
  queue := RingSystem.initial ring start
  reads := [start]
  seen := 0
  writer := .idle
  reader := .idle
  metrics := { transferredFrames := 0, overrunFrames := 0, ringFillFrames := 0 }
  closed := false

end PcmRingSystem

end VCable
