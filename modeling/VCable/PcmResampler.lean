import VCable.FrameStreams
import VCable.RingBuffer
import Mathlib.Data.Rat.Floor

/-!
# The resampler of a PCM stream

The process side and the callback side of a PCM stream, with samples, phase and
drift read as exact rationals.  The ring is the queue of its published samples.
Whole frames are written between the calls of the resampler, and also inside a
call, between its looks at the ring.
-/

namespace VCable

open FrameStreams

/-! ## Configurations -/

structure PcmFormat where
  sampleRate : UInt32
  channels : UInt32
  deriving DecidableEq, Repr

structure PcmStreamConfig where
  deviceUid : String
  clientFormat : PcmFormat
  capacityFrames : Nat
  targetFillFrames : Nat
  maxDriftPpm : UInt32
  deriving DecidableEq, Repr

inductive PcmStreamDirection where
  | input
  | output
  deriving DecidableEq, Repr

/-- The errors of checking a configuration and of writing. -/
inductive PcmStreamError where
  | invalidChannelCount
  | invalidSampleRate
  | invalidBufferLength
  | invalidRingCapacity
  | invalidTargetFill
  | invalidDriftPpm
  | bufferFull (requestedFrames availableFrames : Nat)
  deriving DecidableEq, Repr

structure ValidatedConfig where
  channels : Nat
  logicalCapacitySamples : Nat
  internalSampleCapacity : Nat
  deriving DecidableEq, Repr

/-- `usize::checked_next_power_of_two`, for a `usize` of `w` bits. -/
def checkedNextPowerOfTwo (w value : Nat) : Option Nat :=
  let power := if value ≤ 1 then 1 else 2 ^ ((value - 1).log2 + 1)
  if power < 2 ^ w then some power else none

theorem checkedNextPowerOfTwo_eq {w value power : Nat}
    (found : checkedNextPowerOfTwo w value = some power) : ∃ k < w, power = 2 ^ k := by
  have narrow : ∀ k, 2 ^ k < 2 ^ w → k < w :=
    fun k => (Nat.pow_lt_pow_iff_right (by decide)).mp
  simp only [checkedNextPowerOfTwo] at found
  split_ifs at found with small below below
  · cases found
    exact ⟨0, narrow 0 below, rfl⟩
  · cases found
    exact ⟨_, narrow _ below, rfl⟩

def validateConfig (w : Nat) (config : PcmStreamConfig) :
    Except PcmStreamError ValidatedConfig :=
  let channels := config.clientFormat.channels.toNat
  if channels = 0 ∨ 2 ^ w ≤ channels then .error .invalidChannelCount
  else if config.clientFormat.sampleRate = 0 then .error .invalidSampleRate
  else if config.capacityFrames < 2 then .error .invalidRingCapacity
  else if config.targetFillFrames = 0 ∨ config.targetFillFrames ≥ config.capacityFrames then
    .error .invalidTargetFill
  else if config.maxDriftPpm ≥ 1000000 then .error .invalidDriftPpm
  else
    let logicalCapacitySamples := config.capacityFrames * channels
    if 2 ^ w ≤ logicalCapacitySamples then .error .invalidRingCapacity
    else
      match checkedNextPowerOfTwo w logicalCapacitySamples with
      | none => .error .invalidRingCapacity
      | some internalSampleCapacity =>
          .ok
            { channels := channels
              logicalCapacitySamples := logicalCapacitySamples
              internalSampleCapacity := internalSampleCapacity }

/-! ## Writing -/

/-- The published samples of the ring.  The history of all samples ever pushed
is read by no function. -/
structure PcmRing where
  samples : List ℚ
  accepted : List ℚ
  deriving DecidableEq

/-- The fields that `PcmWriter` and `CaptureCallbackState` share; `capacity` is
the one of their producer. -/
structure PcmProducer where
  capacity : Nat
  channels : Nat
  logicalCapacitySamples : Nat
  deriving DecidableEq

namespace PcmProducer

/-- `Producer::available`. -/
def available (producer : PcmProducer) (ring : PcmRing) : Nat :=
  producer.capacity - ring.samples.length

/-- `Producer::push_slice`: as many samples as fit. -/
def pushSlice (producer : PcmProducer) (input : List ℚ) (ring : PcmRing) : PcmRing :=
  let count := min input.length (producer.capacity - ring.samples.length)
  { samples := ring.samples ++ input.take count
    accepted := ring.accepted ++ input.take count }

/-- `PcmWriter::try_write_interleaved`. -/
def tryWriteInterleaved (producer : PcmProducer) (pcm : List ℚ) (ring : PcmRing) :
    Except PcmStreamError Unit × PcmRing :=
  if pcm.length % producer.channels ≠ 0 then (.error .invalidBufferLength, ring)
  else
    let requestedFrames := pcm.length / producer.channels
    let usedSamples := producer.capacity - producer.available ring
    let availableFrames := (producer.logicalCapacitySamples - usedSamples) / producer.channels
    if requestedFrames > availableFrames then
      (.error (.bufferFull requestedFrames availableFrames), ring)
    else (.ok (), producer.pushSlice pcm ring)

/-- `CaptureCallbackState::has_capacity_for_frame`. -/
def hasCapacityForFrame (producer : PcmProducer) (ring : PcmRing) : Bool :=
  let usedSamples := producer.capacity - producer.available ring
  usedSamples + producer.channels ≤ producer.logicalCapacitySamples

/-- One frame of a capture callback: it is dropped if there is no capacity for
it.  The scratch frame has one sample for each channel. -/
def captureFrame (producer : PcmProducer) (scratch : Nat → ℚ) (ring : PcmRing) : PcmRing :=
  if producer.hasCapacityForFrame ring then
    producer.pushSlice ((List.range producer.channels).map scratch) ring
  else ring

end PcmProducer

/-- A write to the ring. -/
inductive PcmWrite where
  | interleaved (pcm : List ℚ)
  | captured (scratch : Nat → ℚ)

def PcmWrite.apply (producer : PcmProducer) (ring : PcmRing) : PcmWrite → PcmRing
  | .interleaved pcm => (producer.tryWriteInterleaved pcm ring).2
  | .captured scratch => producer.captureFrame scratch ring

/-! ## Resampling -/

structure RingResampler where
  channels : Nat
  targetFillFrames : Nat
  primingThresholdFrames : Nat
  controlSpanFrames : Nat
  nominalStep : ℚ
  maxDriftRatio : ℚ
  current : List ℚ
  next : List ℚ
  interpolated : List ℚ
  phase : ℚ
  haveCurrent : Bool
  haveNext : Bool
  primed : Bool
  hasPrimed : Bool
  deriving DecidableEq

def RingResampler.new (channels targetFillFrames capacityFrames : Nat) (nominalStep : ℚ)
    (maxDriftPpm : UInt32) : RingResampler where
  channels := channels
  targetFillFrames := targetFillFrames
  primingThresholdFrames := max targetFillFrames 2
  controlSpanFrames := min targetFillFrames (capacityFrames - targetFillFrames)
  nominalStep := nominalStep
  maxDriftRatio := maxDriftPpm.toNat / 1000000
  current := List.replicate channels 0
  next := List.replicate channels 0
  interpolated := List.replicate channels 0
  phase := 0
  haveCurrent := false
  haveNext := false
  primed := false
  hasPrimed := false

/-- The function `drift_correction`. -/
def driftCorrection (fillFrames targetFillFrames controlSpanFrames : Nat) (maxDriftRatio : ℚ) : ℚ :=
  let error := (fillFrames : ℚ) - (targetFillFrames : ℚ)
  max (-maxDriftRatio) (min (error / controlSpanFrames * maxDriftRatio) maxDriftRatio)

/-- The resampler in a call: the ring, and the writes that other threads get
done before each of its further looks at the ring. -/
structure PcmCall where
  producer : PcmProducer
  ring : PcmRing
  arriving : List (List PcmWrite)
  resampler : RingResampler

/-- A delivered frame, with the phase it was interpolated at and the drift
correction that followed. -/
structure Delivery where
  frame : List ℚ
  phase : ℚ
  correction : ℚ
  deriving DecidableEq

namespace PcmCall

/-- The writes before a look at the ring. -/
def look (call : PcmCall) : PcmCall :=
  match call.arriving with
  | [] => call
  | writes :: arriving =>
      { call with
        ring := writes.foldl (PcmWrite.apply call.producer) call.ring
        arriving := arriving }

/-- `buffered_frames`, after a look at the ring. -/
def bufferedFrames (call : PcmCall) : Nat :=
  call.ring.samples.length / call.resampler.channels + call.resampler.haveCurrent.toNat +
    call.resampler.haveNext.toNat

def popFrame (next : Bool) (call : PcmCall) : Bool × PcmCall :=
  let call := call.look
  if call.ring.samples.length < call.resampler.channels then (false, call)
  else
    let output := call.ring.samples.take call.resampler.channels
    let ring := { call.ring with samples := call.ring.samples.drop call.resampler.channels }
    if next then
      (true, { call with ring := ring, resampler := { call.resampler with next := output } })
    else
      (true, { call with ring := ring, resampler := { call.resampler with current := output } })

/-- The first part of `prepare_next_frame`: wait until enough is buffered. -/
def prime (call : PcmCall) : Bool × PcmCall :=
  if call.resampler.primed then (true, call)
  else
    let call := call.look
    if call.bufferedFrames < call.resampler.primingThresholdFrames then (false, call)
    else
      (true, { call with resampler := { call.resampler with primed := true, hasPrimed := true } })

/-- Pop the current frame, unless there is one. -/
def fillCurrent (call : PcmCall) : Bool × PcmCall :=
  if call.resampler.haveCurrent then (true, call)
  else
    match call.popFrame false with
    | (true, call) => (true, { call with resampler := { call.resampler with haveCurrent := true } })
    | (false, call) =>
        (false, { call with
          resampler := { call.resampler with haveCurrent := false, primed := false } })

/-- Pop the next frame, unless there is one. -/
def fillNext (call : PcmCall) : Bool × PcmCall :=
  if call.resampler.haveNext then (true, call)
  else
    match call.popFrame true with
    | (true, call) => (true, { call with resampler := { call.resampler with haveNext := true } })
    | (false, call) =>
        (false, { call with
          resampler := { call.resampler with haveNext := false, primed := false } })

/-- Interpolate between the two frames and advance the phase. -/
def interpolate (call : PcmCall) : Delivery × PcmCall :=
  let frame := blend call.resampler.current call.resampler.next call.resampler.phase
  let looked := call.look
  let correction := driftCorrection looked.bufferedFrames looked.resampler.targetFillFrames
    looked.resampler.controlSpanFrames looked.resampler.maxDriftRatio
  ({ frame := frame, phase := call.resampler.phase, correction := correction },
    { looked with
      resampler := { looked.resampler with
        interpolated := frame
        phase := looked.resampler.phase + looked.resampler.nominalStep * (1 + correction) } })

/-- The body of the loop that follows: go on by one frame. -/
def shift (call : PcmCall) : PcmCall :=
  let shifted :=
    { call with
      resampler := { call.resampler with
        current := call.resampler.next
        haveCurrent := true
        haveNext := false
        phase := call.resampler.phase - 1 } }
  let (popped, call) := shifted.popFrame true
  { call with resampler := { call.resampler with haveNext := popped } }

/-- The loop `while self.phase >= 1.0 && self.have_next`, for a given number of
passes. -/
def shifts : Nat → PcmCall → PcmCall
  | 0, call => call
  | passes + 1, call =>
      if 1 ≤ call.resampler.phase ∧ call.resampler.haveNext = true then shifts passes call.shift
      else call

/-- The loop gets one pass for each whole frame of the phase, which is enough
for it to finish (`advance_eq`). -/
def advance (call : PcmCall) : PcmCall :=
  call.shifts call.resampler.phase.floor.toNat

/-- The last lines of `prepare_next_frame`. -/
def finish (call : PcmCall) : PcmCall :=
  if call.resampler.haveNext then call
  else { call with resampler := { call.resampler with primed := false } }

def prepareNextFrame (call : PcmCall) : Option Delivery × PcmCall :=
  match call.prime with
  | (false, call) => (none, call)
  | (true, call) =>
      match call.fillCurrent with
      | (false, call) => (none, call)
      | (true, call) =>
          match call.fillNext with
          | (false, call) => (none, call)
          | (true, call) =>
              let (delivery, call) := call.interpolate
              (some delivery, call.advance.finish)

end PcmCall

/-! ## Streams -/

/-- A stream between the calls, with the frames delivered so far. -/
structure PcmStream where
  producer : PcmProducer
  ring : PcmRing
  resampler : RingResampler
  delivered : List Delivery

inductive PcmAction where
  | write (call : PcmWrite)
  /-- A call of `next_frame`, and the writes that get done before each of its
  looks at the ring. -/
  | nextFrame (arriving : List (List PcmWrite))

namespace PcmStream

/-- The nominal step of a playback or a capture stream. -/
def nominalStep (direction : PcmStreamDirection) (clientRate deviceRate : UInt32) : ℚ :=
  match direction with
  | .output => (clientRate.toNat : ℚ) / (deviceRate.toNat : ℚ)
  | .input => (deviceRate.toNat : ℚ) / (clientRate.toNat : ℚ)

/-- The stream that `start` makes, before any call. -/
def start (config : PcmStreamConfig) (validated : ValidatedConfig)
    (direction : PcmStreamDirection) (deviceRate : UInt32) : PcmStream where
  producer :=
    { capacity := validated.internalSampleCapacity
      channels := validated.channels
      logicalCapacitySamples := validated.logicalCapacitySamples }
  ring := ⟨[], []⟩
  resampler := .new validated.channels config.targetFillFrames config.capacityFrames
    (nominalStep direction config.clientFormat.sampleRate deviceRate) config.maxDriftPpm
  delivered := []

/-- A call of the resampler. -/
def call (stream : PcmStream) (arriving : List (List PcmWrite)) : PcmCall where
  producer := stream.producer
  ring := stream.ring
  arriving := arriving
  resampler := stream.resampler

def step (stream : PcmStream) : PcmAction → PcmStream
  | .write call => { stream with ring := call.apply stream.producer stream.ring }
  | .nextFrame arriving =>
      let (delivery, call) := (stream.call arriving).prepareNextFrame
      { stream with
        ring := call.ring
        resampler := call.resampler
        delivered := stream.delivered ++ delivery.toList }

def run (stream : PcmStream) (actions : List PcmAction) : PcmStream :=
  actions.foldl step stream

end PcmStream

end VCable
