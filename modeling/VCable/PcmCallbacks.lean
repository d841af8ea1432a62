import VCable.PcmLossless
import VCable.PcmPriming
import VCable.RouterCallback

/-!
# The callbacks of PCM streams

`pcm_audio_device_io_proc` plays the frames of a playback stream into the output
of its device, or records the input of its device as the frames of a capture
stream.  The process at the other end of the ring goes on while a callback
runs: what it does by the next look at the ring is given with the call.
-/

namespace VCable

open FallibleState

/-- The counters of `AtomicPcmStreamMetrics`. -/
structure PcmCounters where
  callbacks : UInt64
  transferredFrames : UInt64
  underrunFrames : UInt64
  overrunFrames : UInt64
  formatErrors : UInt64
  deriving DecidableEq, Repr

namespace PcmCounters

def new : PcmCounters where
  callbacks := 0
  transferredFrames := 0
  underrunFrames := 0
  overrunFrames := 0
  formatErrors := 0

def callback (counters : PcmCounters) : PcmCounters :=
  { counters with callbacks := counters.callbacks + 1 }

def transferred (frames : Nat) (counters : PcmCounters) : PcmCounters :=
  { counters with transferredFrames := counters.transferredFrames + UInt64.ofNat frames }

def underrun (frames : Nat) (counters : PcmCounters) : PcmCounters :=
  { counters with underrunFrames := counters.underrunFrames + UInt64.ofNat frames }

def overrun (frames : Nat) (counters : PcmCounters) : PcmCounters :=
  { counters with overrunFrames := counters.overrunFrames + UInt64.ofNat frames }

def formatError (counters : PcmCounters) : PcmCounters :=
  { counters with formatErrors := counters.formatErrors + 1 }

end PcmCounters

/-! ## Playing -/

/-- A playback stream in a callback, the writes that get done before its looks
at the ring, and the output, which may be null. -/
structure PlaybackState where
  stream : PcmStream
  arriving : List (List PcmWrite)
  counters : PcmCounters
  output : Option (AudioBufferList ℚ)

abbrev Playback (α : Type) : Type :=
  FallibleState PlaybackState CallbackExit α

namespace Playback

def changeCounters (update : PcmCounters → PcmCounters) : Playback Unit :=
  FallibleState.change fun state => { state with counters := update state.counters }

/-- Count a format error and return. -/
def formatError : Playback Unit := do
  changeCounters PcmCounters.formatError
  fail .returned

/-- `RingResampler::prepare_next_frame` on the ring of the stream. -/
def prepareNextFrame : Playback Bool := fun state =>
  let (delivery, call) := (state.stream.call state.arriving).prepareNextFrame
  (.ok delivery.isSome,
    { state with
      stream := state.stream.step (.nextFrame state.arriving)
      arriving := call.arriving })

/-- `PlaybackCallbackState::next_frame`. -/
def nextFrame : Playback (Option (List ℚ)) := do
  let countAsUnderrun ← inspect fun state => .ok state.stream.resampler.hasPrimed
  let prepared ← prepareNextFrame
  if prepared then do
    changeCounters (PcmCounters.transferred 1)
    inspect fun state => .ok (some state.stream.resampler.interpolated)
  else do
    changeCounters fun counters => if countAsUnderrun then counters.underrun 1 else counters
    pure none

/-- A pass of the loop over the samples of a frame. -/
def addSample (frameIndex channel : Nat) (sample : ℚ) : Playback Unit := do
  let (added, output) ← inspect fun state =>
    okOr .undefined (state.output.bind (addAudioSample · frameIndex channel sample))
  FallibleState.change fun state => { state with output := some output }
  if added then pure () else formatError

/-- A pass of the loop over the frames of the output. -/
def playFrame (frameIndex : Nat) : Playback Unit := do
  let frame ← nextFrame
  match frame with
  | none => pure ()
  | some frame => frame.zipIdx.forM fun entry => addSample frameIndex entry.2 entry.1

end Playback

/-- `pcm_audio_device_io_proc` on a playback stream. -/
def playbackIoProc : Playback Unit := do
  Playback.changeCounters PcmCounters.callback
  let output ← inspect fun state => .ok state.output
  match output with
  | none => Playback.formatError
  | some output => do
      let output := clearAudioBufferList output
      FallibleState.change fun state => { state with output := some output }
      match audioBufferListFrames output with
      | none => Playback.formatError
      | some frames => do
          let channels ← inspect fun state => .ok state.stream.resampler.channels
          if audioBufferListChannels output ≠ some channels then Playback.formatError
          else (List.range frames).forM Playback.playFrame

/-! ## Recording -/

/-- A capture stream in a callback, and the numbers of frames that the reader
pops before the looks at the ring. -/
structure CaptureState where
  producer : PcmProducer
  ring : PcmRing
  reading : List Nat
  scratch : List ℚ
  counters : PcmCounters

abbrev Capture (α : Type) : Type :=
  FallibleState CaptureState CallbackExit α

namespace CaptureState

/-- Frames are popped from the ring. -/
def pop (frames : Nat) (state : CaptureState) : CaptureState :=
  { state with
    ring := { state.ring with
      samples := state.ring.samples.drop (frames * state.producer.channels) } }

/-- The turn of the reader before a look at the ring. -/
def look (state : CaptureState) : CaptureState :=
  match state.reading with
  | [] => state
  | frames :: reading => { state.pop frames with reading := reading }

end CaptureState

namespace Capture

def changeCounters (update : PcmCounters → PcmCounters) : Capture Unit :=
  FallibleState.change fun state => { state with counters := update state.counters }

/-- Count a format error and return. -/
def formatError : Capture Unit := do
  changeCounters PcmCounters.formatError
  fail .returned

/-- `CaptureCallbackState::has_capacity_for_frame`. -/
def hasCapacityForFrame : Capture Bool := do
  FallibleState.change CaptureState.look
  inspect fun state => .ok (state.producer.hasCapacityForFrame state.ring)

/-- `CaptureCallbackState::commit_scratch_frame`. -/
def commitScratchFrame : Capture Unit := do
  FallibleState.change fun state =>
    { state with ring := state.producer.pushSlice state.scratch state.ring }
  changeCounters (PcmCounters.transferred 1)

/-- A pass of the loop over the channels of a frame. -/
def captureSample (input : AudioBufferList ℚ) (frameIndex channel : Nat) : Capture Unit :=
  match readAudioSample input frameIndex channel with
  | none => formatError
  | some sample => do
      let length ← inspect fun state => .ok state.scratch.length
      if channel < length then
        FallibleState.change fun state => { state with scratch := state.scratch.set channel sample }
      else fail .panicked

/-- A pass of the loop over the frames of the input. -/
def captureFrame (input : AudioBufferList ℚ) (frameIndex : Nat) : Capture Unit := do
  let fits ← hasCapacityForFrame
  if !fits then changeCounters (PcmCounters.overrun 1)
  else do
    let channels ← inspect fun state => .ok state.producer.channels
    (List.range channels).forM (captureSample input frameIndex)
    commitScratchFrame

end Capture

/-- `pcm_audio_device_io_proc` on a capture stream. -/
def captureIoProc (input : Option (AudioBufferList ℚ)) : Capture Unit := do
  Capture.changeCounters PcmCounters.callback
  match input with
  | none => Capture.formatError
  | some input =>
      match audioBufferListFrames input with
      | none => Capture.formatError
      | some frames => do
          let channels ← inspect fun state => .ok state.producer.channels
          if audioBufferListChannels input ≠ some channels then Capture.formatError
          else (List.range frames).forM (Capture.captureFrame input)

end VCable
