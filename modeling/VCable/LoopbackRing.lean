import VCable.FilledLists

/-!
# The loopback ring of a driver device

A device of the driver plays what is written to its output side back on its
input side, a fixed number of frames later.  The samples are kept as the bits
of their floating-point numbers, in a ring of frames with one tag each.
-/

namespace VCable

def kRingFrames : Nat := 65536

def kLoopbackLatencyFrames : UInt64 := 512

/-- The part of `Device` that `Write` and `Read` use. -/
structure Loopback where
  inputChannels : UInt32
  outputChannels : UInt32
  samples : List UInt32
  tags : List UInt64
  inputActive : Bool
  outputActive : Bool
  underruns : UInt64
  deriving DecidableEq

namespace Loopback

/-- The field `sampleStride`, which no call changes. -/
def sampleStride (device : Loopback) : Nat :=
  max device.inputChannels.toNat device.outputChannels.toNat

/-- The constructor of `Device`. -/
def new (inputChannels outputChannels : UInt32) : Loopback where
  inputChannels := inputChannels
  outputChannels := outputChannels
  samples := List.replicate (kRingFrames * max inputChannels.toNat outputChannels.toNat) 0
  tags := List.replicate kRingFrames 0
  inputActive := true
  outputActive := true
  underruns := 0

def clearTags (device : Loopback) : Loopback :=
  { device with tags := List.replicate kRingFrames 0 }

/-! ## Writing -/

/-- A store to `samples`; there is none outside of the array. -/
def storeSample (device : Loopback) (index : Nat) (bits : UInt32) : Option Loopback :=
  if index < device.samples.length then
    some { device with samples := device.samples.set index bits }
  else none

/-- A store to `tags`. -/
def storeTag (device : Loopback) (index : Nat) (tag : UInt64) : Option Loopback :=
  if index < device.tags.length then some { device with tags := device.tags.set index tag }
  else none

/-- The loop over the channels in `Write`. -/
def writeSample (input : List UInt32) (frame base : Nat) (device : Loopback) (channel : Nat) :
    Option Loopback :=
  if channel < device.outputChannels.toNat then
    match input[frame * device.outputChannels.toNat + channel]? with
    | some value => device.storeSample (base + channel) value
    | none => none
  else device.storeSample (base + channel) 0

/-- The loop over the frames in `Write`. -/
def writeFrame (sampleTime : UInt64) (input : List UInt32) (device : Loopback) (frame : Nat) :
    Option Loopback :=
  let absoluteFrame := sampleTime + UInt64.ofNat frame
  let ringFrame := absoluteFrame.toNat % kRingFrames
  match (List.range device.sampleStride).foldlM
      (writeSample input frame (ringFrame * device.sampleStride)) device with
  | some device => device.storeTag ringFrame (absoluteFrame + 1)
  | none => none

/-- `Device::Write`; an access outside of an array has no result. -/
def write (sampleTime : UInt64) (frames : UInt32) (input : Option (List UInt32))
    (device : Loopback) : Option Loopback :=
  match input with
  | none => some device
  | some input =>
      if device.outputActive then
        (List.range frames.toNat).foldlM (writeFrame sampleTime input) device
      else some device

/-! ## Reading -/

/-- The loop over the channels in `Read`. -/
def readSample (device : Loopback) (frame base : Nat) (output : List UInt32) (channel : Nat) :
    Option (List UInt32) :=
  match device.samples[base + channel]? with
  | some bits =>
      let index := frame * device.inputChannels.toNat + channel
      if index < output.length then some (output.set index bits) else none
  | none => none

/-- The loop over the frames in `Read`. -/
def readFrame (sampleTime : UInt64) (reading : Loopback × List UInt32) (frame : Nat) :
    Option (Loopback × List UInt32) :=
  let (device, output) := reading
  let inputFrame := sampleTime + UInt64.ofNat frame
  if inputFrame < kLoopbackLatencyFrames then some (device, output)
  else
    let sourceFrame := inputFrame - kLoopbackLatencyFrames
    let ringFrame := sourceFrame.toNat % kRingFrames
    match device.tags[ringFrame]? with
    | some tag =>
        if tag ≠ sourceFrame + 1 then
          some ({ device with underruns := device.underruns + 1 }, output)
        else
          let channelsToCopy := min device.inputChannels.toNat device.outputChannels.toNat
          match (List.range channelsToCopy).foldlM
              (readSample device frame (ringFrame * device.sampleStride)) output with
          | some output => some (device, output)
          | none => none
    | none => none

/-- `Device::Read`. -/
def read (sampleTime : UInt64) (frames : UInt32) (output : Option (List UInt32))
    (device : Loopback) : Option (Loopback × Option (List UInt32)) :=
  match output with
  | none => some (device, none)
  | some output =>
      let sampleCount := frames.toNat * device.inputChannels.toNat
      if sampleCount ≤ output.length then
        let cleared := List.replicate sampleCount 0 ++ output.drop sampleCount
        if device.inputActive then
          match (List.range frames.toNat).foldlM (readFrame sampleTime) (device, cleared) with
          | some (device, output) => some (device, some output)
          | none => none
        else some (device, some cleared)
      else none

/-- The arrays have the sizes that the constructor gives them. -/
structure Shaped (device : Loopback) : Prop where
  samples_length : device.samples.length = kRingFrames * device.sampleStride
  tags_length : device.tags.length = kRingFrames

theorem shaped_new (inputChannels outputChannels : UInt32) :
    (new inputChannels outputChannels).Shaped :=
  ⟨List.length_replicate, List.length_replicate⟩

end Loopback

end VCable
