import VCable.Daemon
import VCable.FrameStreams
import Mathlib.Data.Rat.Floor

/-!
# The incoming routes of the router

The sink's end of a route, which resamples the frames of its ring and mixes
them.  The consumer is given by the samples that it can pop; the phase, the
corrections and the samples that are interpolated are exact rationals.
-/

namespace VCable

open FrameStreams

structure IncomingRoute (F : Type) where
  consumer : List F
  sourceChannels : Nat
  sinkChannels : Nat
  nominalStep : ℚ
  gain : F
  matrix : List F
  current : List F
  next : List F
  interpolated : List F
  phase : ℚ
  primed : Bool
  deriving DecidableEq

namespace IncomingRoute

def startupFrames : Nat := 512

variable {F : Type}

section Mixing

variable [SinglePrecision F]

/-- The route as `AudioRouter::start` makes it. -/
def new (route : AudioRoute F) : IncomingRoute F where
  consumer := []
  sourceChannels := route.sourceChannels.toNat
  sinkChannels := route.sinkChannels.toNat
  nominalStep := (route.sourceSampleRate.toNat : ℚ) / (route.sinkSampleRate.toNat : ℚ)
  gain := route.gain
  matrix := route.matrix
  current := List.replicate route.sourceChannels.toNat ((0 : Nat) : F)
  next := List.replicate route.sourceChannels.toNat ((0 : Nat) : F)
  interpolated := List.replicate route.sourceChannels.toNat ((0 : Nat) : F)
  phase := 0
  primed := false

/-- The row that `mixed_sample` slices out of the matrix. -/
def row (route : IncomingRoute F) (sinkChannel : Nat) : Option (List F) :=
  (sliceFrom route.matrix (sinkChannel * route.sourceChannels)).bind fun rest =>
    sliceTo rest route.sourceChannels

/-- `mixed_sample`; there is none where a slice is out of bounds. -/
def mixedSample (route : IncomingRoute F) (sinkChannel : Nat) : Option F :=
  (route.row sinkChannel).map fun row =>
    ((row.zip route.interpolated).map fun (coefficient, sample) => coefficient * sample).foldl
      (fun sum product => sum + product) ((0 : Nat) : F) * route.gain

/-- The mix of a channel is there if the matrix reaches to the end of its row. -/
theorem mixedSample_isSome {route : IncomingRoute F} {sinkChannel : Nat}
    (reaches : (sinkChannel + 1) * route.sourceChannels ≤ route.matrix.length) :
    (route.mixedSample sinkChannel).isSome := by
  rw [Nat.succ_mul] at reaches
  have rest : route.sourceChannels ≤
      (route.matrix.drop (sinkChannel * route.sourceChannels)).length := by
    rw [List.length_drop]
    omega
  rw [mixedSample, row, sliceFrom, if_pos (by omega), Option.bind_some, sliceTo, if_pos rest]
  rfl

end Mixing

/-- The loop of `read_source_frame`: whether all samples were popped, the
destination and the rest of the ring. -/
def readSamples : List F → List F → Bool × List F × List F
  | [], consumer => (true, [], consumer)
  | sample :: destination, [] => (false, sample :: destination, [])
  | _ :: destination, value :: consumer =>
      let (complete, filled, rest) := readSamples destination consumer
      (complete, value :: filled, rest)

def readSourceFrame (next : Bool) (route : IncomingRoute F) : Bool × IncomingRoute F :=
  if route.consumer.length < route.sourceChannels then (false, route)
  else if next then
    let (complete, filled, rest) := readSamples route.next route.consumer
    (complete, { route with next := filled, consumer := rest })
  else
    let (complete, filled, rest) := readSamples route.current route.consumer
    (complete, { route with current := filled, consumer := rest })

end IncomingRoute

/-- A route with the metrics of its context. -/
structure PlayingRoute where
  route : IncomingRoute ℚ
  metrics : RouterMetrics

namespace PlayingRoute

open IncomingRoute

def addUnderrun (playing : PlayingRoute) : PlayingRoute :=
  { playing with metrics := { playing.metrics with underruns := playing.metrics.underruns + 1 } }

/-- The first part of `prepare_output_frame`: wait for the first frames. -/
def prime (playing : PlayingRoute) : Bool × PlayingRoute :=
  if playing.route.primed then (true, playing)
  else
    let availableFrames := playing.route.consumer.length / playing.route.sourceChannels
    if availableFrames < startupFrames then (false, playing)
    else
      match playing.route.readSourceFrame false with
      | (false, route) => (false, { playing with route := route }.addUnderrun)
      | (true, route) =>
          match route.readSourceFrame true with
          | (false, route) => (false, { playing with route := route }.addUnderrun)
          | (true, route) =>
              (true, { playing with route := { route with phase := 0, primed := true } })

/-- The correction of the read speed by the fill level. -/
def correction (availableFrames : Nat) : ℚ :=
  let target : ℚ := startupFrames
  let error := ((availableFrames : ℚ) - target) / target
  max (-(1 / 1000)) (min (error * (1 / 2000)) (1 / 1000))

/-- Interpolate between the two frames and advance the phase. -/
def interpolate (playing : PlayingRoute) : PlayingRoute :=
  let route := playing.route
  let availableFrames := route.consumer.length / route.sourceChannels
  { playing with
    route :=
      { route with
        interpolated := blend route.current route.next route.phase
        phase := route.phase + route.nominalStep * (1 + correction availableFrames) } }

/-- The loop `while self.phase >= 1.0`, for a given number of passes. -/
def shifts : Nat → PlayingRoute → PlayingRoute
  | 0, playing => playing
  | passes + 1, playing =>
      if 1 ≤ playing.route.phase then
        match { playing.route with current := playing.route.next }.readSourceFrame true with
        | (false, route) =>
            { playing with route := { route with primed := false } }.addUnderrun
        | (true, route) =>
            shifts passes { playing with route := { route with phase := route.phase - 1 } }
      else playing

/-- The loop gets one pass for each whole frame of the phase, which is enough
for it to finish (`PlayingRoute.deliver`). -/
def advance (playing : PlayingRoute) : PlayingRoute :=
  shifts playing.route.phase.floor.toNat playing

/-- Whether there is an output frame, which is then in `interpolated`. -/
def prepareOutputFrame (playing : PlayingRoute) : Bool × PlayingRoute :=
  match playing.prime with
  | (false, playing) => (false, playing)
  | (true, playing) => (true, playing.interpolate.advance)

end PlayingRoute

end VCable
