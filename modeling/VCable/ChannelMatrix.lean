import Mathlib.Algebra.Order.Field.Rat
import Mathlib.Tactic.Common

/-!
# Channel matrices

The row-major output-by-input matrix of a route.  The arithmetic of `f32` is a
parameter: a type with the operations that the crates use.  A matrix carries
its dimensions and the finiteness of its coefficients, so that the only ways
to obtain one are the two constructors of the source.
-/

namespace VCable

/-- The operations of `f32` that the crates use.  Number literals are casts of
natural numbers. -/
class SinglePrecision (F : Type) extends NatCast F, Add F, Mul F, Div F where
  /-- `value as f32` for an `i32`. -/
  ofInt32 : Int32 → F
  /-- `f32::powf`. -/
  powf : F → F → F
  /-- `f32::is_finite`. -/
  isFinite : F → Bool
  /-- The text of a value with a number of decimals, as `{:.6}` prints it. -/
  fixed : Nat → F → String

/-- A rational with a number of decimals, ties rounded to even. -/
def fixedRational (decimals : Nat) (value : ℚ) : String :=
  let scaled := (if value < 0 then -value else value) * 10 ^ decimals
  let whole := scaled.floor.toNat
  let rounded :=
    if scaled - whole < 1 / 2 ∨ scaled - whole = 1 / 2 ∧ whole % 2 = 0 then whole else whole + 1
  let fraction := toString (rounded % 10 ^ decimals)
  (if value < 0 then "-" else "") ++ toString (rounded / 10 ^ decimals) ++ "." ++
    String.ofList (List.replicate (decimals - fraction.length) '0') ++ fraction

/-- Exact rationals in place of `f32`.  Only integral exponents are raised; a
gain of 0 dB has the exponent 0. -/
instance : SinglePrecision ℚ where
  ofInt32 value := value.toInt
  powf base exponent := if exponent.den = 1 then base ^ exponent.num else 0
  isFinite _ := true
  fixed := fixedRational

/-- The largest `usize` is one less than this on a 64-bit target. -/
def usizeBound : Nat := 2 ^ 64

/-- `usize::checked_mul`. -/
def checkedMul (first second : Nat) : Option Nat :=
  if first * second < usizeBound then some (first * second) else none

/-- `slice[start..]`, where it is in bounds. -/
def sliceFrom {α : Type} (values : List α) (start : Nat) : Option (List α) :=
  if start ≤ values.length then some (values.drop start) else none

/-- `slice[..count]`, where it is in bounds. -/
def sliceTo {α : Type} (values : List α) (count : Nat) : Option (List α) :=
  if count ≤ values.length then some (values.take count) else none

inductive MatrixError where
  | zeroChannels
  | wrongCoefficientCount (expected actual : Nat)
  | nonFiniteCoefficient (index : Nat)
  | bufferLengthMismatch
  | frameCountOverflow
  deriving DecidableEq, Repr

/-- A row-major output-by-input channel matrix. -/
structure ChannelMatrix (F : Type) [SinglePrecision F] where
  outputChannels : Nat
  inputChannels : Nat
  coefficients : List F
  outputChannels_ne_zero : outputChannels ≠ 0
  inputChannels_ne_zero : inputChannels ≠ 0
  length_coefficients : coefficients.length = outputChannels * inputChannels
  finite_coefficients : ∀ value ∈ coefficients, SinglePrecision.isFinite value = true

namespace ChannelMatrix

variable {F : Type} [SinglePrecision F]

instance [DecidableEq F] : DecidableEq (ChannelMatrix F) := fun first second =>
  decidable_of_iff
    (first.outputChannels = second.outputChannels ∧
      first.inputChannels = second.inputChannels ∧
      first.coefficients = second.coefficients)
    (by cases first; cases second; simp)

/-- `ChannelMatrix::new`. -/
def new (outputChannels inputChannels : Nat) (coefficients : List F) :
    Except MatrixError (ChannelMatrix F) :=
  if zero : outputChannels = 0 ∨ inputChannels = 0 then
    .error .zeroChannels
  else
    match checkedMul outputChannels inputChannels with
    | none => .error .frameCountOverflow
    | some expected =>
        if lengthEq : coefficients.length = outputChannels * inputChannels then
          match found : coefficients.findIdx? fun value => !SinglePrecision.isFinite value with
          | some index => .error (.nonFiniteCoefficient index)
          | none =>
              .ok
                { outputChannels := outputChannels
                  inputChannels := inputChannels
                  coefficients := coefficients
                  outputChannels_ne_zero := fun isZero => zero (Or.inl isZero)
                  inputChannels_ne_zero := fun isZero => zero (Or.inr isZero)
                  length_coefficients := lengthEq
                  finite_coefficients := by simpa using found }
        else
          .error (.wrongCoefficientCount expected coefficients.length)

/-- `ChannelMatrix::identity`. -/
def identity (channels : Nat) : Except MatrixError (ChannelMatrix F) :=
  if channels = 0 then
    .error .zeroChannels
  else
    let zeros := List.replicate (channels * channels) ((0 : Nat) : F)
    let coefficients := (List.range channels).foldl
      (fun written channel => written.set (channel * channels + channel) ((1 : Nat) : F)) zeros
    new channels channels coefficients

/-- The coefficients of an output channel. -/
def row (matrix : ChannelMatrix F) (outputChannel : Nat) : Option (List F) :=
  (sliceFrom matrix.coefficients (outputChannel * matrix.inputChannels)).bind fun rest =>
    sliceTo rest matrix.inputChannels

/-- A pass of the loop over the samples of an output frame; there is none where
a slice is out of bounds. -/
def mixSample (matrix : ChannelMatrix F) (inputFrame : List F) (gain : F)
    (outputSample : F × Nat) : Option F :=
  (matrix.row outputSample.2).map fun row =>
    let mixed :=
      ((row.zip inputFrame).map fun (coefficient, sample) => coefficient * sample).foldl
        (fun sum product => sum + product) ((0 : Nat) : F)
    outputSample.1 + mixed * gain

/-- A pass of the loop over the frames: the samples of a frame of the output are
mixed in their place. -/
def mixFrame (matrix : ChannelMatrix F) (input : List F) (gain : F) (output : List F)
    (frame : Nat) : Option (List F) := do
  let inputRest ← sliceFrom input (frame * matrix.inputChannels)
  let inputFrame ← sliceTo inputRest matrix.inputChannels
  let outputRest ← sliceFrom output (frame * matrix.outputChannels)
  let outputFrame ← sliceTo outputRest matrix.outputChannels
  let mixed ← outputFrame.zipIdx.mapM (matrix.mixSample inputFrame gain)
  some (output.take (frame * matrix.outputChannels) ++ mixed ++
    outputRest.drop matrix.outputChannels)

/-- `ChannelMatrix::mix_interleaved`: the result and the output, unless a slice is
out of bounds. -/
def mixInterleaved (matrix : ChannelMatrix F) (frames : Nat) (input output : List F) (gain : F) :
    Option (Except MatrixError Unit × List F) :=
  match checkedMul frames matrix.inputChannels with
  | none => some (.error .frameCountOverflow, output)
  | some expectedInput =>
      match checkedMul frames matrix.outputChannels with
      | none => some (.error .frameCountOverflow, output)
      | some expectedOutput =>
          if input.length ≠ expectedInput ∨ output.length ≠ expectedOutput ∨
              !SinglePrecision.isFinite gain then
            some (.error .bufferLengthMismatch, output)
          else
            ((List.range frames).foldlM (matrix.mixFrame input gain) output).map fun output =>
              (.ok (), output)

theorem new_dimensions {outputChannels inputChannels : Nat} {coefficients : List F}
    {matrix : ChannelMatrix F}
    (built : new outputChannels inputChannels coefficients = .ok matrix) :
    matrix.outputChannels = outputChannels ∧ matrix.inputChannels = inputChannels ∧
      matrix.coefficients = coefficients := by
  unfold new at built
  split at built
  · cases built
  split at built
  · cases built
  split at built
  · split at built
    · cases built
    · cases built
      exact ⟨rfl, rfl, rfl⟩
  · cases built

end ChannelMatrix

end VCable
