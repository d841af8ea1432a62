import VCable.WrappingIndex
import Mathlib.Data.List.Basic

/-!
# The single-producer single-consumer ring

The ring of `ring.rs` as a machine.  Each call of the producer or the consumer
is split into its loads of the two indices, its slot copies one by one, and
the store that publishes its own index.  The steps of the two sides interleave
in one global order.  The width `w` of `usize` is a parameter.
-/

namespace VCable

inductive RingBufferError where
  | capacityTooSmall
  | capacityNotPowerOfTwo
  deriving DecidableEq, Repr

/-- The shared part of a ring: the slots and the two indices. -/
structure Ring (α : Type*) (w : Nat) where
  samples : List α
  mask : BitVec w
  read : BitVec w
  write : BitVec w
  deriving DecidableEq

/-- `usize::is_power_of_two`. -/
def isPowerOfTwo (value : Nat) : Bool :=
  value ≠ 0 && value &&& (value - 1) = 0

/-- `spsc_ring_buffer`; `zero` is the sample `0.0`. -/
def spscRingBuffer {α : Type*} (w : Nat) (zero : α) (capacity : Nat) :
    Except RingBufferError (Ring α w) :=
  if capacity < 2 then
    .error .capacityTooSmall
  else if !isPowerOfTwo capacity then
    .error .capacityNotPowerOfTwo
  else
    .ok
      { samples := List.replicate capacity zero
        mask := BitVec.ofNat w (capacity - 1)
        read := 0
        write := 0 }

namespace Ring

variable {α : Type*} {w : Nat}

def capacity (ring : Ring α w) : Nat :=
  ring.samples.length

/-- `write.wrapping_sub(read)`. -/
def used (ring : Ring α w) : Nat :=
  (ring.write - ring.read).toNat

/-- `index.wrapping_add(offset) & mask`. -/
def slotAt (ring : Ring α w) (index : BitVec w) (offset : Nat) : Nat :=
  ((index + BitVec.ofNat w offset) &&& ring.mask).toNat

end Ring

/-- A call of the producer. -/
inductive PushCall (α : Type*) where
  | push (sample : α)
  | pushSlice (input : List α)
  deriving DecidableEq

/-- A call of the consumer; `popSlice` gets an output of the given length. -/
inductive PopCall where
  | pop
  | popSlice (length : Nat)
  deriving DecidableEq

/-- What a finished call returns; `popSlice` also fills its output. -/
inductive Return (α : Type*) where
  | push (accepted : Bool)
  | pushSlice (count : Nat)
  | pop (sample : Option α)
  | popSlice (count : Nat) (output : List α)
  deriving DecidableEq

namespace PushCall

variable {α : Type*}

def input : PushCall α → List α
  | .push sample => [sample]
  | .pushSlice input => input

/-- How many samples a call decides to write when it finds `used` samples in a
ring of the given capacity. -/
def count (capacity used : Nat) : PushCall α → Nat
  | .push _ => if used = capacity then 0 else 1
  | .pushSlice input => min input.length (capacity - used)

/-- Whether a call returns without touching the ring.  A full ring stops
`push` before its store; `push_slice` stores its index in any case. -/
def stopsEarly (capacity used : Nat) : PushCall α → Bool
  | .push _ => used = capacity
  | .pushSlice _ => false

def result (count : Nat) : PushCall α → Return α
  | .push _ => .push (count ≠ 0)
  | .pushSlice _ => .pushSlice count

theorem count_of_stopsEarly (call : PushCall α) {capacity used : Nat}
    (stops : call.stopsEarly capacity used = true) : call.count capacity used = 0 := by
  cases call with
  | push sample => exact if_pos (of_decide_eq_true stops)
  | pushSlice input => cases stops

end PushCall

namespace PopCall

/-- How many samples a call has place for. -/
def length : PopCall → Nat
  | .pop => 1
  | .popSlice length => length

/-- How many samples a call decides to read when it finds `used` samples. -/
def count (used : Nat) : PopCall → Nat
  | .pop => if used = 0 then 0 else 1
  | .popSlice length => min length used

/-- An empty ring stops `pop` before its store. -/
def stopsEarly (used : Nat) : PopCall → Bool
  | .pop => used = 0
  | .popSlice _ => false

def result {α : Type*} (output : List α) : PopCall → Return α
  | .pop => .pop output.head?
  | .popSlice _ => .popSlice output.length output

theorem count_of_stopsEarly (call : PopCall) {used : Nat}
    (stops : call.stopsEarly used = true) : call.count used = 0 := by
  cases call with
  | pop => exact if_pos (of_decide_eq_true stops)
  | popSlice length => cases stops

end PopCall

/-- The progress of the producer inside a call. -/
inductive ProducerState (α : Type*) (w : Nat) where
  | idle
  | called (call : PushCall α)
  | copying (call : PushCall α) (write : BitVec w) (count offset : Nat)
  deriving DecidableEq

def ProducerState.call? {α : Type*} {w : Nat} : ProducerState α w → Option (PushCall α)
  | .idle => none
  | .called call => some call
  | .copying call _ _ _ => some call

/-- The progress of the consumer inside a call, with the samples copied out so
far. -/
inductive ConsumerState (α : Type*) (w : Nat) where
  | idle
  | called (call : PopCall)
  | copying (call : PopCall) (read : BitVec w) (count : Nat) (output : List α)
  deriving DecidableEq

def ConsumerState.call? {α : Type*} {w : Nat} : ConsumerState α w → Option PopCall
  | .idle => none
  | .called call => some call
  | .copying call _ _ _ => some call

/-- A ring with its two sides.  The histories of samples pushed and popped so
far are written by the publishing stores and read by no step. -/
structure RingSystem (α : Type*) (w : Nat) where
  ring : Ring α w
  producer : ProducerState α w
  consumer : ConsumerState α w
  pushed : List α
  popped : List α
  deriving DecidableEq

inductive RingAction (α : Type*) where
  | startPush (call : PushCall α)
  /-- Load the own `write` and the peer's `read` index. -/
  | loadRead
  | writeSlot
  /-- Store the new `write` index and return. -/
  | publishWrite
  | startPop (call : PopCall)
  /-- Load the own `read` and the peer's `write` index. -/
  | loadWrite
  | readSlot
  /-- Store the new `read` index and return. -/
  | publishRead

def RingAction.finishesPush {α : Type*} : RingAction α → Bool
  | .publishWrite => true
  | _ => false

def RingAction.finishesPop {α : Type*} : RingAction α → Bool
  | .publishRead => true
  | _ => false

namespace RingSystem

variable {α : Type*} {w : Nat}

/-- One step, with the value that it returns to the caller, if it finishes a
call.  A slot outside the boxed slice has no step: the access would panic. -/
def step (system : RingSystem α w) :
    RingAction α → Option (RingSystem α w × Option (Return α))
  | .startPush call =>
      match system.producer with
      | .idle => some ({ system with producer := .called call }, none)
      | _ => none
  | .loadRead =>
      match system.producer with
      | .called call =>
          if call.stopsEarly system.ring.capacity system.ring.used then
            some ({ system with producer := .idle }, some (call.result 0))
          else
            some ({ system with
              producer := .copying call system.ring.write
                (call.count system.ring.capacity system.ring.used) 0 }, none)
      | _ => none
  | .writeSlot =>
      match system.producer with
      | .copying call write count offset =>
          if offset < count then
            let slot := system.ring.slotAt write offset
            match call.input[offset]? with
            | some sample =>
                if slot < system.ring.samples.length then
                  some ({ system with
                    ring := { system.ring with samples := system.ring.samples.set slot sample }
                    producer := .copying call write count (offset + 1) }, none)
                else none
            | none => none
          else none
      | _ => none
  | .publishWrite =>
      match system.producer with
      | .copying call write count offset =>
          if offset = count then
            some ({ system with
              ring := { system.ring with write := write + BitVec.ofNat w count }
              producer := .idle
              pushed := system.pushed ++ call.input.take count }, some (call.result count))
          else none
      | _ => none
  | .startPop call =>
      match system.consumer with
      | .idle => some ({ system with consumer := .called call }, none)
      | _ => none
  | .loadWrite =>
      match system.consumer with
      | .called call =>
          if call.stopsEarly system.ring.used then
            some ({ system with consumer := .idle }, some (call.result []))
          else
            some ({ system with
              consumer := .copying call system.ring.read (call.count system.ring.used) [] }, none)
      | _ => none
  | .readSlot =>
      match system.consumer with
      | .copying call read count output =>
          if output.length < count then
            match system.ring.samples[system.ring.slotAt read output.length]? with
            | some sample =>
                some ({ system with
                  consumer := .copying call read count (output ++ [sample]) }, none)
            | none => none
          else none
      | _ => none
  | .publishRead =>
      match system.consumer with
      | .copying call read count output =>
          if output.length = count then
            some ({ system with
              ring := { system.ring with read := read + BitVec.ofNat w count }
              consumer := .idle
              popped := system.popped ++ output }, some (call.result output))
          else none
      | _ => none

/-- Both sides idle on an empty ring whose indices start at a common value. -/
def initial (ring : Ring α w) (start : BitVec w) : RingSystem α w where
  ring := { ring with read := start, write := start }
  producer := .idle
  consumer := .idle
  pushed := []
  popped := []

end RingSystem

end VCable
