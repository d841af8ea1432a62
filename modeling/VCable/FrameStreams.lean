import Mathlib.Algebra.Order.Field.Basic
import Mathlib.Tactic.Linarith

/-!
# Streams of interleaved frames

A stream of samples read as frames of a number of channels, the linear
interpolation between two neighbouring frames, and what it means that a frame
is the stream's value at a fractional position.
-/

namespace FrameStreams

section Frames

variable {α : Type*} {channels : Nat} {samples : List α}

/-- The frame with the given number. -/
def frameAt (channels : Nat) (samples : List α) (index : Nat) : List α :=
  (samples.drop (index * channels)).take channels

/-- Samples at the end of the stream do not change the frames before. -/
theorem frameAt_append {index : Nat} (present : (index + 1) * channels ≤ samples.length)
    (more : List α) :
    frameAt channels (samples ++ more) index = frameAt channels samples index := by
  rw [Nat.succ_mul] at present
  rw [frameAt, frameAt, List.drop_append_of_le_length (by omega),
    List.take_append_of_le_length (by rw [List.length_drop]; omega)]

/-- Removing the first frame of a rest of the stream leaves a shorter rest. -/
theorem drop_frame (index : Nat) :
    (samples.drop (index * channels)).drop channels = samples.drop ((index + 1) * channels) := by
  rw [List.drop_drop, Nat.succ_mul]

/-- The frames of a rest of the stream are the later frames of the stream. -/
theorem frameAt_drop (count index : Nat) :
    frameAt channels (samples.drop (count * channels)) index =
      frameAt channels samples (count + index) := by
  rw [frameAt, frameAt, List.drop_drop, Nat.add_mul]

theorem length_frameAt {index : Nat} (present : (index + 1) * channels ≤ samples.length) :
    (frameAt channels samples index).length = channels := by
  rw [Nat.succ_mul] at present
  rw [frameAt, List.length_take, List.length_drop]
  omega

/-- All whole frames of the stream. -/
def frames (channels : Nat) (samples : List α) : List (List α) :=
  (List.range (samples.length / channels)).map (frameAt channels samples)

@[simp]
theorem length_frames : (frames channels samples).length = samples.length / channels := by
  simp [frames]

/-- The frames of a stream are its first ones and those of the rest. -/
theorem frames_eq_append (positive : 0 < channels) {count : Nat}
    (present : count * channels ≤ samples.length) :
    frames channels samples = (List.range count).map (frameAt channels samples) ++
      frames channels (samples.drop (count * channels)) := by
  have count_le : count ≤ samples.length / channels :=
    (Nat.le_div_iff_mul_le positive).mpr present
  have split : samples.length / channels =
      count + (samples.drop (count * channels)).length / channels := by
    rw [List.length_drop, Nat.mul_comm, Nat.sub_mul_div]
    omega
  rw [frames, split, List.range_add, List.map_append, List.map_map, frames]
  congr 2
  funext index
  exact (frameAt_drop count index).symm

/-- Whole frames at the end of a stream follow its frames. -/
theorem frames_append (positive : 0 < channels) (whole : channels ∣ samples.length)
    (more : List α) :
    frames channels (samples ++ more) = frames channels samples ++ frames channels more := by
  obtain ⟨count, countEq⟩ := whole
  rw [Nat.mul_comm] at countEq
  have first : (List.range count).map (frameAt channels (samples ++ more)) =
      frames channels samples := by
    rw [frames, countEq, Nat.mul_div_cancel _ positive]
    refine List.map_congr_left fun index within => ?_
    refine frameAt_append ?_ more
    rw [countEq]
    exact Nat.mul_le_mul_right channels (List.mem_range.mp within)
  have present : count * channels ≤ (samples ++ more).length := by
    rw [List.length_append]
    omega
  rw [frames_eq_append positive present, first,
    ← countEq, List.drop_left]

/-- Frames that start a stream of pieces of their size, of which the last may be
shorter, are the first of these pieces. -/
theorem getElem?_of_flatten_isPrefix (positive : 0 < channels) {first pieces : List (List α)}
    (whole : ∀ frame ∈ first, frame.length = channels)
    (complete : ∀ piece ∈ pieces.dropLast, piece.length = channels)
    (short : ∀ piece ∈ pieces, piece.length ≤ channels)
    (starts : first.flatten <+: pieces.flatten) {index : Nat} {frame : List α}
    (found : first[index]? = some frame) : pieces[index]? = some frame := by
  induction first generalizing pieces index with
  | nil => cases found
  | cons head first ih =>
      have headLength := whole head List.mem_cons_self
      obtain ⟨more, same⟩ := starts
      cases pieces with
      | nil =>
          rw [List.flatten_cons, List.flatten_nil, List.append_assoc] at same
          rw [(List.append_eq_nil_iff.mp same).1] at headLength
          exact absurd headLength positive.ne
      | cons piece pieces =>
          rw [List.flatten_cons, List.flatten_cons, List.append_assoc] at same
          have pieceLength : piece.length = channels := by
            cases pieces with
            | nil =>
                have lengths := congrArg List.length same
                have limit := short piece List.mem_cons_self
                simp only [List.length_append, List.flatten_nil, List.length_nil] at lengths
                omega
            | cons next pieces => exact complete piece List.mem_cons_self
          obtain ⟨sameHead, rest⟩ := List.append_inj same (headLength.trans pieceLength.symm)
          cases index with
          | zero =>
              rw [← sameHead]
              exact found
          | succ index =>
              refine ih (fun other member => whole other (List.mem_cons_of_mem _ member)) ?_
                (fun other member => short other (List.mem_cons_of_mem _ member))
                ⟨more, rest⟩ found
              intro other member
              cases pieces with
              | nil => cases member
              | cons next pieces => exact complete other (List.mem_cons_of_mem _ member)

/-! ## Streams that are given by their frames -/

theorem length_flatten_of_sizes {frames : List (List α)} {channels : Nat}
    (sizes : ∀ frame ∈ frames, frame.length = channels) :
    frames.flatten.length = frames.length * channels := by
  induction frames with
  | nil => exact (Nat.zero_mul channels).symm
  | cons frame frames ih =>
      rw [List.forall_mem_cons] at sizes
      rw [List.flatten_cons, List.length_append, ih sizes.2, sizes.1, List.length_cons,
        Nat.succ_mul, Nat.add_comm]

theorem drop_flatten_of_sizes {frames : List (List α)} {channels : Nat}
    (sizes : ∀ frame ∈ frames, frame.length = channels) (count : Nat) :
    frames.flatten.drop (count * channels) = (frames.drop count).flatten := by
  induction count generalizing frames with
  | zero => rw [Nat.zero_mul, List.drop_zero, List.drop_zero]
  | succ count ih =>
      cases frames with
      | nil => rw [List.flatten_nil, List.drop_nil, List.drop_nil, List.flatten_nil]
      | cons frame frames =>
          rw [List.forall_mem_cons] at sizes
          rw [List.flatten_cons, Nat.succ_mul, Nat.add_comm, ← List.drop_drop,
            List.drop_left' sizes.1, ih sizes.2, List.drop_succ_cons]

theorem frameAt_flatten {frames : List (List α)} {channels index : Nat}
    (sizes : ∀ frame ∈ frames, frame.length = channels) (within : index < frames.length) :
    frameAt channels frames.flatten index = frames[index] := by
  rw [frameAt, drop_flatten_of_sizes sizes, List.drop_eq_getElem_cons within, List.flatten_cons,
    List.take_left' (sizes _ (List.getElem_mem within))]

end Frames

section Interpolation

variable {α : Type*} [Field α]

/-- Linear interpolation, channel by channel. -/
def blend (first second : List α) (phase : α) : List α :=
  List.zipWith (fun start stop => start + (stop - start) * phase) first second

variable [LinearOrder α]

/-- The frame lies between two others in every channel. -/
def Between (first second frame : List α) : Prop :=
  ∀ (channel : Nat) (start stop value : α), first[channel]? = some start →
    second[channel]? = some stop → frame[channel]? = some value →
      min start stop ≤ value ∧ value ≤ max start stop

theorem between_blend [IsStrictOrderedRing α] {first second : List α} {phase : α}
    (nonneg : 0 ≤ phase) (le_one : phase ≤ 1) :
    Between first second (blend first second phase) := by
  intro channel start stop value firstFound secondFound found
  rw [blend, List.getElem?_zipWith, firstFound, secondFound] at found
  obtain rfl : start + (stop - start) * phase = value := by simpa using found
  rcases le_total start stop with le | le
  · rw [min_eq_left le, max_eq_right le]
    constructor
    · nlinarith
    · nlinarith
  · rw [min_eq_right le, max_eq_left le]
    constructor
    · nlinarith
    · nlinarith

/-- The frame is the linear interpolation of the stream at the position, and
lies between the two frames around it. -/
def IsValueAt (channels : Nat) (samples : List α) (position : α) (frame : List α) : Prop :=
  ∃ base : Nat, (base + 2) * channels ≤ samples.length ∧ (base : α) ≤ position ∧
    position < base + 1 ∧
      frame = blend (frameAt channels samples base) (frameAt channels samples (base + 1))
        (position - base) ∧
        Between (frameAt channels samples base) (frameAt channels samples (base + 1)) frame

/-- A stream that goes on keeps its values. -/
theorem IsValueAt.mono {channels : Nat} {samples longer : List α} {position : α} {frame : List α}
    (isValue : IsValueAt channels samples position frame) (goesOn : samples <+: longer) :
    IsValueAt channels longer position frame := by
  obtain ⟨more, rfl⟩ := goesOn
  obtain ⟨base, present, lower, upper, frameEq, between⟩ := isValue
  have first : (base + 1) * channels ≤ samples.length :=
    (Nat.mul_le_mul_right channels (by omega)).trans present
  refine ⟨base, ?_, lower, upper, ?_, ?_⟩
  · rw [List.length_append]
    omega
  · rw [frameAt_append first, frameAt_append present]
    exact frameEq
  · rw [frameAt_append first, frameAt_append present]
    exact between

/-- The stream's value at a whole position is the frame there. -/
theorem IsValueAt.eq_frameAt [IsStrictOrderedRing α] {channels index : Nat} {samples : List α}
    {frame : List α} (isValue : IsValueAt channels samples (index : α) frame) :
    frame = frameAt channels samples index := by
  obtain ⟨base, present, lower, upper, frameEq, _⟩ := isValue
  have baseEq : base = index := by
    have le : base ≤ index := by exact_mod_cast lower
    have lt : index < base + 1 := by exact_mod_cast upper
    omega
  subst baseEq
  have first : (frameAt channels samples base).length = channels :=
    length_frameAt ((Nat.mul_le_mul_right channels (by omega)).trans present)
  have second := length_frameAt present
  rw [frameEq, sub_self, blend]
  refine List.ext_getElem (by simp [first, second]) ?_
  intro channel _ _
  simp

/-- A blend of two neighbouring frames is the stream's value between them. -/
theorem isValueAt_blend [IsStrictOrderedRing α] {channels base : Nat} {samples : List α} {phase : α}
    (present : (base + 2) * channels ≤ samples.length) (nonneg : 0 ≤ phase) (lt_one : phase < 1) :
    IsValueAt channels samples (base + phase)
      (blend (frameAt channels samples base) (frameAt channels samples (base + 1)) phase) := by
  refine ⟨base, present, by linarith, by linarith, ?_, between_blend nonneg lt_one.le⟩
  rw [add_sub_cancel_left]

end Interpolation

/-- The whole units of an accumulated amount. -/
theorem floor_toNat_bounds {units : ℚ} (nonneg : 0 ≤ units) :
    (units.floor.toNat : ℚ) ≤ units ∧ units < units.floor.toNat + 1 := by
  have floorNonneg : 0 ≤ units.floor := Rat.le_floor_iff.mpr (by exact_mod_cast nonneg)
  have cast : (units.floor.toNat : ℚ) = (units.floor : ℚ) := by
    exact_mod_cast Int.toNat_of_nonneg floorNonneg
  rw [cast]
  exact ⟨Rat.floor_le units, by linarith [@Rat.lt_floor units]⟩

end FrameStreams
