import VCable.ChannelMatrix
import VCable.ListSelections
import VCable.RowMajor
import Mathlib.Algebra.BigOperators.Group.Finset.Sigma
import Mathlib.Algebra.BigOperators.Group.List.Basic
import Mathlib.Tactic.Ring

/-!
# Mixing interleaved audio

`mix_interleaved` adds the linear map of its matrix to the output, frame by
frame.  Calls into one output therefore commute, an identity matrix copies, and
two mixes after each other are the mix of the product matrix.
-/

namespace VCable

open ListSelections RowMajor

theorem slice_eq {α : Type} {values : List α} {start count : Nat}
    (within : start + count ≤ values.length) :
    ((sliceFrom values start).bind fun rest => sliceTo rest count) =
      some ((values.drop start).take count) := by
  have rest : count ≤ (values.drop start).length := by
    rw [List.length_drop]
    omega
  rw [sliceFrom, if_pos (by omega), Option.bind_some, sliceTo, if_pos rest]

namespace ChannelMatrix

variable {matrix : ChannelMatrix ℚ} {frames : Nat} {input output : List ℚ} {gain : ℚ}

/-- The coefficient from an input channel to an output channel. -/
def entry (matrix : ChannelMatrix ℚ) (outputChannel inputChannel : Nat) : ℚ :=
  matrix.coefficients.getD (outputChannel * matrix.inputChannels + inputChannel) 0

/-- The mix of an input frame for an output channel. -/
def mixed (matrix : ChannelMatrix ℚ) (input : List ℚ) (frame outputChannel : Nat) : ℚ :=
  ∑ channel ∈ Finset.range matrix.inputChannels,
    matrix.entry outputChannel channel * input.getD (frame * matrix.inputChannels + channel) 0

/-- The buffers have exactly the samples of the frames, and as many as a machine
word can count. -/
structure Fits (matrix : ChannelMatrix ℚ) (frames : Nat) (input output : List ℚ) : Prop where
  input_small : frames * matrix.inputChannels < usizeBound
  output_small : frames * matrix.outputChannels < usizeBound
  input_length : input.length = frames * matrix.inputChannels
  output_length : output.length = frames * matrix.outputChannels

/-! ## One sample -/

theorem row_eq {outputChannel : Nat} (within : outputChannel < matrix.outputChannels) :
    matrix.row outputChannel = some
      ((matrix.coefficients.drop (outputChannel * matrix.inputChannels)).take
        matrix.inputChannels) := by
  refine slice_eq ?_
  have next := Nat.mul_le_mul_right matrix.inputChannels (Nat.succ_le_of_lt within)
  rw [Nat.succ_mul] at next
  rw [matrix.length_coefficients]
  exact next

/-- The product of a row of the matrix with a frame of the input. -/
theorem dot_row {frame outputChannel : Nat} (within : outputChannel < matrix.outputChannels)
    (inputLength : input.length = frames * matrix.inputChannels) (frameWithin : frame < frames) :
    dot ((matrix.coefficients.drop (outputChannel * matrix.inputChannels)).take
        matrix.inputChannels)
      ((input.drop (frame * matrix.inputChannels)).take matrix.inputChannels) =
        matrix.mixed input frame outputChannel := by
  have rowNext := Nat.mul_le_mul_right matrix.inputChannels (Nat.succ_le_of_lt within)
  have frameNext := Nat.mul_le_mul_right matrix.inputChannels (Nat.succ_le_of_lt frameWithin)
  rw [Nat.succ_mul] at rowNext frameNext
  have rowLength : ((matrix.coefficients.drop (outputChannel * matrix.inputChannels)).take
      matrix.inputChannels).length = matrix.inputChannels := by
    rw [List.length_take, List.length_drop, matrix.length_coefficients]
    omega
  have frameLength : ((input.drop (frame * matrix.inputChannels)).take
      matrix.inputChannels).length = matrix.inputChannels := by
    rw [List.length_take, List.length_drop, inputLength]
    omega
  rw [dot_eq_sum (rowLength.trans frameLength.symm), frameLength, mixed]
  refine Finset.sum_congr rfl fun channel member => ?_
  have channelWithin := Finset.mem_range.mp member
  simp only [List.getD_eq_getElem?_getD, List.getElem?_take, channelWithin, if_true,
    List.getElem?_drop, entry]

theorem mixSample_eq {frame : Nat} {outputSample : ℚ × Nat}
    (within : outputSample.2 < matrix.outputChannels)
    (inputLength : input.length = frames * matrix.inputChannels) (frameWithin : frame < frames) :
    matrix.mixSample ((input.drop (frame * matrix.inputChannels)).take matrix.inputChannels) gain
      outputSample = some (outputSample.1 + gain * matrix.mixed input frame outputSample.2) := by
  rw [mixSample, row_eq within, Option.map_some, mul_comm gain,
    ← dot_row within inputLength frameWithin]
  simp [dot]

/-! ## One frame -/

/-- The loop over the samples of a frame changes that frame only. -/
theorem mixFrame_eq {frame : Nat} (inputLength : input.length = frames * matrix.inputChannels)
    (outputLength : output.length = frames * matrix.outputChannels) (within : frame < frames) :
    matrix.mixFrame input gain output frame = some (output.mapIdx fun place sample =>
      if place / matrix.outputChannels = frame then
        sample + gain * matrix.mixed input frame (place % matrix.outputChannels)
      else sample) := by
  have inputNext := Nat.mul_le_mul_right matrix.inputChannels (Nat.succ_le_of_lt within)
  have outputNext := Nat.mul_le_mul_right matrix.outputChannels (Nat.succ_le_of_lt within)
  rw [Nat.succ_mul] at inputNext outputNext
  have samples : ((output.drop (frame * matrix.outputChannels)).take
      matrix.outputChannels).zipIdx.mapM
        (matrix.mixSample ((input.drop (frame * matrix.inputChannels)).take
          matrix.inputChannels) gain) =
      some (((output.drop (frame * matrix.outputChannels)).take
        matrix.outputChannels).mapIdx fun outputChannel sample =>
          sample + gain * matrix.mixed input frame outputChannel) := by
    rw [List.mapIdx_eq_zipIdx_map]
    refine mapM_eq_some_map fun outputSample member => ?_
    refine mixSample_eq ?_ inputLength within
    have below := List.snd_lt_of_mem_zipIdx member
    rw [List.length_take] at below
    omega
  have inputRest : sliceFrom input (frame * matrix.inputChannels) =
      some (input.drop (frame * matrix.inputChannels)) := if_pos (by omega)
  have inputFrame : sliceTo (input.drop (frame * matrix.inputChannels)) matrix.inputChannels =
      some ((input.drop (frame * matrix.inputChannels)).take matrix.inputChannels) :=
    if_pos (by rw [List.length_drop]; omega)
  have outputRest : sliceFrom output (frame * matrix.outputChannels) =
      some (output.drop (frame * matrix.outputChannels)) := if_pos (by omega)
  have outputFrame : sliceTo (output.drop (frame * matrix.outputChannels))
      matrix.outputChannels =
        some ((output.drop (frame * matrix.outputChannels)).take matrix.outputChannels) :=
    if_pos (by rw [List.length_drop]; omega)
  simp only [mixFrame, inputRest, inputFrame, outputRest, outputFrame, samples, Option.bind_eq_bind,
    Option.bind_some, Option.some.injEq]
  exact append_mapIdx_row (Nat.pos_of_ne_zero matrix.outputChannels_ne_zero) outputLength within _

/-! ## All frames -/

/-- The loop over the frames adds the mix to the frames before. -/
theorem foldlM_mixFrame (inputLength : input.length = frames * matrix.inputChannels)
    (outputLength : output.length = frames * matrix.outputChannels) {count : Nat}
    (within : count ≤ frames) :
    (List.range count).foldlM (matrix.mixFrame input gain) output =
      some (output.mapIdx fun place sample =>
        if place / matrix.outputChannels < count then
          sample + gain * matrix.mixed input (place / matrix.outputChannels)
            (place % matrix.outputChannels)
        else sample) := by
  induction count with
  | zero => simp [List.mapIdx_eq_zipIdx_map]
  | succ count ih =>
      rw [List.range_succ, List.foldlM_append, ih (Nat.le_of_succ_le within)]
      simp only [Option.bind_eq_bind, Option.bind_some, List.foldlM_cons, List.foldlM_nil]
      rw [mixFrame_eq inputLength ((List.length_mapIdx ..).trans outputLength) within]
      simp only [Option.bind_some, pure, List.mapIdx_mapIdx, Option.some.injEq]
      refine congrArg (List.mapIdx · output) ?_
      funext place sample
      rcases Nat.lt_trichotomy (place / matrix.outputChannels) count with before | own | after
      · simp [before, before.ne, Nat.lt_succ_of_lt before]
      · simp [own]
      · simp [after.ne', Nat.not_lt.mpr after.le, Nat.not_lt.mpr (Nat.succ_le_of_lt after)]

/-- A call whose buffers fit adds the mix to the whole output. -/
theorem mixInterleaved_of_fits (fits : matrix.Fits frames input output) (gain : ℚ) :
    matrix.mixInterleaved frames input output gain =
      some (.ok (), output.mapIdx fun place sample =>
        sample + gain * matrix.mixed input (place / matrix.outputChannels)
          (place % matrix.outputChannels)) := by
  have positive := Nat.pos_of_ne_zero matrix.outputChannels_ne_zero
  have checked : ¬ (input.length ≠ frames * matrix.inputChannels ∨
      output.length ≠ frames * matrix.outputChannels ∨
        !SinglePrecision.isFinite gain) := by
    rintro (short | short | infinite)
    · exact short fits.input_length
    · exact short fits.output_length
    · cases infinite
  rw [mixInterleaved, checkedMul, if_pos fits.input_small]
  dsimp only
  rw [checkedMul, if_pos fits.output_small]
  dsimp only
  rw [if_neg checked, foldlM_mixFrame fits.input_length fits.output_length le_rfl, Option.map_some]
  refine congrArg (fun mixed => some (Except.ok (), mixed)) (List.ext_getElem? fun place => ?_)
  rw [List.getElem?_mapIdx, List.getElem?_mapIdx]
  refine Option.map_congr fun sample found => if_pos ?_
  have inside := (List.getElem?_eq_some_iff.mp found).1
  rw [fits.output_length] at inside
  exact (Nat.div_lt_iff_lt_mul positive).mpr inside

/-- Any other call is refused, and leaves the output. -/
theorem mixInterleaved_of_not_fits (misfits : ¬ matrix.Fits frames input output) (gain : ℚ) :
    ∃ failure, matrix.mixInterleaved frames input output gain = some (.error failure, output) := by
  unfold mixInterleaved
  split
  · exact ⟨_, rfl⟩
  rename_i expectedInput inputProduct
  split
  · exact ⟨_, rfl⟩
  rename_i expectedOutput outputProduct
  split
  · exact ⟨_, rfl⟩
  rename_i passed
  unfold checkedMul at inputProduct outputProduct
  split_ifs at inputProduct outputProduct with inputSmall outputSmall
  cases inputProduct
  cases outputProduct
  rw [not_or, not_or, not_not, not_not] at passed
  exact absurd ⟨inputSmall, outputSmall, passed.1, passed.2.1⟩ misfits

theorem fits_congr {other : List ℚ} (same : other.length = output.length) :
    matrix.Fits frames input other ↔ matrix.Fits frames input output :=
  ⟨fun fits => ⟨fits.1, fits.2, fits.3, same.symm.trans fits.4⟩,
    fun fits => ⟨fits.1, fits.2, fits.3, same.trans fits.4⟩⟩

instance : Decidable (matrix.Fits frames input output) :=
  decidable_of_iff (frames * matrix.inputChannels < usizeBound ∧
      frames * matrix.outputChannels < usizeBound ∧
      input.length = frames * matrix.inputChannels ∧
      output.length = frames * matrix.outputChannels)
    ⟨fun ⟨one, two, three, four⟩ => ⟨one, two, three, four⟩,
      fun ⟨one, two, three, four⟩ => ⟨one, two, three, four⟩⟩

end ChannelMatrix

/-! ## Several calls -/

/-- A call of `mix_interleaved` into some output. -/
structure MixCall where
  matrix : ChannelMatrix ℚ
  frames : Nat
  input : List ℚ
  gain : ℚ

namespace MixCall

def run (output : List ℚ) (call : MixCall) : Option (List ℚ) :=
  (call.matrix.mixInterleaved call.frames call.input output call.gain).map Prod.snd

/-- What a call adds at a place of an output of a length. -/
def addend (call : MixCall) (output : List ℚ) (place : Nat) : ℚ :=
  if call.matrix.Fits call.frames call.input output then
    call.gain * call.matrix.mixed call.input (place / call.matrix.outputChannels)
      (place % call.matrix.outputChannels)
  else 0

theorem addend_congr {call : MixCall} {output other : List ℚ}
    (same : other.length = output.length) :
    call.addend other = call.addend output := by
  funext place
  simp only [addend, ChannelMatrix.fits_congr same]

theorem run_eq (call : MixCall) (output : List ℚ) :
    run output call =
      some (output.mapIdx fun place sample => sample + call.addend output place) := by
  by_cases fits : call.matrix.Fits call.frames call.input output
  · rw [run, ChannelMatrix.mixInterleaved_of_fits fits, Option.map_some]
    simp only [addend, if_pos fits]
  · obtain ⟨failure, refused⟩ := ChannelMatrix.mixInterleaved_of_not_fits fits call.gain
    rw [run, refused, Option.map_some]
    simp only [addend, if_neg fits, add_zero]
    exact congrArg some (List.ext_getElem? fun place => by simp)

/-- The calls of a sequence add up, place by place. -/
theorem foldlM_run (calls : List MixCall) (output : List ℚ) :
    calls.foldlM run output = some (output.mapIdx fun place sample =>
      sample + (calls.map fun call => call.addend output place).sum) := by
  refine foldlM_mapIdx_add (fun call _ other sized => ?_) rfl
  rw [run_eq, addend_congr sized]

/-- Calls into one output give the same in every order. -/
theorem foldlM_run_perm {calls others : List MixCall} (reordered : calls.Perm others)
    (output : List ℚ) : calls.foldlM run output = others.foldlM run output := by
  rw [foldlM_run, foldlM_run]
  refine congrArg some (congrArg (List.mapIdx · output) ?_)
  funext place sample
  rw [(reordered.map fun call => call.addend output place).sum_eq]

end MixCall

namespace ChannelMatrix

/-! ## Identity matrices -/

/-- The loop of `identity` stores ones on the diagonal. -/
theorem getElem?_diagonal {channels count outputChannel inputChannel : Nat}
    (outputWithin : outputChannel < channels) (inputWithin : inputChannel < channels)
    (written : count ≤ channels) :
    ((List.range count).foldl
        (fun written channel => written.set (channel * channels + channel) ((1 : Nat) : ℚ))
        (List.replicate (channels * channels) ((0 : Nat) : ℚ)))[
          outputChannel * channels + inputChannel]? =
      some (if outputChannel = inputChannel ∧ outputChannel < count then 1 else 0) := by
  have length : ∀ (passes : List Nat) (values : List ℚ), (passes.foldl
      (fun written channel => written.set (channel * channels + channel) ((1 : Nat) : ℚ))
        values).length = values.length := by
    intro passes
    induction passes with
    | nil => exact fun _ => rfl
    | cons channel passes ih => exact fun values => (ih _).trans List.length_set
  induction count with
  | zero =>
      rw [List.range_zero, List.foldl_nil,
        List.getElem?_replicate_of_lt (place_lt outputWithin inputWithin)]
      simp
  | succ count ih =>
      rw [List.range_succ, List.foldl_append, List.foldl_cons, List.foldl_nil]
      by_cases own : count = outputChannel ∧ count = inputChannel
      · obtain ⟨rfl, rfl⟩ := own
        rw [List.getElem?_set_self]
        · simp
        · rw [length, List.length_replicate]
          exact place_lt outputWithin inputWithin
      · rw [List.getElem?_set_ne, ih (Nat.le_of_succ_le written)]
        · congr 2
          refine propext (and_congr_right fun same => ?_)
          omega
        · intro same
          obtain ⟨row, column⟩ :=
            (place_eq_iff (Nat.lt_of_succ_le written) inputWithin).mp same
          exact own ⟨row, column⟩

theorem identity_spec {channels : Nat} {matrix : ChannelMatrix ℚ}
    (built : identity channels = .ok matrix) :
    matrix.outputChannels = channels ∧ matrix.inputChannels = channels ∧
      ∀ outputChannel < channels, ∀ inputChannel < channels,
        matrix.entry outputChannel inputChannel =
          if outputChannel = inputChannel then 1 else 0 := by
  unfold identity at built
  split_ifs at built
  obtain ⟨outputs, inputs, coefficients⟩ := new_dimensions built
  refine ⟨outputs, inputs, fun outputChannel outputWithin inputChannel inputWithin => ?_⟩
  rw [entry, inputs, coefficients, List.getD_eq_getElem?_getD,
    getElem?_diagonal outputWithin inputWithin le_rfl, Option.getD_some]
  simp [outputWithin]

theorem mixed_identity {channels frame outputChannel : Nat} {matrix : ChannelMatrix ℚ}
    (built : identity channels = .ok matrix) (within : outputChannel < channels)
    (input : List ℚ) :
    matrix.mixed input frame outputChannel = input.getD (frame * channels + outputChannel) 0 := by
  obtain ⟨_, inputs, entries⟩ := identity_spec built
  have diagonal : ∀ channel ∈ Finset.range channels,
      matrix.entry outputChannel channel * input.getD (frame * channels + channel) 0 =
        if outputChannel = channel then input.getD (frame * channels + channel) 0 else 0 := by
    intro channel member
    rw [entries outputChannel within channel (Finset.mem_range.mp member), ite_mul, one_mul,
      zero_mul]
  rw [mixed, inputs, Finset.sum_congr rfl diagonal, Finset.sum_ite_eq,
    if_pos (Finset.mem_range.mpr within)]

/-- An identity matrix at full gain adds the input sample by sample. -/
theorem mixInterleaved_identity {channels frames : Nat} {matrix : ChannelMatrix ℚ}
    {input output : List ℚ} (built : identity channels = .ok matrix)
    (fits : matrix.Fits frames input output) :
    matrix.mixInterleaved frames input output 1 =
      some (.ok (), List.zipWith (fun first second => first + second) output input) := by
  obtain ⟨outputs, inputs, _⟩ := identity_spec built
  have sameLength : output.length = input.length := by
    rw [fits.output_length, fits.input_length, outputs, inputs]
  rw [mixInterleaved_of_fits fits, outputs]
  refine congrArg (fun mixed => some (Except.ok (), mixed)) (List.ext_getElem (by simp [sameLength])
    fun place inside _ => ?_)
  rw [List.length_mapIdx] at inside
  have positive : 0 < channels := outputs ▸ Nat.pos_of_ne_zero matrix.outputChannels_ne_zero
  rw [List.getElem_mapIdx, List.getElem_zipWith,
    mixed_identity built (Nat.mod_lt _ positive), Nat.div_add_mod', one_mul,
    List.getD_eq_getElem?_getD, List.getElem?_eq_getElem (sameLength ▸ inside), Option.getD_some]

/-! ## Products -/

/-- The product of two matrices. -/
def product (second first : ChannelMatrix ℚ) : ChannelMatrix ℚ where
  outputChannels := second.outputChannels
  inputChannels := first.inputChannels
  coefficients := (List.range (second.outputChannels * first.inputChannels)).map fun place =>
    ∑ channel ∈ Finset.range first.outputChannels,
      second.entry (place / first.inputChannels) channel *
        first.entry channel (place % first.inputChannels)
  outputChannels_ne_zero := second.outputChannels_ne_zero
  inputChannels_ne_zero := first.inputChannels_ne_zero
  length_coefficients := by rw [List.length_map, List.length_range]
  finite_coefficients := fun _ _ => rfl

theorem entry_product {second first : ChannelMatrix ℚ} {outputChannel inputChannel : Nat}
    (outputWithin : outputChannel < second.outputChannels)
    (inputWithin : inputChannel < first.inputChannels) :
    (second.product first).entry outputChannel inputChannel =
      ∑ channel ∈ Finset.range first.outputChannels,
        second.entry outputChannel channel * first.entry channel inputChannel := by
  have within := place_lt outputWithin inputWithin
  change ((List.range _).map _).getD (outputChannel * first.inputChannels + inputChannel) 0 = _
  rw [List.getD_eq_getElem?_getD, List.getElem?_map, List.getElem?_range within, Option.map_some,
    Option.getD_some, place_div inputWithin, place_mod inputWithin]

/-- The buffer with the samples of the first mix, from zeros. -/
theorem mixed_mixed {first second : ChannelMatrix ℚ} {frames frame outputChannel : Nat}
    {input : List ℚ} (inner : first.outputChannels = second.inputChannels)
    (frameWithin : frame < frames) (outputWithin : outputChannel < second.outputChannels)
    (gain : ℚ) :
    second.mixed ((List.replicate (frames * first.outputChannels) 0).mapIdx fun place sample =>
        sample + gain * first.mixed input (place / first.outputChannels)
          (place % first.outputChannels)) frame outputChannel =
      gain * (second.product first).mixed input frame outputChannel := by
  have between : ∀ channel ∈ Finset.range first.outputChannels,
      second.entry outputChannel channel *
          ((List.replicate (frames * first.outputChannels) (0 : ℚ)).mapIdx fun place sample =>
            sample + gain * first.mixed input (place / first.outputChannels)
              (place % first.outputChannels)).getD (frame * first.outputChannels + channel) 0 =
        ∑ inputChannel ∈ Finset.range first.inputChannels,
          gain * (second.entry outputChannel channel * first.entry channel inputChannel *
            input.getD (frame * first.inputChannels + inputChannel) 0) := by
    intro channel member
    have within := Finset.mem_range.mp member
    rw [List.getD_eq_getElem?_getD, List.getElem?_mapIdx,
      List.getElem?_replicate_of_lt (place_lt frameWithin within), Option.map_some,
      Option.getD_some, place_div within, place_mod within, zero_add, mixed, Finset.mul_sum,
      Finset.mul_sum]
    exact Finset.sum_congr rfl fun _ _ => by ring
  rw [mixed, ← inner, Finset.sum_congr rfl between, Finset.sum_comm, mixed, Finset.mul_sum]
  refine Finset.sum_congr rfl fun inputChannel member => ?_
  rw [@entry_product second first _ inputChannel outputWithin (Finset.mem_range.mp member),
    Finset.sum_mul, Finset.mul_sum]
  rfl

/-- What a call does depends on the output, if its input fits. -/
theorem mixInterleaved_of_input {matrix : ChannelMatrix ℚ} {frames : Nat} {input : List ℚ}
    (small : frames * matrix.inputChannels < usizeBound)
    (length : input.length = frames * matrix.inputChannels) (output : List ℚ) (gain : ℚ) :
    matrix.mixInterleaved frames input output gain =
      if frames * matrix.outputChannels < usizeBound then
        if output.length = frames * matrix.outputChannels then
          some (.ok (), output.mapIdx fun place sample =>
            sample + gain * matrix.mixed input (place / matrix.outputChannels)
              (place % matrix.outputChannels))
        else some (.error .bufferLengthMismatch, output)
      else some (.error .frameCountOverflow, output) := by
  split_ifs with outputSmall same
  · exact mixInterleaved_of_fits ⟨small, outputSmall, length, same⟩ gain
  · rw [mixInterleaved, checkedMul, if_pos small]
    dsimp only
    rw [checkedMul, if_pos outputSmall]
    dsimp only
    rw [if_pos (Or.inr (Or.inl same))]
  · rw [mixInterleaved, checkedMul, if_pos small]
    dsimp only
    rw [checkedMul, if_neg outputSmall]

/-- Mixing the zero-started result of a first mix is mixing with the product. -/
theorem mixInterleaved_mixInterleaved {first second : ChannelMatrix ℚ} {frames : Nat}
    {input between : List ℚ} {gain : ℚ} (inner : first.outputChannels = second.inputChannels)
    (mixes : first.mixInterleaved frames input
      (List.replicate (frames * first.outputChannels) 0) gain = some (.ok (), between))
    (output : List ℚ) (secondGain : ℚ) :
    second.mixInterleaved frames between output secondGain =
      (second.product first).mixInterleaved frames input output (gain * secondGain) := by
  have fits : first.Fits frames input (List.replicate (frames * first.outputChannels) 0) := by
    by_contra misfits
    obtain ⟨failure, refused⟩ := mixInterleaved_of_not_fits misfits gain
    rw [refused] at mixes
    cases mixes
  rw [mixInterleaved_of_fits fits] at mixes
  obtain rfl := (Prod.mk.inj (Option.some.inj mixes)).2
  rw [mixInterleaved_of_input (inner ▸ fits.output_small)
      (by rw [List.length_mapIdx, List.length_replicate, inner]),
    @mixInterleaved_of_input (second.product first) _ _ fits.input_small fits.input_length]
  refine if_congr Iff.rfl ?_ rfl
  by_cases same : output.length = frames * second.outputChannels
  · refine (if_pos same).trans (Eq.trans ?_ (if_pos same).symm)
    refine congrArg (fun mixed => some (Except.ok (), mixed)) (List.ext_getElem? fun place => ?_)
    rw [List.getElem?_mapIdx, List.getElem?_mapIdx]
    refine Option.map_congr fun sample found => ?_
    have inside := (List.getElem?_eq_some_iff.mp found).1
    rw [same] at inside
    obtain ⟨frame, outputChannel, frameWithin, outputWithin, rfl⟩ := exists_place inside
    change sample + secondGain * second.mixed _ _ _ = sample + gain * secondGain *
      (second.product first).mixed input ((frame * second.outputChannels + outputChannel) /
        second.outputChannels) ((frame * second.outputChannels + outputChannel) %
          second.outputChannels)
    rw [place_div outputWithin, place_mod outputWithin,
      mixed_mixed inner frameWithin outputWithin gain]
    ring
  · exact (if_neg same).trans (if_neg same).symm

end ChannelMatrix

/-- One call of `mix_interleaved`: if the buffers fit, each output sample grows by
the mix of its frame, and otherwise the call is refused. -/
def MixesLinearly (matrix : ChannelMatrix ℚ) (frames : Nat) (input output : List ℚ) (gain : ℚ) :
    Prop :=
  (matrix.Fits frames input output → ∃ mixed,
    matrix.mixInterleaved frames input output gain = some (.ok (), mixed) ∧
    mixed.length = output.length ∧
    ∀ frame < frames, ∀ outputChannel < matrix.outputChannels,
      mixed[frame * matrix.outputChannels + outputChannel]? =
        output[frame * matrix.outputChannels + outputChannel]?.map fun sample =>
          sample + gain * ∑ channel ∈ Finset.range matrix.inputChannels,
            matrix.entry outputChannel channel *
              input.getD (frame * matrix.inputChannels + channel) 0) ∧
  (¬ matrix.Fits frames input output → ∃ failure,
    matrix.mixInterleaved frames input output gain = some (.error failure, output))

/-- `mix_interleaved` is the linear map of its matrix.  Calls into one output
commute, an identity adds the input, and two mixes are the mix of the product. -/
theorem mix_interleaved_linear :
    (∀ (matrix : ChannelMatrix ℚ) (frames : Nat) (input output : List ℚ) (gain : ℚ),
      MixesLinearly matrix frames input output gain) ∧
    (∀ calls others : List MixCall, calls.Perm others → ∀ output,
      (calls.foldlM MixCall.run output).isSome = true ∧
        calls.foldlM MixCall.run output = others.foldlM MixCall.run output) ∧
    (∀ (channels : Nat) (matrix : ChannelMatrix ℚ),
      ChannelMatrix.identity channels = .ok matrix →
        ∀ frames input output, matrix.Fits frames input output →
          matrix.mixInterleaved frames input output 1 =
            some (.ok (), List.zipWith (fun first second => first + second) output input)) ∧
    ∀ first second : ChannelMatrix ℚ, first.outputChannels = second.inputChannels →
      ∀ (frames : Nat) (input between : List ℚ) (gain : ℚ),
        first.mixInterleaved frames input
            (List.replicate (frames * first.outputChannels) 0) gain = some (.ok (), between) →
          ∀ output secondGain, second.mixInterleaved frames between output secondGain =
            (second.product first).mixInterleaved frames input output (gain * secondGain) := by
  refine ⟨fun matrix frames input output gain => ⟨fun fits => ?_,
      fun misfits => ChannelMatrix.mixInterleaved_of_not_fits misfits gain⟩,
    fun calls others reordered output => ⟨by rw [MixCall.foldlM_run]; rfl,
      MixCall.foldlM_run_perm reordered output⟩,
    fun channels matrix built frames input output fits =>
      ChannelMatrix.mixInterleaved_identity built fits,
    fun first second inner frames input between gain mixes output secondGain =>
      ChannelMatrix.mixInterleaved_mixInterleaved inner mixes output secondGain⟩
  refine ⟨_, ChannelMatrix.mixInterleaved_of_fits fits gain, List.length_mapIdx,
    fun frame _ outputChannel within => ?_⟩
  rw [List.getElem?_mapIdx, place_div within, place_mod within]
  rfl

end VCable
