import VCable.ChannelMatrix

/-!
# Audio buffer lists

The buffers that the host gives to a callback, interleaved or not, with the
loops that count their frames and find a sample.  A read past the samples of a
buffer and a read through a null pointer have no value.
-/

namespace VCable

/-- An `AudioBuffer`, whose data is null or points to as many samples as its
size has place for. -/
structure AudioBuffer (α : Type*) where
  numberChannels : UInt32
  dataByteSize : UInt32
  data : Option (List α)
  sized : ∀ samples, data = some samples → samples.length = dataByteSize.toNat / 4

/-- The part of an `AudioBufferList` after its header, which counts the buffers. -/
structure AudioBufferList (α : Type*) where
  buffers : List (AudioBuffer α)
  counted : buffers.length < 2 ^ 32

/-- `usize::checked_add`. -/
def checkedAdd (first second : Nat) : Option Nat :=
  if first + second < usizeBound then some (first + second) else none

variable {α : Type*}

/-- The loop of `audio_buffer_list_frames`. -/
def audioBufferListFramesFrom : Option Nat → List (AudioBuffer α) → Option Nat
  | frames, [] => frames
  | frames, buffer :: buffers =>
      if buffer.numberChannels = 0 ∨ buffer.data.isNone then none
      else
        let bytesPerFrame := buffer.numberChannels.toNat * 4
        if buffer.dataByteSize.toNat % bytesPerFrame ≠ 0 then none
        else
          let current := buffer.dataByteSize.toNat / bytesPerFrame
          if frames.any (· ≠ current) then none
          else audioBufferListFramesFrom (some current) buffers

def audioBufferListFrames (list : AudioBufferList α) : Option Nat :=
  if list.buffers.length = 0 then some 0 else audioBufferListFramesFrom none list.buffers

/-- The loop of `audio_buffer_list_channels`. -/
def audioBufferListChannelsFrom : Nat → List (AudioBuffer α) → Option Nat
  | channels, [] => some channels
  | channels, buffer :: buffers =>
      match checkedAdd channels buffer.numberChannels.toNat with
      | some channels => audioBufferListChannelsFrom channels buffers
      | none => none

def audioBufferListChannels (list : AudioBufferList α) : Option Nat :=
  audioBufferListChannelsFrom 0 list.buffers

/-- The loop of `read_audio_sample`. -/
def readAudioSampleFrom (frame channel : Nat) : Nat → List (AudioBuffer α) → Option α
  | _, [] => none
  | channelOffset, buffer :: buffers =>
      let channels := buffer.numberChannels.toNat
      if channel < channelOffset + channels then
        match (checkedMul frame channels).bind (checkedAdd · (channel - channelOffset)) with
        | none => none
        | some sampleIndex =>
            if sampleIndex ≥ buffer.dataByteSize.toNat / 4 then none
            else buffer.data.bind (·[sampleIndex]?)
      else readAudioSampleFrom frame channel (channelOffset + channels) buffers

def readAudioSample (list : AudioBufferList α) (frame channel : Nat) : Option α :=
  readAudioSampleFrom frame channel 0 list.buffers

/-! ## Frames and channels -/

/-- What `audio_buffer_list_frames` checks of each buffer. -/
structure AudioBuffer.HasFrames (buffer : AudioBuffer α) (frames : Nat) : Prop where
  channels : buffer.numberChannels ≠ 0
  present : buffer.data ≠ none
  size : buffer.dataByteSize.toNat = frames * buffer.numberChannels.toNat * 4

/-- The channels of all buffers together. -/
def channelCount (buffers : List (AudioBuffer α)) : Nat :=
  (buffers.map fun buffer => buffer.numberChannels.toNat).sum

theorem hasFrames_of_audioBufferListFramesFrom {buffers : List (AudioBuffer α)}
    {known : Option Nat} {frames : Nat}
    (counted : audioBufferListFramesFrom known buffers = some frames) :
    (∀ earlier, known = some earlier → earlier = frames) ∧
      ∀ buffer ∈ buffers, buffer.HasFrames frames := by
  induction buffers generalizing known with
  | nil =>
      rw [audioBufferListFramesFrom] at counted
      refine ⟨fun earlier same => Option.some.inj (same.symm.trans counted), nofun⟩
  | cons buffer buffers ih =>
      rw [audioBufferListFramesFrom] at counted
      split at counted
      · cases counted
      rename_i usable
      dsimp only at counted
      split at counted
      · cases counted
      rename_i whole
      split at counted
      · cases counted
      rename_i equal
      obtain ⟨own, rest⟩ := ih counted
      have current := own _ rfl
      rw [not_or] at usable
      refine ⟨?_, ?_⟩
      · rintro earlier rfl
        rw [Option.any_some, decide_eq_true_eq, not_not] at equal
        exact equal.trans current
      · intro other member
        rcases List.mem_cons.mp member with rfl | later
        · refine ⟨usable.1, fun null => usable.2 (by rw [null]; rfl), ?_⟩
          rw [← current, Nat.mul_assoc]
          exact (Nat.div_mul_cancel (Nat.dvd_of_mod_eq_zero (not_not.mp whole))).symm
        · exact rest other later

theorem hasFrames_of_audioBufferListFrames {list : AudioBufferList α} {frames : Nat}
    (counted : audioBufferListFrames list = some frames) :
    ∀ buffer ∈ list.buffers, buffer.HasFrames frames := by
  rw [audioBufferListFrames] at counted
  split at counted
  · rename_i empty
    rw [List.length_eq_zero_iff.mp empty]
    nofun
  · exact (hasFrames_of_audioBufferListFramesFrom counted).2

/-- A list with frames has a channel. -/
theorem channelCount_pos {list : AudioBufferList α} {frames : Nat}
    (counted : audioBufferListFrames list = some frames) (anyFrame : 0 < frames) :
    0 < channelCount list.buffers := by
  have checked := hasFrames_of_audioBufferListFrames counted
  rw [audioBufferListFrames] at counted
  cases buffers : list.buffers with
  | nil =>
      rw [buffers] at counted
      cases counted
      exact absurd anyFrame (Nat.lt_irrefl 0)
  | cons buffer rest =>
      have first := (checked buffer (by rw [buffers]; exact List.mem_cons_self)).channels
      have positive : 0 < buffer.numberChannels.toNat :=
        Nat.pos_of_ne_zero fun none => first (UInt32.toNat_inj.mp none)
      rw [channelCount, List.map_cons, List.sum_cons]
      exact Nat.add_pos_left positive _

/-- In a frame of a buffer, every channel of the buffer has a sample. -/
theorem AudioBuffer.HasFrames.read {buffer : AudioBuffer α} {frames frame channel : Nat}
    (checked : buffer.HasFrames frames) (within : frame < frames)
    (present : channel < buffer.numberChannels.toNat) :
    ∃ index samples, (checkedMul frame buffer.numberChannels.toNat).bind (checkedAdd · channel) =
        some index ∧ index < buffer.dataByteSize.toNat / 4 ∧ buffer.data = some samples ∧
      index < samples.length := by
  have size := checked.size
  have small := buffer.dataByteSize.toNat_lt
  have next : (frame + 1) * buffer.numberChannels.toNat ≤ frames * buffer.numberChannels.toNat :=
    Nat.mul_le_mul_right _ within
  rw [Nat.succ_mul] at next
  obtain ⟨samples, pointed⟩ := Option.ne_none_iff_exists'.mp checked.present
  have sized := buffer.sized samples pointed
  have bound : usizeBound = 18446744073709551616 := rfl
  refine ⟨frame * buffer.numberChannels.toNat + channel, samples, ?_, by omega, pointed, by omega⟩
  rw [checkedMul, if_pos (by omega), Option.bind_some, checkedAdd, if_pos (by omega)]

theorem isSome_readAudioSampleFrom {buffers : List (AudioBuffer α)} {frames frame channel : Nat}
    (checked : ∀ buffer ∈ buffers, buffer.HasFrames frames) (within : frame < frames)
    {channelOffset : Nat} (after : channelOffset ≤ channel) :
    (readAudioSampleFrom frame channel channelOffset buffers).isSome = true ↔
      channel < channelOffset + channelCount buffers := by
  induction buffers generalizing channelOffset with
  | nil => exact iff_of_false Bool.false_ne_true (Nat.not_lt.mpr after)
  | cons buffer buffers ih =>
      rw [readAudioSampleFrom, channelCount, List.map_cons, List.sum_cons]
      by_cases own : channel < channelOffset + buffer.numberChannels.toNat
      · obtain ⟨index, samples, found, inBytes, pointed, inSamples⟩ :=
          (checked buffer List.mem_cons_self).read within
            (show channel - channelOffset < buffer.numberChannels.toNat by omega)
        rw [if_pos own, found]
        dsimp only
        rw [if_neg (Nat.not_le.mpr inBytes), pointed, Option.bind_some,
          List.getElem?_eq_getElem inSamples]
        exact iff_of_true rfl (by omega)
      · rw [if_neg own, ih (fun other member => checked other (List.mem_cons_of_mem _ member))
          (Nat.not_lt.mp own), channelCount, Nat.add_assoc]

/-- A sample of a frame can be read exactly in the channels that the list has. -/
theorem isSome_readAudioSample {list : AudioBufferList α} {frames frame channel : Nat}
    (counted : audioBufferListFrames list = some frames) (within : frame < frames) :
    (readAudioSample list frame channel).isSome = true ↔ channel < channelCount list.buffers := by
  rw [readAudioSample, isSome_readAudioSampleFrom (hasFrames_of_audioBufferListFrames counted)
    within (Nat.zero_le _), Nat.zero_add]

theorem audioBufferListChannelsFrom_eq {buffers : List (AudioBuffer α)} {channels : Nat}
    (few : channels + buffers.length * 2 ^ 32 < usizeBound) :
    audioBufferListChannelsFrom channels buffers = some (channels + channelCount buffers) := by
  induction buffers generalizing channels with
  | nil => rfl
  | cons buffer buffers ih =>
      have small := buffer.numberChannels.toNat_lt
      rw [List.length_cons, Nat.succ_mul] at few
      rw [audioBufferListChannelsFrom, checkedAdd, if_pos (by omega)]
      dsimp only
      rw [ih (by omega), channelCount, channelCount, List.map_cons, List.sum_cons, Nat.add_assoc]

/-- The sum of the channels does not overflow. -/
theorem audioBufferListChannels_eq (list : AudioBufferList α) :
    audioBufferListChannels list = some (channelCount list.buffers) := by
  have counted := list.counted
  have bound : usizeBound = 18446744073709551616 := rfl
  rw [audioBufferListChannels, audioBufferListChannelsFrom_eq (by omega), Nat.zero_add]

end VCable
