import VCable.AudioBufferList
import VCable.RowMajor
import Mathlib.Data.Rat.Defs
import Mathlib.Data.Set.Function

/-!
# The slots of an audio buffer list

The writing half of the buffer lists: adding to a sample and clearing.  Reading
and adding each walk over the buffers on their own, and both arrive at the slot
of the frame and the channel, which no other frame and channel share.
-/

namespace VCable

open RowMajor

variable {α : Type*}

/-- A buffer with one of its samples changed. -/
def AudioBuffer.modify (buffer : AudioBuffer α) (index : Nat) (change : α → α) : AudioBuffer α where
  numberChannels := buffer.numberChannels
  dataByteSize := buffer.dataByteSize
  data := buffer.data.map (·.modify index change)
  sized := by
    intro samples pointed
    obtain ⟨before, same, rfl⟩ := Option.map_eq_some_iff.mp pointed
    rw [List.length_modify]
    exact buffer.sized before same

/-- The loop of `add_audio_sample`.  Adding through a null pointer has no result. -/
def addAudioSampleFrom [Add α] (frame channel : Nat) (value : α) :
    Nat → List (AudioBuffer α) → Option (Bool × List (AudioBuffer α))
  | _, [] => some (false, [])
  | channelOffset, buffer :: buffers =>
      let channels := buffer.numberChannels.toNat
      if channel < channelOffset + channels then
        match (checkedMul frame channels).bind (checkedAdd · (channel - channelOffset)) with
        | none => some (false, buffer :: buffers)
        | some sampleIndex =>
            if sampleIndex ≥ buffer.dataByteSize.toNat / 4 then some (false, buffer :: buffers)
            else if buffer.data.isNone then none
            else some (true, buffer.modify sampleIndex (· + value) :: buffers)
      else
        (addAudioSampleFrom frame channel value (channelOffset + channels) buffers).map
          fun (added, buffers) => (added, buffer :: buffers)

theorem length_of_addAudioSampleFrom [Add α] {frame channel channelOffset : Nat} {value : α}
    {buffers : List (AudioBuffer α)} {result : Bool × List (AudioBuffer α)}
    (added : addAudioSampleFrom frame channel value channelOffset buffers = some result) :
    result.2.length = buffers.length := by
  induction buffers generalizing channelOffset result with
  | nil =>
      cases added
      rfl
  | cons buffer buffers ih =>
      rw [addAudioSampleFrom] at added
      dsimp only at added
      split at added
      · split at added
        · cases added
          rfl
        split at added
        · cases added
          rfl
        split at added
        · cases added
        · cases added
          rfl
      · obtain ⟨inner, found, rfl⟩ := Option.map_eq_some_iff.mp added
        exact congrArg Nat.succ (ih found)

def addAudioSample [Add α] (list : AudioBufferList α) (frame channel : Nat) (value : α) :
    Option (Bool × AudioBufferList α) :=
  (addAudioSampleFrom frame channel value 0 list.buffers).pmap
    (fun result kept => (result.1, ⟨result.2, kept⟩))
    fun _ added => length_of_addAudioSampleFrom added ▸ list.counted

/-- A pass of the loop of `clear_audio_buffer_list`. -/
def AudioBuffer.clear [Zero α] (buffer : AudioBuffer α) : AudioBuffer α where
  numberChannels := buffer.numberChannels
  dataByteSize := buffer.dataByteSize
  data := buffer.data.map fun samples => samples.map fun _ => 0
  sized := by
    intro samples pointed
    obtain ⟨before, same, rfl⟩ := Option.map_eq_some_iff.mp pointed
    rw [List.length_map]
    exact buffer.sized before same

def clearAudioBufferList [Zero α] (list : AudioBufferList α) : AudioBufferList α where
  buffers := list.buffers.map AudioBuffer.clear
  counted := (List.length_map _).symm ▸ list.counted

/-! ## Slots -/

/-- The buffer of a frame and a channel, and the place of their sample in it. -/
def sampleSlot : List (AudioBuffer α) → Nat × Nat → Nat × Nat
  | [], place => place
  | buffer :: buffers, (frame, channel) =>
      if channel < buffer.numberChannels.toNat then
        (0, frame * buffer.numberChannels.toNat + channel)
      else
        let (index, place) := sampleSlot buffers (frame, channel - buffer.numberChannels.toNat)
        (index + 1, place)

/-- The slots whose four bytes are inside a buffer. -/
def slotsInBytes (buffers : List (AudioBuffer α)) : Set (Nat × Nat) :=
  {place | ∃ buffer, buffers[place.1]? = some buffer ∧
    4 * place.2 + 4 ≤ buffer.dataByteSize.toNat}

/-- The sample in a slot. -/
def sampleAt (buffers : List (AudioBuffer α)) (place : Nat × Nat) : Option α :=
  (buffers[place.1]?.bind AudioBuffer.data).bind (·[place.2]?)

/-- What does not change when samples are written. -/
def AudioBuffer.layout (buffer : AudioBuffer α) : UInt32 × UInt32 × Bool :=
  (buffer.numberChannels, buffer.dataByteSize, buffer.data.isSome)

/-- The same buffers up to their samples. -/
def SameLayout (buffers others : List (AudioBuffer α)) : Prop :=
  others.map AudioBuffer.layout = buffers.map AudioBuffer.layout

section Addressing

variable {buffer : AudioBuffer α} {buffers : List (AudioBuffer α)} {frames : Nat}

theorem slot_own {frame channel : Nat} (own : channel < buffer.numberChannels.toNat) :
    sampleSlot (buffer :: buffers) (frame, channel) =
      (0, frame * buffer.numberChannels.toNat + channel) :=
  if_pos own

theorem slot_later {frame channel : Nat} (later : buffer.numberChannels.toNat ≤ channel) :
    sampleSlot (buffer :: buffers) (frame, channel) =
      ((sampleSlot buffers (frame, channel - buffer.numberChannels.toNat)).1 + 1,
        (sampleSlot buffers (frame, channel - buffer.numberChannels.toNat)).2) :=
  if_neg (Nat.not_lt.mpr later)

theorem channelCount_cons :
    channelCount (buffer :: buffers) = buffer.numberChannels.toNat + channelCount buffers := by
  rw [channelCount, List.map_cons, List.sum_cons, channelCount]

theorem AudioBuffer.HasFrames.inBytes (checked : buffer.HasFrames frames) {place : Nat} :
    4 * place + 4 ≤ buffer.dataByteSize.toNat ↔ place < frames * buffer.numberChannels.toNat := by
  have size := checked.size
  omega

theorem mapsTo_slot (checked : ∀ buffer ∈ buffers, buffer.HasFrames frames) :
    Set.MapsTo (sampleSlot buffers) {place | place.1 < frames ∧ place.2 < channelCount buffers}
      (slotsInBytes buffers) := by
  induction buffers with
  | nil => exact fun _ within => absurd within.2 (Nat.not_lt_zero _)
  | cons buffer buffers ih =>
      rintro ⟨frame, channel⟩ ⟨frameWithin, channelWithin⟩
      rw [channelCount_cons] at channelWithin
      rcases Nat.lt_or_ge channel buffer.numberChannels.toNat with own | later
      · rw [slot_own own]
        exact ⟨buffer, rfl, (checked buffer List.mem_cons_self).inBytes.mpr
          (place_lt frameWithin own)⟩
      · rw [slot_later later]
        obtain ⟨other, found, inBytes⟩ := @ih
          (fun other member => checked other (List.mem_cons_of_mem _ member))
          (frame, channel - buffer.numberChannels.toNat)
          ⟨frameWithin, Nat.sub_lt_left_of_lt_add later channelWithin⟩
        exact ⟨other, found, inBytes⟩

theorem injOn_slot :
    Set.InjOn (sampleSlot buffers) {place | place.1 < frames ∧ place.2 < channelCount buffers} := by
  induction buffers with
  | nil => exact fun _ within => absurd within.2 (Nat.not_lt_zero _)
  | cons buffer buffers ih =>
      rintro ⟨frame, channel⟩ ⟨frameWithin, channelWithin⟩ ⟨other, another⟩
        ⟨otherWithin, anotherWithin⟩ same
      rw [channelCount_cons] at channelWithin anotherWithin
      rcases Nat.lt_or_ge channel buffer.numberChannels.toNat with own | later <;>
        rcases Nat.lt_or_ge another buffer.numberChannels.toNat with otherOwn | otherLater
      · rw [slot_own own, slot_own otherOwn] at same
        obtain ⟨rfl, rfl⟩ := (place_eq_iff own otherOwn).mp (Prod.mk.inj same).2
        rfl
      · rw [slot_own own, slot_later otherLater] at same
        exact absurd (Prod.mk.inj same).1 (Nat.succ_ne_zero _).symm
      · rw [slot_later later, slot_own otherOwn] at same
        exact absurd (Prod.mk.inj same).1 (Nat.succ_ne_zero _)
      · rw [slot_later later, slot_later otherLater] at same
        obtain ⟨first, second⟩ := Prod.mk.inj same
        have inner := @ih (frame, channel - buffer.numberChannels.toNat)
          ⟨frameWithin, Nat.sub_lt_left_of_lt_add later channelWithin⟩
          (other, another - buffer.numberChannels.toNat)
          ⟨otherWithin, Nat.sub_lt_left_of_lt_add otherLater anotherWithin⟩
          (Prod.ext (Nat.succ.inj first) second)
        obtain ⟨rfl, channels⟩ := Prod.mk.inj inner
        have channel_eq : channel = another := by omega
        exact Prod.ext rfl channel_eq

theorem surjOn_slot (checked : ∀ buffer ∈ buffers, buffer.HasFrames frames) :
    Set.SurjOn (sampleSlot buffers) {place | place.1 < frames ∧ place.2 < channelCount buffers}
      (slotsInBytes buffers) := by
  induction buffers with
  | nil => exact fun _ ⟨_, found, _⟩ => nomatch found
  | cons buffer buffers ih =>
      rintro ⟨index, place⟩ ⟨holder, found, inBytes⟩
      cases index with
      | zero =>
          obtain rfl := Option.some.inj found
          obtain ⟨frame, channel, frameWithin, own, rfl⟩ := exists_place
            ((checked buffer List.mem_cons_self).inBytes.mp inBytes)
          exact ⟨(frame, channel), ⟨frameWithin, channelCount_cons ▸ Nat.lt_add_right _ own⟩,
            slot_own own⟩
      | succ index =>
          obtain ⟨⟨frame, channel⟩, ⟨frameWithin, channelWithin⟩, same⟩ := @ih
            (fun other member => checked other (List.mem_cons_of_mem _ member)) (index, place)
            ⟨holder, found, inBytes⟩
          refine ⟨(frame, buffer.numberChannels.toNat + channel),
            ⟨frameWithin, channelCount_cons ▸ Nat.add_lt_add_left channelWithin _⟩, ?_⟩
          rw [slot_later (Nat.le_add_right _ _), Nat.add_sub_cancel_left, same]

/-- The frames and channels are one to one with the slots of all buffers. -/
theorem bijOn_slot (checked : ∀ buffer ∈ buffers, buffer.HasFrames frames) :
    Set.BijOn (sampleSlot buffers) {place | place.1 < frames ∧ place.2 < channelCount buffers}
      (slotsInBytes buffers) :=
  ⟨mapsTo_slot checked, injOn_slot, surjOn_slot checked⟩

/-! ## Accesses -/

/-- In the frames of a buffer the index of a sample does not overflow. -/
theorem AudioBuffer.HasFrames.sampleIndex (checked : buffer.HasFrames frames) {frame channel : Nat}
    (within : frame < frames) (own : channel < buffer.numberChannels.toNat) :
    (checkedMul frame buffer.numberChannels.toNat).bind (checkedAdd · channel) =
        some (frame * buffer.numberChannels.toNat + channel) ∧
      frame * buffer.numberChannels.toNat + channel < buffer.dataByteSize.toNat / 4 := by
  have size := checked.size
  have small := buffer.dataByteSize.toNat_lt
  have inside := place_lt within own
  have bound : usizeBound = 18446744073709551616 := rfl
  refine ⟨?_, by omega⟩
  rw [checkedMul, if_pos (by omega), Option.bind_some, checkedAdd, if_pos (by omega)]

/-- After the frames of a buffer the index of a sample is past its bytes. -/
theorem AudioBuffer.HasFrames.sampleIndex_past (checked : buffer.HasFrames frames)
    {frame channel index : Nat} (past : frames ≤ frame)
    (found : (checkedMul frame buffer.numberChannels.toNat).bind (checkedAdd · channel) =
      some index) : index ≥ buffer.dataByteSize.toNat / 4 := by
  have size := checked.size
  have further := Nat.mul_le_mul_right buffer.numberChannels.toNat past
  obtain ⟨product, multiplied, added⟩ := Option.bind_eq_some_iff.mp found
  unfold checkedMul at multiplied
  unfold checkedAdd at added
  split_ifs at multiplied added
  cases multiplied
  cases added
  omega

theorem AudioBuffer.HasFrames.exists_samples (checked : buffer.HasFrames frames) :
    ∃ samples, buffer.data = some samples ∧
      samples.length = frames * buffer.numberChannels.toNat := by
  obtain ⟨samples, pointed⟩ := Option.ne_none_iff_exists'.mp checked.present
  have size := checked.size
  have sized := buffer.sized samples pointed
  exact ⟨samples, pointed, by omega⟩

/-- What is read is the sample of the slot. -/
theorem readAudioSampleFrom_eq (checked : ∀ buffer ∈ buffers, buffer.HasFrames frames)
    {frame channel channelOffset : Nat} (frameWithin : frame < frames)
    (after : channelOffset ≤ channel) (present : channel - channelOffset < channelCount buffers) :
    readAudioSampleFrom frame channel channelOffset buffers =
      sampleAt buffers (sampleSlot buffers (frame, channel - channelOffset)) := by
  induction buffers generalizing channelOffset with
  | nil => exact absurd present (Nat.not_lt_zero _)
  | cons buffer buffers ih =>
      rw [channelCount_cons] at present
      rw [readAudioSampleFrom]
      by_cases own : channel < channelOffset + buffer.numberChannels.toNat
      · have local_lt : channel - channelOffset < buffer.numberChannels.toNat := by omega
        obtain ⟨index, inBytes⟩ :=
          (checked buffer List.mem_cons_self).sampleIndex frameWithin local_lt
        rw [if_pos own, index, slot_own local_lt]
        dsimp only
        rw [if_neg (Nat.not_le.mpr inBytes)]
        rfl
      · have local_le : buffer.numberChannels.toNat ≤ channel - channelOffset := by omega
        rw [if_neg own, ih (fun other member => checked other (List.mem_cons_of_mem _ member))
          (Nat.not_lt.mp own) (by omega), slot_later local_le, Nat.sub_add_eq]
        rfl

theorem readAudioSampleFrom_past (checked : ∀ buffer ∈ buffers, buffer.HasFrames frames)
    {frame channel channelOffset : Nat}
    (past : frames ≤ frame ∨ channelOffset + channelCount buffers ≤ channel) :
    readAudioSampleFrom frame channel channelOffset buffers = none := by
  induction buffers generalizing channelOffset with
  | nil => rfl
  | cons buffer buffers ih =>
      rw [channelCount_cons] at past
      rw [readAudioSampleFrom]
      split_ifs with own
      · have pastFrames : frames ≤ frame := by omega
        split
        · rfl
        · rename_i index found
          exact if_pos ((checked buffer List.mem_cons_self).sampleIndex_past pastFrames found)
      · refine ih (fun other member => checked other (List.mem_cons_of_mem _ member)) ?_
        omega

/-- The buffers with the sample of a slot changed. -/
def modifySample (buffers : List (AudioBuffer α)) (place : Nat × Nat) (change : α → α) :
    List (AudioBuffer α) :=
  buffers.modify place.1 (·.modify place.2 change)

theorem AudioBuffer.layout_modify (buffer : AudioBuffer α) (index : Nat) (change : α → α) :
    (buffer.modify index change).layout = buffer.layout := by
  rw [layout, layout, modify, Option.isSome_map]

/-- What a modification does not change stays the same. -/
theorem map_modify_eq_map {α β : Type*} {change : α → α} {view : α → β}
    (same : ∀ value, view (change value) = view value) (values : List α) (index : Nat) :
    (values.modify index change).map view = values.map view := by
  refine List.ext_getElem? fun place => ?_
  rw [List.getElem?_map, List.getElem?_map, List.getElem?_modify, Option.map_eq_map,
    Option.map_map]
  refine Option.map_congr fun value _ => ?_
  rw [Function.comp_apply]
  split_ifs
  · exact same value
  · rfl

theorem map_set_eq_map {α β : Type*} {view : α → β} {values : List α} {index : Nat}
    {before after : α} (found : values[index]? = some before) (same : view after = view before) :
    (values.set index after).map view = values.map view := by
  obtain ⟨within, rfl⟩ := List.getElem?_eq_some_iff.mp found
  refine List.ext_getElem? fun place => ?_
  rw [List.getElem?_map, List.getElem?_map]
  by_cases own : index = place
  · obtain rfl := own
    rw [List.getElem?_set_self within, List.getElem?_eq_getElem within, Option.map_some,
      Option.map_some, same]
  · rw [List.getElem?_set_ne own]

theorem sameLayout_modifySample (buffers : List (AudioBuffer α)) (place : Nat × Nat)
    (change : α → α) : SameLayout buffers (modifySample buffers place change) :=
  map_modify_eq_map (fun buffer => buffer.layout_modify place.2 change) buffers place.1

theorem sampleAt_modifySample (buffers : List (AudioBuffer α)) (place other : Nat × Nat)
    (change : α → α) : sampleAt (modifySample buffers place change) other =
      if other = place then (sampleAt buffers other).map change else sampleAt buffers other := by
  rw [sampleAt, sampleAt, modifySample, List.getElem?_modify]
  cases found : buffers[other.1]? with
  | none => simp
  | some buffer =>
      by_cases sameBuffer : place.1 = other.1
      · simp only [sameBuffer, if_true, Option.map_eq_map, Option.map_some, Option.bind_some]
        cases pointed : buffer.data with
        | none => simp [AudioBuffer.modify, pointed]
        | some samples =>
            by_cases sameIndex : place.2 = other.2
            · simp [AudioBuffer.modify, pointed, Prod.ext_iff, sameBuffer, sameIndex]
            · have different : ¬ other.2 = place.2 := fun same => sameIndex same.symm
              simp [AudioBuffer.modify, pointed, Prod.ext_iff, sameIndex, different]
      · have different : ¬ other.1 = place.1 := fun same => sameBuffer same.symm
        simp [Prod.ext_iff, sameBuffer, different]

/-- Adding changes the sample of the slot. -/
theorem addAudioSampleFrom_eq [Add α] (checked : ∀ buffer ∈ buffers, buffer.HasFrames frames)
    {frame channel channelOffset : Nat} (frameWithin : frame < frames)
    (after : channelOffset ≤ channel) (present : channel - channelOffset < channelCount buffers)
    (value : α) :
    addAudioSampleFrom frame channel value channelOffset buffers =
      some (true, modifySample buffers (sampleSlot buffers (frame, channel - channelOffset))
        (· + value)) := by
  induction buffers generalizing channelOffset with
  | nil => exact absurd present (Nat.not_lt_zero _)
  | cons buffer buffers ih =>
      rw [channelCount_cons] at present
      rw [addAudioSampleFrom]
      by_cases own : channel < channelOffset + buffer.numberChannels.toNat
      · have local_lt : channel - channelOffset < buffer.numberChannels.toNat := by omega
        have checkedOwn := checked buffer List.mem_cons_self
        obtain ⟨index, inBytes⟩ := checkedOwn.sampleIndex frameWithin local_lt
        obtain ⟨samples, pointed, -⟩ := checkedOwn.exists_samples
        rw [if_pos own, index, slot_own local_lt]
        dsimp only
        rw [if_neg (Nat.not_le.mpr inBytes), pointed]
        rfl
      · have local_le : buffer.numberChannels.toNat ≤ channel - channelOffset := by omega
        rw [if_neg own, ih (fun other member => checked other (List.mem_cons_of_mem _ member))
          (Nat.not_lt.mp own) (by omega), slot_later local_le, Nat.sub_add_eq]
        rfl

theorem addAudioSampleFrom_past [Add α] (checked : ∀ buffer ∈ buffers, buffer.HasFrames frames)
    {frame channel channelOffset : Nat}
    (past : frames ≤ frame ∨ channelOffset + channelCount buffers ≤ channel) (value : α) :
    addAudioSampleFrom frame channel value channelOffset buffers = some (false, buffers) := by
  induction buffers generalizing channelOffset with
  | nil => rfl
  | cons buffer buffers ih =>
      rw [channelCount_cons] at past
      rw [addAudioSampleFrom]
      by_cases own : channel < channelOffset + buffer.numberChannels.toNat
      · have pastFrames : frames ≤ frame := by omega
        rw [if_pos own]
        split
        · rfl
        · rename_i index found
          exact if_pos ((checked buffer List.mem_cons_self).sampleIndex_past pastFrames found)
      · rw [if_neg own,
          ih (fun other member => checked other (List.mem_cons_of_mem _ member)) (by omega)]
        rfl

end Addressing

/-! ## Layouts -/

section Layouts

variable {buffers others : List (AudioBuffer α)}

theorem SameLayout.trans {middle : List (AudioBuffer α)} (first : SameLayout buffers middle)
    (second : SameLayout middle others) : SameLayout buffers others :=
  Eq.trans second first

theorem SameLayout.length_eq (same : SameLayout buffers others) :
    others.length = buffers.length := by
  have lengths := congrArg List.length same
  rwa [List.length_map, List.length_map] at lengths

theorem SameLayout.channelCount_eq (same : SameLayout buffers others) :
    channelCount others = channelCount buffers := by
  have counts := congrArg (fun layouts => (layouts.map fun (layout : UInt32 × UInt32 × Bool) =>
    layout.1.toNat).sum) same
  simp only [List.map_map] at counts
  exact counts

/-- The slots depend on the layout only. -/
theorem SameLayout.slot_eq (same : SameLayout buffers others) :
    sampleSlot others = sampleSlot buffers := by
  induction buffers generalizing others with
  | nil => rw [List.map_eq_nil_iff.mp same]
  | cons buffer buffers ih =>
      obtain ⟨other, others, rfl, own, rest⟩ := List.map_eq_cons_iff.mp same
      have channels : other.numberChannels = buffer.numberChannels := congrArg Prod.fst own
      funext ⟨frame, channel⟩
      rw [sampleSlot, sampleSlot, ih rest, channels]

theorem SameLayout.audioBufferListFramesFrom_eq (same : SameLayout buffers others)
    (known : Option Nat) :
    audioBufferListFramesFrom known others = audioBufferListFramesFrom known buffers := by
  induction buffers generalizing others known with
  | nil => rw [List.map_eq_nil_iff.mp same]
  | cons buffer buffers ih =>
      obtain ⟨other, others, rfl, own, rest⟩ := List.map_eq_cons_iff.mp same
      obtain ⟨channels, sizes, present⟩ : other.numberChannels = buffer.numberChannels ∧
          other.dataByteSize = buffer.dataByteSize ∧ other.data.isSome = buffer.data.isSome :=
        ⟨congrArg Prod.fst own, congrArg (·.2.1) own, congrArg (·.2.2) own⟩
      have absent : other.data.isNone = buffer.data.isNone := by
        rw [← Option.not_isSome, present, Option.not_isSome]
      rw [audioBufferListFramesFrom, audioBufferListFramesFrom, channels, sizes, absent]
      simp only [ih rest]

theorem SameLayout.audioBufferListFrames_eq {list other : AudioBufferList α}
    (same : SameLayout list.buffers other.buffers) :
    audioBufferListFrames other = audioBufferListFrames list := by
  rw [audioBufferListFrames, audioBufferListFrames, same.length_eq,
    same.audioBufferListFramesFrom_eq]

theorem sameLayout_clearAudioBufferList [Zero α] (list : AudioBufferList α) :
    SameLayout list.buffers (clearAudioBufferList list).buffers := by
  change (list.buffers.map AudioBuffer.clear).map AudioBuffer.layout = _
  rw [List.map_map]
  refine List.map_congr_left fun buffer _ => ?_
  rw [Function.comp_apply, AudioBuffer.layout, AudioBuffer.layout, AudioBuffer.clear,
    Option.isSome_map]

/-- Every sample is zero after clearing. -/
theorem sampleAt_clearAudioBufferList [Zero α] (list : AudioBufferList α) (place : Nat × Nat) :
    sampleAt (clearAudioBufferList list).buffers place =
      (sampleAt list.buffers place).map fun _ => 0 := by
  rw [sampleAt, sampleAt, clearAudioBufferList, List.getElem?_map]
  cases list.buffers[place.1]? with
  | none => rfl
  | some buffer =>
      change ((buffer.data.map fun samples => samples.map fun _ => (0 : α)).bind (·[place.2]?)) =
        (buffer.data.bind (·[place.2]?)).map fun _ => 0
      cases buffer.data with
      | none => rfl
      | some samples => exact List.getElem?_map

end Layouts

/-! ## Lists -/

section Lists

variable {list : AudioBufferList α} {frames channels : Nat}

theorem readAudioSample_eq (framed : audioBufferListFrames list = some frames) {frame channel : Nat}
    (frameWithin : frame < frames) (channelWithin : channel < channelCount list.buffers) :
    readAudioSample list frame channel =
      sampleAt list.buffers (sampleSlot list.buffers (frame, channel)) :=
  readAudioSampleFrom_eq (hasFrames_of_audioBufferListFrames framed) frameWithin (Nat.zero_le _)
    channelWithin

theorem readAudioSample_past (framed : audioBufferListFrames list = some frames)
    {frame channel : Nat} (past : frames ≤ frame ∨ channelCount list.buffers ≤ channel) :
    readAudioSample list frame channel = none :=
  readAudioSampleFrom_past (hasFrames_of_audioBufferListFrames framed) (by
    rwa [Nat.zero_add])

variable [Add α]

theorem addAudioSample_of_from {frame channel : Nat} {value : α} {added : Bool}
    {other : AudioBufferList α}
    (found : addAudioSampleFrom frame channel value 0 list.buffers = some (added, other.buffers)) :
    addAudioSample list frame channel value = some (added, other) :=
  Option.pmap_eq_some_iff.mpr ⟨_, _, found, rfl⟩

theorem addAudioSample_eq (framed : audioBufferListFrames list = some frames) {frame channel : Nat}
    (frameWithin : frame < frames) (channelWithin : channel < channelCount list.buffers)
    (value : α) :
    ∃ other, addAudioSample list frame channel value = some (true, other) ∧
      other.buffers =
        modifySample list.buffers (sampleSlot list.buffers (frame, channel)) (· + value) := by
  refine ⟨⟨modifySample list.buffers (sampleSlot list.buffers (frame, channel)) (· + value), ?_⟩,
    addAudioSample_of_from ?_, rfl⟩
  · exact (List.length_modify _ _ _).symm ▸ list.counted
  · exact addAudioSampleFrom_eq (hasFrames_of_audioBufferListFrames framed) frameWithin
      (Nat.zero_le _) channelWithin value

theorem addAudioSample_past (framed : audioBufferListFrames list = some frames)
    {frame channel : Nat} (past : frames ≤ frame ∨ channelCount list.buffers ≤ channel)
    (value : α) : addAudioSample list frame channel value = some (false, list) :=
  addAudioSample_of_from (addAudioSampleFrom_past (hasFrames_of_audioBufferListFrames framed) (by
    rwa [Nat.zero_add]) value)

end Lists

/-! ## Amounts -/

/-- What was added to the samples of an output. -/
structure Adds (frames : Nat) (before after : AudioBufferList ℚ) (amount : Nat → Nat → ℚ) :
    Prop where
  layout : SameLayout before.buffers after.buffers
  samples : ∀ frame < frames, ∀ channel < channelCount before.buffers,
    readAudioSample after frame channel =
      (readAudioSample before frame channel).map (· + amount frame channel)

namespace Adds

variable {frames : Nat} {before middle after : AudioBufferList ℚ} {amount more : Nat → Nat → ℚ}

theorem nothing (zero : ∀ frame channel, amount frame channel = 0) :
    Adds frames before before amount where
  layout := rfl
  samples frame _ channel _ := by simp [zero]

theorem trans (first : Adds frames before middle amount) (second : Adds frames middle after more) :
    Adds frames before after fun frame channel => amount frame channel + more frame channel where
  layout := first.layout.trans second.layout
  samples frame frameWithin channel channelWithin := by
    rw [second.samples frame frameWithin channel (first.layout.channelCount_eq ▸ channelWithin),
      first.samples frame frameWithin channel channelWithin, Option.map_map]
    exact congrArg (Option.map · _) (funext fun _ => add_assoc _ _ _)

theorem congr (adds : Adds frames before after amount)
    (same : ∀ frame channel, amount frame channel = more frame channel) :
    Adds frames before after more := by
  have equal : amount = more := funext fun frame => funext fun channel => same frame channel
  exact equal ▸ adds

theorem framed (adds : Adds frames before after amount)
    (counted : audioBufferListFrames before = some frames) :
    audioBufferListFrames after = some frames :=
  adds.layout.audioBufferListFrames_eq.trans counted

end Adds

theorem adds_addAudioSample {list : AudioBufferList ℚ} {frames frame channel : Nat}
    (framed : audioBufferListFrames list = some frames) (frameWithin : frame < frames)
    (channelWithin : channel < channelCount list.buffers) (value : ℚ) :
    ∃ after, addAudioSample list frame channel value = some (true, after) ∧
      Adds frames list after fun other another =>
        if other = frame ∧ another = channel then value else 0 := by
  obtain ⟨after, added, buffers⟩ := addAudioSample_eq framed frameWithin channelWithin value
  have layout : SameLayout list.buffers after.buffers :=
    buffers ▸ sameLayout_modifySample _ _ _
  refine ⟨after, added, layout, fun other otherWithin another anotherWithin => ?_⟩
  rw [readAudioSample_eq (layout.audioBufferListFrames_eq.trans framed) otherWithin
      (layout.channelCount_eq ▸ anotherWithin),
    readAudioSample_eq framed otherWithin anotherWithin, layout.slot_eq, buffers,
    sampleAt_modifySample]
  have injective := @injOn_slot ℚ list.buffers frames (other, another)
    ⟨otherWithin, anotherWithin⟩ (frame, channel) ⟨frameWithin, channelWithin⟩
  by_cases same : other = frame ∧ another = channel
  · obtain ⟨rfl, rfl⟩ := same
    simp
  · have different :
        sampleSlot list.buffers (other, another) ≠ sampleSlot list.buffers (frame, channel) :=
      fun equal => same (Prod.mk.inj (injective equal))
    simp [same, different]

/-- A cleared list has zeros. -/
theorem readAudioSample_clear {list : AudioBufferList ℚ} {frames frame channel : Nat}
    (framed : audioBufferListFrames list = some frames) (frameWithin : frame < frames)
    (channelWithin : channel < channelCount list.buffers) :
    readAudioSample (clearAudioBufferList list) frame channel = some 0 := by
  have layout := sameLayout_clearAudioBufferList list
  obtain ⟨sample, read⟩ := Option.isSome_iff_exists.mp
    ((isSome_readAudioSample framed frameWithin).mpr channelWithin)
  rw [readAudioSample_eq framed frameWithin channelWithin] at read
  rw [readAudioSample_eq (layout.audioBufferListFrames_eq.trans framed) frameWithin
      (layout.channelCount_eq ▸ channelWithin), layout.slot_eq, sampleAt_clearAudioBufferList, read,
    Option.map_some]

/-- The samples of a frame, for so many channels. -/
def frameOf (list : AudioBufferList ℚ) (channels frame : Nat) : List ℚ :=
  (List.range channels).map fun channel => (readAudioSample list frame channel).getD 0

theorem length_frameOf (list : AudioBufferList ℚ) (channels frame : Nat) :
    (frameOf list channels frame).length = channels := by
  rw [frameOf, List.length_map, List.length_range]

/-- The samples of a list, one frame after the other. -/
def listFrames (frames channels : Nat) (list : AudioBufferList ℚ) : List (List ℚ) :=
  (List.range frames).map (frameOf list channels)

/-- Reading and adding share one slot for each frame and channel, and the frames
and channels of a list are one to one with the slots of its buffers. -/
theorem buffer_list_addressing [Add α] {list : AudioBufferList α} {frames channels : Nat}
    (framed : audioBufferListFrames list = some frames)
    (counted : audioBufferListChannels list = some channels) :
    Set.BijOn (sampleSlot list.buffers) {place | place.1 < frames ∧ place.2 < channels}
        (slotsInBytes list.buffers) ∧
      ∀ frame channel,
        (frame < frames ∧ channel < channels →
          (∃ sample,
            sampleAt list.buffers (sampleSlot list.buffers (frame, channel)) = some sample ∧
            readAudioSample list frame channel = some sample) ∧
          ∀ value, ∃ other, addAudioSample list frame channel value = some (true, other) ∧
            SameLayout list.buffers other.buffers ∧
            ∀ place, sampleAt other.buffers place =
              if place = sampleSlot list.buffers (frame, channel) then
                (sampleAt list.buffers place).map (· + value)
              else sampleAt list.buffers place) ∧
        (frames ≤ frame ∨ channels ≤ channel →
          readAudioSample list frame channel = none ∧
          ∀ value, addAudioSample list frame channel value = some (false, list)) := by
  rw [audioBufferListChannels_eq] at counted
  obtain rfl := Option.some.inj counted
  refine ⟨bijOn_slot (hasFrames_of_audioBufferListFrames framed), fun frame channel =>
    ⟨?_, fun past => ⟨readAudioSample_past framed past, addAudioSample_past framed past⟩⟩⟩
  rintro ⟨frameWithin, channelWithin⟩
  refine ⟨?_, fun value => ?_⟩
  · obtain ⟨sample, read⟩ := Option.isSome_iff_exists.mp
      ((isSome_readAudioSample framed frameWithin).mpr channelWithin)
    exact ⟨sample, (readAudioSample_eq framed frameWithin channelWithin).symm.trans read, read⟩
  · obtain ⟨other, added, rest⟩ := addAudioSample_eq framed frameWithin channelWithin value
    refine ⟨other, added, rest ▸ sameLayout_modifySample _ _ _, fun place => ?_⟩
    rw [rest, sampleAt_modifySample]

/-- A stereo buffer and a mono buffer, of two frames. -/
def mixedLayout : AudioBufferList Nat where
  buffers :=
    [{ numberChannels := 2, dataByteSize := 16, data := some [1, 2, 3, 4],
       sized := fun _ same => Option.some.inj same ▸ rfl },
     { numberChannels := 1, dataByteSize := 8, data := some [5, 6],
       sized := fun _ same => Option.some.inj same ▸ rfl }]
  counted := by decide

theorem mixedLayout_addressing :
    Set.BijOn (sampleSlot mixedLayout.buffers) {place | place.1 < 2 ∧ place.2 < 3}
        (slotsInBytes mixedLayout.buffers) ∧
      sampleSlot mixedLayout.buffers (1, 2) = (1, 1) ∧ readAudioSample mixedLayout 1 2 = some 6 ∧
      addAudioSample mixedLayout 2 0 7 = some (false, mixedLayout) :=
  have addressing := @buffer_list_addressing Nat _ mixedLayout 2 3 (by decide) (by decide)
  ⟨addressing.1, rfl, by decide, ((addressing.2 2 0).2 (Or.inl le_rfl)).2 7⟩

end VCable
