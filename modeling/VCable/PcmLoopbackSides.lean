import VCable.LoopbackRuns
import VCable.PcmCapture

/-!
# The two sides of a loopback device

What lies between a playback and a capture stream of the same device: the
buffers of the host, the frames that the driver keeps, and the frames of a
capture callback that come to the ring one by one, while the process reads.
-/

namespace VCable

open FrameStreams

/-! ## Buffers of the host -/

/-- A list of one interleaved buffer. -/
def interleavedList (channels : UInt32) (samples : List ℚ) : AudioBufferList ℚ where
  buffers :=
    [{ numberChannels := channels
       dataByteSize := UInt32.ofNat (4 * samples.length)
       data := some (samples.take ((UInt32.ofNat (4 * samples.length)).toNat / 4))
       sized := by
         rintro _ ⟨⟩
         have wrapped : (UInt32.ofNat (4 * samples.length)).toNat ≤ 4 * samples.length := by
           rw [UInt32.toNat_ofNat']
           exact Nat.mod_le _ _
         rw [List.length_take]
         omega }]
  counted := Nat.one_lt_two_pow (by decide)

section Lists

variable {channels : UInt32} {samples : List ℚ} {count : Nat}

theorem interleavedList_frames (positive : channels ≠ 0)
    (length : samples.length = count * channels.toNat) (small : 4 * samples.length < 2 ^ 32) :
    fittingFrames channels.toNat (some (interleavedList channels samples)) = some count ∧
      listFrames count channels.toNat (interleavedList channels samples) =
        frames channels.toNat samples := by
  have channelsPos : 0 < channels.toNat :=
    Nat.pos_of_ne_zero fun none => positive (UInt32.toNat_inj.mp none)
  have size : (UInt32.ofNat (4 * samples.length)).toNat = 4 * samples.length := by
    rw [UInt32.toNat_ofNat', Nat.mod_eq_of_lt small]
  have wide : channelCount (interleavedList channels samples).buffers = channels.toNat :=
    Nat.add_zero _
  have framed : audioBufferListFrames (interleavedList channels samples) = some count := by
    have bytes : 4 * samples.length = count * (channels.toNat * 4) := by
      rw [length]
      ring
    have unwrapped : 4 * samples.length % 4294967296 = 4 * samples.length :=
      Nat.mod_eq_of_lt small
    have whole : 4 * samples.length % (channels.toNat * 4) = 0 := by
      rw [bytes, Nat.mul_mod_left]
    have quotient : 4 * samples.length / (channels.toNat * 4) = count := by
      rw [bytes, Nat.mul_div_cancel _ (by omega)]
    simp [audioBufferListFrames, interleavedList, audioBufferListFramesFrom, positive, unwrapped,
      whole, quotient]
  refine ⟨?_, ?_⟩
  · rw [fittingFrames, Option.bind_some, audioBufferListChannels_eq, wide, if_pos rfl, framed]
  · rw [frames, length, Nat.mul_div_cancel _ channelsPos, listFrames]
    refine List.map_congr_left fun frame within => ?_
    have frameWithin := List.mem_range.mp within
    have inside : (frame + 1) * channels.toNat ≤ samples.length := by
      rw [length]
      exact Nat.mul_le_mul_right _ frameWithin
    refine List.ext_getElem ?_ fun channel early _ => ?_
    · rw [length_frameOf, length_frameAt inside]
    · rw [length_frameOf] at early
      simp only [frameOf, List.getElem_map, List.getElem_range]
      rw [readAudioSample_eq framed frameWithin (wide ▸ early)]
      have place : frame * channels.toNat + channel < samples.length := by
        rw [Nat.succ_mul] at inside
        omega
      have slot : sampleSlot (interleavedList channels samples).buffers (frame, channel) =
          (0, frame * channels.toNat + channel) := slot_own early
      have sample : sampleAt (interleavedList channels samples).buffers
          (0, frame * channels.toNat + channel) =
          (samples.take ((UInt32.ofNat (4 * samples.length)).toNat / 4))[
            frame * channels.toNat + channel]? := rfl
      rw [slot, sample, size, Nat.mul_div_cancel_left _ (by decide), List.take_length]
      simp [frameAt, place]

end Lists

/-! ## Frames of the driver -/

/-- The log of a device that was written frame by frame, from a position on. -/
def loggedFrames (start : Nat) (bits : List (List UInt32)) : List WrittenFrame :=
  (bits.mapIdx fun index samples => ⟨UInt64.ofNat (start + index), samples⟩).reverse

theorem loggedFrames_append (start : Nat) (bits : List (List UInt32)) (samples : List UInt32) :
    loggedFrames start (bits ++ [samples]) =
      ⟨UInt64.ofNat (start + bits.length), samples⟩ :: loggedFrames start bits := by
  rw [loggedFrames, List.mapIdx_concat, List.reverse_append, List.reverse_singleton, loggedFrames]
  rfl

/-- A call of `Write` with consecutive frames. -/
theorem logFrames_loggedFrames {channels start : Nat} {bits more : List (List UInt32)}
    (sizes : ∀ samples ∈ more, samples.length = channels) :
    logFrames channels (UInt64.ofNat (start + bits.length)) more.flatten (loggedFrames start bits)
      more.length = loggedFrames start (bits ++ more) := by
  have passes : ∀ count ≤ more.length,
      logFrames channels (UInt64.ofNat (start + bits.length)) more.flatten
        (loggedFrames start bits) count = loggedFrames start (bits ++ more.take count) := by
    intro count
    induction count with
    | zero =>
        intro _
        rw [List.take_zero, List.append_nil]
        rfl
    | succ count ih =>
        intro few
        have within : count < more.length := few
        have frame : frameSamples channels more.flatten count = more[count] :=
          frameAt_flatten sizes within
        rw [List.take_succ_eq_append_getElem within, ← List.append_assoc, loggedFrames_append,
          ← ih (Nat.le_of_succ_le few), logFrames, List.range_succ, List.foldl_append]
        refine congrArg₂ List.cons ?_ rfl
        rw [frame, List.length_append, List.length_take, min_eq_left within.le, ← UInt64.ofNat_add,
          Nat.add_assoc]
  rw [passes more.length le_rfl, List.take_length]

/-- The frame that the ring has for a position which is not written over. -/
theorem latest_loggedFrames {start source : Nat} {bits : List (List UInt32)}
    (written : source < start + bits.length) (kept : start + bits.length ≤ source + kRingFrames)
    (noWrap : start + bits.length < 2 ^ 64) :
    latest (loggedFrames start bits) (source % kRingFrames) =
      if start ≤ source then
        (bits[source - start]?).map fun samples => ⟨UInt64.ofNat source, samples⟩
      else none := by
  have ringFrames : kRingFrames = 65536 := rfl
  induction bits using List.reverseRecOn with
  | nil => rw [if_neg (by simpa using written)]; rfl
  | append_singleton bits samples ih =>
      rw [List.length_append, List.length_singleton] at written kept noWrap
      have position : (UInt64.ofNat (start + bits.length)).toNat = start + bits.length := by
        rw [UInt64.toNat_ofNat', Nat.mod_eq_of_lt (by omega)]
      rw [loggedFrames_append, latest_cons, position]
      rcases Nat.lt_succ_iff_lt_or_eq.mp
          (show source < (start + bits.length) + 1 by omega) with earlier | rfl
      · have different : (start + bits.length) % kRingFrames ≠ source % kRingFrames := by
          rw [ringFrames] at kept ⊢
          omega
        rw [if_neg different, ih earlier (by omega) (by omega)]
        by_cases late : start ≤ source
        · rw [if_pos late, if_pos late, List.getElem?_append_left (by omega)]
        · rw [if_neg late, if_neg late]
      · rw [if_pos rfl, if_pos (Nat.le_add_right _ _), Nat.add_sub_cancel_left,
          List.getElem?_concat_length]
        rfl

/-- The frame that the input side has at a position, the latency after it was
written. -/
def playedAt (start : Nat) (bits : List (List UInt32)) (position : Nat) : List UInt32 :=
  if start + 512 ≤ position then bits.getD (position - 512 - start) [] else []

theorem heard_loggedFrames {start position : Nat} {bits : List (List UInt32)} {device : Loopback}
    (sameChannels : device.inputChannels = device.outputChannels)
    (written : position < start + bits.length + 512)
    (kept : start + bits.length + 512 ≤ position + kRingFrames)
    (noWrap : start + bits.length + 512 < 2 ^ 64) {channel : Nat}
    (within : channel < device.inputChannels.toNat) :
    (heard (loggedFrames start bits) true (UInt64.ofNat position)).sample device channel =
      (playedAt start bits position).getD channel 0 := by
  have narrow : channel < min device.inputChannels.toNat device.outputChannels.toNat := by
    rw [← sameChannels, min_self]
    exact within
  have latency : kLoopbackLatencyFrames.toNat = 512 := rfl
  have placed : (UInt64.ofNat position).toNat = position := by
    rw [UInt64.toNat_ofNat', Nat.mod_eq_of_lt (by omega)]
  rw [heard, playedAt]
  by_cases early : position < 512
  · have before : UInt64.ofNat position < kLoopbackLatencyFrames := by
      rw [UInt64.lt_iff_toNat_lt, placed, latency]
      exact early
    rw [if_pos (Or.inr before), if_neg (by omega)]
    rfl
  · have notBefore : ¬ (true = false ∨ UInt64.ofNat position < kLoopbackLatencyFrames) := by
      rw [UInt64.lt_iff_toNat_lt, placed, latency]
      exact not_or.mpr ⟨by decide, early⟩
    have source : (UInt64.ofNat position - kLoopbackLatencyFrames).toNat = position - 512 := by
      rw [UInt64.toNat_sub_of_le, placed, latency]
      rw [UInt64.le_iff_toNat_le, placed, latency]
      omega
    have sourceEq :
        UInt64.ofNat position - kLoopbackLatencyFrames = UInt64.ofNat (position - 512) := by
      rw [← source, UInt64.ofNat_toNat]
    have found := @latest_loggedFrames start (position - 512) bits (by omega) (by omega) (by omega)
    rw [if_neg notBefore]
    dsimp only
    rw [source, found, sourceEq]
    by_cases late : start ≤ position - 512
    · have present : position - 512 - start < bits.length := by omega
      rw [if_pos late, if_pos (by omega), List.getElem?_eq_getElem present, Option.map_some,
        List.getD_eq_getElem _ _ present]
      dsimp only
      rw [if_pos rfl]
      exact if_pos narrow
    · rw [if_neg late, if_neg (by omega)]
      rfl

/-- A call of `Read` for positions that have been written, or that come before
the first one. -/
theorem Tracks.read_loggedFrames {run : LoopbackRun} (tracks : Tracks run) {start inputTime : Nat}
    {bits : List (List UInt32)} (logged : run.log = loggedFrames start bits)
    (active : run.device.inputActive = true)
    (sameChannels : run.device.inputChannels = run.device.outputChannels) {count : UInt32}
    (written : inputTime + count.toNat ≤ start + bits.length + 512)
    (kept : start + bits.length + 512 ≤ inputTime + kRingFrames)
    (noWrap : start + bits.length + 512 < 2 ^ 64) :
    ∃ played underruns, run.device.read (UInt64.ofNat inputTime) count
        (some (List.replicate (count.toNat * run.device.inputChannels.toNat) 0)) =
          some (run.device.addUnderruns underruns, some played) ∧
      played.length = count.toNat * run.device.inputChannels.toNat ∧
      ∀ frame < count.toNat, ∀ channel < run.device.inputChannels.toNat,
        played[frame * run.device.inputChannels.toNat + channel]? =
          some ((playedAt start bits (inputTime + frame)).getD channel 0) := by
  have placed : (UInt64.ofNat inputTime).toNat = inputTime := by
    rw [UInt64.toNat_ofNat', Nat.mod_eq_of_lt (by omega)]
  obtain ⟨played, taken, upTo⟩ := @Tracks.read run tracks (UInt64.ofNat inputTime) count
    (List.replicate (count.toNat * run.device.inputChannels.toNat) 0) (by
      refine ⟨by omega, ?_⟩
      rintro _ ⟨⟩
      exact List.length_replicate.ge)
  refine ⟨played, _, taken, upTo.length.trans List.length_replicate, ?_⟩
  intro frame early channel within
  rw [upTo.sample frame early channel within, if_pos early, active, logged,
    ← UInt64.ofNat_add, heard_loggedFrames sameChannels (by omega) (by omega) noWrap within]

/-! ## Frames that arrive in a call of the reader -/

namespace PcmCall

/-- A relation that the parts of a call of `next_frame` have: looks at the ring,
pops and changes of the resampler. -/
structure Composes (related : PcmCall → PcmCall → Prop) : Prop where
  refl : ∀ call, related call call
  trans : ∀ {first second third}, related first second → related second third →
    related first third
  look : ∀ call, related call call.look
  pop : ∀ (call : PcmCall) (count : Nat), related call
    { call with ring := { call.ring with samples := call.ring.samples.drop count } }
  resample : ∀ (call : PcmCall) (resampler : RingResampler), related call
    { call with resampler := resampler }

namespace Composes

variable {related : PcmCall → PcmCall → Prop} (composes : Composes related)

include composes

theorem popFrame (next : Bool) (call : PcmCall) : related call (call.popFrame next).2 := by
  rcases popFrame_cases next call with ⟨_, popped⟩ | ⟨_, popped⟩
  · rw [popped]
    exact composes.look call
  · rw [popped]
    exact composes.trans (composes.look call)
      (composes.trans (composes.pop call.look call.look.resampler.channels)
        (composes.resample _ _))

theorem shift (call : PcmCall) : related call call.shift :=
  composes.trans (composes.resample call _)
    (composes.trans (composes.popFrame true _) (composes.resample _ _))

theorem advance (call : PcmCall) : related call call.advance := by
  have passes : ∀ (count : Nat) (call : PcmCall), related call (call.shifts count) := by
    intro count
    induction count with
    | zero => exact composes.refl
    | succ count ih =>
        intro call
        rw [shifts]
        split
        · exact composes.trans (composes.shift call) (ih call.shift)
        · exact composes.refl call
  exact passes _ call

theorem prime (call : PcmCall) : related call call.prime.2 := by
  unfold PcmCall.prime
  split
  · exact composes.refl call
  · dsimp only
    split
    · exact composes.look call
    · exact composes.trans (composes.look call) (composes.resample _ _)

theorem fillCurrent (call : PcmCall) : related call call.fillCurrent.2 := by
  have popped := composes.popFrame false call
  unfold PcmCall.fillCurrent
  split
  · exact composes.refl call
  · split <;> rename_i result
    · rw [result] at popped
      exact composes.trans popped (composes.resample _ _)
    · rw [result] at popped
      exact composes.trans popped (composes.resample _ _)

theorem fillNext (call : PcmCall) : related call call.fillNext.2 := by
  have popped := composes.popFrame true call
  unfold PcmCall.fillNext
  split
  · exact composes.refl call
  · split <;> rename_i result
    · rw [result] at popped
      exact composes.trans popped (composes.resample _ _)
    · rw [result] at popped
      exact composes.trans popped (composes.resample _ _)

theorem finish (call : PcmCall) : related call call.finish := by
  unfold PcmCall.finish
  split
  · exact composes.refl call
  · exact composes.resample call _

theorem prepareNextFrame (call : PcmCall) : related call call.prepareNextFrame.2 := by
  unfold PcmCall.prepareNextFrame
  have primed := composes.prime call
  generalize call.prime = prime at primed ⊢
  obtain ⟨_ | _, priming⟩ := prime
  · exact primed
  have current := composes.fillCurrent priming
  dsimp only
  generalize priming.fillCurrent = fill at current ⊢
  obtain ⟨_ | _, filling⟩ := fill
  · exact composes.trans primed current
  have next := composes.fillNext filling
  dsimp only
  generalize filling.fillNext = fill at next ⊢
  obtain ⟨_ | _, filled⟩ := fill
  · exact composes.trans primed (composes.trans current next)
  · have interpolated : related filled filled.interpolate.2 :=
      composes.trans (composes.look filled) (composes.resample _ _)
    exact composes.trans primed (composes.trans current (composes.trans next
      (composes.trans interpolated (composes.trans (composes.advance _) (composes.finish _)))))

end Composes

end PcmCall

/-- The samples that a write is made with. -/
def PcmWrite.offeredSamples (channels : Nat) : PcmWrite → List ℚ
  | .interleaved pcm => pcm
  | .captured scratch => (List.range channels).map scratch

/-- The write of a frame of a capture callback. -/
def capturedWrite (frame : List ℚ) : PcmWrite :=
  .captured fun channel => frame.getD channel 0

theorem offeredSamples_capturedWrite {frame : List ℚ} {channels : Nat}
    (size : frame.length = channels) : (capturedWrite frame).offeredSamples channels = frame := by
  refine List.ext_getElem (by simp [capturedWrite, PcmWrite.offeredSamples, size]) ?_
  intro channel early within
  simp [capturedWrite, PcmWrite.offeredSamples, within]

theorem flatMap_offeredSamples {frames : List (List ℚ)} {channels : Nat}
    (sizes : ∀ frame ∈ frames, frame.length = channels) :
    (frames.map capturedWrite).flatMap (PcmWrite.offeredSamples channels) = frames.flatten := by
  rw [List.flatMap_def, List.map_map]
  exact congrArg List.flatten ((List.map_congr_left fun frame member =>
    offeredSamples_capturedWrite (sizes frame member)).trans (List.map_id frames))

/-- Frames for which there is place all come to the ring. -/
theorem foldl_captured {producer : PcmProducer} (fits : producer.Fits) {writes : List PcmWrite}
    (captured : ∀ write ∈ writes, ∃ frame, write = capturedWrite frame) {ring : PcmRing}
    (room : ring.samples.length + writes.length * producer.channels ≤
      producer.logicalCapacitySamples) :
    writes.foldl (PcmWrite.apply producer) ring =
      { samples := ring.samples ++ writes.flatMap (PcmWrite.offeredSamples producer.channels)
        accepted :=
          ring.accepted ++ writes.flatMap (PcmWrite.offeredSamples producer.channels) } := by
  induction writes generalizing ring with
  | nil => simp
  | cons write writes ih =>
      obtain ⟨⟨frame, rfl⟩, rest⟩ := List.forall_mem_cons.mp captured
      rw [List.length_cons, Nat.succ_mul] at room
      have logical := fits.logical_le
      have size : ((capturedWrite frame).offeredSamples producer.channels).length =
          producer.channels := by
        rw [capturedWrite, PcmWrite.offeredSamples, List.length_map, List.length_range]
      have place : producer.hasCapacityForFrame ring = true := by
        rw [PcmProducer.hasCapacityForFrame, PcmProducer.available, decide_eq_true_iff]
        omega
      have pushed : (capturedWrite frame).apply producer ring =
          { samples := ring.samples ++ (capturedWrite frame).offeredSamples producer.channels
            accepted :=
              ring.accepted ++ (capturedWrite frame).offeredSamples producer.channels } := by
        refine Eq.trans (if_pos place) (pushSlice_of_fits ?_)
        rw [List.length_map, List.length_range]
        omega
      rw [List.foldl_cons, pushed, ih rest (by
        rw [List.length_append, size]
        omega), List.flatMap_cons, List.append_assoc, List.append_assoc]

namespace PcmCall

/-- There is place in the ring for all frames that may arrive. -/
structure Room (call : PcmCall) : Prop where
  fits : call.producer.Fits
  captured : ∀ write ∈ call.arriving.flatten, ∃ frame, write = capturedWrite frame
  room : call.ring.samples.length + call.arriving.flatten.length * call.producer.channels ≤
    call.producer.logicalCapacitySamples

/-- The frames that have arrived since an earlier moment of a call. -/
structure Arrived (call later : PcmCall) (consumed : List (List PcmWrite)) : Prop where
  producer_eq : later.producer = call.producer
  arriving_eq : call.arriving = consumed ++ later.arriving
  accepted_eq : later.ring.accepted = call.ring.accepted ++
    consumed.flatten.flatMap (PcmWrite.offeredSamples call.producer.channels)
  length_le : later.ring.samples.length ≤
    call.ring.samples.length + consumed.flatten.length * call.producer.channels

theorem Arrived.room {call later : PcmCall} {consumed : List (List PcmWrite)}
    (arrived : call.Arrived later consumed) (room : call.Room) : later.Room := by
  have captured := room.captured
  have within := room.room
  rw [arrived.arriving_eq, List.flatten_append] at captured within
  rw [List.length_append, Nat.add_mul] at within
  refine ⟨arrived.producer_eq ▸ room.fits,
    fun write member => captured write (List.mem_append_right _ member), ?_⟩
  rw [arrived.producer_eq]
  have grown := arrived.length_le
  omega

theorem composes_arrived : Composes fun call later =>
    call.Room → ∃ consumed, call.Arrived later consumed where
  refl call _ := ⟨[], rfl, rfl, (List.append_nil _).symm, Nat.le_add_right _ _⟩
  trans := by
    intro first second third one other room
    obtain ⟨consumed, arrived⟩ := one room
    obtain ⟨more, later⟩ := other (arrived.room room)
    refine ⟨consumed ++ more, later.producer_eq.trans arrived.producer_eq, ?_, ?_, ?_⟩
    · rw [arrived.arriving_eq, later.arriving_eq, List.append_assoc]
    · rw [later.accepted_eq, arrived.accepted_eq, arrived.producer_eq, List.flatten_append,
        List.flatMap_append, List.append_assoc]
    · have step := later.length_le
      have before := arrived.length_le
      rw [arrived.producer_eq] at step
      rw [List.flatten_append, List.length_append, Nat.add_mul]
      omega
  look call room := by
    unfold PcmCall.look
    split
    · exact ⟨[], rfl, rfl, (List.append_nil _).symm, Nat.le_add_right _ _⟩
    · rename_i writes arriving arrivingEq
      have captured := room.captured
      have within := room.room
      rw [arrivingEq, List.flatten_cons] at captured within
      rw [List.length_append, Nat.add_mul] at within
      have folded := foldl_captured room.fits
        (fun write member => captured write (List.mem_append_left _ member))
        (show call.ring.samples.length + writes.length * call.producer.channels ≤
          call.producer.logicalCapacitySamples by omega)
      refine ⟨[writes], rfl, arrivingEq, ?_, ?_⟩
      · rw [List.flatten_singleton]
        dsimp only
        rw [folded]
      · rw [List.flatten_singleton]
        dsimp only
        rw [folded, List.length_append]
        refine Nat.add_le_add_left (le_of_eq ?_) _
        have sizes : ∀ write ∈ writes,
            (write.offeredSamples call.producer.channels).length = call.producer.channels := by
          intro write member
          obtain ⟨frame, rfl⟩ := captured write (List.mem_append_left _ member)
          rw [capturedWrite, PcmWrite.offeredSamples, List.length_map, List.length_range]
        rw [List.flatMap_def, @length_flatten_of_sizes ℚ _ call.producer.channels ?_,
          List.length_map]
        rintro _ member
        obtain ⟨write, among, rfl⟩ := List.mem_map.mp member
        exact sizes write among
  pop call count _ := by
    refine ⟨[], rfl, rfl, (List.append_nil _).symm, ?_⟩
    exact ((List.drop_suffix count _).length_le).trans (Nat.le_add_right _ _)
  resample call _ _ := ⟨[], rfl, rfl, (List.append_nil _).symm, Nat.le_add_right _ _⟩

end PcmCall

/-! ## Samples that a stream holds -/

theorem mem_pushSlice {producer : PcmProducer} {pcm : List ℚ} {ring : PcmRing} {sample : ℚ}
    (member : sample ∈ (producer.pushSlice pcm ring).accepted) :
    sample ∈ ring.accepted ∨ sample ∈ pcm := by
  rcases List.mem_append.mp member with earlier | fresh
  · exact Or.inl earlier
  · exact Or.inr (List.mem_of_mem_take fresh)

/-- Samples come to the ring from the writes only. -/
theorem mem_accepted_apply {producer : PcmProducer} {ring : PcmRing} {write : PcmWrite} {sample : ℚ}
    (member : sample ∈ (write.apply producer ring).accepted) :
    sample ∈ ring.accepted ∨ sample ∈ write.offeredSamples producer.channels := by
  cases write with
  | interleaved pcm =>
      rw [PcmWrite.apply, PcmProducer.tryWriteInterleaved] at member
      split at member
      · exact Or.inl member
      · dsimp only at member
        split at member
        · exact Or.inl member
        · exact mem_pushSlice member
  | captured scratch =>
      rw [PcmWrite.apply, PcmProducer.captureFrame] at member
      split at member
      · exact mem_pushSlice member
      · exact Or.inl member

/-- All samples in the ring of a call, and all that may come to it, are of a kind. -/
structure PcmCall.Holding (kind : ℚ → Prop) (call : PcmCall) : Prop where
  accepted : ∀ sample ∈ call.ring.accepted, kind sample
  arriving : ∀ write ∈ call.arriving.flatten,
    ∀ sample ∈ write.offeredSamples call.producer.channels, kind sample

theorem PcmCall.composes_holding (kind : ℚ → Prop) : Composes fun call later =>
    later.producer = call.producer ∧ (call.Holding kind → later.Holding kind) where
  refl _ := ⟨rfl, id⟩
  trans one other := ⟨other.1.trans one.1, fun holding => other.2 (one.2 holding)⟩
  look call := by
    unfold PcmCall.look
    split
    · exact ⟨rfl, id⟩
    · rename_i writes arriving arrivingEq
      refine ⟨rfl, fun holding => ?_⟩
      have offered := holding.arriving
      rw [arrivingEq, List.flatten_cons] at offered
      refine ⟨?_, fun write member => offered write (List.mem_append_right _ member)⟩
      have passes : ∀ (batch : List PcmWrite) (ring : PcmRing),
          (∀ write ∈ batch, ∀ sample ∈ write.offeredSamples call.producer.channels, kind sample) →
          (∀ sample ∈ ring.accepted, kind sample) →
          ∀ sample ∈ (batch.foldl (PcmWrite.apply call.producer) ring).accepted, kind sample := by
        intro batch
        induction batch with
        | nil => exact fun _ _ held => held
        | cons write batch ih =>
            intro ring offered held
            rw [List.forall_mem_cons] at offered
            refine ih _ offered.2 fun sample member => ?_
            rcases mem_accepted_apply member with earlier | fresh
            · exact held sample earlier
            · exact offered.1 sample fresh
      exact passes writes call.ring (fun write member => offered write
        (List.mem_append_left _ member)) holding.accepted
  pop _ _ := ⟨rfl, fun holding => ⟨holding.accepted, holding.arriving⟩⟩
  resample _ _ := ⟨rfl, fun holding => ⟨holding.accepted, holding.arriving⟩⟩

/-- The calls of a callback keep the kind of the samples. -/
theorem PcmStream.holding_nextCall {kind : ℚ → Prop}
    {coming : PcmStream × List (List PcmWrite)} (holding : (coming.1.call coming.2).Holding kind)
    (count : Nat) :
    ((nextCall^[count] coming).1.call (nextCall^[count] coming).2).Holding kind := by
  induction count with
  | zero => exact holding
  | succ count ih =>
      rw [Function.iterate_succ_apply']
      obtain ⟨producerEq, keeps⟩ := (PcmCall.composes_holding kind).prepareNextFrame
        ((nextCall^[count] coming).1.call (nextCall^[count] coming).2)
      have later := keeps ih
      refine ⟨later.accepted, fun write member => ?_⟩
      have offered := later.arriving write member
      rw [producerEq] at offered
      exact offered

end VCable
