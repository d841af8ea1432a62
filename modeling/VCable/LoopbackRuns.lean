import VCable.LoopbackRing
import Mathlib.Algebra.Group.Nat.Defs

/-!
# What the loopback ring plays back

Over any sequence of writes, reads and changes of the two switches, a position
of the ring belongs to the frame written to it last.  A read plays exactly the
frames whose position is still theirs, and counts the others as underruns.
-/

namespace VCable

open FilledLists

/-! ## Runs -/

/-- A frame that was written while the output side was active. -/
structure WrittenFrame where
  position : UInt64
  samples : List UInt32
  deriving DecidableEq

/-- A device with the frames written since its tags were cleared, the newest
one first. -/
structure LoopbackRun where
  device : Loopback
  log : List WrittenFrame

inductive LoopbackAction where
  | write (sampleTime : UInt64) (frames : UInt32) (input : Option (List UInt32))
  | read (sampleTime : UInt64) (frames : UInt32) (output : Option (List UInt32))
  | setInputActive (active : Bool)
  | setOutputActive (active : Bool)
  | clearTags

/-- One frame of an interleaved buffer. -/
def frameSamples (channels : Nat) (input : List UInt32) (frame : Nat) : List UInt32 :=
  (input.drop (frame * channels)).take channels

/-- The frames of a buffer that starts at a position, on top of earlier ones. -/
def logFrames (channels : Nat) (sampleTime : UInt64) (input : List UInt32)
    (log : List WrittenFrame) (frames : Nat) : List WrittenFrame :=
  (List.range frames).foldl
    (fun log frame =>
      ⟨sampleTime + UInt64.ofNat frame, frameSamples channels input frame⟩ :: log) log

namespace LoopbackRun

/-- The frames written so far, after a call of `Write`. -/
def logAfter (run : LoopbackRun) (sampleTime : UInt64) (frames : UInt32)
    (input : Option (List UInt32)) : List WrittenFrame :=
  match input with
  | none => run.log
  | some input =>
      if run.device.outputActive then
        logFrames run.device.outputChannels.toNat sampleTime input run.log frames.toNat
      else run.log

def step (run : LoopbackRun) : LoopbackAction → Option LoopbackRun
  | .write sampleTime frames input =>
      (run.device.write sampleTime frames input).map fun device =>
        { device := device, log := run.logAfter sampleTime frames input }
  | .read sampleTime frames output =>
      (run.device.read sampleTime frames output).map fun result => { run with device := result.1 }
  | .setInputActive active => some { run with device := { run.device with inputActive := active } }
  | .setOutputActive active =>
      some { run with device := { run.device with outputActive := active } }
  | .clearTags => some { device := run.device.clearTags, log := [] }

def run (start : LoopbackRun) (actions : List LoopbackAction) : Option LoopbackRun :=
  actions.foldlM step start

end LoopbackRun

/-- The buffer of a call holds its frames, and its sample times do not wrap. -/
def LoopbackAction.Admissible (device : Loopback) : LoopbackAction → Prop
  | .write sampleTime frames input => sampleTime.toNat + frames.toNat < 2 ^ 64 ∧
      ∀ pcm ∈ input, frames.toNat * device.outputChannels.toNat ≤ pcm.length
  | .read sampleTime frames output => sampleTime.toNat + frames.toNat < 2 ^ 64 ∧
      ∀ pcm ∈ output, frames.toNat * device.inputChannels.toNat ≤ pcm.length
  | _ => True

/-! ## What is heard -/

/-- The frame that was written last to a position of the ring. -/
def latest (log : List WrittenFrame) (ringFrame : Nat) : Option WrittenFrame :=
  log.find? fun written => written.position.toNat % kRingFrames = ringFrame

/-- What a frame of a read comes to. -/
inductive Heard where
  | silence
  | underrun
  | played (written : WrittenFrame)

/-- The frame heard at a position of the input side: the frame written there,
the latency ago, if the ring still has it. -/
def heard (log : List WrittenFrame) (inputActive : Bool) (position : UInt64) : Heard :=
  if inputActive = false ∨ position < kLoopbackLatencyFrames then .silence
  else
    let source := position - kLoopbackLatencyFrames
    match latest log (source.toNat % kRingFrames) with
    | some written => if written.position = source then .played written else .underrun
    | none => .underrun

/-- The channels that both sides have carry the written samples. -/
def Heard.sample (device : Loopback) : Heard → Nat → UInt32
  | .played written, channel =>
      if channel < min device.inputChannels.toNat device.outputChannels.toNat then
        written.samples.getD channel 0
      else 0
  | .silence, _ => 0
  | .underrun, _ => 0

theorem Heard.sample_congr (hearing : Heard) {device other : Loopback}
    (sameInputs : device.inputChannels = other.inputChannels)
    (sameOutputs : device.outputChannels = other.outputChannels) :
    hearing.sample device = hearing.sample other := by
  funext channel
  cases hearing with
  | silence => rfl
  | underrun => rfl
  | played written => rw [Heard.sample, Heard.sample, sameInputs, sameOutputs]

def Heard.isUnderrun : Heard → Bool
  | .underrun => true
  | _ => false

/-! ## Tags -/

/-- The tag of a position in the ring. -/
def tagOf : Option WrittenFrame → UInt64
  | some written => written.position + 1
  | none => 0

/-- The ring holds, at every position, the tag and the samples of the frame that
was written there last. -/
structure Tracks (run : LoopbackRun) : Prop where
  shaped : run.device.Shaped
  tag : ∀ ringFrame < kRingFrames,
    run.device.tags[ringFrame]? = some (tagOf (latest run.log ringFrame))
  sample : ∀ ringFrame < kRingFrames, ∀ written, latest run.log ringFrame = some written →
    ∀ channel < run.device.sampleStride,
      run.device.samples[ringFrame * run.device.sampleStride + channel]? =
        some (written.samples.getD channel 0)
  bounded : ∀ written ∈ run.log, written.position.toNat + 1 < 2 ^ 64

theorem tracks_clearTags {device : Loopback} (shaped : device.Shaped) :
    Tracks ⟨device.clearTags, []⟩ where
  shaped := ⟨shaped.samples_length, List.length_replicate⟩
  tag := by
    intro ringFrame within
    simp [Loopback.clearTags, latest, tagOf, within]
  sample := nofun
  bounded := nofun

/-- The switches and the count of underruns are no part of the ring. -/
theorem Tracks.of_switches {device : Loopback} {log : List WrittenFrame}
    (tracks : Tracks ⟨device, log⟩) (inputActive outputActive : Bool) (underruns : UInt64) :
    Tracks ⟨{ device with
      inputActive := inputActive
      outputActive := outputActive
      underruns := underruns }, log⟩ :=
  ⟨⟨tracks.shaped.samples_length, tracks.shaped.tags_length⟩, tracks.tag, tracks.sample,
    tracks.bounded⟩

theorem latest_cons (written : WrittenFrame) (log : List WrittenFrame) (ringFrame : Nat) :
    latest (written :: log) ringFrame =
      if written.position.toNat % kRingFrames = ringFrame then some written
      else latest log ringFrame := by
  rw [latest, List.find?_cons]
  by_cases same : written.position.toNat % kRingFrames = ringFrame
  · simp [same]
  · simp [same, latest]

/-! ## Writing -/

theorem getD_frameSamples {channels frame channel : Nat} (input : List UInt32) :
    (frameSamples channels input frame).getD channel 0 =
      if channel < channels then input.getD (frame * channels + channel) 0 else 0 := by
  rw [frameSamples, List.getD_eq_getElem?_getD, List.getElem?_take, List.getElem?_drop,
    List.getD_eq_getElem?_getD]
  split <;> rfl

namespace Loopback

theorem writeSample_eq {device : Loopback} {input : List UInt32} {frame base channel : Nat}
    (present : (frame + 1) * device.outputChannels.toNat ≤ input.length)
    (place : base + channel < device.samples.length) :
    writeSample input frame base device channel =
      some { device with
        samples := device.samples.set (base + channel)
          ((frameSamples device.outputChannels.toNat input frame).getD channel 0) } := by
  have stores : ∀ bits, device.storeSample (base + channel) bits =
      some { device with samples := device.samples.set (base + channel) bits } :=
    fun bits => if_pos place
  rw [writeSample, getD_frameSamples]
  by_cases output : channel < device.outputChannels.toNat
  · have found : frame * device.outputChannels.toNat + channel < input.length := by
      rw [Nat.succ_mul] at present
      omega
    rw [if_pos output, if_pos output, List.getD_eq_getElem?_getD,
      List.getElem?_eq_getElem found]
    exact stores _
  · rw [if_neg output, if_neg output]
    exact stores 0

theorem foldlM_writeSample {device : Loopback} {input : List UInt32} {frame base count : Nat}
    (present : (frame + 1) * device.outputChannels.toNat ≤ input.length)
    (inside : base + count ≤ device.samples.length) :
    (List.range count).foldlM (writeSample input frame base) device =
      some { device with
        samples := fill (fun channel =>
          (frameSamples device.outputChannels.toNat input frame).getD channel 0) base count
            device.samples } := by
  induction count with
  | zero => rfl
  | succ count ih =>
      have last := @writeSample_eq { device with
          samples := fill (fun channel =>
            (frameSamples device.outputChannels.toNat input frame).getD channel 0) base count
              device.samples } input frame base count present (by rw [length_fill]; omega)
      rw [List.range_succ, List.foldlM_append, ih (by omega)]
      change writeSample input frame base _ count >>= pure = _
      rw [last]
      rfl

theorem ringFrame_lt (position : UInt64) : position.toNat % kRingFrames < kRingFrames :=
  Nat.mod_lt _ (by decide)

theorem row_le {ringFrame stride : Nat} (within : ringFrame < kRingFrames) :
    ringFrame * stride + stride ≤ kRingFrames * stride := by
  rw [← Nat.succ_mul]
  exact Nat.mul_le_mul_right stride within

/-- The device after one frame of a write. -/
def afterFrame (device : Loopback) (written : WrittenFrame) : Loopback :=
  let ringFrame := written.position.toNat % kRingFrames
  { device with
    samples := fill (fun channel => written.samples.getD channel 0)
      (ringFrame * device.sampleStride) device.sampleStride device.samples
    tags := device.tags.set ringFrame (written.position + 1) }

theorem writeFrame_eq {device : Loopback} (shaped : device.Shaped) {sampleTime : UInt64}
    {input : List UInt32} {frame : Nat}
    (present : (frame + 1) * device.outputChannels.toNat ≤ input.length) :
    writeFrame sampleTime input device frame = some (device.afterFrame
      ⟨sampleTime + UInt64.ofNat frame,
        frameSamples device.outputChannels.toNat input frame⟩) := by
  have within := ringFrame_lt (sampleTime + UInt64.ofNat frame)
  have inside := @row_le _ device.sampleStride within
  rw [← shaped.samples_length] at inside
  rw [writeFrame, foldlM_writeSample present inside]
  dsimp only
  rw [storeTag, if_pos (by rw [shaped.tags_length]; exact within)]
  rfl

end Loopback

/-- A written frame takes over its position in the ring. -/
theorem Tracks.afterFrame {run : LoopbackRun} (tracks : Tracks run) {written : WrittenFrame}
    (bounded : written.position.toNat + 1 < 2 ^ 64) :
    Tracks ⟨run.device.afterFrame written, written :: run.log⟩ := by
  have within := Loopback.ringFrame_lt written.position
  have inside := @Loopback.row_le _ run.device.sampleStride within
  rw [← tracks.shaped.samples_length] at inside
  refine ⟨⟨?_, ?_⟩, ?_, ?_, ?_⟩
  · exact (length_fill _ _ _ _).trans tracks.shaped.samples_length
  · exact List.length_set.trans tracks.shaped.tags_length
  · intro ringFrame ringWithin
    rw [latest_cons]
    by_cases same : written.position.toNat % kRingFrames = ringFrame
    · subst same
      rw [if_pos rfl]
      exact List.getElem?_set_self (by rw [tracks.shaped.tags_length]; exact within)
    · rw [if_neg same]
      exact (List.getElem?_set_ne same).trans (tracks.tag ringFrame ringWithin)
  · intro ringFrame ringWithin last found channel channelWithin
    have channelWithin : channel < run.device.sampleStride := channelWithin
    change (fill _ _ _ run.device.samples)[ringFrame * run.device.sampleStride + channel]? = _
    rw [latest_cons] at found
    by_cases same : written.position.toNat % kRingFrames = ringFrame
    · rw [if_pos same] at found
      cases found
      rw [← same, getElem?_fill_of_lt inside channelWithin]
    · rw [if_neg same] at found
      have other := row_disjoint channelWithin (Ne.symm same)
      rw [Nat.succ_mul] at other
      rw [getElem?_fill_of_outside inside other]
      exact tracks.sample ringFrame ringWithin last found channel channelWithin
  · intro earlier member
    rcases List.mem_cons.mp member with rfl | old
    · exact bounded
    · exact tracks.bounded earlier old

/-- The positions of the frames of a call do not wrap. -/
theorem toNat_position {sampleTime : UInt64} {frames : UInt32} {frame : Nat}
    (noWrap : sampleTime.toNat + frames.toNat < 2 ^ 64) (within : frame < frames.toNat) :
    (sampleTime + UInt64.ofNat frame).toNat = sampleTime.toNat + frame := by
  rw [UInt64.toNat_add, UInt64.toNat_ofNat', Nat.mod_eq_of_lt (by omega), Nat.mod_eq_of_lt]
  omega

/-- A write puts its frames on top of the log, one after the other. -/
theorem Tracks.write {run : LoopbackRun} (tracks : Tracks run) {sampleTime : UInt64}
    {frames : UInt32} {input : Option (List UInt32)}
    (admissible : (LoopbackAction.write sampleTime frames input).Admissible run.device) :
    ∃ device, run.device.write sampleTime frames input = some device ∧
      Tracks ⟨device, run.logAfter sampleTime frames input⟩ ∧
      device.inputChannels = run.device.inputChannels ∧
      device.outputChannels = run.device.outputChannels := by
  obtain ⟨noWrap, present⟩ := admissible
  cases input with
  | none => exact ⟨run.device, rfl, tracks, rfl, rfl⟩
  | some input =>
      have present := present input rfl
      rw [Loopback.write, LoopbackRun.logAfter]
      by_cases active : run.device.outputActive = true
      · rw [if_pos active, if_pos active]
        have loop : ∀ count ≤ frames.toNat, ∃ device,
            (List.range count).foldlM (Loopback.writeFrame sampleTime input) run.device =
              some device ∧
            Tracks ⟨device, logFrames run.device.outputChannels.toNat sampleTime input run.log
              count⟩ ∧
            device.inputChannels = run.device.inputChannels ∧
            device.outputChannels = run.device.outputChannels := by
          intro count
          induction count with
          | zero => exact fun _ => ⟨run.device, rfl, tracks, rfl, rfl⟩
          | succ count ih =>
              intro few
              obtain ⟨device, written, reached, sameInputs, sameOutputs⟩ := ih (by omega)
              have fitting : (count + 1) * device.outputChannels.toNat ≤ input.length := by
                rw [sameOutputs]
                exact Nat.le_trans (Nat.mul_le_mul_right _ few) present
              have one := @Loopback.writeFrame_eq device reached.shaped sampleTime input count
                fitting
              rw [sameOutputs] at one
              refine ⟨device.afterFrame ⟨sampleTime + UInt64.ofNat count,
                frameSamples run.device.outputChannels.toNat input count⟩, ?_, ?_, sameInputs,
                sameOutputs⟩
              · rw [List.range_succ, List.foldlM_append, written]
                change Loopback.writeFrame sampleTime input device count >>= pure = _
                rw [one]
                rfl
              · rw [logFrames, List.range_succ, List.foldl_append]
                refine reached.afterFrame ?_
                rw [toNat_position noWrap few]
                omega
        exact loop frames.toNat (Nat.le_refl _)
      · rw [if_neg active, if_neg active]
        exact ⟨run.device, rfl, tracks, rfl, rfl⟩

theorem foldlM_view {σ ι β : Type*} {step : σ → ι → Option σ} {view : σ → β}
    (keeps : ∀ state index next, step state index = some next → view next = view state)
    {indices : List ι} {state finish : σ} (taken : indices.foldlM step state = some finish) :
    view finish = view state := by
  induction indices generalizing state with
  | nil =>
      cases taken
      rfl
  | cons index indices ih =>
      rw [List.foldlM_cons] at taken
      obtain ⟨next, one, rest⟩ := Option.bind_eq_some_iff.mp taken
      exact (ih rest).trans (keeps state index next one)

/-- A call of `Write` does not touch the switches. -/
theorem Loopback.switches_write {device later : Loopback} {sampleTime : UInt64} {count : UInt32}
    {input : Option (List UInt32)} (written : device.write sampleTime count input = some later) :
    (later.inputActive, later.outputActive) = (device.inputActive, device.outputActive) := by
  have samples : ∀ (input : List UInt32) (frame base : Nat) (device : Loopback) (channel : Nat)
      (later : Loopback), device.writeSample input frame base channel = some later →
      (later.inputActive, later.outputActive) = (device.inputActive, device.outputActive) := by
    intro input frame base device channel later stored
    unfold Loopback.writeSample Loopback.storeSample at stored
    repeat' split at stored
    all_goals cases stored
    all_goals rfl
  have frames : ∀ (input : List UInt32) (device : Loopback) (frame : Nat) (later : Loopback),
      device.writeFrame sampleTime input frame = some later →
      (later.inputActive, later.outputActive) = (device.inputActive, device.outputActive) := by
    intro input device frame later stored
    rw [Loopback.writeFrame] at stored
    split at stored
    · rename_i middle looped
      unfold Loopback.storeTag at stored
      split at stored
      · cases stored
        have kept := foldlM_view (samples _ _ _) looped
        exact kept
      · cases stored
    · cases stored
  unfold Loopback.write at written
  split at written
  · cases written
    rfl
  · split at written
    · exact foldlM_view (frames _) written
    · cases written
      rfl

/-! ## Reading -/

namespace Loopback

theorem foldlM_readSample {device : Loopback} {frame base count : Nat} {output : List UInt32}
    {values : Nat → UInt32}
    (stored : ∀ channel < count, device.samples[base + channel]? = some (values channel))
    (inside : frame * device.inputChannels.toNat + count ≤ output.length) :
    (List.range count).foldlM (readSample device frame base) output =
      some (fill values (frame * device.inputChannels.toNat) count output) := by
  induction count with
  | zero => rfl
  | succ count ih =>
      have earlier := ih (fun channel within => stored channel (by omega)) (by omega)
      have place : frame * device.inputChannels.toNat + count <
          (fill values (frame * device.inputChannels.toNat) count output).length := by
        rw [length_fill]
        omega
      rw [List.range_succ, List.foldlM_append, earlier]
      change readSample device frame base _ count >>= pure = _
      rw [readSample, stored count (by omega)]
      dsimp only
      rw [if_pos place]
      rfl

/-- The device after some frames of a read were not in the ring. -/
def addUnderruns (device : Loopback) (count : Nat) : Loopback :=
  { device with underruns := device.underruns + UInt64.ofNat count }

theorem addUnderruns_zero (device : Loopback) : device.addUnderruns 0 = device := by
  change { device with underruns := device.underruns + 0 } = device
  rw [UInt64.add_zero]

theorem addUnderruns_add (device : Loopback) (count more : Nat) :
    (device.addUnderruns count).addUnderruns more = device.addUnderruns (count + more) := by
  simp only [addUnderruns, UInt64.ofNat_add, UInt64.add_assoc]

end Loopback

/-- What a frame of a read does to the device and to the output. -/
def Heard.apply (frame : Nat) (reading : Loopback × List UInt32) :
    Heard → Loopback × List UInt32
  | .silence => reading
  | .underrun => ({ reading.1 with underruns := reading.1.underruns + 1 }, reading.2)
  | .played written =>
      (reading.1, fill (fun channel => written.samples.getD channel 0)
        (frame * reading.1.inputChannels.toNat)
          (min reading.1.inputChannels.toNat reading.1.outputChannels.toNat) reading.2)

/-- A tag is that of a position if and only if the frame of that position was
written last. -/
theorem tagOf_latest_eq_iff {log : List WrittenFrame} {source : UInt64}
    (bounded : source.toNat + 1 < 2 ^ 64) {ringFrame : Nat} :
    tagOf (latest log ringFrame) = source + 1 ↔
      ∃ written, latest log ringFrame = some written ∧ written.position = source := by
  cases found : latest log ringFrame with
  | none =>
      refine iff_of_false (fun same => ?_) (by simp)
      have values := congrArg UInt64.toNat same
      rw [tagOf, UInt64.toNat_add, UInt64.toNat_one, Nat.mod_eq_of_lt bounded] at values
      exact absurd values.symm (Nat.succ_ne_zero _)
  | some written =>
      constructor
      · intro same
        exact ⟨written, rfl, (UInt64.add_left_inj _).mp same⟩
      · rintro ⟨_, ⟨⟩, rfl⟩
        rfl

/-- A frame of a read is the frame that is heard there. -/
theorem readFrame_eq {device : Loopback} {log : List WrittenFrame} (tracks : Tracks ⟨device, log⟩)
    {sampleTime : UInt64} {frames : UInt32} {frame : Nat}
    (noWrap : sampleTime.toNat + frames.toNat < 2 ^ 64) (within : frame < frames.toNat)
    {output : List UInt32} (inside : (frame + 1) * device.inputChannels.toNat ≤ output.length) :
    Loopback.readFrame sampleTime (device, output) frame =
      some ((heard log true (sampleTime + UInt64.ofNat frame)).apply frame (device, output)) := by
  have position := toNat_position noWrap within
  rw [Loopback.readFrame, heard]
  dsimp only
  generalize sampleTime + UInt64.ofNat frame = inputFrame at position ⊢
  by_cases early : inputFrame < kLoopbackLatencyFrames
  · rw [if_pos early, if_pos (Or.inr early)]
    rfl
  have late : ¬ (true = false ∨ inputFrame < kLoopbackLatencyFrames) := by
    simpa using early
  have sourceEq := UInt64.toNat_sub_of_le _ _ (UInt64.not_lt.mp early)
  rw [if_neg early, if_neg late]
  generalize inputFrame - kLoopbackLatencyFrames = source at sourceEq ⊢
  have bounded : source.toNat + 1 < 2 ^ 64 := by
    omega
  have ringWithin := Loopback.ringFrame_lt source
  have current := @tagOf_latest_eq_iff log source bounded (source.toNat % kRingFrames)
  have stored := tracks.sample _ ringWithin
  rw [show device.tags[source.toNat % kRingFrames]? = _ from tracks.tag _ ringWithin]
  dsimp only at stored ⊢
  cases found : latest log (source.toNat % kRingFrames) with
  | none =>
      rw [found] at current
      rw [if_pos (mt current.mp nofun)]
      rfl
  | some written =>
      rw [found] at current
      dsimp only
      by_cases same : written.position = source
      · have copied := @Loopback.foldlM_readSample device frame
          (source.toNat % kRingFrames * device.sampleStride)
          (min device.inputChannels.toNat device.outputChannels.toNat) output
          (fun channel => written.samples.getD channel 0)
          (fun channel few => stored written found channel (by rw [Loopback.sampleStride]; omega))
          (by rw [Nat.succ_mul] at inside; omega)
        rw [if_neg (not_not_intro (current.mpr ⟨written, rfl, same⟩)), if_pos same, copied]
        rfl
      · have differs : tagOf (some written) ≠ source + 1 := by
          intro equal
          obtain ⟨_, ⟨⟩, held⟩ := current.mp equal
          exact same held
        rw [if_pos differs, if_neg same]
        rfl

namespace Heard

theorem device_apply (hearing : Heard) (frame : Nat) (reading : Loopback × List UInt32) :
    (hearing.apply frame reading).1 =
      reading.1.addUnderruns (if hearing.isUnderrun then 1 else 0) := by
  cases hearing with
  | silence => exact reading.1.addUnderruns_zero.symm
  | underrun => rfl
  | played written => exact reading.1.addUnderruns_zero.symm

theorem length_apply (hearing : Heard) (frame : Nat) (reading : Loopback × List UInt32) :
    (hearing.apply frame reading).2.length = reading.2.length := by
  cases hearing with
  | silence => rfl
  | underrun => rfl
  | played written => exact length_fill _ _ _ _

/-- What is heard takes the place of a frame of silence. -/
theorem getElem?_apply_self {hearing : Heard} {frame channel : Nat}
    {reading : Loopback × List UInt32}
    (inside : (frame + 1) * reading.1.inputChannels.toNat ≤ reading.2.length)
    (silent : reading.2[frame * reading.1.inputChannels.toNat + channel]? = some 0)
    (within : channel < reading.1.inputChannels.toNat) :
    (hearing.apply frame reading).2[frame * reading.1.inputChannels.toNat + channel]? =
      some (hearing.sample reading.1 channel) := by
  rw [Nat.succ_mul] at inside
  cases hearing with
  | silence => exact silent
  | underrun => exact silent
  | played written =>
      change (fill _ _ _ reading.2)[_]? = some (if _ then _ else _)
      by_cases shared : channel <
          min reading.1.inputChannels.toNat reading.1.outputChannels.toNat
      · rw [if_pos shared, getElem?_fill_of_lt (by omega) shared]
      · rw [if_neg shared, getElem?_fill_of_outside (by omega) (by omega)]
        exact silent

theorem getElem?_apply_of_outside {hearing : Heard} {frame index : Nat}
    {reading : Loopback × List UInt32}
    (inside : (frame + 1) * reading.1.inputChannels.toNat ≤ reading.2.length)
    (outside : index < frame * reading.1.inputChannels.toNat ∨
      (frame + 1) * reading.1.inputChannels.toNat ≤ index) :
    (hearing.apply frame reading).2[index]? = reading.2[index]? := by
  rw [Nat.succ_mul] at inside outside
  cases hearing with
  | silence => rfl
  | underrun => rfl
  | played written => exact getElem?_fill_of_outside (by omega) (by omega)

end Heard

/-! ## Whole runs -/

/-- How many frames of a read are not in the ring. -/
def underrunsOf (log : List WrittenFrame) (inputActive : Bool) (sampleTime : UInt64)
    (frames : Nat) : Nat :=
  (List.range frames).countP fun frame =>
    (heard log inputActive (sampleTime + UInt64.ofNat frame)).isUnderrun

/-- The output of a read after its first frames. -/
structure PlayedUpTo (device : Loopback) (log : List WrittenFrame) (inputActive : Bool)
    (sampleTime : UInt64) (frames count : Nat) (output played : List UInt32) : Prop where
  length : played.length = output.length
  sample : ∀ frame < frames, ∀ channel < device.inputChannels.toNat,
    played[frame * device.inputChannels.toNat + channel]? =
      some (if frame < count then
        (heard log inputActive (sampleTime + UInt64.ofNat frame)).sample device channel else 0)
  rest : ∀ index, frames * device.inputChannels.toNat ≤ index → played[index]? = output[index]?

/-- Only the channels of the device matter. -/
theorem PlayedUpTo.congr {device other : Loopback} {log : List WrittenFrame} {inputActive : Bool}
    {sampleTime : UInt64} {frames count : Nat} {output played : List UInt32}
    (upTo : PlayedUpTo device log inputActive sampleTime frames count output played)
    (sameInputs : device.inputChannels = other.inputChannels)
    (sameOutputs : device.outputChannels = other.outputChannels) :
    PlayedUpTo other log inputActive sampleTime frames count output played where
  length := upTo.length
  sample := by
    intro frame early channel within
    rw [← Heard.sample_congr _ sameInputs sameOutputs, ← sameInputs]
    exact upTo.sample frame early channel (by rwa [sameInputs])
  rest := by
    rw [← sameInputs]
    exact upTo.rest

theorem playedUpTo_cleared {device : Loopback} {log : List WrittenFrame} {inputActive : Bool}
    {sampleTime : UInt64} {frames : Nat} {output : List UInt32}
    (fits : frames * device.inputChannels.toNat ≤ output.length) :
    PlayedUpTo device log inputActive sampleTime frames 0 output
      (List.replicate (frames * device.inputChannels.toNat) 0 ++
        output.drop (frames * device.inputChannels.toNat)) where
  length := by
    rw [List.length_append, List.length_replicate, List.length_drop]
    omega
  sample := by
    intro frame early channel within
    have next := Nat.mul_le_mul_right device.inputChannels.toNat (Nat.succ_le_of_lt early)
    rw [Nat.succ_mul] at next
    rw [List.getElem?_append_left (by rw [List.length_replicate]; omega),
      List.getElem?_replicate, if_pos (by omega), if_neg (Nat.not_lt_zero _)]
  rest := by
    intro index after
    rw [List.getElem?_append_right (by rw [List.length_replicate]; exact after),
      List.length_replicate, List.getElem?_drop, Nat.add_sub_cancel' after]

/-- The read of one more frame. -/
theorem PlayedUpTo.next {device : Loopback} {log : List WrittenFrame} {sampleTime : UInt64}
    {frames count : Nat} {output played : List UInt32} {underruns : Nat}
    (upTo : PlayedUpTo device log true sampleTime frames count output played)
    (more : count < frames) (fits : frames * device.inputChannels.toNat ≤ output.length) :
    PlayedUpTo device log true sampleTime frames (count + 1) output
      ((heard log true (sampleTime + UInt64.ofNat count)).apply count
        (device.addUnderruns underruns, played)).2 := by
  have inside : (count + 1) * device.inputChannels.toNat ≤ played.length := by
    rw [upTo.length]
    exact Nat.le_trans (Nat.mul_le_mul_right _ more) fits
  refine ⟨?_, ?_, ?_⟩
  · rw [Heard.length_apply]
    exact upTo.length
  · intro frame early channel within
    have before := upTo.sample frame early channel within
    by_cases same : frame = count
    · subst same
      rw [if_neg (Nat.lt_irrefl _)] at before
      rw [if_pos (Nat.lt_succ_self _)]
      exact @Heard.getElem?_apply_self _ _ _ (device.addUnderruns underruns, played) inside before
        within
    · have kept := @Heard.getElem?_apply_of_outside
        (heard log true (sampleTime + UInt64.ofNat count)) count _
        (device.addUnderruns underruns, played) inside (row_disjoint within same)
      refine (kept.trans before).trans ?_
      simp only [Nat.lt_succ_iff_lt_or_eq, same, or_false]
  · intro index after
    rw [Heard.getElem?_apply_of_outside inside (Or.inr
      (Nat.le_trans (Nat.mul_le_mul_right _ more) after))]
    exact upTo.rest index after

theorem heard_inactive (log : List WrittenFrame) (position : UInt64) :
    heard log false position = .silence :=
  if_pos (Or.inl rfl)

theorem foldlM_readFrame {device : Loopback} {log : List WrittenFrame}
    (tracks : Tracks ⟨device, log⟩) {sampleTime : UInt64} {frames : UInt32}
    (noWrap : sampleTime.toNat + frames.toNat < 2 ^ 64) {output cleared : List UInt32}
    (fits : frames.toNat * device.inputChannels.toNat ≤ output.length)
    (silent : PlayedUpTo device log true sampleTime frames.toNat 0 output cleared) {count : Nat}
    (few : count ≤ frames.toNat) :
    ∃ played, (List.range count).foldlM (Loopback.readFrame sampleTime) (device, cleared) =
        some (device.addUnderruns (underrunsOf log true sampleTime count), played) ∧
      PlayedUpTo device log true sampleTime frames.toNat count output played := by
  induction count with
  | zero => exact ⟨cleared, congrArg (fun first => some (first, cleared))
      device.addUnderruns_zero.symm, silent⟩
  | succ count ih =>
      obtain ⟨played, reached, upTo⟩ := ih (by omega)
      have inside : (count + 1) * device.inputChannels.toNat ≤ played.length := by
        rw [upTo.length]
        exact Nat.le_trans (Nat.mul_le_mul_right _ few) fits
      have one := @readFrame_eq (device.addUnderruns (underrunsOf log true sampleTime count)) log
        (tracks.of_switches _ _ _) sampleTime frames count noWrap few played inside
      refine ⟨_, ?_, @PlayedUpTo.next _ _ _ _ _ _ _ (underrunsOf log true sampleTime count) upTo
        few fits⟩
      rw [List.range_succ, List.foldlM_append, reached]
      change Loopback.readFrame sampleTime _ count >>= pure = _
      rw [one]
      refine congrArg some (Prod.ext ?_ rfl)
      rw [Heard.device_apply, Loopback.addUnderruns_add, underrunsOf, underrunsOf,
        List.range_succ, List.countP_append, List.countP_singleton]

/-- A read plays, at every frame, what is heard there, and counts the frames
that the ring no longer has. -/
theorem Tracks.read {run : LoopbackRun} (tracks : Tracks run) {sampleTime : UInt64}
    {frames : UInt32} {output : List UInt32}
    (admissible : (LoopbackAction.read sampleTime frames (some output)).Admissible run.device) :
    ∃ played, run.device.read sampleTime frames (some output) =
        some (run.device.addUnderruns
          (underrunsOf run.log run.device.inputActive sampleTime frames.toNat), some played) ∧
      PlayedUpTo run.device run.log run.device.inputActive sampleTime frames.toNat frames.toNat
        output played := by
  obtain ⟨noWrap, present⟩ := admissible
  have fits := present output rfl
  rw [Loopback.read]
  dsimp only
  rw [if_pos fits]
  cases active : run.device.inputActive with
  | false =>
      have silent := @playedUpTo_cleared run.device run.log false sampleTime frames.toNat output
        fits
      refine ⟨_, ?_, silent.length, ?_, silent.rest⟩
      · rw [if_neg Bool.false_ne_true]
        have none : underrunsOf run.log false sampleTime frames.toNat = 0 := by
          simp [underrunsOf, heard_inactive, Heard.isUnderrun]
        rw [none, Loopback.addUnderruns_zero]
      · intro frame early channel within
        rw [silent.sample frame early channel within, if_neg (Nat.not_lt_zero _), if_pos early,
          heard_inactive]
        rfl
  | true =>
      obtain ⟨played, reached, upTo⟩ := foldlM_readFrame tracks noWrap fits
        (playedUpTo_cleared fits) (Nat.le_refl frames.toNat)
      refine ⟨played, ?_, upTo⟩
      rw [if_pos rfl, reached]

/-- One action of a run, which keeps the channels. -/
theorem Tracks.step {run : LoopbackRun} (tracks : Tracks run) {action : LoopbackAction}
    (admissible : action.Admissible run.device) :
    ∃ next, run.step action = some next ∧ Tracks next ∧
      next.device.inputChannels = run.device.inputChannels ∧
      next.device.outputChannels = run.device.outputChannels := by
  cases action with
  | write sampleTime frames input =>
      obtain ⟨device, written, reached, sameInputs, sameOutputs⟩ := tracks.write admissible
      refine ⟨_, ?_, reached, sameInputs, sameOutputs⟩
      rw [LoopbackRun.step, written]
      rfl
  | read sampleTime frames output =>
      cases output with
      | none => exact ⟨run, rfl, tracks, rfl, rfl⟩
      | some output =>
          obtain ⟨played, reached, upTo⟩ := tracks.read admissible
          refine ⟨⟨run.device.addUnderruns
              (underrunsOf run.log run.device.inputActive sampleTime frames.toNat), run.log⟩, ?_,
            tracks.of_switches _ _ _, rfl, rfl⟩
          rw [LoopbackRun.step, reached]
          rfl
  | setInputActive active => exact ⟨_, rfl, tracks.of_switches _ _ _, rfl, rfl⟩
  | setOutputActive active => exact ⟨_, rfl, tracks.of_switches _ _ _, rfl, rfl⟩
  | clearTags => exact ⟨_, rfl, tracks_clearTags tracks.shaped, rfl, rfl⟩

theorem LoopbackAction.Admissible.congr {device other : Loopback} {action : LoopbackAction}
    (admissible : action.Admissible device)
    (sameInputs : other.inputChannels = device.inputChannels)
    (sameOutputs : other.outputChannels = device.outputChannels) :
    action.Admissible other := by
  cases action with
  | write => exact ⟨admissible.1, sameOutputs ▸ admissible.2⟩
  | read => exact ⟨admissible.1, sameInputs ▸ admissible.2⟩
  | setInputActive => trivial
  | setOutputActive => trivial
  | clearTags => trivial

theorem Tracks.run {start : LoopbackRun} (tracks : Tracks start) {actions : List LoopbackAction}
    (admissible : ∀ action ∈ actions, action.Admissible start.device) :
    ∃ finish, start.run actions = some finish ∧ Tracks finish ∧
      finish.device.inputChannels = start.device.inputChannels ∧
      finish.device.outputChannels = start.device.outputChannels := by
  induction actions generalizing start with
  | nil => exact ⟨start, rfl, tracks, rfl, rfl⟩
  | cons action actions ih =>
      obtain ⟨next, stepped, reached, sameInputs, sameOutputs⟩ :=
        tracks.step (admissible action List.mem_cons_self)
      obtain ⟨finish, ran, last, finishInputs, finishOutputs⟩ :=
        ih reached fun later member =>
          (admissible later (List.mem_cons_of_mem _ member)).congr sameInputs sameOutputs
      refine ⟨finish, ?_, last, finishInputs.trans sameInputs, finishOutputs.trans sameOutputs⟩
      rw [LoopbackRun.run, List.foldlM_cons, stepped]
      exact ran

theorem tracks_new (inputChannels outputChannels : UInt32) :
    Tracks ⟨Loopback.new inputChannels outputChannels, []⟩ :=
  tracks_clearTags (Loopback.shaped_new inputChannels outputChannels)

/-- After any sequence of calls, a read plays at every frame the frame written
there the latency ago, on the channels that both sides have, if the ring still
holds it.  Else it plays silence, and counts the frame as an underrun unless the
input side is inactive or the latency is not over yet. -/
theorem loopback_read (inputChannels outputChannels : UInt32) {actions : List LoopbackAction}
    (admissible : ∀ action ∈ actions,
      action.Admissible (Loopback.new inputChannels outputChannels))
    {sampleTime : UInt64} {frames : UInt32} {output : List UInt32}
    (fits : (LoopbackAction.read sampleTime frames (some output)).Admissible
      (Loopback.new inputChannels outputChannels)) :
    ∃ run, LoopbackRun.run ⟨Loopback.new inputChannels outputChannels, []⟩ actions = some run ∧
      ∃ played, run.device.read sampleTime frames (some output) =
          some (run.device.addUnderruns
            (underrunsOf run.log run.device.inputActive sampleTime frames.toNat), some played) ∧
        played.length = output.length ∧
        (∀ frame < frames.toNat, ∀ channel < inputChannels.toNat,
          played[frame * inputChannels.toNat + channel]? =
            some ((heard run.log run.device.inputActive (sampleTime + UInt64.ofNat frame)).sample
              (Loopback.new inputChannels outputChannels) channel)) ∧
        ∀ index, frames.toNat * inputChannels.toNat ≤ index → played[index]? = output[index]? := by
  obtain ⟨run, ran, tracks, sameInputs, sameOutputs⟩ :=
    (tracks_new inputChannels outputChannels).run admissible
  obtain ⟨played, reached, upTo⟩ := tracks.read (fits.congr sameInputs sameOutputs)
  have channels : run.device.inputChannels = inputChannels := sameInputs
  have sample := upTo.sample
  have rest := upTo.rest
  rw [channels] at sample rest
  refine ⟨run, ran, played, reached, upTo.length, ?_, rest⟩
  intro frame early channel within
  rw [sample frame early channel within, if_pos early,
    Heard.sample_congr _ sameInputs sameOutputs]

/-- A stereo frame that is written at position 0 and read back. -/
theorem loopback_read_stereo :
    ∃ run, LoopbackRun.run ⟨Loopback.new 2 2, []⟩ [.write 0 1 (some [5, 6])] = some run ∧
      ∃ played, run.device.read 512 1 (some [0, 0]) =
          some (run.device.addUnderruns (underrunsOf run.log run.device.inputActive 512 1),
            some played) ∧
        played.length = 2 ∧
        (∀ frame < 1, ∀ channel < 2, played[frame * 2 + channel]? =
          some ((heard run.log run.device.inputActive
            (512 + UInt64.ofNat frame)).sample (Loopback.new 2 2) channel)) ∧
        ∀ index, 1 * 2 ≤ index → played[index]? = ([0, 0] : List UInt32)[index]? := by
  refine loopback_read 2 2 ?_ ?_
  · rintro action (_ | ⟨_, ⟨⟩⟩)
    refine ⟨by decide, ?_⟩
    rintro _ ⟨⟩
    decide
  · refine ⟨by decide, ?_⟩
    rintro _ ⟨⟩
    decide

end VCable
