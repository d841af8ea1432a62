import VCable.LabelledSteps
import VCable.RingBuffer

/-!
# The ring is a bounded queue under every interleaving

The two indices number stream positions from their common start, so the number
of samples pushed and popped so far determines both.  The invariant names what
is stored in every published slot, what the producer has copied but not yet
published, and what the consumer has copied but not yet released.
-/

namespace VCable.RingSystem

open WrappingIndex LabelledSteps

variable {α : Type*} {w : Nat}

/-- The samples between the read and the write index, oldest first. -/
def contents (ring : Ring α w) : List α :=
  (List.range ring.used).filterMap fun offset => ring.samples[ring.slotAt ring.read offset]?

/-! ## What each step does -/

theorem step_startPush {system next : RingSystem α w} {call : PushCall α}
    {result : Option (Return α)} (taken : system.step (.startPush call) = some (next, result)) :
    system.producer = .idle ∧ next = { system with producer := .called call } ∧
      result = none := by
  simp only [step] at taken
  split at taken
  · cases taken
    exact ⟨‹_›, rfl, rfl⟩
  · cases taken

theorem step_loadRead {system next : RingSystem α w} {result : Option (Return α)}
    (taken : system.step .loadRead = some (next, result)) :
    ∃ call, system.producer = .called call ∧
      ((call.stopsEarly system.ring.capacity system.ring.used = true ∧
        next = { system with producer := .idle } ∧ result = some (call.result 0)) ∨
       (call.stopsEarly system.ring.capacity system.ring.used = false ∧
        next = { system with
          producer := .copying call system.ring.write
            (call.count system.ring.capacity system.ring.used) 0 } ∧ result = none)) := by
  simp only [step] at taken
  split at taken
  · rename_i call called
    refine ⟨call, called, ?_⟩
    split at taken
    · cases taken
      exact Or.inl ⟨‹_›, rfl, rfl⟩
    · rename_i goesOn
      cases taken
      exact Or.inr ⟨Bool.eq_false_iff.mpr goesOn, rfl, rfl⟩
  · cases taken

theorem step_writeSlot {system next : RingSystem α w} {result : Option (Return α)}
    (taken : system.step .writeSlot = some (next, result)) :
    ∃ call write count offset sample, system.producer = .copying call write count offset ∧
      offset < count ∧ call.input[offset]? = some sample ∧
      system.ring.slotAt write offset < system.ring.samples.length ∧
      next = { system with
        ring := { system.ring with
          samples := system.ring.samples.set (system.ring.slotAt write offset) sample }
        producer := .copying call write count (offset + 1) } ∧ result = none := by
  simp only [step] at taken
  split at taken
  · rename_i call write count offset copying
    split at taken
    · split at taken
      · rename_i sample found
        split at taken
        · cases taken
          exact ⟨call, write, count, offset, sample, copying, ‹_›, found, ‹_›, rfl, rfl⟩
        · cases taken
      · cases taken
    · cases taken
  · cases taken

theorem step_publishWrite {system next : RingSystem α w} {result : Option (Return α)}
    (taken : system.step .publishWrite = some (next, result)) :
    ∃ call write count, system.producer = .copying call write count count ∧
      next = { system with
        ring := { system.ring with write := write + BitVec.ofNat w count }
        producer := .idle
        pushed := system.pushed ++ call.input.take count } ∧
      result = some (call.result count) := by
  simp only [step] at taken
  split at taken
  · rename_i call write count offset copying
    split at taken
    · rename_i done
      cases taken
      exact ⟨call, write, count, by rw [copying, done], rfl, rfl⟩
    · cases taken
  · cases taken

theorem step_startPop {system next : RingSystem α w} {call : PopCall}
    {result : Option (Return α)} (taken : system.step (.startPop call) = some (next, result)) :
    system.consumer = .idle ∧ next = { system with consumer := .called call } ∧
      result = none := by
  simp only [step] at taken
  split at taken
  · cases taken
    exact ⟨‹_›, rfl, rfl⟩
  · cases taken

theorem step_loadWrite {system next : RingSystem α w} {result : Option (Return α)}
    (taken : system.step .loadWrite = some (next, result)) :
    ∃ call, system.consumer = .called call ∧
      ((call.stopsEarly system.ring.used = true ∧
        next = { system with consumer := .idle } ∧ result = some (call.result [])) ∨
       (call.stopsEarly system.ring.used = false ∧
        next = { system with
          consumer := .copying call system.ring.read (call.count system.ring.used) [] } ∧
        result = none)) := by
  simp only [step] at taken
  split at taken
  · rename_i call called
    refine ⟨call, called, ?_⟩
    split at taken
    · cases taken
      exact Or.inl ⟨‹_›, rfl, rfl⟩
    · rename_i goesOn
      cases taken
      exact Or.inr ⟨Bool.eq_false_iff.mpr goesOn, rfl, rfl⟩
  · cases taken

theorem step_readSlot {system next : RingSystem α w} {result : Option (Return α)}
    (taken : system.step .readSlot = some (next, result)) :
    ∃ call read count output sample, system.consumer = .copying call read count output ∧
      output.length < count ∧
      system.ring.samples[system.ring.slotAt read output.length]? = some sample ∧
      next = { system with consumer := .copying call read count (output ++ [sample]) } ∧
      result = none := by
  simp only [step] at taken
  split at taken
  · rename_i call read count output copying
    split at taken
    · split at taken
      · rename_i sample found
        cases taken
        exact ⟨call, read, count, output, sample, copying, ‹_›, found, rfl, rfl⟩
      · cases taken
    · cases taken
  · cases taken

theorem step_publishRead {system next : RingSystem α w} {result : Option (Return α)}
    (taken : system.step .publishRead = some (next, result)) :
    ∃ call read output, system.consumer = .copying call read output.length output ∧
      next = { system with
        ring := { system.ring with read := read + BitVec.ofNat w output.length }
        consumer := .idle
        popped := system.popped ++ output } ∧
      result = some (call.result output) := by
  simp only [step] at taken
  split at taken
  · rename_i call read count output copying
    split at taken
    · rename_i done
      cases taken
      exact ⟨call, read, output, by rw [copying, done], by rw [done], rfl⟩
    · cases taken
  · cases taken

/-! ## The invariant -/

/-- The producer has room for its whole count, and what it has copied so far
lies in the slots after the published ones. -/
structure ProducerCopy (k : Nat) (start : BitVec w) (system : RingSystem α w)
    (call : PushCall α) (write : BitVec w) (count offset : Nat) : Prop where
  write_eq : write = index start system.pushed.length
  offset_le : offset ≤ count
  count_le : count ≤ call.input.length
  room : system.pushed.length + count ≤ system.popped.length + 2 ^ k
  copied : ∀ position < offset,
    system.ring.samples[slot k start (system.pushed.length + position)]? =
      call.input[position]?

/-- The consumer's whole count is published, and what it has copied so far
continues the samples popped before. -/
structure ConsumerCopy (start : BitVec w) (system : RingSystem α w)
    (call : PopCall) (read : BitVec w) (count : Nat) (output : List α) : Prop where
  read_eq : read = index start system.popped.length
  length_le : output.length ≤ count
  count_le : count ≤ call.length
  published : system.popped.length + count ≤ system.pushed.length
  continues : system.popped ++ output <+: system.pushed

structure Holds (k : Nat) (start : BitVec w) (system : RingSystem α w) : Prop where
  length_samples : system.ring.samples.length = 2 ^ k
  mask_eq : system.ring.mask = BitVec.ofNat w (2 ^ k - 1)
  read_eq : system.ring.read = index start system.popped.length
  write_eq : system.ring.write = index start system.pushed.length
  popped_prefix : system.popped <+: system.pushed
  bounded : system.pushed.length ≤ system.popped.length + 2 ^ k
  stored : ∀ position, system.popped.length ≤ position → position < system.pushed.length →
    system.ring.samples[slot k start position]? = system.pushed[position]?
  producer_copy : ∀ call write count offset,
    system.producer = .copying call write count offset →
      ProducerCopy k start system call write count offset
  consumer_copy : ∀ call read count output,
    system.consumer = .copying call read count output →
      ConsumerCopy start system call read count output

private theorem prefix_append_singleton {earlier later : List α} {sample : α}
    (prefixOf : earlier <+: later) (next : later[earlier.length]? = some sample) :
    earlier ++ [sample] <+: later := by
  obtain ⟨rest, rfl⟩ := prefixOf
  cases rest with
  | nil => simp at next
  | cons head rest =>
      obtain rfl : head = sample := by simpa using next
      exact ⟨rest, by simp⟩

private theorem filterMap_range_eq {stored : Nat → Option α} (samples : List α)
    (agrees : ∀ offset < samples.length, stored offset = samples[offset]?) :
    (List.range samples.length).filterMap stored = samples := by
  induction samples generalizing stored with
  | nil => rfl
  | cons sample samples ih =>
      have first : stored 0 = some sample := agrees 0 (Nat.succ_pos _)
      have rest := @ih (stored ∘ Nat.succ) fun offset within =>
        agrees (offset + 1) (Nat.succ_lt_succ within)
      rw [List.length_cons, List.range_succ_eq_map, List.filterMap_cons_some first,
        List.filterMap_map, rest]

section Invariant

variable {k : Nat} {start : BitVec w} {system next : RingSystem α w}
  {result : Option (Return α)}

theorem Holds.used_eq (holds : Holds k start system) (narrow : k < w) :
    system.ring.used = system.pushed.length - system.popped.length := by
  have bounded := holds.bounded
  have ordered := holds.popped_prefix.length_le
  have fits : 2 ^ k < 2 ^ w := Nat.pow_lt_pow_right (by decide) narrow
  rw [Ring.used, holds.read_eq, holds.write_eq, toNat_index_sub ordered (by omega)]

theorem Holds.slotAt_index (holds : Holds k start system) (narrow : k < w)
    (count offset : Nat) :
    system.ring.slotAt (index start count) offset = slot k start (count + offset) := by
  rw [Ring.slotAt, holds.mask_eq, index_add, toNat_index_and_mask narrow.le]

theorem holds_initial {ring : Ring α w} (length_samples : ring.samples.length = 2 ^ k)
    (mask_eq : ring.mask = BitVec.ofNat w (2 ^ k - 1)) :
    Holds k start (initial ring start) where
  length_samples := length_samples
  mask_eq := mask_eq
  read_eq := by simp [initial]
  write_eq := by simp [initial]
  popped_prefix := by simp [initial]
  bounded := by simp [initial]
  stored := by
    intro position _ before
    simp [initial] at before
  producer_copy := by
    intro call write count offset copying
    cases copying
  consumer_copy := by
    intro call read count output copying
    cases copying

theorem Holds.startPush (holds : Holds k start system) {call : PushCall α}
    (taken : system.step (.startPush call) = some (next, result)) : Holds k start next := by
  obtain ⟨_, rfl, _⟩ := step_startPush taken
  exact { holds with
    producer_copy := by
      intro call write count offset copying
      cases copying
    consumer_copy := fun call read count output copying =>
      { holds.consumer_copy call read count output copying with } }

theorem Holds.loadRead (holds : Holds k start system) (narrow : k < w)
    (taken : system.step .loadRead = some (next, result)) : Holds k start next := by
  obtain ⟨call, _, ⟨_, rfl, _⟩ | ⟨notFull, rfl, _⟩⟩ := step_loadRead taken
  · exact { holds with
      producer_copy := by
        intro call write count offset copying
        cases copying
      consumer_copy := fun call read count output copying =>
        { holds.consumer_copy call read count output copying with } }
  · have used := holds.used_eq narrow
    have capacity : system.ring.capacity = 2 ^ k := holds.length_samples
    have bounded := holds.bounded
    have ordered := holds.popped_prefix.length_le
    exact { holds with
      producer_copy := by
        intro copied write count offset copying
        cases copying
        refine ⟨holds.write_eq, Nat.zero_le _, ?_, ?_, by simp⟩
        · cases call with
          | push sample =>
              simp only [PushCall.count, PushCall.input, List.length_singleton]
              split <;> omega
          | pushSlice input => exact Nat.min_le_left _ _
        · cases call with
          | push sample =>
              simp only [PushCall.stopsEarly, decide_eq_false_iff_not] at notFull
              simp only [PushCall.count, if_neg notFull]
              omega
          | pushSlice input =>
              simp only [PushCall.count]
              omega
      consumer_copy := fun call read count output copying =>
        { holds.consumer_copy call read count output copying with } }

/-- A slot that the producer is about to write is none of the unread ones, nor
one that it has already written in this call. -/
theorem ProducerCopy.slot_ne_stored {call : PushCall α} {write : BitVec w}
    {count offset position : Nat} (copy : ProducerCopy k start system call write count offset)
    (more : offset < count) (unread : system.popped.length ≤ position)
    (earlier : position < system.pushed.length + offset) :
    slot k start position ≠ slot k start (system.pushed.length + offset) := by
  have room := copy.room
  exact slot_ne earlier (by omega)

theorem Holds.writeSlot (holds : Holds k start system) (narrow : k < w)
    (taken : system.step .writeSlot = some (next, result)) : Holds k start next := by
  obtain ⟨call, write, count, offset, sample, copying, more, sampleAt, inBounds, rfl, _⟩ :=
    step_writeSlot taken
  have copy := holds.producer_copy call write count offset copying
  have slotEq : system.ring.slotAt write offset =
      slot k start (system.pushed.length + offset) := by
    rw [copy.write_eq, holds.slotAt_index narrow]
  have ordered := holds.popped_prefix.length_le
  exact { holds with
    length_samples := by simpa using holds.length_samples
    stored := by
      intro position unread published
      have published' : position < system.pushed.length := published
      have other := copy.slot_ne_stored more unread (by omega)
      rw [slotEq, List.getElem?_set_ne other.symm]
      exact holds.stored position unread published
    producer_copy := by
      intro call' write' count' offset' copying'
      cases copying'
      refine ⟨copy.write_eq, more, copy.count_le, copy.room, ?_⟩
      intro position before
      rw [slotEq]
      rcases Nat.lt_succ_iff_lt_or_eq.mp before with copied | rfl
      · have unread : system.popped.length ≤ system.pushed.length + position := by omega
        have other := copy.slot_ne_stored more unread (by omega)
        rw [List.getElem?_set_ne other.symm]
        exact copy.copied position copied
      · rw [slotEq] at inBounds
        rw [List.getElem?_set_self inBounds, sampleAt]
    consumer_copy := fun call read count output copying =>
      { holds.consumer_copy call read count output copying with } }

theorem Holds.publishWrite (holds : Holds k start system)
    (taken : system.step .publishWrite = some (next, result)) : Holds k start next := by
  obtain ⟨call, write, count, copying, rfl, _⟩ := step_publishWrite taken
  have copy := holds.producer_copy call write count count copying
  have takenLength : (call.input.take count).length = count :=
    List.length_take_of_le copy.count_le
  have grows : system.pushed <+: system.pushed ++ call.input.take count :=
    List.prefix_append _ _
  exact { holds with
    write_eq := by
      simp only [List.length_append, takenLength]
      rw [copy.write_eq, index_add]
    popped_prefix := holds.popped_prefix.trans grows
    bounded := by
      simp only [List.length_append, takenLength]
      exact copy.room
    stored := by
      intro position unread published
      simp only [List.length_append, takenLength] at published
      by_cases old : position < system.pushed.length
      · rw [List.getElem?_append_left old]
        exact holds.stored position unread old
      · obtain ⟨offset, rfl⟩ := Nat.exists_eq_add_of_le (Nat.le_of_not_lt old)
        have within : offset < count := by omega
        rw [List.getElem?_append_right (Nat.le_add_right _ _), Nat.add_sub_cancel_left,
          List.getElem?_take_of_lt within]
        exact copy.copied offset within
    producer_copy := by
      intro call write count offset copying
      cases copying
    consumer_copy := by
      intro call' read count' output copying'
      have release := holds.consumer_copy call' read count' output copying'
      exact { release with
        published := release.published.trans grows.length_le
        continues := release.continues.trans grows } }

theorem Holds.startPop (holds : Holds k start system) {call : PopCall}
    (taken : system.step (.startPop call) = some (next, result)) : Holds k start next := by
  obtain ⟨_, rfl, _⟩ := step_startPop taken
  exact { holds with
    producer_copy := fun call write count offset copying =>
      { holds.producer_copy call write count offset copying with }
    consumer_copy := by
      intro call read count output copying
      cases copying }

theorem Holds.loadWrite (holds : Holds k start system) (narrow : k < w)
    (taken : system.step .loadWrite = some (next, result)) : Holds k start next := by
  obtain ⟨call, _, ⟨_, rfl, _⟩ | ⟨notEmpty, rfl, _⟩⟩ := step_loadWrite taken
  · exact { holds with
      producer_copy := fun call write count offset copying =>
        { holds.producer_copy call write count offset copying with }
      consumer_copy := by
        intro call read count output copying
        cases copying }
  · have used := holds.used_eq narrow
    have ordered := holds.popped_prefix.length_le
    exact { holds with
      producer_copy := fun call write count offset copying =>
        { holds.producer_copy call write count offset copying with }
      consumer_copy := by
        intro copied read count output copying
        cases copying
        refine ⟨holds.read_eq, Nat.zero_le _, ?_, ?_, by simpa using holds.popped_prefix⟩
        · cases call with
          | pop =>
              simp only [PopCall.count, PopCall.length]
              split <;> omega
          | popSlice length => exact Nat.min_le_left _ _
        cases call with
        | pop =>
            simp only [PopCall.stopsEarly, decide_eq_false_iff_not] at notEmpty
            simp only [PopCall.count, if_neg notEmpty]
            omega
        | popSlice length =>
            simp only [PopCall.count]
            omega }

theorem Holds.readSlot (holds : Holds k start system) (narrow : k < w)
    (taken : system.step .readSlot = some (next, result)) : Holds k start next := by
  obtain ⟨call, read, count, output, sample, copying, more, sampleAt, rfl, _⟩ :=
    step_readSlot taken
  have release := holds.consumer_copy call read count output copying
  have published := release.published
  have nextSample : system.pushed[system.popped.length + output.length]? = some sample := by
    rw [← holds.stored _ (Nat.le_add_right _ _) (by omega), ← sampleAt, release.read_eq,
      holds.slotAt_index narrow]
  exact { holds with
    producer_copy := fun call write count offset copying =>
      { holds.producer_copy call write count offset copying with }
    consumer_copy := by
      intro call' read' count' output' copying'
      cases copying'
      refine ⟨release.read_eq, by simpa using Nat.succ_le_of_lt more, release.count_le,
        release.published, ?_⟩
      rw [← List.append_assoc]
      exact prefix_append_singleton release.continues (by simpa using nextSample) }

theorem Holds.publishRead (holds : Holds k start system)
    (taken : system.step .publishRead = some (next, result)) : Holds k start next := by
  obtain ⟨call, read, output, copying, rfl, _⟩ := step_publishRead taken
  have release := holds.consumer_copy call read output.length output copying
  exact { holds with
    read_eq := by
      simp only [List.length_append]
      rw [release.read_eq, index_add]
    popped_prefix := release.continues
    bounded := by
      have bounded := holds.bounded
      simp only [List.length_append]
      omega
    stored := by
      intro position unread published
      simp only [List.length_append] at unread
      exact holds.stored position (by omega) published
    producer_copy := by
      intro call' write count offset copying'
      have copy := holds.producer_copy call' write count offset copying'
      exact { copy with
        room := by
          have room := copy.room
          simp only [List.length_append]
          omega }
    consumer_copy := by
      intro call read count output copying
      cases copying }

theorem Holds.step (holds : Holds k start system) (narrow : k < w) {action : RingAction α}
    (taken : system.step action = some (next, result)) : Holds k start next := by
  cases action with
  | startPush call => exact holds.startPush taken
  | loadRead => exact holds.loadRead narrow taken
  | writeSlot => exact holds.writeSlot narrow taken
  | publishWrite => exact holds.publishWrite taken
  | startPop call => exact holds.startPop taken
  | loadWrite => exact holds.loadWrite narrow taken
  | readSlot => exact holds.readSlot narrow taken
  | publishRead => exact holds.publishRead taken

/-- The queue between the indices is exactly what was pushed and not popped. -/
theorem Holds.pushed_eq (holds : Holds k start system) (narrow : k < w) :
    system.pushed = system.popped ++ contents system.ring := by
  obtain ⟨rest, split⟩ := holds.popped_prefix
  have unread : contents system.ring = rest := by
    have used : system.ring.used = rest.length := by
      rw [holds.used_eq narrow, ← split, List.length_append, Nat.add_sub_cancel_left]
    rw [contents, used]
    refine filterMap_range_eq rest fun offset within => ?_
    rw [holds.read_eq, holds.slotAt_index narrow, holds.stored _ (Nat.le_add_right _ _), ← split,
      List.getElem?_append_right (Nat.le_add_right _ _), Nat.add_sub_cancel_left]
    rw [← split, List.length_append]
    omega
  rw [unread, split]

end Invariant

/-! ## The ring as a bounded queue -/

/-- A slot that holds a published sample which the consumer has not released. -/
def HoldsUnread (ring : Ring α w) (slot : Nat) : Prop :=
  ∃ offset < ring.used, ring.slotAt ring.read offset = slot

/-- What every state of every run satisfies. -/
structure BoundedQueue (capacity : Nat) (system : RingSystem α w) : Prop where
  popped_prefix : system.popped <+: system.pushed
  used_le : system.ring.used ≤ capacity
  pushed_eq : system.pushed = system.popped ++ contents system.ring
  /-- The next slot copy of the producer is in bounds and spares unread samples. -/
  write_safe : ∀ call write count offset,
    system.producer = .copying call write count offset → offset < count →
      system.ring.slotAt write offset < system.ring.samples.length ∧
        ¬ HoldsUnread system.ring (system.ring.slotAt write offset) ∧
        (system.step .writeSlot).isSome
  /-- The next slot copy of the consumer is in bounds, and what a call has
  copied so far continues what was popped before. -/
  read_safe : ∀ call read count output,
    system.consumer = .copying call read count output →
      system.popped ++ output <+: system.pushed ∧
        (output.length < count →
          system.ring.slotAt read output.length < system.ring.samples.length ∧
            (system.step .readSlot).isSome)

/-- A step appends the samples `moved` to the published queue. -/
structure Pushes (system next : RingSystem α w) (moved : List α) : Prop where
  pushed_eq : next.pushed = system.pushed ++ moved
  popped_eq : next.popped = system.popped
  contents_eq : contents next.ring = contents system.ring ++ moved

/-- A step takes the samples `moved` off the front of the published queue. -/
structure Pops (system next : RingSystem α w) (moved : List α) : Prop where
  pushed_eq : next.pushed = system.pushed
  popped_eq : next.popped = system.popped ++ moved
  contents_eq : contents system.ring = moved ++ contents next.ring

/-- What a step does to the queue, by what it returns: a step inside a call
moves nothing, and a finished call has moved as many samples as it returns. -/
def QueueStep (system next : RingSystem α w) : Option (Return α) → Prop
  | none => Pushes system next []
  | some (.push accepted) =>
      ∃ sample, system.producer.call? = some (.push sample) ∧
        Pushes system next (if accepted then [sample] else [])
  | some (.pushSlice count) =>
      ∃ input, system.producer.call? = some (.pushSlice input) ∧
        count ≤ input.length ∧ Pushes system next (input.take count)
  | some (.pop sample) =>
      system.consumer.call? = some .pop ∧ Pops system next sample.toList
  | some (.popSlice count output) =>
      ∃ length, system.consumer.call? = some (.popSlice length) ∧
        count ≤ length ∧ output.length = count ∧ Pops system next output

section Queue

variable {k : Nat} {start : BitVec w} {system next : RingSystem α w}
  {result : Option (Return α)}

theorem Holds.boundedQueue (holds : Holds k start system) (narrow : k < w) :
    BoundedQueue (2 ^ k) system where
  popped_prefix := holds.popped_prefix
  used_le := by
    have used := holds.used_eq narrow
    have bounded := holds.bounded
    have positive := Nat.two_pow_pos k
    omega
  pushed_eq := holds.pushed_eq narrow
  write_safe := by
    intro call write count offset copying more
    have copy := holds.producer_copy call write count offset copying
    have slotEq : system.ring.slotAt write offset =
        slot k start (system.pushed.length + offset) := by
      rw [copy.write_eq, holds.slotAt_index narrow]
    have inBounds : system.ring.slotAt write offset < system.ring.samples.length := by
      rw [slotEq, holds.length_samples]
      exact slot_lt k start _
    refine ⟨inBounds, ?_, ?_⟩
    · rintro ⟨distance, unread, same⟩
      rw [holds.read_eq, holds.slotAt_index narrow, slotEq] at same
      have used := holds.used_eq narrow
      exact copy.slot_ne_stored more (Nat.le_add_right _ _) (by omega) same
    · have within : offset < call.input.length := more.trans_le copy.count_le
      simp [RingSystem.step, copying, more, inBounds, List.getElem?_eq_getElem within]
  read_safe := by
    intro call read count output copying
    have release := holds.consumer_copy call read count output copying
    refine ⟨release.continues, fun more => ?_⟩
    have inBounds : system.ring.slotAt read output.length < system.ring.samples.length := by
      rw [release.read_eq, holds.slotAt_index narrow, holds.length_samples]
      exact slot_lt k start _
    refine ⟨inBounds, ?_⟩
    simp [RingSystem.step, copying, more, List.getElem?_eq_getElem inBounds]

theorem Holds.pushes (before : Holds k start system) (after : Holds k start next)
    (narrow : k < w) {moved : List α} (pushed_eq : next.pushed = system.pushed ++ moved)
    (popped_eq : next.popped = system.popped) : Pushes system next moved := by
  refine ⟨pushed_eq, popped_eq, ?_⟩
  rw [before.pushed_eq narrow, after.pushed_eq narrow, popped_eq, List.append_assoc] at pushed_eq
  exact List.append_cancel_left pushed_eq

theorem Holds.pops (before : Holds k start system) (after : Holds k start next)
    (narrow : k < w) {moved : List α} (pushed_eq : next.pushed = system.pushed)
    (popped_eq : next.popped = system.popped ++ moved) : Pops system next moved := by
  refine ⟨pushed_eq, popped_eq, ?_⟩
  rw [before.pushed_eq narrow, after.pushed_eq narrow, popped_eq, List.append_assoc] at pushed_eq
  exact (List.append_cancel_left pushed_eq).symm

/-- A producer's call that moved a prefix of its input returns its length. -/
theorem queueStep_push {call : PushCall α} {count : Nat}
    (calling : system.producer.call? = some call) (count_le : count ≤ call.input.length)
    (pushes : Pushes system next (call.input.take count)) :
    QueueStep system next (some (call.result count)) := by
  cases call with
  | push sample =>
      refine ⟨sample, calling, ?_⟩
      rcases Nat.le_one_iff_eq_zero_or_eq_one.mp count_le with rfl | rfl
      · simpa using pushes
      · simpa [PushCall.input] using pushes
  | pushSlice input => exact ⟨input, calling, count_le, pushes⟩

/-- A consumer's call that released its output returns its length. -/
theorem queueStep_pop {call : PopCall} {output : List α}
    (calling : system.consumer.call? = some call) (length_le : output.length ≤ call.length)
    (pops : Pops system next output) : QueueStep system next (some (call.result output)) := by
  cases call with
  | pop =>
      refine ⟨calling, ?_⟩
      match output, length_le with
      | [], _ => exact pops
      | [sample], _ => exact pops
  | popSlice length => exact ⟨length, calling, length_le, rfl, pops⟩

theorem Holds.queueStep (holds : Holds k start system) (narrow : k < w) {action : RingAction α}
    (taken : system.step action = some (next, result)) : QueueStep system next result := by
  have after := holds.step narrow taken
  cases action with
  | startPush call =>
      obtain ⟨_, rfl, rfl⟩ := step_startPush taken
      exact holds.pushes after narrow (List.append_nil _).symm rfl
  | loadRead =>
      obtain ⟨call, called, ⟨_, rfl, rfl⟩ | ⟨_, rfl, rfl⟩⟩ := step_loadRead taken
      · refine queueStep_push (by rw [called]; rfl) (Nat.zero_le _) ?_
        exact holds.pushes after narrow (List.append_nil _).symm rfl
      · exact holds.pushes after narrow (List.append_nil _).symm rfl
  | writeSlot =>
      obtain ⟨call, write, count, offset, sample, _, _, _, _, rfl, rfl⟩ := step_writeSlot taken
      exact holds.pushes after narrow (List.append_nil _).symm rfl
  | publishWrite =>
      obtain ⟨call, write, count, copying, rfl, rfl⟩ := step_publishWrite taken
      have copy := holds.producer_copy call write count count copying
      refine queueStep_push (by rw [copying]; rfl) copy.count_le ?_
      exact holds.pushes after narrow rfl rfl
  | startPop call =>
      obtain ⟨_, rfl, rfl⟩ := step_startPop taken
      exact holds.pushes after narrow (List.append_nil _).symm rfl
  | loadWrite =>
      obtain ⟨call, called, ⟨_, rfl, rfl⟩ | ⟨_, rfl, rfl⟩⟩ := step_loadWrite taken
      · refine queueStep_pop (by rw [called]; rfl) (Nat.zero_le _) ?_
        exact holds.pops after narrow rfl (List.append_nil _).symm
      · exact holds.pushes after narrow (List.append_nil _).symm rfl
  | readSlot =>
      obtain ⟨call, read, count, output, sample, _, _, _, rfl, rfl⟩ := step_readSlot taken
      exact holds.pushes after narrow (List.append_nil _).symm rfl
  | publishRead =>
      obtain ⟨call, read, output, copying, rfl, rfl⟩ := step_publishRead taken
      have release := holds.consumer_copy call read output.length output copying
      refine queueStep_pop (by rw [copying]; rfl) release.count_le ?_
      exact holds.pops after narrow rfl rfl

end Queue

/-! ## A call moves what it found

Between the load of the other side's index and the store of its own a call
keeps the count that it decided on, whatever the other side does.
-/

section Found

variable {system found next : RingSystem α w} {result : Option (Return α)}

theorem step_producer_copying {action : RingAction α} {call : PushCall α} {write : BitVec w}
    {count offset : Nat} (copying : system.producer = .copying call write count offset)
    (goesOn : action.finishesPush = false) (taken : system.step action = some (next, result)) :
    ∃ offset, next.producer = .copying call write count offset := by
  cases action with
  | startPush _ =>
      obtain ⟨idle, _⟩ := step_startPush taken
      cases copying.symm.trans idle
  | loadRead =>
      obtain ⟨_, called, _⟩ := step_loadRead taken
      cases copying.symm.trans called
  | writeSlot =>
      obtain ⟨_, _, _, _, _, same, _, _, _, rfl, _⟩ := step_writeSlot taken
      cases copying.symm.trans same
      exact ⟨_, rfl⟩
  | publishWrite => cases goesOn
  | startPop _ =>
      obtain ⟨_, rfl, _⟩ := step_startPop taken
      exact ⟨_, copying⟩
  | loadWrite =>
      obtain ⟨_, _, ⟨_, rfl, _⟩ | ⟨_, rfl, _⟩⟩ := step_loadWrite taken
      · exact ⟨_, copying⟩
      · exact ⟨_, copying⟩
  | readSlot =>
      obtain ⟨_, _, _, _, _, _, _, _, rfl, _⟩ := step_readSlot taken
      exact ⟨_, copying⟩
  | publishRead =>
      obtain ⟨_, _, _, _, rfl, _⟩ := step_publishRead taken
      exact ⟨_, copying⟩

theorem step_consumer_copying {action : RingAction α} {call : PopCall} {read : BitVec w}
    {count : Nat} {output : List α} (copying : system.consumer = .copying call read count output)
    (goesOn : action.finishesPop = false) (taken : system.step action = some (next, result)) :
    ∃ output, next.consumer = .copying call read count output := by
  cases action with
  | startPush _ =>
      obtain ⟨_, rfl, _⟩ := step_startPush taken
      exact ⟨_, copying⟩
  | loadRead =>
      obtain ⟨_, _, ⟨_, rfl, _⟩ | ⟨_, rfl, _⟩⟩ := step_loadRead taken
      · exact ⟨_, copying⟩
      · exact ⟨_, copying⟩
  | writeSlot =>
      obtain ⟨_, _, _, _, _, _, _, _, _, rfl, _⟩ := step_writeSlot taken
      exact ⟨_, copying⟩
  | publishWrite =>
      obtain ⟨_, _, _, _, rfl, _⟩ := step_publishWrite taken
      exact ⟨_, copying⟩
  | startPop _ =>
      obtain ⟨idle, _⟩ := step_startPop taken
      cases copying.symm.trans idle
  | loadWrite =>
      obtain ⟨_, called, _⟩ := step_loadWrite taken
      cases copying.symm.trans called
  | readSlot =>
      obtain ⟨_, _, _, _, _, same, _, _, rfl, _⟩ := step_readSlot taken
      cases copying.symm.trans same
      exact ⟨_, rfl⟩
  | publishRead => cases goesOn

/-- A push moves the least of its length and the room that it found. -/
theorem push_moves_found {call : PushCall α} (called : system.producer = .called call)
    (looks : system.step .loadRead = some (found, result)) :
    let count := call.count system.ring.capacity system.ring.used
    (result = some (call.result 0) ∧ count = 0) ∨
      (result = none ∧ ∀ later next returned,
        Reachable (restrict (fun _ action => !action.finishesPush) step) found later →
        later.step .publishWrite = some (next, returned) →
          returned = some (call.result count) ∧
            next.pushed = later.pushed ++ call.input.take count) := by
  obtain ⟨same, called', ⟨full, -, rfl⟩ | ⟨-, rfl, rfl⟩⟩ := step_loadRead looks
  · cases called.symm.trans called'
    exact Or.inl ⟨rfl, call.count_of_stopsEarly full⟩
  · cases called.symm.trans called'
    refine Or.inr ⟨rfl, fun later next returned goes taken => ?_⟩
    have keeps : Invariant (restrict (fun _ action => !action.finishesPush) step)
        { system with
          producer := .copying call system.ring.write
            (call.count system.ring.capacity system.ring.used) 0 }
        fun state => ∃ offset, state.producer = .copying call system.ring.write
          (call.count system.ring.capacity system.ring.used) offset :=
      { start := ⟨0, rfl⟩
        step := by
          rintro state later action output ⟨offset, copying⟩ taken
          obtain ⟨goesOn, taken⟩ := restrict_eq_some_iff.mp taken
          exact step_producer_copying copying ((Bool.not_eq_true' _).mp goesOn) taken }
    obtain ⟨offset, copying⟩ := keeps.reachable goes
    obtain ⟨_, _, _, same, rfl, rfl⟩ := step_publishWrite taken
    cases copying.symm.trans same
    exact ⟨rfl, rfl⟩

/-- A pop moves the least of its length and the fill that it found. -/
theorem pop_moves_found {call : PopCall} (called : system.consumer = .called call)
    (looks : system.step .loadWrite = some (found, result)) :
    let count := call.count system.ring.used
    (result = some (call.result []) ∧ count = 0) ∨
      (result = none ∧ ∀ later next returned,
        Reachable (restrict (fun _ action => !action.finishesPop) step) found later →
        later.step .publishRead = some (next, returned) →
          ∃ output, output.length = count ∧ returned = some (call.result output) ∧
            next.popped = later.popped ++ output) := by
  obtain ⟨same, called', ⟨empty, -, rfl⟩ | ⟨-, rfl, rfl⟩⟩ := step_loadWrite looks
  · cases called.symm.trans called'
    exact Or.inl ⟨rfl, call.count_of_stopsEarly empty⟩
  · cases called.symm.trans called'
    refine Or.inr ⟨rfl, fun later next returned goes taken => ?_⟩
    have keeps : Invariant (restrict (fun _ action => !action.finishesPop) step)
        { system with
          consumer := .copying call system.ring.read (call.count system.ring.used) [] }
        fun state => ∃ output, state.consumer =
          .copying call system.ring.read (call.count system.ring.used) output :=
      { start := ⟨[], rfl⟩
        step := by
          rintro state later action result ⟨output, copying⟩ taken
          obtain ⟨goesOn, taken⟩ := restrict_eq_some_iff.mp taken
          exact step_consumer_copying copying ((Bool.not_eq_true' _).mp goesOn) taken }
    obtain ⟨output, copying⟩ := keeps.reachable goes
    obtain ⟨_, _, output, same, rfl, rfl⟩ := step_publishRead taken
    injection copying.symm.trans same with callEq _ countEq _
    subst callEq
    exact ⟨output, countEq.symm, rfl, rfl⟩

end Found

/-! ## The constructor -/

theorem isPowerOfTwo_iff (value : Nat) : isPowerOfTwo value = true ↔ value.isPowerOfTwo := by
  rw [isPowerOfTwo, Bool.and_eq_true, decide_eq_true_eq, decide_eq_true_eq]
  constructor
  · rintro ⟨nonzero, masked⟩
    exact (Nat.and_sub_one_eq_zero_iff_isPowerOfTwo nonzero).mp masked
  · intro power
    have nonzero : value ≠ 0 := by
      obtain ⟨k, rfl⟩ := power
      exact (Nat.two_pow_pos k).ne'
    exact ⟨nonzero, (Nat.and_sub_one_eq_zero_iff_isPowerOfTwo nonzero).mpr power⟩

theorem spscRingBuffer_of_isPowerOfTwo (w : Nat) (zero : α) {capacity : Nat}
    (large : 2 ≤ capacity) (power : capacity.isPowerOfTwo) :
    ∃ ring, spscRingBuffer w zero capacity = .ok ring ∧ ring.samples.length = capacity ∧
      ring.mask = BitVec.ofNat w (capacity - 1) := by
  have accepted : (!isPowerOfTwo capacity) = false := by
    rw [(isPowerOfTwo_iff capacity).mpr power, Bool.not_true]
  rw [spscRingBuffer, if_neg (by omega), accepted]
  exact ⟨_, rfl, List.length_replicate, rfl⟩

/-- Every capacity that the constructor allows makes a bounded first-in
first-out queue, from any common starting value of the indices and under every
interleaving of the steps of both sides. -/
theorem spscRingBuffer_boundedQueue (w : Nat) (zero : α) {capacity : Nat}
    (large : 2 ≤ capacity) (power : capacity.isPowerOfTwo) (fits : capacity < 2 ^ w) :
    ∃ ring, spscRingBuffer w zero capacity = .ok ring ∧
      ∀ start system, Reachable RingSystem.step (initial ring start) system →
        BoundedQueue capacity system ∧
          ∀ action next result, system.step action = some (next, result) →
            QueueStep system next result := by
  obtain ⟨k, rfl⟩ := power
  have narrow : k < w := (Nat.pow_lt_pow_iff_right (by decide)).mp fits
  obtain ⟨ring, created, length_samples, mask_eq⟩ :=
    spscRingBuffer_of_isPowerOfTwo w zero large ⟨k, rfl⟩
  refine ⟨ring, created, fun start system reached => ?_⟩
  have invariant : Invariant RingSystem.step (initial ring start) (Holds k start) :=
    ⟨holds_initial length_samples mask_eq, fun holds taken => holds.step narrow taken⟩
  have holds := invariant.reachable reached
  exact ⟨holds.boundedQueue narrow, fun action next result taken => holds.queueStep narrow taken⟩

/-- The ring of four samples on a machine with eight-bit indices. -/
theorem spscRingBuffer_boundedQueue_four :
    ∃ ring, spscRingBuffer 8 (0 : Int) 4 = .ok ring ∧
      ∀ start system, Reachable RingSystem.step (initial ring start) system →
        BoundedQueue 4 system ∧
          ∀ action next result, system.step action = some (next, result) →
            QueueStep system next result :=
  spscRingBuffer_boundedQueue 8 0 (by decide) ⟨2, rfl⟩ (by decide)

end VCable.RingSystem
