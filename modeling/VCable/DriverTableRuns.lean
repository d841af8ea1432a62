import Mathlib.Data.List.Nodup
import VCable.DriverSections
import VCable.LabelledSteps

/-!
# The device table under concurrent calls

The slots, the list of active devices and the flags and counters of each device
agree in every state.  The invariant makes two exceptions: the device that a
creation has listed but not published yet, and the devices that a removal has
taken off the list but not looked at again.
-/

namespace VCable

open LabelledSteps

namespace Driver

/-! ## The invariant of the table -/

/-- The agreement of the slots, the list and the devices, but for an unplaced
device and some leaving ones. -/
structure Table (unplaced : Option Nat) (leaving : Nat → Prop) (driver : Driver) : Prop where
  nodup : driver.active.Nodup
  distinct : (driver.active.map fun pointer => (driver.devices pointer).id).Nodup
  active_lt : ∀ pointer ∈ driver.active, pointer < driver.allocated
  flagged : ∀ pointer ∈ driver.active, (driver.devices pointer).active = true
  placed : ∀ pointer ∈ driver.active, unplaced ≠ some pointer →
    driver.slots (driver.devices pointer).slot = some pointer
  slot_eq : ∀ slot pointer, driver.slots slot = some pointer →
    pointer < driver.allocated ∧ (driver.devices pointer).slot = slot ∧ slot < kMaximumDevices
  retired : ∀ slot pointer, driver.slots slot = some pointer → pointer ∉ driver.active →
    (driver.devices pointer).active = false
  attached : ∀ pointer, (driver.devices pointer).attachedClients ≠ 0 →
    driver.slots (driver.devices pointer).slot = some pointer
  stopped : ∀ pointer, (driver.devices pointer).active = false →
    (driver.devices pointer).runningClients = 0
  occupied : ∀ slot pointer, driver.slots slot = some pointer →
    pointer ∈ driver.active ∨ (driver.devices pointer).attachedClients ≠ 0 ∨ leaving pointer

section Functions

variable {driver : Driver} {pointer : Nat} {unplaced : Option Nat} {leaving : Nat → Prop}

theorem table_loaded (storage : Option String) : (loaded storage).Table none leaving where
  nodup := List.nodup_nil
  distinct := List.nodup_nil
  active_lt := nofun
  flagged := nofun
  placed := nofun
  slot_eq := nofun
  retired := nofun
  attached := fun _ attached => absurd rfl attached
  stopped := fun _ _ => rfl
  occupied := nofun

theorem Table.mono (table : driver.Table unplaced leaving) {further : Nat → Prop}
    (more : ∀ pointer, leaving pointer → further pointer) : driver.Table unplaced further :=
  { table with
    occupied := fun slot pointer placed =>
      (table.occupied slot pointer placed).imp_right (Or.imp_right (more pointer)) }

/-- A device in its slot that is active is listed. -/
theorem Table.mem_active (table : driver.Table unplaced leaving) {slot : Nat}
    (placed : driver.slots slot = some pointer)
    (active : (driver.devices pointer).active = true) : pointer ∈ driver.active := by
  by_contra unlisted
  rw [table.retired slot pointer placed unlisted] at active
  cases active

/-- A change of the flags and counters of one device. -/
theorem Table.setDevice (table : driver.Table unplaced leaving) {device : Device}
    (sameSlot : device.slot = (driver.devices pointer).slot)
    (sameId : device.id = (driver.devices pointer).id)
    (sameActive : device.active = (driver.devices pointer).active)
    (attached : device.attachedClients ≠ 0 →
      driver.slots (driver.devices pointer).slot = some pointer)
    (stopped : device.active = false → device.runningClients = 0)
    (occupied : ∀ slot, driver.slots slot = some pointer →
      pointer ∈ driver.active ∨ device.attachedClients ≠ 0 ∨ leaving pointer) :
    (driver.setDevice pointer device).Table unplaced leaving := by
  have slots := apply_devices_setDevice Device.slot sameSlot
  have ids := apply_devices_setDevice Device.id sameId
  have flags := apply_devices_setDevice Device.active sameActive
  refine
    { nodup := table.nodup
      distinct := ?_
      active_lt := table.active_lt
      flagged := fun other listed => (flags other).trans (table.flagged other listed)
      placed := fun other listed notUnplaced =>
        (slots other).symm ▸ table.placed other listed notUnplaced
      slot_eq := fun slot other placed => (slots other).symm ▸ table.slot_eq slot other placed
      retired := fun slot other placed unlisted =>
        (flags other).trans (table.retired slot other placed unlisted)
      attached := ?_
      stopped := ?_
      occupied := ?_ }
  · change (driver.active.map fun other =>
      ((driver.setDevice pointer device).devices other).id).Nodup
    simpa only [ids] using table.distinct
  · intro other counted
    rw [slots]
    by_cases same : other = pointer
    · subst same
      rw [devices_setDevice_self] at counted
      exact attached counted
    · rw [devices_setDevice_of_ne driver device same] at counted
      exact table.attached other counted
  · intro other inactive
    by_cases same : other = pointer
    · subst same
      rw [devices_setDevice_self] at inactive ⊢
      exact stopped inactive
    · rw [devices_setDevice_of_ne driver device same] at inactive ⊢
      exact table.stopped other inactive
  · intro slot other placed
    by_cases same : other = pointer
    · subst same
      rw [devices_setDevice_self]
      exact occupied slot placed
    · rw [devices_setDevice_of_ne driver device same]
      exact table.occupied slot other placed

theorem Table.setPending (table : driver.Table unplaced leaving) (pointer : Nat)
    (pending : Bool) : (driver.setPending pointer pending).Table unplaced leaving :=
  table.setDevice rfl rfl rfl (table.attached pointer) (table.stopped pointer)
    fun slot placed => table.occupied slot pointer placed

/-- The look at a device that has left, or lost a client. -/
theorem Table.release (table : driver.Table unplaced fun other => leaving other ∨ other = pointer) :
    (driver.releaseRetiredSlotLocked pointer).Table unplaced leaving := by
  rcases driver.releaseRetiredSlotLocked_cases pointer with
    ⟨retired, detached, stopped, placed, released⟩ | ⟨kept, same⟩
  · have unlisted : pointer ∉ driver.active := by
      intro listed
      rw [table.flagged pointer listed] at retired
      cases retired
    have elsewhere : ∀ slot other, driver.slots slot = some other → other ≠ pointer →
        slot ≠ (driver.devices pointer).slot := by
      intro slot other held differ same
      rw [same, placed] at held
      exact differ (Option.some.inj held).symm
    have earlier : ∀ slot other, (driver.setSlot (driver.devices pointer).slot none).slots slot =
        some other → slot ≠ (driver.devices pointer).slot ∧ driver.slots slot = some other := by
      intro slot other held
      by_cases same : slot = (driver.devices pointer).slot
      · rw [same, slots_setSlot_self] at held
        cases held
      · rw [slots_setSlot_of_ne driver none same] at held
        exact ⟨same, held⟩
    rw [released]
    exact
      { nodup := table.nodup
        distinct := table.distinct
        active_lt := table.active_lt
        flagged := table.flagged
        placed := by
          intro other listed notUnplaced
          have held := table.placed other listed notUnplaced
          have differ : other ≠ pointer := fun same => unlisted (same ▸ listed)
          exact (slots_setSlot_of_ne driver none (elsewhere _ other held differ)).trans held
        slot_eq := fun slot other held => table.slot_eq slot other (earlier slot other held).2
        retired := fun slot other held => table.retired slot other (earlier slot other held).2
        attached := by
          intro other counted
          have held := table.attached other counted
          have differ : other ≠ pointer := by
            rintro rfl
            exact counted detached
          exact (slots_setSlot_of_ne driver none (elsewhere _ other held differ)).trans held
        stopped := table.stopped
        occupied := by
          intro slot other held
          obtain ⟨differ, before⟩ := earlier slot other held
          rcases table.occupied slot other before with listed | counted | leaves | rfl
          · exact Or.inl listed
          · exact Or.inr (Or.inl counted)
          · exact Or.inr (Or.inr leaves)
          · exact absurd (table.slot_eq slot _ before).2.1.symm differ }
  · rw [same]
    refine { table with occupied := ?_ }
    intro slot other held
    rcases table.occupied slot other held with listed | counted | leaves | rfl
    · exact Or.inl listed
    · exact Or.inr (Or.inl counted)
    · exact Or.inr (Or.inr leaves)
    · rcases kept with active | attached | running | elsewhere
      · exact Or.inl (table.mem_active held active)
      · exact Or.inr (Or.inl attached)
      · refine Or.inl (table.mem_active held ?_)
        exact eq_true_of_ne_false fun inactive => running (table.stopped _ inactive)
      · rw [(table.slot_eq slot _ held).2.1] at elsewhere
        exact absurd held elsewhere

/-- A removed device leaves; its slot is looked at afterwards. -/
theorem Table.withoutDevice (table : driver.Table unplaced leaving)
    (stopped : (driver.devices pointer).runningClients = 0) :
    (driver.withoutDevice pointer).Table unplaced fun other => leaving other ∨ other = pointer := by
  have slots := @apply_devices_withoutDevice _ driver pointer Device.slot fun _ => rfl
  have ids := @apply_devices_withoutDevice _ driver pointer Device.id fun _ => rfl
  have running := @apply_devices_withoutDevice _ driver pointer Device.runningClients fun _ => rfl
  have clients := @apply_devices_withoutDevice _ driver pointer Device.attachedClients fun _ => rfl
  have stays : ∀ other, other ∈ driver.active.erase pointer ↔
      other ≠ pointer ∧ other ∈ driver.active := fun other => table.nodup.mem_erase_iff
  refine
    { nodup := table.nodup.erase pointer
      distinct := ?_
      active_lt := fun other listed => table.active_lt other ((stays other).mp listed).2
      flagged := ?_
      placed := ?_
      slot_eq := fun slot other held => (slots other).symm ▸ table.slot_eq slot other held
      retired := ?_
      attached := ?_
      stopped := ?_
      occupied := ?_ }
  · change ((driver.active.erase pointer).map fun other =>
      ((driver.withoutDevice pointer).devices other).id).Nodup
    simp only [ids]
    exact table.distinct.sublist (List.erase_sublist.map _)
  · intro other listed
    obtain ⟨differ, before⟩ := (stays other).mp listed
    rw [devices_withoutDevice_of_ne driver differ]
    exact table.flagged other before
  · intro other listed notUnplaced
    rw [slots]
    exact table.placed other ((stays other).mp listed).2 notUnplaced
  · intro slot other held unlisted
    by_cases same : other = pointer
    · rw [same, devices_withoutDevice_self]
    · rw [devices_withoutDevice_of_ne driver same]
      exact table.retired slot other held fun listed => unlisted ((stays other).mpr ⟨same, listed⟩)
  · intro other counted
    rw [clients] at counted
    rw [slots]
    exact table.attached other counted
  · intro other inactive
    rw [running]
    by_cases same : other = pointer
    · rw [same]
      exact stopped
    · rw [devices_withoutDevice_of_ne driver same] at inactive
      exact table.stopped other inactive
  · intro slot other held
    rw [clients]
    by_cases same : other = pointer
    · exact Or.inr (Or.inr (Or.inr same))
    · rcases table.occupied slot other held with listed | counted | leaves
      · exact Or.inl ((stays other).mpr ⟨same, listed⟩)
      · exact Or.inr (Or.inl counted)
      · exact Or.inr (Or.inr (Or.inl leaves))

/-! ## Creations -/

variable {fields : DeviceFields} {device : Device}

theorem devices_appendDevice_self (driver : Driver) (device : Device) :
    (driver.appendDevice device).devices driver.allocated = device :=
  devices_setDevice_self _ _ _

theorem devices_appendDevice_of_ne (driver : Driver) (device : Device) {other : Nat}
    (differ : other ≠ driver.allocated) :
    (driver.appendDevice device).devices other = driver.devices other :=
  devices_setDevice_of_ne _ _ differ

/-- A created device is listed, but not in its slot yet. -/
theorem Table.appendDevice (table : driver.Table none leaving)
    (fresh : Fresh driver fields device) :
    (driver.appendDevice device).Table (some driver.allocated) leaving := by
  have older : ∀ other, other < driver.allocated →
      (driver.appendDevice device).devices other = driver.devices other :=
    fun other before => devices_appendDevice_of_ne driver device (Nat.ne_of_lt before)
  have listedOlder : ∀ other ∈ driver.active,
      (driver.appendDevice device).devices other = driver.devices other :=
    fun other listed => older other (table.active_lt other listed)
  have heldOlder : ∀ slot other, driver.slots slot = some other →
      (driver.appendDevice device).devices other = driver.devices other :=
    fun slot other held => older other (table.slot_eq slot other held).1
  have new : driver.allocated ∉ driver.active :=
    fun listed => Nat.lt_irrefl _ (table.active_lt _ listed)
  refine
    { nodup := List.nodup_append.mpr ⟨table.nodup, List.nodup_singleton _, ?_⟩
      distinct := ?_
      active_lt := ?_
      flagged := ?_
      placed := ?_
      slot_eq := ?_
      retired := ?_
      attached := ?_
      stopped := ?_
      occupied := ?_ }
  · rintro other listed _ (_ | ⟨_, ⟨⟩⟩) same
    exact new (same ▸ listed)
  · change ((driver.active ++ [driver.allocated]).map fun other =>
      ((driver.appendDevice device).devices other).id).Nodup
    rw [List.map_append, List.map_singleton, devices_appendDevice_self,
      List.map_congr_left fun other listed => congrArg Device.id (listedOlder other listed)]
    refine List.nodup_append.mpr ⟨table.distinct, List.nodup_singleton _, ?_⟩
    rintro id member _ (_ | ⟨_, ⟨⟩⟩) same
    obtain ⟨other, listed, rfl⟩ := List.mem_map.mp member
    exact fresh.new_id other listed same
  · intro other listed
    rcases List.mem_append.mp listed with before | this
    · exact Nat.lt_succ_of_lt (table.active_lt other before)
    · rw [List.mem_singleton.mp this]
      exact Nat.lt_succ_self _
  · intro other listed
    rcases List.mem_append.mp listed with before | this
    · rw [listedOlder other before]
      exact table.flagged other before
    · rw [List.mem_singleton.mp this, devices_appendDevice_self]
      exact fresh.active
  · intro other listed placed
    rcases List.mem_append.mp listed with before | this
    · rw [listedOlder other before]
      exact table.placed other before nofun
    · exact absurd (congrArg some (List.mem_singleton.mp this)).symm placed
  · intro slot other held
    rw [heldOlder slot other held]
    have before := table.slot_eq slot other held
    exact ⟨Nat.lt_succ_of_lt before.1, before.2⟩
  · intro slot other held unlisted
    rw [heldOlder slot other held]
    exact table.retired slot other held fun listed => unlisted (List.mem_append_left _ listed)
  · intro other counted
    by_cases same : other = driver.allocated
    · rw [same, devices_appendDevice_self] at counted
      exact absurd fresh.not_attached counted
    · rw [devices_appendDevice_of_ne driver device same] at counted ⊢
      exact table.attached other counted
  · intro other inactive
    by_cases same : other = driver.allocated
    · rw [same, devices_appendDevice_self, fresh.active] at inactive
      cases inactive
    · rw [devices_appendDevice_of_ne driver device same] at inactive ⊢
      exact table.stopped other inactive
  · intro slot other held
    rw [heldOlder slot other held]
    exact (table.occupied slot other held).imp_left (List.mem_append_left _)

theorem Table.publishDevice (table : driver.Table (some pointer) leaving)
    (listed : pointer ∈ driver.active)
    (free : driver.slots (driver.devices pointer).slot = none)
    (within : (driver.devices pointer).slot < kMaximumDevices) :
    (driver.publishDevice pointer).Table none leaving := by
  have kept : ∀ slot other, driver.slots slot = some other →
      (driver.publishDevice pointer).slots slot = some other := by
    intro slot other held
    have differ : slot ≠ (driver.devices pointer).slot := by
      rintro rfl
      rw [free] at held
      cases held
    exact (slots_setSlot_of_ne driver (some pointer) differ).trans held
  have holds : ∀ slot other, (driver.publishDevice pointer).slots slot = some other →
      (slot = (driver.devices pointer).slot ∧ other = pointer) ∨
        driver.slots slot = some other := by
    intro slot other held
    by_cases same : slot = (driver.devices pointer).slot
    · subst same
      rw [Driver.publishDevice, slots_setSlot_self] at held
      exact Or.inl ⟨rfl, (Option.some.inj held).symm⟩
    · exact Or.inr ((slots_setSlot_of_ne driver (some pointer) same).symm.trans held)
  refine
    { nodup := table.nodup
      distinct := table.distinct
      active_lt := table.active_lt
      flagged := table.flagged
      placed := ?_
      slot_eq := ?_
      retired := ?_
      attached := fun other counted => kept _ other (table.attached other counted)
      stopped := table.stopped
      occupied := ?_ }
  · intro other otherListed _
    by_cases same : other = pointer
    · rw [same]
      exact slots_setSlot_self _ _ _
    · exact kept _ other (table.placed other otherListed fun this =>
        same (Option.some.inj this).symm)
  · intro slot other held
    rcases holds slot other held with ⟨rfl, rfl⟩ | before
    · exact ⟨table.active_lt _ listed, rfl, within⟩
    · exact table.slot_eq slot other before
  · intro slot other held unlisted
    rcases holds slot other held with ⟨_, rfl⟩ | before
    · exact absurd listed unlisted
    · exact table.retired slot other before unlisted
  · intro slot other held
    rcases holds slot other held with ⟨_, rfl⟩ | before
    · exact Or.inl listed
    · exact table.occupied slot other before

theorem Table.rollBackDevice (table : driver.Table none leaving) {earlier : List Nat}
    (last : driver.active = earlier ++ [pointer])
    (detached : (driver.devices pointer).attachedClients = 0) :
    (driver.rollBackDevice pointer).Table none leaving := by
  have active : (driver.rollBackDevice pointer).active = earlier := by
    change driver.active.dropLast = earlier
    rw [last, List.dropLast_concat]
  have listed : ∀ other, other ∈ earlier ↔ other ≠ pointer ∧ other ∈ driver.active := by
    intro other
    have nodup := table.nodup
    rw [last, List.nodup_append] at nodup
    rw [last, List.mem_append, List.mem_singleton]
    constructor
    · exact fun member => ⟨nodup.2.2 other member pointer (List.mem_singleton.mpr rfl),
        Or.inl member⟩
    · exact fun ⟨differ, member⟩ => member.resolve_right differ
  have own : driver.slots (driver.devices pointer).slot = some pointer := by
    refine table.placed pointer ?_ nofun
    rw [last]
    exact List.mem_append_right _ (List.mem_singleton.mpr rfl)
  have kept : ∀ slot other, driver.slots slot = some other → other ≠ pointer →
      (driver.rollBackDevice pointer).slots slot = some other := by
    intro slot other held differ
    refine (slots_setSlot_of_ne driver none ?_).trans held
    rintro rfl
    exact differ (Option.some.inj (held.symm.trans own))
  have holds : ∀ slot other, (driver.rollBackDevice pointer).slots slot = some other →
      other ≠ pointer ∧ driver.slots slot = some other := by
    intro slot other held
    by_cases same : slot = (driver.devices pointer).slot
    · rw [same] at held
      have empty : (driver.rollBackDevice pointer).slots (driver.devices pointer).slot = none :=
        slots_setSlot_self _ _ _
      exact absurd (empty.symm.trans held) nofun
    · have before := (slots_setSlot_of_ne driver none same).symm.trans held
      refine ⟨?_, before⟩
      rintro rfl
      exact same (table.slot_eq slot _ before).2.1.symm
  refine
    { nodup := ?_
      distinct := ?_
      active_lt := ?_
      flagged := ?_
      placed := ?_
      slot_eq := fun slot other held => table.slot_eq slot other (holds slot other held).2
      retired := ?_
      attached := ?_
      stopped := table.stopped
      occupied := ?_ }
  · exact table.nodup.sublist (List.dropLast_sublist _)
  · exact table.distinct.sublist ((List.dropLast_sublist _).map _)
  · exact fun other member => table.active_lt other (List.dropLast_subset _ member)
  · exact fun other member => table.flagged other (List.dropLast_subset _ member)
  · intro other member _
    rw [active] at member
    obtain ⟨differ, before⟩ := (listed other).mp member
    exact kept _ other (table.placed other before nofun) differ
  · intro slot other held unlisted
    obtain ⟨differ, before⟩ := holds slot other held
    rw [active, listed] at unlisted
    exact table.retired slot other before fun member => unlisted ⟨differ, member⟩
  · intro other counted
    refine kept _ other (table.attached other counted) ?_
    rintro rfl
    exact counted detached
  · intro slot other held
    obtain ⟨differ, before⟩ := holds slot other held
    rw [active, listed]
    exact (table.occupied slot other before).imp_left fun member => ⟨differ, member⟩

/-! ## Clients -/

/-- The counters of a device change under the mutex. -/
theorem Table.addClient (table : driver.Table none leaving)
    (placed : driver.slots (driver.devices pointer).slot = some pointer)
    (room : (driver.devices pointer).attachedClients.toNat + 1 < 2 ^ 32 ∨ leaving pointer) :
    (driver.setDevice pointer { driver.devices pointer with
      attachedClients := (driver.devices pointer).attachedClients + 1 }).Table none leaving := by
  refine table.setDevice rfl rfl rfl (fun _ => placed) (table.stopped pointer) fun slot held => ?_
  rcases room with room | leaves
  swap
  · exact Or.inr (Or.inr leaves)
  refine (table.occupied slot pointer held).imp_right fun _ => Or.inl ?_
  intro wrapped
  have value := congrArg UInt32.toNat wrapped
  rw [UInt32.toNat_add, UInt32.toNat_one, Nat.mod_eq_of_lt room] at value
  exact Nat.succ_ne_zero _ value

theorem Table.removeClient (table : driver.Table none leaving)
    (counted : (driver.devices pointer).attachedClients ≠ 0) :
    ((driver.setDevice pointer { driver.devices pointer with
      attachedClients := (driver.devices pointer).attachedClients - 1 }).releaseRetiredSlotLocked
        pointer).Table none leaving := by
  refine Table.release ((table.mono fun _ => Or.inl).setDevice rfl rfl rfl
    (fun _ => table.attached pointer counted) (table.stopped pointer) fun slot held => ?_)
  exact Or.inr (Or.inr (Or.inr rfl))

theorem Table.start (table : driver.Table none leaving)
    (active : (driver.devices pointer).active = true) :
    (driver.setDevice pointer { driver.devices pointer with
      runningClients := (driver.devices pointer).runningClients + 1 }).Table none leaving :=
  table.setDevice rfl rfl rfl (table.attached pointer)
    (fun inactive => absurd (active.symm.trans inactive) nofun)
    fun slot held => table.occupied slot pointer held

theorem Table.stop (table : driver.Table none leaving)
    (counted : (driver.devices pointer).runningClients ≠ 0) :
    ((driver.setDevice pointer { driver.devices pointer with
      runningClients := (driver.devices pointer).runningClients - 1 }).releaseRetiredSlotLocked
        pointer).Table none leaving := by
  refine Table.release ((table.mono fun _ => Or.inl).setDevice rfl rfl rfl
    (table.attached pointer) (fun inactive => absurd (table.stopped pointer inactive) counted)
    fun slot held => (table.occupied slot pointer held).imp_right (Or.imp_right Or.inl))

end Functions

end Driver

namespace DriverSystem

open Driver

/-! ## The invariant of the calls -/

/-- The device that is listed but not published. -/
def unplaced (system : DriverSystem) : Option Nat :=
  match system.creation with
  | some ⟨_, device, .appended⟩ => some device
  | _ => none

/-- A call is between the two sections of the removal of the device. -/
def Leaving (calls : Nat → Option (DriverCall × DriverProgress)) (device : Nat) : Prop :=
  ∃ thread call, calls thread = some (call, .removed device)

/-- A device that is being created is the last of the list, and has no clients. -/
structure Creating (system : DriverSystem) (creation : Creation) : Prop where
  calling : ∃ call, system.calls creation.thread = some (call, .creating)
  last : ∃ earlier, system.driver.active = earlier ++ [creation.device]
  slot_lt : (system.driver.devices creation.device).slot < kMaximumDevices
  slot_free : creation.stage = .appended →
    system.driver.slots (system.driver.devices creation.device).slot = none
  detached : (system.driver.devices creation.device).attachedClients = 0
  stopped : (system.driver.devices creation.device).runningClients = 0

/-- The table agrees.  What is left in the slots is known if the counters of the
clients are bounded. -/
structure Sound (system : DriverSystem) (bounded : Prop) : Prop where
  table : system.driver.Table system.unplaced fun device => bounded → Leaving system.calls device
  creating : ∀ creation, system.creation = some creation → system.Creating creation

/-- Another step of a call that removes nothing leaves the leaving devices. -/
theorem Leaving.update {calls : Nat → Option (DriverCall × DriverProgress)} {device thread : Nat}
    (leaving : Leaving calls device) (other : ∀ call, calls thread ≠ some (call, .removed device))
    (call : Option (DriverCall × DriverProgress)) :
    Leaving (Function.update calls thread call) device := by
  obtain ⟨remover, removal, removes⟩ := leaving
  refine ⟨remover, removal, ?_⟩
  rw [Function.update_of_ne, removes]
  rintro rfl
  exact other removal removes

section Steps

variable {system next : DriverSystem} {returned : Option OSStatus} {thread : Nat} {bounded : Prop}

/-- A step of a call that is neither creating nor removing, and that changes no
more than pending flags. -/
theorem Sound.setCall (sound : system.Sound bounded) {call : Option (DriverCall × DriverProgress)}
    {driver : Driver} {events : List PendingEvent}
    (notCreating : ∀ call, system.calls thread ≠ some (call, .creating))
    (notRemoving : ∀ call device, system.calls thread ≠ some (call, .removed device))
    (changed : driver = system.driver ∨
      ∃ device pending, driver = system.driver.setPending device pending) :
    ({ system with driver := driver, events := events }.setCall thread call).Sound bounded := by
  have table : driver.Table system.unplaced fun device =>
      bounded → Leaving system.calls device := by
    rcases changed with rfl | ⟨device, pending, rfl⟩
    · exact sound.table
    · exact sound.table.setPending device pending
  refine ⟨table.mono fun device leaving counts =>
    (leaving counts).update (notRemoving · device) call, ?_⟩
  intro creation found
  have creating := sound.creating creation found
  obtain ⟨creator, calling⟩ := creating.calling
  have differ : creation.thread ≠ thread := by
    intro same
    exact notCreating creator (same ▸ calling)
  have stillCalling : ∃ call', Function.update system.calls thread call creation.thread =
      some (call', .creating) :=
    ⟨creator, (Function.update_of_ne differ _ _).trans calling⟩
  rcases changed with rfl | ⟨device, pending, rfl⟩
  · exact { creating with calling := stillCalling }
  · have slot := @apply_devices_setPending _ system.driver device pending Device.slot (fun _ => rfl)
      creation.device
    have clients := @apply_devices_setPending _ system.driver device pending
      Device.attachedClients (fun _ => rfl) creation.device
    have running := @apply_devices_setPending _ system.driver device pending
      Device.runningClients (fun _ => rfl) creation.device
    exact
      { calling := stillCalling
        last := creating.last
        slot_lt := slot.trans_lt creating.slot_lt
        slot_free := fun appended => (congrArg system.driver.slots slot).trans
          (creating.slot_free appended)
        detached := clients.trans creating.detached
        stopped := running.trans creating.stopped }

/-- While no creation holds the mutex, the table is all that matters. -/
theorem Sound.ofTable (free : system.creation = none) {driver : Driver}
    {events : List PendingEvent} {call : Option (DriverCall × DriverProgress)}
    (table : driver.Table none fun device =>
      bounded → Leaving (Function.update system.calls thread call) device) :
    ({ system with driver := driver, events := events }.setCall thread call).Sound bounded := by
  refine ⟨?_, ?_⟩
  · have same : ({ system with driver := driver, events := events
        }.setCall thread call).unplaced = none := by
      change (match system.creation with
        | some ⟨_, device, .appended⟩ => some device
        | _ => none) = none
      rw [free]
    rw [same]
    exact table
  · intro creation found
    exact absurd (free.symm.trans found) nofun

theorem Sound.table_of_free (sound : system.Sound bounded) (free : system.creation = none) :
    system.driver.Table none fun device => bounded → Leaving system.calls device := by
  have table := sound.table
  rwa [unplaced, free] at table

/-- A finished section of a call that removes nothing. -/
theorem Sound.afterCall (free : system.creation = none) {driver : Driver}
    {events : List PendingEvent} {call : Option (DriverCall × DriverProgress)}
    (notRemoving : ∀ call device, system.calls thread ≠ some (call, .removed device))
    (table : driver.Table none fun device => bounded → Leaving system.calls device) :
    ({ system with driver := driver, events := events }.setCall thread call).Sound bounded :=
  .ofTable free (table.mono fun device leaving counts =>
    (leaving counts).update (notRemoving · device) call)

theorem Sound.created (sound : system.Sound bounded) (free : system.creation = none)
    (notRemoving : ∀ call device, system.calls thread ≠ some (call, .removed device))
    {fields : DeviceFields} {device : Device} (fresh : Fresh system.driver fields device)
    (call : DriverCall) :
    ({ system with
      driver := system.driver.appendDevice device
      creation := some ⟨thread, system.driver.allocated, .appended⟩
        }.setCall thread (some (call, .creating))).Sound bounded := by
  have table := (sound.table_of_free free).appendDevice fresh
  have own := devices_appendDevice_self system.driver device
  refine ⟨table.mono fun other leaving counts =>
    (leaving counts).update (notRemoving · other) _, ?_⟩
  rintro _ ⟨⟩
  exact
    { calling := ⟨call, Function.update_self _ _ _⟩
      last := ⟨system.driver.active, rfl⟩
      slot_lt := (congrArg Device.slot own).trans_lt fresh.slot_lt
      slot_free := fun _ => (congrArg system.driver.slots (congrArg Device.slot own)).trans
        fresh.slot_free
      detached := (congrArg Device.attachedClients own).trans fresh.not_attached
      stopped := (congrArg Device.runningClients own).trans fresh.not_running }

theorem Creating.listed {creation : Creation} (creating : system.Creating creation) :
    creation.device ∈ system.driver.active := by
  obtain ⟨earlier, last⟩ := creating.last
  rw [last]
  exact List.mem_append_right _ (List.mem_singleton.mpr rfl)

theorem Sound.published (sound : system.Sound bounded) {device : Nat}
    (appended : system.creation = some ⟨thread, device, .appended⟩) :
    Sound { system with
      driver := system.driver.publishDevice device
      creation := some ⟨thread, device, .published⟩ } bounded := by
  have creating := sound.creating _ appended
  have table := sound.table
  rw [unplaced, appended] at table
  refine ⟨table.publishDevice creating.listed (creating.slot_free rfl) creating.slot_lt, ?_⟩
  rintro _ ⟨⟩
  exact { creating with slot_free := nofun }

/-- The end of a creation gives the mutex back. -/
theorem Sound.endCreation (sound : system.Sound bounded) {creation : Creation}
    (found : system.creation = some creation) {driver : Driver}
    (table : driver.Table none fun device => bounded → Leaving system.calls device) :
    ({ system with driver := driver, creation := none
        }.setCall creation.thread none).Sound bounded := by
  obtain ⟨call, calling⟩ := (sound.creating creation found).calling
  refine @Sound.afterCall { system with creation := none } creation.thread bounded rfl driver
    system.events none ?_ table
  exact fun call device => calling ▸ nofun

theorem Sound.table_published (sound : system.Sound bounded) {device : Nat} {stage : CreationStage}
    (found : system.creation = some ⟨thread, device, stage⟩) (later : stage ≠ .appended) :
    system.driver.Table none fun device => bounded → Leaving system.calls device := by
  have table := sound.table
  rw [unplaced, found] at table
  cases stage with
  | appended => exact absurd rfl later
  | published => exact table
  | failed status => exact table

theorem Sound.step (sound : system.Sound bounded) {action : DriverAction}
    (few : bounded → system.fewClients action = true)
    (effect : Effect system action next returned) : next.Sound bounded := by
  cases effect with
  | called idle =>
      refine sound.setCall ?_ ?_ (Or.inl rfl)
      · exact fun call => idle ▸ nofun
      · exact fun call device => idle ▸ nofun
  | found calling =>
      refine sound.setCall ?_ ?_ (Or.inl rfl)
      · exact fun call => calling ▸ nofun
      · exact fun call device => calling ▸ nofun
  | missed calling =>
      refine sound.setCall ?_ ?_ (Or.inl rfl)
      · exact fun call => calling ▸ nofun
      · exact fun call device => calling ▸ nofun
  | refused free calling early =>
      refine .afterCall free ?_ (sound.table_of_free free)
      intro call device removing
      rw [calling] at removing
      cases removing
      rcases early with same | ⟨_, same⟩
      · cases same
      · cases same
  | created free calling accepted fresh =>
      exact sound.created free (fun call device => calling ▸ nofun) fresh _
  | requested free calling =>
      exact .afterCall free (fun call device => calling ▸ nofun)
        ((sound.table_of_free free).setPending _ _)
  | destroyed free calling stopped =>
      refine .ofTable free (((sound.table_of_free free).withoutDevice stopped).mono ?_)
      rintro device (leaving | rfl) counts
      · exact (leaving counts).update (fun call => calling ▸ nofun) _
      · exact ⟨_, _, Function.update_self _ _ _⟩
  | @performed thread device _ _ _ _ _ free calling pending stopped =>
      have table := (sound.table_of_free free).setPending device false
      refine .ofTable free ((table.withoutDevice ?_).mono ?_)
      · exact (apply_devices_setPending Device.runningClients (fun _ => rfl) device).trans stopped
      · rintro device (leaving | rfl) counts
        · exact (leaving counts).update (fun call => calling ▸ nofun) _
        · exact ⟨_, _, Function.update_self _ _ _⟩
  | performRefused free calling =>
      exact .afterCall free (fun call device => calling ▸ nofun)
        ((sound.table_of_free free).setPending _ _)
  | attached free calling placed =>
      rw [fewClients, calling] at few
      refine .afterCall free (fun call device => calling ▸ nofun)
        ((sound.table_of_free free).addClient placed ?_)
      by_cases counts : bounded
      · exact Or.inl (of_decide_eq_true (few counts))
      · exact Or.inr fun held => absurd held counts
  | detached free calling counted =>
      exact .afterCall free (fun call device => calling ▸ nofun)
        ((sound.table_of_free free).removeClient counted)
  | started free calling active =>
      exact .afterCall free (fun call device => calling ▸ nofun)
        ((sound.table_of_free free).start active)
  | stopped free calling counted =>
      exact .afterCall free (fun call device => calling ▸ nofun)
        ((sound.table_of_free free).stop counted)
  | published appended => exact sound.published appended
  | stored published =>
      have table := sound.table_published published nofun
      exact sound.endCreation published { table with }
  | unstored published =>
      refine ⟨sound.table_published published nofun, ?_⟩
      rintro _ ⟨⟩
      exact { sound.creating _ published with slot_free := nofun }
  | rolledBack failed =>
      have creating := sound.creating _ failed
      obtain ⟨earlier, last⟩ := creating.last
      have table := sound.table_published failed nofun
      exact sound.endCreation failed (table.rollBackDevice last creating.detached)
  | answered calling =>
      refine sound.setCall ?_ ?_ (Or.inl rfl)
      · exact fun call => calling ▸ nofun
      · exact fun call device => calling ▸ nofun
  | unanswered calling =>
      refine sound.setCall ?_ ?_ (Or.inr ⟨_, _, rfl⟩)
      · exact fun call => calling ▸ nofun
      · exact fun call device => calling ▸ nofun
  | aborted calling =>
      refine sound.setCall ?_ ?_ (Or.inr ⟨_, _, rfl⟩)
      · exact fun call => calling ▸ nofun
      · exact fun call device => calling ▸ nofun
  | @released thread device call free calling =>
      refine .ofTable free (Table.release ((sound.table_of_free free).mono ?_))
      intro other leaving
      by_cases same : other = device
      · exact Or.inr same
      · refine Or.inl fun counts => (leaving counts).update ?_ none
        intro call removing
        rw [calling] at removing
        cases removing
        exact same rfl

end Steps

end DriverSystem

/-! ## Starting -/

namespace Driver

variable {driver : Driver} {leaving : Nat → Prop}

/-- A device that is read from the storage is listed and published at once. -/
theorem addDeviceLocked_cases (driver : Driver) (fields : List String) (allocates : Bool)
    (write : OSStatus) :
    (∃ status, driver.addDeviceLocked fields false allocates write = (status, driver)) ∨
      ∃ parsed device, DeviceFields.parse fields = some parsed ∧ Fresh driver parsed device ∧
        driver.addDeviceLocked fields false allocates write =
          (.noErr, (driver.appendDevice device).publishDevice driver.allocated) := by
  rw [addDeviceLocked]
  cases prepared : driver.prepareDevice fields allocates with
  | done status => exact Or.inl ⟨status, rfl⟩
  | fresh device =>
      obtain ⟨parsed, accepted, fresh⟩ := prepareDevice_fresh prepared
      exact Or.inr ⟨parsed, device, accepted, fresh, if_neg Bool.false_ne_true⟩

theorem Table.addDevice (table : driver.Table none leaving) {fields : DeviceFields}
    {device : Device} (fresh : Fresh driver fields device) :
    ((driver.appendDevice device).publishDevice driver.allocated).Table none leaving := by
  have own := devices_appendDevice_self driver device
  refine (table.appendDevice fresh).publishDevice ?_ ?_ ?_
  · exact List.mem_append_right _ (List.mem_singleton.mpr rfl)
  · exact (congrArg driver.slots (congrArg Device.slot own)).trans fresh.slot_free
  · exact (congrArg Device.slot own).trans_lt fresh.slot_lt

/-- What every added device keeps holds after all lines of the inventory. -/
theorem loadLines_induction {holds : Driver → Prop}
    (add : ∀ {driver : Driver} {texts : List String} {fields : DeviceFields} {device : Device},
      holds driver → DeviceFields.parse texts = some fields → Fresh driver fields device →
        holds ((driver.appendDevice device).publishDevice driver.allocated))
    (start : holds driver) (allocates : Nat → Bool) (lines : List String) :
    holds (driver.loadLines allocates lines).2 := by
  induction lines generalizing driver with
  | nil => exact start
  | cons line lines ih =>
      rw [Driver.loadLines]
      by_cases empty : line = ""
      · rw [if_pos empty]
        exact ih start
      · rw [if_neg empty]
        rcases driver.addDeviceLocked_cases (split '\t' line) (allocates driver.allocated)
            .noErr with
          ⟨status, kept⟩ | ⟨parsed, device, accepted, fresh, added⟩
        · rw [kept]
          cases status with
          | noErr => exact ih start
          | _ => exact start
        · rw [added]
          exact ih (add start accepted fresh)

theorem initializeDriver_induction {holds : Driver → Prop}
    (add : ∀ {driver : Driver} {texts : List String} {fields : DeviceFields} {device : Device},
      holds driver → DeviceFields.parse texts = some fields → Fresh driver fields device →
        holds ((driver.appendDevice device).publishDevice driver.allocated))
    {storage : Option String} (start : holds { loaded storage with hosted := true })
    (copyStatus : OSStatus) (allocates : Nat → Bool) :
    holds ((loaded storage).initializeDriver copyStatus allocates).2 := by
  rw [initializeDriver]
  by_cases copied : copyStatus = .noErr
  · rw [if_pos copied]
    cases storage with
    | none => exact start
    | some inventory => exact loadLines_induction add start allocates _
  · rw [if_neg copied]
    exact start

theorem table_initializeDriver (storage : Option String) (copyStatus : OSStatus)
    (allocates : Nat → Bool) :
    ((loaded storage).initializeDriver copyStatus allocates).2.Table none leaving :=
  initializeDriver_induction (fun table _ fresh => table.addDevice fresh)
    { @table_loaded leaving storage with } copyStatus allocates

/-! ## Object ids -/

theorem toNat_deviceObjectID {device : Device} (within : device.slot < kMaximumDevices) :
    device.deviceObjectID.toNat = 100 + device.slot * 3 ∧
      device.inputStreamObjectID.toNat = 101 + device.slot * 3 ∧
      device.outputStreamObjectID.toNat = 102 + device.slot * 3 := by
  have small : device.slot * 3 < 12288 := Nat.mul_lt_mul_of_pos_right within (by decide)
  have first : kFirstDeviceObjectID.toNat = 100 := rfl
  have one : (1 : UInt32).toNat = 1 := rfl
  have two : (2 : UInt32).toNat = 2 := rfl
  have own : device.deviceObjectID.toNat = 100 + device.slot * 3 := by
    rw [Device.deviceObjectID, UInt32.toNat_add, UInt32.toNat_ofNat', kObjectsPerDevice]
    omega
  refine ⟨own, ?_, ?_⟩
  · rw [Device.inputStreamObjectID, UInt32.toNat_add, own]
    omega
  · rw [Device.outputStreamObjectID, UInt32.toNat_add, own]
    omega

/-- The three object ids of a device in its slot resolve to it. -/
theorem deviceForObject_eq {pointer : Nat} {objectID : UInt32} {stream : Nat}
    (placed : driver.slots (driver.devices pointer).slot = some pointer)
    (within : (driver.devices pointer).slot < kMaximumDevices)
    (value : objectID.toNat = 100 + (driver.devices pointer).slot * 3 + stream)
    (few : stream < 3) : driver.deviceForObject objectID = some pointer := by
  have first : kFirstDeviceObjectID.toNat = 100 := rfl
  have high : kFirstDeviceObjectID ≤ objectID := by
    rw [UInt32.le_iff_toNat_le, value]
    omega
  have slot : (objectID - kFirstDeviceObjectID).toNat / kObjectsPerDevice =
      (driver.devices pointer).slot := by
    rw [UInt32.toNat_sub_of_le _ _ high, value, kObjectsPerDevice]
    omega
  have low : ¬ objectID > (driver.devices pointer).outputStreamObjectID := by
    rw [gt_iff_lt, UInt32.lt_iff_toNat_lt, value, (toNat_deviceObjectID within).2.2]
    omega
  rw [deviceForObject, if_neg (UInt32.not_lt.mpr high)]
  dsimp only
  rw [slot, if_neg (Nat.not_le.mpr within), placed]
  exact if_neg low

/-- A look at a retired device puts nothing into a slot. -/
theorem slots_releaseRetiredSlotLocked {pointer slot other : Nat}
    (held : (driver.releaseRetiredSlotLocked pointer).slots slot = some other) :
    driver.slots slot = some other := by
  rcases driver.releaseRetiredSlotLocked_cases pointer with
    ⟨_, _, _, _, released⟩ | ⟨_, same⟩
  · rw [released] at held
    by_cases own : slot = (driver.devices pointer).slot
    · rw [own, slots_setSlot_self] at held
      cases held
    · exact (slots_setSlot_of_ne driver none own).symm.trans held
  · rw [same] at held
    exact held

end Driver

namespace DriverSystem

open Driver

/-! ## The table of every run -/

/-- The table when no creation holds the mutex. -/
structure Intact (system : DriverSystem) : Prop where
  distinct_ids : (system.driver.active.map fun device => (system.driver.devices device).id).Nodup
  distinct_slots :
    (system.driver.active.map fun device => (system.driver.devices device).slot).Nodup
  placed : ∀ device ∈ system.driver.active,
    system.driver.slots (system.driver.devices device).slot = some device
  resolved : ∀ device ∈ system.driver.active,
    system.driver.deviceForObject (system.driver.devices device).deviceObjectID = some device ∧
    system.driver.deviceForObject (system.driver.devices device).inputStreamObjectID = some device ∧
    system.driver.deviceForObject (system.driver.devices device).outputStreamObjectID = some device
  /-- When no removal is between its sections, what is in a slot is listed, or
  retired with clients. -/
  occupied : (∀ device, ¬ Leaving system.calls device) → ∀ slot device,
    system.driver.slots slot = some device → device ∈ system.driver.active ∨
      ((system.driver.devices device).active = false ∧
        (system.driver.devices device).attachedClients ≠ 0)

/-- A device that comes into a slot finds it empty, and no device of that slot
has clients. -/
def GivesFreeSlots (system next : DriverSystem) : Prop :=
  ∀ slot device, next.driver.slots slot = some device →
    system.driver.slots slot = some device ∨
      (system.driver.slots slot = none ∧ ∀ other, (system.driver.devices other).slot = slot →
        (system.driver.devices other).attachedClients = 0)

section TableRuns

variable {system next : DriverSystem} {action : DriverAction} {returned : Option OSStatus}
  {bounded : Prop}

theorem Sound.intact (sound : system.Sound True) (free : system.creation = none) :
    system.Intact := by
  have table := sound.table_of_free free
  have placed : ∀ device ∈ system.driver.active,
      system.driver.slots (system.driver.devices device).slot = some device :=
    fun device listed => table.placed device listed nofun
  refine
    { distinct_ids := table.distinct
      distinct_slots := ?_
      placed := placed
      resolved := ?_
      occupied := ?_ }
  · refine table.nodup.map_on ?_
    intro device listed other otherListed same
    have own := placed device listed
    rw [same, placed other otherListed] at own
    exact (Option.some.inj own).symm
  · intro device listed
    have own := placed device listed
    have within := (table.slot_eq _ device own).2.2
    obtain ⟨first, second, third⟩ := toNat_deviceObjectID within
    refine ⟨deviceForObject_eq own within (first.trans (Nat.add_zero _).symm) (by decide),
      @deviceForObject_eq _ _ _ 1 own within (by omega) (by decide),
      @deviceForObject_eq _ _ _ 2 own within (by omega) (by decide)⟩
  · intro settled slot device held
    by_cases listed : device ∈ system.driver.active
    · exact Or.inl listed
    · refine Or.inr ⟨table.retired slot device held listed, ?_⟩
      rcases table.occupied slot device held with listed' | counted | leaving
      · exact absurd listed' listed
      · exact counted
      · exact absurd (leaving trivial) (settled device)

theorem Sound.givesFreeSlots (sound : system.Sound bounded)
    (effect : Effect system action next returned) :
    system.GivesFreeSlots next := by
  intro slot device held
  cases effect with
  | detached =>
      exact Or.inl (@slots_releaseRetiredSlotLocked (system.driver.setDevice _ _) _ _ _ held)
  | stopped =>
      exact Or.inl (@slots_releaseRetiredSlotLocked (system.driver.setDevice _ _) _ _ _ held)
  | released => exact Or.inl (slots_releaseRetiredSlotLocked held)
  | @published thread created appended =>
      have creating := sound.creating _ appended
      have empty := creating.slot_free rfl
      by_cases own : slot = (system.driver.devices created).slot
      · subst own
        refine Or.inr ⟨empty, fun other same => ?_⟩
        by_contra counted
        have placed := sound.table.attached other counted
        rw [same, empty] at placed
        cases placed
      · exact Or.inl ((slots_setSlot_of_ne _ _ own).symm.trans held)
  | @rolledBack thread created status failed =>
      by_cases own : slot = (system.driver.devices created).slot
      · subst own
        have empty : (system.driver.rollBackDevice created).slots
            (system.driver.devices created).slot = none := slots_setSlot_self _ _ _
        exact absurd (empty.symm.trans held) nofun
      · exact Or.inl ((slots_setSlot_of_ne _ _ own).symm.trans held)
  | _ => exact Or.inl held

/-- The table is sound in the runs of a driver that has read its storage, with
counted clients if its steps bound them. -/
theorem sound_invariant (storage : Option String) (copyStatus : OSStatus)
    (allocates : Nat → Bool)
    {steps : DriverSystem → DriverAction → Option (DriverSystem × Option OSStatus)}
    (taken : ∀ {state next : DriverSystem} {action : DriverAction} {returned : Option OSStatus},
      steps state action = some (next, returned) →
        step state action = some (next, returned) ∧
          (bounded → state.fewClients action = true)) :
    Invariant steps (idle ((Driver.loaded storage).initializeDriver copyStatus allocates).2)
      fun state => state.Sound bounded where
  start := ⟨table_initializeDriver storage copyStatus allocates, nofun⟩
  step := by
    intro state next action returned sound stepped
    obtain ⟨stepped, few⟩ := taken stepped
    exact sound.step few (effect_of_step stepped)

/-- In every run of concurrent calls, each listed device is in its own slot and
its object ids resolve to it whenever the mutex is free.  A slot is given to a
new device only when no device of that slot has clients. -/
theorem device_table_intact (storage : Option String) (copyStatus : OSStatus)
    (allocates : Nat → Bool)
    (reached : Reachable (restrict fewClients step)
      (idle ((Driver.loaded storage).initializeDriver copyStatus allocates).2) system) :
    (system.creation = none → system.Intact) ∧
      ∀ action next returned, system.step action = some (next, returned) →
        system.GivesFreeSlots next := by
  have invariant : Invariant (restrict fewClients step)
      (idle ((Driver.loaded storage).initializeDriver copyStatus allocates).2)
      fun state => state.Sound True := by
    refine sound_invariant storage copyStatus allocates fun stepped => ?_
    obtain ⟨few, stepped⟩ := restrict_eq_some_iff.mp stepped
    exact ⟨stepped, fun _ => few⟩
  have sound := invariant.reachable reached
  exact ⟨sound.intact, fun action next returned stepped =>
    sound.givesFreeSlots (effect_of_step stepped)⟩

/-- A device is removed while it has a client, and keeps its slot from the next
device; when the client is gone, another device gets the slot. -/
def slotReuse : List DriverAction :=
  [.call 0 (.control (some "create\tcable\tCable\t2\t2\t48000")), .enter 0 true .noErr,
    .publish, .writeStorage .noErr,
    .call 1 (.addDeviceClient 100), .lookup 1, .enter 1 true .noErr,
    .call 0 (.control (some "delete\tcable")), .enter 0 true .noErr, .answer 0 (some .noErr),
    .call 2 (.performDeviceConfigurationChange 100 1 0), .lookup 2, .enter 2 true .noErr,
    .release 2,
    .call 0 (.control (some "create\tsecond\tSecond\t2\t2\t48000")), .enter 0 true .noErr,
    .publish, .writeStorage .noErr,
    .call 1 (.removeDeviceClient 100), .lookup 1, .enter 1 true .noErr,
    .call 0 (.control (some "create\tthird\tThird\t1\t1\t44100")), .enter 0 true .noErr,
    .publish, .writeStorage .noErr]

theorem run_slotReuse :
    (LabelledSteps.run (restrict fewClients step)
      (idle ((Driver.loaded none).initializeDriver .noErr fun _ => true).2) slotReuse).map
        (fun system => (system.creation, system.driver.active,
          system.driver.active.map fun device => (system.driver.devices device).slot)) =
      some (none, [1, 2], [1, 0]) := by
  decide +kernel

/-- Three devices, the last of which has the slot of the first. -/
theorem device_table_intact_slotReuse :
    ∃ system, LabelledSteps.run (restrict fewClients step)
        (idle ((Driver.loaded none).initializeDriver .noErr fun _ => true).2) slotReuse =
          some system ∧
      system.driver.active = [1, 2] ∧ (system.driver.devices 2).slot = 0 ∧ system.Intact ∧
      ∀ action next returned, system.step action = some (next, returned) →
        system.GivesFreeSlots next := by
  obtain ⟨system, ran, seen⟩ := Option.map_eq_some_iff.mp run_slotReuse
  obtain ⟨free, active, slots⟩ : system.creation = none ∧ system.driver.active = [1, 2] ∧
      (system.driver.active.map fun device => (system.driver.devices device).slot) = [1, 0] := by
    simpa only [Prod.mk.injEq] using seen
  rw [active] at slots
  obtain ⟨intact, gives⟩ :=
    device_table_intact none .noErr (fun _ => true) (Reachable.start.run ran)
  exact ⟨system, ran, active, (List.cons.inj (List.cons.inj slots).2).1, intact free, gives⟩

end TableRuns

end DriverSystem

end VCable
