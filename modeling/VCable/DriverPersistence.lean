import Mathlib.Data.List.Perm.Subperm
import VCable.DriverInventory

/-!
# The storage follows the list of devices

A creation and a removal write the inventory before they are final, and take
their change back when the write fails.  So the stored text is the inventory
whenever no creation is in progress, and a driver that is started on it has the
same devices.
-/

namespace VCable

open LabelledSteps

namespace DriverSystem

open Driver

/-! ## The invariant of the storage -/

/-- The devices that the storage should have: all listed ones but the one that
is being created. -/
def settled (system : DriverSystem) : List Nat :=
  if system.creation.isSome then system.driver.active.dropLast else system.driver.active

/-- What a list of pointers shows. -/
def shown (driver : Driver) (pointers : List Nat) : List DeviceFields :=
  pointers.map fun pointer => .ofDevice (driver.devices pointer)

/-- All listed devices are valid, and the storage has the settled ones. -/
structure Stored (system : DriverSystem) : Prop where
  valid : ∀ pointer ∈ system.driver.active,
    (DeviceFields.ofDevice (system.driver.devices pointer)).Valid
  text : system.driver.storage.getD "" = inventoryText (shown system.driver system.settled)

theorem shown_congr {driver next : Driver} {pointers : List Nat}
    (same : ∀ pointer ∈ pointers, DeviceFields.ofDevice (next.devices pointer) =
      .ofDevice (driver.devices pointer)) : shown next pointers = shown driver pointers :=
  List.map_congr_left same

theorem settled_of_free {system : DriverSystem} (free : system.creation = none) :
    system.settled = system.driver.active := by
  rw [settled, free]
  rfl

theorem settled_of_creation {system : DriverSystem} {creation : Creation}
    (creating : system.creation = some creation) :
    system.settled = system.driver.active.dropLast := by
  rw [settled, creating]
  rfl

section Steps

variable {system next : DriverSystem} {action : DriverAction} {returned : Option OSStatus}
  {bounded : Prop}

/-- A step that keeps the list, the storage and the fields of the devices. -/
theorem Stored.keep (stored : system.Stored)
    (creation : next.creation.isSome = system.creation.isSome)
    (active : next.driver.active = system.driver.active)
    (storage : next.driver.storage = system.driver.storage)
    (same : ∀ pointer, DeviceFields.ofDevice (next.driver.devices pointer) =
      .ofDevice (system.driver.devices pointer)) : next.Stored := by
  refine ⟨fun pointer listed => ?_, ?_⟩
  · rw [active] at listed
    rw [same]
    exact stored.valid pointer listed
  · rw [storage, stored.text, settled, settled, creation, active]
    exact congrArg inventoryText (shown_congr fun pointer _ => same pointer).symm

theorem Stored.created (stored : system.Stored) (sound : system.Sound bounded)
    (free : system.creation = none) {fields : DeviceFields} {device : Device}
    (fresh : Fresh system.driver fields device) (valid : fields.Valid)
    (creating : next.creation.isSome = true)
    (appended : next.driver = system.driver.appendDevice device) : next.Stored := by
  have older : ∀ pointer ∈ system.driver.active,
      DeviceFields.ofDevice (next.driver.devices pointer) =
        .ofDevice (system.driver.devices pointer) := by
    intro pointer listed
    rw [appended, devices_appendDevice_of_ne system.driver device
      (Nat.ne_of_lt (sound.table.active_lt pointer listed))]
  have active : next.driver.active = system.driver.active ++ [system.driver.allocated] := by
    rw [appended]
    rfl
  refine ⟨fun pointer listed => ?_, ?_⟩
  · rw [active] at listed
    rcases List.mem_append.mp listed with before | new
    · rw [older pointer before]
      exact stored.valid pointer before
    · rw [List.mem_singleton.mp new, appended, devices_appendDevice_self, fresh.fields_eq]
      exact valid
  · have storage : next.driver.storage = system.driver.storage := by
      rw [appended]
      rfl
    rw [storage, stored.text, settled_of_free free, settled, if_pos creating, active,
      List.dropLast_concat, shown_congr older]

theorem Stored.removed (stored : system.Stored) (free : next.creation = none) {driver : Driver}
    {pointer : Nat} (removed : next.driver = driver.withoutDevice pointer)
    (active : driver.active = system.driver.active)
    (same : ∀ other, DeviceFields.ofDevice (driver.devices other) =
      .ofDevice (system.driver.devices other)) : next.Stored := by
  have kept : ∀ other, DeviceFields.ofDevice (next.driver.devices other) =
      .ofDevice (driver.devices other) := by
    rw [removed]
    exact apply_devices_withoutDevice DeviceFields.ofDevice fun _ => rfl
  have left : next.driver.active = driver.active.erase pointer := by
    rw [removed]
    rfl
  refine ⟨fun other listed => ?_, ?_⟩
  · rw [left, active] at listed
    rw [kept, same]
    exact stored.valid other (List.mem_of_mem_erase listed)
  · have storage : next.driver.storage =
        some (inventoryText (shown driver (driver.active.erase pointer))) := by
      rw [removed]
      rfl
    rw [storage, Option.getD_some, settled_of_free free, left]
    exact congrArg inventoryText (shown_congr fun other _ => kept other).symm

theorem ofDevice_releaseRetiredSlotLocked (driver : Driver) (pointer other : Nat) :
    DeviceFields.ofDevice ((driver.releaseRetiredSlotLocked pointer).devices other) =
      .ofDevice (driver.devices other) := by
  rw [(driver.devices_releaseRetiredSlotLocked pointer).1]

theorem Stored.step (stored : system.Stored) (sound : system.Sound bounded)
    (effect : Effect system action next returned) : next.Stored := by
  cases effect with
  | created free calling accepted fresh =>
      exact stored.created sound free fresh (DeviceFields.valid_of_parse accepted) rfl rfl
  | destroyed free => exact stored.removed free rfl rfl fun _ => rfl
  | performed free =>
      exact stored.removed free rfl rfl
        (apply_devices_setPending DeviceFields.ofDevice fun _ => rfl)
  | requested =>
      exact stored.keep rfl rfl rfl (apply_devices_setPending DeviceFields.ofDevice fun _ => rfl)
  | performRefused =>
      exact stored.keep rfl rfl rfl (apply_devices_setPending DeviceFields.ofDevice fun _ => rfl)
  | unanswered =>
      exact stored.keep rfl rfl rfl (apply_devices_setPending DeviceFields.ofDevice fun _ => rfl)
  | aborted =>
      exact stored.keep rfl rfl rfl (apply_devices_setPending DeviceFields.ofDevice fun _ => rfl)
  | attached =>
      exact stored.keep rfl rfl rfl (apply_devices_setDevice DeviceFields.ofDevice (by rfl))
  | started =>
      exact stored.keep rfl rfl rfl (apply_devices_setDevice DeviceFields.ofDevice (by rfl))
  | @detached thread device =>
      obtain ⟨_, active, storage⟩ := devices_releaseRetiredSlotLocked
        (system.driver.setDevice device
        { system.driver.devices device with
          attachedClients := (system.driver.devices device).attachedClients - 1 }) device
      exact stored.keep rfl active storage fun other =>
        (ofDevice_releaseRetiredSlotLocked _ device other).trans
          (apply_devices_setDevice DeviceFields.ofDevice (by rfl) other)
  | @stopped thread device =>
      obtain ⟨_, active, storage⟩ := devices_releaseRetiredSlotLocked
        (system.driver.setDevice device
        { system.driver.devices device with
          runningClients := (system.driver.devices device).runningClients - 1 }) device
      exact stored.keep rfl active storage fun other =>
        (ofDevice_releaseRetiredSlotLocked _ device other).trans
          (apply_devices_setDevice DeviceFields.ofDevice (by rfl) other)
  | @released thread device =>
      obtain ⟨_, active, storage⟩ := devices_releaseRetiredSlotLocked system.driver device
      exact stored.keep rfl active storage (ofDevice_releaseRetiredSlotLocked system.driver device)
  | published creating => exact stored.keep (by rw [creating]; rfl) rfl rfl fun _ => rfl
  | unstored creating => exact stored.keep (by rw [creating]; rfl) rfl rfl fun _ => rfl
  | stored creating => exact ⟨stored.valid, rfl⟩
  | rolledBack creating =>
      refine ⟨fun pointer listed => stored.valid pointer (List.dropLast_subset _ listed), ?_⟩
      rw [settled_of_free rfl]
      exact stored.text.trans (by rw [settled_of_creation creating]; rfl)
  | _ => exact stored.keep rfl rfl rfl fun _ => rfl

/-! ## Storable lists -/

theorem settled_sublist (system : DriverSystem) : system.settled.Sublist system.driver.active := by
  rw [settled]
  split
  · exact List.dropLast_sublist _
  · exact List.Sublist.refl _

/-- The settled devices are in their slots. -/
theorem placed_of_settled (sound : system.Sound bounded) {pointer : Nat}
    (settled : pointer ∈ system.settled) :
    system.driver.slots (system.driver.devices pointer).slot = some pointer := by
  have listed := system.settled_sublist.subset settled
  refine sound.table.placed pointer listed ?_
  cases creating : system.creation with
  | none =>
      rw [unplaced, creating]
      exact (Option.some_ne_none pointer).symm
  | some creation =>
      obtain ⟨earlier, last⟩ := (sound.creating creation creating).last
      have nodup := sound.table.nodup
      rw [settled_of_creation creating, last, List.dropLast_concat] at settled
      rw [last] at nodup
      have differ : pointer ≠ creation.device :=
        (List.nodup_append.mp nodup).2.2 pointer settled _ (List.mem_singleton.mpr rfl)
      intro same
      unfold unplaced at same
      split at same
      · rename_i thread device found
        cases creating.symm.trans found
        exact differ (Option.some.inj same).symm
      · cases same

/-- There are no more settled devices than slots. -/
theorem length_settled_le (sound : system.Sound bounded) :
    system.settled.length ≤ kMaximumDevices := by
  have distinct : (system.settled.map fun pointer =>
      (system.driver.devices pointer).slot).Nodup := by
    refine (sound.table.nodup.sublist system.settled_sublist).map_on ?_
    intro pointer member other otherMember same
    have placed := placed_of_settled sound member
    rw [same, placed_of_settled sound otherMember] at placed
    exact (Option.some.inj placed).symm
  have within : (system.settled.map fun pointer => (system.driver.devices pointer).slot) ⊆
      List.range kMaximumDevices := by
    intro slot member
    obtain ⟨pointer, settled, rfl⟩ := List.mem_map.mp member
    exact List.mem_range.mpr (sound.table.slot_eq _ _ (placed_of_settled sound settled)).2.2
  have few := (distinct.subperm within).length_le
  rwa [List.length_map, List.length_range] at few

theorem Stored.storable (stored : system.Stored) (sound : system.Sound bounded) :
    Storable (shown system.driver system.settled) where
  valid := by
    intro fields member
    obtain ⟨pointer, settled, rfl⟩ := List.mem_map.mp member
    exact stored.valid pointer (system.settled_sublist.subset settled)
  distinct := by
    rw [shown, List.map_map]
    exact sound.table.distinct.sublist (system.settled_sublist.map _)
  few := by
    rw [shown, List.length_map]
    exact length_settled_le sound

end Steps

/-! ## Runs -/

/-- A storage is absent, or a driver has written it that was started on such a storage. -/
inductive Written : Option String → Prop where
  | absent : Written none
  | stored {storage : Option String} {allocates : Nat → Bool} {driver : Driver}
      {system : DriverSystem} (earlier : Written storage)
      (initialized : (loaded storage).initializeDriver .noErr allocates = (.noErr, driver))
      (reached : Reachable step (idle driver) system) : Written system.driver.storage

section Runs

variable {storage : Option String} {allocates : Nat → Bool} {driver : Driver}
  {system : DriverSystem}

/-- A driver that was started on a list of devices keeps the storage in order. -/
theorem stored_of_reachable {listed : List DeviceFields} (storable : Storable listed)
    (text : storage.getD "" = inventoryText listed)
    (initialized : (loaded storage).initializeDriver .noErr allocates = (.noErr, driver))
    (reached : Reachable step (idle driver) system) : system.Sound False ∧ system.Stored := by
  have sound : Invariant step (idle driver) fun state => state.Sound False := by
    have started : ((loaded storage).initializeDriver .noErr allocates).2 = driver :=
      congrArg Prod.snd initialized
    rw [← started]
    exact sound_invariant storage .noErr allocates fun stepped => ⟨stepped, False.elim⟩
  obtain ⟨status, next, loads, kept, complete, _⟩ :=
    initializeDriver_inventory storable text allocates
  rw [initialized] at loads
  obtain ⟨rfl, rfl⟩ := Prod.mk.inj loads
  have recreated := complete rfl
  have invariant : Invariant step (idle driver) fun state =>
      state.Sound False ∧ state.Stored := by
    refine sound.and ⟨?_, ?_⟩ ?_
    · intro pointer member
      refine storable.valid _ ?_
      rw [← recreated]
      exact List.mem_map_of_mem member
    · rw [settled_of_free rfl]
      exact (congrArg (Option.getD · "") kept).trans (text.trans (congrArg inventoryText
        recreated.symm))
    · intro state next label returned sound stored stepped
      exact stored.step sound (effect_of_step stepped)
  exact invariant.reachable reached

theorem Written.storable (written : Written storage) :
    ∃ listed, Storable listed ∧ storage.getD "" = inventoryText listed := by
  induction written with
  | absent => exact ⟨[], ⟨nofun, List.nodup_nil, Nat.zero_le _⟩, rfl⟩
  | stored earlier initialized reached ih =>
      obtain ⟨listed, storable, text⟩ := ih
      obtain ⟨sound, stored⟩ := stored_of_reachable storable text initialized reached
      exact ⟨_, stored.storable sound, stored.text⟩

/-- The storage has the list of devices, and a fresh driver gets it back. -/
structure Persistent (driver : Driver) : Prop where
  text : driver.storage.getD "" = driver.inventoryLocked
  recreated : ∃ fresh, (loaded driver.storage).initializeDriver .noErr (fun _ => true) =
    (.noErr, fresh) ∧ fresh.listed = driver.listed

/-- In every run of a driver that was started on a storage that it has written,
with any results of the writes, the stored text is the inventory whenever no
creation is in progress, and a fresh driver gets the same list from it. -/
theorem storage_follows_devices (written : Written storage)
    (initialized : (loaded storage).initializeDriver .noErr allocates = (.noErr, driver))
    (reached : Reachable step (idle driver) system) (free : system.creation = none) :
    Persistent system.driver := by
  obtain ⟨listed, storable, text⟩ := written.storable
  obtain ⟨sound, stored⟩ := stored_of_reachable storable text initialized reached
  have current := stored.storable sound
  have inventory := stored.text
  rw [settled_of_free free] at current inventory
  refine ⟨inventory, ?_⟩
  obtain ⟨status, fresh, loads, _, complete, exhausted⟩ :=
    initializeDriver_inventory current inventory fun _ => true
  have loaded : status = .noErr := by
    by_contra failed
    obtain ⟨number, none⟩ := exhausted failed
    cases none
  subst loaded
  exact ⟨fresh, loads, complete rfl⟩

/-- A creation that the storage takes, and one that it refuses. -/
def twoCreations : List DriverAction :=
  [.call 0 (.control (some "create\tcable\tCable\t2\t2\t48000")),
    .enter 0 true .noErr,
    .publish,
    .writeStorage .noErr,
    .call 0 (.control (some "create\tother\tOther\t1\t1\t44100")),
    .enter 0 true .noErr,
    .publish,
    .writeStorage (.host 1),
    .rollBack]

theorem storage_follows_devices_twoCreations :
    ∃ system, LabelledSteps.run step (idle { loaded none with hosted := true }) twoCreations =
      some system ∧ Persistent system.driver := by
  have runs : (LabelledSteps.run step (idle { loaded none with hosted := true })
      twoCreations).map DriverSystem.creation = some none := by
    decide +kernel
  obtain ⟨system, ran, free⟩ := Option.map_eq_some_iff.mp runs
  exact ⟨system, ran, @storage_follows_devices none (fun _ => true) _ _ .absent rfl
    (Reachable.start.run ran) free⟩

end Runs

end DriverSystem

end VCable
