import VCable.DriverTableRuns

/-!
# Configuration changes remove what they were requested for

The approval of a deletion comes arbitrarily later than its request, and object
ids are given to later devices.  A performed change still removes no other
device than the one it names, and that one only while a delete command for its
id is the last event of its pending flag.
-/

namespace VCable.DriverSystem

open Driver LabelledSteps

/-! ## Pending flags -/

/-- The last event of a device's pending flag. -/
def lastEvent (events : List PendingEvent) (device : Nat) : Option PendingEvent :=
  events.find? fun event => event.device = device

/-- A pending flag was last set by a delete command with the id of its device. -/
def PendingRecorded (driver : Driver) (events : List PendingEvent) : Prop :=
  ∀ device, (driver.devices device).deletePending = true →
    lastEvent events device = some (.requested device (driver.devices device).id)

theorem lastEvent_cons_self (event : PendingEvent) (events : List PendingEvent) :
    lastEvent (event :: events) event.device = some event :=
  List.find?_cons_of_pos (decide_eq_true rfl)

theorem lastEvent_cons_of_ne {event : PendingEvent} {device : Nat} (differ : event.device ≠ device)
    (events : List PendingEvent) : lastEvent (event :: events) device = lastEvent events device :=
  List.find?_cons_of_neg fun same => differ (of_decide_eq_true same)

/-- A device whose flag is set had it set before, under the same id. -/
def FewerPending (driver next : Driver) (device : Nat) : Prop :=
  (next.devices device).deletePending = true → (driver.devices device).deletePending = true ∧
    (next.devices device).id = (driver.devices device).id

section Events

variable {driver next : Driver} {events : List PendingEvent} {pointer : Nat}

theorem PendingRecorded.mono (recorded : PendingRecorded driver events)
    (fewer : ∀ device, FewerPending driver next device) : PendingRecorded next events := by
  intro device pending
  obtain ⟨before, sameId⟩ := fewer device pending
  rw [sameId]
  exact recorded device before

theorem PendingRecorded.cons (recorded : PendingRecorded driver events) {event : PendingEvent}
    (fewer : ∀ device ≠ event.device, FewerPending driver next device)
    (own : (next.devices event.device).deletePending = true →
      event = .requested event.device (next.devices event.device).id) :
    PendingRecorded next (event :: events) := by
  intro device pending
  by_cases same : device = event.device
  · subst same
    rw [lastEvent_cons_self]
    exact congrArg some (own pending)
  · obtain ⟨before, sameId⟩ := fewer device same pending
    rw [lastEvent_cons_of_ne (Ne.symm same), sameId]
    exact recorded device before

theorem fewerPending_setDevice {device : Device}
    (pending : device.deletePending = (driver.devices pointer).deletePending)
    (sameId : device.id = (driver.devices pointer).id) (other : Nat) :
    FewerPending driver (driver.setDevice pointer device) other := by
  intro set
  rw [apply_devices_setDevice Device.deletePending pending] at set
  exact ⟨set, apply_devices_setDevice Device.id sameId other⟩

theorem fewerPending_withoutDevice (other : Nat) :
    FewerPending driver (driver.withoutDevice pointer) other := by
  intro set
  rw [apply_devices_withoutDevice Device.deletePending fun _ => rfl] at set
  exact ⟨set, apply_devices_withoutDevice Device.id (fun _ => rfl) other⟩

theorem fewerPending_setPending_of_ne {pending : Bool} {other : Nat} (differ : other ≠ pointer) :
    FewerPending driver (driver.setPending pointer pending) other := by
  intro set
  have same : (driver.setPending pointer pending).devices other = driver.devices other :=
    devices_setDevice_of_ne _ _ differ
  rw [same] at set ⊢
  exact ⟨set, rfl⟩

theorem not_pending_setPending :
    ((driver.setPending pointer false).devices pointer).deletePending = false :=
  congrArg Device.deletePending (devices_setDevice_self _ _ _)

theorem fewerPending_of_devices (same : next.devices = driver.devices) (other : Nat) :
    FewerPending driver next other := by
  intro set
  rw [same] at set ⊢
  exact ⟨set, rfl⟩

theorem FewerPending.trans {last : Driver} {device : Nat}
    (first : FewerPending driver next device) (second : FewerPending next last device) :
    FewerPending driver last device := by
  intro set
  obtain ⟨between, lastId⟩ := second set
  obtain ⟨before, nextId⟩ := first between
  exact ⟨before, lastId.trans nextId⟩

theorem PendingRecorded.cleared (recorded : PendingRecorded driver events) (pointer : Nat) :
    PendingRecorded (driver.setPending pointer false) (.cleared pointer :: events) :=
  recorded.cons (fun _ differ => fewerPending_setPending_of_ne differ) fun set =>
    absurd (not_pending_setPending.symm.trans set) nofun

end Events

section Steps

variable {system next : DriverSystem} {action : DriverAction} {returned : Option OSStatus}

theorem PendingRecorded.step (recorded : PendingRecorded system.driver system.events)
    (effect : Effect system action next returned) : PendingRecorded next.driver next.events := by
  cases effect with
  | @created thread _ _ _ _ device free calling accepted fresh =>
      refine recorded.mono fun other set => ?_
      by_cases new : other = system.driver.allocated
      · have own : (system.driver.appendDevice device).devices other = device := by
          rw [new]
          exact devices_appendDevice_self _ _
        change ((system.driver.appendDevice device).devices other).deletePending = true at set
        rw [own, fresh.not_pending] at set
        cases set
      · have same := devices_appendDevice_of_ne system.driver device new
        exact ⟨same ▸ set, congrArg Device.id same⟩
  | @requested thread device _ _ _ _ free calling splits listed named =>
      refine recorded.cons (fun _ differ => fewerPending_setPending_of_ne differ) fun _ => ?_
      refine congrArg (PendingEvent.requested device) (named.symm.trans ?_)
      exact (apply_devices_setPending Device.id (fun _ => rfl) device).symm
  | destroyed => exact recorded.mono fewerPending_withoutDevice
  | @performed thread device =>
      exact (recorded.cleared device).mono fewerPending_withoutDevice
  | @performRefused thread device => exact recorded.cleared device
  | attached => exact recorded.mono (fewerPending_setDevice (by rfl) (by rfl))
  | @detached thread device =>
      refine recorded.mono fun other => (fewerPending_setDevice (by rfl) (by rfl) other).trans
        (fewerPending_of_devices (devices_releaseRetiredSlotLocked _ device).1 other)
  | started => exact recorded.mono (fewerPending_setDevice (by rfl) (by rfl))
  | @stopped thread device =>
      refine recorded.mono fun other => (fewerPending_setDevice (by rfl) (by rfl) other).trans
        (fewerPending_of_devices (devices_releaseRetiredSlotLocked _ device).1 other)
  | @unanswered thread device => exact recorded.cleared device
  | @aborted thread device => exact recorded.cleared device
  | @released thread device =>
      exact recorded.mono (fewerPending_of_devices (devices_releaseRetiredSlotLocked _ device).1)
  | _ => exact recorded.mono (fewerPending_of_devices rfl)

end Steps

/-! ## What was looked up -/

/-- The objects keep their slots. -/
def Extends (driver next : Driver) : Prop :=
  driver.allocated ≤ next.allocated ∧
    ∀ device < driver.allocated, (next.devices device).slot = (driver.devices device).slot

theorem extends_of_slots {driver next : Driver} (allocated : next.allocated = driver.allocated)
    (slots : ∀ device, (next.devices device).slot = (driver.devices device).slot) :
    Extends driver next :=
  ⟨allocated.ge, fun device _ => slots device⟩

/-- How far a performed change can be, with what its lookup has checked. -/
def LookedUp (driver : Driver) (objectID : UInt32) (action : UInt64) (changeInfo : Nat) :
    DriverProgress → Prop
  | .called => True
  | .found device =>
      device = changeInfo ∧ action = kDeleteDeviceConfigurationAction ∧
        device < driver.allocated ∧ objectID = (driver.devices device).deviceObjectID
  | .removed device => device = changeInfo
  | .creating => False
  | .requesting _ => False

/-- Every performed change has found what it was given. -/
def Looked (system : DriverSystem) : Prop :=
  ∀ thread objectID action changeInfo progress,
    system.calls thread =
        some (.performDeviceConfigurationChange objectID action changeInfo, progress) →
      LookedUp system.driver objectID action changeInfo progress

section Lookups

variable {driver next : Driver} {system state : DriverSystem} {thread : Nat}
  {call : Option (DriverCall × DriverProgress)}

theorem LookedUp.mono {objectID : UInt32} {action : UInt64} {changeInfo : Nat}
    {progress : DriverProgress} (looked : LookedUp driver objectID action changeInfo progress)
    (further : Extends driver next) : LookedUp next objectID action changeInfo progress := by
  cases progress with
  | found device =>
      obtain ⟨named, deletes, before, resolved⟩ := looked
      refine ⟨named, deletes, before.trans_le further.1, ?_⟩
      rw [resolved, Device.deviceObjectID, Device.deviceObjectID, further.2 device before]
  | called => exact trivial
  | removed device => exact looked
  | creating => exact looked
  | requesting device => exact looked

theorem Looked.setCall (looked : system.Looked) (same : state.calls = system.calls)
    (further : Extends system.driver state.driver)
    (own : ∀ objectID action changeInfo progress,
      call = some (.performDeviceConfigurationChange objectID action changeInfo, progress) →
        LookedUp state.driver objectID action changeInfo progress) :
    (state.setCall thread call).Looked := by
  intro other objectID action changeInfo progress calling
  change Function.update state.calls thread call other = _ at calling
  rw [same] at calling
  by_cases this : other = thread
  · rw [this, Function.update_self] at calling
    exact own objectID action changeInfo progress calling
  · rw [Function.update_of_ne this] at calling
    exact (looked other objectID action changeInfo progress calling).mono further

/-- A step of another call that keeps the slots of all devices. -/
theorem Looked.keep (looked : system.Looked) (same : state.calls = system.calls)
    (allocated : state.driver.allocated = system.driver.allocated)
    (slots : ∀ device, (state.driver.devices device).slot = (system.driver.devices device).slot)
    (other : ∀ objectID action changeInfo progress,
      call ≠ some (.performDeviceConfigurationChange objectID action changeInfo, progress)) :
    (state.setCall thread call).Looked :=
  looked.setCall same (extends_of_slots allocated slots)
    fun objectID action changeInfo progress this =>
      absurd this (other objectID action changeInfo progress)

theorem allocated_releaseRetiredSlotLocked (driver : Driver) (pointer : Nat) :
    (driver.releaseRetiredSlotLocked pointer).allocated = driver.allocated := by
  rcases driver.releaseRetiredSlotLocked_cases pointer with ⟨_, _, _, _, released⟩ | ⟨_, same⟩
  · rw [released]
    rfl
  · rw [same]

theorem slot_releaseRetiredSlotLocked (driver : Driver) (pointer device : Nat) :
    ((driver.releaseRetiredSlotLocked pointer).devices device).slot =
      (driver.devices device).slot := by
  rw [(driver.devices_releaseRetiredSlotLocked pointer).1]

/-- A lookup that goes on has found the device of a slot. -/
theorem lookedUp_of_lookup {unplaced : Option Nat} {leaving : Nat → Prop}
    (table : driver.Table unplaced leaving) {objectID : UInt32} {action : UInt64}
    {changeInfo device : Nat}
    (resolved : driver.lookup (.performDeviceConfigurationChange objectID action changeInfo) =
      some device) : LookedUp driver objectID action changeInfo (.found device) := by
  obtain ⟨found, checked⟩ := Option.filter_eq_some_iff.mp resolved
  obtain ⟨deletes, named⟩ := Bool.and_eq_true_iff.mp checked
  obtain ⟨slot, own⟩ := Option.filter_eq_some_iff.mp found
  refine ⟨(of_decide_eq_true named).symm, of_decide_eq_true deletes, ?_, of_decide_eq_true own⟩
  unfold deviceForObject at slot
  split at slot
  · cases slot
  · dsimp only at slot
    split at slot
    · cases slot
    · split at slot
      · rename_i pointer held
        split at slot
        · cases slot
        · cases slot
          exact (table.slot_eq _ _ held).1
      · cases slot

end Lookups

section Steps

variable {system next : DriverSystem} {action : DriverAction} {returned : Option OSStatus}
  {bounded : Prop}

theorem Looked.step (looked : system.Looked) (sound : system.Sound bounded)
    (effect : Effect system action next returned) : next.Looked := by
  cases effect with
  | @called thread call idle =>
      refine looked.setCall rfl (extends_of_slots rfl fun _ => rfl) ?_
      rintro objectID code changeInfo progress same
      cases same
      exact trivial
  | @found thread device call calling resolved =>
      refine looked.setCall rfl (extends_of_slots rfl fun _ => rfl) ?_
      rintro objectID code changeInfo progress same
      cases same
      exact lookedUp_of_lookup sound.table resolved
  | @performed thread device changeInfo _ _ objectID code free calling =>
      refine looked.setCall rfl (extends_of_slots rfl fun other => ?_) ?_
      · exact (apply_devices_withoutDevice Device.slot (fun _ => rfl) other).trans
          (apply_devices_setPending Device.slot (fun _ => rfl) other)
      · rintro objectID code changeInfo progress same
        cases same
        exact (looked _ _ _ _ _ calling).1
  | @created thread _ _ _ _ device =>
      refine looked.setCall rfl ⟨Nat.le_succ _, fun other before => ?_⟩ nofun
      exact congrArg Device.slot
        (devices_appendDevice_of_ne system.driver device (Nat.ne_of_lt before))
  | requested =>
      exact looked.keep rfl rfl (apply_devices_setPending Device.slot fun _ => rfl) nofun
  | destroyed =>
      exact looked.keep rfl rfl (apply_devices_withoutDevice Device.slot fun _ => rfl) nofun
  | performRefused =>
      exact looked.keep rfl rfl (apply_devices_setPending Device.slot fun _ => rfl) nofun
  | attached => exact looked.keep rfl rfl (apply_devices_setDevice Device.slot (by rfl)) nofun
  | @detached thread device =>
      refine looked.keep rfl (allocated_releaseRetiredSlotLocked _ device) (fun other => ?_) nofun
      exact (slot_releaseRetiredSlotLocked _ device other).trans
        (apply_devices_setDevice Device.slot (by rfl) other)
  | started => exact looked.keep rfl rfl (apply_devices_setDevice Device.slot (by rfl)) nofun
  | @stopped thread device =>
      refine looked.keep rfl (allocated_releaseRetiredSlotLocked _ device) (fun other => ?_) nofun
      exact (slot_releaseRetiredSlotLocked _ device other).trans
        (apply_devices_setDevice Device.slot (by rfl) other)
  | unanswered =>
      exact looked.keep rfl rfl (apply_devices_setPending Device.slot fun _ => rfl) nofun
  | aborted => exact looked.keep rfl rfl (apply_devices_setPending Device.slot fun _ => rfl) nofun
  | @released thread device =>
      exact looked.keep rfl (allocated_releaseRetiredSlotLocked _ device)
        (slot_releaseRetiredSlotLocked _ device) nofun
  | published => exact looked
  | unstored => exact looked
  | _ => exact looked.keep rfl rfl (fun _ => rfl) nofun

end Steps

/-! ## Performed changes -/

/-- The thread that takes a step; a creation goes on in the thread that holds the mutex. -/
def actor (system : DriverSystem) : DriverAction → Option Nat
  | .call thread _ => some thread
  | .lookup thread => some thread
  | .enter thread _ _ => some thread
  | .publish => system.creation.map Creation.thread
  | .writeStorage _ => system.creation.map Creation.thread
  | .rollBack => system.creation.map Creation.thread
  | .answer thread _ => some thread
  | .clearPending thread => some thread
  | .release thread => some thread

/-- The list of active devices, the slots and the storage stay, and the thread
has removed nothing. -/
structure LeavesTable (system next : DriverSystem) (thread : Nat) : Prop where
  active : next.driver.active = system.driver.active
  slots : next.driver.slots = system.driver.slots
  storage : next.driver.storage = system.driver.storage
  notRemoving : ∀ call device, next.calls thread ≠ some (call, .removed device)

/-- The device of the change info is taken off the list.  It is the one that the
object id resolves to, and its deletion was requested under its id. -/
structure RemovesRequested (system next : DriverSystem) (thread : Nat) (objectID : UInt32)
    (action : UInt64) (changeInfo : Nat) : Prop where
  deletes : action = kDeleteDeviceConfigurationAction
  listed : changeInfo ∈ system.driver.active
  resolved : system.driver.deviceForDeviceObject objectID = some changeInfo
  requested : lastEvent system.events changeInfo =
    some (.requested changeInfo (system.driver.devices changeInfo).id)
  active : next.driver.active = system.driver.active.erase changeInfo
  slots : next.driver.slots = system.driver.slots
  removing : next.calls thread = some
    (.performDeviceConfigurationChange objectID action changeInfo, .removed changeInfo)

/-- After its removal a call at most empties the slot of its device. -/
structure ReleasesRemoved (system next : DriverSystem) (thread changeInfo : Nat) : Prop where
  active : next.driver.active = system.driver.active
  slots : ∀ slot, next.driver.slots slot = system.driver.slots slot ∨
    (system.driver.slots slot = some changeInfo ∧ next.driver.slots slot = none)
  storage : next.driver.storage = system.driver.storage
  finished : next.calls thread = none

/-- What a step of a `PerformDeviceConfigurationChange` does, by how far the call is:
it looks its device up, then leaves the table and returns or removes its device,
and after that releases it. -/
def PerformStep (system next : DriverSystem) (thread : Nat) (objectID : UInt32) (action : UInt64)
    (changeInfo : Nat) : DriverProgress → Prop
  | .called => system.LeavesTable next thread
  | .found device => device = changeInfo ∧
      ((system.LeavesTable next thread ∧ next.calls thread = none) ∨
        system.RemovesRequested next thread objectID action changeInfo)
  | .removed device => device = changeInfo ∧ system.ReleasesRemoved next thread changeInfo
  | .creating => False
  | .requesting _ => False

/-- Every step of a `PerformDeviceConfigurationChange` is one of these, and no step of
another thread changes how far it is. -/
structure PerformsRequested (system : DriverSystem) : Prop where
  performs : ∀ label next returned thread objectID action changeInfo progress,
    system.step label = some (next, returned) → system.actor label = some thread →
    system.calls thread =
      some (.performDeviceConfigurationChange objectID action changeInfo, progress) →
    system.PerformStep next thread objectID action changeInfo progress
  others : ∀ label next returned thread, system.step label = some (next, returned) →
    system.actor label ≠ some thread → next.calls thread = system.calls thread

section Performing

variable {system next : DriverSystem} {label : DriverAction} {returned : Option OSStatus}
  {bounded : Prop} {thread : Nat} {objectID : UInt32} {action : UInt64} {changeInfo : Nat}
  {progress : DriverProgress}

theorem calls_setCall_self (call : Option (DriverCall × DriverProgress)) :
    (system.setCall thread call).calls thread = call :=
  Function.update_self _ _ _

theorem calls_setCall_of_ne {other : Nat} (differ : some other ≠ some thread)
    (call : Option (DriverCall × DriverProgress)) :
    (system.setCall other call).calls thread = system.calls thread :=
  Function.update_of_ne (fun same => differ (congrArg some same.symm)) _ _

theorem calls_of_effect (effect : Effect system label next returned)
    (other : system.actor label ≠ some thread) : next.calls thread = system.calls thread := by
  cases effect with
  | published => rfl
  | unstored => rfl
  | stored creating => exact calls_setCall_of_ne (by rwa [actor, creating] at other) none
  | rolledBack creating => exact calls_setCall_of_ne (by rwa [actor, creating] at other) none
  | _ => exact calls_setCall_of_ne other _

/-- A step that a call takes without its device. -/
theorem LeavesTable.setCall {call : Option (DriverCall × DriverProgress)}
    (notRemoving : ∀ other device, call ≠ some (other, .removed device)) :
    system.LeavesTable (system.setCall thread call) thread where
  active := rfl
  slots := rfl
  storage := rfl
  notRemoving := fun other device => by
    rw [calls_setCall_self]
    exact notRemoving other device

theorem slots_releaseRetiredSlotLocked_or (driver : Driver) (pointer slot : Nat) :
    (driver.releaseRetiredSlotLocked pointer).slots slot = driver.slots slot ∨
      (driver.slots slot = some pointer ∧
        (driver.releaseRetiredSlotLocked pointer).slots slot = none) := by
  rcases driver.releaseRetiredSlotLocked_cases pointer with
    ⟨_, _, _, placed, released⟩ | ⟨_, same⟩
  · rw [released]
    by_cases own : slot = (driver.devices pointer).slot
    · rw [own]
      exact Or.inr ⟨placed, slots_setSlot_self _ _ _⟩
    · exact Or.inl (slots_setSlot_of_ne driver none own)
  · exact Or.inl (congrArg (·.slots slot) same)

/-- A listed device is what its own object id resolves to when the mutex is free. -/
theorem deviceForDeviceObject_eq {driver : Driver} {leaving : Nat → Prop} {pointer : Nat}
    (table : driver.Table none leaving) (listed : pointer ∈ driver.active) :
    driver.deviceForDeviceObject (driver.devices pointer).deviceObjectID = some pointer := by
  have placed := table.placed pointer listed nofun
  have within := (table.slot_eq _ pointer placed).2.2
  have own := (toNat_deviceObjectID within).1
  exact Option.filter_eq_some_iff.mpr
    ⟨deviceForObject_eq placed within (own.trans (Nat.add_zero _).symm) (by decide),
      decide_eq_true rfl⟩

theorem removesRequested (sound : system.Sound bounded) (looked : system.Looked)
    (recorded : PendingRecorded system.driver system.events) (free : system.creation = none)
    {device : Nat} (calling : system.calls thread =
      some (.performDeviceConfigurationChange objectID action changeInfo, .found device))
    (pending : (system.driver.devices device).deletePending = true)
    (listed : device ∈ system.driver.active) :
    system.RemovesRequested
      ({ system with
        driver := (system.driver.setPending device false).withoutDevice device
        events := .cleared device :: system.events
          }.setCall thread (some (.performDeviceConfigurationChange objectID action changeInfo,
            .removed device))) thread objectID action changeInfo := by
  obtain ⟨rfl, deletes, _, resolved⟩ := looked _ _ _ _ _ calling
  exact
    { deletes := deletes
      listed := listed
      resolved := resolved ▸ deviceForDeviceObject_eq (sound.table_of_free free) listed
      requested := recorded device pending
      active := rfl
      slots := rfl
      removing := calls_setCall_self _ }

theorem performStep_of_effect (sound : system.Sound bounded) (looked : system.Looked)
    (recorded : PendingRecorded system.driver system.events)
    (effect : Effect system label next returned) (acts : system.actor label = some thread)
    (calling : system.calls thread =
      some (.performDeviceConfigurationChange objectID action changeInfo, progress)) :
    system.PerformStep next thread objectID action changeInfo progress := by
  have known := looked _ _ _ _ _ calling
  have notCreating : ∀ creation, system.creation = some creation →
      creation.thread ≠ thread := by
    rintro creation found rfl
    obtain ⟨call, creates⟩ := (sound.creating creation found).calling
    cases creates.symm.trans calling
    exact known
  cases effect with
  | called idle =>
      cases acts
      cases idle.symm.trans calling
  | found other =>
      cases acts
      cases other.symm.trans calling
      exact .setCall nofun
  | missed other =>
      cases acts
      cases other.symm.trans calling
      exact .setCall nofun
  | refused free other early notPerform =>
      cases acts
      cases other.symm.trans calling
      exact absurd rfl (notPerform objectID action changeInfo)
  | published creating =>
      exact absurd (Option.some.inj (by rwa [actor, creating] at acts)) (notCreating _ creating)
  | stored creating =>
      exact absurd (Option.some.inj (by rwa [actor, creating] at acts)) (notCreating _ creating)
  | unstored creating =>
      exact absurd (Option.some.inj (by rwa [actor, creating] at acts)) (notCreating _ creating)
  | rolledBack creating =>
      exact absurd (Option.some.inj (by rwa [actor, creating] at acts)) (notCreating _ creating)
  | performed free performing pending stopped listed =>
      cases acts
      cases performing.symm.trans calling
      exact ⟨known.1, Or.inr (removesRequested sound looked recorded free calling pending listed)⟩
  | performRefused free performing =>
      cases acts
      cases performing.symm.trans calling
      have finished := @calls_setCall_self system thread none
      exact ⟨known.1, Or.inl
        ⟨{ active := rfl
           slots := rfl
           storage := rfl
           notRemoving := fun call device => finished.trans_ne nofun }, finished⟩⟩
  | released free removing =>
      cases acts
      cases removing.symm.trans calling
      cases known
      obtain ⟨_, active, storage⟩ := devices_releaseRetiredSlotLocked system.driver changeInfo
      exact ⟨rfl,
        { active := active
          slots := slots_releaseRetiredSlotLocked_or system.driver changeInfo
          storage := storage
          finished := calls_setCall_self _ }⟩
  | answered other =>
      cases acts
      cases other.symm.trans calling
      exact known
  | unanswered other =>
      cases acts
      cases other.symm.trans calling
      exact known
  | created _ other =>
      cases acts
      cases other.symm.trans calling
  | requested _ other =>
      cases acts
      cases other.symm.trans calling
  | destroyed _ other =>
      cases acts
      cases other.symm.trans calling
  | attached _ other =>
      cases acts
      cases other.symm.trans calling
  | detached _ other =>
      cases acts
      cases other.symm.trans calling
  | started _ other =>
      cases acts
      cases other.symm.trans calling
  | stopped _ other =>
      cases acts
      cases other.symm.trans calling
  | aborted other =>
      cases acts
      cases other.symm.trans calling

/-- No deletion is pending in a driver that has just been started. -/
theorem not_pending_initializeDriver (storage : Option String) (copyStatus : OSStatus)
    (allocates : Nat → Bool) (device : Nat) :
    (((Driver.loaded storage).initializeDriver copyStatus allocates).2.devices
      device).deletePending = false := by
  refine @initializeDriver_induction
    (fun driver => ∀ device, (driver.devices device).deletePending = false) ?_ _ (fun _ => rfl)
    copyStatus allocates device
  intro driver _ fields added settled _ fresh other
  by_cases new : other = driver.allocated
  · rw [new]
    exact (congrArg Device.deletePending (devices_appendDevice_self driver added)).trans
      fresh.not_pending
  · exact (congrArg Device.deletePending
      (devices_appendDevice_of_ne driver added new)).trans (settled other)

/-- In every run of concurrent calls, a `PerformDeviceConfigurationChange` removes
at most the device of its change info, while the object id resolves to that
device and a delete command with its id is the last event of its pending flag.
Every other one leaves the list, the slots and the storage. -/
theorem perform_removes_requested (storage : Option String) (copyStatus : OSStatus)
    (allocates : Nat → Bool)
    (reached : Reachable step
      (idle ((Driver.loaded storage).initializeDriver copyStatus allocates).2) system) :
    system.PerformsRequested := by
  have invariant : Invariant step
      (idle ((Driver.loaded storage).initializeDriver copyStatus allocates).2) fun state =>
        state.Sound False ∧ state.Looked ∧ PendingRecorded state.driver state.events := by
    refine Invariant.and (sound_invariant storage copyStatus allocates
      fun stepped => ⟨stepped, False.elim⟩) ⟨nofun, ?_⟩ ?_
    · intro device pending
      rw [idle, not_pending_initializeDriver] at pending
      cases pending
    · rintro state next label returned sound ⟨looked, recorded⟩ stepped
      have effect := effect_of_step stepped
      exact ⟨looked.step sound effect, recorded.step effect⟩
  obtain ⟨sound, looked, recorded⟩ := invariant.reachable reached
  exact
    { performs := fun _ _ _ _ _ _ _ _ stepped acts calling =>
        performStep_of_effect sound looked recorded (effect_of_step stepped) acts calling
      others := fun _ _ _ _ stepped other => calls_of_effect (effect_of_step stepped) other }

/-- A deletion that was requested and is about to be performed. -/
def requestedDelete : List DriverAction :=
  [.call 0 (.control (some "delete\tcable")),
    .enter 0 true .noErr,
    .call 1 (.performDeviceConfigurationChange 100 kDeleteDeviceConfigurationAction 0),
    .lookup 1]

theorem perform_removes_requested_delete :
    ∃ system, LabelledSteps.run step (idle ((Driver.loaded
        (some "create\tcable\tCable\t2\t2\t48000\n")).initializeDriver .noErr fun _ => true).2)
      requestedDelete = some system ∧ system.PerformsRequested := by
  have runs : (LabelledSteps.run step (idle ((Driver.loaded
      (some "create\tcable\tCable\t2\t2\t48000\n")).initializeDriver .noErr fun _ => true).2)
        requestedDelete).isSome = true := by
    decide +kernel
  obtain ⟨system, ran⟩ := Option.isSome_iff_exists.mp runs
  exact ⟨system, ran, perform_removes_requested _ .noErr (fun _ => true) (Reachable.start.run ran)⟩

end Performing

end VCable.DriverSystem
