import VCable.DriverTable

/-!
# What the sections of the driver do

One statement for each function that changes the device table: all its
outcomes, with the checks that lead to them.
-/

namespace VCable.Driver

variable {driver next : Driver} {pointer : Nat} {write status : OSStatus}

/-- A change of the pending flag keeps everything else of all devices. -/
theorem apply_devices_setPending {β : Type*} {driver : Driver} {pointer : Nat} {pending : Bool}
    (read : Device → β)
    (same : ∀ device : Device, read { device with deletePending := pending } = read device)
    (other : Nat) :
    read ((driver.setPending pointer pending).devices other) = read (driver.devices other) :=
  apply_devices_setDevice read (same _) other

/-! ## Storage -/

theorem persistLocked_cases (driver : Driver) (write : OSStatus) :
    (driver.hosted = true ∧ driver.persistLocked write =
        (.noErr, { driver with storage := some driver.inventoryLocked })) ∨
      ∃ status, status ≠ .noErr ∧ driver.persistLocked write = (status, driver) := by
  rw [persistLocked]
  by_cases hosted : driver.hosted = true
  · rw [if_pos hosted]
    by_cases written : write = .noErr
    · rw [if_pos written]
      exact Or.inl ⟨hosted, rfl⟩
    · rw [if_neg written]
      exact Or.inr ⟨write, written, rfl⟩
  · rw [if_neg hosted]
    exact Or.inr ⟨.notReadyError, nofun, rfl⟩

/-! ## Removing -/

/-- The driver after a device was taken off the list. -/
def withoutDevice (driver : Driver) (pointer : Nat) : Driver :=
  let erased := { driver with active := driver.active.erase pointer }
  { erased.setDevice pointer { driver.devices pointer with active := false } with
    storage := some erased.inventoryLocked }

@[simp]
theorem devices_withoutDevice_self (driver : Driver) (pointer : Nat) :
    (driver.withoutDevice pointer).devices pointer =
      { driver.devices pointer with active := false } :=
  devices_setDevice_self _ _ _

theorem devices_withoutDevice_of_ne (driver : Driver) {pointer other : Nat}
    (differ : other ≠ pointer) :
    (driver.withoutDevice pointer).devices other = driver.devices other :=
  devices_setDevice_of_ne _ _ differ

/-- A removed device keeps everything but its flag. -/
theorem apply_devices_withoutDevice {β : Type*} {driver : Driver} {pointer : Nat}
    (read : Device → β)
    (same : ∀ device : Device, read { device with active := false } = read device)
    (other : Nat) :
    read ((driver.withoutDevice pointer).devices other) = read (driver.devices other) :=
  apply_devices_setDevice read (same _) other

/-- A removal takes an active device that is not running off the list and
stores the rest, or it changes nothing. -/
theorem removeDeviceLocked_cases (driver : Driver) (pointer : Nat) (write : OSStatus) :
    ((driver.devices pointer).runningClients = 0 ∧ pointer ∈ driver.active ∧
        driver.removeDeviceLocked pointer true write = (.noErr, driver.withoutDevice pointer)) ∨
      ∃ status, status ≠ .noErr ∧
        driver.removeDeviceLocked pointer true write = (status, driver) := by
  rw [removeDeviceLocked]
  by_cases running : (driver.devices pointer).runningClients ≠ 0
  · rw [if_pos running]
    exact Or.inr ⟨.illegalOperationError, nofun, rfl⟩
  rw [if_neg running]
  by_cases member : pointer ∈ driver.active
  · rw [if_pos member]
    have place : driver.active.idxOf pointer < driver.active.length :=
      List.idxOf_lt_length_of_mem member
    have restored : (driver.active.eraseIdx (driver.active.idxOf pointer)).insertIdx
        (driver.active.idxOf pointer) pointer = driver.active := by
      have same := List.insertIdx_eraseIdx_getElem place
      rwa [List.getElem_idxOf place] at same
    dsimp only
    rcases persistLocked_cases
        { driver with active := driver.active.eraseIdx (driver.active.idxOf pointer) } write with
      ⟨_, stored⟩ | ⟨status, failed, unstored⟩
    · refine Or.inl ⟨not_not.mp running, member, ?_⟩
      rw [if_pos rfl, stored, withoutDevice, List.erase_eq_eraseIdx_of_idxOf rfl]
      rfl
    · refine Or.inr ⟨status, failed, ?_⟩
      rw [if_pos rfl, unstored]
      cases status with
      | noErr => exact absurd rfl failed
      | _ =>
          dsimp only
          rw [restored]
  · rw [if_neg member]
    exact Or.inr ⟨.badObjectError, nofun, rfl⟩

/-- The section that removes, for `DestroyDevice`. -/
theorem removal_cases (driver : Driver) (pointer : Nat) (write : OSStatus) :
    ((driver.devices pointer).runningClients = 0 ∧ pointer ∈ driver.active ∧
        driver.removal pointer write = (.removes pointer, driver.withoutDevice pointer)) ∨
      ∃ status, status ≠ .noErr ∧ driver.removal pointer write = (.returns status, driver) := by
  rw [removal]
  rcases removeDeviceLocked_cases driver pointer write with
    ⟨stopped, member, removed⟩ | ⟨status, failed, kept⟩
  · rw [removed]
    exact Or.inl ⟨stopped, member, rfl⟩
  · refine Or.inr ⟨status, failed, ?_⟩
    rw [kept]
    cases status with
    | noErr => exact absurd rfl failed
    | _ => rfl

/-- A configuration change that is performed clears the pending flag; it
removes the device only if the flag was set. -/
theorem perform_cases (driver : Driver) (pointer : Nat) (write : OSStatus) :
    ((driver.devices pointer).deletePending = true ∧
        (driver.devices pointer).runningClients = 0 ∧ pointer ∈ driver.active ∧
        driver.perform pointer write =
          (.removes pointer, (driver.setPending pointer false).withoutDevice pointer)) ∨
      ∃ status, status ≠ .noErr ∧
        driver.perform pointer write = (.returns status, driver.setPending pointer false) := by
  rw [perform]
  by_cases pending : (driver.devices pointer).deletePending = true
  · rw [if_pos pending]
    rcases removal_cases (driver.setPending pointer false) pointer write with
      ⟨stopped, member, removed⟩ | kept
    · refine Or.inl ⟨pending, ?_, member, removed⟩
      simpa [setPending, setDevice] using stopped
    · exact Or.inr kept
  · rw [if_neg pending]
    exact Or.inr ⟨.illegalOperationError, nofun, rfl⟩

/-! ## Control commands -/

/-- A device that a creation may append: its id is new and its slot is free. -/
structure Fresh (driver : Driver) (fields : DeviceFields) (device : Device) : Prop where
  fields_eq : .ofDevice device = fields
  new_id : ∀ pointer ∈ driver.active, (driver.devices pointer).id ≠ device.id
  slot_free : driver.slots device.slot = none
  slot_lt : device.slot < kMaximumDevices
  active : device.active = true
  not_pending : device.deletePending = false
  not_attached : device.attachedClients = 0
  not_running : device.runningClients = 0

theorem prepareDevice_fresh {fields : List String} {allocates : Bool} {device : Device}
    (prepared : driver.prepareDevice fields allocates = .fresh device) :
    ∃ parsed, DeviceFields.parse fields = some parsed ∧ Fresh driver parsed device := by
  rw [prepareDevice] at prepared
  split at prepared
  · cases prepared
  rename_i parsed accepted
  split at prepared
  · split at prepared
    · cases prepared
    · cases prepared
  rename_i absent
  split at prepared
  · cases prepared
  rename_i slot free
  split at prepared
  · cases prepared
    have found := List.find?_some free
    have member := List.mem_of_find?_eq_some free
    refine ⟨parsed, accepted, rfl, ?_, ?_, List.mem_range.mp member, rfl, rfl, rfl, rfl⟩
    · intro pointer active same
      have other := List.find?_eq_none.mp absent pointer active
      exact other (decide_eq_true same)
    · exact Option.isNone_iff_eq_none.mp found
  · cases prepared

/-- A control command is refused, creates a device, or requests the deletion of
a device that is listed under its id. -/
theorem control_cases (driver : Driver) (command : Option String) (allocates : Bool) :
    (∃ status, driver.control command allocates = (.returns status, driver)) ∨
    (∃ text parsed device, command = some text ∧
      DeviceFields.parse (split '\t' (toCString text)) = some parsed ∧
      Fresh driver parsed device ∧
      driver.control command allocates = (.creates driver.allocated, driver.appendDevice device)) ∨
    (∃ text id pointer, command = some text ∧ split '\t' (toCString text) = ["delete", id] ∧
      pointer ∈ driver.active ∧ (driver.devices pointer).id = id ∧
      driver.control command allocates =
        (.requests pointer id, driver.setPending pointer true)) := by
  cases command with
  | none => exact Or.inl ⟨.illegalOperationError, rfl⟩
  | some text =>
      unfold control
      dsimp only
      split
      · rename_i fields splits
        split
        · rename_i status prepared
          exact Or.inl ⟨status, rfl⟩
        · rename_i device prepared
          obtain ⟨parsed, accepted, fresh⟩ := prepareDevice_fresh prepared
          exact Or.inr (Or.inl ⟨text, parsed, device, rfl, splits ▸ accepted, fresh, rfl⟩)
      · rename_i id splits
        split
        · exact Or.inl ⟨.badObjectError, rfl⟩
        · rename_i pointer found
          split
          · exact Or.inl ⟨.illegalOperationError, rfl⟩
          · refine Or.inr (Or.inr ⟨text, id, pointer, rfl, splits,
              List.mem_of_find?_eq_some found, ?_, rfl⟩)
            have same := List.find?_some found
            exact of_decide_eq_true same
      · exact Or.inl ⟨.illegalOperationError, rfl⟩

/-! ## Clients and I/O -/

theorem addClient_cases (driver : Driver) (pointer : Nat) :
    (driver.slots (driver.devices pointer).slot = some pointer ∧
      driver.addClient pointer = (.returns .noErr, driver.setDevice pointer
        { driver.devices pointer with
          attachedClients := (driver.devices pointer).attachedClients + 1 })) ∨
      driver.addClient pointer = (.returns .badObjectError, driver) := by
  rw [addClient]
  by_cases placed : driver.slots (driver.devices pointer).slot = some pointer
  · exact Or.inl ⟨placed, if_pos placed⟩
  · exact Or.inr (if_neg placed)

theorem removeClient_cases (driver : Driver) (pointer : Nat) :
    ((driver.devices pointer).attachedClients ≠ 0 ∧
      driver.removeClient pointer = (.returns .noErr, (driver.setDevice pointer
        { driver.devices pointer with
          attachedClients := (driver.devices pointer).attachedClients - 1
            }).releaseRetiredSlotLocked pointer)) ∨
      ∃ status, status ≠ .noErr ∧ driver.removeClient pointer = (.returns status, driver) := by
  rw [removeClient]
  by_cases placed : driver.slots (driver.devices pointer).slot = some pointer
  · rw [if_pos placed]
    by_cases none : (driver.devices pointer).attachedClients = 0
    · rw [if_pos none]
      exact Or.inr ⟨.illegalOperationError, nofun, rfl⟩
    · rw [if_neg none]
      exact Or.inl ⟨none, rfl⟩
  · rw [if_neg placed]
    exact Or.inr ⟨.badObjectError, nofun, rfl⟩

theorem start_cases (driver : Driver) (pointer : Nat) :
    ((driver.devices pointer).active = true ∧
      driver.start pointer = (.returns .noErr, driver.setDevice pointer
        { driver.devices pointer with
          runningClients := (driver.devices pointer).runningClients + 1 })) ∨
      driver.start pointer = (.returns .badObjectError, driver) := by
  rw [start]
  by_cases active : (driver.devices pointer).active = true
  · exact Or.inl ⟨active, if_pos active⟩
  · exact Or.inr (if_neg active)

theorem stop_cases (driver : Driver) (pointer : Nat) :
    ((driver.devices pointer).runningClients ≠ 0 ∧
      driver.stop pointer = (.returns .noErr, (driver.setDevice pointer
        { driver.devices pointer with
          runningClients := (driver.devices pointer).runningClients - 1
            }).releaseRetiredSlotLocked pointer)) ∨
      driver.stop pointer = (.returns .illegalOperationError, driver) := by
  rw [stop]
  by_cases none : (driver.devices pointer).runningClients = 0
  · exact Or.inr (if_pos none)
  · exact Or.inl ⟨none, if_neg none⟩

/-- A slot is released when its device is retired and has no clients. -/
theorem releaseRetiredSlotLocked_cases (driver : Driver) (pointer : Nat) :
    ((driver.devices pointer).active = false ∧ (driver.devices pointer).attachedClients = 0 ∧
      (driver.devices pointer).runningClients = 0 ∧
      driver.slots (driver.devices pointer).slot = some pointer ∧
      driver.releaseRetiredSlotLocked pointer =
        driver.setSlot (driver.devices pointer).slot none) ∨
    (((driver.devices pointer).active = true ∨ (driver.devices pointer).attachedClients ≠ 0 ∨
        (driver.devices pointer).runningClients ≠ 0 ∨
        driver.slots (driver.devices pointer).slot ≠ some pointer) ∧
      driver.releaseRetiredSlotLocked pointer = driver) := by
  rw [releaseRetiredSlotLocked]
  by_cases used : (driver.devices pointer).active = true ∨
      (driver.devices pointer).attachedClients ≠ 0 ∨ (driver.devices pointer).runningClients ≠ 0
  · refine Or.inr ⟨?_, if_pos used⟩
    rcases used with active | attached | running
    · exact Or.inl active
    · exact Or.inr (Or.inl attached)
    · exact Or.inr (Or.inr (Or.inl running))
  · simp only [not_or, not_not] at used
    obtain ⟨retired, detached, stopped⟩ := used
    rw [if_neg (by simp [retired, detached, stopped])]
    by_cases placed : driver.slots (driver.devices pointer).slot = some pointer
    · exact Or.inl ⟨Bool.eq_false_iff.mpr retired, detached, stopped, placed, if_pos placed⟩
    · exact Or.inr ⟨Or.inr (Or.inr (Or.inr placed)), if_neg placed⟩

theorem devices_releaseRetiredSlotLocked (driver : Driver) (pointer : Nat) :
    (driver.releaseRetiredSlotLocked pointer).devices = driver.devices ∧
      (driver.releaseRetiredSlotLocked pointer).active = driver.active ∧
      (driver.releaseRetiredSlotLocked pointer).storage = driver.storage := by
  rcases driver.releaseRetiredSlotLocked_cases pointer with
    ⟨_, _, _, _, released⟩ | ⟨_, same⟩
  · rw [released]
    exact ⟨rfl, rfl, rfl⟩
  · rw [same]
    exact ⟨rfl, rfl, rfl⟩

theorem mem_active_releaseRetiredSlotLocked {other : Nat} :
    other ∈ (driver.releaseRetiredSlotLocked pointer).active ↔ other ∈ driver.active := by
  rw [(driver.devices_releaseRetiredSlotLocked pointer).2.1]

end VCable.Driver

namespace VCable.DriverSystem

open Driver

/-! ## What a step does -/

/-- All the ways in which a step can go. -/
inductive Effect (system : DriverSystem) :
    DriverAction → DriverSystem → Option OSStatus → Prop where
  | called {thread : Nat} {call : DriverCall} (idle : system.calls thread = none) :
      Effect system (.call thread call) (system.setCall thread (some (call, .called))) none
  | found {thread device : Nat} {call : DriverCall}
      (calling : system.calls thread = some (call, .called))
      (resolved : system.driver.lookup call = some device) :
      Effect system (.lookup thread) (system.setCall thread (some (call, .found device))) none
  | missed {thread : Nat} {call : DriverCall}
      (calling : system.calls thread = some (call, .called)) :
      Effect system (.lookup thread) (system.setCall thread none) (some .badObjectError)
  | refused {thread : Nat} {allocates : Bool} {write status : OSStatus} {call : DriverCall}
      {progress : DriverProgress} (free : system.creation = none)
      (calling : system.calls thread = some (call, progress))
      (early : progress = .called ∨ ∃ device, progress = .found device)
      (other : ∀ objectID action changeInfo,
        call ≠ .performDeviceConfigurationChange objectID action changeInfo)
      (known : status = .noErr → ∃ command, call = .control command) :
      Effect system (.enter thread allocates write) (system.setCall thread none) (some status)
  | created {thread : Nat} {allocates : Bool} {write : OSStatus} {text : String}
      {parsed : DeviceFields} {device : Device} (free : system.creation = none)
      (calling : system.calls thread = some (.control (some text), .called))
      (accepted : DeviceFields.parse (split '\t' (toCString text)) = some parsed)
      (fresh : Fresh system.driver parsed device) :
      Effect system (.enter thread allocates write)
        ({ system with
          driver := system.driver.appendDevice device
          creation := some ⟨thread, system.driver.allocated, .appended⟩
            }.setCall thread (some (.control (some text), .creating))) none
  | requested {thread device : Nat} {allocates : Bool} {write : OSStatus} {text id : String}
      (free : system.creation = none)
      (calling : system.calls thread = some (.control (some text), .called))
      (splits : split '\t' (toCString text) = ["delete", id])
      (listed : device ∈ system.driver.active) (named : (system.driver.devices device).id = id) :
      Effect system (.enter thread allocates write)
        ({ system with
          driver := system.driver.setPending device true
          events := .requested device id :: system.events
            }.setCall thread (some (.control (some text), .requesting device))) none
  | destroyed {thread device : Nat} {allocates : Bool} {write : OSStatus} {objectID : UInt32}
      (free : system.creation = none)
      (calling : system.calls thread = some (.destroyDevice objectID, .found device))
      (stopped : (system.driver.devices device).runningClients = 0)
      (listed : device ∈ system.driver.active) :
      Effect system (.enter thread allocates write)
        ({ system with driver := system.driver.withoutDevice device
            }.setCall thread (some (.destroyDevice objectID, .removed device))) none
  | performed {thread device changeInfo : Nat} {allocates : Bool} {write : OSStatus}
      {objectID : UInt32} {action : UInt64} (free : system.creation = none)
      (calling : system.calls thread =
        some (.performDeviceConfigurationChange objectID action changeInfo, .found device))
      (pending : (system.driver.devices device).deletePending = true)
      (stopped : (system.driver.devices device).runningClients = 0)
      (listed : device ∈ system.driver.active) :
      Effect system (.enter thread allocates write)
        ({ system with
          driver := (system.driver.setPending device false).withoutDevice device
          events := .cleared device :: system.events
            }.setCall thread (some (.performDeviceConfigurationChange objectID action changeInfo,
              .removed device))) none
  | performRefused {thread device changeInfo : Nat} {allocates : Bool} {write status : OSStatus}
      {objectID : UInt32} {action : UInt64} (free : system.creation = none)
      (calling : system.calls thread =
        some (.performDeviceConfigurationChange objectID action changeInfo, .found device))
      (failed : status ≠ .noErr) :
      Effect system (.enter thread allocates write)
        ({ system with
          driver := system.driver.setPending device false
          events := .cleared device :: system.events }.setCall thread none) (some status)
  | attached {thread device : Nat} {allocates : Bool} {write : OSStatus} {objectID : UInt32}
      (free : system.creation = none)
      (calling : system.calls thread = some (.addDeviceClient objectID, .found device))
      (placed : system.driver.slots (system.driver.devices device).slot = some device) :
      Effect system (.enter thread allocates write)
        ({ system with
          driver := system.driver.setDevice device { system.driver.devices device with
            attachedClients := (system.driver.devices device).attachedClients + 1 }
              }.setCall thread none) (some .noErr)
  | detached {thread device : Nat} {allocates : Bool} {write : OSStatus} {objectID : UInt32}
      (free : system.creation = none)
      (calling : system.calls thread = some (.removeDeviceClient objectID, .found device))
      (counted : (system.driver.devices device).attachedClients ≠ 0) :
      Effect system (.enter thread allocates write)
        ({ system with
          driver := (system.driver.setDevice device { system.driver.devices device with
            attachedClients := (system.driver.devices device).attachedClients - 1
              }).releaseRetiredSlotLocked device }.setCall thread none) (some .noErr)
  | started {thread device : Nat} {allocates : Bool} {write : OSStatus} {objectID : UInt32}
      (free : system.creation = none)
      (calling : system.calls thread = some (.startIo objectID, .found device))
      (active : (system.driver.devices device).active = true) :
      Effect system (.enter thread allocates write)
        ({ system with
          driver := system.driver.setDevice device { system.driver.devices device with
            runningClients := (system.driver.devices device).runningClients + 1 }
              }.setCall thread none) (some .noErr)
  | stopped {thread device : Nat} {allocates : Bool} {write : OSStatus} {objectID : UInt32}
      (free : system.creation = none)
      (calling : system.calls thread = some (.stopIo objectID, .found device))
      (counted : (system.driver.devices device).runningClients ≠ 0) :
      Effect system (.enter thread allocates write)
        ({ system with
          driver := (system.driver.setDevice device { system.driver.devices device with
            runningClients := (system.driver.devices device).runningClients - 1
              }).releaseRetiredSlotLocked device }.setCall thread none) (some .noErr)
  | published {thread device : Nat}
      (appended : system.creation = some ⟨thread, device, .appended⟩) :
      Effect system .publish { system with
        driver := system.driver.publishDevice device
        creation := some ⟨thread, device, .published⟩ } none
  | stored {thread device : Nat} {write : OSStatus}
      (published : system.creation = some ⟨thread, device, .published⟩)
      (hosted : system.driver.hosted = true) :
      Effect system (.writeStorage write)
        ({ system with
          driver := { system.driver with storage := some system.driver.inventoryLocked }
          creation := none }.setCall thread none) (some .noErr)
  | unstored {thread device : Nat} {write status : OSStatus}
      (published : system.creation = some ⟨thread, device, .published⟩)
      (failed : status ≠ .noErr) :
      Effect system (.writeStorage write)
        { system with creation := some ⟨thread, device, .failed status⟩ } none
  | rolledBack {thread device : Nat} {status : OSStatus}
      (failed : system.creation = some ⟨thread, device, .failed status⟩) :
      Effect system .rollBack
        ({ system with
          driver := system.driver.rollBackDevice device
          creation := none }.setCall thread none) (some status)
  | answered {thread device : Nat} {call : DriverCall}
      (calling : system.calls thread = some (call, .requesting device)) :
      Effect system (.answer thread (some .noErr)) (system.setCall thread none) (some .noErr)
  | unanswered {thread device : Nat} {call : DriverCall} {answer : Option OSStatus}
      {status : OSStatus} (calling : system.calls thread = some (call, .requesting device))
      (failed : answer ≠ some .noErr) :
      Effect system (.answer thread answer)
        ({ system with
          driver := system.driver.setPending device false
          events := .cleared device :: system.events }.setCall thread none) (some status)
  | aborted {thread device changeInfo : Nat} {objectID : UInt32} {action : UInt64}
      (calling : system.calls thread =
        some (.abortDeviceConfigurationChange objectID action changeInfo, .found device)) :
      Effect system (.clearPending thread)
        ({ system with
          driver := system.driver.setPending device false
          events := .cleared device :: system.events }.setCall thread none) (some .noErr)
  | released {thread device : Nat} {call : DriverCall} (free : system.creation = none)
      (calling : system.calls thread = some (call, .removed device)) :
      Effect system (.release thread)
        ({ system with driver := system.driver.releaseRetiredSlotLocked device
            }.setCall thread none) (some .noErr)

section Cases

variable {system next : DriverSystem} {returned : Option OSStatus}

theorem effect_enter {thread : Nat} {allocates : Bool} {write : OSStatus}
    (stepped : system.step (.enter thread allocates write) = some (next, returned)) :
    Effect system (.enter thread allocates write) next returned := by
  simp only [step] at stepped
  split at stepped
  swap
  · cases stepped
  rename_i call progress free calling
  split at stepped
  swap
  · cases stepped
  rename_i sequel driver entered
  have nextEq := Option.some.inj stepped
  unfold enter at entered
  split at entered
  · rename_i command
    rcases system.driver.control_cases command allocates with
      ⟨status, kept⟩ | ⟨text, parsed, device, rfl, accepted, fresh, creates⟩ |
      ⟨text, id, device, rfl, splits, listed, named, requests⟩
    · rw [kept] at entered
      cases entered
      cases nextEq
      exact .refused free calling (Or.inl rfl) nofun fun _ => ⟨command, rfl⟩
    · rw [creates] at entered
      cases entered
      cases nextEq
      exact .created free calling accepted fresh
    · rw [requests] at entered
      cases entered
      cases nextEq
      exact .requested free calling splits listed named
  · rename_i objectID device
    rcases system.driver.removal_cases device write with
      ⟨stopped, listed, removes⟩ | ⟨status, failed, kept⟩
    · rw [removes] at entered
      cases entered
      cases nextEq
      exact .destroyed free calling stopped listed
    · rw [kept] at entered
      cases entered
      cases nextEq
      exact .refused free calling (Or.inr ⟨device, rfl⟩) nofun fun same => absurd same failed
  · rename_i objectID action changeInfo device
    rcases system.driver.perform_cases device write with
      ⟨pending, stopped, listed, removes⟩ | ⟨status, failed, kept⟩
    · rw [removes] at entered
      cases entered
      cases nextEq
      exact .performed free calling pending stopped listed
    · rw [kept] at entered
      cases entered
      cases nextEq
      exact .performRefused free calling failed
  · rename_i objectID device
    rcases system.driver.addClient_cases device with ⟨placed, added⟩ | kept
    · rw [added] at entered
      cases entered
      cases nextEq
      exact .attached free calling placed
    · rw [kept] at entered
      cases entered
      cases nextEq
      exact .refused free calling (Or.inr ⟨device, rfl⟩) nofun nofun
  · rename_i objectID device
    rcases system.driver.removeClient_cases device with
      ⟨counted, removed⟩ | ⟨status, failed, kept⟩
    · rw [removed] at entered
      cases entered
      cases nextEq
      exact .detached free calling counted
    · rw [kept] at entered
      cases entered
      cases nextEq
      exact .refused free calling (Or.inr ⟨device, rfl⟩) nofun fun same => absurd same failed
  · rename_i objectID device
    rcases system.driver.start_cases device with ⟨active, started⟩ | kept
    · rw [started] at entered
      cases entered
      cases nextEq
      exact .started free calling active
    · rw [kept] at entered
      cases entered
      cases nextEq
      exact .refused free calling (Or.inr ⟨device, rfl⟩) nofun nofun
  · rename_i objectID device
    rcases system.driver.stop_cases device with ⟨counted, stopped⟩ | kept
    · rw [stopped] at entered
      cases entered
      cases nextEq
      exact .stopped free calling counted
    · rw [kept] at entered
      cases entered
      cases nextEq
      exact .refused free calling (Or.inr ⟨device, rfl⟩) nofun nofun
  · cases entered

theorem effect_of_step {action : DriverAction}
    (stepped : system.step action = some (next, returned)) :
    Effect system action next returned := by
  cases action with
  | call thread call =>
      simp only [step] at stepped
      split at stepped
      · cases stepped
        exact .called ‹_›
      · cases stepped
  | lookup thread =>
      simp only [step] at stepped
      split at stepped
      · cases stepped
      · rename_i call _ calling
        split at stepped
        · cases stepped
          exact .found calling ‹_›
        · cases stepped
          exact .missed calling
      · cases stepped
  | enter thread allocates write => exact effect_enter stepped
  | publish =>
      simp only [step] at stepped
      split at stepped
      · cases stepped
        exact .published ‹_›
      · cases stepped
  | writeStorage write =>
      simp only [step] at stepped
      split at stepped
      · rename_i thread device published
        rcases system.driver.persistLocked_cases write with
          ⟨hosted, stored⟩ | ⟨status, failed, unstored⟩
        · rw [stored] at stepped
          cases stepped
          exact .stored published hosted
        · rw [unstored] at stepped
          cases status with
          | noErr => exact absurd rfl failed
          | _ =>
              cases stepped
              exact .unstored published failed
      · cases stepped
  | rollBack =>
      simp only [step] at stepped
      split at stepped
      · cases stepped
        exact .rolledBack ‹_›
      · cases stepped
  | answer thread status =>
      simp only [step] at stepped
      split at stepped
      · rename_i call device calling
        split at stepped
        · rename_i answered
          cases stepped
          rw [answered]
          exact .answered calling
        · cases stepped
          exact .unanswered calling ‹_›
      · cases stepped
  | clearPending thread =>
      simp only [step] at stepped
      split at stepped
      · cases stepped
        exact .aborted ‹_›
      · cases stepped
  | release thread =>
      simp only [step] at stepped
      split at stepped
      · cases stepped
        exact .released ‹_› ‹_›
      · cases stepped

end Cases

end VCable.DriverSystem
