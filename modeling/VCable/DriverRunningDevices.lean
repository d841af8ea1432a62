import VCable.DriverTableRuns

/-!
# Running devices are listed

`StartIO` looks its device up without a lock and then checks no more than that
it is active.  A creation that is rolled back leaves its device active, so the
lookup must not have fallen between the publication and the rollback.  Over
runs in which it never does, a device with running clients is always listed.
-/

namespace VCable.DriverSystem

open Driver LabelledSteps

/-- No `StartIO` goes on with a device that is active but not in its slot, as
the device of a creation that was rolled back. -/
def startsPublished (system : DriverSystem) : DriverAction → Bool
  | .enter thread _ _ =>
      match system.calls thread with
      | some (.startIo _, .found device) =>
          !(system.driver.devices device).active ||
            system.driver.slots (system.driver.devices device).slot = some device
      | _ => true
  | _ => true

/-- A device with running clients is listed. -/
def RunningListed (system : DriverSystem) : Prop :=
  ∀ device, (system.driver.devices device).runningClients ≠ 0 → device ∈ system.driver.active

section Steps

variable {system next : DriverSystem} {action : DriverAction} {returned : Option OSStatus}
  {bounded : Prop}

/-- A step that keeps the list and the running clients. -/
theorem RunningListed.of_keeps (listed : system.RunningListed)
    (active : next.driver.active = system.driver.active)
    (same : ∀ device, (next.driver.devices device).runningClients =
      (system.driver.devices device).runningClients) : next.RunningListed := by
  intro device running
  rw [active]
  rw [same] at running
  exact listed device running

theorem RunningListed.created (listed : system.RunningListed) {device : Device}
    (driver : next.driver = system.driver.appendDevice device) : next.RunningListed := by
  intro other running
  rw [driver] at running ⊢
  by_cases new : other = system.driver.allocated
  · exact List.mem_append_right _ (List.mem_singleton.mpr new)
  · rw [devices_appendDevice_of_ne system.driver device new] at running
    exact List.mem_append_left _ (listed other running)

/-- A removed device was not running. -/
theorem RunningListed.withoutDevice (listed : system.RunningListed) {device : Nat}
    {driver : Driver} (active : driver.active = system.driver.active)
    (same : ∀ other, (driver.devices other).runningClients =
      (system.driver.devices other).runningClients)
    (stopped : (system.driver.devices device).runningClients = 0)
    (removed : next.driver = driver.withoutDevice device) : next.RunningListed := by
  intro other running
  rw [removed] at running ⊢
  rw [apply_devices_withoutDevice Device.runningClients (fun _ => rfl), same] at running
  change other ∈ driver.active.erase device
  rw [active, List.mem_erase_of_ne]
  · exact listed other running
  · rintro rfl
    exact running stopped

theorem RunningListed.rolledBack (listed : system.RunningListed) {creation : Creation}
    (creating : system.Creating creation)
    (driver : next.driver = system.driver.rollBackDevice creation.device) :
    next.RunningListed := by
  intro other running
  rw [driver] at running ⊢
  obtain ⟨earlier, last⟩ := creating.last
  have differ : other ≠ creation.device := by
    rintro rfl
    exact running creating.stopped
  have before := listed other running
  rw [last, List.mem_append, List.mem_singleton] at before
  change other ∈ system.driver.active.dropLast
  rw [last, List.dropLast_concat]
  exact before.resolve_right differ

theorem placed_of_startsPublished {thread device : Nat} {allocates : Bool} {write : OSStatus}
    {objectID : UInt32} (published : system.startsPublished (.enter thread allocates write) = true)
    (calling : system.calls thread = some (.startIo objectID, .found device))
    (active : (system.driver.devices device).active = true) :
    system.driver.slots (system.driver.devices device).slot = some device := by
  rw [startsPublished, calling] at published
  dsimp only at published
  rw [active, Bool.not_true, Bool.false_or] at published
  exact of_decide_eq_true published

theorem RunningListed.step (listed : system.RunningListed) (sound : system.Sound bounded)
    (published : system.startsPublished action = true)
    (effect : Effect system action next returned) : next.RunningListed := by
  cases effect with
  | created free calling accepted fresh => exact listed.created rfl
  | destroyed free calling stopped =>
      exact listed.withoutDevice rfl (fun _ => rfl) stopped rfl
  | @performed thread device _ _ _ _ _ free calling pending stopped =>
      exact @RunningListed.withoutDevice _ _ listed _ (system.driver.setPending device false) rfl
        (apply_devices_setPending Device.runningClients fun _ => rfl) stopped rfl
  | @started thread device _ _ _ free calling active =>
      have placed := placed_of_startsPublished published calling active
      intro other running
      by_cases same : other = device
      · subst same
        exact sound.table.mem_active placed active
      · refine listed other ?_
        rwa [show (_ : DriverSystem).driver.devices other = system.driver.devices other from
          devices_setDevice_of_ne _ _ same] at running
  | @stopped thread device _ _ _ free calling counted =>
      obtain ⟨devices, active, _⟩ := devices_releaseRetiredSlotLocked
        (system.driver.setDevice device
        { system.driver.devices device with
          runningClients := (system.driver.devices device).runningClients - 1 }) device
      intro other running
      refine active.symm ▸ listed other ?_
      change ((releaseRetiredSlotLocked _ _).devices other).runningClients ≠ 0 at running
      rw [devices] at running
      by_cases same : other = device
      · rw [same]
        exact counted
      · rwa [devices_setDevice_of_ne _ _ same] at running
  | rolledBack failed => exact listed.rolledBack (sound.creating _ failed) rfl
  | attached => exact listed.of_keeps rfl (apply_devices_setDevice Device.runningClients rfl)
  | @detached thread device =>
      obtain ⟨devices, active, _⟩ := devices_releaseRetiredSlotLocked
        (system.driver.setDevice device
        { system.driver.devices device with
          attachedClients := (system.driver.devices device).attachedClients - 1 }) device
      exact listed.of_keeps active fun other =>
        (congrArg Device.runningClients (congrFun devices other)).trans
          (apply_devices_setDevice Device.runningClients (by rfl) other)
  | @released thread device =>
      obtain ⟨devices, active, _⟩ := devices_releaseRetiredSlotLocked system.driver device
      exact listed.of_keeps active fun other =>
        congrArg Device.runningClients (congrFun devices other)
  | requested =>
      exact listed.of_keeps rfl (apply_devices_setPending Device.runningClients fun _ => rfl)
  | performRefused =>
      exact listed.of_keeps rfl (apply_devices_setPending Device.runningClients fun _ => rfl)
  | unanswered =>
      exact listed.of_keeps rfl (apply_devices_setPending Device.runningClients fun _ => rfl)
  | aborted =>
      exact listed.of_keeps rfl (apply_devices_setPending Device.runningClients fun _ => rfl)
  | _ => exact listed.of_keeps rfl fun _ => rfl

/-- A step that takes a device off the list finds it not running. -/
theorem RunningListed.removed (sound : system.Sound bounded)
    (effect : Effect system action next returned)
    {device : Nat} (before : device ∈ system.driver.active) (after : device ∉ next.driver.active) :
    (system.driver.devices device).runningClients = 0 := by
  cases effect with
  | created => exact absurd (List.mem_append_left _ before) after
  | @destroyed thread removed _ _ _ free calling stopped =>
      by_cases same : device = removed
      · exact same ▸ stopped
      · exact absurd ((List.mem_erase_of_ne same).mpr before) after
  | @performed thread removed _ _ _ _ _ free calling pending stopped =>
      by_cases same : device = removed
      · exact same ▸ stopped
      · exact absurd ((List.mem_erase_of_ne same).mpr before) after
  | @rolledBack thread removed status failed =>
      have creating := sound.creating _ failed
      obtain ⟨earlier, last⟩ := creating.last
      have kept : (system.driver.rollBackDevice removed).active = earlier := by
        change system.driver.active.dropLast = earlier
        rw [last, List.dropLast_concat]
      rw [last, List.mem_append, List.mem_singleton] at before
      rcases before with early | same
      · exact absurd (kept.symm ▸ early) after
      · exact same ▸ creating.stopped
  | detached => exact (after (mem_active_releaseRetiredSlotLocked.mpr before)).elim
  | stopped => exact (after (mem_active_releaseRetiredSlotLocked.mpr before)).elim
  | released => exact (after (mem_active_releaseRetiredSlotLocked.mpr before)).elim
  | _ => exact absurd before after

/-- A `StartIO` that succeeds has started a device that is listed and in its slot. -/
def StartsListed (system : DriverSystem) (action : DriverAction)
    (returned : Option OSStatus) : Prop :=
  ∀ thread allocates write objectID device, action = .enter thread allocates write →
    system.calls thread = some (.startIo objectID, .found device) → returned = some .noErr →
      device ∈ system.driver.active ∧
        system.driver.slots (system.driver.devices device).slot = some device

theorem startsListed_of_effect (sound : system.Sound bounded)
    (published : system.startsPublished action = true)
    (effect : Effect system action next returned) : system.StartsListed action returned := by
  rintro thread allocates write objectID device rfl calling rfl
  cases effect with
  | refused free found early other known =>
      obtain ⟨command, control⟩ := known rfl
      rw [calling, control] at found
      cases found
  | started free found active =>
      rw [calling] at found
      cases found
      have placed := placed_of_startsPublished published calling active
      exact ⟨sound.table.mem_active placed active, placed⟩
  | attached free found => exact absurd (calling.symm.trans found) nofun
  | detached free found => exact absurd (calling.symm.trans found) nofun
  | stopped free found => exact absurd (calling.symm.trans found) nofun
  | performRefused free found => exact absurd (calling.symm.trans found) nofun

/-- What a `StartIO` has found when it goes on with an unplaced device. -/
theorem startsPublished_eq_false (unpublished : system.startsPublished action = false) :
    ∃ thread allocates write objectID device, action = .enter thread allocates write ∧
      system.calls thread = some (.startIo objectID, .found device) ∧
      (system.driver.devices device).active = true ∧
      system.driver.slots (system.driver.devices device).slot ≠ some device := by
  unfold startsPublished at unpublished
  split at unpublished
  · rename_i thread allocates write
    split at unpublished
    · rename_i objectID device calling
      obtain ⟨active, elsewhere⟩ := Bool.or_eq_false_iff.mp unpublished
      exact ⟨thread, allocates, write, objectID, device, rfl, calling,
        Bool.not_eq_eq_eq_not.mp active, of_decide_eq_false elsewhere⟩
    · cases unpublished
  · cases unpublished

/-- A `StartIO` that goes on with the device of a creation that was rolled back
makes that device run outside of its slot. -/
theorem runs_unplaced (few : system.fewClients action = true)
    (unpublished : system.startsPublished action = false)
    (stepped : system.step action = some (next, returned)) :
    next.creation = none ∧ ∃ device, (next.driver.devices device).runningClients ≠ 0 ∧
      next.driver.slots (next.driver.devices device).slot ≠ some device := by
  obtain ⟨thread, allocates, write, objectID, device, rfl, calling, active, elsewhere⟩ :=
    startsPublished_eq_false unpublished
  rw [fewClients, calling] at few
  have room := of_decide_eq_true few
  simp only [step, calling] at stepped
  split at stepped
  swap
  · cases stepped
  rename_i call progress free found
  cases found
  have started : system.driver.enter allocates write (.startIo objectID) (.found device) = some
      (.returns .noErr, system.driver.setDevice device { system.driver.devices device with
        runningClients := (system.driver.devices device).runningClients + 1 }) :=
    congrArg some (if_pos active)
  rw [started] at stepped
  cases stepped
  have own := devices_setDevice_self system.driver device { system.driver.devices device with
    runningClients := (system.driver.devices device).runningClients + 1 }
  refine ⟨free, device, ?_, ?_⟩
  · intro none
    have value := congrArg UInt32.toNat ((congrArg Device.runningClients own).symm.trans none)
    rw [UInt32.toNat_add, UInt32.toNat_one, Nat.mod_eq_of_lt room] at value
    exact Nat.succ_ne_zero _ value
  · intro placed
    exact elsewhere ((congrArg system.driver.slots (congrArg Device.slot own)).symm.trans placed)

/-- A driver that has just been started runs no device. -/
theorem stopped_initializeDriver (storage : Option String) (copyStatus : OSStatus)
    (allocates : Nat → Bool) :
    ∀ device, (((Driver.loaded storage).initializeDriver copyStatus allocates).2.devices
      device).runningClients = 0 := by
  refine @initializeDriver_induction
    (fun driver => ∀ device, (driver.devices device).runningClients = 0) ?_ _ (fun _ => rfl)
    copyStatus allocates
  intro driver _ fields added stopped _ fresh other
  by_cases new : other = driver.allocated
  · rw [new]
    exact (congrArg Device.runningClients (devices_appendDevice_self driver added)).trans
      fresh.not_running
  · exact (congrArg Device.runningClients
      (devices_appendDevice_of_ne driver added new)).trans (stopped other)

/-- A device with running clients is listed and in its slot whenever the mutex is
free, and is not removed. -/
structure RunningPlaced (system : DriverSystem) : Prop where
  placed : system.creation = none → ∀ device,
    (system.driver.devices device).runningClients ≠ 0 → device ∈ system.driver.active ∧
      system.driver.slots (system.driver.devices device).slot = some device
  starts : ∀ action next returned, system.step action = some (next, returned) →
    system.startsPublished action = true → system.StartsListed action returned
  removes : ∀ action next returned, system.step action = some (next, returned) →
    ∀ device ∈ system.driver.active, device ∉ next.driver.active →
      (system.driver.devices device).runningClients = 0
  /-- A `StartIO` that comes too late for its device breaks the first field. -/
  late : ∀ action next returned, system.step action = some (next, returned) →
    system.fewClients action = true → system.startsPublished action = false →
      next.creation = none ∧ ∃ device, (next.driver.devices device).runningClients ≠ 0 ∧
        next.driver.slots (next.driver.devices device).slot ≠ some device

/-- In every run in which no `StartIO` goes on with the device of a creation that
was rolled back, a device with running clients is listed and in its slot.  A
`StartIO` succeeds only for such a device, and none is removed while it runs. -/
theorem running_devices_listed (storage : Option String) (copyStatus : OSStatus)
    (allocates : Nat → Bool)
    (reached : Reachable
      (restrict (fun state action => state.fewClients action && state.startsPublished action) step)
      (idle ((Driver.loaded storage).initializeDriver copyStatus allocates).2) system) :
    system.RunningPlaced := by
  have invariant : Invariant
      (restrict (fun state action => state.fewClients action && state.startsPublished action) step)
      (idle ((Driver.loaded storage).initializeDriver copyStatus allocates).2)
      fun state => state.Sound True ∧ state.RunningListed := by
    refine Invariant.and (sound_invariant storage copyStatus allocates fun stepped => ?_) ?_ ?_
    · obtain ⟨allowed, stepped⟩ := restrict_eq_some_iff.mp stepped
      exact ⟨stepped, fun _ => (Bool.and_eq_true_iff.mp allowed).1⟩
    · intro device running
      exact absurd (stopped_initializeDriver storage copyStatus allocates device) running
    · intro state next action returned sound listed stepped
      obtain ⟨allowed, stepped⟩ := restrict_eq_some_iff.mp stepped
      exact listed.step sound (Bool.and_eq_true_iff.mp allowed).2 (effect_of_step stepped)
  obtain ⟨sound, listed⟩ := invariant.reachable reached
  exact
    { placed := fun free device running =>
        ⟨listed device running, (sound.intact free).placed device (listed device running)⟩
      starts := fun action next returned stepped published =>
        startsListed_of_effect sound published (effect_of_step stepped)
      removes := fun action next returned stepped device before after =>
        RunningListed.removed sound (effect_of_step stepped) before after
      late := fun action next returned stepped few unpublished =>
        runs_unplaced few unpublished stepped }

/-- A client starts the first of two devices, which then cannot be deleted. -/
def startedCable : List DriverAction :=
  [.call 0 (.control (some "create\tcable\tCable\t2\t2\t48000")), .enter 0 true .noErr,
    .publish, .writeStorage .noErr,
    .call 0 (.control (some "create\tsecond\tSecond\t2\t2\t48000")), .enter 0 true .noErr,
    .publish, .writeStorage .noErr,
    .call 1 (.startIo 100), .lookup 1, .enter 1 true .noErr,
    .call 0 (.control (some "delete\tcable")), .enter 0 true .noErr]

theorem run_startedCable :
    (LabelledSteps.run
      (restrict (fun state action => state.fewClients action && state.startsPublished action) step)
      (idle ((Driver.loaded none).initializeDriver .noErr fun _ => true).2) startedCable).map
        (fun system => (system.creation, system.driver.active,
          (system.driver.devices 0).runningClients)) = some (none, [0, 1], 1) := by
  decide +kernel

/-- The device that was started is listed and in its slot. -/
theorem running_devices_listed_startedCable :
    ∃ system, LabelledSteps.run
        (restrict (fun state action => state.fewClients action && state.startsPublished action)
          step) (idle ((Driver.loaded none).initializeDriver .noErr fun _ => true).2)
            startedCable = some system ∧
      (system.driver.devices 0).runningClients = 1 ∧ system.RunningPlaced ∧
      0 ∈ system.driver.active ∧
      system.driver.slots (system.driver.devices 0).slot = some 0 := by
  obtain ⟨system, ran, seen⟩ := Option.map_eq_some_iff.mp run_startedCable
  obtain ⟨free, -, running⟩ : system.creation = none ∧ system.driver.active = [0, 1] ∧
      (system.driver.devices 0).runningClients = 1 := by
    simpa only [Prod.mk.injEq] using seen
  have placed := running_devices_listed none .noErr (fun _ => true) (Reachable.start.run ran)
  exact ⟨system, ran, running, placed, placed.placed free 0 (by rw [running]; decide)⟩

/-- A creation whose write to the storage fails, with a `StartIO` that has
looked its device up before the rollback. -/
def lateStart : List DriverAction :=
  [.call 0 (.control (some "create\tcable\tCable\t2\t2\t48000")),
    .enter 0 true .noErr,
    .publish,
    .call 1 (.startIo 100),
    .lookup 1,
    .writeStorage (.host 1),
    .rollBack,
    .enter 1 true .noErr]

theorem run_lateStart :
    (LabelledSteps.run (restrict fewClients step)
      (idle ((Driver.loaded none).initializeDriver .noErr fun _ => true).2) lateStart).map
        (fun system => (system.creation, system.driver.active,
          (system.driver.devices 0).runningClients)) = some (none, [], 1) := by
  decide +kernel

/-- The start of an unlisted device has succeeded. -/
theorem unlisted_device_runs :
    ¬ ∀ system, Reachable (restrict fewClients step)
        (idle ((Driver.loaded none).initializeDriver .noErr fun _ => true).2) system →
      system.creation = none → ∀ device, (system.driver.devices device).runningClients ≠ 0 →
        device ∈ system.driver.active ∧
          system.driver.slots (system.driver.devices device).slot = some device := by
  intro claimed
  obtain ⟨system, ran, seen⟩ := Option.map_eq_some_iff.mp run_lateStart
  obtain ⟨free, unlisted, running⟩ : system.creation = none ∧ system.driver.active = [] ∧
      (system.driver.devices 0).runningClients = 1 := by
    simpa only [Prod.mk.injEq] using seen
  have listed := (claimed system (Reachable.start.run ran) free 0 (by rw [running]; decide)).1
  rw [unlisted] at listed
  cases listed

end Steps

end VCable.DriverSystem
