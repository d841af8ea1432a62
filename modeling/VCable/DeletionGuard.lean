import VCable.DaemonInvariants
import VCable.RestartFidelity
import VCable.RouteRetention

/-!
# The guard before a device is deleted

A device is not deleted while a saved route uses it.  The guard looks for the
device in the table of the last listing, so it protects a device that a route
names only as long as that listing has the device.
-/

namespace VCable

open Std RoutingGraph FallibleState Relation

variable {F : Type} [SinglePrecision F]

/-! ## Every table is that of a listing -/

/-- The endpoints and their devices are those of some listing. -/
def HasListing (world : World F) : Prop :=
  ∃ devices, Lists devices world

/-- A listing has a table, and the endpoints stay when routes are added. -/
theorem listingInvariant_hasListing :
    ListingInvariant fun (graph : RoutingGraph F) endpointDevices =>
      ∃ devices : List AudioDevice, Listed.Holds (F := F)
        { graph := withoutRoutes graph.endpoints, endpointDevices := endpointDevices }
        fun device endpoint => device ∈ devices ∧ device.Describes endpoint where
  listed := by
    intro listing listed found
    obtain ⟨devices, _, holds⟩ := listEndpoints_holds found
    exact ⟨devices, ⟨rfl, holds.endpoint_iff, holds.device_iff⟩⟩
  added := by
    intro graph extended route endpointDevices added held
    rw [addRoute_endpoints added]
    exact held

theorem HasListing.run {started world : World F} (held : HasListing started)
    (run : ReflTransGen HandleStep started world) : HasListing world :=
  listingInvariant_hasListing.run held run

theorem hasListing_started {path : DiskPath} {fault : Option IoError} {disk : Disk}
    {loaded started : World F} {phase : Phase} (loads : load path fault disk = .ok loaded)
    (starts : bringUp phase loaded = (.ok (), started)) : HasListing started :=
  listingInvariant_hasListing.started loads starts

/-! ## Referenced devices -/

/-- A saved route has the endpoint as its source or its sink. -/
def SavedRoutes.NamesEndpoint (routes : SavedRoutes) (endpoint : String) : Prop :=
  ∃ saved ∈ routes.values, saved.source = endpoint ∨ saved.sink = endpoint

/-- A saved route names an endpoint of the device that the driver makes for the
identifier. -/
def References (world : World F) (id : String) : Prop :=
  world.routes.NamesEndpoint (endpointId (virtualDeviceUid id) "input") ∨
    world.routes.NamesEndpoint (endpointId (virtualDeviceUid id) "output")

/-- A request to delete the device gets an answer before it reaches the driver:
whatever the calls come to, the device is in use, or the identifier is invalid. -/
def DeletionRefused (world : World F) (id : String) : Prop :=
  ∀ environment, handle environment (.deleteDevice id) world =
    (.error (if isValidDeviceId id then .deviceInUse id else .invalidDeviceId id), world)

/-- The listed devices have the device with the UID of the identifier, with an
endpoint that a saved route names. -/
def ListedInUse (devices : List AudioDevice) (world : World F) (id : String) : Prop :=
  ∃ device ∈ devices, device.uid = virtualDeviceUid id ∧
    ∃ endpoint, device.Describes endpoint ∧ world.routes.NamesEndpoint endpoint.id.value

theorem isReferenced_iff {devices : List AudioDevice} {world : World F}
    (lists : Lists devices world) (id : String) :
    isReferenced world (virtualDeviceUid id) = true ↔ ListedInUse devices world id := by
  simp only [isReferenced, List.any_eq_true, List.mem_cons, List.not_mem_nil, or_false]
  constructor
  · rintro ⟨saved, member, key, named, uses⟩
    cases found : world.endpointDevices[key]? with
    | none =>
        rw [found] at uses
        cases uses
    | some device =>
        rw [found] at uses
        obtain ⟨endpoint, ⟨listed, describes⟩, rfl⟩ := (lists.device_iff key device).mp found
        exact ⟨device, listed, of_decide_eq_true uses, endpoint, describes, saved, member,
          named.imp Eq.symm Eq.symm⟩
  · rintro ⟨device, listed, uidEq, endpoint, describes, saved, member, named⟩
    have found := (lists.device_iff endpoint.id.value device).mpr
      ⟨endpoint, ⟨listed, describes⟩, rfl⟩
    refine ⟨saved, member, endpoint.id.value, named.imp Eq.symm Eq.symm, ?_⟩
    simp [found, uidEq]

theorem deletionRefused_of_invalid {id : String} (invalid : ¬ isValidDeviceId id = true)
    (world : World F) : DeletionRefused world id := by
  intro environment
  rw [if_neg invalid]
  exact bind_apply_error (validateDeviceId_of_invalid (Bool.eq_false_iff.mpr invalid) world)

theorem deletionRefused_of_referenced {id : String} {world : World F}
    (valid : isValidDeviceId id = true)
    (referenced : isReferenced world (virtualDeviceUid id) = true) : DeletionRefused world id := by
  intro environment
  rw [if_pos valid]
  change deleteDevice environment id world = _
  unfold deleteDevice
  rw [bind_apply_ok (validateDeviceId_of_valid valid world)]
  refine bind_apply_error ?_
  simp [inspect, referenced]

/-- A request that the guard lets through reaches the driver, and answers with
the driver's error if there is one. -/
theorem deleteDevice_reaches_driver {environment : Environment} {id : String} {world : World F}
    {failure : CoreAudioError} (valid : isValidDeviceId id = true)
    (unreferenced : isReferenced world (virtualDeviceUid id) = false)
    (fails : environment.delete = some failure) :
    handle environment (.deleteDevice id) world = (.error (.coreAudio failure), world) := by
  change deleteDevice environment id world = _
  unfold deleteDevice
  rw [bind_apply_ok (validateDeviceId_of_valid valid world)]
  have passes : (inspect fun world =>
      if isReferenced world (virtualDeviceUid id) then .error (.deviceInUse id) else .ok () :
        Daemon F Unit) world = (.ok (), world) := by
    simp [inspect, unreferenced]
  rw [bind_apply_ok passes]
  refine bind_apply_error ?_
  simp [inspect, coreAudioCall, fails]

/-- The guard stops a request with a valid identifier if and only if it finds
the device referenced. -/
theorem deletionRefused_iff (world : World F) (id : String) :
    DeletionRefused world id ↔
      (isValidDeviceId id = true → isReferenced world (virtualDeviceUid id) = true) := by
  constructor
  · intro refused valid
    by_contra unreferenced
    let environment : Environment :=
      { smoothCalls [] with delete := some .unsupportedPlatform }
    have reached := @deleteDevice_reaches_driver _ _ environment _ world _ valid
      (Bool.eq_false_iff.mpr unreferenced) rfl
    rw [refused environment, if_pos valid] at reached
    cases reached
  · intro guarded
    by_cases valid : isValidDeviceId id = true
    · exact deletionRefused_of_referenced valid (guarded valid)
    · exact deletionRefused_of_invalid valid world

/-- In every state of every run, whatever the calls of its requests came to, a
referenced device is protected if and only if the last listing has it with an
endpoint that a saved route names. -/
theorem referenced_deletion_refused_iff {path : DiskPath} {fault : Option IoError} {disk : Disk}
    {loaded started world : World F} {phase : Phase} (loads : load path fault disk = .ok loaded)
    (starts : bringUp phase loaded = (.ok (), started))
    (run : ReflTransGen HandleStep started world) (id : String) :
    (∃ devices, Lists devices world) ∧ ∀ devices, Lists devices world →
      ((References world id → DeletionRefused world id) ↔
        (References world id → isValidDeviceId id = true → ListedInUse devices world id)) := by
  refine ⟨(hasListing_started loads starts).run run, fun devices lists => ?_⟩
  rw [deletionRefused_iff, isReferenced_iff lists]

/-- A virtual device with one channel on each side, and a route from it. -/
def monoCable : AudioDevice := ⟨4, "dev.vcable.device.cable", "Cable", 1, 1, 48000, true, true⟩

def cableRoute : SavedRoute :=
  ⟨"cable", "audio:dev.vcable.device.cable:input", "audio:speaker:output", 0, []⟩

/-- A daemon that was started without routes. -/
def startedWorld : World ℚ :=
  (bringUp (smoothPhase [monoCable, speaker]) (restoredWorld [] .empty none)).2

/-- The daemon after it has connected the cable. -/
def cableWorld : World ℚ :=
  (handle (smoothCalls [monoCable, speaker]) cableRoute.request startedWorld).2

theorem cableWorld_run : ReflTransGen HandleStep startedWorld cableWorld :=
  .single (handleStep _ _ _)

/-- The listing that connected the cable has it. -/
theorem referenced_deletion_refused_iff_cable :
    (∃ devices, Lists devices cableWorld) ∧ ∀ devices, Lists devices cableWorld →
      ((References cableWorld "cable" → DeletionRefused cableWorld "cable") ↔
        (References cableWorld "cable" → isValidDeviceId "cable" = true →
          ListedInUse devices cableWorld "cable")) :=
  @referenced_deletion_refused_iff _ _ [.rootDir, .normal "state"] none ⟨fun _ => none⟩
    (restoredWorld [] .empty none) startedWorld _ (smoothPhase [monoCable, speaker]) rfl
    (Prod.ext (by decide +kernel) rfl) cableWorld_run "cable"

/-- Another device is created while the cable is missing from the list. -/
def uncabledWorld : World ℚ :=
  (handle (smoothCalls [speaker]) (.createDevice "other" "Other" 1 1 48000) cableWorld).2

/-- The driver deletes the cable although a saved route has it as its source,
and restoring that route fails. -/
theorem referenced_device_deleted :
    ∃ loaded started world : World ℚ,
      load [.rootDir, .normal "state"] none ⟨fun _ => none⟩ = .ok loaded ∧
      bringUp (smoothPhase [monoCable, speaker]) loaded = (.ok (), started) ∧
      ReflTransGen HandleStep started world ∧ References world "cable" ∧
      (handle (smoothCalls [speaker]) (.deleteDevice "cable") world).1 =
        .error (.endpointNotFound "audio:dev.vcable.device.cable:input") ∧
      ¬ DeletionRefused world "cable" := by
  have deleted : (handle (smoothCalls [speaker]) (.deleteDevice "cable") uncabledWorld).1 =
      .error (.endpointNotFound "audio:dev.vcable.device.cable:input") := by
    decide +kernel
  refine ⟨restoredWorld [] .empty none, startedWorld, uncabledWorld, rfl,
    Prod.ext (by decide +kernel) rfl,
    cableWorld_run.tail (handleStep _ _ _),
    Or.inl ⟨cableRoute, SavedRoutes.mem_values_iff.mpr (by decide +kernel), Or.inl ?_⟩, deleted,
    fun refused => ?_⟩
  · decide +kernel
  · rw [refused, if_pos (by decide +kernel)] at deleted
    cases deleted

end VCable
