import VCable.DaemonRuns
import VCable.StateFileRoundTrip

/-!
# Restarts are faithful

While the devices change only by the daemon's own requests and nothing fails,
the state file always loads to the saved routes, and the graph is always the
one that they are restored to on the listed devices.  A daemon that is started
again is therefore in the same state.
-/

namespace VCable

open Std RoutingGraph FallibleState Relation

variable {F : Type} [SinglePrecision F]

/-! ## Listed devices -/

/-- The endpoints of the graph are those of the devices. -/
def Lists (devices : List AudioDevice) (world : World F) : Prop :=
  Listed.Holds (F := F)
    { graph := withoutRoutes world.graph.endpoints, endpointDevices := world.endpointDevices }
    fun device endpoint => device ∈ devices ∧ device.Describes endpoint

/-- Two lists have the same devices. -/
def SameDevices (devices others : List AudioDevice) : Prop :=
  ∀ device, device ∈ others ↔ device ∈ devices

theorem Lists.congr {devices others : List AudioDevice} {world : World F}
    (lists : Lists devices world) (same : SameDevices devices others) : Lists others world := by
  refine Listed.Holds.congr lists fun device endpoint => ?_
  rw [same device]

/-- A listing of the same devices finds the same endpoints. -/
theorem Lists.relist {devices others : List AudioDevice} {world : World F} {listed : Listed F}
    (lists : Lists devices world) (same : SameDevices devices others)
    (found : listEndpoints (.ok others) = .ok listed) :
    listed.graph = withoutRoutes world.graph.endpoints ∧
      listed.endpointDevices = world.endpointDevices := by
  obtain ⟨_, ⟨⟩, holds⟩ := listEndpoints_holds found
  have lists := lists.congr same
  have endpoints : listed.graph.endpoints = world.graph.endpoints := by
    apply ExtTreeMap.ext_getElem?
    intro id
    apply Option.ext
    intro endpoint
    exact (holds.endpoint_iff id endpoint).trans (lists.endpoint_iff id endpoint).symm
  constructor
  · rw [listEndpoints_graph found, endpoints]
  · apply ExtTreeMap.ext_getElem?
    intro key
    apply Option.ext
    intro device
    exact (holds.device_iff key device).trans (lists.device_iff key device).symm

/-- A listing that is put in place is the one of its devices. -/
theorem lists_relisted {devices : List AudioDevice} {listed : Listed F}
    (found : listEndpoints (.ok devices) = .ok listed) (world : World F) :
    Lists devices (relisted listed world) := by
  obtain ⟨_, ⟨⟩, holds⟩ := listEndpoints_holds found
  unfold Lists relisted
  rw [addSavedRoutes_endpoints]
  exact ⟨rfl, holds.endpoint_iff, holds.device_iff⟩

/-- A graph on which every saved route was restored is rebuilt. -/
theorem rebuilt_relisted {listing : Except CoreAudioError (List AudioDevice)} {listed : Listed F}
    {world : World F} (found : listEndpoints listing = .ok listed)
    (restored : (addSavedRoutes listed.graph world.routes.values).1 = .ok ()) :
    Rebuilt (relisted listed world) := by
  unfold Rebuilt relisted
  rw [addSavedRoutes_endpoints, ← listEndpoints_graph found]
  exact Prod.ext restored rfl

/-! ## The invariant -/

/-- What holds of a daemon whose devices change by its own requests only. -/
structure Faithful (path : DiskPath) (devices : List AudioDevice) (world : World F) : Prop where
  path_eq : world.statePath = path
  rebuilt : Rebuilt world
  lists : Lists devices world
  file : loadRoutes (world.disk.files path) = .ok world.routes

theorem Faithful.wired {path : DiskPath} {devices : List AudioDevice} {world : World F}
    (faithful : Faithful path devices world) : Wired world where
  endpoint_device := by
    intro id endpoint found
    obtain ⟨rfl, device, described⟩ := (faithful.lists.endpoint_iff id endpoint).mp found
    exact ⟨device, (faithful.lists.device_iff _ device).mpr ⟨endpoint, described, rfl⟩⟩
  route_ends := by
    intro route member
    obtain ⟨_, acceptable, graphEq⟩ := restore_eq_ok_iff.mp faithful.rebuilt
    apply acceptable.matched route
    rw [graphEq, withRoutes,
      ExtTreeMap.mem_valuesInOrder_insertAll_empty acceptable.distinct] at member
    exact member

theorem savedRoutes_loaded (world : World F) :
    loadRoutes ((savedDisk world).files world.statePath) = .ok world.routes := by
  rw [savedDisk_files, loadRoutes_content]

/-- A daemon that is started again on the same devices has the same routes
and the same graph. -/
theorem Faithful.restart {path : DiskPath} {devices again : List AudioDevice} {world : World F}
    (faithful : Faithful path devices world) (same : SameDevices devices again)
    (refreshes : ∃ listed : Listed F, listEndpoints (.ok again) = .ok listed) :
    ∃ reloaded restarted : World F, load path none world.disk = .ok reloaded ∧
      (do refreshEndpoints (.ok again); restoreRoutes : Daemon F Unit) reloaded =
        (.ok (), restarted) ∧
        restarted.routes = world.routes ∧ restarted.graph = world.graph := by
  obtain ⟨listed, found⟩ := refreshes
  obtain ⟨graphEq, devicesEq⟩ := faithful.lists.relist same found
  let reloaded : World F :=
    { graph := .empty
      routes := world.routes
      endpointDevices := ∅
      router := none
      statePath := path
      disk := world.disk }
  have loads : load path none world.disk = .ok reloaded := by
    have file := faithful.file
    unfold load
    cases content : world.disk.files path with
    | none =>
        rw [content] at file
        simp only [file]
        rfl
    | some bytes =>
        rw [content] at file
        simp only [file]
        rfl
  have refreshed : refreshEndpoints (.ok again) reloaded = (.ok (), { reloaded with
      graph := withoutRoutes world.graph.endpoints
      endpointDevices := world.endpointDevices }) := by
    simp only [refreshEndpoints, found, graphEq, devicesEq]
  have restored : addSavedRoutes (withoutRoutes world.graph.endpoints) reloaded.routes.values =
      (.ok (), world.graph) := faithful.rebuilt
  refine ⟨reloaded, { reloaded with
    graph := world.graph
    endpointDevices := world.endpointDevices }, loads, ?_, rfl, rfl⟩
  rw [bind_apply_ok refreshed]
  simp only [restoreRoutes, restored]

/-- The devices after a request: a created device has a UID of its own, a
deleted one is gone, and nothing else changes. -/
def DevicesAfter (environment : Environment) (world : World F)
    (devices after : List AudioDevice) : Request → Prop
  | .createDevice id _ _ _ _ =>
      (Creates environment id → ∃ new : AudioDevice, (∀ device ∈ devices, device.uid ≠ new.uid) ∧
        ∀ device, device ∈ after ↔ device = new ∨ device ∈ devices) ∧
      (¬ Creates environment id → SameDevices devices after)
  | .deleteDevice id =>
      (Deletes environment id world →
        ∀ device, device ∈ after ↔ device ∈ devices ∧ device.uid ≠ virtualDeviceUid id) ∧
      (¬ Deletes environment id world → SameDevices devices after)
  | _ => SameDevices devices after

theorem DevicesAfter.same {environment : Environment} {world : World F}
    {devices after : List AudioDevice} {request : Request}
    (changed : DevicesAfter environment world devices after request)
    (keeps : ¬ Relists environment world request) : SameDevices devices after := by
  cases request with
  | createDevice => exact changed.2 keeps
  | deleteDevice => exact changed.2 keeps
  | ping => exact changed
  | status => exact changed
  | shutdown => exact changed
  | connect => exact changed
  | disconnect => exact changed

/-- A request in which nothing fails, and which changes the devices only
itself. -/
structure Smooth (environment : Environment) (request : Request)
    (devices after : List AudioDevice) (world : World F) : Prop
    extends Quiet environment world request where
  changed : DevicesAfter environment world devices after request
  listing : environment.attempt.listing = .ok after
  refreshes : ∃ listed : Listed F, listEndpoints (.ok after) = .ok listed

/-- The saved routes can be restored on other devices if these have the devices
of the routes, and their other devices have UIDs of their own. -/
theorem Faithful.restores {path : DiskPath} {devices others : List AudioDevice} {world : World F}
    {listed : Listed F} (faithful : Faithful path devices world)
    (found : listEndpoints (.ok others) = .ok listed)
    (kept : ∀ saved ∈ world.routes.values, ∀ (id : EndpointId) (device : AudioDevice),
      saved.Names id → world.endpointDevices[id.value]? = some device → device ∈ devices →
        device ∈ others)
    (apart : ∀ other ∈ others, ∀ device ∈ devices, other ∉ devices → device.uid ≠ other.uid) :
    (addSavedRoutes listed.graph world.routes.values).1 = .ok () := by
  obtain ⟨_, ⟨⟩, holds⟩ := listEndpoints_holds found
  rw [listEndpoints_graph found]
  refine restore_kept faithful.rebuilt ?_ ?_
  · intro saved member id endpoint names present
    obtain ⟨rfl, device, isListed, describes⟩ :=
      (faithful.lists.endpoint_iff id endpoint).mp present
    have isDevice := (faithful.lists.device_iff endpoint.id.value device).mpr
      ⟨endpoint, ⟨isListed, describes⟩, rfl⟩
    exact (holds.endpoint_iff _ endpoint).mpr
      ⟨rfl, device, kept saved member _ device names isDevice isListed, describes⟩
  · rintro saved member id endpoint names present ⟨loop, loopMem, sameNode, isLoopback⟩
    obtain ⟨_, device, isListed, describes⟩ := (faithful.lists.endpoint_iff id endpoint).mp present
    obtain ⟨key, loopFound⟩ := ExtTreeMap.mem_valuesInOrder.mp loopMem
    obtain ⟨keyEq, other, otherListed, otherDescribes⟩ := (holds.endpoint_iff key loop).mp loopFound
    have wasListed : other ∈ devices := by
      by_contra new
      apply apart other otherListed device isListed new
      rw [← describes.node_eq, ← sameNode, otherDescribes.node_eq]
    exact ⟨loop, ExtTreeMap.mem_valuesInOrder.mpr
      ⟨key, (faithful.lists.endpoint_iff key loop).mpr
        ⟨keyEq, other, wasListed, otherDescribes⟩⟩, sameNode, isLoopback⟩

/-- The device of an endpoint of a saved route is not deleted. -/
theorem uid_ne_of_not_referenced {world : World F} {node : String}
    (unreferenced : isReferenced world node = false) {saved : SavedRoute} {id : EndpointId}
    {device : AudioDevice} (member : saved ∈ world.routes.values) (names : saved.Names id)
    (found : world.endpointDevices[id.value]? = some device) : device.uid ≠ node := by
  intro used
  unfold isReferenced at unreferenced
  rw [List.any_eq_false] at unreferenced
  apply unreferenced saved member
  rw [List.any_eq_true]
  refine ⟨id.value, ?_, ?_⟩
  · rcases names with source | sink
    · simp [source]
    · simp [sink]
  · simp [found, used]

/-- Every request that changes the devices keeps those of the saved routes. -/
theorem Faithful.restores_after {path : DiskPath} {devices after : List AudioDevice}
    {world : World F} {environment : Environment} {request : Request} {listed : Listed F}
    (faithful : Faithful path devices world)
    (changed : DevicesAfter environment world devices after request)
    (changes : Relists environment world request)
    (found : listEndpoints (.ok after) = .ok listed) :
    (addSavedRoutes listed.graph world.routes.values).1 = .ok () := by
  cases request with
  | createDevice id name inputs outputs rate =>
      obtain ⟨new, fresh, members⟩ := changed.1 changes
      refine faithful.restores found ?_ ?_
      · intro saved member key device names present isListed
        exact (members device).mpr (Or.inr isListed)
      · intro other otherMem device isListed unlisted
        rcases (members other).mp otherMem with rfl | old
        · exact fresh device isListed
        · exact absurd old unlisted
  | deleteDevice id =>
      have members := changed.1 changes
      refine faithful.restores found ?_ ?_
      · intro saved member key device names present isListed
        exact (members device).mpr
          ⟨isListed, uid_ne_of_not_referenced changes.2.1 member names present⟩
      · intro other otherMem device isListed unlisted
        exact absurd ((members other).mp otherMem).1 unlisted
  | ping => exact changes.elim
  | status => exact changes.elim
  | shutdown => exact changes.elim
  | connect => exact changes.elim
  | disconnect => exact changes.elim

/-- A request in which nothing fails keeps the daemon faithful. -/
theorem Faithful.step {path : DiskPath} {devices later : List AudioDevice}
    {world after : World F} {environment : Environment} {request : Request}
    {result : Except DaemonError String} (faithful : Faithful path devices world)
    (smooth : Smooth environment request devices later world)
    (taken : handle environment request world = (result, after)) :
    Faithful path later after := by
  obtain ⟨listing, listable⟩ := smooth.refreshes
  have outcome := quiet_outcome faithful.wired smooth.toQuiet taken
  have keep : ¬ Relists environment world request → SameDevices devices later :=
    smooth.changed.same
  cases outcome with
  | answered reads =>
      have same : SameDevices devices later := by
        rcases reads with rfl | rfl
        · exact keep id
        · exact keep id
      exact { faithful with lists := faithful.lists.congr same }
  | shutdown => exact ⟨faithful.path_eq, faithful.rebuilt, faithful.lists.congr (keep id),
      faithful.file⟩
  | refused keeps rejects => exact { faithful with lists := faithful.lists.congr (keep keeps) }
  | unlistedDevices changes unlisted =>
      rw [smooth.listing, listable] at unlisted
      cases unlisted
  | relisted changes found =>
      rw [smooth.listing] at found
      have restored := faithful.restores_after smooth.changed changes found
      exact ⟨faithful.path_eq, rebuilt_relisted found restored, lists_relisted found world,
        faithful.file⟩
  | known built added known =>
      rw [ExtTreeMap.contains_eq_isSome_getElem?,
        faithful.rebuilt.fresh_of_added built added] at known
      cases known
  | @connected saved route extended built added fresh =>
      have rebuilt := faithful.rebuilt.insert built added
      have lists : Lists later { world with graph := extended } := by
        unfold Lists
        rw [addRoute_endpoints added]
        exact faithful.lists.congr (keep id)
      have file := savedRoutes_loaded { world with routes := world.routes.insert saved }
      obtain rfl := faithful.path_eq
      exact ⟨rfl, rebuilt, lists, file⟩
  | unlisted known unlisted =>
      rw [smooth.listing, listable] at unlisted
      cases unlisted
  | @unrestored id _ _ listed known found unrestored =>
      rw [smooth.listing] at found
      obtain ⟨graphEq, _⟩ := faithful.lists.relist (keep fun changes => changes) found
      have restored := restore_subset faithful.rebuilt (world.routes.remove id).nodup_ids
        fun one member => ExtTreeMap.mem_of_mem_valuesInOrder_erase member
      rw [graphEq, restored] at unrestored
      cases unrestored
  | @disconnected id listed known found restored =>
      rw [smooth.listing] at found
      have rebuilt : Rebuilt (relisted listed (withoutSaved id world)) :=
        rebuilt_relisted found restored
      have file := savedRoutes_loaded { world with routes := world.routes.remove id }
      obtain rfl := faithful.path_eq
      exact ⟨rfl, rebuilt, lists_relisted found (withoutSaved id world), file⟩

/-! ## Runs -/

/-- One request of a smooth run, which takes the devices and the daemon to the
next ones. -/
def SmoothStep (before after : List AudioDevice × World F) : Prop :=
  ∃ environment request result, Smooth environment request before.1 after.1 before.2 ∧
    handle environment request before.2 = (result, after.2)

theorem Faithful.run {path : DiskPath} {before after : List AudioDevice × World F}
    (faithful : Faithful path before.1 before.2) (run : ReflTransGen SmoothStep before after) :
    Faithful path after.1 after.2 := by
  induction run with
  | refl => exact faithful
  | tail earlier taken ih =>
      obtain ⟨environment, request, result, smooth, handled⟩ := taken
      exact ih.step smooth handled

end VCable
