import VCable.DaemonDevices
import VCable.DaemonRequests

/-!
# When a failed connection is undone

A `Connect` that fails before its save changes nothing.  A save that fails
leaves the new route in the graph.  A router that fails to start is rolled back
exactly if the rollback restores the routes on the devices that it finds.
-/

namespace VCable

open Std RoutingGraph

variable {F : Type} [SinglePrecision F]

/-- A failed request left the routes of the graph, the saved routes and the
state file as they were. -/
structure Undone (world after : World F) : Prop where
  graph_routes : after.graph.routes = world.graph.routes
  saved_routes : after.routes = world.routes
  state_file : after.disk.files world.statePath = world.disk.files world.statePath

/-- On the devices that the rollback lists, the saved routes are built as they
were, and can be in one graph. -/
def RestoredBy (listing : Except CoreAudioError (List AudioDevice)) (world : World F) : Prop :=
  ∃ listed : Listed F, listEndpoints listing = .ok listed ∧
    (∀ saved ∈ world.routes.values,
      buildRoute (F := F) listed.graph.endpoints saved = buildRoute world.graph.endpoints saved) ∧
    Acceptable listed.graph.endpoints
      (builtRoutes (F := F) world.graph.endpoints world.routes.values)

/-- The request is refused before it changes anything; or its save goes
through, the state file was the one that the saved routes are written to, and
the rollback's devices restore them. -/
def ConnectCanBeUndone (environment : Environment) (saved : SavedRoute) (world : World F) : Prop :=
  ∀ (route : Route F) (extended : RoutingGraph F),
    buildRoute world.graph.endpoints saved = .ok route →
      world.graph.addRoute route = .ok extended →
        Saves world.statePath environment.attempt.save ∧
          world.disk.files world.statePath = some world.routes.content ∧
            RestoredBy environment.rollback.listing world

/-- A graph with the routes of a rebuilt one has every saved route, so a
restoration that failed did not make it. -/
theorem restored_of_routes_eq {world : World F} (rebuilt : Rebuilt world)
    {listing : Except CoreAudioError (List AudioDevice)} {listed : Listed F}
    (found : listEndpoints listing = .ok listed)
    (same : (addSavedRoutes listed.graph world.routes.values).2.routes = world.graph.routes) :
    (addSavedRoutes listed.graph world.routes.values).1 = .ok () := by
  cases restore : addSavedRoutes listed.graph world.routes.values with
  | mk result restored =>
      cases result with
      | ok done => rfl
      | error failure =>
          rw [restore] at same
          obtain ⟨saved, member, lacks⟩ := addSavedRoutes_lacks restore world.routes.nodup_ids (by
            intro saved member id idEq
            rw [listEndpoints_graph found, withoutRoutes]
            exact ExtTreeMap.getElem?_empty)
          obtain ⟨route, built, isThere⟩ := rebuilt.found member
          have absent := lacks route.id (buildRoute_eq_ok_iff.mp built).1
          simp only at same
          rw [same, isThere] at absent
          cases absent

/-- The graph after a rollback has the old routes only if they were restored. -/
theorem relistedGraph_routes_iff {listing : Except CoreAudioError (List AudioDevice)}
    {world before : World F} (rebuilt : Rebuilt before) (sameRoutes : world.routes = before.routes)
    (extended : world.graph.routes ≠ before.graph.routes) :
    (relistedGraph listing world).routes = before.graph.routes ↔ RestoredBy listing before := by
  unfold relistedGraph RestoredBy
  rw [sameRoutes]
  cases found : listEndpoints (F := F) listing with
  | error failure => simp [extended]
  | ok listed =>
      have graphEq := listEndpoints_graph found
      constructor
      · intro same
        have restore : addSavedRoutes (withoutRoutes listed.graph.endpoints) before.routes.values =
            (.ok (), (addSavedRoutes listed.graph before.routes.values).2) := by
          rw [← graphEq]
          exact Prod.ext (restored_of_routes_eq rebuilt found same) rfl
        have alike := (rebuilt.routes_kept_iff restore).mp same
        obtain ⟨_, acceptable, _⟩ := restore_eq_ok_iff.mp restore
        rw [builtRoutes_congr alike] at acceptable
        exact ⟨listed, rfl, alike, acceptable⟩
      · rintro ⟨_, ⟨⟩, alike, acceptable⟩
        rw [← builtRoutes_congr alike] at acceptable
        have builds : ∀ saved ∈ before.routes.values,
            ∃ route : Route F, buildRoute listed.graph.endpoints saved = .ok route := by
          intro saved member
          obtain ⟨route, built, _⟩ := rebuilt.found member
          exact ⟨route, (alike saved member).trans built⟩
        have restore := restore_eq_ok_iff.mpr ⟨builds, acceptable, rfl⟩
        rw [← graphEq] at restore
        simp only [restore]
        exact (rebuilt.routes_kept_iff (graphEq ▸ restore)).mpr alike

/-- After a `Connect` that failed, in a daemon whose graph has exactly the
saved routes and whose rollback can save, everything is as before if and only
if the request stopped before it changed anything, or only the router failed to
start and the rollback could restore the graph and the state file. -/
theorem connect_undone_iff (environment : Environment) (saved : SavedRoute)
    (world after : World F) (failure : DaemonError) (rebuilt : Rebuilt world)
    (rollbackSaves : environment.rollback.save = none)
    (failed : handle environment saved.request world = (.error failure, after)) :
    Undone world after ↔ ConnectCanBeUndone environment saved world := by
  have grown : ∀ {route : Route F} {extended : RoutingGraph F},
      world.graph.addRoute route = .ok extended → extended.routes ≠ world.graph.routes := by
    intro route extended added same
    obtain ⟨_, _, fits, _, rfl⟩ := addRoute_eq_ok_iff.mp added
    have found := fits.fresh
    rw [← same, ExtTreeMap.getElem?_insert_self] at found
    cases found
  cases connect_outcome failed with
  | unbuilt unbuilt =>
      refine iff_of_true ⟨rfl, rfl, rfl⟩ fun route extended built => ?_
      rw [unbuilt] at built
      cases built
  | refused built refused =>
      refine iff_of_true ⟨rfl, rfl, rfl⟩ fun other extended otherBuilt added => ?_
      obtain rfl := Except.ok.inj (built.symm.trans otherBuilt)
      rw [refused] at added
      cases added
  | known built added known =>
      rw [ExtTreeMap.contains_eq_isSome_getElem?, rebuilt.fresh_of_added built added] at known
      cases known
  | unsaved built added fresh stuck =>
      refine iff_of_false (fun undone => ?_) fun undoes => stuck (undoes _ _ built added).1
      obtain ⟨_, _, fits, _, rfl⟩ := addRoute_eq_ok_iff.mp added
      have found := fits.fresh
      rw [← undone.graph_routes,
        addSavedRoutes_keeps ExtTreeMap.getElem?_insert_self] at found
      cases found
  | stopped built added fresh saves launch recovered =>
      obtain ⟨_, routesEq, diskEq, graphEq⟩ := recover_cases recovered ⟨saves.1, rollbackSaves⟩
      have written : after.disk.files world.statePath = some world.routes.content := by
        rw [diskEq]
        exact savedDisk_files _
      have restored : after.graph.routes = world.graph.routes ↔
          RestoredBy environment.rollback.listing world := by
        rw [graphEq]
        exact relistedGraph_routes_iff rebuilt rfl (grown added)
      constructor
      · intro undone other otherExtended _ _
        exact ⟨saves, undone.state_file.symm.trans written, restored.mp undone.graph_routes⟩
      · intro undoes
        obtain ⟨_, canonical, listing⟩ := undoes _ _ built added
        exact ⟨restored.mpr listing, routesEq, written.trans canonical.symm⟩

/-- A disk that cannot take the new state file. -/
def fullDisk : Environment :=
  { smoothCalls [microphone, speaker] with
    attempt := { smoothPhase [microphone, speaker] with
      save := some (.createDirectory ⟨"No space left on device"⟩) } }

/-- The first connection of a fresh daemon, on a full disk. -/
theorem connect_undone_iff_fullDisk :
    Undone (restoredWorld [microphone, speaker] .empty none)
      (handle fullDisk voiceRoute.request (restoredWorld [microphone, speaker] .empty none)).2 ↔
    ConnectCanBeUndone fullDisk voiceRoute (restoredWorld [microphone, speaker] .empty none) :=
  connect_undone_iff fullDisk voiceRoute (restoredWorld [microphone, speaker] .empty none) _
    (.io ⟨"No space left on device"⟩) rfl rfl (Prod.ext (by decide +kernel) rfl)

/-- A save that fails and keeps the state file, before a rollback in which
nothing fails, leaves the new route in the graph of a daemon without routes. -/
theorem connect_fullDisk_not_undone :
    Rebuilt (restoredWorld [microphone, speaker] .empty none) ∧
    (handle fullDisk voiceRoute.request (restoredWorld [microphone, speaker] .empty none)).1 =
      .error (.io ⟨"No space left on device"⟩) ∧
    (handle fullDisk voiceRoute.request
      (restoredWorld [microphone, speaker] .empty none)).2.disk.files [.rootDir, .normal "state"] =
        none ∧
    ¬ Undone (restoredWorld [microphone, speaker] .empty none)
      (handle fullDisk voiceRoute.request (restoredWorld [microphone, speaker] .empty none)).2 := by
  refine ⟨rfl, by decide +kernel, rfl, fun undone => ?_⟩
  have left : (handle fullDisk voiceRoute.request
      (restoredWorld [microphone, speaker] .empty none)).2.graph.routes.isEmpty = false := by
    decide +kernel
  rw [undone.graph_routes] at left
  exact absurd left (by decide +kernel)

end VCable
