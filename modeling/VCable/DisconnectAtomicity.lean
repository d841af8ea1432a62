import VCable.DaemonDevices
import VCable.DaemonRequests
import VCable.StateFileRoundTrip

/-!
# When a failed disconnection is undone

`Disconnect` takes the route out of the map and of the state file before it
lists the devices and restores the other routes.  Only a router that does not
start is rolled back, so a failure in between loses the route.
-/

namespace VCable

open Std RoutingGraph

variable {F : Type} [SinglePrecision F]

/-- The route that a file has under an identifier; a file that does not load
has none. -/
def Disk.savedRoute (disk : Disk) (path : DiskPath) (id : String) : Option SavedRoute :=
  (loadRoutes (disk.files path)).toOption.bind fun routes => routes.map[id]?

/-- The route that the saved routes, the state file and the graph had under an
identifier is still the one that they have. -/
structure StillPresent (id : String) (world after : World F) : Prop where
  saved_route : ∀ saved, world.routes.map[id]? = some saved → after.routes.map[id]? = some saved
  file_route : ∀ saved, world.disk.savedRoute world.statePath id = some saved →
    after.disk.savedRoute world.statePath id = some saved
  graph_route : ∀ key : RouteId, key.value = id → ∀ route,
    world.graph.routes[key]? = some route → after.graph.routes[key]? = some route

theorem StillPresent.refl (id : String) (world : World F) : StillPresent id world world where
  saved_route := fun _ found => found
  file_route := fun _ found => found
  graph_route := fun _ _ _ found => found

/-! ## Saves that fail -/

/-- Whether a failing save has opened the temporary file. -/
def SaveFault.hasOpened : SaveFault → Bool
  | .createDirectory _ | .openTemporary _ => false
  | .writeLines _ _ | .sync _ | .rename _ => true

/-- A failing save writes to the state file: it is its own temporary file. -/
def Overwrites (path : DiskPath) (fault : Option SaveFault) : Prop :=
  path.parent ≠ none ∧ path.withExtension "tmp" = path ∧
    ∃ reached, fault = some reached ∧ reached.hasOpened = true

theorem writeState_files_of_not_overwrites {path : DiskPath} {fault : Option SaveFault}
    (stuck : ¬ Saves path fault) (apart : ¬ Overwrites path fault) (content : List UInt8)
    (disk : Disk) : (writeState path content fault disk).2.files path = disk.files path := by
  have other : ∀ reached, path.parent ≠ none → fault = some reached →
      reached.hasOpened = true → ∀ written,
        (disk.write (path.withExtension "tmp") written).files path = disk.files path := by
    intro reached hasParent isReached opened written
    exact Function.update_of_ne
      (fun same => apart ⟨hasParent, same.symm, reached, isReached, opened⟩) _ _
  unfold writeState
  cases hasParent : path.parent with
  | none => rfl
  | some directory =>
      have hasParent : path.parent ≠ none := by simp [hasParent]
      cases fault with
      | none => exact absurd ⟨hasParent, rfl⟩ stuck
      | some reached =>
          cases reached with
          | createDirectory error => rfl
          | openTemporary error => rfl
          | writeLines count error => exact other _ hasParent rfl rfl _
          | sync error => exact other _ hasParent rfl rfl _
          | rename error => exact other _ hasParent rfl rfl _

/-- What is left of a state file that a failing save has overwritten. -/
theorem writeState_files_of_overwrites {path : DiskPath} {fault : Option SaveFault}
    (overwrites : Overwrites path fault) (content : List UInt8) (disk : Disk) :
    ∃ written, written <+: content ∧
      (writeState path content fault disk).2.files path = some written := by
  obtain ⟨hasParent, samePath, reached, rfl, opened⟩ := overwrites
  obtain ⟨directory, found⟩ := Option.ne_none_iff_exists'.mp hasParent
  have written : ∀ written, (disk.write (path.withExtension "tmp") written).files path =
      some written := by
    intro written
    rw [samePath]
    exact Function.update_self _ _ _
  simp only [writeState, found]
  cases reached with
  | createDirectory error => cases opened
  | openTemporary error => cases opened
  | writeLines count error => exact ⟨_, List.take_prefix count content, written _⟩
  | sync error => exact ⟨_, List.prefix_refl content, written _⟩
  | rename error => exact ⟨_, List.prefix_refl content, written _⟩

/-- An overwritten state file no longer has the route that was taken out. -/
theorem savedRoute_of_overwrites {path : DiskPath} {fault : Option SaveFault} {id : String}
    (overwrites : Overwrites path fault) (routes : SavedRoutes) (disk : Disk) :
    (writeState path (routes.remove id).content fault disk).2.savedRoute path id = none := by
  obtain ⟨written, starts, files⟩ := writeState_files_of_overwrites overwrites _ disk
  rw [Disk.savedRoute, files]
  cases result : loadRoutes (some written) with
  | error failure => rfl
  | ok loaded =>
      exact loadRoutes_content_prefix starts ExtTreeMap.getElem?_erase_self result

theorem savedRoute_of_files {disk : Disk} {path : DiskPath} {routes : SavedRoutes} {id : String}
    (files : disk.files path = some routes.content) :
    disk.savedRoute path id = routes.map[id]? := by
  rw [Disk.savedRoute, files, loadRoutes_content]
  rfl

/-! ## The condition -/

/-- The request saves the other routes and restores them on the listed
devices, so that the router is all that is left to fail. -/
def RestoresOthers (environment : Environment) (id : String) (world : World F) : Prop :=
  Saves world.statePath environment.attempt.save ∧
    ∃ listed : Listed F, listEndpoints environment.attempt.listing = .ok listed ∧
      (addSavedRoutes listed.graph (world.routes.remove id).values).1 = .ok ()

/-- The rollback can save, list the devices and restore the saved routes. -/
def Recovers (phase : Phase) (world : World F) : Prop :=
  phase.save = none ∧ ∃ listed : Listed F, listEndpoints phase.listing = .ok listed ∧
    (addSavedRoutes listed.graph world.routes.values).1 = .ok ()

/-- There is no such route; or the save fails without harm to the route in the
state file; or only the router fails, the state file had no other route under
the identifier, and the route is built on the devices of the rollback as it was
before. -/
def DisconnectCanBeUndone (environment : Environment) (id : String) (world : World F) : Prop :=
  ∀ previous, world.routes.map[id]? = some previous →
    (¬ Saves world.statePath environment.attempt.save ∧
      (Overwrites world.statePath environment.attempt.save →
        world.disk.savedRoute world.statePath id = none)) ∨
    (RestoresOthers environment id world ∧
      (∀ other, world.disk.savedRoute world.statePath id = some other → other = previous) ∧
        ∀ listed : Listed F, listEndpoints environment.rollback.listing = .ok listed →
          buildRoute (F := F) listed.graph.endpoints previous =
            buildRoute world.graph.endpoints previous)

/-! ## Requests that fail -/

/-- After a save that failed, the route is still everywhere that it was unless
the save has overwritten a state file that had it. -/
theorem stillPresent_unsaved_iff {fault : Option SaveFault} (id : String) {world : World F}
    (stuck : ¬ Saves world.statePath fault) :
    StillPresent id world { world with
        disk := (writeState world.statePath (world.routes.remove id).content fault
          world.disk).2 } ↔
      (Overwrites world.statePath fault → world.disk.savedRoute world.statePath id = none) := by
  by_cases overwrites : Overwrites world.statePath fault
  · have lost := @savedRoute_of_overwrites _ _ id overwrites world.routes world.disk
    constructor
    · intro still _
      cases had : world.disk.savedRoute world.statePath id with
      | none => rfl
      | some saved => exact absurd (lost.symm.trans (still.file_route saved had)) nofun
    · intro harmless
      refine ⟨fun _ found => found, fun saved had => ?_, fun _ _ _ found => found⟩
      rw [harmless overwrites] at had
      cases had
  · refine iff_of_true ⟨fun _ found => found, fun saved had => ?_, fun _ _ _ found => found⟩
      fun writes => absurd writes overwrites
    rw [Disk.savedRoute, writeState_files_of_not_overwrites stuck overwrites]
    exact had

/-- After a rollback that went through, the route is still everywhere that it
was if and only if the state file had no other one, and it is built as it was. -/
theorem stillPresent_recovered_iff {world after : World F} (rebuilt : Rebuilt world)
    {previous : SavedRoute} (known : world.routes.map[previous.id]? = some previous)
    {endpoints : ExtTreeMap EndpointId EndpointDescriptor} (routesEq : after.routes = world.routes)
    (files : after.disk.files world.statePath = some world.routes.content)
    (restore : addSavedRoutes (withoutRoutes endpoints) world.routes.values =
      (.ok (), after.graph)) :
    StillPresent previous.id world after ↔
      (∀ other, world.disk.savedRoute world.statePath previous.id = some other →
        other = previous) ∧
      buildRoute (F := F) endpoints previous = buildRoute world.graph.endpoints previous := by
  have graphIff := rebuilt.route_kept_iff (SavedRoutes.mem_values_iff.mpr known) restore
  constructor
  · intro still
    refine ⟨fun other had => ?_, graphIff.mp still.graph_route⟩
    have kept := still.file_route other had
    rw [savedRoute_of_files files, known] at kept
    exact (Option.some.inj kept).symm
  · rintro ⟨sameFile, sameBuilt⟩
    refine ⟨fun saved had => routesEq ▸ had, fun saved had => ?_, graphIff.mpr sameBuilt⟩
    rw [savedRoute_of_files files, known, sameFile saved had]

/-- A route that is out of the map is not still present. -/
theorem not_stillPresent_of_removed {id : String} {world after : World F} {previous : SavedRoute}
    (known : world.routes.map[id]? = some previous)
    (removed : after.routes = world.routes.remove id) :
    ¬ StillPresent id world after := by
  intro still
  have kept := still.saved_route previous known
  rw [removed] at kept
  simp [SavedRoutes.remove] at kept

/-- After a `Disconnect` that failed, in a daemon whose graph has exactly the
saved routes, and whose rollback, if it is reached, goes through, the route is
still everywhere that it was if and only if the request could be undone. -/
theorem disconnect_stillPresent_iff (environment : Environment) (id : String)
    (world after : World F) (failure : DaemonError) (rebuilt : Rebuilt world)
    (rollback : ∀ previous, world.routes.map[id]? = some previous →
      RestoresOthers environment id world → Recovers environment.rollback world)
    (failed : handle environment (.disconnect id) world = (.error failure, after)) :
    StillPresent id world after ↔ DisconnectCanBeUndone environment id world := by
  cases disconnect_outcome failed with
  | unknown unknown =>
      refine iff_of_true (StillPresent.refl id world) fun previous known => ?_
      rw [unknown] at known
      cases known
  | unsaved known stuck =>
      rw [stillPresent_unsaved_iff id stuck]
      constructor
      · exact fun harmless _ _ => Or.inl ⟨stuck, harmless⟩
      · intro undoes
        rcases undoes _ known with ⟨_, harmless⟩ | ⟨restores, _⟩
        · exact harmless
        · exact absurd restores.1 stuck
  | unlisted known saves unlisted =>
      refine iff_of_false (not_stillPresent_of_removed known rfl) fun undoes => ?_
      rcases undoes _ known with ⟨stuck, _⟩ | ⟨⟨_, listed, found, _⟩, _⟩
      · exact stuck saves
      · rw [unlisted] at found
        cases found
  | unrestored known saves found unrestored =>
      refine iff_of_false (not_stillPresent_of_removed known rfl) fun undoes => ?_
      rcases undoes _ known with ⟨stuck, _⟩ | ⟨⟨_, listed, otherFound, restored⟩, _⟩
      · exact stuck saves
      · obtain rfl := Except.ok.inj (found.symm.trans otherFound)
        rw [unrestored] at restored
        cases restored
  | stopped known saves found restored launch recovered =>
      rename_i previous listed _
      obtain rfl : previous.id = id := world.routes.keyed _ _ known
      have restores : RestoresOthers environment previous.id world :=
        ⟨saves, listed, found, restored⟩
      obtain ⟨rollbackSaves, relisted, relistedFound, again⟩ := rollback previous known restores
      obtain ⟨_, routesEq, diskEq, graphEq⟩ := recover_cases recovered ⟨saves.1, rollbackSaves⟩
      have files : after.disk.files world.statePath = some world.routes.content := by
        rw [diskEq]
        exact savedDisk_files _
      have restore : addSavedRoutes (withoutRoutes relisted.graph.endpoints)
          world.routes.values = (.ok (), after.graph) := by
        rw [← listEndpoints_graph relistedFound, graphEq, relistedGraph, relistedFound]
        exact Prod.ext again rfl
      rw [stillPresent_recovered_iff rebuilt known routesEq files restore]
      constructor
      · rintro ⟨sameFile, sameBuilt⟩ other otherKnown
        obtain rfl := Option.some.inj (known.symm.trans otherKnown)
        refine Or.inr ⟨restores, sameFile, fun others othersFound => ?_⟩
        obtain rfl := Except.ok.inj (relistedFound.symm.trans othersFound)
        exact sameBuilt
      · intro undoes
        rcases undoes _ known with ⟨stuck, _⟩ | ⟨_, sameFile, sameBuilt⟩
        · exact absurd saves stuck
        · exact ⟨sameFile, sameBuilt _ relistedFound⟩

/-- The device list cannot be read after the save. -/
def unlistedDevices : Environment :=
  { smoothCalls [microphone, speaker] with
    attempt := { smoothPhase [microphone, speaker] with listing := .error (.osStatus (-1)) } }

/-- A daemon with one route, which is in its state file. -/
def connectedWorld : World ℚ :=
  restoredWorld [microphone, speaker] (SavedRoutes.empty.insert voiceRoute)
    (some (SavedRoutes.empty.insert voiceRoute).content)

theorem connectedWorld_rebuilt : Rebuilt connectedWorld := by
  rfl

/-- The only route of a daemon is disconnected while the devices cannot be
listed. -/
theorem disconnect_stillPresent_iff_unlistedDevices :
    StillPresent "voice" connectedWorld
      (handle unlistedDevices (.disconnect "voice") connectedWorld).2 ↔
    DisconnectCanBeUndone unlistedDevices "voice" connectedWorld := by
  refine disconnect_stillPresent_iff unlistedDevices "voice" connectedWorld _
    (.coreAudio (.osStatus (-1))) connectedWorld_rebuilt ?_ (Prod.ext (by decide +kernel) rfl)
  rintro previous _ ⟨_, listed, found, _⟩
  cases found

/-- A device list that cannot be read, after a save that went through, loses
the route; there is no rollback that could fail. -/
theorem disconnect_unlistedDevices_not_stillPresent :
    Rebuilt connectedWorld ∧
    (handle unlistedDevices (.disconnect "voice") connectedWorld).1 =
      .error (.coreAudio (.osStatus (-1))) ∧
    Recovers unlistedDevices.rollback connectedWorld ∧
    ¬ StillPresent "voice" connectedWorld
      (handle unlistedDevices (.disconnect "voice") connectedWorld).2 := by
  refine ⟨connectedWorld_rebuilt, by decide +kernel, ?_, fun still => ?_⟩
  · refine ⟨rfl, (listEndpoints (.ok [microphone, speaker])).toOption.getD Listed.empty, ?_, ?_⟩
    · rfl
    · decide +kernel
  · have kept := still.saved_route voiceRoute (by rfl)
    have lost : (handle unlistedDevices (.disconnect "voice")
        connectedWorld).2.routes.map["voice"]? = none := by
      rfl
    rw [lost] at kept
    cases kept

end VCable
