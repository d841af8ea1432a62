import VCable.DaemonRoutes

/-!
# What the requests do

One lemma for each way in which `Connect` and `Disconnect` can go, in terms of
the methods they call.
-/

namespace VCable

open Std FallibleState RoutingGraph

variable {F : Type} [SinglePrecision F]

/-! ## Saving -/

/-- A save of the daemon's routes goes through. -/
def Saves (path : DiskPath) (fault : Option SaveFault) : Prop :=
  path.parent ≠ none ∧ fault = none

instance (path : DiskPath) (fault : Option SaveFault) : Decidable (Saves path fault) :=
  inferInstanceAs (Decidable (_ ∧ _))

/-- The disk after a save that goes through. -/
def savedDisk (world : World F) : Disk :=
  let temporary := world.statePath.withExtension "tmp"
  (world.disk.write temporary world.routes.content).rename temporary world.statePath

theorem savedDisk_files (world : World F) :
    (savedDisk world).files world.statePath = some world.routes.content := by
  simp [savedDisk, Disk.rename, Disk.write]

theorem saveRoutes_of_saves {fault : Option SaveFault} {world : World F}
    (saves : Saves world.statePath fault) :
    saveRoutes fault world = (.ok (), { world with disk := savedDisk world }) := by
  obtain ⟨parent, rfl⟩ := saves
  obtain ⟨directory, found⟩ := Option.ne_none_iff_exists'.mp parent
  simp only [saveRoutes, writeState, found, savedDisk]
  rfl

theorem writeState_of_not_saves {path : DiskPath} {fault : Option SaveFault}
    (stuck : ¬ Saves path fault) (content : List UInt8) (disk : Disk) :
    ∃ failure, (writeState path content fault disk).1 = .error failure := by
  unfold writeState
  cases found : path.parent with
  | none => exact ⟨_, rfl⟩
  | some directory =>
      cases fault with
      | none => exact absurd ⟨by simp [found], rfl⟩ stuck
      | some fault => cases fault <;> exact ⟨_, rfl⟩

/-- A save that fails leaves the daemon as it is, and the disk as far as the
writing got. -/
theorem saveRoutes_of_not_saves {fault : Option SaveFault} {world : World F}
    (stuck : ¬ Saves world.statePath fault) :
    ∃ failure, saveRoutes fault world =
      (.error failure, { world with
        disk := (writeState world.statePath world.routes.content fault world.disk).2 }) := by
  obtain ⟨failure, failed⟩ := writeState_of_not_saves stuck world.routes.content world.disk
  exact ⟨failure.toDaemonError, by simp only [saveRoutes, failed, Except.mapError]⟩

/-- A router that does not start is left stopped. -/
theorem launchRouter_of_error {start : Option CoreAudioError} {graph : RoutingGraph F}
    {endpointDevices : ExtTreeMap String AudioDevice} {failure : DaemonError}
    (failed : (launchRouter start graph endpointDevices).1 = .error failure) :
    (launchRouter start graph endpointDevices).2 = none := by
  unfold launchRouter at failed ⊢
  split
  · rfl
  · rfl
  · split
    · rfl
    · simp_all

/-! ## Parts of a request -/

/-- The calls that both rollbacks end with. -/
def recover (phase : Phase) (failure : DaemonError) : Daemon F Unit := do
  saveRoutes phase.save
  refreshEndpoints phase.listing
  restoreRoutes
  restartRouter phase.start
  fail failure

theorem raises_recover (phase : Phase) (failure : DaemonError) :
    Raises (recover phase failure : Daemon F Unit) :=
  Raises.after fun _ => Raises.after fun _ => Raises.after fun _ => Raises.after fun _ =>
    raises_fail failure

theorem removeRoute_apply (id : String) (world : World F) :
    removeRoute id world =
      (.ok world.routes.map[id]?, { world with routes := world.routes.remove id }) :=
  rfl

theorem insertRoute_apply (saved : SavedRoute) (world : World F) :
    insertRoute saved world =
      (.ok (world.routes.map.contains saved.id),
        { world with routes := world.routes.insert saved }) :=
  rfl

theorem refreshEndpoints_cases {α : Type} {listing : Except CoreAudioError (List AudioDevice)}
    {next : Daemon F α} {world after : World F} {result : Except DaemonError α}
    (taken : (do refreshEndpoints listing; next : Daemon F α) world = (result, after)) :
    (∃ failure, listEndpoints (F := F) listing = .error failure ∧ result = .error failure ∧
        after = world) ∨
      ∃ listed, listEndpoints listing = .ok listed ∧
        next { world with
          graph := listed.graph
          endpointDevices := listed.endpointDevices } = (result, after) := by
  cases found : listEndpoints (F := F) listing with
  | error failure =>
      rcases bind_cases taken with ⟨error, refresh, rfl⟩ | ⟨_, _, refresh, _⟩
      · simp only [refreshEndpoints, found] at refresh
        cases refresh
        exact Or.inl ⟨failure, rfl, rfl, rfl⟩
      · simp only [refreshEndpoints, found] at refresh
        cases refresh
  | ok listed =>
      have refreshed : refreshEndpoints listing world = (.ok (), { world with
          graph := listed.graph
          endpointDevices := listed.endpointDevices }) := by
        simp only [refreshEndpoints, found]
      rw [bind_apply_ok refreshed] at taken
      exact Or.inr ⟨listed, rfl, taken⟩

/-- The daemon after the listed devices are put in place and the saved routes
are added to the graph, as far as they can be. -/
def relisted (listed : Listed F) (world : World F) : World F :=
  { world with
    graph := (addSavedRoutes listed.graph world.routes.values).2
    endpointDevices := listed.endpointDevices }

/-- Listing the devices again changes nothing when it fails; a route that
cannot be restored keeps the routes before it. -/
theorem relist_cases {α : Type} {listing : Except CoreAudioError (List AudioDevice)}
    {next : Daemon F α} {world after : World F} {result : Except DaemonError α}
    (taken : (do refreshEndpoints listing; restoreRoutes; next : Daemon F α) world =
      (result, after)) :
    (∃ failure, listEndpoints (F := F) listing = .error failure ∧ result = .error failure ∧
        after = world) ∨
      ∃ listed, listEndpoints listing = .ok listed ∧
        ((∃ failure, (addSavedRoutes listed.graph world.routes.values).1 = .error failure ∧
            result = .error failure ∧ after = relisted listed world) ∨
          (addSavedRoutes listed.graph world.routes.values).1 = .ok () ∧
            next (relisted listed world) = (result, after)) := by
  rcases refreshEndpoints_cases taken with unlisted | ⟨listed, found, rest⟩
  · exact Or.inl unlisted
  refine Or.inr ⟨listed, found, ?_⟩
  rcases bind_cases rest with ⟨failure, restore, rfl⟩ | ⟨_, restored, restore, rest⟩
  · obtain ⟨failed, rfl⟩ := Prod.mk.inj restore
    exact Or.inl ⟨failure, failed, rfl, rfl⟩
  · obtain ⟨restored, rfl⟩ := Prod.mk.inj restore
    exact Or.inr ⟨restored, rest⟩

/-- A save with a handler that raises again goes through or is handled. -/
theorem save_cases {α : Type} {fault : Option SaveFault} {handler : DaemonError → Daemon F Unit}
    {next : Daemon F α} {world after : World F} {result : Except DaemonError α}
    (raises : ∀ failure, Raises (handler failure))
    (taken : (do onError (saveRoutes fault) handler; next : Daemon F α) world =
      (result, after)) :
    (¬ Saves world.statePath fault ∧ ∃ failure last, result = .error last ∧
        handler failure { world with
          disk := (writeState world.statePath world.routes.content fault world.disk).2 } =
            (.error last, after)) ∨
      Saves world.statePath fault ∧
        next { world with disk := savedDisk world } = (result, after) := by
  by_cases saves : Saves world.statePath fault
  · have saved := saveRoutes_of_saves saves
    rcases onError_then_cases raises taken with ⟨_, _, _, fails, _⟩ | ⟨_, middle, done, rest⟩
    · rw [saved] at fails
      cases fails
    · rw [saved] at done
      cases done
      exact Or.inr ⟨saves, rest⟩
  · obtain ⟨failure, failed⟩ := saveRoutes_of_not_saves saves
    rcases onError_then_cases raises taken with ⟨_, _, last, fails, error, handled⟩ | ⟨_, _, done, _⟩
    · rw [failed] at fails
      cases fails
      exact Or.inl ⟨saves, failure, last, error, handled⟩
    · rw [failed] at done
      cases done

/-- A restart of the router with a handler that raises again goes through or
leaves the router stopped and is handled. -/
theorem restart_cases {α : Type} {start : Option CoreAudioError}
    {handler : DaemonError → Daemon F Unit} {next : Daemon F α} {world after : World F}
    {result : Except DaemonError α} (raises : ∀ failure, Raises (handler failure))
    (taken : (do onError (restartRouter start) handler; next : Daemon F α) world =
      (result, after)) :
    (∃ failure last, (launchRouter start world.graph world.endpointDevices).1 = .error failure ∧
        result = .error last ∧
        handler failure { world with router := none } = (.error last, after)) ∨
      (launchRouter start world.graph world.endpointDevices).1 = .ok () ∧
        next { world with
          router := (launchRouter start world.graph world.endpointDevices).2 } =
            (result, after) := by
  rcases onError_then_cases raises taken with ⟨failure, _, last, fails, error, handled⟩ |
    ⟨_, _, done, rest⟩
  · obtain ⟨launch, rfl⟩ := Prod.mk.inj fails
    rw [launchRouter_of_error launch] at handled
    exact Or.inl ⟨failure, last, launch, error, handled⟩
  · obtain ⟨launch, rfl⟩ := Prod.mk.inj done
    exact Or.inr ⟨launch, rest⟩

theorem addRoute_cases {α : Type} {route : Route F} {next : Daemon F α} {world after : World F}
    {result : Except DaemonError α}
    (taken : (do addRoute route; next : Daemon F α) world = (result, after)) :
    (∃ failure, world.graph.addRoute route = .error failure ∧ result = .error (.graph failure) ∧
        after = world) ∨
      ∃ extended, world.graph.addRoute route = .ok extended ∧
        next { world with graph := extended } = (result, after) := by
  cases added : world.graph.addRoute route with
  | error failure =>
      rcases bind_cases taken with ⟨error, add, rfl⟩ | ⟨_, _, add, _⟩
      · simp only [addRoute, added] at add
        cases add
        exact Or.inl ⟨failure, rfl, rfl, rfl⟩
      · simp only [addRoute, added] at add
        cases add
  | ok extended =>
      have done : addRoute route world = (.ok (), { world with graph := extended }) := by
        simp only [addRoute, added]
      rw [bind_apply_ok done] at taken
      exact Or.inr ⟨extended, rfl, taken⟩

/-- The graph after refreshing and restoring: a listing that fails changes
nothing, and a route that fails keeps the routes before it. -/
def relistedGraph (listing : Except CoreAudioError (List AudioDevice)) (world : World F) :
    RoutingGraph F :=
  match listEndpoints (F := F) listing with
  | .error _ => world.graph
  | .ok listed => (addSavedRoutes listed.graph world.routes.values).2

/-- A recovery whose save goes through writes the routes, rebuilds the graph
on the devices of its own listing, and fails in the end. -/
theorem recover_cases {phase : Phase} {failure : DaemonError} {world after : World F}
    {result : Except DaemonError Unit}
    (taken : recover phase failure world = (result, after))
    (saves : Saves world.statePath phase.save) :
    (∃ last, result = .error last) ∧ after.routes = world.routes ∧
      after.disk = savedDisk world ∧ after.graph = relistedGraph phase.listing world := by
  unfold recover at taken
  rw [bind_apply_ok (saveRoutes_of_saves saves)] at taken
  rcases relist_cases taken with ⟨_, error, rfl, rfl⟩ | ⟨listed, found, rest⟩
  · exact ⟨⟨_, rfl⟩, rfl, rfl, by rw [relistedGraph, error]⟩
  have graphEq : relistedGraph phase.listing world =
      (addSavedRoutes listed.graph world.routes.values).2 := by
    rw [relistedGraph, found]
  rcases rest with ⟨_, _, rfl, rfl⟩ | ⟨_, rest⟩
  · exact ⟨⟨_, rfl⟩, rfl, rfl, graphEq.symm⟩
  rcases bind_cases rest with ⟨stopped, restart, rfl⟩ | ⟨_, restarted, restart, failed⟩
  · obtain ⟨-, rfl⟩ := Prod.mk.inj restart
    exact ⟨⟨_, rfl⟩, rfl, rfl, graphEq.symm⟩
  · obtain ⟨-, rfl⟩ := Prod.mk.inj restart
    cases failed
    exact ⟨⟨_, rfl⟩, rfl, rfl, graphEq.symm⟩

/-! ## Connecting -/

/-- The ways in which a `Connect` request can go. -/
inductive ConnectOutcome (environment : Environment) (saved : SavedRoute) (world : World F) :
    Except DaemonError String → World F → Prop where
  | unbuilt {failure : DaemonError}
      (unbuilt : buildRoute (F := F) world.graph.endpoints saved = .error failure) :
      ConnectOutcome environment saved world (.error failure) world
  | refused {route : Route F} {failure : GraphError}
      (built : buildRoute world.graph.endpoints saved = .ok route)
      (refused : world.graph.addRoute route = .error failure) :
      ConnectOutcome environment saved world (.error (.graph failure)) world
  /-- The identifier was saved, but its route was not in the graph. -/
  | known {route : Route F} {extended : RoutingGraph F} {failure : DaemonError}
      (built : buildRoute world.graph.endpoints saved = .ok route)
      (added : world.graph.addRoute route = .ok extended)
      (known : world.routes.map.contains saved.id = true) :
      ConnectOutcome environment saved world (.error failure)
        { world with
          graph := (addSavedRoutes extended (world.routes.insert saved).values).2
          routes := world.routes.insert saved }
  | unsaved {route : Route F} {extended : RoutingGraph F} {failure : DaemonError}
      (built : buildRoute world.graph.endpoints saved = .ok route)
      (added : world.graph.addRoute route = .ok extended)
      (fresh : world.routes.map[saved.id]? = none)
      (stuck : ¬ Saves world.statePath environment.attempt.save) :
      ConnectOutcome environment saved world (.error failure)
        { world with
          graph := (addSavedRoutes extended world.routes.values).2
          disk := (writeState world.statePath (world.routes.insert saved).content
            environment.attempt.save world.disk).2 }
  /-- The router did not start, and the route was taken out again. -/
  | stopped {route : Route F} {extended : RoutingGraph F} {failure last : DaemonError}
      {after : World F}
      (built : buildRoute world.graph.endpoints saved = .ok route)
      (added : world.graph.addRoute route = .ok extended)
      (fresh : world.routes.map[saved.id]? = none)
      (saves : Saves world.statePath environment.attempt.save)
      (launch : (launchRouter environment.attempt.start extended world.endpointDevices).1 =
        .error failure)
      (recovered : recover environment.rollback failure
        { world with
          graph := extended
          router := none
          disk := savedDisk { world with routes := world.routes.insert saved } } =
            (.error last, after)) :
      ConnectOutcome environment saved world (.error last) after
  | connected {route : Route F} {extended : RoutingGraph F}
      (built : buildRoute world.graph.endpoints saved = .ok route)
      (added : world.graph.addRoute route = .ok extended)
      (fresh : world.routes.map[saved.id]? = none)
      (saves : Saves world.statePath environment.attempt.save)
      (launch : (launchRouter environment.attempt.start extended world.endpointDevices).1 =
        .ok ()) :
      ConnectOutcome environment saved world (.ok ("connected " ++ saved.id))
        { world with
          graph := extended
          routes := world.routes.insert saved
          router := (launchRouter environment.attempt.start extended world.endpointDevices).2
          disk := savedDisk { world with routes := world.routes.insert saved } }

theorem SavedRoutes.remove_insert {routes : SavedRoutes} {saved : SavedRoute}
    (fresh : routes.map[saved.id]? = none) : (routes.insert saved).remove saved.id = routes :=
  SavedRoutes.ext (ExtTreeMap.erase_insert_of_none fresh)

/-- The three ways in which the second part of `Connect` can go. -/
theorem commitConnect_cases {environment : Environment} {id : String} {accepted after : World F}
    {result : Except DaemonError String}
    (taken : commitConnect environment id accepted = (result, after)) :
    (¬ Saves accepted.statePath environment.attempt.save ∧ (∃ failure, result = .error failure) ∧
      after = { accepted with
        graph := (addSavedRoutes accepted.graph (accepted.routes.remove id).values).2
        routes := accepted.routes.remove id
        disk := (writeState accepted.statePath accepted.routes.content
          environment.attempt.save accepted.disk).2 }) ∨
    Saves accepted.statePath environment.attempt.save ∧
      ((∃ failure last, (launchRouter environment.attempt.start accepted.graph
            accepted.endpointDevices).1 = .error failure ∧ result = .error last ∧
          recover environment.rollback failure { accepted with
            routes := accepted.routes.remove id
            router := none
            disk := savedDisk accepted } = (.error last, after)) ∨
        ((launchRouter environment.attempt.start accepted.graph
            accepted.endpointDevices).1 = .ok () ∧
          result = .ok ("connected " ++ id) ∧
          after = { accepted with
            router := (launchRouter environment.attempt.start accepted.graph
              accepted.endpointDevices).2
            disk := savedDisk accepted })) := by
  unfold commitConnect at taken
  have raisesUnsaved : ∀ failure, Raises (do
      let _ ← removeRoute id
      restoreRoutes
      fail failure : Daemon F Unit) :=
    fun failure => Raises.after fun _ => Raises.after fun _ => raises_fail failure
  have raisesStopped : ∀ failure, Raises (do
      let _ ← removeRoute id
      recover environment.rollback failure : Daemon F Unit) :=
    fun failure => Raises.after fun _ => raises_recover _ failure
  rcases save_cases raisesUnsaved taken with ⟨stuck, failure, last, rfl, undo⟩ | ⟨saves, rest⟩
  · refine Or.inl ⟨stuck, ⟨last, rfl⟩, ?_⟩
    rw [bind_apply_ok (removeRoute_apply id _)] at undo
    rcases bind_cases undo with ⟨_, restore, _⟩ | ⟨_, _, restore, failed⟩
    · obtain ⟨-, rfl⟩ := Prod.mk.inj restore
      rfl
    · obtain ⟨-, rfl⟩ := Prod.mk.inj restore
      cases failed
      rfl
  · refine Or.inr ⟨saves, ?_⟩
    rcases restart_cases raisesStopped rest with ⟨failure, last, launch, rfl, undo⟩ | ⟨launch, rest⟩
    · rw [bind_apply_ok (removeRoute_apply id _)] at undo
      exact Or.inl ⟨failure, last, launch, rfl, undo⟩
    · cases rest
      exact Or.inr ⟨launch, rfl, rfl⟩

theorem connect_outcome {environment : Environment} {saved : SavedRoute} {world after : World F}
    {result : Except DaemonError String}
    (taken : connect environment saved world = (result, after)) :
    ConnectOutcome environment saved world result after := by
  unfold connect at taken
  rcases bind_cases taken with ⟨failure, build, rfl⟩ | ⟨route, middle, build, rest⟩
  · obtain ⟨unbuilt, rfl⟩ := Prod.mk.inj build
    exact .unbuilt unbuilt
  obtain ⟨built, rfl⟩ := Prod.mk.inj build
  rcases addRoute_cases rest with ⟨failure, refused, rfl, rfl⟩ | ⟨extended, added, rest⟩
  · exact .refused built refused
  rw [bind_apply_ok (insertRoute_apply saved _)] at rest
  split at rest
  · rename_i known
    rcases bind_cases rest with ⟨failure, restore, rfl⟩ | ⟨_, middle, restore, rest⟩
    · obtain ⟨-, rfl⟩ := Prod.mk.inj restore
      exact .known built added known
    · obtain ⟨-, rfl⟩ := Prod.mk.inj restore
      cases rest
      exact .known built added known
  rename_i unknown
  have fresh : world.routes.map[saved.id]? = none := by
    rwa [ExtTreeMap.contains_eq_isSome_getElem?, Bool.not_eq_true, Option.isSome_eq_false_iff,
      Option.isNone_iff_eq_none] at unknown
  rcases commitConnect_cases rest with ⟨stuck, ⟨failure, rfl⟩, rfl⟩ | ⟨saves, stopped | connected⟩
  · rw [SavedRoutes.remove_insert fresh]
    exact .unsaved built added fresh stuck
  · obtain ⟨failure, last, launch, rfl, recovered⟩ := stopped
    rw [SavedRoutes.remove_insert fresh] at recovered
    exact .stopped built added fresh saves launch recovered
  · obtain ⟨launch, rfl, rfl⟩ := connected
    exact .connected built added fresh saves launch

/-! ## Creating and deleting devices -/

/-- The ways in which a request can go that changes the devices, if it is
accepted, and lists them again. -/
inductive RelistOutcome (accepts : Prop) (listing : Except CoreAudioError (List AudioDevice))
    (reply : String) (world : World F) : Except DaemonError String → World F → Prop where
  | refused {failure : DaemonError} (refused : ¬ accepts) :
      RelistOutcome accepts listing reply world (.error failure) world
  | unlisted {failure : DaemonError} (accepted : accepts)
      (unlisted : listEndpoints (F := F) listing = .error failure) :
      RelistOutcome accepts listing reply world (.error failure) world
  | unrestored {listed : Listed F} {failure : DaemonError} (accepted : accepts)
      (found : listEndpoints listing = .ok listed)
      (unrestored : (addSavedRoutes listed.graph world.routes.values).1 = .error failure) :
      RelistOutcome accepts listing reply world (.error failure) (relisted listed world)
  | restored {listed : Listed F} (accepted : accepts)
      (found : listEndpoints listing = .ok listed)
      (restored : (addSavedRoutes listed.graph world.routes.values).1 = .ok ()) :
      RelistOutcome accepts listing reply world (.ok reply) (relisted listed world)

theorem relist_outcome {accepts : Prop} {listing : Except CoreAudioError (List AudioDevice)}
    {reply : String} {world after : World F} {result : Except DaemonError String}
    (accepted : accepts)
    (taken : (do refreshEndpoints listing; restoreRoutes; return reply : Daemon F String) world =
      (result, after)) :
    RelistOutcome accepts listing reply world result after := by
  rcases relist_cases taken with ⟨_, error, rfl, rfl⟩ | ⟨listed, found, rest⟩
  · exact .unlisted accepted error
  rcases rest with ⟨_, failed, rfl, rfl⟩ | ⟨restored, rest⟩
  · exact .unrestored accepted found failed
  · cases rest
    exact .restored accepted found restored

/-- A device is made if its identifier is valid and the driver makes it. -/
def Creates (environment : Environment) (id : String) : Prop :=
  isValidDeviceId id = true ∧ environment.create = none

/-- A device is deleted if its identifier is valid, no saved route uses it and
the driver deletes it. -/
def Deletes (environment : Environment) (id : String) (world : World F) : Prop :=
  isValidDeviceId id = true ∧ isReferenced world (virtualDeviceUid id) = false ∧
    environment.delete = none

theorem validateDeviceId_eq_ok_iff {id : String} :
    validateDeviceId id = .ok () ↔ isValidDeviceId id = true := by
  unfold validateDeviceId
  split <;> simp_all

theorem validateDeviceId_of_valid {id : String} (valid : isValidDeviceId id = true)
    (world : World F) :
    (inspect fun _ => validateDeviceId id : Daemon F Unit) world = (.ok (), world) := by
  simp [inspect, validateDeviceId, valid]

theorem validateDeviceId_of_invalid {id : String} (invalid : isValidDeviceId id = false)
    (world : World F) :
    (inspect fun _ => validateDeviceId id : Daemon F Unit) world =
      (.error (.invalidDeviceId id), world) := by
  simp [inspect, validateDeviceId, invalid]

theorem coreAudioCall_eq_ok_iff {failure : Option CoreAudioError} :
    coreAudioCall failure = .ok () ↔ failure = none := by
  cases failure <;> simp [coreAudioCall]

/-- A check either fails, and nothing happens, or goes through. -/
theorem inspect_cases {α : Type} {check : World F → Except DaemonError Unit} {next : Daemon F α}
    {world after : World F} {result : Except DaemonError α}
    (taken : (do inspect check; next : Daemon F α) world = (result, after)) :
    ((∃ failure, result = .error failure) ∧ check world ≠ .ok () ∧ after = world) ∨
      check world = .ok () ∧ next world = (result, after) := by
  rcases bind_cases taken with ⟨failure, checked, rfl⟩ | ⟨_, _, checked, rest⟩
  · obtain ⟨failed, rfl⟩ := Prod.mk.inj checked
    exact Or.inl ⟨⟨failure, rfl⟩, by simp [failed], rfl⟩
  · obtain ⟨passed, rfl⟩ := Prod.mk.inj checked
    exact Or.inr ⟨passed, rest⟩

theorem createDevice_outcome {environment : Environment} {id : String} {world after : World F}
    {result : Except DaemonError String}
    (taken : createDevice environment id world = (result, after)) :
    RelistOutcome (Creates environment id) environment.attempt.listing ("created " ++ id) world
      result after := by
  unfold createDevice at taken
  rcases inspect_cases taken with ⟨⟨_, rfl⟩, invalid, rfl⟩ | ⟨valid, taken⟩
  · exact .refused fun creates => invalid (validateDeviceId_eq_ok_iff.mpr creates.1)
  rcases inspect_cases taken with ⟨⟨_, rfl⟩, uncreated, rfl⟩ | ⟨created, taken⟩
  · exact .refused fun creates => uncreated (coreAudioCall_eq_ok_iff.mpr creates.2)
  exact relist_outcome
    ⟨validateDeviceId_eq_ok_iff.mp valid, coreAudioCall_eq_ok_iff.mp created⟩ taken

theorem deleteDevice_outcome {environment : Environment} {id : String} {world after : World F}
    {result : Except DaemonError String}
    (taken : deleteDevice environment id world = (result, after)) :
    RelistOutcome (Deletes environment id world) environment.attempt.listing ("deleted " ++ id)
      world result after := by
  unfold deleteDevice at taken
  rcases inspect_cases taken with ⟨⟨_, rfl⟩, invalid, rfl⟩ | ⟨valid, taken⟩
  · exact .refused fun deletes => invalid (validateDeviceId_eq_ok_iff.mpr deletes.1)
  rcases inspect_cases taken with ⟨⟨_, rfl⟩, referenced, rfl⟩ | ⟨unreferenced, taken⟩
  · exact .refused fun deletes => referenced (by simp [deletes.2.1])
  rcases inspect_cases taken with ⟨⟨_, rfl⟩, undeleted, rfl⟩ | ⟨deleted, taken⟩
  · exact .refused fun deletes => undeleted (coreAudioCall_eq_ok_iff.mpr deletes.2.2)
  have unreferenced : isReferenced world (virtualDeviceUid id) = false := by
    split at unreferenced
    · cases unreferenced
    · rename_i unused
      exact Bool.eq_false_iff.mpr unused
  exact relist_outcome
    ⟨validateDeviceId_eq_ok_iff.mp valid, unreferenced, coreAudioCall_eq_ok_iff.mp deleted⟩ taken

/-! ## Disconnecting -/

/-- The daemon after a route is taken out of the map and of the state file. -/
def withoutSaved (id : String) (world : World F) : World F :=
  { world with
    routes := world.routes.remove id
    disk := savedDisk { world with routes := world.routes.remove id } }

/-- The ways in which a `Disconnect` request can go. -/
inductive DisconnectOutcome (environment : Environment) (id : String) (world : World F) :
    Except DaemonError String → World F → Prop where
  | unknown (unknown : world.routes.map[id]? = none) :
      DisconnectOutcome environment id world (.error (.routeNotFound id)) world
  | unsaved {previous : SavedRoute} {failure : DaemonError}
      (known : world.routes.map[id]? = some previous)
      (stuck : ¬ Saves world.statePath environment.attempt.save) :
      DisconnectOutcome environment id world (.error failure)
        { world with
          disk := (writeState world.statePath (world.routes.remove id).content
            environment.attempt.save world.disk).2 }
  /-- The devices could not be listed, and the route is gone. -/
  | unlisted {previous : SavedRoute} {failure : DaemonError}
      (known : world.routes.map[id]? = some previous)
      (saves : Saves world.statePath environment.attempt.save)
      (unlisted : listEndpoints (F := F) environment.attempt.listing = .error failure) :
      DisconnectOutcome environment id world (.error failure) (withoutSaved id world)
  /-- Another route could not be restored, and the route is gone. -/
  | unrestored {previous : SavedRoute} {listed : Listed F} {failure : DaemonError}
      (known : world.routes.map[id]? = some previous)
      (saves : Saves world.statePath environment.attempt.save)
      (found : listEndpoints environment.attempt.listing = .ok listed)
      (unrestored : (addSavedRoutes listed.graph (world.routes.remove id).values).1 =
        .error failure) :
      DisconnectOutcome environment id world (.error failure)
        (relisted listed (withoutSaved id world))
  /-- The router did not start, and the route was put back. -/
  | stopped {previous : SavedRoute} {listed : Listed F} {failure last : DaemonError}
      {after : World F} (known : world.routes.map[id]? = some previous)
      (saves : Saves world.statePath environment.attempt.save)
      (found : listEndpoints environment.attempt.listing = .ok listed)
      (restored : (addSavedRoutes listed.graph (world.routes.remove id).values).1 = .ok ())
      (launch : (launchRouter environment.attempt.start
        (addSavedRoutes listed.graph (world.routes.remove id).values).2
          listed.endpointDevices).1 = .error failure)
      (recovered : recover environment.rollback failure
        { relisted listed (withoutSaved id world) with
          routes := world.routes
          router := none } = (.error last, after)) :
      DisconnectOutcome environment id world (.error last) after
  | disconnected {previous : SavedRoute} {listed : Listed F}
      (known : world.routes.map[id]? = some previous)
      (saves : Saves world.statePath environment.attempt.save)
      (found : listEndpoints environment.attempt.listing = .ok listed)
      (restored : (addSavedRoutes listed.graph (world.routes.remove id).values).1 = .ok ())
      (launch : (launchRouter environment.attempt.start
        (addSavedRoutes listed.graph (world.routes.remove id).values).2
          listed.endpointDevices).1 = .ok ()) :
      DisconnectOutcome environment id world (.ok ("disconnected " ++ id))
        { relisted listed (withoutSaved id world) with
          router := (launchRouter environment.attempt.start
            (addSavedRoutes listed.graph (world.routes.remove id).values).2
              listed.endpointDevices).2 }

theorem SavedRoutes.remove_of_none {routes : SavedRoutes} {id : String}
    (unknown : routes.map[id]? = none) : routes.remove id = routes :=
  SavedRoutes.ext (ExtTreeMap.erase_of_none unknown)

/-- Putting a route back where it was. -/
theorem SavedRoutes.insert_remove {routes : SavedRoutes} {id : String} {previous : SavedRoute}
    (known : routes.map[id]? = some previous) : (routes.remove id).insert previous = routes := by
  obtain rfl : previous.id = id := routes.keyed _ _ known
  exact SavedRoutes.ext (ExtTreeMap.insert_erase_of_some known)

theorem disconnect_outcome {environment : Environment} {id : String} {world after : World F}
    {result : Except DaemonError String}
    (taken : disconnect environment id world = (result, after)) :
    DisconnectOutcome environment id world result after := by
  unfold disconnect at taken
  rw [bind_apply_ok (removeRoute_apply id world)] at taken
  cases known : world.routes.map[id]? with
  | none =>
      simp only [known, SavedRoutes.remove_of_none known] at taken
      cases taken
      exact .unknown known
  | some previous =>
      simp only [known] at taken
      obtain sameId : previous.id = id := world.routes.keyed _ _ known
      have putBack := SavedRoutes.insert_remove known
      unfold commitDisconnect at taken
      have raisesUnsaved : ∀ failure, Raises (do
          let _ ← insertRoute previous
          fail failure : Daemon F Unit) :=
        fun failure => Raises.after fun _ => raises_fail failure
      have raisesStopped : ∀ failure, Raises (do
          let _ ← insertRoute previous
          recover environment.rollback failure : Daemon F Unit) :=
        fun failure => Raises.after fun _ => raises_recover _ failure
      rcases save_cases raisesUnsaved taken with ⟨stuck, failure, last, rfl, undo⟩ | ⟨saves, rest⟩
      · rw [bind_apply_ok (insertRoute_apply previous _)] at undo
        simp only [putBack] at undo
        cases undo
        exact .unsaved known stuck
      rcases relist_cases rest with ⟨_, error, rfl, rfl⟩ | ⟨listed, found, rest⟩
      · exact .unlisted known saves error
      rcases rest with ⟨_, failed, rfl, rfl⟩ | ⟨restored, rest⟩
      · exact .unrestored known saves found failed
      rcases restart_cases raisesStopped rest with ⟨failure, last, launch, rfl, undo⟩ |
        ⟨launch, rest⟩
      · rw [bind_apply_ok (insertRoute_apply previous _)] at undo
        simp only [relisted, putBack] at undo
        exact .stopped known saves found restored launch undo
      · rw [sameId] at rest
        cases rest
        exact .disconnected known saves found restored launch

end VCable
