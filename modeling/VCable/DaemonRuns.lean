import VCable.DaemonWiring

/-!
# Requests while saves and router starts succeed

What a request can do in a wired daemon if no save and no start of the router
fails: neither rollback is ever reached, and the daemon stays wired.
-/

namespace VCable

open Std RoutingGraph

variable {F : Type} [SinglePrecision F]

/-- The graph accepts the route. -/
def Accepts (world : World F) (saved : SavedRoute) : Prop :=
  ∃ (route : Route F) (extended : RoutingGraph F),
    buildRoute world.graph.endpoints saved = .ok route ∧
      world.graph.addRoute route = .ok extended

theorem SavedRoute.request_injective : Function.Injective SavedRoute.request := by
  rintro ⟨⟩ ⟨⟩ same
  cases same
  rfl

/-- The request gets to its save. -/
def Commits (world : World F) : Request → Prop
  | .connect id source sink gainMillidb matrixMillionths =>
      Accepts world ⟨id, source, sink, gainMillidb, matrixMillionths⟩ ∧
        world.routes.map[id]? = none
  | .disconnect id => world.routes.map[id]? ≠ none
  | _ => False

/-- The request changes the devices. -/
def Relists (environment : Environment) (world : World F) : Request → Prop
  | .createDevice id _ _ _ _ => Creates environment id
  | .deleteDevice id => Deletes environment id world
  | _ => False

/-- No save and no start of the router fails in the request. -/
structure Quiet (environment : Environment) (world : World F) (request : Request) : Prop where
  saves : Commits world request → Saves world.statePath environment.attempt.save
  starts : environment.attempt.start = none

/-- The ways in which a quiet request can go. -/
inductive QuietOutcome (environment : Environment) (world : World F) :
    Request → Except DaemonError String → World F → Prop where
  | answered {request : Request} {reply : String}
      (reads : request = .ping ∨ request = .status) :
      QuietOutcome environment world request (.ok reply) world
  | shutdown : QuietOutcome environment world .shutdown (.ok "shutting down")
      { world with router := none }
  | refused {request : Request} {failure : DaemonError}
      (keeps : ¬ Relists environment world request)
      (rejects : ∀ saved : SavedRoute, request = saved.request → ¬ Accepts world saved) :
      QuietOutcome environment world request (.error failure) world
  | unlistedDevices {request : Request} {failure unlisted : DaemonError}
      (changes : Relists environment world request)
      (unlisted : listEndpoints (F := F) environment.attempt.listing = .error unlisted) :
      QuietOutcome environment world request (.error failure) world
  | relisted {request : Request} {result : Except DaemonError String} {listed : Listed F}
      (changes : Relists environment world request)
      (found : listEndpoints environment.attempt.listing = .ok listed) :
      QuietOutcome environment world request result (relisted listed world)
  | known {saved : SavedRoute} {route : Route F} {extended : RoutingGraph F}
      {failure : DaemonError} (built : buildRoute world.graph.endpoints saved = .ok route)
      (added : world.graph.addRoute route = .ok extended)
      (known : world.routes.map.contains saved.id = true) :
      QuietOutcome environment world saved.request (.error failure)
        { world with
          graph := (addSavedRoutes extended (world.routes.insert saved).values).2
          routes := world.routes.insert saved }
  | connected {saved : SavedRoute} {route : Route F} {extended : RoutingGraph F}
      (built : buildRoute world.graph.endpoints saved = .ok route)
      (added : world.graph.addRoute route = .ok extended)
      (fresh : world.routes.map[saved.id]? = none) :
      QuietOutcome environment world saved.request (.ok ("connected " ++ saved.id))
        { world with
          graph := extended
          routes := world.routes.insert saved
          router := (launchRouter none extended world.endpointDevices).2
          disk := savedDisk { world with routes := world.routes.insert saved } }
  | unlisted {id : String} {failure unlisted : DaemonError}
      (known : world.routes.map[id]? ≠ none)
      (unlisted : listEndpoints (F := F) environment.attempt.listing = .error unlisted) :
      QuietOutcome environment world (.disconnect id) (.error failure) (withoutSaved id world)
  | unrestored {id : String} {failure unrestored : DaemonError} {listed : Listed F}
      (known : world.routes.map[id]? ≠ none)
      (found : listEndpoints environment.attempt.listing = .ok listed)
      (unrestored : (addSavedRoutes listed.graph (world.routes.remove id).values).1 =
        .error unrestored) :
      QuietOutcome environment world (.disconnect id) (.error failure)
        (relisted listed (withoutSaved id world))
  | disconnected {id : String} {listed : Listed F}
      (known : world.routes.map[id]? ≠ none)
      (found : listEndpoints environment.attempt.listing = .ok listed)
      (restored : (addSavedRoutes listed.graph (world.routes.remove id).values).1 = .ok ()) :
      QuietOutcome environment world (.disconnect id) (.ok ("disconnected " ++ id))
        { relisted listed (withoutSaved id world) with
          router := (launchRouter none
            (addSavedRoutes listed.graph (world.routes.remove id).values).2
              listed.endpointDevices).2 }

theorem RelistOutcome.quiet {environment : Environment} {world after : World F}
    {request : Request} {reply : String} {result : Except DaemonError String}
    (outcome : RelistOutcome (Relists environment world request) environment.attempt.listing
      reply world result after)
    (other : ∀ saved : SavedRoute, request ≠ saved.request) :
    QuietOutcome environment world request result after := by
  cases outcome with
  | refused refused => exact .refused refused fun saved same => absurd same (other saved)
  | unlisted changes unlisted => exact .unlistedDevices changes unlisted
  | unrestored changes found unrestored => exact .relisted changes found
  | restored changes found restored => exact .relisted changes found

theorem ConnectOutcome.quiet {environment : Environment} {saved : SavedRoute}
    {world after : World F} {result : Except DaemonError String}
    (outcome : ConnectOutcome environment saved world result after) (wired : Wired world)
    (quiet : Quiet environment world saved.request) :
    QuietOutcome environment world saved.request result after := by
  have rejected : ∀ {failure : DaemonError}, ¬ Accepts world saved →
      QuietOutcome environment world saved.request (.error failure) world := by
    intro failure rejects
    refine .refused id fun other same => ?_
    exact SavedRoute.request_injective same ▸ rejects
  cases outcome with
  | unbuilt unbuilt =>
      apply rejected
      rintro ⟨route, extended, built, _⟩
      rw [unbuilt] at built
      cases built
  | refused built refused =>
      apply rejected
      rintro ⟨route, extended, otherBuilt, added⟩
      obtain rfl := Except.ok.inj (built.symm.trans otherBuilt)
      rw [refused] at added
      cases added
  | known built added known => exact .known built added known
  | unsaved built added fresh stuck =>
      exact absurd (quiet.saves ⟨⟨_, _, built, added⟩, fresh⟩) stuck
  | stopped built added fresh saves launch recovered =>
      rw [quiet.starts, (wired.addRoute added).launch.1] at launch
      cases launch
  | connected built added fresh saves launch =>
      rw [quiet.starts]
      exact .connected built added fresh

theorem DisconnectOutcome.quiet {environment : Environment} {id : String}
    {world after : World F} {result : Except DaemonError String}
    (outcome : DisconnectOutcome environment id world result after)
    (quiet : Quiet environment world (.disconnect id)) :
    QuietOutcome environment world (.disconnect id) result after := by
  have known_ne_none : ∀ {previous : SavedRoute},
      world.routes.map[id]? = some previous → world.routes.map[id]? ≠ none := by
    intro previous known
    rw [known]
    nofun
  cases outcome with
  | unknown unknown => exact .refused (fun changes => changes) nofun
  | unsaved known stuck => exact absurd (quiet.saves (known_ne_none known)) stuck
  | unlisted known saves unlisted => exact .unlisted (known_ne_none known) unlisted
  | unrestored known saves found unrestored =>
      exact .unrestored (known_ne_none known) found unrestored
  | stopped known saves found restored launch recovered =>
      have launched := (Wired.relisted found (withoutSaved id world)).launch.1
      rw [quiet.starts] at launch
      exact absurd (launch.symm.trans launched) nofun
  | disconnected known saves found restored launch =>
      rw [quiet.starts]
      exact .disconnected (known_ne_none known) found restored

theorem quiet_outcome {environment : Environment} {world after : World F} {request : Request}
    {result : Except DaemonError String} (wired : Wired world)
    (quiet : Quiet environment world request)
    (taken : handle environment request world = (result, after)) :
    QuietOutcome environment world request result after := by
  cases request with
  | ping =>
      cases taken
      exact .answered (Or.inl rfl)
  | status =>
      cases taken
      exact .answered (Or.inr rfl)
  | shutdown =>
      cases taken
      exact .shutdown
  | createDevice id name inputs outputs rate =>
      have outcome : RelistOutcome
          (Relists environment world (.createDevice id name inputs outputs rate))
          environment.attempt.listing ("created " ++ id) world result after :=
        createDevice_outcome taken
      exact outcome.quiet nofun
  | deleteDevice id =>
      have outcome : RelistOutcome (Relists environment world (.deleteDevice id))
          environment.attempt.listing ("deleted " ++ id) world result after :=
        deleteDevice_outcome taken
      exact outcome.quiet nofun
  | connect id source sink gainMillidb matrixMillionths =>
      exact (connect_outcome taken).quiet wired quiet
  | disconnect id => exact (disconnect_outcome taken).quiet quiet

theorem Wired.of_quiet {environment : Environment} {world after : World F} {request : Request}
    {result : Except DaemonError String} (wired : Wired world)
    (outcome : QuietOutcome environment world request result after) : Wired after := by
  cases outcome with
  | answered reads => exact wired
  | shutdown => exact ⟨wired.endpoint_device, wired.route_ends⟩
  | refused keeps rejects => exact wired
  | unlistedDevices changes unlisted => exact wired
  | relisted changes found => exact Wired.relisted found world
  | @known saved _ _ _ built added known =>
      have restored := (wired.addRoute added).restore (world.routes.insert saved).values
      exact ⟨restored.endpoint_device, restored.route_ends⟩
  | connected built added fresh =>
      have extended := wired.addRoute added
      exact ⟨extended.endpoint_device, extended.route_ends⟩
  | unlisted known unlisted => exact ⟨wired.endpoint_device, wired.route_ends⟩
  | unrestored known found unrestored => exact Wired.relisted found _
  | @disconnected id _ known found restored =>
      have relisted := Wired.relisted found (withoutSaved id world)
      exact ⟨relisted.endpoint_device, relisted.route_ends⟩

end VCable
