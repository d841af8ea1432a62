import VCable.DaemonWiring

/-!
# Invariants of the graph and its devices

The daemon gets its graph and its table of devices from a listing, and adds
routes that the graph accepts.  What holds after a listing and is kept by an
accepted route holds in every daemon, whatever its calls come to.
-/

namespace VCable

open Std RoutingGraph FallibleState Relation

variable {F : Type} [SinglePrecision F]

/-- One request, with whatever its calls come to. -/
def HandleStep (before after : World F) : Prop :=
  ∃ environment request result, handle environment request before = (result, after)

theorem handleStep (environment : Environment) (request : Request) (world : World F) :
    HandleStep world (handle environment request world).2 :=
  ⟨environment, request, _, rfl⟩

/-- A property that holds after a listing and is kept by an accepted route. -/
structure ListingInvariant (holds : RoutingGraph F → ExtTreeMap String AudioDevice → Prop) :
    Prop where
  listed : ∀ {listing : Except CoreAudioError (List AudioDevice)} {listed : Listed F},
    listEndpoints listing = .ok listed → holds listed.graph listed.endpointDevices
  added : ∀ {graph extended : RoutingGraph F} {route : Route F}
    {endpointDevices : ExtTreeMap String AudioDevice}, graph.addRoute route = .ok extended →
      holds graph endpointDevices → holds extended endpointDevices

/-- The property holds in a daemon. -/
def HoldsIn (holds : RoutingGraph F → ExtTreeMap String AudioDevice → Prop) (world : World F) :
    Prop :=
  holds world.graph world.endpointDevices

namespace ListingInvariant

variable {holds : RoutingGraph F → ExtTreeMap String AudioDevice → Prop}

theorem preserves_refreshEndpoints (invariant : ListingInvariant holds)
    (listing : Except CoreAudioError (List AudioDevice)) :
    Preserves (HoldsIn holds) (refreshEndpoints listing : Daemon F Unit) := by
  intro world held
  unfold refreshEndpoints
  split
  · exact held
  · rename_i listed found
    exact invariant.listed found

theorem addSavedRoutes (invariant : ListingInvariant holds) {graph : RoutingGraph F}
    {endpointDevices : ExtTreeMap String AudioDevice} (held : holds graph endpointDevices)
    (saved : List SavedRoute) : holds (addSavedRoutes graph saved).2 endpointDevices := by
  induction saved generalizing graph with
  | nil => exact held
  | cons one rest ih =>
      unfold VCable.addSavedRoutes
      split
      · exact held
      · split
        · exact held
        · rename_i extended added
          exact ih (invariant.added added held)

theorem preserves_restoreRoutes (invariant : ListingInvariant holds) :
    Preserves (HoldsIn holds) (restoreRoutes : Daemon F Unit) :=
  fun world held => invariant.addSavedRoutes held world.routes.values

theorem preserves_addRoute (invariant : ListingInvariant holds) (route : Route F) :
    Preserves (HoldsIn holds) (VCable.addRoute route : Daemon F Unit) := by
  intro world held
  unfold VCable.addRoute
  split
  · exact held
  · rename_i extended added
    exact invariant.added added held

theorem preserves_saveRoutes (fault : Option SaveFault) :
    Preserves (HoldsIn holds) (saveRoutes fault : Daemon F Unit) :=
  fun _ held => held

theorem preserves_restartRouter (start : Option CoreAudioError) :
    Preserves (HoldsIn holds) (restartRouter start : Daemon F Unit) :=
  fun _ held => held

theorem preserves_insertRoute (saved : SavedRoute) :
    Preserves (HoldsIn holds) (insertRoute saved : Daemon F Bool) :=
  fun _ held => held

theorem preserves_removeRoute (id : String) :
    Preserves (HoldsIn holds) (removeRoute id : Daemon F (Option SavedRoute)) :=
  fun _ held => held

/-- The calls that list the devices again and restore the routes. -/
theorem preserves_relist (invariant : ListingInvariant holds) {α : Type}
    (listing : Except CoreAudioError (List AudioDevice)) {next : Daemon F α}
    (goesOn : Preserves (HoldsIn holds) next) :
    Preserves (HoldsIn holds) (do refreshEndpoints listing; restoreRoutes; next : Daemon F α) :=
  (invariant.preserves_refreshEndpoints listing).bind fun _ =>
    invariant.preserves_restoreRoutes.bind fun _ => goesOn

theorem preserves_recover (invariant : ListingInvariant holds) (phase : Phase)
    (failure : DaemonError) : Preserves (HoldsIn holds) (recover phase failure : Daemon F Unit) :=
  (preserves_saveRoutes phase.save).bind fun _ => invariant.preserves_relist phase.listing
    ((preserves_restartRouter phase.start).bind fun _ => preserves_fail failure)

theorem preserves_connect (invariant : ListingInvariant holds) (environment : Environment)
    (saved : SavedRoute) :
    Preserves (HoldsIn holds) (connect environment saved : Daemon F String) := by
  refine (preserves_inspect _).bind fun route => (invariant.preserves_addRoute route).bind fun _ =>
    (preserves_insertRoute saved).bind fun known => ?_
  split
  · exact invariant.preserves_restoreRoutes.bind fun _ => preserves_fail _
  refine Preserves.bind ?_ fun _ => Preserves.bind ?_ fun _ => preserves_pure _
  · refine (preserves_saveRoutes _).onError fun failure => ?_
    exact (preserves_removeRoute _).bind fun _ => invariant.preserves_restoreRoutes.bind fun _ =>
      preserves_fail _
  · refine (preserves_restartRouter _).onError fun failure => ?_
    exact (preserves_removeRoute _).bind fun _ =>
      invariant.preserves_recover environment.rollback failure

theorem preserves_disconnect (invariant : ListingInvariant holds) (environment : Environment)
    (id : String) : Preserves (HoldsIn holds) (disconnect environment id : Daemon F String) := by
  refine (preserves_removeRoute id).bind fun previous => ?_
  split
  · exact preserves_fail _
  refine Preserves.bind ?_ fun _ =>
    invariant.preserves_relist _ (Preserves.bind ?_ fun _ => preserves_pure _)
  · refine (preserves_saveRoutes _).onError fun failure => ?_
    exact (preserves_insertRoute _).bind fun _ => preserves_fail _
  · refine (preserves_restartRouter _).onError fun failure => ?_
    exact (preserves_insertRoute _).bind fun _ =>
      invariant.preserves_recover environment.rollback failure

/-- Whatever a request comes to, the property is kept. -/
theorem preserves_handle (invariant : ListingInvariant holds) (environment : Environment)
    (request : Request) :
    Preserves (HoldsIn holds) (handle environment request : Daemon F String) := by
  cases request with
  | ping => exact preserves_pure _
  | status => exact preserves_inspect _
  | shutdown => exact fun _ held => held
  | createDevice id =>
      exact (preserves_inspect _).bind fun _ => (preserves_inspect _).bind fun _ =>
        invariant.preserves_relist _ (preserves_pure _)
  | deleteDevice id =>
      exact (preserves_inspect _).bind fun _ => (preserves_inspect _).bind fun _ =>
        (preserves_inspect _).bind fun _ => invariant.preserves_relist _ (preserves_pure _)
  | connect id source sink gainMillidb matrixMillionths =>
      exact invariant.preserves_connect _ _
  | disconnect id => exact invariant.preserves_disconnect _ _

theorem run (invariant : ListingInvariant holds) {started world : World F}
    (held : HoldsIn holds started) (run : ReflTransGen HandleStep started world) :
    HoldsIn holds world := by
  induction run with
  | refl => exact held
  | tail earlier taken ih =>
      obtain ⟨environment, request, result, handled⟩ := taken
      have after := invariant.preserves_handle environment request _ ih
      rw [handled] at after
      exact after

/-- A daemon that has come up has listed its devices. -/
theorem started (invariant : ListingInvariant holds) {path : DiskPath} {fault : Option IoError}
    {disk : Disk} {loaded started : World F} {phase : Phase}
    (loads : load path fault disk = .ok loaded)
    (starts : bringUp phase loaded = (.ok (), started)) : HoldsIn holds started := by
  have empty : HoldsIn holds loaded := by
    unfold load at loads
    split at loads
    · cases loads
    · obtain ⟨routes, _, made⟩ := bind_eq_ok_iff.mp loads
      cases made
      have listed : listEndpoints (.ok []) = .ok (Listed.empty : Listed F) := rfl
      exact invariant.listed listed
  have up : Preserves (HoldsIn holds) (bringUp phase : Daemon F Unit) :=
    invariant.preserves_relist _ (preserves_restartRouter _)
  have after := up loaded empty
  rw [starts] at after
  exact after

end ListingInvariant

end VCable
