import VCable.DaemonRuns
import VCable.StateFileRoundTrip
import Mathlib.Logic.Relation

/-!
# When saved routes are retained

Restoring the routes after a listing stops at the first saved route that cannot
be added, and the routes after it are left out of the graph, although their own
endpoints may be there as they were when the routes were accepted.  In runs in
which every listing lets the restoration get to all such routes, none of them
is ever missing.
-/

namespace VCable

open Std RoutingGraph FallibleState Relation

variable {F : Type} [SinglePrecision F]

/-! ## Shapes -/

/-- What a route is accepted with, on one of its two sides. -/
structure EndpointShape where
  direction : EndpointDirection
  channels : Nat
  isLoopback : Bool
  deriving DecidableEq, Repr

def EndpointDescriptor.shape (endpoint : EndpointDescriptor) : EndpointShape where
  direction := endpoint.direction
  channels := endpoint.channels
  isLoopback := endpoint.isLoopback

structure RouteShape where
  source : EndpointShape
  sink : EndpointShape
  deriving DecidableEq, Repr

def endpointShape (endpoints : ExtTreeMap EndpointId EndpointDescriptor) (name : String) :
    Option EndpointShape :=
  (EndpointId.new name).toOption.bind fun id => endpoints[id]?.map EndpointDescriptor.shape

/-- The shape of the two endpoints of a saved route, if both are present. -/
def routeShape (endpoints : ExtTreeMap EndpointId EndpointDescriptor) (saved : SavedRoute) :
    Option RouteShape :=
  match endpointShape endpoints saved.source, endpointShape endpoints saved.sink with
  | some source, some sink => some ⟨source, sink⟩
  | _, _ => none

/-- A running daemon, and the shapes that the routes had when they were
accepted, by identifier. -/
structure Served (F : Type) [SinglePrecision F] where
  world : World F
  accepted : String → Option RouteShape

/-- The routes that are restored at the start are accepted with the shapes
they have then. -/
def acceptedAtStart (world : World F) : String → Option RouteShape := fun id =>
  world.routes.map[id]?.bind (routeShape world.graph.endpoints)

/-- A `Connect` whose route the graph accepts sets the shape of the route. -/
def acceptedAfter (served : Served F) : Request → String → Option RouteShape
  | .connect id source sink gainMillidb matrixMillionths =>
      let saved := ⟨id, source, sink, gainMillidb, matrixMillionths⟩
      match buildRoute (F := F) served.world.graph.endpoints saved with
      | .error _ => served.accepted
      | .ok route =>
          match served.world.graph.addRoute route with
          | .error _ => served.accepted
          | .ok _ => Function.update served.accepted id
              (routeShape served.world.graph.endpoints saved)
  | _ => served.accepted

theorem acceptedAfter_of_rejects {served : Served F} {request : Request}
    (rejects : ∀ saved : SavedRoute, request = saved.request → ¬ Accepts served.world saved) :
    acceptedAfter served request = served.accepted := by
  cases request with
  | connect id source sink gainMillidb matrixMillionths =>
      simp only [acceptedAfter]
      split
      · rfl
      · rename_i route built
        split
        · rfl
        · rename_i extended added
          exact absurd ⟨route, extended, built, added⟩
            (rejects ⟨id, source, sink, gainMillidb, matrixMillionths⟩ rfl)
  | ping => rfl
  | status => rfl
  | shutdown => rfl
  | createDevice => rfl
  | deleteDevice => rfl
  | disconnect => rfl

theorem acceptedAfter_of_accepts {served : Served F} {saved : SavedRoute} {route : Route F}
    {extended : RoutingGraph F}
    (built : buildRoute served.world.graph.endpoints saved = .ok route)
    (added : served.world.graph.addRoute route = .ok extended) :
    acceptedAfter served saved.request = Function.update served.accepted saved.id
      (routeShape served.world.graph.endpoints saved) := by
  simp only [acceptedAfter, SavedRoute.request, built, added]

/-! ## Retained routes -/

/-- Both endpoints of the saved route are present with the shape that the
route was accepted with. -/
def PresentAsAccepted (accepted : String → Option RouteShape)
    (endpoints : ExtTreeMap EndpointId EndpointDescriptor) (saved : SavedRoute) : Prop :=
  ∃ shape, accepted saved.id = some shape ∧ routeShape endpoints saved = some shape

/-- The saved route is in the graph. -/
def InGraph (graph : RoutingGraph F) (saved : SavedRoute) : Prop :=
  ∃ route, buildRoute graph.endpoints saved = .ok route ∧ graph.routes[route.id]? = some route

/-- Every saved route that is present as accepted is in the graph. -/
def Retained (served : Served F) : Prop :=
  ∀ saved ∈ served.world.routes.values,
    PresentAsAccepted served.accepted served.world.graph.endpoints saved →
      InGraph served.world.graph saved

/-- Every saved route that is present as accepted is played by the router. -/
def AllPlayed (served : Served F) : Prop :=
  ∀ saved ∈ served.world.routes.values,
    PresentAsAccepted served.accepted served.world.graph.endpoints saved →
      ∃ route, buildRoute served.world.graph.endpoints saved = .ok route ∧
        Plays served.world.router served.world.endpointDevices route

theorem InGraph.addRoute {graph extended : RoutingGraph F} {saved : SavedRoute} {route : Route F}
    (inGraph : InGraph graph saved) (added : graph.addRoute route = .ok extended) :
    InGraph extended saved := by
  obtain ⟨old, built, found⟩ := inGraph
  obtain ⟨_, _, fits, _, rfl⟩ := addRoute_eq_ok_iff.mp added
  refine ⟨old, built, ?_⟩
  rw [ExtTreeMap.getElem?_insert_of_ne]
  · exact found
  · intro same
    rw [← same, fits.fresh] at found
    cases found

theorem inGraph_added {graph extended : RoutingGraph F} {saved : SavedRoute} {route : Route F}
    (built : buildRoute graph.endpoints saved = .ok route)
    (added : graph.addRoute route = .ok extended) : InGraph extended saved := by
  obtain ⟨_, _, _, _, rfl⟩ := addRoute_eq_ok_iff.mp added
  exact ⟨route, built, ExtTreeMap.getElem?_insert_self⟩

theorem InGraph.restore {graph : RoutingGraph F} {saved : SavedRoute}
    (inGraph : InGraph graph saved) (routes : List SavedRoute) :
    InGraph (addSavedRoutes graph routes).2 saved := by
  obtain ⟨route, built, found⟩ := inGraph
  refine ⟨route, ?_, addSavedRoutes_keeps found⟩
  rw [addSavedRoutes_endpoints]
  exact built

/-! ## How far a restoration gets -/

/-- The saved routes up to the given one can be built on the endpoints, and
can be in one graph. -/
def Reaches (endpoints : ExtTreeMap EndpointId EndpointDescriptor) (saved : List SavedRoute)
    (one : SavedRoute) : Prop :=
  ∃ before after, saved = before ++ one :: after ∧
    (∀ other ∈ before ++ [one], ∃ route : Route F, buildRoute endpoints other = .ok route) ∧
      Acceptable endpoints (builtRoutes (F := F) endpoints (before ++ [one]))

/-- A route that a restoration has added is one that it got to. -/
theorem addSavedRoutes_reached {graph : RoutingGraph F} {saved : List SavedRoute}
    {one : SavedRoute} (distinct : (saved.map SavedRoute.id).Nodup) (member : one ∈ saved)
    (fresh : ∀ other ∈ saved, ∀ id : RouteId, id.value = other.id → graph.routes[id]? = none)
    (reached : InGraph (addSavedRoutes graph saved).2 one) :
    ∃ before after middle, saved = before ++ one :: after ∧
      addSavedRoutes graph (before ++ [one]) = (.ok (), middle) := by
  induction saved generalizing graph with
  | nil => cases member
  | cons head rest ih =>
      have stopped : ¬ InGraph graph one := by
        rintro ⟨route, built, found⟩
        rw [fresh one member route.id (buildRoute_eq_ok_iff.mp built).1] at found
        cases found
      unfold addSavedRoutes at reached
      split at reached
      · exact absurd reached stopped
      · rename_i route built
        split at reached
        · exact absurd reached stopped
        · rename_i extended added
          have first : ∀ others, addSavedRoutes graph (head :: others) =
              addSavedRoutes extended others := by
            intro others
            simp only [addSavedRoutes, built, added]
          rw [List.map_cons, List.nodup_cons] at distinct
          rcases List.mem_cons.mp member with rfl | later
          · exact ⟨[], rest, extended, rfl, first []⟩
          · obtain ⟨before, after, middle, rfl, restored⟩ := ih distinct.2 later (by
              intro other otherMem id idEq
              obtain ⟨_, _, _, _, rfl⟩ := addRoute_eq_ok_iff.mp added
              rw [ExtTreeMap.getElem?_insert_of_ne]
              · exact fresh other (by simp [otherMem]) id idEq
              · rintro rfl
                rw [(buildRoute_eq_ok_iff.mp built).1] at idEq
                exact distinct.1 (idEq ▸ List.mem_map_of_mem otherMem)) reached
            exact ⟨head :: before, after, middle, rfl, (first _).trans restored⟩

/-- A restoration on a listing adds exactly the routes that it gets to. -/
theorem inGraph_restored_iff {endpoints : ExtTreeMap EndpointId EndpointDescriptor}
    {saved : List SavedRoute} {one : SavedRoute} (distinct : (saved.map SavedRoute.id).Nodup)
    (member : one ∈ saved) :
    InGraph (addSavedRoutes (withoutRoutes (F := F) endpoints) saved).2 one ↔
      Reaches (F := F) endpoints saved one := by
  constructor
  · intro reached
    obtain ⟨before, after, middle, split, restored⟩ :=
      addSavedRoutes_reached distinct member (fun _ _ _ _ => ExtTreeMap.getElem?_empty) reached
    obtain ⟨builds, acceptable, _⟩ := restore_eq_ok_iff.mp restored
    exact ⟨before, after, split, builds, acceptable⟩
  · rintro ⟨before, after, rfl, builds, acceptable⟩
    have restored := restore_eq_ok_iff.mpr ⟨builds, acceptable, rfl⟩
    have inMiddle : InGraph (withRoutes (F := F) endpoints _) one :=
      found_of_restored restored (List.mem_append_right before (List.mem_singleton_self one))
    have whole : before ++ one :: after = (before ++ [one]) ++ after := by simp
    rw [whole, addSavedRoutes_append restored]
    exact inMiddle.restore after

/-! ## The condition -/

/-- The saved routes that a request restores, if its devices are listed. -/
inductive Restores (environment : Environment) (world : World F) : Request → SavedRoutes → Prop where
  | relisted {request : Request} (changes : Relists environment world request) :
      Restores environment world request world.routes
  | disconnected {id : String} (known : world.routes.map[id]? ≠ none) :
      Restores environment world (.disconnect id) (world.routes.remove id)

/-- On the devices that the request lists, the restoration gets to every saved
route that is present as accepted. -/
def KeepsPresent (environment : Environment) (served : Served F) (request : Request) : Prop :=
  ∀ (routes : SavedRoutes) (listed : Listed F), Restores environment served.world request routes →
    listEndpoints environment.attempt.listing = .ok listed →
      ∀ saved ∈ routes.values, PresentAsAccepted served.accepted listed.graph.endpoints saved →
        Reaches (F := F) listed.graph.endpoints routes.values saved

/-- After a relisting, the routes are retained exactly if the restoration got
to all that are present as accepted. -/
theorem retained_relisted_iff {listing : Except CoreAudioError (List AudioDevice)}
    {listed : Listed F} (found : listEndpoints listing = .ok listed) (world : World F)
    (accepted : String → Option RouteShape) :
    Retained ⟨relisted listed world, accepted⟩ ↔
      ∀ saved ∈ world.routes.values, PresentAsAccepted accepted listed.graph.endpoints saved →
        Reaches (F := F) listed.graph.endpoints world.routes.values saved := by
  unfold Retained relisted
  simp only [addSavedRoutes_endpoints]
  refine forall₂_congr fun saved member => imp_congr_right fun _ => ?_
  have graphEq := listEndpoints_graph found
  rw [graphEq]
  exact inGraph_restored_iff world.routes.nodup_ids member

/-! ## Steps -/

/-- One request, in which no save and no start of the router fails. -/
def ServeStep (permits : Environment → Served F → Request → Prop) (before after : Served F) :
    Prop :=
  ∃ environment request result, Quiet environment before.world request ∧
    permits environment before request ∧
      handle environment request before.world = (result, after.world) ∧
        after.accepted = acceptedAfter before request

/-- The routes stay retained when the graph accepts one more and it is saved. -/
theorem Retained.accept {served : Served F} (retained : Retained served) {saved : SavedRoute}
    {route : Route F} {extended graph : RoutingGraph F}
    (built : buildRoute served.world.graph.endpoints saved = .ok route)
    (added : served.world.graph.addRoute route = .ok extended)
    (sameEndpoints : graph.endpoints = extended.endpoints)
    (keeps : ∀ one, InGraph extended one → InGraph graph one) (after : World F)
    (graphEq : after.graph = graph) (routesEq : after.routes = served.world.routes.insert saved) :
    Retained ⟨after, acceptedAfter served saved.request⟩ := by
  intro one member present
  rw [graphEq]
  apply keeps
  have member : (served.world.routes.map.insert saved.id saved)[one.id]? = some one := by
    rw [routesEq, SavedRoutes.mem_values_iff] at member
    exact member
  by_cases same : saved.id = one.id
  · rw [← same, ExtTreeMap.getElem?_insert_self] at member
    obtain rfl := Option.some.inj member
    exact inGraph_added built added
  · rw [ExtTreeMap.getElem?_insert_of_ne same] at member
    refine (retained one (SavedRoutes.mem_values_iff.mpr member) ?_).addRoute added
    obtain ⟨shape, acceptedShape, presentShape⟩ := present
    refine ⟨shape, ?_, ?_⟩
    · have acceptedShape : acceptedAfter served saved.request one.id = some shape := acceptedShape
      rwa [acceptedAfter_of_accepts built added,
        Function.update_of_ne (Ne.symm same)] at acceptedShape
    · rwa [graphEq, sameEndpoints, addRoute_endpoints added] at presentShape

/-- A request that keeps the present routes leaves them retained. -/
theorem Retained.step {environment : Environment} {served : Served F} {request : Request}
    {result : Except DaemonError String} {after : World F} (retained : Retained served)
    (keeps : KeepsPresent environment served request)
    (outcome : QuietOutcome environment served.world request result after) :
    Retained ⟨after, acceptedAfter served request⟩ := by
  have unchanged : (∀ saved : SavedRoute, request ≠ saved.request) →
      acceptedAfter served request = served.accepted :=
    fun other => acceptedAfter_of_rejects fun saved same => absurd same (other saved)
  cases outcome with
  | answered reads =>
      rw [unchanged (by rcases reads with rfl | rfl <;> nofun)]
      exact retained
  | shutdown => exact retained
  | refused keeps rejects =>
      rw [acceptedAfter_of_rejects rejects]
      exact retained
  | unlistedDevices changes unlisted =>
      rw [unchanged (by rintro saved rfl; exact changes)]
      exact retained
  | relisted changes found =>
      rw [unchanged (by rintro saved rfl; exact changes)]
      exact (retained_relisted_iff found _ _).mpr (keeps _ _ (.relisted changes) found)
  | known built added known =>
      exact retained.accept built added (addSavedRoutes_endpoints _ _)
        (fun one inGraph => inGraph.restore _) _ rfl rfl
  | connected built added fresh =>
      exact retained.accept built added rfl (fun one inGraph => inGraph) _ rfl rfl
  | unlisted known unlisted =>
      exact fun saved member => retained saved (ExtTreeMap.mem_of_mem_valuesInOrder_erase member)
  | @unrestored id _ _ listed known found unrestored =>
      exact (retained_relisted_iff found (withoutSaved id served.world) _).mpr
        (keeps _ _ (.disconnected known) found)
  | @disconnected id listed known found restored =>
      exact (retained_relisted_iff found (withoutSaved id served.world) _).mpr
        (keeps _ _ (.disconnected known) found)

/-- Routes that are in the graph when the router is started are played. -/
theorem Retained.allPlayed {served : Served F} (retained : Retained served)
    (wired : Wired served.world)
    (launched : served.world.router =
      (launchRouter none served.world.graph served.world.endpointDevices).2) :
    AllPlayed served := by
  intro saved member present
  obtain ⟨route, built, found⟩ := retained saved member present
  refine ⟨route, built, ?_⟩
  rw [launched]
  exact wired.launch.2 route (ExtTreeMap.mem_valuesInOrder.mpr ⟨route.id, found⟩)

/-! ## Runs -/

/-- A daemon that started has every saved route in its graph. -/
theorem retained_started {phase : Phase} {fresh started : World F}
    (up : bringUp phase fresh = (.ok (), started)) :
    Wired started ∧ Retained ⟨started, acceptedAtStart started⟩ := by
  unfold bringUp at up
  rcases relist_cases up with ⟨_, _, impossible, _⟩ | ⟨listed, found, rest⟩
  · cases impossible
  rcases rest with ⟨_, _, impossible, _⟩ | ⟨restores, rest⟩
  · cases impossible
  obtain ⟨-, rfl⟩ := Prod.mk.inj rest
  have wired := Wired.relisted found fresh
  refine ⟨⟨wired.endpoint_device, wired.route_ends⟩, fun saved member _ => ?_⟩
  have restoration : addSavedRoutes (withoutRoutes listed.graph.endpoints) fresh.routes.values =
      (.ok (), (relisted listed fresh).graph) := by
    rw [← listEndpoints_graph found]
    exact Prod.ext restores rfl
  obtain ⟨route, built, isThere⟩ := found_of_restored restoration member
  refine ⟨route, ?_, isThere⟩
  rw [← addSavedRoutes_endpoints listed.graph fresh.routes.values] at built
  exact built

/-- What holds of a daemon all of whose listings kept the present routes. -/
structure Retaining (served : Served F) : Prop where
  wired : Wired served.world
  retained : Retained served

theorem Retaining.step {before after : Served F} (retaining : Retaining before)
    (taken : ServeStep KeepsPresent before after) : Retaining after := by
  obtain ⟨environment, request, result, quiet, keeps, handled, acceptedEq⟩ := taken
  have outcome := quiet_outcome retaining.wired quiet handled
  refine ⟨retaining.wired.of_quiet outcome, ?_⟩
  have retained := retaining.retained.step keeps outcome
  rw [← acceptedEq] at retained
  exact retained

theorem Retaining.run {before after : Served F} (retaining : Retaining before)
    (run : ReflTransGen (ServeStep KeepsPresent) before after) : Retaining after := by
  induction run with
  | refl => exact retaining
  | tail earlier taken ih => exact ih.step taken

/-- In every run of a daemon that started, in which no save and no start of the
router fails and every listing lets the restoration get to the routes that are
present as accepted, these routes are in the graph after every request, and are
played after every `Connect` and `Disconnect` that succeeds. -/
theorem saved_routes_retained (phase : Phase) (fresh started after : World F)
    (served : Served F) (environment : Environment) (request : Request) (reply : String)
    (up : bringUp phase fresh = (.ok (), started))
    (run : ReflTransGen (ServeStep KeepsPresent) ⟨started, acceptedAtStart started⟩ served)
    (quiet : Quiet environment served.world request)
    (keeps : KeepsPresent environment served request)
    (handled : handle environment request served.world = (.ok reply, after)) :
    Retained ⟨after, acceptedAfter served request⟩ ∧
      ((∃ saved : SavedRoute, request = saved.request) ∨ (∃ id, request = .disconnect id) →
        AllPlayed ⟨after, acceptedAfter served request⟩) := by
  obtain ⟨startWired, startRetained⟩ := retained_started up
  obtain ⟨wired, retained⟩ := Retaining.run ⟨startWired, startRetained⟩ run
  have outcome := quiet_outcome wired quiet handled
  have retainedAfter := retained.step keeps outcome
  have wiredAfter := wired.of_quiet outcome
  refine ⟨retainedAfter, fun starts => ?_⟩
  cases outcome with
  | answered reads =>
      rcases starts with ⟨saved, rfl⟩ | ⟨id, rfl⟩
      · rcases reads with reads | reads <;> cases reads
      · rcases reads with reads | reads <;> cases reads
  | shutdown =>
      rcases starts with ⟨saved, same⟩ | ⟨id, same⟩
      · cases same
      · cases same
  | relisted changes found =>
      rcases starts with ⟨saved, rfl⟩ | ⟨id, rfl⟩
      · exact changes.elim
      · exact changes.elim
  | connected built added fresh => exact retainedAfter.allPlayed wiredAfter rfl
  | disconnected known found restored => exact retainedAfter.allPlayed wiredAfter rfl

def cable : AudioDevice := ⟨4, "dev.vcable.device.cable", "Cable", 2, 2, 48000, true, true⟩

/-- A daemon that was started without saved routes. -/
def freshServed : Served ℚ :=
  ⟨restoredWorld [microphone, speaker] .empty none,
    acceptedAtStart (restoredWorld [microphone, speaker] .empty none)⟩

/-- The same daemon after it has connected the microphone and the speaker. -/
def voiceServed : Served ℚ :=
  ⟨(handle (smoothCalls [microphone, speaker]) voiceRoute.request freshServed.world).2,
    acceptedAfter freshServed voiceRoute.request⟩

theorem voiceServed_values : voiceServed.world.routes.values = [voiceRoute] := by
  decide +kernel

theorem voiceServed_connects : ServeStep KeepsPresent freshServed voiceServed := by
  refine ⟨smoothCalls [microphone, speaker], voiceRoute.request, _, ⟨fun _ => ⟨by decide, rfl⟩, rfl⟩,
    ?_, rfl, rfl⟩
  rintro routes listed restores
  cases restores with
  | relisted changes => exact changes.elim

/-- A cable is created, and the listing that has it still has the ends of the route. -/
theorem voiceServed_keepsPresent :
    KeepsPresent (smoothCalls [microphone, speaker, cable]) voiceServed
      (.createDevice "cable" "Cable" 2 2 48000) := by
  rintro routes listed restores found saved member -
  cases restores
  rw [voiceServed_values] at member ⊢
  obtain rfl := List.mem_singleton.mp member
  obtain rfl : ((listEndpoints (F := ℚ) (.ok [microphone, speaker, cable])).toOption.getD
      Listed.empty) = listed := by
    rw [show listEndpoints (.ok [microphone, speaker, cable]) = .ok listed from found]
    rfl
  have restored : addSavedRoutes (withoutRoutes (F := ℚ) ((listEndpoints (F := ℚ)
      (.ok [microphone, speaker, cable])).toOption.getD Listed.empty).graph.endpoints)
        [voiceRoute] = (.ok (), _) := Prod.ext (by decide +kernel) rfl
  obtain ⟨builds, acceptable, -⟩ := restore_eq_ok_iff.mp restored
  exact ⟨[], [], rfl, builds, acceptable⟩

/-- The route is still there after the cable was created. -/
theorem saved_routes_retained_smoothCalls :
    let created := (handle (smoothCalls [microphone, speaker, cable])
      (.createDevice "cable" "Cable" 2 2 48000) voiceServed.world).2
    Retained ⟨created, voiceServed.accepted⟩ ∧ InGraph created.graph voiceRoute := by
  have retained := (saved_routes_retained (smoothPhase [microphone, speaker])
    (restoredWorld [] .empty none) freshServed.world _ voiceServed
    (smoothCalls [microphone, speaker, cable]) (.createDevice "cable" "Cable" 2 2 48000)
    "created cable" rfl (.single voiceServed_connects) ⟨False.elim, rfl⟩ voiceServed_keepsPresent
    (Prod.ext (by decide +kernel) rfl)).1
  refine ⟨retained, retained voiceRoute ?_ ⟨⟨⟨.source, 1, false⟩, ⟨.sink, 1, false⟩⟩, by rfl, by rfl⟩⟩
  exact SavedRoutes.mem_values_iff.mpr (by rfl)

/-- A device that is unplugged while another one is created. -/
def headset : AudioDevice := ⟨3, "headset", "Headset", 1, 0, 48000, false, false⟩

def headsetRoute : SavedRoute :=
  ⟨"headset", "audio:headset:input", "audio:speaker:output", 0, []⟩

def headsetAndVoice : SavedRoutes :=
  (SavedRoutes.empty.insert headsetRoute).insert voiceRoute

/-- The daemon that has restored both routes. -/
def headsetServed : Served ℚ :=
  let started := (bringUp (smoothPhase [headset, microphone, speaker])
    (restoredWorld [] headsetAndVoice (some headsetAndVoice.content))).2
  ⟨started, acceptedAtStart started⟩

/-- The same daemon after a device was created. -/
def unpluggedServed : Served ℚ :=
  { headsetServed with
    world := (handle (smoothCalls [microphone, speaker, cable])
      (.createDevice "cable" "Cable" 2 2 48000) headsetServed.world).2 }

/-- The device is created, the route of the headset cannot be restored, and
the other route is left out although its devices are still there. -/
theorem saved_routes_not_retained :
    ∃ (fresh started : World ℚ) (served : Served ℚ) (after : World ℚ),
      load [.rootDir, .normal "state"] none ⟨fun _ => some headsetAndVoice.content⟩ = .ok fresh ∧
      bringUp (smoothPhase [headset, microphone, speaker]) fresh = (.ok (), started) ∧
      ReflTransGen (ServeStep fun _ _ _ => True) ⟨started, acceptedAtStart started⟩ served ∧
      Quiet (smoothCalls [microphone, speaker, cable]) served.world .ping ∧
      handle (smoothCalls [microphone, speaker, cable]) .ping served.world =
        (.ok "pong", after) ∧
      ¬ Retained ⟨after, acceptedAfter served .ping⟩ := by
  have loads : load [.rootDir, .normal "state"] none ⟨fun _ => some headsetAndVoice.content⟩ =
      .ok (restoredWorld [] headsetAndVoice (some headsetAndVoice.content)) := by
    simp only [load, loadRoutes_content]
    rfl
  have creates : ServeStep (fun _ _ _ => True) headsetServed unpluggedServed :=
    ⟨smoothCalls [microphone, speaker, cable], .createDevice "cable" "Cable" 2 2 48000, _,
      ⟨False.elim, rfl⟩, trivial, rfl, rfl⟩
  refine ⟨_, headsetServed.world, unpluggedServed, _, loads,
    Prod.ext (by decide +kernel) rfl, .single creates, ⟨False.elim, rfl⟩, rfl, fun retained => ?_⟩
  have voice : voiceRoute ∈ unpluggedServed.world.routes.values :=
    SavedRoutes.mem_values_iff.mpr (by rfl)
  obtain ⟨route, _, found⟩ := retained voiceRoute voice
    ⟨⟨⟨.source, 1, false⟩, ⟨.sink, 1, false⟩⟩, by rfl, by rfl⟩
  have none : unpluggedServed.world.graph.routes = ∅ :=
    ExtTreeMap.isEmpty_iff.mp (by decide +kernel)
  have found : unpluggedServed.world.graph.routes[route.id]? = some route := found
  rw [none, ExtTreeMap.getElem?_empty] at found
  cases found

end VCable
