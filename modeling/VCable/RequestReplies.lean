import VCable.DaemonInvariants
import VCable.ReplySizes

/-!
# Replies to requests

Whatever a request comes to, its reply is small enough to be written, unless
the request has a name that the reply repeats and that is no identifier, or the
status of the daemon is too large.
-/

namespace VCable

open Std Utf8Text FallibleState RoutingGraph Relation

variable {F : Type} [SinglePrecision F]

/-! ## What is reported from outside -/

/-- The error that a failing save comes from. -/
def SaveFault.error : SaveFault → IoError
  | .createDirectory error | .openTemporary error | .writeLines _ error | .sync error
  | .rename error => error

/-- The errors that the calls of a phase report, and the names of the listed
devices, if they make no identifier. -/
inductive Phase.Reports (phase : Phase) : DaemonError → Prop
  | save {fault : SaveFault} (failed : phase.save = some fault) : Reports phase (.io fault.error)
  | listing {error : CoreAudioError} (failed : phase.listing = .error error) :
      Reports phase (.coreAudio error)
  | device {devices : List AudioDevice} {device : AudioDevice} {name : String}
      (listed : phase.listing = .ok devices) (member : device ∈ devices)
      (named : name = device.uid ∨ ∃ direction, name = device.endpointId direction) :
      Reports phase (.graph (.invalidIdentifier name))
  | start {error : CoreAudioError} (failed : phase.start = some error) :
      Reports phase (.coreAudio error)

inductive Environment.Reports (environment : Environment) : DaemonError → Prop
  | create {error : CoreAudioError} (failed : environment.create = some error) :
      Reports environment (.coreAudio error)
  | delete {error : CoreAudioError} (failed : environment.delete = some error) :
      Reports environment (.coreAudio error)
  | attempt {error : DaemonError} (reports : environment.attempt.Reports error) :
      Reports environment error
  | rollback {error : DaemonError} (reports : environment.rollback.Reports error) :
      Reports environment error

/-! ## Bounded daemons -/

structure SavedRoute.Named (saved : SavedRoute) : Prop where
  id : isValidIdentifier saved.id = true
  source : isValidIdentifier saved.source = true
  sink : isValidIdentifier saved.sink = true
  short : saved.matrixMillionths.length < usizeBound

/-- The names that the daemon keeps are bounded. -/
structure Bounded (world : World F) : Prop where
  endpoints : EndpointsBounded world.graph.endpoints
  named : ∀ saved ∈ world.routes.values, saved.Named

theorem length_of_new {outputs inputs : Nat} {coefficients : List F} {matrix : ChannelMatrix F}
    (built : ChannelMatrix.new outputs inputs coefficients = .ok matrix) :
    coefficients.length < usizeBound := by
  unfold ChannelMatrix.new at built
  split at built
  · cases built
  split at built
  · cases built
  rename_i product
  split at built
  · rename_i length
    unfold checkedMul at product
    split_ifs at product with small
    exact length ▸ small
  · cases built

theorem routeMatrix_spec {inputs outputs : Nat} {matrixMillionths : List Int32}
    {matrix : ChannelMatrix F}
    (converts : routeMatrix inputs outputs matrixMillionths = .ok matrix) :
    matrix.inputChannels = inputs ∧ matrix.outputChannels = outputs ∧
      matrixMillionths.length < usizeBound := by
  unfold routeMatrix at converts
  split_ifs at converts with empty same
  · obtain rfl : inputs = outputs := not_not.mp same
    have built := mapError_eq_ok_iff.mp converts
    unfold ChannelMatrix.identity at built
    split_ifs at built
    obtain ⟨outputsEq, inputsEq, _⟩ := ChannelMatrix.new_dimensions built
    exact ⟨inputsEq, outputsEq, by rw [empty]; decide⟩
  · have built := mapError_eq_ok_iff.mp converts
    obtain ⟨outputsEq, inputsEq, _⟩ := ChannelMatrix.new_dimensions built
    have length := length_of_new built
    rw [List.length_map] at length
    exact ⟨inputsEq, outputsEq, length⟩

theorem named_of_built {endpoints : ExtTreeMap EndpointId EndpointDescriptor} {saved : SavedRoute}
    {route : Route F} (built : buildRoute endpoints saved = .ok route) : saved.Named := by
  obtain ⟨idEq, sourceEq, sinkEq, _, _, _, _, _, converts⟩ := buildRoute_eq_ok_iff.mp built
  exact ⟨idEq ▸ route.id.valid, sourceEq ▸ route.source.valid, sinkEq ▸ route.sink.valid,
    (routeMatrix_spec converts).2.2⟩

/-- A built route has a matrix for its endpoints. -/
theorem dimensions_of_built {endpoints : ExtTreeMap EndpointId EndpointDescriptor}
    {saved : SavedRoute} {route : Route F} (bounded : EndpointsBounded endpoints)
    (built : buildRoute endpoints saved = .ok route) :
    route.matrix.inputChannels < usizeBound ∧ route.matrix.outputChannels < usizeBound := by
  obtain ⟨_, _, _, _, source, sink, sourceFound, sinkFound, converts⟩ :=
    buildRoute_eq_ok_iff.mp built
  obtain ⟨inputsEq, outputsEq, _⟩ := routeMatrix_spec converts
  exact ⟨inputsEq ▸ (bounded _ _ sourceFound).2, outputsEq ▸ (bounded _ _ sinkFound).2⟩

/-- Restoring fails with a brief error if the saved routes are named. -/
theorem addSavedRoutes_brief {graph : RoutingGraph F} {saved : List SavedRoute}
    {failure : DaemonError} (bounded : EndpointsBounded graph.endpoints)
    (named : ∀ one ∈ saved, one.Named)
    (failed : (addSavedRoutes graph saved).1 = .error failure) : failure.Brief := by
  induction saved generalizing graph with
  | nil => cases failed
  | cons one rest ih =>
      have first := named one List.mem_cons_self
      unfold addSavedRoutes at failed
      split at failed
      · rename_i unbuilt
        cases failed
        rcases buildRoute_error_cases bounded first.short unbuilt with brief | ⟨name, rejected, _⟩
        · exact brief
        · cases rejected with
          | source invalid => exact absurd first.source (Bool.eq_false_iff.mp invalid)
          | sink _ invalid => exact absurd first.sink (Bool.eq_false_iff.mp invalid)
          | id _ _ _ _ _ invalid => exact absurd first.id (Bool.eq_false_iff.mp invalid)
      · rename_i route built
        split at failed
        · rename_i refused
          cases failed
          obtain ⟨inputs, outputs⟩ := dimensions_of_built bounded built
          exact addRoute_brief bounded inputs outputs refused
        · rename_i extended added
          refine ih ?_ (fun other member => named other (List.mem_cons_of_mem _ member)) failed
          rw [addRoute_endpoints added]
          exact bounded

theorem audioRoute_brief {endpointDevices : ExtTreeMap String AudioDevice} {route : Route F}
    {failure : DaemonError} (failed : audioRoute endpointDevices route = .error failure) :
    failure.Brief := by
  unfold audioRoute at failed
  rcases bind_eq_error_iff.mp failed with missing | ⟨source, _, failed⟩
  · obtain ⟨_, rfl⟩ := okOr_eq_error_iff.mp missing
    exact within_labelled (by decide) route.source.within
  rcases bind_eq_error_iff.mp failed with missing | ⟨sink, _, failed⟩
  · obtain ⟨_, rfl⟩ := okOr_eq_error_iff.mp missing
    exact within_labelled (by decide) route.sink.within
  · cases failed

theorem launchRouter_error {phase : Phase} {graph : RoutingGraph F}
    {endpointDevices : ExtTreeMap String AudioDevice} {failure : DaemonError}
    (failed : (launchRouter phase.start graph endpointDevices).1 = .error failure) :
    failure.Brief ∨ phase.Reports failure := by
  unfold launchRouter at failed
  split at failed
  · rename_i missing
    cases failed
    obtain ⟨_, _, missing⟩ := mapM_eq_error missing
    exact Or.inl (audioRoute_brief missing)
  · cases failed
  · split at failed
    · rename_i error stopped
      cases failed
      exact Or.inr (.start stopped)
    · cases failed

theorem saveRoutes_error {phase : Phase} {world : World F} {failure : DaemonError}
    (failed : (saveRoutes phase.save world).1 = .error failure) :
    failure.Brief ∨ phase.Reports failure := by
  obtain ⟨cause, stuck, rfl⟩ := mapError_eq_error_iff.mp failed
  unfold writeState at stuck
  split at stuck
  · cases stuck
    left
    change TextWithin 1000 "state path has no parent directory"
    decide
  · dsimp only at stuck
    split at stuck
    all_goals
      rename_i fault
      cases stuck
    all_goals exact Or.inr (.save fault)

/-! ## Listings -/

namespace Listed

/-- What adding endpoints keeps and how it fails. -/
structure Adds (devices : List AudioDevice) (listed : Listed F)
    (result : Except DaemonError (Listed F)) : Prop where
  bounded : ∀ next, result = .ok next → EndpointsBounded listed.graph.endpoints →
    EndpointsBounded next.graph.endpoints
  raises : ∀ failure, result = .error failure → failure.Brief ∨
    ∃ device ∈ devices, ∃ name, failure = .graph (.invalidIdentifier name) ∧
      (name = device.uid ∨ ∃ direction, name = device.endpointId direction)

theorem adds_addEndpoint (listed : Listed F) (device : AudioDevice) (clock : ClockDomain)
    (direction : EndpointDirection) :
    Adds [device] listed (listed.addEndpoint device clock direction) := by
  have named : ∀ name, (name = device.uid ∨ ∃ direction, name = device.endpointId direction) →
      ∃ other ∈ [device], ∃ rejected,
        DaemonError.graph (.invalidIdentifier name) = .graph (.invalidIdentifier rejected) ∧
          (rejected = other.uid ∨ ∃ direction, rejected = other.endpointId direction) :=
    fun name which => ⟨device, List.mem_singleton_self device, name, rfl, which⟩
  unfold Listed.addEndpoint
  split
  · refine ⟨?_, nofun⟩
    rintro next ⟨⟩ bounded
    exact bounded
  split
  · rename_i refused
    obtain ⟨_, rfl⟩ := StringId.new_eq_error_iff.mp refused
    refine ⟨nofun, ?_⟩
    rintro failure ⟨⟩
    exact Or.inr (named _ (Or.inr ⟨direction, rfl⟩))
  rename_i id idNew
  split
  · rename_i refused
    refine ⟨nofun, ?_⟩
    rintro failure ⟨⟩
    unfold RoutingGraph.addEndpoint at refused
    split_ifs at refused <;> cases refused
    · left
      change TextWithin 1000 "endpoint channel count must be greater than zero"
      decide
    · left
      have rate : TextWithin 255 (toString device.sampleRate.toNat) :=
        (toString_within (device.sampleRate.toNat_lt.trans (by decide))).mono (by decide)
      exact within_labelled (by decide) rate
    · exact Or.inr (named _ (Or.inl rfl))
    · exact Or.inl (within_labelled (by decide) id.within)
  · rename_i graph added
    refine ⟨?_, nofun⟩
    rintro next ⟨⟩ bounded
    obtain ⟨_, _, node, _, rfl⟩ := addEndpoint_eq_ok_iff.mp added
    intro key endpoint found
    by_cases same : id = key
    · subst same
      rw [ExtTreeMap.getElem?_insert_self] at found
      cases found
      exact ⟨Nat.not_lt.mp fun long => node (Or.inr long),
        (UInt32.toNat_lt _).trans (by decide)⟩
    · rw [ExtTreeMap.getElem?_insert_of_ne same] at found
      exact bounded key endpoint found

theorem adds_addDevice (listed : Listed F) (device : AudioDevice) :
    Adds [device] listed (listed.addDevice device) := by
  unfold Listed.addDevice
  split
  · rename_i refused
    refine ⟨by rintro next ⟨⟩, ?_⟩
    rintro failure ⟨⟩
    unfold ClockDomain.new at refused
    split at refused
    · cases refused
      left
      have number : TextWithin 155 (toString device.objectId.toNat) :=
        (toString_within (device.objectId.toNat_lt.trans (by decide))).mono (by decide)
      have prefixed : TextWithin 100 "coreaudio:" := by decide
      exact within_labelled (by decide) (prefixed.append number)
    · cases refused
  rename_i clock _
  have first := adds_addEndpoint listed device clock .source
  split
  · rename_i failed
    refine ⟨by rintro next ⟨⟩, fun failure same => first.raises failure ?_⟩
    rw [failed]
    exact same
  · rename_i half added
    have second := adds_addEndpoint half device clock .sink
    exact ⟨fun next same bounded => second.bounded next same (first.bounded half added bounded),
      second.raises⟩

theorem adds_addDevices (listed : Listed F) (devices : List AudioDevice) :
    Adds devices listed (listed.addDevices devices) := by
  induction devices generalizing listed with
  | nil =>
      refine ⟨?_, nofun⟩
      rintro next ⟨⟩ bounded
      exact bounded
  | cons device devices ih =>
      unfold Listed.addDevices
      have first := adds_addDevice listed device
      split
      · rename_i failed
        refine ⟨nofun, fun failure same => ?_⟩
        refine (first.raises failure (by rw [failed]; exact same)).imp_right ?_
        rintro ⟨other, member, named⟩
        rw [List.mem_singleton] at member
        exact ⟨other, List.mem_cons.mpr (Or.inl member), named⟩
      · rename_i extended added
        have later := ih extended
        refine ⟨fun next same bounded => later.bounded next same
          (first.bounded extended added bounded), fun failure same => ?_⟩
        refine (later.raises failure same).imp_right ?_
        rintro ⟨other, member, named⟩
        exact ⟨other, List.mem_cons_of_mem _ member, named⟩

end Listed

theorem listEndpoints_error {phase : Phase} {failure : DaemonError}
    (failed : listEndpoints (F := F) phase.listing = .error failure) :
    failure.Brief ∨ phase.Reports failure := by
  unfold listEndpoints at failed
  split at failed
  · rename_i error unlisted
    cases failed
    exact Or.inr (.listing unlisted)
  · rename_i devices listed
    rcases (Listed.adds_addDevices Listed.empty devices).raises failure failed with
      brief | ⟨device, member, name, rfl, named⟩
    · exact Or.inl brief
    · exact Or.inr (.device listed member named)

theorem listEndpoints_bounded {listing : Except CoreAudioError (List AudioDevice)}
    {listed : Listed F} (found : listEndpoints listing = .ok listed) :
    EndpointsBounded listed.graph.endpoints := by
  cases listing with
  | error failure => cases found
  | ok devices =>
      refine (Listed.adds_addDevices Listed.empty devices).bounded listed found ?_
      intro id endpoint there
      simp [Listed.empty, RoutingGraph.empty] at there

/-! ## The methods -/

section Methods

variable {raises : DaemonError → Prop} {phase : Phase} {environment : Environment}

theorem meets_refreshEndpoints (brief : ∀ error : DaemonError, error.Brief → raises error)
    (reports : ∀ error, phase.Reports error → raises error) :
    Meets Bounded (fun _ => True) raises (refreshEndpoints phase.listing : Daemon F Unit) := by
  intro world bounded
  unfold refreshEndpoints
  split
  · rename_i failed
    exact ⟨bounded, (listEndpoints_error failed).elim (brief _) (reports _)⟩
  · rename_i found
    exact ⟨⟨listEndpoints_bounded found, bounded.named⟩, trivial⟩

theorem meets_restoreRoutes (brief : ∀ error : DaemonError, error.Brief → raises error) :
    Meets Bounded (fun _ => True) raises (restoreRoutes : Daemon F Unit) := by
  intro world bounded
  refine ⟨⟨?_, bounded.named⟩, ?_⟩
  · change EndpointsBounded (addSavedRoutes world.graph world.routes.values).2.endpoints
    rw [addSavedRoutes_endpoints]
    exact bounded.endpoints
  · change Yields _ _ (addSavedRoutes world.graph world.routes.values).1
    cases result : (addSavedRoutes world.graph world.routes.values).1 with
    | ok _ => trivial
    | error failure => exact brief _ (addSavedRoutes_brief bounded.endpoints bounded.named result)

theorem meets_addRoute {route : Route F} (brief : ∀ error : DaemonError, error.Brief → raises error)
    (inputs : route.matrix.inputChannels < usizeBound)
    (outputs : route.matrix.outputChannels < usizeBound) :
    Meets Bounded (fun _ => True) raises (addRoute route : Daemon F Unit) := by
  intro world bounded
  unfold addRoute
  split
  · rename_i refused
    exact ⟨bounded, brief _ (addRoute_brief bounded.endpoints inputs outputs refused)⟩
  · rename_i extended added
    refine ⟨⟨?_, bounded.named⟩, trivial⟩
    change EndpointsBounded extended.endpoints
    rw [addRoute_endpoints added]
    exact bounded.endpoints

theorem meets_saveRoutes (brief : ∀ error : DaemonError, error.Brief → raises error)
    (reports : ∀ error, phase.Reports error → raises error) :
    Meets Bounded (fun _ => True) raises (saveRoutes phase.save : Daemon F Unit) := by
  intro world bounded
  refine ⟨⟨bounded.endpoints, bounded.named⟩, ?_⟩
  cases result : (saveRoutes phase.save world).1 with
  | ok _ => trivial
  | error failure => exact (saveRoutes_error result).elim (brief _) (reports _)

theorem meets_restartRouter (brief : ∀ error : DaemonError, error.Brief → raises error)
    (reports : ∀ error, phase.Reports error → raises error) :
    Meets Bounded (fun _ => True) raises (restartRouter phase.start : Daemon F Unit) := by
  intro world bounded
  refine ⟨⟨bounded.endpoints, bounded.named⟩, ?_⟩
  cases result : (restartRouter phase.start world).1 with
  | ok _ => trivial
  | error failure => exact (launchRouter_error result).elim (brief _) (reports _)

theorem meets_insertRoute {saved : SavedRoute} (named : saved.Named) :
    Meets Bounded (fun _ => True) raises (insertRoute saved : Daemon F Bool) := by
  intro world bounded
  refine ⟨⟨bounded.endpoints, fun one member => ?_⟩, trivial⟩
  have found : (world.routes.insert saved).map[one.id]? = some one :=
    SavedRoutes.mem_values_iff.mp member
  by_cases same : saved.id = one.id
  · have inserted : (world.routes.insert saved).map[one.id]? = some saved := by
      rw [← same]
      exact ExtTreeMap.getElem?_insert_self
    rw [inserted] at found
    cases found
    exact named
  · have kept : (world.routes.insert saved).map[one.id]? = world.routes.map[one.id]? :=
      ExtTreeMap.getElem?_insert_of_ne same
    rw [kept] at found
    exact bounded.named one (SavedRoutes.mem_values_iff.mpr found)

theorem meets_removeRoute (id : String) :
    Meets Bounded (fun previous => ∀ saved, previous = some saved → saved.Named) raises
      (removeRoute id : Daemon F (Option SavedRoute)) := by
  intro world bounded
  refine ⟨⟨bounded.endpoints, fun one member => ?_⟩, fun saved found => ?_⟩
  · have found : (world.routes.map.erase id)[one.id]? = some one :=
      SavedRoutes.mem_values_iff.mp member
    refine bounded.named one (SavedRoutes.mem_values_iff.mpr ?_)
    by_cases same : id = one.id
    · rw [same, ExtTreeMap.getElem?_erase_self] at found
      cases found
    · rwa [ExtTreeMap.getElem?_erase_of_ne same] at found
  · have sameId : saved.id = id := world.routes.keyed _ _ found
    exact bounded.named saved (SavedRoutes.mem_values_iff.mpr (sameId ▸ found))

/-- The calls that both rollbacks end with. -/
theorem meets_recover {failure : DaemonError}
    (brief : ∀ error : DaemonError, error.Brief → raises error)
    (reports : ∀ error, phase.Reports error → raises error) (raised : raises failure) :
    Meets Bounded (fun _ => True) raises (recover phase failure : Daemon F Unit) :=
  (meets_saveRoutes brief reports).before fun _ =>
    (meets_refreshEndpoints brief reports).before fun _ =>
      (meets_restoreRoutes brief).before fun _ =>
        (meets_restartRouter brief reports).before fun _ => meets_fail raised

/-! ## The requests -/

theorem isValidDeviceId_within {id : String} (valid : isValidDeviceId id = true) :
    TextWithin 255 id := by
  simp only [isValidDeviceId, Bool.not_eq_true', Bool.or_eq_false_iff, decide_eq_false_iff_not]
    at valid
  have within : TextWithin 128 id := Nat.not_lt.mp valid.1.2
  exact within.mono (by decide)

theorem meets_validateDeviceId {id : String}
    (invalid : isValidDeviceId id = false → raises (.invalidDeviceId id)) :
    Meets Bounded (fun _ => isValidDeviceId id = true) raises
      (inspect fun _ => validateDeviceId id : Daemon F Unit) := by
  refine meets_inspect fun world _ => ?_
  unfold validateDeviceId
  split
  · assumption
  · rename_i refused
    exact invalid (Bool.eq_false_iff.mpr refused)

theorem meets_coreAudioCall {failure : Option CoreAudioError}
    (reports : ∀ error, failure = some error → raises (.coreAudio error)) :
    Meets Bounded (fun _ => True) raises
      (inspect fun _ => coreAudioCall failure : Daemon F Unit) := by
  refine meets_inspect fun world _ => ?_
  cases failure with
  | none => trivial
  | some error => exact reports error rfl

/-- The calls that list the devices again and restore the routes. -/
theorem meets_relist {message : String} (brief : ∀ error : DaemonError, error.Brief → raises error)
    (reports : ∀ error, phase.Reports error → raises error) (short : TextWithin 1000 message) :
    Meets Bounded (TextWithin 1000) raises
      (do refreshEndpoints phase.listing; restoreRoutes; return message : Daemon F String) :=
  (meets_refreshEndpoints brief reports).before fun _ =>
    (meets_restoreRoutes brief).before fun _ => meets_pure short

theorem meets_createDevice {id : String}
    (brief : ∀ error : DaemonError, error.Brief → raises error)
    (reports : ∀ error, environment.Reports error → raises error)
    (invalid : isValidDeviceId id = false → raises (.invalidDeviceId id)) :
    Meets Bounded (TextWithin 1000) raises (createDevice environment id : Daemon F String) :=
  (meets_validateDeviceId invalid).bind fun _ valid =>
    (meets_coreAudioCall fun _ failed => reports _ (.create failed)).before fun _ =>
      meets_relist brief (fun _ reported => reports _ (.attempt reported))
        (within_labelled (by decide) (isValidDeviceId_within valid))

theorem meets_deleteDevice {id : String}
    (brief : ∀ error : DaemonError, error.Brief → raises error)
    (reports : ∀ error, environment.Reports error → raises error)
    (invalid : isValidDeviceId id = false → raises (.invalidDeviceId id)) :
    Meets Bounded (TextWithin 1000) raises (deleteDevice environment id : Daemon F String) := by
  refine (meets_validateDeviceId invalid).bind fun _ valid => ?_
  have within := isValidDeviceId_within valid
  refine Meets.before (meets_inspect fun world _ => ?_) fun _ => ?_
  · split
    · exact brief _ (within_labelled (by decide) within)
    · trivial
  · exact (meets_coreAudioCall fun _ failed => reports _ (.delete failed)).before fun _ =>
      meets_relist brief (fun _ reported => reports _ (.attempt reported))
        (within_labelled (by decide) within)

/-- The part of `Connect` after the route was built. -/
theorem meets_connect_built {route : Route F} {saved : SavedRoute}
    (brief : ∀ error : DaemonError, error.Brief → raises error)
    (reports : ∀ error, environment.Reports error → raises error) (named : saved.Named)
    (inputs : route.matrix.inputChannels < usizeBound)
    (outputs : route.matrix.outputChannels < usizeBound) :
    Meets Bounded (TextWithin 1000) raises (do
      addRoute route
      if ← insertRoute saved then
        restoreRoutes
        fail (.routeExists saved.id)
      else
        commitConnect environment saved.id : Daemon F String) := by
  have within := isValidIdentifier_within named.id
  refine (meets_addRoute brief inputs outputs).before fun _ =>
    (meets_insertRoute named).before fun known => ?_
  split
  · exact (meets_restoreRoutes brief).before fun _ =>
      meets_fail (brief _ (within_labelled (by decide) within))
  refine Meets.before ?_ fun _ =>
    Meets.before ?_ fun _ =>
      meets_pure (within_labelled (by decide) within)
  · refine (meets_saveRoutes brief fun _ reported => reports _ (.attempt reported)).onError ?_
    exact fun failure raised => (meets_removeRoute _).bind fun _ _ =>
      (meets_restoreRoutes brief).before fun _ => meets_fail raised
  · refine (meets_restartRouter brief fun _ reported => reports _ (.attempt reported)).onError ?_
    exact fun failure raised => (meets_removeRoute _).bind fun _ _ =>
      meets_recover brief (fun _ reported => reports _ (.rollback reported)) raised

theorem meets_commitDisconnect {previous : SavedRoute}
    (brief : ∀ error : DaemonError, error.Brief → raises error)
    (reports : ∀ error, environment.Reports error → raises error) (named : previous.Named) :
    Meets Bounded (TextWithin 1000) raises
      (commitDisconnect environment previous : Daemon F String) := by
  have within := isValidIdentifier_within named.id
  refine Meets.before ?_ fun _ =>
    (meets_refreshEndpoints brief fun _ reported => reports _ (.attempt reported)).before fun _ =>
      (meets_restoreRoutes brief).before fun _ =>
        Meets.before ?_ fun _ =>
          meets_pure (within_labelled (by decide) within)
  · refine (meets_saveRoutes brief fun _ reported => reports _ (.attempt reported)).onError ?_
    exact fun failure raised => (meets_insertRoute named).before fun _ => meets_fail raised
  · refine (meets_restartRouter brief fun _ reported => reports _ (.attempt reported)).onError ?_
    exact fun failure raised => (meets_insertRoute named).before fun _ =>
      meets_recover brief (fun _ reported => reports _ (.rollback reported)) raised

theorem connect_yields {world : World F} {saved : SavedRoute} (bounded : Bounded world)
    (brief : ∀ error : DaemonError, error.Brief → raises error)
    (reports : ∀ error, environment.Reports error → raises error)
    (unbuilt : ∀ failure,
      buildRoute (F := F) world.graph.endpoints saved = .error failure → raises failure) :
    Bounded (connect environment saved world).2 ∧
      Yields (TextWithin 1000) raises (connect environment saved world).1 := by
  have builds : (inspect fun world => buildRoute world.graph.endpoints saved : Daemon F (Route F))
      world = (buildRoute world.graph.endpoints saved, world) := rfl
  cases built : buildRoute (F := F) world.graph.endpoints saved with
  | error failure =>
      rw [built] at builds
      rw [connect, bind_apply_error builds]
      exact ⟨bounded, unbuilt failure built⟩
  | ok route =>
      rw [built] at builds
      rw [connect, bind_apply_ok builds]
      obtain ⟨inputs, outputs⟩ := dimensions_of_built bounded.endpoints built
      exact meets_connect_built brief reports (named_of_built built) inputs outputs world bounded

theorem disconnect_yields {world : World F} {id : String} (bounded : Bounded world)
    (brief : ∀ error : DaemonError, error.Brief → raises error)
    (reports : ∀ error, environment.Reports error → raises error)
    (unknown : world.routes.map[id]? = none → raises (.routeNotFound id)) :
    Bounded (disconnect environment id world).2 ∧
      Yields (TextWithin 1000) raises (disconnect environment id world).1 := by
  obtain ⟨removed, named⟩ := @meets_removeRoute F _ raises id world bounded
  rw [disconnect, bind_apply_ok (removeRoute_apply id world)]
  cases known : world.routes.map[id]? with
  | none => exact ⟨removed, unknown known⟩
  | some previous =>
      exact meets_commitDisconnect brief reports (named previous known) _ removed

/-- The errors that a request leads to before anything else is done. -/
def Permits (raises : DaemonError → Prop) (world : World F) : Request → Prop
  | .ping | .status | .shutdown => True
  | .createDevice id _ _ _ _ | .deleteDevice id =>
      isValidDeviceId id = false → raises (.invalidDeviceId id)
  | .connect id source sink gainMillidb matrixMillionths =>
      ∀ failure, buildRoute (F := F) world.graph.endpoints
        ⟨id, source, sink, gainMillidb, matrixMillionths⟩ = .error failure → raises failure
  | .disconnect id => world.routes.map[id]? = none → raises (.routeNotFound id)

theorem permits_all (world : World F) (request : Request) :
    Permits (fun _ => True) world request := by
  cases request <;> simp [Permits]

/-- What a request can come to: every message but the status is short. -/
theorem handle_yields {world : World F} {request : Request} (bounded : Bounded world)
    (brief : ∀ error : DaemonError, error.Brief → raises error)
    (reports : ∀ error, environment.Reports error → raises error)
    (permits : Permits raises world request) :
    Bounded (handle environment request world).2 ∧
      (request ≠ .status →
        Yields (TextWithin 1000) raises (handle environment request world).1) := by
  have all : Meets Bounded (TextWithin 1000) raises (handle environment request : Daemon F String) →
      Bounded (handle environment request world).2 ∧ (request ≠ .status →
        Yields (TextWithin 1000) raises (handle environment request world).1) :=
    fun meets => (meets world bounded).imp_right fun yields _ => yields
  cases request with
  | ping => exact all (meets_pure (by decide))
  | status => exact ⟨bounded, fun other => absurd rfl other⟩
  | shutdown =>
      have short : TextWithin 1000 "shutting down" := by decide
      exact ⟨⟨bounded.endpoints, bounded.named⟩, fun _ => short⟩
  | createDevice id name inputChannels outputChannels sampleRate =>
      exact all (meets_createDevice brief reports permits)
  | deleteDevice id => exact all (meets_deleteDevice brief reports permits)
  | connect id source sink gainMillidb matrixMillionths =>
      exact (connect_yields bounded brief reports permits).imp_right fun yields _ => yields
  | disconnect id =>
      exact (disconnect_yields bounded brief reports permits).imp_right fun yields _ => yields

end Methods

/-! ## Runs -/

theorem Bounded.run {started world : World F} (bounded : Bounded started)
    (run : ReflTransGen HandleStep started world) : Bounded world := by
  induction run with
  | refl => exact bounded
  | @tail before _ _ taken ih =>
      obtain ⟨environment, request, result, handled⟩ := taken
      have kept : Bounded (handle environment request before).2 :=
        (handle_yields ih (fun _ _ => trivial) (fun _ _ => trivial) (permits_all _ _)).1
      rw [handled] at kept
      exact kept

/-- A daemon comes up only with saved routes whose names are identifiers. -/
theorem Bounded.started {loaded started : World F} {phase : Phase}
    (starts : bringUp phase loaded = (.ok (), started)) : Bounded started := by
  rcases relist_cases starts with ⟨_, _, impossible, _⟩ | ⟨listed, found, rest⟩
  · cases impossible
  rcases rest with ⟨_, _, impossible, _⟩ | ⟨restored, rest⟩
  · cases impossible
  have restore : addSavedRoutes listed.graph loaded.routes.values =
      (.ok (), (addSavedRoutes listed.graph loaded.routes.values).2) := Prod.ext restored rfl
  have after : started.graph = (addSavedRoutes listed.graph loaded.routes.values).2 ∧
      started.routes = loaded.routes := by
    obtain ⟨_, rfl⟩ := Prod.mk.inj rest
    exact ⟨rfl, rfl⟩
  refine ⟨?_, ?_⟩
  · rw [after.1, addSavedRoutes_endpoints]
    exact listEndpoints_bounded found
  · rw [after.2]
    intro saved member
    obtain ⟨route, built⟩ := (addSavedRoutes_eq_ok_iff.mp restore).1 saved member
    exact named_of_built built

/-! ## Replies -/

/-- What the system reports to a request has texts of at most 256 KiB. -/
def Environment.Terse (environment : Environment) : Prop :=
  ∀ error, environment.Reports error → TextWithin (2 ^ 18) error.text

/-- The reply to the request can be written: the status is not too large, and
neither is a name that is no identifier and that the reply repeats. -/
def CanBeAnswered (metrics : RouterMetrics) (world : World F) : Request → Prop
  | .ping | .shutdown => True
  | .status => statusSize metrics world ≤ maxMessageBytes
  | .createDevice id _ _ _ _ | .deleteDevice id =>
      isValidDeviceId id = false → 43 + escapedSize id ≤ maxMessageBytes
  | .connect id source sink gainMillidb matrixMillionths =>
      ∀ name, RejectedName F world.graph.endpoints
        ⟨id, source, sink, gainMillidb, matrixMillionths⟩ name →
          40 + escapedSize name ≤ maxMessageBytes
  | .disconnect id =>
      world.routes.map[id]? = none → 39 + escapedSize id ≤ maxMessageBytes

theorem fits_of_within {error : DaemonError} (within : TextWithin (2 ^ 18) error.text) :
    Fits (respond (.error error : Except DaemonError String)) := by
  have code : TextWithin 100 error.code := by
    cases error <;> simp only [DaemonError.code] <;> decide
  have escapedCode := escapedSize_le error.code
  have escapedText := escapedSize_le error.text
  rw [respond, fits_error_iff]
  unfold TextWithin at within code
  unfold maxMessageBytes
  omega

/-- An error that repeats a name. -/
theorem fits_labelled_iff {code label name : String} :
    Fits (Response.error code (label ++ name)) ↔
      7 + escapedSize code + escapedSize label + escapedSize name ≤ maxMessageBytes := by
  rw [fits_error_iff, escapedSize_append, ← Nat.add_assoc]

theorem fits_invalidDeviceId_iff {id : String} :
    Fits (respond (.error (.invalidDeviceId id) : Except DaemonError String)) ↔
      43 + escapedSize id ≤ maxMessageBytes := by
  have code : escapedSize "invalid_device_id" = 17 := by decide
  have label : escapedSize "invalid device id: " = 19 := by decide
  refine fits_labelled_iff.trans ?_
  change 7 + escapedSize "invalid_device_id" + _ + _ ≤ _ ↔ _
  rw [code, label]

theorem fits_invalidIdentifier_iff {name : String} :
    Fits (respond (.error (.graph (.invalidIdentifier name)) : Except DaemonError String)) ↔
      40 + escapedSize name ≤ maxMessageBytes := by
  have code : escapedSize "invalid_graph" = 13 := by decide
  have label : escapedSize "invalid identifier: " = 20 := by decide
  refine fits_labelled_iff.trans ?_
  change 7 + escapedSize "invalid_graph" + _ + _ ≤ _ ↔ _
  rw [code, label]

theorem length_routeNotFound (id : String) :
    (bytes (Message.encode (respond (.error (.routeNotFound id) :
      Except DaemonError String)))).length = 39 + escapedSize id := by
  have code : escapedSize "route_not_found" = 15 := by decide
  have label : escapedSize "route not found: " = 17 := by decide
  refine (length_error _ _).trans ?_
  change 7 + escapedSize "route_not_found" + escapedSize ("route not found: " ++ id) = _
  rw [escapedSize_append, code, label, ← Nat.add_assoc]

theorem fits_routeNotFound_iff {id : String} :
    Fits (respond (.error (.routeNotFound id) : Except DaemonError String)) ↔
      39 + escapedSize id ≤ maxMessageBytes := by
  rw [Fits, length_routeNotFound]

/-- Joined texts that are not empty have a byte for each of them. -/
theorem length_le_intercalate {separator : String} {texts : List String}
    (nonempty : ∀ text ∈ texts, 1 ≤ text.utf8ByteSize) :
    texts.length ≤ (separator.intercalate texts).utf8ByteSize := by
  induction texts with
  | nil => exact Nat.zero_le _
  | cons text texts ih =>
      have first := nonempty text List.mem_cons_self
      have later := ih fun other member => nonempty other (List.mem_cons_of_mem _ member)
      cases texts with
      | nil => simpa using first
      | cons next texts =>
          rw [String.intercalate_cons_cons, String.utf8ByteSize_append, String.utf8ByteSize_append,
            List.length_cons]
          omega

/-- A request that can be read has no more coefficients than bytes. -/
theorem length_matrix_of_fits {id source sink : String} {gainMillidb : Int32}
    {matrixMillionths : List Int32}
    (readable : Fits (Request.connect id source sink gainMillidb matrixMillionths)) :
    matrixMillionths.length < usizeBound := by
  have coefficients : matrixMillionths.length ≤
      (Request.encodeMatrix matrixMillionths).utf8ByteSize := by
    have count := @length_le_intercalate ","
      (matrixMillionths.map fun value => toString value.toInt) fun text member => ?_
    · rwa [List.length_map] at count
    · obtain ⟨value, _, rfl⟩ := List.mem_map.mp member
      refine Nat.one_le_iff_ne_zero.mpr fun zero => IntegerText.toString_ne_nil value.toInt ?_
      rw [String.utf8ByteSize_eq_zero_iff.mp zero]
      rfl
  have encoded : Message.encode (Request.connect id source sink gainMillidb matrixMillionths) =
      "connect\t" ++ escape id ++ "\t" ++ escape source ++ "\t" ++ escape sink ++ "\t" ++
        toString gainMillidb.toInt ++ "\t" ++ Request.encodeMatrix matrixMillionths := by
    simp [Message.encode, Request.encode, String.append_assoc]
  rw [Fits, encoded, length_bytes, String.utf8ByteSize_append] at readable
  unfold maxMessageBytes at readable
  unfold usizeBound
  omega

/-- A reply fits if the errors do that the request leads to at once. -/
theorem fits_of_permits {world : World F} {environment : Environment} {request : Request}
    (bounded : Bounded world) (terse : environment.Terse) (other : request ≠ .status)
    (permits : Permits (fun error => Fits (respond (.error error : Except DaemonError String)))
      world request) :
    Fits (respond (handle environment request world).1) := by
  have yields := (handle_yields bounded
    (fun error brief => fits_of_within (TextWithin.mono brief (by decide)))
    (fun error reported => fits_of_within (terse error reported)) permits).2 other
  cases result : (handle environment request world).1 with
  | error failure =>
      rw [result] at yields
      exact yields
  | ok message =>
      rw [result] at yields
      have short : TextWithin 1000 message := yields
      have escaped := escapedSize_le message
      rw [respond, fits_ok_iff]
      unfold TextWithin at short
      unfold maxMessageBytes
      omega

/-- After any run, the reply to a request that can be read can be written if and
only if neither the status nor a name that the reply repeats is too large. -/
theorem reply_fits_iff {loaded started world : World F} {phase : Phase} {environment : Environment}
    {request : Request} (starts : bringUp phase loaded = (.ok (), started))
    (run : ReflTransGen HandleStep started world) (terse : environment.Terse)
    (readable : Fits request) :
    Fits (respond (handle environment request world).1) ↔
      CanBeAnswered environment.metrics world request := by
  have bounded := (Bounded.started starts).run run
  cases request with
  | ping => exact iff_of_true (show Fits (Response.ok "pong") by decide) trivial
  | shutdown => exact iff_of_true (show Fits (Response.ok "shutting down") by decide) trivial
  | status => exact fits_status_iff
  | createDevice id name inputChannels outputChannels sampleRate =>
      constructor
      · intro fits invalid
        rw [handle, createDevice, bind_apply_error (validateDeviceId_of_invalid invalid world)] at fits
        exact fits_invalidDeviceId_iff.mp fits
      · intro small
        exact fits_of_permits bounded terse nofun fun invalid =>
          fits_invalidDeviceId_iff.mpr (small invalid)
  | deleteDevice id =>
      constructor
      · intro fits invalid
        rw [handle, deleteDevice, bind_apply_error (validateDeviceId_of_invalid invalid world)] at fits
        exact fits_invalidDeviceId_iff.mp fits
      · intro small
        exact fits_of_permits bounded terse nofun fun invalid =>
          fits_invalidDeviceId_iff.mpr (small invalid)
  | connect id source sink gainMillidb matrixMillionths =>
      constructor
      · intro fits name rejected
        have stops : (inspect fun world => buildRoute world.graph.endpoints
            ⟨id, source, sink, gainMillidb, matrixMillionths⟩ : Daemon F (Route F)) world =
              (.error (.graph (.invalidIdentifier name)), world) :=
          Prod.ext (buildRoute_of_rejected rejected) rfl
        rw [handle, connect, bind_apply_error stops] at fits
        exact fits_invalidIdentifier_iff.mp fits
      · intro small
        refine fits_of_permits bounded terse nofun fun failure unbuilt => ?_
        have short : (SavedRoute.mk id source sink gainMillidb
            matrixMillionths).matrixMillionths.length < usizeBound :=
          length_matrix_of_fits readable
        rcases buildRoute_error_cases bounded.endpoints short unbuilt with
          brief | ⟨name, rejected, rfl⟩
        · exact fits_of_within (TextWithin.mono brief (by decide))
        · exact fits_invalidIdentifier_iff.mpr (small name rejected)
  | disconnect id =>
      constructor
      · intro fits unknown
        have result : (handle environment (.disconnect id) world).1 =
            .error (.routeNotFound id) := by
          rw [handle, disconnect, bind_apply_ok (removeRoute_apply id world), unknown]
          rfl
        rw [result] at fits
        exact fits_routeNotFound_iff.mp fits
      · intro small
        exact fits_of_permits bounded terse nofun fun unknown =>
          fits_routeNotFound_iff.mpr (small unknown)

/-- A daemon that was started without routes. -/
def idleWorld : World ℚ :=
  (bringUp (smoothPhase [microphone, speaker]) (restoredWorld [] .empty none)).2

theorem idleWorld_starts :
    bringUp (smoothPhase [microphone, speaker]) (restoredWorld [] .empty none) =
      (.ok (), idleWorld) :=
  Prod.ext (by decide +kernel) rfl

theorem smoothCalls_terse : (smoothCalls [microphone, speaker]).Terse := by
  have phase : ∀ error, (smoothPhase [microphone, speaker]).Reports error →
      TextWithin (2 ^ 18) error.text := by
    intro error reported
    cases reported with
    | save failed => cases failed
    | listing failed => cases failed
    | start failed => cases failed
    | @device devices device name listed member named =>
        obtain rfl : [microphone, speaker] = devices := Except.ok.inj listed
        have within : TextWithin 255 name := by
          rcases List.mem_cons.mp member with rfl | last
          · rcases named with rfl | ⟨direction, rfl⟩
            · decide
            · cases direction <;> decide
          · obtain rfl := List.mem_singleton.mp last
            rcases named with rfl | ⟨direction, rfl⟩
            · decide
            · cases direction <;> decide
        exact TextWithin.mono (within_labelled (by decide) within) (by decide)
  intro error reported
  cases reported with
  | create failed => cases failed
  | delete failed => cases failed
  | attempt reported => exact phase error reported
  | rollback reported => exact phase error reported

theorem reply_fits_iff_idle :
    Fits (respond (handle (smoothCalls [microphone, speaker]) (.disconnect "voice") idleWorld).1) ↔
      CanBeAnswered ⟨0, 0, 0⟩ idleWorld (.disconnect "voice") :=
  reply_fits_iff idleWorld_starts .refl smoothCalls_terse (by decide)

/-- A name that is kept as it is by `escape`. -/
def longName (length : Nat) : String :=
  String.ofList (List.replicate length 'a')

theorem escapedSize_longName (length : Nat) : escapedSize (longName length) = length := by
  have ascii : ∀ character ∈ List.replicate length 'a', IsAscii character := by
    intro character member
    rw [List.eq_of_mem_replicate member]
    decide
  rw [escapedSize, bytes_escape, longName, bytes_ofList_of_ascii ascii, List.map_replicate,
    List.length_flatMap, List.map_replicate, List.sum_replicate]
  have one : (escapedBytes 'a'.val.toUInt8).length = 1 := by decide
  rw [one]
  exact Nat.mul_one length

theorem disconnect_longName (length : Nat) :
    (handle (smoothCalls [microphone, speaker]) (.disconnect (longName length)) idleWorld).1 =
      .error (.routeNotFound (longName length)) := by
  have none : idleWorld.routes.values = [] := by decide +kernel
  have unknown : idleWorld.routes.map[longName length]? = Option.none := by
    cases found : idleWorld.routes.map[longName length]? with
    | none => rfl
    | some saved =>
        have sameId : saved.id = longName length := idleWorld.routes.keyed _ _ found
        have member : saved ∈ idleWorld.routes.values :=
          SavedRoutes.mem_values_iff.mpr (sameId ▸ found)
        rw [none] at member
        cases member
  rw [handle, disconnect, bind_apply_ok (removeRoute_apply _ idleWorld), unknown]
  rfl

theorem length_disconnect (id : String) :
    (bytes (Message.encode (Request.disconnect id))).length = 11 + escapedSize id := by
  have encoded : Message.encode (Request.disconnect id) = "disconnect\t" ++ escape id := by
    simp [Message.encode, Request.encode]
  rw [encoded, bytes_append, List.length_append, escapedSize]
  rfl

/-- A client asks to disconnect a route that does not exist, and the name is so
long that the error that repeats it cannot be written. -/
theorem long_disconnect_unanswered :
    (¬ ∀ (world : World ℚ) (environment : Environment) (request : Request), Fits request →
      Fits (respond (handle environment request world).1)) ∧
    bringUp (smoothPhase [microphone, speaker]) (restoredWorld [] .empty none) =
      (.ok (), idleWorld) ∧
    Fits (Request.disconnect (longName 1048560)) ∧
    writeMessage [] (respond (handle (smoothCalls [microphone, speaker])
      (.disconnect (longName 1048560)) idleWorld).1) = (.error (.messageTooLarge 1048599), []) := by
  have readable : Fits (Request.disconnect (longName 1048560)) := by
    rw [Fits, length_disconnect, escapedSize_longName, maxMessageBytes]
    norm_num
  have large : ¬ Fits (respond (handle (smoothCalls [microphone, speaker])
      (.disconnect (longName 1048560)) idleWorld).1) := by
    rw [disconnect_longName, Fits, length_routeNotFound, escapedSize_longName, maxMessageBytes]
    norm_num
  refine ⟨fun answered => large (answered _ _ _ readable), idleWorld_starts, readable, ?_⟩
  rw [writeMessage_of_not_fits large, disconnect_longName, length_routeNotFound,
    escapedSize_longName]

end VCable
