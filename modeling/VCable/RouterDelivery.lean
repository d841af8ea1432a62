import VCable.DaemonRoutes
import VCable.RouterIsolation
import VCable.RouterNetwork

/-!
# What the router delivers

In every run of the callbacks of a router, in any order, each route has the link
that it makes by itself from the inputs of its source and the output frames of
its sink, and every output of a device is the sum of what its routes deliver.
-/

namespace VCable

open FallibleState IncomingRoute IndependentParts ListSelections Std

/-! ## The turns of a call -/

namespace RouterCall

/-- The frames of the input, for a route of so many channels. -/
def inputFrames (call : RouterCall) (channels : Nat) : List (List ℚ) :=
  match call.input with
  | none => []
  | some list => listFrames ((audioBufferListFrames list).getD 0) channels list

def outputFrames (call : RouterCall) : Nat :=
  (call.output.bind audioBufferListFrames).getD 0

/-- The steps of the links in recording the input. -/
def records (call : RouterCall) : List (Nat × LinkAction) :=
  match call.input with
  | none => []
  | some list => call.context.recordTurns list ((audioBufferListFrames list).getD 0)

/-- The steps of the links in a call. -/
def turns (call : RouterCall) : List (Nat × LinkAction) :=
  call.records ++ call.context.playTurns call.outputFrames

/-- The buffer lists of a call have frames, and enough channels for the routes of
the device. -/
structure Fits (contexts : List (RouterContext ℚ)) (call : RouterCall) : Prop where
  wired : call.context ∈ contexts
  recordable : ∀ list, call.input = some list → (audioBufferListFrames list).isSome = true ∧
    ∀ producer ∈ call.context.outgoing, producer.channels ≤ channelCount list.buffers
  playable : ∀ list, call.output = some list → (audioBufferListFrames list).isSome = true ∧
    ∀ consumer ∈ call.context.incoming,
      consumer.route.sinkChannels ≤ channelCount list.buffers

end RouterCall

namespace AudioRoute

/-- What a call records of its input for a route. -/
def records (route : AudioRoute ℚ) (call : RouterCall) : List LinkAction :=
  if route.sourceDeviceId = call.context.deviceId then
    (call.inputFrames route.sourceChannels.toNat).map .record
  else []

/-- The output frames of a call for which a route is prepared. -/
def prepares (route : AudioRoute ℚ) (call : RouterCall) : List LinkAction :=
  if route.sinkDeviceId = call.context.deviceId then List.replicate call.outputFrames .prepare
  else []

/-- What the route gets to do in a call. -/
def turns (route : AudioRoute ℚ) (call : RouterCall) : List LinkAction :=
  route.records call ++ route.prepares call

/-- The link of the route after some calls. -/
def link (route : AudioRoute ℚ) (calls : List RouterCall) : RouterLink :=
  (RouterLink.start route).after (calls.flatMap route.turns)

/-- The link of the route while it plays in a call: the input is recorded. -/
def linkWithin (route : AudioRoute ℚ) (calls : List RouterCall) (call : RouterCall) : RouterLink :=
  (route.link calls).after (route.records call)

end AudioRoute

section Turns

variable {routes : List (AudioRoute ℚ)} {context : RouterContext ℚ} {ring : Nat}
  {route : AudioRoute ℚ}

/-- The routes of a device with the number of a route: the route, if it is one. -/
theorem filter_device (deviceOf : AudioRoute ℚ → UInt32) (found : routes[ring]? = some route)
    (device : UInt32) :
    (routes.zipIdx.filter fun entry => deviceOf entry.1 = device).filter
        (fun entry => entry.2 = ring) =
      if deviceOf route = device then [(route, ring)] else [] := by
  have one := @filter_zipIdx (AudioRoute ℚ) routes 0 ring route found
  rw [Nat.zero_add] at one
  rw [List.filter_filter]
  have swapped := @List.filter_filter (AudioRoute ℚ × Nat) (fun entry => deviceOf entry.1 = device)
    (fun entry => decide (entry.2 = ring)) routes.zipIdx
  rw [one] at swapped
  simp only [Bool.and_comm] at swapped ⊢
  rw [← swapped]
  by_cases own : deviceOf route = device <;> simp [own]

/-- What a call records for a route does not depend on the other routes. -/
theorem turnsOf_recordTurns (serves : context.Serves routes) (found : routes[ring]? = some route)
    (list : AudioBufferList ℚ) (frames : Nat) :
    turnsOf ring (context.recordTurns list frames) =
      if route.sourceDeviceId = context.deviceId then
        (listFrames frames route.sourceChannels.toNat list).map .record
      else [] := by
  have each : ∀ frame, turnsOf ring (context.outgoing.map fun producer =>
      (producer.ring, LinkAction.record (frameOf list producer.channels frame))) =
        if route.sourceDeviceId = context.deviceId then
          [.record (frameOf list route.sourceChannels.toNat frame)]
        else [] := by
    intro frame
    have own := filter_device AudioRoute.sourceDeviceId found context.deviceId
    rw [serves.outgoing_eq, producersFrom, List.map_map, turnsOf, List.filter_map, List.map_map]
    refine (congrArg (List.map _) own).trans ?_
    split_ifs <;> rfl
  rw [RouterContext.recordTurns, turnsOf_flatMap, funext each]
  split_ifs
  · rw [listFrames, List.map_map, List.map_eq_flatMap]
    rfl
  · exact List.flatMap_eq_nil_iff.mpr fun _ _ => rfl

theorem turnsOf_playTurns (serves : context.Serves routes) (found : routes[ring]? = some route)
    (frames : Nat) :
    turnsOf ring (context.playTurns frames) =
      if route.sinkDeviceId = context.deviceId then List.replicate frames .prepare else [] := by
  have own := filter_device AudioRoute.sinkDeviceId found context.deviceId
  have each : ∀ consumer : RouteConsumer ℚ,
      turnsOf ring (List.replicate frames (consumer.ring, LinkAction.prepare)) =
        if consumer.ring = ring then List.replicate frames .prepare else [] := by
    intro consumer
    by_cases same : consumer.ring = ring <;> simp [turnsOf, same]
  rw [RouterContext.playTurns, turnsOf_flatMap, funext each, serves.incoming_eq, consumersInto,
    List.flatMap_map]
  calc (routes.zipIdx.filter fun entry => entry.1.sinkDeviceId = context.deviceId).flatMap
        (fun entry => if (entry.1.consumer entry.2).ring = ring then
          List.replicate frames LinkAction.prepare else [])
      = ((routes.zipIdx.filter fun entry => entry.1.sinkDeviceId = context.deviceId).filter
          fun entry => entry.2 = ring).flatMap fun _ => List.replicate frames .prepare := by
        exact flatMap_ite (fun entry : AudioRoute ℚ × Nat => entry.2 = ring) _ fun _ => _
    _ = _ := by
        rw [own]
        split_ifs
        · exact List.flatMap_singleton ..
        · rfl

variable {call : RouterCall}

theorem turnsOf_records (serves : call.context.Serves routes) (found : routes[ring]? = some route) :
    turnsOf ring call.records = route.records call := by
  rw [RouterCall.records, AudioRoute.records, RouterCall.inputFrames]
  cases call.input with
  | none => simp [turnsOf]
  | some list => exact turnsOf_recordTurns serves found list _

theorem turnsOf_turns (serves : call.context.Serves routes) (found : routes[ring]? = some route) :
    turnsOf ring call.turns = route.turns call := by
  rw [RouterCall.turns, turnsOf_append, turnsOf_records serves found,
    turnsOf_playTurns serves found]
  rfl

/-- Links that take the turns of their routes. -/
theorem run_links {before : AudioRoute ℚ → RouterLink} {own : AudioRoute ℚ → List LinkAction}
    {turns : List (Nat × LinkAction)}
    (projected : ∀ ring route, routes[ring]? = some route → turnsOf ring turns = own route) :
    IndependentParts.run RouterLink.step (routes.map before) turns =
      routes.map fun route => (before route).after (own route) := by
  refine List.ext_getElem? fun ring => ?_
  rw [getElem?_run, List.getElem?_map, List.getElem?_map, Option.map_map]
  refine Option.map_congr fun route found => ?_
  rw [Function.comp_apply, projected ring route found]
  rfl

theorem link_append (route : AudioRoute ℚ) (calls : List RouterCall) (call : RouterCall) :
    route.link (calls ++ [call]) = (route.link calls).after (route.turns call) := by
  rw [AudioRoute.link, List.flatMap_append, RouterLink.after, List.foldl_append,
    List.flatMap_singleton]
  rfl

end Turns

/-! ## Storing -/

section Storing

variable {context : RouterContext ℚ} {links : List RouterLink} {ring : Nat}

/-- Recording changes only what is in the ring. -/
theorem route_of_records {link : RouterLink} {actions : List LinkAction}
    (records : ∀ action ∈ actions, action ≠ .prepare) :
    { link.run.playing.route with
      consumer := (link.after actions).run.playing.route.consumer } =
        (link.after actions).run.playing.route := by
  induction actions generalizing link with
  | nil => rfl
  | cons action actions ih =>
      rw [List.forall_mem_cons] at records
      have first : { link.run.playing.route with
          consumer := (link.step action).run.playing.route.consumer } =
            (link.step action).run.playing.route := by
        cases action with
        | prepare => exact absurd rfl records.1
        | record frame =>
            rw [RouterLink.step]
            dsimp only
            split_ifs <;> rfl
      have rest := @ih (link.step action) records.2
      rw [← first] at rest
      exact rest

theorem mem_records {call : RouterCall} {turn : Nat × LinkAction} (member : turn ∈ call.records) :
    (∃ producer ∈ call.context.outgoing, producer.ring = turn.1) ∧ turn.2 ≠ .prepare := by
  rw [RouterCall.records] at member
  cases input : call.input with
  | none =>
      rw [input] at member
      cases member
  | some list =>
      rw [input] at member
      obtain ⟨frame, -, among⟩ := List.mem_flatMap.mp member
      obtain ⟨producer, present, rfl⟩ := List.mem_map.mp among
      exact ⟨⟨producer, present, rfl⟩, nofun⟩

theorem mem_playTurns {frames : Nat} {turn : Nat × LinkAction}
    (member : turn ∈ context.playTurns frames) :
    ∃ consumer ∈ context.incoming, consumer.ring = turn.1 := by
  obtain ⟨consumer, present, among⟩ := List.mem_flatMap.mp member
  exact ⟨consumer, present, (congrArg Prod.fst (List.eq_of_mem_replicate among)).symm⟩

/-- What a callback leaves in its context is stored in the network. -/
theorem store_load {call : RouterCall} :
    (RouterNetwork.ofLinks links).store call.context ((RouterNetwork.ofLinks
        (IndependentParts.run RouterLink.step links call.turns)).load call.context) =
      RouterNetwork.ofLinks (IndependentParts.run RouterLink.step links call.turns) := by
  refine RouterNetwork.eq_of_ends (funext fun ring => ?_) rfl
  generalize reached : IndependentParts.run RouterLink.step links call.turns = later
  rw [RouterNetwork.store]
  dsimp only
  rw [RouterContext.endAfter]
  cases own : call.context.consumerOf ring with
  | some number =>
      obtain ⟨consumer, present, rfl⟩ := RouterContext.exists_consumer own
      dsimp only
      rw [RouterNetwork.load, List.getD_eq_getElem?_getD, List.getElem?_map, present]
      rfl
  | none =>
      have unplayed : ∀ turn ∈ call.context.playTurns call.outputFrames, turn.1 ≠ ring := by
        intro turn member same
        obtain ⟨consumer, present, consumes⟩ := mem_playTurns member
        exact RouterContext.consumerOf_eq_none.mp own consumer present (consumes.trans same)
      have turns : turnsOf ring call.turns = turnsOf ring call.records := by
        rw [RouterCall.turns, turnsOf_append, turnsOf_eq_nil unplayed, List.append_nil]
      have kept : { (RouterNetwork.ofLinks links).ends ring with
          consumer := ((RouterNetwork.ofLinks later).ends ring).consumer } =
            (RouterNetwork.ofLinks later).ends ring := by
        rw [RouterNetwork.ofLinks_ends, RouterNetwork.ofLinks_ends, ← reached, getElem?_run, turns]
        cases links[ring]? with
        | none => rfl
        | some link =>
            refine route_of_records fun action member => ?_
            obtain ⟨turn, among, rfl⟩ := List.mem_map.mp member
            exact (mem_records (List.mem_of_mem_filter among)).2
      dsimp only
      cases produced : call.context.producerOf ring with
      | none =>
          have unrecorded : ∀ turn ∈ call.records, turn.1 ≠ ring := by
            intro turn member same
            obtain ⟨⟨producer, present, produces⟩, -⟩ := mem_records member
            exact of_decide_eq_false (List.findIdx?_eq_none_iff.mp produced producer present)
              (produces.trans same)
          change (RouterNetwork.ofLinks links).ends ring = _
          rw [RouterNetwork.ofLinks_ends, RouterNetwork.ofLinks_ends, ← reached, getElem?_run,
            turns, turnsOf_eq_nil unrecorded]
          cases links[ring]? <;> rfl
      | some number =>
          obtain ⟨within, same, -⟩ := List.findIdx?_eq_some_iff_getElem.mp produced
          have reader : (RouterNetwork.ofLinks later).reader call.context
              call.context.outgoing[number].ring =
                .elsewhere ((RouterNetwork.ofLinks later).ends ring).consumer := by
            rw [of_decide_eq_true same, RouterNetwork.reader, own]
          have outgoing :
              ((RouterNetwork.ofLinks later).load call.context).outgoing[number]?.bind
                (fun outgoing => outgoing.reader.queue?) =
                  some ((RouterNetwork.ofLinks later).ends ring).consumer := by
            rw [RouterNetwork.load, List.getElem?_map, List.getElem?_eq_getElem within]
            dsimp only [Option.map_some, Option.bind_some]
            rw [reader]
            rfl
          rw [Option.bind_some, outgoing]
          exact kept

end Storing

/-! ## A callback -/

/-- What is heard of frames that were prepared: their shares, in an output that
has routes. -/
structure RouterCall.Plays (call : RouterCall) (prepared : List PreparedFrame)
    (after : Option (AudioBufferList ℚ)) : Prop where
  silent : call.output = none ∨ call.context.incoming = [] → after = call.output
  sums : ∀ list frames, call.output = some list → audioBufferListFrames list = some frames →
    call.context.incoming ≠ [] → ∃ mixed, after = some mixed ∧
      SameLayout list.buffers mixed.buffers ∧
      ∀ frame < frames, ∀ channel < channelCount list.buffers,
        readAudioSample mixed frame channel = some (PreparedFrame.shares prepared frame channel)

section Callbacks

open Callback

variable {routes : List (AudioRoute ℚ)} {links : List RouterLink} {call : RouterCall}
  {contexts : List (RouterContext ℚ)}

/-- The frames that the incoming routes of a context prepare. -/
def RouterNetwork.heard (network : RouterNetwork) (context : RouterContext ℚ) (frames : Nat) :
    List PreparedFrame :=
  context.incoming.flatMap fun consumer =>
    PlayingRoute.preparedFrames ⟨network.ends consumer.ring, network.metrics⟩ frames

theorem capture_call (serves : call.context.Serves routes) (sound : SoundLinks routes links)
    (fits : call.Fits contexts) :
    capture call.input ⟨(RouterNetwork.ofLinks links).load call.context, call.output⟩ =
        (.ok (), ⟨(RouterNetwork.ofLinks
          (IndependentParts.run RouterLink.step links call.records)).load call.context,
            call.output⟩) ∧
      SoundLinks routes (IndependentParts.run RouterLink.step links call.records) := by
  rw [RouterCall.records]
  cases input : call.input with
  | none => exact ⟨rfl, sound⟩
  | some list =>
      obtain ⟨counted, wide⟩ := fits.recordable list input
      obtain ⟨frames, framed⟩ := Option.isSome_iff_exists.mp counted
      dsimp only
      rw [framed, Option.getD_some]
      exact capture_links serves sound framed wide

theorem play_call (serves : call.context.Serves routes) (sound : SoundLinks routes links)
    (fits : call.Fits contexts) :
    ∃ reached, play ⟨(RouterNetwork.ofLinks links).load call.context, call.output⟩ =
        (.ok (), reached) ∧
      reached.context = (RouterNetwork.ofLinks (IndependentParts.run RouterLink.step links
        (call.context.playTurns call.outputFrames))).load call.context ∧
      call.Plays ((RouterNetwork.ofLinks links).heard call.context call.outputFrames)
        reached.output ∧
      SoundLinks routes (IndependentParts.run RouterLink.step links
        (call.context.playTurns call.outputFrames)) := by
  by_cases unrouted : call.context.incoming = []
  · have empty : ((RouterNetwork.ofLinks links).load call.context).incoming = [] := by
      rw [RouterNetwork.load, unrouted, List.map_nil]
    have turns : call.context.playTurns call.outputFrames = [] := by
      rw [RouterContext.playTurns, unrouted, List.flatMap_nil]
    rw [turns]
    exact ⟨_, play_of_no_route empty, rfl, ⟨fun _ => rfl, fun _ _ _ _ any => absurd unrouted any⟩,
      sound⟩
  cases output : call.output with
  | none =>
      have turns : call.context.playTurns call.outputFrames = [] := by
        rw [RouterContext.playTurns, RouterCall.outputFrames, output]
        exact List.flatMap_eq_nil_iff.mpr fun _ _ => rfl
      rw [turns]
      refine ⟨⟨(RouterNetwork.ofLinks links).load call.context, none⟩,
        Eq.trans (inspect_bind_apply rfl) (Eq.trans (inspect_bind_apply rfl) rfl), rfl,
        ⟨fun _ => output.symm, fun _ _ impossible => ?_⟩, sound⟩
      rw [output] at impossible
      cases impossible
  | some list =>
      obtain ⟨counted, wide⟩ := fits.playable list output
      obtain ⟨frames, framed⟩ := Option.isSome_iff_exists.mp counted
      have count : call.outputFrames = frames := by
        rw [RouterCall.outputFrames, output, Option.bind_some, framed, Option.getD_some]
      rw [count]
      obtain ⟨reached, plays, shows⟩ := play_links serves sound framed wide unrouted
      have routed : ∀ route ∈ ((RouterNetwork.ofLinks links).load call.context).incoming,
          route.WellFormed ∧ route.sinkChannels ≤ channelCount list.buffers := by
        intro route member
        obtain ⟨consumer, among, rfl⟩ := List.mem_map.mp member
        obtain ⟨own, present, made, -⟩ := serves.exists_sinkRoute among
        obtain ⟨link, linked, held⟩ := sound.exists_link present
        rw [SoundLinks.ends_eq linked]
        refine ⟨held.wellFormed, ?_⟩
        have narrow := wide consumer among
        rw [made] at narrow
        rw [held.settings.sinkChannels_eq]
        exact narrow
      have anyRoute : ((RouterNetwork.ofLinks links).load call.context).incoming ≠ [] := by
        rw [RouterNetwork.load, Ne, List.map_eq_nil_iff]
        exact unrouted
      obtain ⟨other, after, alsoPlays, afterEq, adds⟩ := @play_adds
        ⟨(RouterNetwork.ofLinks links).load call.context, some list⟩ frames list rfl framed
        (fun route member => (routed route member).1) (fun route member => (routed route member).2)
        anyRoute
      obtain rfl : reached = other := (Prod.mk.inj (plays.symm.trans alsoPlays)).2
      refine ⟨reached, plays, shows.context_eq, ⟨fun silent => ?_, ?_⟩, shows.sound⟩
      · rcases silent with impossible | empty
        · rw [output] at impossible
          cases impossible
        · exact absurd empty unrouted
      · intro same count sameList sameFrames _
        obtain rfl := Option.some.inj (output.symm.trans sameList)
        obtain rfl := Option.some.inj (framed.symm.trans sameFrames)
        have layout := sameLayout_clearAudioBufferList list
        refine ⟨after, afterEq, layout.trans adds.layout, ?_⟩
        intro frame frameWithin channel channelWithin
        rw [adds.samples frame frameWithin channel (layout.channelCount_eq ▸ channelWithin),
          readAudioSample_clear framed frameWithin channelWithin, Option.map_some, zero_add,
          RouterNetwork.heard, RouterNetwork.load, List.flatMap_map]

/-- A callback is a run of the links, and plays what they prepare. -/
theorem callback_links (serves : call.context.Serves routes) (sound : SoundLinks routes links)
    (fits : call.Fits contexts) :
    ∃ after, (RouterNetwork.ofLinks links).callback call = (.ok (),
        RouterNetwork.ofLinks (IndependentParts.run RouterLink.step links call.turns), after) ∧
      call.Plays ((RouterNetwork.ofLinks (IndependentParts.run RouterLink.step links
        call.records)).heard call.context call.outputFrames) after ∧
      SoundLinks routes (IndependentParts.run RouterLink.step links call.turns) := by
  obtain ⟨captures, captured⟩ := capture_call serves sound fits
  obtain ⟨reached, plays, context, heard, later⟩ := play_call serves captured fits
  rw [← run_append, ← RouterCall.turns] at context later
  refine ⟨reached.output, ?_, heard, later⟩
  rw [RouterNetwork.callback, audioDeviceIoProc, bind_apply_ok captures, plays]
  dsimp only
  rw [context, store_load]

end Callbacks

/-! ## Runs -/

theorem RouterNetwork.after_append_singleton (network : RouterNetwork) (calls : List RouterCall)
    (call : RouterCall) :
    network.after (calls ++ [call]) = ((network.after calls).callback call).2.1 := by
  rw [after, List.foldl_append]
  rfl

namespace AudioRoute

/-- The frames that the inputs of some calls have for the route. -/
def offered (route : AudioRoute ℚ) (calls : List RouterCall) : List (List ℚ) :=
  calls.flatMap fun call =>
    if route.sourceDeviceId = call.context.deviceId then
      call.inputFrames route.sourceChannels.toNat
    else []

/-- The frames that the route prepares in a call after others. -/
def prepared (route : AudioRoute ℚ) (calls : List RouterCall) (call : RouterCall) :
    List PreparedFrame :=
  if route.sinkDeviceId = call.context.deviceId then
    (route.linkWithin calls call).run.playing.preparedFrames call.outputFrames
  else []

end AudioRoute

/-- What a link has carried: it took in the offered frames that it had place for,
the ring has those that were not popped, and its sessions interpolate them. -/
structure RouterLink.Carries (route : AudioRoute ℚ) (offered : List (List ℚ)) (link : RouterLink) :
    Prop where
  places_eq :
    link.places = ringCapacity route.sourceChannels.toNat / route.sourceChannels.toNat
  accounts : link.queue.Accounts link.places offered
  arrived_eq : link.run.arrived = link.queue.entered.flatten
  waiting_eq : link.queue.waiting = link.queue.entered.drop link.run.popped
  consumer_eq : link.run.playing.route.consumer = link.queue.waiting.flatten
  follows : ∀ session ∈ link.run.sessions,
    session.Follows route.sourceChannels.toNat route.nominalStep link.run.arrived
  ended : link.run.sessions.length =
    link.run.losses + link.run.playing.route.primed.toNat

section Runs

variable {routes : List (AudioRoute ℚ)} {contexts : List (RouterContext ℚ)}
  {calls : List RouterCall} {call : RouterCall} {route : AudioRoute ℚ}

theorem recorded_turns (route : AudioRoute ℚ) (call : RouterCall) :
    RouterLink.recorded (route.turns call) =
      if route.sourceDeviceId = call.context.deviceId then
        call.inputFrames route.sourceChannels.toNat
      else [] := by
  have none : RouterLink.recorded (route.prepares call) = [] := by
    rw [RouterLink.recorded, List.filterMap_eq_nil_iff]
    intro action member
    rw [AudioRoute.prepares] at member
    split_ifs at member
    · rw [List.eq_of_mem_replicate member]
    · cases member
  rw [AudioRoute.turns, RouterLink.recorded, List.filterMap_append, ← RouterLink.recorded,
    ← RouterLink.recorded, none, List.append_nil, AudioRoute.records]
  split_ifs
  · rw [RouterLink.recorded, List.filterMap_map]
    exact List.filterMap_some
  · rfl

theorem recorded_flatMap (route : AudioRoute ℚ) (calls : List RouterCall) :
    RouterLink.recorded (calls.flatMap route.turns) = route.offered calls := by
  induction calls with
  | nil => rfl
  | cons call calls ih =>
      rw [List.flatMap_cons, RouterLink.recorded, List.filterMap_append, ← RouterLink.recorded,
        ← RouterLink.recorded, ih, recorded_turns, AudioRoute.offered, AudioRoute.offered,
        List.flatMap_cons]

/-- The frames of every route have all its channels. -/
theorem sized_turns (route : AudioRoute ℚ) (call : RouterCall) :
    ∀ action ∈ route.turns call, RouterLink.Sized route action := by
  intro action member
  rcases List.mem_append.mp member with records | prepares
  · rw [AudioRoute.records] at records
    split_ifs at records
    · obtain ⟨frame, among, rfl⟩ := List.mem_map.mp records
      rw [RouterCall.inputFrames] at among
      split at among
      · cases among
      · obtain ⟨number, -, rfl⟩ := List.mem_map.mp among
        exact length_frameOf _ _ _
    · cases records
  · rw [AudioRoute.prepares] at prepares
    split_ifs at prepares
    · rw [List.eq_of_mem_replicate prepares]
      exact trivial
    · cases prepares

theorem sound_link (wellFormed : (IncomingRoute.new route).WellFormed) (calls : List RouterCall) :
    (route.link calls).Sound route := by
  refine (RouterLink.sound_start wellFormed).after fun action member => ?_
  obtain ⟨call, -, among⟩ := List.mem_flatMap.mp member
  exact sized_turns route call action among

theorem carries_link (wellFormed : (IncomingRoute.new route).WellFormed) (calls : List RouterCall) :
    (route.link calls).Carries route (route.offered calls) := by
  have sound := sound_link wellFormed calls
  have accounts := (@RouterLink.accounts_after (RouterLink.start route) [] (.empty _)
    (calls.flatMap route.turns)).2
  rw [List.nil_append, recorded_flatMap] at accounts
  exact
    { places_eq := sound.places_eq
      accounts := by
        rw [sound.places_eq]
        exact accounts
      arrived_eq := sound.arrived_eq
      waiting_eq := sound.waiting_eq
      consumer_eq := sound.consumer_eq
      follows := sound.sound.follows
      ended := (sound.sound.popped_spec sound.channels_pos).2.1 }

theorem soundLinks_of_routes (wellFormed : ∀ route ∈ routes, (IncomingRoute.new route).WellFormed)
    (calls : List RouterCall) : SoundLinks routes (routes.map fun route => route.link calls) where
  length_eq := List.length_map _
  sound := by
    intro ring route link found present
    rw [List.getElem?_map, found] at present
    obtain rfl := Option.some.inj present
    exact sound_link (wellFormed route (List.mem_of_getElem? found)) calls

/-- What the routes into a device prepare in a call. -/
theorem heard_links (serves : call.context.Serves routes) (calls : List RouterCall) :
    (RouterNetwork.ofLinks (routes.map fun route => route.linkWithin calls call)).heard
        call.context call.outputFrames =
      routes.flatMap fun route => route.prepared calls call := by
  have entries : ∀ entry ∈ routes.zipIdx.filter
        (fun entry => entry.1.sinkDeviceId = call.context.deviceId),
      PlayingRoute.preparedFrames
          ⟨(RouterNetwork.ofLinks (routes.map fun route =>
              route.linkWithin calls call)).ends entry.2,
            (RouterNetwork.ofLinks (routes.map fun route =>
              route.linkWithin calls call)).metrics⟩ call.outputFrames =
        (entry.1.linkWithin calls call).run.playing.preparedFrames call.outputFrames := by
    intro entry member
    have found := List.mem_zipIdx_iff_getElem?.mp (List.mem_filter.mp member).1
    have present : (routes.map fun route => route.linkWithin calls call)[entry.2]? =
        some (entry.1.linkWithin calls call) := by
      rw [List.getElem?_map, found]
      rfl
    rw [SoundLinks.ends_eq present]
    exact PlayingRoute.preparedFrames_metrics _ _ _ _
  rw [RouterNetwork.heard, serves.incoming_eq, consumersInto, List.flatMap_map]
  refine (List.flatMap_congr entries).trans ?_
  have prepared := flatMap_ite (fun route : AudioRoute ℚ =>
    route.sinkDeviceId = call.context.deviceId) routes fun route =>
      (route.linkWithin calls call).run.playing.preparedFrames call.outputFrames
  refine Eq.trans ?_ prepared.symm
  rw [← List.zipIdx_map_fst 0 routes, List.filter_map, List.flatMap_map, List.zipIdx_map_fst]
  rfl

/-- A frame that a route has prepared is what its link delivers. -/
theorem delivered_link (route : AudioRoute ℚ) (calls : List RouterCall) (call : RouterCall) :
    (route.link (calls ++ [call])).delivered = (route.link calls).delivered ++
      (route.prepared calls call).map fun prepared => prepared.route.interpolated := by
  have recorded : (route.linkWithin calls call).delivered = (route.link calls).delivered := by
    rw [AudioRoute.linkWithin, AudioRoute.records]
    split_ifs
    · exact RouterLink.delivered_records _ _
    · rfl
  rw [link_append, AudioRoute.turns, RouterLink.after, List.foldl_append, ← RouterLink.after,
    ← RouterLink.after, ← AudioRoute.linkWithin, AudioRoute.prepares, AudioRoute.prepared,
    ← recorded]
  split_ifs
  · exact (RouterLink.delivered_prepare _ _).2
  · exact (List.append_nil _).symm

/-- One more call of the network is one more call for each of the routes. -/
theorem callback_routes (serves : call.context.Serves routes)
    (wellFormed : ∀ route ∈ routes, (IncomingRoute.new route).WellFormed)
    (fits : call.Fits contexts) (calls : List RouterCall) :
    ∃ after, (RouterNetwork.ofLinks (routes.map fun route => route.link calls)).callback call =
        (.ok (), RouterNetwork.ofLinks (routes.map fun route => route.link (calls ++ [call])),
          after) ∧
      call.Plays (routes.flatMap fun route => route.prepared calls call) after := by
  obtain ⟨after, called, plays, -⟩ :=
    callback_links serves (soundLinks_of_routes wellFormed calls) fits
  have recorded : IndependentParts.run RouterLink.step (routes.map fun route => route.link calls)
      call.records = routes.map fun route => route.linkWithin calls call :=
    run_links fun ring route found => turnsOf_records serves found
  have reached : IndependentParts.run RouterLink.step (routes.map fun route => route.link calls)
      call.turns = routes.map fun route => route.link (calls ++ [call]) := by
    rw [run_links fun ring route found => turnsOf_turns serves found]
    exact List.map_congr_left fun route _ => (link_append route calls call).symm
  rw [reached] at called
  rw [recorded, heard_links serves] at plays
  exact ⟨after, called, plays⟩

end Runs

/-! ## The start -/

section Start

variable {routes : List (AudioRoute ℚ)} {contexts : List (RouterContext ℚ)}

theorem WiredFor.serves (wired : WiredFor routes contexts) {context : RouterContext ℚ}
    (member : context ∈ contexts) : context.Serves routes :=
  ⟨wired.outgoing context member, wired.incoming context member⟩

/-- The contexts have the consumer of every ring. -/
theorem WiredFor.ends_start (wired : WiredFor routes contexts) (ring : Nat) :
    (RouterNetwork.start contexts).ends ring =
      (routes[ring]?.map IncomingRoute.new).getD default := by
  have consumers : ∀ consumer, consumer ∈ contexts.flatMap RouterContext.incoming ↔
      ∃ route, routes[consumer.ring]? = some route ∧ consumer = route.consumer consumer.ring := by
    intro consumer
    rw [wired.consumers.mem_iff, List.mem_map]
    constructor
    · rintro ⟨entry, member, rfl⟩
      exact ⟨entry.1, List.mem_zipIdx_iff_getElem?.mp member, rfl⟩
    · rintro ⟨route, found, made⟩
      exact ⟨(route, consumer.ring), List.mem_zipIdx_iff_getElem?.mpr found, made.symm⟩
  rw [RouterNetwork.start]
  dsimp only
  cases found : (contexts.flatMap RouterContext.incoming).find?
      fun consumer => consumer.ring = ring with
  | some consumer =>
      have same : consumer.ring = ring := by simpa using List.find?_some found
      obtain ⟨route, present, made⟩ := (consumers consumer).mp (List.mem_of_find?_eq_some found)
      rw [same] at present
      rw [present, made]
      rfl
  | none =>
      cases present : routes[ring]? with
      | none => rfl
      | some route =>
          have member := (consumers (route.consumer ring)).mpr ⟨route, present, rfl⟩
          exact absurd (decide_eq_true rfl) (List.find?_eq_none.mp found _ member)

theorem WiredFor.network_start (wired : WiredFor routes contexts) :
    RouterNetwork.start contexts =
      RouterNetwork.ofLinks (routes.map fun route => route.link []) := by
  refine RouterNetwork.eq_of_ends (funext fun ring => ?_) ?_
  · rw [wired.ends_start, RouterNetwork.ofLinks_ends, List.getElem?_map, Option.map_map]
    rfl
  · have zeros : ∀ size : RouterLink → Nat, (∀ route, size (RouterLink.start route) = 0) →
        ((routes.map fun route => route.link []).map size).sum = 0 := by
      intro size zero
      rw [List.map_map]
      exact List.sum_eq_zero fun value member => by
        obtain ⟨route, -, rfl⟩ := List.mem_map.mp member
        exact zero route
    rw [RouterNetwork.ofLinks, zeros _ fun _ => rfl, zeros _ fun _ => rfl]
    rfl

/-- Callbacks take the network to the links of their routes. -/
theorem WiredFor.network_after (wired : WiredFor routes contexts)
    (wellFormed : ∀ route ∈ routes, (IncomingRoute.new route).WellFormed)
    {calls : List RouterCall} (fits : ∀ call ∈ calls, call.Fits contexts) :
    (RouterNetwork.start contexts).after calls =
      RouterNetwork.ofLinks (routes.map fun route => route.link calls) := by
  induction calls using List.reverseRecOn with
  | nil => exact wired.network_start
  | append_singleton calls call ih =>
      rw [List.forall_mem_append, List.forall_mem_singleton] at fits
      obtain ⟨after, called, -⟩ :=
        callback_routes (wired.serves fits.2.wired) wellFormed fits.2 calls
      rw [RouterNetwork.after_append_singleton, ih fits.1, called]

/-- Wiring succeeds for well-formed routes only, and wires them. -/
theorem wiredFor_of_wireRouter {listing : Except CoreAudioError (List AudioDevice)}
    (started : wireRouter listing routes = .ok contexts) :
    WiredFor routes contexts ∧ ∀ route ∈ routes, (IncomingRoute.new route).WellFormed := by
  unfold wireRouter at started
  cases checked : validateRoutes listing routes with
  | error failure =>
      rw [checked] at started
      cases started
  | ok done =>
      have accepted : ∀ route ∈ routes, route.WellFormed := by
        intro route member
        unfold validateRoutes at checked
        cases listing with
        | error failure => cases checked
        | ok devices =>
            exact (validateRoute_eq_ok_iff.mp
              (validateEach_eq_ok_iff.mp checked route member)).1
      rw [checked] at started
      dsimp only at started
      rw [wireRoutes_eq fun route member => (accepted route member).source_channels] at started
      obtain rfl := Except.ok.inj started
      refine ⟨wiredFor_routerContexts fun route member => (accepted route member).source_channels,
        fun route member => ?_⟩
      have own := accepted route member
      exact wellFormed_new own.source_channels own.sink_channels own.source_rate own.sink_rate
        own.matrix_length

end Start

/-- After any callbacks of a started router, in any order, each route has the link
that it makes by itself, the counters of the router are those of all links, and
the next callback plays the sum of what the routes into its device deliver. -/
theorem router_delivers {listing : Except CoreAudioError (List AudioDevice)}
    {routes : List (AudioRoute ℚ)} {contexts : List (RouterContext ℚ)}
    (started : wireRouter listing routes = .ok contexts) {calls : List RouterCall}
    (fits : ∀ call ∈ calls, call.Fits contexts) :
    (RouterNetwork.start contexts).after calls =
        RouterNetwork.ofLinks (routes.map fun route => route.link calls) ∧
      (∀ route ∈ routes, (route.link calls).Carries route (route.offered calls)) ∧
      ∀ call : RouterCall, call.Fits contexts → ∃ after,
        ((RouterNetwork.start contexts).after calls).callback call =
          (.ok (), (RouterNetwork.start contexts).after (calls ++ [call]), after) ∧
        call.Plays (routes.flatMap fun route => route.prepared calls call) after ∧
        ∀ route ∈ routes, (route.link (calls ++ [call])).delivered =
          (route.link calls).delivered ++
            (route.prepared calls call).map fun prepared => prepared.route.interpolated := by
  obtain ⟨wired, wellFormed⟩ := wiredFor_of_wireRouter started
  have reached := wired.network_after wellFormed fits
  refine ⟨reached, fun route member => carries_link (wellFormed route member) calls, ?_⟩
  intro call callFits
  obtain ⟨after, called, plays⟩ :=
    callback_routes (wired.serves callFits.wired) wellFormed callFits calls
  have all : ∀ other ∈ calls ++ [call], other.Fits contexts := by
    rw [List.forall_mem_append, List.forall_mem_singleton]
    exact ⟨fits, callFits⟩
  refine ⟨after, ?_, plays, fun route _ => delivered_link route calls call⟩
  rw [reached, called, wired.network_after wellFormed all]

/-- From the microphone to the speaker. -/
def voiceAudio : AudioRoute ℚ where
  sourceDeviceId := 1
  sinkDeviceId := 2
  sourceChannels := 1
  sinkChannels := 1
  sourceSampleRate := 48000
  sinkSampleRate := 48000
  matrix := [1]
  gain := 1

/-- The same at half the volume. -/
def quietAudio : AudioRoute ℚ :=
  { voiceAudio with gain := 1 / 2 }

theorem validateRoutes_voice :
    validateRoutes (.ok [microphone, speaker]) [voiceAudio, quietAudio] = .ok () := by
  have source : (devicesById [microphone, speaker])[(1 : UInt32)]? = some microphone := by
    rw [devicesById, ExtTreeMap.insertAll_cons, ExtTreeMap.insertAll_cons,
      ExtTreeMap.insertAll_nil, ExtTreeMap.getElem?_insert, if_neg (by decide)]
    exact ExtTreeMap.getElem?_insert_self
  have sink : (devicesById [microphone, speaker])[(2 : UInt32)]? = some speaker := by
    rw [devicesById, ExtTreeMap.insertAll_cons, ExtTreeMap.insertAll_cons,
      ExtTreeMap.insertAll_nil]
    exact ExtTreeMap.getElem?_insert_self
  refine validateEach_eq_ok_iff.mpr fun route member => validateRoute_eq_ok_iff.mpr ?_
  rcases List.mem_pair.mp member with rfl | rfl
  · exact ⟨⟨by decide, by decide, rfl, fun _ _ => rfl, rfl, by decide, by decide⟩,
      ⟨microphone, source, rfl, rfl⟩, ⟨speaker, sink, rfl, rfl⟩⟩
  · exact ⟨⟨by decide, by decide, rfl, fun _ _ => rfl, rfl, by decide, by decide⟩,
      ⟨microphone, source, rfl, rfl⟩, ⟨speaker, sink, rfl, rfl⟩⟩

/-- The context of a device for both routes. -/
def voiceContext (device : UInt32) : RouterContext ℚ where
  deviceId := device
  outgoing := producersFrom device 0 [voiceAudio, quietAudio]
  incoming := consumersInto device 0 [voiceAudio, quietAudio]

theorem wireRouter_voice :
    ∃ contexts, wireRouter (.ok [microphone, speaker]) [voiceAudio, quietAudio] = .ok contexts ∧
      voiceContext 1 ∈ contexts ∧ voiceContext 2 ∈ contexts := by
  have started : ∃ contexts,
      wireRouter (.ok [microphone, speaker]) [voiceAudio, quietAudio] = .ok contexts := by
    rw [wireRouter, validateRoutes_voice]
    dsimp only
    rw [wireRoutes_eq (by decide)]
    exact ⟨_, rfl⟩
  obtain ⟨contexts, started⟩ := started
  have wired := (wiredFor_of_wireRouter started).1
  have present : ∀ device ∈ contexts.map RouterContext.deviceId, voiceContext device ∈ contexts := by
    intro device among
    obtain ⟨context, member, rfl⟩ := List.mem_map.mp among
    have serves := wired.serves member
    rwa [voiceContext, ← serves.outgoing_eq, ← serves.incoming_eq]
  exact ⟨contexts, started,
    present 1 ((wired.device_iff 1).mpr ⟨voiceAudio, List.mem_cons_self, Or.inl rfl⟩),
    present 2 ((wired.device_iff 2).mpr ⟨voiceAudio, List.mem_cons_self, Or.inr rfl⟩)⟩

/-- Sixty-four frames of one channel. -/
def spokenInput : AudioBufferList ℚ where
  buffers :=
    [{ numberChannels := 1, dataByteSize := 256, data := some (List.replicate 64 1),
       sized := by
         rintro _ ⟨⟩
         exact List.length_replicate }]
  counted := by decide

def recordingCall : RouterCall := ⟨voiceContext 1, some spokenInput, none⟩

/-- As many frames as a route waits for. -/
def recordingCalls : List RouterCall := List.replicate 8 recordingCall

def playingCall : RouterCall := ⟨voiceContext 2, none, some staleOutput⟩

section Voice

variable {route : AudioRoute ℚ} (source : route.sourceDeviceId = 1)
  (sink : route.sinkDeviceId = 2) (channels : route.sourceChannels.toNat = 1)

include source sink channels

theorem turns_recordingCalls :
    recordingCalls.flatMap route.turns = (List.replicate (8 * 64) [1]).map .record := by
  have inputs : recordingCall.inputFrames 1 = List.replicate 64 [1] := by decide +kernel
  have records : route.records recordingCall = (List.replicate 64 [1]).map .record := by
    rw [AudioRoute.records, channels, inputs]
    exact if_pos source
  have prepares : route.prepares recordingCall = [] :=
    if_neg fun same => absurd (sink.symm.trans same) (by decide)
  rw [recordingCalls, List.flatMap_replicate, AudioRoute.turns, records, prepares,
    List.append_nil, List.map_replicate, List.flatten_replicate_replicate, List.map_replicate]

/-- What a route has for the speaker after the recording. -/
theorem prepared_recordingCalls (places : 8 * 64 ≤ (RouterLink.start route).places) :
    route.prepared recordingCalls playingCall =
      (RouterRun.start route (List.replicate (8 * 64) [1]).flatten
        ⟨0, 0, 0⟩).playing.preparedFrames playingCall.outputFrames := by
  have nothing : route.records playingCall = [] :=
    if_neg fun same => absurd (source.symm.trans same) (by decide)
  have linked : route.linkWithin recordingCalls playingCall =
      (RouterLink.start route).after ((List.replicate (8 * 64) [1]).map .record) := by
    rw [AudioRoute.linkWithin, nothing, AudioRoute.link,
      turns_recordingCalls source sink channels]
    exact List.foldl_nil
  have played : route.prepared recordingCalls playingCall =
      (route.linkWithin recordingCalls playingCall).run.playing.preparedFrames
        playingCall.outputFrames := if_pos sink
  have empty : (RouterLink.start route).run.playing.route.consumer = [] := rfl
  rw [played, linked, RouterLink.playing_records, empty, List.nil_append]
  · rfl
  · rw [List.length_replicate]
    exact (Nat.zero_add _).trans_le places
  · intro frame member
    rw [List.eq_of_mem_replicate member]
    exact channels.symm

end Voice

/-- Both routes have a frame for the speaker, and their shares are added. -/
theorem shares_voice :
    PreparedFrame.shares ([voiceAudio, quietAudio].flatMap fun route =>
      route.prepared recordingCalls playingCall) 0 0 = 3 / 2 := by
  rw [List.flatMap_cons, List.flatMap_cons, List.flatMap_nil,
    prepared_recordingCalls rfl rfl rfl (by decide +kernel),
    prepared_recordingCalls rfl rfl rfl (by decide +kernel)]
  decide +kernel

/-- The microphone records what the speaker plays, over two routes. -/
theorem router_delivers_voice :
    ∃ contexts, wireRouter (.ok [microphone, speaker]) [voiceAudio, quietAudio] = .ok contexts ∧
      (RouterNetwork.start contexts).after recordingCalls =
        RouterNetwork.ofLinks
          [voiceAudio.link recordingCalls, quietAudio.link recordingCalls] ∧
      ∃ mixed, ((RouterNetwork.start contexts).after recordingCalls).callback playingCall =
          (.ok (), (RouterNetwork.start contexts).after (recordingCalls ++ [playingCall]),
            some mixed) ∧
        readAudioSample mixed 0 0 = some (3 / 2) := by
  obtain ⟨contexts, started, source, sink⟩ := wireRouter_voice
  have records : ∀ call ∈ recordingCalls, call.Fits contexts := by
    intro call member
    obtain rfl := List.eq_of_mem_replicate member
    refine ⟨source, fun list pointed => ?_, nofun⟩
    obtain rfl := Option.some.inj pointed
    exact ⟨by decide +kernel, by decide +kernel⟩
  have plays : playingCall.Fits contexts := by
    refine ⟨sink, nofun, fun list pointed => ?_⟩
    obtain rfl := Option.some.inj pointed
    exact ⟨by decide, by decide +kernel⟩
  obtain ⟨network, -, callbacks⟩ := router_delivers started records
  obtain ⟨after, called, heard, -⟩ := callbacks playingCall plays
  obtain ⟨mixed, rfl, -, samples⟩ := heard.sums staleOutput 1 rfl (by decide) (by decide)
  refine ⟨contexts, started, network, mixed, called, ?_⟩
  rw [samples 0 (by decide) 0 (by decide), shares_voice]

end VCable
