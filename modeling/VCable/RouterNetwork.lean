import VCable.RouterLinks

/-!
# The network of the router

The callbacks of all devices, on the rings between them.  Every callback takes
the ends of its routes as the callbacks before have left them.  What the
callbacks make of the network, the links of the routes make by themselves.
-/

namespace VCable

open FallibleState IncomingRoute IndependentParts ListSelections

/-! ## Calls -/

instance : Inhabited (IncomingRoute ℚ) where
  default :=
    { consumer := []
      sourceChannels := 0
      sinkChannels := 0
      nominalStep := 0
      gain := 0
      matrix := []
      current := []
      next := []
      interpolated := []
      phase := 0
      primed := false }

/-- The incoming routes by the numbers of their rings, with the samples of the
rings, and the metrics that the contexts share. -/
structure RouterNetwork where
  ends : Nat → IncomingRoute ℚ
  metrics : RouterMetrics

/-- A callback of a device, with its buffer lists. -/
structure RouterCall where
  context : RouterContext ℚ
  input : Option (AudioBufferList ℚ)
  output : Option (AudioBufferList ℚ)

/-- The samples in the ring, for a reader elsewhere. -/
def RingReader.queue? : RingReader → Option (List ℚ)
  | .own _ => none
  | .elsewhere queue => some queue

namespace RouterContext

/-- The place of the consumer of a ring. -/
def consumerOf (context : RouterContext ℚ) (ring : Nat) : Option Nat :=
  context.incoming.findIdx? fun consumer => consumer.ring = ring

def producerOf (context : RouterContext ℚ) (ring : Nat) : Option Nat :=
  context.outgoing.findIdx? fun producer => producer.ring = ring

/-- The incoming route of a ring after a callback, given the one before. -/
def endAfter (context : RouterContext ℚ) (after : DeviceIoContext) (ring : Nat)
    (route : IncomingRoute ℚ) : IncomingRoute ℚ :=
  match context.consumerOf ring with
  | some number => after.incoming.getD number route
  | none =>
      match ((context.producerOf ring).bind fun number => after.outgoing[number]?).bind
          fun outgoing => outgoing.reader.queue? with
      | some queue => { route with consumer := queue }
      | none => route

end RouterContext

namespace RouterNetwork

/-- The network of the contexts before their callbacks run. -/
def start (contexts : List (RouterContext ℚ)) : RouterNetwork where
  ends ring :=
    (((contexts.flatMap RouterContext.incoming).find? fun consumer => consumer.ring = ring).map
      RouteConsumer.route).getD default
  metrics := ⟨0, 0, 0⟩

def reader (network : RouterNetwork) (context : RouterContext ℚ) (ring : Nat) : RingReader :=
  match context.consumerOf ring with
  | some number => .own number
  | none => .elsewhere (network.ends ring).consumer

/-- What a callback of the context works on. -/
def load (network : RouterNetwork) (context : RouterContext ℚ) : DeviceIoContext where
  outgoing := context.outgoing.map fun producer =>
    { capacity := producer.capacity
      reader := network.reader context producer.ring
      channels := producer.channels }
  incoming := context.incoming.map fun consumer => network.ends consumer.ring
  metrics := network.metrics

def store (network : RouterNetwork) (context : RouterContext ℚ) (after : DeviceIoContext) :
    RouterNetwork where
  ends ring := context.endAfter after ring (network.ends ring)
  metrics := after.metrics

/-- A call of `audio_device_io_proc` on the network: its way out, the network
after it, and its output. -/
def callback (network : RouterNetwork) (call : RouterCall) :
    Except CallbackExit Unit × RouterNetwork × Option (AudioBufferList ℚ) :=
  let (result, after) := audioDeviceIoProc call.input ⟨network.load call.context, call.output⟩
  (result, network.store call.context after.context, after.output)

/-- The network after some callbacks. -/
def after (network : RouterNetwork) (calls : List RouterCall) : RouterNetwork :=
  calls.foldl (fun network call => (network.callback call).2.1) network

/-- Samples come to a ring. -/
def arrive (network : RouterNetwork) (ring : Nat) (samples : List ℚ) : RouterNetwork :=
  { network with
    ends := Function.update network.ends ring
      { network.ends ring with consumer := (network.ends ring).consumer ++ samples } }

/-- The incoming route of a ring goes on. -/
def play (network : RouterNetwork) (ring : Nat) (playing : PlayingRoute) : RouterNetwork where
  ends := Function.update network.ends ring playing.route
  metrics := playing.metrics

end RouterNetwork

/-! ## Loading -/

/-- Every ring has at most one end of each kind in the context. -/
structure RouterContext.Separate (context : RouterContext ℚ) : Prop where
  outgoing : (context.outgoing.map RouteProducer.ring).Nodup
  incoming : (context.incoming.map RouteConsumer.ring).Nodup

namespace RouterContext

variable {context : RouterContext ℚ} {number ring : Nat}

theorem consumerOf_eq (separate : context.Separate) {consumer : RouteConsumer ℚ}
    (found : context.incoming[number]? = some consumer) :
    context.consumerOf consumer.ring = some number :=
  findIdx?_eq_of_nodup separate.incoming found

theorem producerOf_eq (separate : context.Separate) {producer : RouteProducer}
    (found : context.outgoing[number]? = some producer) :
    context.producerOf producer.ring = some number :=
  findIdx?_eq_of_nodup separate.outgoing found

theorem exists_consumer (found : context.consumerOf ring = some number) :
    ∃ consumer, context.incoming[number]? = some consumer ∧ consumer.ring = ring := by
  obtain ⟨within, own, -⟩ := List.findIdx?_eq_some_iff_getElem.mp found
  exact ⟨_, List.getElem?_eq_getElem within, of_decide_eq_true own⟩

theorem consumerOf_eq_none :
    context.consumerOf ring = none ↔ ∀ consumer ∈ context.incoming, consumer.ring ≠ ring := by
  rw [consumerOf, List.findIdx?_eq_none_iff]
  exact forall₂_congr fun consumer _ => decide_eq_false_iff_not

end RouterContext

namespace RouterNetwork

variable {network : RouterNetwork} {context : RouterContext ℚ} {number : Nat}

theorem arrive_nil (network : RouterNetwork) (ring : Nat) : network.arrive ring [] = network := by
  rw [arrive, List.append_nil]
  exact congrArg (RouterNetwork.mk · network.metrics) (Function.update_eq_self ring network.ends)

theorem arrive_arrive (network : RouterNetwork) (ring : Nat) (samples more : List ℚ) :
    (network.arrive ring samples).arrive ring more = network.arrive ring (samples ++ more) := by
  simp only [arrive, Function.update_self, Function.update_idem, List.append_assoc]

theorem queued_reader (network : RouterNetwork) (context : RouterContext ℚ) (ring : Nat) :
    (network.load context).queued (network.reader context ring) =
      (network.ends ring).consumer := by
  rw [reader]
  cases found : context.consumerOf ring with
  | none => rfl
  | some number =>
      obtain ⟨consumer, present, rfl⟩ := RouterContext.exists_consumer found
      dsimp only
      rw [DeviceIoContext.queued, load, List.getElem?_map, present]
      rfl

theorem arrive_ends_ne {ring other : Nat} (different : other ≠ ring) (samples : List ℚ) :
    (network.arrive ring samples).ends other = network.ends other :=
  Function.update_of_ne different _ _

theorem arrive_ends_self (ring : Nat) (samples : List ℚ) :
    (network.arrive ring samples).ends ring =
      { network.ends ring with consumer := (network.ends ring).consumer ++ samples } :=
  Function.update_self _ _ _

/-- A reader with the ring in its own context does not see the samples. -/
theorem reader_arrive {ring other : Nat}
    (unseen : context.consumerOf other = none → other ≠ ring) (samples : List ℚ) :
    (network.arrive ring samples).reader context other = network.reader context other := by
  rw [reader, reader]
  cases found : context.consumerOf other with
  | some number => rfl
  | none => rw [arrive_ends_ne (unseen found)]

theorem eq_of_parts {first second : DeviceIoContext} (outgoing : first.outgoing = second.outgoing)
    (incoming : first.incoming = second.incoming) (metrics : first.metrics = second.metrics) :
    first = second := by
  cases first
  cases second
  cases outgoing
  cases incoming
  cases metrics
  rfl

/-- Changing the incoming route of a ring changes the one at its place. -/
theorem load_update (separate : context.Separate) {consumer : RouteConsumer ℚ}
    (found : context.incoming[number]? = some consumer) (ends : Nat → IncomingRoute ℚ)
    (route : IncomingRoute ℚ) :
    (context.incoming.map fun other => Function.update ends consumer.ring route other.ring) =
      (context.incoming.map fun other => ends other.ring).set number route := by
  refine List.ext_getElem? fun index => ?_
  rw [List.getElem?_set, List.getElem?_map, List.getElem?_map, List.length_map,
    if_pos (List.getElem?_eq_some_iff.mp found).1]
  by_cases here : number = index
  · obtain rfl := here
    rw [found, if_pos rfl, Option.map_some, Function.update_self]
  · rw [if_neg here]
    refine Option.map_congr fun other present => Function.update_of_ne (fun equal => ?_) _ _
    have unique := RouterContext.consumerOf_eq separate present
    rw [equal, RouterContext.consumerOf_eq separate found] at unique
    exact here (Option.some.inj unique)

/-- A sample that is pushed comes to its ring. -/
theorem load_push (separate : context.Separate) {producer : RouteProducer}
    (found : context.outgoing[number]? = some producer)
    (room : (network.ends producer.ring).consumer.length < producer.capacity) (sample : ℚ) :
    (network.load context).push number sample =
      (network.arrive producer.ring [sample]).load context := by
  have outgoing : (network.load context).outgoing[number]? =
      some ⟨producer.capacity, network.reader context producer.ring, producer.channels⟩ := by
    rw [load, List.getElem?_map, found]
    rfl
  have available : ¬ (network.load context).available
      ⟨producer.capacity, network.reader context producer.ring, producer.channels⟩ = 0 := by
    rw [DeviceIoContext.available, queued_reader]
    exact Nat.sub_ne_zero_of_lt room
  rw [DeviceIoContext.push, outgoing]
  dsimp only
  rw [if_neg available, reader]
  cases own : context.consumerOf producer.ring with
  | some place =>
      obtain ⟨consumer, present, same⟩ := RouterContext.exists_consumer own
      refine eq_of_parts ?_ ?_ rfl
      · refine List.map_congr_left fun other _ => ?_
        rw [reader_arrive fun none equal => by
          rw [equal, own] at none
          cases none]
      · have there : (network.load context).incoming[place]? =
            some (network.ends producer.ring) := by
          rw [load, List.getElem?_map, present, ← same]
          rfl
        refine Eq.trans ?_ (same ▸ load_update separate present network.ends
          { network.ends consumer.ring with
            consumer := (network.ends consumer.ring).consumer ++ [sample] }).symm
        dsimp only
        rw [List.modify_eq_set_getElem?, there]
        rfl
  | none =>
      refine eq_of_parts ?_ ?_ rfl
      · refine List.ext_getElem? fun index => ?_
        dsimp only
        rw [List.getElem?_set, load, load, List.getElem?_map, List.getElem?_map, List.length_map,
          if_pos (List.getElem?_eq_some_iff.mp found).1]
        by_cases here : number = index
        · obtain rfl := here
          rw [if_pos rfl, found, Option.map_some, reader, own, arrive_ends_self]
        · rw [if_neg here]
          refine Option.map_congr fun other present => ?_
          rw [reader_arrive fun _ equal => ?_]
          have unique := RouterContext.producerOf_eq separate present
          rw [equal, RouterContext.producerOf_eq separate found] at unique
          exact here (Option.some.inj unique)
      · exact List.map_congr_left fun other member =>
          (arrive_ends_ne (RouterContext.consumerOf_eq_none.mp own other member) _).symm

/-- An incoming route that goes on is the one of its ring. -/
theorem load_setPlaying (separate : context.Separate) {consumer : RouteConsumer ℚ}
    (found : context.incoming[number]? = some consumer) (playing : PlayingRoute) :
    (network.load context).setPlaying number playing =
      (network.play consumer.ring playing).load context := by
  refine eq_of_parts ?_ (load_update separate found network.ends playing.route).symm rfl
  refine List.map_congr_left fun other _ => ?_
  rw [reader, reader]
  cases elsewhere : context.consumerOf other.ring with
  | some place => rfl
  | none =>
      have different := RouterContext.consumerOf_eq_none.mp elsewhere consumer
        (List.mem_of_getElem? found)
      rw [play]
      dsimp only
      rw [Function.update_of_ne different.symm]

theorem eq_of_ends {first second : RouterNetwork} (ends : first.ends = second.ends)
    (metrics : first.metrics = second.metrics) : first = second := by
  cases first
  cases second
  cases ends
  cases metrics
  rfl

/-! ## The network of the links -/

/-- The network that the links make up: their incoming routes, and the counts of
all of them. -/
def ofLinks (links : List RouterLink) : RouterNetwork where
  ends ring := (links[ring]?.map fun link => link.run.playing.route).getD default
  metrics :=
    { underruns := UInt64.ofNat (links.map fun link => link.run.losses).sum
      overruns := UInt64.ofNat (links.map fun link => link.queue.refused).sum
      formatErrors := 0 }

theorem ofLinks_ends (links : List RouterLink) (ring : Nat) :
    (ofLinks links).ends ring =
      (links[ring]?.map fun link => link.run.playing.route).getD default :=
  rfl

end RouterNetwork

/-- Every route has its link. -/
structure SoundLinks (routes : List (AudioRoute ℚ)) (links : List RouterLink) : Prop where
  length_eq : links.length = routes.length
  sound : ∀ (ring : Nat) (route : AudioRoute ℚ) (link : RouterLink), routes[ring]? = some route →
    links[ring]? = some link → link.Sound route

namespace SoundLinks

variable {routes : List (AudioRoute ℚ)} {links : List RouterLink} {ring : Nat}
  {route : AudioRoute ℚ}

theorem exists_link (sound : SoundLinks routes links) (found : routes[ring]? = some route) :
    ∃ link, links[ring]? = some link ∧ link.Sound route := by
  have within := (List.getElem?_eq_some_iff.mp found).1
  have present := List.getElem?_eq_getElem (sound.length_eq.symm ▸ within)
  exact ⟨_, present, sound.sound ring route _ found present⟩

theorem ends_eq {link : RouterLink} (present : links[ring]? = some link) :
    (RouterNetwork.ofLinks links).ends ring = link.run.playing.route := by
  rw [RouterNetwork.ofLinks_ends, present]
  rfl

theorem step (sound : SoundLinks routes links) {action : LinkAction}
    (found : routes[ring]? = some route) (sized : RouterLink.Sized route action) :
    SoundLinks routes (IndependentParts.step RouterLink.step links (ring, action)) where
  length_eq := (length_step _ _).trans sound.length_eq
  sound := by
    intro other otherRoute link otherFound present
    rw [getElem?_step] at present
    obtain ⟨earlier, before, rfl⟩ := Option.map_eq_some_iff.mp present
    have held := sound.sound other otherRoute earlier otherFound before
    by_cases own : ring = other
    · obtain rfl := own
      obtain rfl := Option.some.inj (found.symm.trans otherFound)
      rw [if_pos rfl]
      exact held.step sized
    · rw [if_neg own]
      exact held

/-- What a step of a link does to the incoming routes. -/
theorem ends_step {link : RouterLink} (present : links[ring]? = some link) (action : LinkAction) :
    (RouterNetwork.ofLinks (IndependentParts.step RouterLink.step links (ring, action))).ends =
      Function.update (RouterNetwork.ofLinks links).ends ring
        (link.step action).run.playing.route := by
  funext other
  rw [RouterNetwork.ofLinks_ends, getElem?_step, Option.map_map]
  by_cases own : other = ring
  · obtain rfl := own
    rw [present, Function.update_self, Option.map_some, Function.comp_apply, if_pos rfl]
    rfl
  · rw [Function.update_of_ne own, RouterNetwork.ofLinks_ends]
    refine congrArg (Option.getD · default) (Option.map_congr fun part _ => ?_)
    rw [Function.comp_apply, if_neg (Ne.symm own)]

/-- A frame that is recorded comes to the ring, if it has room. -/
theorem ofLinks_record (sound : SoundLinks routes links) (found : routes[ring]? = some route)
    {frame : List ℚ} (size : frame.length = route.sourceChannels.toNat)
    (room : route.sourceChannels.toNat ≤ ringCapacity route.sourceChannels.toNat -
      ((RouterNetwork.ofLinks links).ends ring).consumer.length) :
    RouterNetwork.ofLinks (IndependentParts.step RouterLink.step links (ring, .record frame)) =
      (RouterNetwork.ofLinks links).arrive ring frame := by
  obtain ⟨link, present, held⟩ := sound.exists_link found
  rw [ends_eq present] at room
  have place := held.place_iff.mpr room
  have run : (link.step (.record frame)).run = _ :=
    (if_pos place).trans (RouterRun.arrive_frame (size.trans held.channels_eq.symm))
  have refused : (link.step (.record frame)).queue.refused = link.queue.refused := by
    change (link.queue.offer link.places frame).refused = _
    rw [BoundedQueue.offer, if_pos place]
  have losses := @sum_step RouterLink LinkAction RouterLink.step links (ring, .record frame) link
    present fun link => link.run.losses
  have overruns := @sum_step RouterLink LinkAction RouterLink.step links (ring, .record frame) link
    present fun link => link.queue.refused
  dsimp only at losses overruns
  rw [run] at losses
  rw [refused] at overruns
  refine RouterNetwork.eq_of_ends ?_ ?_
  · rw [ends_step present, run, RouterNetwork.arrive, ends_eq present]
  · rw [RouterNetwork.ofLinks, Nat.add_right_cancel losses, Nat.add_right_cancel overruns]
    rfl

/-- A frame without room is an overrun. -/
theorem ofLinks_refuse (sound : SoundLinks routes links) (found : routes[ring]? = some route)
    (frame : List ℚ) (full : ringCapacity route.sourceChannels.toNat -
      ((RouterNetwork.ofLinks links).ends ring).consumer.length < route.sourceChannels.toNat) :
    RouterNetwork.ofLinks (IndependentParts.step RouterLink.step links (ring, .record frame)) =
      { RouterNetwork.ofLinks links with
        metrics :=
          { (RouterNetwork.ofLinks links).metrics with
            overruns := (RouterNetwork.ofLinks links).metrics.overruns + 1 } } := by
  obtain ⟨link, present, held⟩ := sound.exists_link found
  rw [ends_eq present] at full
  have place := mt held.place_iff.mp (not_le.mpr full)
  have run : (link.step (.record frame)).run = link.run := if_neg place
  have refused : (link.step (.record frame)).queue.refused = link.queue.refused + 1 := by
    change (link.queue.offer link.places frame).refused = _
    rw [BoundedQueue.offer, if_neg place]
  have losses := @sum_step RouterLink LinkAction RouterLink.step links (ring, .record frame) link
    present fun link => link.run.losses
  have overruns := @sum_step RouterLink LinkAction RouterLink.step links (ring, .record frame) link
    present fun link => link.queue.refused
  dsimp only at losses overruns
  rw [run] at losses
  rw [refused, ← Nat.add_assoc, Nat.add_right_comm] at overruns
  refine RouterNetwork.eq_of_ends ?_ ?_
  · rw [ends_step present, run, ← ends_eq present]
    exact Function.update_eq_self ring _
  · rw [RouterNetwork.ofLinks, Nat.add_right_cancel losses, Nat.add_right_cancel overruns,
      UInt64.ofNat_add]
    rfl

/-- Preparing an output frame of a route is a step of its link. -/
theorem ofLinks_prepare (sound : SoundLinks routes links) (found : routes[ring]? = some route) :
    RouterNetwork.ofLinks (IndependentParts.step RouterLink.step links (ring, .prepare)) =
      (RouterNetwork.ofLinks links).play ring (PlayingRoute.prepareOutputFrame
        ⟨(RouterNetwork.ofLinks links).ends ring, (RouterNetwork.ofLinks links).metrics⟩).2 := by
  obtain ⟨link, present, held⟩ := sound.exists_link found
  have playing : (link.step .prepare).run.playing = link.run.playing.prepareOutputFrame.2 :=
    RouterRun.prepare_playing link.run
  have more : link.run.losses ≤ (link.step .prepare).run.losses := link.run.losses_le_prepare
  have losses := @sum_step RouterLink LinkAction RouterLink.step links (ring, .prepare) link
    present fun link => link.run.losses
  have overruns := @sum_step RouterLink LinkAction RouterLink.step links (ring, .prepare) link
    present fun link => link.queue.refused
  dsimp only at losses overruns
  have total : ((IndependentParts.step RouterLink.step links (ring, .prepare)).map
      fun link => link.run.losses).sum = (links.map fun link => link.run.losses).sum +
        ((link.step .prepare).run.losses - link.run.losses) := by
    omega
  refine RouterNetwork.eq_of_ends ?_ ?_
  · rw [ends_step present, RouterNetwork.play, ends_eq present, playing,
      (PlayingRoute.prepareOutputFrame_metrics link.run.playing.route
        (RouterNetwork.ofLinks links).metrics link.run.playing.metrics).2]
  · rw [RouterNetwork.play, ends_eq present, held.underruns, RouterNetwork.ofLinks, total,
      Nat.add_right_cancel overruns, UInt64.ofNat_add]
    rfl

end SoundLinks

/-! ## Recording -/

/-- The context has the ends of the routes of its device. -/
structure RouterContext.Serves (routes : List (AudioRoute ℚ)) (context : RouterContext ℚ) :
    Prop where
  outgoing_eq : context.outgoing = producersFrom context.deviceId 0 routes
  incoming_eq : context.incoming = consumersInto context.deviceId 0 routes

namespace RouterContext

/-- The steps of the links in recording an input. -/
def recordTurns (context : RouterContext ℚ) (input : AudioBufferList ℚ) (frames : Nat) :
    List (Nat × LinkAction) :=
  (List.range frames).flatMap fun frame => context.outgoing.map fun producer =>
    (producer.ring, .record (frameOf input producer.channels frame))

/-- The steps of the links in playing an output. -/
def playTurns (context : RouterContext ℚ) (frames : Nat) : List (Nat × LinkAction) :=
  context.incoming.flatMap fun consumer => List.replicate frames (consumer.ring, .prepare)

variable {routes : List (AudioRoute ℚ)} {context : RouterContext ℚ}

theorem Serves.exists_route (serves : context.Serves routes) {producer : RouteProducer}
    (member : producer ∈ context.outgoing) : ∃ route, routes[producer.ring]? = some route ∧
      producer = route.producer producer.ring ∧ route.sourceDeviceId = context.deviceId := by
  rw [serves.outgoing_eq] at member
  obtain ⟨⟨route, ring⟩, among, rfl⟩ := List.mem_map.mp member
  obtain ⟨present, own⟩ := List.mem_filter.mp among
  exact ⟨route, List.mem_zipIdx_iff_getElem?.mp present, rfl, of_decide_eq_true own⟩

theorem Serves.exists_sinkRoute (serves : context.Serves routes) {consumer : RouteConsumer ℚ}
    (member : consumer ∈ context.incoming) : ∃ route, routes[consumer.ring]? = some route ∧
      consumer = route.consumer consumer.ring ∧ route.sinkDeviceId = context.deviceId := by
  rw [serves.incoming_eq] at member
  obtain ⟨⟨route, ring⟩, among, rfl⟩ := List.mem_map.mp member
  obtain ⟨present, own⟩ := List.mem_filter.mp among
  exact ⟨route, List.mem_zipIdx_iff_getElem?.mp present, rfl, of_decide_eq_true own⟩

theorem nodup_rings (keep : AudioRoute ℚ × Nat → Bool) :
    ((routes.zipIdx.filter keep).map Prod.snd).Nodup := by
  refine List.Nodup.sublist (List.filter_sublist.map _) ?_
  rw [List.zipIdx_map_snd]
  exact List.nodup_range'

theorem Serves.separate (serves : context.Serves routes) : context.Separate where
  outgoing := by
    rw [serves.outgoing_eq, producersFrom, List.map_map]
    exact nodup_rings _
  incoming := by
    rw [serves.incoming_eq, consumersInto, List.map_map]
    exact nodup_rings _

end RouterContext

/-- A loop over the places of some items, whose passes are steps of something that
the state shows. -/
theorem forM_range_view {σ ε τ ι : Type} {body : Nat → FallibleState σ ε Unit} {view : τ → σ}
    {next : τ → ι → τ} {sound : τ → Prop} {items : List ι}
    (pass : ∀ index (within : index < items.length) inner, sound inner →
      body index (view inner) = (.ok (), view (next inner items[index])) ∧
        sound (next inner items[index])) {inner : τ} (held : sound inner) :
    (List.range items.length).forM body (view inner) = (.ok (), view (items.foldl next inner)) ∧
      sound (items.foldl next inner) := by
  obtain ⟨reached, looped, rfl, after⟩ := @forM_range_ok σ ε body
    (fun count reached => reached = view ((items.take count).foldl next inner) ∧
      sound ((items.take count).foldl next inner)) items.length (view inner) ⟨rfl, held⟩ (by
      rintro index within _ ⟨rfl, middle⟩
      obtain ⟨passes, later⟩ := pass index within _ middle
      refine ⟨_, passes, ?_⟩
      rw [List.take_succ_eq_append_getElem within, List.foldl_append]
      exact ⟨rfl, later⟩)
  rw [List.take_length] at looped after
  exact ⟨looped, after⟩

section Recording

open Callback

variable {routes : List (AudioRoute ℚ)} {links : List RouterLink} {network : RouterNetwork}
  {context : RouterContext ℚ} {input : AudioBufferList ℚ} {output : Option (AudioBufferList ℚ)}
  {frames number : Nat}

/-- The loop over the channels pushes a frame. -/
theorem captureSamples_arrive (separate : context.Separate) {producer : RouteProducer}
    (found : context.outgoing[number]? = some producer)
    (framed : audioBufferListFrames input = some frames) {frame : Nat} (within : frame < frames)
    (wide : producer.channels ≤ channelCount input.buffers)
    (room : producer.channels ≤
      producer.capacity - (network.ends producer.ring).consumer.length) :
    (List.range producer.channels).forM (captureSample input frame number)
        ⟨network.load context, output⟩ =
      (.ok (), ⟨(network.arrive producer.ring
        (frameOf input producer.channels frame)).load context, output⟩) := by
  have length := length_frameOf input producer.channels frame
  obtain ⟨reached, looped, rfl⟩ := @forM_range_ok CallbackState CallbackExit
    (captureSample input frame number) (fun count reached => reached =
      ⟨(network.arrive producer.ring
        ((frameOf input producer.channels frame).take count)).load context, output⟩)
    producer.channels ⟨network.load context, output⟩
    (by rw [List.take_zero, RouterNetwork.arrive_nil]) (by
      rintro channel channelWithin _ rfl
      obtain ⟨sample, read⟩ := Option.isSome_iff_exists.mp
        ((isSome_readAudioSample framed within).mpr (channelWithin.trans_le wide))
      have last : (frameOf input producer.channels frame).take (channel + 1) =
          (frameOf input producer.channels frame).take channel ++ [sample] := by
        rw [List.take_succ_eq_append_getElem (length.symm ▸ channelWithin)]
        simp [frameOf, read]
      refine ⟨_, ?_, rfl⟩
      rw [captureSample, read, last, ← RouterNetwork.arrive_arrive,
        ← RouterNetwork.load_push separate found]
      · rfl
      · rw [RouterNetwork.arrive_ends_self, List.length_append, List.length_take, length]
        omega)
  rw [looped, List.take_of_length_le length.le]

/-- A pass of the loop over the outgoing routes is a step of a link. -/
theorem captureRoute_links (serves : context.Serves routes) (sound : SoundLinks routes links)
    {producer : RouteProducer} (found : context.outgoing[number]? = some producer)
    (framed : audioBufferListFrames input = some frames) {frame : Nat} (within : frame < frames)
    (wide : producer.channels ≤ channelCount input.buffers) :
    captureRoute input frame number ⟨(RouterNetwork.ofLinks links).load context, output⟩ =
        (.ok (), ⟨(RouterNetwork.ofLinks (IndependentParts.step RouterLink.step links
          (producer.ring, .record (frameOf input producer.channels frame)))).load context,
            output⟩) ∧
      SoundLinks routes (IndependentParts.step RouterLink.step links
        (producer.ring, .record (frameOf input producer.channels frame))) := by
  obtain ⟨route, present, own, -⟩ := serves.exists_route (List.mem_of_getElem? found)
  have channels : producer.channels = route.sourceChannels.toNat := by rw [own]; rfl
  have capacity : producer.capacity = ringCapacity route.sourceChannels.toNat := by rw [own]; rfl
  have length := length_frameOf input producer.channels frame
  refine ⟨?_, sound.step present (length.trans channels)⟩
  have looked : okOr CallbackExit.panicked
      ((RouterNetwork.ofLinks links).load context).outgoing[number]? =
        .ok ⟨producer.capacity, (RouterNetwork.ofLinks links).reader context producer.ring,
          producer.channels⟩ := by
    rw [RouterNetwork.load, List.getElem?_map, found]
    rfl
  refine Eq.trans (inspect_bind_apply looked) (Eq.trans (inspect_bind_apply rfl) ?_)
  rw [DeviceIoContext.available, RouterNetwork.queued_reader]
  dsimp only
  by_cases full : producer.capacity -
      ((RouterNetwork.ofLinks links).ends producer.ring).consumer.length < producer.channels
  · rw [if_pos full, sound.ofLinks_refuse present _ (by rw [← capacity, ← channels]; exact full)]
    rfl
  · have room := not_lt.mp full
    rw [if_neg full, captureSamples_arrive serves.separate found framed within wide room,
      sound.ofLinks_record present (length.trans channels)
        (by rw [← capacity, ← channels]; exact room)]

/-- Recording an input with enough channels is a run of the links. -/
theorem capture_links (serves : context.Serves routes) (sound : SoundLinks routes links)
    (framed : audioBufferListFrames input = some frames)
    (wide : ∀ producer ∈ context.outgoing, producer.channels ≤ channelCount input.buffers) :
    capture (some input) ⟨(RouterNetwork.ofLinks links).load context, output⟩ =
        (.ok (), ⟨(RouterNetwork.ofLinks (IndependentParts.run RouterLink.step links
          (context.recordTurns input frames))).load context, output⟩) ∧
      SoundLinks routes
        (IndependentParts.run RouterLink.step links (context.recordTurns input frames)) := by
  have count : ((RouterNetwork.ofLinks links).load context).outgoing.length =
      context.outgoing.length := List.length_map _
  by_cases none : context.outgoing = []
  · have turns : context.recordTurns input frames = [] := by
      simp [RouterContext.recordTurns, none]
    rw [turns]
    refine ⟨Eq.trans (inspect_bind_apply rfl) (congrFun (if_pos ?_) _), sound⟩
    rw [count, none, List.length_nil]
  · have records : capture (some input) ⟨(RouterNetwork.ofLinks links).load context, output⟩ =
        (List.range frames).forM
          (fun frame => (List.range context.outgoing.length).forM (captureRoute input frame))
          ⟨(RouterNetwork.ofLinks links).load context, output⟩ := by
      refine Eq.trans (inspect_bind_apply rfl) (Eq.trans (congrFun (if_neg ?_) _) ?_)
      · rw [count]
        exact fun empty => none (List.length_eq_zero_iff.mp empty)
      · rw [framed, ← count]
    have loops := @forM_range_view CallbackState CallbackExit (List RouterLink) Nat
      (fun frame => (List.range context.outgoing.length).forM (captureRoute input frame))
      (fun links => ⟨(RouterNetwork.ofLinks links).load context, output⟩)
      (fun links frame => (context.outgoing.map fun producer =>
        (producer.ring, LinkAction.record (frameOf input producer.channels frame))).foldl
          (IndependentParts.step RouterLink.step) links)
      (SoundLinks routes) (List.range frames) (by
        intro frame within links sound
        rw [List.length_range] at within
        rw [List.getElem_range, List.foldl_map]
        exact @forM_range_view CallbackState CallbackExit (List RouterLink) RouteProducer
          (captureRoute input frame)
          (fun links => ⟨(RouterNetwork.ofLinks links).load context, output⟩)
          (fun links producer => IndependentParts.step RouterLink.step links
            (producer.ring, .record (frameOf input producer.channels frame)))
          (SoundLinks routes) context.outgoing (fun number present links sound =>
            captureRoute_links serves sound (List.getElem?_eq_getElem present) framed within
              (wide _ (List.getElem_mem present))) links sound) links sound
    rw [List.length_range] at loops
    rw [records, IndependentParts.run, RouterContext.recordTurns, List.foldl_flatMap]
    exact loops

end Recording

/-! ## Playing -/

section Playing

open Callback

variable {routes : List (AudioRoute ℚ)} {links : List RouterLink} {context : RouterContext ℚ}
  {output : AudioBufferList ℚ} {frames number : Nat}

/-- A state whose context shows links, with an output of a layout. -/
structure Shows (routes : List (AudioRoute ℚ)) (context : RouterContext ℚ)
    (output : AudioBufferList ℚ) (links : List RouterLink) (state : CallbackState) : Prop where
  sound : SoundLinks routes links
  context_eq : state.context = (RouterNetwork.ofLinks links).load context
  output_eq : ∃ after, state.output = some after ∧ SameLayout output.buffers after.buffers

/-- A pass of the loop over the frames is a step of a link. -/
theorem playFrame_links (serves : context.Serves routes) {state : CallbackState}
    (shows : Shows routes context output links state) {consumer : RouteConsumer ℚ}
    (found : context.incoming[number]? = some consumer)
    (framed : audioBufferListFrames output = some frames) {frame : Nat} (within : frame < frames)
    (wide : consumer.route.sinkChannels ≤ channelCount output.buffers) :
    ∃ reached, playFrame number frame state = (.ok (), reached) ∧
      Shows routes context output
        (IndependentParts.step RouterLink.step links (consumer.ring, .prepare)) reached := by
  obtain ⟨sound, context_eq, middle, output_eq, layout⟩ := shows
  obtain ⟨route, present, own, -⟩ := serves.exists_sinkRoute (List.mem_of_getElem? found)
  obtain ⟨link, linked, held⟩ := sound.exists_link present
  have ends := SoundLinks.ends_eq linked
  have current : state.context.incoming[number]? =
      some ((RouterNetwork.ofLinks links).ends consumer.ring) := by
    rw [context_eq, RouterNetwork.load, List.getElem?_map, found]
    rfl
  have narrow : ((RouterNetwork.ofLinks links).ends consumer.ring).sinkChannels ≤
      channelCount middle.buffers := by
    rw [own] at wide
    rw [ends, held.settings.sinkChannels_eq, layout.channelCount_eq]
    exact wide
  obtain ⟨after, played, adds⟩ := playFrame_adds current output_eq
    (layout.audioBufferListFrames_eq.trans framed) (ends ▸ held.wellFormed) within narrow
  refine ⟨_, played, sound.step present trivial, ?_, after, rfl, layout.trans adds.layout⟩
  dsimp only
  rw [context_eq, RouterNetwork.load_setPlaying serves.separate found,
    sound.ofLinks_prepare present]
  rfl

/-- Playing into an output with enough channels is a run of the links. -/
theorem play_links (serves : context.Serves routes) (sound : SoundLinks routes links)
    (framed : audioBufferListFrames output = some frames)
    (wide : ∀ consumer ∈ context.incoming,
      consumer.route.sinkChannels ≤ channelCount output.buffers)
    (anyRoute : context.incoming ≠ []) :
    ∃ reached, play ⟨(RouterNetwork.ofLinks links).load context, some output⟩ =
        (.ok (), reached) ∧
      Shows routes context output
        (IndependentParts.run RouterLink.step links (context.playTurns frames)) reached := by
  have count : ((RouterNetwork.ofLinks links).load context).incoming.length =
      context.incoming.length := List.length_map _
  have present : ((RouterNetwork.ofLinks links).load context).incoming ≠ [] := by
    rw [Ne, ← List.length_eq_zero_iff, count, List.length_eq_zero_iff]
    exact anyRoute
  rw [play_apply present rfl framed]
  dsimp only
  rw [count]
  obtain ⟨reached, looped, shows⟩ := @forM_range_ok CallbackState CallbackExit
    (fun number => (List.range frames).forM (playFrame number))
    (fun count => Shows routes context output (IndependentParts.run RouterLink.step links
      ((context.incoming.take count).flatMap fun consumer =>
        List.replicate frames (consumer.ring, LinkAction.prepare))))
    context.incoming.length
    ⟨(RouterNetwork.ofLinks links).load context, some (clearAudioBufferList output)⟩
    ⟨sound, rfl, _, rfl, sameLayout_clearAudioBufferList output⟩ (by
      intro number within state shows
      have found := List.getElem?_eq_getElem within
      rw [List.take_succ_eq_append_getElem within, List.flatMap_append, run_append,
        List.flatMap_singleton]
      generalize IndependentParts.run RouterLink.step links _ = links at shows ⊢
      obtain ⟨reached, looped, shows⟩ := @forM_range_ok CallbackState CallbackExit
        (playFrame number) (fun count => Shows routes context output
          (IndependentParts.run RouterLink.step links
            (List.replicate count (context.incoming[number].ring, LinkAction.prepare))))
        frames state shows (by
          intro frame frameWithin state shows
          rw [List.replicate_succ', run_append]
          exact playFrame_links serves shows found framed frameWithin
            (wide _ (List.getElem_mem within)))
      exact ⟨reached, looped, shows⟩)
  rw [List.take_length] at shows
  exact ⟨reached, looped, shows⟩

end Playing

end VCable
