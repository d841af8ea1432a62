import VCable.ListSelections
import VCable.PcmResamplerPosition
import VCable.RouterResampler

/-!
# The wiring of the router

`AudioRouter::start` checks its routes against the devices that are there, and
makes a ring for each.  The context of a device gets the producers of the routes
that it is the source of, and the consumers of those that it is the sink of.
-/

namespace VCable

open ListSelections Std

variable {F : Type} [SinglePrecision F]

/-! ## The checks -/

/-- The devices of a listing by their identifiers; a later one of the same
identifier takes the place. -/
def devicesById (devices : List AudioDevice) : ExtTreeMap UInt32 AudioDevice :=
  (∅ : ExtTreeMap UInt32 AudioDevice).insertAll AudioDevice.objectId devices

/-- A pass of the loop of `validate_routes`. -/
def validateRoute (devices : ExtTreeMap UInt32 AudioDevice) (route : AudioRoute F) :
    Except CoreAudioError Unit :=
  if route.sourceChannels = 0 ∨ route.sinkChannels = 0 then
    .error (.invalidRoute "channel counts must be greater than zero")
  else if route.matrix.length ≠ route.sourceChannels.toNat * route.sinkChannels.toNat ∨
      (route.matrix.any fun value => !SinglePrecision.isFinite value) then
    .error (.invalidRoute "channel matrix dimensions or values are invalid")
  else if !SinglePrecision.isFinite route.gain ∨ route.sourceSampleRate = 0 ∨
      route.sinkSampleRate = 0 then
    .error (.invalidRoute "gain and sample rates must be finite and nonzero")
  else
    match devices[route.sourceDeviceId]?, devices[route.sinkDeviceId]? with
    | none, _ =>
        .error (.invalidRoute s!"source device {route.sourceDeviceId} is unavailable")
    | some _, none =>
        .error (.invalidRoute s!"sink device {route.sinkDeviceId} is unavailable")
    | some source, some sink =>
        if source.inputChannels ≠ route.sourceChannels ∨
            source.sampleRate ≠ route.sourceSampleRate then
          .error (.invalidRoute s!"source device {route.sourceDeviceId} format changed")
        else if sink.outputChannels ≠ route.sinkChannels ∨
            sink.sampleRate ≠ route.sinkSampleRate then
          .error (.invalidRoute s!"sink device {route.sinkDeviceId} format changed")
        else .ok ()

def validateEach (devices : ExtTreeMap UInt32 AudioDevice) :
    List (AudioRoute F) → Except CoreAudioError Unit
  | [] => .ok ()
  | route :: routes =>
      match validateRoute devices route with
      | .error failure => .error failure
      | .ok () => validateEach devices routes

/-- `validate_routes`, with what `list_devices` returns. -/
def validateRoutes (listing : Except CoreAudioError (List AudioDevice))
    (routes : List (AudioRoute F)) : Except CoreAudioError Unit :=
  match listing with
  | .error failure => .error failure
  | .ok devices => validateEach (devicesById devices) routes

/-! ## The contexts -/

/-- An `OutgoingRoute`, with the number and the capacity of its ring. -/
structure RouteProducer where
  ring : Nat
  capacity : Nat
  channels : Nat
  deriving DecidableEq

/-- An `IncomingRoute`, with the number of its ring. -/
structure RouteConsumer (F : Type) where
  ring : Nat
  route : IncomingRoute F

/-- What the map of `AudioRouter::start` has for a device. -/
structure RouteEnds (F : Type) where
  outgoing : List RouteProducer
  incoming : List (RouteConsumer F)

namespace RouteEnds

/-- The value of `Entry::or_default`. -/
def empty : RouteEnds F where
  outgoing := []
  incoming := []

def addOutgoing (producer : RouteProducer) (ends : RouteEnds F) : RouteEnds F :=
  { ends with outgoing := ends.outgoing ++ [producer] }

def addIncoming (consumer : RouteConsumer F) (ends : RouteEnds F) : RouteEnds F :=
  { ends with incoming := ends.incoming ++ [consumer] }

end RouteEnds

/-- A pass of the loop of `AudioRouter::start` over the routes. -/
def wireRoute (builders : ExtTreeMap UInt32 (RouteEnds F)) (number : Nat) (route : AudioRoute F) :
    Except CoreAudioError (ExtTreeMap UInt32 (RouteEnds F)) :=
  match RouterRoute.start ((0 : Nat) : F) route.sourceChannels with
  | .error message => .error (.invalidRoute message)
  | .ok ring =>
      let withProducer := builders.changeEntry .empty route.sourceDeviceId
        (RouteEnds.addOutgoing
          { ring := number
            capacity := ring.queue.ring.capacity
            channels := route.sourceChannels.toNat })
      .ok (withProducer.changeEntry .empty route.sinkDeviceId
        (RouteEnds.addIncoming { ring := number, route := .new route }))

def wireRoutes : ExtTreeMap UInt32 (RouteEnds F) → Nat → List (AudioRoute F) →
    Except CoreAudioError (ExtTreeMap UInt32 (RouteEnds F))
  | builders, _, [] => .ok builders
  | builders, number, route :: routes =>
      match wireRoute builders number route with
      | .error failure => .error failure
      | .ok wired => wireRoutes wired (number + 1) routes

/-- A `DeviceIoContext` before its callbacks run. -/
structure RouterContext (F : Type) where
  deviceId : UInt32
  outgoing : List RouteProducer
  incoming : List (RouteConsumer F)

/-- The contexts in the order of the map. -/
def routerContexts (builders : ExtTreeMap UInt32 (RouteEnds F)) : List (RouterContext F) :=
  builders.toList.map fun (deviceId, ends) =>
    { deviceId := deviceId, outgoing := ends.outgoing, incoming := ends.incoming }

/-- `AudioRouter::start` up to the first call for an IOProc. -/
def wireRouter (listing : Except CoreAudioError (List AudioDevice)) (routes : List (AudioRoute F)) :
    Except CoreAudioError (List (RouterContext F)) :=
  match validateRoutes listing routes with
  | .error failure => .error failure
  | .ok () =>
      match wireRoutes ∅ 0 routes with
      | .error failure => .error failure
      | .ok builders => .ok (routerContexts builders)

/-! ## What the checks accept -/

/-- The numbers of a route are in order, whatever the devices. -/
structure AudioRoute.WellFormed (route : AudioRoute F) : Prop where
  source_channels : route.sourceChannels ≠ 0
  sink_channels : route.sinkChannels ≠ 0
  matrix_length : route.matrix.length = route.sourceChannels.toNat * route.sinkChannels.toNat
  matrix_finite : ∀ value ∈ route.matrix, SinglePrecision.isFinite value = true
  gain_finite : SinglePrecision.isFinite route.gain = true
  source_rate : route.sourceSampleRate ≠ 0
  sink_rate : route.sinkSampleRate ≠ 0

/-- The devices of a route are there, with the formats that it was made for. -/
structure AudioRoute.Available (devices : ExtTreeMap UInt32 AudioDevice) (route : AudioRoute F) :
    Prop where
  source : ∃ source, devices[route.sourceDeviceId]? = some source ∧
    source.inputChannels = route.sourceChannels ∧ source.sampleRate = route.sourceSampleRate
  sink : ∃ sink, devices[route.sinkDeviceId]? = some sink ∧
    sink.outputChannels = route.sinkChannels ∧ sink.sampleRate = route.sinkSampleRate

/-- The errors that are about the devices of a route. -/
def AudioRoute.deviceErrors (route : AudioRoute F) : List CoreAudioError :=
  [.invalidRoute s!"source device {route.sourceDeviceId} is unavailable",
    .invalidRoute s!"sink device {route.sinkDeviceId} is unavailable",
    .invalidRoute s!"source device {route.sourceDeviceId} format changed",
    .invalidRoute s!"sink device {route.sinkDeviceId} format changed"]

variable {devices : ExtTreeMap UInt32 AudioDevice} {route : AudioRoute F}
  {routes : List (AudioRoute F)}

theorem validateRoute_eq_ok_iff :
    validateRoute devices route = .ok () ↔ route.WellFormed ∧ route.Available devices := by
  constructor
  · intro accepted
    unfold validateRoute at accepted
    split_ifs at accepted with channels matrix numbers
    push Not at channels matrix numbers
    have wellFormed : route.WellFormed :=
      { source_channels := channels.1
        sink_channels := channels.2
        matrix_length := matrix.1
        matrix_finite := by simpa using matrix.2
        gain_finite := by simpa using numbers.1
        source_rate := numbers.2.1
        sink_rate := numbers.2.2 }
    refine ⟨wellFormed, ?_⟩
    split at accepted
    · cases accepted
    · cases accepted
    · rename_i source sink sourceFound sinkFound
      split_ifs at accepted with sourceChanged sinkChanged
      push Not at sourceChanged sinkChanged
      exact ⟨⟨source, sourceFound, sourceChanged⟩, ⟨sink, sinkFound, sinkChanged⟩⟩
  · rintro ⟨wellFormed, ⟨source, sourceFound, sourceFormat⟩, ⟨sink, sinkFound, sinkFormat⟩⟩
    have channels : ¬ (route.sourceChannels = 0 ∨ route.sinkChannels = 0) := by
      push Not
      exact ⟨wellFormed.source_channels, wellFormed.sink_channels⟩
    have finite : (route.matrix.any fun value => !SinglePrecision.isFinite value) = false := by
      simpa using wellFormed.matrix_finite
    rw [validateRoute, if_neg channels, if_neg (by simp [finite, wellFormed.matrix_length]),
      if_neg (by simp [wellFormed.gain_finite, wellFormed.source_rate, wellFormed.sink_rate]),
      sourceFound, sinkFound]
    dsimp only
    rw [if_neg (by simp [sourceFormat]), if_neg (by simp [sinkFormat])]

/-- A well-formed route is refused only for its devices. -/
theorem AudioRoute.WellFormed.validateRoute_eq_error (wellFormed : route.WellFormed)
    {failure : CoreAudioError} (refused : validateRoute devices route = .error failure) :
    failure ∈ route.deviceErrors ∧ ¬ route.Available devices := by
  constructor
  · have finite : (route.matrix.any fun value => !SinglePrecision.isFinite value) = false := by
      simpa using wellFormed.matrix_finite
    rw [validateRoute, if_neg (by simp [wellFormed.source_channels, wellFormed.sink_channels]),
      if_neg (by simp [finite, wellFormed.matrix_length]),
      if_neg (by simp [wellFormed.gain_finite, wellFormed.source_rate, wellFormed.sink_rate])]
      at refused
    split at refused
    · cases refused
      exact List.mem_cons_self
    · cases refused
      exact List.mem_cons_of_mem _ List.mem_cons_self
    · split_ifs at refused
      · cases refused
        exact List.mem_cons_of_mem _ (List.mem_cons_of_mem _ List.mem_cons_self)
      · cases refused
        exact List.mem_cons_of_mem _ (List.mem_cons_of_mem _ (List.mem_cons_of_mem _
          List.mem_cons_self))
  · intro available
    rw [validateRoute_eq_ok_iff.mpr ⟨wellFormed, available⟩] at refused
    cases refused

theorem validateEach_eq_ok_iff :
    validateEach devices routes = .ok () ↔
      ∀ route ∈ routes, validateRoute devices route = .ok () := by
  induction routes with
  | nil => exact ⟨fun _ => List.forall_mem_nil _, fun _ => rfl⟩
  | cons route routes ih =>
      rw [List.forall_mem_cons, ← ih, validateEach]
      cases validateRoute devices route with
      | ok done => exact ⟨fun rest => ⟨rfl, rest⟩, fun both => both.2⟩
      | error failure =>
          constructor
          · rintro ⟨⟩
          · rintro ⟨⟨⟩, _⟩

theorem validateEach_eq_error {failure : CoreAudioError}
    (refused : validateEach devices routes = .error failure) :
    ∃ route ∈ routes, validateRoute devices route = .error failure := by
  induction routes with
  | nil => cases refused
  | cons route routes ih =>
      rw [validateEach] at refused
      split at refused
      · rename_i own
        cases refused
        exact ⟨route, List.mem_cons_self, own⟩
      · obtain ⟨later, member, own⟩ := ih refused
        exact ⟨later, List.mem_cons_of_mem _ member, own⟩

/-! ## What the contexts get -/

/-- The capacity of a ring for so many channels. -/
def ringCapacity (channels : Nat) : Nat :=
  (checkedNextPowerOfTwo 64 (channels * 16384)).getD 0

theorem ringCapacity_spec {channels : Nat} (nonzero : channels ≠ 0) (narrow : channels < 2 ^ 32) :
    (∃ k, 1 ≤ k ∧ k < 64 ∧ ringCapacity channels = 2 ^ k) ∧
      channels * 16384 ≤ ringCapacity channels := by
  cases power : checkedNextPowerOfTwo 64 (channels * 16384) with
  | none =>
      have logarithm : (channels * 16384 - 1).log2 + 1 < 64 := by
        have less : (channels * 16384 - 1).log2 < 46 := by
          rw [Nat.log2_lt (by omega)]
          omega
        omega
      have small : 2 ^ ((channels * 16384 - 1).log2 + 1) < 2 ^ 64 :=
        Nat.pow_lt_pow_right (by decide) logarithm
      unfold checkedNextPowerOfTwo at power
      dsimp only at power
      rw [if_neg (by omega : ¬ channels * 16384 ≤ 1), if_pos small] at power
      cases power
  | some capacity =>
      have large := le_checkedNextPowerOfTwo power
      obtain ⟨k, below, rfl⟩ := checkedNextPowerOfTwo_eq power
      rw [ringCapacity, power, Option.getD_some]
      refine ⟨⟨k, Nat.pos_of_ne_zero ?_, below, rfl⟩, large⟩
      rintro rfl
      omega

theorem start_ring {α : Type} {zero : α} {channels : UInt32} (nonzero : channels ≠ 0) :
    ∃ ring, RouterRoute.start zero channels = .ok ring ∧
      ring.queue.ring.capacity = ringCapacity channels.toNat := by
  have positive : channels.toNat ≠ 0 := fun none => nonzero (UInt32.toNat_inj.mp none)
  have narrow := channels.toNat_lt
  obtain ⟨⟨k, least, below, power⟩, _⟩ := ringCapacity_spec positive narrow
  have product : checkedMul channels.toNat 16384 = some (channels.toNat * 16384) := by
    rw [checkedMul, if_pos]
    rw [usizeBound]
    omega
  have two : 2 ≤ ringCapacity channels.toNat := by
    rw [power]
    exact Nat.le_self_pow (Nat.one_le_iff_ne_zero.mp least) 2
  have isPower : isPowerOfTwo (ringCapacity channels.toNat) = true := by
    rw [power]
    simp [isPowerOfTwo]
  obtain ⟨ring, created, capacity⟩ : ∃ ring : Ring α 64,
      spscRingBuffer 64 zero (ringCapacity channels.toNat) = .ok ring ∧
        ring.capacity = ringCapacity channels.toNat := by
    refine ⟨⟨List.replicate (ringCapacity channels.toNat) zero,
      BitVec.ofNat 64 (ringCapacity channels.toNat - 1), 0, 0⟩, ?_, List.length_replicate⟩
    rw [spscRingBuffer, if_neg (Nat.not_lt.mpr two), isPower]
    rfl
  refine ⟨⟨RingSystem.initial ring 0, channels.toNat, none, [], []⟩, ?_, capacity⟩
  rw [RouterRoute.start, product]
  dsimp only
  rw [← ringCapacity, created]

/-- The producer and the consumer that `AudioRouter::start` makes for a route. -/
def AudioRoute.producer (ring : Nat) (route : AudioRoute F) : RouteProducer where
  ring := ring
  capacity := ringCapacity route.sourceChannels.toNat
  channels := route.sourceChannels.toNat

def AudioRoute.consumer (ring : Nat) (route : AudioRoute F) : RouteConsumer F where
  ring := ring
  route := .new route

/-- The producers of the routes out of a device, in the order of the routes. -/
def producersFrom (device : UInt32) (number : Nat) (routes : List (AudioRoute F)) :
    List RouteProducer :=
  ((routes.zipIdx number).filter fun entry => entry.1.sourceDeviceId = device).map fun entry =>
    entry.1.producer entry.2

/-- The consumers of the routes into a device, in the order of the routes. -/
def consumersInto (device : UInt32) (number : Nat) (routes : List (AudioRoute F)) :
    List (RouteConsumer F) :=
  ((routes.zipIdx number).filter fun entry => entry.1.sinkDeviceId = device).map fun entry =>
    entry.1.consumer entry.2

/-- The changes of the entries of the map. -/
def wiringChanges (number : Nat) (routes : List (AudioRoute F)) :
    List (UInt32 × (RouteEnds F → RouteEnds F)) :=
  (routes.zipIdx number).flatMap fun entry =>
    [(entry.1.sourceDeviceId, RouteEnds.addOutgoing (entry.1.producer entry.2)),
      (entry.1.sinkDeviceId, RouteEnds.addIncoming (entry.1.consumer entry.2))]

theorem wireRoutes_eq {builders : ExtTreeMap UInt32 (RouteEnds F)} {number : Nat}
    (nonzero : ∀ route ∈ routes, route.sourceChannels ≠ 0) :
    wireRoutes builders number routes =
      .ok (builders.changeEntries .empty (wiringChanges number routes)) := by
  induction routes generalizing builders number with
  | nil => rfl
  | cons route routes ih =>
      rw [List.forall_mem_cons] at nonzero
      obtain ⟨ring, started, capacity⟩ := @start_ring F ((0 : Nat) : F) _ nonzero.1
      have wired : wireRoute builders number route =
          .ok (builders.changeEntries .empty
            [(route.sourceDeviceId, RouteEnds.addOutgoing (route.producer number)),
              (route.sinkDeviceId, RouteEnds.addIncoming (route.consumer number))]) := by
        rw [wireRoute, started]
        dsimp only
        rw [capacity]
        rfl
      rw [wireRoutes, wired]
      dsimp only
      rw [ih nonzero.2, ← ExtTreeMap.changeEntries_append, wiringChanges, wiringChanges,
        List.zipIdx_cons, List.flatMap_cons]

theorem foldl_wiringChanges {device : UInt32} {number : Nat} {ends : RouteEnds F} :
    ((wiringChanges number routes).filter (·.1 = device)).foldl
        (fun value change => change.2 value) ends =
      { outgoing := ends.outgoing ++ producersFrom device number routes
        incoming := ends.incoming ++ consumersInto device number routes } := by
  induction routes generalizing number ends with
  | nil => simp [wiringChanges, producersFrom, consumersInto]
  | cons route routes ih =>
      have first : wiringChanges number (route :: routes) =
          (route.sourceDeviceId, RouteEnds.addOutgoing (route.producer number)) ::
            (route.sinkDeviceId, RouteEnds.addIncoming (route.consumer number)) ::
              wiringChanges (number + 1) routes := by
        rw [wiringChanges, List.zipIdx_cons, List.flatMap_cons]
        rfl
      rw [first, producersFrom, consumersInto, List.zipIdx_cons]
      by_cases source : route.sourceDeviceId = device <;>
        by_cases sink : route.sinkDeviceId = device <;>
          simp [source, sink, ih, RouteEnds.addOutgoing, RouteEnds.addIncoming, producersFrom,
            consumersInto]

theorem wiringChanges_isEmpty {device : UInt32} {number : Nat} :
    ((wiringChanges number routes).filter (·.1 = device)).isEmpty = false ↔
      ∃ route ∈ routes, route.sourceDeviceId = device ∨ route.sinkDeviceId = device := by
  rw [List.isEmpty_eq_false_iff_exists_mem]
  constructor
  · rintro ⟨change, member⟩
    obtain ⟨within, own⟩ := List.mem_filter.mp member
    obtain ⟨⟨route, ring⟩, found, change⟩ := List.mem_flatMap.mp within
    refine ⟨route, List.fst_mem_of_mem_zipIdx found, ?_⟩
    rcases List.mem_cons.mp change with rfl | later
    · exact Or.inl (of_decide_eq_true own)
    · obtain rfl := List.mem_singleton.mp later
      exact Or.inr (of_decide_eq_true own)
  · rintro ⟨route, member, own⟩
    obtain ⟨index, within, rfl⟩ := List.getElem_of_mem member
    have found : (routes[index], number + index) ∈ routes.zipIdx number := by
      rw [List.mk_add_mem_zipIdx_iff_getElem?]
      exact List.getElem?_eq_getElem within
    rcases own with source | sink
    · exact ⟨_, List.mem_filter.mpr ⟨List.mem_flatMap.mpr ⟨_, found, List.mem_cons_self⟩,
        decide_eq_true source⟩⟩
    · exact ⟨_, List.mem_filter.mpr ⟨List.mem_flatMap.mpr ⟨_, found,
        List.mem_cons_of_mem _ List.mem_cons_self⟩, decide_eq_true sink⟩⟩

variable {builders : ExtTreeMap UInt32 (RouteEnds F)}

omit [SinglePrecision F] in
theorem map_deviceId_routerContexts :
    (routerContexts builders).map RouterContext.deviceId = builders.keys := by
  rw [routerContexts, List.map_map, ← ExtTreeMap.map_fst_toList_eq_keys]
  rfl

/-- The contexts of a list of routes, by their devices. -/
theorem mem_routerContexts {context : RouterContext F} :
    context ∈ routerContexts ((∅ : ExtTreeMap UInt32 (RouteEnds F)).changeEntries .empty
        (wiringChanges 0 routes)) ↔
      (∃ route ∈ routes, route.sourceDeviceId = context.deviceId ∨
          route.sinkDeviceId = context.deviceId) ∧
        context.outgoing = producersFrom context.deviceId 0 routes ∧
          context.incoming = consumersInto context.deviceId 0 routes := by
  have entry : ∀ ends : RouteEnds F,
      ((∅ : ExtTreeMap UInt32 (RouteEnds F)).changeEntries .empty
          (wiringChanges 0 routes))[context.deviceId]? = some ends ↔
        (∃ route ∈ routes, route.sourceDeviceId = context.deviceId ∨
          route.sinkDeviceId = context.deviceId) ∧
        ends.outgoing = producersFrom context.deviceId 0 routes ∧
          ends.incoming = consumersInto context.deviceId 0 routes := by
    intro ends
    rw [ExtTreeMap.getElem?_changeEntries, foldl_wiringChanges,
      ← @wiringChanges_isEmpty F _ routes context.deviceId 0]
    split
    · rename_i none
      simp [none]
    · rename_i some
      rw [Bool.not_eq_true] at some
      simp only [some, ExtTreeMap.getElem?_empty, Option.getD_none, RouteEnds.empty,
        List.nil_append, Option.some.injEq, true_and]
      constructor
      · rintro rfl
        exact ⟨rfl, rfl⟩
      · rintro ⟨outgoing, incoming⟩
        cases ends
        cases outgoing
        cases incoming
        rfl
  rw [← entry ⟨context.outgoing, context.incoming⟩, ← ExtTreeMap.mem_toList_iff_getElem?_eq_some,
    routerContexts, List.mem_map]
  constructor
  · rintro ⟨⟨device, ends⟩, member, rfl⟩
    exact member
  · intro member
    exact ⟨_, member, rfl⟩

/-- The contexts of a router: one for each device of a route, in order, with the
producers and the consumers of its routes.  Every ring has its producer in one
place and its consumer in one place. -/
structure WiredFor (routes : List (AudioRoute F)) (contexts : List (RouterContext F)) : Prop where
  ordered : (contexts.map RouterContext.deviceId).Pairwise fun first second =>
    compare first second = .lt
  device_iff : ∀ device, device ∈ contexts.map RouterContext.deviceId ↔
    ∃ route ∈ routes, route.sourceDeviceId = device ∨ route.sinkDeviceId = device
  outgoing : ∀ context ∈ contexts, context.outgoing = producersFrom context.deviceId 0 routes
  incoming : ∀ context ∈ contexts, context.incoming = consumersInto context.deviceId 0 routes
  producers : (contexts.flatMap RouterContext.outgoing).Perm
    (routes.zipIdx.map fun entry => entry.1.producer entry.2)
  consumers : (contexts.flatMap RouterContext.incoming).Perm
    (routes.zipIdx.map fun entry => entry.1.consumer entry.2)
  capacity : ∀ context ∈ contexts, ∀ producer ∈ context.outgoing,
    0 < producer.channels ∧ (∃ k, 1 ≤ k ∧ k < 64 ∧ producer.capacity = 2 ^ k) ∧
      producer.channels * 16384 ≤ producer.capacity

theorem wiredFor_routerContexts (nonzero : ∀ route ∈ routes, route.sourceChannels ≠ 0) :
    WiredFor routes (routerContexts ((∅ : ExtTreeMap UInt32 (RouteEnds F)).changeEntries .empty
      (wiringChanges 0 routes))) := by
  generalize contextsEq : routerContexts ((∅ : ExtTreeMap UInt32 (RouteEnds F)).changeEntries
    .empty (wiringChanges 0 routes)) = contexts
  have keysEq := congrArg (List.map RouterContext.deviceId) contextsEq
  rw [map_deviceId_routerContexts] at keysEq
  have ordered : (contexts.map RouterContext.deviceId).Pairwise fun first second =>
      compare first second = .lt := keysEq ▸ ExtTreeMap.ordered_keys
  have distinct : (contexts.map RouterContext.deviceId).Nodup := by
    refine ordered.imp fun {first second} less same => ?_
    have reflexive : compare second second = .eq := ReflCmp.compare_self
    rw [same, reflexive] at less
    cases less
  have spec : ∀ context, context ∈ contexts ↔ _ := fun context =>
    contextsEq ▸ @mem_routerContexts F _ routes context
  have device_iff : ∀ device, device ∈ contexts.map RouterContext.deviceId ↔
      ∃ route ∈ routes, route.sourceDeviceId = device ∨ route.sinkDeviceId = device := by
    intro device
    rw [List.mem_map]
    constructor
    · rintro ⟨context, member, rfl⟩
      exact ((spec context).mp member).1
    · intro named
      exact ⟨⟨device, producersFrom device 0 routes, consumersInto device 0 routes⟩,
        (spec _).mpr ⟨named, rfl, rfl⟩, rfl⟩
  have outgoing : ∀ context ∈ contexts,
      context.outgoing = producersFrom context.deviceId 0 routes := fun context member =>
    ((spec context).mp member).2.1
  have incoming : ∀ context ∈ contexts,
      context.incoming = consumersInto context.deviceId 0 routes := fun context member =>
    ((spec context).mp member).2.2
  refine ⟨ordered, device_iff, outgoing, incoming, ?_, ?_, ?_⟩
  · have gathered : contexts.flatMap RouterContext.outgoing =
        ((contexts.map RouterContext.deviceId).flatMap fun device =>
          routes.zipIdx.filter fun entry => entry.1.sourceDeviceId = device).map fun entry =>
            entry.1.producer entry.2 := by
      rw [List.map_flatMap, List.flatMap_map]
      exact List.flatMap_congr outgoing
    rw [gathered]
    refine (flatMap_filter_perm distinct fun entry member => ?_).map _
    exact (device_iff _).mpr ⟨entry.1, List.fst_mem_of_mem_zipIdx member, Or.inl rfl⟩
  · have gathered : contexts.flatMap RouterContext.incoming =
        ((contexts.map RouterContext.deviceId).flatMap fun device =>
          routes.zipIdx.filter fun entry => entry.1.sinkDeviceId = device).map fun entry =>
            entry.1.consumer entry.2 := by
      rw [List.map_flatMap, List.flatMap_map]
      exact List.flatMap_congr incoming
    rw [gathered]
    refine (flatMap_filter_perm distinct fun entry member => ?_).map _
    exact (device_iff _).mpr ⟨entry.1, List.fst_mem_of_mem_zipIdx member, Or.inr rfl⟩
  · intro context member producer out
    rw [outgoing context member] at out
    obtain ⟨entry, among, rfl⟩ := List.mem_map.mp out
    have route := List.fst_mem_of_mem_zipIdx (List.mem_filter.mp among).1
    have some : entry.1.sourceChannels.toNat ≠ 0 := fun none =>
      nonzero entry.1 route (UInt32.toNat_inj.mp none)
    obtain ⟨power, large⟩ := ringCapacity_spec some entry.1.sourceChannels.toNat_lt
    exact ⟨Nat.pos_of_ne_zero some, power, large⟩

/-- The router is wired for every list of routes that passes the checks: no ring
fails. -/
theorem router_wiring (listing : Except CoreAudioError (List AudioDevice))
    (routes : List (AudioRoute F)) :
    match validateRoutes listing routes with
    | .error failure => wireRouter listing routes = .error failure
    | .ok () =>
        ∃ contexts, wireRouter listing routes = .ok contexts ∧ WiredFor routes contexts := by
  unfold wireRouter
  cases checked : validateRoutes listing routes with
  | error failure => rfl
  | ok done =>
      have nonzero : ∀ route ∈ routes, route.sourceChannels ≠ 0 := by
        intro route member
        unfold validateRoutes at checked
        split at checked
        · cases checked
        · exact (validateRoute_eq_ok_iff.mp
            (validateEach_eq_ok_iff.mp checked route member)).1.source_channels
      dsimp only
      rw [wireRoutes_eq nonzero]
      exact ⟨_, rfl, wiredFor_routerContexts nonzero⟩

end VCable
