import VCable.DaemonServing
import VCable.HandleTables
import VCable.RouterWiring

/-!
# The IOProcs of routers and streams

`AudioRouter` and `PcmPlatformStream` create IOProcs, start them, and stop and
destroy them when they are dropped or cannot be started.  What Core Audio makes
of a call is given by the calls before it, and may be a failure at any time.
Dropping goes on after a stop or a destruction that has failed.
-/

namespace VCable

open FallibleState

variable {F : Type} [SinglePrecision F]

/-- `SCOPE_INPUT` and `SCOPE_OUTPUT`. -/
inductive StreamScope where
  | input
  | output
  deriving DecidableEq

/-- The calls that change something, with their results.  The status of stopping
and destroying is read by no function.  A client is the box of a context; freeing
it is not a call, but it has its place among them. -/
inductive IoProcCall where
  | create (device : UInt32) (client : Nat) (status : Int32) (procedure : Option Nat)
  | usage (device : UInt32) (procedure : Option Nat) (scope : StreamScope) (enabled : Bool)
      (streams : List UInt32) (status : Int32)
  | start (device : UInt32) (procedure : Option Nat) (status : Int32)
  | stop (device : UInt32) (procedure : Option Nat) (status : Int32)
  | destroy (device : UInt32) (procedure : Option Nat) (status : Int32)
  | free (client : Nat)

/-- What Core Audio answers, after the calls so far.  A procedure that is null is
`none`. -/
structure Hal where
  /-- The status of `AudioDeviceCreateIOProcID`, and the procedure that it leaves. -/
  createIOProcID : List IoProcCall → UInt32 → Int32 × Option Nat
  /-- `get_u32_array` for the streams of a device. -/
  streams : List IoProcCall → UInt32 → StreamScope → Except CoreAudioError (List UInt32)
  setStreamUsage : List IoProcCall → UInt32 → StreamScope → Bool → Int32
  start : List IoProcCall → UInt32 → Option Nat → Int32
  stop : List IoProcCall → UInt32 → Option Nat → Int32
  destroyIOProcID : List IoProcCall → UInt32 → Option Nat → Int32

/-- The part of a `DeviceIoContext` or a `PcmPlatformStream` that is about its
IOProc. -/
structure IoProc where
  deviceId : UInt32
  client : Nat
  inputEnabled : Bool
  outputEnabled : Bool
  procedureId : Option Nat
  running : Bool

/-- `status`. -/
def osStatus (value : Int32) : Except CoreAudioError Unit :=
  if value = 0 then .ok () else .error (.osStatus value)

namespace IoProc

/-- A step with an IOProc, which makes calls. -/
abbrev Method := FallibleState (IoProc × List IoProcCall) CoreAudioError Unit

def new (deviceId : UInt32) (client : Nat) (inputEnabled outputEnabled : Bool) : IoProc where
  deviceId := deviceId
  client := client
  inputEnabled := inputEnabled
  outputEnabled := outputEnabled
  procedureId := none
  running := false

/-- The call of `AudioDeviceCreateIOProcID`, which may set the procedure even
where it fails. -/
def create (hal : Hal) : Method := fun (proc, calls) =>
  let answer := hal.createIOProcID calls proc.deviceId
  (osStatus answer.1, { proc with procedureId := answer.2 },
    calls ++ [.create proc.deviceId proc.client answer.1 answer.2])

/-- `configure_stream_usage`. -/
def configureStreamUsage (hal : Hal) (scope : StreamScope) (enabled : IoProc → Bool) : Method :=
  fun (proc, calls) =>
    match hal.streams calls proc.deviceId scope with
    | .error failure => (.error failure, proc, calls)
    | .ok [] => (.ok (), proc, calls)
    | .ok streams =>
        match checkedAdd 12 (streams.length * 4) with
        | none => (.error (.invalidProperty "IOProc stream usage size"), proc, calls)
        | some _ =>
            let status := hal.setStreamUsage calls proc.deviceId scope (enabled proc)
            (osStatus status, proc, calls ++
              [.usage proc.deviceId proc.procedureId scope (enabled proc) streams status])

/-- A pass of the first loop of `AudioRouter::start`, and the first part of
`PcmPlatformStream::start`. -/
def setUp (hal : Hal) : Method := do
  create hal
  configureStreamUsage hal .input IoProc.inputEnabled
  configureStreamUsage hal .output IoProc.outputEnabled

/-- A pass of the second loop, and the second part with `finish_start`. -/
def start (hal : Hal) : Method := fun (proc, calls) =>
  let status := hal.start calls proc.deviceId proc.procedureId
  (osStatus status, { proc with running := status = 0 || proc.running },
    calls ++ [.start proc.deviceId proc.procedureId status])

/-- What `drop` does with an IOProc, whatever the calls return. -/
def release (hal : Hal) (calls : List IoProcCall) (proc : IoProc) : List IoProcCall :=
  let stopped :=
    if proc.running then
      calls ++ [.stop proc.deviceId proc.procedureId (hal.stop calls proc.deviceId proc.procedureId)]
    else calls
  if proc.procedureId.isSome then
    stopped ++ [.destroy proc.deviceId proc.procedureId
      (hal.destroyIOProcID stopped proc.deviceId proc.procedureId)]
  else stopped

/-- `drop` of all IOProcs of a value, after which its boxes are freed. -/
def dropAll (hal : Hal) (procs : List IoProc) (calls : List IoProcCall) : List IoProcCall :=
  procs.foldl (release hal) calls ++ procs.map fun proc => .free proc.client

/-- The IOProcs of an owner that was started, or of none after an error. -/
def startAll (hal : Hal) (procs : List IoProc) (calls : List IoProcCall) :
    Except CoreAudioError (List IoProc) × List IoProcCall :=
  match eachItem (setUp hal) procs calls with
  | (.error failure, reached, later) => (.error failure, dropAll hal reached later)
  | (.ok (), created, later) =>
      match eachItem (start hal) created later with
      | (.error failure, reached, last) => (.error failure, dropAll hal reached last)
      | (.ok (), started, last) => (.ok started, last)

end IoProc

/-- The IOProcs of the contexts, in boxes with the next numbers. -/
def RouterContext.ioProcs (box : Nat) (contexts : List (RouterContext F)) : List IoProc :=
  (contexts.zipIdx box).map fun (context, client) =>
    .new context.deviceId client (!context.outgoing.isEmpty) (!context.incoming.isEmpty)

/-- The values with IOProcs, the calls for them, and how many boxes there ever
were. -/
structure IoProcSystem where
  calls : List IoProcCall
  boxes : Nat
  owners : List (List IoProc)

inductive OwnerAction (F : Type) where
  | startRouter (listing : Except CoreAudioError (List AudioDevice)) (routes : List (AudioRoute F))
  | startPlayback (device : UInt32)
  | startCapture (device : UInt32)
  | drop (owner : Nat)

namespace IoProcSystem

def start : IoProcSystem where
  calls := []
  boxes := 0
  owners := []

/-- Start the IOProcs of a new owner. -/
def own (hal : Hal) (system : IoProcSystem) (procs : List IoProc) :
    Except CoreAudioError Unit × IoProcSystem :=
  match IoProc.startAll hal procs system.calls with
  | (.error failure, calls) =>
      (.error failure, { system with calls := calls, boxes := system.boxes + procs.length })
  | (.ok started, calls) =>
      (.ok (), { system with
        calls := calls
        boxes := system.boxes + procs.length
        owners := system.owners ++ [started] })

/-- `AudioRouter::start`. -/
def startRouter (hal : Hal) (system : IoProcSystem)
    (listing : Except CoreAudioError (List AudioDevice)) (routes : List (AudioRoute F)) :
    Except CoreAudioError Unit × IoProcSystem :=
  match wireRouter listing routes with
  | .error failure => (.error failure, system)
  | .ok contexts => system.own hal (RouterContext.ioProcs system.boxes contexts)

/-- `PcmPlatformStream::start`; its error is the one of `CoreAudioError` that it is
made from. -/
def startStream (hal : Hal) (system : IoProcSystem) (device : UInt32)
    (inputEnabled outputEnabled : Bool) : Except CoreAudioError Unit × IoProcSystem :=
  system.own hal [.new device system.boxes inputEnabled outputEnabled]

def drop (hal : Hal) (system : IoProcSystem) (owner : Nat) : IoProcSystem :=
  { system with
    calls := IoProc.dropAll hal (system.owners.getD owner []) system.calls
    owners := system.owners.eraseIdx owner }

def step (hal : Hal) (system : IoProcSystem) : OwnerAction F → IoProcSystem
  | .startRouter listing routes => (system.startRouter hal listing routes).2
  | .startPlayback device => (system.startStream hal device false true).2
  | .startCapture device => (system.startStream hal device true false).2
  | .drop owner => system.drop hal owner

def run (hal : Hal) (system : IoProcSystem) (actions : List (OwnerAction F)) : IoProcSystem :=
  actions.foldl (step hal) system

end IoProcSystem

/-! ## The table of the procedures -/

/-- A procedure is known by its device and its identifier. -/
abbrev IoProcHandle := UInt32 × Option Nat

/-- What a call does to the procedures; stopping and destroying do nothing where
they fail. -/
def IoProcCall.events : IoProcCall → List (HandleEvent IoProcHandle Nat)
  | .create device client _ (some procedure) => [.created (device, some procedure) client]
  | .create _ _ _ none => []
  | .usage device procedure _ _ _ _ => [.used (device, procedure)]
  | .start device procedure status =>
      if status = 0 then [.started (device, procedure)] else [.used (device, procedure)]
  | .stop device procedure status => if status = 0 then [.stopped (device, procedure)] else []
  | .destroy device procedure status =>
      if status = 0 then [.destroyed (device, procedure)] else []
  | .free client => [.freed client]

/-- The procedures that there are after some calls. -/
def proceduresAfter (calls : List IoProcCall) : HandleTable IoProcHandle Nat :=
  HandleTable.empty.afterAll (calls.flatMap IoProcCall.events)

/-- Every call is for a procedure that is there at the time: it is started and
configured while it is stopped, stopped while it runs, destroyed after that, and
then its context is freed. -/
def CallsPermitted (calls : List IoProcCall) : Prop :=
  HandleTable.empty.PermitsAll (calls.flatMap IoProcCall.events)

/-- A successful creation gives a procedure, and any procedure that is given is new. -/
structure Hal.GivesProcedures (hal : Hal) : Prop where
  created : ∀ calls device, (hal.createIOProcID calls device).1 = 0 →
    (hal.createIOProcID calls device).2.isSome = true
  fresh : ∀ calls device, (hal.createIOProcID calls device).2.isSome = true →
    proceduresAfter calls (device, (hal.createIOProcID calls device).2) = none

/-- Stopping and destroying succeed. -/
structure Hal.ReleasesProcedures (hal : Hal) : Prop where
  stopped : ∀ calls device procedure, hal.stop calls device procedure = 0
  destroyed : ∀ calls device procedure, hal.destroyIOProcID calls device procedure = 0

/-- The entry of an IOProc in the table. -/
def IoProc.entries (proc : IoProc) : List (IoProcHandle × HandleEntry Nat) :=
  match proc.procedureId with
  | some procedure => [((proc.deviceId, some procedure), ⟨proc.client, proc.running⟩)]
  | none => []

/-- The calls were permitted, and the procedures that there are belong to the
IOProcs, which have the given boxes. -/
structure Owned (clients : List Nat) (procs : List IoProc) (calls : List IoProcCall) : Prop where
  permitted : CallsPermitted calls
  holds : (proceduresAfter calls).Holds (procs.flatMap IoProc.entries)
  created : ∀ proc ∈ procs, proc.running = true → proc.procedureId.isSome = true
  clients : (procs.map IoProc.client).Perm clients

namespace Owned

open HandleTable

variable {hal : Hal} {clients : List Nat} {proc : IoProc} {procs others : List IoProc}
  {calls more : List IoProcCall}

theorem perm (owned : Owned clients procs calls) (same : procs.Perm others) :
    Owned clients others calls where
  permitted := owned.permitted
  holds := owned.holds.perm (same.flatMap_right IoProc.entries)
  created := fun proc member => owned.created proc (same.mem_iff.mpr member)
  clients := (same.map IoProc.client).symm.trans owned.clients

theorem moves {remaining : List Nat} (owned : Owned clients procs calls)
    (moved : Moves (procs.flatMap IoProc.entries) (others.flatMap IoProc.entries)
      (more.flatMap IoProcCall.events))
    (created : ∀ proc ∈ others, proc.running = true → proc.procedureId.isSome = true)
    (kept : (others.map IoProc.client).Perm remaining) :
    Owned remaining others (calls ++ more) := by
  obtain ⟨permitted, holds⟩ := moved _ owned.holds
  refine ⟨?_, ?_, created, kept⟩
  · rw [CallsPermitted, List.flatMap_append, permitsAll_append]
    exact ⟨owned.permitted, permitted⟩
  · rw [proceduresAfter, List.flatMap_append, afterAll_append]
    exact holds

/-- A change of the first IOProc. -/
theorem moves_head {changed : IoProc} (owned : Owned clients (proc :: others) calls)
    (moved : Moves (proc.entries ++ others.flatMap IoProc.entries)
      (changed.entries ++ others.flatMap IoProc.entries) (more.flatMap IoProcCall.events))
    (created : changed.running = true → changed.procedureId.isSome = true)
    (client : changed.client = proc.client) :
    Owned clients (changed :: others) (calls ++ more) := by
  refine owned.moves moved ?_ ?_
  · exact List.forall_mem_cons.mpr ⟨created, (List.forall_mem_cons.mp owned.created).2⟩
  · rw [List.map_cons, client]
    exact owned.clients

/-! ## Starting -/

/-- An IOProc among others, before and after it was set up. -/
structure Idle (clients : List Nat) (others : List IoProc) (state : IoProc × List IoProcCall) :
    Prop where
  owned : Owned clients (state.1 :: others) state.2
  created : state.1.procedureId.isSome = true
  stopped : state.1.running = false

theorem entries_idle (idle : Idle clients others (proc, calls)) :
    proc.entries = [((proc.deviceId, proc.procedureId), ⟨proc.client, false⟩)] := by
  obtain ⟨procedure, found⟩ := Option.isSome_iff_exists.mp idle.created
  rw [IoProc.entries, found]
  dsimp only
  rw [show proc.running = false from idle.stopped]

/-- A procedure that is not there yet is created, or none. -/
theorem setProcedure (owned : Owned clients (proc :: others) calls)
    (absent : proc.procedureId = none) (stopped : proc.running = false) {status : Int32}
    {procedure : Option Nat}
    (fresh : procedure.isSome = true → proceduresAfter calls (proc.deviceId, procedure) = none) :
    Owned clients ({ proc with procedureId := procedure } :: others)
      (calls ++ [.create proc.deviceId proc.client status procedure]) := by
  have before : proc.entries = [] := by rw [IoProc.entries, absent]
  have idle : { proc with procedureId := procedure }.running = true →
      procedure.isSome = true := by
    intro running
    rw [show proc.running = true from running] at stopped
    cases stopped
  refine owned.moves_head ?_ idle rfl
  rw [before]
  cases procedure with
  | none => exact Moves.refl
  | some procedure =>
      have unlisted := owned.holds.notMem (fresh rfl)
      rw [List.flatMap_cons, before] at unlisted
      have entries : IoProc.entries { proc with procedureId := some procedure } =
          [((proc.deviceId, some procedure), ⟨proc.client, false⟩)] := by
        rw [IoProc.entries, stopped]
      rw [entries]
      exact moves_created unlisted

theorem create (gives : hal.GivesProcedures) (owned : Owned clients (proc :: others) calls)
    (absent : proc.procedureId = none) (stopped : proc.running = false) :
    Owned clients ((IoProc.create hal (proc, calls)).2.1 :: others)
        (IoProc.create hal (proc, calls)).2.2 ∧
      ((IoProc.create hal (proc, calls)).1 = .ok () →
        Idle clients others (IoProc.create hal (proc, calls)).2) := by
  have reached : Owned clients ((IoProc.create hal (proc, calls)).2.1 :: others)
      (IoProc.create hal (proc, calls)).2.2 :=
    owned.setProcedure absent stopped (gives.fresh calls proc.deviceId)
  refine ⟨reached, fun succeeded => ⟨reached, gives.created calls proc.deviceId ?_, stopped⟩⟩
  change osStatus (hal.createIOProcID calls proc.deviceId).1 = .ok () at succeeded
  rw [osStatus] at succeeded
  split_ifs at succeeded with zero
  exact zero

theorem preserves_configureStreamUsage (hal : Hal) (scope : StreamScope) (enabled : IoProc → Bool) :
    Preserves (Idle clients others) (IoProc.configureStreamUsage hal scope enabled) := by
  rintro ⟨proc, calls⟩ idle
  have used : ∀ {streams : List UInt32} {status : Int32}, Idle clients others (proc,
      calls ++ [.usage proc.deviceId proc.procedureId scope (enabled proc) streams status]) := by
    intro streams status
    refine ⟨idle.owned.moves_head ?_ (fun _ => idle.created) rfl, idle.created, idle.stopped⟩
    rw [entries_idle idle]
    exact moves_used
  unfold IoProc.configureStreamUsage
  dsimp only
  split
  · exact idle
  · exact idle
  · split
    · exact idle
    · exact used

theorem setUp (gives : hal.GivesProcedures) (owned : Owned clients (proc :: others) calls)
    (absent : proc.procedureId = none) (stopped : proc.running = false) :
    Owned clients ((IoProc.setUp hal (proc, calls)).2.1 :: others)
        (IoProc.setUp hal (proc, calls)).2.2 ∧
      ((IoProc.setUp hal (proc, calls)).1 = .ok () →
        Idle clients others (IoProc.setUp hal (proc, calls)).2) := by
  obtain ⟨created, idle⟩ := owned.create gives absent stopped
  rcases taken : IoProc.setUp hal (proc, calls) with ⟨result, reached⟩
  rcases bind_cases taken with ⟨failure, failed, rfl⟩ | ⟨_, middle, succeeded, rest⟩
  · rw [failed] at created
    exact ⟨created, fun impossible => by cases impossible⟩
  · rw [succeeded] at idle
    have configured :=
      ((preserves_configureStreamUsage hal .input IoProc.inputEnabled).bind fun _ =>
        preserves_configureStreamUsage hal .output IoProc.outputEnabled) middle (idle rfl)
    rw [rest] at configured
    exact ⟨configured.owned, fun _ => configured⟩

theorem start (idle : Idle clients others (proc, calls)) :
    Owned clients ((IoProc.start hal (proc, calls)).2.1 :: others)
        (IoProc.start hal (proc, calls)).2.2 ∧
      ((IoProc.start hal (proc, calls)).1 = .ok () →
        (IoProc.start hal (proc, calls)).2.1.running = true) := by
  unfold IoProc.start
  dsimp only
  generalize hal.start calls proc.deviceId proc.procedureId = status
  have entries := entries_idle idle
  refine ⟨idle.owned.moves_head ?_ (fun _ => idle.created) rfl, fun succeeded => ?_⟩
  · obtain ⟨procedure, found⟩ := Option.isSome_iff_exists.mp idle.created
    rw [entries, List.flatMap_singleton, IoProcCall.events]
    by_cases zero : status = 0
    · have running : IoProc.entries { proc with running := decide (status = 0) || proc.running } =
          [((proc.deviceId, proc.procedureId), ⟨proc.client, true⟩)] := by
        rw [IoProc.entries]
        simp [show proc.procedureId = some procedure from found, zero]
      rw [if_pos zero, running]
      exact moves_started
    · have unchanged : IoProc.entries { proc with running := decide (status = 0) || proc.running } =
          [((proc.deviceId, proc.procedureId), ⟨proc.client, false⟩)] := by
        rw [IoProc.entries]
        simp [show proc.procedureId = some procedure from found, zero,
          show proc.running = false from idle.stopped]
      rw [if_neg zero, unchanged]
      exact moves_used
  · change osStatus status = .ok () at succeeded
    rw [osStatus] at succeeded
    split_ifs at succeeded with zero
    simp [zero]

/-! ## Dropping -/

/-- The calls of a release that succeeds. -/
def released (proc : IoProc) : List IoProcCall :=
  (if proc.running then [.stop proc.deviceId proc.procedureId 0] else []) ++
    if proc.procedureId.isSome then [.destroy proc.deviceId proc.procedureId 0] else []

theorem release_eq (releases : hal.ReleasesProcedures) (calls : List IoProcCall) (proc : IoProc) :
    proc.release hal calls = calls ++ released proc := by
  rw [IoProc.release, released, releases.stopped, releases.destroyed]
  split_ifs <;> simp

theorem foldl_release (releases : hal.ReleasesProcedures) (procs : List IoProc)
    (calls : List IoProcCall) :
    procs.foldl (IoProc.release hal) calls = calls ++ procs.flatMap released := by
  induction procs generalizing calls with
  | nil => exact (List.append_nil calls).symm
  | cons proc procs ih =>
      rw [List.foldl_cons, release_eq releases, ih, List.flatMap_cons, List.append_assoc]

theorem moves_release {entries : List (IoProcHandle × HandleEntry Nat)}
    (created : proc.running = true → proc.procedureId.isSome = true) :
    Moves (proc.entries ++ entries) entries ((released proc).flatMap IoProcCall.events) := by
  rw [released, IoProc.entries]
  cases found : proc.procedureId with
  | none =>
      have stopped : proc.running = false := by
        by_contra running
        rw [Bool.not_eq_false] at running
        rw [found] at created
        cases created running
      rw [stopped]
      exact Moves.refl
  | some procedure =>
      cases running : proc.running with
      | false => exact moves_destroyed
      | true => exact moves_stopped.append moves_destroyed

theorem moves_releaseAll {entries : List (IoProcHandle × HandleEntry Nat)}
    (created : ∀ proc ∈ procs, proc.running = true → proc.procedureId.isSome = true) :
    Moves (procs.flatMap IoProc.entries ++ entries) entries
      ((procs.flatMap released).flatMap IoProcCall.events) := by
  induction procs with
  | nil => exact Moves.refl
  | cons proc procs ih =>
      obtain ⟨first, rest⟩ := List.forall_mem_cons.mp created
      rw [List.flatMap_cons, List.flatMap_cons, List.flatMap_append, List.append_assoc]
      exact (moves_release first).append (ih rest)

theorem moves_freedAll {entries : List (IoProcHandle × HandleEntry Nat)} {boxes : List Nat}
    (unused : ∀ entry ∈ entries, entry.2.client ∉ boxes) :
    Moves entries entries ((boxes.map IoProcCall.free).flatMap IoProcCall.events) := by
  induction boxes with
  | nil => exact Moves.refl
  | cons box boxes ih =>
      refine (moves_freed fun entry member same => ?_).append (ih fun entry member among => ?_)
      · exact unused entry member (same ▸ List.mem_cons_self)
      · exact unused entry member (List.mem_cons_of_mem _ among)

theorem client_mem_of_entry {entry : IoProcHandle × HandleEntry Nat}
    (member : entry ∈ procs.flatMap IoProc.entries) :
    entry.2.client ∈ procs.map IoProc.client := by
  obtain ⟨proc, among, own⟩ := List.mem_flatMap.mp member
  rw [IoProc.entries] at own
  split at own
  · obtain rfl := List.mem_singleton.mp own
    exact List.mem_map.mpr ⟨proc, among, rfl⟩
  · cases own

/-- Dropping some IOProcs leaves the others. -/
theorem dropAll (releases : hal.ReleasesProcedures) (distinct : clients.Nodup)
    (owned : Owned clients (procs ++ others) calls) :
    Owned (others.map IoProc.client) others (IoProc.dropAll hal procs calls) := by
  have separate : ∀ entry ∈ others.flatMap IoProc.entries,
      entry.2.client ∉ procs.map IoProc.client := by
    intro entry member among
    have nodup := owned.clients.nodup_iff.mpr distinct
    rw [List.map_append] at nodup
    exact List.disjoint_of_nodup_append nodup among (client_mem_of_entry member)
  rw [IoProc.dropAll, foldl_release releases, List.append_assoc]
  refine owned.moves ?_ (fun proc member => owned.created proc (List.mem_append_right _ member))
    (List.Perm.refl _)
  have freed := moves_freedAll separate
  rw [List.map_map] at freed
  rw [List.flatMap_append, List.flatMap_append]
  exact (moves_releaseAll fun proc member =>
    owned.created proc (List.mem_append_left _ member)).append freed

theorem setUpAll (gives : hal.GivesProcedures) (owned : Owned clients (procs ++ others) calls)
    (new : ∀ proc ∈ procs, proc.procedureId = none ∧ proc.running = false) :
    Owned clients ((eachItem (IoProc.setUp hal) procs calls).2.1 ++ others)
        (eachItem (IoProc.setUp hal) procs calls).2.2 ∧
      ((eachItem (IoProc.setUp hal) procs calls).1 = .ok () →
        ∀ proc ∈ (eachItem (IoProc.setUp hal) procs calls).2.1,
          proc.procedureId.isSome = true ∧ proc.running = false) := by
  refine @eachItem_keeps _ _ _ _ (Owned clients) _ _ (fun same held => held.perm same)
    (fun proc others calls before held => ?_) _ _ _ new owned
  obtain ⟨reached, idle⟩ := held.setUp gives before.1 before.2
  exact ⟨reached, fun succeeded => ⟨(idle succeeded).created, (idle succeeded).stopped⟩⟩

theorem startEach (owned : Owned clients (procs ++ others) calls)
    (idle : ∀ proc ∈ procs, proc.procedureId.isSome = true ∧ proc.running = false) :
    Owned clients ((eachItem (IoProc.start hal) procs calls).2.1 ++ others)
        (eachItem (IoProc.start hal) procs calls).2.2 ∧
      ((eachItem (IoProc.start hal) procs calls).1 = .ok () →
        ∀ proc ∈ (eachItem (IoProc.start hal) procs calls).2.1, proc.running = true) :=
  @eachItem_keeps _ _ _ _ (Owned clients) _ _ (fun same held => held.perm same)
    (fun _ _ _ before held => start ⟨held, before.1, before.2⟩) _ _ _ idle owned

/-- An owner starts all of its IOProcs, or leaves nothing behind. -/
theorem startAll (gives : hal.GivesProcedures) (releases : hal.ReleasesProcedures)
    (distinct : clients.Nodup) (owned : Owned clients (procs ++ others) calls)
    (new : ∀ proc ∈ procs, proc.procedureId = none ∧ proc.running = false) :
    match IoProc.startAll hal procs calls with
    | (.error _, reached) => Owned (others.map IoProc.client) others reached
    | (.ok started, reached) => Owned clients (started ++ others) reached ∧
        ∀ proc ∈ started, proc.running = true := by
  obtain ⟨kept, created⟩ := owned.setUpAll gives new
  unfold IoProc.startAll
  generalize eachItem (IoProc.setUp hal) procs calls = first at kept created ⊢
  obtain ⟨result, reached, later⟩ := first
  cases result with
  | error failure => exact kept.dropAll releases distinct
  | ok done =>
      obtain ⟨last, started⟩ := @startEach hal _ _ _ _ kept (created rfl)
      dsimp only
      generalize eachItem (IoProc.start hal) reached later = second at last started ⊢
      obtain ⟨result, ended, final⟩ := second
      cases result with
      | error failure => exact last.dropAll releases distinct
      | ok done => exact ⟨last, started rfl⟩

end Owned

/-! ## Runs -/

namespace IoProcSystem

variable {hal : Hal} {system : IoProcSystem}

/-- The procedures that there are belong to the owners, and run. -/
structure Sound (system : IoProcSystem) : Prop where
  owned : Owned (system.owners.flatten.map IoProc.client) system.owners.flatten system.calls
  distinct : (system.owners.flatten.map IoProc.client).Nodup
  boxed : ∀ proc ∈ system.owners.flatten, proc.client < system.boxes
  running : ∀ proc ∈ system.owners.flatten, proc.running = true

theorem sound_start : start.Sound where
  owned := ⟨trivial, HandleTable.holds_empty, List.forall_mem_nil _, List.Perm.refl _⟩
  distinct := List.nodup_nil
  boxed := List.forall_mem_nil _
  running := List.forall_mem_nil _

theorem Sound.own (sound : system.Sound) (gives : hal.GivesProcedures)
    (releases : hal.ReleasesProcedures) {procs : List IoProc}
    (new : ∀ proc ∈ procs, proc.procedureId = none ∧ proc.running = false)
    (boxes : procs.map IoProc.client = List.range' system.boxes procs.length) :
    (system.own hal procs).2.Sound := by
  have unboxed : ∀ proc ∈ procs, system.boxes ≤ proc.client ∧
      proc.client < system.boxes + procs.length := by
    intro proc member
    have among : proc.client ∈ procs.map IoProc.client := List.mem_map_of_mem member
    rw [boxes] at among
    exact List.mem_range'_1.mp among
  have distinct : ((procs ++ system.owners.flatten).map IoProc.client).Nodup := by
    rw [List.map_append, List.nodup_append, boxes]
    refine ⟨List.nodup_range', sound.distinct, fun first one second other same => ?_⟩
    obtain ⟨proc, member, rfl⟩ := List.mem_map.mp other
    have below := sound.boxed proc member
    have above := (List.mem_range'_1.mp one).1
    omega
  have extended : Owned ((procs ++ system.owners.flatten).map IoProc.client)
      (procs ++ system.owners.flatten) system.calls := by
    have none : procs.flatMap IoProc.entries = [] := by
      refine List.flatMap_eq_nil_iff.mpr fun proc member => ?_
      rw [IoProc.entries, (new proc member).1]
    refine ⟨sound.owned.permitted, ?_, ?_, List.Perm.refl _⟩
    · rw [List.flatMap_append, none]
      exact sound.owned.holds
    · rw [List.forall_mem_append]
      refine ⟨fun proc member running => ?_, sound.owned.created⟩
      rw [(new proc member).2] at running
      cases running
  have started := extended.startAll gives releases distinct new
  unfold IoProcSystem.own
  generalize IoProc.startAll hal procs system.calls = outcome at started ⊢
  obtain ⟨result, calls⟩ := outcome
  cases result with
  | error failure =>
      exact ⟨started, sound.distinct, fun proc member =>
        Nat.lt_add_right _ (sound.boxed proc member), sound.running⟩
  | ok running =>
      obtain ⟨owned, all⟩ := started
      have same : (system.owners ++ [running]).flatten.Perm (running ++ system.owners.flatten) := by
        rw [List.flatten_append, List.flatten_singleton]
        exact List.perm_append_comm
      have clients := (same.map IoProc.client).trans owned.clients
      refine ⟨?_, clients.nodup_iff.mpr distinct, fun proc member => ?_, fun proc member => ?_⟩
      · exact { owned.perm same.symm with clients := List.Perm.refl _ }
      · have among := clients.mem_iff.mp (List.mem_map_of_mem member)
        obtain ⟨other, within, equal⟩ := List.mem_map.mp among
        change proc.client < system.boxes + procs.length
        rw [← equal]
        rcases List.mem_append.mp within with own | earlier
        · exact (unboxed other own).2
        · exact Nat.lt_add_right _ (sound.boxed other earlier)
      · rcases List.mem_append.mp (same.mem_iff.mp member) with own | earlier
        · exact all proc own
        · exact sound.running proc earlier

theorem Sound.startRouter (sound : system.Sound) (gives : hal.GivesProcedures)
    (releases : hal.ReleasesProcedures) (listing : Except CoreAudioError (List AudioDevice)) (routes : List (AudioRoute F)) :
    (system.startRouter hal listing routes).2.Sound := by
  unfold IoProcSystem.startRouter
  split
  · exact sound
  · rename_i contexts _
    refine sound.own gives releases (fun proc member => ?_) ?_
    · obtain ⟨entry, _, rfl⟩ := List.mem_map.mp member
      exact ⟨rfl, rfl⟩
    · rw [RouterContext.ioProcs, List.map_map, List.length_map, List.length_zipIdx]
      exact List.zipIdx_map_snd _ _

theorem Sound.startStream (sound : system.Sound) (gives : hal.GivesProcedures)
    (releases : hal.ReleasesProcedures) (device : UInt32) (inputEnabled outputEnabled : Bool) :
    (system.startStream hal device inputEnabled outputEnabled).2.Sound := by
  refine sound.own gives releases (fun proc member => ?_) rfl
  obtain rfl := List.mem_singleton.mp member
  exact ⟨rfl, rfl⟩

theorem Sound.drop (sound : system.Sound) (releases : hal.ReleasesProcedures) (owner : Nat) :
    (system.drop hal owner).Sound := by
  by_cases within : owner < system.owners.length
  · have split : system.owners.flatten.Perm
        (system.owners.getD owner [] ++ (system.owners.eraseIdx owner).flatten) := by
      have one := (List.getElem_cons_eraseIdx_perm within).flatten
      rw [List.flatten_cons] at one
      rw [List.getD_eq_getElem _ _ within]
      exact one.symm
    have dropped := (sound.owned.perm split).dropAll releases sound.distinct
    have kept : ∀ proc ∈ (system.owners.eraseIdx owner).flatten, proc ∈ system.owners.flatten :=
      fun proc member => split.mem_iff.mpr (List.mem_append_right _ member)
    refine ⟨dropped, ?_, fun proc member => sound.boxed proc (kept proc member), fun proc member =>
      sound.running proc (kept proc member)⟩
    have nodup := (split.map IoProc.client).nodup_iff.mp sound.distinct
    rw [List.map_append] at nodup
    exact (List.nodup_append.mp nodup).2.1
  · have beyond := Nat.le_of_not_lt within
    have unchanged : system.drop hal owner = system := by
      rw [IoProcSystem.drop, List.eraseIdx_of_length_le beyond, List.getD_eq_default _ _ beyond,
        IoProc.dropAll, List.foldl_nil, List.map_nil, List.append_nil]
    rw [unchanged]
    exact sound

theorem Sound.run (sound : system.Sound) (gives : hal.GivesProcedures)
    (releases : hal.ReleasesProcedures) (actions : List (OwnerAction F)) : (system.run hal actions).Sound := by
  induction actions generalizing system with
  | nil => exact sound
  | cons action actions ih =>
      refine @ih (system.step hal action) ?_
      cases action with
      | startRouter listing routes => exact sound.startRouter gives releases listing routes
      | startPlayback device => exact sound.startStream gives releases device false true
      | startCapture device => exact sound.startStream gives releases device true false
      | drop owner => exact sound.drop releases owner

end IoProcSystem

/-- However the routers and streams of a process are started and dropped, and
whichever calls fail in starting them, as long as stopping and destroying do not
fail: every call is for a procedure that is there and allows it, a context is
freed only when none calls it, and the procedures that are left are those of the
routers and streams that are there, all running. -/
theorem io_procs_of_owners {hal : Hal} (gives : hal.GivesProcedures)
    (releases : hal.ReleasesProcedures) (actions : List (OwnerAction F)) :
    CallsPermitted (IoProcSystem.start.run hal actions).calls ∧
      (proceduresAfter (IoProcSystem.start.run hal actions).calls).Holds
        ((IoProcSystem.start.run hal actions).owners.flatten.flatMap IoProc.entries) ∧
      ∀ proc ∈ (IoProcSystem.start.run hal actions).owners.flatten,
        proc.procedureId.isSome = true ∧ proc.running = true := by
  have sound := IoProcSystem.sound_start.run gives releases actions
  exact ⟨sound.owned.permitted, sound.owned.holds, fun proc member =>
    ⟨sound.owned.created proc member (sound.running proc member), sound.running proc member⟩⟩

/-- The procedure that a call gave. -/
def IoProcCall.given : IoProcCall → Nat
  | .create _ _ _ (some procedure) => procedure
  | _ => 0

/-- Every procedure gets the next number that was not given; one device does not
start. -/
def countingHal : Hal where
  createIOProcID calls _ := (0, some ((calls.map IoProcCall.given).sum + 1))
  streams _ _ _ := .ok [1]
  setStreamUsage _ _ _ _ := 0
  start _ device _ := if device = 7 then -50 else 0
  stop _ _ _ := 0
  destroyIOProcID _ _ _ := 0

theorem proceduresAfter_le {calls : List IoProcCall} {device : UInt32} {procedure : Nat}
    (there : (proceduresAfter calls (device, some procedure)).isSome = true) :
    procedure ≤ (calls.map IoProcCall.given).sum := by
  induction calls using List.reverseRecOn with
  | nil => cases there
  | append_singleton calls call ih =>
      rw [List.map_append, List.sum_append, List.map_singleton, List.sum_singleton]
      rw [proceduresAfter, List.flatMap_append, HandleTable.afterAll_append,
        List.flatMap_singleton] at there
      have one : ∀ event, call.events = [event] →
          (∃ client, event = .created (device, some procedure) client) ∨
            (proceduresAfter calls (device, some procedure)).isSome = true := by
        intro event only
        rw [only] at there
        obtain ⟨entry, found⟩ := Option.isSome_iff_exists.mp there
        exact HandleTable.after_eq_some found
      have earlier : (proceduresAfter calls (device, some procedure)).isSome = true →
          procedure ≤ (calls.map IoProcCall.given).sum + call.given := fun before =>
        Nat.le_add_right_of_le (ih before)
      cases call with
      | create other client status given =>
          cases given with
          | none => exact earlier there
          | some given =>
              rcases one _ rfl with ⟨_, new⟩ | before
              · cases new
                exact Nat.le_add_left _ _
              · exact earlier before
      | usage other given scope enabled streams status =>
          rcases one _ rfl with ⟨_, impossible⟩ | before
          · cases impossible
          · exact earlier before
      | start other given status =>
          by_cases zero : status = 0
          · rcases one (.started (other, given)) (if_pos zero) with ⟨_, impossible⟩ | before
            · cases impossible
            · exact earlier before
          · rcases one (.used (other, given)) (if_neg zero) with ⟨_, impossible⟩ | before
            · cases impossible
            · exact earlier before
      | stop other given status =>
          by_cases zero : status = 0
          · rcases one (.stopped (other, given)) (if_pos zero) with ⟨_, impossible⟩ | before
            · cases impossible
            · exact earlier before
          · rw [show (IoProcCall.stop other given status).events = [] from if_neg zero] at there
            exact earlier there
      | destroy other given status =>
          by_cases zero : status = 0
          · rcases one (.destroyed (other, given)) (if_pos zero) with ⟨_, impossible⟩ | before
            · cases impossible
            · exact earlier before
          · rw [show (IoProcCall.destroy other given status).events = [] from if_neg zero] at there
            exact earlier there
      | free client =>
          rcases one _ rfl with ⟨_, impossible⟩ | before
          · cases impossible
          · exact earlier before

theorem countingHal_gives : countingHal.GivesProcedures where
  created := fun _ _ _ => rfl
  fresh := by
    intro calls device _
    by_contra there
    have below := proceduresAfter_le (Option.isSome_iff_ne_none.mpr there)
    exact absurd below (Nat.not_succ_le_self _)

theorem countingHal_releases : countingHal.ReleasesProcedures where
  stopped := fun _ _ _ => rfl
  destroyed := fun _ _ _ => rfl

/-- A router, two streams, and one on the device that does not start. -/
def routerAndStreams : List (OwnerAction ℚ) :=
  [.startRouter (.ok [⟨3, "microphone", "Microphone", 1, 1, 48000, false, false⟩])
      [⟨3, 3, 1, 1, 48000, 48000, [1], 1⟩],
    .startPlayback 4, .startPlayback 7, .startCapture 4, .drop 0, .drop 1]

theorem io_procs_of_owners_counting :
    CallsPermitted (IoProcSystem.start.run countingHal routerAndStreams).calls ∧
      (proceduresAfter (IoProcSystem.start.run countingHal routerAndStreams).calls).Holds
        ((IoProcSystem.start.run countingHal routerAndStreams).owners.flatten.flatMap
          IoProc.entries) ∧
      ∀ proc ∈ (IoProcSystem.start.run countingHal routerAndStreams).owners.flatten,
        proc.procedureId.isSome = true ∧ proc.running = true :=
  io_procs_of_owners countingHal_gives countingHal_releases routerAndStreams

end VCable
