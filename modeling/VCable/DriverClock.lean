import VCable.DriverInventory
import VCable.DriverIo
import VCable.FrameStreams
import Mathlib.Tactic.Linarith
import Mathlib.Tactic.Positivity

/-!
# The clock of a device

A host learns the time of a device from pairs of a sample time and a host time.
The pairs of one session lie on one line, and a new session has a new seed.
-/

namespace VCable

open LabelledSteps

/-! ## Lines of time stamps -/

/-- Ticks that are counted from an anchor in whole periods.  A period of the
count begins at `hostTime`, in whole ticks, and contains `now`. -/
structure InPeriod (ticksPerPeriod : ℚ) (anchor now period hostTime : Nat) : Prop where
  host_le : (hostTime : ℚ) ≤ anchor + period * ticksPerPeriod
  lt_host : anchor + period * ticksPerPeriod < hostTime + 1
  begun : anchor + period * ticksPerPeriod ≤ now
  not_over : now < anchor + (period + 1) * ticksPerPeriod

namespace InPeriod

variable {ticks : ℚ} {anchor first second period later hostTime laterTime : Nat}

/-- The counted period of a time. -/
theorem count (positive : 0 < ticks) {now : Nat} (started : anchor ≤ now) :
    InPeriod ticks anchor now (((now - anchor : Nat) : ℚ) / ticks).floor.toNat
      (anchor + ((((now - anchor : Nat) : ℚ) / ticks).floor.toNat * ticks).floor.toNat) := by
  have elapsed : ((now - anchor : Nat) : ℚ) = now - anchor := Nat.cast_sub started
  obtain ⟨begun, notOver⟩ := FrameStreams.floor_toNat_bounds
    (div_nonneg (Nat.cast_nonneg (now - anchor)) positive.le)
  generalize (((now - anchor : Nat) : ℚ) / ticks).floor.toNat = period at begun notOver ⊢
  rw [le_div_iff₀ positive, elapsed] at begun
  rw [div_lt_iff₀ positive, elapsed] at notOver
  obtain ⟨low, high⟩ := @FrameStreams.floor_toNat_bounds (period * ticks) (by positivity)
  refine ⟨?_, ?_, by linarith, by linarith⟩
  · push_cast
    linarith
  · push_cast
    linarith

theorem host_le_now (counted : InPeriod ticks anchor first period hostTime) : hostTime ≤ first := by
  have below := counted.host_le.trans counted.begun
  exact_mod_cast below

theorem now_lt (counted : InPeriod ticks anchor first period hostTime) :
    (first : ℚ) < hostTime + ticks + 1 := by
  linarith [counted.lt_host, counted.not_over]

/-- A later time is in no earlier period. -/
theorem mono (counted : InPeriod ticks anchor first period hostTime)
    (again : InPeriod ticks anchor second later laterTime) (positive : 0 < ticks)
    (ordered : first ≤ second) : period ≤ later := by
  have times : (first : ℚ) ≤ second := by exact_mod_cast ordered
  have less : period * ticks < (later + 1) * ticks := by linarith [counted.begun, again.not_over]
  have fewer : (period : ℚ) < later + 1 := lt_of_mul_lt_mul_right less positive.le
  exact Nat.lt_succ_iff.mp (by exact_mod_cast fewer)

theorem host_mono (counted : InPeriod ticks anchor first period hostTime)
    (again : InPeriod ticks anchor second later laterTime) (positive : 0 < ticks)
    (ordered : first ≤ second) : hostTime ≤ laterTime := by
  have periods : (period : ℚ) ≤ later := by exact_mod_cast counted.mono again positive ordered
  have starts := mul_le_mul_of_nonneg_right periods positive.le
  have less : (hostTime : ℚ) < laterTime + 1 := by linarith [counted.host_le, again.lt_host]
  exact Nat.lt_succ_iff.mp (by exact_mod_cast less)

/-- Two stamps tell the rate, but for less than a tick. -/
theorem rate (counted : InPeriod ticks anchor first period hostTime)
    (again : InPeriod ticks anchor second later laterTime) :
    |((laterTime : ℚ) - hostTime) - (later - period) * ticks| < 1 := by
  rw [abs_lt]
  constructor
  · linarith [counted.host_le, again.lt_host]
  · linarith [counted.lt_host, again.host_le]

end InPeriod

/-! ## Stamps -/

/-- The clock of a device since its session began. -/
structure SessionClock where
  anchorHostTime : UInt64
  seed : UInt64

namespace SessionClock

def after (clock : SessionClock) : IoEvent → SessionClock
  | .created _ _ _ => ⟨0, 1⟩
  | .started _ true now => ⟨now, clock.seed + 1⟩
  | _ => clock

/-- The clock after all that happened to a device. -/
def afterAll (device : Nat) (events : List IoEvent) : SessionClock :=
  IoEvent.replay after device events ⟨0, 1⟩

end SessionClock

/-- How many sessions of a device have begun. -/
def sessionsBegun (device : Nat) (events : List IoEvent) : Nat :=
  events.countP fun event =>
    match event with
    | .started other true _ => other = device
    | _ => false

/-- A clock goes on with the next seed when a session begins, and stays as it is
for the rest of the session. -/
theorem SessionClock.replay_sessions {device : Nat} {between : List IoEvent} (clock : SessionClock)
    (kept : ∀ inputChannels outputChannels,
      IoEvent.created device inputChannels outputChannels ∉ between) :
    (IoEvent.replay after device between clock).seed =
        clock.seed + UInt64.ofNat (sessionsBegun device between) ∧
      (sessionsBegun device between = 0 → IoEvent.replay after device between clock = clock) := by
  induction between with
  | nil => exact ⟨(UInt64.add_zero _).symm, fun _ => rfl⟩
  | cons event between ih =>
      obtain ⟨seeds, same⟩ := ih fun inputChannels outputChannels member =>
        kept inputChannels outputChannels (List.mem_cons_of_mem _ member)
      by_cases own : event.device = device
      swap
      · have count : sessionsBegun device (event :: between) = sessionsBegun device between := by
          refine List.countP_cons_of_neg ?_
          split
          · exact fun begins => own (of_decide_eq_true begins)
          · exact Bool.false_ne_true
        rw [IoEvent.replay_cons_of_ne _ _ _ own, count]
        exact ⟨seeds, same⟩
      subst own
      rw [IoEvent.replay_cons_self]
      by_cases begins : ∃ other now, event = .started other true now
      · obtain ⟨other, now, rfl⟩ := begins
        have count : sessionsBegun other (.started other true now :: between) =
            sessionsBegun other between + 1 :=
          List.countP_cons_of_pos (decide_eq_true rfl)
        refine ⟨?_, fun none => absurd (count.symm.trans none) (Nat.succ_ne_zero _)⟩
        change (IoEvent.replay after other between clock).seed + 1 =
          clock.seed + UInt64.ofNat (sessionsBegun other (.started other true now :: between))
        rw [count, UInt64.ofNat_add]
        exact (congrArg (· + 1) seeds).trans (UInt64.add_assoc _ _ _)
      · have count : sessionsBegun event.device (event :: between) =
            sessionsBegun event.device between := by
          refine List.countP_cons_of_neg ?_
          split
          · exact fun _ => begins ⟨_, _, rfl⟩
          · exact Bool.false_ne_true
        have still : ∀ clock : SessionClock, clock.after event = clock := by
          intro clock
          unfold after
          split
          · exact absurd List.mem_cons_self (kept _ _)
          · exact absurd ⟨_, _, rfl⟩ begins
          · rfl
        rw [still, count]
        exact ⟨seeds, same⟩

/-- A stamp of a device at a time of the host. -/
structure StampedBy (ticksPerPeriod : ℚ) (clock : SessionClock) (now : UInt64)
    (stamp : ZeroTimeStamp) (period : Nat) : Prop where
  sampleTime : stamp.sampleTime.toNat = period * kZeroTimeStampPeriod.toNat
  inPeriod : InPeriod ticksPerPeriod clock.anchorHostTime.toNat now.toNat period
    stamp.hostTime.toNat
  seed : stamp.seed = clock.seed

/-- No tick is longer than a frame of any device. -/
theorem ticksPerPeriod_ge {hostTicksPerSecond : ℚ} {device : Device}
    (fast : 768000 ≤ hostTicksPerSecond) (slow : device.sampleRate.toNat ≤ 768000)
    (positive : 0 < device.sampleRate.toNat) :
    (kZeroTimeStampPeriod.toNat : ℚ) ≤ ticksPerPeriod hostTicksPerSecond device := by
  have rate : (device.sampleRate.toNat : ℚ) ≤ hostTicksPerSecond :=
    le_trans (by exact_mod_cast slow) fast
  have one : 1 ≤ hostTicksPerSecond / device.sampleRate.toNat := by
    rw [le_div_iff₀ (by exact_mod_cast positive), one_mul]
    exact rate
  exact le_mul_of_one_le_left (Nat.cast_nonneg _) one

/-- No number of a stamp wraps. -/
theorem stampedBy_of_zeroTimeStamp {hostTicksPerSecond : ℚ} {device : Device} {now : UInt64}
    {io : DeviceIo} {stamp : ZeroTimeStamp} (started : io.anchorHostTime ≤ now)
    (long : (kZeroTimeStampPeriod.toNat : ℚ) ≤ ticksPerPeriod hostTicksPerSecond device)
    (given : io.zeroTimeStamp hostTicksPerSecond device now = some stamp) :
    ∃ period, StampedBy (ticksPerPeriod hostTicksPerSecond device)
      ⟨io.anchorHostTime, io.clockSeed⟩ now stamp period := by
  have begun : io.anchorHostTime.toNat ≤ now.toNat := UInt64.le_iff_toNat_le.mp started
  have length : (16384 : ℚ) ≤ ticksPerPeriod hostTicksPerSecond device := by
    have value : kZeroTimeStampPeriod.toNat = 16384 := rfl
    rw [value] at long
    exact_mod_cast long
  rw [DeviceIo.zeroTimeStamp] at given
  split at given
  · cases given
  generalize ticksPerPeriod hostTicksPerSecond device = ticks at given long length ⊢
  have positive : 0 < ticks := by linarith
  have counted := InPeriod.count positive begun
  generalize periods : (((now.toNat - io.anchorHostTime.toNat : Nat) : ℚ) / ticks).floor.toNat =
    period at counted
  have whole : period * 16384 ≤ now.toNat - io.anchorHostTime.toNat := by
    have most : (period : ℚ) * 16384 ≤ period * ticks :=
      mul_le_mul_of_nonneg_left length (Nat.cast_nonneg _)
    have elapsed : (period : ℚ) * ticks ≤ ((now.toNat - io.anchorHostTime.toNat : Nat) : ℚ) := by
      rw [Nat.cast_sub begun]
      linarith [counted.begun]
    exact_mod_cast most.trans elapsed
  have bound := now.toNat_lt
  have cast : (if now > io.anchorHostTime then
      UInt64.ofNat (((now - io.anchorHostTime).toNat : ℚ) / ticks).floor.toNat else 0).toNat =
        period := by
    by_cases later : now > io.anchorHostTime
    · rw [if_pos later, UInt64.toNat_sub_of_le _ _ started, periods, UInt64.toNat_ofNat',
        Nat.mod_eq_of_lt (by omega)]
    · have same : now = io.anchorHostTime := UInt64.le_antisymm (UInt64.not_lt.mp later) started
      rw [if_neg later, ← periods, same, Nat.sub_self, Nat.cast_zero, zero_div]
      decide
  dsimp only at given
  have stampEq := Option.some.inj given
  subst stampEq
  refine ⟨period, ?_, ?_, rfl⟩
  · have wide : kZeroTimeStampPeriod.toUInt64.toNat = 16384 := rfl
    have narrow : kZeroTimeStampPeriod.toNat = 16384 := rfl
    rw [UInt64.toNat_mul, cast, wide, narrow, Nat.mod_eq_of_lt (by omega)]
  · have host := counted.host_le_now
    rw [cast, UInt64.toNat_add, UInt64.toNat_ofNat',
      Nat.mod_eq_of_lt (by omega : (period * ticks).floor.toNat < 2 ^ 64),
      Nat.mod_eq_of_lt (by omega)]
    exact counted

/-! ## Runs -/

namespace IoSystem

open Driver

/-- A rate that a create command can ask for. -/
def Rated (driver : Driver) : Prop :=
  ∀ device < driver.allocated, 8000 ≤ (driver.devices device).sampleRate.toNat ∧
    (driver.devices device).sampleRate.toNat ≤ 768000

theorem rate_of_parse {texts : List String} {fields : DeviceFields}
    (accepted : DeviceFields.parse texts = some fields) :
    8000 ≤ fields.sampleRate.toNat ∧ fields.sampleRate.toNat ≤ 768000 := by
  obtain ⟨input, output, rate, _, _, _, ranges⟩ := DeviceFields.parse_eq_some accepted
  simp only [not_or, UInt32.not_lt, gt_iff_lt] at ranges
  obtain ⟨_, _, _, _, low, high⟩ := ranges
  exact ⟨UInt32.le_iff_toNat_le.mp low, UInt32.le_iff_toNat_le.mp high⟩

theorem Rated.append {driver next : Driver} {device : Device} {fields : DeviceFields}
    {texts : List String} (rated : Rated driver)
    (accepted : DeviceFields.parse texts = some fields) (fresh : Fresh driver fields device)
    (devices : next.devices = Function.update driver.devices driver.allocated device)
    (allocated : next.allocated = driver.allocated + 1) : Rated next := by
  intro other within
  rw [allocated] at within
  rw [devices]
  by_cases new : other = driver.allocated
  · rw [new, Function.update_self]
    have rate : device.sampleRate = fields.sampleRate :=
      congrArg DeviceFields.sampleRate fresh.fields_eq
    rw [rate]
    exact rate_of_parse accepted
  · rw [Function.update_of_ne new]
    exact rated other (by omega)

theorem Rated.keep {driver next : Driver} (rated : Rated driver)
    (same : SameFormats driver next) : Rated next := by
  intro other within
  have rate : (next.devices other).sampleRate = (driver.devices other).sampleRate :=
    congrArg (·.2.2) (same.format other)
  rw [rate]
  exact rated other (same.allocated ▸ within)

theorem rated_initializeDriver (storage : Option String) (copyStatus : OSStatus)
    (allocates : Nat → Bool) :
    Rated ((Driver.loaded storage).initializeDriver copyStatus allocates).2 := by
  refine initializeDriver_induction ?_ ?_ copyStatus allocates
  · intro driver texts fields added rated accepted fresh
    exact rated.append accepted fresh rfl rfl
  · exact fun device within => absurd within (Nat.not_lt_zero device)

/-- A device that an object id names is in a slot. -/
theorem placed_of_deviceForObject {driver : Driver} {objectID : UInt32} {device : Nat}
    (found : driver.deviceForObject objectID = some device) :
    ∃ slot, driver.slots slot = some device := by
  unfold deviceForObject at found
  split at found
  · cases found
  dsimp only at found
  split at found
  · cases found
  split at found
  · rename_i pointer placed
    split at found
    · cases found
    · cases found
      exact ⟨_, placed⟩
  · cases found

/-- A stamp in the record, with what happened before it. -/
structure Stamped (hostTicksPerSecond : ℚ) (system : IoSystem) (device : Nat) (now : UInt64)
    (stamp : ZeroTimeStamp) (earlier : List IoEvent) : Prop where
  period : ∃ period, StampedBy
    (ticksPerPeriod hostTicksPerSecond (system.table.driver.devices device))
    (SessionClock.afterAll device earlier) now stamp period
  past : now ≤ system.absoluteTime
  ordered : ∀ other time before, .stamped other time before ∈ earlier → time ≤ now

/-- The record of the devices agrees with their clocks. -/
structure Timed (hostTicksPerSecond : ℚ) (system : IoSystem) : Prop where
  sound : system.table.Sound False
  ticks : system.hostTicksPerSecond = hostTicksPerSecond
  rated : Rated system.table.driver
  found : ∀ thread call device, system.calls thread = some (call, .found device) →
    device < system.table.driver.allocated
  clock : ∀ device, SessionClock.afterAll device system.events =
    ⟨(system.io device).anchorHostTime, (system.io device).clockSeed⟩
  begun : ∀ device, (system.io device).anchorHostTime ≤ system.absoluteTime
  known : ∀ device now stamp, .stamped device now stamp ∈ system.events →
    device < system.table.driver.allocated
  created : ∀ device inputChannels outputChannels earlier,
    .created device inputChannels outputChannels :: earlier <:+ system.events →
      ∀ now stamp, .stamped device now stamp ∉ earlier
  stamped : ∀ device now stamp earlier, .stamped device now stamp :: earlier <:+ system.events →
    system.Stamped hostTicksPerSecond device now stamp earlier

section Steps

variable {hostTicksPerSecond : ℚ} {system next : IoSystem}

/-- What every step keeps: no device is forgotten, and none changes its rate. -/
structure Onward (hostTicksPerSecond : ℚ) (system next : IoSystem) : Prop where
  sound : next.table.Sound False
  ticks : next.hostTicksPerSecond = hostTicksPerSecond
  rated : Rated next.table.driver
  more : system.table.driver.allocated ≤ next.table.driver.allocated
  rates : ∀ device < system.table.driver.allocated,
    (next.table.driver.devices device).sampleRate =
      (system.table.driver.devices device).sampleRate
  found : ∀ thread call device, next.calls thread = some (call, .found device) →
    device < next.table.driver.allocated
  later : system.absoluteTime ≤ next.absoluteTime

theorem Stamped.keep {device : Nat} {now : UInt64} {stamp : ZeroTimeStamp}
    {earlier : List IoEvent}
    (stamped : system.Stamped hostTicksPerSecond device now stamp earlier)
    (onward : Onward hostTicksPerSecond system next)
    (known : device < system.table.driver.allocated) :
    next.Stamped hostTicksPerSecond device now stamp earlier where
  period := by
    rw [ticksPerPeriod, onward.rates device known]
    exact stamped.period
  past := UInt64.le_trans stamped.past onward.later
  ordered := stamped.ordered

namespace Timed

/-- A step that has no event. -/
theorem keep (timed : system.Timed hostTicksPerSecond)
    (onward : Onward hostTicksPerSecond system next) (io : next.io = system.io)
    (events : next.events = system.events) : next.Timed hostTicksPerSecond where
  sound := onward.sound
  ticks := onward.ticks
  rated := onward.rated
  found := onward.found
  clock := by rw [events, io]; exact timed.clock
  begun := fun device => io ▸ UInt64.le_trans (timed.begun device) onward.later
  known := fun device now stamp member =>
    Nat.lt_of_lt_of_le (timed.known device now stamp (events ▸ member)) onward.more
  created := by rw [events]; exact timed.created
  stamped := by
    intro device now stamp earlier suffix
    rw [events] at suffix
    exact (timed.stamped device now stamp earlier suffix).keep onward
      (timed.known device now stamp (suffix.mem List.mem_cons_self))

/-- One more event.  A created device is new, and a stamp is one of its time. -/
theorem record (timed : system.Timed hostTicksPerSecond)
    (onward : Onward hostTicksPerSecond system next) {event : IoEvent}
    (events : next.events = event :: system.events)
    (own : (SessionClock.afterAll event.device system.events).after event =
      ⟨(next.io event.device).anchorHostTime, (next.io event.device).clockSeed⟩)
    (others : ∀ other ≠ event.device, next.io other = system.io other)
    (begun : (next.io event.device).anchorHostTime ≤ next.absoluteTime)
    (created : ∀ device inputChannels outputChannels,
      event = .created device inputChannels outputChannels →
        system.table.driver.allocated ≤ device)
    (stamped : ∀ device now stamp, event = .stamped device now stamp →
      device < system.table.driver.allocated ∧
        next.Stamped hostTicksPerSecond device now stamp system.events) :
    next.Timed hostTicksPerSecond where
  sound := onward.sound
  ticks := onward.ticks
  rated := onward.rated
  found := onward.found
  clock := by
    intro device
    rw [events, SessionClock.afterAll]
    by_cases same : event.device = device
    · subst same
      rw [IoEvent.replay_cons_self]
      exact own
    · rw [IoEvent.replay_cons_of_ne _ _ _ same, others device (Ne.symm same)]
      exact timed.clock device
  begun := by
    intro device
    by_cases same : device = event.device
    · rw [same]
      exact begun
    · rw [others device same]
      exact UInt64.le_trans (timed.begun device) onward.later
  known := by
    intro device now stamp member
    rw [events] at member
    rcases List.mem_cons.mp member with same | old
    · exact Nat.lt_of_lt_of_le (stamped device now stamp same.symm).1 onward.more
    · exact Nat.lt_of_lt_of_le (timed.known device now stamp old) onward.more
  created := by
    intro device inputChannels outputChannels earlier suffix
    rw [events] at suffix
    rcases List.suffix_cons_iff.mp suffix with same | older
    · obtain ⟨rfl, rfl⟩ := List.cons.inj same
      intro now stamp member
      exact Nat.not_lt.mpr (created device _ _ rfl) (timed.known device now stamp member)
    · exact timed.created device _ _ earlier older
  stamped := by
    intro device now stamp earlier suffix
    rw [events] at suffix
    rcases List.suffix_cons_iff.mp suffix with same | older
    · obtain ⟨rfl, rfl⟩ := List.cons.inj same
      exact (stamped device now stamp rfl).2
    · exact (timed.stamped device now stamp earlier older).keep onward
        (timed.known device now stamp (older.mem List.mem_cons_self))

/-- A step of a call without a lock. -/
theorem onward (timed : system.Timed hostTicksPerSecond) (table : next.table = system.table)
    (ticks : next.hostTicksPerSecond = system.hostTicksPerSecond)
    (found : ∀ thread call device, next.calls thread = some (call, .found device) →
      device < system.table.driver.allocated)
    (later : system.absoluteTime ≤ next.absoluteTime) :
    Onward hostTicksPerSecond system next where
  sound := table ▸ timed.sound
  ticks := ticks.trans timed.ticks
  rated := table ▸ timed.rated
  more := by rw [table]
  rates := fun _ _ => by rw [table]
  found := by rw [table]; exact found
  later := later

/-- A call that ends, or goes on with a known device. -/
theorem found_setCall (timed : system.Timed hostTicksPerSecond) {state : IoSystem}
    (same : state.calls = system.calls) {changed : Nat} {call : Option (IoCall × IoProgress)}
    (known : ∀ called device, call = some (called, .found device) →
      device < system.table.driver.allocated) :
    ∀ thread called device, (state.setCall changed call).calls thread =
      some (called, .found device) → device < system.table.driver.allocated := by
  intro thread called device calling
  by_cases own : thread = changed
  · subst own
    have set : (state.setCall thread call).calls thread = call := Function.update_self _ _ _
    exact known called device (set.symm.trans calling)
  · have kept : (state.setCall changed call).calls thread = system.calls thread :=
      (Function.update_of_ne own _ _).trans (congrFun same thread)
    exact timed.found thread called device (kept.symm.trans calling)

/-- A step of a call that changes the table. -/
theorem onward_changed (timed : system.Timed hostTicksPerSecond) {table : DriverSystem}
    {events : List IoEvent} (sound : table.Sound False)
    (change : TableChange system.absoluteTime system.table.driver table.driver events)
    (sameTable : next.table = table) (ticks : next.hostTicksPerSecond = system.hostTicksPerSecond)
    (calls : next.calls = system.calls) (later : system.absoluteTime ≤ next.absoluteTime) :
    Onward hostTicksPerSecond system next := by
  subst sameTable
  have found : system.table.driver.allocated ≤ next.table.driver.allocated →
      ∀ thread call device, next.calls thread = some (call, .found device) →
        device < next.table.driver.allocated := by
    intro more thread call device calling
    rw [calls] at calling
    exact Nat.lt_of_lt_of_le (timed.found thread call device calling) more
  have kept : SameFormats system.table.driver next.table.driver →
      Onward hostTicksPerSecond system next := fun same =>
    { sound := sound
      ticks := ticks.trans timed.ticks
      rated := timed.rated.keep same
      more := same.allocated.ge
      rates := fun device _ => congrArg (·.2.2) (same.format device)
      found := found same.allocated.ge
      later := later }
  cases change with
  | created accepted fresh devices allocated =>
      exact
        { sound := sound
          ticks := ticks.trans timed.ticks
          rated := timed.rated.append accepted fresh devices allocated
          more := by omega
          rates := fun device within => by rw [devices, Function.update_of_ne (by omega)]
          found := found (by omega)
          later := later }
  | started same => exact kept same
  | stopped same => exact kept same
  | kept same => exact kept same

theorem changed (timed : system.Timed hostTicksPerSecond) {action : DriverAction}
    {table : DriverSystem} (sound : table.Sound False)
    (change : TableChange system.absoluteTime system.table.driver table.driver
      (system.table.ioEvents system.absoluteTime action)) :
    IoSystem.Timed hostTicksPerSecond { system with
      table := table
      io := (system.table.ioEvents system.absoluteTime action).foldl (applyEvent table.driver)
        system.io
      events := system.table.ioEvents system.absoluteTime action ++ system.events } := by
  generalize system.table.ioEvents system.absoluteTime action = happened at change
  have onward := @onward_changed _ _ { system with
    table := table
    io := happened.foldl (applyEvent table.driver) system.io
    events := happened ++ system.events } timed table happened sound change rfl rfl rfl
      (UInt64.le_refl _)
  cases change with
  | @created device _ _ accepted fresh devices allocated =>
      have io := applyEvent_created table.driver system.io system.table.driver.allocated
        device.inputChannels device.outputChannels
      refine timed.record onward rfl ?_ (fun other differ => applyEvent_of_ne _ differ) ?_ ?_ nofun
      · exact (congrArg (fun io : DeviceIo => (⟨io.anchorHostTime, io.clockSeed⟩ : SessionClock))
          io).symm
      · exact (congrArg DeviceIo.anchorHostTime io).trans_le UInt64.zero_le
      · rintro _ _ _ ⟨⟩
        exact Nat.le_refl _
  | @started device same counted others =>
      have clock := timed.clock device
      have io := applyEvent_started table.driver system.io device
        (decide ((system.table.driver.devices device).runningClients = 0)) system.absoluteTime
      refine timed.record onward rfl ?_ (fun other differ => applyEvent_of_ne _ differ) ?_ nofun
        nofun
      · change (SessionClock.afterAll device system.events).after _ =
          ⟨(applyEvent table.driver system.io _ device).anchorHostTime,
            (applyEvent table.driver system.io _ device).clockSeed⟩
        rw [io, clock]
        cases decide ((system.table.driver.devices device).runningClients = 0) <;> rfl
      · change (applyEvent table.driver system.io _ device).anchorHostTime ≤ system.absoluteTime
        rw [io]
        cases decide ((system.table.driver.devices device).runningClients = 0) with
        | true => exact UInt64.le_refl _
        | false => exact timed.begun device
  | @stopped device same =>
      exact timed.record onward rfl (timed.clock device) (fun _ _ => rfl) (timed.begun device)
        nofun nofun
  | kept same => exact timed.keep onward rfl rfl

/-- An event of a call without a lock, but for stamps. -/
theorem recordIo (timed : system.Timed hostTicksPerSecond) {event : IoEvent}
    {device thread : Nat} {ring : Loopback} (ofDevice : event.device = device)
    (same : ∀ clock : SessionClock, clock.after event = clock)
    (created : ∀ device inputChannels outputChannels,
      event ≠ .created device inputChannels outputChannels)
    (stamped : ∀ device now stamp, event ≠ .stamped device now stamp) :
    (((system.setIo device { system.io device with ring := ring }).record event).setCall thread
      none).Timed hostTicksPerSecond := by
  subst ofDevice
  have set : (system.setIo event.device { system.io event.device with ring := ring }).io
      event.device = { system.io event.device with ring := ring } := Function.update_self _ _ _
  refine timed.record
    (timed.onward rfl rfl (timed.found_setCall rfl nofun) (UInt64.le_refl _)) rfl ?_
    (fun other differ => Function.update_of_ne differ _ _) ?_
    (fun device _ _ made => absurd made (created device _ _))
    (fun device now stamp made => absurd made (stamped device now stamp))
  · refine (same _).trans ((timed.clock event.device).trans ?_)
    exact (congrArg (fun io : DeviceIo => (⟨io.anchorHostTime, io.clockSeed⟩ : SessionClock))
      set).symm
  · exact (congrArg DeviceIo.anchorHostTime set).trans_le (timed.begun event.device)

theorem step (timed : system.Timed hostTicksPerSecond) (fast : 768000 ≤ hostTicksPerSecond)
    {action : IoAction} {returned : Option IoStatus}
    (stepped : system.step action = some (next, returned)) : next.Timed hostTicksPerSecond := by
  have calm := UInt64.le_refl system.absoluteTime
  cases effect_of_step stepped with
  | changed changes =>
      exact timed.changed (timed.sound.step False.elim (DriverSystem.effect_of_step changes))
        (.of_step changes)
  | called | classified | refused =>
      refine timed.keep (timed.onward rfl rfl (timed.found_setCall rfl ?_) calm) rfl rfl
      rintro _ _ ⟨⟩
  | found resolved =>
      obtain ⟨slot, placed⟩ := placed_of_deviceForObject resolved
      refine timed.keep (timed.onward rfl rfl (timed.found_setCall rfl ?_) calm) rfl rfl
      rintro _ _ ⟨⟩
      exact (timed.sound.table.slot_eq slot _ placed).1
  | wrote => exact timed.recordIo rfl (fun _ => rfl) nofun nofun
  | played => exact timed.recordIo rfl (fun _ => rfl) nofun nofun
  | @switched thread device _ _ _ _ _ isInput =>
      cases isInput with
      | true => exact timed.recordIo rfl (fun _ => rfl) nofun nofun
      | false => exact timed.recordIo rfl (fun _ => rfl) nofun nofun
  | @stamped thread device objectID stamp calling given =>
      have known := timed.found thread _ device calling
      obtain ⟨low, high⟩ := timed.rated device known
      rw [timed.ticks] at given
      refine timed.record (timed.onward rfl rfl (timed.found_setCall rfl nofun) calm) rfl
        (timed.clock device) (fun _ _ => rfl) (timed.begun device) nofun ?_
      rintro _ _ _ ⟨⟩
      refine ⟨known, ?_, calm, ?_⟩
      · obtain ⟨period, stampedBy⟩ := stampedBy_of_zeroTimeStamp (timed.begun device)
          (ticksPerPeriod_ge fast high (by omega)) given
        exact ⟨period, (timed.clock device).symm ▸ stampedBy⟩
      · intro other time before member
        obtain ⟨earlier, rest, split⟩ := List.append_of_mem member
        exact (timed.stamped other time before rest ⟨earlier, split.symm⟩).past
  | @ticked ticks later =>
      have after : system.absoluteTime ≤ system.absoluteTime + ticks := by
        rw [UInt64.le_iff_toNat_le, UInt64.toNat_add, Nat.mod_eq_of_lt later]
        exact Nat.le_add_right _ _
      exact timed.keep (timed.onward rfl rfl timed.found after) rfl rfl

end Timed

end Steps

/-- A clock that has just been started has no stamps. -/
theorem timed_idle (storage : Option String) (copyStatus : OSStatus) (allocates : Nat → Bool)
    (hostTicksPerSecond : ℚ) (absoluteTime : UInt64) :
    (idle ((Driver.loaded storage).initializeDriver copyStatus allocates).2 hostTicksPerSecond
      absoluteTime).Timed hostTicksPerSecond where
  sound := ⟨table_initializeDriver storage copyStatus allocates, nofun⟩
  ticks := rfl
  rated := rated_initializeDriver storage copyStatus allocates
  found := nofun
  clock := fun _ => rfl
  begun := fun _ => UInt64.zero_le
  known := nofun
  created := fun _ _ _ _ suffix => absurd (List.suffix_nil.mp suffix) (List.cons_ne_nil _ _)
  stamped := fun _ _ _ _ suffix => absurd (List.suffix_nil.mp suffix) (List.cons_ne_nil _ _)

/-- On a host whose ticks are no longer than a frame, the stamps of a device are
the beginnings of its periods, each the last one before its time.  Those of one
session have one seed, never go back, and tell the rate of the device but for less
than a tick; with every session that begins in between, the seed is one more. -/
theorem zero_time_stamps (storage : Option String) (copyStatus : OSStatus)
    (allocates : Nat → Bool) {hostTicksPerSecond : ℚ} (absoluteTime : UInt64)
    (fast : 768000 ≤ hostTicksPerSecond) {system : IoSystem}
    (reached : Reachable step
      (idle ((Driver.loaded storage).initializeDriver copyStatus allocates).2 hostTicksPerSecond
        absoluteTime) system) :
    (∀ device now stamp earlier, .stamped device now stamp :: earlier <:+ system.events →
      kZeroTimeStampPeriod.toNat ∣ stamp.sampleTime.toNat ∧ stamp.hostTime ≤ now ∧
        (now.toNat : ℚ) < stamp.hostTime.toNat +
          ticksPerPeriod hostTicksPerSecond (system.table.driver.devices device) + 1) ∧
    ∀ device now stamp between time before earlier,
      .stamped device now stamp :: (between ++ .stamped device time before :: earlier) <:+
        system.events →
      time ≤ now ∧
      stamp.seed = before.seed + UInt64.ofNat (sessionsBegun device between) ∧
      (sessionsBegun device between = 0 →
        before.sampleTime ≤ stamp.sampleTime ∧ before.hostTime ≤ stamp.hostTime ∧
        |((stamp.hostTime.toNat : ℚ) - before.hostTime.toNat) -
          ((stamp.sampleTime.toNat : ℚ) - before.sampleTime.toNat) *
            (hostTicksPerSecond / (system.table.driver.devices device).sampleRate.toNat)| < 1) := by
  have invariant : Invariant step
      (idle ((Driver.loaded storage).initializeDriver copyStatus allocates).2 hostTicksPerSecond
        absoluteTime) fun state => state.Timed hostTicksPerSecond :=
    { start := timed_idle storage copyStatus allocates hostTicksPerSecond absoluteTime
      step := fun timed stepped => timed.step fast stepped }
  have timed := invariant.reachable reached
  constructor
  · intro device now stamp earlier suffix
    obtain ⟨period, stamped⟩ := (timed.stamped device now stamp earlier suffix).period
    exact ⟨⟨period, stamped.sampleTime.trans (Nat.mul_comm _ _)⟩,
      UInt64.le_iff_toNat_le.mpr stamped.inPeriod.host_le_now, stamped.inPeriod.now_lt⟩
  · intro device now stamp between time before earlier suffix
    have older : .stamped device time before :: earlier <:+ system.events :=
      (List.suffix_append _ _).trans ((List.suffix_cons _ _).trans suffix)
    have last := timed.stamped device now stamp _ suffix
    obtain ⟨later, stamped⟩ := last.period
    obtain ⟨period, stampedBefore⟩ := (timed.stamped device time before earlier older).period
    have ordered : time ≤ now :=
      last.ordered device time before (List.mem_append_right _ List.mem_cons_self)
    have kept : ∀ inputChannels outputChannels,
        .created device inputChannels outputChannels ∉ between := by
      intro inputChannels outputChannels member
      obtain ⟨newer, rest, rfl⟩ := List.append_of_mem member
      have created : .created device inputChannels outputChannels ::
          (rest ++ .stamped device time before :: earlier) <:+ system.events := by
        refine List.IsSuffix.trans ?_ ((List.suffix_cons _ _).trans suffix)
        rw [List.append_assoc]
        exact List.suffix_append newer _
      exact timed.created device _ _ _ created time before
        (List.mem_append_right _ List.mem_cons_self)
    have clocks : SessionClock.afterAll device (between ++ .stamped device time before :: earlier) =
        IoEvent.replay SessionClock.after device between
          (SessionClock.afterAll device earlier) := by
      rw [SessionClock.afterAll, IoEvent.replay_append]
      congr 1
      exact IoEvent.replay_cons_self _ (.stamped device time before) earlier _
    obtain ⟨seeds, same⟩ := (SessionClock.afterAll device earlier).replay_sessions kept
    refine ⟨ordered, ?_, fun none => ?_⟩
    · rw [stamped.seed, clocks, seeds, stampedBefore.seed]
    · have positive : 0 < ticksPerPeriod hostTicksPerSecond
          (system.table.driver.devices device) := by
        have periods := stamped.inPeriod
        linarith [periods.begun, periods.not_over]
      have second := stamped.inPeriod
      rw [clocks, same none] at second
      have first := stampedBefore.inPeriod
      have times := UInt64.le_iff_toNat_le.mp ordered
      refine ⟨?_, ?_, ?_⟩
      · rw [UInt64.le_iff_toNat_le, stampedBefore.sampleTime, stamped.sampleTime]
        exact Nat.mul_le_mul_right _ (first.mono second positive times)
      · rw [UInt64.le_iff_toNat_le]
        exact first.host_mono second positive times
      · rw [stamped.sampleTime, stampedBefore.sampleTime]
        have rate := first.rate second
        rw [ticksPerPeriod] at rate
        push_cast
        convert rate using 2
        ring

/-- A client that has started, and asks for the time twice. -/
def twoStamps : List IoAction :=
  [.table (.call 0 (.startIo 100)),
    .table (.lookup 0),
    .table (.enter 0 true .noErr),
    .call 1 (.getZeroTimeStamp 100),
    .lookup 1,
    .operate 1,
    .tick 24000000,
    .call 1 (.getZeroTimeStamp 101),
    .lookup 1,
    .operate 1]

theorem zero_time_stamps_twice :
    ∃ system, LabelledSteps.run step (idle ((Driver.loaded
        (some "create\tcable\tCable\t2\t2\t48000\n")).initializeDriver .noErr fun _ => true).2
          24000000 1) twoStamps = some system ∧
      (∀ device now stamp earlier, .stamped device now stamp :: earlier <:+ system.events →
        kZeroTimeStampPeriod.toNat ∣ stamp.sampleTime.toNat ∧ stamp.hostTime ≤ now ∧
          (now.toNat : ℚ) < stamp.hostTime.toNat +
            ticksPerPeriod 24000000 (system.table.driver.devices device) + 1) ∧
      ∀ device now stamp between time before earlier,
        .stamped device now stamp :: (between ++ .stamped device time before :: earlier) <:+
          system.events →
        time ≤ now ∧
        stamp.seed = before.seed + UInt64.ofNat (sessionsBegun device between) ∧
        (sessionsBegun device between = 0 →
          before.sampleTime ≤ stamp.sampleTime ∧ before.hostTime ≤ stamp.hostTime ∧
          |((stamp.hostTime.toNat : ℚ) - before.hostTime.toNat) -
            ((stamp.sampleTime.toNat : ℚ) - before.sampleTime.toNat) *
              (24000000 / (system.table.driver.devices device).sampleRate.toNat)| < 1) := by
  have runs : (LabelledSteps.run step (idle ((Driver.loaded
      (some "create\tcable\tCable\t2\t2\t48000\n")).initializeDriver .noErr fun _ => true).2
        24000000 1) twoStamps).isSome = true := by
    decide +kernel
  obtain ⟨system, ran⟩ := Option.isSome_iff_exists.mp runs
  exact ⟨system, ran, zero_time_stamps _ .noErr (fun _ => true) 1 (by norm_num)
    (Reachable.start.run ran)⟩

end IoSystem

end VCable
