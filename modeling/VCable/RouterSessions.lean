import VCable.RouterResampler
import Mathlib.Tactic.Ring

/-!
# Sessions of an incoming route

From one priming to the next loss of priming, the output frames of a route are
its source frames at one read position, which starts at the first frame that
was popped and goes on by the corrected step.  A loss of priming is an
underrun, and there are no others.
-/

namespace VCable

open FrameStreams

/-! ## Reading frames -/

namespace IncomingRoute

variable {F : Type}

theorem readSamples_of_le {destination consumer : List F}
    (enough : destination.length ≤ consumer.length) :
    readSamples destination consumer =
      (true, consumer.take destination.length, consumer.drop destination.length) := by
  induction destination generalizing consumer with
  | nil => rfl
  | cons sample destination ih =>
      cases consumer with
      | nil => exact absurd enough (by simp)
      | cons value consumer =>
          rw [readSamples, ih (Nat.le_of_succ_le_succ enough)]
          rfl

/-- A read takes the first frame of the ring, if there is one. -/
theorem readSourceFrame_next {route : IncomingRoute F}
    (length : route.next.length = route.sourceChannels) :
    (route.consumer.length < route.sourceChannels ∧
      route.readSourceFrame true = (false, route)) ∨
    (route.sourceChannels ≤ route.consumer.length ∧
      route.readSourceFrame true = (true, { route with
        next := route.consumer.take route.sourceChannels
        consumer := route.consumer.drop route.sourceChannels })) := by
  unfold readSourceFrame
  by_cases short : route.consumer.length < route.sourceChannels
  · exact Or.inl ⟨short, if_pos short⟩
  · have enough := not_lt.mp short
    refine Or.inr ⟨enough, ?_⟩
    rw [if_neg short, if_pos rfl, readSamples_of_le (length ▸ enough), length]

theorem readSourceFrame_current {route : IncomingRoute F}
    (length : route.current.length = route.sourceChannels)
    (enough : route.sourceChannels ≤ route.consumer.length) :
    route.readSourceFrame false = (true, { route with
      current := route.consumer.take route.sourceChannels
      consumer := route.consumer.drop route.sourceChannels }) := by
  rw [readSourceFrame, if_neg (not_lt.mpr enough), if_neg nofun,
    readSamples_of_le (length ▸ enough), length]

/-- The route has two neighbouring frames of a stream, and the ring has the
frames after them. -/
structure Reading (stream : List F) (base : Nat) (route : IncomingRoute F) : Prop where
  present : (base + 2) * route.sourceChannels ≤ stream.length
  current_eq : route.current = frameAt route.sourceChannels stream base
  next_eq : route.next = frameAt route.sourceChannels stream (base + 1)
  consumer_eq : route.consumer = stream.drop ((base + 2) * route.sourceChannels)

namespace Reading

variable {stream : List F} {base : Nat} {route : IncomingRoute F}

theorem length_next (reading : route.Reading stream base) :
    route.next.length = route.sourceChannels := by
  rw [reading.next_eq, length_frameAt reading.present]

/-- A stream that goes on is read in the same way. -/
theorem extend (reading : route.Reading stream base) (more : List F) :
    Reading (stream ++ more) base { route with consumer := route.consumer ++ more } where
  present := by
    rw [List.length_append]
    exact reading.present.trans (Nat.le_add_right _ _)
  current_eq := by
    refine reading.current_eq.trans (frameAt_append ?_ more).symm
    exact (Nat.mul_le_mul_right _ (by omega)).trans reading.present
  next_eq := reading.next_eq.trans (frameAt_append reading.present more).symm
  consumer_eq := by
    change route.consumer ++ more = _
    rw [reading.consumer_eq, List.drop_append_of_le_length reading.present]

end Reading

/-- The fields that no call changes. -/
structure SameSettings (route later : IncomingRoute F) : Prop where
  sourceChannels_eq : later.sourceChannels = route.sourceChannels
  sinkChannels_eq : later.sinkChannels = route.sinkChannels
  nominalStep_eq : later.nominalStep = route.nominalStep
  gain_eq : later.gain = route.gain
  matrix_eq : later.matrix = route.matrix

theorem SameSettings.refl (route : IncomingRoute F) : SameSettings route route :=
  ⟨rfl, rfl, rfl, rfl, rfl⟩

theorem SameSettings.trans {first second third : IncomingRoute F}
    (one : first.SameSettings second) (other : second.SameSettings third) :
    first.SameSettings third where
  sourceChannels_eq := other.sourceChannels_eq.trans one.sourceChannels_eq
  sinkChannels_eq := other.sinkChannels_eq.trans one.sinkChannels_eq
  nominalStep_eq := other.nominalStep_eq.trans one.nominalStep_eq
  gain_eq := other.gain_eq.trans one.gain_eq
  matrix_eq := other.matrix_eq.trans one.matrix_eq

/-- The ring has the rest of a stream, and the caches have place for a frame. -/
structure Waiting (stream : List F) (popped : Nat) (route : IncomingRoute F) : Prop where
  popped_le : popped * route.sourceChannels ≤ stream.length
  consumer_eq : route.consumer = stream.drop (popped * route.sourceChannels)
  length_current : route.current.length = route.sourceChannels
  length_next : route.next.length = route.sourceChannels

end IncomingRoute

/-! ## The loop -/

namespace PlayingRoute

open IncomingRoute

/-- What the loop leaves: a route that reads the stream at the position, or one
that has lost its priming. -/
inductive Advanced (stream : List ℚ) (position : ℚ) (metrics : RouterMetrics)
    (playing : PlayingRoute) : Prop where
  | reads (base : Nat) (reading : playing.route.Reading stream base)
      (primed : playing.route.primed = true) (position_eq : position = base + playing.route.phase)
      (nonneg : 0 ≤ playing.route.phase) (lt_one : playing.route.phase < 1)
      (metrics_eq : playing.metrics = metrics) : Advanced stream position metrics playing
  | lost (popped : Nat) (waiting : playing.route.Waiting stream popped)
      (unprimed : playing.route.primed = false)
      (metrics_eq : playing.metrics = { metrics with underruns := metrics.underruns + 1 }) :
      Advanced stream position metrics playing

theorem shifts_advanced {stream : List ℚ} {position : ℚ} {passes base : Nat}
    {playing : PlayingRoute} (reading : playing.route.Reading stream base)
    (primed : playing.route.primed = true) (position_eq : position = base + playing.route.phase)
    (nonneg : 0 ≤ playing.route.phase) (bound : playing.route.phase < passes + 1) :
    Advanced stream position playing.metrics (playing.shifts passes) ∧
      (playing.shifts passes).route.interpolated = playing.route.interpolated ∧
      playing.route.SameSettings (playing.shifts passes).route := by
  induction passes generalizing base playing with
  | zero =>
      have lt_one : playing.route.phase < 1 := by simpa using bound
      exact ⟨.reads base reading primed position_eq nonneg lt_one rfl, rfl, .refl _⟩
  | succ passes ih =>
      rw [shifts]
      by_cases goes : 1 ≤ playing.route.phase
      · rw [if_pos goes]
        have length : { playing.route with current := playing.route.next }.next.length =
            playing.route.sourceChannels := reading.length_next
        rcases readSourceFrame_next length with ⟨short, result⟩ | ⟨enough, result⟩
        · -- The ring ran dry: the current frame has gone on, and there is no next one.
          rw [result]
          refine ⟨.lost (base + 2) ?_ rfl rfl, rfl, ⟨rfl, rfl, rfl, rfl, rfl⟩⟩
          exact ⟨reading.present, reading.consumer_eq, reading.length_next, reading.length_next⟩
        · rw [result]
          dsimp only
          have consumer := reading.consumer_eq
          have shifted : Reading stream (base + 1) { playing.route with
              current := playing.route.next
              next := playing.route.consumer.take playing.route.sourceChannels
              consumer := playing.route.consumer.drop playing.route.sourceChannels
              phase := playing.route.phase - 1 } :=
            { present := by
                change (base + 1 + 2) * playing.route.sourceChannels ≤ stream.length
                have left : playing.route.sourceChannels ≤ playing.route.consumer.length := enough
                rw [consumer, List.length_drop] at left
                have present := reading.present
                rw [Nat.add_right_comm, Nat.succ_mul]
                omega
              current_eq := reading.next_eq
              next_eq := by
                change playing.route.consumer.take playing.route.sourceChannels = _
                rw [consumer]
                rfl
              consumer_eq := by
                change playing.route.consumer.drop playing.route.sourceChannels = _
                rw [consumer, drop_frame] }
          have later := @ih (base + 1) ⟨_, playing.metrics⟩ shifted primed (by
            rw [position_eq]
            push_cast
            ring) (sub_nonneg.mpr goes) (by
            push_cast at bound
            exact sub_lt_iff_lt_add.mpr bound)
          exact ⟨later.1, later.2.1,
            SameSettings.trans (by exact ⟨rfl, rfl, rfl, rfl, rfl⟩) later.2.2⟩
      · rw [if_neg goes]
        exact ⟨.reads base reading primed position_eq nonneg (not_le.mp goes) rfl, rfl, .refl _⟩

/-! ## One call -/

theorem correction_bounds (availableFrames : Nat) :
    -(1 / 2000) ≤ correction availableFrames ∧ correction availableFrames ≤ 1 / 1000 := by
  have nonneg : (0 : ℚ) ≤ availableFrames := Nat.cast_nonneg _
  unfold correction startupFrames
  constructor
  · refine le_max_of_le_right (le_min ?_ (by norm_num))
    push_cast
    linarith
  · exact max_le (by norm_num) (min_le_right _ _)

/-- With enough frames in its ring an unprimed route takes the first two. -/
theorem prime_of_enough {playing : PlayingRoute} (unprimed : playing.route.primed = false)
    (length_current : playing.route.current.length = playing.route.sourceChannels)
    (length_next : playing.route.next.length = playing.route.sourceChannels)
    (enough : ¬ playing.route.consumer.length / playing.route.sourceChannels < startupFrames) :
    2 * playing.route.sourceChannels ≤ playing.route.consumer.length ∧
      playing.prime = (true, { playing with
        route := { playing.route with
          current := playing.route.consumer.take playing.route.sourceChannels
          next := (playing.route.consumer.drop playing.route.sourceChannels).take
            playing.route.sourceChannels
          consumer := (playing.route.consumer.drop playing.route.sourceChannels).drop
            playing.route.sourceChannels
          phase := 0
          primed := true } }) := by
  have many : 512 * playing.route.sourceChannels ≤ playing.route.consumer.length :=
    Nat.mul_le_of_le_div _ _ _ (not_lt.mp enough)
  have first : playing.route.sourceChannels ≤ playing.route.consumer.length := by omega
  have rest : playing.route.sourceChannels ≤
      (playing.route.consumer.drop playing.route.sourceChannels).length := by
    rw [List.length_drop]
    omega
  refine ⟨by omega, ?_⟩
  rw [prime, if_neg (Bool.eq_false_iff.mp unprimed), if_neg enough,
    readSourceFrame_current length_current first]
  dsimp only
  rcases @readSourceFrame_next ℚ { playing.route with
      current := playing.route.consumer.take playing.route.sourceChannels
      consumer := playing.route.consumer.drop playing.route.sourceChannels }
      length_next with ⟨short, _⟩ | ⟨_, result⟩
  · exact absurd short (not_lt.mpr rest)
  rw [result]

/-- An unprimed route waits, or begins a session with the next frame of its ring. -/
theorem prime_cases {stream : List ℚ} {popped : Nat} {playing : PlayingRoute}
    (waiting : playing.route.Waiting stream popped) (unprimed : playing.route.primed = false) :
    playing.prime = (false, playing) ∨
      ∃ route : IncomingRoute ℚ, playing.prime = (true, { playing with route := route }) ∧
        route.Reading (stream.drop (popped * playing.route.sourceChannels)) 0 ∧
        route.primed = true ∧ route.phase = 0 ∧ playing.route.SameSettings route := by
  by_cases few : playing.route.consumer.length / playing.route.sourceChannels < startupFrames
  · refine Or.inl ?_
    rw [prime, if_neg (Bool.eq_false_iff.mp unprimed), if_pos few]
  · obtain ⟨two, primes⟩ :=
      prime_of_enough unprimed waiting.length_current waiting.length_next few
    refine Or.inr ⟨_, primes, ⟨?_, ?_, ?_, ?_⟩, rfl, rfl, ⟨rfl, rfl, rfl, rfl, rfl⟩⟩
    · rw [← waiting.consumer_eq]
      exact (Nat.zero_add 2).symm ▸ two
    · rw [← waiting.consumer_eq, frameAt]
      simp
    · rw [← waiting.consumer_eq, frameAt]
      simp
    · rw [← waiting.consumer_eq, ← drop_frame, ← drop_frame]
      simp

/-- A primed route delivers the frame at its position, and goes on. -/
theorem deliver {stream : List ℚ} {position : ℚ} {base : Nat} {playing : PlayingRoute}
    (reading : playing.route.Reading stream base) (primed : playing.route.primed = true)
    (position_eq : position = base + playing.route.phase) (nonneg : 0 ≤ playing.route.phase)
    (lt_one : playing.route.phase < 1) (step_pos : 0 < playing.route.nominalStep) :
    Advanced stream (position + playing.route.nominalStep * (1 +
        correction (playing.route.consumer.length / playing.route.sourceChannels)))
      playing.metrics playing.interpolate.advance ∧
    IsValueAt playing.route.sourceChannels stream position
      playing.interpolate.advance.route.interpolated ∧
    playing.route.SameSettings playing.interpolate.advance.route := by
  have bounds := correction_bounds (playing.route.consumer.length / playing.route.sourceChannels)
  have forward : 0 < playing.route.nominalStep * (1 +
      correction (playing.route.consumer.length / playing.route.sourceChannels)) :=
    mul_pos step_pos (by linarith [bounds.1])
  have reach : playing.interpolate.route.Reading stream base :=
    ⟨reading.present, reading.current_eq, reading.next_eq, reading.consumer_eq⟩
  have phase : playing.interpolate.route.phase = playing.route.phase +
      playing.route.nominalStep * (1 +
        correction (playing.route.consumer.length / playing.route.sourceChannels)) := rfl
  have ahead : position + playing.route.nominalStep * (1 +
      correction (playing.route.consumer.length / playing.route.sourceChannels)) =
        base + playing.interpolate.route.phase := by
    rw [phase, position_eq, add_assoc]
  have ahead_nonneg : 0 ≤ playing.interpolate.route.phase := by
    rw [phase]
    linarith
  -- The loop has a pass for each whole frame of the phase.
  have bound := (floor_toNat_bounds ahead_nonneg).2
  obtain ⟨advanced, kept, settings⟩ := shifts_advanced reach primed ahead ahead_nonneg bound
  refine ⟨advanced, ?_, SameSettings.trans (by exact ⟨rfl, rfl, rfl, rfl, rfl⟩) settings⟩
  change IsValueAt _ _ _ (shifts _ _).route.interpolated
  rw [kept, position_eq]
  change IsValueAt _ _ _ (blend playing.route.current playing.route.next playing.route.phase)
  rw [reading.current_eq, reading.next_eq]
  exact isValueAt_blend reading.present nonneg lt_one

end PlayingRoute

/-! ## Runs -/

/-- An output frame, and the correction that followed it. -/
structure RouterOutput where
  frame : List ℚ
  correction : ℚ
  deriving DecidableEq

/-- The output frames from a priming on, and how many frames were popped before. -/
structure RouterSession where
  start : Nat
  outputs : List RouterOutput
  deriving DecidableEq

/-- A route with the record of a run: the samples that have come to the ring,
the sessions, newest first, and the losses of priming.  No call reads it. -/
structure RouterRun where
  playing : PlayingRoute
  arrived : List ℚ
  sessions : List RouterSession
  losses : Nat

inductive RouteAction where
  /-- The source pushes whole frames. -/
  | arrive (frames : Nat) (sample : Nat → ℚ)
  | prepare

namespace RouterRun

/-- A route that has not primed, on a ring with some content. -/
def start (audio : AudioRoute ℚ) (content : List ℚ) (metrics : RouterMetrics) : RouterRun where
  playing := ⟨{ IncomingRoute.new audio with consumer := content }, metrics⟩
  arrived := content
  sessions := []
  losses := 0

def channels (run : RouterRun) : Nat :=
  run.playing.route.sourceChannels

/-- The number of frames that were popped. -/
def popped (run : RouterRun) : Nat :=
  (run.arrived.length - run.playing.route.consumer.length) / run.channels

/-- The sessions after an output: it belongs to the newest one, unless the call
has primed the route. -/
def record (run : RouterRun) (output : RouterOutput) : List RouterSession :=
  match run.playing.route.primed, run.sessions with
  | true, session :: earlier => { session with outputs := session.outputs ++ [output] } :: earlier
  | _, sessions => { start := run.popped, outputs := [output] } :: sessions

def step (run : RouterRun) : RouteAction → RouterRun
  | .arrive frames sample =>
      let samples := (List.range (frames * run.channels)).map sample
      let route := { run.playing.route with consumer := run.playing.route.consumer ++ samples }
      { run with
        playing := { run.playing with route := route }
        arrived := run.arrived ++ samples }
  | .prepare =>
      match run.playing.prepareOutputFrame with
      | (false, playing) => { run with playing := playing }
      | (true, playing) =>
          let available := run.playing.prime.2.route.consumer.length / run.channels
          { run with
            playing := playing
            sessions := run.record ⟨playing.route.interpolated, PlayingRoute.correction available⟩
            losses := if playing.route.primed then run.losses else run.losses + 1 }

def run (started : RouterRun) (actions : List RouteAction) : RouterRun :=
  actions.foldl step started

end RouterRun

/-- The read position of an output: the corrected steps of the outputs before it. -/
def sessionPosition (nominalStep : ℚ) (outputs : List RouterOutput) (count : Nat) : ℚ :=
  ((outputs.take count).map fun output => nominalStep * (1 + output.correction)).sum

theorem sessionPosition_append (nominalStep : ℚ) {outputs : List RouterOutput} {count : Nat}
    (le : count ≤ outputs.length) (more : List RouterOutput) :
    sessionPosition nominalStep (outputs ++ more) count =
      sessionPosition nominalStep outputs count := by
  rw [sessionPosition, List.take_append_of_le_length le, sessionPosition]

theorem sessionPosition_length_append (nominalStep : ℚ) (outputs : List RouterOutput)
    (output : RouterOutput) :
    sessionPosition nominalStep (outputs ++ [output]) (outputs ++ [output]).length =
      sessionPosition nominalStep outputs outputs.length +
        nominalStep * (1 + output.correction) := by
  simp [sessionPosition]

/-- Every output of the session is the linear interpolation of its source frames
at its read position, and was followed by a correction within the bounds. -/
def RouterSession.Follows (session : RouterSession) (channels : Nat) (nominalStep : ℚ)
    (arrived : List ℚ) : Prop :=
  ∀ count output, session.outputs[count]? = some output →
    IsValueAt channels (arrived.drop (session.start * channels))
      (sessionPosition nominalStep session.outputs count) output.frame ∧
    -(1 / 2000) ≤ output.correction ∧ output.correction ≤ 1 / 1000

theorem RouterSession.Follows.extend {session : RouterSession} {channels : Nat} {nominalStep : ℚ}
    {arrived : List ℚ} (follows : session.Follows channels nominalStep arrived) (more : List ℚ) :
    session.Follows channels nominalStep (arrived ++ more) := by
  intro count output found
  obtain ⟨isValue, bounds⟩ := follows count output found
  refine ⟨isValue.mono ?_, bounds⟩
  rw [List.drop_append]
  exact List.prefix_append _ _

/-- Another output at the position that the session has got to. -/
theorem RouterSession.Follows.append {session : RouterSession} {channels : Nat} {nominalStep : ℚ}
    {arrived : List ℚ} {output : RouterOutput}
    (follows : session.Follows channels nominalStep arrived)
    (isValue : IsValueAt channels (arrived.drop (session.start * channels))
      (sessionPosition nominalStep session.outputs session.outputs.length) output.frame)
    (bounds : -(1 / 2000) ≤ output.correction ∧ output.correction ≤ 1 / 1000) :
    RouterSession.Follows { session with outputs := session.outputs ++ [output] } channels
      nominalStep arrived := by
  intro count found present
  dsimp only at present ⊢
  rcases lt_or_ge count session.outputs.length with old | fresh
  · rw [List.getElem?_append_left old] at present
    rw [sessionPosition_append nominalStep old.le]
    exact follows count found present
  · rw [List.getElem?_append_right fresh] at present
    have last : count = session.outputs.length := by
      have within := (List.getElem?_eq_some_iff.mp present).1
      rw [List.length_singleton] at within
      omega
    subst last
    rw [Nat.sub_self, List.getElem?_cons_zero, Option.some.injEq] at present
    subst present
    rw [sessionPosition_append nominalStep le_rfl]
    exact ⟨isValue, bounds⟩

namespace RouterRun

open IncomingRoute PlayingRoute

/-- Between the calls a route waits for its first frames, or reads the source
frames of its newest session at the position of the next output. -/
inductive Stage (run : RouterRun) : Prop where
  | waiting (unprimed : run.playing.route.primed = false)
      (waiting : run.playing.route.Waiting run.arrived run.popped)
      (losses_eq : run.losses = run.sessions.length) : Stage run
  | reading (session : RouterSession) (earlier : List RouterSession) (base : Nat)
      (sessions_eq : run.sessions = session :: earlier)
      (start_le : session.start * run.channels ≤ run.arrived.length)
      (reading : run.playing.route.Reading (run.arrived.drop (session.start * run.channels)) base)
      (primed : run.playing.route.primed = true)
      (position_eq : sessionPosition run.playing.route.nominalStep session.outputs
        session.outputs.length = base + run.playing.route.phase)
      (nonneg : 0 ≤ run.playing.route.phase) (lt_one : run.playing.route.phase < 1)
      (losses_eq : run.losses = earlier.length) : Stage run

/-- What holds between the calls of every run. -/
structure Sound (channels : Nat) (nominalStep : ℚ) (metrics : RouterMetrics) (run : RouterRun) :
    Prop where
  channels_eq : run.channels = channels
  step_eq : run.playing.route.nominalStep = nominalStep
  stage : run.Stage
  follows : ∀ session ∈ run.sessions, session.Follows channels nominalStep run.arrived
  metrics_eq : run.playing.metrics =
    { metrics with underruns := metrics.underruns + UInt64.ofNat run.losses }

section Steps

variable {channels : Nat} {nominalStep : ℚ} {metrics : RouterMetrics} {run : RouterRun}

theorem popped_eq {count : Nat} (positive : 0 < run.channels)
    (le : count * run.channels ≤ run.arrived.length)
    (consumer_eq : run.playing.route.consumer = run.arrived.drop (count * run.channels)) :
    run.popped = count := by
  rw [popped, consumer_eq, List.length_drop, Nat.sub_sub_self le, Nat.mul_div_cancel _ positive]

/-- A route that lost its priming has popped the frames of its session. -/
theorem waiting_of_lost {session : RouterSession} {count : Nat} (positive : 0 < run.channels)
    (start_le : session.start * run.channels ≤ run.arrived.length)
    (waiting : run.playing.route.Waiting (run.arrived.drop (session.start * run.channels)) count) :
    run.playing.route.Waiting run.arrived run.popped := by
  have le := waiting.popped_le
  have consumer := waiting.consumer_eq
  change count * run.channels ≤ _ at le
  change _ = (run.arrived.drop _).drop (count * run.channels) at consumer
  rw [List.length_drop] at le
  rw [List.drop_drop, ← Nat.add_mul] at consumer
  have total : (session.start + count) * run.channels ≤ run.arrived.length := by
    rw [Nat.add_mul]
    omega
  rw [popped_eq positive total consumer]
  exact ⟨total, consumer, waiting.length_current, waiting.length_next⟩

theorem Sound.arrive (sound : run.Sound channels nominalStep metrics) (positive : 0 < channels)
    (frames : Nat) (sample : Nat → ℚ) :
    (run.step (.arrive frames sample)).Sound channels nominalStep metrics where
  channels_eq := sound.channels_eq
  step_eq := sound.step_eq
  stage := by
    rcases sound.stage with ⟨unprimed, waiting, losses_eq⟩ |
      ⟨session, earlier, base, sessions_eq, start_le, reading, primed, position_eq, nonneg, lt_one,
        losses_eq⟩
    · have total : run.popped * run.channels ≤
          (run.step (.arrive frames sample)).arrived.length := by
        change _ ≤ (run.arrived ++ _).length
        rw [List.length_append]
        exact waiting.popped_le.trans (Nat.le_add_right _ _)
      have consumer : (run.step (.arrive frames sample)).playing.route.consumer =
          (run.step (.arrive frames sample)).arrived.drop (run.popped * run.channels) := by
        change run.playing.route.consumer ++ _ = (run.arrived ++ _).drop _
        have le : run.popped * run.channels ≤ run.arrived.length := waiting.popped_le
        rw [List.drop_append_of_le_length le]
        exact congrArg (· ++ _) waiting.consumer_eq
      refine .waiting unprimed ?_ losses_eq
      rw [popped_eq (sound.channels_eq ▸ positive) total consumer]
      exact ⟨total, consumer, waiting.length_current, waiting.length_next⟩
    · refine .reading session earlier base sessions_eq ?_ ?_ primed position_eq nonneg lt_one
        losses_eq
      · change _ ≤ (run.arrived ++ _).length
        rw [List.length_append]
        exact start_le.trans (Nat.le_add_right _ _)
      · change IncomingRoute.Reading ((run.arrived ++ _).drop (session.start * run.channels)) _ _
        rw [List.drop_append_of_le_length start_le]
        exact reading.extend _
  follows := fun session member => (sound.follows session member).extend _
  metrics_eq := sound.metrics_eq

/-- The state after an output at the position that the newest session has got to. -/
def afterOutput (playing : PlayingRoute) (arrived : List ℚ) (session : RouterSession)
    (earlier : List RouterSession) : RouterRun where
  playing := playing.interpolate.advance
  arrived := arrived
  sessions :=
    { session with
      outputs := session.outputs ++ [⟨playing.interpolate.advance.route.interpolated,
        correction (playing.route.consumer.length / playing.route.sourceChannels)⟩] } :: earlier
  losses :=
    if playing.interpolate.advance.route.primed then earlier.length else earlier.length + 1

theorem sound_afterOutput {playing : PlayingRoute} {arrived : List ℚ} {session : RouterSession}
    {earlier : List RouterSession} {base : Nat}
    (channels_eq : playing.route.sourceChannels = channels)
    (step_eq : playing.route.nominalStep = nominalStep)
    (start_le : session.start * channels ≤ arrived.length)
    (reading : playing.route.Reading (arrived.drop (session.start * channels)) base)
    (primed : playing.route.primed = true)
    (position_eq : sessionPosition nominalStep session.outputs session.outputs.length =
      base + playing.route.phase)
    (nonneg : 0 ≤ playing.route.phase) (lt_one : playing.route.phase < 1)
    (follows : ∀ other ∈ session :: earlier, other.Follows channels nominalStep arrived)
    (metrics_eq : playing.metrics =
      { metrics with underruns := metrics.underruns + UInt64.ofNat earlier.length })
    (positive : 0 < channels) (step_pos : 0 < nominalStep) :
    (afterOutput playing arrived session earlier).Sound channels nominalStep metrics := by
  subst channels_eq step_eq
  obtain ⟨advanced, isValue, settings⟩ :=
    deliver reading primed position_eq nonneg lt_one step_pos
  have sameChannels := settings.sourceChannels_eq
  have sameStep := settings.nominalStep_eq
  refine ⟨sameChannels, sameStep, ?_, ?_, ?_⟩
  · rcases advanced with
      ⟨later, readingLater, primedLater, positionLater, nonnegLater, ltLater, -⟩ |
      ⟨count, waiting, unprimed, -⟩
    · refine .reading _ earlier later rfl ?_ ?_ primedLater ?_ nonnegLater ltLater
        (if_pos primedLater)
      · change _ * playing.interpolate.advance.route.sourceChannels ≤ _
        rw [sameChannels]
        exact start_le
      · change IncomingRoute.Reading (List.drop
          (_ * playing.interpolate.advance.route.sourceChannels) _) _ _
        rw [sameChannels]
        exact readingLater
      · change sessionPosition playing.interpolate.advance.route.nominalStep _ _ = _
        rw [sameStep]
        exact (sessionPosition_length_append _ _ _).trans positionLater
    · -- The session is over: the next frame of the ring is for another one.
      refine .waiting unprimed ?_ (if_neg (Bool.eq_false_iff.mp unprimed))
      have left : (afterOutput playing arrived session earlier).channels =
          playing.route.sourceChannels := sameChannels
      refine @waiting_of_lost _ session _ (by rw [left]; exact positive)
        (by rw [left]; exact start_le) (by rw [left]; exact waiting)
  · intro other member
    rcases List.mem_cons.mp member with rfl | old
    · exact (follows session List.mem_cons_self).append isValue (correction_bounds _)
    · exact follows other (List.mem_cons_of_mem _ old)
  · rcases advanced with ⟨_, _, primedLater, _, _, _, same⟩ | ⟨_, _, unprimed, same⟩
    · change playing.interpolate.advance.metrics = { metrics with underruns := _ }
      rw [same, metrics_eq, afterOutput, if_pos primedLater]
    · change playing.interpolate.advance.metrics = { metrics with underruns := _ }
      rw [same, metrics_eq, afterOutput, if_neg (Bool.eq_false_iff.mp unprimed)]
      simp [UInt64.add_assoc]

theorem Sound.prepare (sound : run.Sound channels nominalStep metrics) (positive : 0 < channels)
    (step_pos : 0 < nominalStep) : (run.step .prepare).Sound channels nominalStep metrics := by
  have channels_eq : run.playing.route.sourceChannels = channels := sound.channels_eq
  rcases sound.stage with ⟨unprimed, waiting, losses_eq⟩ |
    ⟨session, earlier, base, sessions_eq, start_le, reading, primed, position_eq, nonneg, lt_one,
      losses_eq⟩
  · rcases prime_cases waiting unprimed with
      still | ⟨route, primes, reading, primed, zero, settings⟩
    · have same : run.step .prepare = run := by
        rw [step, prepareOutputFrame, still]
      rw [same]
      exact sound
    · have result : run.step .prepare =
          afterOutput { run.playing with route := route } run.arrived
            { start := run.popped, outputs := [] } run.sessions := by
        rw [step, prepareOutputFrame, primes]
        simp only [record, unprimed, afterOutput, losses_eq, settings.sourceChannels_eq]
        rfl
      rw [result]
      have popped_le := waiting.popped_le
      rw [channels_eq] at popped_le reading
      refine sound_afterOutput (settings.sourceChannels_eq.trans channels_eq)
        (settings.nominalStep_eq.trans sound.step_eq) popped_le reading primed ?_ zero.ge ?_ ?_
        (losses_eq ▸ sound.metrics_eq) positive step_pos
      · simp [sessionPosition, zero]
      · rw [zero]
        exact one_pos
      · intro other member
        rcases List.mem_cons.mp member with rfl | old
        · intro count output found
          cases found
        · exact sound.follows other old
  · have result : run.step .prepare = afterOutput run.playing run.arrived session earlier := by
      have primes : run.playing.prime = (true, run.playing) := if_pos primed
      rw [step, prepareOutputFrame, primes]
      simp only [record, primed, sessions_eq, afterOutput, losses_eq]
      rfl
    rw [result]
    have sameChannels : run.channels = channels := sound.channels_eq
    rw [sameChannels] at start_le reading
    rw [sound.step_eq] at position_eq
    exact sound_afterOutput channels_eq sound.step_eq start_le reading primed position_eq nonneg
      lt_one (sessions_eq ▸ sound.follows) (losses_eq ▸ sound.metrics_eq) positive step_pos

end Steps

theorem Sound.run {channels : Nat} {nominalStep : ℚ} {metrics : RouterMetrics}
    {started : RouterRun} (sound : started.Sound channels nominalStep metrics)
    (positive : 0 < channels) (step_pos : 0 < nominalStep) (actions : List RouteAction) :
    (started.run actions).Sound channels nominalStep metrics := by
  induction actions generalizing started with
  | nil => exact sound
  | cons action actions ih =>
      apply ih
      cases action with
      | arrive frames sample => exact sound.arrive positive frames sample
      | prepare => exact sound.prepare positive step_pos

theorem sound_start {audio : AudioRoute ℚ} (content : List ℚ) (metrics : RouterMetrics) :
    (start audio content metrics).Sound audio.sourceChannels.toNat
      (audio.sourceSampleRate.toNat / audio.sinkSampleRate.toNat) metrics where
  channels_eq := rfl
  step_eq := rfl
  stage := by
    have none : (start audio content metrics).popped = 0 := by
      simp [popped, start]
    refine .waiting rfl ?_ rfl
    rw [none]
    exact ⟨by simp, by simp [start], List.length_replicate, List.length_replicate⟩
  follows := nofun
  metrics_eq := by
    simp [start]

/-- What the invariant says about the ring and the newest session. -/
theorem Sound.popped_spec {channels : Nat} {nominalStep : ℚ} {metrics : RouterMetrics}
    {run : RouterRun} (sound : run.Sound channels nominalStep metrics) (positive : 0 < channels) :
    run.playing.route.consumer = run.arrived.drop (run.popped * channels) ∧
    run.sessions.length = run.losses + run.playing.route.primed.toNat ∧
    (run.playing.route.primed = true →
      0 ≤ run.playing.route.phase ∧ run.playing.route.phase < 1 ∧
      ∃ session earlier base, run.sessions = session :: earlier ∧
        run.popped = session.start + (base + 2) ∧
        sessionPosition nominalStep session.outputs session.outputs.length =
          base + run.playing.route.phase) := by
  have sameChannels : run.channels = channels := sound.channels_eq
  rcases sound.stage with ⟨unprimed, waiting, losses_eq⟩ |
    ⟨session, earlier, base, sessions_eq, start_le, reading, primed, position_eq, nonneg, lt_one,
      losses_eq⟩
  · refine ⟨?_, ?_, fun primed => absurd primed (Bool.eq_false_iff.mp unprimed)⟩
    · rw [← sameChannels]
      exact waiting.consumer_eq
    · rw [unprimed, losses_eq]
      rfl
  · have consumer : run.playing.route.consumer =
        run.arrived.drop ((session.start + (base + 2)) * run.channels) := by
      rw [Nat.add_mul, ← List.drop_drop]
      exact reading.consumer_eq
    have present : (base + 2) * run.channels ≤
        (run.arrived.drop (session.start * run.channels)).length :=
      reading.present
    rw [List.length_drop] at present
    have popped : run.popped = session.start + (base + 2) := by
      refine popped_eq (sameChannels ▸ positive) ?_ consumer
      rw [Nat.add_mul]
      omega
    refine ⟨?_, ?_, fun _ => ⟨nonneg, lt_one, session, earlier, base, sessions_eq, popped, ?_⟩⟩
    · rw [popped, ← sameChannels]
      exact consumer
    · rw [sessions_eq, primed, losses_eq]
      rfl
    · rw [← sound.step_eq]
      exact position_eq

/-- A call returns a frame if the route is primed or can prime, and does
nothing else. -/
theorem Sound.prepares {channels : Nat} {nominalStep : ℚ} {metrics : RouterMetrics}
    {run : RouterRun} (sound : run.Sound channels nominalStep metrics) :
    (run.playing.prepareOutputFrame.1 = true ↔ run.playing.route.primed = true ∨
      IncomingRoute.startupFrames ≤ run.playing.route.consumer.length / channels) ∧
    (run.playing.prepareOutputFrame.1 = false →
      run.playing.prepareOutputFrame.2 = run.playing) := by
  have sameChannels : run.playing.route.sourceChannels = channels := sound.channels_eq
  rw [← sameChannels]
  rcases sound.stage with ⟨unprimed, waiting, -⟩ | ⟨_, _, _, _, _, _, primed, _, _, _, _⟩
  · by_cases few :
        run.playing.route.consumer.length / run.playing.route.sourceChannels < startupFrames
    · have still : run.playing.prime = (false, run.playing) := by
        rw [prime, if_neg (Bool.eq_false_iff.mp unprimed), if_pos few]
      rw [prepareOutputFrame, still]
      refine ⟨iff_of_false Bool.false_ne_true ?_, fun _ => rfl⟩
      rintro (primed | enough)
      · exact Bool.eq_false_iff.mp unprimed primed
      · exact absurd few (not_lt.mpr enough)
    · obtain ⟨-, primes⟩ := prime_of_enough unprimed waiting.length_current waiting.length_next few
      rw [prepareOutputFrame, primes]
      exact ⟨iff_of_true rfl (Or.inr (not_lt.mp few)), nofun⟩
  · have primes : run.playing.prime = (true, run.playing) := if_pos primed
    rw [prepareOutputFrame, primes]
    exact ⟨iff_of_true rfl (Or.inl primed), nofun⟩

end RouterRun

/-- Whatever the ring has and whatever comes to it, a route pops the frames in
their order, every session interpolates its own frames at its read position,
and every session that is over has counted one underrun.  A route begins a
session as soon as its ring has the frames for it, and a primed one returns a
frame at every call. -/
theorem incoming_route_resamples (audio : AudioRoute ℚ) (content : List ℚ)
    (metrics : RouterMetrics) (actions : List RouteAction)
    (positive : 1 ≤ audio.sourceChannels.toNat)
    (sourceRate : audio.sourceSampleRate.toNat ∈ Set.Icc 8000 768000)
    (sinkRate : audio.sinkSampleRate.toNat ∈ Set.Icc 8000 768000) :
    let run := (RouterRun.start audio content metrics).run actions
    let channels := audio.sourceChannels.toNat
    let nominalStep : ℚ := audio.sourceSampleRate.toNat / audio.sinkSampleRate.toNat
    run.playing.route.consumer = run.arrived.drop (run.popped * channels) ∧
    (run.playing.route.primed = true →
      0 ≤ run.playing.route.phase ∧ run.playing.route.phase < 1 ∧
      ∃ session earlier base, run.sessions = session :: earlier ∧
        run.popped = session.start + (base + 2) ∧
        sessionPosition nominalStep session.outputs session.outputs.length =
          base + run.playing.route.phase) ∧
    (∀ session ∈ run.sessions, session.Follows channels nominalStep run.arrived) ∧
    run.sessions.length = run.losses + run.playing.route.primed.toNat ∧
    run.playing.metrics =
      { metrics with underruns := metrics.underruns + UInt64.ofNat run.losses } ∧
    (run.playing.prepareOutputFrame.1 = true ↔ run.playing.route.primed = true ∨
      IncomingRoute.startupFrames ≤ run.playing.route.consumer.length / channels) ∧
    (run.playing.prepareOutputFrame.1 = false →
      run.playing.prepareOutputFrame.2 = run.playing) := by
  have source : (0 : ℚ) < audio.sourceSampleRate.toNat := by
    exact_mod_cast (show 0 < 8000 by norm_num).trans_le sourceRate.1
  have sink : (0 : ℚ) < audio.sinkSampleRate.toNat := by
    exact_mod_cast (show 0 < 8000 by norm_num).trans_le sinkRate.1
  have sound := (RouterRun.sound_start content metrics).run positive (div_pos source sink) actions
  obtain ⟨consumer, ended, newest⟩ := sound.popped_spec positive
  exact ⟨consumer, newest, sound.follows, ended, sound.metrics_eq, sound.prepares⟩

/-- Mono to mono, from the lowest rate to the highest one. -/
def slowestRoute : AudioRoute ℚ where
  sourceDeviceId := 1
  sinkDeviceId := 2
  sourceChannels := 1
  sinkChannels := 1
  sourceSampleRate := 8000
  sinkSampleRate := 768000
  matrix := [1]
  gain := 1

theorem incoming_route_resamples_slowest :
    let run := (RouterRun.start slowestRoute [] ⟨0, 0, 0⟩).run
      [.prepare, .arrive 514 (fun index => index), .prepare, .prepare]
    (run.sessions.map fun session => session.outputs.length) = [2] ∧
      ∀ session ∈ run.sessions, session.Follows 1 (8000 / 768000) run.arrived :=
  ⟨by decide +kernel, (incoming_route_resamples slowestRoute [] ⟨0, 0, 0⟩
    [.prepare, .arrive 514 (fun index => index), .prepare, .prepare] (by decide) (by decide)
    (by decide)).2.2.1⟩

end VCable
