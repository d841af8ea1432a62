import VCable.RouterSessions

/-!
# Preparing output frames

What `prepare_output_frame` does to a route as the router makes it, whatever is
in its ring.  The settings and the lengths of the frames stay, and no sample
comes to the ring.
-/

namespace VCable

namespace IncomingRoute

/-- What `AudioRouter::start` makes sure of for a route that it accepts. -/
structure WellFormed (route : IncomingRoute ℚ) : Prop where
  sourceChannels_pos : 0 < route.sourceChannels
  sinkChannels_pos : 0 < route.sinkChannels
  sourceChannels_small : route.sourceChannels < 2 ^ 32
  sinkChannels_small : route.sinkChannels < 2 ^ 32
  nominalStep_pos : 0 < route.nominalStep
  length_matrix : route.matrix.length = route.sinkChannels * route.sourceChannels
  length_current : route.current.length = route.sourceChannels
  length_next : route.next.length = route.sourceChannels

/-- The checks of `validate_routes` are enough. -/
theorem wellFormed_new {route : AudioRoute ℚ} (sourceChannels : route.sourceChannels ≠ 0)
    (sinkChannels : route.sinkChannels ≠ 0) (sourceRate : route.sourceSampleRate ≠ 0)
    (sinkRate : route.sinkSampleRate ≠ 0)
    (length : route.matrix.length = route.sourceChannels.toNat * route.sinkChannels.toNat) :
    (new route).WellFormed := by
  have positive : ∀ {value : UInt32}, value ≠ 0 → 0 < value.toNat := fun {value} nonzero =>
    Nat.pos_of_ne_zero fun zero => nonzero (UInt32.toNat_inj.mp zero)
  exact
    { sourceChannels_pos := positive sourceChannels
      sinkChannels_pos := positive sinkChannels
      sourceChannels_small := route.sourceChannels.toNat_lt
      sinkChannels_small := route.sinkChannels.toNat_lt
      nominalStep_pos := div_pos (Nat.cast_pos.mpr (positive sourceRate))
        (Nat.cast_pos.mpr (positive sinkRate))
      length_matrix := length.trans (Nat.mul_comm _ _)
      length_current := List.length_replicate
      length_next := List.length_replicate }

/-- A route later on, with nothing in between but its own calls. -/
structure Progress (route later : IncomingRoute ℚ) : Prop where
  wellFormed : later.WellFormed
  settings : route.SameSettings later
  consumer_le : later.consumer.length ≤ route.consumer.length

theorem WellFormed.progress_self {route : IncomingRoute ℚ} (wellFormed : route.WellFormed) :
    route.Progress route :=
  ⟨wellFormed, .refl route, le_rfl⟩

theorem Progress.trans {first second third : IncomingRoute ℚ} (one : first.Progress second)
    (other : second.Progress third) : first.Progress third :=
  ⟨other.wellFormed, one.settings.trans other.settings, other.consumer_le.trans one.consumer_le⟩

theorem WellFormed.progress {route later : IncomingRoute ℚ} (wellFormed : route.WellFormed)
    (settings : route.SameSettings later) (current : later.current.length = route.sourceChannels)
    (next : later.next.length = route.sourceChannels)
    (consumer : later.consumer.length ≤ route.consumer.length) : route.Progress later where
  wellFormed :=
    { sourceChannels_pos := settings.sourceChannels_eq ▸ wellFormed.sourceChannels_pos
      sinkChannels_pos := settings.sinkChannels_eq ▸ wellFormed.sinkChannels_pos
      sourceChannels_small := settings.sourceChannels_eq ▸ wellFormed.sourceChannels_small
      sinkChannels_small := settings.sinkChannels_eq ▸ wellFormed.sinkChannels_small
      nominalStep_pos := settings.nominalStep_eq ▸ wellFormed.nominalStep_pos
      length_matrix := by
        rw [settings.matrix_eq, settings.sinkChannels_eq, settings.sourceChannels_eq]
        exact wellFormed.length_matrix
      length_current := current.trans settings.sourceChannels_eq.symm
      length_next := next.trans settings.sourceChannels_eq.symm }
  settings := settings
  consumer_le := consumer

/-- Not primed, and without the frames to start with. -/
def Waits (route : IncomingRoute ℚ) : Prop :=
  route.primed = false ∧ route.consumer.length / route.sourceChannels < startupFrames

instance (route : IncomingRoute ℚ) : Decidable route.Waits :=
  inferInstanceAs (Decidable (_ ∧ _))

/-- The route after a pass of the loop that takes a frame from the ring. -/
def shift (route : IncomingRoute ℚ) : IncomingRoute ℚ :=
  { route with
    current := route.next
    next := route.consumer.take route.sourceChannels
    consumer := route.consumer.drop route.sourceChannels
    phase := route.phase - 1 }

theorem WellFormed.shift {route : IncomingRoute ℚ} (wellFormed : route.WellFormed)
    (enough : route.sourceChannels ≤ route.consumer.length) : route.Progress route.shift :=
  wellFormed.progress ⟨rfl, rfl, rfl, rfl, rfl⟩ wellFormed.length_next
    (List.length_take_of_le enough) ((List.length_drop ..).trans_le (Nat.sub_le _ _))

end IncomingRoute

namespace PlayingRoute

open IncomingRoute

variable {playing : PlayingRoute}

/-! ## Priming -/

/-- What is left of a route that does not wait, after the first part. -/
structure Primed (playing started : PlayingRoute) : Prop where
  progress : playing.route.Progress started.route
  primed : started.route.primed = true
  metrics_eq : started.metrics = playing.metrics
  begun : playing.route.primed = false → started.route.phase = 0 ∧
    started.route.consumer.length + 2 * playing.route.sourceChannels =
      playing.route.consumer.length
  kept : playing.route.primed = true → started = playing

theorem prime_of_waits (waits : playing.route.Waits) : playing.prime = (false, playing) := by
  rw [prime, if_neg (Bool.eq_false_iff.mp waits.1), if_pos waits.2]

theorem prime_of_not_waits (wellFormed : playing.route.WellFormed)
    (ready : ¬ playing.route.Waits) :
    ∃ started, playing.prime = (true, started) ∧ Primed playing started := by
  by_cases primed : playing.route.primed = true
  · exact ⟨playing, if_pos primed, wellFormed.progress_self, primed, rfl,
      fun unprimed => absurd primed (Bool.eq_false_iff.mp unprimed), fun _ => rfl⟩
  have unprimed : playing.route.primed = false := Bool.eq_false_iff.mpr primed
  have many : ¬ playing.route.consumer.length / playing.route.sourceChannels < startupFrames :=
    fun few => ready ⟨unprimed, few⟩
  obtain ⟨two, primes⟩ :=
    prime_of_enough unprimed wellFormed.length_current wellFormed.length_next many
  have taken : ((playing.route.consumer.drop playing.route.sourceChannels).drop
      playing.route.sourceChannels).length + 2 * playing.route.sourceChannels =
        playing.route.consumer.length := by
    rw [List.length_drop, List.length_drop]
    omega
  refine ⟨_, primes, wellFormed.progress ⟨rfl, rfl, rfl, rfl, rfl⟩ ?_ ?_
    (Nat.le_of_add_right_le taken.le), rfl, rfl, fun _ => ⟨rfl, taken⟩,
    fun other => absurd other primed⟩
  · exact List.length_take_of_le (by omega)
  · refine List.length_take_of_le ?_
    rw [List.length_drop]
    omega

/-! ## The loop -/

theorem shifts_of_lt {passes : Nat} (stops : playing.route.phase < 1) :
    playing.shifts passes = playing := by
  cases passes with
  | zero => rfl
  | succ passes => rw [shifts, if_neg (not_le.mpr stops)]

theorem shifts_of_enough {passes : Nat} (wellFormed : playing.route.WellFormed)
    (goes : 1 ≤ playing.route.phase)
    (enough : playing.route.sourceChannels ≤ playing.route.consumer.length) :
    playing.shifts (passes + 1) = shifts passes ⟨playing.route.shift, playing.metrics⟩ := by
  have length : { playing.route with current := playing.route.next }.next.length =
      playing.route.sourceChannels := wellFormed.length_next
  rw [shifts, if_pos goes]
  rcases readSourceFrame_next length with ⟨short, _⟩ | ⟨_, result⟩
  · exact absurd enough (not_le.mpr short)
  · rw [result]
    rfl

theorem shifts_of_short {passes : Nat} (wellFormed : playing.route.WellFormed)
    (goes : 1 ≤ playing.route.phase)
    (short : playing.route.consumer.length < playing.route.sourceChannels) :
    (playing.shifts (passes + 1)).route =
      { playing.route with current := playing.route.next, primed := false } := by
  have length : { playing.route with current := playing.route.next }.next.length =
      playing.route.sourceChannels := wellFormed.length_next
  rw [shifts, if_pos goes]
  rcases readSourceFrame_next length with ⟨_, result⟩ | ⟨enough, _⟩
  · rw [result]
    rfl
  · exact absurd enough (not_le.mpr short)

/-- The loop stops where it is, takes a frame, or finds the ring dry. -/
theorem shifts_cases {passes : Nat} (wellFormed : playing.route.WellFormed) :
    playing.route.Progress (playing.shifts passes).route ∧
      (playing.shifts passes).route.interpolated = playing.route.interpolated ∧
      (playing.shifts passes = playing ∨
        (playing.shifts passes).route.consumer.length < playing.route.consumer.length ∨
        (playing.shifts passes).route.primed = false ∧
          (playing.shifts passes).route.consumer.length < playing.route.sourceChannels) := by
  induction passes generalizing playing with
  | zero => exact ⟨wellFormed.progress_self, rfl, Or.inl rfl⟩
  | succ passes ih =>
      rcases lt_or_ge playing.route.phase 1 with stops | goes
      · rw [shifts_of_lt stops]
        exact ⟨wellFormed.progress_self, rfl, Or.inl rfl⟩
      rcases Nat.lt_or_ge playing.route.consumer.length playing.route.sourceChannels with
        short | enough
      · rw [shifts_of_short wellFormed goes short]
        exact ⟨wellFormed.progress ⟨rfl, rfl, rfl, rfl, rfl⟩ wellFormed.length_next
          wellFormed.length_next le_rfl, rfl, Or.inr (Or.inr ⟨rfl, short⟩)⟩
      · have shifted := wellFormed.shift enough
        have positive := wellFormed.sourceChannels_pos
        have shorter : playing.route.shift.consumer.length < playing.route.consumer.length := by
          change (playing.route.consumer.drop _).length < _
          rw [List.length_drop]
          omega
        obtain ⟨progress, kept, -⟩ := @ih ⟨playing.route.shift, playing.metrics⟩ shifted.wellFormed
        rw [shifts_of_enough wellFormed goes enough]
        exact ⟨shifted.trans progress, kept,
          Or.inr (Or.inl (progress.consumer_le.trans_lt shorter))⟩

/-! ## One call -/

theorem prepareOutputFrame_of_waits (waits : playing.route.Waits) :
    playing.prepareOutputFrame = (false, playing) := by
  rw [prepareOutputFrame, prime_of_waits waits]

theorem prepareOutputFrame_of_not_waits (wellFormed : playing.route.WellFormed)
    (ready : ¬ playing.route.Waits) :
    ∃ started, Primed playing started ∧
      playing.prepareOutputFrame = (true, started.interpolate.advance) := by
  obtain ⟨started, primes, primed⟩ := prime_of_not_waits wellFormed ready
  exact ⟨started, primed, by rw [prepareOutputFrame, primes]⟩

theorem interpolate_progress (wellFormed : playing.route.WellFormed) :
    playing.route.Progress playing.interpolate.route ∧
      playing.interpolate.route.interpolated.length = playing.route.sourceChannels := by
  refine ⟨wellFormed.progress ⟨rfl, rfl, rfl, rfl, rfl⟩ wellFormed.length_current
    wellFormed.length_next le_rfl, ?_⟩
  change (FrameStreams.blend _ _ _).length = _
  rw [FrameStreams.blend, List.length_zipWith, wellFormed.length_current, wellFormed.length_next,
    Nat.min_self]

/-- A call keeps the settings, and a frame that it delivers has all channels. -/
theorem prepareOutputFrame_progress (wellFormed : playing.route.WellFormed) :
    playing.route.Progress playing.prepareOutputFrame.2.route ∧
      (playing.prepareOutputFrame.1 = true →
        playing.prepareOutputFrame.2.route.interpolated.length = playing.route.sourceChannels) := by
  by_cases waits : playing.route.Waits
  · rw [prepareOutputFrame_of_waits waits]
    exact ⟨wellFormed.progress_self, nofun⟩
  · obtain ⟨started, primed, prepared⟩ := prepareOutputFrame_of_not_waits wellFormed waits
    rw [prepared]
    obtain ⟨interpolates, length⟩ := interpolate_progress primed.progress.wellFormed
    obtain ⟨progress, kept, -⟩ := @shifts_cases started.interpolate
      started.interpolate.route.phase.floor.toNat interpolates.wellFormed
    refine ⟨primed.progress.trans (interpolates.trans progress), fun _ => ?_⟩
    change (shifts _ _).route.interpolated.length = _
    rw [kept, length, primed.progress.settings.sourceChannels_eq]

/-! ## Metrics -/

theorem shifts_metrics (route : IncomingRoute ℚ) (metrics other : RouterMetrics) (passes : Nat) :
    (shifts passes ⟨route, metrics⟩).route = (shifts passes ⟨route, other⟩).route := by
  induction passes generalizing route with
  | zero => rfl
  | succ passes ih =>
      rw [shifts, shifts]
      dsimp only
      by_cases goes : 1 ≤ route.phase
      · rw [if_pos goes, if_pos goes]
        rcases ({ route with current := route.next } : IncomingRoute ℚ).readSourceFrame true with
          ⟨_ | _, shifted⟩
        · rfl
        · exact ih { shifted with phase := shifted.phase - 1 }
      · rw [if_neg goes, if_neg goes]

theorem prime_metrics (route : IncomingRoute ℚ) (metrics other : RouterMetrics) :
    (prime ⟨route, metrics⟩).1 = (prime ⟨route, other⟩).1 ∧
      (prime ⟨route, metrics⟩).2.route = (prime ⟨route, other⟩).2.route := by
  unfold prime
  dsimp only
  split_ifs
  · exact ⟨rfl, rfl⟩
  · exact ⟨rfl, rfl⟩
  · rcases route.readSourceFrame false with ⟨_ | _, first⟩
    · exact ⟨rfl, rfl⟩
    · dsimp only
      rcases first.readSourceFrame true with ⟨_ | _, second⟩ <;> exact ⟨rfl, rfl⟩

/-- What a call does to a route does not depend on the metrics. -/
theorem prepareOutputFrame_metrics (route : IncomingRoute ℚ) (metrics other : RouterMetrics) :
    (prepareOutputFrame ⟨route, metrics⟩).1 = (prepareOutputFrame ⟨route, other⟩).1 ∧
      (prepareOutputFrame ⟨route, metrics⟩).2.route =
        (prepareOutputFrame ⟨route, other⟩).2.route := by
  obtain ⟨same, routes⟩ := prime_metrics route metrics other
  unfold prepareOutputFrame
  cases one : prime ⟨route, metrics⟩ with
  | mk returned started =>
      cases two : prime ⟨route, other⟩ with
      | mk otherReturned otherStarted =>
          rw [one, two] at same routes
          obtain ⟨startedRoute, startedMetrics⟩ := started
          obtain ⟨otherRoute, otherMetrics⟩ := otherStarted
          obtain rfl : returned = otherReturned := same
          obtain rfl : startedRoute = otherRoute := routes
          cases returned
          · exact ⟨rfl, rfl⟩
          · exact ⟨rfl, shifts_metrics _ _ _ _⟩

end PlayingRoute

end VCable
