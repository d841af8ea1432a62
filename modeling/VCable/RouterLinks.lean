import VCable.BoundedQueues
import VCable.IndependentParts
import VCable.RouterMixing
import VCable.RouterWiring

/-!
# The links of the router

A route by itself.  Its ring is a queue of whole frames, which refuses the frames
that it has no place for, and its sink takes frames from the front to prepare
output frames.
-/

namespace VCable

open FrameStreams IncomingRoute

/-- A route with the record of a run, and the queue of its frames. -/
structure RouterLink where
  run : RouterRun
  places : Nat
  queue : BoundedQueue (List ℚ)

inductive LinkAction where
  /-- The source records a frame. -/
  | record (frame : List ℚ)
  /-- The sink prepares an output frame. -/
  | prepare

namespace RouterLink

def start (route : AudioRoute ℚ) : RouterLink where
  run := .start route [] ⟨0, 0, 0⟩
  places := ringCapacity route.sourceChannels.toNat / route.sourceChannels.toNat
  queue := .empty

def step (link : RouterLink) : LinkAction → RouterLink
  | .record frame =>
      { link with
        run :=
          if link.queue.waiting.length < link.places then
            link.run.step (.arrive 1 fun index => frame.getD index 0)
          else link.run
        queue := link.queue.offer link.places frame }
  | .prepare =>
      let prepared := link.run.step .prepare
      { link with
        run := prepared
        queue := link.queue.take (prepared.popped - link.run.popped) }

/-- The link after some steps. -/
def after (link : RouterLink) (actions : List LinkAction) : RouterLink :=
  actions.foldl step link

/-- The output frames of all sessions, in their order. -/
def delivered (link : RouterLink) : List (List ℚ) :=
  (link.run.sessions.reverse.flatMap RouterSession.outputs).map RouterOutput.frame

/-- The frames that the source records in some steps. -/
def recorded (actions : List LinkAction) : List (List ℚ) :=
  actions.filterMap fun action =>
    match action with
    | .record frame => some frame
    | .prepare => none

end RouterLink

/-- The step of a route's source positions, as `AudioRouter::start` computes it. -/
def AudioRoute.nominalStep (route : AudioRoute ℚ) : ℚ :=
  route.sourceSampleRate.toNat / route.sinkSampleRate.toNat

/-! ## Steps of a run -/

namespace RouterRun

variable {run : RouterRun}

theorem prepare_playing (run : RouterRun) :
    (run.step .prepare).playing = run.playing.prepareOutputFrame.2 := by
  rw [step]
  rcases run.playing.prepareOutputFrame with ⟨_ | _, playing⟩ <;> rfl

theorem prepare_arrived (run : RouterRun) : (run.step .prepare).arrived = run.arrived := by
  rw [step]
  rcases run.playing.prepareOutputFrame with ⟨_ | _, playing⟩ <;> rfl

theorem losses_le_prepare (run : RouterRun) : run.losses ≤ (run.step .prepare).losses := by
  rw [step]
  rcases run.playing.prepareOutputFrame with ⟨_ | _, playing⟩
  · exact le_rfl
  · change run.losses ≤ if playing.route.primed then run.losses else run.losses + 1
    split_ifs
    · exact le_rfl
    · exact Nat.le_succ _

/-- A frame comes to the ring. -/
theorem arrive_frame {frame : List ℚ} (size : frame.length = run.channels) :
    run.step (.arrive 1 fun index => frame.getD index 0) =
      { run with
        playing :=
          { run.playing with
            route :=
              { run.playing.route with consumer := run.playing.route.consumer ++ frame } }
        arrived := run.arrived ++ frame } := by
  have samples : (List.range (1 * run.channels)).map (fun index => frame.getD index 0) = frame := by
    rw [Nat.one_mul, ← size]
    refine List.ext_getElem (by simp) fun index _ within => ?_
    rw [List.getElem_map, List.getElem_range, List.getD_eq_getElem _ _ within]
  rw [step, samples]

/-- The outputs of all sessions after an output. -/
theorem outputs_record (run : RouterRun) (output : RouterOutput) :
    (run.record output).reverse.flatMap RouterSession.outputs =
      run.sessions.reverse.flatMap RouterSession.outputs ++ [output] := by
  rw [record]
  split
  · rename_i session earlier _ sessions
    rw [sessions, List.reverse_cons, List.reverse_cons, List.flatMap_append, List.flatMap_append,
      List.append_assoc]
    simp
  · rw [List.reverse_cons, List.flatMap_append]
    simp

end RouterRun

namespace PlayingRoute

/-! ## Underruns -/

theorem shifts_underruns (route : IncomingRoute ℚ) (passes : Nat) :
    ∃ added, ∀ metrics : RouterMetrics, (shifts passes ⟨route, metrics⟩).metrics =
      { metrics with underruns := metrics.underruns + added } := by
  induction passes generalizing route with
  | zero => exact ⟨0, fun metrics => by rw [UInt64.add_zero, shifts]⟩
  | succ passes ih =>
      by_cases goes : 1 ≤ route.phase
      · cases read :
            ({ route with current := route.next } : IncomingRoute ℚ).readSourceFrame true with
        | mk complete shifted =>
            cases complete
            · refine ⟨1, fun metrics => ?_⟩
              rw [shifts, if_pos goes]
              dsimp only
              rw [read]
              rfl
            · obtain ⟨added, counts⟩ := ih { shifted with phase := shifted.phase - 1 }
              refine ⟨added, fun metrics => ?_⟩
              rw [shifts, if_pos goes]
              dsimp only
              rw [read]
              exact counts metrics
      · refine ⟨0, fun metrics => ?_⟩
        rw [shifts, if_neg goes, UInt64.add_zero]

theorem prime_underruns (route : IncomingRoute ℚ) :
    ∃ added, ∀ metrics : RouterMetrics, (prime ⟨route, metrics⟩).2.metrics =
      { metrics with underruns := metrics.underruns + added } := by
  have nothing : ∀ metrics : RouterMetrics, metrics =
      { metrics with underruns := metrics.underruns + 0 } := fun metrics => by rw [UInt64.add_zero]
  unfold prime
  dsimp only
  split_ifs
  · exact ⟨0, nothing⟩
  · exact ⟨0, nothing⟩
  · rcases route.readSourceFrame false with ⟨_ | _, first⟩
    · exact ⟨1, fun _ => rfl⟩
    · dsimp only
      rcases first.readSourceFrame true with ⟨_ | _, second⟩
      · exact ⟨1, fun _ => rfl⟩
      · exact ⟨0, nothing⟩

/-- A call counts its underruns on top of whatever was counted before. -/
theorem prepareOutputFrame_underruns (route : IncomingRoute ℚ) :
    ∃ added, ∀ metrics : RouterMetrics, (prepareOutputFrame ⟨route, metrics⟩).2.metrics =
      { metrics with underruns := metrics.underruns + added } := by
  obtain ⟨first, primes⟩ := prime_underruns route
  cases primed : prime ⟨route, ⟨0, 0, 0⟩⟩ with
  | mk returned started =>
      have each : ∀ metrics : RouterMetrics, prime ⟨route, metrics⟩ =
          (returned, ⟨started.route, { metrics with underruns := metrics.underruns + first }⟩) := by
        intro metrics
        obtain ⟨same, routes⟩ := prime_metrics route metrics ⟨0, 0, 0⟩
        rw [primed] at same routes
        exact Prod.ext same (by
          rw [← primes metrics, ← routes])
      cases returned with
      | false => exact ⟨first, fun metrics => by rw [prepareOutputFrame, each metrics]⟩
      | true =>
          let ahead := (interpolate ⟨started.route, ⟨0, 0, 0⟩⟩).route
          obtain ⟨second, counts⟩ := shifts_underruns ahead ahead.phase.floor.toNat
          refine ⟨first + second, fun metrics => ?_⟩
          rw [prepareOutputFrame, each metrics]
          refine (counts { metrics with underruns := metrics.underruns + first }).trans ?_
          rw [UInt64.add_assoc]

end PlayingRoute

/-! ## What holds of a link -/

namespace RouterLink

/-- The queue has the frames that came and were not popped. -/
structure Sound (route : AudioRoute ℚ) (link : RouterLink) : Prop where
  places_eq :
    link.places = ringCapacity route.sourceChannels.toNat / route.sourceChannels.toNat
  sizes : ∀ frame ∈ link.queue.entered, frame.length = route.sourceChannels.toNat
  arrived_eq : link.run.arrived = link.queue.entered.flatten
  waiting_eq : link.queue.waiting = link.queue.entered.drop link.run.popped
  sound : link.run.Sound route.sourceChannels.toNat route.nominalStep ⟨0, 0, 0⟩
  wellFormed : link.run.playing.route.WellFormed
  settings : (IncomingRoute.new route).SameSettings link.run.playing.route

/-- A frame that a route records has all its channels. -/
def Sized (route : AudioRoute ℚ) : LinkAction → Prop
  | .record frame => frame.length = route.sourceChannels.toNat
  | .prepare => True

variable {route : AudioRoute ℚ} {link : RouterLink}

theorem sound_start (wellFormed : (IncomingRoute.new route).WellFormed) :
    (start route).Sound route where
  places_eq := rfl
  sizes := nofun
  arrived_eq := rfl
  waiting_eq := List.drop_nil.symm
  sound := RouterRun.sound_start [] ⟨0, 0, 0⟩
  wellFormed := { wellFormed with }
  settings := ⟨rfl, rfl, rfl, rfl, rfl⟩

namespace Sound

theorem channels_eq (sound : link.Sound route) :
    link.run.playing.route.sourceChannels = route.sourceChannels.toNat :=
  sound.settings.sourceChannels_eq

theorem channels_pos (sound : link.Sound route) : 0 < route.sourceChannels.toNat :=
  sound.channels_eq ▸ sound.wellFormed.sourceChannels_pos

theorem nominalStep_pos (sound : link.Sound route) : 0 < route.nominalStep := by
  have positive := sound.wellFormed.nominalStep_pos
  rw [sound.settings.nominalStep_eq] at positive
  exact positive

theorem waiting_sizes (sound : link.Sound route) :
    ∀ frame ∈ link.queue.waiting, frame.length = route.sourceChannels.toNat := by
  intro frame member
  rw [sound.waiting_eq] at member
  exact sound.sizes frame (List.mem_of_mem_drop member)

/-- The ring has the samples of the waiting frames. -/
theorem consumer_eq (sound : link.Sound route) :
    link.run.playing.route.consumer = link.queue.waiting.flatten := by
  rw [(sound.sound.popped_spec sound.channels_pos).1, sound.arrived_eq,
    drop_flatten_of_sizes sound.sizes, sound.waiting_eq]

theorem length_consumer (sound : link.Sound route) :
    link.run.playing.route.consumer.length =
      link.queue.waiting.length * route.sourceChannels.toNat := by
  rw [sound.consumer_eq, length_flatten_of_sizes sound.waiting_sizes]

/-- The queue has place for a frame if the ring has room for its samples. -/
theorem place_iff (sound : link.Sound route) :
    link.queue.waiting.length < link.places ↔
      route.sourceChannels.toNat ≤ ringCapacity route.sourceChannels.toNat -
        link.run.playing.route.consumer.length := by
  have positive := sound.channels_pos
  rw [sound.places_eq, sound.length_consumer, ← Nat.succ_le_iff, Nat.le_div_iff_mul_le positive,
    Nat.succ_mul]
  omega

theorem popped_le (sound : link.Sound route) : link.run.popped ≤ link.queue.entered.length := by
  rw [RouterRun.popped, sound.arrived_eq, length_flatten_of_sizes sound.sizes, RouterRun.channels,
    sound.channels_eq]
  calc (link.queue.entered.length * route.sourceChannels.toNat - _) / route.sourceChannels.toNat
      ≤ link.queue.entered.length * route.sourceChannels.toNat / route.sourceChannels.toNat :=
        Nat.div_le_div_right (Nat.sub_le _ _)
    _ = link.queue.entered.length := Nat.mul_div_cancel _ sound.channels_pos

theorem popped_arrive (sound : link.Sound route) {frame : List ℚ}
    (size : frame.length = route.sourceChannels.toNat) :
    (link.run.step (.arrive 1 fun index => frame.getD index 0)).popped = link.run.popped := by
  rw [RouterRun.arrive_frame (size.trans sound.channels_eq.symm), RouterRun.popped,
    RouterRun.popped]
  dsimp only
  rw [List.length_append, List.length_append, Nat.add_sub_add_right]
  rfl

theorem record (sound : link.Sound route) {frame : List ℚ}
    (size : frame.length = route.sourceChannels.toNat) :
    (link.step (.record frame)).Sound route := by
  rw [step]
  by_cases place : link.queue.waiting.length < link.places
  · have popped := sound.popped_arrive size
    have runs := sound.sound.arrive sound.channels_pos 1 fun index => frame.getD index 0
    have arrives := RouterRun.arrive_frame (size.trans sound.channels_eq.symm)
    rw [if_pos place, BoundedQueue.offer, if_pos place]
    have few := sound.popped_le
    refine ⟨sound.places_eq, ?_, ?_, ?_, runs, ?_, ?_⟩
    · intro other member
      rcases List.mem_append.mp member with earlier | last
      · exact sound.sizes other earlier
      · exact List.mem_singleton.mp last ▸ size
    · change (link.run.step _).arrived = _
      rw [arrives, List.flatten_append, ← sound.arrived_eq, List.flatten_singleton]
    · change link.queue.waiting ++ [frame] =
        (link.queue.entered ++ [frame]).drop (link.run.step _).popped
      rw [popped, List.drop_append_of_le_length few, ← sound.waiting_eq]
    · change (link.run.step _).playing.route.WellFormed
      rw [arrives]
      exact { sound.wellFormed with }
    · change IncomingRoute.SameSettings _ (link.run.step _).playing.route
      rw [arrives]
      exact { sound.settings with }
  · rw [if_neg place, BoundedQueue.offer, if_neg place]
    exact { sound with }

/-- Preparing takes the frames that are popped from the front. -/
theorem prepare (sound : link.Sound route) : (link.step .prepare).Sound route := by
  have runs := sound.sound.prepare sound.channels_pos sound.nominalStep_pos
  have arrived := RouterRun.prepare_arrived link.run
  have playing := RouterRun.prepare_playing link.run
  obtain ⟨progress, -⟩ := PlayingRoute.prepareOutputFrame_progress sound.wellFormed
  have further : link.run.popped ≤ (link.run.step .prepare).popped := by
    rw [RouterRun.popped, RouterRun.popped, arrived, RouterRun.channels, RouterRun.channels,
      playing, progress.settings.sourceChannels_eq]
    exact Nat.div_le_div_right (Nat.sub_le_sub_left progress.consumer_le _)
  refine ⟨sound.places_eq, sound.sizes, arrived.trans sound.arrived_eq, ?_, runs, ?_, ?_⟩
  · change link.queue.waiting.drop _ = link.queue.entered.drop (link.run.step .prepare).popped
    rw [sound.waiting_eq, List.drop_drop, Nat.add_sub_cancel' further]
  · change (link.run.step .prepare).playing.route.WellFormed
    exact playing ▸ progress.wellFormed
  · change IncomingRoute.SameSettings _ (link.run.step .prepare).playing.route
    exact playing ▸ sound.settings.trans progress.settings

theorem step (sound : link.Sound route) {action : LinkAction} (sized : Sized route action) :
    (link.step action).Sound route := by
  cases action with
  | record frame => exact sound.record sized
  | prepare => exact sound.prepare

theorem after (sound : link.Sound route) {actions : List LinkAction}
    (sized : ∀ action ∈ actions, Sized route action) : (link.after actions).Sound route := by
  induction actions generalizing link with
  | nil => exact sound
  | cons action actions ih =>
      rw [List.forall_mem_cons] at sized
      exact ih (sound.step sized.1) sized.2

/-- The underruns that a call counts are the losses of the link. -/
theorem underruns (sound : link.Sound route) (metrics : RouterMetrics) :
    (PlayingRoute.prepareOutputFrame ⟨link.run.playing.route, metrics⟩).2.metrics =
      { metrics with
        underruns := metrics.underruns +
          UInt64.ofNat ((link.step .prepare).run.losses - link.run.losses) } := by
  obtain ⟨added, counts⟩ :=
    PlayingRoute.prepareOutputFrame_underruns link.run.playing.route
  have before := sound.sound.metrics_eq
  have later := (sound.prepare.sound).metrics_eq
  have playing : (link.step .prepare).run.playing = link.run.playing.prepareOutputFrame.2 :=
    RouterRun.prepare_playing link.run
  have counted := counts link.run.playing.metrics
  have more : link.run.losses ≤ (link.step .prepare).run.losses := link.run.losses_le_prepare
  rw [show (⟨link.run.playing.route, link.run.playing.metrics⟩ : PlayingRoute) =
    link.run.playing from rfl, ← playing, later, before] at counted
  have sums := congrArg RouterMetrics.underruns counted
  have parts := Nat.add_sub_cancel' more
  rw [← parts] at sums
  simp only [UInt64.zero_add, UInt64.ofNat_add] at sums
  rw [counts, (UInt64.add_right_inj _).mp sums]

end Sound

/-! ## The queue of a link -/

/-- The queue of a link takes in the frames of the source, or refuses them. -/
theorem accounts_after {link : RouterLink} {offered : List (List ℚ)}
    (accounts : link.queue.Accounts link.places offered) (actions : List LinkAction) :
    (link.after actions).places = link.places ∧
      (link.after actions).queue.Accounts link.places (offered ++ recorded actions) := by
  induction actions generalizing link offered with
  | nil =>
      refine ⟨rfl, ?_⟩
      rw [recorded, List.filterMap_nil, List.append_nil]
      exact accounts
  | cons action actions ih =>
      cases action with
      | record frame =>
          obtain ⟨places, later⟩ := @ih (link.step (.record frame)) _ (accounts.offer frame)
          refine ⟨places, ?_⟩
          rw [List.append_assoc] at later
          exact later
      | prepare => exact @ih (link.step .prepare) _ (accounts.take _)

/-! ## The output of a link -/

/-- Recording delivers nothing. -/
theorem delivered_records (link : RouterLink) (frames : List (List ℚ)) :
    (link.after (frames.map .record)).delivered = link.delivered := by
  induction frames generalizing link with
  | nil => rfl
  | cons frame frames ih =>
      refine (ih (link.step (.record frame))).trans ?_
      rw [delivered, step]
      dsimp only
      split_ifs <;> rfl

/-- Frames for which the queue has places come to the ring one after the other. -/
theorem playing_records {link : RouterLink} {frames : List (List ℚ)}
    (room : link.queue.waiting.length + frames.length ≤ link.places)
    (sizes : ∀ frame ∈ frames, frame.length = link.run.channels) :
    (link.after (frames.map .record)).run.playing =
      { link.run.playing with
        route :=
          { link.run.playing.route with
            consumer := link.run.playing.route.consumer ++ frames.flatten } } := by
  induction frames generalizing link with
  | nil =>
      rw [List.flatten_nil, List.append_nil]
      rfl
  | cons frame frames ih =>
      have place : link.queue.waiting.length < link.places := by
        rw [List.length_cons] at room
        omega
      have own := sizes frame List.mem_cons_self
      have first := RouterRun.arrive_frame own
      rw [List.map_cons, after, List.foldl_cons]
      refine (@ih (link.step (.record frame)) ?_ ?_).trans ?_
      · change (link.queue.offer link.places frame).waiting.length + frames.length ≤ link.places
        rw [BoundedQueue.offer, if_pos place, List.length_append, List.length_singleton]
        rw [List.length_cons] at room
        omega
      · intro other member
        rw [step, if_pos place, first]
        exact sizes other (List.mem_cons_of_mem _ member)
      · rw [step, if_pos place, first, List.flatten_cons, ← List.append_assoc]

/-- The frames of calls to prepare are delivered, in their order. -/
theorem delivered_prepare (link : RouterLink) (frames : Nat) :
    (link.after (List.replicate frames .prepare)).run.playing = link.run.playing.calls frames ∧
      (link.after (List.replicate frames .prepare)).delivered = link.delivered ++
        (link.run.playing.preparedFrames frames).map
          fun prepared => prepared.route.interpolated := by
  induction frames with
  | zero => exact ⟨rfl, (List.append_nil _).symm⟩
  | succ frames ih =>
      obtain ⟨playing, delivers⟩ := ih
      have last : link.after (List.replicate (frames + 1) .prepare) =
          (link.after (List.replicate frames .prepare)).step .prepare := by
        rw [List.replicate_succ', after, List.foldl_append]
        rfl
      rw [last]
      refine ⟨?_, ?_⟩
      · rw [PlayingRoute.calls_succ, ← playing]
        exact RouterRun.prepare_playing _
      · rw [PlayingRoute.preparedFrames_succ, List.map_append, ← List.append_assoc, ← delivers,
          ← playing]
        generalize link.after (List.replicate frames .prepare) = reached
        rw [delivered, delivered, PlayingRoute.preparedFrame]
        change ((reached.run.step .prepare).sessions.reverse.flatMap _).map _ = _
        rw [RouterRun.step]
        rcases reached.run.playing.prepareOutputFrame with ⟨_ | _, prepared⟩
        · exact (List.append_nil _).symm
        · dsimp only
          rw [RouterRun.outputs_record, List.map_append]
          rfl

end RouterLink

end VCable
