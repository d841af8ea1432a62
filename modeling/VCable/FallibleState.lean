import Mathlib.Tactic.Common

/-!
# Computations that fail and keep their state

A method with an exclusive borrow of its state returns early on an error, and
the state keeps every change made before.  This file has the sequencing of such
computations, error handlers, and the rules by which a property of the state is
carried through them.
-/

section Results

variable {ε ε' α β : Type}

/-- `Option::ok_or`. -/
def okOr (failure : ε) : Option α → Except ε α
  | some value => .ok value
  | none => .error failure

@[simp]
theorem okOr_eq_ok_iff {failure : ε} {found : Option α} {value : α} :
    okOr failure found = .ok value ↔ found = some value := by
  cases found <;> simp [okOr]

@[simp]
theorem bind_eq_ok_iff {result : Except ε α} {next : α → Except ε β} {value : β} :
    (result >>= next) = .ok value ↔ ∃ found, result = .ok found ∧ next found = .ok value := by
  cases result <;> simp [bind, Except.bind]

@[simp]
theorem mapError_eq_ok_iff {result : Except ε α} {convert : ε → ε'} {value : α} :
    result.mapError convert = .ok value ↔ result = .ok value := by
  cases result <;> simp [Except.mapError]

theorem okOr_eq_error_iff {failure other : ε} {found : Option α} :
    okOr failure found = .error other ↔ found = none ∧ other = failure := by
  cases found <;> simp [okOr, eq_comm]

/-- A sequence fails where its first part does, or goes on and fails. -/
theorem bind_eq_error_iff {result : Except ε α} {next : α → Except ε β} {failure : ε} :
    (result >>= next) = .error failure ↔
      result = .error failure ∨ ∃ found, result = .ok found ∧ next found = .error failure := by
  cases result <;> simp [bind, Except.bind]

theorem mapError_eq_error_iff {result : Except ε α} {convert : ε → ε'} {failure : ε'} :
    result.mapError convert = .error failure ↔
      ∃ cause, result = .error cause ∧ convert cause = failure := by
  cases result <;> simp [Except.mapError]

/-- If every value can be converted, all are, each to its own result. -/
theorem mapM_eq_ok {convert : α → Except ε β} {holds : α → β → Prop} {values : List α}
    (converts : ∀ value ∈ values, ∃ result, convert value = .ok result ∧ holds value result) :
    ∃ results, values.mapM convert = .ok results ∧
      (∀ value ∈ values, ∃ result ∈ results, holds value result) ∧
        ∀ result ∈ results, ∃ value ∈ values, holds value result := by
  induction values with
  | nil => exact ⟨[], rfl, nofun, nofun⟩
  | cons value values ih =>
      obtain ⟨result, converted, held⟩ := converts value List.mem_cons_self
      obtain ⟨results, mapped, forward, backward⟩ := ih fun other member =>
        converts other (List.mem_cons_of_mem _ member)
      refine ⟨result :: results, ?_, ?_, ?_⟩
      · rw [List.mapM_cons, converted, mapped]
        rfl
      · rw [List.forall_mem_cons]
        refine ⟨⟨result, List.mem_cons_self, held⟩, fun other member => ?_⟩
        obtain ⟨found, foundMem, foundHeld⟩ := forward other member
        exact ⟨found, List.mem_cons_of_mem _ foundMem, foundHeld⟩
      · rw [List.forall_mem_cons]
        refine ⟨⟨value, List.mem_cons_self, held⟩, fun other member => ?_⟩
        obtain ⟨found, foundMem, foundHeld⟩ := backward other member
        exact ⟨found, List.mem_cons_of_mem _ foundMem, foundHeld⟩

theorem mapM_eq_error {convert : α → Except ε β} {values : List α} {failure : ε}
    (failed : values.mapM convert = .error failure) :
    ∃ value ∈ values, convert value = .error failure := by
  induction values with
  | nil => cases failed
  | cons value values ih =>
      rw [List.mapM_cons] at failed
      rcases bind_eq_error_iff.mp failed with here | ⟨_, _, failed⟩
      · exact ⟨value, List.mem_cons_self, here⟩
      rcases bind_eq_error_iff.mp failed with later | ⟨_, _, failed⟩
      · obtain ⟨other, member, there⟩ := ih later
        exact ⟨other, List.mem_cons_of_mem _ member, there⟩
      · cases failed

end Results

/-- A computation that may fail and returns the state it got to either way. -/
def FallibleState (σ ε α : Type) : Type :=
  σ → Except ε α × σ

namespace FallibleState

variable {σ ε α β : Type}

def succeed (value : α) : FallibleState σ ε α := fun state =>
  (.ok value, state)

def fail (failure : ε) : FallibleState σ ε α := fun state =>
  (.error failure, state)

/-- Go on with the result, unless there was an error. -/
def andThen (body : FallibleState σ ε α) (next : α → FallibleState σ ε β) :
    FallibleState σ ε β := fun state =>
  match body state with
  | (.ok value, reached) => next value reached
  | (.error failure, reached) => (.error failure, reached)

instance : Monad (FallibleState σ ε) where
  pure := succeed
  bind := andThen

/-- Hand an error to a handler, in the state that it was raised in. -/
def onError (body : FallibleState σ ε α) (handler : ε → FallibleState σ ε α) :
    FallibleState σ ε α := fun state =>
  match body state with
  | (.ok value, reached) => (.ok value, reached)
  | (.error failure, reached) => handler failure reached

/-- Change the state. -/
def change (update : σ → σ) : FallibleState σ ε Unit := fun state =>
  (.ok (), update state)

/-- Compute from the state, without changing it. -/
def inspect (read : σ → Except ε α) : FallibleState σ ε α := fun state =>
  (read state, state)

section Evaluation

variable {body : FallibleState σ ε α} {next : α → FallibleState σ ε β} {state reached : σ}

/-- A sequence stops at the error of its first part, or goes on from where
that got to. -/
theorem bind_cases {result : Except ε β}
    (taken : (body >>= next) state = (result, reached)) :
    (∃ failure, body state = (.error failure, reached) ∧ result = .error failure) ∨
      ∃ value middle, body state = (.ok value, middle) ∧ next value middle = (result, reached) := by
  change andThen body next state = _ at taken
  unfold andThen at taken
  split at taken
  · rename_i value middle first
    exact Or.inr ⟨value, middle, first, taken⟩
  · rename_i failure middle first
    cases taken
    exact Or.inl ⟨failure, first, rfl⟩

theorem onError_cases {handler : ε → FallibleState σ ε α} {result : Except ε α}
    (taken : onError body handler state = (result, reached)) :
    (∃ value, body state = (.ok value, reached) ∧ result = .ok value) ∨
      ∃ failure middle, body state = (.error failure, middle) ∧
        handler failure middle = (result, reached) := by
  unfold onError at taken
  split at taken
  · rename_i value middle first
    cases taken
    exact Or.inl ⟨value, first, rfl⟩
  · rename_i failure middle first
    exact Or.inr ⟨failure, middle, first, taken⟩

theorem bind_apply_ok {value : α} (succeeds : body state = (.ok value, reached)) :
    (body >>= next) state = next value reached := by
  change andThen body next state = _
  rw [andThen, succeeds]

theorem bind_apply_error {failure : ε} (fails : body state = (.error failure, reached)) :
    (body >>= next) state = (.error failure, reached) := by
  change andThen body next state = _
  rw [andThen, fails]

/-- A sequence that starts with a look at the state. -/
theorem inspect_bind_apply {read : σ → Except ε α} {value : α} (found : read state = .ok value) :
    (inspect read >>= next) state = next value state :=
  bind_apply_ok (congrArg (·, state) found)

theorem change_bind_apply {update : σ → σ} {next : Unit → FallibleState σ ε β} :
    (change update >>= next) state = next () (update state) :=
  rfl

/-- A computation that never succeeds. -/
def Raises (body : FallibleState σ ε α) : Prop :=
  ∀ state, ∃ failure, (body state).1 = .error failure

theorem raises_fail (failure : ε) : Raises (fail failure : FallibleState σ ε α) :=
  fun _ => ⟨failure, rfl⟩

theorem Raises.after (raises : ∀ value, Raises (next value)) : Raises (body >>= next) := by
  intro state
  cases taken : (body >>= next) state with
  | mk result reached =>
      rcases bind_cases taken with ⟨failure, _, rfl⟩ | ⟨value, middle, _, rest⟩
      · exact ⟨failure, rfl⟩
      · obtain ⟨failure, failed⟩ := raises value middle
        rw [rest] at failed
        exact ⟨failure, failed⟩

/-- Past a handler that raises again, the body has succeeded. -/
theorem onError_then_cases {handler : ε → FallibleState σ ε α} {result : Except ε β}
    (raises : ∀ failure, Raises (handler failure))
    (taken : (onError body handler >>= next) state = (result, reached)) :
    (∃ failure middle last, body state = (.error failure, middle) ∧ result = .error last ∧
        handler failure middle = (.error last, reached)) ∨
      ∃ value middle, body state = (.ok value, middle) ∧ next value middle = (result, reached) := by
  rcases bind_cases taken with ⟨last, attempt, rfl⟩ | ⟨value, middle, attempt, rest⟩
  · rcases onError_cases attempt with ⟨_, _, impossible⟩ | ⟨failure, middle, fails, handled⟩
    · cases impossible
    · exact Or.inl ⟨failure, middle, last, fails, rfl, handled⟩
  · rcases onError_cases attempt with ⟨_, succeeds, same⟩ | ⟨failure, middle, _, handled⟩
    · cases same
      exact Or.inr ⟨value, middle, succeeds, rest⟩
    · obtain ⟨last, failed⟩ := raises failure middle
      rw [handled] at failed
      cases failed

end Evaluation

section Preservation

variable {body : FallibleState σ ε α} {next : α → FallibleState σ ε β} {holds : σ → Prop}

/-- A property of the state that holds after the computation if it held before,
whether it succeeds or fails. -/
def Preserves (holds : σ → Prop) (body : FallibleState σ ε α) : Prop :=
  ∀ state, holds state → holds (body state).2

theorem preserves_pure (value : α) : Preserves holds (pure value : FallibleState σ ε α) :=
  fun _ held => held

theorem preserves_fail (failure : ε) : Preserves holds (fail failure : FallibleState σ ε α) :=
  fun _ held => held

theorem preserves_inspect (read : σ → Except ε α) : Preserves holds (inspect read) :=
  fun _ held => held

theorem Preserves.bind (first : Preserves holds body)
    (second : ∀ value, Preserves holds (next value)) : Preserves holds (body >>= next) := by
  intro state held
  have reached := first state held
  cases taken : (body >>= next) state with
  | mk result after =>
      rcases bind_cases taken with ⟨failure, failed, _⟩ | ⟨value, middle, succeeded, rest⟩
      · rw [failed] at reached
        exact reached
      · rw [succeeded] at reached
        have later := second value middle reached
        rw [rest] at later
        exact later

theorem Preserves.onError {handler : ε → FallibleState σ ε α} (first : Preserves holds body)
    (second : ∀ failure, Preserves holds (handler failure)) :
    Preserves holds (onError body handler) := by
  intro state held
  have reached := first state held
  cases taken : FallibleState.onError body handler state with
  | mk result after =>
      rcases onError_cases taken with ⟨value, succeeded, _⟩ | ⟨failure, middle, failed, handled⟩
      · rw [succeeded] at reached
        exact reached
      · rw [failed] at reached
        have later := second failure middle reached
        rw [handled] at later
        exact later

end Preservation

section Outcomes

variable {body : FallibleState σ ε α} {next : α → FallibleState σ ε β} {holds : σ → Prop}
  {returns : β → Prop} {raises : ε → Prop}

/-- The result is a value or an error of the given kinds. -/
def Yields (returns : α → Prop) (raises : ε → Prop) : Except ε α → Prop
  | .ok value => returns value
  | .error failure => raises failure

/-- A computation that keeps a property of the state, and returns and raises
only values and errors of the given kinds where the property holds. -/
def Meets (holds : σ → Prop) (returns : α → Prop) (raises : ε → Prop)
    (body : FallibleState σ ε α) : Prop :=
  ∀ state, holds state → holds (body state).2 ∧ Yields returns raises (body state).1

theorem meets_pure {value : β} (returned : returns value) :
    Meets holds returns raises (pure value : FallibleState σ ε β) :=
  fun _ held => ⟨held, returned⟩

theorem meets_fail {failure : ε} (raised : raises failure) :
    Meets holds returns raises (fail failure : FallibleState σ ε β) :=
  fun _ held => ⟨held, raised⟩

theorem meets_inspect {read : σ → Except ε β}
    (yields : ∀ state, holds state → Yields returns raises (read state)) :
    Meets holds returns raises (inspect read) :=
  fun state held => ⟨held, yields state held⟩

theorem Meets.bind {returned : α → Prop} (first : Meets holds returned raises body)
    (second : ∀ value, returned value → Meets holds returns raises (next value)) :
    Meets holds returns raises (body >>= next) := by
  intro state held
  obtain ⟨reached, yields⟩ := first state held
  cases taken : body state with
  | mk result middle =>
      rw [taken] at reached yields
      cases result with
      | ok value =>
          rw [bind_apply_ok taken]
          exact second value yields middle reached
      | error failure =>
          rw [bind_apply_error taken]
          exact ⟨reached, yields⟩

/-- A first part whose value does not matter. -/
theorem Meets.before (first : Meets holds (fun _ => True) raises body)
    (second : ∀ value, Meets holds returns raises (next value)) :
    Meets holds returns raises (body >>= next) :=
  first.bind fun value _ => second value

/-- A handler gets only errors that the body raises. -/
theorem Meets.onError {handler : ε → FallibleState σ ε β} {raised : ε → Prop}
    {body : FallibleState σ ε β} (first : Meets holds returns raised body)
    (second : ∀ failure, raised failure → Meets holds returns raises (handler failure)) :
    Meets holds returns raises (FallibleState.onError body handler) := by
  intro state held
  obtain ⟨reached, yields⟩ := first state held
  unfold FallibleState.onError
  cases taken : body state with
  | mk result middle =>
      rw [taken] at reached yields
      cases result with
      | ok value => exact ⟨reached, yields⟩
      | error failure => exact second failure yields middle reached

end Outcomes

section Loops

variable {ι : Type} {body : ι → FallibleState σ ε Unit} {holds : σ → Prop}

theorem forM_cons_apply {value : ι} {values : List ι} {state reached : σ}
    (first : body value state = (.ok (), reached)) :
    (value :: values).forM body state = values.forM body reached :=
  bind_apply_ok first

/-- A loop goes on after the passes that succeed. -/
theorem forM_append_apply {values more : List ι} {state reached : σ}
    (first : values.forM body state = (.ok (), reached)) :
    (values ++ more).forM body state = more.forM body reached := by
  induction values generalizing state with
  | nil =>
      cases first
      rfl
  | cons value values ih =>
      rcases bind_cases first with ⟨failure, _, failed⟩ | ⟨_, middle, one, rest⟩
      · cases failed
      · exact (forM_cons_apply one).trans (ih rest)

/-- A counted loop whose passes succeed and take an invariant to the next index. -/
theorem forM_range_ok {body : Nat → FallibleState σ ε Unit} {invariant : Nat → σ → Prop}
    {count : Nat} {state : σ} (start : invariant 0 state)
    (pass : ∀ index < count, ∀ state, invariant index state →
      ∃ reached, body index state = (.ok (), reached) ∧ invariant (index + 1) reached) :
    ∃ reached, (List.range count).forM body state = (.ok (), reached) ∧
      invariant count reached := by
  induction count with
  | zero => exact ⟨state, rfl, start⟩
  | succ count ih =>
      obtain ⟨middle, first, held⟩ := ih fun index within => pass index (Nat.lt_succ_of_lt within)
      obtain ⟨reached, last, after⟩ := pass count (Nat.lt_succ_self count) middle held
      refine ⟨reached, ?_, after⟩
      rw [List.range_succ, forM_append_apply first, forM_cons_apply last]
      rfl

theorem Preserves.forM {values : List ι} (passes : ∀ value ∈ values, Preserves holds (body value)) :
    Preserves holds (values.forM body) := by
  induction values with
  | nil => exact preserves_pure ()
  | cons value values ih =>
      exact (passes value List.mem_cons_self).bind fun _ =>
        ih fun other member => passes other (List.mem_cons_of_mem _ member)

theorem Meets.forM {values : List ι} {raises : ε → Prop}
    (passes : ∀ value ∈ values, Meets holds (fun _ => True) raises (body value)) :
    Meets holds (fun _ => True) raises (values.forM body) := by
  induction values with
  | nil => exact meets_pure trivial
  | cons value values ih =>
      exact (passes value List.mem_cons_self).before fun _ =>
        ih fun other member => passes other (List.mem_cons_of_mem _ member)

/-- A pass and the passes after it. -/
theorem Preserves.forM_after {body : Nat → FallibleState σ ε Unit} {goal : σ → Prop} {turn : Nat}
    {values : List Nat} {state : σ} (turns : goal (body turn state).2)
    (keeps : ∀ index, Preserves goal (body index)) :
    goal ((turn :: values).forM body state).2 := by
  cases taken : body turn state with
  | mk result reached =>
      rw [taken] at turns
      cases result with
      | ok value =>
          rw [forM_cons_apply taken]
          exact Preserves.forM (fun index _ => keeps index) reached turns
      | error failure =>
          have stopped : (turn :: values).forM body state = (.error failure, reached) :=
            bind_apply_error taken
          rw [stopped]
          exact turns

/-- A counted loop that does nothing before an index, and reaches something there
that the later passes keep, whether they succeed or fail. -/
theorem forM_range_reaches {body : Nat → FallibleState σ ε Unit} {start goal : σ → Prop}
    {count turn : Nat} (within : turn < count)
    (before : ∀ index < turn, ∀ state, start state →
      ∃ reached, body index state = (.ok (), reached) ∧ start reached)
    (turns : ∀ state, start state → goal (body turn state).2)
    (keeps : ∀ index, Preserves goal (body index)) {state : σ} (started : start state) :
    goal ((List.range count).forM body state).2 := by
  obtain ⟨middle, first, held⟩ := @forM_range_ok σ ε body (fun _ => start) turn state started before
  obtain ⟨more, rfl⟩ := Nat.exists_eq_add_of_lt within
  rw [Nat.add_assoc, List.range_add, forM_append_apply first, List.range_succ_eq_map,
    List.map_cons, Nat.add_zero]
  exact Preserves.forM_after (turns middle held) keeps

/-- A loop fails if one of its passes does, and the others leave what it fails for. -/
theorem forM_raises {values : List ι} {value : ι} (member : value ∈ values)
    (keeps : ∀ other, other ≠ value → Preserves holds (body other))
    (raises : ∀ state, holds state → ∃ failure, (body value state).1 = .error failure) {state : σ}
    (held : holds state) : ∃ failure, (values.forM body state).1 = .error failure := by
  induction values generalizing state with
  | nil => cases member
  | cons other values ih =>
      cases taken : body other state with
      | mk result reached =>
          cases result with
          | error failure =>
              have stopped : (other :: values).forM body state = (.error failure, reached) :=
                bind_apply_error taken
              exact ⟨failure, by rw [stopped]⟩
          | ok done =>
              have different : other ≠ value := by
                rintro rfl
                obtain ⟨failure, failed⟩ := raises state held
                rw [taken] at failed
                cases failed
              have kept := keeps other different state held
              rw [taken] at kept
              rw [forM_cons_apply taken]
              exact ih ((List.mem_cons.mp member).resolve_left different.symm) kept

end Loops

section Relations

variable {related : σ → σ → Prop} {body : FallibleState σ ε α} {next : α → FallibleState σ ε β}

/-- From related states the computation has one result, and ends in related states. -/
def Respects (related : σ → σ → Prop) (body : FallibleState σ ε α) : Prop :=
  ∀ first second, related first second →
    (body first).1 = (body second).1 ∧ related (body first).2 (body second).2

theorem respects_pure (value : α) : Respects related (pure value : FallibleState σ ε α) :=
  fun _ _ same => ⟨rfl, same⟩

theorem respects_fail (failure : ε) : Respects related (fail failure : FallibleState σ ε α) :=
  fun _ _ same => ⟨rfl, same⟩

theorem respects_inspect {read : σ → Except ε α}
    (agree : ∀ first second, related first second → read first = read second) :
    Respects related (inspect read) :=
  fun first second same => ⟨agree first second same, same⟩

theorem respects_change {update : σ → σ}
    (keeps : ∀ first second, related first second → related (update first) (update second)) :
    Respects related (change update : FallibleState σ ε Unit) :=
  fun first second same => ⟨rfl, keeps first second same⟩

theorem Respects.bind (one : Respects related body)
    (rest : ∀ value, Respects related (next value)) :
    Respects related (body >>= next) := by
  intro first second same
  obtain ⟨results, reached⟩ := one first second same
  cases taken : body first with
  | mk result middle =>
      cases otherTaken : body second with
      | mk other otherMiddle =>
          rw [taken, otherTaken] at results reached
          obtain rfl : result = other := results
          cases result with
          | ok value =>
              rw [bind_apply_ok taken, bind_apply_ok otherTaken]
              exact rest value middle otherMiddle reached
          | error failure =>
              rw [bind_apply_error taken, bind_apply_error otherTaken]
              exact ⟨rfl, reached⟩

theorem Respects.forM {ι : Type} {body : ι → FallibleState σ ε Unit} {values : List ι}
    (passes : ∀ value, Respects related (body value)) : Respects related (values.forM body) := by
  induction values with
  | nil => exact respects_pure ()
  | cons value values ih => exact (passes value).bind fun _ => ih

end Relations

section Items

variable {ι : Type} {body : FallibleState (ι × σ) ε Unit}

/-- A loop over items that it may change, which ends early at an error; the items
after it are left as they were. -/
def eachItem (body : FallibleState (ι × σ) ε Unit) : List ι → σ → Except ε Unit × List ι × σ
  | [], state => (.ok (), [], state)
  | item :: items, state =>
      match body (item, state) with
      | (.error failure, changed, reached) => (.error failure, changed :: items, reached)
      | (.ok (), changed, middle) =>
          let (result, others, reached) := eachItem body items middle
          (result, changed :: others, reached)

/-- A property of the items and the state, whatever the order of the items, is kept
by the loop if each pass keeps it; the items of a loop that ends are passed. -/
theorem eachItem_keeps {holds : List ι → σ → Prop} {before after : ι → Prop}
    (reorder : ∀ {items others : List ι} {state : σ}, items.Perm others → holds items state →
      holds others state)
    (pass : ∀ item others state, before item → holds (item :: others) state →
      holds ((body (item, state)).2.1 :: others) (body (item, state)).2.2 ∧
        ((body (item, state)).1 = .ok () → after (body (item, state)).2.1))
    {items : List ι} {others : List ι} {state : σ} (start : ∀ item ∈ items, before item)
    (held : holds (items ++ others) state) :
    holds ((eachItem body items state).2.1 ++ others) (eachItem body items state).2.2 ∧
      ((eachItem body items state).1 = .ok () →
        ∀ item ∈ (eachItem body items state).2.1, after item) := by
  induction items generalizing others state with
  | nil => exact ⟨held, fun _ => List.forall_mem_nil _⟩
  | cons item items ih =>
      obtain ⟨first, rest⟩ := List.forall_mem_cons.mp start
      obtain ⟨kept, passed⟩ := pass item (items ++ others) state first held
      unfold eachItem
      rcases taken : body (item, state) with ⟨result, changed, middle⟩
      rw [taken] at kept passed
      cases result with
      | error failure => exact ⟨kept, fun impossible => by cases impossible⟩
      | ok done =>
          obtain ⟨reached, ended⟩ := @ih (changed :: others) middle rest
            (reorder List.perm_middle.symm kept)
          refine ⟨reorder List.perm_middle reached, fun succeeded => ?_⟩
          exact List.forall_mem_cons.mpr ⟨passed rfl, ended succeeded⟩

end Items

end FallibleState
