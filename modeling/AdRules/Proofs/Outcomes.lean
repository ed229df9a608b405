import AdRules.Repository

/-!
# How operations run

An operation takes a state to a value or a failure, each with the state it leaves. These laws say
what that is for the combinators that operations are written with; the laws of the operations
themselves are derived from them and never open the monad.
-/

namespace AdRules.Act

variable {σ α β : Type}

/-- An operation that only gives a value leaves the state alone. -/
@[simp] theorem pure_apply (value : α) (state : σ) :
    (pure value : Act σ α) state = .ok value state := rfl

/-- Looking at the state leaves it as it is. -/
@[simp] theorem get_apply (state : σ) : (get : Act σ σ) state = .ok state state := rfl

/-- An operation that only fails leaves the state as it is. -/
@[simp] theorem throw_apply (failure : Failure) (state : σ) :
    (throw failure : Act σ α) state = .error failure state := rfl

/-- The second operation starts where the first one ended; it is not run after a failure, which
keeps what was changed before it. -/
@[simp] theorem bind_apply (first : Act σ α) (next : α → Act σ β) (state : σ) :
    (first >>= next) state =
      match first state with
      | .ok value between => next value between
      | .error failure between => .error failure between := by
  cases ran : first state <;> simp only [bind, EStateM.bind, ran]

/-- A result is converted where there is one; the state is the one that was left. -/
@[simp] theorem map_apply (convert : α → β) (action : Act σ α) (state : σ) :
    (convert <$> action) state =
      match action state with
      | .ok value after => .ok (convert value) after
      | .error failure after => .error failure after := by
  cases ran : action state <;> simp only [Functor.map, EStateM.map, ran]

/-- An operation on a part leaves the rest of the state as it is. -/
@[simp] theorem on_part_apply {τ : Type} (get : τ → σ) (set : τ → σ → τ) (action : Act σ α)
    (whole : τ) :
    action.onPart get set whole =
      match action (get whole) with
      | .ok value part => .ok value (set whole part)
      | .error failure part => .error failure (set whole part) := rfl

/-- An operation whose failure is part of its result does not fail. -/
@[simp] theorem outcome_apply (action : Act σ α) (state : σ) :
    action.outcome state =
      match action state with
      | .ok value after => .ok (.ok value) after
      | .error failure after => .ok (.error failure) after := rfl

/-! ## Operations that have a result -/

/-- Two operations have a result where the first one has one and the second one then has. -/
theorem bind_ok {first : Act σ α} {next : α → Act σ β} {state after : σ} {result : β} :
    (first >>= next) state = .ok result after ↔
      ∃ value between, first state = .ok value between ∧ next value between = .ok result after := by
  rw [bind_apply]
  cases first state with
  | ok value between =>
    constructor
    · intro ended
      exact ⟨value, between, rfl, ended⟩
    · rintro ⟨_, _, ⟨⟩, ended⟩
      exact ended
  | error failure between => simp

/-- A result from elsewhere is given in the state that it is found in. -/
theorem of_except_ok {result : Except Failure α} {state after : σ} {value : α} :
    (ofExcept result : Act σ α) state = .ok value after ↔ result = .ok value ∧ state = after := by
  cases result with
  | ok given => simp [ofExcept]
  | error failure => simp [ofExcept]

/-- An operation on a part succeeds as it does on the part alone, and puts the part back. -/
theorem on_part_ok {τ : Type} {get : τ → σ} {set : τ → σ → τ} {action : Act σ α} {whole after : τ}
    {value : α} :
    action.onPart get set whole = .ok value after ↔
      ∃ part, action (get whole) = .ok value part ∧ set whole part = after := by
  rw [on_part_apply]
  cases action (get whole) with
  | ok given part =>
    constructor
    · rintro ⟨⟩
      exact ⟨part, rfl, rfl⟩
    · rintro ⟨_, ⟨⟩, rfl⟩
      rfl
  | error failure part => simp

/-! ## Where operations end -/

/-- The state in which the operation ends, whether it has a result or fails. -/
def stateAfter (action : Act σ α) (state : σ) : σ :=
  match action state with
  | .ok _ after => after
  | .error _ after => after

/-- The state after a run that succeeded is the one that the run has left. -/
theorem state_after_ok {action : Act σ α} {state after : σ} {value : α}
    (ran : action state = .ok value after) : action.stateAfter state = after := by
  simp only [stateAfter, ran]

/-- The state after a run that failed is the one that the run has left, too. -/
theorem state_after_error {action : Act σ α} {state after : σ} {failure : Failure}
    (ran : action state = .error failure after) : action.stateAfter state = after := by
  simp only [stateAfter, ran]

/-- Where the first operation has a result, the second one ends for both. -/
theorem state_after_bind {first : Act σ α} {next : α → Act σ β} {state between : σ} {value : α}
    (ran : first state = .ok value between) :
    (first >>= next).stateAfter state = (next value).stateAfter between := by
  simp only [stateAfter, bind_apply, ran]

/-- After a failure the second operation is not run. -/
theorem state_after_failed {first : Act σ α} {next : α → Act σ β} {state between : σ}
    {failure : Failure} (ran : first state = .error failure between) :
    (first >>= next).stateAfter state = between := by
  simp only [stateAfter, bind_apply, ran]

/-- Converting a result changes no state. -/
theorem state_after_map (convert : α → β) (action : Act σ α) (state : σ) :
    (convert <$> action).stateAfter state = action.stateAfter state := by
  cases ran : action state <;> simp only [stateAfter, map_apply, ran]

/-- What the operation gives, without the state in which it ends. -/
def result (action : Act σ α) (state : σ) : Except Failure α :=
  match action state with
  | .ok value _ => .ok value
  | .error failure _ => .error failure

/-- The operation has a result in every state, so that it never fails. -/
def Responds (action : Act σ α) : Prop := ∀ state, ∃ value after, action state = .ok value after

namespace Responds

/-- An operation that only gives a value always does so. -/
theorem pure (value : α) : (Pure.pure value : Act σ α).Responds := fun state => ⟨value, state, rfl⟩

/-- Operations that always give a value do so one after the other. -/
theorem bind {action : Act σ α} {next : α → Act σ β} (first : action.Responds)
    (rest : ∀ value, (next value).Responds) : (action >>= next).Responds := by
  intro state
  obtain ⟨value, between, ran⟩ := first state
  obtain ⟨result, after, ended⟩ := rest value between
  exact ⟨result, after, by simp only [bind_apply, ran, ended]⟩

/-- Converting a value that is always given, it is always given. -/
theorem map {action : Act σ α} (convert : α → β) (responds : action.Responds) :
    (convert <$> action).Responds := by
  rw [map_eq_pure_bind]
  exact bind responds fun value => pure (convert value)

end Responds

end AdRules.Act
