import AdRules.Proofs.Outcomes

/-!
# What an operation keeps

What is said of a state before an operation and still holds after it, whether it has a value or
fails. An operation that is put together of others keeps what these keep; what one of them gives may
be needed for the next one.
-/

namespace AdRules

variable {σ τ α β : Type}

/-- Started where `holds` holds, the operation ends where it holds, also if it fails, and has a
value of the kind that `gives` says. -/
def Act.Keeps (holds : σ → Prop) (gives : α → Prop) (action : Act σ α) : Prop :=
  ∀ state, holds state →
    match action state with
    | .ok value after => gives value ∧ holds after
    | .error _ after => holds after

/-- The operation keeps what holds, whether it succeeds or fails, and whatever its value. -/
def Act.Preserves (holds : σ → Prop) (action : Act σ α) : Prop := action.Keeps holds fun _ => True

namespace Act.Keeps

variable {holds : σ → Prop} {gives : α → Prop} {then_ : β → Prop}

/-- An operation that only gives a value keeps everything. -/
theorem pure {value : α} (given : gives value) : (Pure.pure value : Act σ α).Keeps holds gives :=
  fun _ held => ⟨given, held⟩

/-- A failure keeps everything and gives nothing. -/
theorem throw (failure : Failure) : (MonadExcept.throw failure : Act σ α).Keeps holds gives :=
  fun _ held => held

/-- The second operation is handed what the first one gives. -/
theorem bind {action : Act σ α} {next : α → Act σ β} (first : action.Keeps holds gives)
    (rest : ∀ value, gives value → (next value).Keeps holds then_) :
    (action >>= next).Keeps holds then_ := by
  intro state held
  have kept := first state held
  rw [bind_apply]
  cases ran : action state with
  | ok value between =>
    rw [ran] at kept
    exact rest value kept.1 between kept.2
  | error failure between =>
    rw [ran] at kept
    exact kept

/-- An operation that gives something gives whatever follows from that. -/
theorem weaken {other : α → Prop} {action : Act σ α} (kept : action.Keeps holds gives)
    (weaker : ∀ value, gives value → other value) : action.Keeps holds other := by
  intro state held
  have ended := kept state held
  cases ran : action state with
  | ok value after =>
    rw [ran] at ended
    exact ⟨weaker value ended.1, ended.2⟩
  | error failure after =>
    rw [ran] at ended
    exact ended

/-- An operation that keeps a property and gives something preserves the property. -/
theorem preserves {action : Act σ α} (kept : action.Keeps holds gives) : action.Preserves holds :=
  kept.weaken fun _ _ => trivial

/-- Converting a result keeps what was kept, and gives what the conversion makes of it. -/
theorem map {action : Act σ α} (convert : α → β) (kept : action.Keeps holds gives)
    (converted : ∀ value, gives value → then_ (convert value)) :
    (convert <$> action).Keeps holds then_ := by
  rw [map_eq_pure_bind]
  exact bind kept fun value given => pure (converted value given)

/-- A failure that is caught has kept what holds, too. -/
theorem outcome {action : Act σ α} (kept : action.Keeps holds gives) :
    action.outcome.Keeps holds fun ended => ∀ value, ended = .ok value → gives value := by
  intro state held
  have ended := kept state held
  rw [outcome_apply]
  cases ran : action state with
  | ok value after =>
    rw [ran] at ended
    exact ⟨by rintro _ ⟨⟩; exact ended.1, ended.2⟩
  | error failure after =>
    rw [ran] at ended
    exact ⟨by rintro _ ⟨⟩, ended⟩

/-- A result from elsewhere touches no state. -/
theorem of_except {result : Except Failure α} (given : ∀ value, result = .ok value → gives value) :
    (ofExcept result : Act σ α).Keeps holds gives := by
  cases result with
  | ok value => exact pure (given value rfl)
  | error failure => exact throw failure

/-- A check touches no state, and what it gives is what it found valid. -/
theorem of_checked {model : String} {checked : Checked α}
    (given : ∀ value, checked = .valid value → gives value) :
    (ofChecked model checked : Act σ α).Keeps holds gives := by
  cases checked with
  | valid value => exact pure (given value rfl)
  | invalid issues => exact throw _

/-- An operation on a part keeps what holds of the whole if that is said of the part alone. -/
theorem on_part {get : τ → σ} {set : τ → σ → τ} {action : Act σ α} (kept : action.Keeps holds gives)
    {whole : τ → Prop} (reads : ∀ state, whole state → holds (get state))
    (writes : ∀ state part, whole state → holds part → whole (set state part)) :
    (action.onPart get set).Keeps whole gives := by
  intro state held
  have ended := kept (get state) (reads state held)
  rw [on_part_apply]
  cases ran : action (get state) with
  | ok value after =>
    rw [ran] at ended
    exact ⟨ended.1, writes state after held ended.2⟩
  | error failure after =>
    rw [ran] at ended
    exact writes state after held ended

end Act.Keeps

namespace Act.Preserves

variable {holds : σ → Prop}

/-- An operation that only gives a value preserves everything. -/
theorem pure (value : α) : (Pure.pure value : Act σ α).Preserves holds := Keeps.pure trivial

/-- An operation that only fails preserves everything, which has to be said because preservation is
asked of failures too. -/
theorem throw (failure : Failure) : (MonadExcept.throw failure : Act σ α).Preserves holds :=
  Keeps.throw failure

/-- Operations one after the other preserve what each of them preserves, for whatever the first one
gives. -/
theorem bind {action : Act σ α} {next : α → Act σ β} (first : action.Preserves holds)
    (rest : ∀ value, (next value).Preserves holds) : (action >>= next).Preserves holds :=
  Keeps.bind first fun value _ => rest value

/-- Converting a result preserves what was preserved. -/
theorem map {action : Act σ α} (convert : α → β) (kept : action.Preserves holds) :
    (convert <$> action).Preserves holds :=
  Keeps.map convert kept fun _ _ => trivial

/-- Catching a failure preserves what was preserved, because a failure has preserved it as well. -/
theorem outcome {action : Act σ α} (kept : action.Preserves holds) :
    action.outcome.Preserves holds :=
  (Keeps.outcome kept).preserves

/-- A result from elsewhere preserves everything. -/
theorem of_except (result : Except Failure α) : (ofExcept result : Act σ α).Preserves holds :=
  Keeps.of_except fun _ _ => trivial

/-- A check preserves everything, passed or not. -/
theorem of_checked (model : String) (checked : Checked α) :
    (ofChecked model checked : Act σ α).Preserves holds :=
  Keeps.of_checked fun _ _ => trivial

/-- The operations on the items of a list keep what each of them keeps. -/
theorem map_m {items : List α} {action : α → Act σ β}
    (each : ∀ item, (action item).Preserves holds) : (items.mapM action).Preserves holds := by
  induction items with
  | nil =>
    rw [List.mapM_nil]
    exact .pure []
  | cons item rest inductionHypothesis =>
    rw [List.mapM_cons]
    refine .bind (each item) fun value => ?_
    exact .bind inductionHypothesis fun values => .pure _

/-- What is read of the state holds. -/
theorem get : (MonadState.get : Act σ σ).Preserves holds := fun _ held => ⟨trivial, held⟩

/-- A change of the state preserves what the change preserves. -/
theorem modify {change : σ → σ} (kept : ∀ state, holds state → holds (change state)) :
    (modify change : Act σ PUnit).Preserves holds :=
  fun state held => ⟨trivial, kept state held⟩

/-- Where the operation ends it still holds. -/
theorem state_after {action : Act σ α} (kept : action.Preserves holds) {state : σ}
    (held : holds state) : holds (action.stateAfter state) := by
  have ended := kept state held
  unfold Act.stateAfter
  cases ran : action state with
  | ok value after =>
    rw [ran] at ended
    exact ended.2
  | error failure after =>
    rw [ran] at ended
    exact ended

end Act.Preserves

end AdRules
