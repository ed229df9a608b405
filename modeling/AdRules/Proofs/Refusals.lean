import AdRules.Database.Repository
import AdRules.Proofs.Outcomes
import AdRules.Store.Memory
import AdRules.Sync

/-!
# Refusals of the cycle

That a stage may not follow another is a failure only a cycle knows. The stores never fail with it,
whatever is stored and however a database answers, and fetching a reading fails with it only if the
metrics source does.
-/

namespace AdRules

/-- The failure is that of a cycle asked to go to a stage that may not follow. -/
def Failure.isRefusal : Failure → Bool
  | .transition _ _ => true
  | _ => false

/-- The computation never fails with a refusal of the cycle. -/
def Unrefused {α : Type} (result : Except Failure α) : Prop :=
  ∀ failure, result = .error failure → failure.isRefusal = false

/-- The operation never fails with a refusal of the cycle. It may fail in any other way. -/
def Act.Unrefused {σ α : Type} (action : Act σ α) : Prop :=
  ∀ state failure after, action state = .error failure after → failure.isRefusal = false

/-- What a synchronisation asks of a store never fails with a refusal of the cycle. -/
structure Repository.Unrefused {σ : Type} (repository : Repository σ) : Prop where
  storing : ∀ snapshot, (repository.upsertCampaign snapshot).Unrefused
  loading : repository.activeRules.Unrefused

variable {σ τ α β : Type}

/-! ## Computations -/

namespace Unrefused

/-- A value is no refusal. -/
theorem ok (value : α) : Unrefused (.ok value) := by
  intro failure failed
  cases failed

/-- A failure of another kind is no refusal. -/
theorem error {failure : Failure} (other : failure.isRefusal = false) :
    Unrefused (.error failure : Except Failure α) := by
  rintro _ ⟨⟩
  exact other

/-- A computation in two parts is not refused if neither part is. -/
theorem bind {result : Except Failure α} {next : α → Except Failure β} (first : Unrefused result)
    (rest : ∀ value, Unrefused (next value)) : Unrefused (result >>= next) := by
  cases result with
  | ok value => exact rest value
  | error failure => exact error (first failure rfl)

/-- Converting entries is not refused if converting any one of them is not. -/
theorem mapM {convert : α → Except Failure β} (each : ∀ entry, Unrefused (convert entry))
    (entries : List α) : Unrefused (entries.mapM convert) := by
  induction entries with
  | nil => exact ok []
  | cons entry rest inductionHypothesis =>
    rw [List.mapM_cons]
    exact bind (each entry) fun value => bind inductionHypothesis fun values => ok _

end Unrefused

/-! ## Operations -/

namespace Act.Unrefused

/-- An operation that only gives a value is never refused. -/
theorem pure (value : α) : (Pure.pure value : Act σ α).Unrefused := by
  rintro state failure after ⟨⟩

/-- An operation that only fails, and in another way, is never refused. -/
theorem throw {failure : Failure} (other : failure.isRefusal = false) :
    (MonadExcept.throw failure : Act σ α).Unrefused := by
  rintro state _ after ⟨⟩
  exact other

/-- Only the values that the first operation has need to be continued. -/
theorem bind_result {action : Act σ α} {next : α → Act σ β} (first : action.Unrefused)
    (rest : ∀ state value between, action state = .ok value between → (next value).Unrefused) :
    (action >>= next).Unrefused := by
  intro state failure after failed
  rw [bind_apply] at failed
  cases ran : action state with
  | ok value between =>
    rw [ran] at failed
    exact rest state value between ran between failure after failed
  | error earlier between =>
    rw [ran] at failed
    cases failed
    exact first state failure after ran

/-- Operations one after the other are not refused where none of them is. -/
theorem bind {action : Act σ α} {next : α → Act σ β} (first : action.Unrefused)
    (rest : ∀ value, (next value).Unrefused) : (action >>= next).Unrefused :=
  bind_result first fun _ value _ _ => rest value

/-- Converting a result brings in no refusal. -/
theorem map {action : Act σ α} (convert : α → β) (unrefused : action.Unrefused) :
    (convert <$> action).Unrefused := by
  rw [map_eq_pure_bind]
  exact bind unrefused fun value => pure (convert value)

/-- A result from elsewhere is no refusal if it was none there. -/
theorem of_except {result : Except Failure α} (unrefused : AdRules.Unrefused result) :
    (ofExcept result : Act σ α).Unrefused := by
  cases result with
  | ok value => exact pure value
  | error failure => exact throw (unrefused failure rfl)

/-- An operation on a part fails as it does alone. -/
theorem on_part {get : τ → σ} {set : τ → σ → τ} {action : Act σ α} (unrefused : action.Unrefused) :
    (action.onPart get set).Unrefused := by
  intro state failure after failed
  rw [on_part_apply] at failed
  cases ran : action (get state) with
  | ok value part =>
    rw [ran] at failed
    cases failed
  | error earlier part =>
    rw [ran] at failed
    cases failed
    exact unrefused (get state) failure part ran

/-- What follows an operation whose failure is caught may depend on its outcome. A failure that is
passed on is not a refusal either. -/
theorem bind_outcome {action : Act σ α} {next : Except Failure α → Act σ β}
    (first : action.Unrefused) (succeeded : ∀ value, (next (.ok value)).Unrefused)
    (failed : ∀ failure, failure.isRefusal = false → (next (.error failure)).Unrefused) :
    (action.outcome >>= next).Unrefused := by
  intro state failure after ended
  rw [bind_apply, outcome_apply] at ended
  cases ran : action state with
  | ok value between =>
    rw [ran] at ended
    exact succeeded value between failure after ended
  | error earlier between =>
    rw [ran] at ended
    exact failed earlier (first state earlier between ran) between failure after ended

end Act.Unrefused

/-! ## Fetching -/

/-- The metrics source knows nothing of cycles: neither asking it nor what it answers is a refusal.
-/
structure SourceUnrefused (ask : InsightsRequest → Act σ SourceAnswer) : Prop where
  asking : ∀ request, (ask request).Unrefused
  answering : ∀ request state failure after,
    ask request state = .ok (.broken failure) after → failure.isRefusal = false

namespace MetricsSource

/-- An answer that cannot be used is a failure of the source or of its text. -/
theorem body_unrefused (depth : Nat) (answer : SourceAnswer)
    (sound : ∀ failure, answer = .broken failure → failure.isRefusal = false) :
    AdRules.Unrefused (body depth answer) := by
  cases answer with
  | unreachable reason => exact .error rfl
  | broken failure => exact .error (sound failure rfl)
  | reply status reason text =>
    simp only [body]
    split
    · exact .error rfl
    · split
      · exact .ok _
      · split
        · exact .error rfl
        · exact .error rfl

/-- Reading an answer of the source fails for reasons of the source. A failure of another kind that
the client hands over is left to the assumption about it. -/
theorem snapshot_unrefused (depth : Nat) (now : Timestamp) (campaignId name : Value)
    (answer : SourceAnswer)
    (sound : ∀ failure, answer = .broken failure → failure.isRefusal = false) :
    AdRules.Unrefused (snapshot depth now campaignId name answer) := by
  refine .bind (body_unrefused depth answer sound) fun value => ?_
  split
  · exact .ok _
  · exact .error rfl

/-- Fetching a reading is refused by a cycle only if the source is. -/
theorem fetch_unrefused (depth : Nat) (configuration : Configuration) {clock : Act σ Timestamp}
    {ask : InsightsRequest → Act σ SourceAnswer} (ticking : clock.Unrefused)
    (source : SourceUnrefused ask) (campaignId name : Value) :
    (fetch depth configuration clock ask campaignId name).Unrefused := by
  simp only [fetch]
  split
  · exact .throw rfl
  · next request _ =>
    refine .bind_result (source.asking request) fun state answer after answered => ?_
    have sound : ∀ failure, answer = .broken failure → failure.isRefusal = false := by
      rintro failure rfl
      exact source.answering request state failure after answered
    exact .bind ticking fun now => .of_except (snapshot_unrefused depth now _ _ answer sound)

end MetricsSource

/-! ## The store in memory -/

/-- The store in memory is never refused by a cycle: storing a reading does not fail, and loading
the active rules fails only where they cannot be put in order. -/
theorem Memory.repository_unrefused [IdSupply] : Memory.repository.Unrefused where
  storing := by
    rintro snapshot state failure after ⟨⟩
  loading := by
    intro memory failure after failed
    simp only [repository, query, Store.activeRules, Store.sortedRules] at failed
    split at failed
    · cases failed
    · next cause refused =>
      split at refused
      · cases refused
      · cases refused
        cases failed
        rfl

/-- A store that is part of a larger state fails as it does alone. -/
theorem Repository.Unrefused.on_part {repository : Repository σ} {get : τ → σ} {set : τ → σ → τ}
    (unrefused : repository.Unrefused) : (repository.onPart get set).Unrefused where
  storing := fun snapshot => (unrefused.storing snapshot).on_part
  loading := unrefused.loading.on_part

/-! ## The database -/

namespace Database

/-- A missing column is a failure of its own kind. -/
theorem column_unrefused (row : Fields) (name : String) : AdRules.Unrefused (column row name) := by
  unfold column
  split
  · exact .ok _
  · exact .error rfl

/-- The issues of a check are a failure of their own kind, never a refusal. -/
theorem sound_unrefused (model : String) (checked : Checked α) :
    AdRules.Unrefused (sound model checked) := by
  cases checked with
  | valid value => exact .ok value
  | invalid issues => exact .error rfl

/-- A value that cannot be a name is a failure of its own kind, never a refusal. -/
theorem nameable_unrefused (value : Value) : AdRules.Unrefused (nameable value) := by
  unfold nameable
  split
  · exact .error rfl
  · exact .error rfl
  · exact .ok ()

/-- A threshold that is out of range is a failure of its own kind, never a refusal. -/
theorem threshold_unrefused (value : Value) : AdRules.Unrefused (storedThreshold? value) := by
  fun_cases storedThreshold? value with
  | case4 => exact .error rfl
  | _ => exact .ok _

/-- A damaged row fails to be kept only because its identifier cannot be written. -/
theorem keep_unrefused (row : Fields) : AdRules.Unrefused (StoredCondition.keep row) := by
  unfold StoredCondition.keep
  split
  · exact .ok _
  · exact .error rfl

/-- A condition fails to be read by its threshold, by an identifier that cannot be written or by the
name of its group, none of which is a refusal. -/
theorem condition_unrefused (row : Fields) : AdRules.Unrefused (conditionOfRow row) := by
  have stored : AdRules.Unrefused (StoredCondition.ofRow row) := by
    unfold StoredCondition.ofRow
    split
    · split
      · next failure given =>
        obtain ⟨threshold, _, refused⟩ := Option.map_eq_some_iff.mp given
        exact .error (threshold_unrefused threshold failure refused)
      · split
        · exact .ok _
        · exact keep_unrefused row
      · exact keep_unrefused row
    · exact keep_unrefused row
  exact .bind stored fun condition => .bind (nameable_unrefused _) fun _ => .ok _

/-- Reading the row of a group fails for what is wrong with the row. -/
theorem group_unrefused (conditions : List (Value × Condition)) (row : Fields) :
    AdRules.Unrefused (groupOfRow conditions row) := by
  refine .bind (column_unrefused row "rule_id") fun ruleId => ?_
  refine .bind (nameable_unrefused ruleId) fun _ => ?_
  refine .bind (column_unrefused row "id") fun id => ?_
  refine .bind (column_unrefused row "operator") fun junction => ?_
  refine .bind (column_unrefused row "sort_order") fun order => ?_
  refine .bind (nameable_unrefused id) fun _ => ?_
  exact .bind (sound_unrefused "ConditionGroup" _) fun group => .ok _

/-- Reading the row of a rule fails for what is wrong with the row, never with a refusal. -/
theorem rule_unrefused (groups : List ConditionGroup) (row : Fields) :
    AdRules.Unrefused (ruleOfRow groups row) := by
  refine .bind (column_unrefused row "id") fun id => ?_
  refine .bind (column_unrefused row "name") fun name => ?_
  refine .bind (column_unrefused row "action") fun action => ?_
  refine .bind (column_unrefused row "is_active") fun isActive => ?_
  exact sound_unrefused "AutomationRule" _

/-- Rules that do not validate are passed over; what else can go wrong with one is not a refusal. -/
theorem rules_unrefused (groups : List (Value × ConditionGroup)) (rows : List Fields) :
    AdRules.Unrefused (rulesOfRows groups rows) := by
  induction rows with
  | nil => exact .ok []
  | cons row rest inductionHypothesis =>
    unfold rulesOfRows
    refine .bind (column_unrefused row "id") fun id => .bind (nameable_unrefused id) fun _ => ?_
    split
    · exact .bind inductionHypothesis fun rules => .ok _
    · split
      · exact inductionHypothesis
      · exact .error rfl
    · next failure _ refused => exact .error (rule_unrefused _ row failure refused)

/-- Whatever the database refuses, it is the failure of a database. -/
theorem ask_unrefused (event : Event) (answer : Server → List Event → Except String α) :
    (ask event answer).Unrefused := by
  intro link failure after failed
  simp only [ask] at failed
  split at failed
  · cases failed
  · cases failed
    rfl

/-- Taking an identifier never fails. -/
theorem issue_unrefused [IdSupply] : issueId.Unrefused := by
  rintro link failure after ⟨⟩

/-- Rows that a reply does not have are a failure of the database. -/
theorem fetch_unrefused (reply : Reply) : reply.fetchAll.Unrefused := by
  unfold Reply.fetchAll
  split
  · exact .pure _
  · exact .throw rfl

/-- Asking for rows fails as the database does. -/
theorem rows_unrefused (statement : Statement) : (rowsOf statement).Unrefused :=
  .bind (ask_unrefused _ _) fetch_unrefused

/-- Asking for one row fails as the database does, never with a refusal. -/
theorem first_row_unrefused (statement : Statement) : (firstRowOf statement).Unrefused :=
  .bind (ask_unrefused _ _) fun reply => .map List.head? (fetch_unrefused reply)

/-- Using a connection fails as opening it, its use or closing it does. -/
theorem connected_unrefused (address : String) {use : Act Link α} (unrefused : use.Unrefused) :
    (connected address use).Unrefused := by
  refine .bind (ask_unrefused _ _) fun _ => .bind_outcome unrefused ?_ ?_
  · intro value
    exact .bind (ask_unrefused _ _) fun _ => .pure value
  · intro failure other
    exact .bind (ask_unrefused _ _) fun _ => .throw other

/-- The groups of rules are read from rows of groups and rows of conditions. -/
theorem groups_unrefused (ruleIds : List Value) : (groupsOf ruleIds).Unrefused := by
  unfold groupsOf
  split
  · exact .pure []
  · refine .bind (rows_unrefused _) fun groups => ?_
    refine .bind (.of_except (.mapM (column_unrefused · "id") groups)) fun groupIds => ?_
    have assembled : ∀ rows : List Fields, (do
        let conditions ← Act.ofExcept (rows.mapM conditionOfRow)
        Act.ofExcept (groups.mapM (groupOfRow conditions)) :
          Act Link (List (Value × ConditionGroup))).Unrefused := fun rows =>
      .bind (.of_except (.mapM condition_unrefused rows)) fun conditions =>
        .of_except (.mapM (group_unrefused conditions) groups)
    split
    · exact .bind (.pure []) assembled
    · exact .bind (rows_unrefused _) assembled

/-- The database is never refused by a cycle, however it answers and whatever its rows hold. -/
theorem repository_unrefused [IdSupply] (address : String) :
    (repository address).Unrefused where
  storing := by
    intro snapshot
    refine connected_unrefused address (.bind ?_ fun id => ?_)
    · unfold idOr
      split
      · split
        · exact issue_unrefused
        · exact .pure _
      · exact issue_unrefused
    · refine .bind (first_row_unrefused _) fun row => .bind (ask_unrefused _ _) fun _ => ?_
      cases row with
      | none => exact .throw rfl
      | some row =>
        have current : setting.Unrefused := by
          rintro link failure after ⟨⟩
        exact .bind current fun setting => .of_except (sound_unrefused "CampaignSnapshot" _)
  loading := by
    refine .bind (connected_unrefused address ?_) fun (rows, groups) => ?_
    · refine .bind (rows_unrefused _) fun rows => ?_
      refine .bind (.of_except (.mapM (column_unrefused · "id") rows)) fun ids => ?_
      exact .bind (groups_unrefused ids) fun groups => .pure _
    · exact .of_except (rules_unrefused groups rows)

end Database

end AdRules
