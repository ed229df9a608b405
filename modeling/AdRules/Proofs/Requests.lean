import AdRules.Proofs.Callers

/-!
# What requests can do

A request acts through the services only, and what it hands them it has checked: drafts and changes
of rules, switches, and the metrics of a manual run. So what the services keep every request keeps,
whatever its method, target and body, and whatever its answer.
-/

namespace AdRules

open Act

variable {σ α : Type}

/-! ## What a request hands over -/

namespace Http

/-- The body, nested at most so deeply, asks for a manual run with these metrics. -/
def HandsOver (depth : Nat) (body : String) (metrics : Metrics) : Prop :=
  ∃ value setting request, Body.ofText depth body = .value value ∧
    RunRequest.check setting value = .valid request ∧ request.metrics = some metrics

/-- What the request asks of the place that its target names. -/
def demanded? (request : Request) : Option Demand := do
  let (place, _) ← Place.find Place.mostTrims (Target.ofText request.target)
  place.demand? (methodOf request)

/-- The request asks for a manual run with these metrics. -/
def Request.HandsOver (depth : Nat) (request : Request) (metrics : Metrics) : Prop :=
  demanded? request = some .executeRules ∧ Http.HandsOver depth request.body metrics

/-- A body that asks for a manual run has had its metrics checked. -/
theorem HandsOver.sound {depth : Nat} {body : String} {metrics : Metrics}
    (handed : HandsOver depth body metrics) : metrics.Sound := by
  obtain ⟨value, setting, request, _, checked, given⟩ := handed
  obtain ⟨fields, valid⟩ := Checked.model_valid checked
  obtain ⟨_, campaignId, upToMetrics, _, rfl⟩ := Checked.seq_valid.mp valid
  obtain ⟨figures, passed, rfl⟩ := Checked.map_valid.mp upToMetrics
  cases given
  obtain ⟨input, figuresChecked⟩ := Checked.optional_nullable_valid passed
  obtain ⟨_, figuresValid⟩ := Checked.model_valid figuresChecked
  exact Metrics.checked_sound figuresValid

end Http

/-- Switching a rule is a change that could have been handed over. -/
theorem Memory.switch_checked (id : Value) (flag : Bool) :
    (Call.updateRule id ⟨none, none, none, none, some flag, none⟩).Checked :=
  ⟨⟨⟨0, none⟩, true⟩, .record [("is_active", .bool flag)], by cases flag <;> rfl⟩

/-! ## Answers -/

namespace Http

variable {services : Services σ} {holds : σ → Prop} {fine : Metrics → Prop}

/-- An answer to something done in the store. -/
theorem answering_preserves {action : Act σ α} (kept : action.Preserves holds)
    (response : α → Response) : (answering action response).Preserves (Engine.Holds holds) :=
  .map response (Engine.outside_keeps kept)

/-- Turning a missing rule into an answer preserves what the operation preserves. -/
theorem answering_found_preserves {action : Act σ α} (kept : action.Preserves holds)
    (response : α → Response) :
    (answeringFound action response).Preserves (Engine.Holds holds) := by
  refine .bind (Preserves.outcome (Engine.outside_keeps kept)) fun outcome => ?_
  split
  · exact .pure _
  · exact .pure _
  · exact .throw _

/-- An answer to a body is given once the body has passed the check for it. -/
theorem with_body_preserves (safe : services.Safe holds fine) {body : String} {absent : Checked α}
    {check : Setting → Value → Checked α} {next : α → Act (Engine σ) Response} (passes : α → Prop)
    (without : ∀ value, absent = .valid value → passes value)
    (given : ∀ content setting value, Body.ofText services.depth body = .value content →
      check setting content = .valid value → passes value)
    (rest : ∀ value, passes value → (next value).Preserves (Engine.Holds holds)) :
    (withBody services body absent check next).Preserves (Engine.Holds holds) := by
  have answered : ∀ checked : Checked α, (∀ value, checked = .valid value → passes value) →
      (withChecked checked next).Preserves (Engine.Holds holds) := by
    intro checked passed
    unfold withChecked
    split
    · next value valid => exact rest value (passed value (Checked.under_valid.mp valid))
    · exact .pure _
  refine .bind (Engine.outside_keeps safe.clock.preserves) fun now => ?_
  split
  · exact .pure _
  · exact .pure _
  · exact answered absent without
  · next content read => exact answered _ fun value valid => given content _ value read valid

/-- Where a body is required, only what was checked is passed on. -/
theorem with_required_body_preserves (safe : services.Safe holds fine) {body : String}
    {check : Setting → Value → Checked α} {next : α → Act (Engine σ) Response}
    (rest : ∀ value, (∃ setting content, check setting content = .valid value) →
      (next value).Preserves (Engine.Holds holds)) :
    (withBody services body bodyMissing check next).Preserves (Engine.Holds holds) := by
  refine with_body_preserves safe (fun value => ∃ setting content, check setting content =
    .valid value) ?_ ?_ rest
  · intro value missing
    cases missing
  · intro content setting value _ checked
    exact ⟨setting, content, checked⟩

end Http

namespace Services.Safe

variable {services : Services σ} {holds : σ → Prop} {fine : Metrics → Prop}
  (safe : services.Safe holds fine)

include safe

/-- A request that creates a rule preserves it: the draft was checked before it is stored. -/
theorem create_rule (body : String) :
    (Http.createRule services body).Preserves (Engine.Holds holds) :=
  Http.with_required_body_preserves safe fun draft checked =>
    Http.answering_preserves (safe.create draft _ checked) _

/-- A request that changes a rule preserves what holds outside: the change was checked before it is
made. -/
theorem change_rule (id body : String) :
    (Http.changeRule services id body).Preserves (Engine.Holds holds) :=
  Http.with_required_body_preserves safe fun change checked =>
    Http.answering_found_preserves (safe.update _ change checked) _

/-- A request that switches a rule preserves what holds outside, whatever the body holds. -/
theorem switch_rule (id body : String) :
    (Http.switchRule services id body).Preserves (Engine.Holds holds) := by
  refine Http.with_required_body_preserves safe fun toggle _ => ?_
  have switched : (services.repository.setActive (.text id) (.bool toggle.isActive)).Preserves
      holds := safe.update _ _ (Memory.switch_checked (.text id) toggle.isActive)
  exact Http.answering_found_preserves switched _

/-- Listing logs only asks, whatever limit the target names. -/
theorem list_logs (target : Http.Target) :
    (Http.listLogs services target).Preserves (Engine.Holds holds) := by
  unfold Http.listLogs
  split
  · exact Http.answering_preserves (safe.logs _ _) _
  · exact .pure _

/-- A manual run is made with the metrics that were handed over, if there are any. -/
theorem execute_rules {body : String}
    (handed : ∀ metrics, Http.HandsOver services.depth body metrics → fine metrics) :
    (Http.executeRules services body).Preserves (Engine.Holds holds) := by
  unfold Http.executeRules
  refine Http.with_body_preserves safe
    (fun request => ∀ metrics, request.metrics = some metrics → fine metrics) ?_ ?_ ?_
  · rintro request ⟨⟩
    simp
  · intro content setting request read checked metrics given
    split at checked
    · cases checked
      cases given
    · exact handed metrics ⟨_, setting, request, read, checked, given⟩
  · intro request isFine
    refine .bind (Preserves.outcome (Engine.outside_keeps (safe.run_rules isFine _)))
      fun ended => ?_
    split
    · exact .pure _
    · exact .pure _

/-- A request to synchronise runs a synchronisation through the scheduler. -/
theorem synchronise_request : (Http.synchronise services).Preserves (Engine.Holds holds) := by
  refine .bind (safe.engine_synchronise .null).outcome fun ended => ?_
  split
  · exact .pure _
  · exact .pure _

/-- A request to run the scheduler does so as well. -/
theorem run_scheduler : (Http.runScheduler services).Preserves (Engine.Holds holds) := by
  refine .bind safe.triggered_run.outcome fun ended => ?_
  split
  · exact .pure _
  · exact .pure _

/-- A tool does what the assistant does. -/
theorem tool {tool : Http.Tool} {arguments : Fields} {action : Act (Engine σ) Value}
    (valid : tool.run services arguments = .valid action) :
    action.Preserves (Engine.Holds holds) := by
  cases tool with
  | actionLogs =>
    obtain ⟨given, _, rfl⟩ := Checked.map_valid.mp valid
    exact safe.action_logs _
  | automationRules =>
    obtain ⟨_, _, rfl⟩ := Checked.map_valid.mp valid
    exact safe.automation_rules
  | campaignData =>
    obtain ⟨_, _, rfl⟩ := Checked.map_valid.mp valid
    exact safe.campaign_data
  | syncCampaign =>
    obtain ⟨_, _, rfl⟩ := Checked.map_valid.mp valid
    exact safe.sync_campaign

/-- A tool preserves it as its operation does. The timer that is read around it is a reading of the
state. -/
theorem run_tool (tool : Http.Tool) (arguments : Fields) :
    (Http.runTool services tool arguments).Preserves (Engine.Holds holds) := by
  unfold Http.runTool
  split
  · exact .pure _
  · next action valid =>
    refine .bind .get fun started => .bind (safe.tool (Checked.under_valid.mp valid)) ?_
    exact fun result => .bind .get fun ended => .pure _

/-- A call of a tool is one of these, or is refused before any tool is run. -/
theorem call_tool (body : String) :
    (Http.callTool services body).Preserves (Engine.Holds holds) := by
  refine Http.with_required_body_preserves safe fun payload _ => ?_
  dsimp only
  split
  · exact .pure _
  split
  · exact .pure _
  · exact .pure _
  split
  · exact .pure _
  split
  · exact safe.run_tool _ _
  split
  · exact safe.run_tool _ []
  · exact .pure _

/-! ### Requests -/

/-- Whatever is asked of a place, the services are handed nothing that was not checked. -/
theorem fulfil {upcoming : Value} {target : Http.Target} {body : String} (demand : Http.Demand)
    (handed : demand = .executeRules →
      ∀ metrics, Http.HandsOver services.depth body metrics → fine metrics) :
    (Http.fulfil services upcoming target body demand).Preserves (Engine.Holds holds) := by
  have status : (Http.schedulerStatus services upcoming).Preserves (Engine.Holds holds) :=
    .map _ .get
  have changed : ∀ message : String,
      (Http.schedulerChanged services upcoming message).Preserves (Engine.Holds holds) :=
    fun message => .bind status fun shown => .pure _
  cases demand with
  | listRules => exact Http.answering_preserves safe.rules _
  | createRule => exact safe.create_rule body
  | showRule id => exact Http.answering_preserves (safe.rule _ _) _
  | changeRule id => exact safe.change_rule id body
  | deleteRule id => exact Http.answering_found_preserves (safe.delete _) _
  | switchRule id => exact safe.switch_rule id body
  | listLogs => exact safe.list_logs target
  | executeRules => exact safe.execute_rules (handed rfl)
  | showLatest => exact Http.answering_preserves safe.latest.preserves _
  | showLatestWithLogs => exact Http.answering_preserves (safe.latestWithLogs _) _
  | synchronise => exact safe.synchronise_request
  | showScheduler => exact .map _ status
  | startScheduler => exact .bind safe.start fun started => changed _
  | stopScheduler => exact .bind Engine.stop_preserves fun stopped => changed _
  | runScheduler => exact safe.run_scheduler
  | callTool => exact safe.call_tool body
  | showHealth =>
    refine .bind (Engine.outside_keeps safe.clock.preserves) fun now => ?_
    exact .bind .get fun engine => .pure _
  | listMetrics | listActions | listTools => exact .pure _

/-- A request keeps what the services keep, if the metrics that it hands over are fine. -/
theorem respond {upcoming : Value} {request : Http.Request}
    (handed : ∀ metrics, request.HandsOver services.depth metrics → fine metrics) :
    (Http.respond services upcoming request).Preserves (Engine.Holds holds) := by
  have answered : (Http.answer services upcoming request).Preserves (Engine.Holds holds) := by
    unfold Http.answer
    split
    · exact .pure _
    · next place target found =>
      split
      · exact .pure _
      · next demand allowed =>
        have asked : Http.demanded? request = some demand := by
          simp [Http.demanded?, found, allowed]
        refine .bind (safe.fulfil demand ?_).outcome fun ended => ?_
        · rintro rfl metrics body
          exact handed metrics ⟨asked, body⟩
        · split
          · exact .pure _
          · exact .pure _
  unfold Http.respond
  -- How the answer comes about is no longer looked into.
  generalize Http.answer services upcoming request = answer at answered ⊢
  cases Http.Target.fault? request.target with
  | some reason => exact .bind (.throw _) fun _ => .bind answered fun response => .pure _
  | none => exact .bind answered fun response => .pure _

end Services.Safe

end AdRules
