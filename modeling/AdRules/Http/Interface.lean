import AdRules.Http.Place
import AdRules.Http.Response
import AdRules.Http.Tool
import AdRules.Text.Encoding
import AdRules.Value.Dated

/-!
# The interface

Every request to a target has an answer. The path decides whether there is a place, the method
whether it is allowed there, then the query or the body is checked, and only then is anything done.
A failure that has no answer of its own breaks the answer, not the process.
-/

namespace AdRules

namespace Http

/-- A request. The body is empty when there is none. -/
structure Request where
  method : String
  target : String
  body : String

/-- A text without a mark of the byte order at its start. -/
def unmarked (text : String) : String :=
  match text.toList with
  | first :: rest => if first = Char.ofNat 0xFEFF then String.ofList rest else text
  | [] => text

/-- The text of a body, in the encoding that its first bytes speak for. -/
def bodyText? (body : String) : Option String :=
  let bytes := Text.toBytes body
  match Text.Encoding.guess bytes with
  | .single => some (unmarked body)
  | encoding => encoding.decode? bytes

/-- What a body holds, as far as it can be told before it is known what the request is for. -/
inductive Body where
  | absent
  | unreadable
  | notJson (refusal : Json.Refusal)
  | value (value : Value)

/-- Reads a body, nested at most so deeply; an empty one is absent. -/
def Body.ofText (depth : Nat) (body : String) : Body :=
  if body.isEmpty then .absent
  else
    match bodyText? body with
    | none => .unreadable
    | some text =>
      match Json.read depth text with
      | .ok content => .value content
      | .error refusal => .notJson refusal

/-- The most logs that a request may ask for. One that asks for more is refused. -/
def mostLogs : Int := 100

/-- How many logs are listed when a request does not say. -/
def defaultLogs : Int := 50

/-- How many logs are shown with a rule, at most. -/
def logsOfRule : Int := 10

/-- How many logs are shown with the latest snapshot, at most. -/
def logsOfLatest : Int := 5

/-- The number of logs that a query asks for, which is the usual one where it does not say. -/
def queryLimit (target : Target) : Checked Int :=
  match target.value? "limit" with
  | none => .valid defaultLogs
  | some text =>
    ((Check.intBetween 1 mostLogs (.text text)).under (.field "limit")).under (.field "query")

/-- A failure to find what was asked for. A manual run of the rules tells it from all others by the
    status of its answer. -/
def isLookup : Failure → Bool
  | .ruleNotFound _ | .noCampaign | .missingKey _ => true
  | _ => false

section Answers

variable {σ α : Type} (services : Services σ)

/-- The answer to something done in the store. A failure is passed on, and breaks the answer in the
    end. -/
def answering (action : Act σ α) (response : α → Response) : Act (Engine σ) Response :=
  response <$> Engine.onOutside action

/-- The answer to something done to a rule, which may not be found. -/
def answeringFound (action : Act σ α) (response : α → Response) : Act (Engine σ) Response := do
  match ← (Engine.onOutside action).outcome with
  | .ok value => pure (response value)
  | .error (.ruleNotFound id) => pure (.refusedWith 404 (Failure.ruleNotFound id).message)
  | .error failure => throw failure

/-- The answer to a request whose body has been checked. -/
def withChecked (checked : Checked α) (next : α → Act (Engine σ) Response) :
    Act (Engine σ) Response :=
  match checked.under (.field "body") with
  | .valid value => next value
  | .invalid issues => pure (.unsound issues)

/-- The answer to a request with a body. A missing body is checked as `absent` says. -/
def withBody (body : String) (absent : Checked α) (check : Setting → Value → Checked α)
    (next : α → Act (Engine σ) Response) : Act (Engine σ) Response := do
  let now ← Engine.onOutside services.clock
  match Body.ofText services.depth body with
  | .unreadable => pure .unreadable
  | .notJson refusal => pure (.notJson refusal)
  | .absent => withChecked absent next
  | .value value => withChecked (check ⟨now, true⟩ value) next

/-- The issue of a body that is required and missing. -/
def bodyMissing : Checked α := Checked.fault .missing .null

/-- A rule that has to be there. Where the store gave none, the answer breaks. -/
def ruleShown (status : Nat) : Option Rule → Response
  | some rule => .ofModel status rule.toValue
  | none => .broken

/-- The answer to a request for all rules, the newest first. -/
def listRules : Act (Engine σ) Response :=
  answering services.repository.rules fun rules =>
    .ofModel 200 (.list (rules.map fun rule => rule.toValue))

/-- The answer to a request for a new rule, which belongs to the configured owner. -/
def createRule (body : String) : Act (Engine σ) Response :=
  withBody services body bodyMissing RuleDraft.check fun draft =>
    answering (services.repository.createRule draft
      (.ofText? services.configuration.defaultOwner)) (ruleShown 201)

/-- The answer to a request for one rule, with its newest logs. -/
def showRule (id : String) : Act (Engine σ) Response :=
  answering (services.repository.rule (.text id) (.int logsOfRule)) fun
    | some found => .ofModel 200 found.toValue
    | none => .refusedWith 404 (Failure.ruleNotFound (.text id)).message

/-- The answer to a request to change a rule: the rule as it is then. -/
def changeRule (id body : String) : Act (Engine σ) Response :=
  withBody services body bodyMissing RuleChange.check fun change =>
    answeringFound (services.repository.updateRule (.text id) change) (ruleShown 200)

/-- The answer to a request to remove a rule. -/
def deleteRule (id : String) : Act (Engine σ) Response :=
  answeringFound (services.repository.deleteRule (.text id)) fun _ =>
    .ofValue 200 (.record [("success", .bool true), ("rule_id", .text id)])

/-- The answer to a request to switch a rule on or off: the rule as it is then. -/
def switchRule (id body : String) : Act (Engine σ) Response :=
  withBody services body bodyMissing Toggle.check fun toggle =>
    answeringFound (services.repository.setActive (.text id) (.bool toggle.isActive))
      (ruleShown 200)

/-- Some of the newest logs, of one rule or of all. -/
def listLogs (target : Target) : Act (Engine σ) Response :=
  match queryLimit target with
  | .valid limit =>
    answering (services.repository.logs (.ofText? (target.value? "rule_id")) (.int limit))
      fun logs => .ofModel 200 (.list (logs.map ActionLog.toValue))
  | .invalid issues => pure (.unsound issues)

/-- A manual run of the rules. A missing body and null ask for nothing in particular. -/
def executeRules (body : String) : Act (Engine σ) Response :=
  let check (setting : Setting) : Value → Checked RunRequest
    | .null => .valid ⟨none, none⟩
    | value => RunRequest.check setting value
  withBody services body (.valid ⟨none, none⟩) check fun request => do
    let run := Sync.runRules services request.metrics (.ofText? request.campaignId)
    match ← (Engine.onOutside run).outcome with
    | .ok result => pure (.ofModel 200 result.toValue)
    | .error failure =>
      pure (if isLookup failure then .refusedWith 404 failure.message
        else .refusedWith 500 ("Failed to execute rules: " ++ failure.message))

/-- The answer to a request for the latest snapshot, which is null where none is stored. -/
def showLatest : Act (Engine σ) Response :=
  answering services.repository.latestCampaign fun snapshot =>
    .ofModel 200 ((snapshot.map Snapshot.toValue).getD .null)

/-- The answer to a request for the latest snapshot with its newest logs, which is null where none
    is stored. -/
def showLatestWithLogs : Act (Engine σ) Response :=
  answering (services.repository.latestCampaignWithLogs (.int logsOfLatest)) fun snapshot =>
    .ofModel 200 ((snapshot.map SnapshotWithLogs.toValue).getD .null)

/-- The answer to a request for a synchronisation, with its summary. Whatever it failed with is
    answered as a fault of the gateway. -/
def synchronise : Act (Engine σ) Response := do
  match ← (Engine.synchronise services .null).outcome with
  | .ok result => pure (.ofModel 200 result.toValue)
  | .error failure => pure (.refusedWith 502 ("Failed to sync campaign data: " ++ failure.message))

/-- The status of the scheduler, with the moment of its next run, which is known to the timer alone.
    -/
def schedulerStatus (upcoming : Value) : Act (Engine σ) Value :=
  (fun engine => Scheduler.status services.configuration upcoming engine.scheduler) <$> get

/-- The answer to a change of the scheduler: what was done, and the status after it. -/
def schedulerChanged (upcoming : Value) (message : String) : Act (Engine σ) Response := do
  let status ← schedulerStatus services upcoming
  pure (.ofValue 200 (.record
    [("success", .bool true), ("message", .text message), ("status", status)]))

/-- The answer to a request to start the scheduler, which says if it was running already. -/
def startScheduler (upcoming : Value) : Act (Engine σ) Response := do
  let started ← Scheduler.start services
  schedulerChanged services upcoming
    (if started then "Scheduler started" else "Scheduler is already running")

/-- The answer to a request to stop the scheduler, which says if it was not running. -/
def stopScheduler (upcoming : Value) : Act (Engine σ) Response := do
  let stopped ← Scheduler.stop
  schedulerChanged services upcoming
    (if stopped then "Scheduler stopped" else "Scheduler is not running")

/-- A synchronisation by the scheduler, whose failure is part of the answer. -/
def runScheduler : Act (Engine σ) Response := do
  match ← (Scheduler.triggeredRun services).outcome with
  | .ok result =>
    pure (.ofValue 200 (.record
      [("success", .bool true), ("executed_actions", .int result.executedActions),
       ("campaign_id", .ofText? (result.campaign.map Snapshot.campaignId))]))
  | .error failure =>
    pure (.ofValue 200 (.record [("success", .bool false), ("error", .text failure.message)]))

/-- The record of a body that has to be one. -/
def checkRecord (_ : Setting) : Value → Checked Fields
  | .record fields => .valid fields
  | input => Checked.fault .recordType input

/-- A refusal of a tool call, in the form that tool calls have for it. -/
def toolRefused (status : Nat) (reason : String) : Response :=
  .refused status (.record [("error", .text reason)])

/-- The record of an answered call: what came of it, and how many milliseconds it took. -/
def callAnswered (tool : Tool) (result : Value) (took : Int) : Value :=
  .record [("tool", Vocabulary.toValue tool), ("result", result.dated Timestamp.isoText),
    ("metadata", .record [("execution_time_ms", .int took)])]

/-- A call of a known tool, which is timed once its arguments have been checked. -/
def runTool (tool : Tool) (arguments : Fields) : Act (Engine σ) Response := do
  match (tool.run services arguments).under (.field "arguments") with
  | .invalid issues => pure (.refused 422 (.list (issues.map Issue.toValue)))
  | .valid action =>
    let started ← get
    let result ← action
    let ended ← get
    pure (.ofValue 200
      (callAnswered tool result (services.elapsed started.outside ended.outside)))

/-- A call of a tool by name. Empty arguments of any shape are none; a name of a shape that cannot
    be looked up, and arguments that are no record, break the answer. -/
def callTool (body : String) : Act (Engine σ) Response :=
  withBody services body bodyMissing checkRecord fun payload =>
    let name := Fields.getD payload "tool"
    let arguments := Fields.getD payload "arguments"
    if name.isEmpty then pure (toolRefused 422 "Missing 'tool' in request")
    else
      match name with
      | .list _ | .record _ => pure .broken
      | name =>
        match (Vocabulary.ofValue? name : Option Tool) with
        | none => pure (toolRefused 404 ("Unknown tool: " ++ name.plain))
        | some tool =>
          match arguments with
          | .record fields => runTool services tool fields
          | arguments => if arguments.isEmpty then runTool services tool [] else pure .broken

/-- The answer to a request for the health of the process. It names the store without asking it for
    anything. -/
def showHealth : Act (Engine σ) Response := do
  let now ← Engine.onOutside services.clock
  let engine ← get
  pure (.ofValue 200 (.record
    [("status", .text "healthy"), ("timestamp", .text now.isoText),
     ("storage", .text services.configuration.storage),
     ("scheduler_running", .bool engine.scheduler.isRunning)]))

/-- The answer to what is asked of a place. When the scheduler runs next is given as `upcoming`. -/
def fulfil (upcoming : Value) (target : Target) (body : String) :
    Demand → Act (Engine σ) Response
  | .listRules => listRules services
  | .createRule => createRule services body
  | .showRule id => showRule services id
  | .changeRule id => changeRule services id body
  | .deleteRule id => deleteRule services id
  | .switchRule id => switchRule services id body
  | .listLogs => listLogs services target
  | .executeRules => executeRules services body
  | .listMetrics => pure (.ofModel 200 (.list (Metric.all.map Metric.entry)))
  | .listActions =>
    pure (.ofModel 200 (.list ((Vocabulary.members : List Action).map Action.entry)))
  | .showLatest => showLatest services
  | .showLatestWithLogs => showLatestWithLogs services
  | .synchronise => synchronise services
  | .showScheduler => Response.ofValue 200 <$> schedulerStatus services upcoming
  | .startScheduler => startScheduler services upcoming
  | .stopScheduler => stopScheduler services upcoming
  | .runScheduler => runScheduler services
  | .listTools => pure (.ofValue 200 (.record [("tools", .list (Tool.all.map Tool.entry))]))
  | .callTool => callTool services body
  | .showHealth => showHealth services

/-- The method of a request in capital letters, by which methods are told apart. -/
def methodOf (request : Request) : String :=
  String.ofList (request.method.toList.map Text.asciiUpper)

/-- The answer to a request, before the method `HEAD` takes its body away. -/
def answer (upcoming : Value) (request : Request) : Act (Engine σ) Response := do
  match Place.find Place.mostTrims (Target.ofText request.target) with
  | none => pure (.refusedWith 404 "Not Found")
  | some (place, target) =>
    match place.demand? (methodOf request) with
    | none => pure (.refusedWith 405 "Method Not Allowed")
    | some demand =>
      match ← (fulfil services upcoming target request.body demand).outcome with
      | .ok response => pure response
      | .error _ => pure .broken

/-- The answer to a request. A text that names no target makes no request. -/
def respond (upcoming : Value) (request : Request) : Act (Engine σ) Response := do
  if let some reason := Target.fault? request.target then throw (.badTarget reason)
  let response ← answer services upcoming request
  pure (if methodOf request = "HEAD" then response.withoutBody else response)

end Answers

end Http

end AdRules
