import AdRules.Http.Target

/-!
# Places of the interface

Every path of the interface names a place, and a method asks something of it. A path that names no
place only for the slashes at its end is taken without them.
-/

namespace AdRules.Http

/-- What a path names: one of the places of the interface, some of them with the identifier of a
    rule. -/
inductive Place where
  | rules
  | rule (id : String)
  | ruleSwitch (id : String)
  | logs
  | execution
  | metrics
  | actions
  | latest
  | latestWithLogs
  | synchronisation
  | schedulerStatus
  | schedulerStart
  | schedulerStop
  | schedulerRun
  | tools
  | toolCall
  | health

/-- What is asked of a place, by the method of the request. -/
inductive Demand where
  | listRules
  | createRule
  | showRule (id : String)
  | changeRule (id : String)
  | deleteRule (id : String)
  | switchRule (id : String)
  | listLogs
  | executeRules
  | listMetrics
  | listActions
  | showLatest
  | showLatestWithLogs
  | synchronise
  | showScheduler
  | startScheduler
  | stopScheduler
  | runScheduler
  | listTools
  | callTool
  | showHealth

namespace Place

/-- The place of an identifier. An empty one names no place. -/
def named (place : String → Place) (id : String) : Option Place :=
  if id.isEmpty then none else some (place id)

/-- The place under the part of a path behind the version. -/
def ofSteps : List String → Option Place
  | ["automation", "rules"] => some .rules
  | ["automation", "rules", id] => named .rule id
  | ["automation", "rules", id, "toggle"] => named .ruleSwitch id
  | ["automation", "action-logs"] => some .logs
  | ["automation", "execute"] => some .execution
  | ["automation", "metrics"] => some .metrics
  | ["automation", "actions"] => some .actions
  | ["campaigns", "latest"] => some .latest
  | ["campaigns", "latest", "actions"] => some .latestWithLogs
  | ["campaigns", "sync"] => some .synchronisation
  | ["scheduler", "status"] => some .schedulerStatus
  | ["scheduler", "start"] => some .schedulerStart
  | ["scheduler", "stop"] => some .schedulerStop
  | ["scheduler", "trigger"] => some .schedulerRun
  | ["assistant", "tools"] => some .tools
  | ["assistant", "call-tool"] => some .toolCall
  | ["health"] => some .health
  | _ => none

/-- The place that a path names as it stands, slashes at its end included. -/
def ofExactPath (path : String) : Option Place :=
  match Text.split '/' path with
  | "" :: "api" :: "v1" :: steps => ofSteps steps
  | _ => none

/-- The place that a path names. A line break at its end is passed over, unless it belongs to an
    identifier. -/
def ofPath (path : String) : Option Place :=
  match ofExactPath path with
  | some place => some place
  | none =>
    if path.endsWith "\n" then ofExactPath (String.ofList path.toList.dropLast) else none

/-- How often slashes are taken off a target before it is given up. -/
def mostTrims : Nat := 20

/-- The place of a target and the target that named it, after at most so many trims. A path is asked
    for without the slashes at its end when it names a place without them. -/
def find : Nat → Target → Option (Place × Target)
  | trims, target =>
    match ofPath target.path, trims with
    | some place, _ => some (place, target)
    | none, 0 => none
    | none, trims + 1 =>
      match target.trimmed? with
      | some trimmed => if (ofPath trimmed).isSome then find trims (target.again trimmed) else none
      | none => none

/-- What a method asks of a place, if it is allowed there. -/
def demand? : Place → (method : String) → Option Demand
  | .rules, "GET" => some .listRules
  | .rules, "POST" => some .createRule
  | .rule id, "GET" => some (.showRule id)
  | .rule id, "PATCH" => some (.changeRule id)
  | .rule id, "DELETE" => some (.deleteRule id)
  | .ruleSwitch id, "POST" => some (.switchRule id)
  | .logs, "GET" => some .listLogs
  | .execution, "POST" => some .executeRules
  | .metrics, "GET" => some .listMetrics
  | .actions, "GET" => some .listActions
  | .latest, "GET" => some .showLatest
  | .latestWithLogs, "GET" => some .showLatestWithLogs
  | .synchronisation, "POST" => some .synchronise
  | .schedulerStatus, "GET" => some .showScheduler
  | .schedulerStart, "POST" => some .startScheduler
  | .schedulerStop, "POST" => some .stopScheduler
  | .schedulerRun, "POST" => some .runScheduler
  | .tools, "GET" => some .listTools
  | .toolCall, "POST" => some .callTool
  | .health, "GET" => some .showHealth
  | _, _ => none

end Place

end AdRules.Http
