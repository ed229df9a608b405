import AdRules.Assistant
import AdRules.Http.Body

/-!
# Tools of the assistant

The tools by name, what is said of them, and the arguments that they take.
-/

namespace AdRules.Http

/-- A tool of the assistant. Callers name it by its word. -/
inductive Tool where
  | actionLogs
  | automationRules
  | campaignData
  | syncCampaign
  deriving DecidableEq

/-- The names by which the tools are called. -/
instance : Vocabulary Tool where
  members := [.actionLogs, .automationRules, .campaignData, .syncCampaign]
  word
    | .actionLogs => "get_action_logs"
    | .automationRules => "get_automation_rules"
    | .campaignData => "get_campaign_data"
    | .syncCampaign => "sync_campaign_data"

namespace Tool

variable {σ : Type}

/-- All tools in the order of their names, as they are listed. -/
def all : List Tool := Vocabulary.members

/-- What a tool is for, in words for the assistant that may call it. -/
def description : Tool → String
  | .actionLogs => "Get recent action logs showing when automation rules were triggered"
  | .automationRules => "Get all automation rules with their conditions and actions"
  | .campaignData =>
    "Get the latest campaign performance data including spend, clicks, reach, impressions, " ++
      "and other metrics"
  | .syncCampaign => "Manually trigger a campaign data sync from the Meta Ads API"

/-- The schema of the arguments of a tool, as it is shown to callers. The check of the arguments
    does not look at it. -/
def parameters : Tool → Value
  | .actionLogs =>
    .record [("limit", .record
      [("default", .int defaultToolLimit), ("description", .text "Number of recent logs to fetch"),
       ("maximum", .int 100), ("minimum", .int 1), ("title", .text "Limit"),
       ("type", .text "integer")])]
  | _ => .record []

/-- The entry of a tool in the list of tools. -/
def entry (tool : Tool) : Value :=
  .record [("name", Vocabulary.toValue tool), ("description", .text tool.description),
    ("parameters", tool.parameters)]

/-- What a tool does, once its arguments are known to be sound. -/
def run (services : Services σ) (arguments : Fields) : Tool → Checked (Act (Engine σ) Value)
  | .actionLogs =>
    (LogArguments.ofFields arguments).map fun arguments =>
      Assistant.actionLogs services (.int arguments.limit)
  | .automationRules =>
    (NoArguments.ofFields arguments).map fun _ => Assistant.automationRules services
  | .campaignData =>
    (NoArguments.ofFields arguments).map fun _ => Assistant.campaignData services
  | .syncCampaign =>
    (NoArguments.ofFields arguments).map fun _ => Assistant.syncCampaign services

end Tool

end AdRules.Http
