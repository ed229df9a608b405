import AdRules.Command.Arguments
import AdRules.Command.Host
import AdRules.Double.Text

/-!
# The console

Four commands for people: preparing the database, one synchronisation, the list of rules and the
list of logs. A command that fails prints nothing and exits with one; a command line that cannot be
read exits with two.
-/

namespace AdRules.Command

/-- A command of the console, with the values that its options were given. -/
inductive Console where
  | prepare
  | sync (campaignId : Option String)
  | rules
  | logs (ruleId : Option String) (limit : Value)

/-- What a command line asks for: a command, help, or nothing that can be carried out. -/
inductive Invocation where
  | help (text : String)
  | nothing
  | misused
  | run (command : Console)

/-- How a process ended and what it printed. What goes to the channel of errors is left out. -/
structure Outcome where
  exit : Nat
  output : String
  deriving DecidableEq

/-- Lines as text, each with its end, the last one too. -/
def textOf (lines : List String) : String := String.join (lines.map (· ++ "\n"))

namespace Console

/-- How many logs are listed when the command line does not say. -/
def defaultLimit : Int := 50

/-- The limit that the values of options ask for. A limit without a value is an empty list. -/
def limitOf (values : Given) : Value :=
  match valueOf? values "limit" with
  | none => .int defaultLimit
  | some none => .list []
  | some (some text) => .ofInt? (Text.toInteger text).value?

/-- The help of the console, which names the commands. -/
def help : String := textOf
  ["usage: automation-cli [-h] \x7binit-db,sync,rules,logs\x7d ...",
   "",
   "Campaign Automation CLI",
   "",
   "positional arguments:",
   "  \x7binit-db,sync,rules,logs\x7d",
   "                        Command to run",
   "    init-db             Create automation schema",
   "    sync                Fetch metrics and evaluate rules once",
   "    rules               List automation rules",
   "    logs                Show recent action logs",
   "",
   "options:",
   "  -h, --help            show this help message and exit"]

/-- The help of the command that prepares the database. -/
def prepareHelp : String := textOf
  ["usage: automation-cli init-db [-h]",
   "",
   "options:",
   "  -h, --help  show this help message and exit"]

/-- The help of the command that runs one synchronisation. -/
def syncHelp : String := textOf
  ["usage: automation-cli sync [-h] [--campaign-id CAMPAIGN_ID]",
   "",
   "options:",
   "  -h, --help            show this help message and exit",
   "  --campaign-id CAMPAIGN_ID",
   "                        Campaign identifier (default: META_CAMPAIGN_ID)"]

/-- The help of the command that lists the rules. -/
def rulesHelp : String := textOf
  ["usage: automation-cli rules [-h]",
   "",
   "options:",
   "  -h, --help  show this help message and exit"]

/-- The help of the command that lists the logs. -/
def logsHelp : String := textOf
  ["usage: automation-cli logs [-h] [--rule-id RULE_ID] [--limit LIMIT]",
   "",
   "options:",
   "  -h, --help         show this help message and exit",
   "  --rule-id RULE_ID  Filter by rule",
   "  --limit LIMIT      Maximum logs to show"]

/-- A command with its help, given the words behind its name. -/
def invocation (strayed : Bool) (help : String) (options : List Known) (words : List String)
    (command : Given → Console) : Invocation :=
  match parse options words with
  | .help => .help help
  | .misused => .misused
  | .given values => if strayed then .misused else .run (command values)

/-- The command of a name with the words behind it. -/
def named (strayed : Bool) (words : List String) : String → Invocation
  | "init-db" => invocation strayed prepareHelp [] words fun _ => .prepare
  | "sync" =>
    invocation strayed syncHelp [⟨"campaign-id", .text⟩] words fun values =>
      .sync (valueOf? values "campaign-id").join
  | "rules" => invocation strayed rulesHelp [] words fun _ => .rules
  | "logs" =>
    invocation strayed logsHelp [⟨"rule-id", .text⟩, ⟨"limit", .integer⟩] words fun values =>
      .logs (valueOf? values "rule-id").join (limitOf values)
  | _ => .misused

/-- What a command line asks for, given whether there were words that nobody asked for. -/
def ofWordsFrom (strayed : Bool) : List String → Invocation
  | [] => if strayed then .misused else .nothing
  | word :: rest =>
    match Word.ofText [] word with
    | .plain => named strayed rest word
    | .help => .help help
    | .unknown => ofWordsFrom true rest
    | .separator | .named _ _ | .ambiguous | .unusable => .misused

/-- What a command line asks for. Its first plain word has to be the name of a command. -/
def ofWords (words : List String) : Invocation := ofWordsFrom false words

/-- A line across the page, by which headings and ends are set off. -/
def ruler : String := String.ofList (List.replicate 60 '=')

/-- A page under a heading, with an empty line before it. -/
def page (heading : String) (lines : List String) : List String :=
  ["", ruler, heading, ruler] ++ lines ++ [ruler]

/-- A name, or what stands for it when it is missing or empty. -/
def nameOr (name : Option String) (substitute : String) : String :=
  (name.filter (!·.isEmpty)).getD substitute

/-- The page of a synchronisation that succeeded: the campaign and what was executed. -/
def syncPage (result : SyncResult) : List String :=
  let campaign := match result.campaign with
    | some snapshot =>
      ["Campaign: " ++ snapshot.name ++ " (" ++ snapshot.campaignId ++ ")",
       "Spend: " ++ snapshot.metrics.spend.fixed 2,
       "Clicks: " ++ toString snapshot.metrics.clicks,
       "CTR: " ++ snapshot.metrics.ctr.text]
    | none => []
  page "CAMPAIGN SYNC RESULTS"
    (campaign ++ ["Actions executed: " ++ toString result.executedActions] ++
      result.logs.map fun log =>
        "  " ++ nameOr log.ruleName log.ruleId ++ ": " ++ Vocabulary.word log.action ++ " (" ++
          log.actionValue ++ ")")

/-- A condition on the page of rules, in words that were stored. -/
def conditionText (condition : Condition) : String :=
  condition.metric.toValue.plain ++ " " ++ condition.comparison.toValue.plain ++ " " ++
    condition.threshold.plain

/-- A group on the page of rules, its conditions joined by its junction. -/
def groupLine (group : ConditionGroup) : String :=
  "  (" ++ (" " ++ group.junction.toValue.plain ++ " ").intercalate
    (group.conditions.map conditionText) ++ ")"

/-- The lines of a rule on the page of rules, with how often it was triggered. -/
def ruleLines (rule : Rule) : List String :=
  [rule.name ++ " [" ++ (if rule.isActive then "active" else "inactive") ++ "] -> " ++
      Vocabulary.word rule.action,
   "  id: " ++ rule.id,
   "  triggered: " ++ toString rule.triggerCount ++ " times, last: " ++
      (rule.lastTriggered.map Timestamp.plainText).getD "never"] ++
    rule.groups.map groupLine

/-- The page of rules in the order of the store. Without rules a line says that there are none. -/
def rulesPage (rules : List Rule) : List String :=
  page "AUTOMATION RULES"
    (if rules.isEmpty then ["No rules defined"] else rules.flatMap ruleLines)

/-- The line of a log. Its year has no more digits than it needs. -/
def logLine (log : ActionLog) : String :=
  let civil := log.triggeredAt.civil
  Timestamp.dateOf 1 civil ++ " " ++ Timestamp.clockText civil ++ "  " ++
    nameOr log.ruleName log.ruleId ++ "  " ++ Vocabulary.word log.action ++ "=" ++
    log.actionValue ++ "  [" ++ Vocabulary.word log.status ++ "]"

/-- The page of logs in the order of the store, with a line that says how many they are. -/
def logsPage (logs : List ActionLog) : List String :=
  page "ACTION LOGS" (logs.map logLine ++ ["", toString logs.length ++ " log(s)"])

variable {σ : Type}

/-- What a command prints when it succeeds. A failure is passed on and printed nowhere here. -/
def lines (host : Host σ) (configuration : Configuration) : Console → Act σ (List String)
  | .prepare => do
    let _ ← host.readyDatabase configuration
    pure ["Automation schema initialized"]
  | .sync campaignId => do
    let services ← host.services configuration
    syncPage <$> synchroniseOnce services (.ofText? campaignId)
  | .rules => do rulesPage <$> (← host.repository configuration).rules
  | .logs ruleId limit => do
    logsPage <$> (← host.repository configuration).logs (.ofText? ruleId) limit

/-- Carries out a command in an environment, from which the configuration is read first. -/
def carryOut (host : Host σ) (environment : Environment) (command : Console) :
    Act σ (List String) := do
  lines host (← Act.ofExcept (Configuration.read environment [])) command

/-- The console, started with some words. The failure of a command is returned beside its outcome.
-/
def run (host : Host σ) (environment : Environment) (words : List String) :
    Act σ (Outcome × Option Failure) := do
  match ofWords words with
  | .help text => pure (⟨0, text⟩, none)
  | .nothing => pure (⟨1, help⟩, none)
  | .misused => pure (⟨2, ""⟩, none)
  | .run command =>
    match ← (carryOut host environment command).outcome with
    | .ok lines => pure (⟨0, textOf lines⟩, none)
    | .error failure => pure (⟨1, ""⟩, some failure)

end Console

end AdRules.Command
