import AdRules.Command.Console
import AdRules.Database.Repository
import AdRules.Store.Memory

/-!
# The program

The console as a program. It is given neither a database nor a metrics source to talk to, so both
count as out of reach, and its store in memory is empty whenever it starts.
-/

namespace AdRules

/-- What the program works on: the store in memory and the database, which do not know of each
    other. -/
structure Workplace where
  memory : Memory
  link : Database.Link

namespace Workplace

/-- A database that cannot be reached. The program brings no other one with it. -/
def absent : Database.Server where
  connect _ := .error "no database can be reached"
  execute _ _ := .error "no database can be reached"
  commit _ := .error "no database can be reached"

/-- The start of 2024, at which the clock of the program stands. -/
def now : Timestamp := ⟨1704067200000000, none⟩

/-- The workplace of a program that has just started. -/
def start : Workplace := ⟨⟨now, 0, .empty⟩, ⟨absent, [], now, 0⟩⟩

/-- An operation on the database. -/
def onLink {α : Type} (action : Act Database.Link α) : Act Workplace α :=
  action.onPart (·.link) fun workplace link => { workplace with link := link }

/-- The host of the program. Its metrics source cannot be reached, its clock stands still, and its
    timer counts nothing. -/
def host : Command.Host Workplace where
  memory := Memory.repository.onPart (·.memory) fun workplace memory =>
    { workplace with memory := memory }
  database address := (Database.repository address).onPart (·.link) fun workplace link =>
    { workplace with link := link }
  reach address := onLink (Database.probe address)
  clock := pure now
  ask _ := pure (.unreachable "no metrics source can be reached")
  depth := Json.usualDepth
  elapsed _ _ := 0

end Workplace

/-- The variables that a configuration is read from. -/
def settingNames : List String :=
  ["AUTOMATION_DSN", "AUTOMATION_STORAGE", "META_API_TOKEN", "META_API_BASE_URL",
   "META_CAMPAIGN_ID", "META_CAMPAIGN_NAME", "META_API_TIMEOUT", "SYNC_INTERVAL_MINUTES",
   "SCHEDULER_TIMEZONE", "APP_ENV", "ENABLE_SCHEDULER", "SYNC_ON_STARTUP", "DEFAULT_RULE_OWNER"]

end AdRules

open AdRules

/-- Runs the console on the words of the command line. -/
def main (words : List String) : IO UInt32 := do
  let environment ← settingNames.filterMapM fun name => do
    pure ((← IO.getEnv name).map fun value => (name, value))
  match Command.Console.run Workplace.host environment words Workplace.start with
  | .ok (outcome, failure) _ =>
    IO.print outcome.output
    match failure with
    | some failure => IO.eprintln ("Command failed: " ++ failure.message)
    | none => pure ()
    pure outcome.exit.toUInt32
  | .error failure _ =>
    IO.eprintln failure.message
    pure 1
