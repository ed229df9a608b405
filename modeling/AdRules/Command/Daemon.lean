import AdRules.Command.Arguments
import AdRules.Command.Host
import AdRules.Scheduler

/-!
# The daemon

A process of its own for the scheduler. It shows its job, or runs one synchronisation, or sets up a
timer and lets it run until it is interrupted. What it reports and how it sets the timer up is a
list of steps; the timer itself is outside the library.
-/

namespace AdRules.Command

/-- How much a report matters. Of the levels of a log the daemon uses these two. -/
inductive Level where
  | info
  | error

/-- A job of a timer: how often it runs, and under which name. -/
structure Job where
  seconds : Int
  id : String
  name : String

/-- A step of the daemon: something reported, or something done to the timer. -/
inductive DaemonStep where
  | report (level : Level) (text : String)
  | createTimer (zone : String)
  | addJob (job : Job)
  | startTimer

/-- How the daemon ended, if it did not simply return, and what it did. -/
structure DaemonRun where
  exit : Option Nat
  steps : List DaemonStep

namespace Daemon

/-- The options of the daemon, none of which takes a value. -/
def options : List Known := [⟨"run-once", .nothing⟩, ⟨"dry-run", .nothing⟩]

/-- What the daemon is told to do: to show its job, to run it once, or to let the timer run it. -/
inductive Mode where
  | show
  | once
  | timer

/-- The mode that the options name; showing the job comes first. -/
def Mode.ofValues (values : Given) : Mode :=
  if isGiven values "dry-run" then .show
  else if isGiven values "run-once" then .once
  else .timer

/-- A report that something goes on as it should. -/
def info (text : String) : DaemonStep := .report .info text

/-- A line across the report, by which its parts are set off. -/
def ruler : DaemonStep := info (String.ofList (List.replicate 60 '='))

/-- The name of the job, as it is shown to people. -/
def jobName : String := "Campaign Sync"

/-- How often the job runs, in words, with the configured interval even where the timer takes
    another one. -/
def schedule (configuration : Configuration) : String :=
  ": every " ++ toString configuration.intervalMinutes ++ " minute(s) (" ++
    configuration.timezone ++ ")"

/-- The job in words, step by step. Nothing of it is carried out. -/
def jobShown (configuration : Configuration) : List DaemonStep :=
  [ruler, info "DRY RUN MODE - Scheduled Jobs", ruler, info (jobName ++ schedule configuration),
   info ("  - Fetch metrics for campaign " ++ configuration.campaignId),
   info "  - Upsert campaign snapshot",
   info "  - Evaluate active rules and execute actions", ruler]

/-- The job of a configuration. A timer cannot run at no interval, so that is taken as a second. -/
def job (configuration : Configuration) : Job :=
  ⟨if configuration.intervalMinutes = 0 then 1 else configuration.intervalMinutes * 60,
    "campaign_sync", jobName⟩

variable {σ : Type}

/-- One synchronisation and the end of the process, whose code says whether it succeeded. -/
def runOnce (services : Services σ) : Act σ DaemonRun := do
  let failed := match ← (synchroniseOnce services .null).outcome with
    | .ok _ => false
    | .error _ => true
  pure ⟨some (if failed then 1 else 0), [info "TEST MODE: Running campaign sync once"]⟩

/-- The synchronisation at the start, where it is wanted. Its failure is reported and does not keep
    the timer from being set up. -/
def startup (services : Services σ) : Act σ (List DaemonStep) := do
  if services.configuration.syncOnStartup then
    let announced := info "Running startup campaign sync"
    match ← (synchroniseOnce services .null).outcome with
    | .ok _ => pure [announced]
    | .error failure =>
      pure [announced, .report .error ("Scheduled campaign sync failed: " ++ failure.message)]
  else pure []

/-- Sets up the timer and lets it run until it is interrupted. What the timer does in the meantime
    is left out. -/
def runTimer (services : Services σ) (interrupted : Bool) : Act σ DaemonRun := do
  let configuration := services.configuration
  let started ← startup services
  Act.ofExcept (Zone.find configuration.timezone)
  Act.ofExcept (Scheduler.checkInterval configuration.intervalMinutes (← services.clock))
  pure ⟨none, started ++
    [.createTimer configuration.timezone, .addJob (job configuration), ruler,
     info "Campaign Automation Scheduler started",
     info ("Campaign sync" ++ schedule configuration), ruler, .startTimer] ++
    if interrupted then [info "Scheduler stopped"] else []⟩

/-- The daemon in a mode, with the configuration of its environment. -/
def runMode (host : Host σ) (environment : Environment) (interrupted : Bool) (mode : Mode) :
    Act σ DaemonRun := do
  let configuration ← Act.ofExcept (Configuration.read environment [])
  match mode with
  | .show => pure ⟨some 0, jobShown configuration⟩
  | .once => runOnce (← host.services configuration)
  | .timer => runTimer (← host.services configuration) interrupted

/-- The daemon, started with some words and perhaps interrupted while the timer runs. -/
def run (host : Host σ) (environment : Environment) (words : List String) (interrupted : Bool) :
    Act σ DaemonRun :=
  match parse options words with
  | .help => pure ⟨some 0, []⟩
  | .misused => pure ⟨some 2, []⟩
  | .given values => runMode host environment interrupted (.ofValues values)

end Daemon

end AdRules.Command
