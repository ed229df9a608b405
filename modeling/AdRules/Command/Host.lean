import AdRules.Sync

/-!
# Hosts

What a process is given by the system it runs on: the store in memory, databases by address, a clock
and the metrics source. The configuration says which store is used.
-/

namespace AdRules.Command

/-- What a process can use of the system that it runs on, each as an operation on the state of that
    system. -/
structure Host (σ : Type) where
  memory : Repository σ
  database : (address : String) → Repository σ
  /-- Sees whether a database can be reached. -/
  reach : (address : String) → Act σ Unit
  clock : Act σ Timestamp
  ask : InsightsRequest → Act σ SourceAnswer
  /-- How deeply a text may be nested for it to be read. -/
  depth : Nat
  /-- The whole milliseconds that a timer counts from one state to a later one. -/
  elapsed : (earlier later : σ) → Int

namespace Host

variable {σ : Type}

/-- The database of a configuration, reached and made ready. It fails where the database cannot be
    reached. -/
def readyDatabase (host : Host σ) (configuration : Configuration) : Act σ (Repository σ) := do
  host.reach configuration.dsn
  (host.database configuration.dsn).prepare
  pure (host.database configuration.dsn)

/-- The store of a configuration: the one in memory, or the database at its address. -/
def repository (host : Host σ) (configuration : Configuration) : Act σ (Repository σ) :=
  if configuration.usesMemory then pure host.memory else host.readyDatabase configuration

/-- The services of a configuration, over its store and with the clock and the source of the host.
    -/
def services (host : Host σ) (configuration : Configuration) : Act σ (Services σ) := do
  let repository ← host.repository configuration
  pure
    { configuration := configuration
      repository := repository
      clock := host.clock
      ask := host.ask
      depth := host.depth
      elapsed := host.elapsed }

end Host

/-- A single synchronisation by a service of its own, whose memory starts empty and is dropped
    afterwards. -/
def synchroniseOnce {σ : Type} (services : Services σ) (campaignId : Value) : Act σ SyncResult :=
  (Sync.synchronise services campaignId).onPart (fun state => (.start, state))
    fun _ (_, state) => state

end AdRules.Command
