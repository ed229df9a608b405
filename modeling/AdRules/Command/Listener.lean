import AdRules.Command.Host

/-!
# Listening for requests

Where the interface listens. The port is read before anything else is done, and the store is made
ready before the first request.
-/

namespace AdRules.Command

/-- Where requests arrive, and under what title they are answered. The listening itself is outside.
    -/
structure Listener where
  host : String
  port : Int
  logLevel : String
  title : String

namespace Listener

variable {σ : Type}

/-- The listener of an environment. A port that is no integer makes it fail before the store is
    touched. -/
def ofEnvironment (host : Host σ) (environment : Environment) : Act σ Listener := do
  let port ← Act.ofExcept (environment.int "API_PORT" "8000")
  let configuration ← Act.ofExcept (Configuration.read environment [])
  let _ ← host.services configuration
  pure ⟨"0.0.0.0", port, "info", "Campaign Automation API"⟩

end Listener

end AdRules.Command
