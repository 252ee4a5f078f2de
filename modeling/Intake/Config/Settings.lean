import Intake.Config.Input
import Intake.Duration

/-!
# A whole configuration

The input to run and the settings around it, each with its default.
-/

namespace Intake

/-- Settings of the whole process. -/
structure GeneralSettings where
  /-- How long a run waits for its input to confirm that it has closed. -/
  shutdownTimeoutMs : UInt64 := 5000
  deriving Repr, DecidableEq, Inhabited

/-- The time that a run waits for its input to close. -/
def GeneralSettings.shutdownTimeout (settings : GeneralSettings) : Duration :=
  .ofMilliseconds settings.shutdownTimeoutMs.toNat

/-- How log lines are written. -/
inductive LogFormat where
  | pretty
  | json
  deriving Repr, DecidableEq, Inhabited

def LogFormat.name : LogFormat → String
  | .pretty => "pretty"
  | .json => "json"

/-- Settings of the log. -/
structure LoggingSettings where
  level : String := "info"
  format : LogFormat := .pretty
  directory : Option String := none
  console : Bool := false
  deriving Repr, DecidableEq, Inhabited

/-- Settings of the endpoint for metrics. -/
structure MetricsSettings where
  enabled : Bool := false
  listenAddr : String := "127.0.0.1:9000"
  deriving Repr, DecidableEq, Inhabited

/-- A whole configuration. -/
structure Config where
  general : GeneralSettings := {}
  logging : LoggingSettings := {}
  metrics : MetricsSettings := {}
  input : InputConfig
  deriving Repr, Inhabited

end Intake
