import Intake.Condition.Error
import Intake.Config.Input
import Intake.Files
import Intake.Duration

/-!
# Faulty inputs

Why a configured input cannot be built, and what a wait that ran out of time
says.
-/

namespace Intake

/-- Why an input cannot be built. -/
inductive InputError where
  /-- There is nothing to wrap. -/
  | missingChild
  | child (kind : InputKind) (source : InputError)
  | condition (kind : ConditionKind) (source : ConditionError)
  | unopened (path : String) (source : IoError)
  /-- There is nobody to run the workers. -/
  | noRuntime
  deriving Repr, DecidableEq, Inhabited

namespace InputError

variable (wording : Regex.Wording)

/-- The text of an error, which ends with the text of its source. -/
def message : InputError → String
  | missingChild => "cannot create read_until input without a child"
  | child kind source => "failed to create input '" ++ kind.name ++ "': " ++ source.message
  | condition kind source =>
      "failed to create condition '" ++ kind.name ++ "': " ++ source.message wording
  | unopened path source => "failed to open '" ++ path ++ "': " ++ source.text
  | noRuntime => "inputs must be created from within a tokio runtime"

/-- The texts of an error and of its sources in turn. -/
def chain : InputError → List String
  | child kind source => (child kind source).message wording :: source.chain
  | condition kind source =>
      (condition kind source).message wording :: source.chain wording
  | unopened path source => [(unopened path source).message wording, source.text]
  | missingChild => [missingChild.message wording]
  | noRuntime => [noRuntime.message wording]

/-- A short stable name for logs and metrics. -/
def label : InputError → String
  | missingChild => "input_missing_child"
  | child .. => "input_child_failed"
  | condition .. => "input_condition_failed"
  | unopened .. => "input_open_failed"
  | noRuntime => "input_no_runtime"

end InputError

/-- The text of a wait that ran out of time. -/
def timeoutMessage (timeout : Duration) : String := "timed out after " ++ timeout.text

end Intake
