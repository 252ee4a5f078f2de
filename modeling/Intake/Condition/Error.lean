import Intake.Condition.Config
import Intake.Regex.Search

/-!
# Faulty conditions

Why a configured condition cannot be built.  A fault below a combinator is
wrapped once for each combinator above it.
-/

namespace Intake

/-- Why a condition cannot be built. -/
inductive ConditionError where
  | unknownOperator (operator : String)
  | pattern (fault : Regex.Fault)
  | child (kind : ConditionKind) (source : ConditionError)
  deriving Repr, DecidableEq, Inhabited

namespace ConditionError

variable (wording : Regex.Wording)

/-- The text of an error, which ends with the text of its source. -/
def message : ConditionError → String
  | unknownOperator operator => "content operator not recognised: " ++ operator
  | pattern fault => "invalid regular expression: " ++ wording fault
  | child kind source =>
      "failed to create child condition '" ++ kind.name ++ "': " ++ source.message

/-- The texts of an error and of its sources in turn. -/
def chain : ConditionError → List String
  | unknownOperator operator => [(unknownOperator operator).message wording]
  | pattern fault => [(pattern fault).message wording, wording fault]
  | child kind source => (child kind source).message wording :: source.chain

end ConditionError

end Intake
