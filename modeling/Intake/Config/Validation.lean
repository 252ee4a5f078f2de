import Intake.Condition
import Intake.Config.Error

/-!
# Validating configured inputs

Checks a configuration without starting anything: every `read_until` has an
input to wrap, and every condition can be built.  Files are not opened.
-/

namespace Intake

/-- The fault of a configured input, if it has one.  Faults of wrapped inputs
come before those of the conditions around them. -/
def validate : InputConfig → Except InputError Unit
  | .readUntil none _ _ => .error .missingChild
  | .readUntil (some input) _ condition =>
      match validate input with
      | .error source => .error (.child input.kind source)
      | .ok () =>
          match Condition.build condition with
          | .error source => .error (.condition condition.kind source)
          | .ok _ => .ok ()
  | _ => .ok ()

end Intake
