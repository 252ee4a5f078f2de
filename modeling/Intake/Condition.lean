import Intake.Condition.Content

/-!
# Conditions

A condition is checked against one message after another.  Counters keep
their state from check to check; `and` and `or` check their children from left
to right and stop at the first that decides, so a child that is not reached
keeps its state.
-/

namespace Intake

/-- A condition between two checks. -/
inductive Condition where
  | content (test : ContentTest) (part : Int64)
  /-- True on every `every`-th check; `seen` checks have been counted since. -/
  | count (every : UInt64) (seen : UInt64)
  | static (value : Bool)
  | not (child : Condition)
  | and (children : List Condition)
  | or (children : List Condition)
  deriving Repr, Inhabited

namespace Condition

mutual

/-- Builds a fresh condition.  The first faulty leaf, from left to right, is
reported, wrapped once for each combinator above it. -/
def build : ConditionConfig → Except ConditionError Condition
  | .content operator part arg => do
      let test ← ContentTest.build operator arg
      .ok (.content test part)
  | .count arg => .ok (.count (max arg 1) 0)
  | .static value => .ok (.static value)
  | .not child =>
      match build child with
      | .ok condition => .ok (.not condition)
      | .error source => .error (.child child.kind source)
  | .and children => do
      let conditions ← buildAll children
      .ok (.and conditions)
  | .or children => do
      let conditions ← buildAll children
      .ok (.or conditions)

def buildAll : List ConditionConfig → Except ConditionError (List Condition)
  | [] => .ok []
  | child :: rest =>
      match build child with
      | .ok condition => do
          let conditions ← buildAll rest
          .ok (condition :: conditions)
      | .error source => .error (.child child.kind source)

end

theorem build_content {operator arg : String} {test : ContentTest}
    (built : ContentTest.build operator arg = .ok test) (part : Int64) :
    build (.content operator part arg) = .ok (.content test part) := by
  rw [build, built]
  rfl

mutual

/-- Checks a message: the answer, and the condition for the next check. -/
def check (message : Message) : Condition → Bool × Condition
  | .content test part => (test.passesPart part message, .content test part)
  | .count every seen =>
      if seen + 1 ≥ every then (true, .count every 0) else (false, .count every (seen + 1))
  | .static value => (value, .static value)
  | .not child =>
      let (answer, child) := child.check message
      (!answer, .not child)
  | .and children =>
      let (answer, children) := checkWhile message true children
      (answer, .and children)
  | .or children =>
      let (answer, children) := checkWhile message false children
      (answer, .or children)

/-- Checks children from left to right as long as they answer `expected`.  The
answer is `expected` if all of them do. -/
def checkWhile (message : Message) (expected : Bool) :
    List Condition → Bool × List Condition
  | [] => (expected, [])
  | child :: rest =>
      let (answer, child) := child.check message
      if answer = expected then
        let (answer, rest) := checkWhile message expected rest
        (answer, child :: rest)
      else (answer, child :: rest)

end

/-- Checks messages in turn. -/
def checkAll (condition : Condition) : List Message → List Bool × Condition
  | [] => ([], condition)
  | message :: rest =>
      let (answer, condition) := condition.check message
      let (answers, condition) := condition.checkAll rest
      (answer :: answers, condition)

end Condition

end Intake
