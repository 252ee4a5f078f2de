/-!
# Configured conditions

What a configuration says about the condition that ends a stream.
-/

namespace Intake

/-- The configuration of a condition. -/
inductive ConditionConfig where
  /-- Compares one part of a message with an argument. -/
  | content (operator : String) (part : Int64) (arg : String)
  /-- True on every `arg`-th check. -/
  | count (arg : UInt64)
  /-- Always the same. -/
  | static (value : Bool)
  | not (condition : ConditionConfig)
  | and (conditions : List ConditionConfig)
  | or (conditions : List ConditionConfig)
  deriving Repr, Inhabited

/-- The kinds of conditions. -/
inductive ConditionKind where
  | content
  | count
  | static
  | not
  | and
  | or
  deriving Repr, DecidableEq, Inhabited

namespace ConditionKind

/-- The name of a kind, as configurations write it. -/
def name : ConditionKind → String
  | content => "content"
  | count => "count"
  | static => "static"
  | not => "not"
  | and => "and"
  | or => "or"

/-- All kinds, in the order in which they are listed to users. -/
def all : List ConditionKind := [content, count, static, not, and, or]

end ConditionKind

namespace ConditionConfig

def kind : ConditionConfig → ConditionKind
  | content .. => .content
  | count _ => .count
  | static _ => .static
  | not _ => .not
  | and _ => .and
  | or _ => .or

/-- The operator of a comparison that names none. -/
def defaultOperator : String := "equals_cs"

/-- After how many checks a counter that names no number is true. -/
def defaultCount : UInt64 := 100

end ConditionConfig

end Intake
