import Intake.Condition.Config

/-!
# Configured inputs

What a configuration says about where messages come from.
-/

namespace Intake

/-- The configuration of an input. -/
inductive InputConfig where
  | file (path : String) (multipart : Bool)
  | stdin (multipart : Bool)
  | memory (messages : List String)
  /-- Another input until a condition is met. -/
  | readUntil (input : Option InputConfig) (restart : Bool) (condition : ConditionConfig)
  deriving Repr, Inhabited

/-- The kinds of inputs. -/
inductive InputKind where
  | file
  | stdin
  | memory
  | readUntil
  deriving Repr, DecidableEq, Inhabited

namespace InputKind

/-- The name of a kind, as configurations write it. -/
def name : InputKind → String
  | file => "file"
  | stdin => "stdin"
  | memory => "memory"
  | readUntil => "read_until"

/-- All kinds, in the order in which they are listed to users. -/
def all : List InputKind := [file, stdin, memory, readUntil]

end InputKind

namespace InputConfig

def kind : InputConfig → InputKind
  | file .. => .file
  | stdin _ => .stdin
  | memory _ => .memory
  | readUntil .. => .readUntil

/-- How many `read_until` are nested. -/
def depth : InputConfig → Nat
  | readUntil (some input) _ _ => input.depth + 1
  | readUntil none _ _ => 1
  | _ => 0

end InputConfig

end Intake
