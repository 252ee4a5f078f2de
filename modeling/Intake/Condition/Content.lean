import Intake.Message
import Intake.Condition.Error
import Intake.Text.Lowercase

/-!
# Comparing content

Operators that end in `_cs` compare bytes.  Their twins without the ending
compare the lower case of both sides as texts, the content after decoding with
broken bytes replaced.  The two operators on patterns look for a match anywhere
or demand one of the whole content.
-/

namespace Intake

/-- How content and argument are compared. -/
inductive Comparison where
  | equals
  | contains
  | startsWith
  | endsWith
  deriving Repr, DecidableEq, Inhabited

def Comparison.holds {α : Type} [DecidableEq α] (content arg : List α) : Comparison → Bool
  | equals => content == arg
  | contains => Sequence.contains content arg
  | startsWith => Sequence.startsWith content arg
  | endsWith => Sequence.endsWith content arg

/-- A test of content, ready to be applied. -/
inductive ContentTest where
  | exact (comparison : Comparison) (arg : Bytes)
  | caseless (comparison : Comparison) (arg : List Char)
  | pattern (pattern : Regex.Pattern)
  deriving Repr, Inhabited

namespace ContentTest

/-- The lower case of content as a text. -/
def lowercase (content : Bytes) : List Char := Text.lowercase (Utf8.decodeLossy content)

/-- The pattern text that demands a match of the whole content. -/
def wholePattern (arg : String) : String := "^(?:" ++ arg ++ ")$"

/-- The test that an operator and its argument stand for. -/
def build (operator arg : String) : Except ConditionError ContentTest :=
  let exactly (comparison : Comparison) : Except ConditionError ContentTest :=
    .ok (.exact comparison (Utf8.encode arg))
  let caselessly (comparison : Comparison) : Except ConditionError ContentTest :=
    .ok (.caseless comparison (Text.lowercase arg.toList))
  let searching (text : String) : Except ConditionError ContentTest :=
    match Regex.compile text with
    | .ok compiled => .ok (.pattern compiled)
    | .error fault => .error (.pattern fault)
  match operator with
  | "equals_cs" => exactly .equals
  | "equals" => caselessly .equals
  | "contains_cs" => exactly .contains
  | "contains" => caselessly .contains
  | "prefix_cs" => exactly .startsWith
  | "prefix" => caselessly .startsWith
  | "suffix_cs" => exactly .endsWith
  | "suffix" => caselessly .endsWith
  | "regexp_partial" => searching arg
  | "regexp_exact" => searching (wholePattern arg)
  | other => .error (.unknownOperator other)

def passes (content : Bytes) : ContentTest → Bool
  | exact comparison arg => comparison.holds content arg
  | caseless comparison arg => comparison.holds (lowercase content) arg
  | pattern compiled => compiled.isMatch content

/-- Whether the part of a message at an index passes a test.  A part that is
not there passes none. -/
def passesPart (test : ContentTest) (index : Int64) (message : Message) : Bool :=
  match message.part? index.toInt with
  | some content => test.passes content
  | none => false

theorem passesPart_iff (test : ContentTest) (index : Int64) (message : Message) :
    test.passesPart index message = true ↔
      ∃ content, message.part? index.toInt = some content ∧ test.passes content = true := by
  unfold passesPart
  cases message.part? index.toInt <;> simp

end ContentTest

end Intake
