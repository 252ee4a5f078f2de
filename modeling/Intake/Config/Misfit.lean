import Intake.Datum
import Intake.Text.Quoted
import Intake.Word

/-!
# Misfits

Why well-formed data is no configuration.
-/

namespace Intake

/-- What a field takes. -/
inductive Expected where
  | string
  | boolean
  | usize
  | isize
  | u64
  | sequence
  | path
  | variant
  | taggedCondition
  | taggedInput
  | struct (name : String)
  deriving Repr, DecidableEq

def Expected.text : Expected → String
  | string => "a string"
  | boolean => "a boolean"
  | usize => "usize"
  | isize => "isize"
  | u64 => "u64"
  | sequence => "a sequence"
  | path => "path string"
  | variant => "variant identifier"
  | taggedCondition => "internally tagged enum ConditionConfig"
  | taggedInput => "internally tagged enum InputConfig"
  | struct name => "struct " ++ name

/-- Why data does not fit. -/
inductive Misfit where
  | wrongType (found : Datum) (expected : Expected)
  | outOfRange (value : Int) (expected : Expected)
  /-- An integer of more than 64 bits where data is kept for later. -/
  | wideInteger (value : Int)
  /-- An integer of more than 128 bits. -/
  | hugeInteger
  /-- A number with a point that no double can hold. -/
  | hugeReal
  | unknownVariant (name : String) (known : List String)
  /-- A position behind the last of so many variants. -/
  | badPosition (value : Int) (count : Nat)
  | missingField (name : String)
  | duplicateField (name : String)
  /-- A list that ends before a field without a default. -/
  | tooShort (position : Nat) (shape : String) (fields : Nat)
  | tooLong (given wanted : Nat)
  /-- A name or a table of one entry was wanted. -/
  | noVariant
  | emptyVariant
  | manyVariants
  /-- Something where a variant takes nothing. -/
  | variantContent (found : Datum)
  deriving Inhabited

/-- A name between backticks. -/
def ticked (name : String) : String := "`" ++ name ++ "`"

def choices : List String → String
  | [] => "nothing"
  | [only] => ticked only
  | [first, second] => ticked first ++ " or " ++ ticked second
  | many => "one of " ++ ", ".intercalate (many.map ticked)

def integerText (value : Int) : String :=
  "integer " ++ ticked (toString value) ++
    (if Word.fits 64 value then ""
    else if Word.fitsSigned 128 value then " as i128" else " as u128")

namespace Datum

/-- The words for a value that does not fit, with numbers in a layout. -/
def found (layout : Binary64.Layout) : Datum → String
  | null => "null"
  | boolean value => "boolean " ++ ticked (if value then "true" else "false")
  | integer value => integerText value
  | real value => "floating point " ++ ticked (value.text layout)
  | oversized => "floating point"
  | text value => "string " ++ Text.quoted value
  | moment _ | table _ => "map"
  | list _ => "sequence"

/-- The name of the type of a value. -/
def typeName : Datum → String
  | null => "null"
  | boolean _ => "boolean"
  | integer _ => "integer"
  | real _ | oversized => "float"
  | text _ => "string"
  | moment _ => "datetime"
  | list _ => "array"
  | table _ => "table"

end Datum

namespace Misfit

def elements (n : Nat) : String := if n = 1 then "1 element" else toString n ++ " elements"

/-- The text of a misfit, with numbers in a layout. -/
def message (layout : Binary64.Layout) : Misfit → String
  | wrongType found expected =>
      "invalid type: " ++ found.found layout ++ ", expected " ++ expected.text
  | outOfRange value expected =>
      "invalid value: integer " ++ ticked (toString value) ++ ", expected " ++ expected.text
  | wideInteger value => "invalid type: " ++ integerText value ++ ", expected any value"
  | hugeInteger => "integer number overflowed"
  | hugeReal => "floating-point number overflowed"
  | unknownVariant name known =>
      "unknown variant " ++ ticked name ++ ", expected " ++ choices known
  | badPosition value count =>
      "invalid value: integer " ++ ticked (toString value) ++
        ", expected variant index 0 <= i < " ++ toString count
  | missingField name => "missing field " ++ ticked name
  | duplicateField name => "duplicate field " ++ ticked name
  | tooShort position shape fields =>
      "invalid length " ++ toString position ++ ", expected " ++ shape ++ " with " ++
        elements fields
  | tooLong given wanted =>
      "invalid length " ++ toString given ++ ", expected " ++ elements wanted ++ " in sequence"
  | noVariant => "wanted string or table"
  | emptyVariant => "wanted exactly 1 element, found 0 elements"
  | manyVariants => "wanted exactly 1 element, more than 1 element"
  | variantContent (.list _) => "expected empty array"
  | variantContent (.table _) => "expected empty table"
  | variantContent other => "expected table, found " ++ other.typeName

end Misfit

end Intake
