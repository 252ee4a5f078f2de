import Intake.Json.Printer
import Intake.Word

/-!
# Places in a configuration

A configuration is written in one of two formats.  What stands inside a tagged
table is kept before it is decoded, and a kind may then be given by its position
among the known ones, wherever the format tells numbers without a sign from
others.
-/

namespace Intake

/-- The formats that configurations are written in. -/
inductive ConfigFormat where
  | json
  | toml
  deriving Repr, DecidableEq, Inhabited

namespace ConfigFormat

/-- How numbers with a point are written in texts about a format. -/
def numberLayout : ConfigFormat → Binary64.Layout
  | json => Json.numberLayout
  | toml => { leastFixed := -400, greatestFixed := 400 }

/-- The least integer that counts as a number without a sign. -/
def leastUnsigned : ConfigFormat → Int
  | json => 0
  | toml => Word.size 63

end ConfigFormat

/-- Where something stands: in which format, and whether inside a tagged
table. -/
structure Place where
  format : ConfigFormat
  inside : Bool
  deriving Repr, DecidableEq, Inhabited

namespace Place

def top (format : ConfigFormat) : Place := ⟨format, false⟩

/-- The place of what a tagged table holds. -/
def below (place : Place) : Place := { place with inside := true }

/-- Whether an integer gives a kind by its position. -/
def takesPosition (place : Place) (value : Int) : Bool :=
  (place.inside || place.format = .toml) && place.format.leastUnsigned ≤ value

end Place

end Intake
