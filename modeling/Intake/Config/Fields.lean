import Intake.Config.Misfit
import Intake.Config.Place

/-!
# Fields

Decoding of scalars and of what tagged tables have in common: the tag is looked
at before any field, and everything else is kept for later, which integers of
more than 64 bits do not survive.
-/

namespace Intake

abbrev Decoded (α : Type) := Except Misfit α

namespace Fields

/-- Refuses a value, telling sizes that nothing can hold from wrong types. -/
def refuse {α : Type} (found : Datum) (expected : Expected) : Decoded α :=
  match found with
  | .oversized => .error .hugeReal
  | .integer value =>
      if Word.fits 128 value then .error (.wrongType found expected) else .error .hugeInteger
  | _ => .error (.wrongType found expected)

def text (expected : Expected) : Datum → Decoded String
  | .text value => .ok value
  | other => refuse other expected

def boolean : Datum → Decoded Bool
  | .boolean value => .ok value
  | other => refuse other .boolean

def unsigned (expected : Expected) : Datum → Decoded UInt64
  | .integer value =>
      if Word.fitsUnsigned 64 value then .ok (UInt64.ofNat value.toNat)
      else if Word.fitsSigned 64 value then .error (.outOfRange value expected)
      else refuse (.integer value) expected
  | other => refuse other expected

def signed : Datum → Decoded Int64
  | .integer value =>
      if Word.fitsSigned 64 value then .ok (Int64.ofInt value)
      else if Word.fitsUnsigned 64 value then .error (.outOfRange value .isize)
      else refuse (.integer value) .isize
  | other => refuse other .isize

def textItems : List Datum → Decoded (List String)
  | [] => .ok []
  | item :: rest => do
      let value ← text .string item
      let values ← textItems rest
      .ok (value :: values)

def texts : Datum → Decoded (List String)
  | .list items => textItems items
  | other => refuse other .sequence

/-- A field that has a default. -/
def orDefault {α : Type} (decode : Datum → Decoded α) (default : α) :
    Option Datum → Decoded α
  | some value => decode value
  | none => .ok default

/-- A field that may be missing. -/
def whenPresent {α : Type} (decode : Datum → Decoded α) : Option Datum → Decoded (Option α)
  | some value => (decode value).map some
  | none => .ok none

/-- A field of a table that may be missing or null.  Its value is smaller than the
table. -/
def nullable {α : Type} (entries : List (String × Datum)) (key : String)
    (decode : (value : Datum) → sizeOf value < sizeOf entries → Decoded α) :
    Decoded (Option α) :=
  match found : Datum.lookup entries key with
  | none | some .null => .ok none
  | some value => (decode value (Datum.sizeOf_lookup found)).map some

/-- One value may not be given under two names. -/
def notBoth (entries : List (String × Datum)) (key other : String) : Decoded Unit :=
  if (Datum.lookup entries key).isSome && (Datum.lookup entries other).isSome then
    .error (.duplicateField key)
  else .ok ()

/-- A field that has none. -/
def required {α : Type} (name : String) : Option α → Decoded α
  | some value => .ok value
  | none => .error (.missingField name)

/-- A list of fields may hold no more than there are fields. -/
def noSurplus (items : List Datum) (wanted : Nat) : Decoded Unit :=
  if items.length ≤ wanted then .ok () else .error (.tooLong items.length wanted)

mutual

/-- Data that is kept for later holds no integer of more than 64 bits. -/
def keep : Datum → Decoded Unit
  | .oversized => .error .hugeReal
  | .integer value =>
      if Word.fits 64 value then .ok ()
      else if Word.fits 128 value then .error (.wideInteger value)
      else .error .hugeInteger
  | .list items => keepItems items
  | .table entries => keepEntries entries
  | _ => .ok ()

def keepItems : List Datum → Decoded Unit
  | [] => .ok ()
  | item :: rest => do
      keep item
      keepItems rest

def keepEntries : List (String × Datum) → Decoded Unit
  | [] => .ok ()
  | (_, value) :: rest => do
      keep value
      keepEntries rest

end

mutual

/-- Data that is passed over has numbers that can be held at all. -/
def skip : Datum → Decoded Unit
  | .oversized => .error .hugeReal
  | .integer value => if Word.fits 128 value then .ok () else .error .hugeInteger
  | .list items => skipItems items
  | .table entries => skipEntries entries
  | _ => .ok ()

def skipItems : List Datum → Decoded Unit
  | [] => .ok ()
  | item :: rest => do
      skip item
      skipItems rest

def skipEntries : List (String × Datum) → Decoded Unit
  | [] => .ok ()
  | (_, value) :: rest => do
      skip value
      skipEntries rest

end

def named {κ : Type} (name : κ → String) (known : List κ) (text : String) : Decoded κ :=
  match known.find? fun kind => name kind == text with
  | some kind => .ok kind
  | none => .error (.unknownVariant text (known.map name))

/-- A tag: the name of a known kind, or its position where that is allowed. -/
def tag {κ : Type} (place : Place) (name : κ → String) (known : List κ) :
    Datum → Decoded κ
  | .text text => named name known text
  | .integer value =>
      if place.takesPosition value then
        match known[value.toNat]? with
        | some kind => .ok kind
        | none => .error (.badPosition value known.length)
      else refuse (.integer value) .variant
  | other => refuse other .variant

/-- The tag of a table.  What stands before it is kept first. -/
def tagOf {κ : Type} (place : Place) (name : κ → String) (known : List κ) :
    List (String × Datum) → Decoded κ
  | [] => .error (.missingField "type")
  | (key, value) :: rest =>
      if key = "type" then do
        let kind ← tag place name known value
        keepEntries rest
        .ok kind
      else do
        keep value
        tagOf place name known rest

end Fields

end Intake
