import Intake.Decimal.Shortest

/-!
# Data without a type

What a configuration file says before anyone asks what it means: scalars,
lists and tables.  Readers sort the entries of each table by key.
-/

namespace Intake

/-- A value read from a configuration. -/
inductive Datum where
  | null
  | boolean (value : Bool)
  | integer (value : Int)
  | real (value : Binary64)
  /-- A number with a point whose size no double can take. -/
  | oversized
  | text (value : String)
  /-- A date, a time, or both. -/
  | moment (text : String)
  | list (items : List Datum)
  | table (entries : List (String × Datum))
  deriving Inhabited, Repr

namespace Datum

/-- The entry of a table under a key. -/
def lookup (entries : List (String × Datum)) (key : String) : Option Datum :=
  match entries with
  | [] => none
  | (name, value) :: rest => if name = key then some value else lookup rest key

/-- Puts an entry into sorted entries, in place of one under the same key. -/
def insert (key : String) (value : Datum) :
    List (String × Datum) → List (String × Datum)
  | [] => [(key, value)]
  | (name, other) :: rest =>
      if key = name then (key, value) :: rest
      else if key < name then (key, value) :: (name, other) :: rest
      else (name, other) :: insert key value rest

theorem lookup_cons_self (key : String) (value : Datum) (rest : List (String × Datum)) :
    lookup ((key, value) :: rest) key = some value := by simp [lookup]

theorem sizeOf_lookup {entries : List (String × Datum)} {key : String} {value : Datum}
    (found : lookup entries key = some value) : sizeOf value < sizeOf entries := by
  induction entries with
  | nil => simp [lookup] at found
  | cons entry rest ih =>
      obtain ⟨name, other⟩ := entry
      rw [lookup] at found
      split at found
      · simp only [Option.some.injEq] at found
        subst found
        simp only [List.cons.sizeOf_spec, Prod.mk.sizeOf_spec]
        omega
      · have := ih found
        simp only [List.cons.sizeOf_spec]
        omega

/-- The value under a key of a table, if this is one. -/
def get? (datum : Datum) (key : String) : Option Datum :=
  match datum with
  | table entries => lookup entries key
  | _ => none

/-- The text, if this is one. -/
def text? : Datum → Option String
  | text value => some value
  | _ => none

/-- The integer, if this is one. -/
def integer? : Datum → Option Int
  | integer value => some value
  | _ => none

/-- The truth value, if this is one. -/
def boolean? : Datum → Option Bool
  | boolean value => some value
  | _ => none

/-- The items, if this is a list. -/
def list? : Datum → Option (List Datum)
  | list items => some items
  | _ => none

end Datum

end Intake
