import Intake.Datum

/-!
# Tables of TOML

Tables come about in three ways: by a header, by being on the way to a table
with a header, or by a dotted key.  Which of them may be added to, and how,
depends on that.
-/

namespace Intake.Toml

/-- How a table came about. -/
inductive Origin where
  | header
  | implied
  | dotted
  deriving Repr, DecidableEq

/-- What a key leads to while a document is being read. -/
inductive Node where
  /-- A value, closed for additions. -/
  | value (datum : Datum)
  | table (origin : Origin) (entries : List (String × Node))
  /-- Tables under one header, newest first. -/
  | series (newest : List (String × Node)) (older : List (List (String × Node)))
  deriving Inhabited

abbrev Entries := List (String × Node)

namespace Entries

/-- What a key leads to. -/
def node? (entries : Entries) (key : String) : Option Node :=
  match entries with
  | [] => none
  | (name, node) :: rest => if name = key then some node else node? rest key

/-- Replaces or adds what a key leads to. -/
def put (entries : Entries) (key : String) (node : Node) : Entries :=
  match entries with
  | [] => [(key, node)]
  | (name, other) :: rest =>
      if name = key then (key, node) :: rest else (name, other) :: put rest key node

/-- Adds a value under a dotted key.  Tables on the way are made, or have been
made by dotted keys before; none of them has a header. -/
def addDotted (path : List String) (key : String) (datum : Datum) (inDotted first : Bool)
    (entries : Entries) : Option Entries :=
  match path with
  | [] =>
      if inDotted = first then none
      else
        match entries.node? key with
        | some _ => none
        | none => some (entries.put key (.value datum))
  | name :: path =>
      match entries.node? name with
      | none => do
          let inner ← addDotted path key datum true false []
          some (entries.put name (.table .dotted inner))
      | some (.table .header _) => none
      | some (.table origin inner) => do
          let inner ← addDotted path key datum (origin == .dotted) false inner
          some (entries.put name (.table origin inner))
      | some (.series newest older) => do
          let newest ← addDotted path key datum false false newest
          some (entries.put name (.series newest older))
      | some (.value _) => none

/-- Changes the table that the names of a header lead to.  Tables on the way
that are not there are implied. -/
def change (names : List String) (f : Entries → Option Entries) (entries : Entries) :
    Option Entries :=
  match names with
  | [] => f entries
  | name :: names =>
      match entries.node? name with
      | none => do
          let inner ← change names f []
          some (entries.put name (.table .implied inner))
      | some (.table origin inner) => do
          let inner ← change names f inner
          some (entries.put name (.table origin inner))
      | some (.series newest older) => do
          let newest ← change names f newest
          some (entries.put name (.series newest older))
      | some (.value _) => none

/-- Opens a table by its header.  It may have been implied before. -/
def openTable (names : List String) (name : String) (entries : Entries) : Option Entries :=
  entries.change names fun parent =>
    match parent.node? name with
    | none => some (parent.put name (.table .header []))
    | some (.table .implied inner) => some (parent.put name (.table .header inner))
    | _ => none

/-- Opens one more table of a series by its header. -/
def openSeries (names : List String) (name : String) (entries : Entries) : Option Entries :=
  entries.change names fun parent =>
    match parent.node? name with
    | none => some (parent.put name (.series [] []))
    | some (.series newest older) => some (parent.put name (.series [] (newest :: older)))
    | _ => none

end Entries

mutual

def Node.datum : Node → Datum
  | .value datum => datum
  | .table _ entries => .table (sorted entries)
  | .series newest older => .list (series [.table (sorted newest)] older)

/-- The data of entries, sorted by key. -/
def sorted : List (String × Node) → List (String × Datum)
  | [] => []
  | (key, node) :: rest => Datum.insert key node.datum (sorted rest)

/-- The data of older tables before that of newer ones. -/
def series (newer : List Datum) : List (List (String × Node)) → List Datum
  | [] => newer
  | newest :: older => series (.table (sorted newest) :: newer) older

end

end Intake.Toml
