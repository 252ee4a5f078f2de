import Intake.Toml.Quoted
import Intake.Toml.Scalar
import Intake.Toml.Tables

/-!
# Reading TOML

A document is read from front to end, and each line is entered into the tables
read so far.  A text that is no document has no data; why it is none is not
told.
-/

namespace Intake.Toml

def dropSpaces (cs : List Char) : List Char := cs.dropWhile isSpace

/-- Drops a comment up to the end of its line, if there is one. -/
def dropComment? (cs : List Char) : Option (List Char) :=
  match cs with
  | '#' :: rest =>
      let rest := rest.dropWhile isText
      match rest with
      | [] => some []
      | _ => if (newline? rest).isSome then some rest else none
  | _ => some cs

/-- Drops spaces, comments and line breaks. -/
def dropLayout? (fuel : Nat) (cs : List Char) : Option (List Char) :=
  match fuel with
  | 0 => none
  | fuel + 1 => do
      let rest ← dropComment? (dropSpaces cs)
      match newline? rest with
      | some rest => dropLayout? fuel rest
      | none => some rest

/-- Drops the layout between values of a list. -/
def betweenValues? (cs : List Char) : Option (List Char) := dropLayout? (cs.length + 1) cs

/-- Ends a line: nothing but spaces and a comment may follow. -/
def endLine? (cs : List Char) : Option (List Char) := do
  let rest ← dropComment? (dropSpaces cs)
  match rest with
  | [] => some []
  | _ => newline? rest

def isBare (c : Char) : Bool := c.isAlphanum || c == '_' || c == '-'

def simpleKey? (cs : List Char) : Option (String × List Char) :=
  match cs with
  | '"' :: _ | '\'' :: _ => string? false cs
  | _ =>
      let name := cs.takeWhile isBare
      if name.isEmpty then none else some (String.ofList name, cs.dropWhile isBare)

/-- A key, split into what stands before its last dot and what behind. -/
def key? (fuel : Nat) (before : List String) (cs : List Char) :
    Option (List String × String × List Char) :=
  match fuel with
  | 0 => none
  | fuel + 1 => do
      let (name, rest) ← simpleKey? (dropSpaces cs)
      match dropSpaces rest with
      | '.' :: rest => key? fuel (name :: before) rest
      | rest => some (before.reverse, name, rest)

def isScalar (c : Char) : Bool :=
  c.isAlphanum || c == '_' || c == '+' || c == '-' || c == '.' || c == ':'

/-- The characters of a bare scalar.  A date may have a time behind a space. -/
def scalarChars (cs : List Char) : List Char × List Char :=
  let head := cs.takeWhile isScalar
  let rest := cs.dropWhile isScalar
  match rest with
  | ' ' :: c :: _ =>
      if c.isDigit && head.length = 10 && date? head == some [] then
        let rest := rest.drop 1
        (head ++ ' ' :: rest.takeWhile isScalar, rest.dropWhile isScalar)
      else (head, rest)
  | _ => (head, rest)

/-- How deep lists and inline tables may nest. -/
def greatestDepth : Nat := 80

mutual

/-- A value, nested so deep. -/
def value? (fuel depth : Nat) (cs : List Char) : Option (Datum × List Char) :=
  match fuel with
  | 0 => none
  | fuel + 1 =>
      match cs with
      | '"' :: _ | '\'' :: _ => (string? true cs).map fun (text, rest) => (.text text, rest)
      | '[' :: rest =>
          if depth < greatestDepth then items? fuel (depth + 1) [] rest else none
      | '\x7b' :: rest =>
          if depth < greatestDepth then entries? fuel (depth + 1) [] rest else none
      | _ =>
          let (head, rest) := scalarChars cs
          (scalar? head).map fun value => (value, rest)

/-- The items of a list up to its bracket, newest first. -/
def items? (fuel depth : Nat) (taken : List Datum) (cs : List Char) :
    Option (Datum × List Char) :=
  match fuel with
  | 0 => none
  | fuel + 1 => do
      match ← betweenValues? cs with
      | ']' :: rest => some (.list taken.reverse, rest)
      | cs =>
          let (item, rest) ← value? fuel depth cs
          match ← betweenValues? rest with
          | ',' :: rest => items? fuel depth (item :: taken) rest
          | ']' :: rest => some (.list (item :: taken).reverse, rest)
          | _ => none

/-- The entries of an inline table up to its brace. -/
def entries? (fuel depth : Nat) (taken : Entries) (cs : List Char) :
    Option (Datum × List Char) :=
  match fuel with
  | 0 => none
  | fuel + 1 => do
      match ← betweenValues? cs with
      | '\x7d' :: rest => some (.table (sorted taken), rest)
      | cs =>
          let (path, name, rest) ← key? (cs.length + 1) [] cs
          match rest with
          | '=' :: rest =>
              let (value, rest) ← value? fuel depth (dropSpaces rest)
              let taken ← taken.addDotted path name value false true
              match ← betweenValues? rest with
              | ',' :: rest => entries? fuel depth taken rest
              | '\x7d' :: rest => some (.table (sorted taken), rest)
              | _ => none
          | _ => none

end

/-- The lines of a document from some line on.  `names` is the header above. -/
def lines (fuel : Nat) (names : List String) (root : Entries) (cs : List Char) :
    Option Entries :=
  match fuel with
  | 0 => none
  | fuel + 1 =>
      match dropSpaces cs with
      | [] => some root
      | '#' :: rest => do
          let rest ← endLine? ('#' :: rest)
          lines fuel names root rest
      | '\n' :: rest => lines fuel names root rest
      | '\r' :: rest => do
          let rest ← newline? ('\r' :: rest)
          lines fuel names root rest
      | '[' :: '[' :: rest => do
          let (path, name, rest) ← key? (rest.length + 1) [] rest
          match rest with
          | ']' :: ']' :: rest =>
              let root ← root.openSeries path name
              let rest ← endLine? rest
              lines fuel (path ++ [name]) root rest
          | _ => none
      | '[' :: rest => do
          let (path, name, rest) ← key? (rest.length + 1) [] rest
          match rest with
          | ']' :: rest =>
              let root ← root.openTable path name
              let rest ← endLine? rest
              lines fuel (path ++ [name]) root rest
          | _ => none
      | cs => do
          let (path, name, rest) ← key? (cs.length + 1) [] cs
          match rest with
          | '=' :: rest =>
              let rest := dropSpaces rest
              let (value, rest) ← value? (2 * rest.length + 2) 0 rest
              let root ← root.change names (Entries.addDotted path name value false true)
              let rest ← endLine? rest
              lines fuel names root rest
          | _ => none

/-- The entries of the document that a text is, sorted by key.  A mark of the
byte order may stand at its head. -/
def read? (text : String) : Option (List (String × Datum)) :=
  let cs := text.toList
  let cs := match cs with
    | c :: rest => if c.toNat = 0xFEFF then rest else cs
    | [] => []
  (lines (cs.length + 1) [] [] cs).map sorted

end Intake.Toml
