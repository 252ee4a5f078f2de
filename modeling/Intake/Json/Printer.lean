import Intake.Datum
import Intake.Text.Quoted

/-!
# Writing JSON

On one line, or over several with two blanks of indentation a level.  Entries
are written in the order in which they stand.
-/

namespace Intake.Json

/-- How a character is written between quotes. -/
def escape (c : Char) : List Char :=
  if c == '"' then ['\\', '"']
  else if c == '\\' then ['\\', '\\']
  else if c == '\n' then ['\\', 'n']
  else if c == '\r' then ['\\', 'r']
  else if c == '\t' then ['\\', 't']
  else if c == '\x08' then ['\\', 'b']
  else if c == '\x0c' then ['\\', 'f']
  else if c.val < 0x20 then
    ['\\', 'u', '0', '0'] ++ (if c.val < 0x10 then ['0'] else []) ++ Text.hexadecimal c.toNat
  else [c]

def quoted (text : String) : String :=
  String.ofList ('"' :: text.toList.flatMap escape ++ ['"'])

/-- Small and large numbers have an exponent, those between have none. -/
def numberLayout : Binary64.Layout := { leastFixed := -5, greatestFixed := 15 }

/-- The text of a value that holds no others. -/
def scalar : Datum → String
  | .boolean true => "true"
  | .boolean false => "false"
  | .integer value => toString value
  | .real value => value.text numberLayout
  | .text value | .moment value => quoted value
  | .null | .oversized | .list _ | .table _ => "null"

mutual

def compact : Datum → String
  | .list items => "[" ++ compactItems items ++ "]"
  | .table entries => "\x7b" ++ compactEntries entries ++ "\x7d"
  | other => scalar other

def compactItems : List Datum → String
  | [] => ""
  | [item] => compact item
  | item :: rest => compact item ++ "," ++ compactItems rest

def compactEntries : List (String × Datum) → String
  | [] => ""
  | [(key, value)] => quoted key ++ ":" ++ compact value
  | (key, value) :: rest => quoted key ++ ":" ++ compact value ++ "," ++ compactEntries rest

end

def newline (depth : Nat) : String :=
  String.ofList ('\n' :: List.replicate (2 * depth) ' ')

mutual

/-- A value over several lines, nested so deep. -/
def indented (depth : Nat) : Datum → String
  | .list [] => "[]"
  | .list items => "[" ++ indentedItems (depth + 1) items ++ newline depth ++ "]"
  | .table [] => "\x7b\x7d"
  | .table entries => "\x7b" ++ indentedEntries (depth + 1) entries ++ newline depth ++ "\x7d"
  | other => scalar other

/-- Items, each on a line of its own. -/
def indentedItems (depth : Nat) : List Datum → String
  | [] => ""
  | [item] => newline depth ++ indented depth item
  | item :: rest => newline depth ++ indented depth item ++ "," ++ indentedItems depth rest

/-- Entries, each on a line of its own. -/
def indentedEntries (depth : Nat) : List (String × Datum) → String
  | [] => ""
  | [(key, value)] => newline depth ++ quoted key ++ ": " ++ indented depth value
  | (key, value) :: rest =>
      newline depth ++ quoted key ++ ": " ++ indented depth value ++ "," ++
        indentedEntries depth rest

end

end Intake.Json
