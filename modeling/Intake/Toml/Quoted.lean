import Intake.Unicode.Ranges

/-!
# Strings of TOML

Between double quotes a backslash escapes; between single quotes everything
stands for itself.  Three quotes open a string of several lines, whose first
line break does not count.
-/

namespace Intake.Toml

/-- Characters that may stand in comments and strings: no controls but tabs. -/
def isText (c : Char) : Bool := c == '\t' || (0x20 ≤ c.val && c.val ≠ 0x7F)

/-- Whether a character is a space or a tab. -/
def isSpace (c : Char) : Bool := c == ' ' || c == '\t'

/-- A line break and what stands behind it. -/
def newline? : List Char → Option (List Char)
  | '\n' :: rest => some rest
  | '\r' :: '\n' :: rest => some rest
  | _ => none

/-- The character with a code of so many hexadecimal digits. -/
def coded? (count : Nat) (cs : List Char) : Option (Char × List Char) := do
  let head := cs.take count
  if head.length ≠ count then none
  let digits ← head.mapM Unicode.hexDigit?
  let code := digits.foldl (fun n d => n * 16 + d) 0
  if code < 0xD800 || (0xDFFF < code && code ≤ 0x10FFFF) then
    some (Char.ofNat code, cs.drop count)
  else none

def escape? : List Char → Option (Char × List Char)
  | 'b' :: rest => some ('\x08', rest)
  | 't' :: rest => some ('\t', rest)
  | 'n' :: rest => some ('\n', rest)
  | 'f' :: rest => some ('\x0c', rest)
  | 'r' :: rest => some ('\r', rest)
  | 'e' :: rest => some ('\x1b', rest)
  | '"' :: rest => some ('"', rest)
  | '\\' :: rest => some ('\\', rest)
  | 'x' :: rest => coded? 2 rest
  | 'u' :: rest => coded? 4 rest
  | 'U' :: rest => coded? 8 rest
  | _ => none

/-- Drops spaces, tabs and line breaks. -/
def dropBreaks (fuel : Nat) (cs : List Char) : List Char :=
  match fuel with
  | 0 => cs
  | fuel + 1 =>
      match newline? cs with
      | some rest => dropBreaks fuel rest
      | none =>
          match cs with
          | c :: rest => if isSpace c then dropBreaks fuel rest else cs
          | [] => []

/-- The rest of a string on one line, newest character first. -/
def line? (fuel : Nat) (quote : Char) (taken : List Char) (cs : List Char) :
    Option (String × List Char) :=
  match fuel, cs with
  | 0, _ => none
  | _, [] => none
  | fuel + 1, c :: rest =>
      if c = quote then some (String.ofList taken.reverse, rest)
      else if c = '\\' && quote = '"' then do
        let (char, rest) ← escape? rest
        line? fuel quote (char :: taken) rest
      else if isText c then line? fuel quote (c :: taken) rest
      else none

/-- The rest of a string of several lines, newest character first.  Up to two
quotes may stand right before the three that close it. -/
def lines? (fuel : Nat) (quote : Char) (taken : List Char) (cs : List Char) :
    Option (String × List Char) :=
  match fuel with
  | 0 => none
  | fuel + 1 =>
      match newline? cs with
      | some rest => lines? fuel quote ('\n' :: taken) rest
      | none =>
          match cs with
          | [] => none
          | c :: rest =>
              if c = quote then
                let run := (cs.takeWhile (· = quote)).length
                if run < 3 then lines? fuel quote (List.replicate run quote ++ taken) (cs.drop run)
                else if run ≤ 5 then
                  some (String.ofList (List.replicate (run - 3) quote ++ taken).reverse,
                    cs.drop run)
                else none
              else if c = '\\' && quote = '"' then
                match newline? (rest.dropWhile isSpace) with
                | some rest => lines? fuel quote taken (dropBreaks rest.length rest)
                | none => do
                    let (char, rest) ← escape? rest
                    lines? fuel quote (char :: taken) rest
              else if isText c then lines? fuel quote (c :: taken) rest
              else none

/-- A string of several lines behind its opening quotes. -/
def block? (quote : Char) (cs : List Char) : Option (String × List Char) :=
  lines? (cs.length + 1) quote [] ((newline? cs).getD cs)

/-- A quoted string, with `severalLines` one that may be of several lines. -/
def string? (severalLines : Bool) : List Char → Option (String × List Char)
  | '"' :: '"' :: '"' :: rest => if severalLines then block? '"' rest else none
  | '\'' :: '\'' :: '\'' :: rest => if severalLines then block? '\'' rest else none
  | '"' :: rest => line? (rest.length + 1) '"' [] rest
  | '\'' :: rest => line? (rest.length + 1) '\'' [] rest
  | _ => none

end Intake.Toml
