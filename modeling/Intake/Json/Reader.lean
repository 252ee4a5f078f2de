import Intake.Word
import Intake.Datum
import Intake.Unicode.Ranges

/-!
# Reading JSON

A number with a fraction or an exponent, or one outside the 64-bit ranges, is
a floating point number; so is a negative zero.  Of several entries under one
key the last one counts.
-/

namespace Intake.Json

def skipBlanks (cs : List Char) : List Char :=
  cs.dropWhile fun c => c == ' ' || c == '\t' || c == '\n' || c == '\r'

/-- Four hexadecimal digits. -/
def unit? : List Char → Option (Nat × List Char)
  | a :: b :: c :: d :: rest => do
      let a ← Unicode.hexDigit? a
      let b ← Unicode.hexDigit? b
      let c ← Unicode.hexDigit? c
      let d ← Unicode.hexDigit? d
      some (((a * 16 + b) * 16 + c) * 16 + d, rest)
  | _ => none

/-- The rest of a string behind its opening quote, newest character first. -/
def stringRest (fuel : Nat) (taken : List Char) (cs : List Char) :
    Option (String × List Char) :=
  match fuel, cs with
  | 0, _ => none
  | _, [] => none
  | _, '"' :: rest => some (String.ofList taken.reverse, rest)
  | fuel + 1, '\\' :: 'u' :: rest => do
      let (high, rest) ← unit? rest
      if 0xD800 ≤ high && high < 0xDC00 then
        match rest with
        | '\\' :: 'u' :: rest =>
            let (low, rest) ← unit? rest
            if 0xDC00 ≤ low && low < 0xE000 then
              let code := 0x10000 + (high - 0xD800) * 0x400 + (low - 0xDC00)
              stringRest fuel (Char.ofNat code :: taken) rest
            else none
        | _ => none
      else if 0xDC00 ≤ high && high < 0xE000 then none
      else stringRest fuel (Char.ofNat high :: taken) rest
  | fuel + 1, '\\' :: c :: rest =>
      let plain? : Option Char :=
        match c with
        | '"' => some '"'
        | '\\' => some '\\'
        | '/' => some '/'
        | 'b' => some '\x08'
        | 'f' => some '\x0c'
        | 'n' => some '\n'
        | 'r' => some '\r'
        | 't' => some '\t'
        | _ => none
      match plain? with
      | some plain => stringRest fuel (plain :: taken) rest
      | none => none
  | fuel + 1, c :: rest =>
      if c.val < 0x20 then none else stringRest fuel (c :: taken) rest

/-- The number that a run of decimal digits notes down. -/
def decimalOf (digits : List Char) : Nat :=
  digits.foldl (fun n c => n * 10 + (c.toNat - '0'.toNat)) 0

def number? (cs : List Char) : Option (Datum × List Char) := do
  let (negative, cs) := match cs with
    | '-' :: rest => (true, rest)
    | _ => (false, cs)
  let whole := cs.takeWhile Char.isDigit
  let cs := cs.dropWhile Char.isDigit
  if whole.isEmpty || (whole.length > 1 && whole.head? == some '0') then none
  let (fraction, cs) ← match cs with
    | '.' :: rest =>
        let digits := rest.takeWhile Char.isDigit
        if digits.isEmpty then none else some (some digits, rest.dropWhile Char.isDigit)
    | _ => some (none, cs)
  let (exponent, cs) ← match cs with
    | 'e' :: rest | 'E' :: rest =>
        let (down, rest) := match rest with
          | '-' :: rest => (true, rest)
          | '+' :: rest => (false, rest)
          | _ => (false, rest)
        let digits := rest.takeWhile Char.isDigit
        if digits.isEmpty then none
        else
          let size := decimalOf digits
          some (some (if down then -(size : Int) else (size : Int)), rest.dropWhile Char.isDigit)
    | _ => some (none, cs)
  let digits := decimalOf (whole ++ fraction.getD [])
  let isInteger := fraction.isNone && exponent.isNone &&
    (if negative then 0 < digits && Word.fitsSigned 64 (-(digits : Int))
    else Word.fitsUnsigned 64 digits)
  if isInteger then
    some (.integer (if negative then -(digits : Int) else (digits : Int)), cs)
  else
    let scale := exponent.getD 0 - ((fraction.getD []).length : Int)
    match Binary64.ofDecimal negative digits scale with
    | .infinite _ => none
    | value => some (.real value, cs)

mutual

/-- A value.  The fuel bounds how deep the reading goes. -/
def value? (fuel : Nat) (cs : List Char) : Option (Datum × List Char) :=
  match fuel with
  | 0 => none
  | fuel + 1 =>
      match skipBlanks cs with
      | '"' :: rest => do
          let (text, rest) ← stringRest (rest.length + 1) [] rest
          some (.text text, rest)
      | '[' :: rest =>
          match skipBlanks rest with
          | ']' :: rest => some (.list [], rest)
          | rest => items? fuel [] rest
      | '\x7b' :: rest =>
          match skipBlanks rest with
          | '\x7d' :: rest => some (.table [], rest)
          | rest => entries? fuel [] rest
      | 't' :: 'r' :: 'u' :: 'e' :: rest => some (.boolean true, rest)
      | 'f' :: 'a' :: 'l' :: 's' :: 'e' :: rest => some (.boolean false, rest)
      | 'n' :: 'u' :: 'l' :: 'l' :: rest => some (.null, rest)
      | cs => number? cs

/-- The items of a list up to its closing bracket, newest first. -/
def items? (fuel : Nat) (taken : List Datum) (cs : List Char) :
    Option (Datum × List Char) :=
  match fuel with
  | 0 => none
  | fuel + 1 => do
      let (item, rest) ← value? fuel cs
      match skipBlanks rest with
      | ',' :: rest => items? fuel (item :: taken) rest
      | ']' :: rest => some (.list (item :: taken).reverse, rest)
      | _ => none

/-- The entries of a table up to its closing brace. -/
def entries? (fuel : Nat) (taken : List (String × Datum)) (cs : List Char) :
    Option (Datum × List Char) :=
  match fuel with
  | 0 => none
  | fuel + 1 =>
      match skipBlanks cs with
      | '"' :: rest => do
          let (key, rest) ← stringRest (rest.length + 1) [] rest
          match skipBlanks rest with
          | ':' :: rest =>
              let (value, rest) ← value? fuel rest
              let taken := Datum.insert key value taken
              match skipBlanks rest with
              | ',' :: rest => entries? fuel taken rest
              | '\x7d' :: rest => some (.table taken, rest)
              | _ => none
          | _ => none
      | _ => none

end

/-- The value that a text notes down. -/
def read? (text : String) : Option Datum := do
  let cs := text.toList
  let (value, rest) ← value? (2 * cs.length + 2) cs
  if (skipBlanks rest).isEmpty then some value else none

end Intake.Json
