import Intake.Datum
import Intake.Unicode.Ranges

/-!
# Bare scalars of TOML

Truth values, numbers, dates and times: whatever is written without quotes or
brackets.
-/

namespace Intake.Toml

/-- Digits of a base, with single underscores between two of them only. -/
def digits? (base : Nat) (cs : List Char) : Option Nat :=
  let digit? (c : Char) : Option Nat := do
    let d ← Unicode.hexDigit? c
    if d < base then some d else none
  let rec go (value : Nat) (wanted : Bool) : List Char → Option Nat
    | [] => if wanted then none else some value
    | '_' :: rest => if wanted then none else go value true rest
    | c :: rest => do
        let d ← digit? c
        go (value * base + d) false rest
  go 0 true cs

/-- A sign and what stands behind it. -/
def sign (cs : List Char) : Option Bool × List Char :=
  match cs with
  | '+' :: rest => (some false, rest)
  | '-' :: rest => (some true, rest)
  | _ => (none, cs)

/-- A decimal number without superfluous leading zeros. -/
def decimal? (cs : List Char) : Option Nat :=
  match cs with
  | '0' :: _ :: _ => none
  | _ => digits? 10 cs

def integer? (cs : List Char) : Option Int :=
  match cs with
  | '0' :: 'x' :: rest => (digits? 16 rest).map Int.ofNat
  | '0' :: 'o' :: rest => (digits? 8 rest).map Int.ofNat
  | '0' :: 'b' :: rest => (digits? 2 rest).map Int.ofNat
  | _ =>
      let (negative, rest) := sign cs
      (decimal? rest).map fun n => if negative = some true then -(n : Int) else (n : Int)

def real? (cs : List Char) : Option Datum := do
  let (negative, rest) := sign cs
  let negative := negative.getD false
  match rest with
  | ['i', 'n', 'f'] => some (.real (.infinite negative))
  | ['n', 'a', 'n'] => some (.real .notANumber)
  | _ =>
      let isMark (c : Char) : Bool := c == 'e' || c == 'E'
      let before := rest.takeWhile fun c => !isMark c
      let exponent ← match rest.dropWhile fun c => !isMark c with
        | [] => some none
        | _ :: rest =>
            let (down, rest) := sign rest
            (digits? 10 rest).map fun n =>
              some (if down = some true then -(n : Int) else (n : Int))
      let whole := before.takeWhile (· ≠ '.')
      let fraction ← match before.dropWhile (· ≠ '.') with
        | [] => some none
        | _ :: rest => (digits? 10 rest).map fun _ => some (rest.filter (· ≠ '_'))
      if exponent.isNone && fraction.isNone then none
      let _ ← decimal? whole
      let decimals := fraction.getD []
      let all ← digits? 10 (whole.filter (· ≠ '_') ++ decimals)
      match Binary64.ofDecimal negative all (exponent.getD 0 - (decimals.length : Int)) with
      | .infinite _ => some .oversized
      | value => some (.real value)

/-- Exactly so many digits. -/
def fixed? (count : Nat) (cs : List Char) : Option (Nat × List Char) :=
  let head := cs.take count
  if head.length = count && head.all Char.isDigit then
    some (head.foldl (fun n c => n * 10 + (c.toNat - '0'.toNat)) 0, cs.drop count)
  else none

def daysIn (year month : Nat) : Nat :=
  let leap := year % 4 = 0 && (year % 100 ≠ 0 || year % 400 = 0)
  if month = 2 then if leap then 29 else 28
  else if month = 4 || month = 6 || month = 9 || month = 11 then 30
  else 31

def date? (cs : List Char) : Option (List Char) := do
  let (year, cs) ← fixed? 4 cs
  let '-' :: cs := cs | none
  let (month, cs) ← fixed? 2 cs
  let '-' :: cs := cs | none
  let (day, cs) ← fixed? 2 cs
  if 1 ≤ month && month ≤ 12 && 1 ≤ day && day ≤ daysIn year month then some cs else none

/-- A time of day; the seconds may be left out. -/
def time? (cs : List Char) : Option (List Char) := do
  let (hour, cs) ← fixed? 2 cs
  let ':' :: cs := cs | none
  let (minute, cs) ← fixed? 2 cs
  if hour > 23 || minute > 59 then none
  match cs with
  | ':' :: cs =>
      let (second, cs) ← fixed? 2 cs
      if second > 60 then none
      match cs with
      | '.' :: cs =>
          if (cs.takeWhile Char.isDigit).isEmpty then none else some (cs.dropWhile Char.isDigit)
      | _ => some cs
  | _ => some cs

/-- An offset from universal time, or nothing. -/
def offset? (cs : List Char) : Option (List Char) :=
  match cs with
  | [] => some []
  | 'Z' :: rest | 'z' :: rest => some rest
  | '+' :: rest | '-' :: rest => do
      let (hours, rest) ← fixed? 2 rest
      let ':' :: rest := rest | none
      let (minutes, rest) ← fixed? 2 rest
      if minutes ≤ 59 && hours * 60 + minutes ≤ 24 * 60 then some rest else none
  | _ => none

/-- Whether characters are a date, a time, or both. -/
def isMoment (cs : List Char) : Bool :=
  match date? cs with
  | some [] => true
  | some (c :: rest) =>
      (c == 'T' || c == 't' || c == ' ') && ((time? rest).bind offset?) == some []
  | none => time? cs == some []

def scalar? (cs : List Char) : Option Datum :=
  if cs = ['t', 'r', 'u', 'e'] then some (.boolean true)
  else if cs = ['f', 'a', 'l', 's', 'e'] then some (.boolean false)
  else if isMoment cs then some (.moment (String.ofList cs))
  else (integer? cs).map Datum.integer <|> real? cs

end Intake.Toml
