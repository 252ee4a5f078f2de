/-!
# Ranges of code points

A set of code points is a list of closed ranges in ascending order.  Long
tables are written as text: one item a range, each item the hexadecimal gap to
the end of the range before it, and after a plus sign by how much the range is
longer than one code point.
-/

namespace Intake.Unicode

/-- Closed ranges of code points, ascending and apart from each other. -/
abbrev Ranges := List (Nat × Nat)

/-- Whether a code point lies in one of the ranges.  The search stops at the
first range that begins above it. -/
def Ranges.contains : Ranges → Nat → Bool
  | [], _ => false
  | (low, high) :: rest, code =>
      if code < low then false
      else if code ≤ high then true
      else Ranges.contains rest code

/-- The value of a hexadecimal digit. -/
def hexDigit? (c : Char) : Option Nat :=
  if '0' ≤ c && c ≤ '9' then some (c.toNat - '0'.toNat)
  else if 'a' ≤ c && c ≤ 'f' then some (c.toNat - 'a'.toNat + 10)
  else if 'A' ≤ c && c ≤ 'F' then some (c.toNat - 'A'.toNat + 10)
  else none

/-- The value of hexadecimal digits. -/
def hexNumber (digits : List Char) : Nat :=
  digits.foldl (fun value c => value * 16 + (hexDigit? c).getD 0) 0

/-- The words of a text, without the blanks and line breaks between them. -/
def words (cs : List Char) : List (List Char) :=
  (cs.foldr (fun c found =>
    if c.isWhitespace then [] :: found else (c :: found.headD []) :: found.tail) [[]]).filter
    fun word => !word.isEmpty

/-- Reads ranges from their items, given the first code point behind the last
range. -/
def Ranges.ofItems (next : Nat) : List (List Char) → Ranges
  | [] => []
  | item :: rest =>
      let low := next + hexNumber (item.takeWhile (· != '+'))
      let high := low + hexNumber ((item.dropWhile (· != '+')).drop 1)
      (low, high) :: Ranges.ofItems (high + 1) rest

/-- The ranges that a text notes down. -/
def Ranges.ofText (text : String) : Ranges := Ranges.ofItems 0 (words text.toList)

end Intake.Unicode
