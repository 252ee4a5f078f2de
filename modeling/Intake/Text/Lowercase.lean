import Intake.Unicode.Lowercase

/-!
# Lower case of a text

A capital sigma becomes a final sigma where a word ends: a cased character
stands before it and none behind it, characters without a say passed over.
Every other character has the lower case it has alone.
-/

namespace Intake.Text

open Unicode

/-- Whether the first character that has a say is a cased one. -/
def leadsToCased (neighbours : List Char) : Bool :=
  match neighbours.dropWhile isCaseIgnorable with
  | [] => false
  | c :: _ => isCased c

/-- Whether a capital sigma between these characters, those before it nearest
first, ends a word. -/
def isFinalSigma (before after : List Char) : Bool :=
  leadsToCased before && !leadsToCased after

/-- The lower case of a character between others. -/
def lowercaseAt (before : List Char) (c : Char) (after : List Char) : List Char :=
  if c.toNat = 0x3A3 then
    [Char.ofNat (if isFinalSigma before after then 0x3C2 else 0x3C3)]
  else lowercaseChar c

/-- The lower case of the rest of a text, newest character first, given what
stands before it. -/
def lowercaseFrom (before lowered : List Char) : List Char → List Char
  | [] => lowered
  | c :: after =>
      lowercaseFrom (c :: before) ((lowercaseAt before c after).reverse ++ lowered) after

def lowercase (text : List Char) : List Char :=
  (lowercaseFrom [] [] text).reverse

end Intake.Text
