import Intake.Unicode.Property

/-!
# Quoted text

A text between double quotes, in which quotes, backslashes and whatever cannot
be printed are escaped.  Marks that would melt into the character before them
are escaped wherever they stand.
-/

namespace Intake.Text

open Unicode

/-- Characters that print as themselves: assigned ones that are neither
controls, formats, separators nor private. -/
def printable : CharSet :=
  .diff GeneralCategory.assigned
    (CharSet.unions
      [.ranges GeneralCategory.controlCharacter, .ranges GeneralCategory.formatCharacter,
       .ranges GeneralCategory.privateUse, .ranges GeneralCategory.lineSeparator,
       .ranges GeneralCategory.paragraphSeparator, .ranges GeneralCategory.spaceSeparator])

/-- Whether a character is written as itself. -/
def isPlain (c : Char) : Bool :=
  if c.val < 128 then 0x20 ≤ c.val && c.val < 0x7F
  else printable.has c && !Property.graphemeExtend.has c

/-- The hexadecimal digits of a number, lower case and without leading zeros. -/
def hexadecimal (n : Nat) : List Char := Nat.toDigits 16 n

/-- How a character is written between quotes. -/
def escape (c : Char) : List Char :=
  if c == '"' then ['\\', '"']
  else if c == '\\' then ['\\', '\\']
  else if c == '\n' then ['\\', 'n']
  else if c == '\r' then ['\\', 'r']
  else if c == '\t' then ['\\', 't']
  else if c.val = 0 then ['\\', '0']
  else if isPlain c then [c]
  else ['\\', 'u', '\x7b'] ++ hexadecimal c.toNat ++ ['\x7d']

def quoted (text : String) : String :=
  String.ofList ('"' :: text.toList.flatMap escape ++ ['"'])

end Intake.Text
