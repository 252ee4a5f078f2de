import Intake.Text.Utf8
import Intake.Unicode.Property

/-!
# Haystacks

A byte string laid out for matching: at each position, the byte and the
character that begin there.  Conditions on a position look at what stands on
either side of it.
-/

namespace Intake.Regex

open Unicode

/-- A byte string and the characters that begin at its positions. -/
structure Haystack where
  bytes : Array UInt8
  chars : Array (Option (Char × Nat))
  deriving Inhabited

namespace Haystack

/-- The character at the head of each suffix of a byte string. -/
def heads : Bytes → List (Option (Char × Nat))
  | [] => []
  | b :: rest => Utf8.first? (b :: rest) :: heads rest

def ofBytes (content : Bytes) : Haystack :=
  { bytes := content.toArray, chars := (heads content).toArray }

def size (hay : Haystack) : Nat := hay.bytes.size

def byte? (hay : Haystack) (i : Nat) : Option UInt8 := hay.bytes[i]?

/-- The character that begins at a position, and how many bytes it takes. -/
def char? (hay : Haystack) (i : Nat) : Option (Char × Nat) := (hay.chars[i]?).join

/-- Whether a byte goes on with a character. -/
def isContinuation (hay : Haystack) (i : Nat) : Bool :=
  match hay.byte? i with
  | some b => 0x80 ≤ b && b < 0xC0
  | none => false

/-- The character before a position: the one that begins at the nearest byte
that can begin one, at most four bytes back. -/
def charBefore? (hay : Haystack) (i : Nat) : Option (Char × Nat) :=
  if i = 0 then none
  else
    let back (k : Nat) : Bool := k ≤ i && (k = 4 || k = i || !hay.isContinuation (i - k))
    match [1, 2, 3, 4].find? back with
    | some k =>
        match hay.char? (i - k) with
        | some (c, width) => if width ≤ k then some (c, width) else none
        | none => none
    | none => none

end Haystack

/-- Which side of a word a condition asks for. -/
inductive WordSide where
  | boundary
  | notBoundary
  | start
  | stop
  | startHalf
  | stopHalf
  deriving Repr, DecidableEq, Inhabited

/-- A condition on a position. -/
inductive Look where
  | textStart
  | textEnd
  /-- The start of a line; with `crlf`, carriage returns end lines too. -/
  | lineStart (crlf : Bool)
  | lineEnd (crlf : Bool)
  /-- A side of a word, of ASCII or of any characters. -/
  | word (side : WordSide) (unicode : Bool)
  deriving Repr, DecidableEq, Inhabited

/-- Whether a byte belongs to ASCII words. -/
def isWordByte (b : UInt8) : Bool :=
  let c := Char.ofNat b.toNat
  b < 0x80 && (c.isAlphanum || c == '_')

def isWordChar (c : Char) : Bool :=
  if c.val < 128 then c.isAlphanum || c == '_' else Property.word.has c

namespace Haystack

/-- What stands on one side of a position, as far as words are concerned. -/
inductive Neighbour where
  | edge
  | word
  | other
  | broken
  deriving Repr, DecidableEq

def before (hay : Haystack) (unicode : Bool) (i : Nat) : Neighbour :=
  if i = 0 then .edge
  else if unicode then
    match hay.charBefore? i with
    | some (c, _) => if isWordChar c then .word else .other
    | none => .broken
  else
    match hay.byte? (i - 1) with
    | some b => if isWordByte b then .word else .other
    | none => .edge

def after (hay : Haystack) (unicode : Bool) (i : Nat) : Neighbour :=
  if i ≥ hay.size then .edge
  else if unicode then
    match hay.char? i with
    | some (c, _) => if isWordChar c then .word else .other
    | none => .broken
  else
    match hay.byte? i with
    | some b => if isWordByte b then .word else .other
    | none => .edge

end Haystack

/-- Whether a side of a word lies between two neighbours.  Next to broken
bytes there is neither a missing boundary nor half a one. -/
def WordSide.between (side : WordSide) (before after : Haystack.Neighbour) : Bool :=
  let wordBefore := before == .word
  let wordAfter := after == .word
  match side with
  | .boundary => wordBefore != wordAfter
  | .notBoundary => before != .broken && after != .broken && wordBefore == wordAfter
  | .start => !wordBefore && wordAfter
  | .stop => wordBefore && !wordAfter
  | .startHalf => before != .broken && !wordBefore
  | .stopHalf => after != .broken && !wordAfter

/-- Whether a condition holds at a position. -/
def Look.holds (hay : Haystack) (i : Nat) : Look → Bool
  | .textStart => i == 0
  | .textEnd => i == hay.size
  | .lineStart false => i == 0 || hay.byte? (i - 1) == some 10
  | .lineEnd false => i == hay.size || hay.byte? i == some 10
  | .lineStart true =>
      i == 0 || hay.byte? (i - 1) == some 10 ||
        (hay.byte? (i - 1) == some 13 && (i == hay.size || hay.byte? i != some 10))
  | .lineEnd true =>
      i == hay.size || hay.byte? i == some 13 ||
        (hay.byte? i == some 10 && (i == 0 || hay.byte? (i - 1) != some 13))
  | .word side unicode => side.between (hay.before unicode i) (hay.after unicode i)

end Intake.Regex
