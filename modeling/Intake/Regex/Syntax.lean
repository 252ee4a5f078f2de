/-!
# Syntax trees of patterns

A tree says how a pattern was written.  Flags stand in it as they were
written; what a node means under the flags in force is another matter.
-/

namespace Intake.Regex

/-- A flag that a pattern can switch. -/
inductive Flag where
  | caseInsensitive
  | multiLine
  | dotAll
  | swapGreed
  | unicode
  | crlf
  | verbose
  deriving Repr, DecidableEq, Inhabited

/-- Flags switched on or off, in the order of writing. -/
abbrev FlagChanges := List (Flag × Bool)

/-- What a list of changes says about a flag: the first mention counts. -/
def FlagChanges.value? (changes : FlagChanges) (flag : Flag) : Option Bool :=
  match changes with
  | [] => none
  | (name, on) :: rest => if name = flag then some on else value? rest flag

/-- A character, and the byte it means where the pattern is about bytes, if it
was written with two hexadecimal digits. -/
structure Literal where
  char : Char
  asByte : Bool := false
  deriving Repr, DecidableEq, Inhabited

/-- A condition on a position. -/
inductive Anchor where
  | lineStart
  | lineEnd
  | textStart
  | textEnd
  | wordBoundary
  | notWordBoundary
  | wordStart
  | wordEnd
  | wordStartHalf
  | wordEndHalf
  deriving Repr, DecidableEq, Inhabited

/-- The classes with a letter of their own. -/
inductive ShortClass where
  | digit
  | space
  | word
  deriving Repr, DecidableEq, Inhabited

/-- The classes between colons. -/
inductive NamedClass where
  | alnum | alpha | ascii | blank | cntrl | digit | graph
  | lower | print | punct | space | upper | word | xdigit
  deriving Repr, DecidableEq, Inhabited

/-- The name of a class between colons. -/
def NamedClass.ofName? (name : String) : Option NamedClass :=
  match name with
  | "alnum" => some .alnum
  | "alpha" => some .alpha
  | "ascii" => some .ascii
  | "blank" => some .blank
  | "cntrl" => some .cntrl
  | "digit" => some .digit
  | "graph" => some .graph
  | "lower" => some .lower
  | "print" => some .print
  | "punct" => some .punct
  | "space" => some .space
  | "upper" => some .upper
  | "word" => some .word
  | "xdigit" => some .xdigit
  | _ => none

/-- A class of characters by one of their properties. -/
inductive PropertyQuery where
  | named (name : String)
  | valued (property value : String)
  deriving Repr, DecidableEq, Inhabited

/-- How two sets of a bracketed class are put together. -/
inductive SetOp where
  | inter
  | diff
  | symmDiff
  deriving Repr, DecidableEq, Inhabited

/-- What stands between the brackets of a class. -/
inductive ClassTree where
  | literal (literal : Literal)
  | range (low high : Literal)
  | short (cls : ShortClass) (negated : Bool)
  | named (cls : NamedClass) (negated : Bool)
  | property (query : PropertyQuery) (negated : Bool)
  | bracketed (negated : Bool) (inner : ClassTree)
  | union (items : List ClassTree)
  | combine (op : SetOp) (left right : ClassTree)
  deriving Repr, Inhabited

/-- A pattern as written. -/
inductive Tree where
  | empty
  | flags (changes : FlagChanges)
  | literal (literal : Literal)
  | dot
  | anchor (anchor : Anchor)
  | short (cls : ShortClass) (negated : Bool)
  | property (query : PropertyQuery) (negated : Bool)
  | bracketed (negated : Bool) (inner : ClassTree)
  | repeat (inner : Tree) (least : Nat) (most : Option Nat)
  | group (changes : FlagChanges) (inner : Tree)
  | concat (items : List Tree)
  | alternate (branches : List Tree)
  deriving Repr, Inhabited

namespace ClassTree

/-- The set of some items; a single one stands for itself. -/
def ofItems : List ClassTree → ClassTree
  | [only] => only
  | items => union items

mutual

/-- How deep the brackets, unions and operations of a class nest. -/
def depth : ClassTree → Nat
  | bracketed _ inner => inner.depth + 1
  | union [] => 0
  | union items => depthOfAll items + 1
  | combine _ left right => max left.depth right.depth + 1
  | _ => 0

def depthOfAll : List ClassTree → Nat
  | [] => 0
  | item :: rest => max item.depth (depthOfAll rest)

end

end ClassTree

namespace Tree

/-- A sequence; a single item stands for itself. -/
def ofItems : List Tree → Tree
  | [] => empty
  | [only] => only
  | items => concat items

/-- A choice; a single branch stands for itself. -/
def ofBranches : List Tree → Tree
  | [] => empty
  | [only] => only
  | branches => alternate branches

mutual

def depth : Tree → Nat
  | bracketed _ inner => inner.depth + 1
  | «repeat» inner _ _ => inner.depth + 1
  | group _ inner => inner.depth + 1
  | concat items => depthOfAll items + 1
  | alternate branches => depthOfAll branches + 1
  | _ => 0

def depthOfAll : List Tree → Nat
  | [] => 0
  | item :: rest => max item.depth (depthOfAll rest)

end

end Tree

end Intake.Regex
