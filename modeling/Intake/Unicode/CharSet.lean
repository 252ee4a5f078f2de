import Intake.Unicode.CaseFolding

/-!
# Sets of characters

Sets are kept as expressions and asked for members; no normal form of ranges
is ever computed.  Complements are taken within the scalar values, since no
text holds a surrogate.
-/

namespace Intake.Unicode

/-- A set of code points. -/
inductive CharSet where
  | ranges (table : Ranges)
  | union (left right : CharSet)
  | inter (left right : CharSet)
  | diff (left right : CharSet)
  | symmDiff (left right : CharSet)
  | compl (inner : CharSet)
  | folded (inner : CharSet)
  | asciiFolded (inner : CharSet)
  deriving Repr, Inhabited

namespace CharSet

/-- The code points that differ from a given one in ASCII case at most. -/
def asciiVariants (code : Nat) : List Nat :=
  if 0x41 ≤ code && code ≤ 0x5A then [code, code + 32]
  else if 0x61 ≤ code && code ≤ 0x7A then [code - 32, code]
  else [code]

/-- Whether a code point belongs to the set.  A folded set holds whatever
differs from one of its members in case only. -/
def contains : CharSet → Nat → Bool
  | ranges table, code => table.contains code
  | union left right, code => left.contains code || right.contains code
  | inter left right, code => left.contains code && right.contains code
  | diff left right, code => left.contains code && !right.contains code
  | symmDiff left right, code => left.contains code != right.contains code
  | compl inner, code => !inner.contains code
  | folded inner, code => (caseVariants code).any inner.contains
  | asciiFolded inner, code => (asciiVariants code).any inner.contains

/-- The set without members. -/
def empty : CharSet := ranges []

/-- All scalar values. -/
def scalars : CharSet := ranges [(0, 0xD7FF), (0xE000, 0x10FFFF)]

/-- The set of one code point. -/
def single (code : Nat) : CharSet := ranges [(code, code)]

/-- The union of several sets. -/
def unions : List CharSet → CharSet
  | [] => empty
  | [only] => only
  | first :: rest => union first (unions rest)

/-- How many ranges the expression of the set names. -/
def weight : CharSet → Nat
  | ranges table => table.length
  | union left right | inter left right | diff left right | symmDiff left right =>
      left.weight + right.weight
  | compl inner => inner.weight + 1
  | folded inner | asciiFolded inner => 2 * inner.weight

/-- Whether a character belongs to the set. -/
def has (set : CharSet) (c : Char) : Bool := set.contains c.toNat

@[simp] theorem contains_union (left right : CharSet) (code : Nat) :
    (union left right).contains code = (left.contains code || right.contains code) := rfl

@[simp] theorem contains_compl (inner : CharSet) (code : Nat) :
    (compl inner).contains code = !inner.contains code := rfl

@[simp] theorem contains_empty (code : Nat) : empty.contains code = false := rfl

end CharSet

end Intake.Unicode
