import Intake.Regex.Haystack
import Intake.Unicode.CharSet

/-!
# Patterns

What a pattern means once its flags have been applied, as a relation between
the positions where a match may begin and end.  Greed and groups make no
difference to whether there is a match and are left out.
-/

namespace Intake.Regex

open Unicode

/-- A pattern over bytes. -/
inductive Pattern where
  | empty
  | char (set : CharSet)
  | byte (set : CharSet)
  | look (look : Look)
  | seq (first second : Pattern)
  | alt (left right : Pattern)
  | repeat (inner : Pattern) (least : Nat) (most : Option Nat)
  deriving Repr, Inhabited

namespace Pattern

def sequence : List Pattern → Pattern
  | [] => empty
  | [only] => only
  | first :: rest => seq first (sequence rest)

def choice : List Pattern → Pattern
  | [] => empty
  | [only] => only
  | first :: rest => alt first (choice rest)

mutual

/-- A pattern can match from a position of a haystack to another. -/
inductive Matches (hay : Haystack) : Pattern → Nat → Nat → Prop where
  | empty {i : Nat} : Matches hay .empty i i
  | char {set : CharSet} {i width : Nat} {c : Char} :
      hay.char? i = some (c, width) → set.contains c.toNat = true →
      Matches hay (.char set) i (i + width)
  | byte {set : CharSet} {i : Nat} {b : UInt8} :
      hay.byte? i = some b → set.contains b.toNat = true → Matches hay (.byte set) i (i + 1)
  | look {look : Look} {i : Nat} : look.holds hay i = true → Matches hay (.look look) i i
  | seq {first second : Pattern} {i j k : Nat} :
      Matches hay first i j → Matches hay second j k → Matches hay (.seq first second) i k
  | left {left right : Pattern} {i j : Nat} :
      Matches hay left i j → Matches hay (.alt left right) i j
  | right {left right : Pattern} {i j : Nat} :
      Matches hay right i j → Matches hay (.alt left right) i j
  | repeat {inner : Pattern} {least times : Nat} {most : Option Nat} {i j : Nat} :
      least ≤ times → (∀ bound, most = some bound → times ≤ bound) →
      MatchesTimes hay inner times i j → Matches hay (.repeat inner least most) i j

/-- A pattern can match so many times in a row. -/
inductive MatchesTimes (hay : Haystack) : Pattern → Nat → Nat → Nat → Prop where
  | none {inner : Pattern} {i : Nat} : MatchesTimes hay inner 0 i i
  | more {inner : Pattern} {times i j k : Nat} :
      Matches hay inner i j → MatchesTimes hay inner times j k →
      MatchesTimes hay inner (times + 1) i k

end

/-- Whether a pattern can only match nothing. -/
def isHollow : Pattern → Bool
  | empty | look _ => true
  | char _ | byte _ => false
  | seq first second => first.isHollow && second.isHollow
  | alt left right => left.isHollow && right.isHollow
  | «repeat» inner _ most => most = some 0 || inner.isHollow

/-- How much room a pattern takes when it is laid out as a machine, in bytes
and roughly. -/
def weight : Pattern → Nat
  | empty | look _ => 32
  | char (.ranges [(low, high)]) =>
      if low = high then 32 * (Char.ofNat low).utf8Size else 256
  | char set => 32 * set.weight + 224
  | byte set => 8 * set.weight + 32
  | seq first second => first.weight + second.weight
  | alt left right => left.weight + right.weight + 40
  | «repeat» inner least most =>
      if inner.isHollow then inner.weight + 40
      else
        match most with
        | some most => inner.weight * most + 40 * (most - least)
        | none => inner.weight * max least 1 + 80

end Pattern

end Intake.Regex
