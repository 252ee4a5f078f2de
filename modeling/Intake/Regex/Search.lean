import Intake.Regex.Meaning

/-!
# Searching

A search follows all matches at once.  A set of positions is a number whose
bits are the positions, and a pattern laid over a haystack sends the set of
positions where it may begin to the set of positions where it may end.  What
depends on the haystack alone is worked out once, as sets of positions.
-/

namespace Intake.Regex

/-- The set of the positions below a bound that pass a test. -/
def positions (test : Nat → Bool) : Nat → Nat
  | 0 => 0
  | bound + 1 =>
      let below := positions test bound
      if test bound then below ||| 1 <<< bound else below

/-- A pattern laid over a haystack. -/
inductive Plan where
  /-- Stays where it is. -/
  | stay
  /-- Goes on by a width from each position of a set. -/
  | advance (jumps : List (Nat × Nat))
  /-- Keeps the positions of a set. -/
  | keep (allowed : Nat)
  | seq (first second : Plan)
  | alt (left right : Plan)
  | repeat (inner : Plan) (least : Nat) (most : Option Nat)
  deriving Repr, Inhabited

def Pattern.over (hay : Haystack) : Pattern → Plan
  | .empty => .stay
  | .char set =>
      let starts (width : Nat) : Nat :=
        positions (fun i =>
          match hay.char? i with
          | some (c, taken) => taken == width && set.contains c.toNat
          | none => false) hay.size
      .advance ([1, 2, 3, 4].map fun width => (width, starts width))
  | .byte set =>
      .advance [(1, positions (fun i =>
        match hay.byte? i with
        | some b => set.contains b.toNat
        | none => false) hay.size)]
  | .look condition => .keep (positions (fun i => condition.holds hay i) (hay.size + 1))
  | .seq first second => .seq (first.over hay) (second.over hay)
  | .alt left right => .alt (left.over hay) (right.over hay)
  | .repeat inner least most => .repeat (inner.over hay) least most

/-- Applies a function so many times, or until nothing changes any more. -/
def iterate (f : Nat → Nat) : Nat → Nat → Nat
  | 0, s => s
  | times + 1, s =>
      let next := f s
      if next = s then s else iterate f times next

/-- Where a pattern may end, given where it may begin.  Without an upper bound
on repetitions, as many as there are positions reach everything. -/
def Plan.run (bound : Nat) : Plan → Nat → Nat
  | .stay, s => s
  | .advance jumps, s =>
      jumps.foldl (fun reached jump => reached ||| (s &&& jump.2) <<< jump.1) 0
  | .keep allowed, s => s &&& allowed
  | .seq first second, s => second.run bound (first.run bound s)
  | .alt left right, s => left.run bound s ||| right.run bound s
  | .repeat inner least most, s =>
      let reached := iterate (inner.run bound) least s
      let further := match most with
        | some most => most - least
        | none => bound
      iterate (fun s => s ||| inner.run bound s) further reached

/-- Whether a pattern matches anywhere in a haystack. -/
def Pattern.isMatch (pattern : Pattern) (content : Bytes) : Bool :=
  let hay := Haystack.ofBytes content
  (pattern.over hay).run (hay.size + 1) (positions (fun _ => true) (hay.size + 1)) != 0

/-- Why a text is no pattern. -/
inductive Fault where
  /-- It does not follow the grammar, or has no meaning. -/
  | malformed (text : String)
  /-- It would take more room than patterns are given. -/
  | oversized (text : String)
  deriving Repr, DecidableEq, Inhabited

/-- What is said of a fault.  The wording is up to the engine that patterns run on, and is
taken from there. -/
abbrev Wording := Fault → String

/-- The room that a pattern may take, in bytes. -/
def greatestWeight : Nat := 10 * 1024 * 1024

/-- The pattern that a text notes down. -/
def compile (text : String) : Except Fault Pattern :=
  match parse? text.toList with
  | none => .error (.malformed text)
  | some tree =>
      match tree.meaning? {} with
      | none => .error (.malformed text)
      | some (pattern, _) =>
          if pattern.weight ≤ greatestWeight then .ok pattern else .error (.oversized text)

end Intake.Regex
