import Intake.Bytes

/-!
# Messages

A message is an ordered list of parts.  Parts are addressed from the front by
indexes from zero up and from the back by indexes from minus one down.
-/

namespace Intake

/-- What an input hands out: an ordered list of byte strings. -/
structure Message where
  parts : List Bytes
  deriving Repr, DecidableEq, Inhabited

namespace Message

def single (part : Bytes) : Message := ⟨[part]⟩

def count (message : Message) : Nat := message.parts.length

/-- Whether there is no part at all. -/
def isEmpty (message : Message) : Bool := message.parts.isEmpty

/-- How many bytes all parts hold together. -/
def size (message : Message) : Nat := message.parts.flatten.length

/-- An index brought to count from the front, in integers or in words. -/
def fromFront {ι : Type} [OfNat ι 0] [Add ι] [LT ι] [DecidableLT ι] (count index : ι) : ι :=
  if index < 0 then count + index else index

/-- The position that an index means among `count` ones, if there is one. -/
def counted {ι : Type} [OfNat ι 0] [Add ι] [LT ι] [LE ι] [DecidableLT ι] [DecidableLE ι]
    (count index : ι) : Option ι :=
  let position := fromFront count index
  if position < 0 ∨ count ≤ position then none else some position

/-- The position from the front that an index means in a list of `count`
parts. -/
def position? (count : Nat) (index : Int) : Option Nat :=
  (counted (count : Int) index).map Int.toNat

def part? (message : Message) (index : Int) : Option Bytes :=
  (position? message.count index).bind fun position => message.parts[position]?

theorem counted_eq_some_iff {count index position : Int} :
    counted count index = some position ↔
      0 ≤ position ∧ position < count ∧ (index = position ∨ index = position - count) := by
  unfold counted fromFront
  dsimp only
  split <;> split <;> simp <;> omega

/-- An index means a part counted from the front or, below zero, from behind the
last one. -/
theorem part?_eq_some_iff {message : Message} {index : Int} {content : Bytes} :
    message.part? index = some content ↔
      ∃ position : Nat, message.parts[position]? = some content ∧
        (index = position ∨ index = position - message.count) := by
  unfold part? position?
  simp only [Option.bind_eq_some_iff, Option.map_eq_some_iff, counted_eq_some_iff]
  constructor
  · rintro ⟨_, ⟨place, ⟨front, -, means⟩, rfl⟩, found⟩
    refine ⟨place.toNat, found, ?_⟩
    omega
  · rintro ⟨position, found, means⟩
    have inside : position < message.count := (List.getElem?_eq_some_iff.mp found).1
    exact ⟨position, ⟨position, ⟨by omega, by omega, means⟩, by simp⟩, found⟩

end Message

end Intake
