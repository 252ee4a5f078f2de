import Mathlib
import Intake.Condition

/-!
# Comparing a part byte by byte

An index selects the part it counts to, from the front or from behind the last one, and
counting in words of 64 bits gives what counting in integers gives, since no message has
more parts than a word can tell.  The four operators on bytes then say of that part just
what their names say.
-/

namespace Intake

namespace Message

/-- The content of the part that an index counts to: from the front, or below zero from
behind the last part. -/
inductive Selects (message : Message) : Int → Bytes → Prop where
  | front {position : Nat} (inside : position < message.parts.length) :
      Selects message position message.parts[position]
  | back {position : Nat} (inside : position < message.parts.length) :
      Selects message (position - message.parts.length) message.parts[position]

theorem part?_eq_some_iff_selects (message : Message) (index : Int) (content : Bytes) :
    message.part? index = some content ↔ message.Selects index content := by
  rw [part?_eq_some_iff]
  constructor
  · rintro ⟨position, hfound, hmeans⟩
    obtain ⟨hinside, rfl⟩ := List.getElem?_eq_some_iff.mp hfound
    rcases hmeans with rfl | rfl
    · exact .front hinside
    · exact .back hinside
  · rintro (hinside | hinside)
    · exact ⟨_, List.getElem?_eq_getElem hinside, .inl rfl⟩
    · exact ⟨_, List.getElem?_eq_getElem hinside, .inr rfl⟩

theorem part?_eq_none_iff (message : Message) (index : Int) :
    message.part? index = none ↔ index < -message.count ∨ message.count ≤ index := by
  have hcount : message.count = message.parts.length := rfl
  rw [Option.eq_none_iff_forall_ne_some]
  constructor
  · intro hnone
    by_contra hwithin
    by_cases hbelow : index < 0
    · have hinside : (message.count + index).toNat < message.parts.length := by omega
      refine hnone _ (part?_eq_some_iff.mpr ⟨_, List.getElem?_eq_getElem hinside, .inr ?_⟩)
      omega
    · have hinside : index.toNat < message.parts.length := by omega
      refine hnone _ (part?_eq_some_iff.mpr ⟨_, List.getElem?_eq_getElem hinside, .inl ?_⟩)
      omega
  · rintro houtside content hsome
    obtain ⟨position, hfound, hmeans⟩ := part?_eq_some_iff.mp hsome
    have hinside : position < message.parts.length := (List.getElem?_eq_some_iff.mp hfound).1
    omega

/-! ## Counting in words -/

section Words

variable {count : Nat} {index : Int64}

theorem toInt_ofNat_of_le (hcount : (count : Int) ≤ Int64.maxValue.toInt) :
    (Int64.ofNat count).toInt = count := by
  have hmost : Int64.maxValue.toInt = 2 ^ 63 - 1 := by decide
  exact Int64.toInt_ofNat_of_lt (by omega)

theorem neg_iff_toInt_neg : index < 0 ↔ index.toInt < 0 := Int64.lt_iff_toInt_lt

/-- A count and an index below zero have a sum that fits a word. -/
theorem not_saddOverflow (hcount : (count : Int) ≤ Int64.maxValue.toInt) (hbelow : index < 0) :
    (Int64.ofNat count).toBitVec.saddOverflow index.toBitVec = false := by
  have hsum : (Int64.ofNat count).toBitVec.toInt = count := toInt_ofNat_of_le hcount
  have hleast : -2 ^ 63 ≤ index.toBitVec.toInt := index.le_toInt
  have hmost : Int64.maxValue.toInt = 2 ^ 63 - 1 := by decide
  have hnegative : index.toBitVec.toInt < 0 := neg_iff_toInt_neg.mp hbelow
  rw [BitVec.saddOverflow, hsum, Bool.or_eq_false_iff, decide_eq_false_iff_not,
    decide_eq_false_iff_not]
  omega

theorem toInt_add_of_neg (hcount : (count : Int) ≤ Int64.maxValue.toInt) (hbelow : index < 0) :
    (Int64.ofNat count + index).toInt = count + index.toInt := by
  have hfits := Bool.eq_false_iff.mp (not_saddOverflow hcount hbelow)
  calc (Int64.ofNat count + index).toInt
      = ((Int64.ofNat count).toBitVec + index.toBitVec).toInt := rfl
    _ = (Int64.ofNat count).toInt + index.toInt := BitVec.toInt_add_of_not_saddOverflow hfits
    _ = count + index.toInt := by rw [toInt_ofNat_of_le hcount]

theorem toInt_fromFront (hcount : (count : Int) ≤ Int64.maxValue.toInt) (index : Int64) :
    (fromFront (Int64.ofNat count) index).toInt = fromFront (count : Int) index.toInt := by
  unfold fromFront
  by_cases hbelow : index < 0
  · rw [if_pos hbelow, if_pos (neg_iff_toInt_neg.mp hbelow), toInt_add_of_neg hcount hbelow]
  · rw [if_neg hbelow, if_neg (mt neg_iff_toInt_neg.mpr hbelow)]

theorem counted_words (hcount : (count : Int) ≤ Int64.maxValue.toInt) (index : Int64) :
    (counted (Int64.ofNat count) index).map Int64.toInt = counted (count : Int) index.toInt := by
  unfold counted
  dsimp only
  rw [← toInt_fromFront hcount]
  simp only [neg_iff_toInt_neg, Int64.le_iff_toInt_le, toInt_ofNat_of_le hcount]
  split <;> rfl

end Words

end Message

/-! ## Comparisons and their operators -/

namespace Comparison

/-- The operator that compares byte by byte. -/
def bytewise : Comparison → String
  | equals => "equals_cs"
  | contains => "contains_cs"
  | startsWith => "prefix_cs"
  | endsWith => "suffix_cs"

/-- How content and argument stand to each other. -/
def Means {α : Type} (content arg : List α) : Comparison → Prop
  | equals => content = arg
  | contains => ∃ before after, content = before ++ arg ++ after
  | startsWith => ∃ after, content = arg ++ after
  | endsWith => ∃ before, content = before ++ arg

theorem holds_iff_means {α : Type} [DecidableEq α] (content arg : List α)
    (comparison : Comparison) :
    comparison.holds content arg = true ↔ comparison.Means content arg := by
  cases comparison with
  | equals => exact beq_iff_eq
  | contains => exact Sequence.contains_iff
  | startsWith => exact Sequence.startsWith_iff
  | endsWith => exact Sequence.endsWith_iff

theorem build_bytewise (comparison : Comparison) (arg : String) :
    ContentTest.build comparison.bytewise arg = .ok (.exact comparison (Utf8.encode arg)) := by
  cases comparison <;> rfl

end Comparison

/-- What the condition on the content of a part says of a message, once it is built. -/
def contentVerdict (operator : String) (part : Int64) (arg : String) (message : Message) :
    Except ConditionError Bool :=
  (Condition.build (.content operator part arg)).map fun condition => (condition.check message).1

theorem contentVerdict_of_build {operator arg : String} {test : ContentTest}
    (hbuild : ContentTest.build operator arg = .ok test) (part : Int64) (message : Message) :
    contentVerdict operator part arg message = .ok (test.passesPart part message) := by
  rw [contentVerdict, Condition.build_content hbuild]
  rfl

/-- The condition looks at the part that its index selects, counted without an overflow at
either end of the words, and an operator on bytes is true of it just if content and argument
stand to each other as its name says.  Where no part is selected it is false. -/
theorem byte_operators_exact (message : Message) (index : Int64) (arg : String) :
    (∀ content, message.part? index.toInt = some content ↔
      message.Selects index.toInt content) ∧
    (message.part? index.toInt = none ↔
      index.toInt < -message.count ∨ message.count ≤ index.toInt) ∧
    (message.count ≤ Int64.maxValue.toInt →
      (Message.counted (Int64.ofNat message.count) index).map Int64.toInt =
          Message.counted (message.count : Int) index.toInt ∧
        (index < 0 →
          (Int64.ofNat message.count).toBitVec.saddOverflow index.toBitVec = false)) ∧
    ∀ comparison : Comparison, ∃ answer,
      contentVerdict comparison.bytewise index arg message = .ok answer ∧
        (answer = true ↔ ∃ content, message.Selects index.toInt content ∧
          comparison.Means content (Utf8.encode arg)) := by
  refine ⟨message.part?_eq_some_iff_selects index.toInt, message.part?_eq_none_iff index.toInt,
    fun hcount => ⟨Message.counted_words hcount index, Message.not_saddOverflow hcount⟩, ?_⟩
  intro comparison
  refine ⟨_, contentVerdict_of_build (comparison.build_bytewise arg) index message, ?_⟩
  rw [ContentTest.passesPart_iff]
  simp only [message.part?_eq_some_iff_selects, ContentTest.passes, comparison.holds_iff_means]

end Intake
