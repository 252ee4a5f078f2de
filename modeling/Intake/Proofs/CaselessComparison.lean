import Intake.Condition
import Intake.Proofs.LossyDecoding

/-!
# Comparing without regard to case

Every character but the capital sigma has one lower case, so a text within another is
lowered as it would be alone, if only its capital sigmas end a word in both or in neither.
Up to that, an operator on the lower case of texts accepts what its twin on bytes accepts.
-/

namespace Intake

namespace Text

def capitalSigma : Char := Char.ofNat 0x3A3

/-- The lower case of a text between characters, those before it nearest first. -/
def lowercaseWithin (before after : List Char) : List Char → List Char
  | [] => []
  | c :: rest => lowercaseAt before c (rest ++ after) ++ lowercaseWithin (c :: before) after rest

/-- Whether each capital sigma of a text ends a word between its neighbours just if it ends
one in the text alone. -/
def SigmasStay (before text after : List Char) : Prop :=
  ∀ front back, text = front ++ capitalSigma :: back →
    isFinalSigma (front.reverse ++ before.reverse) (back ++ after) =
      isFinalSigma front.reverse back

theorem sigmasStay_of_not_mem {text : List Char} (before after : List Char)
    (hnone : capitalSigma ∉ text) : SigmasStay before text after := by
  rintro front back rfl
  exact absurd (by simp) hnone

theorem lowercaseFrom_eq (before lowered text : List Char) :
    lowercaseFrom before lowered text = (lowercaseWithin before [] text).reverse ++ lowered := by
  induction text generalizing before lowered with
  | nil => rfl
  | cons c rest ih => simp [lowercaseFrom, lowercaseWithin, ih]

theorem lowercase_eq (text : List Char) : lowercase text = lowercaseWithin [] [] text := by
  simp [lowercase, lowercaseFrom_eq]

theorem lowercaseWithin_append (before after text more : List Char) :
    lowercaseWithin before after (text ++ more) =
      lowercaseWithin before (more ++ after) text ++
        lowercaseWithin (text.reverse ++ before) after more := by
  induction text generalizing before with
  | nil => rfl
  | cons c rest ih => simp [lowercaseWithin, ih]

theorem lowercase_around (before text after : List Char) :
    lowercase (before ++ text ++ after) =
      lowercaseWithin [] (text ++ after) before ++
        lowercaseWithin before.reverse after text ++
        lowercaseWithin (text.reverse ++ before.reverse) [] after := by
  rw [lowercase_eq, lowercaseWithin_append, lowercaseWithin_append]
  simp

section Contexts

variable {before after before' after' : List Char}

theorem length_lowercaseAt (c : Char) :
    (lowercaseAt before c after).length = (lowercaseAt before' c after').length := by
  unfold lowercaseAt
  split <;> rfl

theorem length_lowercaseWithin (text : List Char) :
    (lowercaseWithin before after text).length =
      (lowercaseWithin before' after' text).length := by
  induction text generalizing before before' with
  | nil => rfl
  | cons c rest ih =>
      rw [lowercaseWithin, lowercaseWithin, List.length_append, List.length_append, ih,
        length_lowercaseAt]

theorem lowercaseAt_eq_iff (c : Char) :
    lowercaseAt before c after = lowercaseAt before' c after' ↔
      (c = capitalSigma → isFinalSigma before after = isFinalSigma before' after') := by
  by_cases hsigma : c = capitalSigma
  · subst hsigma
    have hcode : capitalSigma.toNat = 0x3A3 := by decide
    simp only [lowercaseAt, hcode, if_true, forall_const]
    cases isFinalSigma before after <;> cases isFinalSigma before' after' <;> simp
  · have hcode : c.toNat ≠ 0x3A3 := by
      intro hcode
      exact hsigma (by rw [← Char.ofNat_toNat c, hcode, capitalSigma])
    simp [lowercaseAt, hcode, hsigma]

/-- Between other neighbours a text has the same lower case just if each of its capital
sigmas ends a word there as well or there neither. -/
theorem lowercaseWithin_eq_iff (text : List Char) :
    lowercaseWithin before after text = lowercaseWithin before' after' text ↔
      ∀ front back, text = front ++ capitalSigma :: back →
        isFinalSigma (front.reverse ++ before) (back ++ after) =
          isFinalSigma (front.reverse ++ before') (back ++ after') := by
  induction text generalizing before before' with
  | nil => simp [lowercaseWithin]
  | cons c rest ih =>
      have hsplit : lowercaseWithin before after (c :: rest) =
          lowercaseWithin before' after' (c :: rest) ↔
          lowercaseAt before c (rest ++ after) = lowercaseAt before' c (rest ++ after') ∧
            lowercaseWithin (c :: before) after rest =
              lowercaseWithin (c :: before') after' rest :=
        ⟨fun heq => List.append_inj heq (length_lowercaseAt c), fun heq => by
          rw [lowercaseWithin, lowercaseWithin, heq.1, heq.2]⟩
      rw [hsplit, lowercaseAt_eq_iff, ih]
      constructor
      · rintro ⟨hfirst, hrest⟩ front back heq
        cases front with
        | nil =>
            cases heq
            exact hfirst rfl
        | cons d front =>
            cases heq
            simpa using hrest front back rfl
      · intro hall
        constructor
        · rintro rfl
          exact hall [] rest rfl
        · rintro front back rfl
          simpa using hall (c :: front) back rfl

theorem lowercaseWithin_eq_lowercase_iff (text : List Char) :
    lowercaseWithin before.reverse after text = lowercase text ↔
      SigmasStay before text after := by
  rw [lowercase_eq, lowercaseWithin_eq_iff]
  simp [SigmasStay]

end Contexts

/-- A text at the head of another is lowered as it would be alone just if its capital sigmas
stay what they are. -/
theorem startsWith_lowercase_iff (text after : List Char) :
    Sequence.startsWith (lowercase (text ++ after)) (lowercase text) = true ↔
      SigmasStay [] text after := by
  have haround := lowercase_around [] text after
  simp only [List.nil_append, lowercaseWithin, List.reverse_nil, List.append_nil] at haround
  rw [Sequence.startsWith_iff, haround, ← lowercaseWithin_eq_lowercase_iff]
  constructor
  · rintro ⟨rest, heq⟩
    exact (List.append_inj heq (by rw [lowercase_eq]; exact length_lowercaseWithin text)).1
  · intro heq
    exact ⟨_, by rw [← heq]; rfl⟩

theorem endsWith_lowercase_iff (before text : List Char) :
    Sequence.endsWith (lowercase (before ++ text)) (lowercase text) = true ↔
      SigmasStay before text [] := by
  have haround := lowercase_around before text []
  simp only [List.append_nil, lowercaseWithin] at haround
  rw [Sequence.endsWith_iff, haround, ← lowercaseWithin_eq_lowercase_iff]
  constructor
  · rintro ⟨front, heq⟩
    exact (List.append_inj' heq (by rw [lowercase_eq]; exact length_lowercaseWithin text)).2
  · intro heq
    exact ⟨_, by rw [← heq]⟩

theorem contains_lowercase {before text after : List Char} (hstay : SigmasStay before text after) :
    Sequence.contains (lowercase (before ++ text ++ after)) (lowercase text) = true := by
  rw [Sequence.contains_iff, lowercase_around,
    (lowercaseWithin_eq_lowercase_iff text).mpr hstay]
  exact ⟨_, _, rfl⟩

end Text

/-- Whether the condition on the content of a part is true of a message. -/
def Accepts (operator : String) (part : Int64) (arg : String) (message : Message) : Prop :=
  ∃ condition, Condition.build (.content operator part arg) = .ok condition ∧
    (condition.check message).1 = true

section Accepting

variable {operator arg : String} {part : Int64} {message : Message} {test : ContentTest}

theorem accepts_iff (hbuild : ContentTest.build operator arg = .ok test) :
    Accepts operator part arg message ↔
      ∃ content, message.part? part.toInt = some content ∧ test.passes content = true := by
  unfold Accepts
  rw [Condition.build_content hbuild]
  simp only [Except.ok.injEq, exists_eq_left', Condition.check, ContentTest.passesPart_iff]

theorem lowercase_equal (arg : String) :
    ContentTest.lowercase (Utf8.encode arg) = Text.lowercase arg.toList := by
  rw [ContentTest.lowercase, Utf8.decodeLossy_encode]

open Text Utf8

theorem contains_of_stay {before after : Bytes}
    (hstay : SigmasStay (decodeLossy before) arg.toList (decodeLossy after)) :
    Sequence.contains (ContentTest.lowercase (before ++ encode arg ++ after))
      (Text.lowercase arg.toList) = true := by
  by_cases hempty : arg.toList = []
  · rw [hempty, Sequence.contains_iff]
    exact ⟨[], _, rfl⟩
  · rw [ContentTest.lowercase, decodeLossy_around before after hempty]
    exact contains_lowercase hstay

theorem startsWith_iff_stay (after : Bytes) :
    Sequence.startsWith (ContentTest.lowercase (encode arg ++ after))
      (Text.lowercase arg.toList) = true ↔ SigmasStay [] arg.toList (decodeLossy after) := by
  by_cases hempty : arg.toList = []
  · rw [hempty, Sequence.startsWith_iff]
    exact ⟨fun _ => sigmasStay_of_not_mem _ _ (by simp), fun _ => ⟨_, rfl⟩⟩
  · have haround := decodeLossy_around [] after hempty
    rw [List.nil_append] at haround
    rw [ContentTest.lowercase, haround]
    exact startsWith_lowercase_iff arg.toList (decodeLossy after)

theorem endsWith_iff_stay (before : Bytes) :
    Sequence.endsWith (ContentTest.lowercase (before ++ encode arg))
      (Text.lowercase arg.toList) = true ↔ SigmasStay (decodeLossy before) arg.toList [] := by
  by_cases hempty : arg.toList = []
  · rw [hempty, Sequence.endsWith_iff]
    exact ⟨fun _ => sigmasStay_of_not_mem _ _ (by simp), fun _ => ⟨_, (List.append_nil _).symm⟩⟩
  · have haround := decodeLossy_around before [] hempty
    rw [List.append_nil] at haround
    rw [ContentTest.lowercase, haround]
    simpa [decodeLossy, scan, Decoder.finish] using
      endsWith_lowercase_iff (decodeLossy before) arg.toList

theorem accepts_equals (hcased : Accepts "equals_cs" part arg message) :
    Accepts "equals" part arg message := by
  obtain ⟨content, hpart, hpasses⟩ := (accepts_iff rfl).mp hcased
  have hequal : content = encode arg := by
    simpa [ContentTest.passes, Comparison.holds] using hpasses
  rw [accepts_iff rfl]
  refine ⟨content, hpart, ?_⟩
  simp [ContentTest.passes, Comparison.holds, hequal, lowercase_equal]

theorem exists_of_contains_cs (hcased : Accepts "contains_cs" part arg message) :
    ∃ before after, message.part? part.toInt = some (before ++ encode arg ++ after) := by
  obtain ⟨content, hpart, hpasses⟩ := (accepts_iff rfl).mp hcased
  obtain ⟨before, after, rfl⟩ := Sequence.contains_iff.mp hpasses
  exact ⟨before, after, hpart⟩

theorem accepts_contains {before after : Bytes}
    (hpart : message.part? part.toInt = some (before ++ encode arg ++ after))
    (hstay : SigmasStay (decodeLossy before) arg.toList (decodeLossy after)) :
    Accepts "contains" part arg message := by
  rw [accepts_iff rfl]
  exact ⟨_, hpart, contains_of_stay hstay⟩

theorem exists_of_prefix_cs (hcased : Accepts "prefix_cs" part arg message) :
    ∃ after, message.part? part.toInt = some (encode arg ++ after) := by
  obtain ⟨content, hpart, hpasses⟩ := (accepts_iff rfl).mp hcased
  obtain ⟨after, rfl⟩ := Sequence.startsWith_iff.mp hpasses
  exact ⟨after, hpart⟩

theorem accepts_prefix_iff {after : Bytes}
    (hpart : message.part? part.toInt = some (encode arg ++ after)) :
    Accepts "prefix" part arg message ↔ SigmasStay [] arg.toList (decodeLossy after) := by
  rw [accepts_iff rfl, hpart, ← startsWith_iff_stay]
  simp [ContentTest.passes, Comparison.holds]

theorem exists_of_suffix_cs (hcased : Accepts "suffix_cs" part arg message) :
    ∃ before, message.part? part.toInt = some (before ++ encode arg) := by
  obtain ⟨content, hpart, hpasses⟩ := (accepts_iff rfl).mp hcased
  obtain ⟨before, rfl⟩ := Sequence.endsWith_iff.mp hpasses
  exact ⟨before, hpart⟩

theorem accepts_suffix_iff {before : Bytes}
    (hpart : message.part? part.toInt = some (before ++ encode arg)) :
    Accepts "suffix" part arg message ↔ SigmasStay (decodeLossy before) arg.toList [] := by
  rw [accepts_iff rfl, hpart, ← endsWith_iff_stay]
  simp [ContentTest.passes, Comparison.holds]

/-- An operator that disregards case accepts what its twin accepts, if the capital sigmas of
the argument end a word in the content just if they end one in the argument.  At the head and
at the end of the content it does not accept it otherwise. -/
theorem caseless_coarser (message : Message) (part : Int64) (arg : String) :
    (Accepts "equals_cs" part arg message → Accepts "equals" part arg message) ∧
    (Accepts "contains_cs" part arg message →
      (∃ before after, message.part? part.toInt = some (before ++ encode arg ++ after) ∧
        SigmasStay (decodeLossy before) arg.toList (decodeLossy after)) →
      Accepts "contains" part arg message) ∧
    (Accepts "prefix_cs" part arg message →
      (Accepts "prefix" part arg message ↔
        ∃ after, message.part? part.toInt = some (encode arg ++ after) ∧
          SigmasStay [] arg.toList (decodeLossy after))) ∧
    (Accepts "suffix_cs" part arg message →
      (Accepts "suffix" part arg message ↔
        ∃ before, message.part? part.toInt = some (before ++ encode arg) ∧
          SigmasStay (decodeLossy before) arg.toList [])) ∧
    (capitalSigma ∉ arg.toList →
      (Accepts "contains_cs" part arg message → Accepts "contains" part arg message) ∧
      (Accepts "prefix_cs" part arg message → Accepts "prefix" part arg message) ∧
      (Accepts "suffix_cs" part arg message → Accepts "suffix" part arg message)) := by
  refine ⟨accepts_equals, ?_, ?_, ?_, fun hnone => ⟨?_, ?_, ?_⟩⟩
  · rintro - ⟨before, after, hpart, hstay⟩
    exact accepts_contains hpart hstay
  · intro hcased
    obtain ⟨after, hpart⟩ := exists_of_prefix_cs hcased
    rw [accepts_prefix_iff hpart]
    simp [hpart]
  · intro hcased
    obtain ⟨before, hpart⟩ := exists_of_suffix_cs hcased
    rw [accepts_suffix_iff hpart]
    simp [hpart]
  · intro hcased
    obtain ⟨before, after, hpart⟩ := exists_of_contains_cs hcased
    exact accepts_contains hpart (sigmasStay_of_not_mem _ _ hnone)
  · intro hcased
    obtain ⟨after, hpart⟩ := exists_of_prefix_cs hcased
    exact (accepts_prefix_iff hpart).mpr (sigmasStay_of_not_mem _ _ hnone)
  · intro hcased
    obtain ⟨before, hpart⟩ := exists_of_suffix_cs hcased
    exact (accepts_suffix_iff hpart).mpr (sigmasStay_of_not_mem _ _ hnone)

/-- A capital sigma at the end of a word is lowered otherwise than one that stands alone. -/
theorem caseless_misses_final_sigma :
    Accepts "suffix_cs" 0 "Σ" (.single (encode "ΑΣ")) ∧
      ¬ Accepts "suffix" 0 "Σ" (.single (encode "ΑΣ")) := by
  constructor
  · exact (accepts_iff rfl).mpr ⟨_, rfl, by decide⟩
  · intro haccepts
    obtain ⟨content, hpart, hpasses⟩ := (accepts_iff rfl).mp haccepts
    cases hpart
    revert hpasses
    decide

end Accepting

end Intake
