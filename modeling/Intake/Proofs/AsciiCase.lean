import Intake.Proofs.CaselessComparison
import Intake.Proofs.PartComparison
import Intake.Unicode.CharSet

/-!
# Letters of ASCII in either case

A letter of ASCII is one byte that begins and ends its character, whatever has begun before
it, and in either case it is cased, is not passed over and has one lower case.  So the
decoder, the search for the end of a word and the lower case all follow from the letters
without their case, and an operator that disregards case does as well.
-/

namespace Intake

open Unicode

/-- Two codes that are equal or one letter of ASCII in either case. -/
def SameLetter (code code' : Nat) : Prop := code' ∈ CharSet.asciiVariants code

instance : DecidableRel SameLetter :=
  fun code code' => inferInstanceAs (Decidable (code' ∈ CharSet.asciiVariants code))

/-- Two sequences that differ in the case of letters of ASCII at most. -/
def Recased {α : Type} (code : α → Nat) (content content' : List α) : Prop :=
  List.Forall₂ (fun x y => SameLetter (code x) (code y)) content content'

theorem SameLetter.refl (code : Nat) : SameLetter code code := by
  unfold SameLetter CharSet.asciiVariants
  split
  · simp
  · split <;> simp

theorem SameLetter.eq_or_letter {code code' : Nat} (hsame : SameLetter code code') :
    code = code' ∨ ∃ n < 26,
      code = 0x41 + n ∧ code' = 0x61 + n ∨ code = 0x61 + n ∧ code' = 0x41 + n := by
  unfold SameLetter CharSet.asciiVariants at hsame
  split at hsame
  · next hcapital =>
    simp only [Bool.and_eq_true, decide_eq_true_eq] at hcapital
    rcases List.mem_pair.mp hsame with rfl | rfl
    · exact .inl rfl
    · exact .inr ⟨code - 0x41, by omega, .inl (by omega)⟩
  · split at hsame
    · next hsmall =>
      simp only [Bool.and_eq_true, decide_eq_true_eq] at hsmall
      rcases List.mem_pair.mp hsame with rfl | rfl
      · exact .inr ⟨code - 0x61, by omega, .inr (by omega)⟩
      · exact .inl rfl
    · exact .inl (List.mem_singleton.mp hsame).symm

/-- What does not tell the capitals of ASCII from the small letters does not see the case. -/
theorem SameLetter.map_eq {β : Type} {c c' : Char} (hsame : SameLetter c.toNat c'.toNat)
    {f : Char → β} (hletters : ∀ n < 26, f (Char.ofNat (0x41 + n)) = f (Char.ofNat (0x61 + n))) :
    f c = f c' := by
  rw [← Char.ofNat_toNat c, ← Char.ofNat_toNat c']
  rcases hsame.eq_or_letter with heq | ⟨n, hn, ⟨hc, hc'⟩ | ⟨hc, hc'⟩⟩
  · rw [heq]
  · rw [hc, hc', hletters n hn]
  · rw [hc, hc', hletters n hn]

/-! ## Lower case -/

namespace Text

variable {before before' text text' after after' : List Char}

theorem leadsToCased_of_recased (htext : Recased Char.toNat text text') :
    leadsToCased text = leadsToCased text' := by
  unfold leadsToCased
  induction htext with
  | nil => rfl
  | @cons c c' rest rest' hsame hrest ih =>
      have hignorable : isCaseIgnorable c = isCaseIgnorable c' := hsame.map_eq (by decide)
      have hcased : isCased c = isCased c' := hsame.map_eq (by decide)
      rw [List.dropWhile_cons, List.dropWhile_cons, hignorable]
      by_cases hpassed : isCaseIgnorable c' = true
      · rw [if_pos hpassed, if_pos hpassed]
        exact ih
      · rw [if_neg hpassed, if_neg hpassed]
        exact hcased

theorem lowercaseAt_of_recased {c c' : Char} (hbefore : Recased Char.toNat before before')
    (hsame : SameLetter c.toNat c'.toNat) (hafter : Recased Char.toNat after after') :
    lowercaseAt before c after = lowercaseAt before' c' after' := by
  have hsigma : (c.toNat = 0x3A3) = (c'.toNat = 0x3A3) :=
    hsame.map_eq (f := fun c => c.toNat = 0x3A3) (by decide)
  have hlower : lowercaseChar c = lowercaseChar c' := hsame.map_eq (by decide)
  -- A capital sigma is one in both; its form hangs on the neighbours alone.
  unfold lowercaseAt isFinalSigma
  simp only [leadsToCased_of_recased hbefore, leadsToCased_of_recased hafter, hsigma, hlower]

theorem lowercaseWithin_of_recased (hbefore : Recased Char.toNat before before')
    (htext : Recased Char.toNat text text') (hafter : Recased Char.toNat after after') :
    lowercaseWithin before after text = lowercaseWithin before' after' text' := by
  induction htext generalizing before before' with
  | nil => rfl
  | cons hsame hrest ih =>
      have hbehind := List.rel_append hrest hafter
      rw [lowercaseWithin, lowercaseWithin, lowercaseAt_of_recased hbefore hsame hbehind,
        ih (.cons hsame hbefore)]

/-- The lower case of a text does not show the case of its ASCII letters. -/
theorem lowercase_of_recased (htext : Recased Char.toNat text text') :
    lowercase text = lowercase text' := by
  rw [lowercase_eq, lowercase_eq, lowercaseWithin_of_recased .nil htext .nil]

end Text

/-! ## Decoding -/

namespace Utf8

theorem lead_of_lt {b : UInt8} (hnarrow : b.toNat < 0x80) :
    lead b = .complete (Char.ofNat b.toNat) := by
  unfold lead
  simp [hnarrow]

theorem toNat_ofNat_of_narrow {b : UInt8} (hnarrow : b.toNat < 0x80) :
    (Char.ofNat b.toNat).toNat = b.toNat := by
  rw [Char.toNat_ofNat, if_pos (.inl (by omega))]

/-- What stands at one place of two decoded texts: the same character up to case, or broken
bytes in both. -/
abbrev SameEntry : Option Char → Option Char → Prop :=
  Option.Rel fun c c' => SameLetter c.toNat c'.toNat

theorem SameEntry.refl (entry : Option Char) : SameEntry entry entry := by
  cases entry with
  | none => exact .none
  | some c => exact .some (.refl _)

namespace Decoder

variable {decoder decoder' : Decoder} {b b' : UInt8}

/-- Decoders that have read the same bytes up to the case of letters. -/
structure Alike (decoder decoder' : Decoder) : Prop where
  sound : decoder.Sound
  begun : decoder.begun = decoder'.begun
  decoded : List.Forall₂ SameEntry decoder.decoded decoder'.decoded

theorem Alike.closed (halike : decoder.Alike decoder') :
    List.Forall₂ SameEntry decoder.closed decoder'.closed := by
  unfold Decoder.closed
  rw [← halike.begun]
  cases decoder.begun with
  | none => exact halike.decoded
  | some state => exact .cons .none halike.decoded

theorem Alike.sound' (halike : decoder.Alike decoder') : decoder'.Sound := by
  intro state hstate
  exact halike.sound state (halike.begun.trans hstate)

theorem Alike.feed_self (halike : decoder.Alike decoder') (b : UInt8) :
    (decoder.feed b).Alike (decoder'.feed b) := by
  have hsound := halike.sound.feed b
  obtain ⟨decoded, begun⟩ := decoder
  obtain ⟨decoded', begun'⟩ := decoder'
  obtain rfl : begun = begun' := halike.begun
  have hfed := feed_append [] decoded begun b
  have hfed' := feed_append [] decoded' begun b
  rw [List.nil_append] at hfed hfed'
  refine ⟨hsound, by rw [hfed, hfed'], ?_⟩
  rw [hfed, hfed']
  exact List.rel_append (List.forall₂_same.mpr fun entry _ => .refl entry) halike.decoded

/-- A byte of ASCII goes on with nothing: what has begun is broken, and the byte is read. -/
theorem Sound.feed_narrow (hsound : decoder.Sound) (hnarrow : b.toNat < 0x80) :
    decoder.feed b = ⟨some (Char.ofNat b.toNat) :: decoder.closed, none⟩ := by
  have hlead := lead_of_lt hnarrow
  rw [hsound.feed_lead (by simp [hlead]), startWith]
  simp only [hlead]

theorem Alike.feed_narrow (halike : decoder.Alike decoder') (hnarrow : b.toNat < 0x80)
    (hnarrow' : b'.toNat < 0x80) (hsame : SameLetter b.toNat b'.toNat) :
    (decoder.feed b).Alike (decoder'.feed b') := by
  have hfed := halike.sound.feed_narrow hnarrow
  have hfed' := halike.sound'.feed_narrow hnarrow'
  refine ⟨halike.sound.feed b, by rw [hfed, hfed'], ?_⟩
  rw [hfed, hfed']
  refine .cons (.some ?_) halike.closed
  rwa [toNat_ofNat_of_narrow hnarrow, toNat_ofNat_of_narrow hnarrow']

theorem Alike.feed (halike : decoder.Alike decoder') (hsame : SameLetter b.toNat b'.toNat) :
    (decoder.feed b).Alike (decoder'.feed b') := by
  -- Equal bytes may be any; only letters are known to be narrow.
  rcases hsame.eq_or_letter with heq | ⟨n, hn, hletter⟩
  · obtain rfl : b = b' := UInt8.toNat_inj.mp heq
    exact halike.feed_self b
  · exact halike.feed_narrow (by omega) (by omega) hsame

end Decoder

theorem scan_of_recased {content content' : Bytes}
    (hcontent : Recased UInt8.toNat content content') :
    List.Forall₂ SameEntry (scan content) (scan content') := by
  have hfed : (content.foldl Decoder.feed ⟨[], none⟩).Alike
      (content'.foldl Decoder.feed ⟨[], none⟩) :=
    List.rel_foldl (fun _ _ halike _ _ hsame => halike.feed hsame)
      ⟨Decoder.sound_fresh [], rfl, .nil⟩ hcontent
  rw [scan, scan, Decoder.finish_eq_closed, Decoder.finish_eq_closed]
  exact List.forall₂_reverse_iff.mpr hfed.closed

/-- Broken bytes are replaced at the same places, whatever case the letters have. -/
theorem decodeLossy_of_recased {content content' : Bytes}
    (hcontent : Recased UInt8.toNat content content') :
    Recased Char.toNat (decodeLossy content) (decodeLossy content') := by
  refine List.rel_map ?_ (scan_of_recased hcontent)
  rintro _ _ (hsame | -)
  · exact hsame
  · exact .refl _

end Utf8

/-! ## Verdicts -/

/-- The operator that disregards case. -/
def Comparison.caselessly : Comparison → String
  | equals => "equals"
  | contains => "contains"
  | startsWith => "prefix"
  | endsWith => "suffix"

theorem Comparison.build_caselessly (comparison : Comparison) (arg : String) :
    ContentTest.build comparison.caselessly arg =
      .ok (.caseless comparison (Text.lowercase arg.toList)) := by
  cases comparison <;> rfl

theorem rel_getElem? {α : Type} {R : α → α → Prop} {items items' : List α}
    (hitems : List.Forall₂ R items items') (position : Nat) :
    Option.Rel R items[position]? items'[position]? := by
  induction hitems generalizing position with
  | nil => exact .none
  | cons hfirst _ ih =>
      cases position with
      | zero => exact .some hfirst
      | succ position => exact ih position

section Verdicts

variable {message message' : Message} {arg arg' : String}

theorem part?_of_recased
    (hparts : List.Forall₂ (Recased UInt8.toNat) message.parts message'.parts) (index : Int) :
    Option.Rel (Recased UInt8.toNat) (message.part? index) (message'.part? index) := by
  unfold Message.part? Message.count
  rw [hparts.length_eq]
  cases Message.position? message'.parts.length index with
  | none => exact .none
  | some position => exact rel_getElem? hparts position

theorem passesPart_of_recased
    (hparts : List.Forall₂ (Recased UInt8.toNat) message.parts message'.parts)
    (comparison : Comparison) (lowered : List Char) (part : Int64) :
    (ContentTest.caseless comparison lowered).passesPart part message =
      (ContentTest.caseless comparison lowered).passesPart part message' := by
  have hselected := part?_of_recased hparts part.toInt
  unfold ContentTest.passesPart
  generalize message.part? part.toInt = content at hselected ⊢
  generalize message'.part? part.toInt = content' at hselected ⊢
  cases hselected with
  | none => rfl
  | some hcontent =>
      simp only [ContentTest.passes, ContentTest.lowercase,
        Text.lowercase_of_recased (Utf8.decodeLossy_of_recased hcontent)]

/-- An operator that disregards case says the same whatever case the ASCII letters of the
argument and of the parts have, whichever bytes and characters stand around them. -/
theorem caseless_ignores_ascii_case
    (hparts : List.Forall₂ (Recased UInt8.toNat) message.parts message'.parts)
    (harg : Recased Char.toNat arg.toList arg'.toList) (comparison : Comparison) (part : Int64) :
    ∃ answer, contentVerdict comparison.caselessly part arg message = .ok answer ∧
      contentVerdict comparison.caselessly part arg' message' = .ok answer := by
  have hbuild := comparison.build_caselessly arg
  have hbuild' := comparison.build_caselessly arg'
  rw [← Text.lowercase_of_recased harg] at hbuild'
  refine ⟨_, contentVerdict_of_build hbuild part message, ?_⟩
  rw [contentVerdict_of_build hbuild' part message', passesPart_of_recased hparts]

end Verdicts

theorem caseless_ignores_ascii_case_of_sigma :
    let message := Message.single ([0xFF] ++ Utf8.encode "Σa" ++ [0xE2, 0x82] ++ Utf8.encode "AΣ")
    let message' := Message.single ([0xFF] ++ Utf8.encode "ΣA" ++ [0xE2, 0x82] ++ Utf8.encode "aΣ")
    List.Forall₂ (Recased UInt8.toNat) message.parts message'.parts ∧
      Recased Char.toNat "aΣ".toList "AΣ".toList ∧
      ∃ answer, contentVerdict Comparison.endsWith.caselessly 0 "aΣ" message = .ok answer ∧
        contentVerdict Comparison.endsWith.caselessly 0 "AΣ" message' = .ok answer := by
  intro message message'
  have hparts : List.Forall₂ (Recased UInt8.toNat) message.parts message'.parts := by
    unfold Recased
    decide
  have harg : Recased Char.toNat "aΣ".toList "AΣ".toList := by
    unfold Recased
    decide
  exact ⟨hparts, harg, caseless_ignores_ascii_case hparts harg .endsWith 0⟩

end Intake
