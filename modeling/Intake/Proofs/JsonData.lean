import Intake.Json.Reader
import Intake.Proofs.ConfigEncoding

/-!
# Data that JSON can bring

What is read from a JSON text has no dates, no numbers that nothing can hold, and no
integers that need more than 64 bits: those are read as numbers with a point.  So all of it
can be kept for later, whatever stands in it.
-/

namespace Intake

open Fields Datum

/-- Data that a JSON text can note down. -/
inductive Datum.IsJson : Datum → Prop where
  | null : IsJson .null
  | boolean (value : Bool) : IsJson (.boolean value)
  | integer {value : Int} (hlow : -2 ^ 63 ≤ value) (hhigh : value < 2 ^ 64) :
      IsJson (.integer value)
  | real (value : Binary64) : IsJson (.real value)
  | text (value : String) : IsJson (.text value)
  | list {items : List Datum} (hitems : ∀ item ∈ items, IsJson item) : IsJson (.list items)
  | table {entries : List (String × Datum)} (hentries : ∀ entry ∈ entries, IsJson entry.2) :
      IsJson (.table entries)

/-- All of it can be kept for later. -/
theorem Datum.IsJson.keep {datum : Datum} (hjson : datum.IsJson) : keep datum = .ok () := by
  induction hjson with
  | null | boolean | real | text => rfl
  | @integer value hlow hhigh =>
      have hfits : Word.fits 64 value = true := by
        rw [Word.fits_iff, show Word.size 63 = 2 ^ 63 from rfl, show Word.size 64 = 2 ^ 64 from rfl]
        exact ⟨by push_cast; exact hlow, by push_cast; exact hhigh⟩
      rw [Fields.keep, hfits, if_pos rfl]
  | list hitems ih => exact keepItems_eq_ok_iff.mpr ih
  | table hentries ih => exact keepEntries_eq_ok_iff.mpr ih

theorem Datum.IsJson.insert {key : String} {value : Datum} {entries : List (String × Datum)}
    (hvalue : value.IsJson) (hentries : ∀ entry ∈ entries, IsJson entry.2) :
    ∀ entry ∈ Datum.insert key value entries, IsJson entry.2 := by
  induction entries with
  | nil => simpa [Datum.insert] using hvalue
  | cons entry rest ih =>
      obtain ⟨name, other⟩ := entry
      obtain ⟨hother, hrest⟩ := List.forall_mem_cons.mp hentries
      rw [Datum.insert]
      split
      · exact List.forall_mem_cons.mpr ⟨hvalue, hrest⟩
      · split
        · exact List.forall_mem_cons.mpr ⟨hvalue, hentries⟩
        · exact List.forall_mem_cons.mpr ⟨hother, ih hrest⟩

namespace Json

/-- What a reader makes, if it makes anything, is JSON data. -/
def MakesJson (read : Option (Datum × List Char)) : Prop :=
  ∀ datum rest, read = some (datum, rest) → datum.IsJson

theorem makesJson_none : MakesJson none := by
  rintro _ _ ⟨⟩

theorem makesJson_some {datum : Datum} (rest : List Char) (hjson : datum.IsJson) :
    MakesJson (some (datum, rest)) := by
  rintro _ _ ⟨⟩
  exact hjson

theorem makesJson_bind {α : Type} {first : Option α} {next : α → Option (Datum × List Char)}
    (hnext : ∀ value, first = some value → MakesJson (next value)) :
    MakesJson (first >>= next) := by
  cases first with
  | none => exact makesJson_none
  | some value => exact hnext value rfl

/-- An integer fits a word, or it is read as a number with a point. -/
theorem makesJson_digits (negative plain : Bool) (digits : Nat) (scale : Int) (rest : List Char) :
    MakesJson (if (plain && if negative = true then
          decide (0 < digits) && Word.fitsSigned 64 (-(digits : Int))
        else Word.fitsUnsigned 64 digits) = true then
        some (Datum.integer (if negative = true then -(digits : Int) else digits), rest)
      else
        match Binary64.ofDecimal negative digits scale with
        | .infinite _ => none
        | value => some (.real value, rest)) := by
  have hreal : MakesJson (match Binary64.ofDecimal negative digits scale with
      | .infinite _ => none
      | value => some (.real value, rest)) := by
    split
    · exact makesJson_none
    · exact makesJson_some rest (.real _)
  cases negative with
  | true =>
      simp only [if_true]
      by_cases hinteger : (plain && (decide (0 < digits) &&
          Word.fitsSigned 64 (-(digits : Int)))) = true
      · simp only [hinteger, if_true]
        simp only [Bool.and_eq_true, fitsSigned_iff] at hinteger
        exact makesJson_some rest (.integer (by omega) (by omega))
      · simpa only [hinteger, Bool.false_eq_true, if_false] using hreal
  | false =>
      simp only [Bool.false_eq_true, if_false]
      by_cases hinteger : (plain && Word.fitsUnsigned 64 digits) = true
      · simp only [hinteger, if_true]
        simp only [Bool.and_eq_true, fitsUnsigned_iff] at hinteger
        exact makesJson_some rest (.integer (by omega) (by omega))
      · simpa only [hinteger, Bool.false_eq_true, if_false] using hreal

theorem makesJson_number (cs : List Char) : MakesJson (number? cs) := by
  unfold number?
  -- every way through sign, fraction and exponent ends with the digits or with nothing
  split
  all_goals
    dsimp only
    repeat' first
      | exact makesJson_digits _ _ _ _ _
      | refine makesJson_bind fun _ _ => ?_
      | split

theorem makesJson_value (fuel : Nat) : (∀ cs, MakesJson (value? fuel cs)) ∧
    (∀ taken cs, (∀ item ∈ taken, IsJson item) → MakesJson (items? fuel taken cs)) ∧
    ∀ taken cs, (∀ entry ∈ taken, IsJson entry.2) → MakesJson (entries? fuel taken cs) := by
  induction fuel with
  | zero =>
      refine ⟨fun cs => ?_, fun taken cs _ => ?_, fun taken cs _ => ?_⟩
      · rw [value?]
        exact makesJson_none
      · rw [items?]
        exact makesJson_none
      · rw [entries?]
        exact makesJson_none
  | succ fuel ih =>
      obtain ⟨hvalue, hitems, hentries⟩ := ih
      refine ⟨fun cs => ?_, fun taken cs htaken => ?_, fun taken cs htaken => ?_⟩
      · rw [value?]
        split
        · exact makesJson_bind fun _ _ => makesJson_some _ (.text _)
        · split
          · exact makesJson_some _ (.list (by simp))
          · exact hitems _ _ (by simp)
        · split
          · exact makesJson_some _ (.table (by simp))
          · exact hentries _ _ (by simp)
        · exact makesJson_some _ (.boolean true)
        · exact makesJson_some _ (.boolean false)
        · exact makesJson_some _ .null
        · exact makesJson_number _
      · rw [items?]
        refine makesJson_bind fun ⟨item, rest⟩ hitem => ?_
        have hmore : ∀ other ∈ item :: taken, IsJson other :=
          List.forall_mem_cons.mpr ⟨hvalue cs item rest hitem, htaken⟩
        dsimp only
        split
        · exact hitems _ _ hmore
        · exact makesJson_some _
            (.list fun other hother => hmore other (List.mem_reverse.mp hother))
        · exact makesJson_none
      · rw [entries?]
        split
        · refine makesJson_bind fun ⟨key, rest⟩ _ => ?_
          dsimp only
          split
          · refine makesJson_bind fun ⟨value, rest⟩ hread => ?_
            have hmore : ∀ entry ∈ Datum.insert key value taken, IsJson entry.2 :=
              (hvalue _ value rest hread).insert htaken
            dsimp only
            split
            · exact hentries _ _ hmore
            · exact makesJson_some _ (.table hmore)
            · exact makesJson_none
          · exact makesJson_none
        · exact makesJson_none

/-- Whatever a JSON text notes down is JSON data. -/
theorem isJson_of_read {text : String} {datum : Datum} (hread : read? text = some datum) :
    datum.IsJson := by
  simp only [read?, Option.bind_eq_bind, Option.bind_eq_some_iff] at hread
  obtain ⟨⟨value, rest⟩, hvalue, hrest⟩ := hread
  obtain ⟨-, rfl⟩ : (skipBlanks rest).isEmpty = true ∧ value = datum := by simpa using hrest
  exact (makesJson_value _).1 _ _ _ hvalue

end Json

end Intake
