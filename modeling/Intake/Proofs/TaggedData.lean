import Intake.Config.Fields
import Mathlib

/-!
# Tables, tags and what is kept of them

A table is known by what its keys lead to, and two tables whose entries stand in another
order are the same value written down twice.  This module says what the decoder of a tagged
value needs of a table: its tag, the fields that it looks up, and that everything can be
kept until then.
-/

namespace Intake

theorem bind_eq_ok_iff {α β : Type} {first : Decoded α} {next : α → Decoded β} {result : β} :
    first >>= next = .ok result ↔ ∃ value, first = .ok value ∧ next value = .ok result := by
  cases first <;> simp [bind, Except.bind]

theorem check_eq_ok_iff {β : Type} {check : Decoded Unit} {next : Decoded β} {result : β} :
    (do check; next) = .ok result ↔ check = .ok () ∧ next = .ok result := by
  cases check <;> simp [bind, Except.bind]

theorem map_eq_ok_iff {α β : Type} {first : Decoded α} {f : α → β} {result : β} :
    Except.map f first = .ok result ↔ ∃ value, first = .ok value ∧ f value = result := by
  cases first <;> simp [Except.map]

namespace Datum

variable {entries others : List (String × Datum)} {key : String} {value : Datum}

theorem mem_of_lookup (hfound : lookup entries key = some value) : (key, value) ∈ entries := by
  induction entries with
  | nil => simp [lookup] at hfound
  | cons entry rest ih =>
      obtain ⟨name, other⟩ := entry
      rw [lookup] at hfound
      split at hfound
      · next hname =>
        cases hfound
        simp [hname]
      · exact List.mem_cons_of_mem _ (ih hfound)

theorem lookup_eq_some_iff (hdistinct : (entries.map Prod.fst).Nodup) :
    lookup entries key = some value ↔ (key, value) ∈ entries := by
  refine ⟨mem_of_lookup, fun hmem => ?_⟩
  induction entries with
  | nil => simp at hmem
  | cons entry rest ih =>
      obtain ⟨name, other⟩ := entry
      rw [List.map_cons, List.nodup_cons] at hdistinct
      rcases List.mem_cons.mp hmem with heq | hrest
      · cases heq
        exact lookup_cons_self key value rest
      · have hname : name ≠ key := by
          rintro rfl
          exact hdistinct.1 (List.mem_map.mpr ⟨_, hrest, rfl⟩)
        rw [lookup, if_neg hname]
        exact ih hdistinct.2 hrest

/-- What a key leads to does not depend on the order of the entries. -/
theorem lookup_eq_of_perm (hperm : entries.Perm others)
    (hdistinct : (entries.map Prod.fst).Nodup) (key : String) :
    lookup others key = lookup entries key := by
  have hdistinct' : (others.map Prod.fst).Nodup := (hperm.map Prod.fst).nodup_iff.mp hdistinct
  ext value
  rw [lookup_eq_some_iff hdistinct, lookup_eq_some_iff hdistinct', hperm.mem_iff]

/-- Whether a value holds no others. -/
def isScalar : Datum → Bool
  | list _ | table _ => false
  | _ => true

mutual

/-- The same value with the entries of its tables in another order. -/
inductive Reorders : Datum → Datum → Prop where
  | scalar {datum : Datum} : datum.isScalar = true → Reorders datum datum
  | list {items others : List Datum} :
      ReordersItems items others → Reorders (.list items) (.list others)
  | table {entries values others : List (String × Datum)} :
      ReordersValues entries values → values.Perm others →
      Reorders (.table entries) (.table others)

inductive ReordersItems : List Datum → List Datum → Prop where
  | nil : ReordersItems [] []
  | cons {item other : Datum} {items others : List Datum} :
      Reorders item other → ReordersItems items others →
      ReordersItems (item :: items) (other :: others)

inductive ReordersValues : List (String × Datum) → List (String × Datum) → Prop where
  | nil : ReordersValues [] []
  | cons {key : String} {value other : Datum} {entries others : List (String × Datum)} :
      Reorders value other → ReordersValues entries others →
      ReordersValues ((key, value) :: entries) ((key, other) :: others)

end

mutual

/-- The order of the entries may also stay as it is. -/
theorem Reorders.refl : (datum : Datum) → Reorders datum datum
  | .list items => .list (ReordersItems.refl items)
  | .table entries => .table (ReordersValues.refl entries) (.refl entries)
  | .null | .boolean _ | .integer _ | .real _ | .oversized | .text _ | .moment _ => .scalar rfl

theorem ReordersItems.refl : (items : List Datum) → ReordersItems items items
  | [] => .nil
  | item :: rest => .cons (Reorders.refl item) (ReordersItems.refl rest)

theorem ReordersValues.refl : (entries : List (String × Datum)) → ReordersValues entries entries
  | [] => .nil
  | (_, value) :: rest => .cons (Reorders.refl value) (ReordersValues.refl rest)

end

theorem Reorders.eq_of_isScalar {datum other : Datum} (h : Reorders datum other)
    (hscalar : datum.isScalar = true) : other = datum := by
  cases h with
  | scalar => rfl
  | list | table => cases hscalar

theorem ReordersItems.eq_of_isScalar {items others : List Datum} (h : ReordersItems items others)
    (hscalar : ∀ item ∈ items, item.isScalar = true) : others = items := by
  induction items generalizing others with
  | nil => cases h; rfl
  | cons item rest ih =>
      obtain ⟨hfirst, hmore⟩ := List.forall_mem_cons.mp hscalar
      cases h with
      | cons hitem hrest => rw [hitem.eq_of_isScalar hfirst, ih hrest hmore]

theorem Reorders.exists_table {datum : Datum} (h : Reorders (.table entries) datum) :
    ∃ values others, datum = .table others ∧ ReordersValues entries values ∧
      values.Perm others := by
  cases h with
  | scalar hscalar => cases hscalar
  | table hvalues hperm => exact ⟨_, _, rfl, hvalues, hperm⟩

theorem ReordersValues.map_fst (h : ReordersValues entries others) :
    others.map Prod.fst = entries.map Prod.fst := by
  induction entries generalizing others with
  | nil => cases h; rfl
  | cons entry rest ih =>
      cases h with
      | cons _ hrest => simp [ih hrest]

/-- A field of a table that was reordered is that field reordered, if there is one. -/
theorem ReordersValues.lookup (h : ReordersValues entries others) (key : String) :
    match lookup entries key with
    | some value => ∃ other, lookup others key = some other ∧ Reorders value other
    | none => lookup others key = none := by
  induction entries generalizing others with
  | nil => cases h; rfl
  | cons entry rest ih =>
      obtain ⟨name, value⟩ := entry
      cases h with
      | cons hvalue hrest =>
          by_cases hname : name = key
          · simpa [Datum.lookup, hname] using hvalue
          · simpa [Datum.lookup, hname] using ih hrest

section Table

variable {datum : Datum} (h : Reorders (.table entries) (.table others))
  (hdistinct : (entries.map Prod.fst).Nodup)
include h hdistinct

theorem Reorders.lookup (key : String) :
    match Datum.lookup entries key with
    | some value => ∃ other, Datum.lookup others key = some other ∧ Reorders value other
    | none => Datum.lookup others key = none := by
  obtain ⟨values, others', heq, hvalues, hperm⟩ := h.exists_table
  cases heq
  have hdistinct' : (values.map Prod.fst).Nodup := by rwa [hvalues.map_fst]
  rw [lookup_eq_of_perm hperm hdistinct']
  exact hvalues.lookup key

theorem Reorders.lookup_some (key : String) (hfound : Datum.lookup entries key = some value) :
    ∃ other, Datum.lookup others key = some other ∧ Reorders value other := by
  simpa [hfound] using h.lookup hdistinct key

theorem Reorders.lookup_scalar (key : String) (hfound : Datum.lookup entries key = some value)
    (hscalar : value.isScalar = true) : Datum.lookup others key = some value := by
  obtain ⟨other, hother, hsame⟩ := h.lookup_some hdistinct key hfound
  rw [hother, hsame.eq_of_isScalar hscalar]

theorem Reorders.lookup_none (key : String) (hnone : Datum.lookup entries key = none) :
    Datum.lookup others key = none := by
  simpa [hnone] using h.lookup hdistinct key

end Table

end Datum

namespace Fields

open Datum

variable {κ : Type} {place : Place} {name : κ → String} {known : List κ} {kind : κ}
  {entries : List (String × Datum)} {value : Datum}

theorem keepItems_eq_ok_iff {items : List Datum} :
    keepItems items = .ok () ↔ ∀ item ∈ items, keep item = .ok () := by
  induction items with
  | nil => simp [keepItems]
  | cons item rest ih => simp [keepItems, check_eq_ok_iff, ih]

theorem keepEntries_eq_ok_iff :
    keepEntries entries = .ok () ↔ ∀ entry ∈ entries, keep entry.2 = .ok () := by
  induction entries with
  | nil => simp [keepEntries]
  | cons entry rest ih => simp [keepEntries, check_eq_ok_iff, ih]

theorem refuse_ne_ok {α : Type} {found : Datum} {expected : Expected} {result : α} :
    refuse found expected ≠ .ok result := by
  unfold refuse
  split
  · simp
  · split <;> simp
  · simp

mutual

/-- What can be kept can be kept in another order. -/
theorem keep_of_reorders : (datum : Datum) → {other : Datum} → Reorders datum other →
    keep datum = .ok () → keep other = .ok ()
  | .null, _, h, hkeep | .boolean _, _, h, hkeep | .integer _, _, h, hkeep
  | .real _, _, h, hkeep | .oversized, _, h, hkeep | .text _, _, h, hkeep
  | .moment _, _, h, hkeep => by rwa [h.eq_of_isScalar rfl]
  | .list items, other, h, hkeep => by
      cases h with
      | scalar hscalar => cases hscalar
      | list hitems => exact keepItems_of_reorders items hitems hkeep
  | .table entries, other, h, hkeep => by
      obtain ⟨values, others, rfl, hvalues, hperm⟩ := h.exists_table
      have hkept := keepEntries_eq_ok_iff.mp (keepEntries_of_reorders entries hvalues hkeep)
      exact keepEntries_eq_ok_iff.mpr fun entry hmem => hkept entry (hperm.mem_iff.mpr hmem)

theorem keepItems_of_reorders : (items : List Datum) → {others : List Datum} →
    ReordersItems items others → keepItems items = .ok () → keepItems others = .ok ()
  | [], _, h, _ => by cases h; rfl
  | item :: rest, _, h, hkeep => by
      cases h with
      | cons hitem hrest =>
          obtain ⟨hfirst, hmore⟩ := check_eq_ok_iff.mp hkeep
          exact check_eq_ok_iff.mpr
            ⟨keep_of_reorders item hitem hfirst, keepItems_of_reorders rest hrest hmore⟩

theorem keepEntries_of_reorders : (entries : List (String × Datum)) →
    {others : List (String × Datum)} → ReordersValues entries others →
    keepEntries entries = .ok () → keepEntries others = .ok ()
  | [], _, h, _ => by cases h; rfl
  | (_, value) :: rest, _, h, hkeep => by
      cases h with
      | cons hvalue hrest =>
          obtain ⟨hfirst, hmore⟩ := check_eq_ok_iff.mp hkeep
          exact check_eq_ok_iff.mpr
            ⟨keep_of_reorders value hvalue hfirst, keepEntries_of_reorders rest hrest hmore⟩

end

/-- A tag is the name of a kind or its position. -/
theorem tag_eq_ok (htag : tag place name known value = .ok kind) :
    value = .text (name kind) ∨
      ∃ position, value = .integer position ∧ known[position.toNat]? = some kind := by
  unfold tag at htag
  split at htag
  · next text =>
    unfold named at htag
    split at htag
    · next found hfound =>
      cases htag
      have hname : name kind = text := by simpa using List.find?_some hfound
      exact .inl (by rw [hname])
    · cases htag
  · next position =>
    split at htag
    · split at htag
      · next found hfound =>
        cases htag
        exact .inr ⟨position, rfl, hfound⟩
      · cases htag
    · exact absurd htag refuse_ne_ok
  · exact absurd htag refuse_ne_ok

theorem exists_tag_of_tagOf (htag : tagOf place name known entries = .ok kind) :
    ∃ value, lookup entries "type" = some value ∧ tag place name known value = .ok kind := by
  induction entries with
  | nil => cases htag
  | cons entry rest ih =>
      obtain ⟨key, value⟩ := entry
      rw [tagOf] at htag
      rw [lookup]
      split at htag
      · next hkey =>
        obtain ⟨found, hfound, hrest⟩ := bind_eq_ok_iff.mp htag
        obtain ⟨-, -, heq⟩ := bind_eq_ok_iff.mp hrest
        cases heq
        exact ⟨value, if_pos hkey, hfound⟩
      · next hkey =>
        obtain ⟨-, -, hrest⟩ := bind_eq_ok_iff.mp htag
        obtain ⟨value, hfound, htag⟩ := ih hrest
        exact ⟨value, by rw [if_neg hkey, hfound], htag⟩

theorem tagOf_eq_ok (hfound : lookup entries "type" = some value)
    (htag : tag place name known value = .ok kind)
    (hkeep : ∀ entry ∈ entries, keep entry.2 = .ok ()) :
    tagOf place name known entries = .ok kind := by
  induction entries with
  | nil => simp [lookup] at hfound
  | cons entry rest ih =>
      obtain ⟨key, other⟩ := entry
      rw [lookup] at hfound
      rw [tagOf]
      have hrest : ∀ entry ∈ rest, keep entry.2 = .ok () :=
        fun entry hmem => hkeep entry (List.mem_cons_of_mem _ hmem)
      split at hfound
      · next hkey =>
        cases hfound
        rw [if_pos hkey, htag]
        simp [bind, Except.bind, keepEntries_eq_ok_iff.mpr hrest]
      · next hkey =>
        rw [if_neg hkey, hkeep (key, other) (by simp)]
        exact ih hfound hrest

section Nullable

variable {α : Type} {key : String} {decode : Datum → Decoded α}

theorem nullable_absent (hnone : (lookup entries key).getD .null = .null) :
    nullable entries key (fun value _ => decode value) = .ok none := by
  unfold nullable
  split
  · rfl
  · rfl
  · next value hnull hfound =>
    rw [hfound] at hnone
    exact absurd hnone hnull

theorem nullable_present (hfound : lookup entries key = some value) (hvalue : value ≠ .null) :
    nullable entries key (fun value _ => decode value) = (decode value).map some := by
  unfold nullable
  split
  · next hnone => simp [hfound] at hnone
  · next hnull =>
    rw [hfound] at hnull
    cases hnull
    exact absurd rfl hvalue
  · next hother =>
    rw [hfound] at hother
    cases hother
    rfl

theorem nullable_eq_ok {result : Option α}
    (h : nullable entries key (fun value _ => decode value) = .ok result) :
    (lookup entries key).getD .null = .null ∧ result = none ∨
      ∃ value inner, lookup entries key = some value ∧ decode value = .ok inner ∧
        result = some inner := by
  unfold nullable at h
  split at h
  · next hnone =>
    cases h
    exact .inl ⟨by rw [hnone]; rfl, rfl⟩
  · next hnull =>
    cases h
    exact .inl ⟨by rw [hnull]; rfl, rfl⟩
  · next value _ hfound =>
    obtain ⟨inner, hinner, rfl⟩ := map_eq_ok_iff.mp h
    exact .inr ⟨value, inner, hfound, hinner, rfl⟩

end Nullable

/-- Reordering a tagged table leaves a table with the same tag. -/
theorem exists_tagged (place : Place) {datum : Datum} (h : Reorders (.table entries) datum)
    (hdistinct : (entries.map Prod.fst).Nodup) (hkeep : keep (.table entries) = .ok ())
    (hfound : lookup entries "type" = some (.text (name kind)))
    (hknown : named name known (name kind) = .ok kind) :
    ∃ others, datum = .table others ∧ Reorders (.table entries) (.table others) ∧
      tagOf place name known others = .ok kind := by
  obtain ⟨_, others, rfl, -⟩ := h.exists_table
  have hkept : keepEntries others = .ok () := keep_of_reorders _ h hkeep
  have htype := h.lookup_scalar hdistinct "type" hfound rfl
  exact ⟨others, rfl, h, tagOf_eq_ok htype hknown (keepEntries_eq_ok_iff.mp hkept)⟩

end Fields

end Intake
