import Intake.Proofs.ConfigSpellings

/-!
# Data that spells no configuration

A single place that does not fit, however deep, is enough for decoding to refuse the whole:
a field without a default that is not given, an input wrapped under both names, a list that
goes on behind the last field, an integer that does not fit its word.  Whatever decodes has
none of these, and all that is decoded within it has none either.
-/

namespace Intake

open Fields Datum

/-! ## Misfits -/

/-- The data is an integer between two bounds.  JSON reads integers that fit no word as
numbers with a point, which are between no bounds. -/
def Datum.IsWithin (low high : Int) (datum : Datum) : Prop :=
  ∃ value, datum = .integer value ∧ low ≤ value ∧ value < high

/-- A list has more items behind the tag than its kind has fields. -/
def Overfull (fields : List String) (datum : Datum) : Prop :=
  ∃ first items, datum = .list (first :: items) ∧ fields.length < items.length

/-- Data with a misfit in it, at the top or in what is decoded below. -/
inductive UnfitCondition : Datum → Prop where
  | kindless {datum : Datum} : (∀ kind, ¬ GivesCondition datum kind) → UnfitCondition datum
  | overfull {datum : Datum} {kind : ConditionKind} : GivesCondition datum kind →
      Overfull kind.fields datum → UnfitCondition datum
  | part {datum value : Datum} : GivesCondition datum .content →
      ConditionKind.content.given "part" datum = some value →
      ¬ value.IsWithin (-2 ^ 63) (2 ^ 63) → UnfitCondition datum
  | arg {datum value : Datum} : GivesCondition datum .count →
      ConditionKind.count.given "arg" datum = some value →
      ¬ value.IsWithin 0 (2 ^ 64) → UnfitCondition datum
  | conditionless {datum : Datum} : GivesCondition datum .not →
      ConditionKind.not.given "condition" datum = none → UnfitCondition datum
  | not {datum inner : Datum} : GivesCondition datum .not →
      ConditionKind.not.given "condition" datum = some inner → UnfitCondition inner →
      UnfitCondition datum
  | and {datum item : Datum} {items : List Datum} : GivesCondition datum .and →
      ConditionKind.and.given "conditions" datum = some (.list items) → item ∈ items →
      UnfitCondition item → UnfitCondition datum
  | or {datum item : Datum} {items : List Datum} : GivesCondition datum .or →
      ConditionKind.or.given "conditions" datum = some (.list items) → item ∈ items →
      UnfitCondition item → UnfitCondition datum

inductive UnfitInput : Datum → Prop where
  | kindless {datum : Datum} : (∀ kind, ¬ GivesInput datum kind) → UnfitInput datum
  | overfull {datum : Datum} {kind : InputKind} : GivesInput datum kind →
      Overfull kind.fields datum → UnfitInput datum
  | pathless {datum : Datum} : GivesInput datum .file →
      InputKind.file.given "path" datum = none → UnfitInput datum
  | twofold {datum : Datum} : GivesInput datum .readUntil → ¬ GivesOneChild datum →
      UnfitInput datum
  | conditionless {datum : Datum} : GivesInput datum .readUntil →
      InputKind.readUntil.given "condition" datum = none → UnfitInput datum
  | condition {datum inner : Datum} : GivesInput datum .readUntil →
      InputKind.readUntil.given "condition" datum = some inner → UnfitCondition inner →
      UnfitInput datum
  | child {datum : Datum} : GivesInput datum .readUntil → givenChild datum ≠ .null →
      UnfitInput (givenChild datum) → UnfitInput datum

/-! ## What decodes fits -/

/-- Data gives one kind at most. -/
theorem Gives.unique {κ : Type} {name : κ → String} (hname : Function.Injective name)
    {known : List κ} {datum : Datum} {kind other : κ} (hkind : Gives name known datum kind)
    (hother : Gives name known datum other) : kind = other := by
  obtain ⟨tag, hwhere, hsays⟩ := hkind
  obtain ⟨tag', hwhere', hsays'⟩ := hother
  obtain rfl : tag = tag' := by
    rcases hwhere with hfound | ⟨items, rfl⟩
    · rcases hwhere' with hfound' | ⟨items', rfl⟩
      · exact Option.some.inj (hfound.symm.trans hfound')
      · cases hfound
    · rcases hwhere' with hfound' | ⟨items', heq⟩
      · cases hfound'
      · cases heq
        rfl
  rcases hsays with rfl | ⟨position, rfl, hposition⟩
  · rcases hsays' with heq | ⟨_, heq, _⟩
    · exact hname (by injection heq)
    · cases heq
  · rcases hsays' with heq | ⟨position', heq, hposition'⟩
    · cases heq
    · cases heq
      exact Option.some.inj (hposition.symm.trans hposition')

theorem ConditionKind.name_injective : Function.Injective ConditionKind.name := by
  intro kind other hname
  cases kind <;> cases other <;> first | rfl | exact absurd hname (by decide)

theorem InputKind.name_injective : Function.Injective InputKind.name := by
  intro kind other hname
  cases kind <;> cases other <;> first | rfl | exact absurd hname (by decide)

section Taken

variable {place : Place} {datum value : Datum} {condition : ConditionConfig}
  {input : InputConfig}

theorem ConditionTaken.gives (htaken : ConditionTaken place datum condition) :
    GivesCondition datum condition.kind := by
  cases htaken <;> assumption

theorem InputTaken.gives (htaken : InputTaken place datum input) :
    GivesInput datum input.kind := by
  cases htaken <;> assumption

/-- Data that gives a kind decodes to that kind or not at all. -/
theorem ConditionTaken.of_gives {kind : ConditionKind} (hgives : GivesCondition datum kind)
    (h : decodeCondition place datum = .ok condition) :
    ConditionTaken place datum condition ∧ condition.kind = kind :=
  have htaken := taken_of_decodeCondition h
  ⟨htaken, htaken.gives.unique ConditionKind.name_injective hgives⟩

theorem InputTaken.of_gives {kind : InputKind} (hgives : GivesInput datum kind)
    (h : decodeInput place datum = .ok input) :
    InputTaken place datum input ∧ input.kind = kind :=
  have htaken := taken_of_decodeInput h
  ⟨htaken, htaken.gives.unique InputKind.name_injective hgives⟩

theorem isWithin_of_signed {part : Int64} (hpart : signed value = .ok part) :
    value.IsWithin (-2 ^ 63) (2 ^ 63) := by
  obtain rfl := signed_eq_ok_iff.mp hpart
  exact ⟨_, rfl, part.le_toInt, part.toInt_lt⟩

theorem isWithin_of_unsigned {arg : UInt64} (harg : unsigned .usize value = .ok arg) :
    value.IsWithin 0 (2 ^ 64) := by
  obtain rfl := unsigned_eq_ok_iff.mp harg
  exact ⟨_, rfl, Int.natCast_nonneg _, by exact_mod_cast arg.toNat_lt⟩

theorem le_of_noSurplus {items : List Datum} {wanted : Nat}
    (hfull : noSurplus items wanted = .ok ()) : items.length ≤ wanted := by
  by_contra hmore
  rw [noSurplus, if_neg hmore] at hfull
  cases hfull

theorem length_le_of_decodeCondition {first : Datum} {items : List Datum}
    (h : decodeCondition place (.list (first :: items)) = .ok condition) :
    items.length ≤ condition.kind.fields.length := by
  rw [decodeCondition_list] at h
  obtain ⟨kind, -, h⟩ := bind_eq_ok_iff.mp h
  obtain ⟨-, h⟩ := check_eq_ok_iff.mp h
  cases kind with
  | content =>
      obtain ⟨_, -, h⟩ := bind_eq_ok_iff.mp h
      obtain ⟨_, -, h⟩ := bind_eq_ok_iff.mp h
      obtain ⟨_, -, h⟩ := bind_eq_ok_iff.mp h
      obtain ⟨hfull, h⟩ := check_eq_ok_iff.mp h
      cases h
      exact le_of_noSurplus hfull
  | count | static | and | or =>
      obtain ⟨_, -, h⟩ := bind_eq_ok_iff.mp h
      obtain ⟨hfull, h⟩ := check_eq_ok_iff.mp h
      cases h
      exact le_of_noSurplus hfull
  | not =>
      cases items with
      | nil => cases h
      | cons inner rest =>
          obtain ⟨_, -, h⟩ := bind_eq_ok_iff.mp h
          obtain ⟨hfull, h⟩ := check_eq_ok_iff.mp h
          cases h
          exact le_of_noSurplus hfull

theorem length_le_of_decodeInput {first : Datum} {items : List Datum}
    (h : decodeInput place (.list (first :: items)) = .ok input) :
    items.length ≤ input.kind.fields.length := by
  rw [decodeInput_list] at h
  obtain ⟨kind, -, h⟩ := bind_eq_ok_iff.mp h
  obtain ⟨-, h⟩ := check_eq_ok_iff.mp h
  cases kind with
  | file =>
      cases items with
      | nil => cases h
      | cons path rest =>
          obtain ⟨_, -, h⟩ := bind_eq_ok_iff.mp h
          obtain ⟨_, -, h⟩ := bind_eq_ok_iff.mp h
          obtain ⟨hfull, h⟩ := check_eq_ok_iff.mp h
          cases h
          exact le_of_noSurplus hfull
  | stdin | memory =>
      obtain ⟨_, -, h⟩ := bind_eq_ok_iff.mp h
      obtain ⟨hfull, h⟩ := check_eq_ok_iff.mp h
      cases h
      exact le_of_noSurplus hfull
  | readUntil =>
      obtain ⟨_, -, h⟩ := bind_eq_ok_iff.mp h
      obtain ⟨_, -, h⟩ := bind_eq_ok_iff.mp h
      split at h
      · cases h
      · obtain ⟨_, -, h⟩ := bind_eq_ok_iff.mp h
        obtain ⟨hfull, h⟩ := check_eq_ok_iff.mp h
        cases h
        exact le_of_noSurplus hfull

/-- An input that decodes is not wrapped under both names.  In a list there is one place for
it only. -/
theorem givesOneChild_of_decodeInput (hkind : input.kind = .readUntil)
    (h : decodeInput place datum = .ok input) : GivesOneChild datum := by
  cases datum with
  | table entries =>
      have hdecodes := h
      rw [decodeInput_table] at h
      obtain ⟨kind, htag, h⟩ := bind_eq_ok_iff.mp h
      obtain rfl := (InputTaken.of_gives (gives_table htag) hdecodes).2.symm.trans hkind
      obtain ⟨_, -, h⟩ := bind_eq_ok_iff.mp h
      obtain ⟨_, -, h⟩ := bind_eq_ok_iff.mp h
      obtain ⟨_, -, h⟩ := bind_eq_ok_iff.mp h
      obtain ⟨hunique, -⟩ := check_eq_ok_iff.mp h
      by_contra hboth
      obtain ⟨hinput, hwrapped⟩ := not_or.mp hboth
      have hinput : (lookup entries "input").isSome := Option.isSome_iff_ne_none.mpr hinput
      have hwrapped : (lookup entries "wrapped_input").isSome :=
        Option.isSome_iff_ne_none.mpr hwrapped
      rw [notBoth, hinput, hwrapped] at hunique
      cases hunique
  | list items =>
      cases items with
      | nil => exact .inl rfl
      | cons first rest =>
          refine .inr ?_
          show lookup (List.zip _ rest) "wrapped_input" = none
          cases rest with
          | nil => rfl
          | cons _ rest => cases rest with
            | nil => rfl
            | cons _ rest => cases rest <;> rfl
  | _ => exact .inl rfl

end Taken

/-! ## Misfits are refused -/

theorem exists_of_orDefault_decodeConditions {place : Place} {items : List Datum}
    {conditions : List ConditionConfig} {item : Datum} (hmem : item ∈ items)
    (h : orDefault (decodeConditions place) [] (some (.list items)) = .ok conditions) :
    ∃ condition, decodeCondition place item = .ok condition := by
  rw [orDefault, decodeConditions] at h
  induction items generalizing conditions with
  | nil => cases hmem
  | cons other rest ih =>
      rw [decodeConditionItems] at h
      obtain ⟨condition, hcondition, h⟩ := bind_eq_ok_iff.mp h
      obtain ⟨others, hothers, -⟩ := bind_eq_ok_iff.mp h
      rcases List.mem_cons.mp hmem with rfl | hrest
      · exact ⟨condition, hcondition⟩
      · exact ih hrest hothers

theorem UnfitCondition.decode_ne_ok {datum : Datum} (hunfit : UnfitCondition datum) :
    ∀ place condition, decodeCondition place datum ≠ .ok condition := by
  induction hunfit with
  | kindless hnone => exact fun place condition h => hnone _ (taken_of_decodeCondition h).gives
  | overfull hgives hmore =>
      intro place condition h
      obtain ⟨-, rfl⟩ := ConditionTaken.of_gives hgives h
      obtain ⟨first, items, rfl, hmore⟩ := hmore
      exact absurd (length_le_of_decodeCondition h) (Nat.not_le.mpr hmore)
  | part hgives hgiven hout =>
      intro place condition h
      obtain ⟨htaken, hkind⟩ := ConditionTaken.of_gives hgives h
      cases htaken with
      | content _ _ hpart _ =>
          rw [hgiven] at hpart
          exact hout (isWithin_of_signed hpart)
      | _ => cases hkind
  | arg hgives hgiven hout =>
      intro place condition h
      obtain ⟨htaken, hkind⟩ := ConditionTaken.of_gives hgives h
      cases htaken with
      | count _ harg =>
          rw [hgiven] at harg
          exact hout (isWithin_of_unsigned harg)
      | _ => cases hkind
  | conditionless hgives hnone =>
      intro place condition h
      obtain ⟨htaken, hkind⟩ := ConditionTaken.of_gives hgives h
      cases htaken with
      | not _ hinner _ =>
          rw [hnone] at hinner
          cases hinner
      | _ => cases hkind
  | not hgives hgiven _ ih =>
      intro place condition h
      obtain ⟨htaken, hkind⟩ := ConditionTaken.of_gives hgives h
      cases htaken with
      | not _ hinner hcondition =>
          rw [hgiven] at hinner
          cases hinner
          exact ih _ _ hcondition
      | _ => cases hkind
  | and hgives hgiven hmem _ ih =>
      intro place condition h
      obtain ⟨htaken, hkind⟩ := ConditionTaken.of_gives hgives h
      cases htaken with
      | and _ hconditions =>
          rw [hgiven] at hconditions
          obtain ⟨condition, hcondition⟩ := exists_of_orDefault_decodeConditions hmem hconditions
          exact ih _ _ hcondition
      | _ => cases hkind
  | or hgives hgiven hmem _ ih =>
      intro place condition h
      obtain ⟨htaken, hkind⟩ := ConditionTaken.of_gives hgives h
      cases htaken with
      | or _ hconditions =>
          rw [hgiven] at hconditions
          obtain ⟨condition, hcondition⟩ := exists_of_orDefault_decodeConditions hmem hconditions
          exact ih _ _ hcondition
      | _ => cases hkind

theorem UnfitInput.decode_ne_ok {datum : Datum} (hunfit : UnfitInput datum) :
    ∀ place input, decodeInput place datum ≠ .ok input := by
  induction hunfit with
  | kindless hnone => exact fun place input h => hnone _ (taken_of_decodeInput h).gives
  | overfull hgives hmore =>
      intro place input h
      obtain ⟨-, rfl⟩ := InputTaken.of_gives hgives h
      obtain ⟨first, items, rfl, hmore⟩ := hmore
      exact absurd (length_le_of_decodeInput h) (Nat.not_le.mpr hmore)
  | pathless hgives hnone =>
      intro place input h
      obtain ⟨htaken, hkind⟩ := InputTaken.of_gives hgives h
      cases htaken with
      | file _ hpath _ _ =>
          rw [hnone] at hpath
          cases hpath
      | _ => cases hkind
  | twofold hgives hboth =>
      exact fun place input h =>
        hboth (givesOneChild_of_decodeInput (InputTaken.of_gives hgives h).2 h)
  | conditionless hgives hnone =>
      intro place input h
      obtain ⟨htaken, hkind⟩ := InputTaken.of_gives hgives h
      cases htaken with
      | readUntil _ _ _ hinner _ =>
          rw [hnone] at hinner
          cases hinner
      | _ => cases hkind
  | condition hgives hgiven hunfit =>
      intro place input h
      obtain ⟨htaken, hkind⟩ := InputTaken.of_gives hgives h
      cases htaken with
      | readUntil _ _ _ hinner hcondition =>
          rw [hgiven] at hinner
          cases hinner
          exact hunfit.decode_ne_ok _ _ hcondition
      | _ => cases hkind
  | child hgives hnull _ ih =>
      intro place input h
      obtain ⟨htaken, hkind⟩ := InputTaken.of_gives hgives h
      cases htaken with
      | readUntil _ hchild _ _ _ =>
          rcases hchild with ⟨habsent, -⟩ | ⟨child, hchild, -⟩
          · exact hnull habsent
          · exact ih _ _ hchild
      | _ => cases hkind

theorem exists_error {α : Type} {result : Decoded α} (hresult : ∀ value, result ≠ .ok value) :
    ∃ misfit, result = .error misfit := by
  cases result with
  | ok value => exact absurd rfl (hresult value)
  | error misfit => exact ⟨misfit, rfl⟩

/-- Decoding finds the configuration that JSON data spells, however it is spelled, and refuses
data with a misfit in it.  Whatever is read from a JSON text is JSON data. -/
theorem spellings_decode (place : Place) :
    (∀ condition datum, datum.IsJson → SpellsCondition condition datum →
      decodeCondition place datum = .ok condition) ∧
    (∀ input datum, datum.IsJson → SpellsInput input datum →
      decodeInput place datum = .ok input) ∧
    (∀ datum, UnfitCondition datum → ∃ misfit, decodeCondition place datum = .error misfit) ∧
    (∀ datum, UnfitInput datum → ∃ misfit, decodeInput place datum = .error misfit) ∧
    ∀ text datum, Json.read? text = some datum → datum.IsJson :=
  ⟨fun condition _ => decodeCondition_of_spells condition,
    fun _ _ => decodeInput_of_spells,
    fun _ hunfit => exists_error (hunfit.decode_ne_ok place),
    fun _ hunfit => exists_error (hunfit.decode_ne_ok place),
    fun _ _ => Json.isJson_of_read⟩

/-- Lists and tables in turn, with defaults left out and a key that means nothing, and the same
with a count that does not fit. -/
theorem spellings_decode_mixed :
    decodeInput (.top .json)
      (.table [("condition", .list [.text "or",
          .list [.list [.text "content"], .table [("arg", .integer 3), ("type", .text "count")]]]),
        ("note", .list [.table []]), ("type", .text "read_until"),
        ("wrapped_input", .list [.text "stdin"])]) =
      .ok (.readUntil (some (.stdin false)) false (.or [.content "equals_cs" 0 "", .count 3])) ∧
    ∃ misfit, decodeInput (.top .json)
      (.list [.text "read_until", .table [("type", .text "stdin")], .boolean true,
        .list [.text "not", .list [.text "count", .integer (-3)]]]) = .error misfit := by
  obtain ⟨-, hspelled, -, hunfit, -⟩ := spellings_decode (.top .json)
  refine ⟨hspelled _ _ ?_ ?_, hunfit _ ?_⟩
  · repeat' first
      | exact .text _
      | exact .integer (by decide) (by decide)
      | refine .list ?_
      | refine .table ?_
      | refine List.forall_mem_cons.mpr ⟨?_, ?_⟩
      | exact List.forall_mem_nil _
  · refine .readUntil (.inl rfl) (.inl rfl) (.stdin (.inr ⟨_, rfl, by decide⟩) rfl) rfl rfl ?_
    refine .or (.inr ⟨_, rfl, by decide⟩) rfl (.cons ?_ (.cons ?_ .nil))
    · exact .content (.inr ⟨_, rfl, by decide⟩) rfl rfl rfl
    · exact .count (.inl rfl) rfl
  · refine .condition ⟨_, .inr ⟨_, rfl⟩, .inl rfl⟩ rfl ?_
    refine .not ⟨_, .inr ⟨_, rfl⟩, .inl rfl⟩ rfl ?_
    refine .arg ⟨_, .inr ⟨_, rfl⟩, .inl rfl⟩ rfl ?_
    rintro ⟨_, ⟨⟩, hlow, -⟩
    exact absurd hlow (by decide)

end Intake
