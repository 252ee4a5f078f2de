import Intake.Config.Decoding
import Intake.Config.Encoding
import Intake.Proofs.TaggedData

/-!
# Decoding what was encoded

A configuration that is encoded and decoded again is the one it was, in whatever order the
entries of the tables come back.
-/

namespace Intake

open Fields Datum

/-! ## Scalars -/

section Scalars

variable {expected : Expected} {datum : Datum}

theorem text_eq_ok_iff {value : String} :
    Fields.text expected datum = .ok value ↔ datum = .text value := by
  unfold Fields.text
  split
  · simp
  · next hother => exact ⟨fun h => absurd h refuse_ne_ok, fun h => absurd h (hother value)⟩

theorem boolean_eq_ok_iff {value : Bool} :
    Fields.boolean datum = .ok value ↔ datum = .boolean value := by
  unfold Fields.boolean
  split
  · simp
  · next hother => exact ⟨fun h => absurd h refuse_ne_ok, fun h => absurd h (hother value)⟩

theorem fitsUnsigned_iff {number : Int} :
    Word.fitsUnsigned 64 number = true ↔ 0 ≤ number ∧ number < 18446744073709551616 := by
  simp [Word.fitsUnsigned, show Word.size 64 = 18446744073709551616 from rfl]

theorem fitsSigned_iff {number : Int} :
    Word.fitsSigned 64 number = true ↔
      -9223372036854775808 ≤ number ∧ number < 9223372036854775808 := by
  simp [Word.fitsSigned, show Word.size 63 = 9223372036854775808 from rfl]

theorem fitsUnsigned_toNat (value : UInt64) : Word.fitsUnsigned 64 value.toNat = true := by
  have hbound := value.toNat_lt
  rw [fitsUnsigned_iff]
  omega

theorem fitsSigned_toInt (value : Int64) : Word.fitsSigned 64 value.toInt = true := by
  have hlow := value.minValue_le_toInt
  have hhigh := value.toInt_lt
  rw [fitsSigned_iff]
  simp at hlow
  omega

theorem unsigned_eq_ok_iff {value : UInt64} :
    unsigned expected datum = .ok value ↔ datum = .integer value.toNat := by
  constructor
  · intro h
    unfold unsigned at h
    split at h
    · next number =>
      split at h
      · next hfits =>
        rw [fitsUnsigned_iff] at hfits
        cases h
        rw [UInt64.toNat_ofNat', Datum.integer.injEq]
        omega
      · split at h
        · cases h
        · exact absurd h refuse_ne_ok
    · exact absurd h refuse_ne_ok
  · rintro rfl
    simp [unsigned, fitsUnsigned_toNat]

theorem signed_eq_ok_iff {value : Int64} :
    signed datum = .ok value ↔ datum = .integer value.toInt := by
  constructor
  · intro h
    unfold signed at h
    split at h
    · next number =>
      split at h
      · next hfits =>
        rw [fitsSigned_iff] at hfits
        cases h
        rw [Int64.toInt_ofInt_of_le (by simp; omega) (by simp; omega)]
      · split at h
        · cases h
        · exact absurd h refuse_ne_ok
    · exact absurd h refuse_ne_ok
  · rintro rfl
    simp [signed, fitsSigned_toInt]

theorem texts_eq_ok_iff {values : List String} :
    texts datum = .ok values ↔ datum = .list (values.map .text) := by
  unfold texts
  split
  · next items =>
    simp only [Datum.list.injEq]
    induction items generalizing values with
    | nil => cases values <;> simp [textItems]
    | cons item rest ih =>
        cases values with
        | nil => simp [textItems, bind_eq_ok_iff]
        | cons value more => simp [textItems, bind_eq_ok_iff, text_eq_ok_iff, ih]
  · next hother => exact ⟨fun h => absurd h refuse_ne_ok, fun h => absurd h (hother _)⟩

end Scalars

/-! ## Equations -/

section Equations

variable {place : Place} {entries : List (String × Datum)} {first : Datum} {items : List Datum}

theorem decodeCondition_table :
    decodeCondition place (.table entries) =
      (tagOf place ConditionKind.name ConditionKind.all entries).bind (fun
        | .content => contentOfTable entries
        | .count =>
            (orDefault (unsigned .usize) ConditionConfig.defaultCount
              (lookup entries "arg")).map .count
        | .static => (orDefault boolean false (lookup entries "value")).map .static
        | .not =>
            ((required "condition" (lookup entries "condition")).bind
              (decodeCondition place.below)).map .not
        | .and =>
            (orDefault (decodeConditions place.below) [] (lookup entries "conditions")).map .and
        | .or =>
            (orDefault (decodeConditions place.below) []
              (lookup entries "conditions")).map .or) := by
  rw [decodeCondition]
  refine congrArg (Except.bind _) (funext fun kind => ?_)
  cases kind with
  | content | count | static => rfl
  | not | and | or =>
      simp only [bind, Except.bind]
      split <;> simp_all [required, orDefault, Except.map]

theorem decodeCondition_list :
    decodeCondition place (.list (first :: items)) =
      (do
        let kind ← tag place ConditionKind.name ConditionKind.all first
        keepItems items
        match kind with
        | .content => contentOfItems items
        | .count => do
            let arg ← orDefault (unsigned .usize) ConditionConfig.defaultCount items[0]?
            noSurplus items 1
            .ok (.count arg)
        | .static => do
            let value ← orDefault boolean false items[0]?
            noSurplus items 1
            .ok (.static value)
        | .not => do
            let condition ← match items with
              | [] => .error (.tooShort 0 "struct variant ConditionConfig::Not" 1)
              | inner :: _ => decodeCondition place.below inner
            noSurplus items 1
            .ok (.not condition)
        | .and => do
            let conditions ← orDefault (decodeConditions place.below) [] items[0]?
            noSurplus items 1
            .ok (.and conditions)
        | .or => do
            let conditions ← orDefault (decodeConditions place.below) [] items[0]?
            noSurplus items 1
            .ok (.or conditions)) := by
  rw [decodeCondition]
  refine congrArg (Except.bind _) (funext fun kind => ?_)
  refine congrArg (Except.bind _) (funext fun _ => ?_)
  cases kind <;> cases items <;> rfl

theorem decodeInput_table :
    decodeInput place (.table entries) =
      (do
        match ← tagOf place InputKind.name InputKind.all entries with
        | .file => do
            let multipart ← orDefault boolean false (lookup entries "multipart")
            let path ← required "path" (lookup entries "path")
            let path ← text .path path
            .ok (.file path multipart)
        | .stdin => (orDefault boolean false (lookup entries "multipart")).map .stdin
        | .memory => (orDefault texts [] (lookup entries "messages")).map .memory
        | .readUntil => do
            let condition ← whenPresent (decodeCondition place.below) (lookup entries "condition")
            let input ← nullable entries "input" fun value _ => decodeInput place.below value
            let restart ← orDefault boolean false (lookup entries "restart_input")
            notBoth entries "input" "wrapped_input"
            let wrapped ← nullable entries "wrapped_input" fun value _ =>
              decodeInput place.below value
            let condition ← required "condition" condition
            .ok (.readUntil (input <|> wrapped) restart condition)) := by
  rw [decodeInput]
  refine congrArg (Except.bind _) (funext fun kind => ?_)
  cases kind with
  | file =>
      refine congrArg (Except.bind _) (funext fun multipart => ?_)
      cases lookup entries "path" <;> rfl
  | stdin | memory | readUntil => rfl

theorem decodeInput_list :
    decodeInput place (.list (first :: items)) =
      (do
        let kind ← tag place InputKind.name InputKind.all first
        keepItems items
        match kind with
        | .file => do
            let path ← match items with
              | [] => .error (.tooShort 0 "struct FileConfig" 2)
              | path :: _ => text .path path
            let multipart ← orDefault boolean false items[1]?
            noSurplus items 2
            .ok (.file path multipart)
        | .stdin => do
            let multipart ← orDefault boolean false items[0]?
            noSurplus items 1
            .ok (.stdin multipart)
        | .memory => do
            let messages ← orDefault texts [] items[0]?
            noSurplus items 1
            .ok (.memory messages)
        | .readUntil => do
            let input ← (match items with
              | [] => .error (.tooShort 2 "struct ReadUntilConfig" 3)
              | .null :: _ => .ok none
              | value :: _ => (decodeInput place.below value).map some)
            let restart ← orDefault boolean false items[1]?
            match items[2]? with
            | none => .error (.tooShort 2 "struct ReadUntilConfig" 3)
            | some condition => do
                let condition ← decodeCondition place.below condition
                noSurplus items 3
                .ok (.readUntil input restart condition)) := by
  rw [decodeInput]
  refine congrArg (Except.bind _) (funext fun kind => ?_)
  refine congrArg (Except.bind _) (funext fun _ => ?_)
  cases kind with
  | file | stdin | memory => cases items <;> rfl
  | readUntil =>
      cases items with
      | nil => rfl
      | cons inner more => cases inner <;> rfl

end Equations

/-! ## Decoding what was encoded -/

theorem keep_unsigned (value : UInt64) : keep (.integer value.toNat) = .ok () := by
  rw [keep, Word.fits, fitsUnsigned_toNat, Bool.or_true, if_pos rfl]

theorem keep_signed (value : Int64) : keep (.integer value.toInt) = .ok () := by
  rw [keep, Word.fits, fitsSigned_toInt, Bool.true_or, if_pos rfl]

theorem keep_texts (values : List String) : keepItems (values.map .text) = .ok () := by
  refine keepItems_eq_ok_iff.mpr fun item hmem => ?_
  obtain ⟨value, -, rfl⟩ := List.mem_map.mp hmem
  rfl

mutual

theorem keep_encodeCondition : (condition : ConditionConfig) →
    keep (encodeCondition condition) = .ok ()
  | .content operator part arg => by
      simp only [encodeCondition, keep, keepEntries_eq_ok_iff, List.forall_mem_cons]
      exact ⟨trivial, trivial, keep_signed part, trivial, by simp⟩
  | .count arg => by
      simp only [encodeCondition, keep, keepEntries_eq_ok_iff, List.forall_mem_cons]
      exact ⟨trivial, keep_unsigned arg, by simp⟩
  | .static value => rfl
  | .not condition => by
      simp only [encodeCondition, keep, keepEntries_eq_ok_iff, List.forall_mem_cons]
      exact ⟨trivial, keep_encodeCondition condition, by simp⟩
  | .and conditions | .or conditions => by
      simp only [encodeCondition, keep, keepEntries_eq_ok_iff, List.forall_mem_cons]
      exact ⟨trivial, keep_encodeConditions conditions, by simp⟩

theorem keep_encodeConditions : (conditions : List ConditionConfig) →
    keepItems (encodeConditions conditions) = .ok ()
  | [] => rfl
  | condition :: rest =>
      check_eq_ok_iff.mpr ⟨keep_encodeCondition condition, keep_encodeConditions rest⟩

end

theorem keep_encodeInput : (input : InputConfig) → keep (encodeInput input) = .ok ()
  | .file path multipart => rfl
  | .stdin multipart => rfl
  | .memory messages => by
      simp only [encodeInput, keep, keepEntries_eq_ok_iff, List.forall_mem_cons]
      exact ⟨trivial, keep_texts messages, by simp⟩
  | .readUntil none restart condition => by
      simp only [encodeInput, keep, keepEntries_eq_ok_iff, List.forall_mem_cons]
      exact ⟨trivial, trivial, trivial, keep_encodeCondition condition, by simp⟩
  | .readUntil (some input) restart condition => by
      simp only [encodeInput, keep, keepEntries_eq_ok_iff, List.forall_mem_cons]
      exact ⟨trivial, keep_encodeInput input, trivial, keep_encodeCondition condition, by simp⟩

theorem named_conditionKind (kind : ConditionKind) :
    named ConditionKind.name ConditionKind.all kind.name = .ok kind := by
  cases kind <;> rfl

theorem named_inputKind (kind : InputKind) :
    named InputKind.name InputKind.all kind.name = .ok kind := by
  cases kind <;> rfl

mutual

theorem decodeCondition_reorders : (condition : ConditionConfig) → {place : Place} →
    {datum : Datum} → Reorders (encodeCondition condition) datum →
    decodeCondition place datum = .ok condition
  | .content operator part arg, place, datum, h => by
      obtain ⟨others, rfl, h, htag⟩ := exists_tagged place h (by simp)
        (keep_encodeCondition (.content operator part arg)) rfl (named_conditionKind .content)
      have hoperator := h.lookup_scalar (by simp) "operator" rfl rfl
      have hpart := h.lookup_scalar (by simp) "part" rfl rfl
      have harg := h.lookup_scalar (by simp) "arg" rfl rfl
      rw [decodeCondition_table, htag]
      simp only [Except.bind, contentOfTable, hoperator, hpart, harg, orDefault,
        signed_eq_ok_iff.mpr rfl, text_eq_ok_iff.mpr rfl]
      rfl
  | .count arg, place, datum, h => by
      obtain ⟨others, rfl, h, htag⟩ := exists_tagged place h (by simp)
        (keep_encodeCondition (.count arg)) rfl (named_conditionKind .count)
      have harg := h.lookup_scalar (by simp) "arg" rfl rfl
      rw [decodeCondition_table, htag]
      simp only [Except.bind, harg, orDefault, unsigned_eq_ok_iff.mpr rfl, Except.map]
  | .static value, place, datum, h => by
      obtain ⟨others, rfl, h, htag⟩ := exists_tagged place h (by simp)
        (keep_encodeCondition (.static value)) rfl (named_conditionKind .static)
      have hvalue := h.lookup_scalar (by simp) "value" rfl rfl
      rw [decodeCondition_table, htag]
      simp only [Except.bind, hvalue, orDefault, boolean_eq_ok_iff.mpr rfl, Except.map]
  | .not condition, place, datum, h => by
      obtain ⟨others, rfl, h, htag⟩ := exists_tagged place h (by simp)
        (keep_encodeCondition (.not condition)) rfl (named_conditionKind .not)
      obtain ⟨inner, hinner, hsame⟩ := h.lookup_some (by simp) "condition" rfl
      rw [decodeCondition_table, htag]
      simp only [Except.bind, hinner, required, decodeCondition_reorders condition hsame,
        Except.map]
  | .and conditions, place, datum, h => by
      obtain ⟨others, rfl, h, htag⟩ := exists_tagged place h (by simp)
        (keep_encodeCondition (.and conditions)) rfl (named_conditionKind .and)
      obtain ⟨inner, hinner, hsame⟩ := h.lookup_some (by simp) "conditions" rfl
      rw [decodeCondition_table, htag]
      simp only [Except.bind, hinner, orDefault, decodeConditions_reorders conditions hsame,
        Except.map]
  | .or conditions, place, datum, h => by
      obtain ⟨others, rfl, h, htag⟩ := exists_tagged place h (by simp)
        (keep_encodeCondition (.or conditions)) rfl (named_conditionKind .or)
      obtain ⟨inner, hinner, hsame⟩ := h.lookup_some (by simp) "conditions" rfl
      rw [decodeCondition_table, htag]
      simp only [Except.bind, hinner, orDefault, decodeConditions_reorders conditions hsame,
        Except.map]

theorem decodeConditions_reorders : (conditions : List ConditionConfig) → {place : Place} →
    {datum : Datum} → Reorders (.list (encodeConditions conditions)) datum →
    decodeConditions place datum = .ok conditions
  | conditions, place, datum, h => by
      cases h with
      | scalar hscalar => cases hscalar
      | list hitems =>
          rw [decodeConditions]
          exact decodeConditionItems_reorders conditions hitems

theorem decodeConditionItems_reorders : (conditions : List ConditionConfig) → {place : Place} →
    {items : List Datum} → ReordersItems (encodeConditions conditions) items →
    decodeConditionItems place items = .ok conditions
  | [], place, items, h => by
      cases h
      rw [decodeConditionItems]
  | condition :: rest, place, items, h => by
      rw [encodeConditions] at h
      cases h with
      | cons hitem hrest =>
          rw [decodeConditionItems, decodeCondition_reorders condition hitem,
            decodeConditionItems_reorders rest hrest]
          rfl

end

theorem texts_reorders {values : List String} {datum : Datum}
    (h : Reorders (.list (values.map .text)) datum) : texts datum = .ok values := by
  cases h with
  | scalar hscalar => cases hscalar
  | list hitems =>
      rw [texts_eq_ok_iff, hitems.eq_of_isScalar]
      intro item hmem
      obtain ⟨value, -, rfl⟩ := List.mem_map.mp hmem
      rfl

theorem ne_null_of_reorders {input : InputConfig} {datum : Datum}
    (h : Reorders (encodeInput input) datum) : datum ≠ .null := by
  rintro rfl
  generalize hencoded : encodeInput input = encoded at h
  cases h
  unfold encodeInput at hencoded
  split at hencoded <;> cases hencoded

theorem decodeInput_reorders : (input : InputConfig) → {place : Place} → {datum : Datum} →
    Reorders (encodeInput input) datum → decodeInput place datum = .ok input
  | .file path multipart, place, datum, h => by
      obtain ⟨others, rfl, h, htag⟩ := exists_tagged place h (by simp)
        (keep_encodeInput (.file path multipart)) rfl (named_inputKind .file)
      have hpath := h.lookup_scalar (by simp) "path" rfl rfl
      have hmultipart := h.lookup_scalar (by simp) "multipart" rfl rfl
      rw [decodeInput_table, htag]
      simp only [bind, Except.bind, hpath, hmultipart, orDefault, required,
        boolean_eq_ok_iff.mpr rfl, text_eq_ok_iff.mpr rfl]
  | .stdin multipart, place, datum, h => by
      obtain ⟨others, rfl, h, htag⟩ := exists_tagged place h (by simp)
        (keep_encodeInput (.stdin multipart)) rfl (named_inputKind .stdin)
      have hmultipart := h.lookup_scalar (by simp) "multipart" rfl rfl
      rw [decodeInput_table, htag]
      simp only [bind, Except.bind, hmultipart, orDefault, boolean_eq_ok_iff.mpr rfl, Except.map]
  | .memory messages, place, datum, h => by
      obtain ⟨others, rfl, h, htag⟩ := exists_tagged place h (by simp)
        (keep_encodeInput (.memory messages)) rfl (named_inputKind .memory)
      obtain ⟨inner, hinner, hsame⟩ := h.lookup_some (by simp) "messages" rfl
      rw [decodeInput_table, htag]
      simp only [bind, Except.bind, hinner, orDefault, texts_reorders hsame, Except.map]
  | .readUntil none restart condition, place, datum, h => by
      obtain ⟨others, rfl, h, htag⟩ := exists_tagged place h (by simp)
        (keep_encodeInput (.readUntil none restart condition)) rfl (named_inputKind .readUntil)
      have hinput := h.lookup_scalar (by simp) "input" rfl rfl
      have hwrapped := h.lookup_none (by simp) "wrapped_input" rfl
      have hrestart := h.lookup_scalar (by simp) "restart_input" rfl rfl
      obtain ⟨inner, hinner, hsame⟩ := h.lookup_some (by simp) "condition" rfl
      rw [decodeInput_table, htag]
      simp only [bind, Except.bind]
      rw [nullable_absent (by rw [hinput]; rfl), nullable_absent (by rw [hwrapped]; rfl)]
      simp [hinner, whenPresent, decodeCondition_reorders condition hsame, hrestart, orDefault,
        boolean_eq_ok_iff.mpr, notBoth, hwrapped, required, Except.map]
  | .readUntil (some input) restart condition, place, datum, h => by
      obtain ⟨others, rfl, h, htag⟩ := exists_tagged place h (by simp)
        (keep_encodeInput (.readUntil (some input) restart condition)) rfl
        (named_inputKind .readUntil)
      obtain ⟨child, hchild, hinput⟩ := h.lookup_some (by simp) "input" rfl
      have hwrapped := h.lookup_none (by simp) "wrapped_input" rfl
      have hrestart := h.lookup_scalar (by simp) "restart_input" rfl rfl
      obtain ⟨inner, hinner, hsame⟩ := h.lookup_some (by simp) "condition" rfl
      rw [decodeInput_table, htag]
      simp only [bind, Except.bind]
      rw [nullable_present hchild (ne_null_of_reorders hinput),
        nullable_absent (by rw [hwrapped]; rfl), decodeInput_reorders input hinput]
      simp [hinner, whenPresent, decodeCondition_reorders condition hsame, hrestart, orDefault,
        boolean_eq_ok_iff.mpr, notBoth, hwrapped, required, Except.map]

end Intake
