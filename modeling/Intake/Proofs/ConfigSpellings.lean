import Intake.Proofs.ConfigRoundTrip
import Intake.Proofs.JsonData

/-!
# All spellings of a configuration

The same configuration can be written down in many ways: each condition and each input of
it as a table or as a list, with fields left out that have their default, with the wrapped
input under either of its names, and with anything else in a table that has no meaning
there.  Whatever is chosen at each place, decoding finds the configuration.
-/

namespace Intake

open Fields Datum

/-! ## Spellings -/

/-- Data with the name of a kind for its tag: a table, or a list with no more items behind
the tag than the kind has fields. -/
def Spelled {κ : Type} (name : κ → String) (fields : κ → List String) (datum : Datum)
    (kind : κ) : Prop :=
  datum.get? "type" = some (.text (name kind)) ∨
    ∃ items, datum = .list (.text (name kind) :: items) ∧ items.length ≤ (fields kind).length

abbrev SpelledCondition : Datum → ConditionKind → Prop :=
  Spelled ConditionKind.name ConditionKind.fields

abbrev SpelledInput : Datum → InputKind → Prop :=
  Spelled InputKind.name InputKind.fields

mutual

/-- Data that spells a condition.  A field that has its default may be left out. -/
inductive SpellsCondition : ConditionConfig → Datum → Prop where
  | content {operator : String} {part : Int64} {arg : String} {datum : Datum} :
      SpelledCondition datum .content →
      (ConditionKind.content.given "operator" datum).getD (.text "equals_cs") = .text operator →
      (ConditionKind.content.given "part" datum).getD (.integer 0) = .integer part.toInt →
      (ConditionKind.content.given "arg" datum).getD (.text "") = .text arg →
      SpellsCondition (.content operator part arg) datum
  | count {arg : UInt64} {datum : Datum} : SpelledCondition datum .count →
      (ConditionKind.count.given "arg" datum).getD (.integer 100) = .integer arg.toNat →
      SpellsCondition (.count arg) datum
  | static {value : Bool} {datum : Datum} : SpelledCondition datum .static →
      (ConditionKind.static.given "value" datum).getD (.boolean false) = .boolean value →
      SpellsCondition (.static value) datum
  | not {condition : ConditionConfig} {datum inner : Datum} : SpelledCondition datum .not →
      ConditionKind.not.given "condition" datum = some inner → SpellsCondition condition inner →
      SpellsCondition (.not condition) datum
  | and {conditions : List ConditionConfig} {datum : Datum} {items : List Datum} :
      SpelledCondition datum .and →
      (ConditionKind.and.given "conditions" datum).getD (.list []) = .list items →
      SpellsConditions conditions items → SpellsCondition (.and conditions) datum
  | or {conditions : List ConditionConfig} {datum : Datum} {items : List Datum} :
      SpelledCondition datum .or →
      (ConditionKind.or.given "conditions" datum).getD (.list []) = .list items →
      SpellsConditions conditions items → SpellsCondition (.or conditions) datum

inductive SpellsConditions : List ConditionConfig → List Datum → Prop where
  | nil : SpellsConditions [] []
  | cons {condition : ConditionConfig} {conditions : List ConditionConfig} {item : Datum}
      {items : List Datum} : SpellsCondition condition item → SpellsConditions conditions items →
      SpellsConditions (condition :: conditions) (item :: items)

end

/-- The wrapped input is not given under both of its names. -/
def GivesOneChild (datum : Datum) : Prop :=
  InputKind.readUntil.given "input" datum = none ∨
    InputKind.readUntil.given "wrapped_input" datum = none

/-- Data that spells an input. -/
inductive SpellsInput : InputConfig → Datum → Prop where
  | file {path : String} {multipart : Bool} {datum : Datum} : SpelledInput datum .file →
      InputKind.file.given "path" datum = some (.text path) →
      (InputKind.file.given "multipart" datum).getD (.boolean false) = .boolean multipart →
      SpellsInput (.file path multipart) datum
  | stdin {multipart : Bool} {datum : Datum} : SpelledInput datum .stdin →
      (InputKind.stdin.given "multipart" datum).getD (.boolean false) = .boolean multipart →
      SpellsInput (.stdin multipart) datum
  | memory {messages : List String} {datum : Datum} : SpelledInput datum .memory →
      (InputKind.memory.given "messages" datum).getD (.list []) = .list (messages.map .text) →
      SpellsInput (.memory messages) datum
  | childless {restart : Bool} {condition : ConditionConfig} {datum inner : Datum} :
      SpelledInput datum .readUntil → GivesOneChild datum → givenChild datum = .null →
      (InputKind.readUntil.given "restart_input" datum).getD (.boolean false) =
        .boolean restart →
      InputKind.readUntil.given "condition" datum = some inner →
      SpellsCondition condition inner → SpellsInput (.readUntil none restart condition) datum
  | readUntil {input : InputConfig} {restart : Bool} {condition : ConditionConfig}
      {datum inner : Datum} :
      SpelledInput datum .readUntil → GivesOneChild datum → SpellsInput input (givenChild datum) →
      (InputKind.readUntil.given "restart_input" datum).getD (.boolean false) =
        .boolean restart →
      InputKind.readUntil.given "condition" datum = some inner →
      SpellsCondition condition inner →
      SpellsInput (.readUntil (some input) restart condition) datum

/-! ## The spelling in full -/

mutual

/-- The encoded form is one of the spellings: a table that leaves nothing out. -/
theorem spells_encodeCondition : (condition : ConditionConfig) →
    SpellsCondition condition (encodeCondition condition)
  | .content operator part arg => by
      rw [encodeCondition]
      exact .content (.inl rfl) rfl rfl rfl
  | .count arg => by
      rw [encodeCondition]
      exact .count (.inl rfl) rfl
  | .static value => by
      rw [encodeCondition]
      exact .static (.inl rfl) rfl
  | .not condition => by
      rw [encodeCondition]
      exact .not (.inl rfl) rfl (spells_encodeCondition condition)
  | .and conditions => by
      rw [encodeCondition]
      exact .and (.inl rfl) rfl (spells_encodeConditions conditions)
  | .or conditions => by
      rw [encodeCondition]
      exact .or (.inl rfl) rfl (spells_encodeConditions conditions)

theorem spells_encodeConditions : (conditions : List ConditionConfig) →
    SpellsConditions conditions (encodeConditions conditions)
  | [] => by
      rw [encodeConditions]
      exact .nil
  | condition :: rest => by
      rw [encodeConditions]
      exact .cons (spells_encodeCondition condition) (spells_encodeConditions rest)

end

theorem spells_encodeInput : (input : InputConfig) → SpellsInput input (encodeInput input)
  | .file path multipart => by
      rw [encodeInput]
      exact .file (.inl rfl) rfl rfl
  | .stdin multipart => by
      rw [encodeInput]
      exact .stdin (.inl rfl) rfl
  | .memory messages => by
      rw [encodeInput]
      exact .memory (.inl rfl) rfl
  | .readUntil none restart condition => by
      rw [encodeInput]
      exact .childless (.inl rfl) (.inr rfl) rfl rfl rfl (spells_encodeCondition condition)
  | .readUntil (some input) restart condition => by
      rw [encodeInput]
      exact .readUntil (.inl rfl) (.inr rfl) (spells_encodeInput input) rfl rfl
        (spells_encodeCondition condition)

/-! ## What is given -/

section Given

variable {datum value : Datum} {key : String} {order : List String}

theorem Datum.IsJson.given (hjson : datum.IsJson) (hgiven : given order key datum = some value) :
    value.IsJson := by
  unfold Intake.given at hgiven
  split at hgiven
  · cases hjson with
    | table hentries => exact hentries _ (mem_of_lookup hgiven)
  · cases hjson with
    | list hitems =>
        exact hitems value (List.mem_cons_of_mem _ (List.of_mem_zip (mem_of_lookup hgiven)).2)
  · cases hgiven

theorem orDefault_of_getD {α : Type} {decode : Datum → Decoded α} {default value : α}
    {found : Option Datum} (encode : α → Datum)
    (hdecode : ∀ value, decode (encode value) = .ok value)
    (hgiven : found.getD (encode default) = encode value) :
    orDefault decode default found = .ok value := by
  cases found with
  | none =>
      have hsame : decode (encode default) = decode (encode value) := congrArg decode hgiven
      rw [hdecode, hdecode] at hsame
      exact hsame
  | some datum => rw [orDefault, show datum = encode value from hgiven, hdecode]

end Given

/-! ## One level -/

section Level

variable {place : Place} {entries : List (String × Datum)} {items : List Datum}

theorem required_of_eq_some {α : Type} {name : String} {found : Option α} {value : α}
    (hfound : found = some value) : required name found = .ok value := by rw [hfound, required]

theorem noSurplus_of_le {wanted : Nat} (hlength : items.length ≤ wanted) :
    noSurplus items wanted = .ok () := if_pos hlength

theorem decodeCondition_table_of_taken {condition : ConditionConfig}
    (htag : tagOf place ConditionKind.name ConditionKind.all entries = .ok condition.kind)
    (htaken : ConditionTaken place (.table entries) condition) :
    decodeCondition place (.table entries) = .ok condition := by
  rw [decodeCondition_table]
  refine bind_eq_ok_iff.mpr ⟨_, htag, ?_⟩
  cases htaken with
  | content _ hoperator hpart harg =>
      refine bind_eq_ok_iff.mpr ⟨_, harg, bind_eq_ok_iff.mpr ⟨_, hoperator, ?_⟩⟩
      exact bind_eq_ok_iff.mpr ⟨_, hpart, rfl⟩
  | count _ harg => exact map_eq_ok_iff.mpr ⟨_, harg, rfl⟩
  | static _ hvalue => exact map_eq_ok_iff.mpr ⟨_, hvalue, rfl⟩
  | not _ hinner hcondition =>
      exact map_eq_ok_iff.mpr
        ⟨_, bind_eq_ok_iff.mpr ⟨_, required_of_eq_some hinner, hcondition⟩, rfl⟩
  | and _ hconditions | or _ hconditions => exact map_eq_ok_iff.mpr ⟨_, hconditions, rfl⟩

theorem decodeCondition_list_of_taken {condition : ConditionConfig}
    (hkeep : keepItems items = .ok ())
    (hlength : items.length ≤ condition.kind.fields.length)
    (htaken : ConditionTaken place (.list (.text condition.kind.name :: items)) condition) :
    decodeCondition place (.list (.text condition.kind.name :: items)) = .ok condition := by
  have htag : tag place ConditionKind.name ConditionKind.all (.text condition.kind.name) =
      .ok condition.kind := named_conditionKind condition.kind
  have hfull := noSurplus_of_le hlength
  rw [decodeCondition_list]
  refine bind_eq_ok_iff.mpr ⟨_, htag, check_eq_ok_iff.mpr ⟨hkeep, ?_⟩⟩
  cases htaken with
  | content _ hoperator hpart harg =>
      rw [ConditionKind.given_list 0 rfl] at hoperator
      rw [ConditionKind.given_list 1 rfl] at hpart
      rw [ConditionKind.given_list 2 rfl] at harg
      refine bind_eq_ok_iff.mpr ⟨_, hoperator, bind_eq_ok_iff.mpr ⟨_, hpart, ?_⟩⟩
      exact bind_eq_ok_iff.mpr ⟨_, harg, check_eq_ok_iff.mpr ⟨hfull, rfl⟩⟩
  | count _ harg =>
      rw [ConditionKind.given_list 0 rfl] at harg
      exact bind_eq_ok_iff.mpr ⟨_, harg, check_eq_ok_iff.mpr ⟨hfull, rfl⟩⟩
  | static _ hvalue =>
      rw [ConditionKind.given_list 0 rfl] at hvalue
      exact bind_eq_ok_iff.mpr ⟨_, hvalue, check_eq_ok_iff.mpr ⟨hfull, rfl⟩⟩
  | not _ hinner hcondition =>
      rw [ConditionKind.given_list 0 rfl] at hinner
      cases items with
      | nil => simp at hinner
      | cons inner rest =>
          obtain rfl := Option.some.inj hinner
          exact bind_eq_ok_iff.mpr ⟨_, hcondition, check_eq_ok_iff.mpr ⟨hfull, rfl⟩⟩
  | and _ hconditions | or _ hconditions =>
      rw [ConditionKind.given_list 0 rfl] at hconditions
      exact bind_eq_ok_iff.mpr ⟨_, hconditions, check_eq_ok_iff.mpr ⟨hfull, rfl⟩⟩

/-- What a field of a table is to be read as, if it may be null. -/
def ReadsChild (place : Place) (datum : Datum) (child : Option InputConfig) : Prop :=
  datum = .null ∧ child = none ∨ ∃ input, decodeInput place datum = .ok input ∧ child = some input

theorem nullable_of_readsChild {key : String} {child : Option InputConfig}
    (hchild : ReadsChild place ((lookup entries key).getD .null) child) :
    nullable entries key (fun value _ => decodeInput place value) = .ok child := by
  rcases hchild with ⟨hnull, rfl⟩ | ⟨input, hinput, rfl⟩
  · exact nullable_absent hnull
  · cases hfound : lookup entries key with
    | none =>
        rw [hfound, Option.getD_none] at hinput
        exact absurd hinput (decodeInput_null place input)
    | some value =>
        rw [hfound, Option.getD_some] at hinput
        have hvalue : value ≠ .null := by
          rintro rfl
          exact decodeInput_null place input hinput
        rw [nullable_present hfound hvalue, hinput]
        rfl

/-- Under whichever name the wrapped input is given, it is found. -/
theorem exists_nullable_of_readsChild {child : Option InputConfig}
    (hone : GivesOneChild (.table entries))
    (hchild : ReadsChild place (givenChild (.table entries)) child) :
    ∃ input wrapped,
      nullable entries "input" (fun value _ => decodeInput place value) = .ok input ∧
        notBoth entries "input" "wrapped_input" = .ok () ∧
          nullable entries "wrapped_input" (fun value _ => decodeInput place value) =
            .ok wrapped ∧ child = (input <|> wrapped) := by
  have hgiven : givenChild (.table entries) =
      (lookup entries "input" <|> lookup entries "wrapped_input").getD .null := rfl
  rcases hone with hnone | hnone
  · have hinput : lookup entries "input" = none := hnone
    rw [hgiven, hinput] at hchild
    refine ⟨none, child, nullable_absent (by rw [hinput]; rfl), ?_,
      nullable_of_readsChild hchild, rfl⟩
    rw [notBoth, hinput]
    rfl
  · have hwrapped : lookup entries "wrapped_input" = none := hnone
    have hfirst : (lookup entries "input" <|> none) = lookup entries "input" := by
      cases lookup entries "input" <;> rfl
    rw [hgiven, hwrapped, hfirst] at hchild
    refine ⟨child, none, nullable_of_readsChild hchild, ?_,
      nullable_absent (by rw [hwrapped]; rfl), by cases child <;> rfl⟩
    rw [notBoth, hwrapped, Option.isSome_none, Bool.and_false]
    rfl

theorem decodeInput_table_of_taken {input : InputConfig}
    (htag : tagOf place InputKind.name InputKind.all entries = .ok input.kind)
    (hone : input.kind = .readUntil → GivesOneChild (.table entries))
    (htaken : InputTaken place (.table entries) input) :
    decodeInput place (.table entries) = .ok input := by
  rw [decodeInput_table]
  refine bind_eq_ok_iff.mpr ⟨_, htag, ?_⟩
  cases htaken with
  | file _ hpath htext hmultipart =>
      refine bind_eq_ok_iff.mpr ⟨_, hmultipart, ?_⟩
      exact bind_eq_ok_iff.mpr
        ⟨_, required_of_eq_some hpath, bind_eq_ok_iff.mpr ⟨_, htext, rfl⟩⟩
  | stdin _ hmultipart => exact map_eq_ok_iff.mpr ⟨_, hmultipart, rfl⟩
  | memory _ hmessages => exact map_eq_ok_iff.mpr ⟨_, hmessages, rfl⟩
  | @readUntil inner _ _ condition _ hchild hrestart hinner hcondition =>
      obtain ⟨input, wrapped, hinput, hunique, hwrapped, rfl⟩ :=
        exists_nullable_of_readsChild (hone rfl) hchild
      have hpresent : whenPresent (decodeCondition place.below) (lookup entries "condition") =
          .ok (some condition) := by
        have hfound : lookup entries "condition" = some inner := hinner
        rw [hfound, whenPresent, hcondition, Except.map]
      refine bind_eq_ok_iff.mpr ⟨_, hpresent, ?_⟩
      refine bind_eq_ok_iff.mpr ⟨_, hinput, bind_eq_ok_iff.mpr ⟨_, hrestart, ?_⟩⟩
      refine check_eq_ok_iff.mpr ⟨hunique, bind_eq_ok_iff.mpr ⟨_, hwrapped, ?_⟩⟩
      rfl

theorem decodeInput_list_of_taken {input : InputConfig}
    (hkeep : keepItems items = .ok ()) (hlength : items.length ≤ input.kind.fields.length)
    (htaken : InputTaken place (.list (.text input.kind.name :: items)) input) :
    decodeInput place (.list (.text input.kind.name :: items)) = .ok input := by
  have htag : tag place InputKind.name InputKind.all (.text input.kind.name) = .ok input.kind :=
    named_inputKind input.kind
  have hfull := noSurplus_of_le hlength
  rw [decodeInput_list]
  refine bind_eq_ok_iff.mpr ⟨_, htag, check_eq_ok_iff.mpr ⟨hkeep, ?_⟩⟩
  cases htaken with
  | file _ hpath htext hmultipart =>
      rw [InputKind.given_list 0 rfl] at hpath
      rw [InputKind.given_list 1 rfl] at hmultipart
      cases items with
      | nil => simp at hpath
      | cons path rest =>
          obtain rfl := Option.some.inj hpath
          refine bind_eq_ok_iff.mpr ⟨_, htext, bind_eq_ok_iff.mpr ⟨_, hmultipart, ?_⟩⟩
          exact check_eq_ok_iff.mpr ⟨hfull, rfl⟩
  | stdin _ hmultipart =>
      rw [InputKind.given_list 0 rfl] at hmultipart
      exact bind_eq_ok_iff.mpr ⟨_, hmultipart, check_eq_ok_iff.mpr ⟨hfull, rfl⟩⟩
  | memory _ hmessages =>
      rw [InputKind.given_list 0 rfl] at hmessages
      exact bind_eq_ok_iff.mpr ⟨_, hmessages, check_eq_ok_iff.mpr ⟨hfull, rfl⟩⟩
  | @readUntil inner child _ _ _ hchild hrestart hinner hcondition =>
      rw [InputKind.given_list 1 rfl] at hrestart
      rw [InputKind.given_list 2 rfl] at hinner
      cases items with
      | nil => simp at hinner
      | cons value rest =>
          refine bind_eq_ok_iff.mpr ⟨child, ?_, bind_eq_ok_iff.mpr ⟨_, hrestart, ?_⟩⟩
          · rcases hchild with ⟨hnull, rfl⟩ | ⟨child, hchild, rfl⟩
            · obtain rfl : value = .null := hnull
              rfl
            · have hvalue : decodeInput place.below value = .ok child := hchild
              have hnull : value ≠ .null := by
                rintro rfl
                exact decodeInput_null _ child hvalue
              split
              · next heq => cases heq
              · next heq => cases heq; exact absurd rfl hnull
              · next heq => cases heq; rw [hvalue]; rfl
          · rw [hinner]
            exact bind_eq_ok_iff.mpr ⟨_, hcondition, check_eq_ok_iff.mpr ⟨hfull, rfl⟩⟩

end Level

theorem decodeCondition_of_taken {place : Place} {datum : Datum} {condition : ConditionConfig}
    (hspelled : SpelledCondition datum condition.kind) (hjson : datum.IsJson)
    (htaken : ConditionTaken place datum condition) :
    decodeCondition place datum = .ok condition := by
  rcases hspelled with htype | ⟨items, rfl, hlength⟩
  · cases datum with
    | table entries =>
        have hkeep : keepEntries entries = .ok () := hjson.keep
        exact decodeCondition_table_of_taken (tagOf_eq_ok htype
          (named_conditionKind condition.kind) (keepEntries_eq_ok_iff.mp hkeep)) htaken
    | _ => cases htype
  · have hkeep : keepItems (_ :: items) = .ok () := hjson.keep
    exact decodeCondition_list_of_taken (check_eq_ok_iff.mp hkeep).2 hlength htaken

theorem decodeInput_of_taken {place : Place} {datum : Datum} {input : InputConfig}
    (hspelled : SpelledInput datum input.kind) (hjson : datum.IsJson)
    (hone : input.kind = .readUntil → GivesOneChild datum)
    (htaken : InputTaken place datum input) : decodeInput place datum = .ok input := by
  rcases hspelled with htype | ⟨items, rfl, hlength⟩
  · cases datum with
    | table entries =>
        have hkeep : keepEntries entries = .ok () := hjson.keep
        exact decodeInput_table_of_taken (tagOf_eq_ok htype
          (named_inputKind input.kind) (keepEntries_eq_ok_iff.mp hkeep)) hone htaken
    | _ => cases htype
  · have hkeep : keepItems (_ :: items) = .ok () := hjson.keep
    exact decodeInput_list_of_taken (check_eq_ok_iff.mp hkeep).2 hlength htaken

/-! ## All levels -/

theorem Spelled.gives {κ : Type} {name : κ → String} {fields : κ → List String} {datum : Datum}
    {kind : κ} (hspelled : Spelled name fields datum kind) (known : List κ) :
    Gives name known datum kind := by
  rcases hspelled with htype | ⟨items, rfl, -⟩
  · exact ⟨_, .inl htype, .inl rfl⟩
  · exact ⟨_, .inr ⟨items, rfl⟩, .inl rfl⟩

theorem Datum.IsJson.givenList {order : List String} {key : String} {datum : Datum}
    {items : List Datum} (hjson : datum.IsJson)
    (hgiven : (Intake.given order key datum).getD (.list []) = .list items) :
    ∀ item ∈ items, item.IsJson := by
  cases hfound : Intake.given order key datum with
  | none =>
      rw [hfound] at hgiven
      cases hgiven
      simp
  | some value =>
      rw [hfound] at hgiven
      obtain rfl : value = .list items := hgiven
      cases hjson.given hfound with
      | list hitems => exact hitems

theorem decodeConditions_of_items {place : Place} {conditions : List ConditionConfig}
    {found : Option Datum} {items : List Datum} (hfound : found.getD (.list []) = .list items)
    (hitems : decodeConditionItems place items = .ok conditions) :
    orDefault (decodeConditions place) [] found = .ok conditions := by
  cases found with
  | none =>
      cases hfound
      rw [decodeConditionItems] at hitems
      exact hitems
  | some value =>
      obtain rfl : value = .list items := hfound
      rw [orDefault, decodeConditions]
      exact hitems

mutual

theorem decodeCondition_of_spells : (condition : ConditionConfig) → {place : Place} →
    {datum : Datum} → datum.IsJson → SpellsCondition condition datum →
    decodeCondition place datum = .ok condition
  | .content operator part arg, place, datum, hjson, hspells => by
      cases hspells with
      | content hspelled hoperator hpart harg =>
          refine decodeCondition_of_taken hspelled hjson (.content (hspelled.gives _) ?_ ?_ ?_)
          · exact orDefault_of_getD .text (fun _ => rfl) hoperator
          · exact orDefault_of_getD (fun part : Int64 => .integer part.toInt)
              (fun _ => signed_eq_ok_iff.mpr rfl) hpart
          · exact orDefault_of_getD .text (fun _ => rfl) harg
  | .count arg, place, datum, hjson, hspells => by
      cases hspells with
      | count hspelled harg =>
          exact decodeCondition_of_taken hspelled hjson (.count (hspelled.gives _)
            (orDefault_of_getD (fun arg : UInt64 => .integer arg.toNat)
              (fun _ => unsigned_eq_ok_iff.mpr rfl) harg))
  | .static value, place, datum, hjson, hspells => by
      cases hspells with
      | static hspelled hvalue =>
          exact decodeCondition_of_taken hspelled hjson (.static (hspelled.gives _)
            (orDefault_of_getD .boolean (fun _ => rfl) hvalue))
  | .not condition, place, datum, hjson, hspells => by
      cases hspells with
      | not hspelled hinner hcondition =>
          exact decodeCondition_of_taken hspelled hjson (.not (hspelled.gives _) hinner
            (decodeCondition_of_spells condition (hjson.given hinner) hcondition))
  | .and conditions, place, datum, hjson, hspells => by
      cases hspells with
      | and hspelled hitems hconditions =>
          exact decodeCondition_of_taken hspelled hjson (.and (hspelled.gives _)
            (decodeConditions_of_items hitems
              (decodeConditionItems_of_spells conditions (hjson.givenList hitems) hconditions)))
  | .or conditions, place, datum, hjson, hspells => by
      cases hspells with
      | or hspelled hitems hconditions =>
          exact decodeCondition_of_taken hspelled hjson (.or (hspelled.gives _)
            (decodeConditions_of_items hitems
              (decodeConditionItems_of_spells conditions (hjson.givenList hitems) hconditions)))

theorem decodeConditionItems_of_spells : (conditions : List ConditionConfig) → {place : Place} →
    {items : List Datum} → (∀ item ∈ items, item.IsJson) → SpellsConditions conditions items →
    decodeConditionItems place items = .ok conditions
  | [], place, items, _, hspells => by
      cases hspells
      rw [decodeConditionItems]
  | condition :: rest, place, items, hjson, hspells => by
      cases hspells with
      | cons hitem hrest =>
          obtain ⟨hfirst, hmore⟩ := List.forall_mem_cons.mp hjson
          rw [decodeConditionItems, decodeCondition_of_spells condition hfirst hitem,
            decodeConditionItems_of_spells rest hmore hrest]
          rfl

end

theorem Datum.IsJson.givenChild {datum : Datum} (hjson : datum.IsJson) :
    (givenChild datum).IsJson := by
  unfold Intake.givenChild
  cases hfirst : InputKind.readUntil.given "input" datum with
  | some value => exact hjson.given hfirst
  | none =>
      cases hsecond : InputKind.readUntil.given "wrapped_input" datum with
      | some value => exact hjson.given hsecond
      | none => exact .null

theorem decodeInput_of_spells {place : Place} {input : InputConfig} {datum : Datum}
    (hjson : datum.IsJson) (hspells : SpellsInput input datum) :
    decodeInput place datum = .ok input := by
  induction hspells generalizing place with
  | file hspelled hpath hmultipart =>
      exact decodeInput_of_taken hspelled hjson (by rintro ⟨⟩) (.file (hspelled.gives _) hpath rfl
        (orDefault_of_getD .boolean (fun _ => rfl) hmultipart))
  | stdin hspelled hmultipart =>
      exact decodeInput_of_taken hspelled hjson (by rintro ⟨⟩) (.stdin (hspelled.gives _)
        (orDefault_of_getD .boolean (fun _ => rfl) hmultipart))
  | memory hspelled hmessages =>
      exact decodeInput_of_taken hspelled hjson (by rintro ⟨⟩) (.memory (hspelled.gives _)
        (orDefault_of_getD (fun values => .list (values.map .text))
          (fun _ => texts_eq_ok_iff.mpr rfl) hmessages))
  | childless hspelled hone hnull hrestart hinner hcondition =>
      exact decodeInput_of_taken hspelled hjson (fun _ => hone) (.readUntil (hspelled.gives _)
        (.inl ⟨hnull, rfl⟩) (orDefault_of_getD .boolean (fun _ => rfl) hrestart) hinner
        (decodeCondition_of_spells _ (hjson.given hinner) hcondition))
  | readUntil hspelled hone hchild hrestart hinner hcondition ih =>
      exact decodeInput_of_taken hspelled hjson (fun _ => hone) (.readUntil (hspelled.gives _)
        (.inr ⟨_, ih hjson.givenChild, rfl⟩)
        (orDefault_of_getD .boolean (fun _ => rfl) hrestart) hinner
        (decodeCondition_of_spells _ (hjson.given hinner) hcondition))

end Intake
