import Intake.Proofs.ConfigEncoding

/-!
# Configurations go through data unharmed

Data that decodes may say less than the encoded form, or say it otherwise: as lists instead of
tables, with kinds by position, with fields left out, with the other name of the wrapped
input.  Encoding what it decodes to writes it out, and writing out changes nothing more.
-/

namespace Intake

open Fields Datum

/-! ## Data written out -/

/-- What data says of a field: a table by name, a list by place behind the tag. -/
def given (order : List String) (key : String) : Datum → Option Datum
  | .table entries => lookup entries key
  | .list (_ :: items) => lookup (order.zip items) key
  | _ => none

/-- What data says of its kind: the name or the position of it. -/
def Gives {κ : Type} (name : κ → String) (known : List κ) (datum : Datum) (kind : κ) : Prop :=
  ∃ tag, (datum.get? "type" = some tag ∨ ∃ items, datum = .list (tag :: items)) ∧
    (tag = .text (name kind) ∨
      ∃ position, tag = .integer position ∧ known[position.toNat]? = some kind)

/-- The fields of a kind of condition, in the order of declaration. -/
def ConditionKind.fields : ConditionKind → List String
  | content => ["operator", "part", "arg"]
  | count => ["arg"]
  | static => ["value"]
  | not => ["condition"]
  | and | or => ["conditions"]

/-- The fields of a kind of input, in the order of declaration. -/
def InputKind.fields : InputKind → List String
  | file => ["path", "multipart"]
  | stdin => ["multipart"]
  | memory => ["messages"]
  | readUntil => ["input", "restart_input", "condition"]

def ConditionKind.given (kind : ConditionKind) (key : String) (datum : Datum) : Option Datum :=
  Intake.given kind.fields key datum

def InputKind.given (kind : InputKind) (key : String) (datum : Datum) : Option Datum :=
  Intake.given kind.fields key datum

abbrev GivesCondition : Datum → ConditionKind → Prop :=
  Gives ConditionKind.name ConditionKind.all

abbrev GivesInput : Datum → InputKind → Prop :=
  Gives InputKind.name InputKind.all

mutual

/-- Data for a condition, and the same with its tag by name and every field in its place. -/
inductive WrittenCondition : Datum → Datum → Prop where
  | content {datum : Datum} : GivesCondition datum .content →
      WrittenCondition datum (.table
        [("type", .text "content"),
         ("operator", (ConditionKind.content.given "operator" datum).getD
           (.text ConditionConfig.defaultOperator)),
         ("part", (ConditionKind.content.given "part" datum).getD (.integer 0)),
         ("arg", (ConditionKind.content.given "arg" datum).getD (.text ""))])
  | count {datum : Datum} : GivesCondition datum .count →
      WrittenCondition datum (.table
        [("type", .text "count"),
         ("arg", (ConditionKind.count.given "arg" datum).getD (.integer 100))])
  | static {datum : Datum} : GivesCondition datum .static →
      WrittenCondition datum (.table
        [("type", .text "static"),
         ("value", (ConditionKind.static.given "value" datum).getD (.boolean false))])
  | not {datum inner written : Datum} : GivesCondition datum .not →
      ConditionKind.not.given "condition" datum = some inner → WrittenCondition inner written →
      WrittenCondition datum (.table [("type", .text "not"), ("condition", written)])
  | and {datum : Datum} {items written : List Datum} : GivesCondition datum .and →
      (ConditionKind.and.given "conditions" datum).getD (.list []) = .list items →
      WrittenConditions items written →
      WrittenCondition datum (.table [("type", .text "and"), ("conditions", .list written)])
  | or {datum : Datum} {items written : List Datum} : GivesCondition datum .or →
      (ConditionKind.or.given "conditions" datum).getD (.list []) = .list items →
      WrittenConditions items written →
      WrittenCondition datum (.table [("type", .text "or"), ("conditions", .list written)])

inductive WrittenConditions : List Datum → List Datum → Prop where
  | nil : WrittenConditions [] []
  | cons {item written : Datum} {items others : List Datum} :
      WrittenCondition item written → WrittenConditions items others →
      WrittenConditions (item :: items) (written :: others)

end

/-- What data says of the wrapped input, under either name. -/
def givenChild (datum : Datum) : Datum :=
  (InputKind.readUntil.given "input" datum <|>
    InputKind.readUntil.given "wrapped_input" datum).getD .null

/-- Data for an input, and the same with its tag by name and every field in its place. -/
inductive WrittenInput : Datum → Datum → Prop where
  | file {datum path : Datum} : GivesInput datum .file →
      InputKind.file.given "path" datum = some path →
      WrittenInput datum (.table
        [("type", .text "file"), ("path", path),
         ("multipart", (InputKind.file.given "multipart" datum).getD (.boolean false))])
  | stdin {datum : Datum} : GivesInput datum .stdin →
      WrittenInput datum (.table
        [("type", .text "stdin"),
         ("multipart", (InputKind.stdin.given "multipart" datum).getD (.boolean false))])
  | memory {datum : Datum} : GivesInput datum .memory →
      WrittenInput datum (.table
        [("type", .text "memory"),
         ("messages", (InputKind.memory.given "messages" datum).getD (.list []))])
  | childless {datum condition written : Datum} : GivesInput datum .readUntil →
      givenChild datum = .null →
      InputKind.readUntil.given "condition" datum = some condition →
      WrittenCondition condition written →
      WrittenInput datum (.table
        [("type", .text "read_until"), ("input", .null),
         ("restart_input",
           (InputKind.readUntil.given "restart_input" datum).getD (.boolean false)),
         ("condition", written)])
  | readUntil {datum child condition written : Datum} : GivesInput datum .readUntil →
      WrittenInput (givenChild datum) child →
      InputKind.readUntil.given "condition" datum = some condition →
      WrittenCondition condition written →
      WrittenInput datum (.table
        [("type", .text "read_until"), ("input", child),
         ("restart_input",
           (InputKind.readUntil.given "restart_input" datum).getD (.boolean false)),
         ("condition", written)])

theorem lookup_zip {order : List String} {items : List Datum} {position : Nat} {key : String}
    (hdistinct : order.Nodup) (hkey : order[position]? = some key) :
    lookup (order.zip items) key = items[position]? := by
  induction order generalizing items position with
  | nil => simp at hkey
  | cons name rest ih =>
      cases items with
      | nil => rfl
      | cons item more =>
          rw [List.nodup_cons] at hdistinct
          rw [List.zip_cons_cons, lookup]
          cases position with
          | zero =>
              cases hkey
              exact if_pos rfl
          | succ position =>
              have hmem : key ∈ rest := List.mem_of_getElem? hkey
              have hname : name ≠ key := by
                rintro rfl
                exact hdistinct.1 hmem
              rw [if_neg hname]
              exact ih hdistinct.2 hkey

theorem sizeOf_given {order : List String} {key : String} {datum value : Datum}
    (hgiven : given order key datum = some value) : sizeOf value < sizeOf datum := by
  unfold given at hgiven
  split at hgiven
  · next entries =>
    have hsmaller := sizeOf_lookup hgiven
    simp
    omega
  · next items =>
    have hmem := (List.of_mem_zip (mem_of_lookup hgiven)).2
    have hsmaller := List.sizeOf_lt_of_mem hmem
    simp
    omega
  · cases hgiven

theorem sizeOf_given_item {order : List String} {key : String} {datum item : Datum}
    {items : List Datum} (hgiven : given order key datum = some (.list items))
    (hmem : item ∈ items) : sizeOf item < sizeOf datum := by
  have hlist := sizeOf_given hgiven
  have hitem := List.sizeOf_lt_of_mem hmem
  simp at hlist
  omega

theorem required_eq_ok {α : Type} {name : String} {found : Option α} {value : α}
    (h : required name found = .ok value) : found = some value := by
  cases found <;> cases h
  rfl

theorem getD_of_orDefault {α : Type} {decode : Datum → Decoded α} {default value : α}
    {found : Option Datum} (encode : α → Datum)
    (hdecode : ∀ {datum}, decode datum = .ok value → datum = encode value)
    (h : orDefault decode default found = .ok value) :
    found.getD (encode default) = encode value := by
  cases found with
  | none =>
      cases h
      rfl
  | some datum => exact hdecode h

/-- What decoding a condition takes from the data, one level deep. -/
inductive ConditionTaken (place : Place) (datum : Datum) : ConditionConfig → Prop where
  | content {operator : String} {part : Int64} {arg : String} :
      GivesCondition datum .content →
      orDefault (text .string) ConditionConfig.defaultOperator
        (ConditionKind.content.given "operator" datum) = .ok operator →
      orDefault signed 0 (ConditionKind.content.given "part" datum) = .ok part →
      orDefault (text .string) "" (ConditionKind.content.given "arg" datum) = .ok arg →
      ConditionTaken place datum (.content operator part arg)
  | count {arg : UInt64} : GivesCondition datum .count →
      orDefault (unsigned .usize) ConditionConfig.defaultCount
        (ConditionKind.count.given "arg" datum) = .ok arg →
      ConditionTaken place datum (.count arg)
  | static {value : Bool} : GivesCondition datum .static →
      orDefault boolean false (ConditionKind.static.given "value" datum) = .ok value →
      ConditionTaken place datum (.static value)
  | not {inner : Datum} {condition : ConditionConfig} : GivesCondition datum .not →
      ConditionKind.not.given "condition" datum = some inner →
      decodeCondition place.below inner = .ok condition →
      ConditionTaken place datum (.not condition)
  | and {conditions : List ConditionConfig} : GivesCondition datum .and →
      orDefault (decodeConditions place.below) []
        (ConditionKind.and.given "conditions" datum) = .ok conditions →
      ConditionTaken place datum (.and conditions)
  | or {conditions : List ConditionConfig} : GivesCondition datum .or →
      orDefault (decodeConditions place.below) []
        (ConditionKind.or.given "conditions" datum) = .ok conditions →
      ConditionTaken place datum (.or conditions)

section Taken

variable {place : Place} {entries : List (String × Datum)} {first : Datum} {items : List Datum}

theorem gives_table {κ : Type} {name : κ → String} {known : List κ} {kind : κ}
    (htag : tagOf place name known entries = .ok kind) :
    Gives name known (.table entries) kind := by
  obtain ⟨value, hfound, htag⟩ := exists_tag_of_tagOf htag
  exact ⟨value, .inl hfound, tag_eq_ok htag⟩

theorem gives_list {κ : Type} {name : κ → String} {known : List κ} {kind : κ}
    (items : List Datum) (htag : tag place name known first = .ok kind) :
    Gives name known (.list (first :: items)) kind :=
  ⟨first, .inr ⟨items, rfl⟩, tag_eq_ok htag⟩

theorem ConditionKind.given_list {kind : ConditionKind} (position : Nat) {key : String}
    (hkey : kind.fields[position]? = some key) :
    kind.given key (.list (first :: items)) = items[position]? :=
  lookup_zip (by cases kind <;> decide) hkey

theorem InputKind.given_list {kind : InputKind} (position : Nat) {key : String}
    (hkey : kind.fields[position]? = some key) :
    kind.given key (.list (first :: items)) = items[position]? :=
  lookup_zip (by cases kind <;> decide) hkey

theorem taken_of_decodeCondition_table {condition : ConditionConfig}
    (h : decodeCondition place (.table entries) = .ok condition) :
    ConditionTaken place (.table entries) condition := by
  rw [decodeCondition_table] at h
  obtain ⟨kind, htag, h⟩ := bind_eq_ok_iff.mp h
  have hkind := gives_table htag
  cases kind with
  | content =>
      obtain ⟨arg, harg, h⟩ := bind_eq_ok_iff.mp h
      obtain ⟨operator, hoperator, h⟩ := bind_eq_ok_iff.mp h
      obtain ⟨part, hpart, h⟩ := bind_eq_ok_iff.mp h
      cases h
      exact .content hkind hoperator hpart harg
  | count =>
      obtain ⟨arg, harg, rfl⟩ := map_eq_ok_iff.mp h
      exact .count hkind harg
  | static =>
      obtain ⟨value, hvalue, rfl⟩ := map_eq_ok_iff.mp h
      exact .static hkind hvalue
  | not =>
      obtain ⟨inner, hinner, rfl⟩ := map_eq_ok_iff.mp h
      obtain ⟨datum, hfound, hdecode⟩ := bind_eq_ok_iff.mp hinner
      exact .not hkind (required_eq_ok hfound) hdecode
  | and =>
      obtain ⟨conditions, hconditions, rfl⟩ := map_eq_ok_iff.mp h
      exact .and hkind hconditions
  | or =>
      obtain ⟨conditions, hconditions, rfl⟩ := map_eq_ok_iff.mp h
      exact .or hkind hconditions

theorem taken_of_decodeCondition_list {condition : ConditionConfig}
    (h : decodeCondition place (.list (first :: items)) = .ok condition) :
    ConditionTaken place (.list (first :: items)) condition := by
  rw [decodeCondition_list] at h
  obtain ⟨kind, htag, h⟩ := bind_eq_ok_iff.mp h
  obtain ⟨-, -, h⟩ := bind_eq_ok_iff.mp h
  have hkind := gives_list items htag
  cases kind with
  | content =>
      obtain ⟨operator, hoperator, h⟩ := bind_eq_ok_iff.mp h
      obtain ⟨part, hpart, h⟩ := bind_eq_ok_iff.mp h
      obtain ⟨arg, harg, h⟩ := bind_eq_ok_iff.mp h
      obtain ⟨-, -, h⟩ := bind_eq_ok_iff.mp h
      cases h
      refine .content hkind ?_ ?_ ?_
      · rwa [ConditionKind.given_list 0 rfl]
      · rwa [ConditionKind.given_list 1 rfl]
      · rwa [ConditionKind.given_list 2 rfl]
  | count =>
      obtain ⟨arg, harg, h⟩ := bind_eq_ok_iff.mp h
      obtain ⟨-, -, h⟩ := bind_eq_ok_iff.mp h
      cases h
      exact .count hkind (by rwa [ConditionKind.given_list 0 rfl])
  | static =>
      obtain ⟨value, hvalue, h⟩ := bind_eq_ok_iff.mp h
      obtain ⟨-, -, h⟩ := bind_eq_ok_iff.mp h
      cases h
      exact .static hkind (by rwa [ConditionKind.given_list 0 rfl])
  | not =>
      cases items with
      | nil => cases h
      | cons inner rest =>
          obtain ⟨condition, hcondition, h⟩ := bind_eq_ok_iff.mp h
          obtain ⟨-, -, h⟩ := bind_eq_ok_iff.mp h
          cases h
          exact .not hkind rfl hcondition
  | and =>
      obtain ⟨conditions, hconditions, h⟩ := bind_eq_ok_iff.mp h
      obtain ⟨-, -, h⟩ := bind_eq_ok_iff.mp h
      cases h
      exact .and hkind (by rwa [ConditionKind.given_list 0 rfl])
  | or =>
      obtain ⟨conditions, hconditions, h⟩ := bind_eq_ok_iff.mp h
      obtain ⟨-, -, h⟩ := bind_eq_ok_iff.mp h
      cases h
      exact .or hkind (by rwa [ConditionKind.given_list 0 rfl])

theorem taken_of_decodeCondition {datum : Datum} {condition : ConditionConfig}
    (h : decodeCondition place datum = .ok condition) : ConditionTaken place datum condition := by
  cases datum with
  | table entries => exact taken_of_decodeCondition_table h
  | list items =>
      cases items with
      | nil =>
          rw [decodeCondition] at h
          cases h
      | cons first items => exact taken_of_decodeCondition_list h
  | moment text =>
      rw [decodeCondition] at h
      cases h
  | _ =>
      rw [decodeCondition] at h
      · exact absurd h refuse_ne_ok
      all_goals simp

end Taken

theorem written_of_decodeConditionItems {place : Place} {items : List Datum}
    {conditions : List ConditionConfig}
    (hwritten : ∀ item ∈ items, ∀ condition, decodeCondition place item = .ok condition →
      WrittenCondition item (encodeCondition condition))
    (h : decodeConditionItems place items = .ok conditions) :
    WrittenConditions items (encodeConditions conditions) := by
  induction items generalizing conditions with
  | nil =>
      rw [decodeConditionItems] at h
      cases h
      exact .nil
  | cons item rest ih =>
      rw [decodeConditionItems] at h
      obtain ⟨condition, hcondition, h⟩ := bind_eq_ok_iff.mp h
      obtain ⟨conditions, hconditions, h⟩ := bind_eq_ok_iff.mp h
      cases h
      obtain ⟨hitem, hrest⟩ := List.forall_mem_cons.mp hwritten
      exact .cons (hitem condition hcondition) (ih hrest hconditions)

theorem written_of_decodeConditions {place : Place} {found : Option Datum}
    {conditions : List ConditionConfig}
    (h : orDefault (decodeConditions place) [] found = .ok conditions)
    (hwritten : ∀ items, found = some (.list items) → ∀ item ∈ items, ∀ condition,
      decodeCondition place item = .ok condition →
      WrittenCondition item (encodeCondition condition)) :
    ∃ items, found.getD (.list []) = .list items ∧
      WrittenConditions items (encodeConditions conditions) := by
  cases found with
  | none =>
      cases h
      exact ⟨[], rfl, .nil⟩
  | some datum =>
      rw [orDefault] at h
      unfold decodeConditions at h
      split at h
      · next items => exact ⟨items, rfl, written_of_decodeConditionItems (hwritten items rfl) h⟩
      · exact absurd h refuse_ne_ok

theorem written_of_decodeCondition {place : Place} (datum : Datum)
    {condition : ConditionConfig} (h : decodeCondition place datum = .ok condition) :
    WrittenCondition datum (encodeCondition condition) := by
  cases taken_of_decodeCondition h with
  | content hkind hoperator hpart harg =>
      rw [encodeCondition, ← getD_of_orDefault .text text_eq_ok_iff.mp hoperator,
        ← getD_of_orDefault (fun part => .integer part.toInt) signed_eq_ok_iff.mp hpart,
        ← getD_of_orDefault .text text_eq_ok_iff.mp harg]
      exact .content hkind
  | count hkind harg =>
      rw [encodeCondition,
        ← getD_of_orDefault (fun arg => .integer arg.toNat) unsigned_eq_ok_iff.mp harg]
      exact .count hkind
  | static hkind hvalue =>
      rw [encodeCondition, ← getD_of_orDefault .boolean boolean_eq_ok_iff.mp hvalue]
      exact .static hkind
  | not hkind hinner hcondition =>
      rw [encodeCondition]
      exact .not hkind hinner (written_of_decodeCondition _ hcondition)
  | and hkind hconditions =>
      obtain ⟨items, hitems, hwritten⟩ := written_of_decodeConditions hconditions
        fun items hgiven item hmem condition hdecode => written_of_decodeCondition item hdecode
      rw [encodeCondition]
      exact .and hkind hitems hwritten
  | or hkind hconditions =>
      obtain ⟨items, hitems, hwritten⟩ := written_of_decodeConditions hconditions
        fun items hgiven item hmem condition hdecode => written_of_decodeCondition item hdecode
      rw [encodeCondition]
      exact .or hkind hitems hwritten
termination_by sizeOf datum
decreasing_by
  · exact sizeOf_given hinner
  all_goals exact sizeOf_given_item hgiven hmem

/-! ## Inputs written out -/

/-- What decoding an input takes from the data, one level deep. -/
inductive InputTaken (place : Place) (datum : Datum) : InputConfig → Prop where
  | file {path : Datum} {name : String} {multipart : Bool} : GivesInput datum .file →
      InputKind.file.given "path" datum = some path → text .path path = .ok name →
      orDefault boolean false (InputKind.file.given "multipart" datum) = .ok multipart →
      InputTaken place datum (.file name multipart)
  | stdin {multipart : Bool} : GivesInput datum .stdin →
      orDefault boolean false (InputKind.stdin.given "multipart" datum) = .ok multipart →
      InputTaken place datum (.stdin multipart)
  | memory {messages : List String} : GivesInput datum .memory →
      orDefault texts [] (InputKind.memory.given "messages" datum) = .ok messages →
      InputTaken place datum (.memory messages)
  | readUntil {inner : Datum} {input : Option InputConfig} {restart : Bool}
      {condition : ConditionConfig} : GivesInput datum .readUntil →
      (givenChild datum = .null ∧ input = none ∨
        ∃ child, decodeInput place.below (givenChild datum) = .ok child ∧ input = some child) →
      orDefault boolean false
        (InputKind.readUntil.given "restart_input" datum) = .ok restart →
      InputKind.readUntil.given "condition" datum = some inner →
      decodeCondition place.below inner = .ok condition →
      InputTaken place datum (.readUntil input restart condition)

section Taken

variable {place : Place} {entries : List (String × Datum)} {first : Datum} {items : List Datum}

theorem child_of_decoded {input wrapped : Option InputConfig}
    (hinput : nullable entries "input" (fun value _ => decodeInput place.below value) = .ok input)
    (hunique : notBoth entries "input" "wrapped_input" = .ok ())
    (hwrapped : nullable entries "wrapped_input"
      (fun value _ => decodeInput place.below value) = .ok wrapped) :
    givenChild (.table entries) = .null ∧ (input <|> wrapped) = none ∨
      ∃ child, decodeInput place.below (givenChild (.table entries)) = .ok child ∧
        (input <|> wrapped) = some child := by
  have hgiven : givenChild (.table entries) =
      (lookup entries "input" <|> lookup entries "wrapped_input").getD .null := rfl
  rw [hgiven]
  cases hfirst : lookup entries "input" with
  | none =>
      have hnone : input = none := by
        rw [nullable_absent (by rw [hfirst]; rfl)] at hinput
        cases hinput
        rfl
      subst hnone
      rcases nullable_eq_ok hwrapped with ⟨hnull, rfl⟩ | ⟨value, child, hfound, hchild, rfl⟩
      · exact .inl ⟨hnull, rfl⟩
      · exact .inr ⟨child, by rw [hfound]; exact hchild, rfl⟩
  | some value =>
      have hsecond : lookup entries "wrapped_input" = none := by
        unfold notBoth at hunique
        rw [hfirst] at hunique
        cases hsecond : lookup entries "wrapped_input" with
        | none => rfl
        | some other =>
            rw [hsecond] at hunique
            cases hunique
      have hnone : wrapped = none := by
        rw [nullable_absent (by rw [hsecond]; rfl)] at hwrapped
        cases hwrapped
        rfl
      subst hnone
      rcases nullable_eq_ok hinput with ⟨hnull, rfl⟩ | ⟨value, child, hfound, hchild, rfl⟩
      · rw [hfirst] at hnull
        exact .inl ⟨hnull, rfl⟩
      · rw [hfirst] at hfound
        cases hfound
        exact .inr ⟨child, hchild, rfl⟩

theorem taken_of_decodeInput_table {input : InputConfig}
    (h : decodeInput place (.table entries) = .ok input) :
    InputTaken place (.table entries) input := by
  rw [decodeInput_table] at h
  obtain ⟨kind, htag, h⟩ := bind_eq_ok_iff.mp h
  have hkind := gives_table htag
  cases kind with
  | file =>
      obtain ⟨multipart, hmultipart, h⟩ := bind_eq_ok_iff.mp h
      obtain ⟨datum, hdatum, h⟩ := bind_eq_ok_iff.mp h
      obtain ⟨path, hpath, h⟩ := bind_eq_ok_iff.mp h
      cases h
      exact .file hkind (required_eq_ok hdatum) hpath hmultipart
  | stdin =>
      obtain ⟨multipart, hmultipart, rfl⟩ := map_eq_ok_iff.mp h
      exact .stdin hkind hmultipart
  | memory =>
      obtain ⟨messages, hmessages, rfl⟩ := map_eq_ok_iff.mp h
      exact .memory hkind hmessages
  | readUntil =>
      obtain ⟨present, hpresent, h⟩ := bind_eq_ok_iff.mp h
      obtain ⟨input, hinput, h⟩ := bind_eq_ok_iff.mp h
      obtain ⟨restart, hrestart, h⟩ := bind_eq_ok_iff.mp h
      obtain ⟨hunique, h⟩ := check_eq_ok_iff.mp h
      obtain ⟨wrapped, hwrapped, h⟩ := bind_eq_ok_iff.mp h
      obtain ⟨condition, hcondition, h⟩ := bind_eq_ok_iff.mp h
      cases h
      cases required_eq_ok hcondition
      cases hfound : lookup entries "condition" with
      | none =>
          rw [hfound] at hpresent
          cases hpresent
      | some inner =>
          rw [hfound] at hpresent
          obtain ⟨value, hvalue, heq⟩ := map_eq_ok_iff.mp hpresent
          cases heq
          exact .readUntil hkind (child_of_decoded hinput hunique hwrapped) hrestart hfound hvalue

theorem taken_of_decodeInput_list {input : InputConfig}
    (h : decodeInput place (.list (first :: items)) = .ok input) :
    InputTaken place (.list (first :: items)) input := by
  rw [decodeInput_list] at h
  obtain ⟨kind, htag, h⟩ := bind_eq_ok_iff.mp h
  obtain ⟨-, -, h⟩ := bind_eq_ok_iff.mp h
  have hkind := gives_list items htag
  cases kind with
  | file =>
      cases items with
      | nil => cases h
      | cons datum rest =>
          obtain ⟨path, hpath, h⟩ := bind_eq_ok_iff.mp h
          obtain ⟨multipart, hmultipart, h⟩ := bind_eq_ok_iff.mp h
          obtain ⟨-, -, h⟩ := bind_eq_ok_iff.mp h
          cases h
          exact .file hkind rfl hpath (by rwa [InputKind.given_list 1 rfl])
  | stdin =>
      obtain ⟨multipart, hmultipart, h⟩ := bind_eq_ok_iff.mp h
      obtain ⟨-, -, h⟩ := bind_eq_ok_iff.mp h
      cases h
      exact .stdin hkind (by rwa [InputKind.given_list 0 rfl])
  | memory =>
      obtain ⟨messages, hmessages, h⟩ := bind_eq_ok_iff.mp h
      obtain ⟨-, -, h⟩ := bind_eq_ok_iff.mp h
      cases h
      exact .memory hkind (by rwa [InputKind.given_list 0 rfl])
  | readUntil =>
      obtain ⟨input, hinput, h⟩ := bind_eq_ok_iff.mp h
      obtain ⟨restart, hrestart, h⟩ := bind_eq_ok_iff.mp h
      split at h
      · cases h
      · next inner hinner =>
        obtain ⟨condition, hcondition, h⟩ := bind_eq_ok_iff.mp h
        obtain ⟨-, -, h⟩ := bind_eq_ok_iff.mp h
        cases h
        refine .readUntil hkind ?_ (by rwa [InputKind.given_list 1 rfl])
          (by rwa [InputKind.given_list 2 rfl]) hcondition
        split at hinput
        · cases hinput
        · cases hinput
          exact .inl ⟨rfl, rfl⟩
        · next value rest _ =>
          obtain ⟨child, hchild, rfl⟩ := map_eq_ok_iff.mp hinput
          exact .inr ⟨child, hchild, rfl⟩

end Taken

theorem taken_of_decodeInput {place : Place} {datum : Datum} {input : InputConfig}
    (h : decodeInput place datum = .ok input) : InputTaken place datum input := by
  cases datum with
  | table entries => exact taken_of_decodeInput_table h
  | list items =>
      cases items with
      | nil =>
          rw [decodeInput] at h
          cases h
      | cons first items => exact taken_of_decodeInput_list h
  | moment text =>
      rw [decodeInput] at h
      cases h
  | _ =>
      rw [decodeInput] at h
      · exact absurd h refuse_ne_ok
      all_goals simp

theorem sizeOf_givenChild (datum : Datum) :
    givenChild datum = .null ∨ sizeOf (givenChild datum) < sizeOf datum := by
  unfold givenChild InputKind.given
  cases hfirst : given InputKind.readUntil.fields "input" datum with
  | some value => exact .inr (sizeOf_given hfirst)
  | none =>
      cases hsecond : given InputKind.readUntil.fields "wrapped_input" datum with
      | some value => exact .inr (sizeOf_given hsecond)
      | none => exact .inl rfl

theorem decodeInput_null (place : Place) (input : InputConfig) :
    decodeInput place .null ≠ .ok input := by
  rw [decodeInput]
  · exact refuse_ne_ok
  all_goals simp

theorem written_of_decodeInput {place : Place} (datum : Datum) {input : InputConfig}
    (h : decodeInput place datum = .ok input) : WrittenInput datum (encodeInput input) := by
  cases taken_of_decodeInput h with
  | file hkind hfound hpath hmultipart =>
      rw [encodeInput, ← getD_of_orDefault .boolean boolean_eq_ok_iff.mp hmultipart,
        ← text_eq_ok_iff.mp hpath]
      exact .file hkind hfound
  | stdin hkind hmultipart =>
      rw [encodeInput, ← getD_of_orDefault .boolean boolean_eq_ok_iff.mp hmultipart]
      exact .stdin hkind
  | memory hkind hmessages =>
      rw [encodeInput,
        ← getD_of_orDefault (fun values => .list (values.map .text)) texts_eq_ok_iff.mp hmessages]
      exact .memory hkind
  | readUntil hkind hchild hrestart hinner hcondition =>
      have hwritten := written_of_decodeCondition _ hcondition
      rcases hchild with ⟨hnull, rfl⟩ | ⟨child, hchild, rfl⟩
      · rw [encodeInput, ← getD_of_orDefault .boolean boolean_eq_ok_iff.mp hrestart]
        exact .childless hkind hnull hinner hwritten
      · rw [encodeInput, ← getD_of_orDefault .boolean boolean_eq_ok_iff.mp hrestart]
        exact .readUntil hkind (written_of_decodeInput _ hchild) hinner hwritten
termination_by sizeOf datum
decreasing_by
  rcases sizeOf_givenChild datum with hnull | hsmaller
  · rw [hnull] at hchild
    exact absurd hchild (decodeInput_null _ _)
  · exact hsmaller

/-- One loop in another, written in short: with lists for tables and a default left out, and
with the other name of the wrapped input. -/
theorem decodeInput_short (place : Place) :
    decodeInput place
        (.table [("condition", .list [.text "not", .list [.text "count", .integer 2]]),
          ("wrapped_input", .list [.text "read_until", .list [.text "memory", .list [.text "a"]],
            .boolean false, .list [.text "static"]]),
          ("restart_input", .boolean true), ("type", .text "read_until")]) =
      .ok (.readUntil (some (.readUntil (some (.memory ["a"])) false (.static false))) true
        (.not (.count 2))) := by
  have hcount (place : Place) :
      decodeCondition place (.list [.text "count", .integer 2]) = .ok (.count 2) :=
    decodeCondition_list
  have hnot (place : Place) :
      decodeCondition place (.list [.text "not", .list [.text "count", .integer 2]]) =
        .ok (.not (.count 2)) := by
    rw [decodeCondition_list]
    change (decodeCondition place.below _).bind _ = _
    rw [hcount]
    rfl
  have hstatic (place : Place) :
      decodeCondition place (.list [.text "static"]) = .ok (.static false) :=
    decodeCondition_list
  have hmemory (place : Place) :
      decodeInput place (.list [.text "memory", .list [.text "a"]]) = .ok (.memory ["a"]) :=
    decodeInput_list
  have hinner (place : Place) :
      decodeInput place (.list [.text "read_until", .list [.text "memory", .list [.text "a"]],
          .boolean false, .list [.text "static"]]) =
        .ok (.readUntil (some (.memory ["a"])) false (.static false)) := by
    rw [decodeInput_list]
    change ((decodeInput place.below _).map some).bind
      (fun _ => (decodeCondition place.below _).bind _) = _
    rw [hmemory, hstatic]
    rfl
  rw [decodeInput_table]
  change ((decodeCondition _ _).map some).bind (fun _ => ((decodeInput _ _).map some).bind _) = _
  rw [hnot, hinner]
  rfl

/-- Encoding and decoding are inverse up to what decoding leaves to be written out: what was
encoded decodes to what it was, however its tables come back, and data that decodes is
written out in full by encoding, after which nothing changes any more. -/
theorem configurations_roundTrip (place : Place) :
    (∀ condition datum, Reorders (encodeCondition condition) datum →
      decodeCondition place datum = .ok condition) ∧
    (∀ input datum, Reorders (encodeInput input) datum →
      decodeInput place datum = .ok input) ∧
    (∀ datum condition, decodeCondition place datum = .ok condition →
      WrittenCondition datum (encodeCondition condition) ∧
      ∀ again, Reorders (encodeCondition condition) again →
        (decodeCondition place again).map encodeCondition = .ok (encodeCondition condition)) ∧
    (∀ datum input, decodeInput place datum = .ok input →
      WrittenInput datum (encodeInput input) ∧
      ∀ again, Reorders (encodeInput input) again →
        (decodeInput place again).map encodeInput = .ok (encodeInput input)) := by
  refine ⟨fun condition datum => decodeCondition_reorders condition,
    fun input datum => decodeInput_reorders input, ?_, ?_⟩
  · intro datum condition hdecode
    refine ⟨written_of_decodeCondition datum hdecode, fun again hagain => ?_⟩
    rw [decodeCondition_reorders condition hagain]
    rfl
  · intro datum input hdecode
    refine ⟨written_of_decodeInput datum hdecode, fun again hagain => ?_⟩
    rw [decodeInput_reorders input hagain]
    rfl

/-- The tables of one loop in another come back with their entries turned round, and the loops
written in short are written out. -/
theorem configurations_roundTrip_of_nested :
    decodeCondition (.top .json)
        (.table [("condition", .table [("arg", .integer 2), ("type", .text "count")]),
          ("type", .text "not")]) = .ok (.not (.count 2)) ∧
      decodeInput (.top .json)
        (.table [("condition", .table [("condition",
              .table [("arg", .integer 2), ("type", .text "count")]), ("type", .text "not")]),
          ("restart_input", .boolean true),
          ("input", .table [("condition",
              .table [("value", .boolean false), ("type", .text "static")]),
            ("restart_input", .boolean false),
            ("input", .table [("messages", .list [.text "a"]), ("type", .text "memory")]),
            ("type", .text "read_until")]),
          ("type", .text "read_until")]) =
        .ok (.readUntil (some (.readUntil (some (.memory ["a"])) false (.static false))) true
          (.not (.count 2))) ∧
      WrittenInput
        (.table [("condition", .list [.text "not", .list [.text "count", .integer 2]]),
          ("wrapped_input", .list [.text "read_until", .list [.text "memory", .list [.text "a"]],
            .boolean false, .list [.text "static"]]),
          ("restart_input", .boolean true), ("type", .text "read_until")])
        (encodeInput (.readUntil
          (some (.readUntil (some (.memory ["a"])) false (.static false))) true
          (.not (.count 2)))) := by
  obtain ⟨hcondition, hinput, -, hwritten⟩ := configurations_roundTrip (.top .json)
  have hturned {entries others : List (String × Datum)}
      (h : ReordersValues entries others.reverse) : Reorders (.table entries) (.table others) :=
    .table h (List.reverse_perm others)
  have hnot : Reorders (encodeCondition (.not (.count 2)))
      (.table [("condition", .table [("arg", .integer 2), ("type", .text "count")]),
        ("type", .text "not")]) := by
    simp only [encodeCondition]
    exact hturned (.cons (.refl _) (.cons (hturned (.refl _)) .nil))
  refine ⟨hcondition _ _ hnot, hinput _ _ ?_, (hwritten _ _ (decodeInput_short _)).1⟩
  simp only [encodeInput]
  refine hturned (.cons (.refl _) (.cons (hturned ?_) (.cons (.refl _) (.cons hnot .nil))))
  refine .cons (.refl _) (.cons (hturned (.refl _)) (.cons (.refl _) (.cons ?_ .nil)))
  simp only [encodeCondition]
  exact hturned (.refl _)

end Intake
