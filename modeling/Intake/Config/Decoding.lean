import Intake.Config.Fields
import Intake.Config.Settings

/-!
# Decoding configurations

A table of fields is looked at in the order of its keys, a list of fields in
the order of declaration.  Unknown fields are passed over.  Missing fields are
told only after all that are there fit.
-/

namespace Intake

open Fields Datum

/-- The fields of a comparison from a table. -/
def contentOfTable (entries : List (String × Datum)) : Decoded ConditionConfig := do
  let arg ← orDefault (text .string) "" (lookup entries "arg")
  let operator ←
    orDefault (text .string) ConditionConfig.defaultOperator (lookup entries "operator")
  let part ← orDefault signed 0 (lookup entries "part")
  .ok (.content operator part arg)

/-- The fields of a comparison from a list. -/
def contentOfItems (items : List Datum) : Decoded ConditionConfig := do
  let operator ← orDefault (text .string) ConditionConfig.defaultOperator items[0]?
  let part ← orDefault signed 0 items[1]?
  let arg ← orDefault (text .string) "" items[2]?
  noSurplus items 3
  .ok (.content operator part arg)

mutual

def decodeCondition (place : Place) (datum : Datum) : Decoded ConditionConfig :=
  match datum with
  | .table entries => do
      match ← tagOf place ConditionKind.name ConditionKind.all entries with
      | .content => contentOfTable entries
      | .count => do
          let arg ←
            orDefault (unsigned .usize) ConditionConfig.defaultCount (lookup entries "arg")
          .ok (.count arg)
      | .static => do
          let value ← orDefault boolean false (lookup entries "value")
          .ok (.static value)
      | .not =>
          match _found : lookup entries "condition" with
          | some inner => do
              let condition ← decodeCondition place.below inner
              .ok (.not condition)
          | none => .error (.missingField "condition")
      | .and =>
          match _found : lookup entries "conditions" with
          | some inner => do
              let conditions ← decodeConditions place.below inner
              .ok (.and conditions)
          | none => .ok (.and [])
      | .or =>
          match _found : lookup entries "conditions" with
          | some inner => do
              let conditions ← decodeConditions place.below inner
              .ok (.or conditions)
          | none => .ok (.or [])
  | .list [] => .error (.missingField "type")
  | .list (first :: items) => do
      let kind ← tag place ConditionKind.name ConditionKind.all first
      keepItems items
      match kind, items with
      | .content, items => contentOfItems items
      | .count, items => do
          let arg ← orDefault (unsigned .usize) ConditionConfig.defaultCount items[0]?
          noSurplus items 1
          .ok (.count arg)
      | .static, items => do
          let value ← orDefault boolean false items[0]?
          noSurplus items 1
          .ok (.static value)
      | .not, [] => .error (.tooShort 0 "struct variant ConditionConfig::Not" 1)
      | .not, inner :: more => do
          let condition ← decodeCondition place.below inner
          noSurplus (inner :: more) 1
          .ok (.not condition)
      | .and, [] => .ok (.and [])
      | .and, inner :: more => do
          let conditions ← decodeConditions place.below inner
          noSurplus (inner :: more) 1
          .ok (.and conditions)
      | .or, [] => .ok (.or [])
      | .or, inner :: more => do
          let conditions ← decodeConditions place.below inner
          noSurplus (inner :: more) 1
          .ok (.or conditions)
  | .moment _ => .error (.missingField "type")
  | other => refuse other .taggedCondition
termination_by sizeOf datum
decreasing_by
  all_goals
    simp_wf
    first
    | (have smaller := sizeOf_lookup _found; omega)
    | omega

def decodeConditions (place : Place) (datum : Datum) : Decoded (List ConditionConfig) :=
  match datum with
  | .list items => decodeConditionItems place items
  | other => refuse other .sequence
termination_by sizeOf datum
decreasing_by
  simp_wf

def decodeConditionItems (place : Place) (items : List Datum) : Decoded (List ConditionConfig) :=
  match items with
  | [] => .ok []
  | item :: rest => do
      let condition ← decodeCondition place item
      let conditions ← decodeConditionItems place rest
      .ok (condition :: conditions)
termination_by sizeOf items
decreasing_by
  all_goals
    simp_wf
    try omega

end

def decodeInput (place : Place) (datum : Datum) : Decoded InputConfig :=
  match datum with
  | .table entries => do
      match ← tagOf place InputKind.name InputKind.all entries with
      | .file => do
          let multipart ← orDefault boolean false (lookup entries "multipart")
          match lookup entries "path" with
          | some path => do
              let path ← text .path path
              .ok (.file path multipart)
          | none => .error (.missingField "path")
      | .stdin => do
          let multipart ← orDefault boolean false (lookup entries "multipart")
          .ok (.stdin multipart)
      | .memory => do
          let messages ← orDefault texts [] (lookup entries "messages")
          .ok (.memory messages)
      | .readUntil => do
          let condition ← whenPresent (decodeCondition place.below) (lookup entries "condition")
          let input ← nullable entries "input" fun value _ => decodeInput place.below value
          let restart ← orDefault boolean false (lookup entries "restart_input")
          notBoth entries "input" "wrapped_input"
          let wrapped ← nullable entries "wrapped_input" fun value _ =>
            decodeInput place.below value
          let condition ← required "condition" condition
          .ok (.readUntil (input <|> wrapped) restart condition)
  | .list [] => .error (.missingField "type")
  | .list (first :: items) => do
      let kind ← tag place InputKind.name InputKind.all first
      keepItems items
      match kind, items with
      | .file, [] => .error (.tooShort 0 "struct FileConfig" 2)
      | .file, path :: more => do
          let path' ← text .path path
          let multipart ← orDefault boolean false more[0]?
          noSurplus (path :: more) 2
          .ok (.file path' multipart)
      | .stdin, items => do
          let multipart ← orDefault boolean false items[0]?
          noSurplus items 1
          .ok (.stdin multipart)
      | .memory, items => do
          let messages ← orDefault texts [] items[0]?
          noSurplus items 1
          .ok (.memory messages)
      | .readUntil, [] => .error (.tooShort 2 "struct ReadUntilConfig" 3)
      | .readUntil, inner :: more => do
          let input ← match inner with
            | .null => .ok none
            | value => (decodeInput place.below value).map some
          let restart ← orDefault boolean false more[0]?
          match more[1]? with
          | none => .error (.tooShort 2 "struct ReadUntilConfig" 3)
          | some condition => do
              let condition ← decodeCondition place.below condition
              noSurplus (inner :: more) 3
              .ok (.readUntil input restart condition)
  | .moment _ => .error (.missingField "type")
  | other => refuse other .taggedInput
termination_by sizeOf datum
decreasing_by
  all_goals
    simp_wf
    omega

/-- The name of a log format, or a table whose one key it is. -/
def decodeLogFormat : Datum → Decoded LogFormat
  | .text name => named LogFormat.name [.pretty, .json] name
  | .table [] => .error .emptyVariant
  | .table [(name, content)] => do
      let format ← named LogFormat.name [.pretty, .json] name
      match content with
      | .list [] | .table [] => .ok format
      | other => .error (.variantContent other)
  | .table _ => .error .manyVariants
  | _ => .error .noVariant

/-- Takes the entries of a table in turn. -/
def eachEntry {α : Type} (take : α → String → Datum → Decoded α) (start : α) :
    List (String × Datum) → Decoded α
  | [] => .ok start
  | (key, value) :: rest => do
      let next ← take start key value
      eachEntry take next rest

/-- Settings from a table or from a list, whose surplus is passed over. -/
def decodeSettings {α : Type} (name : String) (fields : List String) (default : α)
    (take : α → String → Datum → Decoded α) : Datum → Decoded α
  | .table entries => eachEntry take default entries
  | .list items => eachEntry take default (fields.zip items)
  | .moment _ => .ok default
  | other => refuse other (.struct name)

def decodeGeneral : Datum → Decoded GeneralSettings :=
  decodeSettings "GeneralConfig" ["shutdown_timeout_ms"] {} fun settings key value =>
    match key with
    | "shutdown_timeout_ms" => do
        let shutdownTimeoutMs ← unsigned .u64 value
        .ok { settings with shutdownTimeoutMs }
    | _ => do
        skip value
        .ok settings

def decodeLogging : Datum → Decoded LoggingSettings :=
  decodeSettings "LoggingConfig" ["level", "format", "directory", "tokio_console"] {}
    fun settings key value =>
      match key with
      | "level" => do
          let level ← text .string value
          .ok { settings with level }
      | "format" => do
          let format ← decodeLogFormat value
          .ok { settings with format }
      | "directory" => do
          let directory ← text .path value
          .ok { settings with directory := some directory }
      | "tokio_console" => do
          let console ← boolean value
          .ok { settings with console }
      | _ => do
          skip value
          .ok settings

def decodeMetrics : Datum → Decoded MetricsSettings :=
  decodeSettings "MetricsConfig" ["enabled", "listen_addr"] {} fun settings key value =>
    match key with
    | "enabled" => do
        let enabled ← boolean value
        .ok { settings with enabled }
    | "listen_addr" => do
        let listenAddr ← text .string value
        .ok { settings with listenAddr }
    | _ => do
        skip value
        .ok settings

/-- A configuration whose input may still be missing. -/
structure Partial where
  general : GeneralSettings := {}
  logging : LoggingSettings := {}
  metrics : MetricsSettings := {}
  input : Option InputConfig := none

/-- A whole configuration from the entries of its table. -/
def decodeConfig (entries : List (String × Datum)) : Decoded Config := do
  let sections ← eachEntry (fun (sections : Partial) key value =>
    match key with
    | "general" => do
        let general ← decodeGeneral value
        .ok { sections with general }
    | "logging" => do
        let logging ← decodeLogging value
        .ok { sections with logging }
    | "metrics" => do
        let metrics ← decodeMetrics value
        .ok { sections with metrics }
    | "input" => do
        let input ← decodeInput (.top .toml) value
        .ok { sections with input := some input }
    | _ => do
        skip value
        .ok sections) {} entries
  let input ← required "input" sections.input
  .ok { general := sections.general, logging := sections.logging,
        metrics := sections.metrics, input }

end Intake
