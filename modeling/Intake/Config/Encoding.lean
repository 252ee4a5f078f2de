import Intake.Config.Settings
import Intake.Datum

/-!
# Encoding configurations

Every field is written, in the order of declaration and with its tag first.
-/

namespace Intake

mutual

def encodeCondition : ConditionConfig → Datum
  | .content operator part arg =>
      .table [("type", .text "content"), ("operator", .text operator),
        ("part", .integer part.toInt), ("arg", .text arg)]
  | .count arg => .table [("type", .text "count"), ("arg", .integer arg.toNat)]
  | .static value => .table [("type", .text "static"), ("value", .boolean value)]
  | .not condition => .table [("type", .text "not"), ("condition", encodeCondition condition)]
  | .and conditions =>
      .table [("type", .text "and"), ("conditions", .list (encodeConditions conditions))]
  | .or conditions =>
      .table [("type", .text "or"), ("conditions", .list (encodeConditions conditions))]

def encodeConditions : List ConditionConfig → List Datum
  | [] => []
  | condition :: rest => encodeCondition condition :: encodeConditions rest

end

def encodeInput : InputConfig → Datum
  | .file path multipart =>
      .table [("type", .text "file"), ("path", .text path), ("multipart", .boolean multipart)]
  | .stdin multipart => .table [("type", .text "stdin"), ("multipart", .boolean multipart)]
  | .memory messages =>
      .table [("type", .text "memory"), ("messages", .list (messages.map .text))]
  | .readUntil none restart condition =>
      .table [("type", .text "read_until"), ("input", .null),
        ("restart_input", .boolean restart), ("condition", encodeCondition condition)]
  | .readUntil (some input) restart condition =>
      .table [("type", .text "read_until"), ("input", encodeInput input),
        ("restart_input", .boolean restart), ("condition", encodeCondition condition)]

def encodeConfig (config : Config) : Datum :=
  .table
    [("general", .table
      [("shutdown_timeout_ms", .integer config.general.shutdownTimeoutMs.toNat)]),
     ("logging", .table
      [("level", .text config.logging.level),
       ("format", .text config.logging.format.name),
       ("directory", (config.logging.directory.map Datum.text).getD .null),
       ("tokio_console", .boolean config.logging.console)]),
     ("metrics", .table
      [("enabled", .boolean config.metrics.enabled),
       ("listen_addr", .text config.metrics.listenAddr)]),
     ("input", encodeInput config.input)]

end Intake
