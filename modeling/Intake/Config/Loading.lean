import Intake.Config.Decoding
import Intake.Files
import Intake.Toml.Reader

/-!
# Loading configurations

A configuration is a TOML document in a file.
-/

namespace Intake

/-- Why a text is no configuration. -/
inductive ParseError where
  | malformed
  | misfit (misfit : Misfit)
  deriving Inhabited

def Config.parse (text : String) : Except ParseError Config :=
  match Toml.read? text with
  | none => .error .malformed
  | some entries => (decodeConfig entries).mapError .misfit

/-- Why a configuration cannot be loaded. -/
inductive LoadError where
  | unread (path : String) (source : IoError)
  | unparsed (path : String)
  deriving Repr, DecidableEq, Inhabited

def LoadError.message : LoadError → String
  | unread path _ => "Failed to read config file at " ++ Text.quoted path
  | unparsed path => "Failed to parse TOML from " ++ Text.quoted path

/-- The texts of a load error and of its cause. -/
def LoadError.chain : LoadError → List String
  | unread path source => [(unread path source).message, source.text]
  | unparsed path => [(unparsed path).message, "<toml>"]

def Config.load (disk : Disk) (path : String) : Except LoadError Config := do
  let node ← (disk path).mapError (.unread path)
  let text ← node.text.mapError (.unread path)
  (Config.parse text).mapError fun _ => .unparsed path

end Intake
