import Intake.Config.Encoding
import Intake.Config.Loading
import Intake.Config.Validation
import Intake.Json.Printer
import Intake.Writing

/-!
# The command line

`run` writes the messages of a configured input to standard output, `validate`
checks a configuration and prints it with all defaults, and `version` tells the
version.  Wrong usage ends with status 2, a failure with status 1, and a log
that cannot be opened with status 101.
-/

namespace Intake.CommandLine

def version : String := "1.0.0-unstable"

/-- Where the configuration is unless an argument says so. -/
def defaultPath : String := "/etc/pipeline_input.toml"

/-- What arguments ask for. -/
inductive Request where
  | run (path : String)
  | validate (path : String)
  | version
  | programVersion
  | help
  | misuse
  deriving Repr, DecidableEq

/-- What a run of the program does. -/
structure Outcome where
  status : Nat
  output : Bytes := []
  errors : List String := []
  deriving Repr

/-- What the program finds around it. -/
structure Surroundings where
  disk : Disk
  stdin : Bytes
  /-- Whether a log can be opened in a directory. -/
  canLogTo : String → Bool

/-- Puts a path in place of none. -/
def takePath (taken : Option String) (path : String) : Option (Option String) :=
  if taken.isSome || path.isEmpty then none else some (some path)

/-- Whether an argument is an option and not a value. -/
def isOption (argument : String) : Bool := argument.startsWith "-" && argument ≠ "-"

/-- The path in an argument that begins with `-c`. -/
def pathInShort (rest : List Char) : String :=
  match rest with
  | '=' :: path => String.ofList path
  | path => String.ofList path

def asksHelp (argument : String) : Bool := argument = "--help" || argument.startsWith "-h"

/-- Reads the arguments of a command that takes a path. -/
def options (command : String → Request) (taken : Option String) : List String → Request
  | [] => command (taken.getD defaultPath)
  | ["--"] => command (taken.getD defaultPath)
  | argument :: rest =>
      if asksHelp argument then .help
      else if argument = "-c" || argument = "--config" then
        match rest with
        | [] => .misuse
        | path :: rest =>
            if isOption path then .misuse
            else
              match takePath taken path with
              | none => .misuse
              | some taken => options command taken rest
      else
        let path? : Option String :=
          match argument.toList with
          | '-' :: 'c' :: path => some (pathInShort path)
          | '-' :: '-' :: 'c' :: 'o' :: 'n' :: 'f' :: 'i' :: 'g' :: '=' :: path =>
              some (String.ofList path)
          | _ => none
        match path?.bind (takePath taken) with
        | none => .misuse
        | some taken => options command taken rest

def commands : List String := ["run", "validate", "version", "help"]

def read : List String → Request
  | [] => .misuse
  | "run" :: rest => options .run none rest
  | "validate" :: rest => options .validate none rest
  | ["version"] | ["version", "--"] => .version
  | "version" :: argument :: _ => if asksHelp argument then .help else .misuse
  | ["help"] => .help
  | ["help", command] => if commands.contains command then .help else .misuse
  | argument :: _ =>
      if asksHelp argument then .help
      else if argument = "--version" || argument.startsWith "-V" then .programVersion
      else .misuse

/-- A failure with its text, and what has been said before. -/
def failure (before : List String) (text : String) : Outcome :=
  { status := 1, errors := before ++ ["Error: " ++ text] }

/-- Writes the messages of a configured input to standard output. -/
def runConfig (around : Surroundings) (path : String) : Outcome :=
  match Config.load around.disk path with
  | .error error => failure [] error.message
  | .ok config =>
      if (config.logging.directory.map fun directory => !around.canLogTo directory).getD false then
        { status := 101 }
      else
        match Stage.build around.disk true config.input with
        | .error _ => failure [] "Failed to create input"
        | .ok stage =>
            let world : World := { disk := around.disk, stdin := .ofBytes around.stdin }
            { status := 0, output := (stage.writeOut world {} none).content }

def validateConfig (around : Surroundings) (path : String) : Outcome :=
  let before := ["Validating configuration file: " ++ Text.quoted path]
  match Config.load around.disk path with
  | .error error => failure before error.message
  | .ok config =>
      match validate config.input with
      | .error _ => failure before "Invalid input configuration"
      | .ok () =>
          { status := 0
            output := Utf8.encode (Json.indented 0 (encodeConfig config) ++ "\n")
            errors := before ++ ["Configuration valid"] }

/-- What the program does when it is called with arguments. -/
def outcome (around : Surroundings) (arguments : List String) : Outcome :=
  match read arguments with
  | .run path => runConfig around path
  | .validate path => validateConfig around path
  | .version => { status := 0, output := Utf8.encode ("Pipeline Input " ++ version ++ "\n") }
  | .programVersion =>
      { status := 0, output := Utf8.encode ("pipeline-input " ++ version ++ "\n") }
  | .help => { status := 0 }
  | .misuse => { status := 2 }

end Intake.CommandLine
