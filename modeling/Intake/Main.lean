import Intake.CommandLine

/-!
# The program

Looks up what the arguments are about and does what they ask for.
-/

namespace Intake.Program

/-- The failure with a number of the system, which may come negated. -/
def numbered (code : UInt32) (error : IO.Error) : IoError :=
  (IoError.ofCode? code.toInt32.toInt.natAbs).getD (.other (toString error))

def failure (path : String) (error : IO.Error) : IoError :=
  match error with
  | .noFileOrDirectory _ _ _ => .notFound
  | .permissionDenied _ _ _ => .denied
  | .inappropriateType _ code _ | .resourceExhausted _ code _ => numbered code error
  | .invalidArgument _ code _ =>
      if path.toList.contains (Char.ofNat 0) then .nulInPath else numbered code error
  | _ => .other (toString error)

def openPath (path : String) : IO (Except IoError FileNode) := do
  try
    let content ← IO.FS.readBinFile path
    return .ok (.file content.toList)
  catch error =>
    match failure path error with
    | .isDirectory => return .ok .directory
    | other => return .error other

/-- The path of the innermost input, if it is a file. -/
def innermostPath? : InputConfig → Option String
  | .file path _ => some path
  | .readUntil (some input) _ _ => innermostPath? input
  | _ => none

/-- Whether the innermost input is standard input. -/
def readsStdin : InputConfig → Bool
  | .stdin _ => true
  | .readUntil (some input) _ _ => readsStdin input
  | _ => false

partial def allOf (stream : IO.FS.Stream) (taken : ByteArray) : IO ByteArray := do
  let piece ← stream.read 8192
  if piece.isEmpty then return taken else allOf stream (taken ++ piece)

/-- Whether a directory for the log is there or can be made. -/
def makeLogDirectory (path : String) : IO Bool := do
  try
    IO.FS.createDirAll path
    return true
  catch _ => return false

/-- What the program finds around it when it is to work with a configuration. -/
def surroundings (path : String) (running : Bool) : IO CommandLine.Surroundings := do
  let node ← openPath path
  let config := (Config.load (fun _ => node) path).toOption
  let disk : Disk ← match config.bind fun config => innermostPath? config.input with
    | none => pure fun _ => node
    | some inner => do
        let innerNode ← openPath inner
        pure fun asked => if asked = path then node else innerNode
  let stdin ←
    if running && (config.map fun config => readsStdin config.input).getD false then
      allOf (← IO.getStdin) .empty
    else pure .empty
  let canLog ← match config.bind fun config => config.logging.directory with
    | some directory => if running then makeLogDirectory directory else pure true
    | none => pure true
  return { disk, stdin := stdin.toList, canLogTo := fun _ => canLog }

end Intake.Program

open Intake in
def main (arguments : List String) : IO UInt32 := do
  let around ← match CommandLine.read arguments with
    | .run path => Program.surroundings path true
    | .validate path => Program.surroundings path false
    | _ => pure { disk := fun _ => .error .notFound, stdin := [], canLogTo := fun _ => true }
  let outcome := CommandLine.outcome around arguments
  for line in outcome.errors do
    IO.eprintln line
  (← IO.getStdout).write ⟨outcome.output.toArray⟩
  return outcome.status.toUInt32
