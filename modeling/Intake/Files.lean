import Intake.Text.Utf8

/-!
# Files

A working directory with files and directories below it, and how paths lead to
them.  A path is walked component by component: whatever is walked through has
to be a directory, `..` leads up, and a slash at the end asks for a directory.
-/

namespace Intake

/-- Why reading or opening fails. -/
inductive IoError where
  | notFound
  | denied
  | notDirectory
  | isDirectory
  | tooManyOpen
  | nameTooLong
  | notText
  /-- Bytes that are no text, and where they stop being one. -/
  | brokenText (fault : Utf8.Fault)
  /-- A path with a NUL in it. -/
  | nulInPath
  /-- Any other failure, with its wording. -/
  | other (text : String)
  deriving Repr, DecidableEq, Inhabited

namespace IoError

/-- The number that the system has for a failure. -/
def code? : IoError → Option Nat
  | notFound => some 2
  | denied => some 13
  | notDirectory => some 20
  | isDirectory => some 21
  | tooManyOpen => some 24
  | nameTooLong => some 36
  | notText | brokenText _ | nulInPath | other _ => none

/-- The failures that the system has a number for. -/
def numbered : List IoError :=
  [notFound, denied, notDirectory, isDirectory, tooManyOpen, nameTooLong]

def ofCode? (code : Nat) : Option IoError := numbered.find? fun error => error.code? = some code

def text : IoError → String
  | notFound => "No such file or directory (os error 2)"
  | denied => "Permission denied (os error 13)"
  | notDirectory => "Not a directory (os error 20)"
  | isDirectory => "Is a directory (os error 21)"
  | tooManyOpen => "Too many open files (os error 24)"
  | nameTooLong => "File name too long (os error 36)"
  | notText => "stream did not contain valid UTF-8"
  | brokenText fault => fault.text
  | nulInPath => "file name contained an unexpected NUL byte"
  | other text => text

end IoError

/-- What a path leads to. -/
inductive FileNode where
  | file (content : Bytes)
  | directory
  deriving Repr, DecidableEq, Inhabited

def FileNode.text : FileNode → Except IoError String
  | .directory => .error .isDirectory
  | .file content =>
      match Utf8.decode? content with
      | some text => .ok text
      | none => .error .notText

/-- What opening a path gives. -/
abbrev Disk := String → Except IoError FileNode

/-- The components that lead from the working directory to a node. -/
abbrev Location := List String

/-- The nodes below the working directory. -/
structure Files where
  nodes : List (Location × FileNode) := []
  deriving Repr, Inhabited

namespace Files

/-- How many bytes a component of a path may have. -/
def greatestName : Nat := 255

/-- How many bytes a path may have. -/
def greatestPath : Nat := 4095

def node? (files : Files) (location : Location) : Option FileNode :=
  if location.isEmpty then some .directory
  else (files.nodes.find? fun entry => entry.1 == location).map (·.2)

def put (files : Files) (location : Location) (node : FileNode) : Files :=
  ⟨(location, node) :: files.nodes.filter fun entry => entry.1 != location⟩

/-- Makes directories of all locations on the way to one where there is
nothing yet. -/
def withParents (files : Files) (location : Location) : Files :=
  (List.range location.length).foldl (fun files n =>
    let parent := location.take n
    if (files.node? parent).isSome then files else files.put parent .directory) files

/-- The components of a path, without those that lead nowhere. -/
def components (path : String) : List String :=
  (path.splitOn "/").filter fun name => name ≠ "" && name ≠ "."

/-- Whether a path asks for a directory by its end. -/
def asksDirectory (path : String) : Bool :=
  match (path.splitOn "/").getLast? with
  | some last => (last = "" || last = ".") && path ≠ ""
  | none => false

/-- Where a walk has come to: a location below the working directory, or a
place outside that has nothing but directories on the way to it. -/
structure Place where
  inside : Bool
  location : Location
  deriving Repr, DecidableEq

/-- Walks on from a directory. -/
def walk (files : Files) (place : Place) : List String → Except IoError (Place × FileNode)
  | [] => .ok (place, .directory)
  | ".." :: rest =>
      let place := if place.location.isEmpty then ⟨false, []⟩
        else { place with location := place.location.dropLast }
      files.walk place rest
  | name :: rest =>
      if name.utf8ByteSize > greatestName then .error .nameTooLong
      else if !place.inside then .error .notFound
      else
        let place := { place with location := place.location ++ [name] }
        match files.node? place.location with
        | none => .error .notFound
        | some .directory => files.walk place rest
        | some (.file content) =>
            if rest.isEmpty then .ok (place, .file content) else .error .notDirectory

/-- The place and the node that a path leads to. -/
def resolve (files : Files) (path : String) : Except IoError (Place × FileNode) :=
  if path.toList.contains (Char.ofNat 0) then .error .nulInPath
  else if path = "" then .error .notFound
  else if path.utf8ByteSize > greatestPath then .error .nameTooLong
  else
    match files.walk ⟨!path.startsWith "/", []⟩ (components path) with
    | .error error => .error error
    | .ok (place, .file content) =>
        if asksDirectory path then .error .notDirectory else .ok (place, .file content)
    | .ok found => .ok found

/-- Opens what a path leads to.  A directory can be opened too. -/
def openPath (files : Files) (path : String) : Except IoError FileNode :=
  (files.resolve path).map (·.2)

/-- Writes a file, along with the directories on the way. -/
def write (files : Files) (path : String) (content : Bytes) : Files :=
  let location := components path
  (files.withParents location).put location (.file content)

/-- Makes a directory, along with those on the way. -/
def makeDirectory (files : Files) (path : String) : Files :=
  let location := components path
  if location.isEmpty then files
  else (files.withParents location).put location .directory

/-- Removes a file.  The second value tells whether it was there. -/
def remove (files : Files) (path : String) : Files × Bool :=
  match files.resolve path with
  | .ok (place, .file _) =>
      (⟨files.nodes.filter fun entry => entry.1 != place.location⟩, true)
  | _ => (files, false)

/-- Whether a new file can be made in a directory that is made first. -/
def canLogTo (files : Files) (directory : String) : Bool :=
  let rec clear (location : Location) : List String → Bool
    | [] => true
    | ".." :: rest => clear location.dropLast rest
    | name :: rest =>
        name.utf8ByteSize ≤ greatestName &&
          match files.node? (location ++ [name]) with
          | some (.file _) => false
          | _ => clear (location ++ [name]) rest
  !directory.toList.contains (Char.ofNat 0) &&
    directory.utf8ByteSize + 32 ≤ greatestPath &&
    (directory.startsWith "/" || clear [] (components directory))

end Files

end Intake
