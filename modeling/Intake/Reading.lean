import Intake.Files

/-!
# Reading bytes

Something to read gives its bytes in pieces and then ends, fails or falls
silent.  A reader that has been stopped is at its end at once and leaves what
it reads from alone.
-/

namespace Intake

/-- What comes after the last byte. -/
inductive Tail where
  | ended
  /-- The next read fails, and then there is nothing more. -/
  | failing (error : IoError)
  /-- Nothing comes, and whoever reads waits. -/
  | silent
  deriving Repr, DecidableEq, Inhabited

/-- Something to read bytes from.  However much is asked for, a read does not
go beyond the end of a piece. -/
structure ByteSource where
  pieces : List Bytes
  tail : Tail := .ended
  deriving Repr, DecidableEq, Inhabited

/-- What a read gives. -/
inductive Piece where
  /-- Some bytes; none at the end. -/
  | bytes (content : Bytes)
  | failed (error : IoError)
  | waiting
  deriving Repr, DecidableEq

namespace ByteSource

/-- A source of bytes that are all there at once. -/
def ofBytes (content : Bytes) : ByteSource := ⟨[content], .ended⟩

/-- What opening a file or a directory gives to read from. -/
def ofNode : FileNode → ByteSource
  | .file content => .ofBytes content
  | .directory => ⟨[], .failing .isDirectory⟩

def data (source : ByteSource) : Bytes := source.pieces.flatten

/-- Takes up to `size` bytes of the first piece that has any. -/
def takeFrom (size : Nat) : List Bytes → Option (Bytes × List Bytes)
  | [] => none
  | [] :: rest => takeFrom size rest
  | (b :: piece) :: rest => some ((b :: piece).take size, (b :: piece).drop size :: rest)

/-- Reads up to `size` bytes. -/
def read (source : ByteSource) (size : Nat) : Piece × ByteSource :=
  match takeFrom size source.pieces with
  | some (content, pieces) => (.bytes content, { source with pieces })
  | none =>
      match source.tail with
      | .ended => (.bytes [], source)
      | .failing error => (.failed error, ⟨[], .ended⟩)
      | .silent => (.waiting, source)

theorem takeFrom_eq_none_iff {size : Nat} {pieces : List Bytes} :
    takeFrom size pieces = none ↔ pieces.flatten = [] := by
  induction pieces with
  | nil => simp [takeFrom]
  | cons piece rest ih =>
      cases piece with
      | nil => simpa [takeFrom] using ih
      | cons b piece => simp [takeFrom]

theorem append_of_takeFrom {size : Nat} {pieces left : List Bytes} {content : Bytes}
    (found : takeFrom size pieces = some (content, left)) :
    content ++ left.flatten = pieces.flatten := by
  induction pieces with
  | nil => simp [takeFrom] at found
  | cons piece rest ih =>
      cases piece with
      | nil => simpa using ih (by simpa [takeFrom] using found)
      | cons b piece =>
          simp only [takeFrom, Option.some.injEq, Prod.mk.injEq] at found
          obtain ⟨rfl, rfl⟩ := found
          rw [List.flatten_cons, ← List.append_assoc, List.take_append_drop, List.flatten_cons]

/-- Reads, unless it has been stopped. -/
def readUnless (stopped : Bool) (source : ByteSource) (size : Nat) : Piece × ByteSource :=
  if stopped then (.bytes [], source) else source.read size

theorem readUnless_true (source : ByteSource) (size : Nat) :
    source.readUnless true size = (.bytes [], source) := rfl

theorem readUnless_false (source : ByteSource) (size : Nat) :
    source.readUnless false size = source.read size := rfl

end ByteSource

/-- A reader that someone else can stop. -/
structure StoppableReader where
  source : ByteSource
  stopped : Bool := false
  deriving Repr, DecidableEq

/-- What can be done with a stoppable reader. -/
inductive ReadStep where
  | read (size : Nat)
  | stop
  deriving Repr, DecidableEq

/-- What a step on a stoppable reader answers. -/
inductive ReadAnswer where
  | piece (piece : Piece)
  /-- The reader is stopped; `first` tells whether it was not before. -/
  | stopped (first : Bool)
  deriving Repr, DecidableEq

namespace StoppableReader

def step (reader : StoppableReader) : ReadStep → ReadAnswer × StoppableReader
  | .read size =>
      let (piece, source) := reader.source.readUnless reader.stopped size
      (.piece piece, { reader with source })
  | .stop => (.stopped (!reader.stopped), { reader with stopped := true })

def answers (reader : StoppableReader) : List ReadStep → List ReadAnswer
  | [] => []
  | action :: rest =>
      let (answer, next) := reader.step action
      answer :: next.answers rest

/-- The answers up to the first read after the reader has been stopped, which
tells the user that there is nothing more to ask. -/
def session (reader : StoppableReader) : List ReadStep → List ReadAnswer
  | [] => []
  | .stop :: rest =>
      let (answer, next) := reader.step .stop
      answer :: next.session rest
  | .read size :: rest =>
      let (answer, next) := reader.step (.read size)
      answer :: if reader.stopped then [] else next.session rest

end StoppableReader

end Intake
