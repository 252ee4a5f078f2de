import Intake.Framing

/-!
# Where messages come from

A pump pulls its messages from a list at hand, or from the lines of something
it reads.  Reading asks before each piece whether the stage has been asked to
close, and finds itself at the end if so.
-/

namespace Intake

/-- What lines are read from. -/
inductive Origin where
  /-- Something that nobody else reads. -/
  | own (source : ByteSource)
  /-- Standard input, which outlives each of its readers. -/
  | standard
  deriving Repr, DecidableEq, Inhabited

/-- Where the messages of a pump come from. -/
inductive Source where
  /-- Messages at hand, the first failure being the last item that counts. -/
  | listed (items : List (Except IoError Message))
  /-- Lines of something, of which `ahead` has been read but not framed. -/
  | lines (framer : Framer) (ahead : Bytes) (origin : Origin)
  deriving Inhabited

/-- What pulling at a source gives. -/
inductive Pulled where
  | message (message : Message)
  /-- Something has been read, and pulling goes on. -/
  | more
  | ended
  | failed (error : IoError)
  | waiting
  deriving Repr, DecidableEq

namespace Source

/-- How many bytes are read at once. -/
def pieceSize : Nat := 8192

/-- Reads a piece from an origin, given standard input. -/
def readPiece (stopped : Bool) (stdin : ByteSource) :
    Origin → Piece × Origin × ByteSource
  | .own source =>
      let (piece, source) := source.readUnless stopped pieceSize
      (piece, .own source, stdin)
  | .standard =>
      let (piece, stdin) := stdin.readUnless stopped pieceSize
      (piece, .standard, stdin)

/-- Pulls once, given standard input. -/
def pull (stopped : Bool) (stdin : ByteSource) :
    Source → Pulled × Source × ByteSource
  | .listed [] => (.ended, .listed [], stdin)
  | .listed (.ok message :: rest) => (.message message, .listed rest, stdin)
  | .listed (.error error :: rest) => (.failed error, .listed rest, stdin)
  | .lines framer [] origin =>
      match readPiece stopped stdin origin with
      | (.bytes [], origin, stdin) =>
          match framer.finish with
          | .error error => (.failed error, .lines framer [] origin, stdin)
          | .ok none => (.ended, .lines framer [] origin, stdin)
          | .ok (some message) =>
              (.message message, .lines { multipart := framer.multipart } [] origin, stdin)
      | (.bytes piece, origin, stdin) => (.more, .lines framer piece origin, stdin)
      | (.failed error, origin, stdin) => (.failed error, .lines framer [] origin, stdin)
      | (.waiting, origin, stdin) => (.waiting, .lines framer [] origin, stdin)
  | .lines framer ahead origin =>
      match framer.next ahead with
      | .message message framer rest => (.message message, .lines framer rest origin, stdin)
      | .starved framer => (.more, .lines framer [] origin, stdin)
      | .failed error => (.failed error, .lines framer [] origin, stdin)

end Source

end Intake
