import Intake.Message
import Intake.Reading

/-!
# Framing

Lines read from bytes become messages.  A line ends with a newline, and one
carriage return right before it belongs to the end too; what follows the last
newline is a line as it stands.  Framed singly, each line is a message of one
part.  Framed in blocks, consecutive lines that are not empty are the parts of
one message, and an empty line ends it.  A line that is no text is an error,
and what has been gathered is lost.
-/

namespace Intake

def newline : UInt8 := 0x0A

/-- The byte that may stand right before the end of a line. -/
def carriageReturn : UInt8 := 0x0D

/-- What has been gathered between two bytes: the bytes of the line that has
begun and the parts of the block that has begun, newest first. -/
structure Framer where
  multipart : Bool
  line : Bytes := []
  parts : List Bytes := []
  deriving Repr, DecidableEq, Inhabited

namespace Framer

/-- The block that has begun, if it has a part. -/
def closeBlock (framer : Framer) : Framer × Option Message :=
  ({ framer with parts := [] },
    if framer.parts.isEmpty then none else some ⟨framer.parts.reverse⟩)

def takeLine (framer : Framer) (line : Bytes) : Except IoError (Framer × Option Message) :=
  match Utf8.fault? line with
  | some fault => .error (.brokenText fault)
  | none =>
      if !framer.multipart then .ok ({ framer with line := [] }, some (.single line))
      else if line.isEmpty then .ok { framer with line := [] }.closeBlock
      else .ok ({ framer with line := [], parts := line :: framer.parts }, none)

/-- The bytes of a line, newest first, without a carriage return at its end. -/
def dropReturn (line : Bytes) : Bytes :=
  match line with
  | [] => []
  | last :: earlier => if last = carriageReturn then earlier else last :: earlier

def feed (framer : Framer) (b : UInt8) : Except IoError (Framer × Option Message) :=
  if b = newline then framer.takeLine (dropReturn framer.line).reverse
  else .ok ({ framer with line := b :: framer.line }, none)

/-- The message that the end of the bytes completes. -/
def finish (framer : Framer) : Except IoError (Option Message) :=
  if framer.line.isEmpty then .ok framer.closeBlock.2
  else
    match framer.takeLine framer.line.reverse with
    | .error error => .error error
    | .ok (_, some message) => .ok (some message)
    | .ok (framer, none) => .ok framer.closeBlock.2

/-- What bytes lead to: a message and the bytes left over, a need for more
bytes, or an error. -/
inductive Progress where
  | message (message : Message) (framer : Framer) (rest : Bytes)
  | starved (framer : Framer)
  | failed (error : IoError)

/-- Takes bytes up to the next message. -/
def next (framer : Framer) : Bytes → Progress
  | [] => .starved framer
  | b :: rest =>
      match framer.feed b with
      | .error error => .failed error
      | .ok (framer, some message) => .message message framer rest
      | .ok (framer, none) => framer.next rest

/-- Takes all bytes: the messages they complete, and what is gathered then. -/
def feedAll (framer : Framer) : Bytes → List Message × Except IoError Framer
  | [] => ([], .ok framer)
  | b :: rest =>
      match framer.feed b with
      | .error error => ([], .error error)
      | .ok (framer, completed) =>
          let (messages, outcome) := framer.feedAll rest
          (completed.toList ++ messages, outcome)

/-- Takes bytes that come in chunks and then end, or fail. -/
def run (framer : Framer) (failure : Option IoError) :
    List Bytes → List Message × Option IoError
  | [] =>
      match failure with
      | some error => ([], some error)
      | none =>
          match framer.finish with
          | .error error => ([], some error)
          | .ok completed => (completed.toList, none)
  | chunk :: rest =>
      match framer.feedAll chunk with
      | (messages, .error error) => (messages, some error)
      | (messages, .ok framer) =>
          let (more, outcome) := framer.run failure rest
          (messages ++ more, outcome)

@[simp] theorem feedAll_nil (framer : Framer) : framer.feedAll [] = ([], .ok framer) := rfl

/-- Bytes that were taken make no difference to those that follow but through
what is gathered. -/
theorem feedAll_append_of_ok {framer framed : Framer} {first : Bytes}
    {messages : List Message} (taken : framer.feedAll first = (messages, .ok framed))
    (second : Bytes) :
    framer.feedAll (first ++ second) =
      (messages ++ (framed.feedAll second).1, (framed.feedAll second).2) := by
  induction first generalizing framer messages with
  | nil => simp_all
  | cons b rest ih =>
      rw [List.cons_append, feedAll]
      rw [feedAll] at taken
      cases fed : framer.feed b with
      | error error => simp [fed] at taken
      | ok step =>
          simp only [fed, Prod.mk.injEq] at taken
          obtain ⟨rfl, left⟩ := taken
          have := ih (Prod.ext rfl left)
          simp [this]

/-- Nothing is taken after an error. -/
theorem feedAll_append_of_error {framer : Framer} {first : Bytes} {messages : List Message}
    {error : IoError} (taken : framer.feedAll first = (messages, .error error))
    (second : Bytes) : framer.feedAll (first ++ second) = (messages, .error error) := by
  induction first generalizing framer messages with
  | nil => simp at taken
  | cons b rest ih =>
      rw [List.cons_append, feedAll]
      rw [feedAll] at taken
      cases fed : framer.feed b with
      | error error => simpa [fed] using taken
      | ok step =>
          simp only [fed, Prod.mk.injEq] at taken
          obtain ⟨rfl, left⟩ := taken
          have := ih (Prod.ext rfl left)
          simp [this]

end Framer

/-- The messages in bytes that come in chunks, and the error that ends them. -/
def frame (multipart : Bool) (chunks : List Bytes) (failure : Option IoError) :
    List Message × Option IoError :=
  Framer.run { multipart } failure chunks

/-- Bytes in chunks of one size, the last one possibly shorter. -/
def chunks (size : Nat) (content : Bytes) : List Bytes :=
  if content.isEmpty then []
  else content.take (max size 1) :: chunks size (content.drop (max size 1))
termination_by content.length
decreasing_by
  rename_i nonempty
  cases content with
  | nil => simp at nonempty
  | cons b rest => simp only [List.length_drop, List.length_cons]; omega

theorem flatten_chunks (size : Nat) (content : Bytes) :
    (chunks size content).flatten = content := by
  rw [chunks]
  split
  · next empty => simp_all
  · next nonempty => rw [List.flatten_cons, flatten_chunks, List.take_append_drop]
termination_by content.length
decreasing_by
  rename_i nonempty
  cases content with
  | nil => simp at nonempty
  | cons b rest => simp only [List.length_drop, List.length_cons]; omega

end Intake
