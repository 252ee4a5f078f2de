import Intake.Session

/-!
# Writing messages out

Every message of a stage is written to a sink, its parts and its end each
followed by a newline, and flushed.  It is acknowledged once that has worked and
rejected with the text of the failure otherwise.  An interruption asks the stage
to close, and what it has not handed over by then is not written.
-/

namespace Intake

/-- How a sink takes what it is given. -/
inductive SinkPlan where
  | works
  | fails (cause : String)
  /-- It takes so many bytes at most. -/
  | short (limit : Nat)
  deriving Repr, DecidableEq

/-- Somewhere to write to.  The plans say how the next calls end; after them all
calls work. -/
structure Sink where
  writes : List SinkPlan := []
  flushes : List SinkPlan := []
  /-- What has been taken, newest first. -/
  taken : List Bytes := []
  /-- How many flushes have worked. -/
  flushed : Nat := 0
  deriving Repr, Inhabited

namespace Sink

/-- All bytes that the sink has taken. -/
def content (sink : Sink) : Bytes := sink.taken.reverse.flatten

/-- The failure of a sink that takes nothing. -/
def stuckCause : String := "write zero"

/-- What is taken of some bytes with as many calls as it takes: how the last
call ended, the bytes that were taken, and the plans that are left. -/
def accept (content : Bytes) : List SinkPlan → Except String Unit × Bytes × List SinkPlan
  | [] => (.ok (), content, [])
  | .works :: writes => (.ok (), content, writes)
  | .fails cause :: writes => (.error cause, [], writes)
  | .short limit :: writes =>
      if limit = 0 then (.error stuckCause, [], writes)
      else if content.length ≤ limit then (.ok (), content, writes)
      else
        let (outcome, taken, writes) := accept (content.drop limit) writes
        (outcome, content.take limit ++ taken, writes)

/-- Writes bytes; writing none takes no call. -/
def writeAll (content : Bytes) (sink : Sink) : Except String Unit × Sink :=
  if content.isEmpty then (.ok (), sink)
  else
    let (outcome, taken, writes) := accept content sink.writes
    (outcome, { sink with writes, taken := taken :: sink.taken })

def flush (sink : Sink) : Except String Unit × Sink :=
  match sink.flushes with
  | [] => (.ok (), { sink with flushed := sink.flushed + 1 })
  | .fails cause :: flushes => (.error cause, { sink with flushes })
  | _ :: flushes => (.ok (), { sink with flushes, flushed := sink.flushed + 1 })

/-- Writes one thing after another up to the first failure. -/
def writeEach : List Bytes → Sink → Except String Unit × Sink
  | [], sink => (.ok (), sink)
  | content :: rest, sink =>
      match sink.writeAll content with
      | (.ok (), sink) => writeEach rest sink
      | (.error cause, sink) => (.error cause, sink)

end Sink

namespace Message

/-- What is written for a message, call by call. -/
def pieces (message : Message) : List Bytes :=
  message.parts.intersperse [newline] ++ [[newline]]

/-- The bytes that are written for a message. -/
def encoded (message : Message) : Bytes := message.pieces.flatten

def write (message : Message) (sink : Sink) : Except String Unit × Sink :=
  match sink.writeEach message.pieces with
  | (.ok (), sink) => sink.flush
  | (.error cause, sink) => (.error cause, sink)

end Message

/-- Writing between two turns. -/
structure Writing where
  running : Running
  sink : Sink
  interrupted : Bool := false
  written : Nat := 0
  deriving Inhabited

/-- How a turn of writing ends. -/
inductive Turn where
  | goesOn (writing : Writing)
  /-- Nothing is there to be written yet. -/
  | waits
  /-- Nothing will be there to be written any more. -/
  | over (writing : Writing)

namespace Writing

def interrupt (writing : Writing) : Writing :=
  { writing with interrupted := true, running := writing.running.close }

/-- Writes the message of a transaction and answers it. -/
def handle (writing : Writing) (transaction : Transaction) : Writing :=
  match transaction.payload.write writing.sink with
  | (.ok (), sink) =>
      { writing with
        sink, written := writing.written + 1
        running := (writing.running.respond transaction.number .ack).2 }
  | (.error cause, sink) =>
      { writing with
        sink, running := (writing.running.respond transaction.number (.nack cause)).2 }

/-- One turn, at a time when an interruption is due or not. -/
def turn (due : Bool) (writing : Writing) : Turn :=
  if due && !writing.interrupted then .goesOn writing.interrupt
  else
    match writing.running.receive with
    | (.transaction transaction, running) => .goesOn ({ writing with running }.handle transaction)
    | (.pending, _) => .waits
    | (.ended, running) => .over { writing with running }

/-- Lets the workers move until they rest. -/
def settle (writing : Writing) : Writing := { writing with running := writing.running.settle }

/-- Whether an interruption is due after so many flushes. -/
def isDue (interruptAfter : Option Nat) (writing : Writing) : Bool :=
  match interruptAfter with
  | none => false
  | some count => count ≤ writing.sink.flushed

/-- Takes up to `turns` turns, letting the workers rest before one that has to
wait. -/
def runFor (interruptAfter : Option Nat) : Nat → Writing → Writing
  | 0, writing => writing
  | turns + 1, writing =>
      let due := writing.isDue interruptAfter
      match writing.turn due with
      | .goesOn next => runFor interruptAfter turns next
      | .over last => last
      | .waits =>
          match writing.settle.turn due with
          | .goesOn next => runFor interruptAfter turns next
          | .over last => last
          | .waits => writing.settle

/-- Writes until there is nothing more to write. -/
def run (interruptAfter : Option Nat) (writing : Writing) : Writing :=
  writing.runFor interruptAfter Running.patience

end Writing

/-- What writing out a stage led to. -/
structure WritingReport where
  written : Nat
  content : Bytes
  /-- Whether the stage closed without being asked to. -/
  closedItself : Bool
  /-- Whether it closed when asked to. -/
  closed : Bool
  metrics : Metrics
  deriving Repr, Inhabited

/-- Writes out a stage, asks it to close, waits for it and lets go of it. -/
def Stage.writeOut (stage : Stage) (world : World) (sink : Sink)
    (interruptAfter : Option Nat) : WritingReport :=
  let done := ({ running := { stage, world }, sink } : Writing).run interruptAfter
  let running := done.running.settle
  let closedItself := running.stage.isClosed
  let running := running.close.settle
  let closed := running.stage.isClosed
  let running := running.letGo.settle
  { written := done.written, content := done.sink.content, closedItself, closed,
    metrics := running.metrics.nonzero }

end Intake
