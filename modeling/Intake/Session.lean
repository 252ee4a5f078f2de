import Intake.Running
import Intake.Shutdown.Timeline

/-!
# Sessions

Someone holds a running stage and does one thing after another with it: receives
transactions and answers them, asks it to close, waits for it, lets go of it.
Before the first step and after each one the workers move until they rest.
Transactions are numbered in the order in which they were received, from zero.
-/

namespace Intake

/-- What the holder of a stage does.  Where a transaction is not named the one
received last is meant. -/
inductive SessionStep where
  | receive
  | respond (id : Option Nat) (response : Response)
  | drop (id : Option Nat)
  | askAbandoned (id : Option Nat)
  | close
  /-- Some number of waits side by side. -/
  | wait (timeout : Duration) (waiters : Nat)
  | letGo
  | write (path : String) (content : Bytes)
  | remove (path : String)
  | askMetrics
  deriving Repr, DecidableEq

/-- What a step of a session answers. -/
inductive SessionAnswer where
  /-- What the step needs is not there any more. -/
  | gone
  | received (id : Nat) (message : Message)
  | pending
  | ended
  | delivered
  | returned (response : Response)
  | dropped (something : Bool)
  | abandoned (flag : Bool)
  | closing
  | waited (outcomes : List Waited)
  | written
  | removed (something : Bool)
  | metrics (metrics : Metrics)
  deriving Repr, DecidableEq

/-- A session between two steps: the numbers of the receipts of the transactions
received so far, with `none` for those that have been answered or dropped. -/
structure Session where
  running : Running
  files : Files := {}
  held : Array (Option Nat) := #[]
  holding : Bool := true
  deriving Inhabited

namespace Session

def start (stage : Stage) (files : Files) (stdin : Bytes) : Session :=
  { running :=
      { stage, world := { disk := files.openPath, stdin := .ofBytes stdin } }
    files }

/-- The transaction that a step means, and the number of its receipt if it is
still held. -/
def held? (session : Session) (id : Option Nat) : Option (Nat × Nat) := do
  let id := id.getD (session.held.size - 1)
  let number ← session.held[id]?.join
  some (id, number)

def unhold (session : Session) (id : Nat) (running : Running) : Session :=
  { session with running, held := session.held.setIfInBounds id none }

/-- Puts files in place of those that were there. -/
def withFiles (session : Session) (files : Files) : Session :=
  { session with
    files
    running := { session.running with
      world := { session.running.world with disk := files.openPath } } }

/-- A step on the stage that is held, or on files. -/
def act (session : Session) : SessionStep → SessionAnswer × Session
  | .receive =>
      if !session.holding then (.gone, session)
      else
        match session.running.receive with
        | (.pending, running) => (.pending, { session with running })
        | (.ended, running) => (.ended, { session with running })
        | (.transaction transaction, running) =>
            (.received session.held.size transaction.payload,
              { session with running, held := session.held.push (some transaction.number) })
  | .respond id response =>
      match session.held? id with
      | none => (.gone, session)
      | some (id, number) =>
          let (delivered, running) := session.running.respond number response
          (if delivered then .delivered else .returned response, session.unhold id running)
  | .drop id =>
      match session.held? id with
      | none => (.dropped false, session)
      | some (id, number) => (.dropped true, session.unhold id (session.running.forsake number))
  | .askAbandoned id =>
      match session.held? id with
      | none => (.gone, session)
      | some (_, number) =>
          (.abandoned (!(session.running.world.receipts.get number).isAwaited), session)
  | .close =>
      if !session.holding then (.gone, session)
      else (.closing, { session with running := session.running.close })
  | .wait timeout waiters =>
      if !session.holding then (.gone, session)
      else
        let outcome := if session.running.stage.isClosed then .closed else .timedOut timeout
        (.waited (List.replicate waiters outcome), session)
  | .letGo =>
      if !session.holding then (.dropped false, session)
      else (.dropped true, { session with running := session.running.letGo, holding := false })
  | .write path content => (.written, session.withFiles (session.files.write path content))
  | .remove path =>
      let (files, something) := session.files.remove path
      (.removed something, session.withFiles files)
  | .askMetrics => (.metrics session.running.metrics.nonzero, session)

/-- Lets the workers move until they rest. -/
def settle (session : Session) : Session := { session with running := session.running.settle }

/-- One step, after which the workers move until they rest. -/
def step (session : Session) (action : SessionStep) : SessionAnswer × Session :=
  let (answer, session) := session.act action
  (answer, session.settle)

def steps (session : Session) : List SessionStep → List SessionAnswer × Session
  | [] => ([], session)
  | action :: rest =>
      let (answer, session) := session.step action
      let (answers, session) := session.steps rest
      (answer :: answers, session)

def dropHeld (session : Session) : Session :=
  { session with
    running := session.held.foldl (fun running number =>
      match number with
      | none => running
      | some number => running.forsake number) session.running
    held := session.held.map fun _ => none }

/-- Drops what is held, lets the workers rest, lets go of the stage, and lets
them rest again. -/
def finish (session : Session) : Session :=
  let session := session.dropHeld.settle
  if session.holding then
    { session with running := session.running.letGo, holding := false }.settle
  else session

end Session

end Intake
