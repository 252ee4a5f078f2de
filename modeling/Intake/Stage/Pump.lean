import Intake.Stage.Outlet
import Intake.Stage.Source

/-!
# Pumps

A pump pulls messages from a source and delivers each one again and again until
it is acknowledged.  Before it pulls, before it puts a transaction into its
outlet and while it waits for the response it looks whether it has been asked
to close.
-/

namespace Intake

/-- Where a pump stands between two steps. -/
inductive PumpPhase where
  /-- About to turn to the source. -/
  | resting
  /-- Pulling at the source. -/
  | pulling
  /-- About to put a transaction for a message into the outlet. -/
  | offering (message : Message)
  /-- Waiting for the response to a transaction. -/
  | awaiting (message : Message) (number : Nat)
  /-- About to let go of the outlet. -/
  | leaving
  /-- About to confirm that it has closed. -/
  | confirming
  | finished
  deriving Repr, DecidableEq, Inhabited

/-- A pump.  Its kind is a name for metrics. -/
structure Pump where
  kind : String
  source : Source
  outlet : Outlet := {}
  phase : PumpPhase := .resting
  deriving Inhabited

/-- What a step of a pump did. -/
inductive PumpEvent where
  /-- Nothing that anyone else notices. -/
  | looked
  | pulled (message : Message)
  /-- The source failed. -/
  | failed (error : IoError)
  | sent (transaction : Transaction)
  | acknowledged (number : Nat)
  /-- The transaction was rejected, or dropped without a response. -/
  | rejected (number : Nat)
  /-- The pump waits no longer for a response. -/
  | withdrew (number : Nat)
  | released
  | confirmed
  deriving Repr, DecidableEq

/-- A step of a pump with all that it changes. -/
structure PumpMove where
  event : PumpEvent
  pump : Pump
  receipts : Receipts
  stdin : ByteSource

namespace Pump

def enter (pump : Pump) (phase : PumpPhase) : Pump := { pump with phase }

/-- The next step of a pump, if it has one. -/
def step (receipts : Receipts) (stdin : ByteSource) (pump : Pump) : Option PumpMove :=
  let closing := pump.outlet.shutdown.signalled
  match pump.phase with
  | .resting =>
      some ⟨.looked, pump.enter (if closing then .leaving else .pulling), receipts, stdin⟩
  | .pulling =>
      match pump.source.pull closing stdin with
      | (.waiting, _) => none
      | (.more, source, stdin) => some ⟨.looked, { pump with source }, receipts, stdin⟩
      | (.ended, source, stdin) =>
          some ⟨.looked, { pump with source, phase := .leaving }, receipts, stdin⟩
      | (.failed error, source, stdin) =>
          some ⟨.failed error, { pump with source, phase := .leaving }, receipts, stdin⟩
      | (.message message, source, stdin) =>
          some ⟨.pulled message, { pump with source, phase := .offering message }, receipts, stdin⟩
  | .offering message =>
      if closing || pump.outlet.refused then
        some ⟨.looked, pump.enter .leaving, receipts, stdin⟩
      else if pump.outlet.slot.isSome then none
      else
        let transaction : Transaction := ⟨receipts.next, message⟩
        some ⟨.sent transaction,
          { pump with
            outlet := pump.outlet.put transaction
            phase := .awaiting message transaction.number },
          receipts.issue, stdin⟩
  | .awaiting message number =>
      if closing then
        some ⟨.withdrew number, pump.enter .leaving, receipts.abandon number, stdin⟩
      else
        match receipts.look number with
        | (.pending, _) => none
        | (.responded response, receipts) =>
            if response.isAck then
              some ⟨.acknowledged number, pump.enter .resting, receipts, stdin⟩
            else some ⟨.rejected number, pump.enter (.offering message), receipts, stdin⟩
        | (.closed, receipts) =>
            some ⟨.rejected number, pump.enter (.offering message), receipts, stdin⟩
  | .leaving =>
      some ⟨.released, { pump with outlet := pump.outlet.release, phase := .confirming },
        receipts, stdin⟩
  | .confirming =>
      some ⟨.confirmed, { pump with outlet := pump.outlet.confirm, phase := .finished },
        receipts, stdin⟩
  | .finished => none

end Pump

end Intake
