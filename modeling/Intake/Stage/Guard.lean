import Intake.Condition
import Intake.Config.Error
import Intake.Stage.Outlet

/-!
# Guards

A guard wraps another input and ends its stream once a message has met a
condition and has been accepted.  It hands transactions on unchanged until the
condition is true; then it hands the message on in a transaction of its own,
passes the response back, and is done if that was an acknowledgement.  An input
that ends by itself is replaced by a fresh one if the guard is to restart it.

What a guard sees of its input is a `Sight`, and what it does to its input is a
`Demand`, so a guard can be studied with any input at all.
-/

namespace Intake

/-- Why a guard stops. -/
inductive Exit where
  /-- A message that met the condition was accepted. -/
  | conditionMet
  /-- The input ended and is not to be restarted. -/
  | exhausted
  /-- The input ended and could not be built again. -/
  | restartFailed
  | closeRequested
  /-- Nobody takes transactions out of the outlet any more. -/
  | outputDropped
  deriving Repr, DecidableEq, Inhabited

/-- Where a guard stands between two steps. -/
inductive GuardPhase where
  | starting
  /-- About to see whether to go on, and with which input. -/
  | deciding
  /-- Waiting for a transaction from the input. -/
  | receiving
  /-- About to hand on a transaction that did not meet the condition. -/
  | forwarding (transaction : Transaction)
  /-- About to hand on the message of a transaction that met the condition. -/
  | intercepting (candidate : Transaction)
  /-- Waiting for the response to a message that met the condition. -/
  | awaiting (candidate number : Nat)
  /-- About to ask the input to close. -/
  | leaving (exit : Exit)
  /-- Waiting for the input to confirm that it has closed. -/
  | closing (exit : Exit)
  /-- About to stop counting as running. -/
  | stopping (exit : Exit)
  /-- About to let go of the outlet. -/
  | releasing (exit : Exit)
  /-- About to confirm that it has closed. -/
  | confirming (exit : Exit)
  | finished (exit : Exit)
  deriving Repr, DecidableEq, Inhabited

/-- A guard.  It is `current` as long as it has an input to turn to. -/
structure Guard where
  input : InputConfig
  restart : Bool
  condition : Condition
  current : Bool := true
  outlet : Outlet := {}
  phase : GuardPhase := .starting
  deriving Inhabited

/-- What a step of a guard did. -/
inductive GuardEvent where
  /-- Nothing that anyone else notices. -/
  | looked
  | started
  /-- The input ended by itself. -/
  | inputEnded
  | rebuilt
  | rebuildFailed (error : InputError)
  /-- A transaction was received and its message checked. -/
  | received (transaction : Transaction) (met : Bool)
  /-- A transaction was handed on unchanged. -/
  | forwarded (transaction : Transaction)
  /-- A message was handed on in a transaction of the guard's own. -/
  | intercepted (candidate : Nat) (transaction : Transaction)
  /-- The response to an intercepted message was passed back. -/
  | relayed (candidate : Nat) (response : Response)
  /-- A transaction was given up unanswered. -/
  | gaveUp (number : Nat)
  | left (exit : Exit)
  /-- The input confirmed that it had closed. -/
  | inputClosed
  | stopped
  | released
  | confirmed
  deriving Repr, DecidableEq

/-- What a guard sees of the input it wraps. -/
structure Sight (σ : Type) where
  /-- What receiving from it would give. -/
  offer : Received
  /-- Whether it has confirmed that it has closed. -/
  confirmed : Bool
  /-- Builds a fresh input in its place. -/
  rebuild : Unit → Except InputError σ

/-- What a guard does to the input it wraps. -/
inductive Demand (σ : Type) where
  | nothing
  /-- Takes out what is offered. -/
  | take
  /-- Asks it to close. -/
  | close
  /-- Lets go of it. -/
  | letGo
  /-- Puts a fresh input in its place. -/
  | replace (input : σ)

/-- A step of a guard with all that it changes. -/
structure GuardMove (σ : Type) where
  event : GuardEvent
  guard : Guard
  receipts : Receipts
  demand : Demand σ := .nothing

/-- Why a message that met the condition counts as rejected when nobody
answered it. -/
def droppedCause : String := "transaction dropped without a response"

namespace Guard

variable {σ : Type}

def enter (guard : Guard) (phase : GuardPhase) : Guard := { guard with phase }

/-- Why a transaction cannot be put into the outlet at all, if so. -/
def obstacle? (guard : Guard) : Option Exit :=
  if guard.outlet.shutdown.signalled then some .closeRequested
  else if guard.outlet.refused then some .outputDropped
  else none

/-- Sees whether to go on, and with which input. -/
def decideNext (sight : Sight σ) (receipts : Receipts) (guard : Guard) : GuardMove σ :=
  if !guard.outlet.shutdown.isRunning then
    { event := .looked, guard := guard.enter (.leaving .closeRequested), receipts }
  else if guard.current then
    { event := .looked, guard := guard.enter .receiving, receipts }
  else if !guard.restart then
    { event := .looked, guard := guard.enter (.leaving .exhausted), receipts }
  else
    match sight.rebuild () with
    | .ok input =>
        { event := .rebuilt, guard := { guard with current := true, phase := .receiving },
          receipts, demand := .replace input }
    | .error error =>
        { event := .rebuildFailed error, guard := guard.enter (.leaving .restartFailed),
          receipts }

/-- Receives from the input and checks the message. -/
def receive (sight : Sight σ) (receipts : Receipts) (guard : Guard) : Option (GuardMove σ) :=
  if guard.outlet.shutdown.signalled then
    some { event := .looked, guard := guard.enter (.leaving .closeRequested), receipts }
  else
    match sight.offer with
    | .pending => none
    | .ended =>
        some { event := .inputEnded,
               guard := { guard with current := false, phase := .deciding },
               receipts, demand := .letGo }
    | .transaction transaction =>
        let (met, condition) := guard.condition.check transaction.payload
        some { event := .received transaction met,
               guard := { guard with
                 condition
                 phase := if met then .intercepting transaction else .forwarding transaction },
               receipts, demand := .take }

def forward (receipts : Receipts) (guard : Guard) (transaction : Transaction) :
    Option (GuardMove σ) :=
  match guard.obstacle? with
  | some exit =>
      some { event := .gaveUp transaction.number, guard := guard.enter (.leaving exit),
             receipts := receipts.forsake transaction.number }
  | none =>
      if guard.outlet.slot.isSome then none
      else
        some { event := .forwarded transaction,
               guard := { guard with outlet := guard.outlet.put transaction, phase := .deciding },
               receipts }

/-- Hands the message of a transaction on in a transaction of its own. -/
def intercept (receipts : Receipts) (guard : Guard) (candidate : Transaction) :
    Option (GuardMove σ) :=
  match guard.obstacle? with
  | some exit =>
      some { event := .gaveUp candidate.number, guard := guard.enter (.leaving exit),
             receipts := receipts.forsake candidate.number }
  | none =>
      if guard.outlet.slot.isSome then none
      else
        let transaction : Transaction := ⟨receipts.next, candidate.payload⟩
        some { event := .intercepted candidate.number transaction,
               guard := { guard with
                 outlet := guard.outlet.put transaction
                 phase := .awaiting candidate.number transaction.number },
               receipts := receipts.issue }

/-- Passes a response back to the transaction that was intercepted. -/
def relay (receipts : Receipts) (guard : Guard) (candidate : Nat) (response : Response) :
    GuardMove σ :=
  { event := .relayed candidate response
    guard := guard.enter (if response.isAck then .leaving .conditionMet else .deciding)
    receipts := (receipts.respond candidate response).2 }

/-- Waits for the response to an intercepted message and passes it back. -/
def awaitResponse (receipts : Receipts) (guard : Guard) (candidate number : Nat) :
    Option (GuardMove σ) :=
  if guard.outlet.shutdown.signalled then
    some { event := .gaveUp candidate, guard := guard.enter (.leaving .closeRequested),
           receipts := (receipts.abandon number).forsake candidate }
  else
    match receipts.look number with
    | (.pending, _) => none
    | (.responded response, receipts) => some (guard.relay receipts candidate response)
    | (.closed, receipts) => some (guard.relay receipts candidate (.nack droppedCause))

/-- The next step of a guard, if it has one. -/
def step (sight : Sight σ) (receipts : Receipts) (guard : Guard) : Option (GuardMove σ) :=
  match guard.phase with
  | .starting => some { event := .started, guard := guard.enter .deciding, receipts }
  | .deciding => some (guard.decideNext sight receipts)
  | .receiving => guard.receive sight receipts
  | .forwarding transaction => guard.forward receipts transaction
  | .intercepting candidate => guard.intercept receipts candidate
  | .awaiting candidate number => guard.awaitResponse receipts candidate number
  | .leaving exit =>
      if guard.current then
        some { event := .left exit, guard := guard.enter (.closing exit), receipts,
               demand := .close }
      else some { event := .left exit, guard := guard.enter (.stopping exit), receipts }
  | .closing exit =>
      if sight.confirmed then
        some { event := .inputClosed, guard := guard.enter (.stopping exit), receipts }
      else none
  | .stopping exit =>
      some { event := .stopped, guard := guard.enter (.releasing exit), receipts }
  | .releasing exit =>
      some { event := .released,
             guard := { guard with outlet := guard.outlet.release, phase := .confirming exit },
             receipts }
  | .confirming exit =>
      some { event := .confirmed,
             guard := { guard with outlet := guard.outlet.confirm, phase := .finished exit },
             receipts }
  | .finished _ => none

end Guard

end Intake
