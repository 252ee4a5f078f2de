import Intake.Shutdown
import Intake.Stage.Receipts

/-!
# Outlets

The worker of a stage hands its transactions to whoever holds the stage through
an outlet with room for one.  The outlet also carries the shutdown that both
share.
-/

namespace Intake

/-- What lies between a worker and the holder of its stage. -/
structure Outlet where
  slot : Option Transaction := none
  /-- The worker has let go of its end and puts nothing in any more. -/
  released : Bool := false
  /-- The holder takes nothing out any more. -/
  refused : Bool := false
  shutdown : Shutdown := {}
  deriving Repr, DecidableEq, Inhabited

/-- What receiving gives. -/
inductive Received where
  | pending
  | ended
  | transaction (transaction : Transaction)
  deriving Repr, DecidableEq

/-- The transaction that receiving gives, if it does. -/
def Received.transaction? : Received → Option Transaction
  | .transaction handed => some handed
  | .pending | .ended => none

namespace Outlet

/-- Whether the stage has been asked to close. -/
def isClosing (outlet : Outlet) : Bool :=
  outlet.shutdown.requested || outlet.shutdown.signalled

def offer (outlet : Outlet) : Received :=
  if outlet.isClosing then .ended
  else
    match outlet.slot with
    | some transaction => .transaction transaction
    | none => if outlet.released || outlet.refused then .ended else .pending

/-- Takes what is offered out of the outlet.  Once the stage has been asked to
close, what lies in it is lost instead. -/
def take (outlet : Outlet) (receipts : Receipts) : Outlet × Receipts :=
  if outlet.isClosing then
    ({ outlet with slot := none, refused := true }, receipts.lose outlet.slot)
  else ({ outlet with slot := none }, receipts)

def put (outlet : Outlet) (transaction : Transaction) : Outlet :=
  { outlet with slot := some transaction }

/-- The worker lets go of its end. -/
def release (outlet : Outlet) : Outlet := { outlet with released := true }

/-- The worker confirms that the stage has closed. -/
def confirm (outlet : Outlet) : Outlet :=
  { outlet with shutdown := outlet.shutdown.confirm }

/-- The holder asks the stage to close. -/
def close (outlet : Outlet) : Outlet :=
  { outlet with shutdown := outlet.shutdown.request }

/-- The holder lets go of the stage, which asks it to close and loses what lies
in the outlet. -/
def letGo (outlet : Outlet) (receipts : Receipts) : Outlet × Receipts :=
  ({ outlet.close with slot := none, refused := true }, receipts.lose outlet.slot)

theorem offer_of_isClosing {outlet : Outlet} (closing : outlet.isClosing = true) :
    outlet.offer = .ended := by
  simp [offer, closing]

theorem transaction?_offer (outlet : Outlet) :
    outlet.offer.transaction? = if outlet.isClosing then none else outlet.slot := by
  cases hclosing : outlet.isClosing with
  | true => simp [offer, hclosing, Received.transaction?]
  | false =>
      cases hslot : outlet.slot with
      | some transaction => simp [offer, hclosing, hslot, Received.transaction?]
      | none =>
          cases h : outlet.released || outlet.refused <;>
            simp [offer, hclosing, hslot, h, Received.transaction?]

@[simp] theorem isClosing_close (outlet : Outlet) : outlet.close.isClosing = true := by
  simp [isClosing, close]

@[simp] theorem closed_close (outlet : Outlet) :
    outlet.close.shutdown.closed = outlet.shutdown.closed := by
  simp [close]

@[simp] theorem offer_close (outlet : Outlet) : outlet.close.offer = .ended :=
  offer_of_isClosing outlet.isClosing_close

end Outlet

end Intake
