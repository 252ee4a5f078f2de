import Intake.Acknowledgement

/-!
# A ledger of deliveries

Any number of deliveries side by side, each driven by steps that name it.  The
debtor of a delivery holds the message together with the debt until it splits
the two; from then on only the debt is held.  A step on an end that is used up
is refused and changes nothing.
-/

namespace Intake

/-- One delivery: the message, what has become of the two ends, and whether
the debtor has split the message off. -/
structure Delivery where
  message : Message
  receipt : Receipt := .open
  split : Bool := false
  deriving Repr, DecidableEq, Inhabited

namespace Delivery

/-- Whether the debtor holds message and debt together. -/
def isWhole (delivery : Delivery) : Bool := delivery.receipt.isOwed && !delivery.split

/-- Whether the debtor holds the debt alone. -/
def isSplit (delivery : Delivery) : Bool := delivery.receipt.isOwed && delivery.split

end Delivery

/-- Every delivery made so far, oldest first. -/
abbrev Ledger := List Delivery

/-- What can be done to one delivery. -/
inductive DeliveryStep where
  | inspect
  | divide
  /-- Answers with message and debt in one hand. -/
  | respond (response : Response)
  /-- Answers with the debt that was split off. -/
  | respondSplit (response : Response)
  | dropDebtor
  /-- The creditor goes away. -/
  | dropCreditor
  | askAbandoned
  | look
  deriving Repr, DecidableEq

/-- What a step on a delivery answers. -/
inductive DeliveryAnswer where
  /-- The end that the step needs is not there. -/
  | gone
  | message (message : Message)
  | delivered
  /-- The creditor was not there, and the response comes back. -/
  | returned (response : Response)
  | dropped (something : Bool)
  | abandoned (flag : Bool)
  | sighted (sighting : Sighting)
  deriving Repr, DecidableEq

namespace Delivery

def answer (delivery : Delivery) (response : Response) : Delivery × DeliveryAnswer :=
  let (receipt, delivered) := delivery.receipt.respond response
  ({ delivery with receipt }, if delivered then .delivered else .returned response)

def step (delivery : Delivery) : DeliveryStep → Delivery × DeliveryAnswer
  | .inspect =>
      (delivery, if delivery.isWhole then .message delivery.message else .gone)
  | .divide =>
      if delivery.isWhole then ({ delivery with split := true }, .message delivery.message)
      else (delivery, .gone)
  | .respond response =>
      if delivery.isWhole then delivery.answer response else (delivery, .gone)
  | .respondSplit response =>
      if delivery.isSplit then delivery.answer response else (delivery, .gone)
  | .dropDebtor =>
      ({ delivery with receipt := delivery.receipt.forsake }, .dropped delivery.receipt.isOwed)
  | .dropCreditor =>
      ({ delivery with receipt := delivery.receipt.abandon }, .dropped delivery.receipt.isAwaited)
  | .askAbandoned =>
      (delivery,
        if delivery.receipt.isOwed then .abandoned (!delivery.receipt.isAwaited) else .gone)
  | .look =>
      if delivery.receipt.isAwaited then
        let (receipt, sighting) := delivery.receipt.look
        ({ delivery with receipt }, .sighted sighting)
      else (delivery, .gone)

end Delivery

namespace Ledger

/-- Opens a delivery of a message; its number is the length of the ledger. -/
def deliver (ledger : Ledger) (message : Message) : Ledger :=
  ledger ++ [({ message } : Delivery)]

/-- One step on the delivery with a number. -/
def step (ledger : Ledger) (number : Nat) (action : DeliveryStep) :
    Ledger × DeliveryAnswer :=
  match ledger[number]? with
  | none => (ledger, .gone)
  | some delivery =>
      let (delivery, answer) := delivery.step action
      (ledger.set number delivery, answer)

@[simp] theorem length_deliver (ledger : Ledger) (message : Message) :
    (ledger.deliver message).length = ledger.length + 1 := by
  simp [deliver]

@[simp] theorem length_step (ledger : Ledger) (number : Nat) (action : DeliveryStep) :
    (ledger.step number action).1.length = ledger.length := by
  unfold step
  split <;> simp

/-- A step on one delivery leaves the others alone. -/
theorem getElem?_step_of_ne (ledger : Ledger) {number other : Nat} (apart : number ≠ other)
    (action : DeliveryStep) : (ledger.step number action).1[other]? = ledger[other]? := by
  unfold step
  split <;> simp [apart]

end Ledger

end Intake
