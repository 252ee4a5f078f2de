import Intake.Message

/-!
# Acknowledgements

Whoever receives a message owes its producer one response.  The two ends of
that debt are the *debtor*, who holds the message, and the *creditor*, who
produced it and waits.  A receipt records what has become of both.
-/

namespace Intake

/-- The outcome of a delivery: accepted, or rejected for a cause. -/
structure Response where
  cause : Option String := none
  deriving Repr, DecidableEq, Inhabited

namespace Response

def ack : Response := ⟨none⟩

def nack (cause : String) : Response := ⟨some cause⟩

def isAck (response : Response) : Bool := response.cause.isNone

@[simp] theorem isAck_ack : ack.isAck = true := rfl

@[simp] theorem isAck_nack (cause : String) : (nack cause).isAck = false := rfl

end Response

/-- What has become of the two ends of a delivery. -/
inductive Receipt where
  /-- Both ends are there and nothing has been answered. -/
  | open
  /-- The debtor answered, and the creditor has not looked yet. -/
  | answered (response : Response)
  /-- The debtor went away without an answer, and the creditor has not looked yet. -/
  | forsaken
  /-- The creditor went away, and the debtor still holds the message. -/
  | abandoned
  /-- Neither end is there any more. -/
  | settled
  deriving Repr, DecidableEq, Inhabited

/-- What a creditor sees. -/
inductive Sighting where
  | pending
  | responded (response : Response)
  | closed
  deriving Repr, DecidableEq

namespace Receipt

/-- Whether the debtor still owes a response. -/
def isOwed : Receipt → Bool
  | .open | .abandoned => true
  | .answered _ | .forsaken | .settled => false

/-- Whether the creditor is still there. -/
def isAwaited : Receipt → Bool
  | .open | .answered _ | .forsaken => true
  | .abandoned | .settled => false

/-- The debtor answers.  The second value tells whether the creditor was
there to take it. -/
def respond : Receipt → Response → Receipt × Bool
  | .open, response => (.answered response, true)
  | .abandoned, _ => (.settled, false)
  | other, _ => (other, false)

/-- The debtor goes away without an answer. -/
def forsake : Receipt → Receipt
  | .open => .forsaken
  | .abandoned => .settled
  | other => other

/-- The creditor goes away. -/
def abandon : Receipt → Receipt
  | .open => .abandoned
  | .answered _ | .forsaken => .settled
  | other => other

/-- The creditor looks.  Whatever it sees other than a pending debt it sees
once only. -/
def look : Receipt → Receipt × Sighting
  | .open => (.open, .pending)
  | .answered response => (.settled, .responded response)
  | .forsaken => (.settled, .closed)
  | .abandoned => (.abandoned, .closed)
  | .settled => (.settled, .closed)

theorem respond_delivered_iff {receipt : Receipt} {response : Response} :
    (receipt.respond response).2 = true ↔ receipt = .open := by
  cases receipt <;> simp [respond]

theorem look_pending_iff {receipt : Receipt} :
    receipt.look.2 = .pending ↔ receipt = .open := by
  cases receipt <;> simp [look]

end Receipt

end Intake
