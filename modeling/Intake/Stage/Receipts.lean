import Intake.Acknowledgement

/-!
# Receipts by number

Every transaction has a receipt of its own, known by its number.  Receipts are
numbered in the order in which they are issued.
-/

namespace Intake

/-- A message on its way, with the number of its receipt. -/
structure Transaction where
  number : Nat
  payload : Message
  deriving Repr, DecidableEq, Inhabited

/-- All receipts issued so far. -/
structure Receipts where
  issued : Array Receipt := #[]
  deriving Repr, DecidableEq, Inhabited

namespace Receipts

/-- The receipt with a number; one never issued counts as settled. -/
def get (receipts : Receipts) (number : Nat) : Receipt :=
  receipts.issued[number]?.getD .settled

/-- The number of the receipt that is issued next. -/
def next (receipts : Receipts) : Nat := receipts.issued.size

def issue (receipts : Receipts) : Receipts := ⟨receipts.issued.push .open⟩

def modify (receipts : Receipts) (number : Nat) (change : Receipt → Receipt) : Receipts :=
  ⟨receipts.issued.modify number change⟩

/-- The debtor of a transaction answers.  The first value tells whether the
creditor was there to take it. -/
def respond (receipts : Receipts) (number : Nat) (response : Response) : Bool × Receipts :=
  (((receipts.get number).respond response).2,
    receipts.modify number fun receipt => (receipt.respond response).1)

/-- The debtor of a transaction goes away. -/
def forsake (receipts : Receipts) (number : Nat) : Receipts :=
  receipts.modify number Receipt.forsake

/-- The creditor of a transaction goes away. -/
def abandon (receipts : Receipts) (number : Nat) : Receipts :=
  receipts.modify number Receipt.abandon

/-- The creditor of a transaction looks. -/
def look (receipts : Receipts) (number : Nat) : Sighting × Receipts :=
  ((receipts.get number).look.2, receipts.modify number fun receipt => receipt.look.1)

/-- Nobody will answer a transaction that was lost on its way. -/
def lose (receipts : Receipts) (transaction : Option Transaction) : Receipts :=
  match transaction with
  | none => receipts
  | some transaction => receipts.forsake transaction.number

@[simp] theorem next_issue (receipts : Receipts) : receipts.issue.next = receipts.next + 1 := by
  simp [issue, next]

@[simp] theorem get_issue_next (receipts : Receipts) :
    receipts.issue.get receipts.next = .open := by
  simp [issue, next, get]

theorem get_issue_of_ne (receipts : Receipts) {number : Nat}
    (other : number ≠ receipts.next) : receipts.issue.get number = receipts.get number := by
  rw [next] at other
  simp [issue, get, Array.getElem?_push, other]

@[simp] theorem next_modify (receipts : Receipts) (number : Nat) (change : Receipt → Receipt) :
    (receipts.modify number change).next = receipts.next := by
  simp [modify, next]

theorem get_modify_self (receipts : Receipts) {number : Nat} (issued : number < receipts.next)
    (change : Receipt → Receipt) :
    (receipts.modify number change).get number = change (receipts.get number) := by
  rw [next] at issued
  simp [modify, get, issued, Array.getElem_modify]

theorem get_modify_of_ne (receipts : Receipts) {number other : Nat} (apart : number ≠ other)
    (change : Receipt → Receipt) :
    (receipts.modify number change).get other = receipts.get other := by
  simp [modify, get, Array.getElem?_modify, apart]

end Receipts

end Intake
