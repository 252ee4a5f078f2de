import Mathlib
import Intake.Stage.Receipts

/-!
# Verdicts on receipts

The debtor of a receipt pronounces one verdict on it: a response, or none when
the debtor goes away.  The entrywise reads below say what each operation does
to one receipt; a number that was never issued reads as settled, which no
operation changes, so they need no bound on the number.
-/

namespace Intake

/-- What a debtor pronounces: a response, or `none` for going away without
one. -/
abbrev Verdict := Option Response

/-- Whether a verdict accepts the message. -/
def Verdict.accepts : Verdict → Bool
  | some response => response.isAck
  | none => false

@[simp] theorem Verdict.accepts_some (response : Response) :
    Verdict.accepts (some response) = response.isAck := rfl

@[simp] theorem Verdict.accepts_none : Verdict.accepts none = false := rfl

/-- The debtor of a receipt pronounces a verdict. -/
def Receipt.pronounce (receipt : Receipt) : Verdict → Receipt
  | some response => (receipt.respond response).1
  | none => receipt.forsake

/-- The debtor of a transaction pronounces a verdict. -/
def Receipts.pronounce (receipts : Receipts) (number : Nat) : Verdict → Receipts
  | some response => (receipts.respond number response).2
  | none => receipts.forsake number

namespace Receipts

theorem get_of_next_le (receipts : Receipts) {number : Nat}
    (hnumber : receipts.next ≤ number) : receipts.get number = .settled := by
  unfold next at hnumber
  simp [get, hnumber]

theorem lt_next_of_get_ne (receipts : Receipts) {number : Nat}
    (hget : receipts.get number ≠ .settled) : number < receipts.next := by
  by_contra hnumber
  exact hget (receipts.get_of_next_le (Nat.le_of_not_lt hnumber))

theorem lt_next_of_isOwed (receipts : Receipts) {number : Nat}
    (howed : (receipts.get number).isOwed = true) : number < receipts.next := by
  apply receipts.lt_next_of_get_ne
  intro hget
  simp [hget, Receipt.isOwed] at howed

theorem get_issue (receipts : Receipts) (number : Nat) :
    receipts.issue.get number =
      if number = receipts.next then .open else receipts.get number := by
  by_cases hnumber : number = receipts.next
  · rw [if_pos hnumber, hnumber, get_issue_next]
  · rw [if_neg hnumber, get_issue_of_ne receipts hnumber]

theorem get_issue_of_lt (receipts : Receipts) {number : Nat}
    (hnumber : number < receipts.next) :
    receipts.issue.get number = receipts.get number :=
  get_issue_of_ne receipts hnumber.ne

theorem get_modify (receipts : Receipts) (number other : Nat)
    (change : Receipt → Receipt) (hchange : change .settled = .settled) :
    (receipts.modify number change).get other =
      if other = number then change (receipts.get number) else receipts.get other := by
  by_cases hother : other = number
  · subst other
    rw [if_pos rfl]
    by_cases hissued : number < receipts.next
    · exact get_modify_self receipts hissued change
    · have hsettled := receipts.get_of_next_le (Nat.le_of_not_lt hissued)
      rw [hsettled, hchange]
      apply get_of_next_le
      rw [next_modify]
      exact Nat.le_of_not_lt hissued
  · rw [if_neg hother]
    exact get_modify_of_ne receipts (Ne.symm hother) change

theorem get_pronounce (receipts : Receipts) (number other : Nat) (verdict : Verdict) :
    (receipts.pronounce number verdict).get other =
      if other = number then (receipts.get number).pronounce verdict
      else receipts.get other := by
  cases verdict with
  | none => exact get_modify receipts number other Receipt.forsake rfl
  | some response =>
      exact get_modify receipts number other (fun receipt => (receipt.respond response).1) rfl

theorem get_abandon (receipts : Receipts) (number other : Nat) :
    (receipts.abandon number).get other =
      if other = number then (receipts.get number).abandon else receipts.get other :=
  get_modify receipts number other Receipt.abandon rfl

theorem get_look (receipts : Receipts) (number other : Nat) :
    (receipts.look number).2.get other =
      if other = number then (receipts.get number).look.1 else receipts.get other :=
  get_modify receipts number other (fun receipt => receipt.look.1) rfl

/-- What the creditor of a transaction sees of the verdict on it. -/
theorem look_of_pronounced {receipts : Receipts} {number : Nat} {verdict : Verdict}
    (hget : receipts.get number = Receipt.open.pronounce verdict) :
    (receipts.look number).1 =
      match verdict with
      | none => .closed
      | some response => .responded response := by
  cases verdict <;>
    simp [look, hget, Receipt.pronounce, Receipt.respond, Receipt.forsake, Receipt.look]

@[simp] theorem next_pronounce (receipts : Receipts) (number : Nat) (verdict : Verdict) :
    (receipts.pronounce number verdict).next = receipts.next := by
  cases verdict with
  | none => exact next_modify receipts number Receipt.forsake
  | some response => exact next_modify receipts number _

@[simp] theorem next_abandon (receipts : Receipts) (number : Nat) :
    (receipts.abandon number).next = receipts.next :=
  next_modify receipts number Receipt.abandon

@[simp] theorem next_look (receipts : Receipts) (number : Nat) :
    (receipts.look number).2.next = receipts.next :=
  next_modify receipts number _

end Receipts

end Intake
