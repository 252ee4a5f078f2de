import Intake.Proofs.Accounts
import Intake.Proofs.StepCases

/-!
# Guards in any setting

A guard stands between inputs that may do anything and a holder that may do
anything.  Inputs make transactions whenever they like, have any number of them
unanswered, show the guard one that is ready or the end of the input or nothing,
answer or drop what is ready themselves, and stop waiting for responses.  The
holder takes what the outlet offers, answers and drops it in any order, asks the
guard to close and lets go of it.  A list of moves fixes one interleaving; a
move that cannot be made changes nothing.

What went into the guard and what came out is recorded by effect, not by what
the guard says of itself: `taken` grows when the guard takes something out of
its input, `put` when something new lies in the outlet.
-/

namespace Intake

/-- What can happen next to a guard or around it. -/
inductive SettingMove (σ : Type) where
  /-- The guard takes a step, with its input as it shows itself then. -/
  | work (sight : Sight σ)
  /-- The input makes a transaction. -/
  | make (message : Message)
  /-- The input answers or drops a transaction that the guard has not taken. -/
  | settle (transaction : Transaction) (verdict : Verdict)
  /-- The input looks whether it has been answered. -/
  | look (number : Nat)
  /-- The input waits no longer for an answer. -/
  | withdraw (number : Nat)
  | receive
  | pronounce (number : Nat) (verdict : Verdict)
  | close
  /-- The holder takes nothing out any more, without asking the guard to close. -/
  | refuse
  | letGo

/-- A guard in a setting.  `ready` are transactions made that the guard can
take, `made` the numbers of all transactions made, and `held` the numbers that
the holder owes a verdict for. -/
structure Setting where
  guard : Guard
  accounts : Accounts := {}
  ready : List Transaction := []
  made : List Nat := []
  held : List Nat := []
  taken : List Transaction := []
  put : List Transaction := []
  events : List GuardEvent := []

/-- The transaction that a step takes out of the input. -/
def GuardMove.takes? {σ : Type} (move : GuardMove σ) (sight : Sight σ) :
    Option Transaction :=
  match move.demand, sight.offer with
  | .take, .transaction taken => some taken
  | _, _ => none

/-- The transaction that a step puts into an outlet that was empty. -/
def GuardMove.puts? {σ : Type} (move : GuardMove σ) (before : Outlet) :
    Option Transaction :=
  if before.slot.isNone then move.guard.outlet.slot else none

namespace Setting

variable {σ : Type}

def start (input : InputConfig) (restart : Bool) (condition : Condition) : Setting :=
  { guard := { input, restart, condition } }

def receipts (setting : Setting) : Receipts := setting.accounts.receipts

/-- Whether an input can show itself like this. -/
def shows (setting : Setting) (sight : Sight σ) : Bool :=
  match sight.offer with
  | .transaction offered => offered ∈ setting.ready
  | .pending | .ended => true

/-- A setting after a step of its guard. -/
def afterStep (setting : Setting) (sight : Sight σ) (move : GuardMove σ) : Setting :=
  { setting with
    guard := move.guard
    accounts := setting.accounts.update move.receipts
    ready := setting.ready.diff (move.takes? sight).toList
    taken := setting.taken ++ (move.takes? sight).toList
    put := setting.put ++ (move.puts? setting.guard.outlet).toList
    events := setting.events ++ [move.event] }

/-- What receiving loses of what lies in the outlet. -/
def loses? (outlet : Outlet) : Option Transaction :=
  if outlet.isClosing then outlet.slot else none

def perform (setting : Setting) : SettingMove σ → Setting
  | .work sight =>
      if setting.shows sight then
        match setting.guard.step sight setting.receipts with
        | none => setting
        | some move => setting.afterStep sight move
      else setting
  | .make message =>
      { setting with
        accounts := setting.accounts.update setting.receipts.issue
        ready := ⟨setting.receipts.next, message⟩ :: setting.ready
        made := setting.receipts.next :: setting.made }
  | .settle transaction verdict =>
      if transaction ∈ setting.ready then
        { setting with
          accounts := setting.accounts.update
            (setting.receipts.pronounce transaction.number verdict)
          ready := setting.ready.erase transaction }
      else setting
  | .look number =>
      if number ∈ setting.made then
        { setting with
          accounts := setting.accounts.update (setting.receipts.look number).2 }
      else setting
  | .withdraw number =>
      if number ∈ setting.made then
        { setting with
          accounts := setting.accounts.update (setting.receipts.abandon number) }
      else setting
  | .receive =>
      { setting with
        guard := { setting.guard with
          outlet := (setting.guard.outlet.take setting.receipts).1 }
        accounts := setting.accounts.lose (loses? setting.guard.outlet)
        held := (setting.guard.outlet.offer.transaction?.map Transaction.number).toList ++
          setting.held }
  | .pronounce number verdict =>
      if number ∈ setting.held then
        { setting with
          accounts := setting.accounts.pronounce number verdict
          held := setting.held.erase number }
      else setting
  | .close =>
      { setting with
        guard := { setting.guard with outlet := setting.guard.outlet.close } }
  | .refuse =>
      { setting with
        guard := { setting.guard with
          outlet := { setting.guard.outlet with slot := none, refused := true } }
        accounts := setting.accounts.lose setting.guard.outlet.slot }
  | .letGo =>
      { setting with
        guard := { setting.guard with
          outlet := (setting.guard.outlet.letGo setting.receipts).1 }
        accounts := setting.accounts.lose setting.guard.outlet.slot }

def performAll (setting : Setting) (moves : List (SettingMove σ)) : Setting :=
  moves.foldl perform setting

/-- What each move keeps holds after all of them. -/
theorem performAll_induction {motive : Setting → Prop} {setting : Setting}
    (hstart : motive setting)
    (hperform : ∀ (setting : Setting) (move : SettingMove σ),
      motive setting → motive (setting.perform move))
    (moves : List (SettingMove σ)) : motive (setting.performAll moves) := by
  induction moves generalizing setting with
  | nil => exact hstart
  | cons move rest ih => exact ih (hperform setting move hstart)

/-- Receiving does to the receipts what taking out of the outlet does. -/
theorem receipts_perform_receive (setting : Setting) :
    (setting.perform (.receive : SettingMove σ)).receipts =
      (setting.guard.outlet.take setting.receipts).2 := by
  have hlost : (setting.guard.outlet.take setting.receipts).2 =
      setting.receipts.lose (loses? setting.guard.outlet) := by
    unfold loses? Outlet.take
    split <;> rfl
  rw [hlost]
  exact Accounts.lose_receipts setting.accounts _

theorem receipts_perform_letGo (setting : Setting) :
    (setting.perform (.letGo : SettingMove σ)).receipts =
      (setting.guard.outlet.letGo setting.receipts).2 :=
  Accounts.lose_receipts setting.accounts _

/-- The worker's move finds no step, or does what one case of a step says. -/
theorem perform_work_cases (setting : Setting) (sight : Sight σ) :
    setting.perform (.work sight) = setting ∨
      ∃ move, setting.shows sight = true ∧
        Guard.StepCase sight setting.receipts setting.guard move ∧
          setting.perform (.work sight) = setting.afterStep sight move := by
  cases hshows : setting.shows sight with
  | false => exact .inl (by simp [perform, hshows])
  | true =>
      cases hstep : setting.guard.step sight setting.receipts with
      | none => exact .inl (by simp [perform, hshows, hstep])
      | some move =>
          exact .inr ⟨move, rfl, Guard.stepCase_of_step hstep,
            by simp [perform, hshows, hstep]⟩

/-- Only the input and the holder have done something between two settings. -/
structure Undisturbed (before after : Setting) : Prop where
  phase : after.guard.phase = before.guard.phase
  current : after.guard.current = before.guard.current
  condition : after.guard.condition = before.guard.condition
  taken : after.taken = before.taken
  put : after.put = before.put
  events : after.events = before.events

/-- A move is a step of the guard or leaves the guard undisturbed. -/
theorem perform_cases (setting : Setting) (move : SettingMove σ) :
    setting.Undisturbed (setting.perform move) ∨
      ∃ (sight : Sight σ) (step : GuardMove σ), setting.shows sight = true ∧
        Guard.StepCase sight setting.receipts setting.guard step ∧
          setting.perform move = setting.afterStep sight step := by
  cases move with
  | work sight =>
      rcases setting.perform_work_cases sight with hsame | ⟨step, hshows, hcase, hafter⟩
      · rw [hsame]
        exact .inl ⟨rfl, rfl, rfl, rfl, rfl, rfl⟩
      · exact .inr ⟨sight, step, hshows, hcase, hafter⟩
  | settle transaction verdict | look number | withdraw number | pronounce number verdict =>
      left
      simp only [perform]
      split <;> exact ⟨rfl, rfl, rfl, rfl, rfl, rfl⟩
  | make message | receive | close | refuse | letGo => exact .inl ⟨rfl, rfl, rfl, rfl, rfl, rfl⟩

end Setting

end Intake
