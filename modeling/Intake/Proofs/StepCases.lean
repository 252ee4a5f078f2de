import Intake.Proofs.ReceiptVerdicts
import Intake.Stage

/-!
# What one step of a worker can do

Each step of a pump or a guard is one of the cases listed here, guards of the
case included.  Invariants are proved by going through these cases and never by
unfolding the step functions again.
-/

namespace Intake

theorem Receipt.look_responded_iff {receipt : Receipt} {response : Response} :
    receipt.look.2 = .responded response ↔ receipt = .answered response := by
  cases receipt <;> simp [Receipt.look]

theorem Receipt.look_closed_iff {receipt : Receipt} :
    receipt.look.2 = .closed ↔
      receipt = .forsaken ∨ receipt = .abandoned ∨ receipt = .settled := by
  cases receipt <;> simp [Receipt.look]

/-- The steps of a pump. -/
inductive Pump.StepCase (receipts : Receipts) (stdin : ByteSource) (pump : Pump) :
    PumpMove → Prop where
  | turnAway (hphase : pump.phase = .resting)
      (hclosing : pump.outlet.shutdown.signalled = true) :
      StepCase receipts stdin pump ⟨.looked, pump.enter .leaving, receipts, stdin⟩
  | turnToSource (hphase : pump.phase = .resting)
      (hopen : pump.outlet.shutdown.signalled = false) :
      StepCase receipts stdin pump ⟨.looked, pump.enter .pulling, receipts, stdin⟩
  | readOn (hphase : pump.phase = .pulling) {source : Source} {left : ByteSource}
      (hpull : pump.source.pull pump.outlet.shutdown.signalled stdin = (.more, source, left)) :
      StepCase receipts stdin pump ⟨.looked, { pump with source }, receipts, left⟩
  | ended (hphase : pump.phase = .pulling) {source : Source} {left : ByteSource}
      (hpull : pump.source.pull pump.outlet.shutdown.signalled stdin = (.ended, source, left)) :
      StepCase receipts stdin pump
        ⟨.looked, { pump with source, phase := .leaving }, receipts, left⟩
  | failed (hphase : pump.phase = .pulling) {error : IoError} {source : Source}
      {left : ByteSource}
      (hpull : pump.source.pull pump.outlet.shutdown.signalled stdin =
        (.failed error, source, left)) :
      StepCase receipts stdin pump
        ⟨.failed error, { pump with source, phase := .leaving }, receipts, left⟩
  | pulled (hphase : pump.phase = .pulling) {message : Message} {source : Source}
      {left : ByteSource}
      (hpull : pump.source.pull pump.outlet.shutdown.signalled stdin =
        (.message message, source, left)) :
      StepCase receipts stdin pump
        ⟨.pulled message, { pump with source, phase := .offering message }, receipts, left⟩
  | giveUp {message : Message} (hphase : pump.phase = .offering message)
      (hclosing : pump.outlet.shutdown.signalled = true ∨ pump.outlet.refused = true) :
      StepCase receipts stdin pump ⟨.looked, pump.enter .leaving, receipts, stdin⟩
  | sent {message : Message} (hphase : pump.phase = .offering message)
      (hopen : pump.outlet.shutdown.signalled = false)
      (haccepting : pump.outlet.refused = false) (hroom : pump.outlet.slot = none) :
      StepCase receipts stdin pump
        ⟨.sent ⟨receipts.next, message⟩,
          { pump with
            outlet := pump.outlet.put ⟨receipts.next, message⟩
            phase := .awaiting message receipts.next },
          receipts.issue, stdin⟩
  | withdrew {message : Message} {number : Nat}
      (hphase : pump.phase = .awaiting message number)
      (hclosing : pump.outlet.shutdown.signalled = true) :
      StepCase receipts stdin pump
        ⟨.withdrew number, pump.enter .leaving, receipts.abandon number, stdin⟩
  | acknowledged {message : Message} {number : Nat} {response : Response}
      (hphase : pump.phase = .awaiting message number)
      (hopen : pump.outlet.shutdown.signalled = false)
      (hanswered : receipts.get number = .answered response)
      (hack : response.isAck = true) :
      StepCase receipts stdin pump
        ⟨.acknowledged number, pump.enter .resting, (receipts.look number).2, stdin⟩
  | rejected {message : Message} {number : Nat} {response : Response}
      (hphase : pump.phase = .awaiting message number)
      (hopen : pump.outlet.shutdown.signalled = false)
      (hanswered : receipts.get number = .answered response)
      (hnack : response.isAck = false) :
      StepCase receipts stdin pump
        ⟨.rejected number, pump.enter (.offering message), (receipts.look number).2, stdin⟩
  | dropped {message : Message} {number : Nat}
      (hphase : pump.phase = .awaiting message number)
      (hopen : pump.outlet.shutdown.signalled = false)
      (hlook : (receipts.get number).look.2 = .closed) :
      StepCase receipts stdin pump
        ⟨.rejected number, pump.enter (.offering message), (receipts.look number).2, stdin⟩
  | released (hphase : pump.phase = .leaving) :
      StepCase receipts stdin pump
        ⟨.released, { pump with outlet := pump.outlet.release, phase := .confirming },
          receipts, stdin⟩
  | confirmed (hphase : pump.phase = .confirming) :
      StepCase receipts stdin pump
        ⟨.confirmed, { pump with outlet := pump.outlet.confirm, phase := .finished },
          receipts, stdin⟩

theorem Pump.stepCase_of_step {receipts : Receipts} {stdin : ByteSource} {pump : Pump}
    {move : PumpMove} (hstep : pump.step receipts stdin = some move) :
    Pump.StepCase receipts stdin pump move := by
  unfold Pump.step at hstep
  cases hphase : pump.phase with
  | resting =>
      cases hsignal : pump.outlet.shutdown.signalled with
      | true =>
          simp only [hphase, hsignal, if_true, Option.some.injEq] at hstep
          subst move
          exact .turnAway hphase hsignal
      | false =>
          simp only [hphase, hsignal, Bool.false_eq_true, if_false, Option.some.injEq] at hstep
          subst move
          exact .turnToSource hphase hsignal
  | pulling =>
      simp only [hphase] at hstep
      rcases hpull : pump.source.pull pump.outlet.shutdown.signalled stdin with
        ⟨result, source, left⟩
      rw [hpull] at hstep
      cases result with
      | waiting => simp at hstep
      | more =>
          simp only [Option.some.injEq] at hstep
          subst move
          rw [← hphase]
          exact .readOn hphase hpull
      | ended =>
          simp only [Option.some.injEq] at hstep
          subst move
          exact .ended hphase hpull
      | failed error =>
          simp only [Option.some.injEq] at hstep
          subst move
          exact .failed hphase hpull
      | message message =>
          simp only [Option.some.injEq] at hstep
          subst move
          exact .pulled hphase hpull
  | offering message =>
      simp only [hphase] at hstep
      split at hstep
      · next hclosing =>
          simp only [Option.some.injEq] at hstep
          subst move
          exact .giveUp hphase (by simpa using hclosing)
      · next hopen =>
          simp only [Bool.or_eq_true, not_or, Bool.not_eq_true] at hopen
          split at hstep
          · simp at hstep
          · next hroom =>
              simp only [Option.some.injEq] at hstep
              subst move
              exact .sent hphase hopen.1 hopen.2 (by simpa using hroom)
  | awaiting message number =>
      simp only [hphase] at hstep
      split at hstep
      · next hclosing =>
          simp only [Option.some.injEq] at hstep
          subst move
          exact .withdrew hphase hclosing
      · next hopen =>
          simp only [Bool.not_eq_true] at hopen
          rcases hlook : receipts.look number with ⟨sighting, after⟩
          have hsighting : (receipts.get number).look.2 = sighting := congrArg Prod.fst hlook
          have hafter : (receipts.look number).2 = after := congrArg Prod.snd hlook
          rw [hlook] at hstep
          subst hafter
          cases sighting with
          | pending => simp at hstep
          | closed =>
              simp only [Option.some.injEq] at hstep
              subst move
              exact .dropped hphase hopen hsighting
          | responded response =>
              cases hack : response.isAck with
              | true =>
                  simp only [hack, if_true, Option.some.injEq] at hstep
                  subst move
                  exact .acknowledged hphase hopen
                    (Receipt.look_responded_iff.mp hsighting) hack
              | false =>
                  simp only [hack, Bool.false_eq_true, if_false, Option.some.injEq] at hstep
                  subst move
                  exact .rejected hphase hopen
                    (Receipt.look_responded_iff.mp hsighting) hack
  | leaving =>
      simp only [hphase, Option.some.injEq] at hstep
      subst move
      exact .released hphase
  | confirming =>
      simp only [hphase, Option.some.injEq] at hstep
      subst move
      exact .confirmed hphase
  | finished => simp [hphase] at hstep

theorem Pump.StepCase.next_le {receipts : Receipts} {stdin : ByteSource} {pump : Pump}
    {move : PumpMove} (hcase : pump.StepCase receipts stdin move) :
    receipts.next ≤ move.receipts.next := by
  cases hcase <;> simp

/-- The steps of a guard. -/
inductive Guard.StepCase {σ : Type} (sight : Sight σ) (receipts : Receipts)
    (guard : Guard) : GuardMove σ → Prop where
  | started (hphase : guard.phase = .starting) :
      StepCase sight receipts guard
        { event := .started, guard := guard.enter .deciding, receipts }
  | stopDeciding (hphase : guard.phase = .deciding)
      (hclosing : guard.outlet.shutdown.requested = true) :
      StepCase sight receipts guard
        { event := .looked, guard := guard.enter (.leaving .closeRequested), receipts }
  | turnToInput (hphase : guard.phase = .deciding)
      (hopen : guard.outlet.shutdown.requested = false) (hcurrent : guard.current = true) :
      StepCase sight receipts guard
        { event := .looked, guard := guard.enter .receiving, receipts }
  | exhausted (hphase : guard.phase = .deciding)
      (hopen : guard.outlet.shutdown.requested = false) (hcurrent : guard.current = false)
      (hrestart : guard.restart = false) :
      StepCase sight receipts guard
        { event := .looked, guard := guard.enter (.leaving .exhausted), receipts }
  | rebuilt (hphase : guard.phase = .deciding)
      (hopen : guard.outlet.shutdown.requested = false) (hcurrent : guard.current = false)
      (hrestart : guard.restart = true) {input : σ} (hbuild : sight.rebuild () = .ok input) :
      StepCase sight receipts guard
        { event := .rebuilt, guard := { guard with current := true, phase := .receiving },
          receipts, demand := .replace input }
  | rebuildFailed (hphase : guard.phase = .deciding)
      (hopen : guard.outlet.shutdown.requested = false) (hcurrent : guard.current = false)
      (hrestart : guard.restart = true) {error : InputError}
      (hbuild : sight.rebuild () = .error error) :
      StepCase sight receipts guard
        { event := .rebuildFailed error, guard := guard.enter (.leaving .restartFailed),
          receipts }
  | stopReceiving (hphase : guard.phase = .receiving)
      (hclosing : guard.outlet.shutdown.signalled = true) :
      StepCase sight receipts guard
        { event := .looked, guard := guard.enter (.leaving .closeRequested), receipts }
  | inputEnded (hphase : guard.phase = .receiving)
      (hopen : guard.outlet.shutdown.signalled = false) (hoffer : sight.offer = .ended) :
      StepCase sight receipts guard
        { event := .inputEnded, guard := { guard with current := false, phase := .deciding },
          receipts, demand := .letGo }
  | received (hphase : guard.phase = .receiving)
      (hopen : guard.outlet.shutdown.signalled = false) {transaction : Transaction}
      (hoffer : sight.offer = .transaction transaction)
      (hmet : (guard.condition.check transaction.payload).1 = false) :
      StepCase sight receipts guard
        { event := .received transaction false,
          guard := { guard with
            condition := (guard.condition.check transaction.payload).2
            phase := .forwarding transaction },
          receipts, demand := .take }
  | receivedCandidate (hphase : guard.phase = .receiving)
      (hopen : guard.outlet.shutdown.signalled = false) {transaction : Transaction}
      (hoffer : sight.offer = .transaction transaction)
      (hmet : (guard.condition.check transaction.payload).1 = true) :
      StepCase sight receipts guard
        { event := .received transaction true,
          guard := { guard with
            condition := (guard.condition.check transaction.payload).2
            phase := .intercepting transaction },
          receipts, demand := .take }
  | giveUpForwarding {transaction : Transaction} {exit : Exit}
      (hphase : guard.phase = .forwarding transaction) (hexit : guard.obstacle? = some exit) :
      StepCase sight receipts guard
        { event := .gaveUp transaction.number, guard := guard.enter (.leaving exit),
          receipts := receipts.forsake transaction.number }
  | forwarded {transaction : Transaction} (hphase : guard.phase = .forwarding transaction)
      (hclear : guard.obstacle? = none) (hroom : guard.outlet.slot = none) :
      StepCase sight receipts guard
        { event := .forwarded transaction,
          guard := { guard with outlet := guard.outlet.put transaction, phase := .deciding },
          receipts }
  | giveUpIntercepting {candidate : Transaction} {exit : Exit}
      (hphase : guard.phase = .intercepting candidate) (hexit : guard.obstacle? = some exit) :
      StepCase sight receipts guard
        { event := .gaveUp candidate.number, guard := guard.enter (.leaving exit),
          receipts := receipts.forsake candidate.number }
  | intercepted {candidate : Transaction} (hphase : guard.phase = .intercepting candidate)
      (hclear : guard.obstacle? = none) (hroom : guard.outlet.slot = none) :
      StepCase sight receipts guard
        { event := .intercepted candidate.number ⟨receipts.next, candidate.payload⟩,
          guard := { guard with
            outlet := guard.outlet.put ⟨receipts.next, candidate.payload⟩
            phase := .awaiting candidate.number receipts.next },
          receipts := receipts.issue }
  | giveUpAwaiting {candidate number : Nat} (hphase : guard.phase = .awaiting candidate number)
      (hclosing : guard.outlet.shutdown.signalled = true) :
      StepCase sight receipts guard
        { event := .gaveUp candidate, guard := guard.enter (.leaving .closeRequested),
          receipts := (receipts.abandon number).forsake candidate }
  | accepted {candidate number : Nat} {response : Response}
      (hphase : guard.phase = .awaiting candidate number)
      (hopen : guard.outlet.shutdown.signalled = false)
      (hanswered : receipts.get number = .answered response) (hack : response.isAck = true) :
      StepCase sight receipts guard
        { event := .relayed candidate response, guard := guard.enter (.leaving .conditionMet),
          receipts := ((receipts.look number).2.respond candidate response).2 }
  | rejected {candidate number : Nat} {response : Response}
      (hphase : guard.phase = .awaiting candidate number)
      (hopen : guard.outlet.shutdown.signalled = false)
      (hanswered : receipts.get number = .answered response) (hnack : response.isAck = false) :
      StepCase sight receipts guard
        { event := .relayed candidate response, guard := guard.enter .deciding,
          receipts := ((receipts.look number).2.respond candidate response).2 }
  | dropped {candidate number : Nat} (hphase : guard.phase = .awaiting candidate number)
      (hopen : guard.outlet.shutdown.signalled = false)
      (hlook : (receipts.get number).look.2 = .closed) :
      StepCase sight receipts guard
        { event := .relayed candidate (.nack droppedCause), guard := guard.enter .deciding,
          receipts :=
            ((receipts.look number).2.respond candidate (.nack droppedCause)).2 }
  | askedToClose {exit : Exit} (hphase : guard.phase = .leaving exit)
      (hcurrent : guard.current = true) :
      StepCase sight receipts guard
        { event := .left exit, guard := guard.enter (.closing exit), receipts,
          demand := .close }
  | leftAlone {exit : Exit} (hphase : guard.phase = .leaving exit)
      (hcurrent : guard.current = false) :
      StepCase sight receipts guard
        { event := .left exit, guard := guard.enter (.stopping exit), receipts }
  | inputClosed {exit : Exit} (hphase : guard.phase = .closing exit)
      (hconfirmed : sight.confirmed = true) :
      StepCase sight receipts guard
        { event := .inputClosed, guard := guard.enter (.stopping exit), receipts }
  | stopped {exit : Exit} (hphase : guard.phase = .stopping exit) :
      StepCase sight receipts guard
        { event := .stopped, guard := guard.enter (.releasing exit), receipts }
  | released {exit : Exit} (hphase : guard.phase = .releasing exit) :
      StepCase sight receipts guard
        { event := .released,
          guard := { guard with outlet := guard.outlet.release, phase := .confirming exit },
          receipts }
  | confirmed {exit : Exit} (hphase : guard.phase = .confirming exit) :
      StepCase sight receipts guard
        { event := .confirmed,
          guard := { guard with outlet := guard.outlet.confirm, phase := .finished exit },
          receipts }

section GuardSteps

variable {σ : Type} {sight : Sight σ} {receipts : Receipts} {guard : Guard}
  {move : GuardMove σ}

private theorem Guard.stepCase_of_decideNext (hphase : guard.phase = .deciding)
    (hstep : guard.decideNext sight receipts = move) :
    Guard.StepCase sight receipts guard move := by
  unfold decideNext at hstep
  subst move
  split
  · next hclosing =>
      exact .stopDeciding hphase (by simpa [Shutdown.isRunning] using hclosing)
  · next hopen =>
      have hopen : guard.outlet.shutdown.requested = false := by
        simpa [Shutdown.isRunning] using hopen
      split
      · next hcurrent => exact .turnToInput hphase hopen hcurrent
      · next hcurrent =>
          have hcurrent : guard.current = false := by simpa using hcurrent
          split
          · next hrestart => exact .exhausted hphase hopen hcurrent (by simpa using hrestart)
          · next hrestart =>
              have hrestart : guard.restart = true := by simpa using hrestart
              cases hbuild : sight.rebuild () with
              | ok input => exact .rebuilt hphase hopen hcurrent hrestart hbuild
              | error error => exact .rebuildFailed hphase hopen hcurrent hrestart hbuild

private theorem Guard.stepCase_of_receive (hphase : guard.phase = .receiving)
    (hstep : guard.receive sight receipts = some move) :
    Guard.StepCase sight receipts guard move := by
  unfold receive at hstep
  split at hstep
  · next hclosing =>
      simp only [Option.some.injEq] at hstep
      subst move
      exact .stopReceiving hphase hclosing
  · next hopen =>
      simp only [Bool.not_eq_true] at hopen
      cases hoffer : sight.offer with
      | pending => simp [hoffer] at hstep
      | ended =>
          simp only [hoffer, Option.some.injEq] at hstep
          subst move
          exact .inputEnded hphase hopen hoffer
      | transaction transaction =>
          simp only [hoffer, Option.some.injEq] at hstep
          subst move
          cases hmet : (guard.condition.check transaction.payload).1 with
          | false =>
              simp only [Bool.false_eq_true, if_false]
              exact .received hphase hopen hoffer hmet
          | true =>
              simp only [if_true]
              exact .receivedCandidate hphase hopen hoffer hmet

private theorem Guard.stepCase_of_forward {transaction : Transaction}
    (hphase : guard.phase = .forwarding transaction)
    (hstep : guard.forward receipts transaction = some move) :
    Guard.StepCase sight receipts guard move := by
  unfold forward at hstep
  cases hexit : guard.obstacle? with
  | some exit =>
      simp only [hexit, Option.some.injEq] at hstep
      subst move
      exact .giveUpForwarding hphase hexit
  | none =>
      simp only [hexit] at hstep
      split at hstep
      · simp at hstep
      · next hroom =>
          simp only [Option.some.injEq] at hstep
          subst move
          exact .forwarded hphase hexit (by simpa using hroom)

private theorem Guard.stepCase_of_intercept {candidate : Transaction}
    (hphase : guard.phase = .intercepting candidate)
    (hstep : guard.intercept receipts candidate = some move) :
    Guard.StepCase sight receipts guard move := by
  unfold intercept at hstep
  cases hexit : guard.obstacle? with
  | some exit =>
      simp only [hexit, Option.some.injEq] at hstep
      subst move
      exact .giveUpIntercepting hphase hexit
  | none =>
      simp only [hexit] at hstep
      split at hstep
      · simp at hstep
      · next hroom =>
          simp only [Option.some.injEq] at hstep
          subst move
          exact .intercepted hphase hexit (by simpa using hroom)

private theorem Guard.stepCase_of_awaitResponse {candidate number : Nat}
    (hphase : guard.phase = .awaiting candidate number)
    (hstep : guard.awaitResponse receipts candidate number = some move) :
    Guard.StepCase sight receipts guard move := by
  unfold awaitResponse at hstep
  split at hstep
  · next hclosing =>
      simp only [Option.some.injEq] at hstep
      subst move
      exact .giveUpAwaiting hphase hclosing
  · next hopen =>
      simp only [Bool.not_eq_true] at hopen
      rcases hlook : receipts.look number with ⟨sighting, after⟩
      have hsighting : (receipts.get number).look.2 = sighting := congrArg Prod.fst hlook
      have hafter : (receipts.look number).2 = after := congrArg Prod.snd hlook
      rw [hlook] at hstep
      subst hafter
      cases sighting with
      | pending => simp at hstep
      | closed =>
          simp only [Option.some.injEq] at hstep
          subst move
          exact .dropped hphase hopen hsighting
      | responded response =>
          have hanswered := Receipt.look_responded_iff.mp hsighting
          simp only [relay, Option.some.injEq] at hstep
          subst move
          cases hack : response.isAck with
          | true => simpa [hack] using StepCase.accepted hphase hopen hanswered hack
          | false => simpa [hack] using StepCase.rejected hphase hopen hanswered hack

theorem Guard.stepCase_of_step (hstep : guard.step sight receipts = some move) :
    Guard.StepCase sight receipts guard move := by
  unfold step at hstep
  cases hphase : guard.phase with
  | starting =>
      simp only [hphase, Option.some.injEq] at hstep
      subst move
      exact .started hphase
  | deciding =>
      simp only [hphase, Option.some.injEq] at hstep
      exact stepCase_of_decideNext hphase hstep
  | receiving =>
      simp only [hphase] at hstep
      exact stepCase_of_receive hphase hstep
  | forwarding transaction =>
      simp only [hphase] at hstep
      exact stepCase_of_forward hphase hstep
  | intercepting candidate =>
      simp only [hphase] at hstep
      exact stepCase_of_intercept hphase hstep
  | awaiting candidate number =>
      simp only [hphase] at hstep
      exact stepCase_of_awaitResponse hphase hstep
  | leaving exit =>
      simp only [hphase] at hstep
      split at hstep
      · next hcurrent =>
          simp only [Option.some.injEq] at hstep
          subst move
          exact .askedToClose hphase hcurrent
      · next hcurrent =>
          simp only [Option.some.injEq] at hstep
          subst move
          exact .leftAlone hphase (by simpa using hcurrent)
  | closing exit =>
      simp only [hphase] at hstep
      split at hstep
      · next hconfirmed =>
          simp only [Option.some.injEq] at hstep
          subst move
          exact .inputClosed hphase hconfirmed
      · simp at hstep
  | stopping exit =>
      simp only [hphase, Option.some.injEq] at hstep
      subst move
      exact .stopped hphase
  | releasing exit =>
      simp only [hphase, Option.some.injEq] at hstep
      subst move
      exact .released hphase
  | confirming exit =>
      simp only [hphase, Option.some.injEq] at hstep
      subst move
      exact .confirmed hphase
  | finished exit => simp [hphase] at hstep

theorem Guard.StepCase.next_le (hcase : guard.StepCase sight receipts move) :
    receipts.next ≤ move.receipts.next := by
  cases hcase with
  | intercepted =>
      rw [Receipts.next_issue]
      exact Nat.le_succ _
  | giveUpForwarding | giveUpIntercepting => exact (Receipts.next_pronounce _ _ none).ge
  | giveUpAwaiting =>
      exact ((Receipts.next_pronounce _ _ none).trans (Receipts.next_abandon _ _)).ge
  | accepted | rejected | dropped =>
      exact ((Receipts.next_pronounce _ _ (some _)).trans (Receipts.next_look _ _)).ge
  | _ => exact Nat.le_refl _

end GuardSteps

end Intake
