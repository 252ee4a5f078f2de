import Intake.Proofs.SerialRefinement
import Intake.Proofs.StageClosing

/-!
# How a running stage is poised

A stage that nobody has asked to close is poised towards its holder in one of
the four standings, whatever its leaf reads.  A transaction that the stage
offers or has lent is open, and each worker on the way to the leaf waits for it;
so nothing moves inside until the holder answers, and the answer reaches every
worker at once.  A guard whose input has ended or that is about to stop stands
on its own, and what lies inside it does not matter.
-/

namespace Intake

namespace Standing

/-- The number of the transaction that is offered or lent. -/
def number? : Standing → Option Nat
  | .offering transaction => some transaction.number
  | .lent number => some number
  | .working | .ended => none

def slot : Standing → Option Transaction
  | .offering transaction => some transaction
  | .working | .lent _ | .ended => none

/-- The numbers of the transactions that the holder owes a verdict for. -/
def held : Standing → List Nat
  | .lent number => [number]
  | .working | .offering _ | .ended => []

def offer : Standing → Received
  | .offering transaction => .transaction transaction
  | .ended => .ended
  | .working | .lent _ => .pending

/-- What the outlet of a stage looks like that nobody has asked to close. -/
def Shows : Standing → Outlet → Prop
  | .ended, outlet => ∃ closed, outlet = .left closed
  | standing, outlet => outlet = { slot := standing.slot }

theorem shows_of_number? {standing : Standing} {number : Nat}
    (hnumber : standing.number? = some number) (outlet : Outlet) :
    standing.Shows outlet ↔ outlet = { slot := standing.slot } := by
  cases standing <;> simp_all [number?, Shows]

theorem Shows.isClosing_eq {standing : Standing} {outlet : Outlet}
    (hshows : standing.Shows outlet) : outlet.isClosing = false := by
  cases standing with
  | ended =>
      obtain ⟨closed, rfl⟩ := hshows
      rfl
  | _ =>
      rw [show outlet = _ from hshows]
      rfl

theorem Shows.slot_eq {standing : Standing} {outlet : Outlet}
    (hshows : standing.Shows outlet) : outlet.slot = standing.slot := by
  cases standing with
  | ended =>
      obtain ⟨closed, rfl⟩ := hshows
      rfl
  | _ => rw [show outlet = _ from hshows]

theorem Shows.offer_eq {standing : Standing} {outlet : Outlet}
    (hshows : standing.Shows outlet) : outlet.offer = standing.offer := by
  cases standing with
  | ended =>
      obtain ⟨closed, rfl⟩ := hshows
      simp [Outlet.offer, Outlet.left, offer]
  | _ =>
      rw [show outlet = _ from hshows]
      rfl

theorem eq_offering_of_offer {standing : Standing} {transaction : Transaction}
    (hoffer : standing.offer = .transaction transaction) : standing = .offering transaction := by
  cases standing <;> simp_all [offer]

theorem Shows.eq_ended_of_closed {standing : Standing} {outlet : Outlet}
    (hshows : standing.Shows outlet) (hclosed : outlet.shutdown.closed = true) :
    standing = .ended := by
  cases standing with
  | ended => rfl
  | _ =>
      rw [show outlet = _ from hshows] at hclosed
      simp at hclosed

end Standing

/-- Where a pump stands that does not wait for a response and has not let go. -/
def PumpPhase.IsBusy : PumpPhase → Prop
  | .resting | .pulling | .offering _ | .leaving => True
  | .awaiting .. | .confirming | .finished => False

inductive Pump.Poised (receipts : Receipts) (pump : Pump) : Standing → Prop where
  | working (houtlet : pump.outlet = {}) (hphase : pump.phase.IsBusy) :
      Poised receipts pump .working
  | waiting {standing : Standing} {message : Message} {number : Nat}
      (houtlet : pump.outlet = { slot := standing.slot })
      (hphase : pump.phase = .awaiting message number)
      (hnumber : standing.number? = some number) (hopen : receipts.get number = .open) :
      Poised receipts pump standing
  | answered {message : Message} {number : Nat} {verdict : Verdict}
      (houtlet : pump.outlet = {}) (hphase : pump.phase = .awaiting message number)
      (hget : receipts.get number = Receipt.open.pronounce verdict) :
      Poised receipts pump .working
  | ended {closed : Bool} (houtlet : pump.outlet = .left closed)
      (hphase : pump.phase = .confirming ∨ pump.phase = .finished) :
      Poised receipts pump .ended

/-- A guard that turns to an input poised in some way. -/
inductive Guard.Turned (receipts : Receipts) (guard : Guard) : Standing → Standing → Prop where
  | reading {inside : Standing} (houtlet : guard.outlet = {}) (hcurrent : guard.current = true)
      (hphase : guard.phase = .starting ∨ guard.phase.IsWaiting) (hinside : inside.held = []) :
      Turned receipts guard inside .working
  | holding {transaction : Transaction} (houtlet : guard.outlet = {})
      (hphase : guard.phase = .forwarding transaction ∨
        guard.phase = .intercepting transaction) (hcurrent : guard.current = true) :
      Turned receipts guard (.lent transaction.number) .working
  | passed {standing : Standing} {number : Nat}
      (houtlet : guard.outlet = { slot := standing.slot }) (hcurrent : guard.current = true)
      (hphase : guard.phase.IsWaiting) (hnumber : standing.number? = some number) :
      Turned receipts guard (.lent number) standing
  | intercepted {standing : Standing} {candidate number : Nat}
      (houtlet : guard.outlet = { slot := standing.slot }) (hcurrent : guard.current = true)
      (hphase : guard.phase = .awaiting candidate number)
      (hnumber : standing.number? = some number) (hlater : candidate < number)
      (hopen : receipts.get number = .open) :
      Turned receipts guard (.lent candidate) standing
  | answered {candidate number : Nat} {verdict : Verdict} (houtlet : guard.outlet = {})
      (hcurrent : guard.current = true) (hphase : guard.phase = .awaiting candidate number)
      (hlater : candidate < number)
      (hget : receipts.get number = Receipt.open.pronounce verdict) :
      Turned receipts guard (.lent candidate) .working

/-- A guard that turns to no input any more. -/
inductive Guard.Apart (guard : Guard) : Standing → Prop where
  | bereft (houtlet : guard.outlet = {}) (hphase : guard.phase = .deciding)
      (hcurrent : guard.current = false) : Apart guard .working
  | leaving {exit : Exit} (houtlet : guard.outlet = {}) (hphase : guard.phase.IsLeaving exit) :
      Apart guard .working
  | ended {exit : Exit} {closed : Bool} (houtlet : guard.outlet = .left closed)
      (hphase : guard.phase = .confirming exit ∨ guard.phase = .finished exit) :
      Apart guard .ended

inductive Stage.Poised (receipts : Receipts) : Stage → Standing → Prop where
  | pump {leaf : Pump} {standing : Standing} (hleaf : leaf.Poised receipts standing) :
      Poised receipts (.pump leaf) standing
  | turned {head : Guard} {wrapped : Stage} {inside standing : Standing}
      (hhead : head.Turned receipts inside standing) (hwrapped : Poised receipts wrapped inside) :
      Poised receipts (.guard head wrapped) standing
  | apart {head : Guard} {wrapped : Stage} {standing : Standing} (hhead : head.Apart standing) :
      Poised receipts (.guard head wrapped) standing

namespace Stage.Poised

/-! ## What a holder sees and does -/

section Holder

variable {receipts : Receipts} {stage : Stage} {standing : Standing} {number : Nat}

theorem shows (hpoised : stage.Poised receipts standing) : standing.Shows stage.outlet := by
  cases hpoised with
  | pump hleaf =>
      cases hleaf with
      | working houtlet | answered houtlet => exact houtlet
      | waiting houtlet _ hnumber => exact (Standing.shows_of_number? hnumber _).mpr houtlet
      | ended houtlet => exact ⟨_, houtlet⟩
  | turned hhead =>
      cases hhead with
      | reading houtlet | holding houtlet | answered houtlet => exact houtlet
      | passed houtlet _ _ hnumber | intercepted houtlet _ _ hnumber =>
          exact (Standing.shows_of_number? hnumber _).mpr houtlet
  | apart hhead =>
      cases hhead with
      | bereft houtlet | leaving houtlet => exact houtlet
      | ended houtlet => exact ⟨_, houtlet⟩

theorem get_eq_open (hpoised : stage.Poised receipts standing)
    (hnumber : standing.number? = some number) : receipts.get number = .open := by
  induction hpoised with
  | pump hleaf =>
      cases hleaf with
      | waiting _ _ hsame hopen => rwa [Option.some.inj (hsame.symm.trans hnumber)] at hopen
      | _ => simp [Standing.number?] at hnumber
  | turned hhead _ ih =>
      cases hhead with
      | passed _ _ _ hsame =>
          apply ih
          exact congrArg some (Option.some.inj (hsame.symm.trans hnumber))
      | intercepted _ _ _ hsame _ hopen =>
          rwa [Option.some.inj (hsame.symm.trans hnumber)] at hopen
      | _ => simp [Standing.number?] at hnumber
  | apart hhead => cases hhead <;> simp [Standing.number?] at hnumber

theorem lt_next (hpoised : stage.Poised receipts standing)
    (hnumber : standing.number? = some number) : number < receipts.next := by
  apply receipts.lt_next_of_get_ne
  rw [hpoised.get_eq_open hnumber]
  simp

/-- Numbers grow outward, so a stage that waits for the holder depends on no
receipt after the one it waits for. -/
theorem congr (hpoised : stage.Poised receipts standing)
    (hnumber : standing.number? = some number) {other : Receipts}
    (hsame : ∀ earlier, earlier ≤ number → other.get earlier = receipts.get earlier) :
    stage.Poised other standing := by
  induction hpoised generalizing number with
  | pump hleaf =>
      cases hleaf with
      | waiting houtlet hphase hown hopen =>
          obtain rfl := Option.some.inj (hown.symm.trans hnumber)
          exact .pump (.waiting houtlet hphase hown ((hsame _ le_rfl).trans hopen))
      | _ => simp [Standing.number?] at hnumber
  | turned hhead _ ih =>
      cases hhead with
      | passed houtlet hcurrent hphase hown =>
          obtain rfl := Option.some.inj (hown.symm.trans hnumber)
          exact .turned (.passed houtlet hcurrent hphase hown) (ih rfl hsame)
      | intercepted houtlet hcurrent hphase hown hlater hopen =>
          obtain rfl := Option.some.inj (hown.symm.trans hnumber)
          refine .turned (.intercepted houtlet hcurrent hphase hown hlater
            ((hsame _ le_rfl).trans hopen)) (ih rfl fun earlier hearlier => ?_)
          exact hsame earlier (hearlier.trans hlater.le)
      | _ => simp [Standing.number?] at hnumber
  | apart hhead => cases hhead <;> simp [Standing.number?] at hnumber

theorem take {transaction : Transaction} (hpoised : stage.Poised receipts (.offering transaction)) :
    (stage.take receipts).1.Poised (stage.take receipts).2 (.lent transaction.number) := by
  have houtlet : stage.outlet = { slot := some transaction } := hpoised.shows
  have htake : stage.outlet.take receipts = ({}, receipts) := by
    rw [houtlet]
    rfl
  rw [stage.take_eq, htake]
  cases hpoised with
  | pump hleaf =>
      cases hleaf with
      | waiting _ hphase hnumber hopen => exact .pump (.waiting rfl hphase hnumber hopen)
  | turned hhead hwrapped =>
      cases hhead with
      | passed _ hcurrent hphase hnumber =>
          exact .turned (.passed rfl hcurrent hphase hnumber) hwrapped
      | intercepted _ hcurrent hphase hnumber hlater hopen =>
          exact .turned (.intercepted rfl hcurrent hphase hnumber hlater hopen) hwrapped
  | apart hhead => cases hhead

theorem pronounce (hpoised : stage.Poised receipts (.lent number)) (verdict : Verdict) :
    stage.Poised (receipts.pronounce number verdict) .working := by
  have hget : (receipts.pronounce number verdict).get number =
      Receipt.open.pronounce verdict := by
    rw [receipts.get_pronounce, if_pos rfl, hpoised.get_eq_open rfl]
  generalize hlent : Standing.lent number = standing at hpoised
  induction hpoised with
  | pump hleaf =>
      subst hlent
      cases hleaf with
      | waiting houtlet hphase hnumber =>
          cases hnumber
          exact .pump (.answered houtlet hphase hget)
  | turned hhead hwrapped ih =>
      subst hlent
      cases hhead with
      | passed houtlet hcurrent hphase hnumber =>
          cases hnumber
          exact .turned (.reading houtlet hcurrent (.inr hphase) rfl) (ih rfl)
      | intercepted houtlet hcurrent hphase hnumber hlater =>
          cases hnumber
          -- what is lent inside has an earlier number, which the verdict leaves alone
          refine .turned (.answered houtlet hcurrent hphase hlater hget)
            (hwrapped.congr rfl fun earlier hearlier => ?_)
          rw [receipts.get_pronounce, if_neg (by omega)]
  | apart hhead =>
      subst hlent
      cases hhead

end Holder

end Stage.Poised

/-! ## Steps of the workers -/

/-- What a step can make of a standing: a stage that is working may come to offer
something or to an end, and otherwise nothing changes for the holder. -/
inductive Standing.Becomes (before after : Receipts) : Standing → Standing → Prop where
  | works {standing : Standing} (hheld : standing.held = []) :
      Becomes before after .working standing
  | waits {standing : Standing} {number : Nat} (hnumber : standing.number? = some number)
      (hsame : after = before) : Becomes before after standing standing
  | ends : Becomes before after .ended .ended

theorem Pump.Poised.step {receipts : Receipts} {stdin : ByteSource} {pump : Pump}
    {standing : Standing} {move : PumpMove} (hpoised : pump.Poised receipts standing)
    (hstep : pump.step receipts stdin = some move) :
    ∃ after, move.pump.Poised move.receipts after ∧
      standing.Becomes receipts move.receipts after := by
  have hcase := Pump.stepCase_of_step hstep
  cases hpoised with
  | working houtlet hphase =>
      cases hcase with
      | turnToSource | readOn | ended | failed | pulled =>
          exact ⟨.working, .working houtlet (by simp_all [PumpPhase.IsBusy, enter]), .works rfl⟩
      | @sent message =>
          refine ⟨.offering ⟨receipts.next, message⟩,
            .waiting ?_ rfl rfl receipts.get_issue_next, .works rfl⟩
          rw [houtlet]
          rfl
      | released =>
          have hleft : pump.outlet.release = .left false := by
            rw [houtlet]
            rfl
          exact ⟨.ended, .ended hleft (.inl rfl), .works rfl⟩
      | _ => simp_all [PumpPhase.IsBusy]
  | waiting houtlet hphase _ hopen =>
      -- nothing moves before the response is there
      cases hcase <;> simp_all [Receipt.look]
  | answered houtlet hphase hget =>
      cases hcase with
      | acknowledged | rejected | dropped =>
          exact ⟨.working, .working houtlet (by simp [PumpPhase.IsBusy, enter]), .works rfl⟩
      | _ => simp_all
  | ended houtlet hphase =>
      cases hcase with
      | confirmed =>
          have hleft : pump.outlet.confirm = .left true := by
            rw [houtlet]
            rfl
          exact ⟨.ended, .ended hleft (.inr rfl), .ends⟩
      | _ => simp_all

theorem Stage.Poised.of_isFresh {stage : Stage} (hfresh : stage.IsFresh) (receipts : Receipts) :
    stage.Poised receipts .working := by
  induction stage with
  | pump leaf =>
      obtain ⟨houtlet, hphase⟩ := hfresh
      exact .pump (.working houtlet (by simp [hphase, PumpPhase.IsBusy]))
  | guard head wrapped ih =>
      obtain ⟨houtlet, hphase, hcurrent, hwrapped⟩ := hfresh
      exact .turned (.reading houtlet hcurrent (.inl hphase) rfl) (ih hwrapped)

section Guards

variable {world : World} {guard : Guard} {wrapped : Stage} {inside standing : Standing}
  {step : GuardMove Stage}

/-- What a stage around an input can be poised for after a step of its guard. -/
def Guard.Proceeds (world : World) (wrapped : Stage) (standing : Standing)
    (step : GuardMove Stage) : Prop :=
  ∃ after, (Stage.guard step.guard (wrapped.obey step.receipts step.demand).1).Poised
      (wrapped.obey step.receipts step.demand).2 after ∧
    standing.Becomes world.receipts (wrapped.obey step.receipts step.demand).2 after

theorem Guard.Apart.proceeds (hapart : guard.Apart standing)
    (hstep : guard.step (wrapped.sight world.disk guard.input) world.receipts = some step) :
    Guard.Proceeds world wrapped standing step := by
  have hcase := Guard.stepCase_of_step hstep
  cases hapart with
  | bereft houtlet hphase hcurrent =>
      cases hcase with
      | exhausted =>
          exact ⟨.working, .apart (.leaving houtlet (.inl rfl)), .works rfl⟩
      | rebuildFailed =>
          exact ⟨.working, .apart (.leaving houtlet (.inl rfl)), .works rfl⟩
      | rebuilt _ _ _ _ hbuild =>
          have hfresh := Stage.isFresh_of_build (Stage.build_of_rebuild hbuild)
          exact ⟨.working, .turned (.reading houtlet rfl (.inr (.inr rfl)) rfl)
            (.of_isFresh hfresh _), .works rfl⟩
      | _ => simp_all
  | leaving houtlet hphase =>
      cases hcase with
      | askedToClose | leftAlone | inputClosed | stopped =>
          exact ⟨.working, .apart (.leaving houtlet (by simp [GuardPhase.IsLeaving, enter]; rfl)),
            .works rfl⟩
      | released =>
          have hleft : guard.outlet.release = .left false := by
            rw [houtlet]
            rfl
          exact ⟨.ended, .apart (.ended hleft (.inl rfl)), .works rfl⟩
      | _ => simp_all [GuardPhase.IsLeaving]
  | ended houtlet hphase =>
      cases hcase with
      | confirmed =>
          have hleft : guard.outlet.confirm = .left true := by
            rw [houtlet]
            rfl
          exact ⟨.ended, .apart (.ended hleft (.inr rfl)), .ends⟩
      | _ => simp_all

theorem Guard.Turned.proceeds (hturned : guard.Turned world.receipts inside standing)
    (hwrapped : wrapped.Poised world.receipts inside)
    (hstep : guard.step (wrapped.sight world.disk guard.input) world.receipts = some step) :
    Guard.Proceeds world wrapped standing step := by
  have hoffer : (wrapped.sight world.disk guard.input).offer = inside.offer :=
    hwrapped.shows.offer_eq
  cases hturned with
  | reading houtlet hcurrent hphase hinside =>
      obtain ⟨event, phase, hwaiting, rfl⟩ | ⟨event, _, rfl⟩ | ⟨event, transaction, htaken, rfl⟩ :=
        Tracks.guard_step_reading hphase houtlet hcurrent hstep
      · exact ⟨.working, .turned (.reading houtlet hcurrent (.inr hwaiting) hinside) hwrapped,
          .works rfl⟩
      · exact ⟨.working, .apart (.bereft houtlet rfl rfl), .works rfl⟩
      · obtain rfl := Standing.eq_offering_of_offer (hoffer.symm.trans htaken)
        refine ⟨.working, .turned (.holding houtlet ?_ hcurrent) hwrapped.take, .works rfl⟩
        cases (guard.condition.check transaction.payload).1 <;> simp
  | @holding transaction houtlet hphase hcurrent =>
      cases Guard.stepCase_of_step hstep with
      | @forwarded forwarded hforwarding =>
          obtain rfl : forwarded = transaction := by simpa [hforwarding] using hphase
          refine ⟨.offering forwarded, .turned (.passed ?_ hcurrent (.inl rfl) rfl) hwrapped,
            .works rfl⟩
          rw [houtlet]
          rfl
      | @intercepted candidate hintercepting =>
          obtain rfl : candidate = transaction := by simpa [hintercepting] using hphase
          have hlater : candidate.number < world.receipts.next := hwrapped.lt_next rfl
          have hlent : wrapped.Poised world.receipts.issue (.lent candidate.number) :=
            hwrapped.congr rfl fun earlier hearlier =>
              world.receipts.get_issue_of_lt (hearlier.trans_lt hlater)
          refine ⟨.offering ⟨world.receipts.next, candidate.payload⟩,
            .turned (.intercepted ?_ hcurrent rfl rfl hlater world.receipts.get_issue_next) hlent,
            .works rfl⟩
          rw [houtlet]
          rfl
      | giveUpForwarding _ hexit => simp [obstacle?, houtlet] at hexit
      | giveUpIntercepting _ hexit => simp [obstacle?, houtlet] at hexit
      | _ => simp_all
  | passed houtlet hcurrent hphase hnumber =>
      obtain rfl := Tracks.guard_step_waiting hphase (by rw [houtlet]) hcurrent hoffer hstep
      exact ⟨standing, .turned (.passed houtlet hcurrent (.inr rfl) hnumber) hwrapped,
        .waits hnumber rfl⟩
  | intercepted houtlet _ hphase _ _ hopen =>
      exact (Tracks.guard_waits hstep hphase (by rw [houtlet]) hopen).elim
  | @answered candidate number _ houtlet hcurrent hphase hlater hget =>
      have hlook : wrapped.Poised (world.receipts.look number).2 (.lent candidate) := by
        apply hwrapped.congr rfl
        intro earlier hearlier
        rw [world.receipts.get_look, if_neg (by omega)]
      cases Guard.stepCase_of_step hstep with
      | accepted => exact ⟨.working, .apart (.leaving houtlet (.inl rfl)), .works rfl⟩
      | @rejected _ _ response hsame =>
          cases hphase.symm.trans hsame
          exact ⟨.working, .turned (.reading houtlet hcurrent (.inr (.inl rfl)) rfl)
            (hlook.pronounce (some response)), .works rfl⟩
      | dropped hsame =>
          cases hphase.symm.trans hsame
          exact ⟨.working, .turned (.reading houtlet hcurrent (.inr (.inl rfl)) rfl)
            (hlook.pronounce (some (.nack droppedCause))), .works rfl⟩
      | _ => simp_all

theorem Guard.Turned.becomes_self {receipts before after : Receipts}
    (hturned : guard.Turned receipts inside standing) (hsame : after = before) :
    standing.Becomes before after standing := by
  cases hturned with
  | reading | holding | answered => exact .works rfl
  | passed _ _ _ hnumber | intercepted _ _ _ hnumber => exact .waits hnumber hsame

theorem Guard.Apart.becomes_self {before after : Receipts} (hapart : guard.Apart standing) :
    standing.Becomes before after standing := by
  cases hapart with
  | bereft | leaving => exact .works rfl
  | ended => exact .ends

end Guards

theorem Stage.Poised.step {stage : Stage} {world : World} {standing : Standing} {level : Nat}
    {move : StageMove} (hpoised : stage.Poised world.receipts standing)
    (hstep : stage.step world level = some move) :
    ∃ after, move.stage.Poised move.receipts after ∧
      standing.Becomes world.receipts move.receipts after := by
  induction hpoised generalizing level move with
  | pump hleaf =>
      cases level with
      | zero =>
          obtain ⟨step, hpump, rfl⟩ := Stage.step_zero_pump hstep
          obtain ⟨after, hafter, hbecomes⟩ := hleaf.step hpump
          exact ⟨after, .pump hafter, hbecomes⟩
      | succ level => simp [Stage.step_succ_pump] at hstep
  | turned hhead hwrapped ih =>
      cases level with
      | zero =>
          obtain ⟨step, hguard, rfl⟩ := Stage.step_zero_guard hstep
          exact hhead.proceeds hwrapped hguard
      | succ level =>
          obtain ⟨inner, hinner, rfl⟩ := Stage.step_succ_guard hstep
          obtain ⟨after, hafter, hbecomes⟩ := ih hinner
          cases hbecomes with
          | works hheld =>
              -- only a guard that reads has an input that is working
              cases hhead with
              | reading houtlet hcurrent hphase =>
                  exact ⟨.working, .turned (.reading houtlet hcurrent hphase hheld) hafter,
                    .works rfl⟩
          | waits _ hsame =>
              rw [← hsame] at hhead
              exact ⟨_, .turned hhead hafter, hhead.becomes_self hsame⟩
          | ends =>
              cases hhead with
              | reading houtlet hcurrent hphase =>
                  exact ⟨.working, .turned (.reading houtlet hcurrent hphase rfl) hafter,
                    .works rfl⟩
  | apart hhead =>
      cases level with
      | zero =>
          obtain ⟨step, hguard, rfl⟩ := Stage.step_zero_guard hstep
          exact hhead.proceeds hguard
      | succ level =>
          obtain ⟨inner, _, rfl⟩ := Stage.step_succ_guard hstep
          exact ⟨_, .apart hhead, hhead.becomes_self⟩

/-! ## Stages in use -/

theorem Standing.Shows.isPlain {standing : Standing} {outlet : Outlet}
    (hshows : standing.Shows outlet) : outlet.shutdown.IsPlain := by
  cases standing with
  | ended =>
      obtain ⟨closed, rfl⟩ := hshows
      rfl
  | _ =>
      rw [show outlet = _ from hshows]
      rfl

theorem Shutdown.signalled_request_of_signalled {shutdown : Shutdown}
    (hsignal : shutdown.signalled = true) : shutdown.request.signalled = true := by
  cases hrequested : shutdown.requested <;> simp [request, requestClose, hrequested, hsignal]

theorem Outlet.isClosing_of_signalled {outlet : Outlet}
    (hsignal : outlet.shutdown.signalled = true) : outlet.isClosing = true := by
  simp [isClosing, hsignal]

theorem Outlet.take_of_isClosing {outlet : Outlet} (hclosing : outlet.isClosing = true)
    (receipts : Receipts) :
    outlet.take receipts =
      ({ outlet with slot := none, refused := true }, receipts.lose outlet.slot) := by
  simp [take, hclosing]

theorem Stage.slot_step_of_signalled {stage : Stage} {world : World} {level : Nat}
    {move : StageMove} (hsignal : stage.outlet.shutdown.signalled = true)
    (hstep : stage.step world level = some move) :
    move.stage.outlet.slot = stage.outlet.slot := by
  cases Stage.stepCase_of_step hstep with
  | @pump leaf _ hpump =>
      have hleaf : leaf.outlet.shutdown.signalled = true := hsignal
      cases Pump.stepCase_of_step hpump with
      | sent _ hopen => simp [hleaf] at hopen
      | _ => rfl
  | @guard head _ _ hguard =>
      have hhead : head.outlet.shutdown.signalled = true := hsignal
      cases Guard.stepCase_of_step hguard with
      | forwarded _ hclear | intercepted _ hclear => simp [Guard.obstacle?, hhead] at hclear
      | _ => rfl
  | inside => rfl

/-- The number of what lies in an outlet, if anything does. -/
def Outlet.buffered (outlet : Outlet) : List Nat :=
  (outlet.slot.map Transaction.number).toList

namespace Usage

/-- A stage in use has been asked to close and puts nothing out any more, or is
poised in a way that fits what its holder has. -/
inductive Steady (usage : Usage) : Prop where
  | asked (hasked : usage.Asked) (hsignal : usage.outlet.shutdown.signalled = true)
      (hfew : (usage.held ++ usage.outlet.buffered).length ≤ 1)
  | poised {standing : Standing} (hpoised : usage.running.stage.Poised usage.receipts standing)
      (hheld : usage.held = standing.held) (hunasked : ¬usage.Asked)
      (hholding : usage.holding = true)
      (hended : .received .ended ∈ usage.record → standing = .ended)

namespace Steady

variable {usage : Usage}

theorem start {stage : Stage} (hfresh : stage.IsFresh) (world : World) :
    (Usage.start stage world).Steady :=
  .poised (.of_isFresh hfresh world.receipts) rfl (by simp [Asked, Usage.start]) rfl
    (by simp [Usage.start])

theorem work (hsteady : usage.Steady) (level : Nat) : (usage.perform (.work level)).Steady := by
  rcases usage.perform_work_cases level with hsame | ⟨move, hstep, hafter⟩
  · rw [hsame]
    exact hsteady
  rw [hafter]
  cases hsteady with
  | asked hasked hsignal hfew =>
      refine .asked ((asked_note ..).mpr (.inl hasked)) ?_ ?_
      · rcases Stage.shutdown_step hstep with hshutdown | hshutdown
        · exact (congrArg Shutdown.signalled hshutdown).trans hsignal
        · exact (congrArg Shutdown.signalled hshutdown).trans hsignal
      · have hslot : move.stage.outlet.slot = usage.outlet.slot :=
          Stage.slot_step_of_signalled hsignal hstep
        simpa [Outlet.buffered, outlet, Running.after, hslot] using hfew
  | poised hpoised hheld hunasked hholding hended =>
      obtain ⟨after, hpoised, hbecomes⟩ := hpoised.step hstep
      refine .poised hpoised ?_ ?_ hholding ?_
      · cases hbecomes with
        | works hnone => exact hheld.trans hnone.symm
        | waits | ends => exact hheld
      · rw [asked_note]
        simp [hunasked]
      · intro hreceived
        obtain rfl := hended (by simpa using hreceived)
        cases hbecomes with
        | waits hnumber => simp [Standing.number?] at hnumber
        | ends => rfl

theorem receive (hsteady : usage.Steady) : (usage.perform .receive).Steady := by
  cases hholding : usage.holding with
  | false => simpa [Usage.perform, hholding] using hsteady
  | true =>
      cases hsteady with
      | asked hasked hsignal hfew =>
          have hclosing : usage.running.stage.outlet.isClosing = true :=
            Outlet.isClosing_of_signalled hsignal
          have hoffer : usage.outlet.offer = .ended := Outlet.offer_of_isClosing hclosing
          rw [perform_receive_none hholding (by rw [hoffer]; rfl)]
          refine .asked ((asked_note ..).mpr (.inl hasked)) ?_ ?_
          · simpa [outlet, Running.receive] using hsignal
          · have hlength : usage.held.length ≤ 1 := by
              rw [List.length_append] at hfew
              omega
            have htake : (usage.running.stage.outlet.take usage.running.world.receipts).1.slot =
                none := by
              rw [Outlet.take_of_isClosing hclosing]
            simpa [Outlet.buffered, outlet, Running.receive, htake] using hlength
      | @poised standing hpoised hheld hunasked _ hended =>
          have hoffer : usage.outlet.offer = standing.offer := hpoised.shows.offer_eq
          have hclosing : usage.outlet.isClosing = false := hpoised.shows.isClosing_eq
          have hslot : usage.outlet.slot = standing.slot := hpoised.shows.slot_eq
          cases standing with
          | offering transaction =>
              rw [perform_receive_some hholding hoffer]
              refine .poised hpoised.take ?_ ?_ hholding ?_
              · simp [hheld, Standing.held]
              · rw [asked_note]
                simp [hunasked]
              · intro hreceived
                exact absurd (hended (by simpa using hreceived)) (by simp)
          | working | lent number =>
              rw [KeepsUp.receive_nothing hholding hclosing hslot, hoffer]
              refine .poised hpoised hheld ?_ hholding ?_
              · rw [asked_note]
                simp [hunasked]
              · simpa [Standing.offer] using hended
          | ended =>
              rw [KeepsUp.receive_nothing hholding hclosing hslot, hoffer]
              refine .poised hpoised hheld ?_ hholding fun _ => rfl
              rw [asked_note]
              simp [hunasked]

theorem pronounce (hsteady : usage.Steady) (number : Nat) (verdict : Verdict) :
    (usage.perform (.pronounce number verdict)).Steady := by
  by_cases howed : number ∈ usage.held
  · rw [perform_pronounce verdict howed]
    cases hsteady with
    | asked hasked hsignal hfew =>
        refine .asked ((asked_note ..).mpr (.inl hasked)) hsignal ?_
        have hless := List.length_erase_le (a := number) (l := usage.held)
        simp only [List.length_append] at hfew ⊢
        exact (Nat.add_le_add_right hless _).trans hfew
    | @poised standing hpoised hheld hunasked hholding hended =>
        cases standing with
        | lent lent =>
            obtain rfl : number = lent := by simpa [hheld, Standing.held] using howed
            refine .poised (hpoised.pronounce verdict) ?_ ?_ hholding ?_
            · simp [hheld, Standing.held]
            · rw [asked_note]
              simp [hunasked]
            · intro hreceived
              exact absurd (hended (by simpa using hreceived)) (by simp)
        | working | offering _ | ended => simp [hheld, Standing.held] at howed
  · simpa [Usage.perform, howed] using hsteady

theorem few (hsteady : usage.Steady) : (usage.held ++ usage.outlet.buffered).length ≤ 1 := by
  cases hsteady with
  | asked _ _ hfew => exact hfew
  | @poised standing hpoised hheld =>
      have hslot : usage.outlet.slot = standing.slot := hpoised.shows.slot_eq
      cases standing <;> simp [Outlet.buffered, hheld, hslot, Standing.held, Standing.slot]

theorem signalled_request (hsteady : usage.Steady) :
    usage.outlet.shutdown.request.signalled = true := by
  cases hsteady with
  | asked _ hsignal => exact Shutdown.signalled_request_of_signalled hsignal
  | poised hpoised => exact Shutdown.signalled_request hpoised.shows.isPlain

theorem close (hsteady : usage.Steady) : (usage.perform .close).Steady := by
  cases hholding : usage.holding with
  | false => simpa [Usage.perform, hholding] using hsteady
  | true =>
      simp only [Usage.perform, hholding, if_true]
      refine .asked ((asked_note ..).mpr (.inr (.inl rfl))) ?_ ?_
      · simpa [outlet, Running.close] using hsteady.signalled_request
      · simpa [Outlet.buffered, outlet, Running.close, Outlet.close] using hsteady.few

theorem letGo (hsteady : usage.Steady) : (usage.perform .letGo).Steady := by
  cases hholding : usage.holding with
  | false => simpa [Usage.perform, hholding] using hsteady
  | true =>
      simp only [Usage.perform, hholding, if_true]
      refine .asked ((asked_note ..).mpr (.inr (.inr rfl))) ?_ ?_
      · simpa [outlet, Running.letGo] using hsteady.signalled_request
      · have hfew := hsteady.few
        rw [List.length_append] at hfew
        have hlength : usage.held.length ≤ 1 := by omega
        simpa [Outlet.buffered, outlet, Running.letGo, Outlet.letGo] using hlength

theorem rewrite (hsteady : usage.Steady) (disk : Disk) :
    (usage.perform (.rewrite disk)).Steady := by
  simp only [Usage.perform]
  cases hsteady with
  | asked hasked hsignal hfew => exact .asked ((asked_note ..).mpr (.inl hasked)) hsignal hfew
  | poised hpoised hheld hunasked hholding hended =>
      refine .poised hpoised hheld ?_ hholding ?_
      · rw [asked_note]
        simp [hunasked]
      · simpa using hended

theorem perform (hsteady : usage.Steady) (move : UsageMove) : (usage.perform move).Steady := by
  cases move with
  | work level => exact hsteady.work level
  | receive => exact hsteady.receive
  | pronounce number verdict => exact hsteady.pronounce number verdict
  | close => exact hsteady.close
  | letGo => exact hsteady.letGo
  | rewrite disk => exact hsteady.rewrite disk

end Steady

theorem steady_performAll {stage : Stage} (hfresh : stage.IsFresh) (world : World)
    (moves : List UsageMove) : ((Usage.start stage world).performAll moves).Steady :=
  performAll_induction (.start hfresh world) (fun _ move hsteady => hsteady.perform move) moves

end Usage

end Intake
