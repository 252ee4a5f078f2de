import Intake.Proofs.SerialReading
import Intake.Proofs.StageUsage

/-!
# A running nest keeps up with a reader

A nest of running workers that nobody asks to close stands in one of four ways
towards its holder, and in each of them there is a reader that it keeps up with.
The relation is stated level by level: where the worker of a level stands, how
the level inside stands towards it, and what reader that makes.  What lies
inside a level that is at its end no longer matters and can be anything.
-/

namespace Intake

theorem Receipt.eq_some_of_answered {verdict : Verdict} {response : Response}
    (hanswered : Receipt.open.pronounce verdict = .answered response) :
    verdict = some response := by
  cases verdict <;>
    simp_all [Receipt.pronounce, Receipt.respond, Receipt.forsake]

theorem Receipt.eq_none_of_closed {verdict : Verdict}
    (hlook : (Receipt.open.pronounce verdict).look.2 = .closed) : verdict = none := by
  cases verdict with
  | none => rfl
  | some response => simp [Receipt.pronounce, Receipt.respond, Receipt.look] at hlook

/-- How a stage stands towards its holder. -/
inductive Standing where
  /-- It hands nothing out yet. -/
  | working
  /-- A transaction lies in the outlet. -/
  | offering (transaction : Transaction)
  /-- The holder has a transaction and has not answered it. -/
  | lent (number : Nat)
  | ended

/-- Where a guard stands that waits for its input. -/
def GuardPhase.IsWaiting (phase : GuardPhase) : Prop := phase = .deciding ∨ phase = .receiving

/-- Where a guard stands that is about to stop. -/
def GuardPhase.IsLeaving (phase : GuardPhase) (exit : Exit) : Prop :=
  phase = .leaving exit ∨ phase = .closing exit ∨ phase = .stopping exit ∨
    phase = .releasing exit

/-- The outlet of a worker that has let go of it and was never asked to close. -/
def Outlet.left (closed : Bool) : Outlet := { released := true, shutdown := { closed } }

/-- A stage that stands in some way keeps up with a reader.  A reader of a stage
that offers something or has lent it has handed that message out already. -/
inductive Tracks (receipts : Receipts) : Stage → Standing → Serial → Prop where
  | pumpReady {kind : String} {phase : PumpPhase} {rest : List Message}
      (hphase : phase = .resting ∨ phase = .pulling) :
      Tracks receipts (.pump { kind, source := .listed (rest.map .ok), phase }) .working
        (.leaf rest)
  | pumpHolding {kind : String} {message : Message} {rest : List Message} :
      Tracks receipts
        (.pump { kind, source := .listed (rest.map .ok), phase := .offering message }) .working
        (.leaf (message :: rest))
  | pumpOffering {kind : String} {message : Message} {rest : List Message} {number : Nat}
      (hopen : receipts.get number = .open) :
      Tracks receipts
        (.pump
          { kind
            source := .listed (rest.map .ok)
            outlet := { slot := some ⟨number, message⟩ }
            phase := .awaiting message number })
        (.offering ⟨number, message⟩) (.leaf (message :: rest))
  | pumpLent {kind : String} {message : Message} {rest : List Message} {number : Nat}
      (hopen : receipts.get number = .open) :
      Tracks receipts
        (.pump { kind, source := .listed (rest.map .ok), phase := .awaiting message number })
        (.lent number) (.leaf (message :: rest))
  | pumpAnswered {kind : String} {message : Message} {rest : List Message} {number : Nat}
      {verdict : Verdict} (hget : receipts.get number = Receipt.open.pronounce verdict) :
      Tracks receipts
        (.pump { kind, source := .listed (rest.map .ok), phase := .awaiting message number })
        .working ((Serial.leaf (message :: rest)).answer verdict.accepts)
  | pumpLeaving {kind : String} {source : Source} :
      Tracks receipts (.pump { kind, source, phase := .leaving }) .working (.leaf [])
  | pumpEnded {kind : String} {source : Source} {closed : Bool} {phase : PumpPhase}
      (hphase : phase = .confirming ∨ phase = .finished) :
      Tracks receipts (.pump { kind, source, outlet := .left closed, phase }) .ended (.leaf [])
  | reading {input : InputConfig} {restart met : Bool} {condition : Condition}
      {phase : GuardPhase} {wrapped : Stage} {inside : Serial}
      (hinput : (Serial.ofConfig input).isSome) (hphase : phase = .starting ∨ phase.IsWaiting)
      (hwrapped : Tracks receipts wrapped .working inside) :
      Tracks receipts (.guard { input, restart, condition, phase } wrapped) .working
        (.level input restart condition met inside)
  | readingOffer {input : InputConfig} {restart met : Bool} {condition : Condition}
      {phase : GuardPhase} {wrapped : Stage} {before inside : Serial}
      {transaction : Transaction} (hinput : (Serial.ofConfig input).isSome)
      (hphase : phase = .starting ∨ phase.IsWaiting)
      (hnext : before.next = .emits transaction.payload inside)
      (hwrapped : Tracks receipts wrapped (.offering transaction) inside) :
      Tracks receipts (.guard { input, restart, condition, phase } wrapped) .working
        (.level input restart condition met before)
  | readingEnd {input : InputConfig} {restart met : Bool} {condition : Condition}
      {phase : GuardPhase} {wrapped : Stage} {inside : Serial}
      (hinput : (Serial.ofConfig input).isSome) (hphase : phase = .starting ∨ phase.IsWaiting)
      (hwrapped : Tracks receipts wrapped .ended inside) :
      Tracks receipts (.guard { input, restart, condition, phase } wrapped) .working
        (.level input restart condition met inside)
  | bereft {input : InputConfig} {restart met : Bool} {condition : Condition}
      {wrapped : Stage} {inside : Serial} (hinput : (Serial.ofConfig input).isSome)
      (hnext : inside.next = .ends) :
      Tracks receipts
        (.guard { input, restart, condition, current := false, phase := .deciding } wrapped)
        .working (.level input restart condition met inside)
  | holding {input : InputConfig} {restart met : Bool} {asked : Condition}
      {wrapped : Stage} {before inside : Serial} {transaction : Transaction}
      (hinput : (Serial.ofConfig input).isSome)
      (hnext : before.next = .emits transaction.payload inside)
      (hwrapped : Tracks receipts wrapped (.lent transaction.number) inside) :
      Tracks receipts
        (.guard
          { input
            restart
            condition := (asked.check transaction.payload).2
            phase :=
              if (asked.check transaction.payload).1 then .intercepting transaction
              else .forwarding transaction }
          wrapped)
        .working (.level input restart asked met before)
  | forwarded {input : InputConfig} {restart : Bool} {condition : Condition}
      {phase : GuardPhase} {wrapped : Stage} {inside : Serial} {transaction : Transaction}
      (hinput : (Serial.ofConfig input).isSome) (hphase : phase.IsWaiting)
      (hwrapped : Tracks receipts wrapped (.lent transaction.number) inside) :
      Tracks receipts
        (.guard { input, restart, condition, outlet := { slot := some transaction }, phase }
          wrapped)
        (.offering transaction) (.level input restart condition false inside)
  | forwardedLent {input : InputConfig} {restart : Bool} {condition : Condition}
      {phase : GuardPhase} {wrapped : Stage} {inside : Serial} {number : Nat}
      (hinput : (Serial.ofConfig input).isSome) (hphase : phase.IsWaiting)
      (hwrapped : Tracks receipts wrapped (.lent number) inside) :
      Tracks receipts (.guard { input, restart, condition, phase } wrapped) (.lent number)
        (.level input restart condition false inside)
  | intercepted {input : InputConfig} {restart : Bool} {condition : Condition}
      {wrapped : Stage} {inside : Serial} {candidate : Nat} {transaction : Transaction}
      (hinput : (Serial.ofConfig input).isSome) (hlater : candidate < transaction.number)
      (hopen : receipts.get transaction.number = .open)
      (hwrapped : Tracks receipts wrapped (.lent candidate) inside) :
      Tracks receipts
        (.guard
          { input
            restart
            condition
            outlet := { slot := some transaction }
            phase := .awaiting candidate transaction.number }
          wrapped)
        (.offering transaction) (.level input restart condition true inside)
  | interceptedLent {input : InputConfig} {restart : Bool} {condition : Condition}
      {wrapped : Stage} {inside : Serial} {candidate number : Nat}
      (hinput : (Serial.ofConfig input).isSome) (hlater : candidate < number)
      (hopen : receipts.get number = .open)
      (hwrapped : Tracks receipts wrapped (.lent candidate) inside) :
      Tracks receipts
        (.guard { input, restart, condition, phase := .awaiting candidate number } wrapped)
        (.lent number) (.level input restart condition true inside)
  | answered {input : InputConfig} {restart : Bool} {condition : Condition}
      {wrapped : Stage} {inside : Serial} {candidate number : Nat} {verdict : Verdict}
      (hinput : (Serial.ofConfig input).isSome) (hlater : candidate < number)
      (hget : receipts.get number = Receipt.open.pronounce verdict)
      (hwrapped : Tracks receipts wrapped (.lent candidate) inside) :
      Tracks receipts
        (.guard { input, restart, condition, phase := .awaiting candidate number } wrapped)
        .working ((Serial.level input restart condition true inside).answer verdict.accepts)
  | leaving {input : InputConfig} {restart current : Bool} {condition : Condition}
      {phase : GuardPhase} {exit : Exit} {wrapped : Stage} {serial : Serial}
      (hphase : phase.IsLeaving exit) (hnext : serial.next = .ends) :
      Tracks receipts (.guard { input, restart, condition, current, phase } wrapped) .working
        serial
  | ended {input : InputConfig} {restart current closed : Bool} {condition : Condition}
      {phase : GuardPhase} {exit : Exit} {wrapped : Stage} {serial : Serial}
      (hphase : phase = .confirming exit ∨ phase = .finished exit)
      (hnext : serial.next = .ends) :
      Tracks receipts
        (.guard { input, restart, condition, current, outlet := .left closed, phase } wrapped)
        .ended serial

namespace Tracks

section Outlets

variable {receipts : Receipts} {stage : Stage} {serial : Serial}

theorem outlet_working (htracks : Tracks receipts stage .working serial) :
    stage.outlet = {} := by
  cases htracks <;> rfl

theorem outlet_lent {number : Nat} (htracks : Tracks receipts stage (.lent number) serial) :
    stage.outlet = {} := by
  cases htracks <;> rfl

theorem outlet_offering {transaction : Transaction}
    (htracks : Tracks receipts stage (.offering transaction) serial) :
    stage.outlet = { slot := some transaction } := by
  cases htracks <;> rfl

theorem outlet_ended (htracks : Tracks receipts stage .ended serial) :
    ∃ closed, stage.outlet = .left closed := by
  cases htracks <;> exact ⟨_, rfl⟩

theorem offer_working (htracks : Tracks receipts stage .working serial) (disk : Disk)
    (input : InputConfig) : (stage.sight disk input).offer = .pending := by
  simp [Stage.sight, htracks.outlet_working, Outlet.offer, Outlet.isClosing]

theorem offer_lent {number : Nat} (htracks : Tracks receipts stage (.lent number) serial)
    (disk : Disk) (input : InputConfig) : (stage.sight disk input).offer = .pending := by
  simp [Stage.sight, htracks.outlet_lent, Outlet.offer, Outlet.isClosing]

theorem offer_offering {transaction : Transaction}
    (htracks : Tracks receipts stage (.offering transaction) serial) (disk : Disk)
    (input : InputConfig) : (stage.sight disk input).offer = .transaction transaction := by
  simp [Stage.sight, htracks.outlet_offering, Outlet.offer, Outlet.isClosing]

theorem offer_ended (htracks : Tracks receipts stage .ended serial) (disk : Disk)
    (input : InputConfig) : (stage.sight disk input).offer = .ended := by
  obtain ⟨closed, houtlet⟩ := htracks.outlet_ended
  simp [Stage.sight, houtlet, Outlet.left, Outlet.offer, Outlet.isClosing]

theorem next_ended (htracks : Tracks receipts stage .ended serial) : serial.next = .ends := by
  cases htracks with
  | pumpEnded => rfl
  | ended _ hnext => exact hnext

theorem get_lent {number : Nat} (htracks : Tracks receipts stage (.lent number) serial) :
    receipts.get number = .open := by
  induction stage generalizing serial with
  | pump leaf =>
      cases htracks with
      | pumpLent hopen => exact hopen
  | guard head wrapped ih =>
      cases htracks with
      | forwardedLent _ _ hwrapped => exact ih hwrapped
      | interceptedLent _ _ hopen => exact hopen

theorem lt_next_lent {number : Nat} (htracks : Tracks receipts stage (.lent number) serial) :
    number < receipts.next := by
  apply receipts.lt_next_of_get_ne
  rw [htracks.get_lent]
  simp

/-- Numbers grow outward, so what is lent depends on no receipt after its own. -/
theorem congr_lent {number : Nat} (htracks : Tracks receipts stage (.lent number) serial)
    {other : Receipts}
    (hsame : ∀ earlier, earlier ≤ number → other.get earlier = receipts.get earlier) :
    Tracks other stage (.lent number) serial := by
  induction stage generalizing serial number with
  | pump leaf =>
      cases htracks with
      | pumpLent hopen => exact .pumpLent ((hsame number (Nat.le_refl _)).trans hopen)
  | guard head wrapped ih =>
      cases htracks with
      | forwardedLent hinput hphase hwrapped =>
          exact .forwardedLent hinput hphase (ih hwrapped hsame)
      | interceptedLent hinput hlater hopen hwrapped =>
          refine .interceptedLent hinput hlater ((hsame number (Nat.le_refl _)).trans hopen) ?_
          exact ih hwrapped fun earlier hearlier =>
            hsame earlier (hearlier.trans (Nat.le_of_lt hlater))

theorem take_offering {transaction : Transaction}
    (htracks : Tracks receipts stage (.offering transaction) serial) :
    (stage.take receipts).2 = receipts ∧
      Tracks receipts (stage.take receipts).1 (.lent transaction.number) serial := by
  cases htracks with
  | pumpOffering hopen => exact ⟨rfl, .pumpLent hopen⟩
  | forwarded hinput hphase hwrapped => exact ⟨rfl, .forwardedLent hinput hphase hwrapped⟩
  | intercepted hinput hlater hopen hwrapped =>
      exact ⟨rfl, .interceptedLent hinput hlater hopen hwrapped⟩

theorem pronounce_lent {number : Nat} (htracks : Tracks receipts stage (.lent number) serial)
    (verdict : Verdict) :
    Tracks (receipts.pronounce number verdict) stage .working
      (serial.answer verdict.accepts) := by
  have hget : (receipts.pronounce number verdict).get number =
      Receipt.open.pronounce verdict := by
    rw [receipts.get_pronounce, if_pos rfl, htracks.get_lent]
  induction stage generalizing serial with
  | pump leaf =>
      cases htracks with
      | pumpLent hopen => exact .pumpAnswered hget
  | guard head wrapped ih =>
      cases htracks with
      | forwardedLent hinput hphase hwrapped =>
          have hinside := ih hwrapped
          simpa [Serial.answer] using Tracks.reading hinput (.inr hphase) hinside
      | interceptedLent hinput hlater hopen hwrapped =>
          -- what is lent inside has an earlier number, which the verdict leaves alone
          refine .answered hinput hlater hget (hwrapped.congr_lent ?_)
          intro earlier hearlier
          rw [receipts.get_pronounce, if_neg (by omega)]

end Outlets

/-! ## Steps while the holder has something -/

section Quiet

variable {world : World} {stage : Stage} {serial : Serial} {level : Nat} {move : StageMove}

theorem pump_waits {pump : Pump} {message : Message} {number : Nat}
    (hstep : Stage.step world level (.pump pump) = some move)
    (hphase : pump.phase = .awaiting message number)
    (hsignal : pump.outlet.shutdown.signalled = false)
    (hopen : world.receipts.get number = .open) : False := by
  cases level with
  | zero =>
      obtain ⟨step, hpump, _⟩ := Stage.step_zero_pump hstep
      cases Pump.stepCase_of_step hpump <;> simp_all [Receipt.look]
  | succ level => simp [Stage.step_succ_pump] at hstep

theorem guard_waits {σ : Type} {sight : Sight σ} {receipts : Receipts} {guard : Guard}
    {step : GuardMove σ} {candidate number : Nat}
    (hstep : guard.step sight receipts = some step)
    (hphase : guard.phase = .awaiting candidate number)
    (hsignal : guard.outlet.shutdown.signalled = false)
    (hopen : receipts.get number = .open) : False := by
  cases Guard.stepCase_of_step hstep <;> simp_all [Receipt.look]

/-- A guard that waits for an input that offers nothing can only turn to it. -/
theorem guard_step_waiting {σ : Type} {sight : Sight σ} {receipts : Receipts} {guard : Guard}
    {step : GuardMove σ} (hphase : guard.phase.IsWaiting)
    (hshutdown : guard.outlet.shutdown = {}) (hcurrent : guard.current = true)
    (hoffer : sight.offer = .pending) (hstep : guard.step sight receipts = some step) :
    step = { event := .looked, guard := guard.enter .receiving, receipts } := by
  cases Guard.stepCase_of_step hstep <;>
    simp_all [GuardPhase.IsWaiting]

/-- While the holder has a transaction, no receipt changes inside. -/
theorem step_lent {number : Nat}
    (htracks : Tracks world.receipts stage (.lent number) serial)
    (hstep : stage.step world level = some move) :
    move.receipts = world.receipts ∧
      Tracks world.receipts move.stage (.lent number) serial := by
  -- inside, each worker waits for an open receipt or for an input that offers nothing
  induction stage generalizing serial number level move with
  | pump leaf =>
      cases htracks with
      | pumpLent hopen => exact (pump_waits hstep rfl rfl hopen).elim
  | guard head wrapped ih =>
      cases level with
      | zero =>
          obtain ⟨step, hguard, rfl⟩ := Stage.step_zero_guard hstep
          cases htracks with
          | forwardedLent hinput hphase hwrapped =>
              have hoffer := hwrapped.offer_lent world.disk
              obtain rfl := guard_step_waiting hphase rfl rfl (hoffer _) hguard
              exact ⟨rfl, .forwardedLent hinput (.inr rfl) hwrapped⟩
          | interceptedLent _ _ hopen => exact (guard_waits hguard rfl rfl hopen).elim
      | succ level =>
          obtain ⟨inner, hinner, rfl⟩ := Stage.step_succ_guard hstep
          cases htracks with
          | forwardedLent hinput hphase hwrapped =>
              obtain ⟨hreceipts, hinside⟩ := ih hwrapped hinner
              exact ⟨hreceipts, .forwardedLent hinput hphase hinside⟩
          | interceptedLent hinput hlater hopen hwrapped =>
              obtain ⟨hreceipts, hinside⟩ := ih hwrapped hinner
              exact ⟨hreceipts, .interceptedLent hinput hlater hopen hinside⟩

/-- While a transaction lies in the outlet, no receipt changes inside. -/
theorem step_offering {transaction : Transaction}
    (htracks : Tracks world.receipts stage (.offering transaction) serial)
    (hstep : stage.step world level = some move) :
    move.receipts = world.receipts ∧
      Tracks world.receipts move.stage (.offering transaction) serial := by
  cases htracks with
  | pumpOffering hopen => exact (pump_waits hstep rfl rfl hopen).elim
  | forwarded hinput hphase hwrapped =>
      cases level with
      | zero =>
          obtain ⟨step, hguard, rfl⟩ := Stage.step_zero_guard hstep
          have hoffer := hwrapped.offer_lent world.disk
          obtain rfl := guard_step_waiting hphase rfl rfl (hoffer _) hguard
          exact ⟨rfl, .forwarded hinput (.inr rfl) hwrapped⟩
      | succ level =>
          obtain ⟨inner, hinner, rfl⟩ := Stage.step_succ_guard hstep
          obtain ⟨hreceipts, hinside⟩ := hwrapped.step_lent hinner
          exact ⟨hreceipts, .forwarded hinput hphase hinside⟩
  | intercepted hinput hlater hopen hwrapped =>
      cases level with
      | zero =>
          obtain ⟨step, hguard, rfl⟩ := Stage.step_zero_guard hstep
          exact (guard_waits hguard rfl rfl hopen).elim
      | succ level =>
          obtain ⟨inner, hinner, rfl⟩ := Stage.step_succ_guard hstep
          obtain ⟨hreceipts, hinside⟩ := hwrapped.step_lent hinner
          exact ⟨hreceipts, .intercepted hinput hlater hopen hinside⟩

theorem step_ended (htracks : Tracks world.receipts stage .ended serial)
    (hstep : stage.step world level = some move) :
    Tracks move.receipts move.stage .ended serial := by
  cases htracks with
  | pumpEnded hphase =>
      cases level with
      | zero =>
          obtain ⟨step, hpump, rfl⟩ := Stage.step_zero_pump hstep
          cases Pump.stepCase_of_step hpump <;> simp_all
          exact .pumpEnded (.inr rfl)
      | succ level => simp [Stage.step_succ_pump] at hstep
  | ended hphase hnext =>
      cases level with
      | zero =>
          obtain ⟨step, hguard, rfl⟩ := Stage.step_zero_guard hstep
          cases Guard.stepCase_of_step hguard <;> simp_all
          exact .ended (.inr rfl) hnext
      | succ level =>
          obtain ⟨inner, hinner, rfl⟩ := Stage.step_succ_guard hstep
          exact .ended hphase hnext

end Quiet

/-! ## Building -/

/-- What is built from a configuration keeps up with the reader of it. -/
theorem build (disk : Disk) {config : InputConfig} {serial : Serial}
    (hconfig : Serial.ofConfig config = some serial) :
    ∃ stage, Stage.build disk true config = .ok stage ∧
      ∀ receipts, Tracks receipts stage .working serial := by
  fun_induction Serial.ofConfig config generalizing serial with
  | case1 messages =>
      simp only [Option.some.injEq] at hconfig
      subst serial
      refine ⟨_, rfl, fun receipts => ?_⟩
      have hitems : messages.map (fun text =>
            (.ok (.single (Utf8.encode text)) : Except IoError Message)) =
          (messages.map fun text => Message.single (Utf8.encode text)).map .ok := by
        simp
      rw [hitems]
      exact .pumpReady (.inl rfl)
  | case2 input restart condition inside built hbuilt hinput ih =>
      simp only [Option.some.injEq] at hconfig
      subst serial
      obtain ⟨wrapped, hwrapped, htracks⟩ := ih hinput
      refine ⟨.guard { input, restart, condition := built } wrapped, ?_, fun receipts => ?_⟩
      · simp [Stage.build, hwrapped, hbuilt]
      · exact .reading (by simp [hinput]) (.inl rfl) (htracks receipts)
  | _ => simp at hconfig

end Tracks

/-- What becomes of a stage that was working when one of its workers takes a
step, as its reader sees it. -/
inductive Advance (receipts : Receipts) (stage : Stage) (serial : Serial) : Prop where
  | still (htracks : Tracks receipts stage .working serial)
  | rebuilt {after : Serial} (hnext : serial.next = .rebuilds after)
      (htracks : Tracks receipts stage .working after)
  | offers {transaction : Transaction} {after : Serial}
      (hnext : serial.next = .emits transaction.payload after)
      (htracks : Tracks receipts stage (.offering transaction) after)
  | ends (htracks : Tracks receipts stage .ended serial)

namespace Tracks

/-! ## Steps of a pump that is working -/

section Pumps

variable {world : World} {kind : String} {rest : List Message} {message : Message}
  {number level : Nat} {move : StageMove}

theorem step_pumpReady {phase : PumpPhase} (hphase : phase = .resting ∨ phase = .pulling)
    (hstep : Stage.step world level
      (.pump { kind, source := .listed (rest.map .ok), phase }) = some move) :
    Advance move.receipts move.stage (.leaf rest) := by
  cases level with
  | succ level => simp [Stage.step_succ_pump] at hstep
  | zero =>
      obtain ⟨step, hpump, rfl⟩ := Stage.step_zero_pump hstep
      cases Pump.stepCase_of_step hpump with
      | turnToSource => exact .still (.pumpReady (.inr rfl))
      | turnAway _ hclosing => simp at hclosing
      | readOn _ hpull | failed _ hpull =>
          cases rest <;> simp [Source.pull] at hpull
      | ended _ hpull =>
          cases rest with
          | nil => exact .still .pumpLeaving
          | cons first others => simp [Source.pull] at hpull
      | pulled _ hpull =>
          cases rest with
          | nil => simp [Source.pull] at hpull
          | cons first others =>
              simp only [List.map_cons, Source.pull, Prod.mk.injEq, Pulled.message.injEq]
                at hpull
              obtain ⟨rfl, rfl, rfl⟩ := hpull
              exact .still .pumpHolding
      | _ => simp_all

theorem step_pumpHolding
    (hstep : Stage.step world level
      (.pump { kind, source := .listed (rest.map .ok), phase := .offering message }) =
        some move) :
    Advance move.receipts move.stage (.leaf (message :: rest)) := by
  cases level with
  | succ level => simp [Stage.step_succ_pump] at hstep
  | zero =>
      obtain ⟨step, hpump, rfl⟩ := Stage.step_zero_pump hstep
      cases Pump.stepCase_of_step hpump with
      | giveUp _ hclosing => simp at hclosing
      | sent hphase =>
          cases hphase
          have hopen := world.receipts.get_issue_next
          exact .offers (by rfl) (.pumpOffering hopen)
      | _ => simp_all

theorem step_pumpAnswered {verdict : Verdict}
    (hget : world.receipts.get number = Receipt.open.pronounce verdict)
    (hstep : Stage.step world level
      (.pump { kind, source := .listed (rest.map .ok), phase := .awaiting message number }) =
        some move) :
    Advance move.receipts move.stage
      ((Serial.leaf (message :: rest)).answer verdict.accepts) := by
  cases level with
  | succ level => simp [Stage.step_succ_pump] at hstep
  | zero =>
      obtain ⟨step, hpump, rfl⟩ := Stage.step_zero_pump hstep
      cases Pump.stepCase_of_step hpump with
      | withdrew _ hclosing => simp at hclosing
      | acknowledged hphase _ hanswered hack =>
          cases hphase
          obtain rfl := Receipt.eq_some_of_answered (hget.symm.trans hanswered)
          rw [Verdict.accepts_some, hack]
          exact .still (.pumpReady (.inl rfl))
      | rejected hphase _ hanswered hnack =>
          cases hphase
          obtain rfl := Receipt.eq_some_of_answered (hget.symm.trans hanswered)
          rw [Verdict.accepts_some, hnack, Serial.answer_false]
          exact .still .pumpHolding
      | dropped hphase _ hlook =>
          cases hphase
          rw [hget] at hlook
          obtain rfl := Receipt.eq_none_of_closed hlook
          rw [Verdict.accepts_none, Serial.answer_false]
          exact .still .pumpHolding
      | _ => simp_all

theorem step_pumpLeaving {source : Source}
    (hstep : Stage.step world level (.pump { kind, source, phase := .leaving }) = some move) :
    Advance move.receipts move.stage (.leaf []) := by
  cases level with
  | succ level => simp [Stage.step_succ_pump] at hstep
  | zero =>
      obtain ⟨step, hpump, rfl⟩ := Stage.step_zero_pump hstep
      cases Pump.stepCase_of_step hpump with
      | released => exact .ends (.pumpEnded (.inl rfl))
      | _ => simp_all

end Pumps

/-! ## Steps of a guard that is working -/

/-- What a guard can do that reads from its input. -/
theorem guard_step_reading {σ : Type} {sight : Sight σ} {receipts : Receipts} {guard : Guard}
    {step : GuardMove σ} (hphase : guard.phase = .starting ∨ guard.phase.IsWaiting)
    (houtlet : guard.outlet = {}) (hcurrent : guard.current = true)
    (hstep : guard.step sight receipts = some step) :
    (∃ event phase, phase.IsWaiting ∧ step = { event, guard := guard.enter phase, receipts }) ∨
      (∃ event, sight.offer = .ended ∧
        step =
          { event, guard := { guard with current := false, phase := .deciding }, receipts,
            demand := .letGo }) ∨
        ∃ event transaction, sight.offer = .transaction transaction ∧
          step =
            { event,
              guard := { guard with
                condition := (guard.condition.check transaction.payload).2
                phase :=
                  if (guard.condition.check transaction.payload).1 then .intercepting transaction
                  else .forwarding transaction },
              receipts, demand := .take } := by
  cases Guard.stepCase_of_step hstep with
  | started => exact .inl ⟨_, .deciding, .inl rfl, rfl⟩
  | turnToInput => exact .inl ⟨_, .receiving, .inr rfl, rfl⟩
  | inputEnded _ _ hoffer => exact .inr (.inl ⟨_, hoffer, rfl⟩)
  | received _ _ hoffer hmet => exact .inr (.inr ⟨_, _, hoffer, by rw [hmet]; rfl⟩)
  | receivedCandidate _ _ hoffer hmet => exact .inr (.inr ⟨_, _, hoffer, by rw [hmet]; rfl⟩)
  | _ => simp_all [GuardPhase.IsWaiting]

section Guards

variable {world : World} {input : InputConfig} {restart met : Bool} {condition : Condition}
  {phase : GuardPhase} {wrapped : Stage} {before inside : Serial} {transaction : Transaction}
  {step : GuardMove Stage} {candidate number : Nat}

/-- A level is still working whatever the level inside comes to. -/
theorem advance_inside {receipts : Receipts} (hinput : (Serial.ofConfig input).isSome)
    (hphase : phase = .starting ∨ phase.IsWaiting)
    (hadvance : Advance receipts wrapped inside) :
    Advance receipts (.guard { input, restart, condition, phase } wrapped)
      (.level input restart condition met inside) := by
  cases hadvance with
  | still hwrapped => exact .still (.reading hinput hphase hwrapped)
  | @rebuilt after hnext hwrapped =>
      have hrebuilds : (Serial.level input restart condition met inside).next =
          .rebuilds (.level input restart condition met after) := by
        simp [Serial.next, hnext]
      exact .rebuilt hrebuilds (.reading hinput hphase hwrapped)
  | offers hnext hwrapped => exact .still (.readingOffer hinput hphase hnext hwrapped)
  | ends hwrapped => exact .still (.readingEnd hinput hphase hwrapped)

theorem step_reading (hinput : (Serial.ofConfig input).isSome)
    (hphase : phase = .starting ∨ phase.IsWaiting)
    (hwrapped : Tracks world.receipts wrapped .working inside)
    (hstep : Guard.step (wrapped.sight world.disk input) world.receipts
      { input, restart, condition, phase } = some step) :
    Advance (wrapped.obey step.receipts step.demand).2
      (.guard step.guard (wrapped.obey step.receipts step.demand).1)
      (.level input restart condition met inside) := by
  have hoffer := hwrapped.offer_working world.disk input
  obtain ⟨event, next, hnext, rfl⟩ | ⟨event, hend, _⟩ | ⟨event, other, hother, _⟩ :=
    guard_step_reading hphase rfl rfl hstep
  · exact .still (.reading hinput (.inr hnext) hwrapped)
  · simp [hoffer] at hend
  · simp [hoffer] at hother

theorem step_readingOffer (hinput : (Serial.ofConfig input).isSome)
    (hphase : phase = .starting ∨ phase.IsWaiting)
    (hnext : before.next = .emits transaction.payload inside)
    (hwrapped : Tracks world.receipts wrapped (.offering transaction) inside)
    (hstep : Guard.step (wrapped.sight world.disk input) world.receipts
      { input, restart, condition, phase } = some step) :
    Advance (wrapped.obey step.receipts step.demand).2
      (.guard step.guard (wrapped.obey step.receipts step.demand).1)
      (.level input restart condition met before) := by
  have hoffer := hwrapped.offer_offering world.disk input
  obtain ⟨event, next, hwaiting, rfl⟩ | ⟨event, hend, _⟩ | ⟨event, other, hother, rfl⟩ :=
    guard_step_reading hphase rfl rfl hstep
  · exact .still (.readingOffer hinput (.inr hwaiting) hnext hwrapped)
  · simp [hoffer] at hend
  · obtain rfl : transaction = other := by simpa [hoffer] using hother
    obtain ⟨hreceipts, htaken⟩ := hwrapped.take_offering
    apply Advance.still
    simp only [Stage.obey, hreceipts]
    exact .holding hinput hnext htaken

theorem step_readingEnd (hinput : (Serial.ofConfig input).isSome)
    (hphase : phase = .starting ∨ phase.IsWaiting)
    (hwrapped : Tracks world.receipts wrapped .ended inside)
    (hstep : Guard.step (wrapped.sight world.disk input) world.receipts
      { input, restart, condition, phase } = some step) :
    Advance (wrapped.obey step.receipts step.demand).2
      (.guard step.guard (wrapped.obey step.receipts step.demand).1)
      (.level input restart condition met inside) := by
  have hoffer := hwrapped.offer_ended world.disk input
  obtain ⟨event, next, hwaiting, rfl⟩ | ⟨event, _, rfl⟩ | ⟨event, other, hother, _⟩ :=
    guard_step_reading hphase rfl rfl hstep
  · exact .still (.readingEnd hinput (.inr hwaiting) hwrapped)
  · exact .still (.bereft hinput hwrapped.next_ended)
  · simp [hoffer] at hother

/-- A guard without an input starts it afresh, or is at its end. -/
theorem step_bereft (hinput : (Serial.ofConfig input).isSome) (hnext : inside.next = .ends)
    (hstep : Guard.step (wrapped.sight world.disk input) world.receipts
      { input, restart, condition, current := false, phase := .deciding } = some step) :
    Advance (wrapped.obey step.receipts step.demand).2
      (.guard step.guard (wrapped.obey step.receipts step.demand).1)
      (.level input restart condition met inside) := by
  obtain ⟨fresh, hfresh⟩ := Option.isSome_iff_exists.mp hinput
  obtain ⟨stage, hbuilt, htracks⟩ := Tracks.build world.disk hfresh
  have hrebuild : (wrapped.sight world.disk input).rebuild () = .ok stage := by
    simp [Stage.sight, hbuilt, Except.mapError]
  cases Guard.stepCase_of_step hstep with
  | stopDeciding _ hclosing => simp at hclosing
  | turnToInput _ _ hcurrent => simp at hcurrent
  | exhausted _ _ _ hrestart =>
      obtain rfl : restart = false := hrestart
      exact .still (.leaving (.inl rfl) (by simp [Serial.next, hnext]))
  | rebuilt _ _ _ hrestart hbuild =>
      obtain rfl : restart = true := hrestart
      obtain rfl : stage = _ := by simpa [hrebuild] using hbuild
      have hrebuilds : (Serial.level input true condition met inside).next =
          .rebuilds (.level input true condition met fresh) := by
        simp [Serial.next, hnext, hfresh]
      exact .rebuilt hrebuilds (.reading hinput (.inr (.inr rfl)) (htracks _))
  | rebuildFailed _ _ _ _ hbuild => simp [hrebuild] at hbuild
  | _ => simp_all

theorem step_holding (hinput : (Serial.ofConfig input).isSome)
    (hnext : before.next = .emits transaction.payload inside)
    (hwrapped : Tracks world.receipts wrapped (.lent transaction.number) inside)
    (hstep : Guard.step (wrapped.sight world.disk input) world.receipts
      { input
        restart
        condition := (condition.check transaction.payload).2
        phase :=
          if (condition.check transaction.payload).1 then .intercepting transaction
          else .forwarding transaction } = some step) :
    Advance (wrapped.obey step.receipts step.demand).2
      (.guard step.guard (wrapped.obey step.receipts step.demand).1)
      (.level input restart condition met before) := by
  have hemits : (Serial.level input restart condition met before).next =
      .emits transaction.payload
        (.level input restart (condition.check transaction.payload).2
          (condition.check transaction.payload).1 inside) := by
    simp [Serial.next, hnext]
  cases hcheck : (condition.check transaction.payload).1 with
  | false =>
      rw [hcheck] at hstep hemits
      cases Guard.stepCase_of_step hstep with
      | giveUpForwarding _ hexit => simp [Guard.obstacle?] at hexit
      | forwarded hphase =>
          cases hphase
          exact .offers hemits (.forwarded hinput (.inl rfl) hwrapped)
      | _ => simp_all
  | true =>
      rw [hcheck] at hstep hemits
      cases Guard.stepCase_of_step hstep with
      | giveUpIntercepting _ hexit => simp [Guard.obstacle?] at hexit
      | intercepted hphase =>
          cases hphase
          have hlater := hwrapped.lt_next_lent
          have hlent : Tracks world.receipts.issue wrapped (.lent transaction.number) inside :=
            hwrapped.congr_lent fun earlier hle =>
              world.receipts.get_issue_of_lt (Nat.lt_of_le_of_lt hle hlater)
          exact @Advance.offers _ _ _ ⟨world.receipts.next, transaction.payload⟩ _ hemits
            (.intercepted hinput hlater world.receipts.get_issue_next hlent)
      | _ => simp_all

/-- A guard passes the answer back, and is at its end if it was accepted. -/
theorem step_answered (hinput : (Serial.ofConfig input).isSome)
    (hlater : candidate < number) {verdict : Verdict}
    (hget : world.receipts.get number = Receipt.open.pronounce verdict)
    (hwrapped : Tracks world.receipts wrapped (.lent candidate) inside)
    (hstep : Guard.step (wrapped.sight world.disk input) world.receipts
      { input, restart, condition, phase := .awaiting candidate number } = some step) :
    Advance (wrapped.obey step.receipts step.demand).2
      (.guard step.guard (wrapped.obey step.receipts step.demand).1)
      ((Serial.level input restart condition true inside).answer verdict.accepts) := by
  have hlook : Tracks (world.receipts.look number).2 wrapped (.lent candidate) inside := by
    apply hwrapped.congr_lent
    intro earlier hearlier
    rw [world.receipts.get_look, if_neg (by omega)]
  cases Guard.stepCase_of_step hstep with
  | giveUpAwaiting _ hclosing => simp at hclosing
  | accepted hphase _ hanswered hack =>
      cases hphase
      obtain rfl := Receipt.eq_some_of_answered (hget.symm.trans hanswered)
      exact .still (.leaving (.inl rfl) (by simp [Serial.answer, hack, Serial.next]))
  | @rejected _ _ response hphase _ hanswered hnack =>
      cases hphase
      obtain rfl := Receipt.eq_some_of_answered (hget.symm.trans hanswered)
      have hworking := hlook.pronounce_lent (some response)
      rw [Verdict.accepts_some, hnack, Serial.answer_false] at hworking
      rw [Verdict.accepts_some, hnack, Serial.answer_false]
      exact .still (.reading hinput (.inr (.inl rfl)) hworking)
  | dropped hphase _ hclosed =>
      cases hphase
      rw [hget] at hclosed
      obtain rfl := Receipt.eq_none_of_closed hclosed
      have hworking := hlook.pronounce_lent (some (.nack droppedCause))
      rw [Verdict.accepts_some, Response.isAck_nack, Serial.answer_false] at hworking
      rw [Verdict.accepts_none, Serial.answer_false]
      exact .still (.reading hinput (.inr (.inl rfl)) hworking)
  | _ => simp_all

theorem step_leaving {current : Bool} {exit : Exit} {serial : Serial}
    (hphase : phase.IsLeaving exit) (hnext : serial.next = .ends)
    (hstep : Guard.step (wrapped.sight world.disk input) world.receipts
      { input, restart, condition, current, phase } = some step) :
    Advance (wrapped.obey step.receipts step.demand).2
      (.guard step.guard (wrapped.obey step.receipts step.demand).1) serial := by
  cases Guard.stepCase_of_step hstep with
  | askedToClose | leftAlone | inputClosed | stopped =>
      exact .still (.leaving (by simp [GuardPhase.IsLeaving]; rfl) hnext)
  | released => exact .ends (.ended (.inl rfl) hnext)
  | _ => simp_all [GuardPhase.IsLeaving]

end Guards

/-- Every step of every worker is a step of the reader, or none at all. -/
theorem step_working {world : World} {stage : Stage} {serial : Serial} {level : Nat}
    {move : StageMove} (htracks : Tracks world.receipts stage .working serial)
    (hstep : stage.step world level = some move) :
    Advance move.receipts move.stage serial := by
  induction stage generalizing serial level move with
  | pump leaf =>
      cases htracks with
      | pumpReady hphase => exact step_pumpReady hphase hstep
      | pumpHolding => exact step_pumpHolding hstep
      | pumpAnswered hget => exact step_pumpAnswered hget hstep
      | pumpLeaving => exact step_pumpLeaving hstep
  | guard head wrapped ih =>
      cases level with
      | zero =>
          obtain ⟨step, hguard, rfl⟩ := Stage.step_zero_guard hstep
          cases htracks with
          | reading hinput hphase hwrapped => exact step_reading hinput hphase hwrapped hguard
          | readingOffer hinput hphase hnext hwrapped =>
              exact step_readingOffer hinput hphase hnext hwrapped hguard
          | readingEnd hinput hphase hwrapped =>
              exact step_readingEnd hinput hphase hwrapped hguard
          | bereft hinput hnext => exact step_bereft hinput hnext hguard
          | holding hinput hnext hwrapped => exact step_holding hinput hnext hwrapped hguard
          | answered hinput hlater hget hwrapped =>
              exact step_answered hinput hlater hget hwrapped hguard
          | leaving hphase hnext => exact step_leaving hphase hnext hguard
      | succ level =>
          obtain ⟨inner, hinner, rfl⟩ := Stage.step_succ_guard hstep
          cases htracks with
          -- only an inside that is working can change what this level is about
          | reading hinput hphase hwrapped =>
              exact advance_inside hinput hphase (ih hwrapped hinner)
          | readingOffer hinput hphase hnext hwrapped =>
              obtain ⟨hreceipts, hinside⟩ := hwrapped.step_offering hinner
              rw [← hreceipts] at hinside
              exact .still (.readingOffer hinput hphase hnext hinside)
          | readingEnd hinput hphase hwrapped =>
              exact .still (.readingEnd hinput hphase (hwrapped.step_ended hinner))
          | bereft hinput hnext => exact .still (.bereft hinput hnext)
          | holding hinput hnext hwrapped =>
              obtain ⟨hreceipts, hinside⟩ := hwrapped.step_lent hinner
              rw [← hreceipts] at hinside
              exact .still (.holding hinput hnext hinside)
          | answered hinput hlater hget hwrapped =>
              obtain ⟨hreceipts, hinside⟩ := hwrapped.step_lent hinner
              rw [← hreceipts] at hget hinside
              exact .still (.answered hinput hlater hget hinside)
          | leaving hphase hnext => exact .still (.leaving hphase hnext)

end Tracks

end Intake
