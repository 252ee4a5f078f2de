import Intake.Proofs.SerialRefinement
import Intake.Proofs.StageReaching

/-!
# A nest gets on as far as its reader

A nest of running workers that keeps up with a reader does not only never go ahead of
it.  Steps of the workers take it wherever the reader goes next: to the message that the
reader hands out, to its end, or to a level that is started afresh.  Only the last one
leaves the nest working, and a reader that hands something out or ends starts levels
afresh only finitely often before that.
-/

namespace Intake

/-- Where a stage that was working has come to, as its reader sees it. -/
inductive Arrives (serial : Serial) (receipts : Receipts) (stage : Stage) : Prop where
  | rebuilt {after : Serial} (hnext : serial.next = .rebuilds after)
      (htracks : Tracks receipts stage .working after)
  | offers {transaction : Transaction} {after : Serial}
      (hnext : serial.next = .emits transaction.payload after)
      (htracks : Tracks receipts stage (.offering transaction) after)
  | ends (htracks : Tracks receipts stage .ended serial)

namespace Tracks

section Pumps

variable {world : World} {kind : String} {rest : List Message} {message : Message}
  {phase : PumpPhase}

/-- A stage that stops for a reason of its own gets to its end. -/
theorem arrives_of_stops {stage : Stage} {serial : Serial}
    (htracks : Tracks world.receipts stage .working serial) (hcan : stage.CanClose)
    (hstops : stage.Stops) : stage.Reaches (Arrives serial) world := by
  induction hrank : stage.rank using Nat.strong_induction_on generalizing stage world with
  | _ rank ih =>
      have hopen : stage.isClosed = false := by
        simp [Stage.isClosed, htracks.outlet_working]
      obtain ⟨level, move, hstep, hdescends⟩ :=
        hcan.exists_descent_of_stops world hstops hopen
      refine .step hstep ?_
      cases htracks.step_working hstep with
      | still hworking =>
          exact ih _ (hrank ▸ hdescends.rank) hworking (hcan.step hstep)
            (hstops.step hstep) rfl
      | rebuilt hnext hworking => exact .here (.rebuilt hnext hworking)
      | offers hnext hoffering => exact .here (.offers hnext hoffering)
      | ends hends => exact .here (.ends hends)

theorem arrives_pumpHolding :
    (Stage.pump { kind, source := .listed (rest.map .ok), phase := .offering message }).Reaches
      (Arrives (.leaf (message :: rest))) world :=
  .pump rfl (.here (.offers (by rfl) (.pumpOffering world.receipts.get_issue_next)))

theorem arrives_pumpReady (hphase : phase = .resting ∨ phase = .pulling) :
    (Stage.pump { kind, source := .listed (rest.map .ok), phase }).Reaches
      (Arrives (.leaf rest)) world := by
  have hpulling : (Stage.pump
      { kind, source := .listed (rest.map .ok), phase := .pulling }).Reaches
        (Arrives (.leaf rest)) world := by
    cases rest with
    | nil => exact .pump rfl (.pump rfl (.here (.ends (.pumpEnded (.inl rfl)))))
    | cons message rest => exact .pump rfl arrives_pumpHolding
  rcases hphase with rfl | rfl
  · exact .pump rfl hpulling
  · exact hpulling

theorem arrives_pumpAnswered {number : Nat} {verdict : Verdict}
    (hget : world.receipts.get number = Receipt.open.pronounce verdict) :
    (Stage.pump
      { kind, source := .listed (rest.map .ok), phase := .awaiting message number }).Reaches
        (Arrives ((Serial.leaf (message :: rest)).answer verdict.accepts)) world := by
  have hlook := Receipts.look_of_pronounced hget
  rcases hseen : world.receipts.look number with ⟨sighting, after⟩
  rw [hseen] at hlook
  subst hlook
  cases verdict with
  | none =>
      rw [Verdict.accepts_none, Serial.answer_false]
      exact .pump (by simp only [Pump.step, hseen]; rfl) arrives_pumpHolding
  | some response =>
      cases hack : response.isAck with
      | true =>
          rw [Verdict.accepts_some, hack]
          change Stage.Reaches (Arrives (.leaf rest)) world _
          exact .pump (by simp only [Pump.step, hseen, hack]; rfl)
            (arrives_pumpReady (.inl rfl))
      | false =>
          rw [Verdict.accepts_some, hack, Serial.answer_false]
          exact .pump (by simp only [Pump.step, hseen, hack]; rfl) arrives_pumpHolding

end Pumps

section Guards

variable {world : World} {input : InputConfig} {restart met : Bool} {condition : Condition}
  {phase : GuardPhase} {wrapped : Stage} {before inside : Serial} {transaction : Transaction}
  {goal : Receipts → Stage → Prop}

/-- A guard that reads gets to where it waits for its input. -/
theorem reaches_receiving (hphase : phase = .starting ∨ phase.IsWaiting)
    (hcan : (Stage.guard { input, restart, condition, phase } wrapped).CanClose)
    (hreceiving : (Stage.guard { input, restart, condition, phase := .receiving }
      wrapped).CanClose → (Stage.guard { input, restart, condition, phase := .receiving }
        wrapped).Reaches goal world) :
    (Stage.guard { input, restart, condition, phase } wrapped).Reaches goal world := by
  rcases hphase with rfl | rfl | rfl
  · exact .guard_of_canClose hcan rfl fun hcan => .guard_of_canClose hcan rfl hreceiving
  · exact .guard_of_canClose hcan rfl hreceiving
  · exact hreceiving hcan

theorem arrives_holding (hinput : (Serial.ofConfig input).isSome)
    (hnext : before.next = .emits transaction.payload inside)
    (hwrapped : Tracks world.receipts wrapped (.lent transaction.number) inside) :
    (Stage.guard
      { input
        restart
        condition := (condition.check transaction.payload).2
        phase :=
          if (condition.check transaction.payload).1 then .intercepting transaction
          else .forwarding transaction } wrapped).Reaches
      (Arrives (.level input restart condition met before)) world := by
  have hemits : (Serial.level input restart condition met before).next =
      .emits transaction.payload
        (.level input restart (condition.check transaction.payload).2
          (condition.check transaction.payload).1 inside) := by
    simp [Serial.next, hnext]
  cases hcheck : (condition.check transaction.payload).1 with
  | false =>
      rw [hcheck] at hemits
      exact .guard rfl (.here (.offers hemits (.forwarded hinput (.inl rfl) hwrapped)))
  | true =>
      rw [hcheck] at hemits
      have hlater := hwrapped.lt_next_lent
      have hlent : Tracks world.receipts.issue wrapped (.lent transaction.number) inside :=
        hwrapped.congr_lent fun earlier hle =>
          world.receipts.get_issue_of_lt (Nat.lt_of_le_of_lt hle hlater)
      have hoffers := @Arrives.offers _ _ _ ⟨world.receipts.next, transaction.payload⟩ _ hemits
        (.intercepted hinput hlater world.receipts.get_issue_next hlent)
      exact .guard rfl (.here hoffers)

theorem arrives_readingOffer (hinput : (Serial.ofConfig input).isSome)
    (hphase : phase = .starting ∨ phase.IsWaiting)
    (hnext : before.next = .emits transaction.payload inside)
    (hwrapped : Tracks world.receipts wrapped (.offering transaction) inside)
    (hcan : (Stage.guard { input, restart, condition, phase } wrapped).CanClose) :
    (Stage.guard { input, restart, condition, phase } wrapped).Reaches
      (Arrives (.level input restart condition met before)) world := by
  refine reaches_receiving hphase hcan fun _ => ?_
  have hoffer := hwrapped.offer_offering world.disk input
  obtain ⟨hreceipts, htaken⟩ := hwrapped.take_offering
  refine .guard (by simp only [Guard.step, Guard.receive, hoffer]; rfl) ?_
  simp only [Stage.obey, hreceipts]
  exact arrives_holding hinput hnext htaken

/-- A guard without an input starts it afresh, or gets to its end. -/
theorem arrives_bereft (hinput : (Serial.ofConfig input).isSome) (hnext : inside.next = .ends)
    (hcan : (Stage.guard { input, restart, condition, current := false, phase := .deciding }
      wrapped).CanClose) :
    (Stage.guard { input, restart, condition, current := false, phase := .deciding }
      wrapped).Reaches (Arrives (.level input restart condition met inside)) world := by
  cases restart with
  | false =>
      have hends : (Serial.level input false condition met inside).next = .ends := by
        simp [Serial.next, hnext]
      refine .guard_of_canClose hcan rfl fun hcan => ?_
      exact arrives_of_stops (.leaving (.inl rfl) hends) hcan (.inr rfl)
  | true =>
      obtain ⟨fresh, hfresh⟩ := Option.isSome_iff_exists.mp hinput
      obtain ⟨stage, hbuilt, htracks⟩ := Tracks.build world.disk hfresh
      have hrebuild : (wrapped.sight world.disk input).rebuild () = .ok stage := by
        simp [Stage.sight, hbuilt, Except.mapError]
      have hrebuilds : (Serial.level input true condition met inside).next =
          .rebuilds (.level input true condition met fresh) := by
        simp [Serial.next, hnext, hfresh]
      refine .guard (by simp only [Guard.step, Guard.decideNext, hrebuild]; rfl) ?_
      exact .here (.rebuilt hrebuilds (.reading hinput (.inr (.inr rfl)) (htracks _)))

theorem arrives_readingEnd (hinput : (Serial.ofConfig input).isSome)
    (hphase : phase = .starting ∨ phase.IsWaiting)
    (hwrapped : Tracks world.receipts wrapped .ended inside)
    (hcan : (Stage.guard { input, restart, condition, phase } wrapped).CanClose) :
    (Stage.guard { input, restart, condition, phase } wrapped).Reaches
      (Arrives (.level input restart condition met inside)) world := by
  refine reaches_receiving hphase hcan fun hcan => ?_
  have hoffer := hwrapped.offer_ended world.disk input
  refine .guard_of_canClose hcan (by simp only [Guard.step, Guard.receive, hoffer]; rfl) ?_
  exact fun hcan => arrives_bereft hinput hwrapped.next_ended hcan

/-- A guard that reads gets on with whatever its input gets to. -/
theorem arrives_reading (hinput : (Serial.ofConfig input).isSome)
    (hphase : phase = .starting ∨ phase.IsWaiting)
    (hinside : wrapped.Reaches (Arrives inside) world)
    (hcan : (Stage.guard { input, restart, condition, phase } wrapped).CanClose) :
    (Stage.guard { input, restart, condition, phase } wrapped).Reaches
      (Arrives (.level input restart condition met inside)) world := by
  refine ((hinside.inside _).canClose hcan).bind ?_
  rintro world _ ⟨⟨wrapped, rfl, harrives⟩, hcan⟩
  cases harrives with
  | @rebuilt after hnext hwrapped =>
      have hrebuilds : (Serial.level input restart condition met inside).next =
          .rebuilds (.level input restart condition met after) := by
        simp [Serial.next, hnext]
      exact .here (.rebuilt hrebuilds (.reading hinput hphase hwrapped))
  | offers hnext hwrapped => exact arrives_readingOffer hinput hphase hnext hwrapped hcan
  | ends hwrapped => exact arrives_readingEnd hinput hphase hwrapped hcan

/-- A guard passes the answer back, and gets to its end if it was accepted. -/
theorem arrives_answered {candidate number : Nat} {verdict : Verdict}
    (hinput : (Serial.ofConfig input).isSome) (hlater : candidate < number)
    (hget : world.receipts.get number = Receipt.open.pronounce verdict)
    (hwrapped : Tracks world.receipts wrapped (.lent candidate) inside)
    (hinside : ∀ {world : World}, Tracks world.receipts wrapped .working inside →
      wrapped.Reaches (Arrives inside) world)
    (hcan : (Stage.guard { input, restart, condition, phase := .awaiting candidate number }
      wrapped).CanClose) :
    (Stage.guard { input, restart, condition, phase := .awaiting candidate number }
      wrapped).Reaches
        (Arrives ((Serial.level input restart condition true inside).answer verdict.accepts))
        world := by
  have hlook : Tracks (world.receipts.look number).2 wrapped (.lent candidate) inside := by
    apply hwrapped.congr_lent
    intro earlier hearlier
    rw [world.receipts.get_look, if_neg (by omega)]
  have hsighting := Receipts.look_of_pronounced hget
  rcases hseen : world.receipts.look number with ⟨sighting, receipts⟩
  rw [hseen] at hsighting hlook
  subst hsighting
  have hrejected (response : Response) (hnack : response.isAck = false) :
      (Stage.guard { input, restart, condition, phase := .deciding } wrapped).CanClose →
        (Stage.guard { input, restart, condition, phase := .deciding } wrapped).Reaches
          (Arrives (.level input restart condition true inside))
          { world with receipts := (receipts.respond candidate response).2 } := by
    have hworking := hlook.pronounce_lent (some response)
    rw [Verdict.accepts_some, hnack, Serial.answer_false] at hworking
    exact arrives_reading hinput (.inr (.inl rfl)) (hinside hworking)
  cases verdict with
  | none =>
      rw [Verdict.accepts_none, Serial.answer_false]
      refine .guard_of_canClose hcan
        (by simp only [Guard.step, Guard.awaitResponse, hseen]; rfl) ?_
      exact hrejected (.nack droppedCause) rfl
  | some response =>
      cases hack : response.isAck with
      | true =>
          rw [Verdict.accepts_some, hack]
          have hends : ((Serial.level input restart condition true inside).answer true).next =
              .ends := rfl
          refine .guard_of_canClose hcan
            (by simp only [Guard.step, Guard.awaitResponse, hseen, Guard.relay, hack]; rfl) ?_
          exact fun hcan => arrives_of_stops (.leaving (.inl rfl) hends) hcan (.inr rfl)
      | false =>
          rw [Verdict.accepts_some, hack, Serial.answer_false]
          refine .guard_of_canClose hcan
            (by simp only [Guard.step, Guard.awaitResponse, hseen, Guard.relay, hack]; rfl) ?_
          exact hrejected response hack

end Guards

/-- Whatever the workers of a stage do, they can get on as far as its reader does in one
turn. -/
theorem arrives {world : World} {stage : Stage} {serial : Serial}
    (htracks : Tracks world.receipts stage .working serial) (hcan : stage.CanClose) :
    stage.Reaches (Arrives serial) world := by
  induction stage generalizing serial world with
  | pump leaf =>
      cases htracks with
      | pumpReady hphase => exact arrives_pumpReady hphase
      | pumpHolding => exact arrives_pumpHolding
      | pumpAnswered hget => exact arrives_pumpAnswered hget
      | pumpLeaving => exact pumpLeaving.arrives_of_stops hcan (.inr rfl)
  | guard head wrapped ih =>
      have hinside {world : World} {inside : Serial}
          (hwrapped : Tracks world.receipts wrapped .working inside) :
          wrapped.Reaches (Arrives inside) world := ih hwrapped hcan.2
      cases htracks with
      | reading hinput hphase hwrapped =>
          exact arrives_reading hinput hphase (hinside hwrapped) hcan
      | readingOffer hinput hphase hnext hwrapped =>
          exact arrives_readingOffer hinput hphase hnext hwrapped hcan
      | readingEnd hinput hphase hwrapped =>
          exact arrives_readingEnd hinput hphase hwrapped hcan
      | bereft hinput hnext => exact arrives_bereft hinput hnext hcan
      | holding hinput hnext hwrapped => exact arrives_holding hinput hnext hwrapped
      | answered hinput hlater hget hwrapped =>
          exact arrives_answered hinput hlater hget hwrapped hinside hcan
      | @leaving _ _ _ _ phase exit _ _ hphase hnext =>
          have hstops : phase.stops = true := by
            rcases hphase with rfl | rfl | rfl | rfl <;> rfl
          exact arrives_of_stops (.leaving hphase hnext) hcan (.inr hstops)

/-- Unless a reader keeps on starting levels afresh, the stage has something for its holder
in the end. -/
theorem reaches_offer {world : World} {stage : Stage} {serial : Serial} {turns : Nat}
    (htracks : Tracks world.receipts stage .working serial) (hcan : stage.CanClose)
    (hplay : serial.play turns [] ≠ ([], false)) :
    stage.Reaches (fun _ stage => stage.outlet.offer ≠ .pending) world := by
  induction turns generalizing world stage serial with
  | zero => simp [Serial.play] at hplay
  | succ turns ih =>
      refine ((htracks.arrives hcan).canClose hcan).bind ?_
      rintro world stage ⟨harrives, hcan⟩
      cases harrives with
      | rebuilt hnext hworking =>
          exact ih hworking hcan (by simpa [Serial.play, hnext] using hplay)
      | offers _ hoffering =>
          refine .here ?_
          rw [hoffering.outlet_offering]
          simp [Outlet.offer, Outlet.isClosing]
      | ends hends =>
          refine .here ?_
          obtain ⟨closed, houtlet⟩ := hends.outlet_ended
          rw [houtlet]
          simp [Outlet.left, Outlet.offer, Outlet.isClosing]

end Tracks

/-- A reader that hands nothing out and does not end at first never does. -/
theorem Serial.play_of_silent {serial : Serial}
    (hsilent : ∀ turns, serial.play turns [] = ([], false)) (turns : Nat)
    (verdicts : List Verdict) : serial.play turns verdicts = ([], false) := by
  induction turns generalizing serial with
  | zero => rfl
  | succ turns ih =>
      cases hnext : serial.next with
      | ends => simpa [play, hnext] using hsilent 1
      | emits message after => simpa [play, hnext] using hsilent 1
      | rebuilds after =>
          simp only [play, hnext]
          exact ih fun turns => by simpa [play, hnext] using hsilent (turns + 1)

/-! ## Stages in use -/

namespace Usage

theorem sameBooks_workAll (usage : Usage) (levels : List Nat) :
    usage.SameBooks (usage.workAll levels) := by
  induction levels generalizing usage with
  | nil => exact ⟨rfl, rfl, rfl, id⟩
  | cons level rest ih =>
      obtain ⟨hmessages, hanswers, hheld, hended⟩ := ih (usage.perform (.work level))
      rcases usage.perform_work_cases level with hsame | ⟨move, hstep, hafter⟩
      · rw [workAll_cons, hsame]
        exact ih usage
      · obtain ⟨hsameMessages, hsameAnswers, hsameHeld, hsameEnded⟩ := sameBooks_note usage
          (usage.running.after move) (.worked move.event) rfl rfl (by simp)
        rw [hafter] at hmessages hanswers hheld hended
        rw [workAll_cons, hafter]
        exact ⟨hmessages.trans hsameMessages, hanswers.trans hsameAnswers,
          hheld.trans hsameHeld, fun hend => hsameEnded (hended hend)⟩

namespace KeepsUp

variable {first : Serial} {usage : Usage}

theorem workAll (hkeeps : usage.KeepsUp first) (levels : List Nat) :
    (usage.workAll levels).KeepsUp first := by
  induction levels generalizing usage with
  | nil => exact hkeeps
  | cons level rest ih => exact ih (hkeeps.work level)

/-- What there is to receive comes next in the play. -/
theorem offers (hkeeps : usage.KeepsUp first) (hheld : usage.held = [])
    (hready : usage.outlet.offer ≠ .pending) :
    (∃ transaction, usage.outlet.offer = .transaction transaction ∧
        ∃ enough, ∀ turns, enough ≤ turns →
          first.play turns usage.answers = (usage.messages ++ [transaction.payload], false)) ∨
      usage.outlet.offer = .ended ∧
        ∃ enough, ∀ turns, enough ≤ turns →
          first.play turns usage.answers = (usage.messages, true) := by
  cases hkeeps with
  | working htracks =>
      have houtlet : usage.outlet = {} := htracks.outlet_working
      simp [houtlet, Outlet.offer, Outlet.isClosing] at hready
  | @offering transaction _ _ htracks hleads hnext =>
      left
      have houtlet : usage.outlet = { slot := some transaction } := htracks.outlet_offering
      exact ⟨transaction, by simp [houtlet, Outlet.offer, Outlet.isClosing],
        hleads.play_emits hnext⟩
  | lent _ _ _ _ hone => simp [hone] at hheld
  | ended htracks hleads =>
      right
      obtain ⟨closed, houtlet⟩ := htracks.outlet_ended
      have houtlet : usage.outlet = .left closed := houtlet
      exact ⟨by simp [houtlet, Outlet.left, Outlet.offer, Outlet.isClosing],
        hleads.play_ends htracks.next_ended⟩

/-- For a holder who owes nothing the workers can get something ready, unless the reader
keeps on starting levels afresh. -/
theorem ready_or_silent (hkeeps : usage.KeepsUp first) (hcan : usage.running.stage.CanClose)
    (hheld : usage.held = []) :
    (∃ levels, (usage.workAll levels).outlet.offer ≠ .pending) ∨
      ∃ enough, ∀ turns more, enough ≤ turns →
        first.play turns (usage.answers ++ more) = (usage.messages, false) := by
  cases hkeeps with
  | @working serial htracks hleads =>
      by_cases hsilent : ∀ turns, serial.play turns [] = ([], false)
      · right
        obtain ⟨spent, hplay⟩ := hleads
        refine ⟨spent, fun turns more hturns => ?_⟩
        obtain ⟨rest, rfl⟩ := Nat.exists_eq_add_of_le hturns
        rw [hplay, serial.play_of_silent hsilent, List.append_nil]
      · left
        push Not at hsilent
        obtain ⟨turns, hplay⟩ := hsilent
        exact exists_workAll (htracks.reaches_offer hcan hplay)
  | @offering transaction _ _ htracks =>
      have houtlet : usage.outlet = { slot := some transaction } := htracks.outlet_offering
      exact .inl ⟨[], by simp [houtlet, Outlet.offer, Outlet.isClosing]⟩
  | lent _ _ _ _ hone => simp [hone] at hheld
  | ended htracks =>
      obtain ⟨closed, houtlet⟩ := htracks.outlet_ended
      have houtlet : usage.outlet = .left closed := houtlet
      exact .inl ⟨[], by simp [houtlet, Outlet.left, Outlet.offer, Outlet.isClosing]⟩

end KeepsUp

end Usage

end Intake
