import Intake.Proofs.GuardTestimony

/-!
# How a guard comes to its end

Once a guard has a reason to stop it takes and hands on nothing more, whatever
its input and its holder do.  The reason is that the condition was met exactly
if it has passed an acknowledgement back.
-/

namespace Intake

/-- Why a guard in a phase is stopping, if it is. -/
def GuardPhase.exit? : GuardPhase → Option Exit
  | .leaving exit | .closing exit | .stopping exit | .releasing exit | .confirming exit
  | .finished exit => some exit
  | _ => none

/-- Whether a guard in a phase is busy with what its input gives. -/
def GuardPhase.isReading : GuardPhase → Bool
  | .receiving | .forwarding _ | .intercepting _ | .awaiting _ _ => true
  | _ => false

theorem Guard.ne_conditionMet_of_obstacle? {guard : Guard} {exit : Exit}
    (hexit : guard.obstacle? = some exit) : exit ≠ .conditionMet := by
  rcases Guard.exit_of_obstacle? hexit with ⟨rfl, _⟩ | ⟨rfl, _⟩ <;> decide

namespace Setting

/-- What goes through a guard: nothing of it changes between two settings. -/
structure Idle (before after : Setting) : Prop where
  taken : after.taken = before.taken
  put : after.put = before.put
  condition : after.guard.condition = before.guard.condition
  exit : after.guard.phase.exit? = before.guard.phase.exit?

section Idle

variable {σ : Type} {setting : Setting}

theorem Idle.refl (setting : Setting) : setting.Idle setting := ⟨rfl, rfl, rfl, rfl⟩

theorem Idle.trans {before between after : Setting} (hfirst : before.Idle between)
    (hsecond : between.Idle after) : before.Idle after :=
  ⟨hsecond.taken.trans hfirst.taken, hsecond.put.trans hfirst.put,
    hsecond.condition.trans hfirst.condition, hsecond.exit.trans hfirst.exit⟩

theorem Undisturbed.idle {after : Setting} (hundisturbed : setting.Undisturbed after) :
    setting.Idle after :=
  ⟨hundisturbed.taken, hundisturbed.put, hundisturbed.condition,
    congrArg GuardPhase.exit? hundisturbed.phase⟩

theorem idle_afterStep {sight : Sight σ} {move : GuardMove σ}
    (hslot : move.guard.outlet.slot = setting.guard.outlet.slot)
    (hcondition : move.guard.condition = setting.guard.condition)
    (hexit : move.guard.phase.exit? = setting.guard.phase.exit?)
    (htakes : move.takes? sight = none) : setting.Idle (setting.afterStep sight move) := by
  constructor
  · simp [afterStep, htakes]
  · simp [afterStep, puts?_of_slot_eq hslot]
  · exact hcondition
  · exact hexit

theorem idle_perform {exit : Exit} (hexit : setting.guard.phase.exit? = some exit)
    (move : SettingMove σ) : setting.Idle (setting.perform move) := by
  rcases setting.perform_cases move with hundisturbed | ⟨sight, step, _, hcase, hafter⟩
  · exact hundisturbed.idle
  · rw [hafter]
    cases hcase with
    | askedToClose hphase | leftAlone hphase | inputClosed hphase | stopped hphase
    | released hphase | confirmed hphase =>
        exact idle_afterStep rfl rfl (by rw [hphase]; rfl) rfl
    | started hphase | stopDeciding hphase | turnToInput hphase | exhausted hphase
    | rebuilt hphase | rebuildFailed hphase | stopReceiving hphase | inputEnded hphase
    | received hphase | receivedCandidate hphase | giveUpForwarding hphase
    | forwarded hphase | giveUpIntercepting hphase | intercepted hphase
    | giveUpAwaiting hphase | accepted hphase | rejected hphase | dropped hphase =>
        simp [hphase, GuardPhase.exit?] at hexit

/-- Nothing ever goes through a guard again once it is stopping. -/
theorem idle_performAll {exit : Exit} (hexit : setting.guard.phase.exit? = some exit)
    (moves : List (SettingMove σ)) : setting.Idle (setting.performAll moves) := by
  apply performAll_induction (Idle.refl setting)
  intro later move hlater
  exact hlater.trans (idle_perform (hlater.exit.trans hexit) move)

end Idle

/-- How the reason for stopping fits what has happened. -/
structure Ending (setting : Setting) : Prop where
  /-- What the guard has in its hands is what it took last. -/
  handLast : ∀ number ∈ setting.guard.phase.inHand,
    ∃ transaction, setting.taken.getLast? = some transaction ∧ transaction.number = number
  current : setting.guard.phase.isReading = true → setting.guard.current = true
  met : setting.guard.phase.exit? = some .conditionMet →
    ∃ transaction response, setting.taken.getLast? = some transaction ∧
      .relayed transaction.number response ∈ setting.events ∧ response.isAck = true
  accepted : ∀ candidate response, .relayed candidate response ∈ setting.events →
    response.isAck = true → setting.guard.phase.exit? = some .conditionMet
  rejected : ∀ candidate response,
    setting.events.getLast? = some (.relayed candidate response) →
      response.isAck = false →
        setting.guard.phase = .deciding ∧ setting.guard.current = true

section Ending

variable {σ : Type} {setting : Setting} {sight : Sight σ} {move : GuardMove σ}

theorem Ending.start (input : InputConfig) (restart : Bool) (condition : Condition) :
    (Setting.start input restart condition).Ending := by
  constructor <;> simp [Setting.start, GuardPhase.inHand, GuardPhase.isReading,
    GuardPhase.exit?]

theorem Ending.undisturbed {after : Setting} (hending : setting.Ending)
    (hundisturbed : setting.Undisturbed after) : after.Ending := by
  obtain ⟨hphase, hcurrent, _, htaken, _, hevents⟩ := hundisturbed
  constructor
  · rw [hphase, htaken]
    exact hending.handLast
  · rw [hphase, hcurrent]
    exact hending.current
  · rw [hphase, htaken, hevents]
    exact hending.met
  · rw [hphase, hevents]
    exact hending.accepted
  · rw [hphase, hcurrent, hevents]
    exact hending.rejected

theorem Ending.afterStep_of_silent (hending : setting.Ending)
    (hhand : ∀ number ∈ move.guard.phase.inHand,
      ∃ transaction, (setting.afterStep sight move).taken.getLast? = some transaction ∧
        transaction.number = number)
    (hcurrent : move.guard.phase.isReading = true → move.guard.current = true)
    (hmet : move.guard.phase.exit? = some .conditionMet ↔
      setting.guard.phase.exit? = some .conditionMet)
    (htaken : move.guard.phase.exit? = some .conditionMet → move.takes? sight = none)
    (hsilent : ∀ candidate response, move.event ≠ .relayed candidate response) :
    (setting.afterStep sight move).Ending := by
  constructor
  · exact hhand
  · exact hcurrent
  · intro hexit
    obtain ⟨transaction, response, hlast, hsaid, hack⟩ := hending.met (hmet.mp hexit)
    refine ⟨transaction, response, ?_, List.mem_append_left _ hsaid, hack⟩
    simpa [afterStep, htaken hexit] using hlast
  · intro candidate response hsaid hack
    rcases List.mem_append.mp hsaid with hold | hnew
    · exact hmet.mpr (hending.accepted candidate response hold hack)
    · exact absurd (List.mem_singleton.mp hnew).symm (hsilent candidate response)
  · intro candidate response hlast
    rw [show (setting.afterStep sight move).events = setting.events ++ [move.event] from rfl,
      List.getLast?_concat, Option.some.injEq] at hlast
    exact absurd hlast (hsilent candidate response)

theorem Ending.afterStep_of_relayed (hending : setting.Ending) {candidate : Nat}
    {response : Response} (hbefore : setting.guard.phase.inHand = [candidate])
    (hopen : setting.guard.phase.exit? = none) (hcurrent : move.guard.current = true)
    (hphase : move.guard.phase =
      if response.isAck then .leaving .conditionMet else .deciding)
    (htakes : move.takes? sight = none)
    (hevent : move.event = .relayed candidate response) :
    (setting.afterStep sight move).Ending := by
  have hevents : (setting.afterStep sight move).events =
      setting.events ++ [.relayed candidate response] := by
    simp [afterStep, hevent]
  have htaken : (setting.afterStep sight move).taken = setting.taken := by
    simp [afterStep, htakes]
  have hnow : (setting.afterStep sight move).guard.phase =
      if response.isAck then .leaving .conditionMet else .deciding := hphase
  constructor
  · intro number hnumber
    rw [hnow] at hnumber
    split at hnumber <;> simp [GuardPhase.inHand] at hnumber
  · exact fun _ => hcurrent
  · intro hexit
    obtain ⟨transaction, hlast, hnumber⟩ := hending.handLast candidate (by simp [hbefore])
    refine ⟨transaction, response, htaken ▸ hlast, ?_, ?_⟩
    · simp [hevents, hnumber]
    · rw [hnow] at hexit
      by_contra hnack
      simp [hnack, GuardPhase.exit?] at hexit
  · intro other said hsaid hack
    rw [hevents] at hsaid
    rcases List.mem_append.mp hsaid with hold | hnew
    · rw [hending.accepted other said hold hack] at hopen
      exact absurd hopen (by simp)
    · obtain ⟨rfl, rfl⟩ : other = candidate ∧ said = response := by simpa using hnew
      rw [hnow, if_pos hack]
      rfl
  · intro other said hlast hnack
    rw [hevents, List.getLast?_concat, Option.some.injEq] at hlast
    obtain ⟨rfl, rfl⟩ : candidate = other ∧ response = said := by simpa using hlast
    refine ⟨?_, hcurrent⟩
    rw [hnow, hnack]
    rfl

theorem Ending.afterStep (hending : setting.Ending)
    (hcase : Guard.StepCase sight setting.receipts setting.guard move) :
    (setting.afterStep sight move).Ending := by
  cases hcase with
  | started hphase | stopDeciding hphase | exhausted hphase | rebuildFailed hphase
  | stopReceiving hphase | inputEnded hphase | askedToClose hphase | leftAlone hphase
  | inputClosed hphase | stopped hphase | released hphase | confirmed hphase =>
      apply hending.afterStep_of_silent <;>
        simp [Guard.enter, GuardPhase.inHand, GuardPhase.isReading, GuardPhase.exit?, hphase,
          GuardMove.takes?]
  | turnToInput hphase _ hcurrent =>
      apply hending.afterStep_of_silent <;>
        simp [Guard.enter, GuardPhase.inHand, GuardPhase.exit?, hphase, GuardMove.takes?,
          hcurrent]
  | rebuilt hphase =>
      apply hending.afterStep_of_silent <;>
        simp [GuardPhase.inHand, GuardPhase.exit?, hphase]
  | received hphase _ hoffer | receivedCandidate hphase _ hoffer =>
      have hcurrent : setting.guard.current = true :=
        hending.current (by rw [hphase]; rfl)
      apply hending.afterStep_of_silent <;>
        simp [GuardPhase.inHand, GuardPhase.exit?, hphase, hcurrent, Setting.afterStep,
          GuardMove.takes?, hoffer]
  | @giveUpForwarding transaction exit hphase hexit =>
      have hnot : exit ≠ .conditionMet := Guard.ne_conditionMet_of_obstacle? hexit
      apply hending.afterStep_of_silent <;>
        simp [Guard.enter, GuardPhase.inHand, GuardPhase.isReading, GuardPhase.exit?, hphase,
          hnot]
  | @giveUpIntercepting candidate exit hphase hexit =>
      have hnot : exit ≠ .conditionMet := Guard.ne_conditionMet_of_obstacle? hexit
      apply hending.afterStep_of_silent <;>
        simp [Guard.enter, GuardPhase.inHand, GuardPhase.isReading, GuardPhase.exit?, hphase,
          hnot]
  | giveUpAwaiting hphase =>
      apply hending.afterStep_of_silent <;>
        simp [Guard.enter, GuardPhase.inHand, GuardPhase.isReading, GuardPhase.exit?, hphase]
  | forwarded hphase =>
      apply hending.afterStep_of_silent <;>
        simp [GuardPhase.inHand, GuardPhase.isReading, GuardPhase.exit?, hphase]
  | @intercepted candidate hphase =>
      have hcurrent : setting.guard.current = true :=
        hending.current (by rw [hphase]; rfl)
      have hlast := hending.handLast candidate.number (by simp [hphase, GuardPhase.inHand])
      apply hending.afterStep_of_silent <;>
        simp [GuardPhase.inHand, GuardPhase.exit?, hphase, hcurrent, Setting.afterStep,
          GuardMove.takes?, hlast]
  | accepted hphase _ _ hack =>
      exact hending.afterStep_of_relayed (by rw [hphase]; rfl) (by rw [hphase]; rfl)
        (hending.current (by rw [hphase]; rfl)) (by rw [hack]; rfl) rfl rfl
  | rejected hphase _ _ hnack =>
      exact hending.afterStep_of_relayed (by rw [hphase]; rfl) (by rw [hphase]; rfl)
        (hending.current (by rw [hphase]; rfl)) (by rw [hnack]; rfl) rfl rfl
  | dropped hphase =>
      exact hending.afterStep_of_relayed (by rw [hphase]; rfl) (by rw [hphase]; rfl)
        (hending.current (by rw [hphase]; rfl)) rfl rfl rfl

theorem Ending.perform (hending : setting.Ending) (move : SettingMove σ) :
    (setting.perform move).Ending := by
  rcases setting.perform_cases move with hundisturbed | ⟨sight, step, _, hcase, hafter⟩
  · exact hending.undisturbed hundisturbed
  · rw [hafter]
    exact hending.afterStep hcase

theorem ending_performAll (input : InputConfig) (restart : Bool) (condition : Condition)
    (moves : List (SettingMove σ)) :
    ((Setting.start input restart condition).performAll moves).Ending :=
  performAll_induction (Ending.start input restart condition)
    (fun _ move hending => hending.perform move) moves

end Ending

/-! ## What a guard does that waits -/

section Awaiting

variable {σ : Type} {setting : Setting} {sight : Sight σ} {candidate number : Nat}

/-- As long as it has not been asked to close, a guard that waits passes back
what the holder said, and a drop as a rejection. -/
theorem Vouched.work_pronounced (hvouched : setting.Vouched)
    (hshows : setting.shows sight = true)
    (hphase : setting.guard.phase = .awaiting candidate number)
    (hopen : setting.guard.outlet.shutdown.signalled = false) {verdict : Verdict}
    (hpronounced : setting.accounts.pronounced number = [verdict]) :
    setting.perform (.work sight) =
      setting.afterStep sight (setting.guard.relay (setting.receipts.look number).2 candidate
        (verdict.getD (.nack droppedCause))) := by
  obtain ⟨_, _, houtward, hawaited⟩ := hvouched.sound.awaited candidate number hphase
  have hget : setting.receipts.get number = Receipt.open.pronounce verdict :=
    hvouched.sound.kept.get_of_pronounced houtward hawaited hpronounced
  have hstep : setting.guard.step sight setting.receipts =
      some (setting.guard.relay (setting.receipts.look number).2 candidate
        (verdict.getD (.nack droppedCause))) := by
    cases verdict <;>
      simp [Guard.step, hphase, Guard.awaitResponse, hopen, Receipts.look, hget,
        Receipt.pronounce, Receipt.respond, Receipt.forsake, Receipt.look]
  simp [Setting.perform, hshows, hstep]

theorem work_closing (hshows : setting.shows sight = true)
    (hphase : setting.guard.phase = .awaiting candidate number)
    (hclosing : setting.guard.outlet.shutdown.signalled = true) :
    setting.perform (.work sight) =
      setting.afterStep sight
        { event := .gaveUp candidate
          guard := setting.guard.enter (.leaving .closeRequested)
          receipts := (setting.receipts.abandon number).forsake candidate } := by
  have hstep : setting.guard.step sight setting.receipts =
      some { event := .gaveUp candidate
             guard := setting.guard.enter (.leaving .closeRequested)
             receipts := (setting.receipts.abandon number).forsake candidate } := by
    simp [Guard.step, hphase, Guard.awaitResponse, hclosing]
  simp [Setting.perform, hshows, hstep]

end Awaiting

end Setting

end Intake
