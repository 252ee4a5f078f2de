import Intake.Metrics
import Intake.Proofs.GuardConveyance

/-!
# What a guard counts

A guard moves its counters at different points of its loop, some of them only
after it has waited.  What each step adds fits what the step does to the guard
and its surroundings, so the counters stay in balance in every state, and what
is missing from a balance tells where the guard stands or why it stopped.
-/

namespace Intake

/-- What a step adds to one counter. -/
def Event.amount (event : Event) (metric : Metric) : Int :=
  (event.counts.map fun entry => if entry.1 = metric then entry.2 else 0).sum

theorem Metrics.value_count (metrics : Metrics) (event : Event) (metric : Metric) :
    (metrics.count event).value metric = metrics.value metric + event.amount metric := by
  have hfold : ∀ (counts : List (Metric × Int)) (metrics : Metrics),
      (counts.foldl (fun metrics entry => metrics.add entry.1 entry.2) metrics).value metric =
        metrics.value metric +
          (counts.map fun entry => if entry.1 = metric then entry.2 else 0).sum := by
    intro counts
    induction counts with
    | nil => simp
    | cons entry rest ih =>
        intro metrics
        rw [List.foldl_cons, ih, value_add, List.map_cons, List.sum_cons]
        omega
  exact hfold event.counts metrics

/-- A response that is passed back is counted, and a rejection once more. -/
@[simp] theorem Event.amount_relayed (candidate : Nat) (response : Response)
    (family : MetricFamily) :
    (Event.guard (.relayed candidate response)).amount ⟨family, none⟩ =
      if family = .finalResponseSent then 1
      else if family = .finalResponseError ∧ response.isAck = false then 1
      else 0 := by
  cases hack : response.isAck <;> cases family <;> simp [Event.amount, Event.counts, hack]

namespace GuardPhase

/-- Whether a guard in a phase counts as running. -/
def isCounted : GuardPhase → Bool
  | .starting | .releasing _ | .confirming _ | .finished _ => false
  | _ => true

/-- Whether a guard in a phase waits for the response to a candidate. -/
def isAwaiting : GuardPhase → Bool
  | .awaiting _ _ => true
  | _ => false

/-- Whether a guard in a phase is done with closing its input. -/
def isPast : GuardPhase → Bool
  | .stopping _ | .releasing _ | .confirming _ | .finished _ => true
  | _ => false

end GuardPhase

/-- Whether a guard has seen its input end and has not yet tried to build another. -/
def Guard.isBereft (guard : Guard) : Bool :=
  !guard.current && guard.phase.exit? != some .restartFailed

namespace Setting

/-- The counters that the guard has moved. -/
def metrics (setting : Setting) : Metrics :=
  setting.events.foldl (fun metrics event => metrics.count (.guard event)) []

/-- How often the guard has counted in a family. -/
def count (setting : Setting) (family : MetricFamily) : Int :=
  setting.metrics.value ⟨family, none⟩

/-! ## One step -/

section Amounts

variable {σ : Type} {setting : Setting} {sight : Sight σ} {move : GuardMove σ}

theorem count_afterStep (family : MetricFamily) :
    (setting.afterStep sight move).count family =
      setting.count family + (Event.guard move.event).amount ⟨family, none⟩ := by
  unfold count metrics afterStep
  rw [List.foldl_concat, Metrics.value_count]

theorem Undisturbed.count_eq {after : Setting} (hundisturbed : setting.Undisturbed after)
    (family : MetricFamily) : after.count family = setting.count family := by
  rw [count, metrics, hundisturbed.events]
  rfl

theorem amount_received (hcase : Guard.StepCase sight setting.receipts setting.guard move) :
    (Event.guard move.event).amount ⟨.received, none⟩ = (move.takes? sight).toList.length := by
  cases hcase <;> simp_all [Event.amount, Event.counts, GuardMove.takes?]

theorem amount_handedOn (hcase : Guard.StepCase sight setting.receipts setting.guard move) :
    (Event.guard move.event).amount ⟨.propagated, none⟩ +
        (Event.guard move.event).amount ⟨.finalPropagated, none⟩ =
      (move.puts? setting.guard.outlet).toList.length := by
  cases hcase with
  | forwarded _ _ hroom | intercepted _ _ hroom =>
      simp [Event.amount, Event.counts, GuardMove.puts?, hroom, Outlet.put]
  | accepted | rejected | dropped =>
      rw [puts?_of_slot_eq rfl]
      simp
  | _ =>
      rw [puts?_of_slot_eq rfl]
      simp [Event.amount, Event.counts]

/-- A response that is passed back ends the guard or counts as an error. -/
theorem amount_finalResponse
    (hcase : Guard.StepCase sight setting.receipts setting.guard move) :
    (Event.guard move.event).amount ⟨.finalResponseSent, none⟩ +
        (if setting.guard.phase.exit? = some .conditionMet then 1 else 0) =
      (Event.guard move.event).amount ⟨.finalResponseError, none⟩ +
        (if move.guard.phase.exit? = some .conditionMet then 1 else 0) := by
  cases hcase with
  | giveUpForwarding hphase hexit | giveUpIntercepting hphase hexit =>
      simp [Event.amount, Event.counts, GuardPhase.exit?, hphase, Guard.enter,
        Guard.ne_conditionMet_of_obstacle? hexit]
  | accepted hphase _ _ hack => simp [GuardPhase.exit?, hphase, Guard.enter, hack]
  | rejected hphase _ _ hnack => simp [GuardPhase.exit?, hphase, Guard.enter, hnack]
  | dropped hphase => simp [GuardPhase.exit?, hphase, Guard.enter]
  | started hphase | stopDeciding hphase | turnToInput hphase | exhausted hphase
  | rebuilt hphase | rebuildFailed hphase | stopReceiving hphase | inputEnded hphase
  | received hphase | receivedCandidate hphase | forwarded hphase | intercepted hphase
  | giveUpAwaiting hphase | askedToClose hphase | leftAlone hphase | inputClosed hphase
  | stopped hphase | released hphase | confirmed hphase =>
      simp [Event.amount, Event.counts, GuardPhase.exit?, hphase, Guard.enter]

/-- An input that ended is built again, cannot be built again, or is still missing. -/
theorem amount_restart (hcase : Guard.StepCase sight setting.receipts setting.guard move)
    (hcurrent : setting.guard.phase.isReading = true → setting.guard.current = true) :
    (Event.guard move.event).amount ⟨.inputClosed, none⟩ +
        (if setting.guard.isBereft then 1 else 0) =
      (Event.guard move.event).amount ⟨.restartSuccess, none⟩ +
        (Event.guard move.event).amount ⟨.restartError, none⟩ +
          (if move.guard.isBereft then 1 else 0) := by
  cases hcase with
  | inputEnded hphase =>
      have hbefore : setting.guard.current = true := hcurrent (by rw [hphase]; rfl)
      simp [Event.amount, Event.counts, Guard.isBereft, GuardPhase.exit?, hbefore]
  | rebuilt hphase _ hbereft | rebuildFailed hphase _ hbereft =>
      simp [Event.amount, Event.counts, Guard.isBereft, GuardPhase.exit?, Guard.enter, hphase,
        hbereft]
  | giveUpForwarding hphase | giveUpIntercepting hphase =>
      have hbefore : setting.guard.current = true := hcurrent (by rw [hphase]; rfl)
      simp [Event.amount, Event.counts, Guard.isBereft, Guard.enter, hbefore]
  | accepted hphase | rejected hphase | dropped hphase =>
      have hbefore : setting.guard.current = true := hcurrent (by rw [hphase]; rfl)
      simp [Guard.isBereft, Guard.enter, hbefore]
  | started hphase | stopDeciding hphase | turnToInput hphase | exhausted hphase
  | stopReceiving hphase | received hphase | receivedCandidate hphase | forwarded hphase
  | intercepted hphase | giveUpAwaiting hphase | askedToClose hphase | leftAlone hphase
  | inputClosed hphase | stopped hphase | released hphase | confirmed hphase =>
      simp [Event.amount, Event.counts, Guard.isBereft, GuardPhase.exit?, hphase, Guard.enter]

theorem amount_restartError
    (hcase : Guard.StepCase sight setting.receipts setting.guard move) :
    (Event.guard move.event).amount ⟨.restartError, none⟩ +
        (if setting.guard.phase.exit? = some .restartFailed then 1 else 0) =
      if move.guard.phase.exit? = some .restartFailed then 1 else 0 := by
  cases hcase with
  | giveUpForwarding hphase hexit | giveUpIntercepting hphase hexit =>
      rcases Guard.exit_of_obstacle? hexit with ⟨rfl, _⟩ | ⟨rfl, _⟩ <;>
        simp [Event.amount, Event.counts, GuardPhase.exit?, hphase, Guard.enter]
  | started hphase | stopDeciding hphase | turnToInput hphase | exhausted hphase
  | rebuilt hphase | rebuildFailed hphase | stopReceiving hphase | inputEnded hphase
  | received hphase | receivedCandidate hphase | forwarded hphase | intercepted hphase
  | giveUpAwaiting hphase | askedToClose hphase | leftAlone hphase | inputClosed hphase
  | stopped hphase | released hphase | confirmed hphase =>
      simp [Event.amount, Event.counts, GuardPhase.exit?, hphase, Guard.enter]
  | accepted hphase | rejected hphase | dropped hphase =>
      simp [GuardPhase.exit?, hphase, Guard.enter]

theorem amount_running (hcase : Guard.StepCase sight setting.receipts setting.guard move) :
    (Event.guard move.event).amount ⟨.running, none⟩ +
        (if setting.guard.phase.isCounted then 1 else 0) =
      if move.guard.phase.isCounted then 1 else 0 := by
  cases hcase with
  | started hphase | stopDeciding hphase | turnToInput hphase | exhausted hphase
  | rebuilt hphase | rebuildFailed hphase | stopReceiving hphase | inputEnded hphase
  | received hphase | receivedCandidate hphase | giveUpForwarding hphase | forwarded hphase
  | giveUpIntercepting hphase | intercepted hphase | giveUpAwaiting hphase
  | askedToClose hphase | leftAlone hphase | inputClosed hphase | stopped hphase
  | released hphase | confirmed hphase =>
      simp [Event.amount, Event.counts, GuardPhase.isCounted, hphase, Guard.enter]
  | accepted hphase | rejected hphase | dropped hphase =>
      simp [GuardPhase.isCounted, hphase, Guard.enter]

/-- A candidate that was handed on is answered, or still awaited, or given up. -/
theorem amount_candidate (hcase : Guard.StepCase sight setting.receipts setting.guard move) :
    (Event.guard move.event).amount ⟨.finalPropagated, none⟩ +
          (if setting.guard.phase.isAwaiting then 1 else 0) =
        (Event.guard move.event).amount ⟨.finalResponseSent, none⟩ +
          (if move.guard.phase.isAwaiting then 1 else 0) ∨
      ∃ candidate number, setting.guard.phase = .awaiting candidate number ∧
        setting.guard.outlet.shutdown.signalled = true ∧
          move = { event := .gaveUp candidate
                   guard := setting.guard.enter (.leaving .closeRequested)
                   receipts := (setting.receipts.abandon number).forsake candidate } := by
  cases hcase with
  | giveUpAwaiting hphase hclosing => exact .inr ⟨_, _, hphase, hclosing, rfl⟩
  | started hphase | stopDeciding hphase | turnToInput hphase | exhausted hphase
  | rebuilt hphase | rebuildFailed hphase | stopReceiving hphase | inputEnded hphase
  | received hphase | receivedCandidate hphase | giveUpForwarding hphase | forwarded hphase
  | giveUpIntercepting hphase | intercepted hphase | askedToClose hphase | leftAlone hphase
  | inputClosed hphase | stopped hphase | released hphase | confirmed hphase =>
      left
      simp [Event.amount, Event.counts, GuardPhase.isAwaiting, hphase, Guard.enter]
  | accepted hphase | rejected hphase | dropped hphase =>
      left
      simp [GuardPhase.isAwaiting, hphase, Guard.enter]

end Amounts

/-! ## Whole runs -/

/-- How the counters of a guard fit where it stands. -/
structure Tallied (setting : Setting) : Prop where
  received : setting.count .received = setting.taken.length
  handedOn : setting.count .propagated + setting.count .finalPropagated = setting.put.length
  finalResponse : setting.count .finalResponseSent = setting.count .finalResponseError +
    if setting.guard.phase.exit? = some .conditionMet then 1 else 0
  restart : setting.count .inputClosed = setting.count .restartSuccess +
    setting.count .restartError + if setting.guard.isBereft then 1 else 0
  restartError : setting.count .restartError =
    if setting.guard.phase.exit? = some .restartFailed then 1 else 0
  running : setting.count .running = if setting.guard.phase.isCounted then 1 else 0
  candidate : ∃ lost : List Nat,
    setting.count .finalPropagated = setting.count .finalResponseSent +
        (if setting.guard.phase.isAwaiting then 1 else 0) + lost.length ∧
      (lost = [] ∨ ∃ candidate own, lost = [candidate] ∧
        .intercepted candidate own ∈ setting.events ∧ .gaveUp candidate ∈ setting.events ∧
          setting.guard.phase.exit? = some .closeRequested ∧
            setting.guard.outlet.isBlocked = true)
  /-- A guard that is past closing its input has seen it close, unless it had none. -/
  past : setting.guard.phase.isPast = true → setting.guard.current = true →
    .inputClosed ∈ setting.events

section Tallied

variable {σ : Type} {setting : Setting} {sight : Sight σ} {move : GuardMove σ}

theorem Tallied.start (input : InputConfig) (restart : Bool) (condition : Condition) :
    (Setting.start input restart condition).Tallied := by
  constructor <;> simp [count, metrics, Metrics.value, Setting.start, GuardPhase.exit?,
    GuardPhase.isCounted, GuardPhase.isAwaiting, GuardPhase.isPast, Guard.isBereft]

theorem Tallied.undisturbed (htallied : setting.Tallied) {after : Setting}
    (hundisturbed : setting.Undisturbed after) (hlater : setting.Later after) :
    after.Tallied := by
  have hbereft : after.guard.isBereft = setting.guard.isBereft := by
    rw [Guard.isBereft, Guard.isBereft, hundisturbed.current, hundisturbed.phase]
  constructor
  · rw [hundisturbed.count_eq, hundisturbed.taken]
    exact htallied.received
  · rw [hundisturbed.count_eq, hundisturbed.count_eq, hundisturbed.put]
    exact htallied.handedOn
  · rw [hundisturbed.count_eq, hundisturbed.count_eq, hundisturbed.phase]
    exact htallied.finalResponse
  · rw [hundisturbed.count_eq, hundisturbed.count_eq, hundisturbed.count_eq, hbereft]
    exact htallied.restart
  · rw [hundisturbed.count_eq, hundisturbed.phase]
    exact htallied.restartError
  · rw [hundisturbed.count_eq, hundisturbed.phase]
    exact htallied.running
  · obtain ⟨lost, hcount, hlost⟩ := htallied.candidate
    refine ⟨lost, ?_, hlost.imp_right ?_⟩
    · rw [hundisturbed.count_eq, hundisturbed.count_eq, hundisturbed.phase]
      exact hcount
    · rintro ⟨candidate, own, hsingle, hput, hgave, hexit, hblocked⟩
      refine ⟨candidate, own, hsingle, ?_, ?_, ?_, hlater.blocked hblocked⟩
      · rwa [hundisturbed.events]
      · rwa [hundisturbed.events]
      · rwa [hundisturbed.phase]
  · rw [hundisturbed.phase, hundisturbed.current, hundisturbed.events]
    exact htallied.past

theorem Tallied.candidate_afterStep (htallied : setting.Tallied)
    (hcase : Guard.StepCase sight setting.receipts setting.guard move)
    (hvouched : setting.Vouched)
    (hidle : ∀ exit, setting.guard.phase.exit? = some exit →
      setting.Idle (setting.afterStep sight move)) :
    ∃ lost : List Nat,
      (setting.afterStep sight move).count .finalPropagated =
          (setting.afterStep sight move).count .finalResponseSent +
            (if move.guard.phase.isAwaiting then 1 else 0) + lost.length ∧
        (lost = [] ∨ ∃ candidate own, lost = [candidate] ∧
          .intercepted candidate own ∈ (setting.afterStep sight move).events ∧
            .gaveUp candidate ∈ (setting.afterStep sight move).events ∧
              move.guard.phase.exit? = some .closeRequested ∧
                move.guard.outlet.isBlocked = true) := by
  obtain ⟨lost, hcount, hlost⟩ := htallied.candidate
  simp only [count_afterStep]
  rcases amount_candidate hcase with
    hsame | ⟨candidate, number, hphase, hclosing, rfl⟩
  · refine ⟨lost, by omega, hlost.imp_right ?_⟩
    rintro ⟨candidate, own, hsingle, hput, hgave, hexit, hblocked⟩
    refine ⟨candidate, own, hsingle, List.mem_append_left _ hput,
      List.mem_append_left _ hgave, (hidle _ hexit).exit.trans hexit,
      (isBlocked_afterStep hcase).trans hblocked⟩
  · -- the response that was awaited is given up for lost
    have hnone : lost = [] := by
      rcases hlost with hnone | ⟨_, _, _, _, _, hexit, _⟩
      · exact hnone
      · simp [hphase, GuardPhase.exit?] at hexit
    subst hnone
    obtain ⟨own, _, hput⟩ := hvouched.awaiting candidate number hphase
    refine ⟨[candidate], ?_,
      .inr ⟨candidate, own, rfl, List.mem_append_left _ hput, ?_, rfl, ?_⟩⟩
    · simp [Event.amount, Event.counts, hcount, hphase, GuardPhase.isAwaiting, Guard.enter]
    · simp [afterStep]
    · simp [Guard.enter, Outlet.isBlocked, hclosing]

theorem Tallied.past_afterStep (htallied : setting.Tallied)
    (hcase : Guard.StepCase sight setting.receipts setting.guard move)
    (hpast : move.guard.phase.isPast = true) (hcurrent : move.guard.current = true) :
    .inputClosed ∈ (setting.afterStep sight move).events := by
  cases hcase with
  | inputClosed => simp [Setting.afterStep]
  | leftAlone _ hbereft => simp [Guard.enter, hbereft] at hcurrent
  | stopped hphase | released hphase | confirmed hphase =>
      exact List.mem_append_left _ (htallied.past (by rw [hphase]; rfl) hcurrent)
  | _ => simp [Guard.enter, GuardPhase.isPast] at hpast

theorem Tallied.afterStep (htallied : setting.Tallied) (hending : setting.Ending)
    (hvouched : setting.Vouched)
    (hcase : Guard.StepCase sight setting.receipts setting.guard move)
    (hidle : ∀ exit, setting.guard.phase.exit? = some exit →
      setting.Idle (setting.afterStep sight move)) :
    (setting.afterStep sight move).Tallied := by
  have hguard : (setting.afterStep sight move).guard = move.guard := rfl
  constructor
  · have hamount := amount_received hcase
    have hbefore := htallied.received
    rw [count_afterStep]
    simp only [Setting.afterStep, List.length_append]
    omega
  · have hamount := amount_handedOn hcase
    have hbefore := htallied.handedOn
    rw [count_afterStep, count_afterStep]
    simp only [Setting.afterStep, List.length_append]
    omega
  · have hamount := amount_finalResponse hcase
    have hbefore := htallied.finalResponse
    rw [count_afterStep, count_afterStep, hguard]
    omega
  · have hamount := amount_restart hcase hending.current
    have hbefore := htallied.restart
    rw [count_afterStep, count_afterStep, count_afterStep, hguard]
    omega
  · have hamount := amount_restartError hcase
    have hbefore := htallied.restartError
    rw [count_afterStep, hguard]
    omega
  · have hamount := amount_running hcase
    have hbefore := htallied.running
    rw [count_afterStep, hguard]
    omega
  · exact htallied.candidate_afterStep hcase hvouched hidle
  · exact htallied.past_afterStep hcase

theorem Tallied.perform (htallied : setting.Tallied) (hending : setting.Ending)
    (hvouched : setting.Vouched) (move : SettingMove σ) : (setting.perform move).Tallied := by
  have hidle : ∀ exit, setting.guard.phase.exit? = some exit →
      setting.Idle (setting.perform move) := fun exit hexit => idle_perform hexit move
  rcases setting.perform_cases move with hundisturbed | ⟨sight, step, _, hcase, hafter⟩
  · exact htallied.undisturbed hundisturbed (hvouched.sound.later_perform move)
  · rw [hafter] at hidle ⊢
    exact htallied.afterStep hending hvouched hcase hidle

theorem tallied_performAll (input : InputConfig) (restart : Bool) (condition : Condition)
    (moves : List (SettingMove σ)) :
    ((Setting.start input restart condition).performAll moves).Tallied := by
  have hall := performAll_induction
    (motive := fun setting => setting.Tallied ∧ setting.Ending ∧ setting.Vouched)
    ⟨Tallied.start input restart condition, Ending.start input restart condition,
      Vouched.start input restart condition⟩
    (fun setting (move : SettingMove σ) ⟨htallied, hending, hvouched⟩ =>
      ⟨htallied.perform hending hvouched move, hending.perform move, hvouched.perform move⟩)
    moves
  exact hall.1

end Tallied

/-- The balances of a guard's counters. -/
structure Balanced (σ : Type) (setting : Setting) : Prop where
  /-- All that was received was handed on, but for what the guard is busy with or had to give
  up because it was asked to close or nobody was there to take it. -/
  received : ∃ rest : List Transaction,
    setting.count .received =
        setting.count .propagated + setting.count .finalPropagated + rest.length ∧
      rest.length ≤ 1 ∧
        ∀ transaction ∈ rest,
          setting.guard.phase = .forwarding transaction ∨
            setting.guard.phase = .intercepting transaction ∨
              .gaveUp transaction.number ∈ setting.events ∧
                setting.guard.outlet.isBlocked = true ∧
                  ∃ exit, setting.guard.phase.exit? = some exit ∧
                    (exit = .closeRequested ∨ exit = .outputDropped)
  /-- Every candidate handed on was answered, but for the one that is awaited or was given up
  because the guard was asked to close. -/
  candidates : ∃ rest : List Nat,
    setting.count .finalPropagated = setting.count .finalResponseSent + rest.length ∧
      rest.length ≤ 1 ∧
        ∀ candidate ∈ rest,
          (∃ number, setting.guard.phase = .awaiting candidate number) ∨
            (∃ own, .intercepted candidate own ∈ setting.events) ∧
              .gaveUp candidate ∈ setting.events ∧
                setting.guard.phase.exit? = some .closeRequested ∧
                  setting.guard.outlet.isBlocked = true
  finalResponses : setting.count .finalResponseSent - setting.count .finalResponseError =
    if setting.guard.phase.exit? = some .conditionMet then 1 else 0
  restarts : setting.count .inputClosed = setting.count .restartSuccess +
    setting.count .restartError + if setting.guard.isBereft then 1 else 0
  restartErrors : setting.count .restartError ≤ 1
  running : setting.count .running = if setting.guard.phase.isCounted then 1 else 0
  /-- A guard counts as running until its input has confirmed that it has closed. -/
  closes : setting.guard.phase.isPast = true → setting.guard.current = true →
    .inputClosed ∈ setting.events
  waits : ∀ exit, setting.guard.phase = .closing exit →
    ∀ sight : Sight σ, sight.confirmed = false → setting.perform (.work sight) = setting

section Balanced

variable {σ : Type} {setting : Setting}

theorem Tallied.candidates (htallied : setting.Tallied) :
    ∃ rest : List Nat,
      setting.count .finalPropagated = setting.count .finalResponseSent + rest.length ∧
        rest.length ≤ 1 ∧
          ∀ candidate ∈ rest,
            (∃ number, setting.guard.phase = .awaiting candidate number) ∨
              (∃ own, .intercepted candidate own ∈ setting.events) ∧
                .gaveUp candidate ∈ setting.events ∧
                  setting.guard.phase.exit? = some .closeRequested ∧
                    setting.guard.outlet.isBlocked = true := by
  obtain ⟨lost, hcount, rfl | ⟨candidate, own, rfl, hput, hgave, hexit, hblocked⟩⟩ :=
    htallied.candidate
  · cases hphase : setting.guard.phase with
    | awaiting candidate number =>
        refine ⟨[candidate], by simpa [hphase, GuardPhase.isAwaiting] using hcount, by simp, ?_⟩
        intro other hother
        obtain rfl := List.mem_singleton.mp hother
        exact .inl ⟨number, rfl⟩
    | _ => exact ⟨[], by simpa [hphase, GuardPhase.isAwaiting] using hcount, by simp, by simp⟩
  · refine ⟨[candidate], ?_, by simp, ?_⟩
    · cases hphase : setting.guard.phase <;>
        simp_all [GuardPhase.isAwaiting, GuardPhase.exit?]
    · intro other hother
      obtain rfl := List.mem_singleton.mp hother
      exact .inr ⟨⟨own, hput⟩, hgave, hexit, hblocked⟩

/-- The counters of a guard are in balance, whatever its input and its holder do. -/
theorem guard_balanced (input : InputConfig) (restart : Bool) (condition : Condition)
    (moves : List (SettingMove σ)) :
    ((Setting.start input restart condition).performAll moves).Balanced σ := by
  have htallied := tallied_performAll input restart condition moves
  obtain ⟨done, lost, hconveyed⟩ := conveyed_performAll input restart condition moves
  constructor
  · refine ⟨_, ?_, hconveyed.rest_length_le, fun transaction => hconveyed.of_mem_rest⟩
    have hput := congrArg List.length hconveyed.payloads
    have htaken := congrArg List.length hconveyed.taken
    rw [List.length_map, List.length_map] at hput
    rw [List.length_append] at htaken
    rw [htallied.received, htallied.handedOn]
    omega
  · exact htallied.candidates
  · rw [htallied.finalResponse]
    omega
  · exact htallied.restart
  · rw [htallied.restartError]
    split <;> omega
  · exact htallied.running
  · exact htallied.past
  · intro exit hphase sight hunconfirmed
    simp [Setting.perform, Guard.step, hphase, hunconfirmed]

-- A candidate is received and handed on; then the guard is asked to close.
example :
    let shown (offer : Received) : SettingMove Unit :=
      .work ⟨offer, false, fun _ => .error .missingChild⟩
    let setting := (Setting.start (.memory []) false (.static true)).performAll
      [.make (.single [104]), shown .pending, shown .pending,
        shown (.transaction ⟨0, .single [104]⟩), shown .pending, .close, shown .pending]
    setting.count .finalPropagated = 1 ∧ setting.count .finalResponseSent = 0 ∧
      setting.count .running = 1 := by
  decide +kernel

end Balanced

end Setting

end Intake
