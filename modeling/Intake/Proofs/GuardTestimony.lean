import Intake.Proofs.GuardOwnership

/-!
# What the events of a guard vouch for

A guard says in its events what it did.  Here each kind of event is given a
meaning in terms of what went in, what came out and who was told what, and that
meaning is shown to hold from then on, whatever else happens.
-/

namespace Intake

/-- Whether the worker has been asked to close or nobody takes anything out. -/
def Outlet.isBlocked (outlet : Outlet) : Bool :=
  outlet.shutdown.signalled || outlet.refused

theorem Outlet.isBlocked_close {outlet : Outlet} (hblocked : outlet.isBlocked = true) :
    outlet.close.isBlocked = true := by
  cases hrequested : outlet.shutdown.requested <;>
    simp_all [isBlocked, close, Shutdown.request, Shutdown.requestClose]

theorem Outlet.isBlocked_take (outlet : Outlet) (receipts : Receipts)
    (hblocked : outlet.isBlocked = true) :
    (outlet.take receipts).1.isBlocked = true := by
  unfold take
  split
  · simp [isBlocked]
  · exact hblocked

/-- An obstacle is that the worker has been asked to close, or that nobody takes
anything out. -/
theorem Guard.exit_of_obstacle? {guard : Guard} {exit : Exit}
    (hexit : guard.obstacle? = some exit) :
    exit = .closeRequested ∧ guard.outlet.shutdown.signalled = true ∨
      exit = .outputDropped ∧ guard.outlet.refused = true := by
  unfold Guard.obstacle? at hexit
  split at hexit
  · next hsignalled => exact .inl ⟨(Option.some.inj hexit).symm, hsignalled⟩
  · split at hexit
    · next hrefused => exact .inr ⟨(Option.some.inj hexit).symm, hrefused⟩
    · exact absurd hexit (by simp)

theorem Guard.isBlocked_of_obstacle? {guard : Guard} {exit : Exit}
    (hexit : guard.obstacle? = some exit) : guard.outlet.isBlocked = true := by
  unfold Outlet.isBlocked
  rcases Guard.exit_of_obstacle? hexit with ⟨_, hsignalled⟩ | ⟨_, hrefused⟩
  · rw [hsignalled, Bool.true_or]
  · rw [hrefused, Bool.or_true]

namespace Setting

/-- A setting that comes later than another: nothing is forgotten, and what has
been decided stays. -/
structure Later (before after : Setting) : Prop where
  taken : before.taken ⊆ after.taken
  put : before.put ⊆ after.put
  events : before.events ⊆ after.events
  made : ∀ number ∈ after.made, number < before.receipts.next → number ∈ before.made
  issued : before.receipts.next ≤ after.receipts.next
  respects : before.accounts.Respects after.accounts
  blocked : before.guard.outlet.isBlocked = true → after.guard.outlet.isBlocked = true

section Later

variable {σ : Type} {setting : Setting}

theorem Later.refl (setting : Setting) : setting.Later setting :=
  ⟨List.Subset.refl _, List.Subset.refl _, List.Subset.refl _, fun _ hmade _ => hmade,
    Nat.le_refl _, Accounts.Respects.refl _, id⟩

/-- A guard that waits passes back a verdict and decides nothing else. -/
theorem Sound.respects_relay (hsound : setting.Sound) {candidate number : Nat}
    (hphase : setting.guard.phase = .awaiting candidate number) (verdict : Verdict) :
    setting.accounts.Respects (setting.accounts.update
      ((setting.receipts.look number).2.pronounce candidate verdict)) := by
  have hlook := setting.accounts.respects_look number
  have hanswer := (setting.accounts.update
    (setting.receipts.look number).2).respects_answer candidate verdict
  rw [Accounts.update_receipts, hsound.update_look hphase verdict] at hanswer
  exact hlook.trans hanswer

theorem Sound.respects_giveUp (hsound : setting.Sound) {candidate number : Nat}
    (hphase : setting.guard.phase = .awaiting candidate number) :
    setting.accounts.Respects (setting.accounts.update
      ((setting.receipts.abandon number).pronounce candidate none)) := by
  have habandon := setting.accounts.respects_abandon number
  have hanswer := (setting.accounts.update
    (setting.receipts.abandon number)).respects_answer candidate none
  rw [Accounts.update_receipts, hsound.update_abandon hphase none] at hanswer
  exact habandon.trans hanswer

/-- Receipts change in a step only in ways that respect what has been decided. -/
theorem Sound.respects_afterStep (hsound : setting.Sound) {sight : Sight σ}
    {move : GuardMove σ}
    (hcase : Guard.StepCase sight setting.receipts setting.guard move) :
    setting.accounts.Respects (setting.accounts.update move.receipts) := by
  cases hcase with
  | giveUpForwarding | giveUpIntercepting => exact Accounts.respects_answer _ _ none
  | intercepted => exact Accounts.respects_issue _
  | giveUpAwaiting hphase => exact hsound.respects_giveUp hphase
  | accepted hphase | rejected hphase | dropped hphase =>
      exact hsound.respects_relay hphase (some _)
  | _ =>
      have hsame : setting.accounts.update setting.receipts = setting.accounts :=
        Accounts.update_self
      rw [hsame]
      exact Accounts.Respects.refl _

theorem isBlocked_afterStep {sight : Sight σ} {move : GuardMove σ}
    (hcase : Guard.StepCase sight setting.receipts setting.guard move) :
    move.guard.outlet.isBlocked = setting.guard.outlet.isBlocked := by
  cases hcase <;> rfl

theorem Sound.later_afterStep (hsound : setting.Sound) {sight : Sight σ} {move : GuardMove σ}
    (hcase : Guard.StepCase sight setting.receipts setting.guard move) :
    setting.Later (setting.afterStep sight move) :=
  ⟨List.subset_append_left _ _, List.subset_append_left _ _, List.subset_append_left _ _,
    fun _ hmade _ => hmade, hcase.next_le, hsound.respects_afterStep hcase,
    fun hblocked => (isBlocked_afterStep hcase).trans hblocked⟩

theorem Later.around {outlet : Outlet} {accounts : Accounts} {ready : List Transaction}
    {held : List Nat} (hrespects : setting.accounts.Respects accounts)
    (hnext : accounts.receipts.next = setting.receipts.next)
    (hblocked : setting.guard.outlet.isBlocked = true → outlet.isBlocked = true) :
    setting.Later
      { setting with
        guard := { setting.guard with outlet }
        accounts
        ready
        held } :=
  ⟨List.Subset.refl _, List.Subset.refl _, List.Subset.refl _, fun _ hmade _ => hmade,
    hnext.ge, hrespects, hblocked⟩

theorem Sound.respects_lose (hsound : setting.Sound) :
    setting.accounts.Respects (setting.accounts.lose setting.guard.outlet.slot) := by
  cases hslot : setting.guard.outlet.slot with
  | none => exact Accounts.Respects.refl _
  | some lost =>
      apply Accounts.respects_pronounce
      apply hsound.kept.owed
      simp [outer, hslot]

theorem next_lose (lost : Option Transaction) :
    (setting.accounts.lose lost).receipts.next = setting.receipts.next := by
  cases lost with
  | none => rfl
  | some lost => exact Receipts.next_pronounce _ _ none

theorem Sound.later_perform (hsound : setting.Sound) (move : SettingMove σ) :
    setting.Later (setting.perform move) := by
  cases move with
  | work sight =>
      rcases setting.perform_work_cases sight with hsame | ⟨move, _, hcase, hafter⟩
      · rw [hsame]
        exact Later.refl setting
      · rw [hafter]
        exact hsound.later_afterStep hcase
  | make message =>
      refine ⟨List.Subset.refl _, List.Subset.refl _, List.Subset.refl _, ?_, ?_,
        Accounts.respects_issue _, id⟩
      · intro number hmade hissued
        rcases List.mem_cons.mp hmade with rfl | hold
        · exact absurd hissued (Nat.lt_irrefl _)
        · exact hold
      · change setting.receipts.next ≤ setting.receipts.issue.next
        rw [Receipts.next_issue]
        exact Nat.le_succ _
  | settle transaction verdict =>
      simp only [Setting.perform]
      split
      · exact Later.around (Accounts.respects_answer _ _ verdict)
          (Receipts.next_pronounce _ _ verdict) id
      · exact Later.refl setting
  | look number =>
      simp only [Setting.perform]
      split
      · exact Later.around (Accounts.respects_look _ _) (Receipts.next_look _ _) id
      · exact Later.refl setting
  | withdraw number =>
      simp only [Setting.perform]
      split
      · exact Later.around (Accounts.respects_abandon _ _) (Receipts.next_abandon _ _) id
      · exact Later.refl setting
  | receive =>
      have hblocked := setting.guard.outlet.isBlocked_take setting.receipts
      simp only [Setting.perform]
      cases hclosing : setting.guard.outlet.isClosing with
      | true =>
          simp only [loses?, hclosing, if_true]
          exact Later.around hsound.respects_lose (next_lose _) hblocked
      | false =>
          simp only [loses?, hclosing, Bool.false_eq_true, if_false]
          exact Later.around (Accounts.Respects.refl _) rfl hblocked
  | pronounce number verdict =>
      simp only [Setting.perform]
      split
      · next hheld =>
          refine Later.around (Accounts.respects_pronounce ?_ verdict)
            (Receipts.next_pronounce _ _ verdict) id
          exact hsound.kept.owed number
            (List.mem_append_right _ (List.mem_append_right _ hheld))
      · exact Later.refl setting
  | close => exact Later.around (Accounts.Respects.refl _) rfl Outlet.isBlocked_close
  | refuse | letGo =>
      refine Later.around hsound.respects_lose (next_lose _) ?_
      intro _
      simp [Outlet.isBlocked, Outlet.letGo]

end Later

/-! ## What has been said stays true -/

/-- What an event of a guard means. -/
def Vouches (setting : Setting) : GuardEvent → Prop
  | .forwarded transaction => transaction ∈ setting.taken ∧ transaction ∈ setting.put
  | .intercepted candidate own =>
      own ∈ setting.put ∧ own.number ∉ setting.made ∧
        ∃ transaction ∈ setting.taken,
          transaction.number = candidate ∧ transaction.payload = own.payload
  | .relayed candidate response =>
      setting.accounts.Heard candidate (some response) ∧
        ∃ own, .intercepted candidate own ∈ setting.events ∧
          setting.accounts.Decided own.number ∧
            (setting.accounts.pronounced own.number = [some response] ∨
              setting.accounts.pronounced own.number = [none] ∧
                response = .nack droppedCause)
  | .gaveUp number =>
      setting.accounts.Heard number none ∧ setting.guard.outlet.isBlocked = true
  | _ => True

/-- A transaction that was taken is still in the hands of the guard, or the guard
has said what became of it. -/
def Accounted (setting : Setting) (transaction : Transaction) : Prop :=
  .forwarded transaction ∈ setting.events ∨
    (∃ response, .relayed transaction.number response ∈ setting.events) ∨
      .gaveUp transaction.number ∈ setting.events ∨
        transaction.number ∈ setting.guard.phase.inHand

/-- Everything the guard has said is true, and all it took is accounted for. -/
structure Vouched (setting : Setting) : Prop where
  sound : setting.Sound
  vouches : ∀ event ∈ setting.events, setting.Vouches event
  awaiting : ∀ candidate number, setting.guard.phase = .awaiting candidate number →
    ∃ own : Transaction, own.number = number ∧
      .intercepted candidate own ∈ setting.events
  accounted : ∀ transaction ∈ setting.taken, setting.Accounted transaction

section Vouched

variable {σ : Type} {setting : Setting}

theorem Vouches.mono {before after : Setting} (hsound : before.Sound)
    (hlater : before.Later after) {event : GuardEvent} (hvouches : before.Vouches event) :
    after.Vouches event := by
  cases event with
  | forwarded transaction => exact ⟨hlater.taken hvouches.1, hlater.put hvouches.2⟩
  | intercepted candidate own =>
      obtain ⟨hput, hunmade, transaction, htaken, hnumber, hpayload⟩ := hvouches
      have hissued := hsound.kept.issued own.number (List.mem_map_of_mem hput)
      exact ⟨hlater.put hput, fun hmade => hunmade (hlater.made _ hmade hissued),
        transaction, hlater.taken htaken, hnumber, hpayload⟩
  | relayed candidate response =>
      obtain ⟨hheard, own, hintercepted, hdecided, hpronounced⟩ := hvouches
      obtain ⟨hstays, _, _, hsame⟩ := hlater.respects own.number hdecided
      refine ⟨hheard.mono hlater.respects, own, hlater.events hintercepted, hstays, ?_⟩
      rw [hsame]
      exact hpronounced
  | gaveUp number =>
      exact ⟨hvouches.1.mono hlater.respects, hlater.blocked hvouches.2⟩
  | _ => trivial

theorem Vouched.start (input : InputConfig) (restart : Bool) (condition : Condition) :
    (Setting.start input restart condition).Vouched :=
  ⟨Sound.start input restart condition, by simp [Setting.start], by simp [Setting.start],
    by simp [Setting.start]⟩

/-- What has been said stays true in a later setting, so only what is new there
needs to be looked at. -/
theorem Vouched.later {before after : Setting} (hvouched : before.Vouched)
    (hsound : after.Sound) (hlater : before.Later after)
    (hevents : ∀ event ∈ after.events, event ∈ before.events ∨ after.Vouches event)
    (hawaiting : ∀ candidate number, after.guard.phase = .awaiting candidate number →
      before.guard.phase = .awaiting candidate number ∨
        ∃ own : Transaction, own.number = number ∧ .intercepted candidate own ∈ after.events)
    (haccounted : ∀ transaction ∈ after.taken,
      transaction ∈ before.taken ∧ transaction.number ∉ before.guard.phase.inHand ∨
        after.Accounted transaction) : after.Vouched := by
  refine ⟨hsound, ?_, ?_, ?_⟩
  · intro event hevent
    rcases hevents event hevent with hold | hnew
    · exact (hvouched.vouches event hold).mono hvouched.sound hlater
    · exact hnew
  · intro candidate number hphase
    rcases hawaiting candidate number hphase with hold | hnew
    · obtain ⟨own, hnumber, hintercepted⟩ := hvouched.awaiting candidate number hold
      exact ⟨own, hnumber, hlater.events hintercepted⟩
    · exact hnew
  · intro transaction htaken
    rcases haccounted transaction htaken with ⟨hold, hgone⟩ | hnew
    · rcases hvouched.accounted transaction hold with hsaid | ⟨response, hsaid⟩ | hsaid | hhand
      · exact .inl (hlater.events hsaid)
      · exact .inr (.inl ⟨response, hlater.events hsaid⟩)
      · exact .inr (.inr (.inl (hlater.events hsaid)))
      · exact absurd hhand hgone
    · exact hnew

theorem Vouched.undisturbed {after : Setting} (hvouched : setting.Vouched)
    (hsound : after.Sound) (hlater : setting.Later after)
    (hundisturbed : setting.Undisturbed after) : after.Vouched := by
  obtain ⟨hphase, _, _, htaken, _, hevents⟩ := hundisturbed
  refine ⟨hsound, ?_, ?_, ?_⟩
  · rw [hevents]
    exact fun event hevent => (hvouched.vouches event hevent).mono hvouched.sound hlater
  · rw [hphase, hevents]
    exact hvouched.awaiting
  · rw [htaken]
    unfold Accounted
    rw [hphase, hevents]
    exact hvouched.accounted

section Steps

variable {sight : Sight σ} {move : GuardMove σ}

theorem mem_events_afterStep
    (hvouches : (setting.afterStep sight move).Vouches move.event) :
    ∀ event ∈ (setting.afterStep sight move).events,
      event ∈ setting.events ∨ (setting.afterStep sight move).Vouches event := by
  intro event hevent
  rcases List.mem_append.mp hevent with hold | hnew
  · exact .inl hold
  · rw [List.mem_singleton.mp hnew]
    exact .inr hvouches

theorem Vouched.quiet (hvouched : setting.Vouched)
    (hcase : Guard.StepCase sight setting.receipts setting.guard move)
    (hsound : (setting.afterStep sight move).Sound)
    (hbefore : setting.guard.phase.inHand = []) (hafter : move.guard.phase.inHand = [])
    (htakes : move.takes? sight = none)
    (hvouches : (setting.afterStep sight move).Vouches move.event) :
    (setting.afterStep sight move).Vouched := by
  apply hvouched.later hsound (hvouched.sound.later_afterStep hcase)
  · exact mem_events_afterStep hvouches
  · intro candidate number hphase
    change move.guard.phase = _ at hphase
    simp [hphase, GuardPhase.inHand] at hafter
  · intro transaction htaken
    left
    simpa [afterStep, htakes, hbefore] using htaken

theorem Vouched.take (hvouched : setting.Vouched)
    (hcase : Guard.StepCase sight setting.receipts setting.guard move)
    (hsound : (setting.afterStep sight move).Sound)
    (hbefore : setting.guard.phase.inHand = []) {transaction : Transaction}
    (hafter : move.guard.phase = .forwarding transaction ∨
      move.guard.phase = .intercepting transaction)
    (htakes : move.takes? sight = some transaction)
    (hvouches : (setting.afterStep sight move).Vouches move.event) :
    (setting.afterStep sight move).Vouched := by
  apply hvouched.later hsound (hvouched.sound.later_afterStep hcase)
  · exact mem_events_afterStep hvouches
  · intro candidate number hphase
    change move.guard.phase = _ at hphase
    rcases hafter with hafter | hafter <;> simp [hafter] at hphase
  · intro other htaken
    simp only [afterStep, htakes, Option.toList_some, List.mem_append,
      List.mem_singleton] at htaken
    rcases htaken with hold | rfl
    · exact .inl ⟨hold, by rw [hbefore]; exact List.not_mem_nil⟩
    · refine .inr (.inr (.inr (.inr ?_)))
      change other.number ∈ move.guard.phase.inHand
      rcases hafter with hafter | hafter <;> simp [hafter, GuardPhase.inHand]

theorem Vouched.settle (hvouched : setting.Vouched)
    (hcase : Guard.StepCase sight setting.receipts setting.guard move)
    (hsound : (setting.afterStep sight move).Sound) {number : Nat}
    (hbefore : setting.guard.phase.inHand = [number]) (hafter : move.guard.phase.inHand = [])
    (htakes : move.takes? sight = none)
    (hvouches : (setting.afterStep sight move).Vouches move.event)
    (haccounted : ∀ transaction ∈ setting.taken, transaction.number = number →
      (setting.afterStep sight move).Accounted transaction) :
    (setting.afterStep sight move).Vouched := by
  apply hvouched.later hsound (hvouched.sound.later_afterStep hcase)
  · exact mem_events_afterStep hvouches
  · intro candidate awaited hphase
    change move.guard.phase = _ at hphase
    simp [hphase, GuardPhase.inHand] at hafter
  · intro transaction htaken
    have htaken : transaction ∈ setting.taken := by
      simpa [afterStep, htakes] using htaken
    rw [hbefore, List.mem_singleton]
    by_cases hnumber : transaction.number = number
    · exact .inr (haccounted transaction htaken hnumber)
    · exact .inl ⟨htaken, hnumber⟩

theorem Sound.heard_giveUp (hsound : setting.Sound) {number : Nat}
    (hbefore : setting.guard.phase.inHand = [number]) :
    (setting.accounts.update (setting.receipts.forsake number)).Heard number none :=
  hsound.kept.heard_pronounce (hsound.owed_inHand hbefore) none

theorem Sound.heard_giveUpAwaiting (hsound : setting.Sound) {candidate number : Nat}
    (hphase : setting.guard.phase = .awaiting candidate number) :
    (setting.accounts.update
      ((setting.receipts.abandon number).pronounce candidate none)).Heard candidate none := by
  have hbefore : setting.guard.phase.inHand = [candidate] := by rw [hphase]; rfl
  have habandon := (hsound.kept_inHand hbefore).abandon number
  have howed := habandon.owed candidate (List.mem_append_left _ List.mem_cons_self)
  rw [← hsound.update_abandon hphase none]
  exact habandon.heard_pronounce howed none

theorem Sound.heard_relay (hsound : setting.Sound) {candidate number : Nat}
    (hphase : setting.guard.phase = .awaiting candidate number) (response : Response) :
    (setting.accounts.update
      ((setting.receipts.look number).2.pronounce candidate (some response))).Heard candidate
        (some response) := by
  have hbefore : setting.guard.phase.inHand = [candidate] := by rw [hphase]; rfl
  have hlook := (hsound.kept_inHand hbefore).look number
  have howed := hlook.owed candidate (List.mem_append_left _ List.mem_cons_self)
  rw [← hsound.update_look hphase (some response)]
  exact hlook.heard_pronounce howed (some response)

/-- A receipt that the guard waits for and finds closed has been dropped. -/
theorem Sound.get_of_closed (hsound : setting.Sound) {candidate number : Nat}
    (hphase : setting.guard.phase = .awaiting candidate number)
    (hlook : (setting.receipts.get number).look.2 = .closed) :
    setting.receipts.get number = .forsaken := by
  obtain ⟨_, _, _, hawaited⟩ := hsound.awaited candidate number hphase
  rcases Receipt.look_closed_iff.mp hlook with hforsaken | habandoned | hsettled
  · exact hforsaken
  · simp [habandoned, Receipt.isAwaited] at hawaited
  · simp [hsettled, Receipt.isAwaited] at hawaited

/-- The guard passes a response back that stands for what the holder said. -/
theorem Vouched.relay (hvouched : setting.Vouched)
    (hcase : Guard.StepCase sight setting.receipts setting.guard move)
    (hsound : (setting.afterStep sight move).Sound) {candidate number : Nat}
    {response : Response} (verdict : Verdict)
    (hphase : setting.guard.phase = .awaiting candidate number)
    (hafter : move.guard.phase.inHand = []) (htakes : move.takes? sight = none)
    (hevent : move.event = .relayed candidate response)
    (hreceipts : move.receipts =
      ((setting.receipts.look number).2.respond candidate response).2)
    (hget : setting.receipts.get number = Receipt.open.pronounce verdict)
    (hverdict : verdict = some response ∨ verdict = none ∧ response = .nack droppedCause) :
    (setting.afterStep sight move).Vouched := by
  have hsaid : .relayed candidate response ∈ (setting.afterStep sight move).events := by
    simp [Setting.afterStep, hevent]
  have hbefore : setting.guard.phase.inHand = [candidate] := by rw [hphase]; rfl
  apply hvouched.settle hcase hsound hbefore hafter htakes
  · obtain ⟨own, hnumber, hintercepted⟩ := hvouched.awaiting candidate number hphase
    have hput : own ∈ setting.put := (hvouched.vouches _ hintercepted).1
    have houtward : own.number ∈ setting.put.map Transaction.number :=
      List.mem_map_of_mem hput
    have hdecided : setting.accounts.Decided own.number := by
      refine ⟨hvouched.sound.kept.issued _ houtward, ?_⟩
      change (setting.receipts.get own.number).isOwed = false
      rw [hnumber, hget]
      cases verdict <;> rfl
    -- what the guard sees on its own transaction is what the holder pronounced on it
    have hpronounced : setting.accounts.pronounced own.number = [verdict] := by
      apply hvouched.sound.kept.pronounced_of_get houtward
      rw [hnumber]
      exact hget
    have hlater := hvouched.sound.later_afterStep hcase
    rw [hevent]
    refine ⟨?_, own, hlater.events hintercepted, (hlater.respects _ hdecided).1, ?_⟩
    · change (setting.accounts.update move.receipts).Heard candidate (some response)
      rw [hreceipts]
      exact hvouched.sound.heard_relay hphase response
    · change setting.accounts.pronounced own.number = _ ∨
        setting.accounts.pronounced own.number = _ ∧ _
      rw [hpronounced]
      rcases hverdict with rfl | ⟨rfl, hcause⟩
      · exact .inl rfl
      · exact .inr ⟨rfl, hcause⟩
  · rintro transaction htaken rfl
    exact .inr (.inl ⟨response, hsaid⟩)

theorem Vouched.afterStep (hvouched : setting.Vouched) (hshows : setting.shows sight = true)
    (hcase : Guard.StepCase sight setting.receipts setting.guard move) :
    (setting.afterStep sight move).Vouched := by
  have hsound := hvouched.sound.afterStep hshows hcase
  have hlater := hvouched.sound.later_afterStep hcase
  have hstep := hcase
  cases hcase with
  | started hphase | stopDeciding hphase | turnToInput hphase | exhausted hphase
  | rebuilt hphase | rebuildFailed hphase | stopReceiving hphase | inputEnded hphase
  | askedToClose hphase | leftAlone hphase | inputClosed hphase | stopped hphase
  | released hphase | confirmed hphase =>
      exact hvouched.quiet hstep hsound (by rw [hphase]; rfl) rfl
        rfl trivial
  | received hphase _ hoffer =>
      exact hvouched.take hstep hsound (by rw [hphase]; rfl)
        (.inl rfl) (by simp [GuardMove.takes?, hoffer]) trivial
  | receivedCandidate hphase _ hoffer =>
      exact hvouched.take hstep hsound (by rw [hphase]; rfl)
        (.inr rfl) (by simp [GuardMove.takes?, hoffer]) trivial
  | @giveUpForwarding transaction exit hphase hexit =>
      have hbefore : setting.guard.phase.inHand = [transaction.number] := by rw [hphase]; rfl
      apply hvouched.settle hstep hsound hbefore rfl rfl
      · exact ⟨hvouched.sound.heard_giveUp hbefore, Guard.isBlocked_of_obstacle? hexit⟩
      · intro transaction _ hnumber
        simp [Accounted, Setting.afterStep, hnumber]
  | @giveUpIntercepting candidate exit hphase hexit =>
      have hbefore : setting.guard.phase.inHand = [candidate.number] := by rw [hphase]; rfl
      apply hvouched.settle hstep hsound hbefore rfl rfl
      · exact ⟨hvouched.sound.heard_giveUp hbefore, Guard.isBlocked_of_obstacle? hexit⟩
      · intro transaction _ hnumber
        simp [Accounted, Setting.afterStep, hnumber]
  | @giveUpAwaiting candidate number hphase hclosing =>
      have hbefore : setting.guard.phase.inHand = [candidate] := by rw [hphase]; rfl
      apply hvouched.settle hstep hsound hbefore rfl rfl
      · refine ⟨hvouched.sound.heard_giveUpAwaiting hphase, ?_⟩
        change setting.guard.outlet.isBlocked = true
        rw [Outlet.isBlocked, hclosing, Bool.true_or]
      · intro transaction _ hnumber
        simp [Accounted, Setting.afterStep, hnumber]
  | accepted hphase _ hanswered | rejected hphase _ hanswered =>
      exact hvouched.relay hstep hsound (some _) hphase rfl rfl rfl rfl hanswered (.inl rfl)
  | dropped hphase _ hlook =>
      have hforsaken := hvouched.sound.get_of_closed hphase hlook
      exact hvouched.relay hstep hsound none hphase rfl rfl rfl rfl hforsaken
        (.inr ⟨rfl, rfl⟩)
  | @forwarded transaction hphase hclear hroom =>
      have hbefore : setting.guard.phase.inHand = [transaction.number] := by rw [hphase]; rfl
      have hhand := hvouched.sound.inHandTaken transaction (.inl hphase)
      apply hvouched.settle hstep hsound hbefore rfl rfl
      · refine ⟨hlater.taken hhand, ?_⟩
        simp [Setting.afterStep, GuardMove.puts?, hroom, Outlet.put]
      · intro other htaken hnumber
        obtain rfl := List.inj_on_of_nodup_map hvouched.sound.takenOnce htaken hhand hnumber
        simp [Accounted, Setting.afterStep]
  | @intercepted candidate hphase hclear hroom =>
      have hhand := hvouched.sound.inHandTaken candidate (.inr hphase)
      have hsaid : .intercepted candidate.number ⟨setting.receipts.next, candidate.payload⟩ ∈
          (setting.afterStep sight
            { event := .intercepted candidate.number
                ⟨setting.receipts.next, candidate.payload⟩,
              guard := { setting.guard with
                outlet := setting.guard.outlet.put
                  ⟨setting.receipts.next, candidate.payload⟩
                phase := .awaiting candidate.number setting.receipts.next },
              receipts := setting.receipts.issue }).events := by
        simp [Setting.afterStep]
      apply hvouched.later hsound hlater
      · apply mem_events_afterStep
        obtain ⟨_, hunmade, _, _⟩ := hsound.awaited _ _ rfl
        refine ⟨?_, hunmade, candidate, hlater.taken hhand, rfl, rfl⟩
        simp [Setting.afterStep, GuardMove.puts?, hroom, Outlet.put]
      · intro number own hawaiting
        cases hawaiting
        exact .inr ⟨_, rfl, hsaid⟩
      · intro other htaken
        have htaken : other ∈ setting.taken := by
          simpa [Setting.afterStep, GuardMove.takes?] using htaken
        by_cases hnumber : other.number = candidate.number
        · refine .inr (.inr (.inr (.inr ?_)))
          simp [Setting.afterStep, GuardPhase.inHand, hnumber]
        · left
          simpa [hphase, GuardPhase.inHand] using ⟨htaken, hnumber⟩

end Steps

theorem Vouched.perform (hvouched : setting.Vouched) (move : SettingMove σ) :
    (setting.perform move).Vouched := by
  have hsound := hvouched.sound.perform move
  have hlater := hvouched.sound.later_perform move
  rcases setting.perform_cases move with hundisturbed | ⟨sight, step, hshows, hcase, hafter⟩
  · exact hvouched.undisturbed hsound hlater hundisturbed
  · rw [hafter]
    exact hvouched.afterStep hshows hcase

/-- Nothing the guard ever said is false. -/
theorem vouched_performAll (input : InputConfig) (restart : Bool) (condition : Condition)
    (moves : List (SettingMove σ)) :
    ((Setting.start input restart condition).performAll moves).Vouched :=
  performAll_induction (Vouched.start input restart condition)
    (fun _ move hvouched => hvouched.perform move) moves

end Vouched

end Setting

end Intake
