import Intake.Proofs.GuardEnding

/-!
# A guard hands on what it takes

Whatever its input and its holder do, a guard hands on each transaction that it
takes once and in order, having checked its message once, unchanged if the
condition did not meet it and as a transaction of its own if it did.  Only the
last one can be missing: as long as the guard is busy with it, or for good when
the guard was stopped.
-/

namespace Intake

namespace Condition

theorem checkAll_length (condition : Condition) (messages : List Message) :
    (condition.checkAll messages).1.length = messages.length := by
  induction messages generalizing condition with
  | nil => rfl
  | cons message rest ih => simp [checkAll, ih]

theorem checkAll_append (condition : Condition) (first second : List Message) :
    condition.checkAll (first ++ second) =
      ((condition.checkAll first).1 ++ ((condition.checkAll first).2.checkAll second).1,
        ((condition.checkAll first).2.checkAll second).2) := by
  induction first generalizing condition with
  | nil => rfl
  | cons message rest ih => simp [checkAll, ih]

theorem checkAll_concat (condition : Condition) (messages : List Message)
    (message : Message) :
    condition.checkAll (messages ++ [message]) =
      ((condition.checkAll messages).1 ++
          [((condition.checkAll messages).2.check message).1],
        ((condition.checkAll messages).2.check message).2) := by
  rw [checkAll_append]
  rfl

end Condition

/-- The transactions that a guard in a phase is about to hand on. -/
def GuardPhase.pending : GuardPhase → List Transaction
  | .forwarding transaction => [transaction]
  | .intercepting candidate => [candidate]
  | _ => []

/-- How what is handed on comes of what was taken: unchanged, or in a transaction
of the guard's own if the condition met the message. -/
inductive ComesOf (made : List Nat) : Transaction → Bool × Transaction → Prop where
  | unchanged (transaction : Transaction) : ComesOf made transaction (false, transaction)
  | renewed {own transaction : Transaction} (hpayload : own.payload = transaction.payload)
      (hown : own.number ∉ made) : ComesOf made own (true, transaction)

theorem ComesOf.payload {made : List Nat} {own : Transaction} {taken : Bool × Transaction}
    (hcomes : ComesOf made own taken) : own.payload = taken.2.payload := by
  cases hcomes with
  | unchanged => rfl
  | renewed hpayload => exact hpayload

namespace Setting

/-- What the condition says of transactions taken in turn. -/
def marks (condition : Condition) (transactions : List Transaction) :
    List (Bool × Transaction) :=
  (condition.checkAll (transactions.map Transaction.payload)).1.zip transactions

theorem marks_concat (condition : Condition) (transactions : List Transaction)
    (transaction : Transaction) :
    marks condition (transactions ++ [transaction]) =
      marks condition transactions ++
        [(((condition.checkAll (transactions.map Transaction.payload)).2.check
          transaction.payload).1, transaction)] := by
  unfold marks
  rw [List.map_append, List.map_singleton, Condition.checkAll_concat]
  rw [List.zip_append (by simp [Condition.checkAll_length])]
  rfl

/-- What a guard that started with a condition has handed on, `done` being what
it is through with and `lost` what it gave up instead of handing it on. -/
structure Conveyed (condition : Condition) (setting : Setting)
    (done lost : List Transaction) : Prop where
  taken : setting.taken = done ++ (setting.guard.phase.pending ++ lost)
  handedOn : List.Forall₂ (ComesOf setting.made) setting.put (marks condition done)
  checked : setting.guard.condition =
    (condition.checkAll (setting.taken.map Transaction.payload)).2
  unmet : ∀ transaction, setting.guard.phase = .forwarding transaction →
    ((condition.checkAll (done.map Transaction.payload)).2.check transaction.payload).1 = false
  met : ∀ transaction, setting.guard.phase = .intercepting transaction →
    ((condition.checkAll (done.map Transaction.payload)).2.check transaction.payload).1 = true
  lost : lost = [] ∨ ∃ transaction exit, lost = [transaction] ∧
    setting.guard.phase.exit? = some exit ∧ .gaveUp transaction.number ∈ setting.events ∧
      setting.guard.outlet.isBlocked = true ∧
        (exit = .closeRequested ∨ exit = .outputDropped)

section Conveyed

variable {σ : Type} {setting : Setting} {condition : Condition} {sight : Sight σ}
  {move : GuardMove σ} {done lost : List Transaction}

theorem Conveyed.start (input : InputConfig) (restart : Bool) (condition : Condition) :
    (Setting.start input restart condition).Conveyed condition [] [] := by
  constructor
  · rfl
  · exact List.Forall₂.nil
  · rfl
  · simp [Setting.start]
  · simp [Setting.start]
  · exact .inl rfl

theorem Conveyed.lost_eq_nil (hconveyed : setting.Conveyed condition done lost)
    (hexit : setting.guard.phase.exit? = none) : lost = [] := by
  rcases hconveyed.lost with hnone | ⟨_, exit, _, hsome, _⟩
  · exact hnone
  · rw [hexit] at hsome
    exact absurd hsome (by simp)

theorem Conveyed.undisturbed {after : Setting}
    (hconveyed : setting.Conveyed condition done lost) (hsound : setting.Sound)
    (hlater : setting.Later after) (hundisturbed : setting.Undisturbed after) :
    after.Conveyed condition done lost := by
  obtain ⟨hphase, _, hcondition, htaken, hput, _⟩ := hundisturbed
  constructor
  · rw [htaken, hphase]
    exact hconveyed.taken
  · rw [hput]
    -- what has been put was issued before anything the input makes now
    have hissued : ∀ own ∈ setting.put, own.number < setting.receipts.next :=
      fun own hown => hsound.kept.issued own.number (List.mem_map_of_mem hown)
    apply ((List.forall₂_and_left _ _).mpr ⟨hissued, hconveyed.handedOn⟩).imp
    rintro own mark ⟨hold, hcomes⟩
    cases hcomes with
    | unchanged => exact .unchanged own
    | renewed hpayload hown =>
        exact .renewed hpayload fun hmade => hown (hlater.made _ hmade hold)
  · rw [hcondition, htaken]
    exact hconveyed.checked
  · rw [hphase]
    exact hconveyed.unmet
  · rw [hphase]
    exact hconveyed.met
  · rcases hconveyed.lost with hnone | ⟨transaction, exit, hone, hexit, hsaid, hblocked, hwhy⟩
    · exact .inl hnone
    · exact .inr ⟨transaction, exit, hone, hphase ▸ hexit, hlater.events hsaid,
        hlater.blocked hblocked, hwhy⟩

theorem Conveyed.quiet (hconveyed : setting.Conveyed condition done lost)
    (hbefore : setting.guard.phase.pending = []) (hafter : move.guard.phase.pending = [])
    (hslot : move.guard.outlet.slot = setting.guard.outlet.slot)
    (hcondition : move.guard.condition = setting.guard.condition)
    (hexit : setting.guard.phase.exit? = none ∨
      move.guard.phase.exit? = setting.guard.phase.exit?)
    (hblocked : move.guard.outlet.isBlocked = setting.guard.outlet.isBlocked)
    (htakes : move.takes? sight = none) :
    (setting.afterStep sight move).Conveyed condition done lost := by
  have htaken : (setting.afterStep sight move).taken = setting.taken := by
    simp [afterStep, htakes]
  have hput : (setting.afterStep sight move).put = setting.put := by
    simp [afterStep, puts?_of_slot_eq hslot]
  constructor
  · have hold := hconveyed.taken
    rw [hbefore] at hold
    rw [htaken, hold]
    exact congrArg (fun rest => done ++ (rest ++ lost)) hafter.symm
  · rw [hput]
    exact hconveyed.handedOn
  · rw [htaken]
    exact hcondition.trans hconveyed.checked
  · intro transaction hphase
    change move.guard.phase = _ at hphase
    simp [hphase, GuardPhase.pending] at hafter
  · intro transaction hphase
    change move.guard.phase = _ at hphase
    simp [hphase, GuardPhase.pending] at hafter
  · rcases hconveyed.lost with hnone | ⟨transaction, exit, hone, hsome, hsaid, hstopped, hwhy⟩
    · exact .inl hnone
    · refine .inr ⟨transaction, exit, hone, ?_, List.mem_append_left _ hsaid,
        hblocked.trans hstopped, hwhy⟩
      rcases hexit with hopen | hsame
      · rw [hopen] at hsome
        exact absurd hsome (by simp)
      · exact hsame.trans hsome

theorem Conveyed.take (hconveyed : setting.Conveyed condition done lost)
    (hphase : setting.guard.phase = .receiving) {transaction : Transaction}
    (hafter : move.guard.phase =
      if (setting.guard.condition.check transaction.payload).1 then .intercepting transaction
      else .forwarding transaction)
    (hcondition : move.guard.condition =
      (setting.guard.condition.check transaction.payload).2)
    (hslot : move.guard.outlet.slot = setting.guard.outlet.slot)
    (htakes : move.takes? sight = some transaction) :
    (setting.afterStep sight move).Conveyed condition done [] := by
  obtain rfl := hconveyed.lost_eq_nil (by rw [hphase]; rfl)
  have hdone : setting.taken = done := by
    simpa [hphase, GuardPhase.pending] using hconveyed.taken
  have hchecked : setting.guard.condition =
      (condition.checkAll (done.map Transaction.payload)).2 := by
    rw [← hdone]
    exact hconveyed.checked
  have htaken : (setting.afterStep sight move).taken = done ++ [transaction] := by
    simp [afterStep, htakes, hdone]
  have hput : (setting.afterStep sight move).put = setting.put := by
    simp [afterStep, puts?_of_slot_eq hslot]
  have hnow : (setting.afterStep sight move).guard.phase = move.guard.phase := rfl
  have hpending : move.guard.phase.pending = [transaction] := by
    rw [hafter]
    split <;> rfl
  constructor
  · rw [htaken, hnow, hpending]
    rfl
  · rw [hput]
    exact hconveyed.handedOn
  · rw [htaken, List.map_append, List.map_singleton, Condition.checkAll_concat, ← hchecked]
    exact hcondition
  · intro other hother
    rw [hnow, hafter] at hother
    rw [← hchecked]
    split at hother
    · simp at hother
    · next hunmet =>
        cases hother
        simpa using hunmet
  · intro other hother
    rw [hnow, hafter] at hother
    rw [← hchecked]
    split at hother
    · next hmet =>
        cases hother
        exact hmet
    · simp at hother
  · exact .inl rfl

theorem Conveyed.giveUp (hconveyed : setting.Conveyed condition done lost)
    {transaction : Transaction} {exit : Exit}
    (hbefore : setting.guard.phase.pending = [transaction])
    (hopen : setting.guard.phase.exit? = none) (hexit : setting.guard.obstacle? = some exit) :
    (setting.afterStep sight
      { event := .gaveUp transaction.number, guard := setting.guard.enter (.leaving exit),
        receipts := setting.receipts.forsake transaction.number }).Conveyed condition done
          [transaction] := by
  obtain rfl := hconveyed.lost_eq_nil hopen
  have hsame := hconveyed.taken
  rw [hbefore] at hsame
  constructor
  · simpa [afterStep, GuardMove.takes?, Guard.enter, GuardPhase.pending] using hsame
  · rw [afterStep, puts?_of_slot_eq rfl, Option.toList_none, List.append_nil]
    exact hconveyed.handedOn
  · simpa [afterStep, GuardMove.takes?, Guard.enter] using hconveyed.checked
  · intro other hother
    simp [afterStep, Guard.enter] at hother
  · intro other hother
    simp [afterStep, Guard.enter] at hother
  · have hwhy : exit = .closeRequested ∨ exit = .outputDropped :=
      (Guard.exit_of_obstacle? hexit).imp And.left And.left
    exact .inr ⟨transaction, exit, rfl, rfl, by simp [afterStep],
      Guard.isBlocked_of_obstacle? hexit, hwhy⟩

theorem Conveyed.handOn (hconveyed : setting.Conveyed condition done lost)
    {transaction own : Transaction} (hbefore : setting.guard.phase.pending = [transaction])
    (hopen : setting.guard.phase.exit? = none) (hafter : move.guard.phase.pending = [])
    (hroom : setting.guard.outlet.slot = none)
    (hslot : move.guard.outlet.slot = some own)
    (hcondition : move.guard.condition = setting.guard.condition)
    (htakes : move.takes? sight = none)
    (hcomes : ComesOf setting.made own
      (((condition.checkAll (done.map Transaction.payload)).2.check transaction.payload).1,
        transaction)) :
    (setting.afterStep sight move).Conveyed condition (done ++ [transaction]) [] := by
  obtain rfl := hconveyed.lost_eq_nil hopen
  have hsame := hconveyed.taken
  rw [hbefore] at hsame
  have htaken : (setting.afterStep sight move).taken = setting.taken := by
    simp [afterStep, htakes]
  have hput : (setting.afterStep sight move).put = setting.put ++ [own] := by
    simp [afterStep, GuardMove.puts?, hroom, hslot]
  have hnow : (setting.afterStep sight move).guard.phase.pending = [] := hafter
  constructor
  · rw [htaken, hnow, hsame]
    simp
  · rw [hput, marks_concat]
    exact List.rel_append hconveyed.handedOn (List.Forall₂.cons hcomes List.Forall₂.nil)
  · rw [htaken]
    exact hcondition.trans hconveyed.checked
  · intro other hother
    rw [hother] at hnow
    simp [GuardPhase.pending] at hnow
  · intro other hother
    rw [hother] at hnow
    simp [GuardPhase.pending] at hnow
  · exact .inl rfl

theorem Conveyed.afterStep (hconveyed : setting.Conveyed condition done lost)
    (hsound : setting.Sound)
    (hcase : Guard.StepCase sight setting.receipts setting.guard move) :
    ∃ done lost, (setting.afterStep sight move).Conveyed condition done lost := by
  cases hcase with
  | started hphase | stopDeciding hphase | turnToInput hphase | exhausted hphase
  | rebuilt hphase | rebuildFailed hphase | stopReceiving hphase | inputEnded hphase
  | giveUpAwaiting hphase | accepted hphase | rejected hphase | dropped hphase =>
      exact ⟨done, lost, hconveyed.quiet (by rw [hphase]; rfl) rfl rfl rfl
        (.inl (by rw [hphase]; rfl)) rfl rfl⟩
  | askedToClose hphase | leftAlone hphase | inputClosed hphase | stopped hphase
  | released hphase | confirmed hphase =>
      exact ⟨done, lost, hconveyed.quiet (by rw [hphase]; rfl) rfl rfl rfl
        (.inr (by rw [hphase]; rfl)) rfl rfl⟩
  | received hphase _ hoffer hmet =>
      exact ⟨done, [], hconveyed.take hphase (by rw [hmet]; rfl) rfl rfl
        (by simp [GuardMove.takes?, hoffer])⟩
  | receivedCandidate hphase _ hoffer hmet =>
      exact ⟨done, [], hconveyed.take hphase (by rw [hmet]; rfl) rfl rfl
        (by simp [GuardMove.takes?, hoffer])⟩
  | giveUpForwarding hphase hexit | giveUpIntercepting hphase hexit =>
      exact ⟨done, [_], hconveyed.giveUp (by rw [hphase]; rfl) (by rw [hphase]; rfl) hexit⟩
  | @forwarded transaction hphase _ hroom =>
      refine ⟨done ++ [transaction], [], ?_⟩
      apply hconveyed.handOn (by rw [hphase]; rfl) (by rw [hphase]; rfl) rfl hroom rfl rfl rfl
      rw [hconveyed.unmet transaction hphase]
      exact .unchanged transaction
  | @intercepted candidate hphase _ hroom =>
      refine ⟨done ++ [candidate], [], ?_⟩
      apply hconveyed.handOn (by rw [hphase]; rfl) (by rw [hphase]; rfl) rfl hroom rfl rfl rfl
      rw [hconveyed.met candidate hphase]
      exact .renewed rfl fun hmade => Nat.lt_irrefl _ (hsound.madeIssued _ hmade)

theorem Conveyed.perform (hconveyed : setting.Conveyed condition done lost)
    (hsound : setting.Sound) (move : SettingMove σ) :
    ∃ done lost, (setting.perform move).Conveyed condition done lost := by
  rcases setting.perform_cases move with hundisturbed | ⟨sight, step, _, hcase, hafter⟩
  · exact ⟨done, lost, hconveyed.undisturbed hsound (hsound.later_perform move) hundisturbed⟩
  · rw [hafter]
    exact hconveyed.afterStep hsound hcase

theorem conveyed_performAll (input : InputConfig) (restart : Bool) (condition : Condition)
    (moves : List (SettingMove σ)) :
    ∃ done lost, ((Setting.start input restart condition).performAll moves).Conveyed
      condition done lost := by
  have hboth := performAll_induction
    (motive := fun setting => setting.Sound ∧
      ∃ done lost, setting.Conveyed condition done lost)
    ⟨Sound.start input restart condition, [], [], Conveyed.start input restart condition⟩
    (fun setting (move : SettingMove σ) hkept => by
      obtain ⟨hsound, done, lost, hconveyed⟩ := hkept
      exact ⟨hsound.perform move, hconveyed.perform hsound move⟩)
    moves
  exact hboth.2

end Conveyed

/-- What a guard that started with a condition does with all that it takes. -/
structure Conveys (σ : Type) (condition : Condition) (setting : Setting) : Prop where
  /-- All but the last transaction taken has been handed on, once and in order,
  and the last one too unless the guard is busy with it or was stopped. -/
  inOrder : ∃ done rest,
    setting.taken = done ++ rest ∧
      setting.put.map Transaction.payload = done.map Transaction.payload ∧
        List.Forall₂ (ComesOf setting.made) setting.put (marks condition done) ∧
          rest.length ≤ 1 ∧
            ∀ transaction ∈ rest,
              setting.guard.phase = .forwarding transaction ∨
                setting.guard.phase = .intercepting transaction ∨
                  .gaveUp transaction.number ∈ setting.events ∧
                    setting.guard.outlet.isBlocked = true ∧
                      ∃ exit, setting.guard.phase.exit? = some exit ∧
                        (exit = .closeRequested ∨ exit = .outputDropped)
  checkedOnce : setting.guard.condition =
    (condition.checkAll (setting.taken.map Transaction.payload)).2
  /-- A response that is passed back is the holder's to a message that met the
  condition, or stands for a drop. -/
  passedBack : ∀ candidate response, .relayed candidate response ∈ setting.events →
    ∃ transaction ∈ setting.taken, ∃ own ∈ setting.put,
      transaction.number = candidate ∧ own.number ∉ setting.made ∧
        own.payload = transaction.payload ∧
          (setting.accounts.pronounced own.number = [some response] ∨
            setting.accounts.pronounced own.number = [none] ∧ response = .nack droppedCause)
  /-- A guard that sees what the holder said stops on an acknowledgement only. -/
  seen : ∀ candidate number, setting.guard.phase = .awaiting candidate number →
    setting.guard.outlet.shutdown.signalled = false →
      ∀ verdict, setting.accounts.pronounced number = [verdict] →
        ∀ sight : Sight σ, setting.shows sight = true →
          (setting.perform (.work sight)).guard.phase =
            if verdict.accepts then .leaving .conditionMet else .deciding
  accepted : ∀ candidate response, .relayed candidate response ∈ setting.events →
    response.isAck = true → setting.guard.phase.exit? = some .conditionMet
  rejected : ∀ candidate response,
    setting.events.getLast? = some (.relayed candidate response) →
      response.isAck = false →
        setting.guard.phase = .deciding ∧ setting.guard.current = true
  met : setting.guard.phase.exit? = some .conditionMet →
    ∃ transaction response, setting.taken.getLast? = some transaction ∧
      .relayed transaction.number response ∈ setting.events ∧ response.isAck = true
  /-- A guard that is stopping takes, checks and hands on nothing ever again. -/
  still : ∀ exit, setting.guard.phase.exit? = some exit →
    ∀ moves : List (SettingMove σ), setting.Idle (setting.performAll moves)

section Conveys

variable {σ : Type} {setting : Setting} {condition : Condition} {done lost : List Transaction}

theorem Conveyed.payloads (hconveyed : setting.Conveyed condition done lost) :
    setting.put.map Transaction.payload = done.map Transaction.payload := by
  have hmarks : (marks condition done).map Prod.snd = done := by
    unfold marks
    exact List.map_snd_zip (by simp [Condition.checkAll_length])
  have hpayloads : setting.put.map Transaction.payload =
      (marks condition done).map (fun mark => mark.2.payload) := by
    rw [← List.forall₂_eq_eq_eq, List.forall₂_map_left_iff, List.forall₂_map_right_iff]
    exact hconveyed.handedOn.imp fun own mark hcomes => hcomes.payload
  calc
    setting.put.map Transaction.payload =
        ((marks condition done).map Prod.snd).map Transaction.payload := by
      rw [hpayloads, List.map_map]
      rfl
    _ = done.map Transaction.payload := by rw [hmarks]

/-- What has not been handed on is at most one transaction, the last. -/
theorem Conveyed.rest_length_le (hconveyed : setting.Conveyed condition done lost) :
    (setting.guard.phase.pending ++ lost).length ≤ 1 := by
  rcases hconveyed.lost with rfl | ⟨transaction, exit, rfl, hexit, _⟩
  · cases setting.guard.phase <;> simp [GuardPhase.pending]
  · cases hphase : setting.guard.phase <;>
      simp_all [GuardPhase.pending, GuardPhase.exit?]

theorem Conveyed.of_mem_rest (hconveyed : setting.Conveyed condition done lost)
    {transaction : Transaction} (hrest : transaction ∈ setting.guard.phase.pending ++ lost) :
    setting.guard.phase = .forwarding transaction ∨
      setting.guard.phase = .intercepting transaction ∨
        .gaveUp transaction.number ∈ setting.events ∧
          setting.guard.outlet.isBlocked = true ∧
            ∃ exit, setting.guard.phase.exit? = some exit ∧
              (exit = .closeRequested ∨ exit = .outputDropped) := by
  rcases List.mem_append.mp hrest with hpending | hlost
  · cases hphase : setting.guard.phase <;>
      simp_all [GuardPhase.pending]
  · rcases hconveyed.lost with rfl | ⟨other, exit, rfl, hexit, hsaid, hblocked, hwhy⟩
    · exact absurd hlost List.not_mem_nil
    · obtain rfl := List.mem_singleton.mp hlost
      exact .inr (.inr ⟨hsaid, hblocked, exit, hexit, hwhy⟩)

theorem Vouched.of_relayed (hvouched : setting.Vouched) {candidate : Nat}
    {response : Response} (hsaid : .relayed candidate response ∈ setting.events) :
    ∃ transaction ∈ setting.taken, ∃ own ∈ setting.put,
      transaction.number = candidate ∧ own.number ∉ setting.made ∧
        own.payload = transaction.payload ∧
          (setting.accounts.pronounced own.number = [some response] ∨
            setting.accounts.pronounced own.number = [none] ∧
              response = .nack droppedCause) := by
  obtain ⟨_, own, hintercepted, _, hpronounced⟩ := hvouched.vouches _ hsaid
  obtain ⟨hput, hunmade, transaction, htaken, hnumber, hpayload⟩ :=
    hvouched.vouches _ hintercepted
  exact ⟨transaction, htaken, own, hput, hnumber, hunmade, hpayload.symm, hpronounced⟩

theorem Vouched.phase_work_pronounced (hvouched : setting.Vouched) {candidate number : Nat}
    (hphase : setting.guard.phase = .awaiting candidate number)
    (hopen : setting.guard.outlet.shutdown.signalled = false) {verdict : Verdict}
    (hpronounced : setting.accounts.pronounced number = [verdict]) {sight : Sight σ}
    (hshows : setting.shows sight = true) :
    (setting.perform (.work sight)).guard.phase =
      if verdict.accepts then .leaving .conditionMet else .deciding := by
  rw [hvouched.work_pronounced hshows hphase hopen hpronounced]
  cases verdict <;> rfl

/-- A guard hands on what it takes, whatever its input and its holder do. -/
theorem guard_conveys (input : InputConfig) (restart : Bool) (condition : Condition)
    (moves : List (SettingMove σ)) :
    ((Setting.start input restart condition).performAll moves).Conveys σ condition := by
  have hvouched := vouched_performAll input restart condition moves
  have hending := ending_performAll input restart condition moves
  obtain ⟨done, lost, hconveyed⟩ := conveyed_performAll input restart condition moves
  constructor
  · exact ⟨done, _, hconveyed.taken, hconveyed.payloads, hconveyed.handedOn,
      hconveyed.rest_length_le, fun transaction hrest => hconveyed.of_mem_rest hrest⟩
  · exact hconveyed.checked
  · exact fun candidate response hsaid => hvouched.of_relayed hsaid
  · exact fun candidate number hphase hopen verdict hpronounced sight hshows =>
      hvouched.phase_work_pronounced hphase hopen hpronounced hshows
  · exact hending.accepted
  · exact hending.rejected
  · exact hending.met
  · exact fun exit hexit later => idle_performAll hexit later

-- A message that meets the condition is rejected, comes again and is accepted.
example :
    let shown (offer : Received) : SettingMove Unit :=
      .work ⟨offer, false, fun _ => .error .missingChild⟩
    let setting := (Setting.start (.memory []) false (.static true)).performAll
      [.make (.single [104]), shown .pending, shown .pending,
        shown (.transaction ⟨0, .single [104]⟩), shown .pending, .receive,
        .pronounce 1 (some (.nack "full")), shown .pending, shown .pending,
        .make (.single [104]), shown (.transaction ⟨2, .single [104]⟩), shown .pending,
        .receive, .pronounce 3 (some .ack), shown .pending]
    setting.taken.map Transaction.number = [0, 2] ∧
      setting.put.map Transaction.number = [1, 3] ∧
        setting.guard.phase = .leaving .conditionMet := by
  decide +kernel

end Conveys

end Setting

end Intake
