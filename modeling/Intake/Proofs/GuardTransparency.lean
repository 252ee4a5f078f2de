import Intake.Proofs.GuardEnding

/-!
# A guard is transparent for verdicts

Whoever made a transaction that a guard took hears one verdict on it at most,
and it is the verdict of whoever holds the guard, unless the guard had to give
the transaction up.  The one thing the guard ever adds is the cause of a
rejection where the message that met the condition was dropped.
-/

namespace Intake

namespace Setting

/-- What the creditors of the transactions that a guard took are told. -/
structure Transparent (σ : Type) (setting : Setting) : Prop where
  once : ∀ transaction ∈ setting.taken,
    (setting.accounts.told transaction.number).length ≤ 1
  /-- A transaction that was handed on unchanged gets the holder's verdict. -/
  unchanged : ∀ transaction ∈ setting.taken, transaction ∈ setting.put →
    setting.accounts.told transaction.number =
      if setting.accounts.gone transaction.number then []
      else setting.accounts.pronounced transaction.number
  /-- A response that was passed back is the holder's, or stands for a drop. -/
  passedBack : ∀ transaction ∈ setting.taken, ∀ response,
    .relayed transaction.number response ∈ setting.events →
      (∃ own ∈ setting.put, own.number ∉ setting.made ∧
        own.payload = transaction.payload ∧
          (setting.accounts.pronounced own.number = [some response] ∨
            setting.accounts.pronounced own.number = [none] ∧
              response = .nack droppedCause)) ∧
        setting.accounts.told transaction.number =
          if setting.accounts.gone transaction.number then [] else [some response]
  /-- A transaction is given up when the guard has been asked to close or nobody
  takes anything out, and its creditor hears no response. -/
  givenUp : ∀ transaction ∈ setting.taken,
    .gaveUp transaction.number ∈ setting.events →
      setting.guard.outlet.isBlocked = true ∧
        setting.accounts.told transaction.number =
          if setting.accounts.gone transaction.number then [] else [none]
  /-- The guard has told nobody anything about what it still has in its hands. -/
  inHand : ∀ transaction ∈ setting.taken,
    transaction.number ∈ setting.guard.phase.inHand →
      setting.accounts.told transaction.number = []
  /-- There is nothing else that becomes of a transaction. -/
  complete : ∀ transaction ∈ setting.taken,
    transaction ∈ setting.put ∨
      (∃ response, .relayed transaction.number response ∈ setting.events) ∨
        .gaveUp transaction.number ∈ setting.events ∨
          transaction.number ∈ setting.guard.phase.inHand
  /-- A guard that sees the verdict before it has been asked to close passes it
  back at once. -/
  seen : ∀ candidate number, setting.guard.phase = .awaiting candidate number →
    setting.guard.outlet.shutdown.signalled = false →
      ∀ verdict, setting.accounts.pronounced number = [verdict] →
        ∀ sight : Sight σ, setting.shows sight = true →
          (setting.perform (.work sight)).accounts.Heard candidate
            (some (verdict.getD (.nack droppedCause)))
  /-- A guard that waits and has been asked to close drops the transaction. -/
  unseen : ∀ candidate number, setting.guard.phase = .awaiting candidate number →
    setting.guard.outlet.shutdown.signalled = true →
      ∀ sight : Sight σ, setting.shows sight = true →
        (setting.perform (.work sight)).accounts.Heard candidate none
  /-- A guard whose condition was met passes the acknowledgement back before it
  asks its input to close. -/
  answeredFirst : setting.guard.phase.exit? = some .conditionMet →
    ∀ (sight : Sight σ) (move : GuardMove σ),
      setting.guard.step sight setting.receipts = some move → move.demand = .close →
        ∃ transaction response, setting.taken.getLast? = some transaction ∧
          response.isAck = true ∧
            setting.accounts.told transaction.number =
              if setting.accounts.gone transaction.number then [] else [some response]

section Transparent

variable {σ : Type} {setting : Setting}

theorem Sound.eq_of_number_eq (hsound : setting.Sound) {first second : Transaction}
    (hfirst : first ∈ setting.taken) (hsecond : second ∈ setting.taken)
    (hnumber : first.number = second.number) : first = second :=
  List.inj_on_of_nodup_map hsound.takenOnce hfirst hsecond hnumber

theorem Vouched.told_unchanged (hvouched : setting.Vouched) {transaction : Transaction}
    (hput : transaction ∈ setting.put) :
    setting.accounts.told transaction.number =
      if setting.accounts.gone transaction.number then []
      else setting.accounts.pronounced transaction.number :=
  (hvouched.sound.kept.entries transaction.number).echoed (List.mem_map_of_mem hput)

theorem Vouched.told_passedBack (hvouched : setting.Vouched) {transaction : Transaction}
    (htaken : transaction ∈ setting.taken) {response : Response}
    (hsaid : .relayed transaction.number response ∈ setting.events) :
    (∃ own ∈ setting.put, own.number ∉ setting.made ∧ own.payload = transaction.payload ∧
      (setting.accounts.pronounced own.number = [some response] ∨
        setting.accounts.pronounced own.number = [none] ∧ response = .nack droppedCause)) ∧
      setting.accounts.told transaction.number =
        if setting.accounts.gone transaction.number then [] else [some response] := by
  obtain ⟨hheard, own, hintercepted, _, hpronounced⟩ := hvouched.vouches _ hsaid
  obtain ⟨hput, hunmade, other, hother, hnumber, hpayload⟩ := hvouched.vouches _ hintercepted
  have hsame := hvouched.sound.eq_of_number_eq hother htaken hnumber
  exact ⟨⟨own, hput, hunmade, hsame ▸ hpayload.symm, hpronounced⟩, hheard.2⟩

theorem Vouched.told_inHand (hvouched : setting.Vouched) {number : Nat}
    (hhand : number ∈ setting.guard.phase.inHand) :
    setting.accounts.told number = [] := by
  apply hvouched.sound.kept.told_of_owed
  apply hvouched.sound.kept.owed
  exact List.mem_append_left _ (List.mem_append_right _ hhand)

theorem Vouched.heard_work_pronounced (hvouched : setting.Vouched) {candidate number : Nat}
    (hphase : setting.guard.phase = .awaiting candidate number)
    (hopen : setting.guard.outlet.shutdown.signalled = false) {verdict : Verdict}
    (hpronounced : setting.accounts.pronounced number = [verdict]) {sight : Sight σ}
    (hshows : setting.shows sight = true) :
    (setting.perform (.work sight)).accounts.Heard candidate
      (some (verdict.getD (.nack droppedCause))) := by
  have hsaid : .relayed candidate (verdict.getD (.nack droppedCause)) ∈
      (setting.perform (.work sight)).events := by
    rw [hvouched.work_pronounced hshows hphase hopen hpronounced]
    simp [Setting.afterStep, Guard.relay]
  exact ((hvouched.perform (.work sight)).vouches _ hsaid).1

theorem Vouched.heard_work_closing (hvouched : setting.Vouched) {candidate number : Nat}
    (hphase : setting.guard.phase = .awaiting candidate number)
    (hclosing : setting.guard.outlet.shutdown.signalled = true) {sight : Sight σ}
    (hshows : setting.shows sight = true) :
    (setting.perform (.work sight)).accounts.Heard candidate none := by
  have hsaid : .gaveUp candidate ∈ (setting.perform (.work sight)).events := by
    rw [work_closing hshows hphase hclosing]
    simp [Setting.afterStep]
  exact ((hvouched.perform (.work sight)).vouches _ hsaid).1

theorem Vouched.complete (hvouched : setting.Vouched) {transaction : Transaction}
    (htaken : transaction ∈ setting.taken) :
    transaction ∈ setting.put ∨
      (∃ response, .relayed transaction.number response ∈ setting.events) ∨
        .gaveUp transaction.number ∈ setting.events ∨
          transaction.number ∈ setting.guard.phase.inHand := by
  rcases hvouched.accounted transaction htaken with hforwarded | hrest
  · exact .inl (hvouched.vouches _ hforwarded).2
  · exact .inr hrest

theorem Vouched.told_of_conditionMet (hvouched : setting.Vouched) (hending : setting.Ending)
    (hexit : setting.guard.phase.exit? = some .conditionMet) :
    ∃ transaction response, setting.taken.getLast? = some transaction ∧
      response.isAck = true ∧
        setting.accounts.told transaction.number =
          if setting.accounts.gone transaction.number then [] else [some response] := by
  obtain ⟨transaction, response, hlast, hsaid, hack⟩ := hending.met hexit
  exact ⟨transaction, response, hlast, hack,
    (hvouched.told_passedBack (List.mem_of_getLast? hlast) hsaid).2⟩

/-- A guard is transparent for verdicts, whatever its input and its holder do. -/
theorem guard_transparent (input : InputConfig) (restart : Bool) (condition : Condition)
    (moves : List (SettingMove σ)) :
    ((Setting.start input restart condition).performAll moves).Transparent σ := by
  have hvouched := vouched_performAll input restart condition moves
  have hending := ending_performAll input restart condition moves
  constructor
  · exact fun transaction _ => hvouched.sound.kept.told_length_le transaction.number
  · exact fun transaction _ hput => hvouched.told_unchanged hput
  · exact fun transaction htaken response hsaid => hvouched.told_passedBack htaken hsaid
  · intro transaction _ hsaid
    obtain ⟨hheard, hblocked⟩ := hvouched.vouches _ hsaid
    exact ⟨hblocked, hheard.2⟩
  · exact fun transaction _ hhand => hvouched.told_inHand hhand
  · exact fun transaction htaken => hvouched.complete htaken
  · exact fun candidate number hphase hopen verdict hpronounced sight hshows =>
      hvouched.heard_work_pronounced hphase hopen hpronounced hshows
  · exact fun candidate number hphase hclosing sight hshows =>
      hvouched.heard_work_closing hphase hclosing hshows
  · exact fun hexit sight move _ _ => hvouched.told_of_conditionMet hending hexit

end Transparent

end Setting

end Intake
