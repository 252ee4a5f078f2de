import Intake.Proofs.SerialTracking

/-!
# Workers read in turn

Somebody holds a nest of guards around a list of messages, answers or drops each
transaction before receiving again, and neither closes the nest nor lets go of
it.  Then it makes no difference in which order the workers take their steps:
what is handed out is what one reader hands out who gets the same answers.
-/

namespace Intake

theorem Stage.take_of_empty {stage : Stage} {receipts : Receipts}
    (hopen : stage.outlet.isClosing = false) (hempty : stage.outlet.slot = none) :
    stage.take receipts = (stage, receipts) := by
  have htake : stage.outlet.take receipts = (stage.outlet, receipts) := by
    simp [Outlet.take, hopen, ← hempty]
  cases stage <;> simp_all [Stage.take, Stage.withOutlet, Stage.outlet]

namespace Usage

/-- Whether a holder makes a move that answers before it receives again and never
gives the stage up. -/
def permits (usage : Usage) : UsageMove → Bool
  | .work _ | .pronounce _ _ | .rewrite _ => true
  | .receive => usage.held.isEmpty
  | .close | .letGo => false

/-- Whether all moves are ones that such a holder makes. -/
def isOrderly : Usage → List UsageMove → Bool
  | _, [] => true
  | usage, move :: rest => usage.permits move && (usage.perform move).isOrderly rest

def messages (usage : Usage) : List Message := usage.handedOut.map Transaction.payload

def answers (usage : Usage) : List Verdict := usage.verdicts.map Prod.snd

/-- What has been handed out and answered so far, as one reader has it who
started somewhere. -/
inductive KeepsUp (start : Serial) (usage : Usage) : Prop where
  | working {serial : Serial}
      (htracks : Tracks usage.receipts usage.running.stage .working serial)
      (hleads : start.LeadsTo usage.answers usage.messages serial)
      (hheld : usage.held = []) (hopen : .received .ended ∉ usage.record)
  | offering {transaction : Transaction} {before serial : Serial}
      (htracks : Tracks usage.receipts usage.running.stage (.offering transaction) serial)
      (hleads : start.LeadsTo usage.answers usage.messages before)
      (hnext : before.next = .emits transaction.payload serial)
      (hheld : usage.held = []) (hopen : .received .ended ∉ usage.record)
  | lent {number : Nat} {earlier : List Message} {message : Message} {before serial : Serial}
      (htracks : Tracks usage.receipts usage.running.stage (.lent number) serial)
      (hleads : start.LeadsTo usage.answers earlier before)
      (hnext : before.next = .emits message serial)
      (hmessages : usage.messages = earlier ++ [message])
      (hheld : usage.held = [number]) (hopen : .received .ended ∉ usage.record)
  | ended {serial : Serial}
      (htracks : Tracks usage.receipts usage.running.stage .ended serial)
      (hleads : start.LeadsTo usage.answers usage.messages serial)
      (hheld : usage.held = [])

section Noted

variable (usage : Usage) (running : Running) (held : List Nat) (holding : Bool)
  (note : UsageNote)

@[simp] theorem messages_note :
    (Usage.mk running held holding (usage.record ++ [note])).messages =
      usage.messages ++ note.handedOut?.toList.map Transaction.payload := by
  simp [messages]

@[simp] theorem answers_note :
    (Usage.mk running held holding (usage.record ++ [note])).answers =
      usage.answers ++ note.pronounced?.toList.map Prod.snd := by
  simp [answers]

end Noted

/-- Nothing has been handed out or answered between two moments. -/
structure SameBooks (before after : Usage) : Prop where
  messages : after.messages = before.messages
  answers : after.answers = before.answers
  held : after.held = before.held
  ended : .received .ended ∈ after.record → .received .ended ∈ before.record

theorem sameBooks_note (usage : Usage) (running : Running) (note : UsageNote)
    (hhanded : note.handedOut? = none) (hpronounced : note.pronounced? = none)
    (hended : note ≠ .received .ended) :
    usage.SameBooks
      { usage with running, record := usage.record ++ [note] } := by
  constructor
  · simp [hhanded]
  · simp [hpronounced]
  · rfl
  · intro hmem
    rcases List.mem_append.mp hmem with hold | hnew
    · exact hold
    · exact absurd (List.mem_singleton.mp hnew).symm hended

namespace KeepsUp

section Moves

variable {first : Serial} {usage : Usage}

theorem start (first : Serial) {stage : Stage} {world : World}
    (htracks : Tracks world.receipts stage .working first) :
    (Usage.start stage world).KeepsUp first :=
  .working htracks (Serial.LeadsTo.refl first) rfl (by simp [Usage.start])

/-- Where nothing but the world around changes, everything stands as it did. -/
theorem same {after : Usage} (hkeeps : usage.KeepsUp first) (hbooks : usage.SameBooks after)
    (hreceipts : after.receipts = usage.receipts)
    (hstage : after.running.stage = usage.running.stage) : after.KeepsUp first := by
  obtain ⟨hmessages, hanswers, hheld, hended⟩ := hbooks
  cases hkeeps with
  | working htracks hleads hnone hopen =>
      rw [← hreceipts, ← hstage] at htracks
      rw [← hmessages, ← hanswers] at hleads
      exact .working htracks hleads (hheld.trans hnone) (mt hended hopen)
  | offering htracks hleads hnext hnone hopen =>
      rw [← hreceipts, ← hstage] at htracks
      rw [← hmessages, ← hanswers] at hleads
      exact .offering htracks hleads hnext (hheld.trans hnone) (mt hended hopen)
  | lent htracks hleads hnext hlast hone hopen =>
      rw [← hreceipts, ← hstage] at htracks
      rw [← hanswers] at hleads
      exact .lent htracks hleads hnext (hmessages.trans hlast) (hheld.trans hone)
        (mt hended hopen)
  | ended htracks hleads hnone =>
      rw [← hreceipts, ← hstage] at htracks
      rw [← hmessages, ← hanswers] at hleads
      exact .ended htracks hleads (hheld.trans hnone)

theorem work (hkeeps : usage.KeepsUp first) (level : Nat) :
    (usage.perform (.work level)).KeepsUp first := by
  rcases usage.perform_work_cases level with hsame | ⟨move, hstep, hafter⟩
  · rw [hsame]
    exact hkeeps
  · rw [hafter]
    obtain ⟨hmessages, hanswers, hheld, hended⟩ := sameBooks_note usage
      (usage.running.after move) (.worked move.event) rfl rfl (by simp)
    cases hkeeps with
    | working htracks hleads hnone hopen =>
        cases htracks.step_working hstep with
        | still hworking =>
            rw [← hmessages, ← hanswers] at hleads
            exact .working hworking hleads hnone (mt hended hopen)
        | rebuilt hnext hworking =>
            have hrebuilt := hleads.rebuilds hnext
            rw [← hmessages, ← hanswers] at hrebuilt
            exact .working hworking hrebuilt hnone (mt hended hopen)
        | offers hnext hoffering =>
            rw [← hmessages, ← hanswers] at hleads
            exact .offering hoffering hleads hnext hnone (mt hended hopen)
        | ends hends =>
            rw [← hmessages, ← hanswers] at hleads
            exact .ended hends hleads hnone
    | offering htracks hleads hnext hnone hopen =>
        obtain ⟨hreceipts, hoffering⟩ := htracks.step_offering hstep
        rw [← hreceipts] at hoffering
        rw [← hmessages, ← hanswers] at hleads
        exact .offering hoffering hleads hnext hnone (mt hended hopen)
    | lent htracks hleads hnext hlast hone hopen =>
        obtain ⟨hreceipts, hlent⟩ := htracks.step_lent hstep
        rw [← hreceipts] at hlent
        rw [← hanswers] at hleads
        exact .lent hlent hleads hnext (hmessages.trans hlast) hone (mt hended hopen)
    | ended htracks hleads hnone =>
        rw [← hmessages, ← hanswers] at hleads
        exact .ended (htracks.step_ended hstep) hleads hnone

theorem receive_nothing (hholding : usage.holding = true)
    (hopen : usage.outlet.isClosing = false) (hempty : usage.outlet.slot = none) :
    usage.perform .receive =
      { usage with record := usage.record ++ [.received usage.outlet.offer] } := by
  have hoffer : usage.outlet.offer.transaction? = none := by
    rw [Outlet.transaction?_offer, hopen, hempty]
    rfl
  have htake : usage.running.stage.take usage.running.world.receipts =
      (usage.running.stage, usage.running.world.receipts) :=
    Stage.take_of_empty hopen hempty
  have hrunning : usage.running.receive.2 = usage.running := by
    simp [Running.receive, htake]
  rw [perform_receive_none hholding hoffer, hrunning]

theorem receive (hkeeps : usage.KeepsUp first) (hnone : usage.held = []) :
    (usage.perform .receive).KeepsUp first := by
  cases hholding : usage.holding with
  | false =>
      have hsame : usage.perform .receive = usage := by simp [perform, hholding]
      rw [hsame]
      exact hkeeps
  | true =>
      cases hkeeps with
      | working htracks hleads _ hopen =>
          have houtlet : usage.outlet = {} := htracks.outlet_working
          have hoffer : usage.outlet.offer = .pending := by
            simp [houtlet, Outlet.offer, Outlet.isClosing]
          rw [receive_nothing hholding (by rw [houtlet]; rfl) (by rw [houtlet]), hoffer]
          obtain ⟨hmessages, hanswers, _, hended⟩ :=
            sameBooks_note usage usage.running (.received .pending) rfl rfl (by simp)
          rw [← hmessages, ← hanswers] at hleads
          exact .working htracks hleads hnone (mt hended hopen)
      | @offering transaction _ serial htracks hleads hnext _ hopen =>
          have houtlet : usage.outlet = { slot := some transaction } := htracks.outlet_offering
          have hoffer : usage.outlet.offer = .transaction transaction := by
            simp [houtlet, Outlet.offer, Outlet.isClosing]
          obtain ⟨hreceipts, hlent⟩ := htracks.take_offering
          have htaken : Tracks (usage.running.stage.take usage.receipts).2
              (usage.running.stage.take usage.receipts).1 (.lent transaction.number) serial := by
            rw [hreceipts]
            exact hlent
          rw [perform_receive_some hholding hoffer]
          refine .lent htaken ?_ hnext (messages_note usage _ _ _ _) ?_ ?_
          · simpa [UsageNote.pronounced?] using hleads
          · simp [hnone]
          · simpa using hopen
      | lent _ _ _ _ hone => simp [hone] at hnone
      | ended htracks hleads _ =>
          obtain ⟨closed, houtlet⟩ := htracks.outlet_ended
          have houtlet : usage.outlet = .left closed := houtlet
          have hoffer : usage.outlet.offer = .ended := by
            simp [houtlet, Outlet.left, Outlet.offer, Outlet.isClosing]
          rw [receive_nothing hholding (by rw [houtlet]; rfl) (by rw [houtlet]; rfl), hoffer]
          refine .ended htracks ?_ hnone
          simpa [UsageNote.handedOut?, UsageNote.pronounced?, Received.transaction?] using hleads

theorem pronounce (hkeeps : usage.KeepsUp first) (number : Nat) (verdict : Verdict) :
    (usage.perform (.pronounce number verdict)).KeepsUp first := by
  by_cases hheld : number ∈ usage.held
  · rw [perform_pronounce verdict hheld]
    cases hkeeps with
    | @lent lent _ _ _ _ htracks hleads hnext hlast hone hopen =>
        obtain rfl : number = lent := by simpa [hone] using hheld
        refine .working (htracks.pronounce_lent verdict) ?_ ?_ ?_
        · -- the reader hands the message out only now that its answer is known
          simpa [UsageNote.handedOut?, UsageNote.pronounced?, hlast] using
            hleads.emits hnext verdict
        · simp [hone]
        · simpa using hopen
    | working _ _ hnone | offering _ _ _ hnone | ended _ _ hnone =>
        simp [hnone] at hheld
  · have hsame : usage.perform (.pronounce number verdict) = usage := by
      simp [perform, hheld]
    rw [hsame]
    exact hkeeps

theorem perform (hkeeps : usage.KeepsUp first) {move : UsageMove}
    (hpermits : usage.permits move = true) : (usage.perform move).KeepsUp first := by
  cases move with
  | work level => exact hkeeps.work level
  | receive => exact hkeeps.receive (by simpa [permits] using hpermits)
  | pronounce number verdict => exact hkeeps.pronounce number verdict
  | close => simp [permits] at hpermits
  | letGo => simp [permits] at hpermits
  | rewrite disk =>
      exact hkeeps.same (sameBooks_note usage _ .rewritten rfl rfl (by simp)) rfl rfl

/-- In the hands of an orderly holder a stage keeps up with its reader. -/
theorem performAll (hkeeps : usage.KeepsUp first) {moves : List UsageMove}
    (horderly : usage.isOrderly moves = true) : (usage.performAll moves).KeepsUp first := by
  induction moves generalizing usage with
  | nil => exact hkeeps
  | cons move rest ih =>
      obtain ⟨hpermits, hrest⟩ : usage.permits move = true ∧
          (usage.perform move).isOrderly rest = true := by
        simpa [isOrderly] using horderly
      exact ih (hkeeps.perform hpermits) hrest

end Moves

end KeepsUp

/-- What has been handed out is what one reader hands out who gets the same
answers, and the end has been seen only where that reader is over. -/
structure ReadsAs (first : Serial) (usage : Usage) : Prop where
  messages : ∃ enough, ∀ turns, enough ≤ turns →
    usage.messages <+: (first.play turns usage.answers).1
  ended : .received .ended ∈ usage.record →
    ∃ enough, ∀ turns, enough ≤ turns →
      first.play turns usage.answers = (usage.messages, true)

theorem KeepsUp.readsAs {first : Serial} {usage : Usage} (hkeeps : usage.KeepsUp first) :
    usage.ReadsAs first := by
  cases hkeeps with
  | working _ hleads _ hopen => exact ⟨hleads.isPrefix, fun hended => absurd hended hopen⟩
  | offering _ hleads _ _ hopen => exact ⟨hleads.isPrefix, fun hended => absurd hended hopen⟩
  | lent _ hleads hnext hlast _ hopen =>
      obtain ⟨enough, hplay⟩ := hleads.play_emits hnext
      refine ⟨⟨enough, fun turns hturns => ?_⟩, fun hended => absurd hended hopen⟩
      rw [hplay turns hturns, hlast]
  | ended htracks hleads =>
      exact ⟨hleads.isPrefix, fun _ => hleads.play_ends htracks.next_ended⟩

/-- Whatever the nest of guards and conditions around a list of messages, and in
whatever order its workers take their steps: it can be built, and an orderly
holder is handed out what one reader hands out. -/
theorem readsAs_serial {config : InputConfig} {serial : Serial}
    (hconfig : Serial.ofConfig config = some serial) (world : World) :
    ∃ stage, Stage.build world.disk true config = .ok stage ∧
      ∀ moves, (Usage.start stage world).isOrderly moves = true →
        ((Usage.start stage world).performAll moves).ReadsAs serial := by
  obtain ⟨stage, hbuilt, htracks⟩ := Tracks.build world.disk hconfig
  refine ⟨stage, hbuilt, fun moves horderly => ?_⟩
  exact ((KeepsUp.start serial (htracks world.receipts)).performAll horderly).readsAs

/-- A message that two levels count is rejected, ends the inner level when it is
accepted, and ends the outer one after the inner one was started afresh. -/
theorem readsAs_serial_of_restart :
    ∃ (config : InputConfig) (turn moves : List UsageMove) (serial : Serial) (stage : Stage),
      config = .readUntil (some (.readUntil (some (.memory ["a", "b"])) false (.count 2)))
        true (.count 3) ∧
      turn = [.work 0, .work 1, .work 2] ∧
      moves = (List.replicate 8 turn).flatten ++
        .receive :: .pronounce 0 (some (.nack "full")) :: (List.replicate 8 turn).flatten ++
        .receive :: .pronounce 2 (some .ack) :: (List.replicate 16 turn).flatten ++
        .receive :: .pronounce 4 (some .ack) :: (List.replicate 16 turn).flatten ++
        [.receive] ∧
      Serial.ofConfig config = some serial ∧
      Stage.build ({} : World).disk true config = .ok stage ∧
      (Usage.start stage {}).isOrderly moves = true ∧
      ((Usage.start stage {}).performAll moves).ReadsAs serial ∧
      ((Usage.start stage {}).performAll moves).messages =
        [.single [97], .single [97], .single [97]] ∧
      .received .ended ∈ ((Usage.start stage {}).performAll moves).record := by
  obtain ⟨config, hconfig⟩ : ∃ config : InputConfig, config =
      .readUntil (some (.readUntil (some (.memory ["a", "b"])) false (.count 2)))
        true (.count 3) := ⟨_, rfl⟩
  obtain ⟨serial, hserial⟩ : ∃ serial, Serial.ofConfig config = some serial := by
    subst hconfig
    exact ⟨_, rfl⟩
  obtain ⟨stage, hbuilt, hreads⟩ := readsAs_serial hserial {}
  have hstage : stage =
      (Stage.build ({} : World).disk true config).toOption.getD default := by
    rw [hbuilt]
    rfl
  refine ⟨config, _, _, serial, stage, hconfig, rfl, rfl, hserial, hbuilt, ?_, hreads _ ?_,
    ?_, ?_⟩ <;>
    · subst hstage hconfig
      decide +kernel

end Usage

end Intake
