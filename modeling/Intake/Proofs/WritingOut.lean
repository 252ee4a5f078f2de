import Intake.Proofs.WritingTermination

/-!
# Writing out a stage

Whatever stage is written out, to whatever sink and however the steps interleave, what the
writer has to show fits what it was given: one response for each transaction, accepted just
if all of it was written and flushed, and in the sink the bytes of the attempts in order.
-/

namespace Intake

/-! ## What is run -/

/-- Letting workers move is a run of their steps. -/
theorem Usage.exists_settleFor (usage : Usage) (patience : Nat) :
    ∃ levels : List Nat,
      (usage.performAll (levels.map .work)).running = usage.running.settleFor patience := by
  induction patience generalizing usage with
  | zero => exact ⟨[], rfl⟩
  | succ patience ih =>
      cases hany : usage.running.stage.stepAny usage.running.world with
      | none => exact ⟨[], by simp [Running.settleFor, hany]⟩
      | some move =>
          obtain ⟨level, _, hstep⟩ := List.exists_of_findSome?_eq_some hany
          obtain ⟨levels, hlevels⟩ := ih (usage.perform (.work level))
          have hafter : (usage.perform (.work level)).running = usage.running.after move := by
            simp [Usage.perform, Running.work, hstep]
          refine ⟨level :: levels, ?_⟩
          rw [List.map_cons, performAll_cons, hlevels, hafter, Running.settleFor, hany]

namespace Scribe

/-- What a writer at its turn has at hand. -/
def writing (scribe : Scribe) : Writing :=
  { running := scribe.usage.running
    sink := scribe.sink
    interrupted := scribe.interrupted
    written := scribe.written }

theorem performAll_work (scribe : Scribe) (levels : List Nat) :
    scribe.performAll (levels.map .work) =
      { scribe with usage := scribe.usage.performAll (levels.map .work) } := by
  induction levels generalizing scribe with
  | nil => rfl
  | cons level levels ih => exact ih _

theorem exists_settle (scribe : Scribe) :
    ∃ levels : List Nat, (scribe.performAll (levels.map .work)).writing = scribe.writing.settle ∧
      (scribe.AtTurn → (scribe.performAll (levels.map .work)).AtTurn) := by
  obtain ⟨levels, hlevels⟩ := scribe.usage.exists_settleFor Running.patience
  refine ⟨levels, ?_, ?_⟩
  · rw [performAll_work]
    simp [writing, Writing.settle, Running.settle, hlevels]
  · rw [performAll_work]
    exact id

variable {scribe : Scribe}

theorem writing_interrupt (horderly : scribe.Orderly) :
    scribe.interrupt.writing = scribe.writing.interrupt := by
  simp [interrupt, writing, Writing.interrupt, Usage.perform, horderly.holding]

theorem writing_handle (horderly : scribe.Orderly) {transaction : Transaction}
    (hcurrent : scribe.current = some transaction) :
    (scribe.handle transaction).writing = scribe.writing.handle transaction := by
  have hmem : transaction.number ∈ scribe.usage.held := by simp [horderly.held, hcurrent]
  simp only [handle, Writing.handle, writing, Usage.perform_pronounce _ hmem]
  rcases transaction.payload.write scribe.sink with ⟨_ | _, sink⟩ <;> rfl

/-- A turn is one move, or two where there is something to be written. -/
theorem exists_turn (horderly : scribe.Orderly) (hturn : scribe.AtTurn) (due : Bool) :
    match scribe.writing.turn due with
    | .goesOn next => ∃ moves, (due = false → .turn true ∉ moves) ∧
        (scribe.performAll moves).writing = next ∧ (scribe.performAll moves).AtTurn
    | .waits => True
    | .over last => (scribe.performAll [.turn due]).writing = last := by
  have hwriting : scribe.writing.interrupted = scribe.interrupted := rfl
  cases hfirst : due && !scribe.interrupted with
  | true =>
      have hperform : scribe.perform (.turn due) = scribe.interrupt := by
        simp [perform, hturn, hfirst]
      simp only [Writing.turn, hwriting, hfirst, if_true]
      refine ⟨[.turn due], by rintro rfl; simp, ?_, ?_⟩
      · rw [performAll_cons, performAll_nil, hperform, writing_interrupt horderly]
      · rw [performAll_cons, performAll_nil, hperform]
        exact hturn
  | false =>
      have hperform : scribe.perform (.turn due) = scribe.receive := by
        simp [perform, hturn, hfirst]
      have hrunning : scribe.writing.running = scribe.usage.running := rfl
      simp only [Writing.turn, hwriting, hfirst, Bool.false_eq_true, if_false, hrunning]
      rcases hreceive : scribe.usage.running.receive with ⟨offer, running⟩
      cases offer with
      | pending => trivial
      | ended =>
          simp [hperform, receive, hreceive, writing, Usage.perform, horderly.holding]
      | transaction transaction =>
          have hreceived : scribe.perform (.turn due) =
              { scribe with
                usage := scribe.usage.perform .receive, current := some transaction } := by
            simp [hperform, receive, hreceive]
          have hlater := horderly.perform (.turn due)
          rw [hreceived] at hlater
          have hwrites : (scribe.performAll [.turn due, .answer]) =
              { scribe with
                usage := scribe.usage.perform .receive
                current := some transaction : Scribe }.handle transaction := by
            rw [performAll_cons, hreceived]
            rfl
          refine ⟨[.turn due, .answer], by rintro rfl; simp, ?_, ?_⟩
          · rw [hwrites, writing_handle hlater rfl]
            simp [writing, Usage.perform, horderly.holding, hreceive]
          · rw [hwrites]
            exact ⟨rfl, hturn.2⟩

/-- Whatever is run is one of the runs here. -/
theorem exists_runFor (horderly : scribe.Orderly) (hturn : scribe.AtTurn)
    (interruptAfter : Option Nat) (turns : Nat) :
    ∃ moves, (interruptAfter = none → .turn true ∉ moves) ∧
      (scribe.performAll moves).writing = scribe.writing.runFor interruptAfter turns := by
  induction turns generalizing scribe with
  | zero => exact ⟨[], by simp, rfl⟩
  | succ turns ih =>
      obtain ⟨due, hdue⟩ : ∃ due, scribe.writing.isDue interruptAfter = due := ⟨_, rfl⟩
      have hclean : interruptAfter = none → due = false := by
        rintro rfl
        simpa [Writing.isDue] using hdue.symm
      -- a turn from here or from where the workers rest, and then all the others
      have hgo : ∀ other : Scribe, other.Orderly → other.AtTurn →
          ∃ moves, (interruptAfter = none → .turn true ∉ moves) ∧
            (other.performAll moves).writing =
              match other.writing.turn due with
              | .goesOn next => next.runFor interruptAfter turns
              | .waits => other.writing
              | .over last => last := by
        intro other hother hat
        have hturned := exists_turn hother hat due
        rcases htaken : other.writing.turn due with next | _ | last
        · rw [htaken] at hturned
          obtain ⟨moves, hmoves, rfl, hafter⟩ := hturned
          obtain ⟨more, hmore, hrest⟩ := ih (hother.performAll moves) hafter
          refine ⟨moves ++ more, fun hnone => ?_, ?_⟩
          · simp [hmoves (hclean hnone), hmore hnone]
          · rw [performAll_append, hrest]
        · exact ⟨[], by simp, rfl⟩
        · rw [htaken] at hturned
          exact ⟨[.turn due], fun hnone => by simp [hclean hnone], hturned⟩
      rw [Writing.runFor, hdue]
      rcases htaken : scribe.writing.turn due with next | _ | last
      · simpa [htaken] using hgo scribe horderly hturn
      · obtain ⟨levels, hsettled, hat⟩ := scribe.exists_settle
        obtain ⟨moves, hmoves, hrest⟩ := hgo _ (horderly.performAll _) (hat hturn)
        refine ⟨levels.map .work ++ moves, fun hnone => ?_, ?_⟩
        · simp [hmoves hnone]
        · rw [performAll_append, hrest, hsettled]
          cases scribe.writing.settle.turn due <;> rfl
      · simpa [htaken] using hgo scribe horderly hturn

/-- Writing out a stage is one of the runs here, without any interruption if none is
planned. -/
theorem exists_run (stage : Stage) (world : World) (sink : Sink) (interruptAfter : Option Nat) :
    ∃ moves, (interruptAfter = none → .turn true ∉ moves) ∧
      ((start stage world sink).performAll moves).writing =
        Writing.run interruptAfter { running := { stage, world }, sink } :=
  exists_runFor (orderly_start stage world sink) ⟨rfl, rfl⟩ interruptAfter Running.patience

/-! ## Every run -/

/-- What a writer of messages at hand comes to that nobody interrupts. -/
structure WritesAll (first : Scribe) (messages : List Message) (moves : List WritingMove) :
    Prop where
  /-- Only so many steps can be taken. -/
  bounded : first.effort moves ≤ 6 * messages.length + 4 * first.sink.failures.length + 5
  /-- There is one to be taken until the writer is through. -/
  goesOn : (first.performAll moves).finished = false →
    ∃ move, move ≠ .turn true ∧ (first.performAll moves).Can move
  /-- Then every message has been accepted, once and in order. -/
  complete : (first.performAll moves).finished = true →
    (first.performAll moves).written = messages.length ∧
      ∀ attempts, (first.performAll moves).Accounts first.sink attempts →
        (attempts.filter fun attempt => attempt.response.isAck).map
          (fun attempt => attempt.transaction.payload) = messages

/-- What holds after a run of a writer. -/
structure WritesOut (first : Scribe) (input : InputConfig) (moves : List WritingMove) :
    Prop where
  accounts : ∃ attempts, (first.performAll moves).Accounts first.sink attempts
  handedOnce : ((first.performAll moves).usage.handedOut.map Transaction.number).Nodup
  idle : (first.performAll moves).finished = true → (first.performAll moves).current = none
  /-- The stage is asked to close once, and only if there is an interruption to be seen. -/
  asksOnce : first.Sees moves → (first.performAll moves).usage.record.count .closed = 1
  asksNever : ¬first.Sees moves → (first.performAll moves).usage.record.count .closed = 0
  /-- Nothing is received and nothing written from then on. -/
  silent : ∀ earlier later, moves = earlier ++ .turn true :: later →
    (first.performAll earlier).AtTurn →
      (first.performAll moves).sink = (first.performAll earlier).sink ∧
        (first.performAll moves).usage.handedOut = (first.performAll earlier).usage.handedOut
  atHand : ∀ texts, input = .memory texts → .turn true ∉ moves →
    first.WritesAll (texts.map fun text => .single (Utf8.encode text)) moves

theorem writesAll_of_listed (kind : String) (messages : List Message) (world : World)
    (sink : Sink) {moves : List WritingMove} (hmoves : .turn true ∉ moves) :
    (start (.ofSource kind (.listed (messages.map .ok))) world sink).WritesAll messages moves := by
  have hfirst := undisturbed_start kind sink (Source.streams_all messages world.stdin) trivial
  have htoil : (start (.ofSource kind (.listed (messages.map .ok))) world sink).toil =
      6 * messages.length + 4 * sink.failures.length + 5 := by
    rw [toil_of_pump rfl]
    simp [start, Pump.toil, Pump.pending, Source.remaining]
    omega
  have hlast := hfirst.performAll hmoves
  refine ⟨?_, hlast.exists_can,
    fun hfinished => ⟨?_, fun _ haccounts => hlast.accepted hfinished haccounts⟩⟩
  · exact (Nat.le_add_right _ _).trans ((hfirst.effort_le hmoves).trans_eq htoil)
  · obtain ⟨attempts, haccounts⟩ := exists_accounts
      (.ofSource kind (.listed (messages.map .ok))) world sink moves
    rw [haccounts.written, List.countP_eq_length_filter, ← hlast.accepted hfinished haccounts,
      List.length_map]

theorem writesOut_of_build {input : InputConfig} {world : World} {stage : Stage}
    (hbuild : Stage.build world.disk true input = .ok stage) (sink : Sink)
    (moves : List WritingMove) : (start stage world sink).WritesOut input moves := by
  have hfresh := Stage.isFresh_of_build hbuild
  have horderly := orderly_start stage world sink
  have hlast := horderly.performAll moves
  obtain ⟨attempts, haccounts⟩ := exists_accounts stage world sink moves
  have hinterrupted : ((start stage world sink).performAll moves).interrupted = true ↔
      (start stage world sink).Sees moves := by
    simp [interrupted_performAll_iff, start]
  refine ⟨⟨attempts, haccounts⟩, ?_, hlast.idle, fun hsees => ?_, fun hnever => ?_, ?_, ?_⟩
  · obtain ⟨others, hothers⟩ := (start stage world sink).exists_performAll_usage moves
    rw [hothers]
    exact (Usage.tidy_performAll hfresh world others).handedOnce
  · rw [hlast.asked, hinterrupted.mpr hsees]
    rfl
  · rw [← hinterrupted, Bool.not_eq_true] at hnever
    rw [hlast.asked, hnever]
    rfl
  · rintro earlier later rfl hturn
    obtain ⟨hhushed, hsink, hhanded⟩ := hushed_turn (horderly.performAll earlier)
      (steady_performAll hfresh world sink earlier) hturn
    obtain ⟨hlater, hrest⟩ := hhushed.performAll later
    rw [performAll_append, performAll_cons, hlater, hrest]
    exact ⟨hsink, hhanded⟩
  · rintro texts rfl hmoves
    obtain rfl : Stage.ofSource InputKind.memory.name
        (.listed (texts.map fun text => .ok (.single (Utf8.encode text)))) = stage := by
      simpa [Stage.build] using hbuild
    simpa [List.map_map, Function.comp_def] using writesAll_of_listed InputKind.memory.name
      (texts.map fun text => .single (Utf8.encode text)) world sink hmoves

/-- Whatever the input and the sink, however the steps of workers and writer interleave and
whenever an interruption comes, the writer accounts for all of it; and writing out a stage
is one of these runs. -/
theorem writing_accounts {input : InputConfig} {world : World} {stage : Stage}
    (hbuild : Stage.build world.disk true input = .ok stage) (sink : Sink) :
    (∀ moves, (start stage world sink).WritesOut input moves) ∧
      ∀ interruptAfter, ∃ moves, (interruptAfter = none → .turn true ∉ moves) ∧
        ((start stage world sink).performAll moves).writing =
          Writing.run interruptAfter { running := { stage, world }, sink } :=
  ⟨writesOut_of_build hbuild sink, exists_run stage world sink⟩

/-- The sink takes one byte of the first message and fails, and the message comes again; in
another run an interruption is due by then. -/
theorem writing_accounts_of_failure :
    ∃ (stage : Stage) (first : Scribe) (moves interrupted : List WritingMove),
      Stage.build (fun _ => .error .notFound) true (.memory ["ab", "c"]) = .ok stage ∧
      first = start stage {} { writes := [.short 1, .fails "full"] } ∧
      first.WritesOut (.memory ["ab", "c"]) moves ∧ .turn true ∉ moves ∧
      (first.performAll moves).finished = true ∧ (first.performAll moves).written = 2 ∧
      (first.performAll moves).sink.content = [97, 97, 98, 10, 99, 10] ∧
      (first.performAll moves).usage.verdicts =
        [(0, some (.nack "full")), (1, some .ack), (2, some .ack)] ∧
      first.WritesOut (.memory ["ab", "c"]) interrupted ∧ first.Sees interrupted ∧
      (first.performAll interrupted).finished = true ∧
      (first.performAll interrupted).written = 0 ∧
      (first.performAll interrupted).sink.content = [97] := by
  obtain ⟨stage, hbuild⟩ : ∃ stage, Stage.build (fun _ => .error .notFound) true
      (.memory ["ab", "c"]) = .ok stage := ⟨_, rfl⟩
  have hstage := Stage.eq_of_build hbuild
  obtain ⟨once, honce⟩ : ∃ once : List WritingMove, once =
      [.work 0, .work 0, .work 0, .turn false, .answer] := ⟨_, rfl⟩
  obtain ⟨moves, hmoves⟩ : ∃ moves : List WritingMove, moves =
      once ++ [.work 0, .work 0, .turn false, .answer, .work 0] ++ once ++
        [.work 0, .work 0, .work 0, .work 0, .turn false] := ⟨_, rfl⟩
  obtain ⟨interrupted, hinterrupted⟩ : ∃ interrupted : List WritingMove, interrupted =
      once ++ .turn true :: [.work 0, .turn true] := ⟨_, rfl⟩
  refine ⟨stage, start stage {} { writes := [.short 1, .fails "full"] }, moves, interrupted,
    hbuild, rfl, (writing_accounts hbuild _).1 moves, ?_, ?_, ?_, ?_, ?_,
    (writing_accounts hbuild _).1 interrupted, ⟨once, _, hinterrupted, ?_⟩, ?_, ?_, ?_⟩
  · simp [hmoves, honce]
  all_goals
    subst hstage hmoves hinterrupted honce
    decide +kernel

end Scribe

end Intake
