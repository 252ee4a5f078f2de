import Intake.Proofs.MessageWriting
import Intake.Proofs.StageSilence

/-!
# Writing out a stage

A writer receives the transactions of a stage, writes each message and answers, while the
workers take their steps; at any of its turns an interruption may be due.  What it has done
is a list of attempts.  Every one of them is for the next transaction handed out, and the
bytes in the sink, the plans the sink has used up, the responses given and the count of what
was written are those of the attempts put together.
-/

namespace Intake

/-! ## Transactions are handed out once -/

namespace Usage

variable {usage : Usage}

theorem settles_perform (usage : Usage) (move : UsageMove) :
    usage.receipts.Settles (usage.perform move).receipts := by
  have hsame : usage.receipts.Settles usage.receipts := ⟨Nat.le_refl _, fun _ _ => id⟩
  have hcase := usage.performs move
  generalize usage.perform move = after at hcase ⊢
  cases hcase with
  | idle | closed | rewritten => exact hsame
  | worked hstep => exact Stage.settles_step hstep
  | received => exact usage.running.stage.settles_obey usage.receipts .take
  | letGo => exact usage.running.stage.settles_obey usage.receipts .letGo
  | @pronounced number verdict => exact usage.receipts.settles_pronounce number verdict

/-- The books are in order, and nobody owes anything for a transaction that was handed out
and is not held any more. -/
structure Cleared (usage : Usage) : Prop where
  tidy : usage.Tidy
  unowed : ∀ number ∈ usage.handedOut.map Transaction.number, number ∉ usage.held →
    (usage.receipts.get number).isOwed = false

theorem Cleared.note (hcleared : usage.Cleared) {running : Running} {holding : Bool}
    {note : UsageNote} (hsettles : usage.receipts.Settles running.world.receipts)
    (hhanded : note.handedOut? = none) (hpronounced : note.pronounced? = none) :
    (Usage.mk running usage.held holding (usage.record ++ [note])).Cleared := by
  refine ⟨hcleared.tidy.note hsettles.next hhanded hpronounced, fun number hmem hunheld => ?_⟩
  have hold : number ∈ usage.handedOut.map Transaction.number := by
    simpa [hhanded] using hmem
  exact hsettles.unowed number (hcleared.tidy.issued number hold)
    (hcleared.unowed number hold hunheld)

theorem Cleared.receive (hcleared : usage.Cleared) (hsteady : usage.Steady) :
    (usage.perform .receive).Cleared := by
  cases hholding : usage.holding with
  | false => simpa [Usage.perform, hholding] using hcleared
  | true =>
      have hsettles : usage.receipts.Settles usage.running.receive.2.world.receipts :=
        usage.running.stage.settles_obey usage.receipts .take
      cases hoffer : usage.outlet.offer with
      | pending | ended =>
          rw [perform_receive_none hholding (by rw [hoffer]; rfl), hoffer]
          exact hcleared.note hsettles rfl rfl
      | transaction transaction =>
          rw [perform_receive_some hholding hoffer]
          -- what is offered is still owed, and what was handed out before is not
          obtain ⟨howed, hnone⟩ : (usage.receipts.get transaction.number).isOwed = true ∧
              usage.held = [] := by
            cases hsteady with
            | asked _ hsignal =>
                simp [Outlet.offer_of_isClosing (Outlet.isClosing_of_signalled hsignal)] at hoffer
            | @poised standing hpoised hheld =>
                obtain rfl := Standing.eq_offering_of_offer (hpoised.shows.offer_eq ▸ hoffer)
                exact ⟨by rw [hpoised.get_eq_open rfl]; rfl, hheld⟩
          have hfresh : transaction.number ∉ usage.handedOut.map Transaction.number := by
            intro hmem
            have hunowed := hcleared.unowed _ hmem (by simp [hnone])
            simp [howed] at hunowed
          refine ⟨hcleared.tidy.handOut hsettles.next
            (usage.receipts.lt_next_of_isOwed howed) hfresh, fun number hmem hunheld => ?_⟩
          simp only [List.mem_append, List.mem_singleton, not_or] at hunheld
          have hold : number ∈ usage.handedOut.map Transaction.number := by
            simpa [UsageNote.handedOut?, Received.transaction?, hunheld.2] using hmem
          exact hsettles.unowed number (hcleared.tidy.issued number hold)
            (hcleared.unowed number hold hunheld.1)

theorem Cleared.pronounce (hcleared : usage.Cleared) (number : Nat) (verdict : Verdict) :
    (usage.perform (.pronounce number verdict)).Cleared := by
  by_cases hheld : number ∈ usage.held
  swap
  · simpa [Usage.perform, hheld] using hcleared
  refine ⟨hcleared.tidy.pronounce hheld, fun other hmem hunheld => ?_⟩
  rw [perform_pronounce verdict hheld] at hmem hunheld ⊢
  have hold : other ∈ usage.handedOut.map Transaction.number := by
    simpa [UsageNote.handedOut?] using hmem
  change ((usage.receipts.pronounce number verdict).get other).isOwed = false
  rw [usage.receipts.get_pronounce]
  split
  · cases usage.receipts.get number <;> cases verdict <;> rfl
  · next hother =>
      refine hcleared.unowed other hold fun hstill => hunheld ?_
      exact (hcleared.tidy.heldOnce.mem_erase_iff).mpr ⟨hother, hstill⟩

theorem Cleared.perform (hcleared : usage.Cleared) (hsteady : usage.Steady) (move : UsageMove) :
    (usage.perform move).Cleared := by
  have hsettles := usage.settles_perform move
  cases move with
  | receive => exact hcleared.receive hsteady
  | pronounce number verdict => exact hcleared.pronounce number verdict
  | work level =>
      rcases usage.perform_work_cases level with hsame | ⟨step, hstep, hafter⟩
      · rwa [hsame]
      · rw [hafter]
        exact hcleared.note (Stage.settles_step hstep) rfl rfl
  | close | letGo =>
      cases hholding : usage.holding with
      | false => simpa [Usage.perform, hholding] using hcleared
      | true =>
          simp only [Usage.perform, hholding, if_true] at hsettles ⊢
          exact hcleared.note hsettles rfl rfl
  | rewrite disk => exact hcleared.note hsettles rfl rfl

/-- Every built stage hands out each transaction once, whatever its holder does. -/
theorem tidy_performAll {stage : Stage} (hfresh : stage.IsFresh) (world : World)
    (moves : List UsageMove) : ((Usage.start stage world).performAll moves).Tidy := by
  have hboth : ((Usage.start stage world).performAll moves).Cleared ∧
      ((Usage.start stage world).performAll moves).Steady :=
    performAll_induction (motive := fun usage => usage.Cleared ∧ usage.Steady)
      ⟨⟨.start stage world, by simp [Usage.start, handedOut]⟩, .start hfresh world⟩
      (fun _ move ⟨hcleared, hsteady⟩ => ⟨hcleared.perform hsteady move, hsteady.perform move⟩)
      moves
  exact hboth.1.tidy

end Usage

/-! ## Runs of a writer -/

/-- What can happen next while a stage is written out. -/
inductive WritingMove where
  /-- The worker at a level takes a step. -/
  | work (level : Nat)
  /-- The writer takes a turn, at a time when an interruption is due or not. -/
  | turn (due : Bool)
  /-- The writer writes the message that it has received, and answers. -/
  | answer
  /-- The files change. -/
  | rewrite (disk : Disk)

/-- What a move is that takes place without the writer. -/
def WritingMove.elsewhere? : WritingMove → Option UsageMove
  | .work level => some (.work level)
  | .rewrite disk => some (.rewrite disk)
  | .turn _ | .answer => none

/-- A writer at work.  `current` is the transaction that it has received and not answered
yet; once it has `finished` it takes no more turns. -/
structure Scribe where
  usage : Usage
  sink : Sink
  interrupted : Bool := false
  written : Nat := 0
  current : Option Transaction := none
  finished : Bool := false

namespace Scribe

def start (stage : Stage) (world : World) (sink : Sink) : Scribe :=
  { usage := .start stage world, sink }

/-- Whether the next thing that the writer does is to take a turn. -/
def AtTurn (scribe : Scribe) : Prop := scribe.current = none ∧ scribe.finished = false

instance (scribe : Scribe) : Decidable scribe.AtTurn :=
  inferInstanceAs (Decidable (_ ∧ _))

/-- Asks the stage to close. -/
def interrupt (scribe : Scribe) : Scribe :=
  { scribe with usage := scribe.usage.perform .close, interrupted := true }

/-- Receives, unless nothing is there yet. -/
def receive (scribe : Scribe) : Scribe :=
  match scribe.usage.running.receive.1 with
  | .pending => scribe
  | .ended => { scribe with usage := scribe.usage.perform .receive, finished := true }
  | .transaction transaction =>
      { scribe with usage := scribe.usage.perform .receive, current := some transaction }

/-- Writes the message of a transaction and answers it. -/
def handle (scribe : Scribe) (transaction : Transaction) : Scribe :=
  let wrote := transaction.payload.write scribe.sink
  { scribe with
    usage := scribe.usage.perform (.pronounce transaction.number (some (.ofOutcome wrote.1)))
    sink := wrote.2
    written := scribe.written + (Response.ofOutcome wrote.1).isAck.toNat
    current := none }

def perform (scribe : Scribe) : WritingMove → Scribe
  | .work level => { scribe with usage := scribe.usage.perform (.work level) }
  | .turn due =>
      if scribe.AtTurn then
        if due && !scribe.interrupted then scribe.interrupt else scribe.receive
      else scribe
  | .answer =>
      match scribe.current with
      | none => scribe
      | some transaction => scribe.handle transaction
  | .rewrite disk => { scribe with usage := scribe.usage.perform (.rewrite disk) }

def performAll (scribe : Scribe) (moves : List WritingMove) : Scribe := moves.foldl perform scribe

@[simp] theorem performAll_nil (scribe : Scribe) : scribe.performAll [] = scribe := rfl

@[simp] theorem performAll_cons (scribe : Scribe) (move : WritingMove)
    (rest : List WritingMove) :
    scribe.performAll (move :: rest) = (scribe.perform move).performAll rest := rfl

theorem performAll_append (scribe : Scribe) (moves rest : List WritingMove) :
    scribe.performAll (moves ++ rest) = (scribe.performAll moves).performAll rest :=
  List.foldl_append

/-- What each move keeps holds after all of them. -/
theorem performAll_induction {motive : Scribe → Prop} {scribe : Scribe} (hstart : motive scribe)
    (hperform : ∀ scribe move, motive scribe → motive (scribe.perform move))
    (moves : List WritingMove) : motive (scribe.performAll moves) := by
  induction moves generalizing scribe with
  | nil => exact hstart
  | cons move rest ih => exact ih (hperform scribe move hstart)

/-- What a move comes to: nothing, something that goes on without the writer, or what the
writer does. -/
inductive Performs (scribe : Scribe) : WritingMove → Scribe → Prop where
  | idle (move : WritingMove) : Performs scribe move scribe
  | elsewhere {move : WritingMove} {other : UsageMove}
      (hother : move.elsewhere? = some other) :
      Performs scribe move { scribe with usage := scribe.usage.perform other }
  | interrupted (hturn : scribe.AtTurn) (hfirst : scribe.interrupted = false) :
      Performs scribe (.turn true) scribe.interrupt
  | ended {due : Bool} (hturn : scribe.AtTurn)
      (hpassed : due = true → scribe.interrupted = true)
      (hoffer : scribe.usage.outlet.offer = .ended) :
      Performs scribe (.turn due)
        { scribe with usage := scribe.usage.perform .receive, finished := true }
  | received {due : Bool} {transaction : Transaction} (hturn : scribe.AtTurn)
      (hpassed : due = true → scribe.interrupted = true)
      (hoffer : scribe.usage.outlet.offer = .transaction transaction) :
      Performs scribe (.turn due)
        { scribe with usage := scribe.usage.perform .receive, current := some transaction }
  | answered {transaction : Transaction} (hcurrent : scribe.current = some transaction) :
      Performs scribe .answer (scribe.handle transaction)

theorem performs (scribe : Scribe) (move : WritingMove) :
    scribe.Performs move (scribe.perform move) := by
  cases move with
  | work level | rewrite disk => exact .elsewhere rfl
  | answer =>
      cases hcurrent : scribe.current with
      | none => simpa [perform, hcurrent] using Performs.idle WritingMove.answer
      | some transaction => simpa [perform, hcurrent] using Performs.answered hcurrent
  | turn due =>
      by_cases hturn : scribe.AtTurn
      swap
      · simpa [perform, hturn] using Performs.idle (WritingMove.turn due)
      by_cases hfirst : (due && !scribe.interrupted) = true
      · obtain ⟨rfl, hopen⟩ : due = true ∧ scribe.interrupted = false := by simpa using hfirst
        simpa [perform, hturn, hopen] using Performs.interrupted hturn hopen
      · have hpassed : due = true → scribe.interrupted = true := by simpa using hfirst
        have hreceived : scribe.usage.running.receive.1 = scribe.usage.outlet.offer := rfl
        simp only [perform, hturn, if_true, hfirst, Bool.false_eq_true, if_false, receive,
          hreceived]
        cases hoffer : scribe.usage.outlet.offer with
        | pending => exact .idle _
        | ended => exact .ended hturn hpassed hoffer
        | transaction transaction => exact .received hturn hpassed hoffer

/-- A writer uses the stage as any holder does. -/
theorem exists_performAll_usage (scribe : Scribe) (moves : List WritingMove) :
    ∃ others, (scribe.performAll moves).usage = scribe.usage.performAll others := by
  induction moves generalizing scribe with
  | nil => exact ⟨[], rfl⟩
  | cons move rest ih =>
      obtain ⟨first, hfirst⟩ : ∃ first, (scribe.perform move).usage =
          scribe.usage.performAll first := by
        have hcase := scribe.performs move
        generalize scribe.perform move = after at hcase ⊢
        cases hcase with
        | idle => exact ⟨[], rfl⟩
        | @elsewhere _ other => exact ⟨[other], rfl⟩
        | interrupted => exact ⟨[.close], rfl⟩
        | ended | received => exact ⟨[.receive], rfl⟩
        | @answered transaction =>
            exact ⟨[.pronounce transaction.number
              (some (.ofOutcome (transaction.payload.write scribe.sink).1))], rfl⟩
      obtain ⟨others, hothers⟩ := ih (scribe.perform move)
      exact ⟨first ++ others, by rw [performAll_cons, hothers, hfirst, Usage.performAll_append]⟩

/-! ## What has been written and answered -/

/-- The attempts so far, and what there is to show for them: `before` is the sink as it was
at the start. -/
structure Accounts (before : Sink) (scribe : Scribe) (attempts : List Attempt) : Prop where
  sound : ∀ attempt ∈ attempts, attempt.Sound
  /-- They are for the transactions in the order in which these were handed out. -/
  handedOut : scribe.usage.handedOut =
    attempts.map Attempt.transaction ++ scribe.current.toList
  /-- Each is answered once, and nothing else is. -/
  answered : scribe.usage.verdicts =
    attempts.map fun attempt => (attempt.transaction.number, some attempt.response)
  written : scribe.written = attempts.countP fun attempt => attempt.response.isAck
  content : scribe.sink.content = before.content ++ attempts.flatMap Attempt.taken
  writes : before.writes = attempts.flatMap Attempt.writes ++ scribe.sink.writes
  flushes : before.flushes = attempts.flatMap Attempt.flushes ++ scribe.sink.flushes
  flushed : scribe.sink.flushed = before.flushed + attempts.countP Attempt.flushed

/-- What holds of a writer between any two moves. -/
structure Orderly (scribe : Scribe) : Prop where
  holding : scribe.usage.holding = true
  held : scribe.usage.held = (scribe.current.map Transaction.number).toList
  idle : scribe.finished = true → scribe.current = none
  ended : scribe.finished = true → .received .ended ∈ scribe.usage.record
  asked : scribe.usage.record.count .closed = scribe.interrupted.toNat
  kept : .letGo ∉ scribe.usage.record

/-- Two stages in use whose holder has the same and has done the same. -/
structure SameBooks (first second : Usage) : Prop where
  holding : second.holding = first.holding
  held : second.held = first.held
  handedOut : second.handedOut = first.handedOut
  verdicts : second.verdicts = first.verdicts
  asked : second.record.count .closed = first.record.count .closed
  kept : .letGo ∉ first.record → .letGo ∉ second.record

theorem sameBooks_perform (usage : Usage) {move : WritingMove} {other : UsageMove}
    (hother : move.elsewhere? = some other) : SameBooks usage (usage.perform other) := by
  cases move with
  | work level =>
      obtain rfl : UsageMove.work level = other := Option.some.inj hother
      rcases usage.perform_work_cases level with hsame | ⟨step, _, hafter⟩
      · rw [hsame]
        exact ⟨rfl, rfl, rfl, rfl, rfl, id⟩
      · rw [hafter]
        constructor <;> simp [UsageNote.handedOut?, UsageNote.pronounced?]
  | rewrite disk =>
      obtain rfl : UsageMove.rewrite disk = other := Option.some.inj hother
      constructor <;> simp [Usage.perform, UsageNote.handedOut?, UsageNote.pronounced?]
  | turn | answer => simp [WritingMove.elsewhere?] at hother

variable {scribe : Scribe} {before : Sink} {attempts : List Attempt}

theorem orderly_start (stage : Stage) (world : World) (sink : Sink) :
    (start stage world sink).Orderly := by
  constructor <;> simp [start, Usage.start]

theorem accounts_start (stage : Stage) (world : World) (sink : Sink) :
    (start stage world sink).Accounts sink [] := by
  constructor <;> simp [start, Usage.start, Usage.handedOut, Usage.verdicts]

theorem Orderly.perform (horderly : scribe.Orderly) (move : WritingMove) :
    (scribe.perform move).Orderly := by
  obtain ⟨hholding, hheld, hidle, hended, hasked, hkept⟩ := horderly
  have hcase := scribe.performs move
  generalize scribe.perform move = after at hcase ⊢
  cases hcase with
  | idle => exact ⟨hholding, hheld, hidle, hended, hasked, hkept⟩
  | @elsewhere _ other hother =>
      have hsame := sameBooks_perform scribe.usage hother
      exact ⟨hsame.holding.trans hholding, hsame.held.trans hheld, hidle,
        fun hfinished => scribe.usage.record_perform other (hended hfinished),
        hsame.asked.trans hasked, hsame.kept hkept⟩
  | interrupted hturn hfirst =>
      refine ⟨?_, ?_, hidle, fun hfinished => ?_, ?_, ?_⟩
      · simp [interrupt, Usage.perform, hholding]
      · simp [interrupt, Usage.perform, hholding, hheld]
      · exact scribe.usage.record_perform .close (hended hfinished)
      · simp [interrupt, Usage.perform, hholding, hasked, hfirst]
      · simp [interrupt, Usage.perform, hholding, hkept]
  | ended hturn _ hoffer =>
      have hreceive := Usage.perform_receive_none hholding (by rw [hoffer]; rfl)
      refine ⟨?_, ?_, fun _ => hturn.1, fun _ => ?_, ?_, ?_⟩
      · simp [hreceive, hholding]
      · simp [hreceive, hheld]
      · simp [hreceive, hoffer]
      · simp [hreceive, hasked]
      · simp [hreceive, hkept]
  | received hturn _ hoffer =>
      have hreceive := Usage.perform_receive_some hholding hoffer
      have hunfinished : scribe.finished ≠ true := by simp [hturn.2]
      refine ⟨?_, ?_, fun hfinished => absurd hfinished hunfinished,
        fun hfinished => absurd hfinished hunfinished, ?_, ?_⟩
      · simp [hreceive, hholding]
      · simp [hreceive, hheld, hturn.1]
      · simp [hreceive, hasked]
      · simp [hreceive, hkept]
  | @answered transaction hcurrent =>
      have hmem : transaction.number ∈ scribe.usage.held := by simp [hheld, hcurrent]
      simp only [handle, Usage.perform_pronounce _ hmem]
      refine ⟨hholding, ?_, fun _ => rfl, fun hfinished => ?_, ?_, ?_⟩
      · simp [hheld, hcurrent]
      · simpa using hended hfinished
      · simp [hasked]
      · simp [hkept]

/-- Nothing but an answer adds to the books. -/
theorem Accounts.keep (haccounts : scribe.Accounts before attempts) {after : Scribe}
    (hhanded : after.usage.handedOut =
      attempts.map Attempt.transaction ++ after.current.toList)
    (hanswered : after.usage.verdicts = scribe.usage.verdicts)
    (hwritten : after.written = scribe.written) (hsink : after.sink = scribe.sink) :
    ∃ more, after.Accounts before (attempts ++ more) := by
  refine ⟨[], ?_⟩
  rw [List.append_nil]
  exact ⟨haccounts.sound, hhanded, hanswered.trans haccounts.answered,
    hwritten.trans haccounts.written, by rw [hsink, haccounts.content],
    by rw [hsink, haccounts.writes], by rw [hsink, haccounts.flushes],
    by rw [hsink, haccounts.flushed]⟩

/-- One move adds at most one attempt to the books. -/
theorem Accounts.perform (haccounts : scribe.Accounts before attempts)
    (horderly : scribe.Orderly) (move : WritingMove) :
    ∃ more, (scribe.perform move).Accounts before (attempts ++ more) := by
  obtain ⟨hholding, hheld, _, _, _, _⟩ := horderly
  have hhanded := haccounts.handedOut
  have hcase := scribe.performs move
  generalize scribe.perform move = after at hcase ⊢
  cases hcase with
  | idle => exact haccounts.keep hhanded rfl rfl rfl
  | elsewhere hother =>
      have hsame := sameBooks_perform scribe.usage hother
      exact haccounts.keep (hsame.handedOut.trans hhanded) hsame.verdicts rfl rfl
  | interrupted =>
      apply haccounts.keep
      · simp [interrupt, Usage.perform, hholding, UsageNote.handedOut?, hhanded]
      · simp [interrupt, Usage.perform, hholding, UsageNote.pronounced?]
      · rfl
      · rfl
  | ended _ _ hoffer =>
      have hreceive := Usage.perform_receive_none hholding (by rw [hoffer]; rfl)
      apply haccounts.keep
      · simp [hreceive, hoffer, UsageNote.handedOut?, Received.transaction?, hhanded]
      · simp [hreceive, UsageNote.pronounced?]
      · rfl
      · rfl
  | received hturn _ hoffer =>
      have hreceive := Usage.perform_receive_some hholding hoffer
      apply haccounts.keep
      · simp [hreceive, UsageNote.handedOut?, Received.transaction?, hhanded, hturn.1]
      · simp [hreceive, UsageNote.pronounced?]
      · rfl
      · rfl
  | @answered transaction hcurrent =>
      have hmem : transaction.number ∈ scribe.usage.held := by simp [hheld, hcurrent]
      obtain ⟨attempt, rfl, hresponse, hsound, huses⟩ :=
        Message.write_attempt transaction scribe.sink
      refine ⟨[attempt], ?_⟩
      simp only [handle, ← hresponse, Usage.perform_pronounce _ hmem]
      constructor
      · simpa [or_imp, forall_and] using ⟨haccounts.sound, hsound⟩
      · simp [UsageNote.handedOut?, haccounts.handedOut, hcurrent]
      · simp [UsageNote.pronounced?, haccounts.answered]
      · cases hack : attempt.response.isAck <;> simp [haccounts.written, hack]
      · simp [huses.content, haccounts.content]
      · rw [haccounts.writes, huses.writes]
        simp
      · rw [haccounts.flushes, huses.flushes]
        simp
      · cases hflushed : attempt.flushed <;>
          simp [huses.flushed, haccounts.flushed, hflushed, Nat.add_assoc]

theorem Accounts.performAll (haccounts : scribe.Accounts before attempts)
    (horderly : scribe.Orderly) (moves : List WritingMove) :
    ∃ more, (scribe.performAll moves).Accounts before (attempts ++ more) := by
  induction moves generalizing scribe attempts with
  | nil => exact ⟨[], by simpa using haccounts⟩
  | cons move rest ih =>
      obtain ⟨more, hmore⟩ := haccounts.perform horderly move
      obtain ⟨others, hothers⟩ := ih hmore (horderly.perform move)
      exact ⟨more ++ others, by simpa using hothers⟩

/-- Every run has its books. -/
theorem exists_accounts (stage : Stage) (world : World) (sink : Sink)
    (moves : List WritingMove) :
    ∃ attempts, ((start stage world sink).performAll moves).Accounts sink attempts := by
  obtain ⟨attempts, haccounts⟩ :=
    (accounts_start stage world sink).performAll (orderly_start stage world sink) moves
  exact ⟨attempts, by simpa using haccounts⟩

theorem Orderly.performAll (horderly : scribe.Orderly) (moves : List WritingMove) :
    (scribe.performAll moves).Orderly :=
  performAll_induction horderly (fun _ move horderly => horderly.perform move) moves

/-! ## Interruptions -/

/-- Whether the writer sees at one of its turns that an interruption is due. -/
def Sees (scribe : Scribe) (moves : List WritingMove) : Prop :=
  ∃ earlier later, moves = earlier ++ .turn true :: later ∧ (scribe.performAll earlier).AtTurn

theorem sees_cons (scribe : Scribe) (move : WritingMove) (rest : List WritingMove) :
    scribe.Sees (move :: rest) ↔
      (move = .turn true ∧ scribe.AtTurn) ∨ (scribe.perform move).Sees rest := by
  constructor
  · rintro ⟨_ | ⟨first, earlier⟩, later, hmoves, hturn⟩
    · exact .inl ⟨(List.cons.inj hmoves).1, hturn⟩
    · obtain ⟨rfl, hrest⟩ := List.cons.inj hmoves
      exact .inr ⟨earlier, later, hrest, hturn⟩
  · rintro (⟨rfl, hturn⟩ | ⟨earlier, later, rfl, hturn⟩)
    · exact ⟨[], rest, rfl, hturn⟩
    · exact ⟨move :: earlier, later, rfl, hturn⟩

theorem interrupted_perform_iff (scribe : Scribe) (move : WritingMove) :
    (scribe.perform move).interrupted = true ↔
      scribe.interrupted = true ∨ (move = .turn true ∧ scribe.AtTurn) := by
  constructor
  · intro hafter
    have hcase := scribe.performs move
    generalize scribe.perform move = after at hcase hafter
    cases hcase with
    | interrupted hturn => exact .inr ⟨rfl, hturn⟩
    | _ => exact .inl hafter
  · rintro (hbefore | ⟨rfl, hturn⟩)
    · have hcase := scribe.performs move
      generalize scribe.perform move = after at hcase ⊢
      cases hcase with
      | interrupted => rfl
      | _ => exact hbefore
    · have hcase := scribe.performs (.turn true)
      generalize hperform : scribe.perform (.turn true) = after at hcase ⊢
      cases hcase with
      | interrupted => rfl
      | ended _ hpassed | received _ hpassed => exact hpassed rfl
      | elsewhere hother => simp [WritingMove.elsewhere?] at hother
      | idle =>
          cases hfirst : scribe.interrupted with
          | true => rfl
          | false =>
              have hinterrupted := congrArg Scribe.interrupted hperform
              simp [perform, hturn, hfirst, interrupt] at hinterrupted

theorem interrupted_performAll_iff (scribe : Scribe) (moves : List WritingMove) :
    (scribe.performAll moves).interrupted = true ↔
      scribe.interrupted = true ∨ scribe.Sees moves := by
  induction moves generalizing scribe with
  | nil => simp [Sees]
  | cons move rest ih =>
      rw [performAll_cons, ih, interrupted_perform_iff, sees_cons, or_assoc]

/-- A writer whose stage gives it nothing any more, and that owes no answer. -/
structure Hushed (scribe : Scribe) : Prop where
  idle : scribe.current = none
  ended : scribe.usage.Over
  steady : scribe.usage.Steady

theorem Hushed.perform (hhushed : scribe.Hushed) (move : WritingMove) :
    (scribe.perform move).Hushed ∧ (scribe.perform move).sink = scribe.sink ∧
      (scribe.perform move).usage.handedOut = scribe.usage.handedOut := by
  obtain ⟨hidle, hover, hsteady⟩ := hhushed
  have hended := hsteady.offer_of_over hover
  have hcase := scribe.performs move
  generalize scribe.perform move = after at hcase ⊢
  cases hcase with
  | idle => exact ⟨⟨hidle, hover, hsteady⟩, rfl, rfl⟩
  | @elsewhere _ other =>
      exact ⟨⟨hidle, hover.perform other, hsteady.perform other⟩, rfl,
        Usage.handedOut_perform hended other⟩
  | interrupted =>
      exact ⟨⟨hidle, hover.perform .close, hsteady.close⟩, rfl,
        Usage.handedOut_perform hended .close⟩
  | ended =>
      exact ⟨⟨hidle, hover.perform .receive, hsteady.receive⟩, rfl,
        Usage.handedOut_perform hended .receive⟩
  | received _ _ hoffer => simp [hended] at hoffer
  | answered hcurrent => simp [hidle] at hcurrent

theorem Hushed.performAll (hhushed : scribe.Hushed) (moves : List WritingMove) :
    (scribe.performAll moves).sink = scribe.sink ∧
      (scribe.performAll moves).usage.handedOut = scribe.usage.handedOut := by
  induction moves generalizing scribe with
  | nil => exact ⟨rfl, rfl⟩
  | cons move rest ih =>
      obtain ⟨hafter, hsink, hhanded⟩ := hhushed.perform move
      obtain ⟨hrest, hlater⟩ := ih hafter
      exact ⟨hrest.trans hsink, hlater.trans hhanded⟩

/-- Nothing is received any more from the turn on at which the writer sees that an
interruption is due. -/
theorem hushed_turn (horderly : scribe.Orderly) (hsteady : scribe.usage.Steady)
    (hturn : scribe.AtTurn) :
    (scribe.perform (.turn true)).Hushed ∧ (scribe.perform (.turn true)).sink = scribe.sink ∧
      (scribe.perform (.turn true)).usage.handedOut = scribe.usage.handedOut := by
  cases hfirst : scribe.interrupted with
  | true =>
      have hasked : .closed ∈ scribe.usage.record := by
        rw [← List.count_pos_iff, horderly.asked, hfirst]
        decide
      exact Hushed.perform ⟨hturn.1, .inl (.inl hasked), hsteady⟩ _
  | false =>
      have hperform : scribe.perform (.turn true) = scribe.interrupt := by
        simp [perform, hturn, hfirst]
      have hclose := hsteady.close
      rw [hperform]
      refine ⟨⟨hturn.1, .inl (.inl ?_), hclose⟩, rfl, ?_⟩
      · simp [interrupt, Usage.perform, horderly.holding]
      · simp [interrupt, Usage.perform, horderly.holding, UsageNote.handedOut?]

theorem steady_performAll {stage : Stage} (hfresh : stage.IsFresh) (world : World) (sink : Sink)
    (moves : List WritingMove) : ((start stage world sink).performAll moves).usage.Steady := by
  obtain ⟨others, hothers⟩ := (start stage world sink).exists_performAll_usage moves
  rw [hothers]
  exact Usage.steady_performAll hfresh world others

end Scribe

end Intake
