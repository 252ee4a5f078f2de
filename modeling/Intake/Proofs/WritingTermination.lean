import Intake.Proofs.LineFraming
import Intake.Proofs.PumpDelivery
import Intake.Proofs.StageProgress
import Intake.Proofs.WritingRuns

/-!
# Writing out messages at hand

A writer that nobody interrupts gets every message of a list or a file written, however
often the sink fails before it works.  Each pull leaves less to be pulled, a message costs a
few steps, and a few more for each failure of the sink; so what is left of the source, of the
failures and of the current round is a number that each step lowers.  And until the writer is
through there is always a step, since a stage that waits for its holder has something for it.
-/

namespace Intake

/-! ## What is left to do -/

/-- Whether something has been gathered that the end of the bytes makes a message. -/
def Framer.isOpen (framer : Framer) : Bool := !(framer.line.isEmpty && framer.parts.isEmpty)

/-- How many bytes an origin of its own still has. -/
def Origin.left : Origin → Nat
  | .own source => source.data.length
  | .standard => 0

/-- How often a source can be pulled at most before it ends or fails.  A byte is read, framed
and may then leave something gathered. -/
def Source.remaining : Source → Nat
  | .listed items => items.length
  | .lines framer ahead origin => framer.isOpen.toNat + 2 * ahead.length + 3 * origin.left

/-- What the end of the bytes makes a message has been gathered before. -/
theorem Framer.isOpen_of_finish {framer : Framer} {message : Message}
    (hfinish : framer.finish = .ok (some message)) : framer.isOpen = true := by
  obtain ⟨multipart, line, parts⟩ := framer
  cases line with
  | cons b line => rfl
  | nil =>
      cases parts with
      | cons part parts => rfl
      | nil => cases hfinish

theorem ByteSource.length_readUnless (source : ByteSource) (stopped : Bool) (size : Nat) :
    match source.readUnless stopped size with
    | (.bytes content, after) => after.data.length + content.length = source.data.length
    | (_, after) => after.data.length ≤ source.data.length := by
  cases stopped with
  | true => simp [readUnless]
  | false =>
      rw [readUnless_false, read]
      cases htaken : takeFrom size source.pieces with
      | some taken =>
          have hwhole := congrArg List.length (append_of_takeFrom htaken)
          rw [List.length_append] at hwhole
          simp only [data]
          omega
      | none => cases source.tail <;> simp [data]

section Pulled

variable {source next : Source} {framer : Framer} {stdin after : ByteSource} {stopped : Bool}
  {pulled : Pulled}

/-- What is left to be pulled after a pull.  Where pulling goes on it is less. -/
def Source.Lowers (source next : Source) : Pulled → Prop
  | .message _ | .more => next.remaining < source.remaining
  | .ended | .failed _ | .waiting => next.remaining ≤ source.remaining

theorem Source.lowers_of_framing {b : UInt8} {rest : Bytes} {origin : Origin}
    (hpull : pull stopped stdin (.lines framer (b :: rest) origin) = (pulled, next, after)) :
    (Source.lines framer (b :: rest) origin).Lowers next pulled := by
  have hopen (framer : Framer) : framer.isOpen.toNat ≤ 1 := Bool.toNat_le _
  cases hnext : framer.next (b :: rest) with
  | message message framed left =>
      obtain ⟨rfl, rfl, -⟩ : _ ∧ _ ∧ _ := by simpa [pull, hnext] using hpull
      have hshorter := Framer.length_of_next hnext
      have hframed := hopen framed
      simp only [Lowers, remaining]
      omega
  | starved framed =>
      obtain ⟨rfl, rfl, -⟩ : _ ∧ _ ∧ _ := by simpa [pull, hnext] using hpull
      have hframed := hopen framed
      simp only [Lowers, remaining, List.length_cons, List.length_nil]
      omega
  | failed error =>
      obtain ⟨rfl, rfl, -⟩ : _ ∧ _ ∧ _ := by simpa [pull, hnext] using hpull
      simp only [Lowers, remaining, List.length_cons, List.length_nil]
      omega

theorem Source.lowers_of_reading {reader : ByteSource}
    (hpull : pull stopped stdin (.lines framer [] (.own reader)) = (pulled, next, after)) :
    (Source.lines framer [] (.own reader)).Lowers next pulled := by
  have hlength := reader.length_readUnless stopped pieceSize
  obtain ⟨piece, left, hread⟩ : ∃ piece left,
      reader.readUnless stopped pieceSize = (piece, left) := ⟨_, _, rfl⟩
  have hpiece : readPiece stopped stdin (.own reader) = (piece, .own left, stdin) := by
    rw [readPiece, hread]
  rw [hread] at hlength
  cases piece with
  | failed error | waiting =>
      obtain ⟨rfl, rfl, -⟩ : _ ∧ _ ∧ _ := by simpa [pull, hpiece] using hpull
      simp only [Lowers, remaining, Origin.left] at hlength ⊢
      omega
  | bytes content =>
      cases content with
      | cons b rest =>
          obtain ⟨rfl, rfl, -⟩ : _ ∧ _ ∧ _ := by simpa [pull, hpiece] using hpull
          simp only [Lowers, remaining, Origin.left, List.length_cons, List.length_nil]
            at hlength ⊢
          omega
      | nil =>
          have hsame : left.data.length = reader.data.length := hlength
          rcases hfinish : framer.finish with error | _ | message
          · obtain ⟨rfl, rfl, -⟩ : _ ∧ _ ∧ _ := by simpa [pull, hpiece, hfinish] using hpull
            simp [Lowers, remaining, Origin.left, hsame]
          · obtain ⟨rfl, rfl, -⟩ : _ ∧ _ ∧ _ := by simpa [pull, hpiece, hfinish] using hpull
            simp [Lowers, remaining, Origin.left, hsame]
          · obtain ⟨rfl, rfl, -⟩ : _ ∧ _ ∧ _ := by simpa [pull, hpiece, hfinish] using hpull
            have hfresh : (Framer.mk framer.multipart [] []).isOpen = false := rfl
            simp [Lowers, remaining, Origin.left, hsame, Framer.isOpen_of_finish hfinish, hfresh]

theorem Source.lowers_of_pull (hsource : source.NeverWaits)
    (hpull : source.pull stopped stdin = (pulled, next, after)) : source.Lowers next pulled := by
  cases source with
  | listed items => rcases items with _ | ⟨_ | _, _⟩ <;> cases hpull <;> simp [Lowers, remaining]
  | lines framer ahead origin =>
      cases ahead with
      | cons b rest => exact lowers_of_framing hpull
      | nil =>
          cases origin with
          | standard => exact hsource.elim
          | own reader => exact lowers_of_reading hpull

end Pulled

/-- How many steps a pump needs for what it is at, if it is not rejected. -/
def Pump.pending (receipts : Receipts) (pump : Pump) : Nat :=
  match pump.phase with
  | .finished => 0
  | .confirming => 1
  | .leaving => 2
  | .pulling => 3
  | .resting => 4
  | .offering _ => 8
  | .awaiting _ number =>
      if pump.outlet.slot.isSome then 7
      else
        match receipts.get number with
        | .open => 6
        | .answered response => if response.isAck then 5 else 9
        | .forsaken | .abandoned | .settled => 9

/-- A message takes six steps and one that is rejected four more. -/
def Pump.toil (receipts : Receipts) (pump : Pump) : Nat :=
  6 * pump.source.remaining + pump.pending receipts

namespace Pump

variable {receipts : Receipts} {stdin : ByteSource} {pump : Pump} {move : PumpMove}

theorem StepCase.toil_lt (hcase : pump.StepCase receipts stdin move)
    (hopen : pump.outlet.shutdown.signalled = false) (haccepting : pump.outlet.refused = false)
    (hsource : pump.source.NeverWaits)
    (hslot : ∀ message number, pump.phase = .awaiting message number →
      receipts.get number ≠ .open → pump.outlet.slot = none) :
    move.pump.toil move.receipts < pump.toil receipts := by
  cases hcase with
  | turnAway _ hclosing => simp [hopen] at hclosing
  | turnToSource hphase => simp [toil, pending, enter, hphase]
  | readOn hphase hpull | ended hphase hpull | failed hphase hpull | pulled hphase hpull =>
      have hlower := Source.lowers_of_pull hsource hpull
      simp only [Source.Lowers] at hlower
      simp only [toil, pending, hphase]
      omega
  | giveUp _ hclosing => simp [hopen, haccepting] at hclosing
  | sent hphase => simp [toil, pending, hphase, Outlet.put]
  | withdrew _ hclosing => simp [hopen] at hclosing
  | acknowledged hphase _ hanswered hack =>
      have hnone := hslot _ _ hphase (by simp [hanswered])
      simp [toil, pending, enter, hphase, hnone, hanswered, hack]
  | rejected hphase _ hanswered hnack =>
      have hnone := hslot _ _ hphase (by simp [hanswered])
      simp [toil, pending, enter, hphase, hnone, hanswered, hnack]
  | @dropped _ number hphase _ hlook =>
      have hnone := hslot _ _ hphase (by intro heq; simp [heq, Receipt.look] at hlook)
      cases hget : receipts.get number <;> simp_all [toil, pending, enter, Receipt.look]
  | released hphase => simp [toil, pending, hphase]
  | confirmed hphase => simp [toil, pending, hphase]

end Pump

namespace Scribe

/-- How many steps are left until the writer is through. -/
def toil (scribe : Scribe) : Nat :=
  (match scribe.usage.running.stage with
    | .pump pump => pump.toil scribe.usage.receipts
    | .guard .. => 0) + 4 * scribe.sink.failures.length + (!scribe.finished).toNat

/-- Whether a move is a step that can be taken now. -/
def Can (scribe : Scribe) : WritingMove → Prop
  | .work level => (scribe.usage.running.work level).isSome = true
  | .turn due =>
      scribe.AtTurn ∧
        ((due && !scribe.interrupted) = true ∨ scribe.usage.outlet.offer ≠ .pending)
  | .answer => scribe.current.isSome = true
  | .rewrite _ => False

instance (scribe : Scribe) : (move : WritingMove) → Decidable (scribe.Can move)
  | .work _ | .answer => inferInstanceAs (Decidable (_ = true))
  | .turn _ => inferInstanceAs (Decidable (_ ∧ _))
  | .rewrite _ => inferInstanceAs (Decidable False)

/-- How many of some moves are steps that are taken. -/
def effort (scribe : Scribe) : List WritingMove → Nat
  | [] => 0
  | move :: rest => (if scribe.Can move then 1 else 0) + (scribe.perform move).effort rest

end Scribe

theorem Source.streams_all (messages : List Message) (stdin : ByteSource) :
    (Source.listed (messages.map .ok)).Streams stdin messages none := by
  induction messages with
  | nil => exact .ended rfl
  | cons message messages ih => exact .message rfl ih

namespace Usage

/-- All that is known of a pump whose source never keeps it waiting. -/
structure Deals (messages : List Message) (failure : Option IoError) (usage : Usage) : Prop where
  pumping : ∃ pump past, usage.PumpInvariant messages failure pump past
  flows : usage.running.stage.Flows
  steady : usage.Steady
  closable : usage.Closable

theorem Deals.performAll {usage : Usage} {messages : List Message} {failure : Option IoError}
    (hdeals : usage.Deals messages failure) (moves : List UsageMove) :
    (usage.performAll moves).Deals messages failure := by
  refine performAll_induction hdeals (fun usage move hdeals => ?_) moves
  obtain ⟨⟨pump, past, hpumping⟩, hflows, hsteady, hclosable⟩ := hdeals
  obtain ⟨after, more, hafter⟩ := hpumping.perform move
  exact ⟨⟨after, _, hafter⟩, flows_perform hflows move, hsteady.perform move,
    hclosable.perform move⟩

theorem deals_start (kind : String) {source : Source} {world : World} {messages : List Message}
    {failure : Option IoError} (hstream : source.Streams world.stdin messages failure)
    (hflows : source.NeverWaits) :
    (Usage.start (.ofSource kind source) world).Deals messages failure := by
  have hfresh : (Stage.ofSource kind source).IsFresh := ⟨rfl, rfl⟩
  exact ⟨⟨_, [], .start kind hstream⟩, hflows, .start hfresh world, .start hfresh world⟩

end Usage

/-! ## What has been accepted -/

/-- Whether a transaction has been accepted. -/
def Usage.accepted (usage : Usage) (number : Nat) : Bool :=
  usage.verdicts.any fun entry => entry.1 == number && Verdict.accepts entry.2

theorem Usage.Tidy.accepted_eq {usage : Usage} (htidy : usage.Tidy) {number : Nat}
    {verdict : Verdict} (hmem : (number, verdict) ∈ usage.verdicts) :
    usage.accepted number = verdict.accepts := by
  rw [Bool.eq_iff_iff]
  simp only [accepted, List.any_eq_true, Bool.and_eq_true, beq_iff_eq]
  constructor
  · rintro ⟨⟨_, other⟩, hother, rfl, haccepts⟩
    have hsame := List.inj_on_of_nodup_map htidy.pronouncedOnce hother hmem rfl
    rwa [← (Prod.mk.inj hsame).2]
  · exact fun haccepts => ⟨_, hmem, rfl, haccepts⟩

/-- Of a round that is over the last transaction has been accepted and no other. -/
theorem Round.filter_accepted {usage : Usage} (htidy : usage.Tidy) {round : Round}
    (hrepeated : round.Repeated usage.verdicts) (haccepted : round.Accepted usage.verdicts) :
    (round.transactions.filter fun transaction => usage.accepted transaction.number).map
      Transaction.payload = [round.message] := by
  obtain ⟨last, response, hlast, hmem, hack⟩ := haccepted
  have hfront : round.numbers.dropLast.filter usage.accepted = [] := by
    rw [List.filter_eq_nil_iff]
    intro number hnumber
    obtain ⟨verdict, hverdict, hrejects⟩ := hrepeated number hnumber
    simp [htidy.accepted_eq hverdict, hrejects]
  have hnumbers : round.numbers.filter usage.accepted = [last] := by
    rw [← List.dropLast_append_getLast? last hlast, List.filter_append, hfront]
    simp [htidy.accepted_eq hmem, hack]
  simp [transactions, List.filter_map, Function.comp_def, hnumbers]

namespace Scribe

/-- A writer that nobody has interrupted, of the messages that a pump never waits for. -/
structure Undisturbed (messages : List Message) (failure : Option IoError) (scribe : Scribe) :
    Prop where
  deals : scribe.usage.Deals messages failure
  orderly : scribe.Orderly
  unasked : scribe.interrupted = false

variable {messages : List Message} {failure : Option IoError} {scribe : Scribe}

theorem toil_of_pump {pump : Pump} (hstage : scribe.usage.running.stage = .pump pump) :
    scribe.toil = pump.toil scribe.usage.receipts + 4 * scribe.sink.failures.length +
      (!scribe.finished).toNat := by
  simp [toil, hstage]

theorem undisturbed_start (kind : String) {source : Source} {world : World} (sink : Sink)
    (hstream : source.Streams world.stdin messages failure) (hsource : source.NeverWaits) :
    (start (.ofSource kind source) world sink).Undisturbed messages failure :=
  ⟨Usage.deals_start kind hstream hsource, orderly_start _ world sink, rfl⟩

namespace Undisturbed

theorem perform (hscribe : scribe.Undisturbed messages failure) {move : WritingMove}
    (hmove : move ≠ .turn true) : (scribe.perform move).Undisturbed messages failure := by
  obtain ⟨hdeals, horderly, hunasked⟩ := hscribe
  obtain ⟨others, hothers⟩ := scribe.exists_performAll_usage [move]
  have hused : (scribe.perform move).usage = scribe.usage.performAll others := hothers
  refine ⟨?_, horderly.perform move, ?_⟩
  · rw [hused]
    exact hdeals.performAll others
  · rw [← Bool.not_eq_true, interrupted_perform_iff]
    simp [hunasked, hmove]

theorem performAll (hscribe : scribe.Undisturbed messages failure) {moves : List WritingMove}
    (hmoves : .turn true ∉ moves) : (scribe.performAll moves).Undisturbed messages failure := by
  induction moves generalizing scribe with
  | nil => exact hscribe
  | cons move rest ih =>
      simp only [List.mem_cons, not_or] at hmoves
      exact ih (hscribe.perform (Ne.symm hmoves.1)) hmoves.2

theorem not_asked (hscribe : scribe.Undisturbed messages failure) : ¬scribe.usage.Asked := by
  rintro (hclosed | hletGo)
  · have hcount := hscribe.orderly.asked
    rw [hscribe.unasked] at hcount
    exact (List.count_pos_iff.mpr hclosed).ne' hcount
  · exact hscribe.orderly.kept hletGo

/-- As far as the pump can tell, nobody asks it to close. -/
theorem stands (hscribe : scribe.Undisturbed messages failure) :
    ∃ pump past, scribe.usage.PumpInvariant messages failure pump past ∧
      pump.outlet.shutdown.signalled = false ∧ pump.outlet.refused = false ∧
        pump.Stands messages failure scribe.usage past := by
  obtain ⟨pump, past, hpumping⟩ := hscribe.deals.pumping
  have hopen : pump.outlet.shutdown.signalled = false := by
    rw [hpumping.signal, ← hpumping.outlet_eq, ← Bool.not_eq_true, ← hscribe.deals.closable.asked]
    exact hscribe.not_asked
  have haccepting : pump.outlet.refused = false := by
    by_contra hrefuses
    simp [hpumping.refusal (by simpa using hrefuses)] at hopen
  exact ⟨pump, past, hpumping, hopen, haccepting, hpumping.stands hopen⟩

theorem toil_work (hscribe : scribe.Undisturbed messages failure) (level : Nat) :
    (scribe.perform (.work level)).toil + (if scribe.Can (.work level) then 1 else 0) ≤
      scribe.toil := by
  obtain ⟨pump, past, hpumping, hopen, haccepting, hstands⟩ := hscribe.stands
  cases hstep : scribe.usage.running.stage.step scribe.usage.running.world level with
  | none => simp [Scribe.perform, Usage.perform, Can, Running.work, hstep]
  | some move =>
      have hflows := hscribe.deals.flows
      have hstage := hpumping.stage
      rw [hstage] at hstep hflows
      cases level with
      | succ level => simp [Stage.step_succ_pump] at hstep
      | zero =>
          obtain ⟨step, hpump, rfl⟩ := Stage.step_zero_pump hstep
          have hlower : step.pump.toil step.receipts < pump.toil scribe.usage.receipts := by
            refine (Pump.stepCase_of_step hpump).toil_lt hopen haccepting hflows ?_
            intro message number hphase hsettled
            obtain ⟨_, _, houtstanding⟩ := (Pump.stands_awaiting hphase).mp hstands
            exact (houtstanding.decided_of_receipt hsettled).1
          have hperform : (scribe.perform (.work 0)).usage =
              scribe.usage.afterPump pump step := by
            simp [Scribe.perform, Usage.perform, Running.work, hstage, hstep, Usage.afterPump]
          have hafter : (scribe.perform (.work 0)).usage.running.stage = .pump step.pump := by
            rw [hperform]
            rfl
          rw [toil_of_pump hafter, toil_of_pump hstage, hperform, Usage.afterPump_receipts]
          simp only [Scribe.perform]
          split <;> omega

theorem toil_turn (hscribe : scribe.Undisturbed messages failure) :
    (scribe.perform (.turn false)).toil + (if scribe.Can (.turn false) then 1 else 0) ≤
      scribe.toil := by
  by_cases hturn : scribe.AtTurn
  swap
  · simp [Scribe.perform, Can, hturn]
  obtain ⟨pump, past, hpumping, hopen, haccepting, hstands⟩ := hscribe.stands
  have hstage := hpumping.stage
  have houtlet := hpumping.outlet_eq
  have hclosing : pump.outlet.isClosing = false := by
    simp [Outlet.isClosing, hopen, ← hpumping.signal]
  have hreceived : scribe.usage.running.receive.1 = scribe.usage.outlet.offer := rfl
  have hperform : scribe.perform (.turn false) = scribe.receive := by
    simp [Scribe.perform, hturn]
  rw [hperform, receive, hreceived]
  cases hoffer : scribe.usage.outlet.offer with
  | pending => simp [Can, hoffer]
  | ended =>
      have hnone : pump.outlet.slot = none := by
        by_contra hsome
        obtain ⟨transaction, hslot⟩ := Option.ne_none_iff_exists'.mp hsome
        simp [houtlet, Outlet.offer, hclosing, hslot] at hoffer
      have hnothing := Usage.KeepsUp.receive_nothing hscribe.orderly.holding
        (by rw [houtlet, hclosing]) (by rw [houtlet, hnone])
      have hafter : (scribe.usage.perform .receive).running.stage = .pump pump := by
        rw [hnothing, hstage]
      have hreceipts : (scribe.usage.perform .receive).receipts = scribe.usage.receipts := by
        rw [hnothing]
        rfl
      rw [toil_of_pump hafter, toil_of_pump hstage]
      simp only [hreceipts, hturn.2]
      split <;> simp
  | transaction transaction =>
      have hslot : pump.outlet.slot = some transaction := by
        rw [← houtlet]
        exact Outlet.slot_of_offer hoffer
      obtain ⟨hphase, _, _, hopened, _⟩ := hstands.buffered_of_slot hslot
      have hreceive := Usage.perform_receive_some hscribe.orderly.holding hoffer
      have hafter : (scribe.usage.perform .receive).running.stage =
          .pump { pump with outlet := { pump.outlet with slot := none } } := by
        simp [hreceive, Running.receive, hstage, Stage.take, Stage.outlet, Stage.withOutlet,
          Outlet.take, hclosing]
      have hreceipts : (scribe.usage.perform .receive).receipts = scribe.usage.receipts := by
        simp [hreceive, Usage.receipts, Running.receive, hstage, Stage.take, Stage.outlet,
          Outlet.take, hclosing]
      rw [toil_of_pump hafter, toil_of_pump hstage]
      simp only [hreceipts, Pump.toil, Pump.pending, hphase, hslot, hopened, Option.isSome_some,
        Option.isSome_none, if_true, Bool.false_eq_true, if_false]
      split <;> omega

theorem toil_answer (hscribe : scribe.Undisturbed messages failure) :
    (scribe.perform .answer).toil + (if scribe.Can .answer then 1 else 0) ≤ scribe.toil := by
  cases hcurrent : scribe.current with
  | none => simp [Scribe.perform, Can, hcurrent]
  | some transaction =>
      obtain ⟨pump, past, hpumping, hopen, haccepting, hstands⟩ := hscribe.stands
      have hstage := hpumping.stage
      have hmem : transaction.number ∈ scribe.usage.held := by
        simp [hscribe.orderly.held, hcurrent]
      obtain ⟨message, _, hphase, _, hslot, hopened, _⟩ := hstands.held_of_mem hmem
      obtain ⟨attempt, rfl, hresponse, hsound, huses⟩ :=
        Message.write_attempt transaction scribe.sink
      have hperform : scribe.perform .answer = scribe.handle attempt.transaction := by
        simp [Scribe.perform, hcurrent]
      have hafter : (scribe.perform .answer).usage.running.stage = .pump pump := by
        rw [hperform]
        simp [handle, Usage.perform_pronounce _ hmem, Running.pronounce, hstage]
      have hreceipts : (scribe.perform .answer).usage.receipts.get attempt.transaction.number =
          .answered attempt.response := by
        rw [hperform]
        simp only [handle, ← hresponse, Usage.perform_pronounce _ hmem, Usage.receipts,
          Running.pronounce]
        rw [Receipts.get_pronounce, if_pos rfl]
        change (scribe.usage.receipts.get attempt.transaction.number).pronounce _ = _
        rw [hopened]
        rfl
      have hsink : scribe.sink.failures.length = (!attempt.response.isAck).toNat +
          (scribe.perform .answer).sink.failures.length := by
        rw [hperform, huses.failures_length, hsound.failures_length]
        rfl
      have hfinished : (scribe.perform .answer).finished = scribe.finished := by
        rw [hperform]
        rfl
      rw [toil_of_pump hafter, toil_of_pump hstage, hsink, hfinished]
      simp only [Pump.toil, Pump.pending, hphase, hslot, hopened, hreceipts, Option.isSome_none,
        Bool.false_eq_true, if_false]
      cases attempt.response.isAck <;> simp <;> split <;> omega

theorem toil_perform (hscribe : scribe.Undisturbed messages failure) {move : WritingMove}
    (hmove : move ≠ .turn true) :
    (scribe.perform move).toil + (if scribe.Can move then 1 else 0) ≤ scribe.toil := by
  cases move with
  | work level => exact hscribe.toil_work level
  | answer => exact hscribe.toil_answer
  | rewrite disk => exact Nat.le_refl scribe.toil
  | turn due =>
      cases due with
      | false => exact hscribe.toil_turn
      | true => exact absurd rfl hmove

/-- Every step that is taken is one less of those that are left. -/
theorem effort_le (hscribe : scribe.Undisturbed messages failure) {moves : List WritingMove}
    (hmoves : .turn true ∉ moves) :
    scribe.effort moves + (scribe.performAll moves).toil ≤ scribe.toil := by
  induction moves generalizing scribe with
  | nil => simp [effort]
  | cons move rest ih =>
      simp only [List.mem_cons, not_or] at hmoves
      have hfirst := hscribe.toil_perform (Ne.symm hmoves.1)
      have hrest := ih (hscribe.perform (Ne.symm hmoves.1)) hmoves.2
      simp only [effort, performAll_cons]
      omega

/-- Until the writer is through there is a step. -/
theorem exists_can (hscribe : scribe.Undisturbed messages failure)
    (hfinished : scribe.finished = false) :
    ∃ move, move ≠ .turn true ∧ scribe.Can move := by
  cases hcurrent : scribe.current with
  | some transaction => exact ⟨.answer, by simp, by simp [Can, hcurrent]⟩
  | none =>
      have hturn : scribe.AtTurn := ⟨hcurrent, hfinished⟩
      have hnone : scribe.usage.held = [] := by simp [hscribe.orderly.held, hcurrent]
      have hready : scribe.usage.outlet.offer ≠ .pending →
          ∃ move, move ≠ .turn true ∧ scribe.Can move :=
        fun hoffer => ⟨.turn false, by simp, hturn, .inr hoffer⟩
      cases hscribe.deals.steady with
      | asked hasked hsignal =>
          apply hready
          simp [Outlet.offer_of_isClosing (Outlet.isClosing_of_signalled hsignal)]
      | @poised standing hpoised hheld =>
          have hoffer : scribe.usage.outlet.offer = standing.offer := hpoised.shows.offer_eq
          cases standing with
          | lent number => simp [hheld, Standing.held] at hnone
          | offering | ended =>
              apply hready
              simp [hoffer, Standing.offer]
          | working =>
              obtain ⟨level, hstep⟩ :=
                hpoised.exists_step hscribe.deals.closable.stage hscribe.deals.flows
              exact ⟨.work level, by simp, by simpa [Can, Running.work] using hstep⟩

/-- A writer that is through has had every message accepted. -/
theorem delivered (hscribe : scribe.Undisturbed messages failure)
    (hfinished : scribe.finished = true) :
    (scribe.usage.handedOut.filter fun transaction =>
      scribe.usage.accepted transaction.number).map Transaction.payload = messages := by
  obtain ⟨pump, past, hpumping, hopen, _, hstands⟩ := hscribe.stands
  have hspent : pump.Spent messages scribe.usage past := by
    cases hscribe.deals.steady with
    | asked hasked => exact absurd hasked hscribe.not_asked
    | poised hpoised _ _ _ hended =>
        obtain rfl := hended (hscribe.orderly.ended hfinished)
        obtain ⟨closed, hleft⟩ := hpoised.shows
        have hreleased : pump.outlet.released = true := by
          have houtlet : pump.outlet = .left closed := by
            rw [← hleft, hpumping.stage]
            rfl
          rw [houtlet]
          rfl
        exact (Pump.stands_spent (.inr (hpumping.release hreleased))).mp hstands
  rw [hspent.handedOut, hspent.all, List.filter_flatMap, List.map_flatMap]
  rw [List.map_eq_flatMap]
  refine List.flatMap_congr fun round hround => ?_
  obtain ⟨hrepeated, haccepted⟩ := hpumping.rounds round hround
  exact round.filter_accepted hpumping.tidy hrepeated haccepted

end Undisturbed

/-- The attempts that were accepted are those for the transactions accepted. -/
theorem Accounts.map_filter_isAck {before : Sink} {attempts : List Attempt}
    (haccounts : scribe.Accounts before attempts) (htidy : scribe.usage.Tidy)
    (hidle : scribe.current = none) :
    (attempts.filter fun attempt => attempt.response.isAck).map Attempt.transaction =
      scribe.usage.handedOut.filter fun transaction =>
        scribe.usage.accepted transaction.number := by
  have hhanded : scribe.usage.handedOut = attempts.map Attempt.transaction := by
    simpa [hidle] using haccounts.handedOut
  rw [hhanded, List.filter_map]
  congr 1
  refine List.filter_congr fun attempt hattempt => ?_
  have hmem : (attempt.transaction.number, some attempt.response) ∈ scribe.usage.verdicts := by
    rw [haccounts.answered]
    exact List.mem_map_of_mem hattempt
  exact (htidy.accepted_eq hmem).symm

/-- When a writer is through, the attempts that were accepted are one for each message, in
order. -/
theorem Undisturbed.accepted (hscribe : scribe.Undisturbed messages failure)
    (hfinished : scribe.finished = true) {before : Sink} {attempts : List Attempt}
    (haccounts : scribe.Accounts before attempts) :
    (attempts.filter fun attempt => attempt.response.isAck).map
      (fun attempt => attempt.transaction.payload) = messages := by
  obtain ⟨pump, past, hpumping⟩ := hscribe.deals.pumping
  have hsame := haccounts.map_filter_isAck hpumping.tidy (hscribe.orderly.idle hfinished)
  rw [← hscribe.delivered hfinished, ← hsame, List.map_map]
  rfl

end Scribe

end Intake
