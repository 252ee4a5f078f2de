import Intake.Proofs.StepCases
import Intake.Running

/-!
# Stages in use

Somebody holds a running stage and receives, answers, drops, closes and lets go
as they like, while the workers take their steps at any level and files change.
A list of moves fixes one interleaving of all of that; a move that cannot be
made changes nothing.  The record keeps what happened, so that a statement
about every list of moves is a statement about every run.
-/

namespace Intake

/-- What can happen next to a stage in use. -/
inductive UsageMove where
  /-- The worker at a level takes a step. -/
  | work (level : Nat)
  | receive
  /-- The holder answers a transaction, or drops it. -/
  | pronounce (number : Nat) (verdict : Verdict)
  | close
  | letGo
  /-- The files change. -/
  | rewrite (disk : Disk)

/-- What has happened to a stage in use. -/
inductive UsageNote where
  | worked (event : Event)
  | received (received : Received)
  | pronounced (number : Nat) (verdict : Verdict)
  | closed
  | letGo
  | rewritten
  deriving DecidableEq

/-- A running stage in use.  `held` are the numbers of the transactions that the
holder has received and owes a verdict for. -/
structure Usage where
  running : Running
  held : List Nat := []
  holding : Bool := true
  record : List UsageNote := []

/-- Pronounces a verdict on a transaction. -/
def Running.pronounce (running : Running) (number : Nat) (verdict : Verdict) : Running :=
  { running with
    world := { running.world with
      receipts := running.world.receipts.pronounce number verdict } }

namespace Usage

def start (stage : Stage) (world : World) : Usage := { running := { stage, world } }

def outlet (usage : Usage) : Outlet := usage.running.stage.outlet

def receipts (usage : Usage) : Receipts := usage.running.world.receipts

def perform (usage : Usage) : UsageMove → Usage
  | .work level =>
      match usage.running.work level with
      | none => usage
      | some (event, running) =>
          { usage with running, record := usage.record ++ [.worked event] }
  | .receive =>
      if usage.holding then
        { usage with
          running := usage.running.receive.2
          held := usage.held ++
            (usage.running.receive.1.transaction?.map Transaction.number).toList
          record := usage.record ++ [.received usage.running.receive.1] }
      else usage
  | .pronounce number verdict =>
      if number ∈ usage.held then
        { usage with
          running := usage.running.pronounce number verdict
          held := usage.held.erase number
          record := usage.record ++ [.pronounced number verdict] }
      else usage
  | .close =>
      if usage.holding then
        { usage with
          running := usage.running.close
          record := usage.record ++ [.closed] }
      else usage
  | .letGo =>
      if usage.holding then
        { usage with
          running := usage.running.letGo
          holding := false
          record := usage.record ++ [.letGo] }
      else usage
  | .rewrite disk =>
      { usage with
        running := { usage.running with world := { usage.running.world with disk } }
        record := usage.record ++ [.rewritten] }

def performAll (usage : Usage) (moves : List UsageMove) : Usage :=
  moves.foldl perform usage

@[simp] theorem performAll_nil (usage : Usage) : usage.performAll [] = usage := rfl

@[simp] theorem performAll_cons (usage : Usage) (move : UsageMove) (rest : List UsageMove) :
    usage.performAll (move :: rest) = (usage.perform move).performAll rest := rfl

theorem performAll_append (usage : Usage) (moves rest : List UsageMove) :
    usage.performAll (moves ++ rest) = (usage.performAll moves).performAll rest :=
  List.foldl_append

/-- What each move keeps holds after all of them. -/
theorem performAll_induction {motive : Usage → Prop} {usage : Usage}
    (hstart : motive usage)
    (hperform : ∀ usage move, motive usage → motive (usage.perform move))
    (moves : List UsageMove) : motive (usage.performAll moves) := by
  induction moves generalizing usage with
  | nil => exact hstart
  | cons move rest ih => exact ih (hperform usage move hstart)

theorem perform_receive_none {usage : Usage} (hholding : usage.holding = true)
    (hoffer : usage.outlet.offer.transaction? = none) :
    usage.perform .receive =
      { usage with
        running := usage.running.receive.2
        record := usage.record ++ [.received usage.outlet.offer] } := by
  have hreceived : usage.running.receive.1 = usage.outlet.offer := rfl
  simp [perform, hholding, hreceived, hoffer]

theorem perform_receive_some {usage : Usage} (hholding : usage.holding = true)
    {transaction : Transaction} (hoffer : usage.outlet.offer = .transaction transaction) :
    usage.perform .receive =
      { usage with
        running := usage.running.receive.2
        held := usage.held ++ [transaction.number]
        record := usage.record ++ [.received (.transaction transaction)] } := by
  have hreceived : usage.running.receive.1 = .transaction transaction := hoffer
  simp [perform, hholding, hreceived, Received.transaction?]

theorem perform_pronounce {usage : Usage} {number : Nat} (verdict : Verdict)
    (hheld : number ∈ usage.held) :
    usage.perform (.pronounce number verdict) =
      { usage with
        running := usage.running.pronounce number verdict
        held := usage.held.erase number
        record := usage.record ++ [.pronounced number verdict] } := by
  simp [perform, hheld]

end Usage

namespace UsageNote

/-- The transaction that a note says was handed out. -/
def handedOut? : UsageNote → Option Transaction
  | .received outcome => outcome.transaction?
  | _ => none

/-- The message that a note says the pump of a stage pulled from its source. -/
def pulled? : UsageNote → Option Message
  | .worked (.pump _ (.pulled message)) => some message
  | _ => none

/-- The verdict that a note says was pronounced, with the transaction's number. -/
def pronounced? : UsageNote → Option (Nat × Verdict)
  | .pronounced number verdict => some (number, verdict)
  | _ => none

end UsageNote

namespace Usage

/-- The transactions handed out so far. -/
def handedOut (usage : Usage) : List Transaction :=
  usage.record.filterMap UsageNote.handedOut?

/-- The messages pulled so far by the pump of a stage that has no guards. -/
def pulled (usage : Usage) : List Message := usage.record.filterMap UsageNote.pulled?

/-- The verdicts pronounced so far, with the numbers of the transactions. -/
def verdicts (usage : Usage) : List (Nat × Verdict) :=
  usage.record.filterMap UsageNote.pronounced?

section Noted

variable (usage : Usage) (running : Running) (held : List Nat) (holding : Bool)
  (note : UsageNote)

@[simp] theorem handedOut_note :
    (Usage.mk running held holding (usage.record ++ [note])).handedOut =
      usage.handedOut ++ note.handedOut?.toList := by
  cases h : note.handedOut? <;> simp [handedOut, h]

@[simp] theorem pulled_note :
    (Usage.mk running held holding (usage.record ++ [note])).pulled =
      usage.pulled ++ note.pulled?.toList := by
  cases h : note.pulled? <;> simp [pulled, h]

@[simp] theorem verdicts_note :
    (Usage.mk running held holding (usage.record ++ [note])).verdicts =
      usage.verdicts ++ note.pronounced?.toList := by
  cases h : note.pronounced? <;> simp [verdicts, h]

end Noted

end Usage

/-! ## Bookkeeping -/

/-- The holder has received each transaction once and pronounced at most one
verdict on it, and owes one for those that are held. -/
structure Usage.Tidy (usage : Usage) : Prop where
  handedOnce : (usage.handedOut.map Transaction.number).Nodup
  issued : ∀ number ∈ usage.handedOut.map Transaction.number, number < usage.receipts.next
  pronouncedOnce : (usage.verdicts.map Prod.fst).Nodup
  heldOnce : usage.held.Nodup
  pronouncedHandedOut :
    ∀ number ∈ usage.verdicts.map Prod.fst, number ∈ usage.handedOut.map Transaction.number
  heldHandedOut : ∀ number ∈ usage.held, number ∈ usage.handedOut.map Transaction.number
  heldOpen : ∀ number ∈ usage.held, number ∉ usage.verdicts.map Prod.fst

namespace Usage.Tidy

variable {usage : Usage}

theorem start (stage : Stage) (world : World) : (Usage.start stage world).Tidy := by
  constructor <;> simp [Usage.start, Usage.handedOut, Usage.verdicts]

theorem note (htidy : usage.Tidy) {running : Running} {holding : Bool} {note : UsageNote}
    (hnext : usage.receipts.next ≤ running.world.receipts.next)
    (hhanded : note.handedOut? = none) (hpronounced : note.pronounced? = none) :
    (Usage.mk running usage.held holding (usage.record ++ [note])).Tidy := by
  constructor
  · simpa [hhanded] using htidy.handedOnce
  · intro number hnumber
    rw [handedOut_note, hhanded] at hnumber
    exact Nat.lt_of_lt_of_le (htidy.issued number (by simpa using hnumber)) hnext
  · simpa [hpronounced] using htidy.pronouncedOnce
  · exact htidy.heldOnce
  · simpa [hhanded, hpronounced] using htidy.pronouncedHandedOut
  · simpa [hhanded] using htidy.heldHandedOut
  · simpa [hpronounced] using htidy.heldOpen

theorem handOut (htidy : usage.Tidy) {running : Running} {transaction : Transaction}
    (hnext : usage.receipts.next ≤ running.world.receipts.next)
    (hissued : transaction.number < usage.receipts.next)
    (hfresh : transaction.number ∉ usage.handedOut.map Transaction.number) :
    (Usage.mk running (usage.held ++ [transaction.number]) usage.holding
      (usage.record ++ [.received (.transaction transaction)])).Tidy := by
  have hhanded : (UsageNote.received (.transaction transaction)).handedOut? =
      some transaction := rfl
  have hpronounced : (UsageNote.received (.transaction transaction)).pronounced? = none := rfl
  constructor
  · rw [handedOut_note, hhanded]
    simpa [List.nodup_append] using
      ⟨htidy.handedOnce, fun other hother heq => hfresh
        (List.mem_map.mpr ⟨other, hother, heq⟩)⟩
  · intro number hnumber
    rw [handedOut_note, hhanded] at hnumber
    simp only [Option.toList_some, List.map_append, List.map_cons, List.map_nil,
      List.mem_append, List.mem_singleton] at hnumber
    apply Nat.lt_of_lt_of_le _ hnext
    rcases hnumber with hold | rfl
    · exact htidy.issued number hold
    · exact hissued
  · simpa [hpronounced] using htidy.pronouncedOnce
  · have hunheld : transaction.number ∉ usage.held :=
      fun hheld => hfresh (htidy.heldHandedOut _ hheld)
    rw [List.nodup_append]
    refine ⟨htidy.heldOnce, List.nodup_singleton _, ?_⟩
    intro number hnumber other hother heq
    rw [List.mem_singleton] at hother
    subst other
    exact hunheld (heq ▸ hnumber)
  · intro number hnumber
    rw [verdicts_note, hpronounced] at hnumber
    rw [handedOut_note, List.map_append]
    exact List.mem_append_left _ (htidy.pronouncedHandedOut number (by simpa using hnumber))
  · intro number hnumber
    rw [handedOut_note, hhanded, List.map_append]
    rcases List.mem_append.mp hnumber with hold | hnew
    · exact List.mem_append_left _ (htidy.heldHandedOut number hold)
    · exact List.mem_append_right _ (by simpa using hnew)
  · intro number hnumber hverdict
    rw [verdicts_note, hpronounced] at hverdict
    have hverdict : number ∈ usage.verdicts.map Prod.fst := by simpa using hverdict
    rcases List.mem_append.mp hnumber with hold | hnew
    · exact htidy.heldOpen number hold hverdict
    · rw [List.mem_singleton] at hnew
      subst number
      exact hfresh (htidy.pronouncedHandedOut _ hverdict)

theorem pronounce (htidy : usage.Tidy) {number : Nat} {verdict : Verdict}
    (hheld : number ∈ usage.held) : (usage.perform (.pronounce number verdict)).Tidy := by
  have hhanded : (UsageNote.pronounced number verdict).handedOut? = none := rfl
  have hpronounced : (UsageNote.pronounced number verdict).pronounced? =
      some (number, verdict) := rfl
  rw [perform_pronounce verdict hheld]
  constructor
  · simpa [hhanded] using htidy.handedOnce
  · intro other hother
    rw [handedOut_note, hhanded] at hother
    have hissued := htidy.issued other (by simpa using hother)
    simpa [receipts, Running.pronounce] using hissued
  · rw [verdicts_note, hpronounced]
    simpa [List.nodup_append] using
      ⟨htidy.pronouncedOnce, fun other earlier hmem heq =>
        htidy.heldOpen number hheld (List.mem_map.mpr ⟨(other, earlier), hmem, heq⟩)⟩
  · exact htidy.heldOnce.erase number
  · intro other hother
    rw [handedOut_note, hhanded]
    rw [verdicts_note, hpronounced, List.map_append] at hother
    rcases List.mem_append.mp hother with hold | hnew
    · simpa using htidy.pronouncedHandedOut other hold
    · simp only [Option.toList_some, List.map_cons, List.map_nil,
        List.mem_singleton] at hnew
      subst other
      simpa using htidy.heldHandedOut number hheld
  · intro other hother
    rw [handedOut_note, hhanded]
    simpa using htidy.heldHandedOut other (List.mem_of_mem_erase hother)
  · intro other hother hverdict
    rw [verdicts_note, hpronounced, List.map_append] at hverdict
    rw [htidy.heldOnce.mem_erase_iff] at hother
    rcases List.mem_append.mp hverdict with hold | hnew
    · exact htidy.heldOpen other hother.2 hold
    · exact hother.1 (by simpa using hnew)

end Usage.Tidy

/-! ## Steps of the workers -/

/-- A worker's move either finds no step or does what the stage's step says. -/
theorem Usage.perform_work_cases (usage : Usage) (level : Nat) :
    usage.perform (.work level) = usage ∨
      ∃ move, usage.running.stage.step usage.running.world level = some move ∧
        usage.perform (.work level) =
          { usage with
            running := usage.running.after move
            record := usage.record ++ [.worked move.event] } := by
  cases hstep : usage.running.stage.step usage.running.world level with
  | none =>
      left
      simp [perform, Running.work, hstep]
  | some move =>
      right
      exact ⟨move, rfl, by simp [perform, Running.work, hstep]⟩

/-- What a move comes to: nothing, a step of a worker, or what the holder does. -/
inductive Usage.Performs (usage : Usage) : UsageMove → Usage → Prop where
  | idle (move : UsageMove) : Performs usage move usage
  | worked {level : Nat} {step : StageMove}
      (hstep : usage.running.stage.step usage.running.world level = some step) :
      Performs usage (.work level)
        { usage with
          running := usage.running.after step
          record := usage.record ++ [.worked step.event] }
  | received (hholding : usage.holding = true) :
      Performs usage .receive
        { usage with
          running := usage.running.receive.2
          held := usage.held ++
            (usage.running.receive.1.transaction?.map Transaction.number).toList
          record := usage.record ++ [.received usage.running.receive.1] }
  | pronounced {number : Nat} {verdict : Verdict} (hheld : number ∈ usage.held) :
      Performs usage (.pronounce number verdict)
        { usage with
          running := usage.running.pronounce number verdict
          held := usage.held.erase number
          record := usage.record ++ [.pronounced number verdict] }
  | closed (hholding : usage.holding = true) :
      Performs usage .close
        { usage with
          running := usage.running.close
          record := usage.record ++ [.closed] }
  | letGo (hholding : usage.holding = true) :
      Performs usage .letGo
        { usage with
          running := usage.running.letGo
          holding := false
          record := usage.record ++ [.letGo] }
  | rewritten (disk : Disk) :
      Performs usage (.rewrite disk)
        { usage with
          running := { usage.running with world := { usage.running.world with disk } }
          record := usage.record ++ [.rewritten] }

theorem Usage.performs (usage : Usage) (move : UsageMove) :
    usage.Performs move (usage.perform move) := by
  cases move with
  | work level =>
      rcases usage.perform_work_cases level with hsame | ⟨step, hstep, hafter⟩
      · rw [hsame]
        exact .idle _
      · rw [hafter]
        exact .worked hstep
  | receive =>
      cases hholding : usage.holding with
      | false => simpa [perform, hholding] using Performs.idle UsageMove.receive
      | true => simpa [perform, hholding] using Performs.received hholding
  | pronounce number verdict =>
      by_cases hheld : number ∈ usage.held
      · rw [perform_pronounce verdict hheld]
        exact .pronounced hheld
      · simpa [perform, hheld] using Performs.idle (UsageMove.pronounce number verdict)
  | close =>
      cases hholding : usage.holding with
      | false => simpa [perform, hholding] using Performs.idle UsageMove.close
      | true => simpa [perform, hholding] using Performs.closed hholding
  | letGo =>
      cases hholding : usage.holding with
      | false => simpa [perform, hholding] using Performs.idle UsageMove.letGo
      | true => simpa [perform, hholding] using Performs.letGo hholding
  | rewrite disk => exact .rewritten disk

theorem Stage.step_zero_pump {world : World} {pump : Pump} {move : StageMove}
    (hstep : Stage.step world 0 (.pump pump) = some move) :
    ∃ step, pump.step world.receipts world.stdin = some step ∧
      move = ⟨.pump pump.kind step.event, .pump step.pump, step.receipts, step.stdin⟩ := by
  simp only [Stage.step, Option.map_eq_some_iff] at hstep
  obtain ⟨step, hpump, rfl⟩ := hstep
  exact ⟨step, hpump, rfl⟩

theorem Stage.step_zero_guard {world : World} {head : Guard} {wrapped : Stage}
    {move : StageMove} (hstep : Stage.step world 0 (.guard head wrapped) = some move) :
    ∃ step, head.step (wrapped.sight world.disk head.input) world.receipts = some step ∧
      move =
        ⟨.guard step.event,
          .guard step.guard (wrapped.obey step.receipts step.demand).1,
          (wrapped.obey step.receipts step.demand).2, world.stdin⟩ := by
  simp only [Stage.step, Option.map_eq_some_iff] at hstep
  obtain ⟨step, hguard, rfl⟩ := hstep
  exact ⟨step, hguard, rfl⟩

theorem Stage.step_succ_guard {world : World} {level : Nat} {head : Guard} {wrapped : Stage}
    {move : StageMove}
    (hstep : Stage.step world (level + 1) (.guard head wrapped) = some move) :
    ∃ inner, Stage.step world level wrapped = some inner ∧
      move = { inner with stage := .guard head inner.stage } := by
  simp only [Stage.step, Option.map_eq_some_iff] at hstep
  obtain ⟨inner, hinner, rfl⟩ := hstep
  exact ⟨inner, hinner, rfl⟩

theorem Stage.step_succ_pump (world : World) (level : Nat) (pump : Pump) :
    Stage.step world (level + 1) (.pump pump) = none := rfl

/-- The steps of a stage: of its pump, of its outermost guard, or further inside. -/
inductive Stage.StepCase (world : World) : Nat → Stage → StageMove → Prop where
  | pump {leaf : Pump} {step : PumpMove}
      (hstep : leaf.step world.receipts world.stdin = some step) :
      StepCase world 0 (.pump leaf)
        ⟨.pump leaf.kind step.event, .pump step.pump, step.receipts, step.stdin⟩
  | guard {head : Guard} {wrapped : Stage} {step : GuardMove Stage}
      (hstep : head.step (wrapped.sight world.disk head.input) world.receipts = some step) :
      StepCase world 0 (.guard head wrapped)
        ⟨.guard step.event,
          .guard step.guard (wrapped.obey step.receipts step.demand).1,
          (wrapped.obey step.receipts step.demand).2, world.stdin⟩
  | inside {level : Nat} {head : Guard} {wrapped : Stage} {inner : StageMove}
      (hstep : wrapped.step world level = some inner)
      (hcase : StepCase world level wrapped inner) :
      StepCase world (level + 1) (.guard head wrapped)
        { inner with stage := .guard head inner.stage }

theorem Stage.stepCase_of_step {world : World} {level : Nat} {stage : Stage} {move : StageMove}
    (hstep : stage.step world level = some move) : Stage.StepCase world level stage move := by
  induction stage generalizing level move with
  | pump leaf =>
      cases level with
      | zero =>
          obtain ⟨step, hpump, rfl⟩ := Stage.step_zero_pump hstep
          exact .pump hpump
      | succ level => simp [Stage.step_succ_pump] at hstep
  | guard head wrapped ih =>
      cases level with
      | zero =>
          obtain ⟨step, hguard, rfl⟩ := Stage.step_zero_guard hstep
          exact .guard hguard
      | succ level =>
          obtain ⟨inner, hinner, rfl⟩ := Stage.step_succ_guard hstep
          exact .inside hinner (ih hinner)

end Intake
