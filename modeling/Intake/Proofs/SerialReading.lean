import Intake.Condition
import Intake.Config.Input
import Intake.Proofs.ReceiptVerdicts
import Intake.Text.Utf8

/-!
# Reading in turn

What a nest of guards around a list of messages hands out can be told without
workers, outlets or receipts.  One reader takes the next message of the list,
asks the condition of every level once, and hands the message out.  A message
that is not accepted comes again.  One that is accepted ends the outermost level
whose condition was met, or else the next message is up.  A level whose inside
is over starts the inside afresh if it is to be restarted, its own condition as
it stands, and is over otherwise.
-/

namespace Intake

/-- A reader between two messages. -/
inductive Serial where
  /-- The messages that are left, the next one first. -/
  | leaf (messages : List Message)
  /-- A level, and whether its condition met the message handed out last. -/
  | level (input : InputConfig) (restart : Bool) (condition : Condition) (met : Bool)
      (inside : Serial)
  | done

namespace Serial

/-- What a reader does next. -/
inductive Turn where
  | emits (message : Message) (serial : Serial)
  /-- A level starts its inside afresh. -/
  | rebuilds (serial : Serial)
  | ends

/-- The reader of a configuration, if it is a list of messages with levels
around it whose conditions can be built. -/
def ofConfig : InputConfig → Option Serial
  | .memory messages =>
      some (.leaf (messages.map fun text => .single (Utf8.encode text)))
  | .readUntil (some input) restart condition =>
      match ofConfig input, Condition.build condition with
      | some inside, .ok condition => some (.level input restart condition false inside)
      | _, _ => none
  | .readUntil none _ _ | .file _ _ | .stdin _ => none

def next : Serial → Turn
  | .leaf [] => .ends
  | .leaf (message :: rest) => .emits message (.leaf (message :: rest))
  | .level input restart condition met inside =>
      match inside.next with
      | .emits message inside =>
          .emits message (.level input restart (condition.check message).2
            (condition.check message).1 inside)
      | .rebuilds inside => .rebuilds (.level input restart condition met inside)
      | .ends =>
          if restart then
            match ofConfig input with
            | some fresh => .rebuilds (.level input restart condition met fresh)
            | none => .ends
          else .ends
  | .done => .ends

/-- A reader after the answer to the message that it handed out last. -/
def answer (accepted : Bool) : Serial → Serial
  | .leaf messages => .leaf (if accepted then messages.tail else messages)
  | .level input restart condition met inside =>
      if accepted && met then .done
      else .level input restart condition met (inside.answer accepted)
  | .done => .done

/-- What a reader hands out within so many turns, given the answers, and whether
it is over then.  It stops at a message that has no answer yet. -/
def play : Nat → Serial → List Verdict → List Message × Bool
  | 0, _, _ => ([], false)
  | turns + 1, serial, verdicts =>
      match serial.next with
      | .ends => ([], true)
      | .rebuilds serial => play turns serial verdicts
      | .emits message serial =>
          match verdicts with
          | [] => ([message], false)
          | verdict :: rest =>
              let (messages, isOver) := play turns (serial.answer verdict.accepts) rest
              (message :: messages, isOver)

/-- A message that is not accepted changes nothing. -/
@[simp] theorem answer_false (serial : Serial) : serial.answer false = serial := by
  induction serial with
  | leaf messages => rfl
  | level input restart condition met inside ih => simp [answer, ih]
  | done => rfl

/-- Playing on from here is playing from there, with that handed out before. -/
def LeadsTo (start : Serial) (verdicts : List Verdict) (messages : List Message)
    (serial : Serial) : Prop :=
  ∃ spent, ∀ turns more, play (spent + turns) start (verdicts ++ more) =
    (messages ++ (play turns serial more).1, (play turns serial more).2)

section LeadsTo

variable {start serial after : Serial} {verdicts : List Verdict} {messages : List Message}
  {message : Message}

theorem LeadsTo.refl (serial : Serial) : serial.LeadsTo [] [] serial :=
  ⟨0, fun turns more => by simp⟩

theorem LeadsTo.rebuilds (hleads : start.LeadsTo verdicts messages serial)
    (hnext : serial.next = .rebuilds after) : start.LeadsTo verdicts messages after := by
  obtain ⟨spent, hplay⟩ := hleads
  refine ⟨spent + 1, fun turns more => ?_⟩
  rw [Nat.add_assoc, Nat.add_comm 1 turns, hplay (turns + 1) more]
  simp [play, hnext]

theorem LeadsTo.emits (hleads : start.LeadsTo verdicts messages serial)
    (hnext : serial.next = .emits message after) (verdict : Verdict) :
    start.LeadsTo (verdicts ++ [verdict]) (messages ++ [message])
      (after.answer verdict.accepts) := by
  obtain ⟨spent, hplay⟩ := hleads
  refine ⟨spent + 1, fun turns more => ?_⟩
  rw [Nat.add_assoc, Nat.add_comm 1 turns, List.append_assoc, List.singleton_append,
    hplay (turns + 1) (verdict :: more)]
  simp [play, hnext]

/-- What has been handed out on the way here is handed out in any long play. -/
theorem LeadsTo.isPrefix (hleads : start.LeadsTo verdicts messages serial) :
    ∃ enough, ∀ turns, enough ≤ turns → messages <+: (play turns start verdicts).1 := by
  obtain ⟨spent, hplay⟩ := hleads
  refine ⟨spent, fun turns hturns => ?_⟩
  have hmore := hplay (turns - spent) []
  rw [Nat.add_sub_cancel' hturns, List.append_nil] at hmore
  rw [hmore]
  exact List.prefix_append _ _

/-- So is the message that comes next, and nothing after it before it is
answered. -/
theorem LeadsTo.play_emits (hleads : start.LeadsTo verdicts messages serial)
    (hnext : serial.next = .emits message after) :
    ∃ enough, ∀ turns, enough ≤ turns →
      play turns start verdicts = (messages ++ [message], false) := by
  obtain ⟨spent, hplay⟩ := hleads
  refine ⟨spent + 1, fun turns hturns => ?_⟩
  have hmore := hplay (turns - (spent + 1) + 1) []
  rw [show spent + (turns - (spent + 1) + 1) = turns by omega, List.append_nil] at hmore
  rw [hmore]
  simp [play, hnext]

theorem LeadsTo.play_ends (hleads : start.LeadsTo verdicts messages serial)
    (hnext : serial.next = .ends) :
    ∃ enough, ∀ turns, enough ≤ turns → play turns start verdicts = (messages, true) := by
  obtain ⟨spent, hplay⟩ := hleads
  refine ⟨spent + 1, fun turns hturns => ?_⟩
  have hmore := hplay (turns - (spent + 1) + 1) []
  rw [show spent + (turns - (spent + 1) + 1) = turns by omega, List.append_nil] at hmore
  rw [hmore]
  simp [play, hnext]

end LeadsTo

end Serial

end Intake
