import Mathlib
import Intake.Writing

/-!
# Writing a message

A message goes to its sink piece by piece, and each piece in as many calls as the sink
needs for it.  Whatever the calls do, the sink has taken a beginning of the encoding, and
all of it where no call has failed; a call that fails is the last one, and the message is
rejected for its failure.  So an attempt to write a message is described by what the sink
has taken and by the plans that the attempt has used up.
-/

namespace Intake

namespace Message

/-- The parts joined by newlines, and a newline at the end. -/
theorem encoded_eq (message : Message) :
    message.encoded = [newline].intercalate message.parts ++ [newline] := by
  simp [encoded, pieces, List.intercalate]

end Message

/-! ## Calls -/

namespace SinkPlan

/-- The failure of a call to write, if it fails. -/
def failure? : SinkPlan → Option String
  | .works => none
  | .fails cause => some cause
  | .short limit => if limit = 0 then some Sink.stuckCause else none

/-- The failure of a call to flush, if it fails. -/
def flushFailure? : SinkPlan → Option String
  | .works | .short _ => none
  | .fails cause => some cause

end SinkPlan

/-- The failures that the plans of a sink still hold. -/
def Sink.failures (sink : Sink) : List String :=
  sink.writes.filterMap SinkPlan.failure? ++ sink.flushes.filterMap SinkPlan.flushFailure?

/-- The response to a message that has been written with some outcome. -/
def Response.ofOutcome : Except String Unit → Response
  | .ok () => .ack
  | .error cause => .nack cause

namespace Sink

/-- What writing some bytes has made of a sink: what was taken of them, and the plans of
the calls that were made. -/
structure Wrote (before after : Sink) (bytes : Bytes) (outcome : Except String Unit)
    (taken : Bytes) (calls : List SinkPlan) : Prop where
  content : after.content = before.content ++ taken
  beginning : taken <+: bytes
  whole : outcome = .ok () → taken = bytes
  writes : before.writes = calls ++ after.writes
  failure : calls.filterMap SinkPlan.failure? = (Response.ofOutcome outcome).cause.toList
  flushes : after.flushes = before.flushes
  flushed : after.flushed = before.flushed

theorem accept_calls (content : Bytes) (plans : List SinkPlan) :
    ∃ outcome taken calls left, accept content plans = (outcome, taken, left) ∧
      plans = calls ++ left ∧ taken <+: content ∧ (outcome = .ok () → taken = content) ∧
        calls.filterMap SinkPlan.failure? = (Response.ofOutcome outcome).cause.toList := by
  fun_induction accept content plans with
  | case1 content => exact ⟨_, _, [], [], rfl, rfl, List.prefix_rfl, fun _ => rfl, rfl⟩
  | case2 content plans =>
      exact ⟨_, _, [.works], plans, rfl, rfl, List.prefix_rfl, fun _ => rfl, rfl⟩
  | case3 content cause plans =>
      exact ⟨_, _, [.fails cause], plans, rfl, rfl, List.nil_prefix, by simp, rfl⟩
  | case4 content plans =>
      exact ⟨_, _, [.short 0], plans, rfl, rfl, List.nil_prefix, by simp, rfl⟩
  | case5 content limit plans hlimit hfits =>
      refine ⟨_, _, [.short limit], plans, rfl, rfl, List.prefix_rfl, fun _ => rfl, ?_⟩
      simp [SinkPlan.failure?, hlimit, Response.ofOutcome, Response.ack]
  | case6 content limit plans hlimit hlonger outcome taken left haccepted ih =>
      obtain ⟨_, _, calls, _, heq, rfl, hbeginning, hwhole, hfailure⟩ := ih
      obtain ⟨rfl, rfl, rfl⟩ : _ ∧ _ ∧ _ := by simpa [haccepted] using heq
      refine ⟨_, _, .short limit :: calls, left, rfl, rfl, ?_, fun hok => ?_, ?_⟩
      · conv_rhs => rw [← List.take_append_drop limit content]
        exact List.prefix_append_right_inj _ |>.mpr hbeginning
      · rw [hwhole hok, List.take_append_drop]
      · simpa [SinkPlan.failure?, hlimit] using hfailure

theorem wrote_nothing (sink : Sink) : sink.Wrote sink [] (.ok ()) [] [] := by
  constructor <;> simp [Response.ofOutcome, Response.ack]

theorem writeAll_wrote (content : Bytes) (sink : Sink) :
    ∃ taken calls, sink.Wrote (sink.writeAll content).2 content (sink.writeAll content).1
      taken calls := by
  unfold writeAll
  split
  · next hempty =>
      rw [List.isEmpty_iff.mp hempty]
      exact ⟨[], [], sink.wrote_nothing⟩
  · obtain ⟨outcome, taken, calls, left, haccept, hplans, hbeginning, hwhole, hfailure⟩ :=
      accept_calls content sink.writes
    rw [haccept]
    exact ⟨taken, calls, by simp [Sink.content], hbeginning, hwhole, hplans, hfailure, rfl, rfl⟩

namespace Wrote

variable {first second third : Sink} {bytes more taken rest : Bytes}
  {outcome : Except String Unit} {calls others : List SinkPlan}

theorem andThen (hfirst : first.Wrote second bytes (.ok ()) taken calls)
    (hsecond : second.Wrote third more outcome rest others) :
    first.Wrote third (bytes ++ more) outcome (taken ++ rest) (calls ++ others) := by
  obtain rfl := hfirst.whole rfl
  refine ⟨?_, ?_, fun hok => ?_, ?_, ?_, ?_, ?_⟩
  · rw [hsecond.content, hfirst.content, List.append_assoc]
  · exact (List.prefix_append_right_inj _).mpr hsecond.beginning
  · rw [hsecond.whole hok]
  · rw [hfirst.writes, hsecond.writes, List.append_assoc]
  · have hnone : calls.filterMap SinkPlan.failure? = [] := hfirst.failure
    rw [List.filterMap_append, hnone, List.nil_append, hsecond.failure]
  · rw [hsecond.flushes, hfirst.flushes]
  · rw [hsecond.flushed, hfirst.flushed]

/-- What comes after a failure is not written. -/
theorem stopShort {cause : String} (hfirst : first.Wrote second bytes (.error cause) taken calls)
    (more : Bytes) : first.Wrote second (bytes ++ more) (.error cause) taken calls :=
  { hfirst with
    beginning := hfirst.beginning.trans (List.prefix_append _ _)
    whole := by simp }

end Wrote

theorem writeEach_wrote (pieces : List Bytes) (sink : Sink) :
    ∃ taken calls, sink.Wrote (writeEach pieces sink).2 pieces.flatten (writeEach pieces sink).1
      taken calls := by
  induction pieces generalizing sink with
  | nil => exact ⟨[], [], sink.wrote_nothing⟩
  | cons content pieces ih =>
      obtain ⟨taken, calls, hwrote⟩ := sink.writeAll_wrote content
      rw [writeEach, List.flatten_cons]
      rcases hall : sink.writeAll content with ⟨_ | _, after⟩
      · rw [hall] at hwrote
        exact ⟨taken, calls, hwrote.stopShort _⟩
      · rw [hall] at hwrote
        obtain ⟨rest, others, hrest⟩ := ih after
        exact ⟨taken ++ rest, calls ++ others, hwrote.andThen hrest⟩

end Sink

/-! ## Attempts -/

/-- An attempt to write the message of a transaction: what the sink took, the plans of the
calls to write and to flush it, whether a flush worked, and how the transaction was answered. -/
structure Attempt where
  transaction : Transaction
  taken : Bytes
  writes : List SinkPlan
  flushes : List SinkPlan
  flushed : Bool
  response : Response

namespace Attempt

/-- The failures that the sink reported. -/
def failures (attempt : Attempt) : List String :=
  attempt.writes.filterMap SinkPlan.failure? ++ attempt.flushes.filterMap SinkPlan.flushFailure?

/-- The sink has taken a beginning of what is to be written.  The message is accepted just
if that is all and a flush has worked, and otherwise it is rejected for the one failure that
the sink reported. -/
structure Sound (attempt : Attempt) : Prop where
  beginning : attempt.taken <+: attempt.transaction.payload.encoded
  accepted_iff : attempt.response.isAck = true ↔
    attempt.taken = attempt.transaction.payload.encoded ∧ attempt.flushed = true
  cause : attempt.failures = attempt.response.cause.toList

/-- What an attempt makes of a sink. -/
structure Uses (attempt : Attempt) (before after : Sink) : Prop where
  content : after.content = before.content ++ attempt.taken
  writes : before.writes = attempt.writes ++ after.writes
  flushes : before.flushes = attempt.flushes ++ after.flushes
  flushed : after.flushed = before.flushed + attempt.flushed.toNat

theorem Uses.failures_length {attempt : Attempt} {before after : Sink}
    (huses : attempt.Uses before after) :
    before.failures.length = attempt.failures.length + after.failures.length := by
  simp only [Sink.failures, huses.writes, huses.flushes, Attempt.failures, List.filterMap_append,
    List.length_append]
  omega

/-- A message that is rejected has cost the sink one of its failures. -/
theorem Sound.failures_length {attempt : Attempt} (hsound : attempt.Sound) :
    attempt.failures.length = (!attempt.response.isAck).toNat := by
  rw [hsound.cause, Response.isAck]
  cases attempt.response.cause <;> rfl

/-- A message is accepted if the sink has not failed. -/
theorem Sound.isAck_of_works {attempt : Attempt} (hsound : attempt.Sound)
    (hworks : attempt.failures = []) : attempt.response.isAck = true := by
  have hcause := hsound.cause
  rw [hworks] at hcause
  rw [Response.isAck, Option.isNone_iff_eq_none]
  exact Option.toList_eq_nil_iff.mp hcause.symm

end Attempt

theorem Sink.flush_uses (sink : Sink) :
    ∃ plans flushed, sink.flush.2.content = sink.content ∧ sink.flush.2.writes = sink.writes ∧
      sink.flushes = plans ++ sink.flush.2.flushes ∧
        sink.flush.2.flushed = sink.flushed + flushed.toNat ∧
          (flushed = true ↔ (Response.ofOutcome sink.flush.1).isAck = true) ∧
            plans.filterMap SinkPlan.flushFailure? =
              (Response.ofOutcome sink.flush.1).cause.toList := by
  unfold flush
  rcases hplans : sink.flushes with _ | ⟨_ | cause | limit, rest⟩
  · exact ⟨[], true, rfl, rfl, by simp, rfl, by simp [Response.ofOutcome], rfl⟩
  · exact ⟨[.works], true, rfl, rfl, rfl, rfl, by simp [Response.ofOutcome], rfl⟩
  · exact ⟨[.fails cause], false, rfl, rfl, rfl, rfl, by simp [Response.ofOutcome], rfl⟩
  · exact ⟨[.short limit], true, rfl, rfl, rfl, rfl, by simp [Response.ofOutcome], rfl⟩

/-- Writing a message is one attempt at it, and the response that its outcome calls for is
the right one. -/
theorem Message.write_attempt (transaction : Transaction) (sink : Sink) :
    ∃ attempt : Attempt, attempt.transaction = transaction ∧
      attempt.response = .ofOutcome (transaction.payload.write sink).1 ∧ attempt.Sound ∧
        attempt.Uses sink (transaction.payload.write sink).2 := by
  obtain ⟨taken, calls, hwrote⟩ := Sink.writeEach_wrote transaction.payload.pieces sink
  unfold Message.write
  rcases heach : Sink.writeEach transaction.payload.pieces sink with ⟨cause | _, after⟩
  · rw [heach] at hwrote
    refine ⟨⟨transaction, taken, calls, [], false, .nack cause⟩, rfl, rfl,
      ⟨hwrote.beginning, by simp, ?_⟩, hwrote.content, hwrote.writes, ?_, hwrote.flushed⟩
    · simpa [Attempt.failures, Response.ofOutcome] using hwrote.failure
    · exact hwrote.flushes.symm
  · rw [heach] at hwrote
    obtain ⟨plans, flushed, hcontent, hwrites, hflushes, hcount, hworks, hfailure⟩ :=
      after.flush_uses
    refine ⟨⟨transaction, taken, calls, plans, flushed, .ofOutcome after.flush.1⟩, rfl, rfl,
      ⟨hwrote.beginning, ?_, ?_⟩, ?_, ?_, ?_, ?_⟩
    · have hwhole : taken = transaction.payload.encoded := hwrote.whole rfl
      simp [hwhole, hworks]
    · have hnone : calls.filterMap SinkPlan.failure? = [] := hwrote.failure
      simp [Attempt.failures, hnone, hfailure]
    · rw [hcontent, hwrote.content]
    · rw [hwrites, hwrote.writes]
    · rw [← hwrote.flushes, hflushes]
    · rw [hcount, hwrote.flushed]

end Intake
