import Intake.Proofs.LineDelivery
import Intake.Proofs.WritingOut

/-!
# Written lines read back

The encoder ends each part of a message with a newline, the framer takes a newline for the
end of a line and a carriage return before it along with it.  So parts that are texts, have
no newline and do not end with a carriage return come back as lines, one message each, and
where a message began is all that is lost.  A message without parts comes back as an empty
line.  What lines are framed to has no newline in it, so a file without a carriage return at
the end of a framed line is copied.
-/

namespace Intake

/-! ## Messages as lines -/

namespace Message

/-- The lines that a message is written as: its parts, or an empty line if it has none. -/
def lines (message : Message) : List Bytes :=
  if message.parts = [] then [[]] else message.parts

/-- Whether the parts of a message come back as they were written: each is a text that has
no newline and does not end with a carriage return. -/
structure IsPlain (message : Message) : Prop where
  text : ∀ part ∈ message.parts, Utf8.IsText part
  unbroken : ∀ part ∈ message.parts, newline ∉ part
  unreturned : ∀ part ∈ message.parts, part.getLast? ≠ some carriageReturn

theorem encoded_eq_lines (message : Message) :
    message.encoded = message.lines.flatMap (· ++ [newline]) := by
  obtain ⟨parts⟩ := message
  rw [encoded_eq, lines]
  cases parts with
  | nil => rfl
  | cons first rest =>
      rw [if_neg (List.cons_ne_nil first rest)]
      induction rest generalizing first with
      | nil => simp [List.intercalate]
      | cons second rest ih =>
          rw [List.flatMap_cons, ← ih second]
          simp [List.intercalate, List.intersperse]

/-- What holds of every part of a message, and of no bytes at all, holds of its lines. -/
theorem forall_lines {motive : Bytes → Prop} {message : Message} (hempty : motive [])
    (hparts : ∀ part ∈ message.parts, motive part) : ∀ line ∈ message.lines, motive line := by
  unfold lines
  split
  · simpa using hempty
  · exact hparts

end Message

/-- Plain messages are framed to their lines, in whatever chunks the encoding comes. -/
theorem frame_encoded {messages : List Message} (hplain : ∀ message ∈ messages, message.IsPlain)
    {chunks : List Bytes} (hchunks : chunks.flatten = messages.flatMap Message.encoded) :
    frame false chunks none = ((messages.flatMap Message.lines).map .single, none) := by
  have hlines {motive : Bytes → Prop} (hempty : motive [])
      (hparts : ∀ message ∈ messages, ∀ part ∈ message.parts, motive part) :
      ∀ line ∈ messages.flatMap Message.lines, motive line := by
    intro line hline
    obtain ⟨message, hmessage, hline⟩ := List.mem_flatMap.mp hline
    exact Message.forall_lines hempty (hparts message hmessage) line hline
  have hencoded : messages.flatMap Message.encoded =
      (messages.flatMap Message.lines).flatMap (· ++ [newline]) := by
    rw [List.flatMap_assoc]
    exact List.flatMap_congr fun message _ => message.encoded_eq_lines
  rw [(frame_singly chunks none).framed, hchunks, hencoded]
  exact framedSingly_flatMap_newline
    (hlines (by simp) fun message hmessage => (hplain message hmessage).unbroken)
    (hlines (by simp) fun message hmessage => (hplain message hmessage).unreturned)
    (hlines (by decide) fun message hmessage => (hplain message hmessage).text)

/-! ## Writing without failures -/

namespace Sink

/-- Writes messages one after another up to the first failure. -/
def writeMessages : List Message → Sink → Except String Unit × Sink
  | [], sink => (.ok (), sink)
  | message :: rest, sink =>
      match message.write sink with
      | (.ok (), sink) => writeMessages rest sink
      | (.error cause, sink) => (.error cause, sink)

/-- What a sink has taken since, in whatever chunks it is read again, is framed without
blocks to some messages. -/
def ReadsBack (before after : Sink) (messages : List Message) : Prop :=
  ∃ taken, after.content = before.content ++ taken ∧
    ∀ chunks : List Bytes, chunks.flatten = taken → frame false chunks none = (messages, none)

end Sink

/-- A sink that has no failures ahead takes all of a message. -/
theorem Message.write_of_works (message : Message) {sink : Sink} (hworks : sink.failures = []) :
    ∃ after, message.write sink = (.ok (), after) ∧
      after.content = sink.content ++ message.encoded ∧ after.failures = [] := by
  obtain ⟨attempt, hsame, hresponse, hsound, huses⟩ := write_attempt ⟨0, message⟩ sink
  have hlength := huses.failures_length
  simp only [hworks, List.length_nil] at hlength
  have hack := hsound.isAck_of_works (List.length_eq_zero_iff.mp (by omega))
  have htaken : attempt.taken = message.encoded := by
    rw [(hsound.accepted_iff.mp hack).1, hsame]
  rcases hwrite : message.write sink with ⟨cause | _, after⟩
  · simp [hwrite, hresponse, Response.ofOutcome] at hack
  · rw [hwrite] at huses
    refine ⟨after, rfl, by rw [huses.content, htaken], List.length_eq_zero_iff.mp ?_⟩
    simp only [hwrite] at hlength
    omega

theorem Sink.writeMessages_of_works (messages : List Message) {sink : Sink}
    (hworks : sink.failures = []) :
    ∃ after, sink.writeMessages messages = (.ok (), after) ∧
      after.content = sink.content ++ messages.flatMap Message.encoded := by
  induction messages generalizing sink with
  | nil => exact ⟨sink, rfl, by simp⟩
  | cons message rest ih =>
      obtain ⟨next, hwrite, hcontent, hnext⟩ := message.write_of_works hworks
      obtain ⟨after, hrest, hmore⟩ := ih hnext
      refine ⟨after, by rw [writeMessages, hwrite]; exact hrest, ?_⟩
      rw [hmore, hcontent, List.flatMap_cons, List.append_assoc]

/-! ## Copying a file -/

theorem newline_not_mem_countedLines {content line : Bytes} {failure : Option IoError}
    (hline : line ∈ countedLines content failure) : newline ∉ line := by
  rcases List.mem_append.mp hline with hended | hunended
  · obtain ⟨piece, hpiece, rfl⟩ := List.mem_map.mp hended
    have hunbroken := not_mem_of_mem_splitOn (List.dropLast_subset _ hpiece)
    unfold withoutReturn
    split
    · exact fun hmem => hunbroken (List.dropLast_subset _ hmem)
    · exact hunbroken
  · split at hunended
    · cases hunended
    · obtain rfl := List.mem_singleton.mp hunended
      have hlast : unendedLine content ∈ content.splitOn newline := by
        rw [unendedLine, List.getLastD_eq_getLast?,
          List.getLast?_eq_some_getLast (List.splitOn_ne_nil newline content)]
        exact List.getLast_mem _
      exact not_mem_of_mem_splitOn hlast

/-- What bytes are framed to without blocks is plain if no carriage return is left at the end
of a line, and each message of it is one line. -/
theorem plain_of_framed {content : Bytes} {message : Message}
    (hmem : message ∈ (frame false [content] none).1)
    (hunreturned : ∀ part ∈ message.parts, part.getLast? ≠ some carriageReturn) :
    message.IsPlain ∧ message.lines.map .single = [message] := by
  rw [(frame_singly [content] none).framed, framedSingly, List.flatten_singleton, singles] at hmem
  obtain ⟨line, hline, rfl⟩ := List.mem_map.mp hmem
  refine ⟨⟨?_, ?_, hunreturned⟩, rfl⟩
  · simpa [Message.single] using List.mem_takeWhile_imp hline
  · simpa [Message.single] using
      newline_not_mem_countedLines (List.takeWhile_subset _ hline)

theorem map_single_flatMap_lines {messages : List Message}
    (hsingle : ∀ message ∈ messages, message.lines.map .single = [message]) :
    (messages.flatMap Message.lines).map .single = messages := by
  rw [List.map_flatMap, List.flatMap_congr hsingle, List.flatMap_singleton']

namespace Scribe

variable {messages : List Message} {failure : Option IoError}

/-- A writer that is through with a sink that never failed has written each message once. -/
theorem content_of_works {scribe : Scribe} (hscribe : scribe.Undisturbed messages failure)
    (hfinished : scribe.finished = true) {before : Sink} (hworks : before.failures = [])
    {attempts : List Attempt} (haccounts : scribe.Accounts before attempts) :
    scribe.sink.content = before.content ++ messages.flatMap Message.encoded := by
  have hfailures : ∀ attempt ∈ attempts, attempt.failures = [] := by
    have hnone : before.writes.filterMap SinkPlan.failure? = [] ∧
        before.flushes.filterMap SinkPlan.flushFailure? = [] := List.append_eq_nil_iff.mp hworks
    rw [haccounts.writes, haccounts.flushes] at hnone
    simp only [List.filterMap_append, List.append_eq_nil_iff, List.filterMap_flatMap,
      List.flatMap_eq_nil_iff] at hnone
    exact fun attempt hattempt =>
      List.append_eq_nil_iff.mpr ⟨hnone.1.1 attempt hattempt, hnone.2.1 attempt hattempt⟩
  have hacked : ∀ attempt ∈ attempts, attempt.response.isAck = true := fun attempt hattempt =>
    (haccounts.sound attempt hattempt).isAck_of_works (hfailures attempt hattempt)
  have htaken : attempts.flatMap Attempt.taken =
      attempts.flatMap fun attempt => attempt.transaction.payload.encoded :=
    List.flatMap_congr fun attempt hattempt =>
      ((haccounts.sound attempt hattempt).accepted_iff.mp (hacked attempt hattempt)).1
  have hmessages := hscribe.accepted hfinished haccounts
  rw [List.filter_eq_self.mpr hacked] at hmessages
  rw [haccounts.content, htaken, ← hmessages, List.flatMap_map]

/-- What a writer of the lines of a file comes to that nobody interrupts and whose sink never
fails. -/
structure Copies (first : Scribe) (data : Bytes) (moves : List WritingMove) : Prop where
  /-- Only so many steps can be taken. -/
  bounded : first.effort moves ≤ 18 * data.length + 5
  /-- There is one to be taken until the writer is through. -/
  goesOn : (first.performAll moves).finished = false →
    ∃ move, move ≠ .turn true ∧ (first.performAll moves).Can move
  /-- Then what has been written is framed to the messages that were read. -/
  readsBack : (first.performAll moves).finished = true →
    first.sink.ReadsBack (first.performAll moves).sink (frame false [data] none).1

/-- A file is pumped out as it is framed. -/
theorem undisturbed_file (kind : String) (data : Bytes) (world : World) (sink : Sink) :
    (start (.ofSource kind (.lines { multipart := false } [] (.own (.ofBytes data)))) world
      sink).Undisturbed (frame false [data] none).1 (frame false [data] none).2 := by
  have hyields : Source.Yields world.stdin
      (.lines { multipart := false } [] (.own (.ofBytes data)))
      (frame false [data] none).1 (frame false [data] none).2 :=
    (Source.yields_frame_iff rfl).mpr rfl
  exact undisturbed_start kind sink hyields.streams
    (by simp [Origin.NeverWaits, ByteSource.ofBytes])

theorem copies_of_build {world : World} {path : String} {data : Bytes} {stage : Stage}
    (hfile : world.disk path = .ok (.file data))
    (hbuild : Stage.build world.disk true (.file path false) = .ok stage)
    (hunreturned : ∀ message ∈ (frame false [data] none).1, ∀ part ∈ message.parts,
      part.getLast? ≠ some carriageReturn) {sink : Sink} (hworks : sink.failures = [])
    {moves : List WritingMove} (hmoves : .turn true ∉ moves) :
    (start stage world sink).Copies data moves := by
  obtain rfl : Stage.ofSource InputKind.file.name
      (.lines { multipart := false } [] (.own (.ofBytes data))) = stage := by
    simpa [Stage.build, hfile, ByteSource.ofNode] using hbuild
  have hfirst := undisturbed_file InputKind.file.name data world sink
  have htoil : (start (.ofSource InputKind.file.name
      (.lines { multipart := false } [] (.own (.ofBytes data)))) world sink).toil =
        18 * data.length + 5 := by
    rw [toil_of_pump rfl]
    simp [start, Pump.toil, Pump.pending, Source.remaining, Origin.left, ByteSource.data,
      ByteSource.ofBytes, Framer.isOpen, hworks]
    omega
  have hlast := hfirst.performAll hmoves
  obtain ⟨attempts, haccounts⟩ := exists_accounts (.ofSource InputKind.file.name
    (.lines { multipart := false } [] (.own (.ofBytes data)))) world sink moves
  refine ⟨?_, hlast.exists_can, fun hfinished =>
    ⟨_, content_of_works hlast hfinished hworks haccounts, fun chunks hchunks => ?_⟩⟩
  · exact (Nat.le_add_right _ _).trans ((hfirst.effort_le hmoves).trans_eq htoil)
  · have hplain : ∀ message ∈ (frame false [data] none).1,
        message.IsPlain ∧ message.lines.map .single = [message] :=
      fun message hmem => plain_of_framed hmem (hunreturned message hmem)
    rw [frame_encoded (fun message hmem => (hplain message hmem).1) hchunks,
      map_single_flatMap_lines fun message hmem => (hplain message hmem).2]

end Scribe

/-- Where a sink does not fail, plain messages that are written are read back as their lines;
and so is a file of lines that do not end with a carriage return, once a stage has been written
out that reads it, however the steps interleave.  Writing the stage out is one of the runs. -/
theorem written_lines_read_back {sink : Sink} (hworks : sink.failures = []) :
    (∀ messages : List Message, (∀ message ∈ messages, message.IsPlain) →
      (sink.writeMessages messages).1 = .ok () ∧
        sink.ReadsBack (sink.writeMessages messages).2
          ((messages.flatMap Message.lines).map .single)) ∧
    ∀ (world : World) (path : String) (data : Bytes) (stage : Stage),
      world.disk path = .ok (.file data) →
      Stage.build world.disk true (.file path false) = .ok stage →
      (∀ message ∈ (frame false [data] none).1, ∀ part ∈ message.parts,
        part.getLast? ≠ some carriageReturn) →
      (∀ moves, .turn true ∉ moves → (Scribe.start stage world sink).Copies data moves) ∧
        ∃ moves, .turn true ∉ moves ∧
          ((Scribe.start stage world sink).performAll moves).writing =
            Writing.run none { running := { stage, world }, sink } := by
  refine ⟨fun messages hplain => ?_, fun world path data stage hfile hbuild hunreturned =>
    ⟨fun moves => Scribe.copies_of_build hfile hbuild hunreturned hworks, ?_⟩⟩
  · obtain ⟨after, hwrites, hcontent⟩ := Sink.writeMessages_of_works messages hworks
    rw [hwrites]
    exact ⟨rfl, _, hcontent, fun chunks hchunks => frame_encoded hplain hchunks⟩
  · obtain ⟨moves, hmoves, hrun⟩ := Scribe.exists_run stage world sink none
    exact ⟨moves, hmoves rfl, hrun⟩

/-- A sink that takes one byte first, messages with an empty part and without parts, and a file
whose last line has no newline. -/
theorem written_lines_read_back_of_short :
    ∃ (sink : Sink) (world : World) (stage : Stage) (moves : List WritingMove),
      sink.failures = [] ∧ sink.writes = [.short 1] ∧
      (sink.writeMessages [⟨[[97], []]⟩, ⟨[]⟩]).2.content = [97, 10, 10, 10] ∧
      sink.ReadsBack (sink.writeMessages [⟨[[97], []]⟩, ⟨[]⟩]).2
        [.single [97], .single [], .single []] ∧
      Stage.build world.disk true (.file "f" false) = .ok stage ∧ .turn true ∉ moves ∧
      (Scribe.start stage world sink).Copies [97, 98, 13, 10, 10, 99] moves ∧
      ((Scribe.start stage world sink).performAll moves).finished = true ∧
      ((Scribe.start stage world sink).performAll moves).sink.content =
        [97, 98, 10, 10, 99, 10] := by
  obtain ⟨sink, hsink⟩ : ∃ sink : Sink, sink = { writes := [.short 1] } := ⟨_, rfl⟩
  obtain ⟨world, hworld⟩ : ∃ world : World,
      world = { disk := fun _ => .ok (.file [97, 98, 13, 10, 10, 99]) } := ⟨_, rfl⟩
  obtain ⟨stage, hbuild⟩ : ∃ stage, Stage.build world.disk true (.file "f" false) = .ok stage := by
    rw [hworld]
    exact ⟨_, rfl⟩
  have hstage := Stage.eq_of_build hbuild
  obtain ⟨moves, hmoves⟩ : ∃ moves : List WritingMove, moves = (List.replicate 6
      [.work 0, .work 0, .work 0, .work 0, .work 0, .turn false, .answer]).flatten := ⟨_, rfl⟩
  have hworks : sink.failures = [] := by
    rw [hsink]
    rfl
  have hclean : .turn true ∉ moves := by simp [hmoves]
  obtain ⟨hmessages, hfile⟩ := written_lines_read_back hworks
  obtain ⟨-, hreads⟩ := hmessages [⟨[[97], []]⟩, ⟨[]⟩] (by
    simp only [List.forall_mem_cons, List.not_mem_nil, false_imp_iff, implies_true, and_true]
    constructor <;> constructor <;> decide)
  obtain ⟨hcopies, -⟩ := hfile world "f" [97, 98, 13, 10, 10, 99] stage (by rw [hworld]) hbuild
    (by decide +kernel)
  refine ⟨sink, world, stage, moves, hworks, by rw [hsink], ?_, hreads, hbuild, hclean,
    hcopies moves hclean, ?_, ?_⟩
  all_goals
    subst hsink hworld hmoves hstage
    decide +kernel

end Intake
