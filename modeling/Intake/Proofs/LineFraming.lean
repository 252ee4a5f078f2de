import Intake.Proofs.Utf8Text
import Intake.Stage.Source

/-!
# Lines framed singly

What bytes are framed to without blocks depends on the bytes alone and not on the
chunks they come in: their lines up to the first one that is no text, each a
message of its own.  Whoever pulls at a source that reads the bytes gets the same.
-/

namespace Intake

/-- A line without a carriage return at its end. -/
def withoutReturn (line : Bytes) : Bytes :=
  if line.getLast? = some carriageReturn then line.dropLast else line

/-- The lines that a newline ends, where bytes are cut after each newline. -/
def endedLines (content : Bytes) : List Bytes :=
  (content.splitOn newline).dropLast.map withoutReturn

/-- What follows the last newline. -/
def unendedLine (content : Bytes) : Bytes := (content.splitOn newline).getLastD []

/-- The lines that count.  What follows the last newline is a line unless it is
empty or reading fails after it. -/
def countedLines (content : Bytes) (failure : Option IoError) : List Bytes :=
  endedLines content ++
    if failure.isSome || (unendedLine content).isEmpty then [] else [unendedLine content]

/-- A message for each line before the first one that is no text. -/
def singles (lines : List Bytes) : List Message :=
  (lines.takeWhile fun line => decide (Utf8.IsText line)).map .single

/-- The error of the first line that is no text. -/
def brokenLine? (lines : List Bytes) : Option IoError :=
  (lines.findSome? Utf8.fault?).map .brokenText

/-- The messages in bytes, and the error that ends them. -/
def framedSingly (content : Bytes) (failure : Option IoError) : List Message × Option IoError :=
  (singles (countedLines content failure),
    (brokenLine? (countedLines content failure)).or failure)

/-! ## Chunks -/

namespace Framer

theorem run_cons_of_ok {framer framed : Framer} {failure : Option IoError} {chunk : Bytes}
    {messages : List Message} (htaken : framer.feedAll chunk = (messages, .ok framed))
    (rest : List Bytes) :
    framer.run failure (chunk :: rest) =
      (messages ++ (framed.run failure rest).1, (framed.run failure rest).2) := by
  rw [run, htaken]

theorem run_cons_of_error {framer : Framer} {failure : Option IoError} {chunk : Bytes}
    {messages : List Message} {error : IoError}
    (htaken : framer.feedAll chunk = (messages, .error error)) (rest : List Bytes) :
    framer.run failure (chunk :: rest) = (messages, some error) := by
  rw [run, htaken]

theorem run_append (framer : Framer) (failure : Option IoError) (first second : Bytes)
    (rest : List Bytes) :
    framer.run failure ((first ++ second) :: rest) =
      framer.run failure (first :: second :: rest) := by
  rcases htaken : framer.feedAll first with ⟨messages, error | framed⟩
  · rw [run_cons_of_error (feedAll_append_of_error htaken second), run_cons_of_error htaken]
  · rw [run_cons_of_ok htaken]
    have hwhole := feedAll_append_of_ok htaken second
    rcases hmore : framed.feedAll second with ⟨more, error | last⟩
    · rw [hmore] at hwhole
      rw [run_cons_of_error hwhole, run_cons_of_error hmore]
    · rw [hmore] at hwhole
      rw [run_cons_of_ok hwhole, run_cons_of_ok hmore, List.append_assoc]

theorem run_cons_nil (framer : Framer) (failure : Option IoError) (rest : List Bytes) :
    framer.run failure ([] :: rest) = framer.run failure rest := by
  rw [run_cons_of_ok (feedAll_nil framer)]
  simp

/-- Only the bytes count, and not the chunks they come in. -/
theorem run_eq_run_flatten (framer : Framer) (failure : Option IoError) (chunks : List Bytes) :
    framer.run failure chunks = framer.run failure [chunks.flatten] := by
  induction chunks generalizing framer with
  | nil => rw [List.flatten_nil, run_cons_nil]
  | cons chunk rest ih =>
      rw [List.flatten_cons, run_append]
      rcases htaken : framer.feedAll chunk with ⟨messages, error | framed⟩
      · rw [run_cons_of_error htaken, run_cons_of_error htaken]
      · rw [run_cons_of_ok htaken, run_cons_of_ok htaken, ih]

end Framer

/-! ## Lines -/

theorem reverse_dropReturn (line : Bytes) :
    (Framer.dropReturn line).reverse = withoutReturn line.reverse := by
  cases line with
  | nil => rfl
  | cons last earlier =>
      by_cases hlast : last = carriageReturn <;>
        simp [Framer.dropReturn, withoutReturn, hlast]

@[simp] theorem singles_nil : singles [] = [] := rfl

@[simp] theorem brokenLine?_nil : brokenLine? [] = none := rfl

theorem singles_cons_of_text {line : Bytes} {rest : List Bytes} (htext : Utf8.fault? line = none) :
    singles (line :: rest) = .single line :: singles rest := by
  simp [singles, Utf8.fault?_eq_none_iff.mp htext]

theorem singles_cons_of_fault {line : Bytes} {rest : List Bytes} {fault : Utf8.Fault}
    (hfault : Utf8.fault? line = some fault) : singles (line :: rest) = [] := by
  have hbroken : ¬Utf8.IsText line := by simp [← Utf8.fault?_eq_none_iff, hfault]
  simp [singles, hbroken]

theorem brokenLine?_cons_of_text {line : Bytes} {rest : List Bytes}
    (htext : Utf8.fault? line = none) : brokenLine? (line :: rest) = brokenLine? rest := by
  simp [brokenLine?, htext]

theorem brokenLine?_cons_of_fault {line : Bytes} {rest : List Bytes} {fault : Utf8.Fault}
    (hfault : Utf8.fault? line = some fault) :
    brokenLine? (line :: rest) = some (.brokenText fault) := by
  simp [brokenLine?, hfault]

/-- Nothing after a line that is no text counts. -/
theorem singles_append_of_broken {lines : List Bytes} {error : IoError}
    (hbroken : brokenLine? lines = some error) (rest : List Bytes) :
    singles (lines ++ rest) = singles lines ∧ brokenLine? (lines ++ rest) = some error := by
  induction lines with
  | nil => simp at hbroken
  | cons line lines ih =>
      cases hfault : Utf8.fault? line with
      | some fault =>
          rw [brokenLine?_cons_of_fault hfault] at hbroken
          simp [singles_cons_of_fault hfault, brokenLine?_cons_of_fault hfault, hbroken]
      | none =>
          rw [brokenLine?_cons_of_text hfault] at hbroken
          simpa [singles_cons_of_text hfault, brokenLine?_cons_of_text hfault] using ih hbroken

theorem singles_append_of_sound {lines : List Bytes} (hsound : brokenLine? lines = none)
    (rest : List Bytes) :
    singles (lines ++ rest) = singles lines ++ singles rest ∧
      brokenLine? (lines ++ rest) = brokenLine? rest := by
  induction lines with
  | nil => simp
  | cons line lines ih =>
      cases hfault : Utf8.fault? line with
      | some fault => simp [brokenLine?_cons_of_fault hfault] at hsound
      | none =>
          rw [brokenLine?_cons_of_text hfault] at hsound
          simpa [singles_cons_of_text hfault, brokenLine?_cons_of_text hfault] using ih hsound

/-- A framer that is in the middle of a line takes bytes as if it got the whole
line. -/
theorem feedAll_single (content line : Bytes) :
    let pieces := content.splitOnPPrepend (· == newline) line
    let ended := pieces.dropLast.map withoutReturn
    (Framer.mk false line []).feedAll content =
      (singles ended,
        match brokenLine? ended with
        | some error => .error error
        | none => .ok ⟨false, (pieces.getLastD []).reverse, []⟩) := by
  induction content generalizing line with
  | nil => simp
  | cons b rest ih =>
      by_cases hnewline : b = newline
      · have hpieces : (b :: rest).splitOnPPrepend (· == newline) line =
            line.reverse :: rest.splitOnPPrepend (· == newline) [] :=
          List.splitOnPPrepend_cons_pos (by simp [hnewline])
        obtain ⟨piece, pieces, hrest⟩ :=
          List.exists_cons_of_ne_nil (List.splitOnPPrepend_ne_nil (· == newline) rest [])
        have hih := ih []
        rw [hpieces]
        rw [hrest] at hih ⊢
        simp only [Framer.feedAll, Framer.feed, if_pos hnewline, reverse_dropReturn,
          Framer.takeLine, List.dropLast_cons_cons, List.map_cons, List.getLastD_cons] at hih ⊢
        cases hfault : Utf8.fault? (withoutReturn line.reverse) with
        | some fault =>
            simp [singles_cons_of_fault hfault, brokenLine?_cons_of_fault hfault]
        | none =>
            simp [singles_cons_of_text hfault, brokenLine?_cons_of_text hfault, hih]
      · have hpieces : (b :: rest).splitOnPPrepend (· == newline) line =
            rest.splitOnPPrepend (· == newline) (b :: line) :=
          List.splitOnPPrepend_cons_neg (by simp [hnewline])
        rw [hpieces]
        simp only [Framer.feedAll, Framer.feed, if_neg hnewline]
        simpa using ih (b :: line)

theorem finish_single (line : Bytes) :
    (Framer.mk false line.reverse []).finish =
      if line.isEmpty then .ok none
      else
        match Utf8.fault? line with
        | some fault => .error (.brokenText fault)
        | none => .ok (some (.single line)) := by
  cases line with
  | nil => rfl
  | cons b line =>
      rw [Framer.finish, Framer.takeLine, List.reverse_reverse]
      cases hfault : Utf8.fault? (b :: line) <;> simp

theorem feedAll_content (content : Bytes) :
    (Framer.mk false [] []).feedAll content =
      (singles (endedLines content),
        match brokenLine? (endedLines content) with
        | some error => .error error
        | none => .ok ⟨false, (unendedLine content).reverse, []⟩) := by
  have htaken := feedAll_single content []
  simp only [← List.splitOnP_eq_splitOnPPrepend, ← List.splitOn_eq_splitOnP] at htaken
  exact htaken

theorem run_single (content : Bytes) (failure : Option IoError) :
    (Framer.mk false [] []).run failure [content] = framedSingly content failure := by
  have htaken := feedAll_content content
  unfold framedSingly countedLines
  generalize hrest :
    (if failure.isSome || (unendedLine content).isEmpty then [] else [unendedLine content]) = rest
  cases hbroken : brokenLine? (endedLines content) with
  | some error =>
      obtain ⟨hsingles, herror⟩ := singles_append_of_broken hbroken rest
      rw [hbroken] at htaken
      rw [Framer.run_cons_of_error htaken, hsingles, herror, Option.some_or]
  | none =>
      obtain ⟨hsingles, herror⟩ := singles_append_of_sound hbroken rest
      rw [hbroken] at htaken
      rw [Framer.run_cons_of_ok htaken, hsingles, herror]
      cases failure with
      | some failure =>
          obtain rfl : rest = [] := by simpa using hrest.symm
          simp [Framer.run]
      | none =>
          rw [Framer.run, finish_single]
          by_cases hempty : (unendedLine content).isEmpty
          · obtain rfl : rest = [] := by simpa [hempty] using hrest.symm
            simp [hempty]
          · obtain rfl : rest = [unendedLine content] := by simpa [hempty] using hrest.symm
            cases hfault : Utf8.fault? (unendedLine content) with
            | some fault =>
                simp [hempty, brokenLine?_cons_of_fault hfault, singles_cons_of_fault hfault]
            | none =>
                simp [hempty, brokenLine?_cons_of_text hfault, singles_cons_of_text hfault]

/-! ## Lines written out -/

theorem not_mem_of_mem_splitOn {α : Type} [BEq α] [LawfulBEq α] {separator : α}
    {items run : List α} (hrun : run ∈ items.splitOn separator) : separator ∉ run := by
  induction items generalizing run with
  | nil => simp_all
  | cons item rest ih =>
      rw [List.splitOn_cons_eq_if_modifyHead] at hrun
      obtain ⟨first, later, hrest⟩ :=
        List.exists_cons_of_ne_nil (List.splitOn_ne_nil separator rest)
      by_cases hitem : item = separator
      · simp only [hitem, beq_self_eq_true, if_true, List.mem_cons] at hrun
        rcases hrun with rfl | hlater
        · simp
        · exact ih hlater
      · simp only [hitem, beq_iff_eq, if_false, hrest, List.modifyHead_cons,
          List.mem_cons] at hrun
        rcases hrun with rfl | hlater
        · have hfirst : separator ∉ first := ih (by simp [hrest])
          simp [hfirst, Ne.symm hitem]
        · exact ih (by simp [hrest, hlater])

theorem splitOn_flatMap_newline {lines : List Bytes} (hunbroken : ∀ line ∈ lines, newline ∉ line) :
    (lines.flatMap (· ++ [newline])).splitOn newline = lines ++ [[]] := by
  induction lines with
  | nil => simp
  | cons line rest ih =>
      rw [List.flatMap_cons, List.append_assoc, List.singleton_append,
        List.splitOn_append_cons_self_of_not_mem (hunbroken line (by simp)),
        ih fun other hother => hunbroken other (by simp [hother])]
      rfl

theorem withoutReturn_of_unreturned {line : Bytes}
    (hunreturned : line.getLast? ≠ some carriageReturn) : withoutReturn line = line := by
  rw [withoutReturn, if_neg hunreturned]

/-- Lines that are texts, have no newline and do not end with a carriage return are
framed to themselves when each is written with a newline after it. -/
theorem framedSingly_flatMap_newline {lines : List Bytes}
    (hunbroken : ∀ line ∈ lines, newline ∉ line)
    (hunreturned : ∀ line ∈ lines, line.getLast? ≠ some carriageReturn)
    (htext : ∀ line ∈ lines, Utf8.IsText line) :
    framedSingly (lines.flatMap (· ++ [newline])) none = (lines.map .single, none) := by
  have hlines : countedLines (lines.flatMap (· ++ [newline])) none = lines := by
    have hplain : lines.map withoutReturn = lines := by
      conv_rhs => rw [← List.map_id lines]
      exact List.map_congr_left fun line hline =>
        withoutReturn_of_unreturned (hunreturned line hline)
    simp [countedLines, endedLines, unendedLine, splitOn_flatMap_newline hunbroken, hplain]
  have hsingles : singles lines = lines.map .single := by
    rw [singles, List.takeWhile_eq_self_iff.mpr (by simpa using htext)]
  have hsound : brokenLine? lines = none := by
    simpa [brokenLine?, Utf8.fault?_eq_none_iff] using htext
  simp [framedSingly, hlines, hsingles, hsound]

/-! ## Pulling -/

/-- What comes after the last byte where reading ends there or fails. -/
def Tail.after : Option IoError → Tail
  | none => .ended
  | some error => .failing error

/-- What an origin is read from, given standard input. -/
def Origin.source (stdin : ByteSource) : Origin → ByteSource
  | .own source => source
  | .standard => stdin

/-- The messages that pulling at a source gives, unless its stage is asked to close,
and the error that ends them. -/
inductive Source.Yields : ByteSource → Source → List Message → Option IoError → Prop where
  | ended {stdin after : ByteSource} {source next : Source}
      (hpull : source.pull false stdin = (.ended, next, after)) : Yields stdin source [] none
  | failed {stdin after : ByteSource} {source next : Source} {error : IoError}
      (hpull : source.pull false stdin = (.failed error, next, after)) :
      Yields stdin source [] (some error)
  | more {stdin after : ByteSource} {source next : Source} {messages : List Message}
      {failure : Option IoError} (hpull : source.pull false stdin = (.more, next, after))
      (hrest : Yields after next messages failure) : Yields stdin source messages failure
  | message {stdin after : ByteSource} {source next : Source} {message : Message}
      {messages : List Message} {failure : Option IoError}
      (hpull : source.pull false stdin = (.message message, next, after))
      (hrest : Yields after next messages failure) :
      Yields stdin source (message :: messages) failure

theorem Source.Yields.unique {stdin : ByteSource} {source : Source}
    {first second : List Message} {failure other : Option IoError}
    (hfirst : Yields stdin source first failure) (hsecond : Yields stdin source second other) :
    (first, failure) = (second, other) := by
  induction hfirst generalizing second other with
  | ended hpull => cases hsecond <;> simp_all
  | failed hpull => cases hsecond <;> simp_all
  | more hpull hrest ih =>
      cases hsecond with
      | ended hother => simp [hpull] at hother
      | failed hother => simp [hpull] at hother
      | message hother => simp [hpull] at hother
      | more hother hmore =>
          simp only [hpull, Prod.mk.injEq, true_and] at hother
          obtain ⟨rfl, rfl⟩ := hother
          exact ih hmore
  | message hpull hrest ih =>
      cases hsecond with
      | ended hother => simp [hpull] at hother
      | failed hother => simp [hpull] at hother
      | more hother => simp [hpull] at hother
      | message hother hmore =>
          simp only [hpull, Prod.mk.injEq, Pulled.message.injEq] at hother
          obtain ⟨rfl, rfl, rfl⟩ := hother
          have := ih hmore
          simp_all

namespace Framer

/-- What is taken up to the next message, and then all the rest, is all. -/
theorem feedAll_of_next (framer : Framer) (content : Bytes) :
    framer.feedAll content =
      match framer.next content with
      | .message message framed rest =>
          (message :: (framed.feedAll rest).1, (framed.feedAll rest).2)
      | .starved framed => ([], .ok framed)
      | .failed error => ([], .error error) := by
  fun_induction framer.next content with
  | case1 => rfl
  | case2 framer b rest error hfed => simp [feedAll, hfed]
  | case3 framer b rest framed message hfed => simp [feedAll, hfed]
  | case4 framer b rest framed hfed ih => simpa [feedAll, hfed] using ih

theorem length_of_next {framer framed : Framer} {content rest : Bytes} {message : Message}
    (hnext : framer.next content = .message message framed rest) :
    rest.length < content.length := by
  fun_induction framer.next content with
  | case1 => simp at hnext
  | case2 => simp at hnext
  | case3 framer b rest =>
      simp only [Progress.message.injEq] at hnext
      simp [hnext.2.2]
  | case4 framer b rest framed hfed ih =>
      have := ih hnext
      simp only [List.length_cons]
      omega

/-- The bytes count and not the chunks, also where some have been taken already. -/
theorem run_of_next (framer : Framer) (failure : Option IoError) (content : Bytes)
    (rest : List Bytes) :
    framer.run failure (content :: rest) =
      match framer.next content with
      | .message message framed left =>
          (message :: (framed.run failure (left :: rest)).1,
            (framed.run failure (left :: rest)).2)
      | .starved framed => framed.run failure rest
      | .failed error => ([], some error) := by
  have htaken := feedAll_of_next framer content
  cases hnext : framer.next content with
  | starved framed =>
      rw [hnext] at htaken
      simp [run_cons_of_ok htaken]
  | failed error =>
      rw [hnext] at htaken
      simp [run_cons_of_error htaken]
  | message message framed left =>
      rw [hnext] at htaken
      rcases hleft : framed.feedAll left with ⟨messages, error | last⟩
      · simp only [hleft] at htaken
        simp [run_cons_of_error htaken, run_cons_of_error hleft]
      · simp only [hleft] at htaken
        simp [run_cons_of_ok htaken, run_cons_of_ok hleft]

end Framer

theorem ByteSource.ne_nil_of_takeFrom {size : Nat} {pieces left : List Bytes} {content : Bytes}
    (hsize : size ≠ 0) (hfound : takeFrom size pieces = some (content, left)) :
    content ≠ [] := by
  induction pieces with
  | nil => simp [takeFrom] at hfound
  | cons piece rest ih =>
      cases piece with
      | nil => exact ih hfound
      | cons b piece =>
          simp only [takeFrom, Option.some.injEq, Prod.mk.injEq] at hfound
          simp [← hfound.1, hsize]

namespace Source

variable {stdin : ByteSource} {origin : Origin}

/-- Reading a piece reads what the origin is read from, and from what it leaves the
next piece is read. -/
theorem readPiece_eq (stdin : ByteSource) (origin : Origin) :
    ∃ next after, readPiece false stdin origin =
        (((origin.source stdin).read pieceSize).1, next, after) ∧
      next.source after = ((origin.source stdin).read pieceSize).2 := by
  cases origin with
  | own source => exact ⟨_, _, rfl, rfl⟩
  | standard => exact ⟨_, _, rfl, rfl⟩

theorem pull_nothing {framer : Framer} {next : Origin} {after : ByteSource}
    (hpiece : readPiece false stdin origin = (.bytes [], next, after))
    (hfinish : framer.finish = .ok none) :
    pull false stdin (.lines framer [] origin) = (.ended, .lines framer [] next, after) := by
  simp [pull, hpiece, hfinish]

/-- Where nothing is left to be read, the end of the bytes is all that is framed. -/
theorem yields_drained {failure : Option IoError} {pieces : List Bytes}
    (hsource : origin.source stdin = ⟨pieces, .after failure⟩) (hdrained : pieces.flatten = [])
    (framer : Framer) :
    Yields stdin (.lines framer [] origin) (framer.run failure []).1
      (framer.run failure []).2 := by
  obtain ⟨next, after, hpiece, hleft⟩ := readPiece_eq stdin origin
  have hnone : ByteSource.takeFrom pieceSize pieces = none :=
    ByteSource.takeFrom_eq_none_iff.mpr hdrained
  cases failure with
  | some error =>
      have hread : readPiece false stdin origin = (.failed error, next, after) := by
        simpa [hsource, ByteSource.read, hnone, Tail.after] using hpiece
      have hpull : pull false stdin (.lines framer [] origin) =
          (.failed error, .lines framer [] next, after) := by
        simp [pull, hread]
      exact .failed hpull
  | none =>
      have hread : readPiece false stdin origin = (.bytes [], next, after) := by
        simpa [hsource, ByteSource.read, hnone, Tail.after] using hpiece
      rw [Framer.run]
      cases hfinish : framer.finish with
      | error error =>
          have hpull : pull false stdin (.lines framer [] origin) =
              (.failed error, .lines framer [] next, after) := by
            simp [pull, hread, hfinish]
          exact .failed hpull
      | ok completed =>
          cases completed with
          | none => exact .ended (pull_nothing hread hfinish)
          | some message =>
              have hpull : pull false stdin (.lines framer [] origin) =
                  (.message message, .lines { multipart := framer.multipart } [] next, after) := by
                simp [pull, hread, hfinish]
              have hend : next.source after = ⟨pieces, .ended⟩ := by
                simpa [hsource, ByteSource.read, hnone, Tail.after] using hleft
              obtain ⟨last, spent, hagain, -⟩ := readPiece_eq after next
              have hnothing : readPiece false after next = (.bytes [], last, spent) := by
                simpa [hend, ByteSource.read, hnone] using hagain
              exact .message hpull (.ended (pull_nothing hnothing rfl))

/-- Pulling gives what running the framer over all that is still to be read gives. -/
theorem yields_run {pieces : List Bytes} {failure : Option IoError}
    (hsource : origin.source stdin = ⟨pieces, .after failure⟩) (framer : Framer)
    (ahead : Bytes) :
    Yields stdin (.lines framer ahead origin) (framer.run failure (ahead :: pieces)).1
      (framer.run failure (ahead :: pieces)).2 := by
  -- bytes weigh less once they have been read
  induction hsize : ahead.length + 2 * pieces.flatten.length using Nat.strongRecOn
    generalizing stdin origin pieces framer ahead with
  | _ size ih =>
  cases ahead with
  | cons b rest =>
      rw [Framer.run_of_next]
      cases hnext : framer.next (b :: rest) with
      | failed error =>
          have hpull : pull false stdin (.lines framer (b :: rest) origin) =
              (.failed error, .lines framer [] origin, stdin) := by
            simp [pull, hnext]
          exact .failed hpull
      | message message framed left =>
          have hpull : pull false stdin (.lines framer (b :: rest) origin) =
              (.message message, .lines framed left origin, stdin) := by
            simp [pull, hnext]
          have hshorter := Framer.length_of_next hnext
          exact .message hpull (ih _ (by omega) hsource framed left rfl)
      | starved framed =>
          have hpull : pull false stdin (.lines framer (b :: rest) origin) =
              (.more, .lines framed [] origin, stdin) := by
            simp [pull, hnext]
          have hrest := ih _ (by simp only [List.length_cons, List.length_nil] at hsize ⊢; omega)
            hsource framed [] rfl
          rw [Framer.run_cons_nil] at hrest
          exact .more hpull hrest
  | nil =>
      rw [Framer.run_cons_nil]
      cases htaken : ByteSource.takeFrom pieceSize pieces with
      | none =>
          have hdrained := ByteSource.takeFrom_eq_none_iff.mp htaken
          rw [Framer.run_eq_run_flatten, hdrained, Framer.run_cons_nil]
          exact yields_drained hsource hdrained framer
      | some taken =>
          obtain ⟨content, left⟩ := taken
          obtain ⟨b, rest, rfl⟩ := List.exists_cons_of_ne_nil
            (ByteSource.ne_nil_of_takeFrom (by decide) htaken)
          have hwhole := ByteSource.append_of_takeFrom htaken
          obtain ⟨next, after, hpiece, hleft⟩ := readPiece_eq stdin origin
          have hread : readPiece false stdin origin = (.bytes (b :: rest), next, after) := by
            simpa [hsource, ByteSource.read, htaken] using hpiece
          have hpull : pull false stdin (.lines framer [] origin) =
              (.more, .lines framer (b :: rest) next, after) := by
            simp [pull, hread]
          have hsource' : next.source after = ⟨left, .after failure⟩ := by
            simpa [hsource, ByteSource.read, htaken] using hleft
          have hsmaller : (b :: rest).length + 2 * left.flatten.length < size := by
            simp only [← hwhole, List.length_append, List.length_cons, List.length_nil] at hsize ⊢
            omega
          have hrest := ih _ hsmaller hsource' framer (b :: rest) rfl
          rw [Framer.run_eq_run_flatten, List.flatten_cons, hwhole,
            ← Framer.run_eq_run_flatten] at hrest
          exact .more hpull hrest

end Source

/-- How bytes that come in chunks, and then end or fail, are framed without blocks. -/
structure FramesSingly (chunks : List Bytes) (failure : Option IoError) : Prop where
  framed : frame false chunks failure = framedSingly chunks.flatten failure
  /-- It is what pulling at a source that reads the chunks gives. -/
  own : ∀ stdin messages outcome,
    Source.Yields stdin (.lines { multipart := false } [] (.own ⟨chunks, .after failure⟩))
        messages outcome ↔
      framedSingly chunks.flatten failure = (messages, outcome)
  standard : ∀ messages outcome,
    Source.Yields ⟨chunks, .after failure⟩ (.lines { multipart := false } [] .standard)
        messages outcome ↔
      framedSingly chunks.flatten failure = (messages, outcome)

/-- Pulling at a source that reads chunks gives what framing the chunks gives. -/
theorem Source.yields_frame_iff {stdin : ByteSource} {origin : Origin} {multipart : Bool}
    {chunks : List Bytes} {failure outcome : Option IoError} {messages : List Message}
    (hsource : origin.source stdin = ⟨chunks, .after failure⟩) :
    Yields stdin (.lines { multipart } [] origin) messages outcome ↔
      frame multipart chunks failure = (messages, outcome) := by
  have hyields := yields_run hsource { multipart } []
  rw [Framer.run_cons_nil] at hyields
  constructor
  · exact fun hother => hyields.unique hother
  · intro hframed
    rw [frame] at hframed
    rwa [hframed] at hyields

theorem Source.yields_singly_iff {stdin : ByteSource} {origin : Origin} {chunks : List Bytes}
    {failure outcome : Option IoError} {messages : List Message}
    (hsource : origin.source stdin = ⟨chunks, .after failure⟩) :
    Yields stdin (.lines { multipart := false } [] origin) messages outcome ↔
      framedSingly chunks.flatten failure = (messages, outcome) := by
  rw [yields_frame_iff hsource, frame, Framer.run_eq_run_flatten, run_single]

theorem frame_singly (chunks : List Bytes) (failure : Option IoError) :
    FramesSingly chunks failure where
  framed := by rw [frame, Framer.run_eq_run_flatten, run_single]
  own _ _ _ := Source.yields_singly_iff rfl
  standard _ _ := Source.yields_singly_iff rfl

/-- A carriage return belongs to the end of a line although the newline comes in the
next chunk, and stays where no newline comes. -/
example :
    frame false [[0x61, 0x0D], [0x0A, 0x62, 0x0D]] none =
      ([.single [0x61], .single [0x62, 0x0D]], none) := by
  decide +kernel

end Intake
