import Mathlib
import Intake.Reading

/-!
# Reading until a stop

A reader that can be stopped gives its user what the source gives, read for read, until it is
stopped.  From then on it says that the end is reached and leaves the source alone.  So what
it has brought is always a front of the data.
-/

namespace Intake

/-- The bytes of a piece; a failure and a wait have none. -/
def Piece.content : Piece → Bytes
  | .bytes content => content
  | .failed _ => []
  | .waiting => []

def ReadStep.size? : ReadStep → Option Nat
  | .read size => some size
  | .stop => none

def ReadAnswer.content : ReadAnswer → Bytes
  | .piece given => given.content
  | .stopped _ => []

namespace ByteSource

/-- What reads of these sizes leave of a source. -/
def afterReads (source : ByteSource) (sizes : List Nat) : ByteSource :=
  sizes.foldl (fun left size => (left.read size).2) source

/-- A reader of the source that nobody has stopped. -/
def stoppable (source : ByteSource) : StoppableReader := { source }

theorem afterReads_concat (source : ByteSource) (sizes : List Nat) (size : Nat) :
    source.afterReads (sizes ++ [size]) = ((source.afterReads sizes).read size).2 := by
  simp [afterReads]

/-- A read takes its bytes off the front of the data. -/
theorem content_append_data (source : ByteSource) (size : Nat) :
    (source.read size).1.content ++ (source.read size).2.data = source.data := by
  unfold read
  split
  · next content pieces hfound => exact append_of_takeFrom hfound
  · next hnone =>
    have hempty : source.data = [] := takeFrom_eq_none_iff.mp hnone
    split
    · rfl
    · exact hempty.symm
    · rfl

end ByteSource

namespace StoppableReader

/-- What becomes of a reader in some steps. -/
def after (reader : StoppableReader) (steps : List ReadStep) : StoppableReader :=
  steps.foldl (fun reader action => (reader.step action).2) reader

/-- The steps before the first stop. -/
def untilStop (steps : List ReadStep) : List ReadStep := steps.takeWhile (· != .stop)

/-- The bytes of all answers, in order. -/
def delivered (answers : List ReadAnswer) : Bytes := answers.flatMap ReadAnswer.content

/-! ## One step -/

section Steps

variable {reader : StoppableReader}

theorem step_read_of_stopped (hstopped : reader.stopped = true) (size : Nat) :
    reader.step (.read size) = (.piece (.bytes []), reader) := by
  obtain ⟨source, stopped⟩ := reader
  obtain rfl : stopped = true := hstopped
  rfl

theorem step_read_of_running (hrunning : reader.stopped = false) (size : Nat) :
    reader.step (.read size) =
      (.piece (reader.source.read size).1,
        { reader with source := (reader.source.read size).2 }) := by
  obtain ⟨source, stopped⟩ := reader
  obtain rfl : stopped = false := hrunning
  rfl

theorem stopped_step (hstopped : reader.stopped = true) (action : ReadStep) :
    (reader.step action).2.stopped = true := by
  cases action with
  | read size =>
      rw [step_read_of_stopped hstopped]
      exact hstopped
  | stop => rfl

theorem content_step_of_stopped (hstopped : reader.stopped = true) (action : ReadStep) :
    (reader.step action).1.content = [] := by
  cases action with
  | read size =>
      rw [step_read_of_stopped hstopped]
      rfl
  | stop => rfl

theorem content_step_append_data (reader : StoppableReader) (action : ReadStep) :
    (reader.step action).1.content ++ (reader.step action).2.source.data =
      reader.source.data := by
  cases action with
  | read size =>
      cases hstopped : reader.stopped with
      | true =>
          rw [step_read_of_stopped hstopped]
          rfl
      | false =>
          rw [step_read_of_running hstopped]
          exact reader.source.content_append_data size
  | stop => rfl

end Steps

/-! ## Many steps -/

section Runs

variable {reader : StoppableReader}

theorem answers_cons (reader : StoppableReader) (action : ReadStep) (rest : List ReadStep) :
    reader.answers (action :: rest) =
      (reader.step action).1 :: (reader.step action).2.answers rest := rfl

theorem answers_append (reader : StoppableReader) (steps more : List ReadStep) :
    reader.answers (steps ++ more) =
      reader.answers steps ++ (reader.after steps).answers more := by
  induction steps generalizing reader with
  | nil => rfl
  | cons action rest ih =>
      rw [List.cons_append, answers_cons, answers_cons, ih]
      rfl

theorem length_answers (reader : StoppableReader) (steps : List ReadStep) :
    (reader.answers steps).length = steps.length := by
  induction steps generalizing reader with
  | nil => rfl
  | cons action rest ih => rw [answers_cons, List.length_cons, ih, List.length_cons]

theorem getElem?_answers (reader : StoppableReader) (before : List ReadStep) (action : ReadStep)
    (rest : List ReadStep) :
    (reader.answers (before ++ action :: rest))[before.length]? =
      some ((reader.after before).step action).1 := by
  rw [answers_append, List.getElem?_append_right (length_answers _ _).le, length_answers,
    Nat.sub_self]
  rfl

/-- What the answers have brought and what the source still holds make up the data. -/
theorem delivered_append_data (reader : StoppableReader) (steps : List ReadStep) :
    delivered (reader.answers steps) ++ (reader.after steps).source.data =
      reader.source.data := by
  induction steps generalizing reader with
  | nil => rfl
  | cons action rest ih =>
      calc
        delivered (reader.answers (action :: rest)) ++ (reader.after (action :: rest)).source.data
          = (reader.step action).1.content ++
              (delivered ((reader.step action).2.answers rest) ++
                ((reader.step action).2.after rest).source.data) := List.append_assoc ..
        _ = (reader.step action).1.content ++ (reader.step action).2.source.data := by rw [ih]
        _ = reader.source.data := reader.content_step_append_data action

theorem delivered_of_stopped (hstopped : reader.stopped = true) (steps : List ReadStep) :
    delivered (reader.answers steps) = [] := by
  induction steps generalizing reader with
  | nil => rfl
  | cons action rest ih =>
      have hrest := ih (stopped_step hstopped action)
      rw [answers_cons, delivered, List.flatMap_cons, content_step_of_stopped hstopped]
      exact hrest

end Runs

/-! ## Up to the first stop -/

theorem untilStop_append (steps more : List ReadStep) :
    untilStop (steps ++ more) =
      if .stop ∈ steps then untilStop steps else steps ++ untilStop more := by
  induction steps with
  | nil => rfl
  | cons action rest ih =>
      unfold untilStop at ih ⊢
      cases action with
      | stop => rfl
      | read size =>
          rw [List.cons_append, List.takeWhile_cons_of_pos rfl, ih, List.takeWhile_cons_of_pos rfl]
          by_cases hstop : .stop ∈ rest <;> simp [hstop]

theorem untilStop_of_not_mem {steps : List ReadStep} (hnone : .stop ∉ steps) :
    untilStop steps = steps := by
  rw [untilStop, List.takeWhile_eq_self_iff]
  intro action hmem
  exact bne_iff_ne.mpr fun heq => hnone (heq ▸ hmem)

theorem exists_of_stop_mem {steps : List ReadStep} (hstop : .stop ∈ steps) :
    ∃ rest, steps = untilStop steps ++ .stop :: rest := by
  induction steps with
  | nil => cases hstop
  | cons action rest ih =>
      cases action with
      | stop => exact ⟨rest, rfl⟩
      | read size =>
          obtain ⟨behind, hrest⟩ := ih (by simpa using hstop)
          refine ⟨behind, ?_⟩
          rw [untilStop, List.takeWhile_cons_of_pos rfl, List.cons_append]
          exact congrArg _ hrest

/-- How a reader stands to the source it was made for, once some steps have passed: it is
stopped if a stop was among them, and the source has seen the reads before the first one. -/
structure Shadows (source : ByteSource) (past : List ReadStep) (reader : StoppableReader) :
    Prop where
  stopped : reader.stopped = true ↔ .stop ∈ past
  source : reader.source = source.afterReads ((untilStop past).filterMap ReadStep.size?)

section Shadowing

variable {reader : StoppableReader} {source : ByteSource} {past : List ReadStep}

theorem Shadows.running (hshadows : Shadows source past reader) (hnone : .stop ∉ past) :
    reader.stopped = false :=
  Bool.eq_false_iff.mpr fun hstopped => hnone (hshadows.stopped.mp hstopped)

theorem Shadows.step (hshadows : Shadows source past reader) (action : ReadStep) :
    Shadows source (past ++ [action]) (reader.step action).2 := by
  have huntil := untilStop_append past [action]
  cases action with
  | stop =>
      refine ⟨by simp [StoppableReader.step], hshadows.source.trans ?_⟩
      rw [huntil]
      split
      · rfl
      · next hnone =>
        have hlast : untilStop [.stop] = [] := rfl
        rw [untilStop_of_not_mem hnone, hlast, List.append_nil]
  | read size =>
      by_cases hstop : .stop ∈ past
      · rw [step_read_of_stopped (hshadows.stopped.mpr hstop)]
        refine ⟨by simpa using hshadows.stopped, ?_⟩
        rw [huntil, if_pos hstop]
        exact hshadows.source
      · rw [step_read_of_running (hshadows.running hstop)]
        refine ⟨by simpa using hshadows.stopped, ?_⟩
        rw [huntil, if_neg hstop, List.filterMap_append]
        have hsource := hshadows.source
        rw [untilStop_of_not_mem hstop] at hsource
        rw [hsource]
        exact (source.afterReads_concat _ size).symm

theorem Shadows.after (hshadows : Shadows source past reader) (steps : List ReadStep) :
    Shadows source (past ++ steps) (reader.after steps) := by
  -- The past grows by each step, so it goes into the induction with the reader.
  induction steps generalizing past reader with
  | nil =>
      rw [List.append_nil]
      exact hshadows
  | cons action rest ih =>
      rw [List.append_cons]
      exact ih (hshadows.step action)

theorem shadows_start (source : ByteSource) : Shadows source [] source.stoppable :=
  ⟨by simp [ByteSource.stoppable], rfl⟩

theorem shadows_after (source : ByteSource) (steps : List ReadStep) :
    Shadows source steps (source.stoppable.after steps) :=
  (shadows_start source).after steps

end Shadowing

/-! ## Transparency -/

/-- Steps on a reader of a source show the source until the reader is stopped, and nothing
from then on; so all bytes were read before the stop and are a front of the data. -/
structure Transparent (source : ByteSource) (steps : List ReadStep) : Prop where
  /-- Up to the stop a read answers what the source answers after the same reads. -/
  bare : ∀ before size rest, steps = before ++ .read size :: rest → .stop ∉ before →
    (source.stoppable.answers steps)[before.length]? =
      some (.piece ((source.afterReads (before.filterMap ReadStep.size?)).read size).1)
  /-- After the stop a read finds the end. -/
  ended : ∀ before size rest, steps = before ++ .read size :: rest → .stop ∈ before →
    (source.stoppable.answers steps)[before.length]? = some (.piece (.bytes []))
  /-- The source has seen the reads before the stop, and its failure is left to it. -/
  untouched : (source.stoppable.after steps).source =
    source.afterReads ((untilStop steps).filterMap ReadStep.size?)
  earlier : delivered (source.stoppable.answers steps) =
    delivered (source.stoppable.answers (untilStop steps))
  front : delivered (source.stoppable.answers steps) <+: source.data

theorem delivered_untilStop (reader : StoppableReader) (steps : List ReadStep) :
    delivered (reader.answers steps) = delivered (reader.answers (untilStop steps)) := by
  by_cases hstop : .stop ∈ steps
  · obtain ⟨rest, hsteps⟩ := exists_of_stop_mem hstop
    have hstopped : ((reader.after (untilStop steps)).step .stop).2.stopped = true := rfl
    calc delivered (reader.answers steps)
        = delivered (reader.answers (untilStop steps ++ .stop :: rest)) := by rw [← hsteps]
      _ = delivered (reader.answers (untilStop steps)) ++
            delivered (((reader.after (untilStop steps)).step .stop).2.answers rest) := by
          rw [answers_append, delivered, List.flatMap_append]
          rfl
      _ = delivered (reader.answers (untilStop steps)) := by
          rw [delivered_of_stopped hstopped, List.append_nil]
  · rw [untilStop_of_not_mem hstop]

/-- A reader that can be stopped is the bare source until the stop and at its end afterwards,
so that it brings a front of the data, whatever is asked of it. -/
theorem transparent_until_stop (source : ByteSource) (steps : List ReadStep) :
    Transparent source steps where
  bare := by
    rintro before size rest rfl hnone
    have hshadows := shadows_after source before
    rw [getElem?_answers, step_read_of_running (hshadows.running hnone), hshadows.source,
      untilStop_of_not_mem hnone]
  ended := by
    rintro before size rest rfl hstop
    have hshadows := shadows_after source before
    rw [getElem?_answers, step_read_of_stopped (hshadows.stopped.mpr hstop)]
  untouched := (shadows_after source steps).source
  earlier := source.stoppable.delivered_untilStop steps
  front := ⟨_, source.stoppable.delivered_append_data steps⟩

/-- Who stops asking at the first end after a stop sees a front of the answers. -/
theorem session_isPrefix_answers (reader : StoppableReader) (steps : List ReadStep) :
    reader.session steps <+: reader.answers steps := by
  induction steps generalizing reader with
  | nil => exact List.prefix_rfl
  | cons action rest ih =>
      cases action with
      | stop => exact List.cons_prefix_cons.mpr ⟨rfl, ih _⟩
      | read size =>
          refine List.cons_prefix_cons.mpr ⟨rfl, ?_⟩
          split
          · exact List.nil_prefix
          · exact ih _

end StoppableReader

end Intake
