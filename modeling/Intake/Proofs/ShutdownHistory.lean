import Intake.Shutdown.Timeline
import Mathlib

/-!
# What a controller answers follows from its history

Handles on one controller are cloned, dropped and used in any order, and waits run
beside them while time passes.  The log keeps the steps that were made.  Nothing that
a controller answers depends on more than the log: whether it was asked to close
before, whether the signal was raised, whether the closure was confirmed, and for each
wait whether that came before its deadline.  The time is no more than a reading of the log
either: a wait takes as long as it says unless the closure was confirmed, and joining takes
until the last of the open deadlines.
-/

namespace Intake

/-- A step that was made with a handle, at some time, and what it answered. -/
structure Deed where
  handle : Nat
  action : HandleStep
  time : Nat
  answer : HandleAnswer
  deriving DecidableEq

namespace Deed

def asks (deed : Deed) : Bool := deed.action = .requestClose

/-- Whether the deed raises the signal, with a request or without one. -/
def raises (deed : Deed) : Bool := deed.asks || deed.action = .signal

def confirms (deed : Deed) : Bool := deed.action = .confirmClosed

def joins (deed : Deed) : Bool := deed.action = .joinWaits

/-- Whether the deed has given out a handle with a number. -/
def gives (number : Nat) (deed : Deed) : Bool :=
  deed.action = .clone && deed.answer = .number number

/-- Whether the deed has dropped the handle with a number. -/
def drops (number : Nat) (deed : Deed) : Bool :=
  deed.action = .drop && deed.handle = number

/-- The deadline of the wait that begins with a deed, if one does. -/
def deadline? (deed : Deed) : Option Nat :=
  match deed.action with
  | .startWait timeout => some (deed.time + timeout.nanoseconds)
  | _ => none

end Deed

/-- The deadlines of the waits that have begun and are not joined yet. -/
def openDeadlines (log : List Deed) : List Nat :=
  log.foldl (fun deadlines deed =>
    if deed.joins then [] else deadlines ++ deed.deadline?.toList) []

theorem openDeadlines_append (log : List Deed) (deed : Deed) :
    openDeadlines (log ++ [deed]) =
      if deed.joins then [] else openDeadlines log ++ deed.deadline?.toList := by
  simp only [openDeadlines, List.foldl_append, List.foldl_cons, List.foldl_nil]

/-- When a step is over that begins at some time, after some deeds.  Whoever waits goes on
at once if the closure is confirmed, and has to see the time pass if it is not. -/
def endTime (before : List Deed) (action : HandleStep) (time : Nat) : Nat :=
  if before.any Deed.confirms then time
  else
    match action with
    | .wait timeout => time + timeout.nanoseconds
    | .joinWaits => (openDeadlines before).foldl max time
    | _ => time

/-- The time after some deeds, which is when the last of them was over. -/
def clock (log : List Deed) : Nat :=
  match log.getLast? with
  | none => 0
  | some deed => endTime log.dropLast deed.action deed.time

/-- How a wait ends that began with a deadline after some deeds, if it has ended by now:
well if the closure had been confirmed before it began or is confirmed before the
deadline, and with its own timeout otherwise. -/
def waitFate (before after : List Deed) (timeout : Duration) (deadline now : Nat) :
    Option Waited :=
  if before.any Deed.confirms || after.any (fun deed => deed.confirms && deed.time < deadline)
  then some .closed
  else if deadline ≤ now then some (.timedOut timeout)
  else none

/-- A controller and all that was done with its handles. -/
structure Chronicle where
  timeline : Timeline := {}
  log : List Deed := []

namespace Chronicle

def perform (chronicle : Chronicle) (handle : Nat) (action : HandleStep) : Chronicle :=
  if chronicle.timeline.isLive handle then
    { timeline := (chronicle.timeline.step handle action).1
      log := chronicle.log ++
        [⟨handle, action, chronicle.timeline.now, (chronicle.timeline.step handle action).2⟩] }
  else chronicle

def performAll (chronicle : Chronicle) (steps : List (Nat × HandleStep)) : Chronicle :=
  steps.foldl (fun chronicle step => chronicle.perform step.1 step.2) chronicle

/-- The controller goes through all steps, those with handles that are gone included. -/
theorem timeline_performAll (chronicle : Chronicle) (steps : List (Nat × HandleStep)) :
    (chronicle.performAll steps).timeline =
      steps.foldl (fun timeline step => (timeline.step step.1 step.2).1) chronicle.timeline := by
  induction steps generalizing chronicle with
  | nil => rfl
  | cons step rest ih =>
      have hfirst : (chronicle.perform step.1 step.2).timeline =
          (chronicle.timeline.step step.1 step.2).1 := by
        unfold perform
        split
        · rfl
        · next hgone => rw [Timeline.step_of_not_isLive (by simpa using hgone)]
      exact (ih (chronicle.perform step.1 step.2)).trans (by rw [hfirst]; rfl)

/-- What the log says of a controller at any time. -/
structure Kept (chronicle : Chronicle) : Prop where
  requested : chronicle.timeline.shutdown.requested = chronicle.log.any Deed.asks
  signalled : chronicle.timeline.shutdown.signalled = chronicle.log.any Deed.raises
  closed : chronicle.timeline.shutdown.closed = chronicle.log.any Deed.confirms
  given : ∀ number, number < chronicle.timeline.handles.length ↔
    number = 0 ∨ chronicle.log.any (Deed.gives number) = true
  dropped : ∀ number, chronicle.log.any (Deed.drops number) = true →
    number < chronicle.timeline.handles.length
  live : ∀ number, chronicle.timeline.isLive number = true ↔
    number < chronicle.timeline.handles.length ∧ chronicle.log.any (Deed.drops number) = false
  past : ∀ deed ∈ chronicle.log, deed.time ≤ chronicle.timeline.now
  now : chronicle.timeline.now = clock chronicle.log
  times : ∀ before deed after, chronicle.log = before ++ deed :: after →
    deed.time = clock before
  settled : chronicle.timeline.settle = chronicle.timeline
  deadlines : chronicle.timeline.waits.map (·.deadline) = openDeadlines chronicle.log
  /-- A wait has not ended before it could. -/
  ended : ∀ wait ∈ chronicle.timeline.waits, wait.outcome.isSome →
    chronicle.timeline.shutdown.closed ∨ wait.deadline ≤ chronicle.timeline.now
  waits : ∀ before deed after timeout, chronicle.log = before ++ deed :: after →
    deed.action = .startWait timeout → after.any Deed.joins = false →
      ∃ number, deed.answer = .number number ∧
        chronicle.timeline.waits[number]? =
          some ⟨timeout, deed.time + timeout.nanoseconds,
            waitFate before after timeout (deed.time + timeout.nanoseconds)
              chronicle.timeline.now⟩

end Chronicle

/-! ## One step -/

namespace BackgroundWait

@[simp] theorem poll_poll (wait : BackgroundWait) (closed : Bool) (now : Nat) :
    (wait.poll closed now).poll closed now = wait.poll closed now := by
  cases houtcome : wait.outcome with
  | some outcome => simp [poll, houtcome]
  | none =>
      by_cases hclosed : closed = true
      · simp [poll, houtcome, hclosed]
      · by_cases hpassed : wait.deadline ≤ now <;> simp [poll, houtcome, hclosed, hpassed]

@[simp] theorem deadline_poll (wait : BackgroundWait) (closed : Bool) (now : Nat) :
    (wait.poll closed now).deadline = wait.deadline := by
  unfold poll
  split
  · rfl
  · split_ifs <;> rfl

/-- Looking ends a wait only if the closure is confirmed or the deadline has passed. -/
theorem ended_poll {wait : BackgroundWait} {closed : Bool} {now : Nat}
    (hover : wait.outcome.isSome → closed ∨ wait.deadline ≤ now)
    (hended : (wait.poll closed now).outcome.isSome) : closed ∨ wait.deadline ≤ now := by
  cases houtcome : wait.outcome with
  | some outcome => exact hover (by simp [houtcome])
  | none =>
      by_contra hopen
      rw [not_or] at hopen
      simp [poll, houtcome, hopen] at hended

/-- A wait that looking does not change has ended exactly if it could. -/
theorem isSome_outcome_iff {wait : BackgroundWait} {closed : Bool} {now : Nat}
    (hsettled : wait.poll closed now = wait)
    (hover : wait.outcome.isSome → closed ∨ wait.deadline ≤ now) :
    wait.outcome.isSome ↔ closed ∨ wait.deadline ≤ now := by
  refine ⟨hover, fun hended => ?_⟩
  by_contra hnone
  have houtcome : wait.outcome = none := by simpa using hnone
  have hpolled := congrArg outcome hsettled
  rcases hended with hclosed | hpassed
  · simp [poll, houtcome, hclosed] at hpolled
  · by_cases hclosed : closed = true <;> simp [poll, houtcome, hclosed, hpassed] at hpolled

end BackgroundWait

namespace Timeline

variable (timeline : Timeline) (handle : Nat) (action : HandleStep)

@[simp] theorem shutdown_settle : timeline.settle.shutdown = timeline.shutdown := rfl

@[simp] theorem handles_settle : timeline.settle.handles = timeline.handles := rfl

@[simp] theorem now_settle : timeline.settle.now = timeline.now := rfl

@[simp] theorem deadlines_settle :
    timeline.settle.waits.map (·.deadline) = timeline.waits.map (·.deadline) := by
  simp [settle, Function.comp_def]

@[simp] theorem settle_settle : timeline.settle.settle = timeline.settle := by
  simp [settle]

theorem step_of_isLive (hlive : timeline.isLive handle = true) :
    timeline.step handle action =
      ((timeline.act handle action).1.settle, (timeline.act handle action).2) := by
  simp [step, hlive]

theorem requested_act :
    (timeline.act handle action).1.shutdown.requested =
      (timeline.shutdown.requested || action = .requestClose) := by
  cases action with
  | requestClose =>
      cases hrequested : timeline.shutdown.requested <;>
        simp [act, Shutdown.requestClose, hrequested]
  | wait timeout => simp [act, wait]; split <;> simp
  | _ => simp [act, Shutdown.confirm, Shutdown.signal]

/-- A controller that was asked to close has had the signal raised. -/
theorem signalled_act
    (hraised : timeline.shutdown.requested = true → timeline.shutdown.signalled = true) :
    (timeline.act handle action).1.shutdown.signalled =
      (timeline.shutdown.signalled || (action = .requestClose || action = .signal)) := by
  cases action with
  | requestClose =>
      cases hrequested : timeline.shutdown.requested <;>
        simp_all [act, Shutdown.requestClose]
  | wait timeout => simp [act, wait]; split <;> simp
  | _ => simp [act, Shutdown.confirm, Shutdown.signal]

theorem closed_act :
    (timeline.act handle action).1.shutdown.closed =
      (timeline.shutdown.closed || action = .confirmClosed) := by
  cases action with
  | requestClose =>
      cases hrequested : timeline.shutdown.requested <;>
        simp [act, Shutdown.requestClose, hrequested]
  | wait timeout => simp [act, wait]; split <;> simp
  | _ => simp [act, Shutdown.confirm, Shutdown.signal]

theorem handles_act :
    (timeline.act handle action).1.handles =
      match action with
      | .clone => timeline.handles ++ [true]
      | .drop => timeline.handles.set handle false
      | _ => timeline.handles := by
  cases action with
  | wait timeout =>
      simp only [act, wait]
      split <;> rfl
  | _ => simp [act]

theorem lt_of_isLive (hlive : timeline.isLive handle = true) :
    handle < timeline.handles.length := by
  by_contra hlong
  simp [isLive, List.getElem?_eq_none (not_lt.mp hlong)] at hlive

theorem le_foldl_max (times : List Nat) (now : Nat) : now ≤ times.foldl max now := by
  induction times generalizing now with
  | nil => exact Nat.le_refl now
  | cons time rest ih => exact (Nat.le_max_left now time).trans (ih _)

/-- Times count for the latest as far as they are not past. -/
theorem foldl_max_map_congr {waits : List BackgroundWait} {first second : BackgroundWait → Nat}
    {now latest : Nat} (hlatest : now ≤ latest)
    (hagree : ∀ wait ∈ waits, max now (first wait) = max now (second wait)) :
    (waits.map first).foldl max latest = (waits.map second).foldl max latest := by
  induction waits generalizing latest with
  | nil => rfl
  | cons wait rest ih =>
      have hwait : max latest (first wait) = max latest (second wait) := by
        have := hagree wait List.mem_cons_self
        omega
      rw [List.map_cons, List.map_cons, List.foldl_cons, List.foldl_cons, hwait]
      exact ih (hlatest.trans (Nat.le_max_left ..))
        fun other hother => hagree other (List.mem_cons_of_mem _ hother)

theorem foldl_max_map_const (waits : List BackgroundWait) (now : Nat) :
    (waits.map fun _ => now).foldl max now = now := by
  induction waits with
  | nil => rfl
  | cons wait rest ih => rw [List.map_cons, List.foldl_cons, Nat.max_self, ih]

/-- How far a step moves the time, where the background waits have looked and none of them
has ended too early. -/
theorem now_act (hsettled : timeline.settle = timeline)
    (hover : ∀ wait ∈ timeline.waits, wait.outcome.isSome →
      timeline.shutdown.closed ∨ wait.deadline ≤ timeline.now) :
    (timeline.act handle action).1.now =
      if timeline.shutdown.closed then timeline.now
      else
        match action with
        | .wait timeout => timeline.now + timeout.nanoseconds
        | .joinWaits => (timeline.waits.map (·.deadline)).foldl max timeline.now
        | _ => timeline.now := by
  cases action with
  | wait timeout =>
      simp only [act, wait]
      split <;> rfl
  | joinWaits =>
      have hended : ∀ wait ∈ timeline.waits,
          (wait.outcome.isSome ↔ timeline.shutdown.closed ∨ wait.deadline ≤ timeline.now) := by
        intro wait hwait
        have hwaits : timeline.settle.waits = timeline.waits.map id := by
          rw [hsettled, List.map_id]
        exact BackgroundWait.isSome_outcome_iff (List.map_inj_left.mp hwaits wait hwait)
          (hover wait hwait)
      simp only [act]
      split
      · next hclosed =>
        rw [foldl_max_map_congr le_rfl fun wait hwait => ?_, foldl_max_map_const _ timeline.now]
        have := (hended wait hwait).mpr (.inl hclosed)
        simp [Option.isNone_iff_eq_none, Option.isSome_iff_ne_none.mp this]
      · next hclosed =>
        refine foldl_max_map_congr le_rfl fun wait hwait => ?_
        cases houtcome : wait.outcome with
        | none => simp
        | some outcome =>
            have hpassed : wait.deadline ≤ timeline.now := by
              simpa [houtcome, hclosed] using hended wait hwait
            simp [hpassed]
  | _ => simp [act]

theorem now_le_act : timeline.now ≤ (timeline.act handle action).1.now := by
  cases action with
  | wait timeout =>
      simp only [act, wait]
      split <;> simp
  | joinWaits => exact le_foldl_max _ _
  | _ => exact Nat.le_refl _

/-- The waits that have begun stay, until all of them are joined. -/
theorem waits_act (hjoin : action ≠ .joinWaits) :
    (timeline.act handle action).1.waits =
      timeline.waits ++
        match action with
        | .startWait timeout => [{ timeout, deadline := timeline.now + timeout.nanoseconds }]
        | _ => [] := by
  cases action with
  | wait timeout =>
      simp only [act, wait]
      split <;> simp
  | joinWaits => exact absurd rfl hjoin
  | _ => simp [act]

end Timeline

section Fate

variable {before after : List Deed} {begun deed : Deed} {timeout : Duration}
  {deadline now later : Nat}

/-- A wait that has just begun is polled once. -/
theorem poll_begun (closed : Bool) (hclosed : closed = before.any Deed.confirms) :
    (BackgroundWait.poll { timeout, deadline } closed now) =
      ⟨timeout, deadline, waitFate before [] timeout deadline now⟩ := by
  subst closed
  cases hconfirmed : before.any Deed.confirms with
  | true => simp [BackgroundWait.poll, waitFate, hconfirmed]
  | false =>
      by_cases hpassed : deadline ≤ now <;>
        simp [BackgroundWait.poll, waitFate, hconfirmed, hpassed]

/-- Polling a wait after one more deed tells what has become of it by then. -/
theorem poll_waitFate (hbegun : begun.confirms = false)
    (hpast : ∀ earlier ∈ after, earlier.time ≤ now) (hnow : deed.time = now)
    (hlater : now ≤ later) :
    (BackgroundWait.poll ⟨timeout, deadline, waitFate before after timeout deadline now⟩
        ((before ++ begun :: after ++ [deed]).any Deed.confirms) later) =
      ⟨timeout, deadline, waitFate before (after ++ [deed]) timeout deadline later⟩ := by
  cases hbefore : before.any Deed.confirms with
  | true => simp [BackgroundWait.poll, waitFate, hbefore]
  | false =>
  cases hafter : after.any fun deed => deed.confirms && deed.time < deadline with
  | true => simp [BackgroundWait.poll, waitFate, hafter]
  | false =>
  by_cases hpassed : deadline ≤ now
  · -- the deadline had passed, and a confirmation that comes now comes too late
    have htoo : ¬deed.time < deadline := by omega
    have hover : deadline ≤ later := hpassed.trans hlater
    simp [BackgroundWait.poll, waitFate, hbefore, hafter, hpassed, htoo, hover]
  · have hearlier : after.any Deed.confirms = false := by
      rw [List.any_eq_false] at hafter ⊢
      intro earlier hmem hconfirms
      have htime : earlier.time < deadline := by
        have := hpast earlier hmem
        omega
      exact hafter earlier hmem (by simp [hconfirms, htime])
    have hintime : deed.time < deadline := by omega
    cases hconfirms : deed.confirms with
    | true =>
        simp [BackgroundWait.poll, waitFate, hbefore, hafter, hpassed, hconfirms, hintime]
    | false =>
        by_cases hover : deadline ≤ later <;>
          simp [BackgroundWait.poll, waitFate, hbefore, hafter, hearlier, hpassed, hbegun,
            hconfirms, hover]

end Fate

namespace Chronicle

variable {chronicle : Chronicle} {handle : Nat} {action : HandleStep}

theorem perform_of_isLive (hlive : chronicle.timeline.isLive handle = true) :
    chronicle.perform handle action =
      { timeline := (chronicle.timeline.act handle action).1.settle
        log := chronicle.log ++
          [⟨handle, action, chronicle.timeline.now,
            (chronicle.timeline.act handle action).2⟩] } := by
  simp [perform, hlive, Timeline.step_of_isLive]

/-- A deed in a log that has grown by one is that one, or was there before. -/
theorem deed_cases {log before after : List Deed} {deed last : Deed}
    (hlog : log ++ [last] = before ++ deed :: after) :
    (log = before ∧ last = deed ∧ after = []) ∨
      ∃ earlier, log = before ++ deed :: earlier ∧ after = earlier ++ [last] := by
  rcases List.eq_nil_or_concat after with rfl | ⟨earlier, other, rfl⟩
  · obtain ⟨hbefore, hdeed⟩ := List.append_inj' hlog rfl
    exact .inl ⟨hbefore, List.singleton_inj.mp hdeed, rfl⟩
  · rw [List.concat_eq_append, ← List.cons_append, ← List.append_assoc] at hlog
    obtain ⟨hbefore, hother⟩ := List.append_inj' hlog rfl
    exact .inr ⟨earlier, hbefore, by rw [List.concat_eq_append, hother]⟩

theorem Kept.start : ({} : Chronicle).Kept := by
  constructor
  case live =>
    intro number
    cases number <;> simp [Timeline.isLive]
  all_goals simp [Timeline.settle, clock, openDeadlines]

theorem Kept.raised (hkept : chronicle.Kept)
    (hrequested : chronicle.timeline.shutdown.requested = true) :
    chronicle.timeline.shutdown.signalled = true := by
  rw [hkept.requested, List.any_eq_true] at hrequested
  obtain ⟨deed, hmem, hasks⟩ := hrequested
  rw [hkept.signalled, List.any_eq_true]
  exact ⟨deed, hmem, by simp [Deed.raises, hasks]⟩

/-- A wait that is not joined by a step has its fate told after it. -/
theorem Kept.waits_perform (hkept : chronicle.Kept)
    (hlive : chronicle.timeline.isLive handle = true)
    (hclosed : (chronicle.perform handle action).timeline.shutdown.closed =
      (chronicle.perform handle action).log.any Deed.confirms)
    {before after : List Deed} {deed : Deed} {timeout : Duration}
    (hlog : (chronicle.perform handle action).log = before ++ deed :: after)
    (haction : deed.action = .startWait timeout) (hjoins : after.any Deed.joins = false) :
    ∃ number, deed.answer = .number number ∧
      (chronicle.perform handle action).timeline.waits[number]? =
        some ⟨timeout, deed.time + timeout.nanoseconds,
          waitFate before after timeout (deed.time + timeout.nanoseconds)
            (chronicle.perform handle action).timeline.now⟩ := by
  rw [perform_of_isLive hlive] at hclosed hlog ⊢
  rcases deed_cases hlog with ⟨rfl, rfl, rfl⟩ | ⟨earlier, hbefore, rfl⟩
  · -- the wait begins with this very step
    obtain rfl : action = .startWait timeout := haction
    have hwaits := Timeline.waits_act chronicle.timeline handle (.startWait timeout) (by simp)
    refine ⟨chronicle.timeline.waits.length, rfl, ?_⟩
    have hbegun :
        BackgroundWait.poll
            ⟨timeout, chronicle.timeline.now + timeout.nanoseconds, none⟩
            chronicle.timeline.shutdown.closed chronicle.timeline.now =
          ⟨timeout, chronicle.timeline.now + timeout.nanoseconds,
            waitFate chronicle.log [] timeout
              (chronicle.timeline.now + timeout.nanoseconds) chronicle.timeline.now⟩ :=
      poll_begun _ hkept.closed
    simp only [Timeline.settle, List.getElem?_map, hwaits]
    simpa [Timeline.act] using hbegun
  · -- it had begun before, and looks once more
    simp only [List.any_append, Bool.or_eq_false_iff, List.any_cons, List.any_nil,
      Bool.or_false] at hjoins
    obtain ⟨hearlier, hjoin⟩ := hjoins
    obtain ⟨number, hanswer, hwait⟩ := hkept.waits before deed earlier timeout hbefore haction
      hearlier
    refine ⟨number, hanswer, ?_⟩
    have hinside : number < chronicle.timeline.waits.length :=
      (List.getElem?_eq_some_iff.mp hwait).choose
    have hwaits := Timeline.waits_act chronicle.timeline handle action
      (by simpa [Deed.joins] using hjoin)
    simp only [Timeline.settle, List.getElem?_map, hwaits,
      List.getElem?_append_left hinside, hwait, Option.map_some, Option.some.injEq]
    simp only [Timeline.settle] at hclosed
    rw [hclosed, hbefore]
    refine poll_waitFate (by simp [Deed.confirms, haction]) (fun past hmem => ?_) rfl
      (Timeline.now_le_act ..)
    exact hkept.past past (by simp [hbefore, hmem])

/-- Every handle but the first was given out by a deed. -/
theorem Kept.given_perform (hkept : chronicle.Kept)
    (hlive : chronicle.timeline.isLive handle = true) (number : Nat) :
    number < (chronicle.perform handle action).timeline.handles.length ↔
      number = 0 ∨ (chronicle.perform handle action).log.any (Deed.gives number) = true := by
  rw [perform_of_isLive hlive]
  simp only [Timeline.handles_settle, Timeline.handles_act, List.any_append, Bool.or_eq_true,
    ← or_assoc, ← hkept.given number]
  cases action with
  | clone => simpa [Deed.gives, Timeline.act, eq_comm] using Nat.lt_succ_iff_lt_or_eq
  | _ => simp [Deed.gives]

theorem Kept.dropped_perform (hkept : chronicle.Kept)
    (hlive : chronicle.timeline.isLive handle = true) (number : Nat)
    (hdropped : (chronicle.perform handle action).log.any (Deed.drops number) = true) :
    number < (chronicle.perform handle action).timeline.handles.length := by
  rw [perform_of_isLive hlive] at hdropped ⊢
  have hlonger : chronicle.timeline.handles.length ≤
      (chronicle.timeline.act handle action).1.handles.length := by
    rw [Timeline.handles_act]
    cases action <;> simp
  rw [List.any_append, Bool.or_eq_true] at hdropped
  rcases hdropped with hbefore | hnow
  · exact (hkept.dropped number hbefore).trans_le hlonger
  · obtain ⟨-, rfl⟩ : action = .drop ∧ handle = number := by simpa [Deed.drops] using hnow
    exact (Timeline.lt_of_isLive _ _ hlive).trans_le hlonger

/-- A handle is good for as long as no deed has dropped it. -/
theorem Kept.live_perform (hkept : chronicle.Kept)
    (hlive : chronicle.timeline.isLive handle = true) (number : Nat) :
    (chronicle.perform handle action).timeline.isLive number = true ↔
      number < (chronicle.perform handle action).timeline.handles.length ∧
        (chronicle.perform handle action).log.any (Deed.drops number) = false := by
  have hbefore := hkept.live number
  rw [perform_of_isLive hlive]
  simp only [Timeline.isLive, Timeline.handles_settle, Timeline.handles_act, List.any_append,
    Bool.or_eq_false_iff] at hbefore ⊢
  cases action with
  | clone =>
      rcases lt_trichotomy number chronicle.timeline.handles.length with hold | hnew | hlater
      · have hinside : number < chronicle.timeline.handles.length + 1 := by omega
        rw [List.getElem?_append_left hold, hbefore]
        simp [hold, hinside, Deed.drops]
      · have hundropped : chronicle.log.any (Deed.drops number) = false :=
          Bool.eq_false_iff.mpr fun hdropped => (hkept.dropped number hdropped).ne hnew
        simp [hnew ▸ hundropped, Deed.drops, hnew]
      · have hbeyond : ¬number < chronicle.timeline.handles.length + 1 := by omega
        simp [hbeyond]
  | drop =>
      by_cases hsame : handle = number
      · subst hsame
        have hend : (chronicle.timeline.handles.set handle false)[handle]?.getD false = false := by
          rw [List.getElem?_set_self']
          cases chronicle.timeline.handles[handle]? <;> rfl
        simp [hend, Deed.drops]
      · simp [List.getElem?_set_ne hsame, hbefore, Deed.drops, hsame]
  | _ => simp [hbefore, Deed.drops]

/-- A step takes the time that the log says it takes. -/
theorem Kept.now_act (hkept : chronicle.Kept) (handle : Nat) (action : HandleStep) :
    (chronicle.timeline.act handle action).1.now =
      endTime chronicle.log action chronicle.timeline.now := by
  rw [Timeline.now_act _ _ _ hkept.settled hkept.ended, hkept.closed, hkept.deadlines]
  rfl

theorem Kept.deadlines_perform (hkept : chronicle.Kept)
    (hlive : chronicle.timeline.isLive handle = true) :
    (chronicle.perform handle action).timeline.waits.map (·.deadline) =
      openDeadlines (chronicle.perform handle action).log := by
  rw [perform_of_isLive hlive, Timeline.deadlines_settle, openDeadlines_append,
    ← hkept.deadlines]
  by_cases hjoin : action = .joinWaits
  · simp [hjoin, Deed.joins, Timeline.act]
  · rw [Timeline.waits_act _ _ _ hjoin]
    cases action with
    | joinWaits => exact absurd rfl hjoin
    | _ => simp [Deed.joins, Deed.deadline?]

theorem Kept.ended_perform (hkept : chronicle.Kept)
    (hlive : chronicle.timeline.isLive handle = true) :
    ∀ wait ∈ (chronicle.perform handle action).timeline.waits, wait.outcome.isSome →
      (chronicle.perform handle action).timeline.shutdown.closed ∨
        wait.deadline ≤ (chronicle.perform handle action).timeline.now := by
  rw [perform_of_isLive hlive]
  intro polled hpolled hended
  obtain ⟨wait, hwait, rfl⟩ := List.mem_map.mp hpolled
  rw [BackgroundWait.deadline_poll]
  refine BackgroundWait.ended_poll (fun houtcome => ?_) hended
  by_cases hjoin : action = .joinWaits
  · simp [hjoin, Timeline.act] at hwait
  rw [Timeline.waits_act _ _ _ hjoin, List.mem_append] at hwait
  rcases hwait with hold | hnew
  · rw [Timeline.shutdown_settle, Timeline.now_settle, Timeline.closed_act]
    rcases hkept.ended wait hold houtcome with hclosed | hpassed
    · exact .inl (by simp [hclosed])
    · exact .inr (hpassed.trans (Timeline.now_le_act ..))
  · -- a wait that begins with this step has not ended
    cases action with
    | startWait timeout =>
        obtain rfl := List.mem_singleton.mp hnew
        simp at houtcome
    | _ => simp at hnew

theorem Kept.perform (hkept : chronicle.Kept) : (chronicle.perform handle action).Kept := by
  by_cases hlive : chronicle.timeline.isLive handle = true
  case neg => simpa [Chronicle.perform, hlive] using hkept
  case pos =>
    have hperform : chronicle.perform handle action = _ := perform_of_isLive hlive
    have hclosed : (chronicle.perform handle action).timeline.shutdown.closed =
        (chronicle.perform handle action).log.any Deed.confirms := by
      rw [hperform]
      simp [Timeline.settle, Timeline.closed_act, hkept.closed, Deed.confirms]
    constructor
    case closed => exact hclosed
    case given => exact hkept.given_perform hlive
    case dropped => exact hkept.dropped_perform hlive
    case live => exact hkept.live_perform hlive
    case deadlines => exact hkept.deadlines_perform hlive
    case ended => exact hkept.ended_perform hlive
    case waits =>
      exact fun before deed after timeout hlog haction hjoins =>
        hkept.waits_perform hlive hclosed hlog haction hjoins
    all_goals rw [hperform]
    case requested =>
      simp [Timeline.settle, Timeline.requested_act, hkept.requested, Deed.asks]
    case signalled =>
      simp [Timeline.settle, Timeline.signalled_act _ _ _ hkept.raised, hkept.signalled,
        Deed.raises, Deed.asks]
    case past =>
      intro deed hmem
      have hnow := Timeline.now_le_act chronicle.timeline handle action
      rcases List.mem_append.mp hmem with hold | hnew
      · exact (hkept.past deed hold).trans hnow
      · obtain rfl := List.mem_singleton.mp hnew
        exact hnow
    case now => simpa [clock] using hkept.now_act handle action
    case times =>
      intro before deed after hlog
      rcases deed_cases hlog with ⟨rfl, rfl, -⟩ | ⟨earlier, hbefore, -⟩
      · exact hkept.now
      · exact hkept.times before deed earlier hbefore
    case settled => exact Timeline.settle_settle _

theorem kept_performAll (steps : List (Nat × HandleStep)) (hkept : chronicle.Kept) :
    (chronicle.performAll steps).Kept := by
  induction steps generalizing chronicle with
  | nil => exact hkept
  | cons step rest ih => exact ih hkept.perform

end Chronicle

/-! ## Whole histories -/

namespace Chronicle

variable {chronicle : Chronicle}

/-- What the handles answer and do and how long it takes, told from the log alone. -/
structure Faithful (chronicle : Chronicle) : Prop where
  firstRequest : ∀ handle, chronicle.timeline.isLive handle →
    (chronicle.timeline.step handle .requestClose).2 = .flag !chronicle.log.any Deed.asks
  running : chronicle.timeline.shutdown.isRunning = !chronicle.log.any Deed.asks
  signal : ∀ handle, chronicle.timeline.isLive handle → ∀ action,
    action = .askRequested ∨ action = .askSignalled →
      (chronicle.timeline.step handle action).2 = .flag (chronicle.log.any Deed.raises)
  closed : chronicle.timeline.shutdown.closed = chronicle.log.any Deed.confirms
  /-- Every deed was done when the one before it was over, and it is as late now as the
  last of them made it. -/
  times : ∀ before deed after, chronicle.log = before ++ deed :: after →
    deed.time = clock before
  now : chronicle.timeline.now = clock chronicle.log
  /-- A wait that runs out of time takes its own timeout, and joining takes until the last
  open deadline.  Nothing else takes any time. -/
  passing : ∀ handle, chronicle.timeline.isLive handle → ∀ action,
    (chronicle.timeline.step handle action).1.now =
      endTime chronicle.log action chronicle.timeline.now
  /-- The handles are the first one and all clones, and are good until they are dropped. -/
  living : ∀ number, chronicle.timeline.isLive number = true ↔
    (number = 0 ∨ chronicle.log.any (Deed.gives number) = true) ∧
      chronicle.log.any (Deed.drops number) = false
  absent : ∀ handle, chronicle.timeline.isLive handle = false → ∀ action,
    chronicle.timeline.step handle action = (chronicle.timeline, .gone)
  /-- Live handles are as good as each other. -/
  agreement : ∀ handle other, chronicle.timeline.isLive handle →
    chronicle.timeline.isLive other → ∀ action,
      (chronicle.timeline.step handle action).2 = (chronicle.timeline.step other action).2 ∧
        (action ≠ .drop → chronicle.timeline.step handle action =
          chronicle.timeline.step other action)
  /-- Cloning adds a handle and nothing else. -/
  cloning : ∀ handle, chronicle.timeline.isLive handle →
    chronicle.timeline.step handle .clone =
      ({ chronicle.timeline with handles := chronicle.timeline.handles ++ [true] },
        .number chronicle.timeline.handles.length)
  /-- Dropping a handle takes away that handle and nothing else. -/
  dropping : ∀ handle, chronicle.timeline.isLive handle →
    (chronicle.timeline.step handle .drop).1 =
      { chronicle.timeline with handles := chronicle.timeline.handles.set handle false }
  waiting : ∀ handle, chronicle.timeline.isLive handle → ∀ timeout,
    (chronicle.timeline.step handle (.wait timeout)).2 =
      .waited (if chronicle.log.any Deed.confirms then .closed else .timedOut timeout)
  /-- A background wait ends well if the closure was confirmed before its deadline, and
  joining tells so, or that its own timeout went by. -/
  background : ∀ before deed after timeout, chronicle.log = before ++ deed :: after →
    deed.action = .startWait timeout → after.any Deed.joins = false →
      ∃ number wait outcomes, deed.answer = .number number ∧
        chronicle.timeline.waits[number]? = some wait ∧
        wait.outcome = waitFate before after timeout (deed.time + timeout.nanoseconds)
          chronicle.timeline.now ∧
        (∀ handle, chronicle.timeline.isLive handle →
          (chronicle.timeline.step handle .joinWaits).2 = .joined outcomes) ∧
        outcomes[number]? = some (wait.outcome.getD (.timedOut timeout))
  /-- Joining answers for each wait that has begun and is not joined yet, and leaves none. -/
  joining : ∀ handle, chronicle.timeline.isLive handle →
    (chronicle.timeline.step handle .joinWaits).1.waits = [] ∧
      ∃ outcomes, (chronicle.timeline.step handle .joinWaits).2 = .joined outcomes ∧
        outcomes.length = (openDeadlines chronicle.log).length
  /-- Waiting leaves the state and the handles alone. -/
  patience : ∀ handle, chronicle.timeline.isLive handle → ∀ action,
    ((∃ timeout, action = .wait timeout ∨ action = .startWait timeout) ∨
      action = .joinWaits) →
      (chronicle.timeline.step handle action).1.shutdown = chronicle.timeline.shutdown ∧
        (chronicle.timeline.step handle action).1.handles = chronicle.timeline.handles

/-- The waits see nothing new in other handles. -/
theorem Kept.settle_handles (hkept : chronicle.Kept) (handles : List Bool) :
    Timeline.settle { chronicle.timeline with handles } = { chronicle.timeline with handles } := by
  have hsettled := congrArg Timeline.waits hkept.settled
  simpa [Timeline.settle] using hsettled

theorem Kept.background (hkept : chronicle.Kept) {before after : List Deed} {deed : Deed}
    {timeout : Duration} (hlog : chronicle.log = before ++ deed :: after)
    (haction : deed.action = .startWait timeout) (hjoins : after.any Deed.joins = false) :
    ∃ number wait outcomes, deed.answer = .number number ∧
      chronicle.timeline.waits[number]? = some wait ∧
      wait.outcome = waitFate before after timeout (deed.time + timeout.nanoseconds)
        chronicle.timeline.now ∧
      (∀ handle, chronicle.timeline.isLive handle →
        (chronicle.timeline.step handle .joinWaits).2 = .joined outcomes) ∧
      outcomes[number]? = some (wait.outcome.getD (.timedOut timeout)) := by
  obtain ⟨number, hanswer, hwait⟩ := hkept.waits before deed after timeout hlog haction hjoins
  refine ⟨number, _, chronicle.timeline.waits.map (·.final), hanswer, hwait, rfl, ?_, ?_⟩
  · intro handle hlive
    rw [Timeline.step_of_isLive _ _ _ hlive]
    rfl
  · simp [hwait, BackgroundWait.final]

theorem Kept.faithful (hkept : chronicle.Kept) : chronicle.Faithful where
  firstRequest handle hlive := by
    rw [Timeline.step_of_isLive _ _ _ hlive, ← hkept.requested]
    cases hrequested : chronicle.timeline.shutdown.requested <;>
      simp [Timeline.act, Shutdown.requestClose, hrequested]
  running := by rw [Shutdown.isRunning, hkept.requested]
  signal handle hlive action haction := by
    rw [Timeline.step_of_isLive _ _ _ hlive, ← hkept.signalled]
    rcases haction with rfl | rfl <;> rfl
  closed := hkept.closed
  times := hkept.times
  now := hkept.now
  passing handle hlive action := by
    rw [Timeline.step_of_isLive _ _ _ hlive]
    exact hkept.now_act handle action
  agreement handle other hhandle hother action := by
    rw [Timeline.step_of_isLive _ _ _ hhandle, Timeline.step_of_isLive _ _ _ hother]
    cases action <;> simp [Timeline.act]
  living number := by rw [hkept.live, hkept.given]
  absent handle hgone action := Timeline.step_of_not_isLive hgone action
  cloning handle hlive := by
    rw [Timeline.step_of_isLive _ _ _ hlive]
    exact Prod.ext (hkept.settle_handles _) rfl
  dropping handle hlive := by
    rw [Timeline.step_of_isLive _ _ _ hlive]
    exact hkept.settle_handles _
  waiting handle hlive timeout := by
    rw [Timeline.step_of_isLive _ _ _ hlive, ← hkept.closed]
    cases hclosed : chronicle.timeline.shutdown.closed <;>
      simp [Timeline.act, Timeline.wait, hclosed]
  background before deed after timeout := hkept.background
  joining handle hlive := by
    rw [Timeline.step_of_isLive _ _ _ hlive]
    refine ⟨rfl, _, rfl, ?_⟩
    rw [List.length_map, ← hkept.deadlines, List.length_map]
  patience handle hlive action haction := by
    rw [Timeline.step_of_isLive _ _ _ hlive]
    obtain ⟨timeout, rfl | rfl⟩ | rfl := haction
    · cases hclosed : chronicle.timeline.shutdown.closed <;>
        simp [Timeline.act, Timeline.wait, Timeline.settle, hclosed]
    · exact ⟨rfl, rfl⟩
    · exact ⟨rfl, rfl⟩

/-- **What a controller answers follows from its history.**  After any steps with any
number of handles, the first request is told apart from all others, the flags say what
was done, the handles agree, and every wait ends well if the closure was confirmed in
time and with its own timeout if not, after as much time as it says. -/
theorem faithful_performAll (steps : List (Nat × HandleStep)) :
    (({} : Chronicle).performAll steps).Faithful :=
  (kept_performAll steps Kept.start).faithful

/-- A wait that a clone begins is confirmed one nanosecond before its deadline, after the
signal was raised without a request. -/
example :
    (({} : Chronicle).performAll
        [(0, .clone), (0, .signal), (1, .startWait ⟨2⟩), (0, .wait ⟨1⟩), (0, .drop),
          (1, .confirmClosed), (1, .requestClose), (1, .joinWaits)]).log.map (·.answer) =
      [.number 1, .flag true, .number 0, .waited (.timedOut ⟨1⟩), .flag true, .flag true,
        .flag true, .joined [.closed]] := by
  decide +kernel

end Chronicle

end Intake
