import Intake.Duration
import Intake.Shutdown

/-!
# Waiting for a shutdown

One controller, any number of handles on it, and waits with deadlines.  Time
moves only while someone waits and nothing else is left to do.
-/

namespace Intake

/-- How a wait ended. -/
inductive Waited where
  | closed
  | timedOut (timeout : Duration)
  deriving Repr, DecidableEq

/-- A wait in the background: its timeout, and its outcome or its deadline. -/
structure BackgroundWait where
  timeout : Duration
  deadline : Nat
  outcome : Option Waited := none
  deriving Repr, DecidableEq

/-- A controller with its handles, its background waits and the time. -/
structure Timeline where
  shutdown : Shutdown := {}
  handles : List Bool := [true]
  waits : List BackgroundWait := []
  now : Nat := 0
  deriving Repr, DecidableEq

/-- What can be done with a handle. -/
inductive HandleStep where
  | clone
  | drop
  | requestClose
  | confirmClosed
  | askRequested
  | askSignalled
  | signal
  | wait (timeout : Duration)
  | startWait (timeout : Duration)
  | joinWaits
  deriving Repr, DecidableEq

/-- What a step on a handle answers. -/
inductive HandleAnswer where
  /-- The handle is not there. -/
  | gone
  | flag (value : Bool)
  | number (value : Nat)
  | waited (outcome : Waited)
  | joined (outcomes : List Waited)
  deriving Repr, DecidableEq

namespace BackgroundWait

/-- The wait after it has looked at the stage at some time. -/
def poll (wait : BackgroundWait) (closed : Bool) (now : Nat) : BackgroundWait :=
  match wait.outcome with
  | some _ => wait
  | none =>
      if closed then { wait with outcome := some .closed }
      else if wait.deadline ≤ now then { wait with outcome := some (.timedOut wait.timeout) }
      else wait

/-- How the wait ends if nothing happens but that time passes. -/
def final (wait : BackgroundWait) : Waited :=
  wait.outcome.getD (.timedOut wait.timeout)

end BackgroundWait

namespace Timeline

/-- Every background wait looks at the stage. -/
def settle (timeline : Timeline) : Timeline :=
  { timeline with
    waits := timeline.waits.map fun wait => wait.poll timeline.shutdown.closed timeline.now }

def isLive (timeline : Timeline) (handle : Nat) : Bool :=
  timeline.handles[handle]?.getD false

def anyLive (timeline : Timeline) : Bool := timeline.handles.any id

/-- Waits in the foreground.  A wait that times out moves the time by its
timeout. -/
def wait (timeline : Timeline) (timeout : Duration) : Timeline × Waited :=
  if timeline.shutdown.closed then (timeline, .closed)
  else ({ timeline with now := timeline.now + timeout.nanoseconds }, .timedOut timeout)

/-- One step on a live handle, before the background waits look. -/
def act (timeline : Timeline) (handle : Nat) : HandleStep → Timeline × HandleAnswer
  | .clone =>
      ({ timeline with handles := timeline.handles ++ [true] },
        .number timeline.handles.length)
  | .drop => ({ timeline with handles := timeline.handles.set handle false }, .flag true)
  | .requestClose =>
      let (shutdown, first) := timeline.shutdown.requestClose
      ({ timeline with shutdown }, .flag first)
  | .confirmClosed => ({ timeline with shutdown := timeline.shutdown.confirm }, .flag true)
  | .askRequested | .askSignalled => (timeline, .flag timeline.shutdown.signalled)
  | .signal => ({ timeline with shutdown := timeline.shutdown.signal }, .flag true)
  | .wait timeout =>
      let (timeline, outcome) := timeline.wait timeout
      (timeline, .waited outcome)
  | .startWait timeout =>
      let entry : BackgroundWait := { timeout, deadline := timeline.now + timeout.nanoseconds }
      ({ timeline with waits := timeline.waits ++ [entry] }, .number timeline.waits.length)
  | .joinWaits =>
      let ends := timeline.waits.map fun wait =>
        if wait.outcome.isNone then wait.deadline else timeline.now
      ({ timeline with waits := [], now := ends.foldl max timeline.now },
        .joined (timeline.waits.map (·.final)))

/-- One step on a handle, after which every background wait looks. -/
def step (timeline : Timeline) (handle : Nat) (action : HandleStep) :
    Timeline × HandleAnswer :=
  if timeline.isLive handle then
    let (timeline, answer) := timeline.act handle action
    (timeline.settle, answer)
  else (timeline, .gone)

theorem step_of_not_isLive {timeline : Timeline} {handle : Nat}
    (gone : timeline.isLive handle = false) (action : HandleStep) :
    timeline.step handle action = (timeline, .gone) := by
  simp [step, gone]

end Timeline

end Intake
