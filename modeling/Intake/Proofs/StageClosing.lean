import Intake.Proofs.StageUsage

/-!
# Closing always completes

A stage that has been asked to close can be closed by its workers alone.  Level
by level a worker has only so many steps left, its rank, and as long as the
stage has not confirmed there is a step that lowers the sum of the ranks: the
outermost worker goes on until it waits for the input inside, which it has asked
to close, and then that input goes on.
-/

namespace Intake

/-! ## What makes a stage closable -/

/-- The signal has been raised just if someone has requested the stage to close. -/
def Shutdown.IsPlain (shutdown : Shutdown) : Prop := shutdown.signalled = shutdown.requested

theorem Shutdown.isPlain_request {shutdown : Shutdown} (hplain : shutdown.IsPlain) :
    shutdown.request.IsPlain := by
  have hsame : shutdown.signalled = shutdown.requested := hplain
  cases hrequested : shutdown.requested <;>
    simp [IsPlain, request, requestClose, hrequested, hsame]

theorem Shutdown.signalled_request {shutdown : Shutdown} (hplain : shutdown.IsPlain) :
    shutdown.request.signalled = true := by
  have hsame : shutdown.request.signalled = shutdown.request.requested :=
    isPlain_request hplain
  rw [hsame, request_requested]

structure Pump.CanClose (pump : Pump) : Prop where
  plain : pump.outlet.shutdown.IsPlain
  finished : pump.phase = .finished → pump.outlet.shutdown.closed = true

/-- A guard that waits for the input inside, seen through its outlet, has asked
it to close. -/
structure Guard.CanClose (guard : Guard) (inside : Outlet) : Prop where
  plain : guard.outlet.shutdown.IsPlain
  finished : ∀ exit, guard.phase = .finished exit → guard.outlet.shutdown.closed = true
  closing : ∀ exit, guard.phase = .closing exit → inside.shutdown.requested = true

def Stage.CanClose : Stage → Prop
  | .pump leaf => leaf.CanClose
  | .guard head wrapped => head.CanClose wrapped.outlet ∧ wrapped.CanClose

/-- A stage none of whose workers has taken a step. -/
def Stage.IsFresh : Stage → Prop
  | .pump leaf => leaf.outlet = {} ∧ leaf.phase = .resting
  | .guard head wrapped =>
      head.outlet = {} ∧ head.phase = .starting ∧ head.current = true ∧ wrapped.IsFresh

theorem Stage.isFresh_of_build {disk : Disk} {runtime : Bool} {input : InputConfig}
    {stage : Stage} (hbuild : Stage.build disk runtime input = .ok stage) : stage.IsFresh := by
  fun_induction Stage.build disk runtime input generalizing stage with
  | case12 input restart condition hruntime wrapped hwrapped built hcondition ih =>
      simp only [Except.ok.injEq] at hbuild
      subst stage
      exact ⟨rfl, rfl, rfl, ih hwrapped⟩
  | case2 | case4 | case6 =>
      simp only [Except.ok.injEq] at hbuild
      subst stage
      exact ⟨rfl, rfl⟩
  | _ => simp at hbuild

theorem Stage.eq_of_build {disk : Disk} {runtime : Bool} {input : InputConfig} {stage : Stage}
    (hbuild : Stage.build disk runtime input = .ok stage) :
    stage = (Stage.build disk runtime input).toOption.getD default := by
  rw [hbuild]
  rfl

theorem Stage.IsFresh.outlet_eq {stage : Stage} (hfresh : stage.IsFresh) : stage.outlet = {} := by
  cases stage with
  | pump leaf => exact hfresh.1
  | guard head wrapped => exact hfresh.1

@[simp] theorem Stage.outlet_withOutlet (stage : Stage) (outlet : Outlet) :
    (stage.withOutlet outlet).outlet = outlet := by
  cases stage <;> rfl

theorem Stage.take_eq (stage : Stage) (receipts : Receipts) :
    stage.take receipts =
      (stage.withOutlet (stage.outlet.take receipts).1, (stage.outlet.take receipts).2) := rfl

@[simp] theorem Stage.outlet_close (stage : Stage) : stage.close.outlet = stage.outlet.close := by
  simp [Stage.close]

@[simp] theorem Stage.outlet_take (stage : Stage) (receipts : Receipts) :
    (stage.take receipts).1.outlet = (stage.outlet.take receipts).1 := by
  simp [Stage.take]

@[simp] theorem Stage.outlet_letGo (stage : Stage) (receipts : Receipts) :
    (stage.letGo receipts).1.outlet = (stage.outlet.letGo receipts).1 := by
  simp [Stage.letGo]

@[simp] theorem Outlet.shutdown_take (outlet : Outlet) (receipts : Receipts) :
    (outlet.take receipts).1.shutdown = outlet.shutdown := by
  unfold Outlet.take
  split <;> rfl

@[simp] theorem Outlet.slot_take (outlet : Outlet) (receipts : Receipts) :
    (outlet.take receipts).1.slot = none := by
  unfold Outlet.take
  split <;> rfl

@[simp] theorem Outlet.released_take (outlet : Outlet) (receipts : Receipts) :
    (outlet.take receipts).1.released = outlet.released := by
  unfold Outlet.take
  split <;> rfl

@[simp] theorem Outlet.shutdown_letGo (outlet : Outlet) (receipts : Receipts) :
    (outlet.letGo receipts).1.shutdown = outlet.shutdown.request := rfl

@[simp] theorem Outlet.shutdown_close (outlet : Outlet) :
    outlet.close.shutdown = outlet.shutdown.request := rfl

namespace Stage.CanClose

variable {stage : Stage} {world : World} {level : Nat} {move : StageMove}

theorem plain (hcan : stage.CanClose) : stage.outlet.shutdown.IsPlain := by
  cases stage with
  | pump leaf => exact Pump.CanClose.plain hcan
  | guard head wrapped => exact hcan.1.plain

theorem withOutlet (hcan : stage.CanClose) {outlet : Outlet} (hplain : outlet.shutdown.IsPlain)
    (hclosed : stage.outlet.shutdown.closed = true → outlet.shutdown.closed = true) :
    (stage.withOutlet outlet).CanClose := by
  cases stage with
  | pump leaf => exact ⟨hplain, fun hphase => hclosed (Pump.CanClose.finished hcan hphase)⟩
  | guard head wrapped =>
      obtain ⟨hhead, hwrapped⟩ := hcan
      exact ⟨⟨hplain, fun exit hphase => hclosed (hhead.finished exit hphase), hhead.closing⟩,
        hwrapped⟩

theorem take (hcan : stage.CanClose) (receipts : Receipts) :
    (stage.take receipts).1.CanClose := by
  rw [stage.take_eq]
  apply hcan.withOutlet
  · rw [Outlet.shutdown_take]
    exact hcan.plain
  · rw [Outlet.shutdown_take]
    exact id

theorem close (hcan : stage.CanClose) : stage.close.CanClose :=
  hcan.withOutlet (Shutdown.isPlain_request hcan.plain) (by simp)

theorem letGo (hcan : stage.CanClose) (receipts : Receipts) :
    (stage.letGo receipts).1.CanClose :=
  hcan.withOutlet (Shutdown.isPlain_request hcan.plain) (by simp)

theorem of_isFresh (hfresh : stage.IsFresh) : stage.CanClose := by
  induction stage with
  | pump leaf =>
      obtain ⟨houtlet, hphase⟩ := hfresh
      exact ⟨by rw [houtlet]; rfl, by simp [hphase]⟩
  | guard head wrapped ih =>
      obtain ⟨houtlet, hphase, _, hwrapped⟩ := hfresh
      exact ⟨⟨by rw [houtlet]; rfl, by simp [hphase], by simp [hphase]⟩, ih hwrapped⟩

end Stage.CanClose

/-! ## Steps of the workers -/

theorem Stage.build_of_rebuild {disk : Disk} {input : InputConfig} {wrapped stage : Stage}
    (hrebuild : (wrapped.sight disk input).rebuild () = .ok stage) :
    Stage.build disk true input = .ok stage := by
  cases hbuild : Stage.build disk true input with
  | ok built => simpa [Stage.sight, hbuild, Except.mapError] using hrebuild
  | error failure => simp [Stage.sight, hbuild, Except.mapError] at hrebuild

/-- No worker asks its own stage to close, and none takes a confirmation back. -/
theorem Stage.shutdown_step {stage : Stage} {world : World} {level : Nat} {move : StageMove}
    (hstep : stage.step world level = some move) :
    move.stage.outlet.shutdown = stage.outlet.shutdown ∨
      move.stage.outlet.shutdown = stage.outlet.shutdown.confirm := by
  cases Stage.stepCase_of_step hstep with
  | pump hpump =>
      cases Pump.stepCase_of_step hpump with
      | confirmed => exact .inr rfl
      | _ => exact .inl rfl
  | guard hguard =>
      cases Guard.stepCase_of_step hguard with
      | confirmed => exact .inr rfl
      | _ => exact .inl rfl
  | inside => exact .inl rfl

theorem Stage.requested_step {stage : Stage} {world : World} {level : Nat} {move : StageMove}
    (hstep : stage.step world level = some move) :
    move.stage.outlet.shutdown.requested = stage.outlet.shutdown.requested := by
  rcases Stage.shutdown_step hstep with hsame | hconfirmed
  · rw [hsame]
  · rw [hconfirmed, Shutdown.confirm_requested]

theorem Pump.CanClose.step {receipts : Receipts} {stdin : ByteSource} {pump : Pump}
    {move : PumpMove} (hcan : pump.CanClose) (hstep : pump.step receipts stdin = some move) :
    move.pump.CanClose := by
  obtain ⟨hplain, hfinished⟩ := hcan
  cases Pump.stepCase_of_step hstep with
  | confirmed => exact ⟨hplain, fun _ => rfl⟩
  | readOn hphase => exact ⟨hplain, by simp [hphase]⟩
  | _ => exact ⟨hplain, by simp [Pump.enter]⟩

namespace Stage.CanClose

variable {stage : Stage} {world : World} {level : Nat} {move : StageMove}

theorem step_guard {head : Guard} {wrapped : Stage} {step : GuardMove Stage}
    (hhead : head.CanClose wrapped.outlet) (hwrapped : wrapped.CanClose)
    (hstep : head.step (wrapped.sight world.disk head.input) world.receipts = some step) :
    (Stage.guard step.guard (wrapped.obey step.receipts step.demand).1).CanClose := by
  have hplain := hhead.plain
  cases Guard.stepCase_of_step hstep with
  | rebuilt _ _ _ _ hbuild =>
      exact ⟨⟨hplain, by simp, by simp⟩,
        of_isFresh (Stage.isFresh_of_build (Stage.build_of_rebuild hbuild))⟩
  | inputEnded => exact ⟨⟨hplain, by simp, by simp⟩, hwrapped.letGo _⟩
  | received | receivedCandidate => exact ⟨⟨hplain, by simp, by simp⟩, hwrapped.take _⟩
  | askedToClose =>
      -- the one step that makes a guard wait for the input inside asks it to close
      refine ⟨⟨hplain, by simp [Guard.enter], fun _ _ => ?_⟩, hwrapped.close⟩
      simp [Stage.obey]
  | confirmed => exact ⟨⟨hplain, fun _ _ => rfl, by simp⟩, hwrapped⟩
  | _ => exact ⟨⟨hplain, by simp [Guard.enter], by simp [Guard.enter]⟩, hwrapped⟩

theorem step (hcan : stage.CanClose) (hstep : stage.step world level = some move) :
    move.stage.CanClose := by
  induction Stage.stepCase_of_step hstep with
  | pump hpump => exact Pump.CanClose.step hcan hpump
  | guard hguard => exact step_guard hcan.1 hcan.2 hguard
  | inside hinner _ ih =>
      obtain ⟨hhead, hwrapped⟩ := hcan
      refine ⟨⟨hhead.plain, hhead.finished, fun exit hphase => ?_⟩, ih hwrapped hinner⟩
      rw [Stage.requested_step hinner]
      exact hhead.closing exit hphase

end Stage.CanClose

/-! ## Ranks -/

/-- How many steps a pump takes at most that has been asked to close. -/
def Pump.rank (pump : Pump) : Nat :=
  match pump.phase, pump.source with
  | .finished, _ => 0
  | .confirming, _ => 1
  | .leaving, _ => 2
  | .pulling, .lines _ (_ :: _) _ => 5
  | .pulling, _ => 4
  | _, _ => 3

/-- How many steps a guard takes at most that has been asked to close, not
counting those of the input inside. -/
def GuardPhase.rank : GuardPhase → Nat
  | .finished _ => 0
  | .confirming _ => 1
  | .releasing _ => 2
  | .stopping _ => 3
  | .closing _ => 4
  | .leaving _ => 5
  | .starting => 7
  | _ => 6

def Stage.rank : Stage → Nat
  | .pump leaf => leaf.rank
  | .guard head wrapped => head.phase.rank + wrapped.rank

theorem Pump.rank_le (pump : Pump) : pump.rank ≤ 5 := by
  unfold rank
  split <;> omega

theorem GuardPhase.rank_le (phase : GuardPhase) : phase.rank ≤ 7 := by
  cases phase <;> simp [rank]

theorem Stage.rank_le (stage : Stage) : stage.rank ≤ 7 * stage.depth + 5 := by
  induction stage with
  | pump leaf => exact leaf.rank_le
  | guard head wrapped ih =>
      have hhead := head.phase.rank_le
      simp only [Stage.rank, Stage.depth]
      omega

@[simp] theorem Stage.rank_withOutlet (stage : Stage) (outlet : Outlet) :
    (stage.withOutlet outlet).rank = stage.rank := by
  cases stage <;> rfl

/-- What a source reads from, if it reads. -/
def Source.origin? : Source → Option Origin
  | .listed _ => none
  | .lines _ _ origin => some origin

def Stage.origin? : Stage → Option Origin
  | .pump leaf => leaf.source.origin?
  | .guard _ wrapped => wrapped.origin?

@[simp] theorem Stage.origin?_withOutlet (stage : Stage) (outlet : Outlet) :
    (stage.withOutlet outlet).origin? = stage.origin? := by
  cases stage <;> rfl

/-! ## One step closer to the end -/

/-- A source whose reading has been stopped never keeps anyone waiting, and goes
on at most while there is something read ahead. -/
theorem Source.pull_stopped (source : Source) (stdin : ByteSource) :
    ∃ pulled left, source.pull true stdin = (pulled, left, stdin) ∧
      left.origin? = source.origin? ∧ pulled ≠ .waiting ∧
        (pulled = .more → ∃ framer b rest origin after,
          source = .lines framer (b :: rest) origin ∧ left = .lines after [] origin) := by
  cases source with
  | listed items =>
      rcases items with _ | ⟨_ | message, rest⟩ <;>
        exact ⟨_, _, rfl, rfl, by simp, by simp⟩
  | lines framer ahead origin =>
      cases ahead with
      | nil =>
          have hpiece : Source.readPiece true stdin origin = (.bytes [], origin, stdin) := by
            cases origin <;> rfl
          cases hfinish : framer.finish with
          | error error =>
              have hpull : (Source.lines framer [] origin).pull true stdin =
                  (.failed error, .lines framer [] origin, stdin) := by
                simp [Source.pull, hpiece, hfinish]
              exact ⟨_, _, hpull, rfl, by simp, by simp⟩
          | ok finished =>
              cases finished with
              | none =>
                  have hpull : (Source.lines framer [] origin).pull true stdin =
                      (.ended, .lines framer [] origin, stdin) := by
                    simp [Source.pull, hpiece, hfinish]
                  exact ⟨_, _, hpull, rfl, by simp, by simp⟩
              | some message =>
                  have hpull : (Source.lines framer [] origin).pull true stdin =
                      (.message message, .lines { multipart := framer.multipart } [] origin,
                        stdin) := by
                    simp [Source.pull, hpiece, hfinish]
                  exact ⟨_, _, hpull, rfl, by simp, by simp⟩
      | cons b rest =>
          cases hnext : framer.next (b :: rest) with
          | starved after =>
              have hpull : (Source.lines framer (b :: rest) origin).pull true stdin =
                  (.more, .lines after [] origin, stdin) := by
                simp [Source.pull, hnext]
              exact ⟨_, _, hpull, rfl, by simp,
                fun _ => ⟨framer, b, rest, origin, after, rfl, rfl⟩⟩
          | message message after left =>
              have hpull : (Source.lines framer (b :: rest) origin).pull true stdin =
                  (.message message, .lines after left origin, stdin) := by
                simp [Source.pull, hnext]
              exact ⟨_, _, hpull, rfl, by simp, by simp⟩
          | failed error =>
              have hpull : (Source.lines framer (b :: rest) origin).pull true stdin =
                  (.failed error, .lines framer [] origin, stdin) := by
                simp [Source.pull, hnext]
              exact ⟨_, _, hpull, rfl, by simp, by simp⟩

/-- Whether a pump in a phase reads no more, whatever the reason. -/
def PumpPhase.stops : PumpPhase → Bool
  | .leaving | .confirming | .finished => true
  | _ => false

/-- Whether a guard in a phase reads no more, whatever the reason. -/
def GuardPhase.stops : GuardPhase → Bool
  | .leaving _ | .closing _ | .stopping _ | .releasing _ | .confirming _ | .finished _ => true
  | _ => false

/-- Whether the outermost worker has been asked to close, or stops for a reason of its own. -/
def Stage.Stops : Stage → Prop
  | .pump leaf => leaf.outlet.shutdown.requested = true ∨ leaf.phase.stops = true
  | .guard head _ => head.outlet.shutdown.requested = true ∨ head.phase.stops = true

theorem Stage.stops_of_requested {stage : Stage}
    (hrequested : stage.outlet.shutdown.requested = true) : stage.Stops := by
  cases stage <;> exact .inl hrequested

/-- Nobody takes it back. -/
theorem Stage.Stops.step {world : World} {stage : Stage} {level : Nat} {move : StageMove}
    (hstops : stage.Stops) (hstep : stage.step world level = some move) : move.stage.Stops := by
  have hsame := Stage.requested_step hstep
  cases Stage.stepCase_of_step hstep with
  | @pump leaf _ hpump =>
      rcases hstops with hrequested | hphase
      · exact stops_of_requested (hsame.trans hrequested)
      · cases Pump.stepCase_of_step hpump with
        | released | confirmed => exact .inr rfl
        | _ => simp_all [PumpPhase.stops]
  | @guard head wrapped _ hguard =>
      rcases hstops with hrequested | hphase
      · exact stops_of_requested (hsame.trans hrequested)
      · cases Guard.stepCase_of_step hguard with
        | askedToClose | leftAlone | inputClosed | stopped | released | confirmed =>
            exact .inr rfl
        | _ => simp_all [GuardPhase.stops]
  | inside => exact hstops

theorem Pump.exists_descent (receipts : Receipts) (stdin : ByteSource) {pump : Pump}
    (hstops : pump.outlet.shutdown.signalled = true ∨ pump.phase.stops = true)
    (hopen : pump.phase ≠ .finished) :
    ∃ move, pump.step receipts stdin = some move ∧ move.pump.rank < pump.rank ∧
      move.stdin = stdin ∧ move.pump.source.origin? = pump.source.origin? := by
  cases hphase : pump.phase with
  | pulling =>
      have hsignal : pump.outlet.shutdown.signalled = true := by
        simpa [hphase, PumpPhase.stops] using hstops
      obtain ⟨pulled, source, hpull, horigin, hready, hmore⟩ :=
        pump.source.pull_stopped stdin
      have hrank : 4 ≤ pump.rank := by
        unfold rank
        simp only [hphase]
        split <;> simp_all
      cases pulled with
      | waiting => exact absurd rfl hready
      | more =>
          -- what was read ahead is gone now, so the pump pulls only once more
          obtain ⟨framer, b, rest, origin, after, hsource, rfl⟩ := hmore rfl
          refine ⟨_, by simp only [step, hphase, hsignal, hpull]; rfl, ?_, rfl, horigin⟩
          simp [rank, hphase, hsource]
      | ended | failed _ | message _ =>
          refine ⟨_, by simp only [step, hphase, hsignal, hpull]; rfl, ?_, rfl, horigin⟩
          refine Nat.lt_of_lt_of_le ?_ hrank
          simp [rank]
  | leaving | confirming =>
      refine ⟨_, by simp only [step, hphase]; rfl, ?_, rfl, rfl⟩
      simp [rank, hphase]
  | finished => exact absurd hphase hopen
  | _ =>
      have hsignal : pump.outlet.shutdown.signalled = true := by
        simpa [hphase, PumpPhase.stops] using hstops
      refine ⟨_, by simp only [step, hphase, hsignal]; rfl, ?_, rfl, rfl⟩
      simp [rank, enter, hphase]

/-- A step towards the end of a stage that reads nothing. -/
structure StageMove.Descends (move : StageMove) (stage : Stage) (stdin : ByteSource) :
    Prop where
  rank : move.stage.rank < stage.rank
  stdin : move.stdin = stdin
  origin : move.stage.origin? = stage.origin?

/-- A guard that has been asked to close, or stops anyway, needs nothing from anyone,
except while it waits for the input inside. -/
theorem Guard.exists_descent {world : World} {guard : Guard} {wrapped : Stage}
    (hplain : guard.outlet.shutdown.IsPlain)
    (hstops : guard.outlet.shutdown.requested = true ∨ guard.phase.stops = true)
    (hopen : ∀ exit, guard.phase ≠ .finished exit)
    (hready : ∀ exit, guard.phase = .closing exit → wrapped.isClosed = true) :
    ∃ move, Stage.step world 0 (.guard guard wrapped) = some move ∧
      move.Descends (.guard guard wrapped) world.stdin := by
  cases hphase : guard.phase with
  | closing exit =>
      have hconfirmed : (wrapped.sight world.disk guard.input).confirmed = true :=
        hready exit hphase
      refine ⟨_, by simp only [Stage.step, Guard.step, hphase, hconfirmed]; rfl, ?_, rfl, rfl⟩
      simp [Stage.rank, GuardPhase.rank, Guard.enter, hphase, Stage.obey]
  | leaving exit =>
      cases hcurrent : guard.current with
      | true =>
          refine ⟨_, by simp only [Stage.step, Guard.step, hphase, hcurrent]; rfl, ?_, rfl, ?_⟩
          · simp [Stage.rank, GuardPhase.rank, Guard.enter, hphase, Stage.obey, Stage.close]
          · simp [Stage.origin?, Stage.obey, Stage.close]
      | false =>
          refine ⟨_, by simp only [Stage.step, Guard.step, hphase, hcurrent]; rfl, ?_, rfl, rfl⟩
          simp [Stage.rank, GuardPhase.rank, Guard.enter, hphase, Stage.obey]
  | stopping exit | releasing exit | confirming exit =>
      refine ⟨_, by simp only [Stage.step, Guard.step, hphase]; rfl, ?_, rfl, rfl⟩
      simp [Stage.rank, GuardPhase.rank, Guard.enter, hphase, Stage.obey]
  | finished exit => exact absurd hphase (hopen exit)
  | _ =>
      have hrequested : guard.outlet.shutdown.requested = true := by
        simpa [hphase, GuardPhase.stops] using hstops
      have hsignal : guard.outlet.shutdown.signalled = true := hplain.trans hrequested
      refine ⟨_, by
        simp only [Stage.step, Guard.step, Guard.decideNext, Guard.receive, Guard.forward,
          Guard.intercept, Guard.obstacle?, Guard.awaitResponse, hphase, hsignal, hrequested,
          Shutdown.isRunning]; rfl, ?_, rfl, rfl⟩
      simp [Stage.rank, GuardPhase.rank, Guard.enter, hphase, Stage.obey]

/-- As long as a stage that stops has not confirmed, one of its workers has a step that
brings it closer to that. -/
theorem Stage.CanClose.exists_descent_of_stops {stage : Stage} (hcan : stage.CanClose)
    (world : World) (hstops : stage.Stops) (hopen : stage.isClosed = false) :
    ∃ level move, stage.step world level = some move ∧ move.Descends stage world.stdin := by
  induction stage with
  | pump leaf =>
      have hplain : leaf.outlet.shutdown.IsPlain := Pump.CanClose.plain hcan
      have hphase : leaf.phase ≠ .finished := by
        intro hfinished
        have hclosed : leaf.outlet.shutdown.closed = true :=
          Pump.CanClose.finished hcan hfinished
        simp [Stage.isClosed, Stage.outlet, hclosed] at hopen
      obtain ⟨move, hstep, hrank, hstdin, horigin⟩ :=
        Pump.exists_descent world.receipts world.stdin (hstops.imp_left hplain.trans) hphase
      exact ⟨0, ⟨.pump leaf.kind move.event, .pump move.pump, move.receipts, move.stdin⟩,
        by simp [Stage.step, hstep], hrank, hstdin, horigin⟩
  | guard head wrapped ih =>
      obtain ⟨hhead, hwrapped⟩ := hcan
      have hphase : ∀ exit, head.phase ≠ .finished exit := by
        intro exit hfinished
        have hclosed := hhead.finished exit hfinished
        simp [Stage.isClosed, Stage.outlet, hclosed] at hopen
      by_cases hready : ∀ exit, head.phase = .closing exit → wrapped.isClosed = true
      · obtain ⟨move, hstep, hdescends⟩ :=
          head.exists_descent hhead.plain hstops hphase hready
        exact ⟨0, move, hstep, hdescends⟩
      · -- the guard waits for the input inside, which has been asked to close too
        push Not at hready
        obtain ⟨exit, hclosing, hwaiting⟩ := hready
        obtain ⟨level, move, hstep, hdescends⟩ :=
          ih hwrapped (stops_of_requested (hhead.closing exit hclosing)) (by simpa using hwaiting)
        have hrank := hdescends.rank
        refine ⟨level + 1, { move with stage := .guard head move.stage },
          by simp [Stage.step, hstep], ?_, hdescends.stdin, hdescends.origin⟩
        simp only [Stage.rank]
        omega

/-- Likewise as long as a stage has not done what it was asked. -/
theorem Stage.CanClose.exists_descent {stage : Stage} (hcan : stage.CanClose) (world : World)
    (hrequested : stage.outlet.shutdown.requested = true) (hopen : stage.isClosed = false) :
    ∃ level move, stage.step world level = some move ∧ move.Descends stage world.stdin :=
  hcan.exists_descent_of_stops world (stops_of_requested hrequested) hopen

/-! ## Runs of the workers -/

def Running.workAll (running : Running) : List Nat → Option Running
  | [] => some running
  | level :: rest => (running.work level).bind fun step => step.2.workAll rest

/-- What the workers come to by themselves within some number of steps: the stage
has confirmed, and nothing has been read. -/
def Running.ClosesWithin (running : Running) (steps : Nat) : Prop :=
  ∃ levels after, running.workAll levels = some after ∧ levels.length ≤ steps ∧
    after.stage.isClosed = true ∧ after.world.stdin = running.world.stdin ∧
      after.stage.origin? = running.stage.origin?

theorem Running.closesWithin_of_stops {running : Running} (hcan : running.stage.CanClose)
    (hstops : running.stage.Stops) : running.ClosesWithin running.stage.rank := by
  induction hrank : running.stage.rank using Nat.strong_induction_on generalizing running with
  | _ rank ih =>
      cases hopen : running.stage.isClosed with
      | true => exact ⟨[], running, rfl, Nat.zero_le _, hopen, rfl, rfl⟩
      | false =>
          -- the step lowers the rank, and what makes the stage closable survives it
          obtain ⟨level, move, hstep, hless, hstdin, horigin⟩ :=
            hcan.exists_descent_of_stops running.world hstops hopen
          have hafter : (running.after move).stage.Stops := hstops.step hstep
          obtain ⟨levels, final, hall, hlength, hclosed, hsame, hread⟩ :=
            ih move.stage.rank (by omega) (hcan.step hstep) hafter rfl
          refine ⟨level :: levels, final, ?_, ?_, hclosed, hsame.trans hstdin,
            hread.trans horigin⟩
          · simp [workAll, work, hstep, hall]
          · simp only [List.length_cons]
            omega

theorem Running.closesWithin_rank {running : Running} (hcan : running.stage.CanClose)
    (hrequested : running.stage.outlet.shutdown.requested = true) :
    running.ClosesWithin running.stage.rank :=
  closesWithin_of_stops hcan (Stage.stops_of_requested hrequested)

/-! ## Stages in use -/

namespace Usage

/-- Whether the holder has asked the stage to close, or has let go of it. -/
def Asked (usage : Usage) : Prop := .closed ∈ usage.record ∨ .letGo ∈ usage.record

theorem asked_note (usage : Usage) (running : Running) (held : List Nat) (holding : Bool)
    (note : UsageNote) :
    (Usage.mk running held holding (usage.record ++ [note])).Asked ↔
      usage.Asked ∨ note = .closed ∨ note = .letGo := by
  simp only [Asked, List.mem_append, List.mem_singleton]
  grind

/-- The stage can be closed, and knows whether it has been asked to. -/
structure Closable (usage : Usage) : Prop where
  stage : usage.running.stage.CanClose
  asked : usage.Asked ↔ usage.outlet.shutdown.requested = true

theorem Closable.start {stage : Stage} (hfresh : stage.IsFresh) (world : World) :
    (Usage.start stage world).Closable := by
  refine ⟨.of_isFresh hfresh, ?_⟩
  simp [Asked, Usage.start, outlet, hfresh.outlet_eq]

theorem Closable.perform {usage : Usage} (hclosable : usage.Closable) (move : UsageMove) :
    (usage.perform move).Closable := by
  obtain ⟨hstage, hasked⟩ := hclosable
  have hcase := usage.performs move
  generalize usage.perform move = after at hcase ⊢
  cases hcase with
  | idle => exact ⟨hstage, hasked⟩
  | worked hstep =>
      refine ⟨hstage.step hstep, ?_⟩
      rw [asked_note, hasked]
      simp [outlet, Running.after, Stage.requested_step hstep]
  | received =>
      refine ⟨hstage.take _, ?_⟩
      rw [asked_note, hasked]
      simp [outlet, Running.receive]
  | pronounced =>
      refine ⟨hstage, ?_⟩
      rw [asked_note, hasked]
      simp [outlet, Running.pronounce]
  | closed =>
      refine ⟨hstage.close, ?_⟩
      rw [asked_note]
      simp [outlet, Running.close]
  | letGo =>
      refine ⟨hstage.letGo usage.receipts, ?_⟩
      rw [asked_note]
      simp [outlet, Running.letGo]
  | rewritten disk =>
      refine ⟨hstage, ?_⟩
      rw [asked_note, hasked]
      simp [outlet]

theorem closable_performAll {stage : Stage} (hfresh : stage.IsFresh) (world : World)
    (moves : List UsageMove) : ((Usage.start stage world).performAll moves).Closable :=
  performAll_induction (.start hfresh world) (fun _ move hclosable => hclosable.perform move) moves

/-- Whatever has happened before and whatever the holder still owes: a stage that
has been asked to close, or let go of, needs only its own workers to close, and
one of them always has a step until then. -/
theorem close_completes {input : InputConfig} {world : World} {stage : Stage}
    (hbuild : Stage.build world.disk true input = .ok stage) (moves : List UsageMove)
    (hasked : ((Usage.start stage world).performAll moves).Asked) :
    let running := ((Usage.start stage world).performAll moves).running
    running.ClosesWithin (7 * running.stage.depth + 5) ∧
      (running.stage.isClosed = false → ∃ level, (running.work level).isSome) := by
  have hclosable := closable_performAll (Stage.isFresh_of_build hbuild) world moves
  generalize (Usage.start stage world).performAll moves = usage at hasked hclosable
  have hrequested := hclosable.asked.mp hasked
  constructor
  · obtain ⟨levels, after, hall, hlength, hrest⟩ :=
      Running.closesWithin_rank hclosable.stage hrequested
    exact ⟨levels, after, hall, hlength.trans usage.running.stage.rank_le, hrest⟩
  · intro hopen
    obtain ⟨level, move, hstep, _⟩ :=
      hclosable.stage.exists_descent usage.running.world hrequested hopen
    exact ⟨level, by simp [Running.work, hstep]⟩

/-- The holder keeps a transaction that the inner one of two guards made, and the
reader inside has fallen silent. -/
theorem close_completes_of_held :
    ∃ (world : World) (stage : Stage) (moves : List UsageMove) (usage : Usage),
      world.stdin = ⟨[[97, 10]], .silent⟩ ∧
      Stage.build world.disk true
        (.readUntil (some (.readUntil (some (.stdin false)) false (.count 1))) true (.count 5)) =
          .ok stage ∧
      usage = (Usage.start stage world).performAll moves ∧
      usage.Asked ∧ usage.held = [1] ∧ usage.running.stage.isClosed = false ∧
      usage.running.ClosesWithin 19 ∧ ∃ level, (usage.running.work level).isSome := by
  obtain ⟨world, hworld⟩ : ∃ world : World,
      world = { stdin := ⟨[[97, 10]], .silent⟩ } := ⟨_, rfl⟩
  obtain ⟨stage, hbuild⟩ : ∃ stage, Stage.build world.disk true
      (.readUntil (some (.readUntil (some (.stdin false)) false (.count 1))) true (.count 5)) =
        .ok stage := ⟨_, rfl⟩
  obtain ⟨moves, hmoves⟩ : ∃ moves : List UsageMove, moves =
      (List.replicate 8 [.work 0, .work 1, .work 2]).flatten ++ [.receive, .close] := ⟨_, rfl⟩
  have hstage := Stage.eq_of_build hbuild
  have hasked : ((Usage.start stage world).performAll moves).Asked := by
    subst hstage hmoves hworld
    exact .inl (by decide +kernel)
  obtain ⟨hcloses, hstep⟩ := close_completes hbuild moves hasked
  have hdepth : ((Usage.start stage world).performAll moves).running.stage.depth = 2 := by
    subst hstage hmoves hworld
    decide +kernel
  have hopen : ((Usage.start stage world).performAll moves).running.stage.isClosed = false := by
    subst hstage hmoves hworld
    decide +kernel
  rw [hdepth] at hcloses
  refine ⟨world, stage, moves, _, by rw [hworld], hbuild, rfl, hasked, ?_, hopen, hcloses,
    hstep hopen⟩
  subst hstage hmoves hworld
  decide +kernel

end Usage

end Intake
