import Intake.Proofs.StageWindingUp

/-!
# Cleaning up

Every worker cleans up once: a guard asks the input that it still has to close and
waits until that has confirmed, and then every worker lets go of its outlet and
confirms.  The workers inside a guard that has a reason to stop can always bring this
about by themselves, and where a stage has confirmed, all stages inside it that were
still in use have done so before.
-/

namespace Intake

/-! ## What cleaning up consists of -/

/-- What a pump in a phase has done to clean up. -/
def PumpPhase.cleanup : PumpPhase → List PumpEvent
  | .confirming => [.released]
  | .finished => [.released, .confirmed]
  | _ => []

/-- What a guard does until it no longer counts as running.  It waits only for an input
that it still has. -/
def leave (exit : Exit) (current : Bool) : List GuardEvent :=
  .left exit :: if current then [.inputClosed] else []

/-- What a guard in a phase has done to clean up. -/
def GuardPhase.cleanup (current : Bool) : GuardPhase → List GuardEvent
  | .closing exit => [.left exit]
  | .stopping exit => leave exit current
  | .releasing exit => leave exit current ++ [.stopped]
  | .confirming exit => leave exit current ++ [.stopped, .released]
  | .finished exit => leave exit current ++ [.stopped, .released, .confirmed]
  | _ => []

/-- What the outermost worker of a stage has done to clean up. -/
def Stage.cleanup : Stage → List Event
  | .pump leaf => leaf.phase.cleanup.map (.pump leaf.kind)
  | .guard head _ => (head.phase.cleanup head.current).map .guard

/-- Whether what a worker did was part of cleaning up. -/
def Event.cleansUp : Event → Bool
  | .pump _ .released | .pump _ .confirmed => true
  | .guard (.left _) | .guard .inputClosed | .guard .stopped | .guard .released
  | .guard .confirmed => true
  | _ => false

/-- What the outermost worker has done since its stage was built ends with what it has
done to clean up, and none of that has been done before. -/
def Stage.Logged (stage : Stage) (log : List Event) : Prop :=
  ∃ before, log = before ++ stage.cleanup ∧ ∀ event ∈ before, event.cleansUp = false

/-- Whether the outermost worker has nothing left to do, so that its cleanup is complete. -/
def Stage.HasFinished : Stage → Prop
  | .pump leaf => leaf.phase = .finished
  | .guard head _ => ∃ exit, head.phase = .finished exit

section Steps

variable {world : World} {stage : Stage} {level : Nat} {move : StageMove} {log : List Event}

/-- A step of the outermost worker belongs to its cleanup, or that has not begun. -/
theorem Stage.cleanup_step (horderly : stage.Orderly) (hstep : stage.step world 0 = some move) :
    (move.event.cleansUp = false ∧ stage.cleanup = [] ∧ move.stage.cleanup = []) ∨
      move.event.cleansUp = true ∧ move.stage.cleanup = stage.cleanup ++ [move.event] := by
  cases Stage.stepCase_of_step hstep with
  | pump hpump =>
      cases Pump.stepCase_of_step hpump with
      | released hphase | confirmed hphase =>
          exact .inr ⟨rfl, by simp [Stage.cleanup, PumpPhase.cleanup, hphase]⟩
      | turnAway hphase | turnToSource hphase | readOn hphase | ended hphase | failed hphase
      | pulled hphase | giveUp hphase | sent hphase | withdrew hphase | acknowledged hphase
      | rejected hphase | dropped hphase =>
          exact .inl ⟨rfl, by simp [Stage.cleanup, PumpPhase.cleanup, hphase],
            by simp [Stage.cleanup, PumpPhase.cleanup, Pump.enter, hphase]⟩
  | guard hguard =>
      cases Guard.stepCase_of_step hguard with
      | askedToClose hphase =>
          exact .inr ⟨rfl, by simp [Stage.cleanup, GuardPhase.cleanup, Guard.enter, hphase]⟩
      | leftAlone hphase hcurrent =>
          exact .inr ⟨rfl, by
            simp [Stage.cleanup, GuardPhase.cleanup, Guard.enter, leave, hphase, hcurrent]⟩
      | inputClosed hphase =>
          have hcurrent := horderly.1.waiting _ hphase
          exact .inr ⟨rfl, by
            simp [Stage.cleanup, GuardPhase.cleanup, Guard.enter, leave, hphase, hcurrent]⟩
      | stopped hphase | released hphase | confirmed hphase =>
          exact .inr ⟨rfl, by simp [Stage.cleanup, GuardPhase.cleanup, Guard.enter, hphase]⟩
      | started hphase | stopDeciding hphase | turnToInput hphase | exhausted hphase
      | rebuilt hphase | rebuildFailed hphase | stopReceiving hphase | inputEnded hphase
      | received hphase | receivedCandidate hphase | giveUpForwarding hphase | forwarded hphase
      | giveUpIntercepting hphase | intercepted hphase | giveUpAwaiting hphase | accepted hphase
      | rejected hphase | dropped hphase =>
          exact .inl ⟨rfl, by simp [Stage.cleanup, GuardPhase.cleanup, hphase],
            by simp [Stage.cleanup, GuardPhase.cleanup, Guard.enter]⟩

/-- Workers further inside have no part in it. -/
theorem Stage.cleanup_step_inside (hstep : stage.step world (level + 1) = some move) :
    move.stage.cleanup = stage.cleanup := by
  cases Stage.stepCase_of_step hstep with
  | inside => rfl

theorem Stage.Logged.step (hlogged : stage.Logged log) (horderly : stage.Orderly)
    (hstep : stage.step world level = some move) :
    move.stage.Logged (if level = 0 then log ++ [move.event] else log) := by
  obtain ⟨before, rfl, hbefore⟩ := hlogged
  cases level with
  | succ level =>
      rw [if_neg (Nat.succ_ne_zero level)]
      exact ⟨before, by rw [Stage.cleanup_step_inside hstep], hbefore⟩
  | zero =>
      rw [if_pos rfl]
      rcases Stage.cleanup_step horderly hstep with ⟨hevent, hnone, hstill⟩ | ⟨_, hmore⟩
      · refine ⟨before ++ [move.event], by simp [hnone, hstill], ?_⟩
        intro event hmem
        rcases List.mem_append.mp hmem with hold | hnew
        · exact hbefore event hold
        · rwa [List.mem_singleton.mp hnew]
      · exact ⟨before, by rw [hmore, List.append_assoc], hbefore⟩

theorem Stage.Logged.of_isFresh (hfresh : stage.IsFresh) : stage.Logged [] := by
  refine ⟨[], ?_, by simp⟩
  cases stage with
  | pump leaf => simp [Stage.cleanup, PumpPhase.cleanup, hfresh.2]
  | guard head wrapped => simp [Stage.cleanup, GuardPhase.cleanup, hfresh.2.1]

theorem Stage.Logged.change (hlogged : stage.Logged log) (change : Outlet.Change) :
    (stage.change change).Logged log := by
  cases stage <;> exact hlogged

theorem Stage.Orderly.hasFinished_of_closed (horderly : stage.Orderly)
    (hclosed : stage.isClosed = true) : stage.HasFinished := by
  cases stage with
  | pump leaf =>
      have hconfirmed := (Pump.Orderly.closed horderly).symm.trans hclosed
      cases hphase : leaf.phase with
      | finished => exact hphase
      | _ => simp [hphase, PumpPhase.hasConfirmed] at hconfirmed
  | guard head wrapped =>
      have hconfirmed := horderly.1.closed.symm.trans hclosed
      cases hphase : head.phase with
      | finished exit => exact ⟨exit, hphase⟩
      | _ => simp [hphase, GuardPhase.hasConfirmed] at hconfirmed

end Steps

/-! ## Stages in use -/

theorem Stage.step_eq_none {world : World} {stage inside : Stage} {level : Nat}
    (hinside : stage.inner? level = some inside) (hwaits : inside.step world 0 = none) :
    stage.step world level = none := by
  induction stage generalizing level with
  | pump leaf =>
      cases level with
      | zero => exact Option.some.inj hinside ▸ hwaits
      | succ level => simp [Stage.inner?] at hinside
  | guard head wrapped ih =>
      cases level with
      | zero => exact Option.some.inj hinside ▸ hwaits
      | succ level => simp [Stage.step, ih hinside]

namespace Usage

/-- What the worker at a level has done since its stage was built, after all moves. -/
def logAt (usage : Usage) (level : Nat) (log : List Event) : List UsageMove → List Event
  | [] => log
  | move :: rest => (usage.perform move).logAt level (usage.noteAt level log move) rest

/-- How the workers of a stage in use clean up, given what each of them has done. -/
structure CleansUp (usage : Usage) (logs : Nat → List Event) : Prop where
  /-- Cleaning up is done in order and once, and nothing else after it has begun. -/
  once : ∀ level inside, usage.running.stage.inner? level = some inside →
    inside.Logged (logs level)
  /-- A guard that stops has asked the input that it still has to close, and goes on
  only when that has confirmed. -/
  waited : ∀ level head wrapped, usage.running.stage.inner? level = some (.guard head wrapped) →
    head.current = true →
      (head.phase.hasAsked = true → wrapped.outlet.shutdown.requested = true) ∧
        (head.phase.hasAwaited = true ∨ head.outlet.released = true → wrapped.isClosed = true)
  /-- However often it looks before. -/
  looks : ∀ level head wrapped exit,
    usage.running.stage.inner? level = some (.guard head wrapped) →
      head.phase = .closing exit → wrapped.isClosed = false →
        ∀ count, usage.performAll (List.replicate count (.work level)) = usage
  /-- Whoever stops needs only its own workers to have cleaned up. -/
  completes : ∀ level inside, usage.running.stage.inner? level = some inside → inside.Stops →
    ({ usage.running with stage := inside } : Running).ClosesWithin (7 * inside.depth + 5)
  /-- A worker confirms last of all, when it has let go of its outlet. -/
  confirmed : ∀ level inside, usage.running.stage.inner? level = some inside →
    inside.isClosed = true → inside.HasFinished ∧ inside.outlet.released = true
  woundUp : ∀ level inside, usage.running.stage.inner? level = some inside →
    inside.isClosed = true → inside.WoundUp
  /-- Where a worker has let go of its outlet, nothing is put into any from there on
  inwards, unless a fresh stage takes the place. -/
  still : ∀ level inside, usage.running.stage.inner? level = some inside →
    inside.outlet.released = true → ∀ moves, usage.Keeps level moves →
      ∃ later, (usage.performAll moves).running.stage.inner? level = some later ∧
        inside.Fades later

theorem logged_perform {usage : Usage} (horderly : usage.running.stage.Orderly) {level : Nat}
    {log : List Event}
    (hlogged : ∀ inside, usage.running.stage.inner? level = some inside → inside.Logged log)
    (move : UsageMove) {later : Stage}
    (hlater : (usage.perform move).running.stage.inner? level = some later) :
    later.Logged (usage.noteAt level log move) := by
  cases usage.seen level move with
  | replaced _ hnote hfresh =>
      rw [hnote]
      exact .of_isFresh (hfresh later hlater)
  | around change hnote hafter =>
      rw [hnote]
      rw [hafter, Option.map_eq_some_iff] at hlater
      obtain ⟨inside, hinside, rfl⟩ := hlater
      exact (hlogged inside hinside).change change
  | inside hinside hstep hnote hafter =>
      rw [hnote]
      obtain rfl := Option.some.inj (hafter.symm.trans hlater)
      have horder := Stage.at_level (motive := Stage.Orderly) (fun _ _ hboth => hboth.2) horderly
        hinside
      exact (hlogged _ hinside).step horder hstep

theorem logged_performAll {usage : Usage} (horderly : usage.running.stage.Orderly) {level : Nat}
    {log : List Event}
    (hlogged : ∀ inside, usage.running.stage.inner? level = some inside → inside.Logged log)
    (moves : List UsageMove) {later : Stage}
    (hlater : (usage.performAll moves).running.stage.inner? level = some later) :
    later.Logged (usage.logAt level log moves) := by
  induction moves generalizing usage log with
  | nil => exact hlogged later hlater
  | cons move rest ih =>
      exact ih (orderly_perform horderly move)
        (fun _ hinside => logged_perform horderly hlogged move hinside) hlater

/-- A guard that looks whether its input has confirmed changes nothing as long as it has
not. -/
theorem performAll_looks {usage : Usage} {level : Nat} {head : Guard} {wrapped : Stage}
    {exit : Exit} (hinside : usage.running.stage.inner? level = some (.guard head wrapped))
    (hphase : head.phase = .closing exit) (hopen : wrapped.isClosed = false) (count : Nat) :
    usage.performAll (List.replicate count (.work level)) = usage := by
  have hwaits : (Stage.guard head wrapped).step usage.running.world 0 = none := by
    have hunconfirmed : (wrapped.sight usage.running.world.disk head.input).confirmed = false :=
      hopen
    simp [Stage.step, Guard.step, hphase, hunconfirmed]
  have hlook : usage.perform (.work level) = usage := by
    simp [perform, Running.work, Stage.step_eq_none hinside hwaits]
  induction count with
  | zero => rfl
  | succ count ih => rw [List.replicate_succ, performAll_cons, hlook, ih]

/-- Whatever the nesting, and whatever the workers, the holder and the files do. -/
theorem cleans_up {input : InputConfig} {world : World} {stage : Stage}
    (hbuild : Stage.build world.disk true input = .ok stage) (moves : List UsageMove) :
    ((Usage.start stage world).performAll moves).CleansUp fun level =>
      (Usage.start stage world).logAt level [] moves := by
  have hfresh := Stage.isFresh_of_build hbuild
  have horderly := orderly_performAll hfresh world moves
  have hcan := (closable_performAll hfresh world moves).stage
  have hlogged : ∀ level inside,
      ((Usage.start stage world).performAll moves).running.stage.inner? level = some inside →
        inside.Logged ((Usage.start stage world).logAt level [] moves) := fun level inside =>
    logged_performAll (.of_isFresh hfresh) (fun _ hinside => .of_isFresh (hfresh.inner? hinside))
      moves
  generalize (Usage.start stage world).performAll moves = usage at horderly hcan hlogged ⊢
  have horder : ∀ {level inside}, usage.running.stage.inner? level = some inside →
      inside.Orderly := fun hinside =>
    Stage.at_level (motive := Stage.Orderly) (fun _ _ hboth => hboth.2) horderly hinside
  have hcloses : ∀ {level inside}, usage.running.stage.inner? level = some inside →
      inside.CanClose := fun hinside =>
    Stage.at_level (motive := Stage.CanClose) (fun _ _ hboth => hboth.2) hcan hinside
  refine ⟨hlogged, fun level head wrapped hinside hcurrent => ?_,
    fun level head wrapped exit => performAll_looks,
    fun level inside hinside hstops => ?_, fun level inside hinside hclosed => ?_,
    fun level inside hinside => (horder hinside).woundUp_of_closed,
    fun level inside hinside hreleased moves => ?_⟩
  · have hhead := (horder hinside).1
    refine ⟨hhead.asked hcurrent, fun hdone => hhead.awaited hcurrent ?_⟩
    rcases hdone with hawaited | hreleased
    · exact hawaited
    · exact GuardPhase.hasAwaited_of_hasReleased (hhead.released.symm.trans hreleased)
  · have hwithin :
        ({ usage.running with stage := inside } : Running).ClosesWithin inside.rank :=
      Running.closesWithin_of_stops (hcloses hinside) hstops
    obtain ⟨levels, after, hall, hlength, hrest⟩ := hwithin
    exact ⟨levels, after, hall, hlength.trans inside.rank_le, hrest⟩
  · exact ⟨(horder hinside).hasFinished_of_closed hclosed,
      (horder hinside).released_of_closed hclosed⟩
  · exact fades_performAll hinside ((horder hinside).spent_of_released hreleased)

/-- The holder keeps a transaction and asks the outer one of two guards to close, which
looks in vain before the inner one has confirmed. -/
theorem cleans_up_of_held :
    ∃ (world : World) (stage : Stage) (moves : List UsageMove) (usage : Usage)
        (logs : Nat → List Event),
      Stage.build world.disk true
        (.readUntil (some (.readUntil (some (.stdin false)) false (.count 1))) true (.count 5)) =
          .ok stage ∧
      usage = (Usage.start stage world).performAll moves ∧
      logs = (fun level => (Usage.start stage world).logAt level [] moves) ∧
      usage.held = [1] ∧ usage.CleansUp logs ∧
      (logs 0).filter Event.cleansUp =
        [.guard (.left .closeRequested), .guard .inputClosed, .guard .stopped, .guard .released,
          .guard .confirmed] ∧
      (logs 1).filter Event.cleansUp = (logs 0).filter Event.cleansUp ∧
      (logs 2).filter Event.cleansUp = [.pump "stdin" .released, .pump "stdin" .confirmed] ∧
      usage.running.stage.WoundUp := by
  obtain ⟨world, hworld⟩ : ∃ world : World,
      world = { stdin := ⟨[[97, 10]], .silent⟩ } := ⟨_, rfl⟩
  obtain ⟨stage, hbuild⟩ : ∃ stage, Stage.build world.disk true
      (.readUntil (some (.readUntil (some (.stdin false)) false (.count 1))) true (.count 5)) =
        .ok stage := ⟨_, rfl⟩
  obtain ⟨moves, hmoves⟩ : ∃ moves : List UsageMove, moves =
      (List.replicate 8 [.work 0, .work 1, .work 2]).flatten ++ [.receive, .close] ++
        (List.replicate 14 [.work 0, .work 1, .work 2]).flatten := ⟨_, rfl⟩
  have hstage := Stage.eq_of_build hbuild
  have hcleans := cleans_up hbuild moves
  have hclosed : ((Usage.start stage world).performAll moves).running.stage.isClosed = true := by
    subst hstage hmoves hworld
    decide +kernel
  refine ⟨world, stage, moves, _, _, hbuild, rfl, rfl, ?_, hcleans, ?_, ?_, ?_,
    hcleans.woundUp 0 _ rfl hclosed⟩
  all_goals
    subst hstage hmoves hworld
    decide +kernel

end Usage

end Intake
