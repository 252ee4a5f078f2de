import Intake.Proofs.StageClosing

/-!
# What workers can bring about

Where some steps of the workers take a stage, with nothing done by its holder in
between.  The steps are chosen to suit the goal: what is reached like that is what the
stage can still come to, whatever its workers have done before.
-/

namespace Intake

/-- Steps of its workers take a stage to where something holds of it and the receipts. -/
inductive Stage.Reaches (goal : Receipts → Stage → Prop) : World → Stage → Prop where
  | here {world : World} {stage : Stage} (hgoal : goal world.receipts stage) :
      Reaches goal world stage
  | step {world : World} {stage : Stage} {level : Nat} {move : StageMove}
      (hstep : stage.step world level = some move)
      (hrest : Reaches goal { world with receipts := move.receipts, stdin := move.stdin }
        move.stage) :
      Reaches goal world stage

namespace Stage.Reaches

variable {goal other : Receipts → Stage → Prop} {world : World} {stage wrapped : Stage}
  {head : Guard}

theorem bind (hreaches : stage.Reaches goal world)
    (hgoal : ∀ world stage, goal world.receipts stage → stage.Reaches other world) :
    stage.Reaches other world := by
  induction hreaches with
  | here hhere => exact hgoal _ _ hhere
  | step hstep _ ih => exact .step hstep ih

/-- What can close can do so after any steps of its workers. -/
theorem canClose (hreaches : stage.Reaches goal world) (hcan : stage.CanClose) :
    stage.Reaches (fun receipts stage => goal receipts stage ∧ stage.CanClose) world := by
  induction hreaches with
  | here hhere => exact .here ⟨hhere, hcan⟩
  | step hstep _ ih => exact .step hstep (ih (hcan.step hstep))

/-- The workers inside go on by themselves. -/
theorem inside (head : Guard) (hreaches : wrapped.Reaches goal world) :
    (Stage.guard head wrapped).Reaches
      (fun receipts stage => ∃ wrapped, stage = .guard head wrapped ∧ goal receipts wrapped)
      world := by
  induction hreaches with
  | here hhere => exact .here ⟨_, rfl, hhere⟩
  | @step world wrapped level move hstep _ ih =>
      have hinner : (Stage.guard head wrapped).step world (level + 1) =
          some { move with stage := .guard head move.stage } := by
        simp [Stage.step, hstep]
      exact .step hinner ih

theorem pump {pump : Pump} {move : PumpMove}
    (hstep : pump.step world.receipts world.stdin = some move)
    (hrest : (Stage.pump move.pump).Reaches goal
      { world with receipts := move.receipts, stdin := move.stdin }) :
    (Stage.pump pump).Reaches goal world := by
  have hpump : (Stage.pump pump).step world 0 =
      some ⟨.pump pump.kind move.event, .pump move.pump, move.receipts, move.stdin⟩ := by
    simp [Stage.step, hstep]
  exact .step hpump hrest

theorem guard {move : GuardMove Stage}
    (hstep : head.step (wrapped.sight world.disk head.input) world.receipts = some move)
    (hrest : (Stage.guard move.guard (wrapped.obey move.receipts move.demand).1).Reaches goal
      { world with receipts := (wrapped.obey move.receipts move.demand).2 }) :
    (Stage.guard head wrapped).Reaches goal world := by
  have hguard : (Stage.guard head wrapped).step world 0 =
      some ⟨.guard move.event, .guard move.guard (wrapped.obey move.receipts move.demand).1,
        (wrapped.obey move.receipts move.demand).2, world.stdin⟩ := by
    simp [Stage.step, hstep]
  exact .step hguard hrest

/-- A guard that can close still can after its step. -/
theorem guard_of_canClose {move : GuardMove Stage} (hcan : (Stage.guard head wrapped).CanClose)
    (hstep : head.step (wrapped.sight world.disk head.input) world.receipts = some move)
    (hrest : (Stage.guard move.guard (wrapped.obey move.receipts move.demand).1).CanClose →
      (Stage.guard move.guard (wrapped.obey move.receipts move.demand).1).Reaches goal
        { world with receipts := (wrapped.obey move.receipts move.demand).2 }) :
    (Stage.guard head wrapped).Reaches goal world :=
  .guard hstep (hrest (Stage.CanClose.step_guard hcan.1 hcan.2 hstep))

end Stage.Reaches

/-! ## Stages in use -/

/-- No worker of a stage has a step. -/
def Running.IsAtRest (running : Running) : Prop := ∀ level, running.work level = none

namespace Usage

/-- What becomes of a stage in use when its workers take steps at some levels. -/
def workAll (usage : Usage) (levels : List Nat) : Usage := usage.performAll (levels.map .work)

@[simp] theorem workAll_nil (usage : Usage) : usage.workAll [] = usage := rfl

@[simp] theorem workAll_cons (usage : Usage) (level : Nat) (rest : List Nat) :
    usage.workAll (level :: rest) = (usage.perform (.work level)).workAll rest := rfl

theorem perform_work_of_step {usage : Usage} {level : Nat} {move : StageMove}
    (hstep : usage.running.stage.step usage.running.world level = some move) :
    usage.perform (.work level) =
      { usage with
        running := usage.running.after move
        record := usage.record ++ [.worked move.event] } := by
  simp [perform, Running.work, hstep]

theorem exists_workAll {usage : Usage} {goal : Receipts → Stage → Prop}
    (hreaches : usage.running.stage.Reaches goal usage.running.world) :
    ∃ levels, goal (usage.workAll levels).receipts (usage.workAll levels).running.stage := by
  generalize hstage : usage.running.stage = stage at hreaches
  generalize hworld : usage.running.world = world at hreaches
  induction hreaches generalizing usage with
  | here hhere =>
      subst hstage hworld
      exact ⟨[], hhere⟩
  | @step _ _ level move hstep _ ih =>
      subst hstage hworld
      obtain ⟨levels, hgoal⟩ := @ih (usage.perform (.work level))
        (by rw [perform_work_of_step hstep]; rfl) (by rw [perform_work_of_step hstep]; rfl)
      exact ⟨level :: levels, hgoal⟩

theorem workAll_of_isAtRest {usage : Usage} (hrest : usage.running.IsAtRest)
    (levels : List Nat) : usage.workAll levels = usage := by
  induction levels with
  | nil => rfl
  | cons level rest ih =>
      have hsame : usage.perform (.work level) = usage := by simp [perform, hrest level]
      rw [workAll_cons, hsame, ih]

/-- Its workers can take a stage to where receiving gives something good, and it does once
none of them has a step left. -/
structure ComesTo (usage : Usage) (good : Received → Prop) : Prop where
  reached : ∃ levels, good (usage.workAll levels).running.receive.1
  atRest : usage.running.IsAtRest → good usage.running.receive.1

theorem ComesTo.of_exists {usage : Usage} {good : Received → Prop}
    (hreached : ∃ levels, good (usage.workAll levels).running.receive.1) :
    usage.ComesTo good := by
  refine ⟨hreached, fun hrest => ?_⟩
  obtain ⟨levels, hgood⟩ := hreached
  rwa [workAll_of_isAtRest hrest] at hgood

end Usage

end Intake
