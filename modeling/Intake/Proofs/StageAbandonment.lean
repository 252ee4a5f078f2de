import Intake.Proofs.InputFaults
import Intake.Proofs.StageCleanup
import Intake.Proofs.StagePoise

/-!
# What is left of an input that could not be built

An input is built from the inside out, and what is inside runs before the condition
around it is looked at.  If that condition is at fault, the one who builds asks what
has been built to close and lets go of it.  Nobody will ever hold it again, but its
workers go on, and as long as they have not noticed, a guard inside may still put
fresh stages in the place of old ones.  A grove keeps all stages that have ever been
part of the tree.  From any state of it the workers can bring every single one of
them to confirm that it has closed.
-/

namespace Intake

/-! ## Stages that can be wound up to the last worker -/

/-- The holder of an outlet has let go of it, and nothing lies there. -/
structure Outlet.Forgone (outlet : Outlet) : Prop where
  empty : outlet.slot = none
  requested : outlet.shutdown.requested = true

/-- Every guard that has no input any more has let go of the one it had. -/
def Stage.Sheds : Stage → Prop
  | .pump _ => True
  | .guard head wrapped => (head.current = false → wrapped.outlet.Forgone) ∧ wrapped.Sheds

/-- What it takes to wind up a stage to the last worker. -/
structure Stage.CanWindUp (stage : Stage) : Prop where
  canClose : stage.CanClose
  orderly : stage.Orderly
  sheds : stage.Sheds

section Steps

variable {stage : Stage} {world : World} {level : Nat} {move : StageMove}

theorem Outlet.Forgone.letGo (outlet : Outlet) (receipts : Receipts) :
    (outlet.letGo receipts).1.Forgone :=
  ⟨rfl, by simp⟩

theorem Outlet.Forgone.offer_eq {outlet : Outlet} (hforgone : outlet.Forgone) :
    outlet.offer = .ended :=
  Outlet.offer_of_isClosing (by simp [isClosing, hforgone.requested])

/-- Nobody takes anything up again that was let go. -/
theorem Stage.CanClose.forgone_step (hcan : stage.CanClose) (hforgone : stage.outlet.Forgone)
    (hstep : stage.step world level = some move) : move.stage.outlet.Forgone := by
  have hsignal : stage.outlet.shutdown.signalled = true := hcan.plain.trans hforgone.requested
  constructor
  · rw [Stage.slot_step_of_signalled hsignal hstep, hforgone.empty]
  · rw [Stage.requested_step hstep, hforgone.requested]

theorem Stage.Sheds.withOutlet (hsheds : stage.Sheds) (outlet : Outlet) :
    (stage.withOutlet outlet).Sheds := by
  cases stage <;> exact hsheds

theorem Stage.Sheds.of_isFresh (hfresh : stage.IsFresh) : stage.Sheds := by
  induction stage with
  | pump leaf => trivial
  | guard head wrapped ih =>
      obtain ⟨_, _, hcurrent, hwrapped⟩ := hfresh
      exact ⟨by simp [hcurrent], ih hwrapped⟩

theorem Stage.Sheds.step_guard {head : Guard} {wrapped : Stage} {step : GuardMove Stage}
    (hsheds : (Stage.guard head wrapped).Sheds) (horderly : head.Orderly wrapped.outlet)
    (hstep : head.step (wrapped.sight world.disk head.input) world.receipts = some step) :
    (Stage.guard step.guard (wrapped.obey step.receipts step.demand).1).Sheds := by
  obtain ⟨hgone, hwrapped⟩ := hsheds
  cases Guard.stepCase_of_step hstep with
  | rebuilt _ _ _ _ hbuild =>
      exact ⟨by simp, .of_isFresh (Stage.isFresh_of_build (Stage.build_of_rebuild hbuild))⟩
  | inputEnded =>
      refine ⟨fun _ => ?_, hwrapped.withOutlet _⟩
      rw [Stage.obey, Stage.outlet_letGo]
      exact .letGo ..
  | received hphase | receivedCandidate hphase =>
      have hcurrent : head.current = true := horderly.reading (by rw [hphase]; rfl)
      exact ⟨by simp [hcurrent], hwrapped.withOutlet _⟩
  | askedToClose _ hcurrent => exact ⟨by simp [Guard.enter, hcurrent], hwrapped.withOutlet _⟩
  | _ => exact ⟨hgone, hwrapped⟩

theorem Stage.Sheds.step (hsheds : stage.Sheds) (hcan : stage.CanClose)
    (horderly : stage.Orderly) (hstep : stage.step world level = some move) :
    move.stage.Sheds := by
  induction Stage.stepCase_of_step hstep with
  | pump => trivial
  | guard hguard => exact hsheds.step_guard horderly.1 hguard
  | inside hinner _ ih =>
      obtain ⟨hgone, hwrapped⟩ := hsheds
      exact ⟨fun hcurrent => hcan.2.forgone_step (hgone hcurrent) hinner,
        ih hwrapped hcan.2 horderly.2 hinner⟩

namespace Stage.CanWindUp

theorem of_isFresh (hfresh : stage.IsFresh) : stage.CanWindUp :=
  ⟨.of_isFresh hfresh, .of_isFresh hfresh, .of_isFresh hfresh⟩

theorem close (hstage : stage.CanWindUp) : stage.close.CanWindUp :=
  ⟨hstage.canClose.close, hstage.orderly.close, hstage.sheds.withOutlet _⟩

theorem letGo (hstage : stage.CanWindUp) (receipts : Receipts) :
    (stage.letGo receipts).1.CanWindUp :=
  ⟨hstage.canClose.letGo _, hstage.orderly.letGo _, hstage.sheds.withOutlet _⟩

theorem step (hstage : stage.CanWindUp) (hstep : stage.step world level = some move) :
    move.stage.CanWindUp :=
  ⟨hstage.canClose.step hstep, hstage.orderly.step hstep,
    hstage.sheds.step hstage.canClose hstage.orderly hstep⟩

/-- A stage that is replaced was let go of, and its workers can wind up by themselves. -/
theorem replaced (hstage : stage.CanWindUp) (hstep : stage.step world level = some move)
    (hrebuilt : move.event = .guard .rebuilt) :
    ∃ old, stage.inner? (level + 1) = some old ∧ old.CanWindUp ∧ old.outlet.Forgone := by
  induction Stage.stepCase_of_step hstep with
  | pump => simp at hrebuilt
  | @guard head wrapped step hguard =>
      obtain ⟨hcan, horderly, hsheds⟩ := hstage
      refine ⟨wrapped, rfl, ⟨hcan.2, horderly.2, hsheds.2⟩, ?_⟩
      cases Guard.stepCase_of_step hguard with
      | rebuilt _ _ hcurrent => exact hsheds.1 hcurrent
      | _ => simp at hrebuilt
  | inside hinner _ ih =>
      obtain ⟨hcan, horderly, hsheds⟩ := hstage
      exact ih ⟨hcan.2, horderly.2, hsheds.2⟩ hinner hrebuilt

end Stage.CanWindUp

end Steps

/-! ## One step closer to the end -/

theorem Pump.finished_of_rank {pump : Pump} (hrank : pump.rank = 0) : pump.phase = .finished := by
  unfold rank at hrank
  split at hrank <;> first | assumption | omega

theorem GuardPhase.finished_of_rank {phase : GuardPhase} (hrank : phase.rank = 0) :
    ∃ exit, phase = .finished exit := by
  cases phase <;> simp_all [rank]

theorem Stage.CanClose.closed_of_rank {stage : Stage} (hcan : stage.CanClose)
    (hrank : stage.rank = 0) : stage.isClosed = true := by
  cases stage with
  | pump leaf => exact Pump.CanClose.finished hcan (Pump.finished_of_rank hrank)
  | guard head wrapped =>
      simp only [Stage.rank, Nat.add_eq_zero_iff] at hrank
      obtain ⟨exit, hphase⟩ := GuardPhase.finished_of_rank hrank.1
      exact hcan.1.finished exit hphase

/-- Where nobody has a step left, everybody has confirmed. -/
theorem Stage.CanClose.all_closed_of_rank {stage inside : Stage} {level : Nat}
    (hcan : stage.CanClose) (hrank : stage.rank = 0)
    (hinside : stage.inner? level = some inside) : inside.isClosed = true := by
  have hboth : inside.CanClose ∧ inside.rank = 0 := by
    refine Stage.at_level (motive := fun stage => stage.CanClose ∧ stage.rank = 0) ?_
      ⟨hcan, hrank⟩ hinside
    rintro head wrapped ⟨⟨_, hwrapped⟩, hzero⟩
    simp only [Stage.rank, Nat.add_eq_zero_iff] at hzero
    exact ⟨hwrapped, hzero.2⟩
  exact hboth.1.closed_of_rank hboth.2

/-- A guard that stops puts no fresh input in place. -/
theorem Guard.StepCase.ne_rebuilt {σ : Type} {sight : Sight σ} {receipts : Receipts}
    {guard : Guard} {move : GuardMove σ} (hcase : guard.StepCase sight receipts move)
    (hstops : guard.outlet.shutdown.requested = true ∨ guard.phase.stops = true) :
    move.event ≠ .rebuilt := by
  cases hcase with
  | rebuilt hphase hopen => simp [hphase, hopen, GuardPhase.stops] at hstops
  | _ => simp

/-- As long as anyone in a stage that stops has not come to the end, someone has a step
that brings the stage closer to it and puts nothing in place. -/
theorem Stage.CanWindUp.exists_descent {stage : Stage} (hstage : stage.CanWindUp)
    (world : World) (hstops : stage.Stops) (hrank : stage.rank ≠ 0) :
    ∃ level move, stage.step world level = some move ∧ move.stage.rank < stage.rank ∧
      move.event ≠ .guard .rebuilt := by
  induction stage with
  | pump leaf =>
      have hplain : leaf.outlet.shutdown.IsPlain := Pump.CanClose.plain hstage.canClose
      have hphase : leaf.phase ≠ .finished := by
        intro hfinished
        simp [Stage.rank, Pump.rank, hfinished] at hrank
      obtain ⟨move, hstep, hless, _, _⟩ :=
        Pump.exists_descent world.receipts world.stdin (hstops.imp_left hplain.trans) hphase
      exact ⟨0, ⟨.pump leaf.kind move.event, .pump move.pump, move.receipts, move.stdin⟩,
        by simp [Stage.step, hstep], hless, by simp⟩
  | guard head wrapped ih =>
      obtain ⟨⟨hhead, hcan⟩, ⟨hstands, horderly⟩, hgone, hsheds⟩ := hstage
      -- a step further inside is a step of the whole
      have hinside : wrapped.outlet.shutdown.requested = true → wrapped.rank ≠ 0 →
          ∃ level move, (Stage.guard head wrapped).step world level = some move ∧
            move.stage.rank < (Stage.guard head wrapped).rank ∧
              move.event ≠ .guard .rebuilt := by
        intro hrequested hleft
        obtain ⟨level, move, hstep, hless, hevent⟩ :=
          ih ⟨hcan, horderly, hsheds⟩ (Stage.stops_of_requested hrequested) hleft
        refine ⟨level + 1, { move with stage := .guard head move.stage },
          by simp [Stage.step, hstep], ?_, hevent⟩
        simp only [Stage.rank]
        omega
      by_cases hfinished : ∃ exit, head.phase = .finished exit
      · -- whether the guard still had its input or not, it has asked it to close
        obtain ⟨exit, hphase⟩ := hfinished
        apply hinside
        · cases hcurrent : head.current with
          | true => exact hstands.asked hcurrent (by rw [hphase]; rfl)
          | false => exact (hgone hcurrent).requested
        · simpa [Stage.rank, GuardPhase.rank, hphase] using hrank
      push Not at hfinished
      by_cases hready : ∀ exit, head.phase = .closing exit → wrapped.isClosed = true
      · obtain ⟨move, hstep, hdescends⟩ :=
          head.exists_descent hhead.plain hstops hfinished hready
        refine ⟨0, move, hstep, hdescends.rank, ?_⟩
        obtain ⟨step, hguard, rfl⟩ := Stage.step_zero_guard hstep
        simpa using (Guard.stepCase_of_step hguard).ne_rebuilt hstops
      · push Not at hready
        obtain ⟨exit, hclosing, hwaiting⟩ := hready
        apply hinside (hhead.closing exit hclosing)
        intro hzero
        exact hwaiting (hcan.closed_of_rank hzero)

/-! ## Groves -/

/-- All stages that were ever part of a tree of stages: the tree as it is now, then those
that guards have replaced. -/
structure Grove where
  stages : List Stage
  world : World

/-- What can happen in a grove that nobody holds. -/
inductive GroveMove where
  /-- The worker at a level of one of the stages takes a step. -/
  | work (index level : Nat)
  /-- The files change. -/
  | rewrite (disk : Disk)

/-- The stage that a step of the worker at a level puts another one in place of. -/
def StageMove.replaced? (move : StageMove) (stage : Stage) (level : Nat) : Option Stage :=
  if move.event = .guard .rebuilt then stage.inner? (level + 1) else none

namespace Grove

def plant (stage : Stage) (world : World) : Grove := ⟨[stage], world⟩

/-- A step of a worker, if it has one.  A stage that is replaced stays in the grove. -/
def work (grove : Grove) (index level : Nat) : Option Grove :=
  grove.stages[index]?.bind fun stage =>
    (stage.step grove.world level).map fun move =>
      { stages := grove.stages.set index move.stage ++ (move.replaced? stage level).toList
        world := { grove.world with receipts := move.receipts, stdin := move.stdin } }

def perform (grove : Grove) : GroveMove → Grove
  | .work index level => (grove.work index level).getD grove
  | .rewrite disk => { grove with world := { grove.world with disk } }

def performAll (grove : Grove) (moves : List GroveMove) : Grove := moves.foldl perform grove

def workAll (grove : Grove) : List (Nat × Nat) → Option Grove
  | [] => some grove
  | (index, level) :: rest => (grove.work index level).bind fun after => after.workAll rest

/-- The one who planted the tree asks it to close. -/
def close (grove : Grove) : Grove :=
  { grove with stages := grove.stages.modifyHead Stage.close }

/-- The one who planted the tree lets go of it. -/
def letGo (grove : Grove) : Grove :=
  match grove.stages with
  | [] => grove
  | root :: rest =>
      { stages := (root.letGo grove.world.receipts).1 :: rest
        world := { grove.world with receipts := (root.letGo grove.world.receipts).2 } }

/-- How much the workers have left to do at most. -/
def rank (grove : Grove) : Nat := (grove.stages.map Stage.rank).sum

/-- Every stage can be wound up, and nobody holds those that stand `first` or later. -/
structure Tended (grove : Grove) (first : Nat) : Prop where
  rooted : grove.stages ≠ []
  canWindUp : ∀ stage ∈ grove.stages, stage.CanWindUp
  forgone : ∀ index stage, grove.stages[index]? = some stage → first ≤ index →
    stage.outlet.Forgone

section Tended

variable {grove : Grove} {first : Nat}

theorem Tended.work (htended : grove.Tended first) {index level : Nat}
    {after : Grove} (hwork : grove.work index level = some after) : after.Tended first := by
  obtain ⟨hrooted, hcan, hforgone⟩ := htended
  unfold Grove.work at hwork
  obtain ⟨stage, hstage, hmove⟩ := Option.bind_eq_some_iff.mp hwork
  obtain ⟨move, hstep, rfl⟩ := Option.map_eq_some_iff.mp hmove
  have hmem : stage ∈ grove.stages := List.mem_of_getElem? hstage
  have hreplaced : ∀ old ∈ move.replaced? stage level,
      old.CanWindUp ∧ old.outlet.Forgone := by
    intro old hold
    unfold StageMove.replaced? at hold
    split at hold
    · next hrebuilt =>
        obtain ⟨other, hother, hboth⟩ := (hcan stage hmem).replaced hstep hrebuilt
        obtain rfl := Option.some.inj (hother.symm.trans hold)
        exact hboth
    · simp at hold
  refine ⟨by simp [hrooted], ?_, ?_⟩
  · intro other hother
    rcases List.mem_append.mp hother with hset | hnew
    · rcases List.mem_or_eq_of_mem_set hset with hold | rfl
      · exact hcan other hold
      · exact (hcan stage hmem).step hstep
    · exact (hreplaced other (by simpa using hnew)).1
  · intro place other hother hplace
    by_cases hinside : place < grove.stages.length
    · rw [List.getElem?_append_left (by simpa using hinside)] at hother
      by_cases hsame : index = place
      · subst place
        rw [List.getElem?_set_self hinside] at hother
        obtain rfl := Option.some.inj hother
        exact (hcan stage hmem).canClose.forgone_step (hforgone index stage hstage hplace) hstep
      · rw [List.getElem?_set_ne hsame] at hother
        exact hforgone place other hother hplace
    · rw [List.getElem?_append_right (by simpa using hinside)] at hother
      exact (hreplaced other (by simpa using List.mem_of_getElem? hother)).2

theorem Tended.perform (htended : grove.Tended first)
    (move : GroveMove) : (grove.perform move).Tended first := by
  cases move with
  | rewrite disk => exact ⟨htended.rooted, htended.canWindUp, htended.forgone⟩
  | work index level =>
      cases hwork : grove.work index level with
      | none => simpa [Grove.perform, hwork] using htended
      | some after => simpa [Grove.perform, hwork] using htended.work hwork

theorem Tended.performAll (htended : grove.Tended first)
    (moves : List GroveMove) : (grove.performAll moves).Tended first := by
  induction moves generalizing grove with
  | nil => exact htended
  | cons move rest ih => exact ih (htended.perform move)

theorem Tended.plant {stage : Stage} (hfresh : stage.IsFresh) (world : World) :
    (plant stage world).Tended 1 := by
  refine ⟨by simp [Grove.plant], ?_, ?_⟩
  · intro other hother
    obtain rfl := List.mem_singleton.mp hother
    exact .of_isFresh hfresh
  · intro index other hother hindex
    obtain ⟨hless, _⟩ := List.getElem?_eq_some_iff.mp hother
    simp [Grove.plant] at hless
    omega

theorem Tended.close (htended : grove.Tended 1) : grove.close.Tended 1 := by
  obtain ⟨hrooted, hcan, hforgone⟩ := htended
  unfold Grove.close
  cases hstages : grove.stages with
  | nil => exact absurd hstages hrooted
  | cons root rest =>
      rw [hstages] at hcan hforgone
      refine ⟨by simp, ?_, ?_⟩
      · intro other hother
        rcases List.mem_cons.mp hother with rfl | hrest
        · exact (hcan root List.mem_cons_self).close
        · exact hcan other (List.mem_cons_of_mem root hrest)
      · intro index other hother hindex
        obtain ⟨place, rfl⟩ : ∃ place, index = place + 1 := ⟨index - 1, by omega⟩
        exact hforgone (place + 1) other (by simpa using hother) hindex

/-- Once the root is let go of, nobody holds anything. -/
theorem Tended.letGo (htended : grove.Tended 1) : grove.letGo.Tended 0 := by
  obtain ⟨hrooted, hcan, hforgone⟩ := htended
  unfold Grove.letGo
  cases hstages : grove.stages with
  | nil => exact absurd hstages hrooted
  | cons root rest =>
      rw [hstages] at hcan hforgone
      refine ⟨by simp, ?_, ?_⟩
      · intro other hother
        rcases List.mem_cons.mp hother with rfl | hrest
        · exact (hcan root List.mem_cons_self).letGo _
        · exact hcan other (List.mem_cons_of_mem root hrest)
      · intro index other hother _
        cases index with
        | zero =>
            obtain rfl : (root.letGo grove.world.receipts).1 = other := by simpa using hother
            rw [Stage.outlet_letGo]
            exact .letGo ..
        | succ place => exact hforgone (place + 1) other (by simpa using hother) (by omega)

end Tended

/-! ## The workers alone -/

section Descent

variable {grove : Grove}

theorem rank_set {stages : List Stage} {index : Nat} {stage after : Stage}
    (hstage : stages[index]? = some stage) (hless : after.rank < stage.rank) :
    ((stages.set index after).map Stage.rank).sum < (stages.map Stage.rank).sum := by
  induction stages generalizing index with
  | nil => simp at hstage
  | cons first rest ih =>
      cases index with
      | zero =>
          obtain rfl : first = stage := by simpa using hstage
          simpa using hless
      | succ index => simpa using ih (by simpa using hstage)

theorem exists_left {stages : List Stage} (hrank : (stages.map Stage.rank).sum ≠ 0) :
    ∃ (index : Nat) (stage : Stage), stages[index]? = some stage ∧ stage.rank ≠ 0 := by
  by_contra hnone
  push Not at hnone
  apply hrank
  rw [List.sum_eq_zero_iff]
  intro rank hmem
  obtain ⟨stage, hstage, rfl⟩ := List.mem_map.mp hmem
  obtain ⟨index, hindex⟩ := List.mem_iff_getElem?.mp hstage
  exact hnone index stage hindex

/-- As long as anyone has something left to do, someone has a step that leaves less. -/
theorem Tended.exists_descent (htended : grove.Tended 0) (hrank : grove.rank ≠ 0) :
    ∃ index level after, grove.work index level = some after ∧ after.rank < grove.rank ∧
      after.stages.length = grove.stages.length := by
  obtain ⟨index, stage, hstage, hleft⟩ := exists_left hrank
  have hforgone := htended.forgone index stage hstage (Nat.zero_le _)
  obtain ⟨level, move, hstep, hless, hevent⟩ :=
    (htended.canWindUp stage (List.mem_of_getElem? hstage)).exists_descent grove.world
      (Stage.stops_of_requested hforgone.requested) hleft
  have hwork : grove.work index level = some
      { stages := grove.stages.set index move.stage
        world := { grove.world with receipts := move.receipts, stdin := move.stdin } } := by
    simp [Grove.work, hstage, hstep, StageMove.replaced?, hevent]
  exact ⟨index, level, _, hwork, rank_set hstage hless, List.length_set⟩

/-- The workers alone can bring every stage in the grove to confirm that it has closed. -/
theorem Tended.exists_workAll (htended : grove.Tended 0) :
    ∃ steps final, grove.workAll steps = some final ∧
      final.stages.length = grove.stages.length ∧
        ∀ stage ∈ final.stages, ∀ level inside, stage.inner? level = some inside →
          inside.isClosed = true := by
  induction hrank : grove.rank using Nat.strong_induction_on generalizing grove with
  | _ rank ih =>
      by_cases hzero : grove.rank = 0
      · refine ⟨[], grove, rfl, rfl, fun stage hstage level inside hinside => ?_⟩
        have hdone : stage.rank = 0 :=
          List.sum_eq_zero_iff.mp hzero stage.rank (List.mem_map_of_mem hstage)
        exact (htended.canWindUp stage hstage).canClose.all_closed_of_rank hdone hinside
      · obtain ⟨index, level, after, hwork, hless, hlength⟩ := htended.exists_descent hzero
        obtain ⟨steps, final, hall, hsame, hclosed⟩ :=
          ih after.rank (by omega) (htended.work hwork) rfl
        refine ⟨(index, level) :: steps, final, ?_, hsame.trans hlength, hclosed⟩
        simp [workAll, hwork, hall]

end Descent

/-- What holds of a grove that nobody holds. -/
structure WindsUp (grove : Grove) : Prop where
  asked : ∃ root, grove.stages[0]? = some root ∧ root.outlet.shutdown.requested = true
  /-- Nothing lies in an outlet at the top, and whoever received there would get the end. -/
  silent : ∀ stage ∈ grove.stages, stage.outlet.slot = none ∧ stage.outlet.offer = .ended
  /-- The workers can bring every stage to confirm that it has closed, at all levels. -/
  closes : ∃ steps final, grove.workAll steps = some final ∧
    final.stages.length = grove.stages.length ∧
      ∀ stage ∈ final.stages, ∀ level inside, stage.inner? level = some inside →
        inside.isClosed = true

theorem Tended.windsUp {grove : Grove} (htended : grove.Tended 0) : grove.WindsUp := by
  refine ⟨?_, ?_, htended.exists_workAll⟩
  · cases hstages : grove.stages with
    | nil => exact absurd hstages htended.rooted
    | cons root rest =>
        have hroot : grove.stages[0]? = some root := by simp [hstages]
        exact ⟨root, rfl, (htended.forgone 0 root hroot (Nat.zero_le _)).requested⟩
  · intro stage hstage
    obtain ⟨index, hindex⟩ := List.mem_iff_getElem?.mp hstage
    have hforgone := htended.forgone index stage hindex (Nat.zero_le _)
    exact ⟨hforgone.empty, hforgone.offer_eq⟩

end Grove

/-! ## Builds that fail -/

section Builds

variable {disk : Disk} {runtime : Bool} {config : InputConfig} {failure : BuildFailure}

theorem Stage.build_ne_ok_of_no_runtime (disk : Disk) (input : InputConfig) (stage : Stage) :
    Stage.build disk false input ≠ .ok stage := by
  cases input with
  | file path multipart =>
      rw [Stage.build]
      split <;> simp
  | stdin multipart => simp [Stage.build]
  | memory messages => simp [Stage.build]
  | readUntil wrapped restart condition => cases wrapped <;> simp [Stage.build]

/-- What a failed build leaves behind: nothing, where no input inside could be built, or else
the outermost input that could be, let go of. -/
theorem Stage.orphan_of_build (hbuild : Stage.build disk runtime config = .error failure) :
    (failure.orphan = none ∧
        ∀ inner ∈ config.wrapped, ∀ stage, Stage.build disk runtime inner ≠ .ok stage) ∨
      ∃ outer inner rest wrapped, config.wrapped = outer ++ inner :: rest ∧
        (∀ around ∈ outer, ∀ stage, Stage.build disk runtime around ≠ .ok stage) ∧
          Stage.build disk runtime inner = .ok wrapped ∧
            failure.orphan = some (wrapped.letGo {}).1 := by
  fun_induction Stage.build disk runtime config generalizing failure with
  | case2 | case4 | case6 | case12 => simp at hbuild
  | case1 | case3 | case5 | case7 | case8 =>
      obtain rfl := Except.error.inj hbuild
      exact .inl ⟨rfl, by simp [InputConfig.wrapped]⟩
  | case9 input restart condition hruntime =>
      obtain rfl := Except.error.inj hbuild
      obtain rfl : runtime = false := by simpa using hruntime
      exact .inl ⟨rfl, fun inner _ stage => build_ne_ok_of_no_runtime disk inner stage⟩
  | case10 input restart condition hruntime inside hinside ih =>
      obtain rfl := Except.error.inj hbuild
      have hinput : ∀ stage, Stage.build disk runtime input ≠ .ok stage := by simp [hinside]
      rcases ih hinside with
        ⟨hnone, hfail⟩ | ⟨outer, inner, rest, wrapped, hsplit, hfail, hrest⟩
      · left
        refine ⟨hnone, fun inner hinner => ?_⟩
        rcases List.mem_cons.mp hinner with rfl | hdeeper
        · exact hinput
        · exact hfail inner hdeeper
      · right
        refine ⟨input :: outer, inner, rest, wrapped, by simp [InputConfig.wrapped, hsplit],
          fun around haround => ?_, hrest⟩
        rcases List.mem_cons.mp haround with rfl | hdeeper
        · exact hinput
        · exact hfail around hdeeper
  | case11 input restart condition hruntime wrapped hwrapped =>
      obtain rfl := Except.error.inj hbuild
      exact .inr ⟨[], input, input.wrapped, wrapped, rfl, by simp, hwrapped, rfl⟩

/-- Asking the root to close before letting go of it makes no difference to it. -/
theorem Grove.letGo_close_plant (stage : Stage) (world : World) :
    (Grove.plant stage world).close.letGo.stages = [(stage.letGo {}).1] := by
  have hoften : ∀ shutdown : Shutdown, shutdown.request.request = shutdown.request := by
    intro shutdown
    cases hrequested : shutdown.requested <;>
      simp [Shutdown.request, Shutdown.requestClose, hrequested]
  cases stage <;>
    simp [Grove.plant, Grove.close, Grove.letGo, Stage.letGo, Stage.close, Stage.withOutlet,
      Stage.outlet, Outlet.letGo, Outlet.close, hoften]

/-- **A failed build leaves nothing running.**  Where an input cannot be built, either nothing
inside has been started, or the outermost input inside that has been is let go of by the
time the error is reported.  Whatever its workers do before it is asked to close, between
that and being let go of, and after it: it has been asked to close, nobody receives
anything, and its workers can bring all of it to an end. -/
theorem failed_build_winds_up (hbuild : Stage.build disk runtime config = .error failure) :
    (failure.orphan = none ∧
        ∀ inner ∈ config.wrapped, ∀ stage, Stage.build disk runtime inner ≠ .ok stage) ∨
      ∃ outer inner rest wrapped orphan, config.wrapped = outer ++ inner :: rest ∧
        (∀ around ∈ outer, ∀ stage, Stage.build disk runtime around ≠ .ok stage) ∧
          Stage.build disk runtime inner = .ok wrapped ∧ failure.orphan = some orphan ∧
            ∀ world, (Grove.plant wrapped world).close.letGo.stages = [orphan] ∧
              ∀ before between after : List GroveMove,
                ((((((Grove.plant wrapped world).performAll before).close).performAll
                  between).letGo).performAll after).WindsUp := by
  rcases Stage.orphan_of_build hbuild with
    hnothing | ⟨outer, inner, rest, wrapped, hsplit, hfail, hwrapped, horphan⟩
  · exact .inl hnothing
  · right
    refine ⟨outer, inner, rest, wrapped, _, hsplit, hfail, hwrapped, horphan, fun world =>
      ⟨Grove.letGo_close_plant wrapped world, fun before between after => ?_⟩⟩
    have hplanted := Grove.Tended.plant (Stage.isFresh_of_build hwrapped) world
    have hclosed := (hplanted.performAll before).close
    have hleft := (hclosed.performAll between).letGo
    exact (hleft.performAll after).windsUp

/-- The outer of two guards around a list has a condition with an unknown operator. -/
theorem failed_build_winds_up_of_unknown_operator :
    ∃ (inner : InputConfig) (failure : BuildFailure) (wrapped : Stage),
      inner = .readUntil (some (.memory ["a"])) true (.static true) ∧
        Stage.build (fun _ => .error .notFound) true
            (.readUntil (some inner) false (.content "resembles" 0 "a")) = .error failure ∧
          Stage.build (fun _ => .error .notFound) true inner = .ok wrapped ∧
            ∀ (world : World) (before between after : List GroveMove),
              ((((((Grove.plant wrapped world).performAll before).close).performAll
                between).letGo).performAll after).WindsUp := by
  obtain ⟨inner, hinner⟩ : ∃ inner : InputConfig,
      inner = .readUntil (some (.memory ["a"])) true (.static true) := ⟨_, rfl⟩
  obtain ⟨wrapped, hwrapped⟩ : ∃ wrapped,
      Stage.build (fun _ => .error .notFound) true inner = .ok wrapped := by
    subst hinner
    exact ⟨_, rfl⟩
  obtain ⟨failure, hbuild⟩ : ∃ failure, Stage.build (fun _ => .error .notFound) true
      (.readUntil (some inner) false (.content "resembles" 0 "a")) = .error failure := by
    subst hinner
    exact ⟨_, rfl⟩
  refine ⟨inner, failure, wrapped, hinner, hbuild, hwrapped,
    fun world before between after => ?_⟩
  rcases failed_build_winds_up hbuild with
    ⟨_, hnothing⟩ | ⟨outer, other, rest, stage, _, hsplit, hfail, hstage, _, hrun⟩
  · exact absurd hwrapped (hnothing inner (by simp [InputConfig.wrapped]) wrapped)
  · -- the inner guard is the outermost input that could be built
    cases outer with
    | cons first more =>
        obtain rfl : inner = first := (List.cons.inj hsplit).1
        exact absurd hwrapped (hfail inner List.mem_cons_self wrapped)
    | nil =>
        obtain rfl : inner = other := (List.cons.inj hsplit).1
        obtain rfl : stage = wrapped := Except.ok.inj (hstage.symm.trans hwrapped)
        exact (hrun world).2 before between after

end Builds

end Intake
