import Intake.Proofs.GuardEnding
import Intake.Proofs.StageFlight

/-!
# How stages wind up

A worker lets go of its outlet before it confirms that it has closed, and a guard
that still has its input does neither before that input has confirmed.  An input
that a guard has let go of had released its outlet by then.  So all workers below
one that has let go of its outlet have let go of theirs, and nothing is put there any
more.
-/

namespace Intake

/-! ## How far a worker has come -/

def PumpPhase.hasReleased : PumpPhase → Bool
  | .confirming | .finished => true
  | _ => false

def PumpPhase.hasConfirmed : PumpPhase → Bool
  | .finished => true
  | _ => false

namespace GuardPhase

/-- Whether a guard in a phase has asked its input to close, if it has one. -/
def hasAsked : GuardPhase → Bool
  | .closing _ | .stopping _ | .releasing _ | .confirming _ | .finished _ => true
  | _ => false

/-- Whether a guard in a phase has waited for its input to close, if it has one. -/
def hasAwaited : GuardPhase → Bool
  | .stopping _ | .releasing _ | .confirming _ | .finished _ => true
  | _ => false

def hasReleased : GuardPhase → Bool
  | .confirming _ | .finished _ => true
  | _ => false

def hasConfirmed : GuardPhase → Bool
  | .finished _ => true
  | _ => false

theorem hasAwaited_of_hasReleased {phase : GuardPhase} (hreleased : phase.hasReleased = true) :
    phase.hasAwaited = true := by
  cases phase <;> simp_all [hasReleased, hasAwaited]

theorem hasReleased_of_hasConfirmed {phase : GuardPhase} (hconfirmed : phase.hasConfirmed = true) :
    phase.hasReleased = true := by
  cases phase <;> simp_all [hasConfirmed, hasReleased]

end GuardPhase

structure Pump.Orderly (pump : Pump) : Prop where
  released : pump.outlet.released = pump.phase.hasReleased
  closed : pump.outlet.shutdown.closed = pump.phase.hasConfirmed

/-- How a guard stands to the input inside, seen through its outlet. -/
structure Guard.Orderly (guard : Guard) (inside : Outlet) : Prop where
  released : guard.outlet.released = guard.phase.hasReleased
  closed : guard.outlet.shutdown.closed = guard.phase.hasConfirmed
  reading : guard.phase.isReading = true → guard.current = true
  running : guard.current = true → guard.phase.hasAsked = false →
    inside.isClosing = false ∧ inside.refused = false
  asked : guard.current = true → guard.phase.hasAsked = true →
    inside.shutdown.requested = true
  awaited : guard.current = true → guard.phase.hasAwaited = true →
    inside.shutdown.closed = true
  /-- An input that the guard has let go of had come to its end. -/
  retired : guard.current = false → inside.released = true
  waiting : ∀ exit, guard.phase = .closing exit → guard.current = true

def Stage.Orderly : Stage → Prop
  | .pump leaf => leaf.Orderly
  | .guard head wrapped => head.Orderly wrapped.outlet ∧ wrapped.Orderly

/-! ## Outlets -/

/-- What may become of an outlet whose worker puts nothing in any more. -/
structure Outlet.Fades (before after : Outlet) : Prop where
  slot : after.slot = none ∨ after.slot = before.slot
  released : before.released = true → after.released = true
  closed : before.shutdown.closed = true → after.shutdown.closed = true

namespace Outlet

theorem Fades.refl (outlet : Outlet) : outlet.Fades outlet := ⟨.inr rfl, id, id⟩

theorem Fades.trans {first second third : Outlet} (hfirst : first.Fades second)
    (hsecond : second.Fades third) : first.Fades third := by
  refine ⟨?_, hsecond.released ∘ hfirst.released, hsecond.closed ∘ hfirst.closed⟩
  rcases hsecond.slot with hnone | hsame
  · exact .inl hnone
  · rw [hsame]
    exact hfirst.slot

theorem fades_take (outlet : Outlet) (receipts : Receipts) :
    outlet.Fades (outlet.take receipts).1 :=
  ⟨.inl (by simp), by simp, by simp⟩

theorem fades_close (outlet : Outlet) : outlet.Fades outlet.close :=
  ⟨.inr rfl, id, by simp⟩

theorem fades_letGo (outlet : Outlet) (receipts : Receipts) :
    outlet.Fades (outlet.letGo receipts).1 :=
  ⟨.inl rfl, id, by simp⟩

theorem refused_take_of_running {outlet : Outlet} (hrunning : outlet.isClosing = false)
    (receipts : Receipts) : (outlet.take receipts).1.refused = outlet.refused := by
  simp [take, hrunning]

theorem released_of_ended {outlet : Outlet} (hoffer : outlet.offer = .ended)
    (hrunning : outlet.isClosing = false) (haccepting : outlet.refused = false) :
    outlet.released = true := by
  unfold offer at hoffer
  rw [hrunning, haccepting] at hoffer
  cases hslot : outlet.slot with
  | some transaction => simp [hslot] at hoffer
  | none => simpa [hslot] using hoffer

end Outlet

/-! ## Order is kept -/

section Steps

variable {world : World} {stage : Stage} {level : Nat} {move : StageMove}

theorem Stage.refused_step (hstep : stage.step world level = some move) :
    move.stage.outlet.refused = stage.outlet.refused := by
  cases Stage.stepCase_of_step hstep with
  | pump hpump => cases Pump.stepCase_of_step hpump <;> rfl
  | guard hguard => cases Guard.stepCase_of_step hguard <;> rfl
  | inside => rfl

theorem Stage.released_step (hstep : stage.step world level = some move)
    (hreleased : stage.outlet.released = true) : move.stage.outlet.released = true := by
  cases Stage.stepCase_of_step hstep with
  | pump hpump =>
      cases Pump.stepCase_of_step hpump with
      | released => rfl
      | _ => exact hreleased
  | guard hguard =>
      cases Guard.stepCase_of_step hguard with
      | released => rfl
      | _ => exact hreleased
  | inside => exact hreleased

theorem Stage.closed_step (hstep : stage.step world level = some move)
    (hclosed : stage.isClosed = true) : move.stage.isClosed = true := by
  unfold Stage.isClosed at hclosed ⊢
  rcases Stage.shutdown_step hstep with hsame | hconfirmed
  · rwa [hsame]
  · rw [hconfirmed, Shutdown.confirm_closed]

theorem Pump.Orderly.step {receipts : Receipts} {stdin : ByteSource} {pump : Pump}
    {move : PumpMove} (horderly : pump.Orderly) (hstep : pump.step receipts stdin = some move) :
    move.pump.Orderly := by
  obtain ⟨hreleased, hclosed⟩ := horderly
  cases Pump.stepCase_of_step hstep with
  | released hphase =>
      refine ⟨rfl, ?_⟩
      simpa [hphase, PumpPhase.hasConfirmed, Outlet.release] using hclosed
  | confirmed hphase =>
      refine ⟨?_, rfl⟩
      simpa [hphase, PumpPhase.hasReleased, Outlet.confirm] using hreleased
  | turnAway hphase | turnToSource hphase | readOn hphase | ended hphase | failed hphase
  | pulled hphase | giveUp hphase | sent hphase | withdrew hphase | acknowledged hphase
  | rejected hphase | dropped hphase =>
      constructor <;>
        simp_all [Pump.enter, PumpPhase.hasReleased, PumpPhase.hasConfirmed, Outlet.put]

/-- What the guard knows of its input stays true when the input moves on by itself. -/
theorem Guard.Orderly.elsewhere {guard : Guard} {inside after : Outlet}
    (horderly : guard.Orderly inside) (hclosing : after.isClosing = inside.isClosing)
    (hrefused : after.refused = inside.refused)
    (hrequested : after.shutdown.requested = inside.shutdown.requested)
    (hreleased : inside.released = true → after.released = true)
    (hclosed : inside.shutdown.closed = true → after.shutdown.closed = true) :
    guard.Orderly after where
  released := horderly.released
  closed := horderly.closed
  reading := horderly.reading
  running hcurrent hasked := by
    rw [hclosing, hrefused]
    exact horderly.running hcurrent hasked
  asked hcurrent hasked := by
    rw [hrequested]
    exact horderly.asked hcurrent hasked
  awaited hcurrent hawaited := hclosed (horderly.awaited hcurrent hawaited)
  retired hcurrent := hreleased (horderly.retired hcurrent)
  waiting := horderly.waiting

/-- As long as a guard does not turn to its input for the last time, it stands to it as
before. -/
theorem Guard.Orderly.keep {guard next : Guard} {inside : Outlet}
    (horderly : guard.Orderly inside) (hbefore : guard.phase.hasAsked = false)
    (hafter : next.phase.hasAsked = false) (hcurrent : next.current = guard.current)
    (hreleased : next.outlet.released = guard.outlet.released)
    (hclosed : next.outlet.shutdown.closed = guard.outlet.shutdown.closed)
    (hreading : next.phase.isReading = true → guard.current = true) : next.Orderly inside := by
  have hphases : ∀ phase : GuardPhase, phase.hasAsked = false →
      phase.hasAwaited = false ∧ phase.hasReleased = false ∧ phase.hasConfirmed = false := by
    intro phase hasked
    cases phase <;> simp_all [GuardPhase.hasAsked, GuardPhase.hasAwaited,
      GuardPhase.hasReleased, GuardPhase.hasConfirmed]
  obtain ⟨_, hunreleased, hunconfirmed⟩ := hphases _ hbefore
  obtain ⟨hunawaited, hkept, hopen⟩ := hphases _ hafter
  refine ⟨?_, ?_, fun hread => hcurrent.trans (hreading hread), fun hinput _ => ?_, ?_, ?_, ?_,
    fun exit hphase => ?_⟩
  · rw [hreleased, horderly.released, hunreleased, hkept]
  · rw [hclosed, horderly.closed, hunconfirmed, hopen]
  · exact horderly.running (hcurrent.symm.trans hinput) hbefore
  · simp [hafter]
  · simp [hunawaited]
  · exact fun hinput => horderly.retired (hcurrent.symm.trans hinput)
  · simp [hphase, GuardPhase.hasAsked] at hafter

theorem Guard.Orderly.step {head : Guard} {wrapped : Stage} {step : GuardMove Stage}
    (horderly : head.Orderly wrapped.outlet)
    (hstep : head.step (wrapped.sight world.disk head.input) world.receipts = some step) :
    step.guard.Orderly (wrapped.obey step.receipts step.demand).1.outlet := by
  obtain ⟨hreleased, hclosed, hreading, hrunning, hasked, hawaited, hretired, _⟩ := id horderly
  cases Guard.stepCase_of_step hstep with
  | rebuilt hphase _ _ _ hbuild =>
      have hfresh := (Stage.isFresh_of_build (Stage.build_of_rebuild hbuild)).outlet_eq
      rw [hphase] at hreleased hclosed
      refine ⟨hreleased, hclosed, fun _ => rfl, fun _ _ => ?_, ?_, ?_, ?_, ?_⟩
      · rw [Stage.obey, hfresh]
        exact ⟨rfl, rfl⟩
      · simp [GuardPhase.hasAsked]
      · simp [GuardPhase.hasAwaited]
      · simp
      · simp
  | inputEnded hphase _ hoffer =>
      have hcurrent : head.current = true := hreading (by rw [hphase]; rfl)
      obtain ⟨hopen, haccepting⟩ := hrunning hcurrent (by rw [hphase]; rfl)
      have hgone := Outlet.released_of_ended hoffer hopen haccepting
      rw [hphase] at hreleased hclosed
      refine ⟨hreleased, hclosed, ?_, ?_, ?_, ?_, fun _ => ?_, ?_⟩
      · simp [GuardPhase.isReading]
      · simp
      · simp
      · simp
      · rw [Stage.obey, Stage.outlet_letGo]
        exact hgone
      · simp
  | received hphase | receivedCandidate hphase =>
      have hcurrent : head.current = true := hreading (by rw [hphase]; rfl)
      obtain ⟨hopen, haccepting⟩ := hrunning hcurrent (by rw [hphase]; rfl)
      rw [hphase] at hreleased hclosed
      refine ⟨hreleased, hclosed, fun _ => hcurrent, fun _ _ => ?_, ?_, ?_, ?_, ?_⟩
      · rw [Stage.obey, Stage.outlet_take, Outlet.isClosing_take,
          Outlet.refused_take_of_running hopen]
        exact ⟨hopen, haccepting⟩
      · simp [GuardPhase.hasAsked]
      · simp [GuardPhase.hasAwaited]
      · simp [hcurrent]
      · simp
  | askedToClose hphase hcurrent =>
      rw [hphase] at hreleased hclosed
      refine ⟨hreleased, hclosed, ?_, ?_, fun _ _ => ?_, ?_, ?_, fun _ _ => hcurrent⟩
      · simp [Guard.enter, GuardPhase.isReading]
      · simp [Guard.enter, GuardPhase.hasAsked]
      · simp [Stage.obey]
      · simp [Guard.enter, GuardPhase.hasAwaited]
      · simp [Guard.enter, hcurrent]
  | inputClosed hphase hconfirmed =>
      rw [hphase] at hreleased hclosed hasked
      refine ⟨hreleased, hclosed, ?_, ?_, fun hcurrent _ => hasked hcurrent rfl,
        fun _ _ => hconfirmed, hretired, ?_⟩
      · simp [Guard.enter, GuardPhase.isReading]
      · simp [Guard.enter, GuardPhase.hasAsked]
      · simp [Guard.enter]
  | leftAlone hphase hcurrent =>
      rw [hphase] at hreleased hclosed
      refine ⟨hreleased, hclosed, ?_, ?_, ?_, ?_, hretired, ?_⟩ <;>
        simp [Guard.enter, GuardPhase.isReading, hcurrent]
  | stopped hphase =>
      rw [hphase] at hreleased hclosed hasked hawaited
      refine ⟨hreleased, hclosed, ?_, ?_, hasked, hawaited, hretired, ?_⟩ <;>
        simp [Guard.enter, GuardPhase.isReading, GuardPhase.hasAsked]
  | released hphase =>
      rw [hphase] at hclosed hasked hawaited
      refine ⟨rfl, hclosed, ?_, ?_, hasked, hawaited, hretired, ?_⟩ <;>
        simp [GuardPhase.isReading, GuardPhase.hasAsked]
  | confirmed hphase =>
      rw [hphase] at hreleased hasked hawaited
      refine ⟨hreleased, rfl, ?_, ?_, hasked, hawaited, hretired, ?_⟩ <;>
        simp [GuardPhase.isReading, GuardPhase.hasAsked]
  | turnToInput hphase _ hcurrent =>
      exact horderly.keep (by rw [hphase]; rfl) rfl rfl rfl rfl fun _ => hcurrent
  | intercepted hphase =>
      exact horderly.keep (by rw [hphase]; rfl) rfl rfl rfl rfl
        fun _ => hreading (by rw [hphase]; rfl)
  | started hphase | stopDeciding hphase | exhausted hphase | rebuildFailed hphase
  | stopReceiving hphase | giveUpForwarding hphase | forwarded hphase | giveUpIntercepting hphase
  | giveUpAwaiting hphase | accepted hphase | rejected hphase | dropped hphase =>
      exact horderly.keep (by rw [hphase]; rfl) rfl rfl rfl rfl
        (by simp [Guard.enter, GuardPhase.isReading])

theorem Stage.Orderly.withOutlet {outlet : Outlet} (horderly : stage.Orderly)
    (hreleased : outlet.released = stage.outlet.released)
    (hclosed : outlet.shutdown.closed = stage.outlet.shutdown.closed) :
    (stage.withOutlet outlet).Orderly := by
  cases stage with
  | pump leaf =>
      obtain ⟨hlet, hconfirmed⟩ : leaf.Orderly := horderly
      exact ⟨hreleased.trans hlet, hclosed.trans hconfirmed⟩
  | guard head wrapped =>
      obtain ⟨hhead, hwrapped⟩ := horderly
      exact ⟨{ hhead with
        released := hreleased.trans hhead.released
        closed := hclosed.trans hhead.closed }, hwrapped⟩

theorem Stage.Orderly.take (horderly : stage.Orderly) (receipts : Receipts) :
    (stage.take receipts).1.Orderly := by
  rw [stage.take_eq]
  exact horderly.withOutlet (by simp) (by simp)

theorem Stage.Orderly.close (horderly : stage.Orderly) : stage.close.Orderly :=
  horderly.withOutlet rfl (by simp)

theorem Stage.Orderly.letGo (horderly : stage.Orderly) (receipts : Receipts) :
    (stage.letGo receipts).1.Orderly :=
  horderly.withOutlet rfl (by simp)

theorem Stage.Orderly.of_isFresh (hfresh : stage.IsFresh) : stage.Orderly := by
  induction stage with
  | pump leaf =>
      obtain ⟨houtlet, hphase⟩ := hfresh
      exact ⟨by rw [houtlet, hphase]; rfl, by rw [houtlet, hphase]; rfl⟩
  | guard head wrapped ih =>
      obtain ⟨houtlet, hphase, hcurrent, hwrapped⟩ := hfresh
      refine ⟨⟨by rw [houtlet, hphase]; rfl, by rw [houtlet, hphase]; rfl, fun _ => hcurrent,
        fun _ _ => ?_, ?_, ?_, ?_, fun _ _ => hcurrent⟩, ih hwrapped⟩
      · rw [hwrapped.outlet_eq]
        exact ⟨rfl, rfl⟩
      · simp [hphase, GuardPhase.hasAsked]
      · simp [hphase, GuardPhase.hasAwaited]
      · simp [hcurrent]

theorem Stage.Orderly.obey {world : World} {head : Guard} {wrapped : Stage}
    {step : GuardMove Stage} (horderly : wrapped.Orderly)
    (hstep : head.step (wrapped.sight world.disk head.input) world.receipts = some step) :
    (wrapped.obey step.receipts step.demand).1.Orderly := by
  cases Guard.stepCase_of_step hstep with
  | rebuilt _ _ _ _ hbuild =>
      exact .of_isFresh (Stage.isFresh_of_build (Stage.build_of_rebuild hbuild))
  | inputEnded => exact horderly.letGo _
  | received | receivedCandidate => exact horderly.take _
  | askedToClose => exact horderly.close
  | _ => exact horderly

theorem Stage.Orderly.step (horderly : stage.Orderly)
    (hstep : stage.step world level = some move) : move.stage.Orderly := by
  induction Stage.stepCase_of_step hstep with
  | pump hpump => exact Pump.Orderly.step horderly hpump
  | guard hguard =>
      obtain ⟨hhead, hwrapped⟩ := horderly
      exact ⟨hhead.step hguard, hwrapped.obey hguard⟩
  | inside hinner _ ih =>
      obtain ⟨hhead, hwrapped⟩ := horderly
      exact ⟨hhead.elsewhere (Stage.isClosing_step hinner) (Stage.refused_step hinner)
        (Stage.requested_step hinner) (Stage.released_step hinner) (Stage.closed_step hinner),
        ih hwrapped hinner⟩

end Steps

theorem Usage.orderly_perform {usage : Usage} (horderly : usage.running.stage.Orderly)
    (move : UsageMove) : (usage.perform move).running.stage.Orderly := by
  have hcase := usage.performs move
  generalize usage.perform move = after at hcase ⊢
  cases hcase with
  | idle | pronounced | rewritten => exact horderly
  | worked hstep => exact horderly.step hstep
  | received => exact horderly.take _
  | closed => exact horderly.close
  | letGo => exact horderly.letGo usage.receipts

theorem Usage.orderly_performAll {stage : Stage} (hfresh : stage.IsFresh) (world : World)
    (moves : List UsageMove) :
    ((Usage.start stage world).performAll moves).running.stage.Orderly :=
  performAll_induction (motive := fun usage => usage.running.stage.Orderly)
    (.of_isFresh hfresh) (fun _ move horderly => orderly_perform horderly move) moves

/-! ## What a confirmation stands for -/

/-- A stage that has closed, with all that its guards still had inside. -/
def Stage.WoundUp : Stage → Prop
  | .pump leaf => leaf.outlet.shutdown.closed = true ∧ leaf.outlet.released = true
  | .guard head wrapped =>
      head.outlet.shutdown.closed = true ∧ head.outlet.released = true ∧
        (head.current = true → wrapped.WoundUp)

/-- A stage none of whose workers will ever put anything into its outlet. -/
def Stage.Spent : Stage → Prop
  | .pump leaf => leaf.phase.hasReleased = true
  | .guard head wrapped => head.phase.hasReleased = true ∧ wrapped.Spent

namespace Stage.Orderly

variable {stage : Stage}

theorem released_of_closed (horderly : stage.Orderly) (hclosed : stage.isClosed = true) :
    stage.outlet.released = true := by
  cases stage with
  | pump leaf =>
      have hleaf : leaf.Orderly := horderly
      have hconfirmed := hleaf.closed.symm.trans hclosed
      refine hleaf.released.trans ?_
      cases hphase : leaf.phase <;> simp_all [PumpPhase.hasConfirmed, PumpPhase.hasReleased]
  | guard head wrapped =>
      obtain ⟨hhead, _⟩ := horderly
      have hconfirmed := hhead.closed.symm.trans hclosed
      exact hhead.released.trans (GuardPhase.hasReleased_of_hasConfirmed hconfirmed)

theorem woundUp_of_closed (horderly : stage.Orderly) (hclosed : stage.isClosed = true) :
    stage.WoundUp := by
  induction stage with
  | pump leaf => exact ⟨hclosed, horderly.released_of_closed hclosed⟩
  | guard head wrapped ih =>
      have hreleased := horderly.released_of_closed hclosed
      obtain ⟨hhead, hwrapped⟩ := horderly
      refine ⟨hclosed, hreleased, fun hcurrent => ih hwrapped ?_⟩
      exact hhead.awaited hcurrent
        (GuardPhase.hasAwaited_of_hasReleased (hhead.released.symm.trans hreleased))

/-- Whoever has let go of its outlet has nobody inside who has not. -/
theorem spent_of_released (horderly : stage.Orderly) (hreleased : stage.outlet.released = true) :
    stage.Spent := by
  induction stage with
  | pump leaf => exact (Pump.Orderly.released horderly).symm.trans hreleased
  | guard head wrapped ih =>
      obtain ⟨hhead, hwrapped⟩ := horderly
      have hlet := hhead.released.symm.trans hreleased
      refine ⟨hlet, ih hwrapped ?_⟩
      cases hcurrent : head.current with
      | true =>
          exact hwrapped.released_of_closed
            (hhead.awaited hcurrent (GuardPhase.hasAwaited_of_hasReleased hlet))
      | false => exact hhead.retired hcurrent

end Stage.Orderly

/-! ## What fades -/

/-- Two stages of one shape, where nothing has been put into any outlet of the later
one. -/
def Stage.Fades : Stage → Stage → Prop
  | .pump before, .pump after => before.outlet.Fades after.outlet
  | .guard before wrapped, .guard after inside =>
      before.outlet.Fades after.outlet ∧ wrapped.Fades inside
  | _, _ => False

namespace Stage

variable {world : World} {stage : Stage} {level : Nat} {move : StageMove}

theorem Fades.refl (stage : Stage) : stage.Fades stage := by
  induction stage with
  | pump leaf => exact Outlet.Fades.refl _
  | guard head wrapped ih => exact ⟨.refl _, ih⟩

theorem Fades.trans {first second third : Stage} (hfirst : first.Fades second)
    (hsecond : second.Fades third) : first.Fades third := by
  induction first generalizing second third with
  | pump leaf =>
      cases second with
      | guard => exact hfirst.elim
      | pump between =>
          cases third with
          | guard => exact hsecond.elim
          | pump last => exact Outlet.Fades.trans hfirst hsecond
  | guard head wrapped ih =>
      cases second with
      | pump => exact hfirst.elim
      | guard between inside =>
          cases third with
          | pump => exact hsecond.elim
          | guard last innermost => exact ⟨hfirst.1.trans hsecond.1, ih hfirst.2 hsecond.2⟩

theorem fades_withOutlet {outlet : Outlet} (hfades : stage.outlet.Fades outlet) :
    stage.Fades (stage.withOutlet outlet) := by
  cases stage with
  | pump leaf => exact hfades
  | guard head wrapped => exact ⟨hfades, .refl wrapped⟩

theorem Spent.withOutlet (hspent : stage.Spent) (outlet : Outlet) :
    (stage.withOutlet outlet).Spent := by
  cases stage <;> exact hspent

theorem Spent.step (hspent : stage.Spent) (hstep : stage.step world level = some move) :
    move.stage.Spent ∧ stage.Fades move.stage := by
  induction Stage.stepCase_of_step hstep with
  | @pump leaf _ hpump =>
      have hphase : leaf.phase.hasReleased = true := hspent
      cases Pump.stepCase_of_step hpump with
      | confirmed => exact ⟨rfl, .inr rfl, id, fun _ => rfl⟩
      | _ => simp_all [PumpPhase.hasReleased]
  | @guard head wrapped _ hguard =>
      obtain ⟨hphase, hwrapped⟩ := hspent
      cases Guard.stepCase_of_step hguard with
      | confirmed => exact ⟨⟨rfl, hwrapped⟩, ⟨.inr rfl, id, fun _ => rfl⟩, .refl _⟩
      | _ => simp_all [GuardPhase.hasReleased]
  | inside hinner _ ih =>
      obtain ⟨hphase, hwrapped⟩ := hspent
      obtain ⟨hafter, hfades⟩ := ih hwrapped hinner
      exact ⟨⟨hphase, hafter⟩, .refl _, hfades⟩

theorem withOutlet_self (stage : Stage) : stage.withOutlet stage.outlet = stage := by
  cases stage <;> rfl

end Stage

/-! ## One level of a nest -/

/-- Something that whoever holds a stage does to its outlet. -/
structure Outlet.Change where
  apply : Outlet → Outlet
  fades : ∀ outlet : Outlet, outlet.Fades (apply outlet)

def Outlet.Change.none : Outlet.Change := ⟨id, fun outlet => .refl outlet⟩

namespace Stage

variable {world : World} {stage : Stage} {level : Nat} {move : StageMove}

def change (stage : Stage) (change : Outlet.Change) : Stage :=
  stage.withOutlet (change.apply stage.outlet)

@[simp] theorem change_none (stage : Stage) : stage.change .none = stage := stage.withOutlet_self

/-- A guard does nothing to the input inside but to its outlet, unless it replaces it. -/
theorem obey_eq_change (wrapped : Stage) (receipts : Receipts) {demand : Demand Stage}
    (hreplace : ∀ input, demand ≠ .replace input) :
    ∃ change, (wrapped.obey receipts demand).1 = wrapped.change change := by
  cases demand with
  | nothing => exact ⟨.none, wrapped.change_none.symm⟩
  | take => exact ⟨⟨_, fun outlet => outlet.fades_take receipts⟩, rfl⟩
  | close => exact ⟨⟨_, Outlet.fades_close⟩, rfl⟩
  | letGo => exact ⟨⟨_, fun outlet => outlet.fades_letGo receipts⟩, rfl⟩
  | replace input => exact absurd rfl (hreplace input)

theorem inner?_change (stage : Stage) (level : Nat) (change : Outlet.Change) :
    ∃ inner : Outlet.Change, (stage.change change).inner? level =
      (stage.inner? level).map fun inside => inside.change inner := by
  cases level with
  | zero => exact ⟨change, rfl⟩
  | succ level =>
      refine ⟨.none, ?_⟩
      simp only [change_none, Option.map_id']
      cases stage <;> rfl

theorem at_level {motive : Stage → Prop} {inside : Stage}
    (hinward : ∀ head wrapped, motive (.guard head wrapped) → motive wrapped)
    (hstage : motive stage) (hinside : stage.inner? level = some inside) : motive inside := by
  induction stage generalizing level with
  | pump leaf =>
      cases level with
      | zero => exact Option.some.inj hinside ▸ hstage
      | succ level => simp [Stage.inner?] at hinside
  | guard head wrapped ih =>
      cases level with
      | zero => exact Option.some.inj hinside ▸ hstage
      | succ level => exact ih (hinward head wrapped hstage) hinside

theorem IsFresh.inner? (hfresh : stage.IsFresh) {inside : Stage}
    (hinside : stage.inner? level = some inside) : inside.IsFresh :=
  at_level (motive := IsFresh) (fun _ _ hboth => hboth.2.2.2) hfresh hinside

/-- What a step comes to for the stage at some place: a guard around it has put a fresh
one there, or has changed its outlet at most, or it took a step itself. -/
inductive Seen (world : World) (stage : Stage) (level : Nat) (move : StageMove) (place : Nat) :
    Prop where
  | replaced (hless : level < place) (hevent : move.event = .guard .rebuilt)
      (hfresh : ∀ later, move.stage.inner? place = some later → later.IsFresh)
  | around (hless : level < place) (hevent : move.event ≠ .guard .rebuilt)
      (change : Outlet.Change)
      (hafter : move.stage.inner? place =
        (stage.inner? place).map fun inside => inside.change change)
  | inside {inside : Stage} {inner : StageMove} (hle : place ≤ level)
      (hinside : stage.inner? place = some inside)
      (hstep : inside.step world (level - place) = some inner) (hevent : inner.event = move.event)
      (hafter : move.stage.inner? place = some inner.stage)

theorem seen_of_step (hstep : stage.step world level = some move) (place : Nat) :
    stage.Seen world level move place := by
  induction Stage.stepCase_of_step hstep generalizing place with
  | pump =>
      cases place with
      | zero => exact .inside (Nat.le_refl _) rfl hstep rfl rfl
      | succ place => exact .around (Nat.succ_pos _) (by simp) .none rfl
  | @guard head wrapped step hguard =>
      cases place with
      | zero => exact .inside (Nat.le_refl _) rfl hstep rfl rfl
      | succ place =>
          by_cases hrebuilt : step.event = .rebuilt
          · refine .replaced (Nat.succ_pos _) (congrArg Event.guard hrebuilt) fun later hlater => ?_
            cases Guard.stepCase_of_step hguard with
            | rebuilt _ _ _ _ hbuild =>
                exact (isFresh_of_build (build_of_rebuild hbuild)).inner? hlater
            | _ => simp at hrebuilt
          · have hreplace : ∀ input, step.demand ≠ .replace input := by
              cases Guard.stepCase_of_step hguard with
              | rebuilt => exact absurd rfl hrebuilt
              | _ => simp
            obtain ⟨change, hobeyed⟩ := wrapped.obey_eq_change step.receipts hreplace
            obtain ⟨inner, hinner⟩ := wrapped.inner?_change place change
            refine .around (Nat.succ_pos _) (by simpa using hrebuilt) inner ?_
            change (wrapped.obey step.receipts step.demand).1.inner? place = _
            rw [hobeyed, hinner]
            rfl
  | inside hinner _ ih =>
      cases place with
      | zero => exact .inside (Nat.zero_le _) rfl hstep rfl rfl
      | succ place =>
          cases ih hinner place with
          | replaced hless hevent hfresh => exact .replaced (Nat.succ_lt_succ hless) hevent hfresh
          | around hless hevent change hafter =>
              exact .around (Nat.succ_lt_succ hless) hevent change hafter
          | inside hle hinside hdeeper hevent hafter =>
              exact .inside (Nat.succ_le_succ hle) hinside (by rwa [Nat.succ_sub_succ]) hevent
                hafter

end Stage

namespace Usage

/-- Whether a move puts a fresh stage in place at a level. -/
def Replaces (usage : Usage) (level : Nat) (move : UsageMove) : Prop :=
  ∃ outer < level, ∃ running, move = .work outer ∧
    usage.running.work outer = some (.guard .rebuilt, running)

/-- What the worker at a level has done since its stage was built, after a move more. -/
def noteAt (usage : Usage) (level : Nat) (log : List Event) : UsageMove → List Event
  | .work outer =>
      match usage.running.work outer with
      | none => log
      | some (event, _) =>
          if outer = level then log ++ [event]
          else if outer < level ∧ event = .guard .rebuilt then []
          else log
  | _ => log

/-- What a move comes to for the stage at a level, and what is noted of it there. -/
inductive Seen (usage : Usage) (level : Nat) (move : UsageMove) : Prop where
  | replaced (hreplaces : usage.Replaces level move)
      (hnote : ∀ log, usage.noteAt level log move = [])
      (hfresh : ∀ later, (usage.perform move).running.stage.inner? level = some later →
        later.IsFresh)
  | around (change : Outlet.Change) (hnote : ∀ log, usage.noteAt level log move = log)
      (hafter : (usage.perform move).running.stage.inner? level =
        (usage.running.stage.inner? level).map fun inside => inside.change change)
  | inside {inside : Stage} {deeper : Nat} {inner : StageMove}
      (hinside : usage.running.stage.inner? level = some inside)
      (hstep : inside.step usage.running.world deeper = some inner)
      (hnote : ∀ log, usage.noteAt level log move =
        if deeper = 0 then log ++ [inner.event] else log)
      (hafter : (usage.perform move).running.stage.inner? level = some inner.stage)

theorem seen_of_work {usage : Usage} {outer : Nat} {step : StageMove}
    (hstep : usage.running.stage.step usage.running.world outer = some step) (level : Nat) :
    usage.Seen level (.work outer) := by
  have hwork : usage.running.work outer = some (step.event, usage.running.after step) := by
    simp [Running.work, hstep]
  have hperform : (usage.perform (.work outer)).running.stage = step.stage := by
    simp [perform, hwork, Running.after]
  cases Stage.seen_of_step hstep level with
  | replaced hless hevent hfresh =>
      refine .replaced ⟨outer, hless, usage.running.after step, rfl, ?_⟩ (fun log => ?_) ?_
      · rw [hwork, hevent]
      · simp [noteAt, hwork, hevent, hless, Nat.ne_of_lt hless]
      · rw [hperform]
        exact hfresh
  | around hless hevent change hafter =>
      refine .around change (fun log => ?_) ?_
      · simp [noteAt, hwork, hevent, Nat.ne_of_lt hless]
      · rw [hperform]
        exact hafter
  | inside hle hinside hdeeper hevent hafter =>
      refine .inside hinside hdeeper (fun log => ?_) ?_
      · by_cases hsame : outer = level
        · subst outer
          simp [noteAt, hwork, hevent]
        · have hmore : outer - level ≠ 0 := by omega
          have hnot : ¬outer < level := by omega
          simp [noteAt, hwork, hsame, hmore, hnot]
      · rw [hperform]
        exact hafter

theorem seen (usage : Usage) (level : Nat) (move : UsageMove) : usage.Seen level move := by
  cases move with
  | work outer =>
      cases hstep : usage.running.stage.step usage.running.world outer with
      | some step => exact seen_of_work hstep level
      | none =>
          refine .around .none (fun log => ?_) ?_
          · simp [noteAt, Running.work, hstep]
          · simp [perform, Running.work, hstep]
  | receive =>
      by_cases hholding : usage.holding = true
      · obtain ⟨inner, hinner⟩ := usage.running.stage.inner?_change level
          ⟨_, fun outlet => outlet.fades_take usage.receipts⟩
        refine .around inner (fun _ => rfl) ?_
        rw [perform, if_pos hholding]
        exact hinner
      · exact .around .none (fun _ => rfl) (by simp [perform, hholding])
  | close =>
      by_cases hholding : usage.holding = true
      · obtain ⟨inner, hinner⟩ := usage.running.stage.inner?_change level
          ⟨_, Outlet.fades_close⟩
        refine .around inner (fun _ => rfl) ?_
        rw [perform, if_pos hholding]
        exact hinner
      · exact .around .none (fun _ => rfl) (by simp [perform, hholding])
  | letGo =>
      by_cases hholding : usage.holding = true
      · obtain ⟨inner, hinner⟩ := usage.running.stage.inner?_change level
          ⟨_, fun outlet => outlet.fades_letGo usage.receipts⟩
        refine .around inner (fun _ => rfl) ?_
        rw [perform, if_pos hholding]
        exact hinner
      · exact .around .none (fun _ => rfl) (by simp [perform, hholding])
  | pronounce number verdict =>
      refine .around .none (fun _ => rfl) ?_
      simp only [perform]
      split <;> simp [Running.pronounce]
  | rewrite disk => exact .around .none (fun _ => rfl) (by simp [perform])

/-- Whether no move puts a fresh stage in place at a level. -/
def Keeps (usage : Usage) (level : Nat) : List UsageMove → Prop
  | [] => True
  | move :: rest => ¬usage.Replaces level move ∧ (usage.perform move).Keeps level rest

variable {usage : Usage} {level : Nat} {inside : Stage}

theorem fades_perform (hinside : usage.running.stage.inner? level = some inside)
    (hspent : inside.Spent) {move : UsageMove} (hkeeps : ¬usage.Replaces level move) :
    ∃ later, (usage.perform move).running.stage.inner? level = some later ∧ later.Spent ∧
      inside.Fades later := by
  cases usage.seen level move with
  | replaced hreplaces => exact absurd hreplaces hkeeps
  | around change _ hafter =>
      rw [hinside] at hafter
      exact ⟨_, hafter, hspent.withOutlet _, Stage.fades_withOutlet (change.fades _)⟩
  | inside hbefore hstep _ hafter =>
      obtain rfl := Option.some.inj (hbefore.symm.trans hinside)
      exact ⟨_, hafter, hspent.step hstep⟩

/-- Where everyone inside has let go of the outlets, nothing is put there any more. -/
theorem fades_performAll (hinside : usage.running.stage.inner? level = some inside)
    (hspent : inside.Spent) {moves : List UsageMove} (hkeeps : usage.Keeps level moves) :
    ∃ later, (usage.performAll moves).running.stage.inner? level = some later ∧
      inside.Fades later := by
  induction moves generalizing usage inside with
  | nil => exact ⟨inside, hinside, .refl inside⟩
  | cons move rest ih =>
      obtain ⟨next, hnext, hstill, hfades⟩ := fades_perform hinside hspent hkeeps.1
      obtain ⟨later, hlater, hmore⟩ := ih hnext hstill hkeeps.2
      exact ⟨later, hlater, hfades.trans hmore⟩

end Usage

end Intake
