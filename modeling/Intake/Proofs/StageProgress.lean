import Intake.Proofs.StagePoise

/-!
# A running stage never gets stuck

A stage over a list or a file goes on by itself as long as its holder owes
nothing: some worker inside has a step, or receiving gives something at once.  A
guard that reads waits for an input that works, and then the step is that
input's; a guard that is about to stop waits for an input that it has asked to
close, and such an input always has a step until it confirms.
-/

namespace Intake

/-! ## What never keeps a pump waiting -/

/-- Whether the messages of an input come from a list or a file. -/
def InputConfig.IsAtHand : InputConfig → Prop
  | .stdin _ => False
  | .readUntil (some input) _ _ => input.IsAtHand
  | .file .. | .memory _ | .readUntil none _ _ => True

def Origin.NeverWaits : Origin → Prop
  | .own source => source.tail ≠ .silent
  | .standard => False

def Source.NeverWaits : Source → Prop
  | .listed _ => True
  | .lines _ _ origin => origin.NeverWaits

@[simp] theorem Source.neverWaits_lines (framer : Framer) (ahead : Bytes) (origin : Origin) :
    (Source.lines framer ahead origin).NeverWaits ↔ origin.NeverWaits := Iff.rfl

/-- Everything that a stage reads from, now or after a restart, is at hand. -/
def Stage.Flows : Stage → Prop
  | .pump leaf => leaf.source.NeverWaits
  | .guard head wrapped => head.input.IsAtHand ∧ wrapped.Flows

theorem ByteSource.read_ready {source : ByteSource} (htail : source.tail ≠ .silent) (size : Nat) :
    (source.read size).1 ≠ .waiting ∧ (source.read size).2.tail ≠ .silent := by
  unfold ByteSource.read
  cases ByteSource.takeFrom size source.pieces with
  | some taken => exact ⟨by simp, htail⟩
  | none =>
      cases hsame : source.tail with
      | ended => simp [hsame]
      | failing error => simp
      | silent => exact absurd hsame htail

theorem Source.readPiece_ready {origin : Origin} (horigin : origin.NeverWaits) (stopped : Bool)
    (stdin : ByteSource) :
    ∃ piece left after, readPiece stopped stdin origin = (piece, left, after) ∧
      piece ≠ .waiting ∧ left.NeverWaits := by
  cases origin with
  | standard => exact horigin.elim
  | own source =>
      cases stopped with
      | true => exact ⟨.bytes [], .own source, stdin, rfl, by simp, horigin⟩
      | false =>
          obtain ⟨hready, htail⟩ := ByteSource.read_ready horigin pieceSize
          exact ⟨_, _, stdin, rfl, hready, htail⟩

theorem Source.pull_ready {source : Source} (hsource : source.NeverWaits) (stopped : Bool)
    (stdin : ByteSource) :
    (source.pull stopped stdin).1 ≠ .waiting ∧ (source.pull stopped stdin).2.1.NeverWaits := by
  cases source with
  | listed items => rcases items with _ | ⟨_ | message, rest⟩ <;> exact ⟨by simp [pull], trivial⟩
  | lines framer ahead origin =>
      have horigin : origin.NeverWaits := hsource
      cases ahead with
      | nil =>
          obtain ⟨piece, left, after, hpiece, hready, hleft⟩ :=
            readPiece_ready horigin stopped stdin
          cases piece with
          | waiting => exact absurd rfl hready
          | failed error => simpa [pull, hpiece] using hleft
          | bytes content =>
              cases content with
              | cons b rest => simpa [pull, hpiece] using hleft
              | nil =>
                  cases hfinish : framer.finish with
                  | error error => simpa [pull, hpiece, hfinish] using hleft
                  | ok finished =>
                      cases finished <;> simpa [pull, hpiece, hfinish] using hleft
      | cons b rest =>
          cases hnext : framer.next (b :: rest) <;> simpa [pull, hnext] using horigin

/-! ## Stages that flow go on flowing -/

namespace Stage.Flows

variable {stage : Stage} {world : World} {level : Nat} {move : StageMove}

theorem of_build {disk : Disk} {runtime : Bool} {input : InputConfig}
    (hinput : input.IsAtHand) (hbuild : Stage.build disk runtime input = .ok stage) :
    stage.Flows := by
  fun_induction Stage.build disk runtime input generalizing stage with
  | case12 input restart condition hruntime wrapped hwrapped built hcondition ih =>
      simp only [Except.ok.injEq] at hbuild
      subst stage
      exact ⟨hinput, ih hinput hwrapped⟩
  | case2 path multipart node =>
      simp only [Except.ok.injEq] at hbuild
      subst stage
      cases node <;> simp [ofSource, Flows, Source.NeverWaits, Origin.NeverWaits,
        ByteSource.ofNode, ByteSource.ofBytes]
  | case4 => exact hinput.elim
  | case6 =>
      simp only [Except.ok.injEq] at hbuild
      subst stage
      trivial
  | _ => simp at hbuild

theorem withOutlet (hflows : stage.Flows) (outlet : Outlet) : (stage.withOutlet outlet).Flows := by
  cases stage with
  | pump leaf => exact hflows
  | guard head wrapped => exact hflows

theorem step_pump {pump : Pump} {receipts : Receipts} {stdin : ByteSource} {step : PumpMove}
    (hsource : pump.source.NeverWaits) (hstep : pump.step receipts stdin = some step) :
    step.pump.source.NeverWaits := by
  cases Pump.stepCase_of_step hstep with
  | readOn _ hpull | ended _ hpull | failed _ hpull | pulled _ hpull =>
      have hleft := (Source.pull_ready hsource pump.outlet.shutdown.signalled stdin).2
      rw [hpull] at hleft
      exact hleft
  | _ => exact hsource

theorem step_guard {head : Guard} {wrapped : Stage} {step : GuardMove Stage}
    (hinput : head.input.IsAtHand) (hwrapped : wrapped.Flows)
    (hstep : head.step (wrapped.sight world.disk head.input) world.receipts = some step) :
    (Stage.guard step.guard (wrapped.obey step.receipts step.demand).1).Flows := by
  cases Guard.stepCase_of_step hstep with
  | rebuilt _ _ _ _ hbuild =>
      exact ⟨hinput, of_build hinput (Stage.build_of_rebuild hbuild)⟩
  | inputEnded | received | receivedCandidate | askedToClose =>
      exact ⟨hinput, hwrapped.withOutlet _⟩
  | _ => exact ⟨hinput, hwrapped⟩

theorem step (hflows : stage.Flows) (hstep : stage.step world level = some move) :
    move.stage.Flows := by
  induction Stage.stepCase_of_step hstep with
  | pump hpump => exact step_pump hflows hpump
  | guard hguard => exact step_guard hflows.1 hflows.2 hguard
  | inside hinner _ ih => exact ⟨hflows.1, ih hflows.2 hinner⟩

end Stage.Flows

/-! ## Somebody has a step -/

theorem Receipt.look_pronounce_open (verdict : Verdict) :
    (Receipt.open.pronounce verdict).look.2 ≠ .pending := by
  cases verdict <;> simp [pronounce, respond, forsake, look]

/-- A pump that is working has a step, and needs nobody for it. -/
theorem Pump.Poised.exists_step {receipts : Receipts} {pump : Pump}
    (hpoised : pump.Poised receipts .working) (hsource : pump.source.NeverWaits)
    (stdin : ByteSource) : ∃ move, pump.step receipts stdin = some move := by
  cases hpoised with
  | working houtlet hphase =>
      cases hsame : pump.phase with
      | pulling =>
          have hready := (Source.pull_ready hsource pump.outlet.shutdown.signalled stdin).1
          rcases hpull : pump.source.pull pump.outlet.shutdown.signalled stdin with
            ⟨pulled, left, after⟩
          rw [hpull] at hready
          cases pulled with
          | waiting => exact absurd rfl hready
          | _ => exact ⟨_, by simp only [Pump.step, hsame, hpull]; rfl⟩
      | resting | leaving => exact ⟨_, by simp only [Pump.step, hsame]; rfl⟩
      | offering message => exact ⟨_, by simp only [Pump.step, hsame, houtlet]; rfl⟩
      | awaiting | confirming | finished => simp [hsame, PumpPhase.IsBusy] at hphase
  | waiting _ _ hnumber => simp [Standing.number?] at hnumber
  | @answered message number verdict houtlet hphase hget =>
      have hlook : (receipts.look number).1 ≠ .pending := by
        unfold Receipts.look
        rw [hget]
        exact Receipt.look_pronounce_open verdict
      rcases hseen : receipts.look number with ⟨sighting, after⟩
      rw [hseen] at hlook
      cases sighting with
      | pending => exact absurd rfl hlook
      | closed => exact ⟨_, by simp only [Pump.step, hphase, houtlet, hseen]; rfl⟩
      | responded response =>
          cases hack : response.isAck <;>
            exact ⟨_, by simp only [Pump.step, hphase, houtlet, hseen, hack]; rfl⟩

theorem Stage.exists_step_inside {world : World} {head : Guard} {wrapped : Stage}
    (hinner : ∃ level, (wrapped.step world level).isSome) :
    ∃ level, ((Stage.guard head wrapped).step world level).isSome := by
  obtain ⟨level, hlevel⟩ := hinner
  exact ⟨level + 1, by simpa [Stage.step] using hlevel⟩

section Guards

variable {world : World} {guard : Guard} {wrapped : Stage} {inside : Standing}

theorem Stage.exists_step_of_guard
    (hstep : (guard.step (wrapped.sight world.disk guard.input) world.receipts).isSome) :
    ∃ level, ((Stage.guard guard wrapped).step world level).isSome :=
  ⟨0, by simpa [Stage.step] using hstep⟩

theorem Guard.Turned.exists_step (hturned : guard.Turned world.receipts inside .working)
    (hwrapped : wrapped.Poised world.receipts inside)
    (hinner : inside = .working → ∃ level, (wrapped.step world level).isSome) :
    ∃ level, ((Stage.guard guard wrapped).step world level).isSome := by
  have hoffer : (wrapped.sight world.disk guard.input).offer = inside.offer :=
    hwrapped.shows.offer_eq
  cases hturned with
  | reading houtlet hcurrent hphase hheld =>
      rcases hphase with hstarting | hdeciding | hreceiving
      · exact Stage.exists_step_of_guard (by simp [step, hstarting])
      · exact Stage.exists_step_of_guard (by simp [step, hdeciding])
      · cases inside with
        | working => exact Stage.exists_step_inside (hinner rfl)
        | lent number => simp [Standing.held] at hheld
        | offering transaction =>
            have hready : (wrapped.sight world.disk guard.input).offer =
                .transaction transaction := hoffer
            exact Stage.exists_step_of_guard
              (by simp [step, hreceiving, receive, houtlet, hready])
        | ended =>
            have hready : (wrapped.sight world.disk guard.input).offer = .ended := hoffer
            exact Stage.exists_step_of_guard
              (by simp [step, hreceiving, receive, houtlet, hready])
  | holding houtlet hphase =>
      apply Stage.exists_step_of_guard
      rcases hphase with hphase | hphase <;>
        simp [step, hphase, forward, intercept, obstacle?, houtlet]
  | passed _ _ _ hnumber => simp [Standing.number?] at hnumber
  | intercepted _ _ _ hnumber => simp [Standing.number?] at hnumber
  | @answered candidate number verdict houtlet _ hphase _ hget =>
      have hlook : (world.receipts.look number).1 ≠ .pending := by
        unfold Receipts.look
        rw [hget]
        exact Receipt.look_pronounce_open verdict
      rcases hseen : world.receipts.look number with ⟨sighting, after⟩
      rw [hseen] at hlook
      apply Stage.exists_step_of_guard
      cases sighting with
      | pending => exact absurd rfl hlook
      | closed | responded _ => simp [step, hphase, awaitResponse, houtlet, hseen]

/-- A guard that stops waits for nothing but an input that it has asked to close. -/
theorem Guard.Apart.exists_step (hapart : guard.Apart .working)
    (hcan : (Stage.guard guard wrapped).CanClose) :
    ∃ level, ((Stage.guard guard wrapped).step world level).isSome := by
  obtain ⟨hhead, hwrapped⟩ := hcan
  cases hapart with
  | bereft _ hphase => exact Stage.exists_step_of_guard (by simp [step, hphase])
  | @leaving exit houtlet hphase =>
      rcases hphase with hleaving | hclosing | hstopping | hreleasing
      · apply Stage.exists_step_of_guard
        cases hcurrent : guard.current <;> simp [step, hleaving, hcurrent]
      · cases hopen : wrapped.isClosed with
        | true => exact Stage.exists_step_of_guard (by simp [step, hclosing, Stage.sight, hopen])
        | false =>
            -- how the input is poised does not matter here: it has been asked to close
            apply Stage.exists_step_inside
            obtain ⟨level, move, hstep, _⟩ :=
              hwrapped.exists_descent world (hhead.closing exit hclosing) hopen
            exact ⟨level, by simp [hstep]⟩
      · exact Stage.exists_step_of_guard (by simp [step, hstopping])
      · exact Stage.exists_step_of_guard (by simp [step, hreleasing])

end Guards

theorem Stage.Poised.exists_step {stage : Stage} {world : World}
    (hpoised : stage.Poised world.receipts .working) (hcan : stage.CanClose)
    (hflows : stage.Flows) : ∃ level, (stage.step world level).isSome := by
  induction stage with
  | pump leaf =>
      cases hpoised with
      | pump hleaf =>
          obtain ⟨move, hstep⟩ := hleaf.exists_step hflows world.stdin
          exact ⟨0, by simp [Stage.step, hstep]⟩
  | guard head wrapped ih =>
      cases hpoised with
      | turned hhead hwrapped =>
          -- the induction is needed only where the input inside works too
          refine hhead.exists_step hwrapped fun hworking => ?_
          subst hworking
          exact ih hwrapped hcan.2 hflows.2
      | apart hhead => exact hhead.exists_step hcan

/-! ## Stages in use -/

namespace Usage

theorem flows_perform {usage : Usage} (hflows : usage.running.stage.Flows) (move : UsageMove) :
    (usage.perform move).running.stage.Flows := by
  have hcase := usage.performs move
  generalize usage.perform move = after at hcase ⊢
  cases hcase with
  | idle | pronounced | rewritten => exact hflows
  | worked hstep => exact hflows.step hstep
  | received | closed | letGo => exact hflows.withOutlet _

/-- Whatever has happened before: as long as the holder has neither asked the stage
to close nor let go of it, and owes no verdict, there is a step for a worker or
something to receive. -/
theorem never_stuck {input : InputConfig} {world : World} {stage : Stage}
    (hinput : input.IsAtHand) (hbuild : Stage.build world.disk true input = .ok stage)
    (moves : List UsageMove)
    (hunasked : ¬((Usage.start stage world).performAll moves).Asked)
    (hheld : ((Usage.start stage world).performAll moves).held = []) :
    let running := ((Usage.start stage world).performAll moves).running
    (∃ level, (running.work level).isSome) ∨ running.receive.1 ≠ .pending := by
  have hfresh := Stage.isFresh_of_build hbuild
  have hsteady := steady_performAll hfresh world moves
  have hcan := (closable_performAll hfresh world moves).stage
  have hflows : ((Usage.start stage world).performAll moves).running.stage.Flows :=
    performAll_induction (motive := fun usage => usage.running.stage.Flows)
      (Stage.Flows.of_build hinput hbuild) (fun _ move hflows => flows_perform hflows move) moves
  generalize (Usage.start stage world).performAll moves = usage at *
  cases hsteady with
  | asked hasked => exact absurd hasked hunasked
  | @poised standing hpoised howed =>
      have hoffer : usage.running.receive.1 = standing.offer := hpoised.shows.offer_eq
      cases standing with
      | working =>
          left
          obtain ⟨level, hstep⟩ := hpoised.exists_step hcan hflows
          exact ⟨level, by simpa [Running.work] using hstep⟩
      | offering transaction =>
          right
          simp [hoffer, Standing.offer]
      | ended =>
          right
          simp [hoffer, Standing.offer]
      | lent number => simp [howed, Standing.held] at hheld

/-- The file is gone when the inner of two guards is to restart after a message
that was dropped once and then accepted. -/
theorem never_stuck_of_missing :
    ∃ (world : World) (stage : Stage) (moves : List UsageMove) (usage : Usage),
      Stage.build world.disk true
        (.readUntil (some (.readUntil (some (.file "in" false)) true (.count 3))) false
          (.count 5)) = .ok stage ∧
      usage = (Usage.start stage world).performAll moves ∧ ¬usage.Asked ∧ usage.held = [] ∧
      usage.verdicts = [(0, none), (1, some .ack)] ∧ usage.running.receive.1 = .pending ∧
      ∃ level, (usage.running.work level).isSome := by
  obtain ⟨world, hworld⟩ : ∃ world : World,
      world = { disk := fun _ => .ok (.file [97, 10]) } := ⟨_, rfl⟩
  obtain ⟨stage, hbuild⟩ : ∃ stage, Stage.build world.disk true
      (.readUntil (some (.readUntil (some (.file "in" false)) true (.count 3))) false
        (.count 5)) = .ok stage := by
    subst hworld
    exact ⟨_, rfl⟩
  obtain ⟨moves, hmoves⟩ : ∃ moves : List UsageMove, moves =
      (List.replicate 8 [.work 0, .work 1, .work 2]).flatten ++ [.receive, .pronounce 0 none] ++
        (List.replicate 8 [.work 0, .work 1, .work 2]).flatten ++
        [.receive, .pronounce 1 (some .ack), .rewrite fun _ => .error .notFound] := ⟨_, rfl⟩
  have hstage := Stage.eq_of_build hbuild
  have hunasked : ¬((Usage.start stage world).performAll moves).Asked := by
    subst hstage hmoves hworld
    unfold Asked
    decide +kernel
  have hheld : ((Usage.start stage world).performAll moves).held = [] := by
    subst hstage hmoves hworld
    decide +kernel
  have hverdicts : ((Usage.start stage world).performAll moves).verdicts =
      [(0, none), (1, some .ack)] := by
    subst hstage hmoves hworld
    decide +kernel
  have hpending : ((Usage.start stage world).performAll moves).running.receive.1 = .pending := by
    subst hstage hmoves hworld
    decide +kernel
  have hnever := never_stuck (by trivial) hbuild moves hunasked hheld
  refine ⟨world, stage, moves, _, hbuild, rfl, hunasked, hheld, hverdicts, hpending, ?_⟩
  exact hnever.resolve_right fun hready => hready hpending

end Usage

end Intake
