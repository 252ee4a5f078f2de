import Intake.Proofs.StageSparing

/-!
# One transaction in flight

Each outlet has room for a transaction while its holder may still have an earlier
one.  All the same, of what the stage at any level of a nest puts out at most one
transaction is unanswered at a time, and of what the holder of the nest can reach
too, however often inputs are restarted.
-/

namespace Intake

/-! ## Steps of the workers -/

section Steps

variable {world : World} {stage wrapped : Stage} {head : Guard} {output : Output} {level : Nat}
  {move : StageMove}

/-- A worker puts something out only when all that it put out before has been
answered. -/
theorem Stage.Spares.clear_of_put (hspares : stage.Spares world.receipts output)
    (hstep : stage.step world level = some move) :
    move.stage.outlet.slot = stage.outlet.slot ∨ world.receipts.Clear (output 0) := by
  cases Stage.stepCase_of_step hstep with
  | @pump leaf _ hpump =>
      have hleaf : leaf.Spares world.receipts (output 0) := hspares
      cases Pump.stepCase_of_step hpump with
      | sent hphase hopen => exact .inr (hleaf.clear_of hopen (by simp [hphase]))
      | _ => exact .inl rfl
  | guard hguard =>
      cases Guard.stepCase_of_step hguard with
      | forwarded hphase hclear | intercepted hphase hclear =>
          exact .inr (hspares.1.clear_of (Guard.signalled_of_clear hclear) (by simp [hphase])
            (by simp [hphase, GuardPhase.IsWaiting]))
      | _ => exact .inl rfl
  | inside => exact .inl rfl

theorem Stage.isClosing_step (hstep : stage.step world level = some move) :
    move.stage.outlet.isClosing = stage.outlet.isClosing := by
  rcases Stage.shutdown_step hstep with hsame | hconfirmed
  · simp [Outlet.isClosing, hsame]
  · simp [Outlet.isClosing, hconfirmed, Shutdown.confirm]

namespace Stage.Spares

theorem step_rebuilt (hspares : (Stage.guard head wrapped).Spares world.receipts output)
    (hphase : head.phase = .deciding) (hcurrent : head.current = false) {input : Stage}
    (hbuild : (wrapped.sight world.disk head.input).rebuild () = .ok input) :
    (Stage.guard { head with current := true, phase := .receiving } input).Spares world.receipts
      (output.after 0 (.guard .rebuilt)) := by
  obtain ⟨hhead, _⟩ := hspares
  have hfresh := Stage.isFresh_of_build (Stage.build_of_rebuild hbuild)
  have hrunning : input.outlet.isClosing = false := by
    rw [hfresh.outlet_eq]
    rfl
  refine ⟨?_, ?_⟩
  · rw [Output.after_self]
    simp only [Event.puts, GuardEvent.puts, List.append_nil]
    refine ⟨hhead.outlet, fun hlet => ?_, fun hopen number hmade howed => ?_,
      fun _ _ hholding => by simp at hholding, fun _ => rfl, fun _ _ => hrunning⟩
    · simp [hhead.unreleased (by simp [hphase])] at hlet
    · have hclear := hhead.clear_of hopen (by simp [hphase]) (by simp [hcurrent])
      simp [hclear number hmade] at howed
  · rw [Output.inner_after_rebuilt]
    exact .fresh hfresh world.receipts

theorem step_guard {step : GuardMove Stage}
    (hspares : (Stage.guard head wrapped).Spares world.receipts output)
    (hcan : (Stage.guard head wrapped).CanClose)
    (hawaits : (Stage.guard head wrapped).Awaits world.receipts)
    (hstep : head.step (wrapped.sight world.disk head.input) world.receipts = some step) :
    (Stage.guard step.guard (wrapped.obey step.receipts step.demand).1).Spares
      (wrapped.obey step.receipts step.demand).2 (output.after 0 (.guard step.event)) := by
  by_cases hevent : step.event = .rebuilt
  · cases Guard.stepCase_of_step hstep with
    | rebuilt hphase _ hcurrent _ hbuild => exact hspares.step_rebuilt hphase hcurrent hbuild
    | _ => simp at hevent
  · obtain ⟨hhead, hwrapped⟩ := hspares
    have hafter := hhead.step hwrapped hcan.1.plain
      (fun number hmem => hawaits.awaited number (List.mem_append_left _ hmem)) hstep hevent
    have hreplace : ∀ input, step.demand ≠ .replace input := by
      cases Guard.stepCase_of_step hstep with
      | rebuilt => exact absurd rfl hevent
      | _ => simp
    have hsettled := hwrapped.settle (Guard.settles_step hstep)
    have hobeyed := hsettled.obey hcan.2.plain step.demand hreplace
    have hother : Event.guard step.event ≠ .guard .rebuilt := by simpa using hevent
    refine ⟨?_, ?_⟩
    · rw [Output.after_self, Output.after_zero_of_ne _ _ hother Nat.one_pos]
      exact hafter.elsewhere (wrapped.settles_obey _ _) hsettled.outlet.issued
        (List.Subset.refl _) (fun _ _ _ houtside => houtside) rfl
    · rw [Output.inner_after_zero _ _ hother]
      exact hobeyed

theorem step (hspares : stage.Spares world.receipts output) (hcan : stage.CanClose)
    (hawaits : stage.Awaits world.receipts) (hstep : stage.step world level = some move) :
    move.stage.Spares move.receipts (output.after level move.event) := by
  induction Stage.stepCase_of_step hstep generalizing output with
  | pump hpump =>
      have hafter := Pump.Spares.step hspares hawaits.awaited (Pump.settles_step hpump) hpump
      simpa [Stage.Spares, Event.puts] using hafter
  | guard hguard => exact hspares.step_guard hcan hawaits hguard
  | @inside level head wrapped inner hinner _ ih =>
      obtain ⟨hhead, hwrapped⟩ := hspares
      have hafter := ih hwrapped hcan.2 hawaits.inner hinner
      have hsettles := Stage.settles_step hinner
      -- whatever is unanswered keeps the input from putting anything out
      have hlying : ∀ number ∈ output 1, (inner.receipts.get number).isOwed = true →
          number ∉ wrapped.outlet.buffered → number ∉ inner.stage.outlet.buffered := by
        intro number hmade howed houtside
        rcases hwrapped.clear_of_put hinner with hsame | hclear
        · rwa [Outlet.buffered, hsame]
        · have hbefore := hsettles.owed (hwrapped.outlet.issued number hmade) howed
          simp [hclear number hmade] at hbefore
      have hmore : output 1 ⊆ output.after (level + 1) inner.event 1 := by
        rw [← Output.inner_zero (output.after _ _), Output.inner_after_succ]
        exact output.inner.subset_after_zero level inner.event
      refine ⟨?_, ?_⟩
      · rw [Output.after_succ_zero]
        exact hhead.elsewhere hsettles hwrapped.outlet.issued hmore hlying
          (Stage.isClosing_step hinner)
      · rw [Output.inner_after_succ]
        exact hafter

end Stage.Spares

end Steps

/-! ## Stages in use -/

/-- The stage at a level, counted from the outside. -/
def Stage.inner? : Nat → Stage → Option Stage
  | 0, stage => some stage
  | _ + 1, .pump _ => none
  | level + 1, .guard _ wrapped => wrapped.inner? level

theorem Stage.Spares.at_level {receipts : Receipts} {stage inside : Stage} {output : Output}
    {level : Nat} (hspares : stage.Spares receipts output)
    (hinside : stage.inner? level = some inside) :
    inside.outlet.Spares receipts (output level) := by
  induction stage generalizing output level with
  | pump leaf =>
      cases level with
      | zero =>
          obtain rfl : Stage.pump leaf = inside := Option.some.inj hinside
          exact hspares.outlet
      | succ level => simp [Stage.inner?] at hinside
  | guard head wrapped ih =>
      cases level with
      | zero =>
          obtain rfl : Stage.guard head wrapped = inside := Option.some.inj hinside
          exact hspares.outlet
      | succ level =>
          have hinner := ih hspares.2 hinside
          exact hinner

namespace Usage

def follow (usage : Usage) (output : Output) : UsageMove → Output
  | .work level =>
      match usage.running.work level with
      | none => output
      | some (event, _) => output.after level event
  | _ => output

/-- The output after all moves. -/
def followAll (usage : Usage) (output : Output) : List UsageMove → Output
  | [] => output
  | move :: rest => (usage.perform move).followAll (usage.follow output move) rest

structure Sparing (usage : Usage) (output : Output) : Prop where
  spares : usage.running.stage.Spares usage.receipts output
  awaits : usage.running.stage.Awaits usage.receipts
  held : ∀ number ∈ usage.held, number ∈ output 0

namespace Sparing

variable {usage : Usage} {output : Output}

theorem start {stage : Stage} (hfresh : stage.IsFresh) (world : World) :
    (Usage.start stage world).Sparing fun _ => [] :=
  ⟨.fresh hfresh world.receipts, .fresh hfresh world.receipts, by simp [Usage.start]⟩

theorem work (hsparing : usage.Sparing output) (hcan : usage.running.stage.CanClose)
    (level : Nat) : (usage.perform (.work level)).Sparing (usage.follow output (.work level)) := by
  cases hstep : usage.running.stage.step usage.running.world level with
  | none => simpa [Usage.perform, follow, Running.work, hstep] using hsparing
  | some move =>
      have hspares := hsparing.spares.step hcan hsparing.awaits hstep
      have hawaits := hsparing.awaits.step hstep
      have hfollow : usage.follow output (.work level) = output.after level move.event := by
        simp [follow, Running.work, hstep]
      have hperform : usage.perform (.work level) =
          { usage with
            running := usage.running.after move
            record := usage.record ++ [.worked move.event] } := by
        simp [Usage.perform, Running.work, hstep]
      rw [hfollow, hperform]
      exact ⟨hspares, hawaits, fun number hheld =>
        output.subset_after_zero level move.event (hsparing.held number hheld)⟩

theorem receive (hsparing : usage.Sparing output) {number : Nat}
    (hmem : number ∈ usage.held ++
      (usage.running.receive.1.transaction?.map Transaction.number).toList) :
    number ∈ output 0 := by
  rcases List.mem_append.mp hmem with hold | hnew
  · exact hsparing.held number hold
  · have hreceived : usage.running.receive.1 = usage.outlet.offer := rfl
    rw [hreceived] at hnew
    cases hoffer : usage.outlet.offer with
    | transaction transaction =>
        obtain rfl : number = transaction.number := by
          simpa [hoffer, Received.transaction?] using hnew
        have hslot := Outlet.slot_of_offer hoffer
        exact (hsparing.spares.outlet.shown transaction hslot).1
    | pending | ended => simp [hoffer, Received.transaction?] at hnew

theorem perform (hsparing : usage.Sparing output) (hcan : usage.running.stage.CanClose)
    (move : UsageMove) : (usage.perform move).Sparing (usage.follow output move) := by
  have hobeyed (demand : Demand Stage) (hreplace : ∀ input, demand ≠ .replace input) :=
    hsparing.spares.obey hcan.plain demand hreplace
  have hwaiting (demand : Demand Stage) (hreplace : ∀ input, demand ≠ .replace input) :=
    hsparing.awaits.obey demand hreplace
  by_cases hwork : ∃ level, move = .work level
  · obtain ⟨level, rfl⟩ := hwork
    exact hsparing.work hcan level
  · have hfollow : usage.follow output move = output := by
      cases move with
      | work level => exact absurd ⟨level, rfl⟩ hwork
      | _ => rfl
    rw [hfollow]
    have hcase := usage.performs move
    generalize usage.perform move = after at hcase ⊢
    cases hcase with
    | idle => exact hsparing
    | worked => exact absurd ⟨_, rfl⟩ hwork
    | received =>
        exact ⟨hobeyed .take (by simp), hwaiting .take (by simp), fun _ => hsparing.receive⟩
    | closed => exact ⟨hobeyed .close (by simp), hwaiting .close (by simp), hsparing.held⟩
    | letGo => exact ⟨hobeyed .letGo (by simp), hwaiting .letGo (by simp), hsparing.held⟩
    | rewritten => exact ⟨hsparing.spares, hsparing.awaits, hsparing.held⟩
    | @pronounced number verdict =>
        have hsettles := usage.receipts.settles_pronounce number verdict
        refine ⟨hsparing.spares.settle hsettles,
          ⟨hsparing.awaits.once, fun awaited hmem => ?_⟩, fun other hother => ?_⟩
        · exact Receipts.lasts_pronounce (Receipt.lasts_isAwaited.imp id fun _ => trivial)
            (hsparing.awaits.awaited awaited hmem) verdict
        · exact hsparing.held other (List.mem_of_mem_erase hother)

theorem performAll (hsparing : usage.Sparing output) (hclosable : usage.Closable)
    (moves : List UsageMove) :
    (usage.performAll moves).Sparing (usage.followAll output moves) := by
  induction moves generalizing usage output with
  | nil => exact hsparing
  | cons move rest ih =>
      exact ih (hsparing.perform hclosable.stage move) (hclosable.perform move)

end Sparing

/-- How much is under way: of what the holder can reach at most one transaction is
unanswered, and of what the stage at any level has put out since it was built at
most one is. -/
structure InFlight (usage : Usage) (output : Output) : Prop where
  reachable : (usage.held ++ usage.outlet.buffered).length ≤ 1
  held : ∀ number ∈ usage.held, number ∈ output 0
  levels : ∀ level inside, usage.running.stage.inner? level = some inside →
    (∀ number ∈ inside.outlet.buffered, number ∈ output level) ∧
      ∀ number ∈ output level, ∀ other ∈ output level,
        (usage.receipts.get number).isOwed = true → (usage.receipts.get other).isOwed = true →
          number = other
  waits : usage.held ≠ [] → usage.running.receive.1.transaction? = none

/-- Whatever the leaf and the nesting, and whatever has happened before. -/
theorem one_in_flight {input : InputConfig} {world : World} {stage : Stage}
    (hbuild : Stage.build world.disk true input = .ok stage) (moves : List UsageMove) :
    ((Usage.start stage world).performAll moves).InFlight
      ((Usage.start stage world).followAll (fun _ => []) moves) := by
  have hfresh := Stage.isFresh_of_build hbuild
  have hsteady := steady_performAll hfresh world moves
  have hsparing := (Sparing.start hfresh world).performAll (.start hfresh world) moves
  generalize (Usage.start stage world).performAll moves = usage at hsteady hsparing ⊢
  refine ⟨hsteady.few, hsparing.held, fun level inside hinside => ⟨?_, ?_⟩, fun hheld => ?_⟩
  · intro number hbuffered
    obtain ⟨transaction, hslot, rfl⟩ : ∃ transaction,
        inside.outlet.slot = some transaction ∧ transaction.number = number := by
      simpa [Outlet.buffered] using hbuffered
    exact ((hsparing.spares.at_level hinside).shown transaction hslot).1
  · intro number hmade other hother howed hdue
    exact (hsparing.spares.at_level hinside).few other hother hdue number hmade howed
  · have hfew := hsteady.few
    have hlength : 0 < usage.held.length := List.length_pos_iff.mpr hheld
    have hnone : usage.outlet.slot = none := by
      by_contra hsome
      obtain ⟨transaction, hslot⟩ := Option.ne_none_iff_exists'.mp hsome
      simp only [Outlet.buffered, hslot, List.length_append, Option.map_some,
        Option.toList_some, List.length_singleton] at hfew
      omega
    have hreceived : usage.running.receive.1 = usage.outlet.offer := rfl
    rw [hreceived, Outlet.transaction?_offer, hnone]
    split <;> rfl

/-- The inner of two guards has been restarted after its message was accepted, and
the holder keeps what the fresh one handed on. -/
theorem one_in_flight_of_restart :
    ∃ (stage : Stage) (moves : List UsageMove) (usage : Usage) (output : Output),
      Stage.build (fun _ => .error .notFound) true
        (.readUntil (some (.readUntil (some (.memory ["a", "b"])) false (.count 1))) true
          (.count 5)) = .ok stage ∧
      usage = (Usage.start stage {}).performAll moves ∧
      output = (Usage.start stage {}).followAll (fun _ => []) moves ∧
      usage.held = [3] ∧ output 0 = [1, 3] ∧ output 1 = [3] ∧ output 2 = [2] ∧
      usage.InFlight output ∧ usage.running.receive.1.transaction? = none := by
  obtain ⟨stage, hbuild⟩ : ∃ stage, Stage.build (fun _ => .error .notFound) true
      (.readUntil (some (.readUntil (some (.memory ["a", "b"])) false (.count 1))) true
        (.count 5)) = .ok stage := ⟨_, rfl⟩
  have hstage := Stage.eq_of_build hbuild
  obtain ⟨moves, hmoves⟩ : ∃ moves : List UsageMove, moves =
      (List.replicate 8 [.work 0, .work 1, .work 2]).flatten ++
        [.receive, .pronounce 1 (some .ack)] ++
        (List.replicate 16 [.work 0, .work 1, .work 2]).flatten ++ [.receive] := ⟨_, rfl⟩
  have hflight : ((Usage.start stage {}).performAll moves).InFlight
      ((Usage.start stage {}).followAll (fun _ => []) moves) := one_in_flight hbuild moves
  have hheld : ((Usage.start stage {}).performAll moves).held = [3] := by
    subst hstage hmoves
    decide +kernel
  have houtput : ((Usage.start stage {}).followAll (fun _ => []) moves 0,
      (Usage.start stage {}).followAll (fun _ => []) moves 1,
      (Usage.start stage {}).followAll (fun _ => []) moves 2) = ([1, 3], [3], [2]) := by
    subst hstage hmoves
    decide +kernel
  obtain ⟨hroot, hinner, hleaf⟩ : _ ∧ _ ∧ _ := by simpa using houtput
  exact ⟨stage, moves, _, _, hbuild, rfl, rfl, hheld, hroot, hinner, hleaf, hflight,
    hflight.waits (by simp [hheld])⟩

end Usage

end Intake
