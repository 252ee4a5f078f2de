import Intake.Proofs.GuardConveyance
import Intake.Proofs.StageClosing

/-!
# One input after another

A guard that restarts its input has one input after another.  Here its inputs are
numbered in the order in which they are put in place, and each of them may make
transactions whenever it likes, also after the guard has let go of it.  What the
guard receives, it receives from the input that it holds.

The inputs it has let go of, and the one it holds, are counted by what its steps do
to the input and not by what the guard says of itself.
-/

namespace Intake

/-- Whether a step tried to build a fresh input. -/
def GuardEvent.builds : GuardEvent → Bool
  | .rebuilt | .rebuildFailed _ => true
  | _ => false

section Turns

variable {σ : Type} {sight : Sight σ} {receipts : Receipts} {guard : Guard}
  {move : GuardMove σ}

/-- What a step of a guard means for the input that it holds. -/
inductive Guard.Turn (sight : Sight σ) (guard : Guard) (move : GuardMove σ) : Prop where
  | kept (hcurrent : move.guard.current = guard.current) (hbuilds : move.event.builds = false)
      (hletGo : move.demand ≠ .letGo) (hreplace : ∀ input, move.demand ≠ .replace input)
  | ended (hphase : guard.phase = .receiving) (hoffer : sight.offer = .ended)
      (hcurrent : move.guard.current = false) (hbuilds : move.event.builds = false)
      (hdemand : move.demand = .letGo)
  | rebuilt {input : σ} (hphase : guard.phase = .deciding)
      (hopen : guard.outlet.shutdown.requested = false) (hrestart : guard.restart = true)
      (hbefore : guard.current = false) (hbuild : sight.rebuild () = .ok input)
      (hcurrent : move.guard.current = true) (hevent : move.event = .rebuilt)
      (hdemand : move.demand = .replace input)
  | failed {error : InputError} (hphase : guard.phase = .deciding)
      (hopen : guard.outlet.shutdown.requested = false) (hrestart : guard.restart = true)
      (hbefore : guard.current = false) (hbuild : sight.rebuild () = .error error)
      (hguard : move.guard = guard.enter (.leaving .restartFailed))
      (hevent : move.event = .rebuildFailed error) (hdemand : move.demand = .nothing)

theorem Guard.StepCase.turn (hcase : guard.StepCase sight receipts move) :
    guard.Turn sight move := by
  cases hcase with
  | inputEnded hphase _ hoffer => exact .ended hphase hoffer rfl rfl rfl
  | rebuilt hphase hopen hcurrent hrestart hbuild =>
      exact .rebuilt hphase hopen hrestart hcurrent hbuild rfl rfl rfl
  | rebuildFailed hphase hopen hcurrent hrestart hbuild =>
      exact .failed hphase hopen hrestart hcurrent hbuild rfl rfl rfl
  | _ => exact .kept rfl rfl (by simp) (by simp)

theorem Guard.StepCase.restart_eq (hcase : guard.StepCase sight receipts move) :
    move.guard.restart = guard.restart := by
  cases hcase <;> rfl

theorem Guard.StepCase.input_eq (hcase : guard.StepCase sight receipts move) :
    move.guard.input = guard.input := by
  cases hcase <;> rfl

theorem Guard.StepCase.requested_eq (hcase : guard.StepCase sight receipts move) :
    move.guard.outlet.shutdown.requested = guard.outlet.shutdown.requested := by
  cases hcase <;> rfl

/-- A guard has confirmed just if it is finished, before a step and after it. -/
theorem Guard.StepCase.closed_iff (hcase : guard.StepCase sight receipts move)
    (hclosed : guard.outlet.shutdown.closed = true ↔ ∃ exit, guard.phase = .finished exit) :
    move.guard.outlet.shutdown.closed = true ↔ ∃ exit, move.guard.phase = .finished exit := by
  cases hcase with
  | confirmed => exact ⟨fun _ => ⟨_, rfl⟩, fun _ => rfl⟩
  | _ => simp_all [Guard.enter, Outlet.put, Outlet.release]

end Turns

/-- A guard in a setting, with the inputs that have been put in place so far.  `held`
are those that it holds, `ended` those that it let go of when they had ended, and
`maker` tells which one made a transaction. -/
structure Succession where
  setting : Setting
  built : Nat := 1
  held : List Nat := [0]
  ended : List Nat := []
  maker : Nat → Nat := fun _ => 0

namespace Succession

variable {σ : Type}

def start (input : InputConfig) (restart : Bool) (condition : Condition) : Succession :=
  { setting := .start input restart condition }

def guard (succession : Succession) : Guard := succession.setting.guard

/-- How often a fresh input has been built, or could not be. -/
def attempts (succession : Succession) : Nat :=
  succession.setting.events.countP GuardEvent.builds

/-- Whether it is the input held that shows itself like this. -/
def offers (succession : Succession) (sight : Sight σ) : Bool :=
  match sight.offer with
  | .transaction offered => succession.held.head? == some (succession.maker offered.number)
  | .pending | .ended => true

/-- What the next step of the guard does to the input that it holds. -/
def demand (succession : Succession) (sight : Sight σ) : Demand σ :=
  if succession.setting.shows sight then
    ((succession.guard.step sight succession.setting.receipts).map GuardMove.demand).getD .nothing
  else .nothing

/-- Which inputs there are after a demand, where receiving gave what is offered. -/
def obey (succession : Succession) (offer : Received) : Demand σ → Succession
  | .letGo =>
      { succession with
        held := succession.held.tail
        ended := succession.ended ++ if offer = .ended then succession.held.take 1 else [] }
  | .replace _ =>
      { succession with
        held := succession.built :: succession.held
        built := succession.built + 1 }
  | .nothing | .take | .close => succession

/-- A move, made by one of the inputs if an input makes it. -/
def perform (succession : Succession) (maker : Nat) : SettingMove σ → Succession
  | .work sight =>
      if succession.offers sight then
        { succession.obey sight.offer (succession.demand sight) with
          setting := succession.setting.perform (.work sight) }
      else succession
  | .make message =>
      if maker < succession.built then
        { succession with
          setting := succession.setting.perform (.make message : SettingMove σ)
          maker := Function.update succession.maker succession.setting.receipts.next maker }
      else succession
  | move => { succession with setting := succession.setting.perform move }

def performAll (succession : Succession) (moves : List (Nat × SettingMove σ)) : Succession :=
  moves.foldl (fun succession move => succession.perform move.1 move.2) succession

theorem performAll_induction {motive : Succession → Prop} {succession : Succession}
    (hstart : motive succession)
    (hperform : ∀ (succession : Succession) (maker : Nat) (move : SettingMove σ),
      motive succession → motive (succession.perform maker move))
    (moves : List (Nat × SettingMove σ)) : motive (succession.performAll moves) := by
  induction moves generalizing succession with
  | nil => exact hstart
  | cons move rest ih => exact ih (hperform succession move.1 move.2 hstart)

/-- What a succession shares with what it is after a move that is no step of the guard. -/
structure Calm (before after : Succession) : Prop where
  undisturbed : before.setting.Undisturbed after.setting
  built : after.built = before.built
  held : after.held = before.held
  ended : after.ended = before.ended
  maker : ∀ number < before.setting.receipts.next, after.maker number = before.maker number

theorem Calm.of_perform {succession : Succession} {move : SettingMove σ}
    (hundisturbed : succession.setting.Undisturbed (succession.setting.perform move)) :
    succession.Calm { succession with setting := succession.setting.perform move } :=
  ⟨hundisturbed, rfl, rfl, rfl, fun _ _ => rfl⟩

theorem Calm.refl (succession : Succession) : succession.Calm succession :=
  ⟨⟨rfl, rfl, rfl, rfl, rfl, rfl⟩, rfl, rfl, rfl, fun _ _ => rfl⟩

theorem perform_work_cases (succession : Succession) (maker : Nat) (sight : Sight σ) :
    succession.perform maker (.work sight) = succession ∨
      ∃ step, succession.offers sight = true ∧ succession.setting.shows sight = true ∧
        Guard.StepCase sight succession.setting.receipts succession.guard step ∧
          succession.perform maker (.work sight) =
            { succession.obey sight.offer step.demand with
              setting := succession.setting.afterStep sight step } := by
  cases hoffers : succession.offers sight with
  | false => exact .inl (by simp [perform, hoffers])
  | true =>
      cases hshows : succession.setting.shows sight with
      | false =>
          left
          simp [perform, hoffers, demand, hshows, obey, Setting.perform]
      | true =>
          cases hstep : succession.setting.guard.step sight succession.setting.receipts with
          | none =>
              left
              simp [perform, hoffers, demand, hshows, obey, Setting.perform, guard, hstep]
          | some step =>
              right
              refine ⟨step, rfl, rfl, Guard.stepCase_of_step hstep, ?_⟩
              simp [perform, hoffers, demand, hshows, Setting.perform, guard, hstep]

/-- A move is a step of the guard, or changes nothing but what lies around it. -/
theorem perform_cases (succession : Succession) (maker : Nat) (move : SettingMove σ) :
    succession.Calm (succession.perform maker move) ∨
      ∃ (sight : Sight σ) (step : GuardMove σ), move = .work sight ∧
        succession.offers sight = true ∧ succession.setting.shows sight = true ∧
          Guard.StepCase sight succession.setting.receipts succession.guard step ∧
            succession.perform maker move =
              { succession.obey sight.offer step.demand with
                setting := succession.setting.afterStep sight step } := by
  cases move with
  | work sight =>
      rcases succession.perform_work_cases maker sight with hsame | ⟨step, hstep⟩
      · rw [hsame]
        exact .inl (.refl succession)
      · exact .inr ⟨sight, step, rfl, hstep⟩
  | make message =>
      left
      by_cases hmaker : maker < succession.built
      · rw [perform, if_pos hmaker]
        refine ⟨⟨rfl, rfl, rfl, rfl, rfl, rfl⟩, rfl, rfl, rfl, fun number hless => ?_⟩
        exact Function.update_of_ne (Nat.ne_of_lt hless) _ _
      · rw [perform, if_neg hmaker]
        exact .refl succession
  | settle transaction verdict | look number | withdraw number | pronounce number verdict =>
      left
      refine .of_perform ?_
      simp only [Setting.perform]
      split <;> exact ⟨rfl, rfl, rfl, rfl, rfl, rfl⟩
  | receive | close | refuse | letGo =>
      exact .inl (.of_perform ⟨rfl, rfl, rfl, rfl, rfl, rfl⟩)

theorem setting_perform (succession : Succession) (maker : Nat) (move : SettingMove σ) :
    (succession.perform maker move).setting = succession.setting ∨
      (succession.perform maker move).setting = succession.setting.perform move := by
  cases move with
  | work sight =>
      simp only [perform]
      split <;> simp
  | make message =>
      simp only [perform]
      split <;> simp
  | _ => exact .inr rfl

theorem setting_perform_of {motive : Setting → Prop} {succession : Succession}
    {move : SettingMove σ} (hbefore : motive succession.setting)
    (hafter : motive (succession.setting.perform move)) (maker : Nat) :
    motive (succession.perform maker move).setting := by
  rcases succession.setting_perform maker move with hsame | hperform
  · rwa [hsame]
  · rwa [hperform]

/-- What happens to the guard is what can happen to it in any setting. -/
theorem setting_performAll (succession : Succession) (moves : List (Nat × SettingMove σ)) :
    ∃ made : List (SettingMove σ),
      (succession.performAll moves).setting = succession.setting.performAll made := by
  induction moves generalizing succession with
  | nil => exact ⟨[], rfl⟩
  | cons move rest ih =>
      obtain ⟨made, hmade⟩ := ih (succession.perform move.1 move.2)
      rcases succession.setting_perform move.1 move.2 with hsame | hperform
      · exact ⟨made, hmade.trans (congrArg (Setting.performAll · made) hsame)⟩
      · exact ⟨move.2 :: made, hmade.trans (congrArg (Setting.performAll · made) hperform)⟩

/-! ## One at a time -/

/-- The inputs come in turn: all but the last one have ended and have been let go of,
and the last one is held as long as the guard has an input. -/
structure InTurn (succession : Succession) : Prop where
  holds : succession.held.length = if succession.guard.current then 1 else 0
  order : succession.ended ++ succession.held = List.range succession.built
  makers : (succession.setting.taken.map fun taken => succession.maker taken.number).Pairwise
    (· ≤ ·)
  bounded : ∀ taken ∈ succession.setting.taken, succession.maker taken.number < succession.built

section InTurn

variable {succession : Succession} {sight : Sight σ} {step : GuardMove σ}

theorem InTurn.start (input : InputConfig) (restart : Bool) (condition : Condition) :
    (Succession.start input restart condition).InTurn := by
  constructor <;> simp [Succession.start, Setting.start, guard]

/-- The input that is held is the last one. -/
theorem InTurn.held_eq (hturn : succession.InTurn) (hcurrent : succession.guard.current = true) :
    ∃ earlier, succession.built = earlier + 1 ∧ succession.held = [earlier] ∧
      succession.ended = List.range earlier := by
  obtain ⟨number, hheld⟩ : ∃ number, succession.held = [number] :=
    List.length_eq_one_iff.mp (by rw [hturn.holds, hcurrent]; rfl)
  have horder := hturn.order
  rw [hheld] at horder
  cases hbuilt : succession.built with
  | zero => simp [hbuilt] at horder
  | succ earlier =>
      rw [hbuilt, List.range_succ] at horder
      obtain ⟨hended, hnumber⟩ := List.append_inj' horder rfl
      exact ⟨earlier, rfl, by rw [hheld]; exact hnumber, hended⟩

theorem InTurn.held_eq_nil (hturn : succession.InTurn)
    (hcurrent : succession.guard.current = false) : succession.held = [] :=
  List.length_eq_zero_iff.mp (by rw [hturn.holds, hcurrent]; rfl)

theorem InTurn.calm {after : Succession} (hturn : succession.InTurn)
    (hsound : succession.setting.Sound) (hcalm : succession.Calm after) : after.InTurn := by
  have hmaker : ∀ taken ∈ succession.setting.taken,
      after.maker taken.number = succession.maker taken.number := fun taken htaken =>
    hcalm.maker _ (hsound.madeIssued _ (hsound.takenMade _ htaken))
  constructor
  · rw [hcalm.held, hturn.holds]
    exact congrArg (if · = true then 1 else 0) hcalm.undisturbed.current.symm
  · rw [hcalm.ended, hcalm.held, hcalm.built, hturn.order]
  · rw [hcalm.undisturbed.taken, List.map_congr_left hmaker]
    exact hturn.makers
  · intro taken htaken
    rw [hcalm.undisturbed.taken] at htaken
    rw [hcalm.built, hmaker taken htaken]
    exact hturn.bounded taken htaken

/-- What is taken was made by the input that is held. -/
theorem maker_of_takes (hoffers : succession.offers sight = true) {taken : Transaction}
    (htakes : step.takes? sight = some taken) :
    succession.held.head? = some (succession.maker taken.number) := by
  unfold GuardMove.takes? at htakes
  split at htakes
  · next offered _ hoffer =>
      obtain rfl := Option.some.inj htakes
      simpa [offers, hoffer] using hoffers
  · simp at htakes

theorem takes?_eq_none (hdemand : step.demand ≠ .take) : step.takes? sight = none := by
  unfold GuardMove.takes?
  split
  · next htake _ => exact absurd htake hdemand
  · rfl

theorem InTurn.keep (hturn : succession.InTurn) (hoffers : succession.offers sight = true)
    (hcurrent : step.guard.current = succession.guard.current)
    (hletGo : step.demand ≠ .letGo) (hreplace : ∀ input, step.demand ≠ .replace input) :
    InTurn { succession.obey sight.offer step.demand with
      setting := succession.setting.afterStep sight step } := by
  have hsame : succession.obey sight.offer step.demand = succession := by
    cases hdemand : step.demand with
    | letGo => exact absurd hdemand hletGo
    | replace input => exact absurd hdemand (hreplace input)
    | _ => rfl
  rw [hsame]
  have hnew : ∀ taken ∈ (step.takes? sight).toList,
      ∃ earlier, succession.maker taken.number = earlier ∧ succession.built = earlier + 1 := by
    intro taken htaken
    have hmaker := maker_of_takes hoffers (Option.mem_toList.mp htaken)
    cases hheld : succession.guard.current with
    | false => simp [hturn.held_eq_nil hheld] at hmaker
    | true =>
        obtain ⟨earlier, hbuilt, hlast, _⟩ := hturn.held_eq hheld
        rw [hlast] at hmaker
        exact ⟨earlier, (Option.some.inj hmaker).symm, hbuilt⟩
  constructor
  · exact hturn.holds.trans (congrArg (if · = true then 1 else 0) hcurrent.symm)
  · exact hturn.order
  · change ((succession.setting.taken ++ (step.takes? sight).toList).map _).Pairwise _
    rw [List.map_append, List.pairwise_append]
    refine ⟨hturn.makers, by cases step.takes? sight <;> simp, ?_⟩
    simp only [List.mem_map]
    rintro _ ⟨old, hold, rfl⟩ _ ⟨taken, htaken, rfl⟩
    obtain ⟨earlier, hmaker, hbuilt⟩ := hnew taken htaken
    have := hturn.bounded old hold
    omega
  · intro taken htaken
    rcases List.mem_append.mp htaken with hold | hlast
    · exact hturn.bounded taken hold
    · obtain ⟨earlier, hmaker, hbuilt⟩ := hnew taken hlast
      change succession.maker taken.number < succession.built
      omega

theorem InTurn.afterStep (hturn : succession.InTurn) (hending : succession.setting.Ending)
    (hoffers : succession.offers sight = true)
    (hcase : Guard.StepCase sight succession.setting.receipts succession.guard step) :
    InTurn { succession.obey sight.offer step.demand with
      setting := succession.setting.afterStep sight step } := by
  cases hcase.turn with
  | kept hcurrent _ hletGo hreplace => exact hturn.keep hoffers hcurrent hletGo hreplace
  | ended hphase hoffer hcurrent _ hdemand =>
      have hreading : succession.guard.current = true := by
        refine hending.current ?_
        rw [show succession.setting.guard.phase = .receiving from hphase]
        rfl
      obtain ⟨earlier, hbuilt, hheld, hended⟩ := hturn.held_eq hreading
      have htakes : step.takes? sight = none := takes?_eq_none (by simp [hdemand])
      have htaken : (succession.setting.afterStep sight step).taken = succession.setting.taken := by
        simp [Setting.afterStep, htakes]
      constructor
      · simp [obey, hdemand, hheld, guard, Setting.afterStep, hcurrent]
      · simp [obey, hdemand, hheld, hended, hbuilt, hoffer, List.range_succ]
      · rw [htaken, hdemand]
        exact hturn.makers
      · rw [htaken, hdemand]
        exact hturn.bounded
  | rebuilt _ _ _ hbefore _ hcurrent _ hdemand =>
      have hheld := hturn.held_eq_nil hbefore
      have horder := hturn.order
      have htakes : step.takes? sight = none := takes?_eq_none (by simp [hdemand])
      have htaken : (succession.setting.afterStep sight step).taken = succession.setting.taken := by
        simp [Setting.afterStep, htakes]
      constructor
      · simp [obey, hdemand, hheld, guard, Setting.afterStep, hcurrent]
      · rw [hheld, List.append_nil] at horder
        simp [obey, hdemand, hheld, horder, List.range_succ]
      · rw [htaken, hdemand]
        exact hturn.makers
      · intro taken hmem
        rw [htaken] at hmem
        rw [hdemand]
        exact Nat.lt_succ_of_lt (hturn.bounded taken hmem)
  | failed _ _ _ _ _ hguard _ hdemand =>
      exact hturn.keep hoffers (by rw [hguard]; rfl) (by simp [hdemand]) (by simp [hdemand])

end InTurn

end Succession

/-! ## When building fails -/

/-- What a guard does whose input could not be built again. -/
def farewell : List GuardEvent := [.left .restartFailed, .stopped, .released, .confirmed]

/-- Where such a guard stands after that many of these steps. -/
def GuardPhase.parting : Nat → GuardPhase
  | 0 => .leaving .restartFailed
  | 1 => .stopping .restartFailed
  | 2 => .releasing .restartFailed
  | 3 => .confirming .restartFailed
  | _ => .finished .restartFailed

/-- A turn of the guard at which its input shows it nothing to take. -/
def SettingMove.isTurn {σ : Type} : SettingMove σ → Bool
  | .work sight => sight.offer.transaction?.isNone
  | _ => false

namespace Setting

/-- A guard whose input could not be built again, for the first time after all that
happened before, and which has taken some of its last steps since. -/
structure Parting (setting : Setting) (before : List GuardEvent) (error : InputError)
    (said : Nat) : Prop where
  events : setting.events = before ++ .rebuildFailed error :: farewell.take said
  first : ∀ other, .rebuildFailed other ∉ before
  phase : setting.guard.phase = .parting said
  current : setting.guard.current = false
  said_le : said ≤ farewell.length

section Parting

variable {σ : Type} {setting : Setting} {sight : Sight σ} {step : GuardMove σ}
  {before : List GuardEvent} {error : InputError} {said : Nat}

theorem Parting.undisturbed {after : Setting} (hparting : setting.Parting before error said)
    (hundisturbed : setting.Undisturbed after) : after.Parting before error said :=
  ⟨hundisturbed.events.trans hparting.events, hparting.first,
    hundisturbed.phase.trans hparting.phase, hundisturbed.current.trans hparting.current,
    hparting.said_le⟩

theorem Parting.next (hparting : setting.Parting before error said) {event : GuardEvent}
    (hnext : farewell[said]? = some event) (hevent : step.event = event)
    (hphase : step.guard.phase = .parting (said + 1))
    (hcurrent : step.guard.current = setting.guard.current) :
    (setting.afterStep sight step).Parting before error (said + 1) := by
  refine ⟨?_, hparting.first, hphase, hcurrent.trans hparting.current, ?_⟩
  · have htake : farewell.take (said + 1) = farewell.take said ++ [event] := by
      rw [List.take_add_one, hnext]
      rfl
    simp [afterStep, hparting.events, htake, hevent]
  · exact (List.getElem?_eq_some_iff.mp hnext).1

theorem Parting.afterStep (hparting : setting.Parting before error said)
    (hcase : Guard.StepCase sight setting.receipts setting.guard step) :
    (setting.afterStep sight step).Parting before error (said + 1) := by
  have hnow := hparting.phase
  have hcurrent := hparting.current
  obtain rfl | rfl | rfl | rfl | rfl : said = 0 ∨ said = 1 ∨ said = 2 ∨ said = 3 ∨ said = 4 := by
    have := hparting.said_le
    simp only [farewell, List.length_cons, List.length_nil] at this
    omega
  · cases hcase with
    | leftAlone hphase =>
        obtain rfl : _ = Exit.restartFailed := GuardPhase.leaving.inj (hphase.symm.trans hnow)
        exact hparting.next rfl rfl rfl rfl
    | _ => simp_all [GuardPhase.parting]
  · cases hcase with
    | stopped hphase =>
        obtain rfl : _ = Exit.restartFailed := GuardPhase.stopping.inj (hphase.symm.trans hnow)
        exact hparting.next rfl rfl rfl rfl
    | _ => simp_all [GuardPhase.parting]
  · cases hcase with
    | released hphase =>
        obtain rfl : _ = Exit.restartFailed := GuardPhase.releasing.inj (hphase.symm.trans hnow)
        exact hparting.next rfl rfl rfl rfl
    | _ => simp_all [GuardPhase.parting]
  · cases hcase with
    | confirmed hphase =>
        obtain rfl : _ = Exit.restartFailed := GuardPhase.confirming.inj (hphase.symm.trans hnow)
        exact hparting.next rfl rfl rfl rfl
    | _ => simp_all [GuardPhase.parting]
  · cases hcase <;> simp_all [GuardPhase.parting]

theorem Parting.exists_step (hparting : setting.Parting before error said)
    (hopen : said < farewell.length) (sight : Sight σ) :
    ∃ step, setting.guard.step sight setting.receipts = some step := by
  have hphase := hparting.phase
  have hcurrent := hparting.current
  obtain rfl | rfl | rfl | rfl : said = 0 ∨ said = 1 ∨ said = 2 ∨ said = 3 := by
    simp only [farewell, List.length_cons, List.length_nil] at hopen
    omega
  all_goals simp [Guard.step, hphase, hcurrent, GuardPhase.parting]

end Parting

theorem closed_iff_perform {σ : Type} {setting : Setting} (move : SettingMove σ)
    (hclosed : setting.guard.outlet.shutdown.closed = true ↔
      ∃ exit, setting.guard.phase = .finished exit) :
    (setting.perform move).guard.outlet.shutdown.closed = true ↔
      ∃ exit, (setting.perform move).guard.phase = .finished exit := by
  cases move with
  | work sight =>
      rcases setting.perform_work_cases sight with hsame | ⟨step, _, hcase, hafter⟩
      · rw [hsame]
        exact hclosed
      · rw [hafter]
        exact hcase.closed_iff hclosed
  | settle transaction verdict | look number | withdraw number | pronounce number verdict =>
      simp only [perform]
      split <;> exact hclosed
  | make message | refuse => exact hclosed
  | receive | close | letGo => simpa [perform] using hclosed

theorem config_perform {σ : Type} (setting : Setting) (move : SettingMove σ) :
    (setting.perform move).guard.restart = setting.guard.restart ∧
      (setting.perform move).guard.input = setting.guard.input := by
  cases move with
  | work sight =>
      rcases setting.perform_work_cases sight with hsame | ⟨step, _, hcase, hafter⟩
      · rw [hsame]
        exact ⟨rfl, rfl⟩
      · rw [hafter]
        exact ⟨hcase.restart_eq, hcase.input_eq⟩
  | settle transaction verdict | look number | withdraw number | pronounce number verdict =>
      simp only [perform]
      split <;> exact ⟨rfl, rfl⟩
  | _ => exact ⟨rfl, rfl⟩

theorem requested_perform {σ : Type} (setting : Setting) (move : SettingMove σ)
    (hrequested : setting.guard.outlet.shutdown.requested = true) :
    (setting.perform move).guard.outlet.shutdown.requested = true := by
  cases move with
  | work sight =>
      rcases setting.perform_work_cases sight with hsame | ⟨step, _, hcase, hafter⟩
      · rw [hsame]
        exact hrequested
      · rw [hafter]
        exact hcase.requested_eq.trans hrequested
  | settle transaction verdict | look number | withdraw number | pronounce number verdict =>
      simp only [perform]
      split <;> exact hrequested
  | make message | refuse => exact hrequested
  | receive => simpa [perform] using hrequested
  | close | letGo => simp [perform]

end Setting

namespace Succession

section Parting

variable {σ : Type} {succession : Succession} {before : List GuardEvent} {error : InputError}
  {said : Nat}

theorem parting_perform (hparting : succession.setting.Parting before error said) (maker : Nat)
    (move : SettingMove σ) :
    (succession.perform maker move).setting.Parting before error said ∨
      (succession.perform maker move).setting.Parting before error (said + 1) := by
  rcases succession.perform_cases maker move with hcalm | ⟨sight, step, _, _, _, hcase, hafter⟩
  · exact .inl (hparting.undisturbed hcalm.undisturbed)
  · rw [hafter]
    exact .inr (hparting.afterStep hcase)

/-- The guard needs nothing from anyone for its last steps. -/
theorem parting_turn (hparting : succession.setting.Parting before error said)
    (hopen : said < farewell.length) (maker : Nat) {move : SettingMove σ}
    (hmove : move.isTurn = true) :
    (succession.perform maker move).setting.Parting before error (said + 1) := by
  cases move with
  | work sight =>
      obtain ⟨step, hstep⟩ := hparting.exists_step hopen sight
      have hquiet : succession.offers sight = true ∧ succession.setting.shows sight = true := by
        cases hoffer : sight.offer <;>
          simp_all [SettingMove.isTurn, offers, Setting.shows, Received.transaction?]
      have hafter : (succession.perform maker (.work sight)).setting =
          succession.setting.afterStep sight step := by
        simp [perform, hquiet, Setting.perform, hstep]
      rw [hafter]
      exact hparting.afterStep (Guard.stepCase_of_step hstep)
  | _ => simp [SettingMove.isTurn] at hmove

theorem parting_performAll (hparting : succession.setting.Parting before error said)
    (moves : List (Nat × SettingMove σ)) :
    ∃ more, (succession.performAll moves).setting.Parting before error more ∧
      min farewell.length (said + moves.countP fun move => move.2.isTurn) ≤ more := by
  induction moves generalizing succession said with
  | nil => exact ⟨said, hparting, Nat.min_le_right _ _⟩
  | cons move rest ih =>
      rw [List.countP_cons]
      by_cases hturn : move.2.isTurn = true ∧ said < farewell.length
      · obtain ⟨more, hmore, hless⟩ := ih (parting_turn hparting hturn.2 move.1 hturn.1)
        refine ⟨more, hmore, ?_⟩
        simp only [hturn.1, if_true]
        omega
      · have hsaid : ∃ next, (succession.perform move.1 move.2).setting.Parting before error next ∧
            said ≤ next := by
          rcases parting_perform hparting move.1 move.2 with hsame | hnext
          · exact ⟨said, hsame, Nat.le_refl _⟩
          · exact ⟨said + 1, hnext, Nat.le_succ _⟩
        obtain ⟨next, hnext, hle⟩ := hsaid
        obtain ⟨more, hmore, hless⟩ := ih hnext
        refine ⟨more, hmore, ?_⟩
        by_cases hmove : move.2.isTurn = true
        · have hdone : ¬said < farewell.length := fun hopen => hturn ⟨hmove, hopen⟩
          simp only [hmove, if_true]
          omega
        · simp only [hmove, Bool.false_eq_true, if_false]
          omega

/-- The last steps build nothing. -/
theorem countP_of_parting (hparting : succession.setting.Parting before error said)
    {counts : GuardEvent → Bool} (hfarewell : ∀ event ∈ farewell, counts event = false) :
    succession.setting.events.countP counts =
      (before ++ [GuardEvent.rebuildFailed error]).countP counts := by
  have hnone : (farewell.take said).countP counts = 0 :=
    List.countP_eq_zero.mpr fun event hevent => by
      simp [hfarewell event (List.mem_of_mem_take hevent)]
  rw [hparting.events, List.countP_append, List.countP_append, List.countP_cons,
    List.countP_cons, hnone, List.countP_nil]

theorem exit?_of_parting (hparting : succession.setting.Parting before error said) :
    succession.setting.guard.phase.exit? = some .restartFailed := by
  rw [hparting.phase]
  unfold GuardPhase.parting
  split <;> rfl

end Parting

/-! ## Whenever something is built -/

/-- What holds of a guard and its inputs all the time. -/
structure Known (input : InputConfig) (restart : Bool) (succession : Succession) : Prop where
  sound : succession.setting.Sound
  ending : succession.setting.Ending
  turn : succession.InTurn
  restart : succession.guard.restart = restart
  input : succession.guard.input = input
  replaced : succession.built = succession.setting.events.countP (· = .rebuilt) + 1
  closed : succession.guard.outlet.shutdown.closed = true ↔
    ∃ exit, succession.guard.phase = .finished exit
  failed : (∀ error, .rebuildFailed error ∉ succession.setting.events) ∨
    ∃ before error said, succession.setting.Parting before error said

/-- How a guard comes to build a fresh input. -/
structure Builds {σ : Type} (restart : Bool) (before after : Succession) (sight : Sight σ) :
    Prop where
  restart : restart = true
  /-- All inputs that there have been have ended and have been let go of. -/
  held : before.held = []
  ended : before.ended = List.range before.built
  unrequested : before.guard.outlet.shutdown.requested = false
  first : ∀ error, .rebuildFailed error ∉ before.setting.events
  once : after.attempts = before.attempts + 1
  outcome : match sight.rebuild () with
    | .ok _ => after.built = before.built + 1 ∧ after.held = [before.built]
    | .error error => after.built = before.built ∧
        after.setting.events = before.setting.events ++ [.rebuildFailed error]

section Known

variable {σ : Type} {input : InputConfig} {restart : Bool} {succession : Succession}

theorem Known.start (input : InputConfig) (restart : Bool) (condition : Condition) :
    (Succession.start input restart condition).Known input restart := by
  refine ⟨.start input restart condition, .start input restart condition,
    .start input restart condition, rfl, rfl, rfl, ?_, .inl ?_⟩ <;>
      simp [Succession.start, Setting.start, guard]

theorem Known.failed_afterStep (hknown : succession.Known input restart) {sight : Sight σ}
    {step : GuardMove σ}
    (hcase : Guard.StepCase sight succession.setting.receipts succession.guard step) :
    (∀ error, .rebuildFailed error ∉ (succession.setting.afterStep sight step).events) ∨
      ∃ before error said,
        (succession.setting.afterStep sight step).Parting before error said := by
  rcases hknown.failed with hnever | ⟨before, error, said, hparting⟩
  · have hevents : (succession.setting.afterStep sight step).events =
        succession.setting.events ++ [step.event] := rfl
    cases hcase.turn with
    | kept _ hbuilds | ended _ _ _ hbuilds =>
        left
        intro error hsaid
        rw [hevents, List.mem_append, List.mem_singleton] at hsaid
        rcases hsaid with hold | hnew
        · exact hnever error hold
        · simp [← hnew, GuardEvent.builds] at hbuilds
    | rebuilt _ _ _ _ _ _ hevent =>
        left
        intro error hsaid
        rw [hevents, List.mem_append, List.mem_singleton, hevent] at hsaid
        rcases hsaid with hold | hnew
        · exact hnever error hold
        · simp at hnew
    | @failed error _ _ _ hbefore _ hguard hevent =>
        right
        refine ⟨succession.setting.events, error, 0, ?_, hnever, ?_, ?_, Nat.zero_le _⟩
        · rw [hevents, hevent]
          rfl
        · exact congrArg Guard.phase hguard
        · exact (congrArg Guard.current hguard).trans hbefore
  · exact .inr ⟨before, error, said + 1, hparting.afterStep hcase⟩

theorem Known.replaced_afterStep (hknown : succession.Known input restart) {sight : Sight σ}
    {step : GuardMove σ}
    (hcase : Guard.StepCase sight succession.setting.receipts succession.guard step) :
    (succession.obey sight.offer step.demand).built =
      (succession.setting.afterStep sight step).events.countP (· = .rebuilt) + 1 := by
  have hevents : (succession.setting.afterStep sight step).events =
      succession.setting.events ++ [step.event] := rfl
  rw [hevents, List.countP_append]
  have hreplaced := hknown.replaced
  cases hcase.turn with
  | kept _ hbuilds hletGo hreplace =>
      have hevent : step.event ≠ .rebuilt := fun heq => by
        simp [heq, GuardEvent.builds] at hbuilds
      have hsame : (succession.obey sight.offer step.demand).built = succession.built := by
        cases hdemand : step.demand with
        | replace input => exact absurd hdemand (hreplace input)
        | _ => rfl
      simp [hsame, hreplaced, hevent]
  | ended _ _ _ hbuilds hdemand =>
      have hevent : step.event ≠ .rebuilt := fun heq => by
        simp [heq, GuardEvent.builds] at hbuilds
      simp [hdemand, obey, hreplaced, hevent]
  | rebuilt _ _ _ _ _ _ hevent hdemand => simp [hdemand, obey, hreplaced, hevent]
  | failed _ _ _ _ _ _ hevent hdemand => simp [hdemand, obey, hreplaced, hevent]

theorem Known.perform (hknown : succession.Known input restart) (maker : Nat)
    (move : SettingMove σ) : (succession.perform maker move).Known input restart := by
  have hconfig := succession.setting.config_perform move
  have hclosed := Setting.closed_iff_perform move hknown.closed
  have hrestart : (succession.perform maker move).guard.restart = restart :=
    setting_perform_of (motive := fun setting => setting.guard.restart = restart)
      hknown.restart (hconfig.1.trans hknown.restart) maker
  have hinput : (succession.perform maker move).guard.input = input :=
    setting_perform_of (motive := fun setting => setting.guard.input = input)
      hknown.input (hconfig.2.trans hknown.input) maker
  refine ⟨setting_perform_of hknown.sound (hknown.sound.perform move) maker,
    setting_perform_of hknown.ending (hknown.ending.perform move) maker, ?_, hrestart, hinput,
    ?_, setting_perform_of (motive := fun setting =>
      setting.guard.outlet.shutdown.closed = true ↔ ∃ exit, setting.guard.phase = .finished exit)
      hknown.closed hclosed maker, ?_⟩
  all_goals
    rcases succession.perform_cases maker move with
      hcalm | ⟨sight, step, _, hoffers, _, hcase, hafter⟩
  · exact hknown.turn.calm hknown.sound hcalm
  · rw [hafter]
    exact hknown.turn.afterStep hknown.ending hoffers hcase
  · rw [hcalm.built, hcalm.undisturbed.events]
    exact hknown.replaced
  · rw [hafter]
    exact hknown.replaced_afterStep hcase
  · rcases hknown.failed with hnever | ⟨before, error, said, hparting⟩
    · exact .inl fun error => by
        rw [hcalm.undisturbed.events]
        exact hnever error
    · exact .inr ⟨before, error, said, hparting.undisturbed hcalm.undisturbed⟩
  · rw [hafter]
    exact hknown.failed_afterStep hcase

theorem Known.performAll (hknown : succession.Known input restart)
    (moves : List (Nat × SettingMove σ)) :
    (succession.performAll moves).Known input restart :=
  performAll_induction hknown (fun _ maker move hknown => hknown.perform maker move) moves

theorem Known.unfailed (hknown : succession.Known input restart)
    (hphase : succession.guard.phase = .deciding) (error : InputError) :
    .rebuildFailed error ∉ succession.setting.events := by
  rcases hknown.failed with hnever | ⟨_, _, said, hparting⟩
  · exact hnever error
  · have hother : GuardPhase.parting said = .deciding := hparting.phase.symm.trans hphase
    unfold GuardPhase.parting at hother
    split at hother <;> simp at hother

/-- A move builds nothing, or has every reason to. -/
theorem Known.builds_perform (hknown : succession.Known input restart) (maker : Nat)
    (move : SettingMove σ) :
    (succession.perform maker move).attempts = succession.attempts ∧
        (succession.perform maker move).built = succession.built ∨
      ∃ sight, move = .work sight ∧
        Builds restart succession (succession.perform maker move) sight := by
  rcases succession.perform_cases maker move with
    hcalm | ⟨sight, step, hmove, _, _, hcase, hafter⟩
  · left
    exact ⟨congrArg (List.countP GuardEvent.builds) hcalm.undisturbed.events, hcalm.built⟩
  · have hattempts : (succession.perform maker move).attempts =
        succession.attempts + if step.event.builds then 1 else 0 := by
      rw [hafter]
      simp [attempts, Setting.afterStep, List.countP_append, List.countP_cons]
    have hbuilt : (succession.perform maker move).built =
        (succession.obey sight.offer step.demand).built := by
      rw [hafter]
    cases hcase.turn with
    | kept _ hbuilds hletGo hreplace =>
        left
        refine ⟨by rw [hattempts, hbuilds]; rfl, ?_⟩
        rw [hbuilt]
        cases hdemand : step.demand with
        | replace input => exact absurd hdemand (hreplace input)
        | _ => rfl
    | ended _ _ _ hbuilds hdemand =>
        left
        exact ⟨by rw [hattempts, hbuilds]; rfl, by rw [hbuilt, hdemand]; rfl⟩
    | rebuilt hphase hopen hrestart hbefore hbuild _ hevent hdemand =>
        have hheld := hknown.turn.held_eq_nil hbefore
        have horder := hknown.turn.order
        rw [hheld, List.append_nil] at horder
        refine .inr ⟨sight, hmove, hknown.restart.symm.trans hrestart, hheld, horder, hopen,
          hknown.unfailed hphase, by rw [hattempts, hevent]; rfl, ?_⟩
        rw [hbuild]
        refine ⟨by rw [hbuilt, hdemand]; rfl, ?_⟩
        rw [hafter, hdemand]
        simp [obey, hheld]
    | failed hphase hopen hrestart hbefore hbuild _ hevent hdemand =>
        have hheld := hknown.turn.held_eq_nil hbefore
        have horder := hknown.turn.order
        rw [hheld, List.append_nil] at horder
        refine .inr ⟨sight, hmove, hknown.restart.symm.trans hrestart, hheld, horder, hopen,
          hknown.unfailed hphase, by rw [hattempts, hevent]; rfl, ?_⟩
        rw [hbuild]
        refine ⟨by rw [hbuilt, hdemand]; rfl, ?_⟩
        rw [hafter, ← hevent]
        rfl

theorem requested_perform (hrequested : succession.guard.outlet.shutdown.requested = true)
    (maker : Nat) (move : SettingMove σ) :
    (succession.perform maker move).guard.outlet.shutdown.requested = true :=
  setting_perform_of (motive := fun setting => setting.guard.outlet.shutdown.requested = true)
    hrequested (succession.setting.requested_perform move hrequested) maker

/-- A guard that has been asked to close builds nothing ever again. -/
theorem Known.attempts_of_requested (hknown : succession.Known input restart)
    (hrequested : succession.guard.outlet.shutdown.requested = true)
    (moves : List (Nat × SettingMove σ)) :
    (succession.performAll moves).attempts = succession.attempts ∧
      (succession.performAll moves).built = succession.built := by
  induction moves generalizing succession with
  | nil => exact ⟨rfl, rfl⟩
  | cons move rest ih =>
      have hrest := ih (hknown.perform move.1 move.2)
        (requested_perform hrequested move.1 move.2)
      rcases hknown.builds_perform move.1 move.2 with hsame | ⟨_, _, hbuilds⟩
      · exact ⟨hrest.1.trans hsame.1, hrest.2.trans hsame.2⟩
      · simp [hbuilds.unrequested] at hrequested

end Known

/-! ## The whole of it -/

/-- How a guard ends whose input could not be built again. -/
structure GivesUp (σ : Type) (succession : Succession) (error : InputError) : Prop where
  held : succession.held = []
  /-- It was the first time, and since then the guard has taken no steps but its last ones. -/
  farewell : ∃ before said,
    succession.setting.events = before ++ .rebuildFailed error :: farewell.take said ∧
      ∀ other, .rebuildFailed other ∉ before
  still : ∀ moves : List (Nat × SettingMove σ),
    (succession.performAll moves).attempts = succession.attempts ∧
      (succession.performAll moves).built = succession.built ∧
        (succession.performAll moves).setting.put = succession.setting.put
  /-- It needs nothing but its own turns to confirm that it has closed. -/
  closes : ∀ moves : List (Nat × SettingMove σ),
    Intake.farewell.length ≤ moves.countP (fun move => move.2.isTurn) →
      (succession.performAll moves).guard.outlet.shutdown.closed = true

/-- How a guard with a condition has one input after another. -/
structure Disciplined (σ : Type) (input : InputConfig) (restart : Bool) (condition : Condition)
    (succession : Succession) : Prop where
  one : succession.held.length ≤ 1
  inTurn : succession.ended ++ succession.held = List.range succession.built
  builds : ∀ (maker : Nat) (move : SettingMove σ),
    (succession.perform maker move).attempts = succession.attempts ∧
        (succession.perform maker move).built = succession.built ∨
      ∃ sight, move = .work sight ∧
        Builds restart succession (succession.perform maker move) sight
  requested : succession.guard.outlet.shutdown.requested = true →
    ∀ moves : List (Nat × SettingMove σ),
      (succession.performAll moves).attempts = succession.attempts ∧
        (succession.performAll moves).built = succession.built
  failed : ∀ error, .rebuildFailed error ∈ succession.setting.events →
    succession.GivesUp σ error
  /-- What has been handed on is the first part of what was taken, which the inputs made
  in turn. -/
  handedOn : ∃ sources, sources <+: succession.setting.taken ∧
    List.Forall₂ (ComesOf succession.setting.made) succession.setting.put
      (Setting.marks condition sources) ∧
    (sources.map fun taken => succession.maker taken.number).Pairwise (· ≤ ·)
  /-- The condition has checked all that was taken, whichever input made it. -/
  condition : succession.guard.condition =
    (condition.checkAll (succession.setting.taken.map Transaction.payload)).2
  /-- Around a stage, the fresh input is what building makes of the configuration. -/
  afresh : ∀ (world : World) (wrapped : Stage) (move : StageMove),
    (Stage.guard succession.guard wrapped).step world 0 = some move →
      move.event = .guard .rebuilt →
        ∃ after fresh, move.stage = .guard after fresh ∧
          Stage.build world.disk true input = .ok fresh ∧ fresh.IsFresh ∧
            after.condition = succession.guard.condition

section Disciplined

variable {σ : Type} {input : InputConfig} {restart : Bool} {succession : Succession}

theorem Known.givesUp (hknown : succession.Known input restart) {error : InputError}
    (hsaid : .rebuildFailed error ∈ succession.setting.events) :
    succession.GivesUp σ error := by
  rcases hknown.failed with hnever | ⟨before, other, said, hparting⟩
  · exact absurd hsaid (hnever error)
  obtain rfl : error = other := by
    rw [hparting.events, List.mem_append, List.mem_cons] at hsaid
    rcases hsaid with hold | hnow | hlater
    · exact absurd hold (hparting.first error)
    · simpa using hnow
    · have hmem := List.mem_of_mem_take hlater
      simp [farewell] at hmem
  refine ⟨hknown.turn.held_eq_nil hparting.current, ⟨before, said, hparting.events,
    hparting.first⟩, fun moves => ?_, fun moves hturns => ?_⟩
  · obtain ⟨more, hmore, _⟩ := parting_performAll hparting moves
    have hlater := hknown.performAll moves
    have hbuilds : ∀ event ∈ farewell, event.builds = false := by
      simp [farewell, GuardEvent.builds]
    have hrebuilt : ∀ event ∈ farewell, decide (event = .rebuilt) = false := by
      simp [farewell]
    refine ⟨?_, ?_, ?_⟩
    · exact (countP_of_parting hmore hbuilds).trans (countP_of_parting hparting hbuilds).symm
    · rw [hlater.replaced, hknown.replaced, countP_of_parting hmore hrebuilt,
        countP_of_parting hparting hrebuilt]
    · obtain ⟨made, hmade⟩ := succession.setting_performAll moves
      rw [hmade]
      exact (Setting.idle_performAll (exit?_of_parting hparting) made).put
  · obtain ⟨more, hmore, hless⟩ := parting_performAll hparting moves
    obtain rfl : more = farewell.length := by
      have := hmore.said_le
      omega
    exact (hknown.performAll moves).closed.mpr ⟨.restartFailed, hmore.phase⟩

theorem rebuilt_afresh {guard : Guard} {world : World} {wrapped : Stage} {move : StageMove}
    (hstep : (Stage.guard guard wrapped).step world 0 = some move)
    (hevent : move.event = .guard .rebuilt) :
    ∃ after fresh, move.stage = .guard after fresh ∧
      Stage.build world.disk true guard.input = .ok fresh ∧ fresh.IsFresh ∧
        after.condition = guard.condition := by
  cases Stage.stepCase_of_step hstep with
  | guard hguard =>
      cases Guard.stepCase_of_step hguard with
      | rebuilt _ _ _ _ hbuild =>
          have hfresh := Stage.build_of_rebuild hbuild
          exact ⟨_, _, rfl, hfresh, Stage.isFresh_of_build hfresh, rfl⟩
      | _ => simp at hevent

/-- Whatever the inputs and the holder do, and however often building fails. -/
theorem restarts_in_turn (input : InputConfig) (restart : Bool) (condition : Condition)
    (moves : List (Nat × SettingMove σ)) :
    ((Succession.start input restart condition).performAll moves).Disciplined σ input restart
      condition := by
  have hknown := (Known.start input restart condition).performAll moves
  obtain ⟨made, hmade⟩ := (Succession.start input restart condition).setting_performAll moves
  obtain ⟨done, lost, hconveyed⟩ := Setting.conveyed_performAll input restart condition made
  change _ = (Setting.start input restart condition).performAll made at hmade
  rw [← hmade] at hconveyed
  generalize (Succession.start input restart condition).performAll moves = succession
    at hknown hconveyed ⊢
  refine ⟨?_, hknown.turn.order, hknown.builds_perform, hknown.attempts_of_requested,
    fun error hsaid => hknown.givesUp hsaid, ⟨done, ?_, hconveyed.handedOn, ?_⟩,
    hconveyed.checked, fun world wrapped move hstep hevent => ?_⟩
  · rw [hknown.turn.holds]
    split <;> omega
  · exact ⟨_, hconveyed.taken.symm⟩
  · have hmakers := hknown.turn.makers
    rw [hconveyed.taken, List.map_append, List.pairwise_append] at hmakers
    exact hmakers.1
  · rw [← hknown.input]
    exact rebuilt_afresh hstep hevent

-- The second input goes on where the first one has ended, and a third one cannot be built.
example :
    let shown (offer : Received) (fresh : Except InputError Unit) : SettingMove Unit :=
      .work ⟨offer, false, fun _ => fresh⟩
    let turn := shown .pending (.ok ())
    let succession := (Succession.start (.memory []) true (.static false)).performAll
      [(0, .make (.single [1])), (0, turn), (0, turn),
        (0, shown (.transaction ⟨0, .single [1]⟩) (.ok ())), (0, turn), (0, .receive), (0, turn),
        (0, shown .ended (.ok ())), (0, turn), (1, .make (.single [2])),
        (0, shown (.transaction ⟨1, .single [2]⟩) (.ok ())), (0, turn), (0, .receive), (0, turn),
        (0, shown .ended (.ok ())), (0, shown .pending (.error .missingChild)),
        (0, turn), (0, turn), (0, turn), (0, turn)]
    succession.setting.put.map Transaction.payload = [.single [1], .single [2]] ∧
      succession.held = [] ∧ succession.ended = [0, 1] ∧ succession.built = 2 ∧
        succession.attempts = 2 ∧ succession.guard.outlet.shutdown.closed = true := by
  decide +kernel

end Disciplined

end Succession

end Intake
