import Intake.Proofs.SerialNesting
import Intake.Proofs.StagePoise
import Intake.Proofs.StageReaching

/-!
# Transactions on their errands

A transaction that a guard takes out of the stage inside is on an errand: its message
goes outward from guard to guard until the holder of the outermost one has it, and the
verdict on it comes back inward.  A guard whose condition was not met gives the
transaction itself away, so the verdict passes it by.  One whose condition was met
gives away a transaction of its own and answers the one that it took when it sees the
verdict.

Here the outermost guards of a stage are followed, given by their conditions, the
outermost one first.  None of them is to be restarted, their conditions do not change,
and no message that met one of them has been accepted yet.
-/

namespace Intake

/-- The verdict that a guard passes on: a response is needed for a message that met its
condition. -/
def Verdict.relayed (met : Bool) (verdict : Verdict) : Verdict :=
  if met then some (verdict.getD (.nack droppedCause)) else verdict

@[simp] theorem Verdict.relayed_false (verdict : Verdict) : verdict.relayed false = verdict := rfl

/-- What has become of the transactions that the innermost of some guards takes. -/
inductive Errand where
  /-- All have been answered. -/
  | idle
  /-- One has not been answered by the holder of the outermost guard. -/
  | out (transaction : Transaction)
  /-- One has, and the verdict is on its way back. -/
  | back (transaction : Transaction) (verdict : Verdict)

/-- The transaction that is on its errand. -/
def Errand.transaction? : Errand → Option Transaction
  | .idle => none
  | .out transaction | .back transaction _ => some transaction

/-- The transaction that a guard received. -/
def Event.taken? : Event → Option Transaction
  | .guard (.received transaction _) => some transaction
  | _ => none

/-- The transaction that was taken out of the stage at some depth when the worker at a
level took a step. -/
def Event.takenFrom? (event : Event) (depth level : Nat) : Option Transaction :=
  if level + 1 = depth then event.taken? else none

@[simp] theorem Event.takenFrom?_succ (event : Event) (depth level : Nat) :
    event.takenFrom? (depth + 1) (level + 1) = event.takenFrom? depth level := by
  simp [takenFrom?]

/-- What a step can make of an errand, given what was taken. -/
inductive Errand.Goes (before after : Receipts) :
    Option Transaction → Errand → Errand → Prop where
  | stays (errand : Errand) : Goes before after none errand errand
  | leaves (transaction : Transaction) :
      Goes before after (some transaction) .idle (.out transaction)
  | returns {transaction : Transaction} {verdict : Verdict}
      (hopen : before.get transaction.number = .open)
      (hget : after.get transaction.number = Receipt.open.pronounce verdict) :
      Goes before after none (.back transaction verdict) .idle

/-- A guard that turns to an input poised in some way, with what is on its errand inside
and what is as the guard has it. -/
inductive Guard.Conveys (receipts : Receipts) (guard : Guard) (condition : Condition) :
    Standing → Errand → Standing → Errand → Prop where
  | reading {inside : Standing} {errand : Errand} (houtlet : guard.outlet = {})
      (hphase : guard.phase = .starting ∨ guard.phase.IsWaiting) (hinside : inside.held = []) :
      Conveys receipts guard condition inside errand .working errand
  | holding {transaction first : Transaction} (houtlet : guard.outlet = {})
      (hphase : guard.phase =
        if condition.meets transaction.payload then .intercepting transaction
        else .forwarding transaction)
      (hpayload : transaction.payload = first.payload) :
      Conveys receipts guard condition (.lent transaction.number) (.out first) .working
        (.out first)
  | passed {standing : Standing} {number : Nat} {first : Transaction}
      (houtlet : guard.outlet = { slot := standing.slot }) (hphase : guard.phase.IsWaiting)
      (hnumber : standing.number? = some number)
      (hpayload : ∀ transaction ∈ standing.slot, transaction.payload = first.payload)
      (hunmet : condition.meets first.payload = false) :
      Conveys receipts guard condition (.lent number) (.out first) standing (.out first)
  | intercepted {standing : Standing} {candidate number : Nat} {first : Transaction}
      (houtlet : guard.outlet = { slot := standing.slot })
      (hphase : guard.phase = .awaiting candidate number)
      (hnumber : standing.number? = some number) (hlater : candidate < number)
      (hopen : receipts.get number = .open)
      (hpayload : ∀ transaction ∈ standing.slot, transaction.payload = first.payload)
      (hmet : condition.meets first.payload = true) :
      Conveys receipts guard condition (.lent candidate) (.out first) standing (.out first)
  | answered {candidate number : Nat} {first : Transaction} {verdict : Verdict}
      (houtlet : guard.outlet = {}) (hphase : guard.phase = .awaiting candidate number)
      (hlater : candidate < number)
      (hget : receipts.get number = Receipt.open.pronounce verdict)
      (hrejected : verdict.accepts = false) :
      Conveys receipts guard condition (.lent candidate) (.out first) .working
        (.back first (verdict.relayed true))

theorem Standing.Becomes.held_eq_nil {before after : Receipts} {standing other : Standing}
    (hbecomes : standing.Becomes before after other) (hheld : standing.held = []) :
    other.held = [] := by
  cases hbecomes with
  | works hnothing => exact hnothing
  | waits | ends => exact hheld

theorem Errand.Goes.of_out {before after : Receipts} {taken : Option Transaction}
    {transaction : Transaction} {errand : Errand}
    (hgoes : (Errand.out transaction).Goes before after taken errand) :
    taken = none ∧ errand = .out transaction := by
  cases hgoes
  exact ⟨rfl, rfl⟩

theorem Errand.Goes.of_not_taken {before after : Receipts} {event : GuardEvent}
    (hnothing : (Event.guard event).taken? = none) (errand : Errand) (depth : Nat) :
    errand.Goes before after ((Event.guard event).takenFrom? depth 0) errand := by
  rw [Event.takenFrom?, hnothing, ite_self]
  exact .stays errand

namespace Guard.Conveys

variable {receipts : Receipts} {guard : Guard} {condition : Condition}
  {inside standing : Standing} {within errand : Errand}

theorem lent_of_held (hguard : guard.Conveys receipts condition inside within standing errand)
    (hheld : inside.held ≠ []) :
    ∃ number first, inside = .lent number ∧ within = .out first := by
  cases hguard with
  | reading _ _ hinside => exact absurd hinside hheld
  | _ => exact ⟨_, _, rfl, rfl⟩

theorem becomes_self {before after : Receipts}
    (hguard : guard.Conveys receipts condition inside within standing errand)
    (hsame : after = before) : standing.Becomes before after standing := by
  cases hguard with
  | reading | holding | answered => exact .works rfl
  | passed _ _ hnumber | intercepted _ _ hnumber => exact .waits hnumber hsame

end Guard.Conveys

/-- Some of the outermost guards of a stage have ended. -/
inductive Stage.HasEnded : List Condition → Stage → Prop where
  | bare (stage : Stage) : HasEnded [] stage
  | guard {condition : Condition} {conditions : List Condition} {head : Guard}
      {wrapped : Stage} {exit : Exit}
      (hphase : head.phase = .confirming exit ∨ head.phase = .finished exit)
      (hwrapped : HasEnded conditions wrapped) :
      HasEnded (condition :: conditions) (.guard head wrapped)

/-- A stage whose outermost guards have some conditions is poised in some way, and what
the innermost of these guards took is on some errand. -/
inductive Stage.Conveys (receipts : Receipts) :
    List Condition → Stage → Standing → Errand → Prop where
  | bare {stage : Stage} {standing : Standing} (hpoised : stage.Poised receipts standing)
      (hheld : standing.held = []) : Conveys receipts [] stage standing .idle
  | lent {stage : Stage} {transaction : Transaction}
      (hpoised : stage.Poised receipts (.lent transaction.number)) :
      Conveys receipts [] stage (.lent transaction.number) (.out transaction)
  | turned {condition : Condition} {conditions : List Condition} {head : Guard}
      {wrapped : Stage} {inside standing : Standing} {within errand : Errand}
      (hrestart : head.restart = false) (hcondition : head.condition = condition)
      (hcurrent : head.current = true)
      (hhead : head.Conveys receipts condition inside within standing errand)
      (hwrapped : Conveys receipts conditions wrapped inside within) :
      Conveys receipts (condition :: conditions) (.guard head wrapped) standing errand
  | apart {condition : Condition} {conditions : List Condition} {head : Guard}
      {wrapped : Stage} {standing : Standing} (hrestart : head.restart = false)
      (hcurrent : head.current = false) (hhead : head.Apart standing)
      (hwrapped : wrapped.HasEnded conditions) :
      Conveys receipts (condition :: conditions) (.guard head wrapped) standing .idle

/-! ## Guards that have ended -/

namespace Stage.HasEnded

variable {conditions : List Condition} {stage : Stage}

theorem withOutlet (hended : stage.HasEnded conditions) (outlet : Outlet) :
    (stage.withOutlet outlet).HasEnded conditions := by
  cases hended with
  | bare => exact .bare _
  | guard hphase hwrapped => exact .guard hphase hwrapped

/-- What lies inside can do as it likes, but nothing is taken out of it. -/
theorem step {world : World} {level : Nat} {move : StageMove}
    (hended : stage.HasEnded conditions) (hstep : stage.step world level = some move) :
    move.stage.HasEnded conditions ∧
      move.event.takenFrom? conditions.length level = none := by
  induction hended generalizing level move with
  | bare => exact ⟨.bare _, by simp [Event.takenFrom?]⟩
  | guard hphase hwrapped ih =>
      cases level with
      | zero =>
          obtain ⟨step, hguard, rfl⟩ := Stage.step_zero_guard hstep
          cases Guard.stepCase_of_step hguard with
          | confirmed =>
              exact ⟨.guard (.inr rfl) hwrapped, by simp [Event.takenFrom?, Event.taken?]⟩
          | _ => simp_all
      | succ level =>
          obtain ⟨inner, hinner, rfl⟩ := Stage.step_succ_guard hstep
          obtain ⟨hinside, hnothing⟩ := ih hinner
          exact ⟨.guard hphase hinside, by simpa using hnothing⟩

end Stage.HasEnded

namespace Stage.Conveys

/-! ## What a holder sees and does -/

section Holder

variable {receipts : Receipts} {conditions : List Condition} {stage : Stage}
  {standing : Standing} {errand : Errand} {transaction : Transaction} {number : Nat}

theorem poised (hconveys : stage.Conveys receipts conditions standing errand) :
    stage.Poised receipts standing := by
  induction hconveys with
  | bare hpoised | lent hpoised => exact hpoised
  | turned _ _ hcurrent hhead _ ih =>
      cases hhead with
      | reading houtlet hphase hinside =>
          exact .turned (.reading houtlet hcurrent hphase hinside) ih
      | @holding transaction _ houtlet hphase =>
          refine .turned (.holding houtlet ?_ hcurrent) ih
          rw [hphase]
          split <;> simp
      | passed houtlet hphase hnumber =>
          exact .turned (.passed houtlet hcurrent hphase hnumber) ih
      | intercepted houtlet hphase hnumber hlater hopen =>
          exact .turned (.intercepted houtlet hcurrent hphase hnumber hlater hopen) ih
      | answered houtlet hphase hlater hget =>
          exact .turned (.answered houtlet hcurrent hphase hlater hget) ih
  | apart _ _ hhead => exact .apart hhead

/-- What is built around an input has sent nothing on its errand. -/
theorem of_build {disk : Disk} {input : InputConfig} {configs : List ConditionConfig}
    (hbuilt : List.Forall₂ (fun config condition => Condition.build config = .ok condition)
      configs conditions) (hbuild : Stage.build disk true (input.within configs) = .ok stage)
    (receipts : Receipts) : stage.Conveys receipts conditions .working .idle := by
  induction hbuilt generalizing stage with
  | nil => exact .bare (.of_isFresh (Stage.isFresh_of_build hbuild) receipts) rfl
  | @cons config condition rest _ hcondition _ ih =>
      cases hinside : Stage.build disk true (input.within rest) with
      | error failure => simp [InputConfig.within, Stage.build, hinside] at hbuild
      | ok wrapped =>
          simp only [InputConfig.within, Stage.build, hinside, hcondition, Bool.not_true,
            Bool.false_eq_true, if_false, Except.ok.injEq] at hbuild
          subst hbuild
          exact .turned rfl rfl rfl (.reading rfl (.inl rfl) rfl) (ih hinside)

/-- Whoever made a transaction that is on its errand has not been told anything. -/
theorem get_eq_open (hconveys : stage.Conveys receipts conditions standing errand)
    (hout : errand.transaction? = some transaction) :
    receipts.get transaction.number = .open := by
  induction hconveys with
  | bare | apart => simp [Errand.transaction?] at hout
  | lent hpoised =>
      cases hout
      exact hpoised.get_eq_open rfl
  | turned _ _ _ hhead _ ih =>
      cases hhead with
      | reading => exact ih hout
      | _ =>
          cases hout
          exact ih rfl

/-- While a verdict is on its way back there is nothing for the holder to see. -/
theorem eq_working_of_back {verdict : Verdict}
    (hconveys : stage.Conveys receipts conditions standing (.back transaction verdict)) :
    standing = .working := by
  cases hconveys with
  | turned _ _ _ hhead => cases hhead <;> rfl

/-- Once a stage has ended nothing is on its errand. -/
theorem hasEnded (hconveys : stage.Conveys receipts conditions .ended errand) :
    stage.HasEnded conditions ∧ errand = .idle := by
  cases hconveys with
  | bare => exact ⟨.bare _, rfl⟩
  | turned _ _ _ hhead =>
      cases hhead with
      | passed _ _ hnumber => simp [Standing.number?] at hnumber
      | intercepted _ _ hnumber => simp [Standing.number?] at hnumber
  | apart _ _ hhead hinside =>
      cases hhead with
      | ended _ hphase => exact ⟨.guard hphase hinside, rfl⟩

/-- A stage that waits for the holder depends on no receipt after the one it waits for. -/
theorem congr (hconveys : stage.Conveys receipts conditions standing errand)
    (hnumber : standing.number? = some number) {other : Receipts}
    (hsame : ∀ earlier, earlier ≤ number → other.get earlier = receipts.get earlier) :
    stage.Conveys other conditions standing errand := by
  induction hconveys generalizing number with
  | bare hpoised hheld => exact .bare (hpoised.congr hnumber hsame) hheld
  | lent hpoised => exact .lent (hpoised.congr hnumber hsame)
  | turned hrestart hcondition hcurrent hhead _ ih =>
      cases hhead with
      | passed houtlet hphase hown hpayload hunmet =>
          obtain rfl := Option.some.inj (hown.symm.trans hnumber)
          exact .turned hrestart hcondition hcurrent
            (.passed houtlet hphase hown hpayload hunmet) (ih rfl hsame)
      | intercepted houtlet hphase hown hlater hopen hpayload hmet =>
          obtain rfl := Option.some.inj (hown.symm.trans hnumber)
          refine .turned hrestart hcondition hcurrent (.intercepted houtlet hphase hown hlater
            ((hsame _ le_rfl).trans hopen) hpayload hmet) (ih rfl fun earlier hearlier => ?_)
          exact hsame earlier (hearlier.trans hlater.le)
      | _ => simp [Standing.number?] at hnumber
  | apart _ _ hhead => cases hhead <;> simp [Standing.number?] at hnumber

/-- Whoever takes what a stage offers has the message that is on its errand, or sends it
on its errand if the stage is the one it comes from. -/
theorem take (hconveys : stage.Conveys receipts conditions (.offering transaction) errand) :
    ∃ first, (stage.take receipts).1.Conveys (stage.take receipts).2 conditions
        (.lent transaction.number) (.out first) ∧
      transaction.payload = first.payload ∧
      (conditions = [] ∧ errand = .idle ∧ first = transaction ∨
        conditions ≠ [] ∧ errand = .out first) := by
  have htaken := hconveys.poised.take
  have houtlet : stage.outlet = { slot := some transaction } := hconveys.poised.shows
  have htake : stage.outlet.take receipts = ({}, receipts) := by
    rw [houtlet]
    rfl
  rw [stage.take_eq, htake] at htaken ⊢
  cases hconveys with
  | bare => exact ⟨transaction, .lent htaken, rfl, .inl ⟨rfl, rfl, rfl⟩⟩
  | turned hrestart hcondition hcurrent hhead hwrapped =>
      cases hhead with
      | @passed _ _ first _ hphase hnumber hpayload hunmet =>
          refine ⟨first, .turned hrestart hcondition hcurrent
            (.passed rfl hphase hnumber (by simp [Standing.slot]) hunmet) hwrapped, ?_, ?_⟩
          · exact hpayload transaction rfl
          · exact .inr ⟨by simp, rfl⟩
      | @intercepted _ _ _ first _ hphase hnumber hlater hopen hpayload hmet =>
          refine ⟨first, .turned hrestart hcondition hcurrent
            (.intercepted rfl hphase hnumber hlater hopen (by simp [Standing.slot]) hmet)
            hwrapped, ?_, ?_⟩
          · exact hpayload transaction rfl
          · exact .inr ⟨by simp, rfl⟩
  | apart _ _ hhead => cases hhead

/-- The verdict of the holder goes to whoever made the transaction at once if the message
met no condition, and otherwise sets out on its way back. -/
theorem pronounce
    (hconveys : stage.Conveys receipts conditions (.lent number) (.out transaction))
    {verdict : Verdict}
    (hlive : (verdict.accepts && Condition.anyMeets conditions transaction.payload) = false) :
    Condition.anyMeets conditions transaction.payload = false ∧ number = transaction.number ∧
        stage.Conveys (receipts.pronounce number verdict) conditions .working .idle ∨
      Condition.anyMeets conditions transaction.payload = true ∧
        stage.Conveys (receipts.pronounce number verdict) conditions .working
          (.back transaction (verdict.relayed true)) := by
  have hget : (receipts.pronounce number verdict).get number =
      Receipt.open.pronounce verdict := by
    rw [receipts.get_pronounce, if_pos rfl, hconveys.poised.get_eq_open rfl]
  generalize hlent : Standing.lent number = standing at hconveys
  generalize hout : Errand.out transaction = errand at hconveys
  induction hconveys with
  | bare => simp at hout
  | lent hpoised =>
      cases hout
      cases hlent
      exact .inl ⟨rfl, rfl, .bare (hpoised.pronounce verdict) rfl⟩
  | @turned condition conditions _ _ _ _ _ _ hrestart hcondition hcurrent hhead hwrapped ih =>
      subst hlent hout
      cases hhead with
      | passed houtlet hphase hnumber _ hunmet =>
          cases hnumber
          have hany : Condition.anyMeets (condition :: conditions) transaction.payload =
              Condition.anyMeets conditions transaction.payload := by
            simp [Condition.anyMeets, hunmet]
          rw [hany] at hlive ⊢
          have hreading {errand : Errand} : Guard.Conveys (receipts.pronounce number verdict) _
              condition .working errand .working errand :=
            .reading houtlet (.inr hphase) rfl
          rcases ih hlive rfl rfl with ⟨hnone, hsame, hinside⟩ | ⟨hsome, hinside⟩
          · exact .inl ⟨hnone, hsame, .turned hrestart hcondition hcurrent hreading hinside⟩
          · exact .inr ⟨hsome, .turned hrestart hcondition hcurrent hreading hinside⟩
      | intercepted houtlet hphase hnumber hlater _ _ hmet =>
          cases hnumber
          have hany : Condition.anyMeets (condition :: conditions) transaction.payload = true := by
            simp [Condition.anyMeets, hmet]
          rw [hany, Bool.and_true] at hlive
          refine .inr ⟨hany, .turned hrestart hcondition hcurrent
            (.answered houtlet hphase hlater hget hlive) (hwrapped.congr rfl ?_)⟩
          -- what is lent inside has an earlier number, which the verdict leaves alone
          intro earlier hearlier
          rw [receipts.get_pronounce, if_neg (by omega)]
  | apart => simp at hout

end Holder

/-! ## Steps of the workers -/

section Steps

variable {world : World} {condition : Condition} {conditions : List Condition} {head : Guard}
  {wrapped : Stage} {inside standing : Standing} {within errand : Errand}
  {step : GuardMove Stage}

/-- What a stage around an input conveys after a step of its guard. -/
def Proceeds (world : World) (condition : Condition) (conditions : List Condition)
    (wrapped : Stage) (standing : Standing) (errand : Errand) (step : GuardMove Stage) : Prop :=
  ∃ after other, (Stage.guard step.guard (wrapped.obey step.receipts step.demand).1).Conveys
      (wrapped.obey step.receipts step.demand).2 (condition :: conditions) after other ∧
    standing.Becomes world.receipts (wrapped.obey step.receipts step.demand).2 after ∧
    errand.Goes world.receipts (wrapped.obey step.receipts step.demand).2
      ((Event.guard step.event).takenFrom? (conditions.length + 1) 0) other

/-- A guard whose input has ended makes its way to its own end. -/
theorem proceeds_apart (hrestart : head.restart = false) (hcurrent : head.current = false)
    (hhead : head.Apart standing) (hwrapped : wrapped.HasEnded conditions)
    (hstep : head.step (wrapped.sight world.disk head.input) world.receipts = some step) :
    Proceeds world condition conditions wrapped standing .idle step := by
  cases hhead with
  | bereft houtlet hphase =>
      cases Guard.stepCase_of_step hstep with
      | exhausted =>
          exact ⟨.working, .idle, .apart hrestart hcurrent (.leaving houtlet (.inl rfl)) hwrapped,
            .works rfl, .of_not_taken rfl _ _⟩
      | _ => simp_all
  | leaving houtlet hphase =>
      cases Guard.stepCase_of_step hstep with
      | leftAlone | inputClosed | stopped =>
          exact ⟨.working, .idle, .apart hrestart hcurrent
            (.leaving houtlet (by simp [GuardPhase.IsLeaving, Guard.enter]; rfl)) hwrapped,
            .works rfl, .of_not_taken rfl _ _⟩
      | released =>
          have hleft : head.outlet.release = .left false := by
            rw [houtlet]
            rfl
          exact ⟨.ended, .idle, .apart hrestart hcurrent (.ended hleft (.inl rfl)) hwrapped,
            .works rfl, .of_not_taken rfl _ _⟩
      | _ => simp_all [GuardPhase.IsLeaving]
  | ended houtlet hphase =>
      cases Guard.stepCase_of_step hstep with
      | confirmed =>
          have hleft : head.outlet.confirm = .left true := by
            rw [houtlet]
            rfl
          exact ⟨.ended, .idle, .apart hrestart hcurrent (.ended hleft (.inr rfl)) hwrapped,
            .ends, .of_not_taken rfl _ _⟩
      | _ => simp_all

/-- A guard passes a rejection on, which reaches whoever made the transaction or goes on
its way back. -/
theorem relay {candidate number : Nat} {first : Transaction}
    (hwrapped : wrapped.Conveys world.receipts conditions (.lent candidate) (.out first))
    (hlater : candidate < number) {response : Response} (hnack : response.isAck = false) :
    ∃ other, wrapped.Conveys ((world.receipts.look number).2.respond candidate response).2
        conditions .working other ∧
      (Errand.back first (some response)).Goes world.receipts
        ((world.receipts.look number).2.respond candidate response).2 none other := by
  have hearlier : ∀ earlier, earlier ≤ candidate →
      (world.receipts.look number).2.get earlier = world.receipts.get earlier := by
    intro earlier hle
    rw [world.receipts.get_look, if_neg (by omega)]
  have hlook := hwrapped.congr rfl hearlier
  have hlive : (Verdict.accepts (some response) &&
      Condition.anyMeets conditions first.payload) = false := by
    rw [Verdict.accepts_some, hnack, Bool.false_and]
  rcases hlook.pronounce hlive with ⟨_, rfl, hinside⟩ | ⟨_, hinside⟩
  · refine ⟨.idle, hinside, .returns (hwrapped.get_eq_open rfl) ?_⟩
    have hget := (world.receipts.look number).2.get_pronounce first.number first.number
      (some response)
    rwa [if_pos rfl, hlook.get_eq_open rfl] at hget
  · exact ⟨_, hinside, .stays _⟩

section Turned

variable (hrestart : head.restart = false) (hcondition : head.condition = condition)
  (hcurrent : head.current = true)

include hrestart hcondition hcurrent

/-- A guard takes what its input offers: the transaction that is on its errand already, or
one that sets out on it. -/
theorem proceeds_taking (hsteady : condition.IsSteady) (houtlet : head.outlet = {})
    {transaction : Transaction} {phase : GuardPhase} (hafter : phase =
      if condition.meets transaction.payload then .intercepting transaction
      else .forwarding transaction) (met : Bool)
    (hwrapped : wrapped.Conveys world.receipts conditions (.offering transaction) within) :
    Proceeds world condition conditions wrapped .working within
      { event := .received transaction met
        guard := { head with condition := (head.condition.check transaction.payload).2, phase }
        receipts := world.receipts
        demand := .take } := by
  obtain ⟨first, htaken, hpayload, hwhence⟩ := hwrapped.take
  refine ⟨.working, .out first, .turned hrestart ?_ hcurrent
    (.holding houtlet hafter hpayload) htaken, .works rfl, ?_⟩
  · rw [hcondition]
    exact hsteady transaction.payload
  · rcases hwhence with ⟨rfl, rfl, rfl⟩ | ⟨hguards, rfl⟩
    · simpa [Event.takenFrom?, Event.taken?] using Errand.Goes.leaves first
    · simpa [Event.takenFrom?, hguards] using Errand.Goes.stays (.out first)

theorem proceeds_reading (hsteady : condition.IsSteady) (houtlet : head.outlet = {})
    (hphase : head.phase = .starting ∨ head.phase.IsWaiting) (hinside : inside.held = [])
    (hwrapped : wrapped.Conveys world.receipts conditions inside within)
    (hstep : head.step (wrapped.sight world.disk head.input) world.receipts = some step) :
    Proceeds world condition conditions wrapped .working within step := by
  have hoffer : (wrapped.sight world.disk head.input).offer = inside.offer :=
    hwrapped.poised.shows.offer_eq
  cases Guard.stepCase_of_step hstep with
  | started =>
      exact ⟨.working, within, .turned hrestart hcondition hcurrent
        (.reading houtlet (.inr (.inl rfl)) hinside) hwrapped, .works rfl,
        .of_not_taken rfl _ _⟩
  | turnToInput =>
      exact ⟨.working, within, .turned hrestart hcondition hcurrent
        (.reading houtlet (.inr (.inr rfl)) hinside) hwrapped, .works rfl,
        .of_not_taken rfl _ _⟩
  | inputEnded _ _ hend =>
      have hends : inside = .ended := by
        cases inside <;> simp_all [Standing.offer]
      subst hends
      obtain ⟨hended, rfl⟩ := hwrapped.hasEnded
      exact ⟨.working, .idle, .apart hrestart rfl (.bereft houtlet rfl rfl)
        (hended.withOutlet _), .works rfl, .of_not_taken rfl _ _⟩
  | received _ _ htransaction hmet =>
      obtain rfl := Standing.eq_offering_of_offer (hoffer.symm.trans htransaction)
      rw [hcondition] at hmet
      exact proceeds_taking hrestart hcondition hcurrent hsteady houtlet
        (by simp [Condition.meets, hmet]) false hwrapped
  | receivedCandidate _ _ htransaction hmet =>
      obtain rfl := Standing.eq_offering_of_offer (hoffer.symm.trans htransaction)
      rw [hcondition] at hmet
      exact proceeds_taking hrestart hcondition hcurrent hsteady houtlet
        (by simp [Condition.meets, hmet]) true hwrapped
  | _ => simp_all [GuardPhase.IsWaiting]

theorem proceeds_holding {transaction first : Transaction} (houtlet : head.outlet = {})
    (hphase : head.phase =
      if condition.meets transaction.payload then .intercepting transaction
      else .forwarding transaction)
    (hpayload : transaction.payload = first.payload)
    (hwrapped : wrapped.Conveys world.receipts conditions (.lent transaction.number)
      (.out first))
    (hstep : head.step (wrapped.sight world.disk head.input) world.receipts = some step) :
    Proceeds world condition conditions wrapped .working (.out first) step := by
  cases hmet : condition.meets transaction.payload with
  | false =>
      rw [hmet, if_neg (by simp)] at hphase
      cases Guard.stepCase_of_step hstep with
      | giveUpForwarding _ hexit => simp [Guard.obstacle?, houtlet] at hexit
      | forwarded hforwarding =>
          cases hphase.symm.trans hforwarding
          refine ⟨.offering transaction, .out first, .turned hrestart hcondition hcurrent
            (.passed ?_ (.inl rfl) rfl ?_ (hpayload ▸ hmet)) hwrapped, .works rfl,
            .of_not_taken rfl _ _⟩
          · rw [houtlet]
            rfl
          · simpa [Standing.slot] using hpayload
      | _ => simp_all
  | true =>
      rw [hmet, if_pos rfl] at hphase
      cases Guard.stepCase_of_step hstep with
      | giveUpIntercepting _ hexit => simp [Guard.obstacle?, houtlet] at hexit
      | intercepted hintercepting =>
          cases hphase.symm.trans hintercepting
          have hlater : transaction.number < world.receipts.next := hwrapped.poised.lt_next rfl
          have hlent := hwrapped.congr rfl fun earlier hearlier =>
            world.receipts.get_issue_of_lt (Nat.lt_of_le_of_lt hearlier hlater)
          refine ⟨.offering ⟨world.receipts.next, transaction.payload⟩, .out first,
            .turned hrestart hcondition hcurrent (.intercepted ?_ rfl rfl hlater
              world.receipts.get_issue_next ?_ (hpayload ▸ hmet)) hlent, .works rfl,
            .of_not_taken rfl _ _⟩
          · rw [houtlet]
            rfl
          · simpa [Standing.slot] using hpayload
      | _ => simp_all

/-- A rejection sets out on its way back, or gets further on it. -/
theorem proceeds_relaying {candidate number : Nat} {first : Transaction} {response : Response}
    (houtlet : head.outlet = {}) (hlater : candidate < number) (hnack : response.isAck = false)
    (hwrapped : wrapped.Conveys world.receipts conditions (.lent candidate) (.out first)) :
    Proceeds world condition conditions wrapped .working (.back first (some response))
      { event := .relayed candidate response
        guard := head.enter .deciding
        receipts := ((world.receipts.look number).2.respond candidate response).2 } := by
  obtain ⟨other, hinside, hgoes⟩ := hwrapped.relay hlater hnack
  exact ⟨.working, other, .turned hrestart hcondition hcurrent
    (.reading houtlet (.inr (.inl rfl)) rfl) hinside, .works rfl,
    by simpa [Event.takenFrom?, Event.taken?, Stage.obey] using hgoes⟩

theorem proceeds_answered {candidate number : Nat} {first : Transaction} {verdict : Verdict}
    (houtlet : head.outlet = {}) (hphase : head.phase = .awaiting candidate number)
    (hlater : candidate < number)
    (hget : world.receipts.get number = Receipt.open.pronounce verdict)
    (hrejected : verdict.accepts = false)
    (hwrapped : wrapped.Conveys world.receipts conditions (.lent candidate) (.out first))
    (hstep : head.step (wrapped.sight world.disk head.input) world.receipts = some step) :
    Proceeds world condition conditions wrapped .working (.back first (verdict.relayed true))
      step := by
  cases Guard.stepCase_of_step hstep with
  | accepted hsame _ hanswered hack =>
      cases hphase.symm.trans hsame
      obtain rfl := Receipt.eq_some_of_answered (hget.symm.trans hanswered)
      simp [hack] at hrejected
  | rejected hsame _ hanswered hnack =>
      cases hphase.symm.trans hsame
      obtain rfl := Receipt.eq_some_of_answered (hget.symm.trans hanswered)
      exact proceeds_relaying hrestart hcondition hcurrent houtlet hlater hnack hwrapped
  | dropped hsame _ hclosed =>
      cases hphase.symm.trans hsame
      rw [hget] at hclosed
      obtain rfl := Receipt.eq_none_of_closed hclosed
      exact proceeds_relaying hrestart hcondition hcurrent houtlet hlater rfl hwrapped
  | _ => simp_all

theorem proceeds_turned (hsteady : condition.IsSteady)
    (hhead : head.Conveys world.receipts condition inside within standing errand)
    (hwrapped : wrapped.Conveys world.receipts conditions inside within)
    (hstep : head.step (wrapped.sight world.disk head.input) world.receipts = some step) :
    Proceeds world condition conditions wrapped standing errand step := by
  cases hhead with
  | reading houtlet hphase hinside =>
      exact proceeds_reading hrestart hcondition hcurrent hsteady houtlet hphase hinside
        hwrapped hstep
  | holding houtlet hphase hpayload =>
      exact proceeds_holding hrestart hcondition hcurrent houtlet hphase hpayload hwrapped hstep
  | passed houtlet hphase hnumber hpayload hunmet =>
      obtain rfl := Tracks.guard_step_waiting hphase (by rw [houtlet]) hcurrent
        hwrapped.poised.shows.offer_eq hstep
      exact ⟨standing, _, .turned hrestart hcondition hcurrent
        (.passed houtlet (.inr rfl) hnumber hpayload hunmet) hwrapped, .waits hnumber rfl,
        .of_not_taken rfl _ _⟩
  | intercepted houtlet hphase _ _ hopen =>
      exact (Tracks.guard_waits hstep hphase (by rw [houtlet]) hopen).elim
  | answered houtlet hphase hlater hget hrejected =>
      exact proceeds_answered hrestart hcondition hcurrent houtlet hphase hlater hget hrejected
        hwrapped hstep

end Turned

end Steps

/-- A step of a worker leaves everything as it was on its errand, but for a transaction
that sets out on one or whose maker is told the verdict. -/
theorem step {world : World} {conditions : List Condition} {stage : Stage}
    {standing : Standing} {errand : Errand} {level : Nat} {move : StageMove}
    (hconveys : stage.Conveys world.receipts conditions standing errand)
    (hsteady : ∀ condition ∈ conditions, condition.IsSteady)
    (hstep : stage.step world level = some move) :
    ∃ after other, move.stage.Conveys move.receipts conditions after other ∧
      standing.Becomes world.receipts move.receipts after ∧
      errand.Goes world.receipts move.receipts
        (move.event.takenFrom? conditions.length level) other := by
  induction hconveys generalizing level move with
  | bare hpoised hheld =>
      obtain ⟨after, hafter, hbecomes⟩ := hpoised.step hstep
      exact ⟨after, .idle, .bare hafter (hbecomes.held_eq_nil hheld), hbecomes, .stays _⟩
  | lent hpoised =>
      obtain ⟨after, hafter, hbecomes⟩ := hpoised.step hstep
      cases hbecomes with
      | waits hnumber hsame => exact ⟨_, _, .lent hafter, .waits hnumber hsame, .stays _⟩
  | @turned condition conditions head wrapped inside standing within errand hrestart hcondition
      hcurrent hhead hwrapped ih =>
      cases level with
      | zero =>
          obtain ⟨step, hguard, rfl⟩ := Stage.step_zero_guard hstep
          exact proceeds_turned hrestart hcondition hcurrent
            (hsteady condition List.mem_cons_self) hhead hwrapped hguard
      | succ level =>
          obtain ⟨inner, hinner, rfl⟩ := Stage.step_succ_guard hstep
          obtain ⟨after, other, hafter, hbecomes, hgoes⟩ := ih
            (fun inside hmem => hsteady inside (List.mem_cons_of_mem _ hmem)) hinner
          rw [← Event.takenFrom?_succ] at hgoes
          by_cases hheld : inside.held = []
          · cases hhead with
            | reading houtlet hphase =>
                exact ⟨.working, other, .turned hrestart hcondition hcurrent
                  (.reading houtlet hphase (hbecomes.held_eq_nil hheld)) hafter, .works rfl,
                  hgoes⟩
            | _ => simp [Standing.held] at hheld
          · -- what is lent to the guard leaves nothing to do inside
            obtain ⟨number, first, rfl, rfl⟩ := hhead.lent_of_held hheld
            cases hbecomes with
            | waits _ hsame =>
                obtain ⟨hnothing, rfl⟩ := hgoes.of_out
                rw [← hsame] at hhead
                refine ⟨standing, errand, .turned hrestart hcondition hcurrent hhead hafter,
                  hhead.becomes_self hsame, ?_⟩
                rw [List.length_cons, hnothing]
                exact .stays errand
  | apart hrestart hcurrent hhead hwrapped =>
      cases level with
      | zero =>
          obtain ⟨step, hguard, rfl⟩ := Stage.step_zero_guard hstep
          exact proceeds_apart hrestart hcurrent hhead hwrapped hguard
      | succ level =>
          obtain ⟨inner, hinner, rfl⟩ := Stage.step_succ_guard hstep
          obtain ⟨hended, hnothing⟩ := hwrapped.step hinner
          refine ⟨_, .idle, .apart hrestart hcurrent hhead hended, hhead.becomes_self, ?_⟩
          rw [← Event.takenFrom?_succ] at hnothing
          rw [List.length_cons, hnothing]
          exact .stays _

/-- A verdict on its way back can always get to whoever made the transaction. -/
theorem reaches_told {world : World} {conditions : List Condition} {stage : Stage}
    {transaction : Transaction} {verdict : Verdict}
    (hconveys : stage.Conveys world.receipts conditions .working (.back transaction verdict)) :
    stage.Reaches (fun receipts _ => receipts.get transaction.number =
      Receipt.open.pronounce verdict) world := by
  induction conditions generalizing stage world with
  | nil => cases hconveys
  | cons condition conditions ih =>
      cases hconveys with
      | @turned _ _ head wrapped _ _ _ _ _ _ _ hhead hwrapped =>
          have hinside {world : World} (hwrapped : wrapped.Conveys world.receipts conditions
              .working (.back transaction verdict)) (head : Guard) :
              (Stage.guard head wrapped).Reaches (fun receipts _ =>
                receipts.get transaction.number = Receipt.open.pronounce verdict) world := by
            refine ((ih hwrapped).inside head).bind ?_
            rintro world _ ⟨_, rfl, htold⟩
            exact .here htold
          cases hhead with
          | reading =>
              obtain rfl := hwrapped.eq_working_of_back
              exact hinside hwrapped head
          | @answered candidate number _ own houtlet hphase hlater hget hrejected =>
              have hback {response : Response} (hnack : response.isAck = false)
                  (hrelayed : own.relayed true = some response)
                  (hstep : head.step (wrapped.sight world.disk head.input) world.receipts =
                    some (head.relay (world.receipts.look number).2 candidate response)) :
                  (Stage.guard head wrapped).Reaches (fun receipts _ =>
                    receipts.get transaction.number =
                      Receipt.open.pronounce (own.relayed true)) world := by
                obtain ⟨other, hafter, hgoes⟩ := hwrapped.relay hlater hnack
                rw [← hrelayed] at hgoes
                refine .guard hstep ?_
                cases hgoes with
                | stays => exact hinside hafter _
                | returns _ htold => exact .here htold
              have hsighting := Receipts.look_of_pronounced hget
              rcases hseen : world.receipts.look number with ⟨sighting, receipts⟩
              rw [hseen] at hsighting hback
              subst hsighting
              cases own with
              | none =>
                  refine hback rfl rfl ?_
                  simp [Guard.step, hphase, Guard.awaitResponse, houtlet, hseen]
              | some response =>
                  refine hback (by simpa using hrejected) rfl ?_
                  simp [Guard.step, hphase, Guard.awaitResponse, houtlet, hseen]

end Stage.Conveys

end Intake
