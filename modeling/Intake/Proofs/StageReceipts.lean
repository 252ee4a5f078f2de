import Intake.Proofs.GuardOwnership
import Intake.Proofs.StagePoise

/-!
# What workers do to receipts

A worker answers only the transactions that it has in its hands, and it looks at
a receipt or stops waiting only for the one that it waits for.  All that anybody
does to a transaction otherwise is to drop it with the outlet it lies in.  What
those things leave true of a receipt stays true of it.
-/

namespace Intake

/-! ## What lasts -/

/-- What stays true of a receipt that may be dropped, that may be looked at and
given up if `waits`, and that may be answered if `answers`. -/
structure Receipt.Lasts (waits answers : Prop) (property : Receipt → Prop) : Prop where
  forsake : ∀ receipt, property receipt → property receipt.forsake
  look : waits → ∀ receipt, property receipt → property receipt.look.1
  abandon : waits → ∀ receipt, property receipt → property receipt.abandon
  respond : answers → ∀ receipt, property receipt →
    ∀ response, property (receipt.respond response).1

/-- No response lies on a receipt. -/
def Receipt.IsSilent (receipt : Receipt) : Prop := ∀ response, receipt ≠ .answered response

/-- The debtor went away without an answer. -/
def Receipt.IsDropped (receipt : Receipt) : Prop := receipt = .forsaken ∨ receipt = .settled

namespace Receipt

variable {receipt : Receipt} {waits answers : Prop} {property : Receipt → Prop}

theorem Lasts.imp (hlasts : Lasts waits answers property) {fewer less : Prop}
    (hwaits : fewer → waits) (hanswers : less → answers) : Lasts fewer less property :=
  ⟨hlasts.forsake, fun h => hlasts.look (hwaits h), fun h => hlasts.abandon (hwaits h),
    fun h => hlasts.respond (hanswers h)⟩

theorem lasts_isSilent : Lasts True False IsSilent where
  forsake receipt _ := by cases receipt <;> simp_all [IsSilent, Receipt.forsake]
  look _ receipt _ := by cases receipt <;> simp_all [IsSilent, Receipt.look]
  abandon _ receipt _ := by cases receipt <;> simp_all [IsSilent, Receipt.abandon]
  respond := False.elim

theorem lasts_isDropped : Lasts True True IsDropped where
  forsake _ hdropped := by rcases hdropped with rfl | rfl <;> simp [IsDropped, Receipt.forsake]
  look _ receipt _ := by cases receipt <;> simp_all [IsDropped, Receipt.look]
  abandon _ receipt _ := by cases receipt <;> simp_all [IsDropped, Receipt.abandon]
  respond _ receipt _ response := by cases receipt <;> simp_all [IsDropped, Receipt.respond]

theorem lasts_unowed : Lasts True True (·.isOwed = false) where
  forsake receipt _ := by cases receipt <;> simp_all [isOwed, Receipt.forsake]
  look _ receipt _ := by cases receipt <;> simp_all [isOwed, Receipt.look]
  abandon _ receipt _ := by cases receipt <;> simp_all [isOwed, Receipt.abandon]
  respond _ receipt _ response := by cases receipt <;> simp_all [isOwed, Receipt.respond]

theorem lasts_isAwaited : Lasts False True (·.isAwaited = true) where
  forsake receipt _ := by cases receipt <;> simp_all [isAwaited, Receipt.forsake]
  look := False.elim
  abandon := False.elim
  respond _ receipt _ response := by cases receipt <;> simp_all [isAwaited, Receipt.respond]

theorem isDropped_forsake (hsilent : receipt.IsSilent) : receipt.forsake.IsDropped := by
  cases receipt with
  | answered response => exact absurd rfl (hsilent response)
  | _ => simp [forsake, IsDropped]

theorem IsDropped.look_eq (hdropped : receipt.IsDropped) : receipt.look.2 = .closed := by
  rcases hdropped with rfl | rfl <;> rfl

end Receipt

namespace Receipts

variable {waits answers : Prop} {property : Receipt → Prop} {receipts : Receipts} {number : Nat}

theorem get_forsake (receipts : Receipts) (number other : Nat) :
    (receipts.forsake number).get other =
      if other = number then (receipts.get number).forsake else receipts.get other :=
  receipts.get_pronounce number other none

theorem get_respond (receipts : Receipts) (number other : Nat) (response : Response) :
    (receipts.respond number response).2.get other =
      if other = number then ((receipts.get number).respond response).1
      else receipts.get other :=
  receipts.get_pronounce number other (some response)

theorem lasts_forsake (hlasts : Receipt.Lasts waits answers property)
    (hnumber : property (receipts.get number)) (other : Nat) :
    property ((receipts.forsake other).get number) := by
  rw [get_forsake]
  split
  · next heq => exact hlasts.forsake _ (heq ▸ hnumber)
  · exact hnumber

theorem lasts_look {other : Nat} (hlasts : Receipt.Lasts (number = other) answers property)
    (hnumber : property (receipts.get number)) :
    property ((receipts.look other).2.get number) := by
  rw [get_look]
  split
  · next heq => exact hlasts.look heq _ (heq ▸ hnumber)
  · exact hnumber

theorem lasts_abandon {other : Nat} (hlasts : Receipt.Lasts (number = other) answers property)
    (hnumber : property (receipts.get number)) :
    property ((receipts.abandon other).get number) := by
  rw [get_abandon]
  split
  · next heq => exact hlasts.abandon heq _ (heq ▸ hnumber)
  · exact hnumber

theorem lasts_respond {other : Nat} (hlasts : Receipt.Lasts waits (number = other) property)
    (hnumber : property (receipts.get number)) (response : Response) :
    property ((receipts.respond other response).2.get number) := by
  rw [get_respond]
  split
  · next heq => exact hlasts.respond heq _ (heq ▸ hnumber) response
  · exact hnumber

theorem lasts_pronounce {other : Nat} (hlasts : Receipt.Lasts waits (number = other) property)
    (hnumber : property (receipts.get number)) (verdict : Verdict) :
    property ((receipts.pronounce other verdict).get number) := by
  cases verdict with
  | none => exact lasts_forsake hlasts hnumber other
  | some response => exact lasts_respond hlasts hnumber response

theorem lasts_lose (hlasts : Receipt.Lasts waits answers property)
    (hnumber : property (receipts.get number)) (lost : Option Transaction) :
    property ((receipts.lose lost).get number) := by
  cases lost with
  | none => exact hnumber
  | some transaction => exact lasts_forsake hlasts hnumber transaction.number

theorem lasts_issue (hnumber : property (receipts.get number)) (hissued : number < receipts.next) :
    property (receipts.issue.get number) := by
  rw [receipts.get_issue_of_lt hissued]
  exact hnumber

@[simp] theorem next_lose (receipts : Receipts) (lost : Option Transaction) :
    (receipts.lose lost).next = receipts.next := by
  cases lost with
  | none => rfl
  | some transaction => exact next_pronounce receipts transaction.number none

end Receipts

/-! ## Who has what -/

theorem Outlet.slot_of_offer {outlet : Outlet} {transaction : Transaction}
    (hoffer : outlet.offer = .transaction transaction) : outlet.slot = some transaction := by
  have hhanded : outlet.offer.transaction? = some transaction := by rw [hoffer]; rfl
  rw [Outlet.transaction?_offer] at hhanded
  split at hhanded
  · simp at hhanded
  · exact hhanded

/-- The numbers that the workers inside a stage owe a verdict for: all but what
lies in the outermost outlet. -/
def Stage.inside : Stage → List Nat
  | .pump _ => []
  | .guard head wrapped => head.phase.inHand ++ wrapped.outlet.buffered ++ wrapped.inside

def PumpPhase.awaited : PumpPhase → List Nat
  | .awaiting _ number => [number]
  | _ => []

def GuardPhase.awaited : GuardPhase → List Nat
  | .awaiting _ number => [number]
  | _ => []

/-- The numbers that the workers inside a stage wait for the response to. -/
def Stage.awaited : Stage → List Nat
  | .pump leaf => leaf.phase.awaited
  | .guard head wrapped => head.phase.awaited ++ wrapped.awaited

@[simp] theorem Stage.inside_withOutlet (stage : Stage) (outlet : Outlet) :
    (stage.withOutlet outlet).inside = stage.inside := by
  cases stage <;> rfl

@[simp] theorem Stage.awaited_withOutlet (stage : Stage) (outlet : Outlet) :
    (stage.withOutlet outlet).awaited = stage.awaited := by
  cases stage <;> rfl

/-! ## Steps of the workers -/

section Steps

variable {property : Receipt → Prop} {world : World} {number : Nat}

theorem Pump.lasts_step {stdin : ByteSource} {pump : Pump} {receipts : Receipts}
    {move : PumpMove} {answers : Prop} (hstep : pump.step receipts stdin = some move)
    (hlasts : Receipt.Lasts (number ∈ pump.phase.awaited) answers property)
    (hissued : number < receipts.next) (hnumber : property (receipts.get number)) :
    property (move.receipts.get number) := by
  have hown {message : Message} {other : Nat} (hphase : pump.phase = .awaiting message other) :
      Receipt.Lasts (number = other) answers property :=
    hlasts.imp (fun heq => by simp [hphase, PumpPhase.awaited, heq]) id
  cases Pump.stepCase_of_step hstep with
  | sent => exact Receipts.lasts_issue hnumber hissued
  | withdrew hphase => exact Receipts.lasts_abandon (hown hphase) hnumber
  | acknowledged hphase | rejected hphase | dropped hphase =>
      exact Receipts.lasts_look (hown hphase) hnumber
  | _ => exact hnumber

theorem Guard.lasts_step {σ : Type} {sight : Sight σ} {guard : Guard} {receipts : Receipts}
    {move : GuardMove σ} (hstep : guard.step sight receipts = some move)
    (hlasts : Receipt.Lasts (number ∈ guard.phase.awaited) (number ∈ guard.phase.inHand) property)
    (hissued : number < receipts.next) (hnumber : property (receipts.get number)) :
    property (move.receipts.get number) := by
  have hown {candidate other : Nat} (hphase : guard.phase = .awaiting candidate other) :
      Receipt.Lasts (number = other) (number = candidate) property :=
    hlasts.imp (fun heq => by simp [hphase, GuardPhase.awaited, heq])
      (fun heq => by simp [hphase, GuardPhase.inHand, heq])
  cases Guard.stepCase_of_step hstep with
  | giveUpForwarding | giveUpIntercepting => exact Receipts.lasts_forsake hlasts hnumber _
  | intercepted => exact Receipts.lasts_issue hnumber hissued
  | giveUpAwaiting hphase =>
      exact Receipts.lasts_forsake hlasts (Receipts.lasts_abandon (hown hphase) hnumber) _
  | accepted hphase | rejected hphase | dropped hphase =>
      exact Receipts.lasts_respond (hown hphase) (Receipts.lasts_look (hown hphase) hnumber) _
  | _ => exact hnumber

theorem Stage.lasts_obey {waits answers : Prop} (wrapped : Stage) {receipts : Receipts}
    (hlasts : Receipt.Lasts waits answers property) (demand : Demand Stage)
    (hnumber : property (receipts.get number)) :
    property ((wrapped.obey receipts demand).2.get number) := by
  cases demand with
  | take =>
      cases hclosing : wrapped.outlet.isClosing with
      | true => simpa [obey, take_eq, Outlet.take, hclosing] using
          Receipts.lasts_lose hlasts hnumber wrapped.outlet.slot
      | false => simpa [obey, take_eq, Outlet.take, hclosing] using hnumber
  | letGo => exact Receipts.lasts_lose hlasts hnumber wrapped.outlet.slot
  | _ => exact hnumber

/-- Workers look at no receipt but those they wait for, and answer none but what
they have in their hands. -/
theorem Stage.lasts_step {stage : Stage} {level : Nat} {move : StageMove}
    (hstep : stage.step world level = some move)
    (hlasts : Receipt.Lasts (number ∈ stage.awaited) (number ∈ stage.inside) property)
    (hissued : number < world.receipts.next) (hnumber : property (world.receipts.get number)) :
    property (move.receipts.get number) := by
  induction Stage.stepCase_of_step hstep with
  | pump hpump => exact Pump.lasts_step hpump hlasts hissued hnumber
  | @guard head wrapped step hguard =>
      have hhead : Receipt.Lasts (number ∈ head.phase.awaited) (number ∈ head.phase.inHand)
          property :=
        hlasts.imp (fun hmem => by simp [awaited, hmem]) fun hmem => by simp [inside, hmem]
      exact wrapped.lasts_obey hlasts step.demand (Guard.lasts_step hguard hhead hissued hnumber)
  | @inside level head wrapped inner hinner _ ih =>
      have hwrapped : Receipt.Lasts (number ∈ wrapped.awaited) (number ∈ wrapped.inside)
          property :=
        hlasts.imp (fun hmem => by simp [awaited, hmem]) fun hmem => by simp [inside, hmem]
      exact ih hinner hwrapped

@[simp] theorem Stage.next_obey (wrapped : Stage) (receipts : Receipts) (demand : Demand Stage) :
    (wrapped.obey receipts demand).2.next = receipts.next := by
  cases demand with
  | take =>
      cases hclosing : wrapped.outlet.isClosing <;> simp [obey, take_eq, Outlet.take, hclosing]
  | letGo => exact Receipts.next_lose receipts wrapped.outlet.slot
  | _ => rfl

theorem Stage.next_le_step {stage : Stage} {level : Nat} {move : StageMove}
    (hstep : stage.step world level = some move) : world.receipts.next ≤ move.receipts.next := by
  induction Stage.stepCase_of_step hstep with
  | pump hpump => exact (Pump.stepCase_of_step hpump).next_le
  | guard hguard =>
      rw [next_obey]
      exact (Guard.stepCase_of_step hguard).next_le
  | inside hinner _ ih => exact ih hinner

end Steps

/-! ## Receipts that settle -/

/-- Nobody comes to owe again what has been answered or dropped. -/
structure Receipts.Settles (before after : Receipts) : Prop where
  next : before.next ≤ after.next
  unowed : ∀ number, number < before.next → (before.get number).isOwed = false →
    (after.get number).isOwed = false

namespace Receipts

variable {before after receipts : Receipts} {number : Nat}

theorem Settles.owed (hsettles : before.Settles after) (hissued : number < before.next)
    (howed : (after.get number).isOwed = true) : (before.get number).isOwed = true := by
  by_contra hunowed
  have hsettled := hsettles.unowed number hissued (by simpa using hunowed)
  simp [hsettled] at howed

theorem settles_issue (receipts : Receipts) : receipts.Settles receipts.issue := by
  refine ⟨by simp, fun number hissued hunowed => ?_⟩
  rwa [receipts.get_issue_of_lt hissued]

theorem settles_pronounce (receipts : Receipts) (number : Nat) (verdict : Verdict) :
    receipts.Settles (receipts.pronounce number verdict) :=
  ⟨(receipts.next_pronounce number verdict).ge, fun _ _ hunowed =>
    lasts_pronounce (Receipt.lasts_unowed.imp id fun _ => trivial) hunowed verdict⟩

end Receipts

section Settling

variable {world : World}

theorem Pump.settles_step {receipts : Receipts} {stdin : ByteSource} {pump : Pump}
    {move : PumpMove} (hstep : pump.step receipts stdin = some move) :
    receipts.Settles move.receipts :=
  ⟨(Pump.stepCase_of_step hstep).next_le, fun _ hissued hunowed =>
    Pump.lasts_step hstep (Receipt.lasts_unowed.imp (fun _ => trivial) id) hissued hunowed⟩

theorem Guard.settles_step {σ : Type} {sight : Sight σ} {guard : Guard} {receipts : Receipts}
    {move : GuardMove σ} (hstep : guard.step sight receipts = some move) :
    receipts.Settles move.receipts :=
  ⟨(Guard.stepCase_of_step hstep).next_le, fun _ hissued hunowed =>
    Guard.lasts_step hstep (Receipt.lasts_unowed.imp (fun _ => trivial) fun _ => trivial) hissued
      hunowed⟩

theorem Stage.settles_obey (wrapped : Stage) (receipts : Receipts) (demand : Demand Stage) :
    receipts.Settles (wrapped.obey receipts demand).2 :=
  ⟨(wrapped.next_obey receipts demand).ge, fun _ _ hunowed =>
    wrapped.lasts_obey Receipt.lasts_unowed demand hunowed⟩

theorem Stage.settles_step {stage : Stage} {level : Nat} {move : StageMove}
    (hstep : stage.step world level = some move) : world.receipts.Settles move.receipts :=
  ⟨Stage.next_le_step hstep, fun _ hissued hunowed =>
    Stage.lasts_step hstep (Receipt.lasts_unowed.imp (fun _ => trivial) fun _ => trivial) hissued
      hunowed⟩

end Settling

/-! ## Who waits for what -/

/-- Each response is waited for by one worker, and none of them has stopped waiting. -/
structure Stage.Awaits (receipts : Receipts) (stage : Stage) : Prop where
  once : stage.awaited.Nodup
  awaited : ∀ number ∈ stage.awaited, (receipts.get number).isAwaited = true

theorem Stage.IsFresh.awaited_eq {stage : Stage} (hfresh : stage.IsFresh) : stage.awaited = [] := by
  induction stage with
  | pump leaf =>
      obtain ⟨_, hphase⟩ := hfresh
      simp [Stage.awaited, hphase, PumpPhase.awaited]
  | guard head wrapped ih =>
      obtain ⟨_, hphase, _, hwrapped⟩ := hfresh
      simp [Stage.awaited, hphase, GuardPhase.awaited, ih hwrapped]

namespace Stage.Awaits

variable {receipts after : Receipts} {stage wrapped : Stage} {head : Guard} {world : World}

theorem issued (hawaits : stage.Awaits receipts) {number : Nat} (hmem : number ∈ stage.awaited) :
    number < receipts.next := by
  apply receipts.lt_next_of_get_ne
  intro hget
  have hawaited := hawaits.awaited number hmem
  simp [hget, Receipt.isAwaited] at hawaited

theorem fresh (hfresh : stage.IsFresh) (receipts : Receipts) : stage.Awaits receipts := by
  have hnone := hfresh.awaited_eq
  constructor <;> simp [hnone]

theorem inner (hawaits : (Stage.guard head wrapped).Awaits receipts) : wrapped.Awaits receipts :=
  ⟨(List.nodup_append.mp hawaits.once).2.1, fun number hmem =>
    hawaits.awaited number (List.mem_append_right _ hmem)⟩

theorem obey (hawaits : stage.Awaits receipts)
    (demand : Demand Stage) (hreplace : ∀ input, demand ≠ .replace input) :
    (stage.obey receipts demand).1.Awaits (stage.obey receipts demand).2 := by
  have hsame : (stage.obey receipts demand).1.awaited = stage.awaited := by
    cases demand with
    | nothing => rfl
    | take | close | letGo => exact Stage.awaited_withOutlet _ _
    | replace input => exact absurd rfl (hreplace input)
  refine ⟨hsame ▸ hawaits.once, fun number hmem => ?_⟩
  rw [hsame] at hmem
  exact stage.lasts_obey Receipt.lasts_isAwaited demand (hawaits.awaited number hmem)

end Stage.Awaits

section Steps

variable {world : World} {stage wrapped : Stage} {head : Guard} {level : Nat} {move : StageMove}
  {number : Nat}

theorem Pump.awaited_step {receipts : Receipts} {stdin : ByteSource} {pump : Pump}
    {step : PumpMove} (hstep : pump.step receipts stdin = some step) :
    step.pump.phase.awaited = [] ∨
      step.pump.phase.awaited = [receipts.next] ∧ step.receipts = receipts.issue := by
  cases Pump.stepCase_of_step hstep with
  | sent => exact .inr ⟨rfl, rfl⟩
  | readOn hphase => simp [hphase, PumpPhase.awaited]
  | _ => exact .inl rfl

theorem Guard.awaited_step {σ : Type} {sight : Sight σ} {guard : Guard} {receipts : Receipts}
    {step : GuardMove σ} (hstep : guard.step sight receipts = some step) :
    step.guard.phase.awaited = [] ∨
      step.guard.phase.awaited = [receipts.next] ∧ step.receipts = receipts.issue := by
  cases Guard.stepCase_of_step hstep with
  | intercepted => exact .inr ⟨rfl, rfl⟩
  | _ => exact .inl rfl

/-- An input keeps waiting as it is told what to do, unless it is replaced by one
that waits for nothing yet. -/
theorem Stage.awaited_obey {step : GuardMove Stage}
    (hstep : head.step (wrapped.sight world.disk head.input) world.receipts = some step) :
    (wrapped.obey step.receipts step.demand).1.awaited = wrapped.awaited ∨
      (wrapped.obey step.receipts step.demand).1.awaited = [] := by
  cases Guard.stepCase_of_step hstep with
  | rebuilt _ _ _ _ hbuild =>
      have hfresh := Stage.isFresh_of_build (Stage.build_of_rebuild hbuild)
      exact .inr hfresh.awaited_eq
  | inputEnded | received | receivedCandidate | askedToClose =>
      exact .inl (Stage.awaited_withOutlet _ _)
  | _ => exact .inl rfl

theorem Stage.awaited_step (hstep : stage.step world level = some move)
    (hmem : number ∈ move.stage.awaited) :
    number ∈ stage.awaited ∨ number = world.receipts.next := by
  induction Stage.stepCase_of_step hstep with
  | pump hpump =>
      rcases Pump.awaited_step hpump with hnone | ⟨hnew, _⟩
      · simp [awaited, hnone] at hmem
      · exact .inr (by simpa [awaited, hnew] using hmem)
  | guard hguard =>
      rcases List.mem_append.mp hmem with hhead | hwrapped
      · rcases Guard.awaited_step hguard with hnone | ⟨hnew, _⟩
        · simp [hnone] at hhead
        · exact .inr (by simpa [hnew] using hhead)
      · rcases Stage.awaited_obey hguard with hsame | hnone
        · exact .inl (List.mem_append_right _ (hsame ▸ hwrapped))
        · simp [hnone] at hwrapped
  | inside hinner _ ih =>
      rcases List.mem_append.mp hmem with hhead | hwrapped
      · exact .inl (List.mem_append_left _ hhead)
      · exact (ih hinner hwrapped).imp_left (List.mem_append_right _)

namespace Stage.Awaits

theorem step_guard {step : GuardMove Stage}
    (hawaits : (Stage.guard head wrapped).Awaits world.receipts)
    (hstep : head.step (wrapped.sight world.disk head.input) world.receipts = some step) :
    (Stage.guard step.guard (wrapped.obey step.receipts step.demand).1).Awaits
      (wrapped.obey step.receipts step.demand).2 := by
  have hinside : ∀ number ∈ (wrapped.obey step.receipts step.demand).1.awaited,
      number ∈ wrapped.awaited := by
    intro number hmem
    rcases Stage.awaited_obey hstep with hsame | hnone
    · rwa [hsame] at hmem
    · simp [hnone] at hmem
  have honce : (wrapped.obey step.receipts step.demand).1.awaited.Nodup := by
    rcases Stage.awaited_obey hstep with hsame | hnone
    · rw [hsame]
      exact hawaits.inner.once
    · simp [hnone]
  have hkept : ∀ number ∈ wrapped.awaited,
      ((wrapped.obey step.receipts step.demand).2.get number).isAwaited = true := by
    intro number hmem
    have hhead : number ∉ head.phase.awaited := fun hown =>
      (List.nodup_append.mp hawaits.once).2.2 number hown number hmem rfl
    apply wrapped.lasts_obey Receipt.lasts_isAwaited
    exact Guard.lasts_step hstep (Receipt.lasts_isAwaited.imp hhead fun _ => trivial)
      (hawaits.inner.issued hmem) (hawaits.inner.awaited number hmem)
  rcases Guard.awaited_step hstep with hnone | ⟨hnew, hreceipts⟩
  · refine ⟨by simpa [Stage.awaited, hnone] using honce, fun number hmem => ?_⟩
    have hmem : number ∈ (wrapped.obey step.receipts step.demand).1.awaited := by
      simpa [Stage.awaited, hnone] using hmem
    exact hkept number (hinside number hmem)
  · refine ⟨?_, fun number hmem => ?_⟩
    · have hlater : world.receipts.next ∉ (wrapped.obey step.receipts step.demand).1.awaited :=
        fun hmem => (hawaits.inner.issued (hinside _ hmem)).false
      simpa [Stage.awaited, hnew] using ⟨hlater, honce⟩
    · have hmem : number = world.receipts.next ∨
          number ∈ (wrapped.obey step.receipts step.demand).1.awaited := by
        simpa [Stage.awaited, hnew] using hmem
      rcases hmem with rfl | hmem
      · apply wrapped.lasts_obey Receipt.lasts_isAwaited
        simp [hreceipts, Receipt.isAwaited]
      · exact hkept number (hinside number hmem)

theorem step (hawaits : stage.Awaits world.receipts)
    (hstep : stage.step world level = some move) : move.stage.Awaits move.receipts := by
  induction Stage.stepCase_of_step hstep with
  | pump hpump =>
      rcases Pump.awaited_step hpump with hnone | ⟨hnew, hreceipts⟩
      · constructor <;> simp [Stage.awaited, hnone]
      · constructor <;> simp [Stage.awaited, hnew, hreceipts, Receipt.isAwaited]
  | guard hguard => exact hawaits.step_guard hguard
  | @inside level head wrapped inner hinner _ ih =>
      have hafter := ih hawaits.inner hinner
      obtain ⟨hown, _, hapart⟩ := List.nodup_append.mp hawaits.once
      refine ⟨List.nodup_append.mpr ⟨hown, hafter.once, ?_⟩, fun number hmem => ?_⟩
      · rintro number hhead _ hwrapped rfl
        rcases Stage.awaited_step hinner hwrapped with hold | hnew
        · exact hapart number hhead number hold rfl
        · have hissued := hawaits.issued (List.mem_append_left _ hhead)
          omega
      · rcases List.mem_append.mp hmem with hhead | hwrapped
        · -- only whoever waits for a response stops waiting for it
          have hunshared : number ∉ wrapped.awaited := fun hold =>
            hapart number hhead number hold rfl
          exact Stage.lasts_step hinner
            (Receipt.lasts_isAwaited.imp hunshared fun _ => trivial)
            (hawaits.issued (List.mem_append_left _ hhead))
            (hawaits.awaited number (List.mem_append_left _ hhead))
        · exact hafter.awaited number hwrapped

end Stage.Awaits

end Steps

end Intake
