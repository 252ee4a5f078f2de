import Intake.Proofs.StageReceipts

/-!
# Nothing comes out after the end

Once a stage has been asked to close, has confirmed that it closed or has shown
its end, its holder receives nothing any more.  What lay in the outlet when the
stage was asked is dropped, and whoever made it is never told a response: no
worker inside has that transaction in its hands, and none ever takes it up again.
-/

namespace Intake

theorem Stage.IsFresh.inside_eq {stage : Stage} (hfresh : stage.IsFresh) : stage.inside = [] := by
  induction stage with
  | pump leaf => rfl
  | guard head wrapped ih =>
      obtain ⟨_, hphase, _, hwrapped⟩ := hfresh
      have hhand : head.phase.inHand = [] := by rw [hphase]; rfl
      have hslot : wrapped.outlet.buffered = [] := by rw [hwrapped.outlet_eq]; rfl
      simp [inside, hhand, hslot, ih hwrapped]

/-! ## Nobody takes up what is not inside -/

/-- The numbers that a stage owes a verdict for: those inside and what lies in
its outlet. -/
def Stage.owing (stage : Stage) : List Nat := stage.outlet.buffered ++ stage.inside

section Steps

variable {world : World} {head : Guard} {wrapped : Stage} {step : GuardMove Stage} {number : Nat}

theorem Stage.owing_obey {receipts : Receipts} {demand : Demand Stage}
    (hreplace : ∀ input, demand ≠ .replace input)
    (hmem : number ∈ (wrapped.obey receipts demand).1.owing) : number ∈ wrapped.owing := by
  unfold owing at hmem ⊢
  cases demand with
  | nothing => exact hmem
  | take => simp_all [obey, take_eq, Outlet.buffered]
  | close => simpa [obey, Stage.close, Outlet.close, Outlet.buffered] using hmem
  | letGo => simp_all [obey, Stage.letGo, Outlet.letGo, Outlet.buffered]
  | replace input => exact absurd rfl (hreplace input)

theorem Stage.inside_step_guard
    (hstep : head.step (wrapped.sight world.disk head.input) world.receipts = some step)
    (hmem : number ∈ (Stage.guard step.guard (wrapped.obey step.receipts step.demand).1).inside) :
    number ∈ (Stage.guard head wrapped).inside := by
  have hsplit : number ∈ step.guard.phase.inHand ∨
      number ∈ (wrapped.obey step.receipts step.demand).1.owing := by
    simpa [inside, owing, or_assoc] using hmem
  have hjoin : number ∈ head.phase.inHand ∨ number ∈ wrapped.owing →
      number ∈ (Stage.guard head wrapped).inside := by
    simp [inside, owing]
  apply hjoin
  rcases hsplit with hhand | howing
  · cases Guard.stepCase_of_step hstep with
    | received _ _ hoffer | receivedCandidate _ _ hoffer =>
        -- a guard takes up only what its input offers
        have hslot : wrapped.outlet.slot = some _ := Outlet.slot_of_offer hoffer
        right
        simpa [owing, Outlet.buffered, hslot, GuardPhase.inHand] using Or.inl hhand
    | intercepted hphase =>
        left
        simpa [hphase, GuardPhase.inHand] using hhand
    | _ => simp [Guard.enter, GuardPhase.inHand] at hhand
  · cases Guard.stepCase_of_step hstep with
    | rebuilt _ _ _ _ hbuild =>
        have hfresh := Stage.isFresh_of_build (Stage.build_of_rebuild hbuild)
        simp [obey, owing, hfresh.outlet_eq, hfresh.inside_eq, Outlet.buffered] at howing
    | _ => exact .inr (Stage.owing_obey (by simp) howing)

theorem Stage.buffered_step_guard
    (hstep : head.step (wrapped.sight world.disk head.input) world.receipts = some step)
    (hmem : number ∈ step.guard.outlet.buffered) :
    number ∈ (Stage.guard head wrapped).owing ∨ number = world.receipts.next := by
  have hkept : step.guard.outlet.slot = head.outlet.slot →
      number ∈ (Stage.guard head wrapped).owing := by
    intro hslot
    have hbuffered : number ∈ head.outlet.buffered := by
      simpa [Outlet.buffered, hslot] using hmem
    exact List.mem_append_left _ hbuffered
  cases Guard.stepCase_of_step hstep with
  | forwarded hphase =>
      left
      have hnumber : number ∈ head.phase.inHand := by
        simpa [hphase, GuardPhase.inHand, Outlet.buffered, Outlet.put] using hmem
      simp [owing, inside, hnumber]
  | intercepted =>
      right
      simpa [Outlet.buffered, Outlet.put] using hmem
  | _ => exact .inl (hkept rfl)

variable {stage : Stage} {level : Nat} {move : StageMove}

theorem Stage.owing_step (hstep : stage.step world level = some move)
    (hmem : number ∈ move.stage.owing) :
    number ∈ stage.owing ∨ world.receipts.next ≤ number := by
  induction Stage.stepCase_of_step hstep with
  | pump hpump =>
      cases Pump.stepCase_of_step hpump with
      | sent =>
          have hnumber : number = world.receipts.next := by
            simpa [owing, inside, outlet, Outlet.buffered, Outlet.put] using hmem
          exact .inr hnumber.ge
      | _ => exact .inl hmem
  | guard hguard =>
      rcases List.mem_append.mp hmem with hbuffered | hinside
      · exact (Stage.buffered_step_guard hguard hbuffered).imp_right Eq.ge
      · exact .inl (List.mem_append_right _ (Stage.inside_step_guard hguard hinside))
  | @inside level head wrapped inner hinner _ ih =>
      have howing : number ∈ inner.stage.owing →
          number ∈ wrapped.owing ∨ world.receipts.next ≤ number := ih hinner
      simp only [owing, inside, outlet, List.mem_append] at hmem howing ⊢
      tauto

theorem Stage.inside_step (hstep : stage.step world level = some move)
    (hmem : number ∈ move.stage.inside) :
    number ∈ stage.inside ∨ world.receipts.next ≤ number := by
  cases Stage.stepCase_of_step hstep with
  | pump => simp [inside] at hmem
  | guard hguard => exact .inl (Stage.inside_step_guard hguard hmem)
  | @inside level head wrapped inner hinner =>
      have howing : number ∈ inner.stage.owing →
          number ∈ wrapped.owing ∨ world.receipts.next ≤ number := Stage.owing_step hinner
      simp only [owing, inside, List.mem_append] at hmem howing ⊢
      tauto

end Steps

/-- Numbers grow outward, so all that is inside came before what is offered. -/
theorem Stage.Poised.lt_of_mem_inside {receipts : Receipts} {stage : Stage} {standing : Standing}
    {latest number : Nat} (hpoised : stage.Poised receipts standing)
    (hlatest : standing.number? = some latest) (hmem : number ∈ stage.inside) :
    number < latest := by
  induction hpoised generalizing latest with
  | pump => simp [inside] at hmem
  | @turned head wrapped inside standing hhead hwrapped ih =>
      have hslot : wrapped.outlet.slot = inside.slot := hwrapped.shows.slot_eq
      cases hhead with
      | passed _ _ hphase hnumber =>
          obtain rfl := Option.some.inj (hnumber.symm.trans hlatest)
          have hhand : head.phase.inHand = [] := by
            rcases hphase with hphase | hphase <;> rw [hphase] <;> rfl
          have hinner : number ∈ wrapped.inside := by
            simpa [Stage.inside, hhand, Outlet.buffered, hslot, Standing.slot] using hmem
          exact ih rfl hinner
      -- the candidate is older than what stands in for it, and all inside is older still
      | @intercepted _ candidate _ _ _ hphase hnumber hlater =>
          obtain rfl := Option.some.inj (hnumber.symm.trans hlatest)
          have hinner : number = candidate ∨ number ∈ wrapped.inside := by
            simpa [Stage.inside, hphase, GuardPhase.inHand, Outlet.buffered, hslot,
              Standing.slot] using hmem
          rcases hinner with rfl | hinner
          · exact hlater
          · exact (ih rfl hinner).trans hlater
      | _ => simp [Standing.number?] at hlatest
  | apart hhead => cases hhead <;> simp [Standing.number?] at hlatest

/-! ## Stages that are over -/

/-- Whether the holder asks the stage to close, by letting go of it perhaps. -/
def UsageMove.Asks (move : UsageMove) : Prop := move = .close ∨ move = .letGo

namespace Usage

variable {usage : Usage} {number : Nat}

/-- Whether the stage has been asked to close, has confirmed that it closed, or
has shown its end to the holder. -/
def Over (usage : Usage) : Prop :=
  usage.Asked ∨ usage.running.stage.isClosed = true ∨ .received .ended ∈ usage.record

theorem Steady.offer_of_over (hsteady : usage.Steady) (hover : usage.Over) :
    usage.outlet.offer = .ended := by
  cases hsteady with
  | asked _ hsignal => exact Outlet.offer_of_isClosing (Outlet.isClosing_of_signalled hsignal)
  | @poised standing hpoised _ hunasked _ hended =>
      have hstanding : standing = .ended := by
        rcases hover with hasked | hclosed | hreceived
        · exact absurd hasked hunasked
        · exact hpoised.shows.eq_ended_of_closed hclosed
        · exact hended hreceived
      have hoffer : usage.outlet.offer = standing.offer := hpoised.shows.offer_eq
      rw [hoffer, hstanding]
      rfl

theorem shutdown_perform (usage : Usage) (move : UsageMove) :
    (usage.perform move).outlet.shutdown = usage.outlet.shutdown ∨
      (usage.perform move).outlet.shutdown = usage.outlet.shutdown.confirm ∨
      (usage.perform move).outlet.shutdown = usage.outlet.shutdown.request := by
  have hcase := usage.performs move
  generalize usage.perform move = after at hcase ⊢
  cases hcase with
  | idle | pronounced | rewritten => exact .inl rfl
  | worked hstep => exact (Stage.shutdown_step hstep).imp_right .inl
  | received => simp [outlet, Running.receive]
  | closed | letGo => simp [outlet, Running.close, Running.letGo]

theorem isClosed_perform (hclosed : usage.running.stage.isClosed = true) (move : UsageMove) :
    (usage.perform move).running.stage.isClosed = true := by
  have hshutdown : usage.outlet.shutdown.closed = true := hclosed
  change (usage.perform move).outlet.shutdown.closed = true
  rcases usage.shutdown_perform move with hsame | hconfirmed | hrequested
  · rw [hsame, hshutdown]
  · rw [hconfirmed, Shutdown.confirm_closed]
  · rw [hrequested, Shutdown.request_closed, hshutdown]

theorem next_le_perform (usage : Usage) (move : UsageMove) :
    usage.receipts.next ≤ (usage.perform move).receipts.next := by
  have hcase := usage.performs move
  generalize usage.perform move = after at hcase ⊢
  cases hcase with
  | idle | closed | rewritten => exact Nat.le_refl _
  | worked hstep => exact Stage.next_le_step hstep
  | received => exact (usage.running.stage.next_obey usage.receipts .take).ge
  | letGo => exact (usage.running.stage.next_obey usage.receipts .letGo).ge
  | @pronounced number verdict => exact (usage.receipts.next_pronounce number verdict).ge

theorem inside_perform {number : Nat} {move : UsageMove}
    (hmem : number ∈ (usage.perform move).running.stage.inside) :
    number ∈ usage.running.stage.inside ∨ usage.receipts.next ≤ number := by
  have hcase := usage.performs move
  generalize usage.perform move = after at hcase hmem
  cases hcase with
  | idle | pronounced | rewritten => exact .inl hmem
  | worked hstep => exact Stage.inside_step hstep hmem
  | received => exact .inl (by simpa [Running.receive, Stage.take_eq] using hmem)
  | closed => exact .inl (by simpa [Running.close, Stage.close] using hmem)
  | letGo => exact .inl (by simpa [Running.letGo, Stage.letGo] using hmem)

theorem record_perform (usage : Usage) (move : UsageMove) :
    usage.record ⊆ (usage.perform move).record := by
  have hcase := usage.performs move
  generalize usage.perform move = after at hcase ⊢
  cases hcase with
  | idle => exact List.Subset.refl _
  | _ => exact List.subset_append_left _ _

theorem Over.perform (hover : usage.Over) (move : UsageMove) : (usage.perform move).Over := by
  have hrecord := usage.record_perform move
  rcases hover with hasked | hclosed | hreceived
  · exact .inl (hasked.imp (fun hnote => hrecord hnote) fun hnote => hrecord hnote)
  · exact .inr (.inl (isClosed_perform hclosed move))
  · exact .inr (.inr (hrecord hreceived))

theorem handedOut_perform (hoffer : usage.outlet.offer = .ended) (move : UsageMove) :
    (usage.perform move).handedOut = usage.handedOut := by
  have hreceived : usage.running.receive.1 = .ended := hoffer
  have hcase := usage.performs move
  generalize usage.perform move = after at hcase ⊢
  cases hcase with
  | idle => rfl
  | received => simp [hreceived, UsageNote.handedOut?, Received.transaction?]
  | _ => simp [UsageNote.handedOut?]

theorem Over.performAll (hover : usage.Over) (hsteady : usage.Steady) (later : List UsageMove) :
    (usage.performAll later).running.receive.1 = .ended ∧
      (usage.performAll later).handedOut = usage.handedOut := by
  induction later generalizing usage with
  | nil => exact ⟨hsteady.offer_of_over hover, rfl⟩
  | cons move rest ih =>
      have hnothing := handedOut_perform (hsteady.offer_of_over hover) move
      obtain ⟨hended, hsame⟩ := ih (hover.perform move) (hsteady.perform move)
      exact ⟨hended, hsame.trans hnothing⟩

/-! ## What lay in the outlet -/

/-- A transaction that nobody will receive any more: it lies in the outlet of a
stage that has been asked to close, or has been dropped. -/
structure Forgoes (usage : Usage) (number : Nat) : Prop where
  signal : usage.outlet.shutdown.signalled = true
  issued : number < usage.receipts.next
  outside : number ∉ usage.running.stage.inside
  unheld : number ∉ usage.held
  unanswered : (usage.receipts.get number).IsDropped ∨
    usage.holding = true ∧ number ∈ usage.outlet.buffered ∧ (usage.receipts.get number).IsSilent

namespace Forgoes

theorem lasts_perform {property : Receipt → Prop} (hforgoes : usage.Forgoes number)
    (hlasts : Receipt.Lasts True False property) (hnumber : property (usage.receipts.get number))
    (move : UsageMove) : property ((usage.perform move).receipts.get number) := by
  have hcase := usage.performs move
  generalize usage.perform move = after at hcase ⊢
  cases hcase with
  | idle | closed | rewritten => exact hnumber
  | worked hstep =>
      exact Stage.lasts_step hstep
        (hlasts.imp (fun _ => trivial) fun hmem => hforgoes.outside hmem) hforgoes.issued hnumber
  | received => exact usage.running.stage.lasts_obey hlasts .take hnumber
  | letGo => exact usage.running.stage.lasts_obey hlasts .letGo hnumber
  | @pronounced other verdict hheld =>
      have happart : number ≠ other := fun heq => hforgoes.unheld (heq ▸ hheld)
      exact Receipts.lasts_pronounce (hlasts.imp id happart) hnumber verdict

theorem drop_perform (hforgoes : usage.Forgoes number)
    (hdropped : (usage.receipts.get number).IsDropped) (move : UsageMove) :
    ((usage.perform move).receipts.get number).IsDropped :=
  hforgoes.lasts_perform (Receipt.lasts_isDropped.imp id False.elim) hdropped move

theorem isDropped_perform (hforgoes : usage.Forgoes number) {move : UsageMove}
    (htaken : move = .receive ∨ move = .letGo) :
    ((usage.perform move).receipts.get number).IsDropped := by
  rcases hforgoes.unanswered with hdropped | ⟨hholding, hbuffered, hsilent⟩
  · exact hforgoes.drop_perform hdropped move
  · obtain ⟨transaction, hslot, rfl⟩ : ∃ transaction,
        usage.running.stage.outlet.slot = some transaction ∧ transaction.number = number := by
      simpa [Outlet.buffered, outlet] using hbuffered
    have hlost : ((usage.receipts.forsake transaction.number).get
        transaction.number).IsDropped := by
      rw [Receipts.get_forsake, if_pos rfl]
      exact Receipt.isDropped_forsake hsilent
    have hclosing : usage.running.stage.outlet.isClosing = true :=
      Outlet.isClosing_of_signalled hforgoes.signal
    rcases htaken with rfl | rfl
    · simpa [Usage.perform, hholding, receipts, Running.receive, Stage.take_eq,
        Outlet.take_of_isClosing hclosing, hslot, Receipts.lose] using hlost
    · simpa [Usage.perform, hholding, receipts, Running.letGo, Stage.letGo, Outlet.letGo,
        hslot, Receipts.lose] using hlost

theorem signal_perform (hforgoes : usage.Forgoes number) (move : UsageMove) :
    (usage.perform move).outlet.shutdown.signalled = true := by
  have hsignal := hforgoes.signal
  rcases usage.shutdown_perform move with hsame | hconfirmed | hrequested
  · rw [hsame, hsignal]
  · rw [hconfirmed]
    exact hsignal
  · rw [hrequested]
    exact Shutdown.signalled_request_of_signalled hsignal

theorem unheld_perform (hforgoes : usage.Forgoes number) (move : UsageMove) :
    number ∉ (usage.perform move).held := by
  have hunheld := hforgoes.unheld
  have hreceived : usage.running.receive.1 = .ended :=
    Outlet.offer_of_isClosing (Outlet.isClosing_of_signalled hforgoes.signal)
  have hcase := usage.performs move
  generalize usage.perform move = after at hcase ⊢
  cases hcase with
  | received => simpa [hreceived, Received.transaction?] using hunheld
  | pronounced => exact fun hmem => hunheld (List.mem_of_mem_erase hmem)
  | _ => exact hunheld

theorem lying_perform (hforgoes : usage.Forgoes number) {move : UsageMove}
    (hlying : usage.holding = true ∧ number ∈ usage.outlet.buffered)
    (hreceive : move ≠ .receive) (hletGo : move ≠ .letGo) :
    (usage.perform move).holding = true ∧ number ∈ (usage.perform move).outlet.buffered := by
  obtain ⟨hholding, hbuffered⟩ := hlying
  have hcase := usage.performs move
  generalize usage.perform move = after at hcase ⊢
  cases hcase with
  | idle | pronounced | rewritten => exact ⟨hholding, hbuffered⟩
  | @worked level step hstep =>
      have hslot : step.stage.outlet.slot = usage.outlet.slot :=
        Stage.slot_step_of_signalled hforgoes.signal hstep
      refine ⟨hholding, ?_⟩
      simpa [Outlet.buffered, outlet, Running.after, hslot] using hbuffered
  | closed =>
      refine ⟨hholding, ?_⟩
      simpa [outlet, Running.close, Outlet.buffered, Outlet.close] using hbuffered
  | received => exact absurd rfl hreceive
  | letGo => exact absurd rfl hletGo

theorem perform (hforgoes : usage.Forgoes number) (move : UsageMove) :
    (usage.perform move).Forgoes number := by
  refine ⟨hforgoes.signal_perform move, hforgoes.issued.trans_le (usage.next_le_perform move),
    fun hmem => ?_, hforgoes.unheld_perform move, ?_⟩
  · -- whatever comes to be inside is either there already or made later
    have hissued := hforgoes.issued
    rcases inside_perform hmem with hinside | hlater
    · exact hforgoes.outside hinside
    · omega
  · by_cases htaken : move = .receive ∨ move = .letGo
    · exact .inl (hforgoes.isDropped_perform htaken)
    · push Not at htaken
      rcases hforgoes.unanswered with hdropped | ⟨hholding, hbuffered, hsilent⟩
      · exact .inl (hforgoes.drop_perform hdropped move)
      · obtain ⟨hholding, hbuffered⟩ :=
          hforgoes.lying_perform ⟨hholding, hbuffered⟩ htaken.1 htaken.2
        exact .inr ⟨hholding, hbuffered,
          hforgoes.lasts_perform Receipt.lasts_isSilent hsilent move⟩

theorem performAll (hforgoes : usage.Forgoes number) (later : List UsageMove) :
    (usage.performAll later).Forgoes number :=
  performAll_induction (motive := fun usage => usage.Forgoes number) hforgoes
    (fun _ move hforgoes => hforgoes.perform move) later

theorem isDropped_performAll (hforgoes : usage.Forgoes number) {later : List UsageMove}
    (htaken : (usage.receipts.get number).IsDropped ∨ .receive ∈ later ∨ .letGo ∈ later) :
    ((usage.performAll later).receipts.get number).IsDropped := by
  induction later generalizing usage with
  | nil => simpa using htaken
  | cons move rest ih =>
      apply ih (hforgoes.perform move)
      rcases htaken with hdropped | hreceive | hletGo
      · exact .inl (hforgoes.drop_perform hdropped move)
      · rcases List.mem_cons.mp hreceive with rfl | hrest
        · exact .inl (hforgoes.isDropped_perform (.inl rfl))
        · exact .inr (.inl hrest)
      · rcases List.mem_cons.mp hletGo with rfl | hrest
        · exact .inl (hforgoes.isDropped_perform (.inr rfl))
        · exact .inr (.inr hrest)

end Forgoes

theorem Steady.asked_perform (hsteady : usage.Steady) (hunasked : ¬usage.Asked)
    {ask : UsageMove} (hask : ask.Asks) : (usage.perform ask).Asked := by
  cases hsteady with
  | asked hasked => exact absurd hasked hunasked
  | poised _ _ _ hholding =>
      rcases hask with rfl | rfl <;> simp [Usage.perform, hholding, Asked]

theorem Steady.forgoes_perform (hsteady : usage.Steady) (hunasked : ¬usage.Asked)
    {transaction : Transaction} (hslot : usage.outlet.slot = some transaction)
    {ask : UsageMove} (hask : ask.Asks) : (usage.perform ask).Forgoes transaction.number := by
  cases hsteady with
  | asked hasked => exact absurd hasked hunasked
  | @poised standing hpoised hheld _ hholding =>
      have hshown : usage.running.stage.outlet.slot = standing.slot := hpoised.shows.slot_eq
      obtain rfl : standing = .offering transaction := by
        cases standing <;> simp_all [Standing.slot, outlet]
      have hopen := hpoised.get_eq_open rfl
      have hsilent : (usage.receipts.get transaction.number).IsSilent := by
        simp [hopen, Receipt.IsSilent]
      have hsignal : usage.outlet.shutdown.request.signalled = true :=
        Shutdown.signalled_request hpoised.shows.isPlain
      have hissued := (hpoised.lt_next rfl).trans_le (usage.next_le_perform ask)
      have houtside : transaction.number ∉ usage.running.stage.inside := fun hmem =>
        (hpoised.lt_of_mem_inside rfl hmem).false
      rcases hask with rfl | rfl
      · simp only [Usage.perform, hholding, if_true] at hissued ⊢
        refine ⟨?_, hissued, ?_, by simp [hheld, Standing.held], .inr ⟨rfl, ?_, hsilent⟩⟩
        · simpa [outlet, Running.close] using hsignal
        · simpa [Running.close, Stage.close] using houtside
        · simpa [outlet, Running.close, Outlet.buffered, Outlet.close] using
            congrArg (Option.map Transaction.number) hslot
      · have hlost : ((usage.receipts.forsake transaction.number).get
            transaction.number).IsDropped := by
          rw [Receipts.get_forsake, if_pos rfl]
          exact Receipt.isDropped_forsake hsilent
        simp only [Usage.perform, hholding, if_true] at hissued ⊢
        refine ⟨?_, hissued, ?_, by simp [hheld, Standing.held], .inl ?_⟩
        · simpa [outlet, Running.letGo] using hsignal
        · simpa [Running.letGo, Stage.letGo] using houtside
        · have hlying : usage.running.stage.outlet.slot = some transaction := hslot
          simpa [receipts, Running.letGo, Stage.letGo, Outlet.letGo, hlying, Receipts.lose]
            using hlost

/-- Once a stage is over, receiving gives the end and nothing else is handed out,
whatever happens later.  What lies in the outlet when the holder asks the stage to
close is never answered, and its producer sees that nobody will as soon as the
holder receives again or lets go. -/
structure SilentAfterEnd (usage : Usage) : Prop where
  silent : usage.Over → ∀ later, (usage.performAll later).running.receive.1 = .ended ∧
    (usage.performAll later).handedOut = usage.handedOut
  dropped : ¬usage.Asked → ∀ transaction, usage.outlet.slot = some transaction →
    ∀ ask : UsageMove, ask.Asks → ∀ later,
      let after := (usage.perform ask).performAll later
      after.handedOut = usage.handedOut ∧
      (∀ response, (after.receipts.look transaction.number).1 ≠ .responded response) ∧
      (ask = .letGo ∨ .receive ∈ later ∨ .letGo ∈ later →
        (after.receipts.look transaction.number).1 = .closed)

theorem Steady.silentAfterEnd (hsteady : usage.Steady) : usage.SilentAfterEnd := by
  refine ⟨fun hover later => hover.performAll hsteady later, ?_⟩
  intro hunasked transaction hslot ask hask later
  have hforgoes := hsteady.forgoes_perform hunasked hslot hask
  have hover : (usage.perform ask).Over := .inl (hsteady.asked_perform hunasked hask)
  refine ⟨?_, fun response hlook => ?_, fun htaken => ?_⟩
  · have hnothing : (usage.perform ask).handedOut = usage.handedOut := by
      rcases hask with rfl | rfl <;> cases hholding : usage.holding <;>
        simp [Usage.perform, hholding, UsageNote.handedOut?]
    exact (hover.performAll (hsteady.perform ask) later).2.trans hnothing
  · have hanswered := Receipt.look_responded_iff.mp hlook
    rcases (hforgoes.performAll later).unanswered with hdropped | ⟨_, _, hsilent⟩
    · rcases hdropped with hget | hget <;> simp [hget] at hanswered
    · exact hsilent response hanswered
  · have hdropped : ((usage.perform ask).receipts.get transaction.number).IsDropped ∨
        .receive ∈ later ∨ .letGo ∈ later := by
      rcases htaken with rfl | hlater
      · rcases hforgoes.unanswered with hdropped | ⟨hholding, _⟩
        · exact .inl hdropped
        · cases hheld : usage.holding <;> simp [Usage.perform, hheld] at hholding
      · exact .inr hlater
    exact (hforgoes.isDropped_performAll hdropped).look_eq

/-- Whatever the leaf and the nesting, and whatever has happened before. -/
theorem silent_after_end {input : InputConfig} {world : World} {stage : Stage}
    (hbuild : Stage.build world.disk true input = .ok stage) (moves : List UsageMove) :
    ((Usage.start stage world).performAll moves).SilentAfterEnd :=
  (steady_performAll (Stage.isFresh_of_build hbuild) world moves).silentAfterEnd

/-- The holder asks two nested guards to close just when the inner one's message
lies in the outlet, lets the workers go on and then receives. -/
theorem silent_after_end_of_buffered :
    ∃ (stage : Stage) (usage after : Usage) (moves later : List UsageMove),
      Stage.build (fun _ => .error .notFound) true
        (.readUntil (some (.readUntil (some (.memory ["a", "b"])) false (.count 1))) true
          (.count 5)) = .ok stage ∧
      usage = (Usage.start stage {}).performAll moves ∧ ¬usage.Asked ∧
      usage.outlet.slot = some ⟨1, .single [97]⟩ ∧
      later = [.work 0, .work 1, .work 2, .receive] ∧
      after = (usage.perform .close).performAll later ∧ after.handedOut = [] ∧
      (after.receipts.look 1).1 = .closed ∧ after.running.receive.1 = .ended := by
  obtain ⟨stage, hbuild⟩ : ∃ stage, Stage.build (fun _ => .error .notFound) true
      (.readUntil (some (.readUntil (some (.memory ["a", "b"])) false (.count 1))) true
        (.count 5)) = .ok stage := ⟨_, rfl⟩
  have hstage := Stage.eq_of_build hbuild
  obtain ⟨moves, hmoves⟩ : ∃ moves : List UsageMove,
      moves = (List.replicate 8 [.work 0, .work 1, .work 2]).flatten := ⟨_, rfl⟩
  obtain ⟨later, hlater⟩ : ∃ later : List UsageMove,
      later = [.work 0, .work 1, .work 2, .receive] := ⟨_, rfl⟩
  have hsilent : ((Usage.start stage {}).performAll moves).SilentAfterEnd :=
    silent_after_end hbuild moves
  have hunasked : ¬((Usage.start stage {}).performAll moves).Asked := by
    subst hstage hmoves
    unfold Asked
    decide +kernel
  have hslot : ((Usage.start stage {}).performAll moves).outlet.slot =
      some ⟨1, .single [97]⟩ := by
    subst hstage hmoves
    decide +kernel
  have hnothing : ((Usage.start stage {}).performAll moves).handedOut = [] := by
    subst hstage hmoves
    decide +kernel
  have hreceived : UsageMove.receive ∈ later := by simp [hlater]
  obtain ⟨hhanded, _, hclosed⟩ := hsilent.dropped hunasked _ hslot .close (.inl rfl) later
  have hafter : ((Usage.start stage {}).performAll (moves ++ .close :: later)).SilentAfterEnd :=
    silent_after_end hbuild _
  have hsplit : (Usage.start stage {}).performAll (moves ++ .close :: later) =
      (((Usage.start stage {}).performAll moves).perform .close).performAll later := by
    simp [Usage.performAll]
  rw [hsplit] at hafter
  refine ⟨stage, _, _, moves, later, hbuild, rfl, hunasked, hslot, hlater, rfl,
    hhanded.trans hnothing, hclosed (.inr (.inl hreceived)), (hafter.silent ?_ []).1⟩
  left
  subst hstage hmoves hlater
  unfold Asked
  decide +kernel

end Usage

end Intake
