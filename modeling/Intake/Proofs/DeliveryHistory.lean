import Intake.Acknowledgement.Ledger
import Mathlib

/-!
# What a delivery reports follows from its history

Deliveries are opened, divided, answered, dropped and looked at in any order, any number
of them side by side.  The log keeps the steps that were made.  Each delivery has one debt
and one claim to its outcome: a response or the debtor's going away uses up the debt, the
sight of the outcome or the creditor's going away uses up the claim, and every answer is
told by which of them happened and in which order.  What happens to one delivery is no
concern of another.
-/

namespace Intake

/-- A step on the delivery with a number, and what it answered. -/
structure Posting where
  number : Nat
  action : DeliveryStep
  answer : DeliveryAnswer
  deriving DecidableEq

namespace Posting

/-- The response that was made with a posting, to whomever. -/
def response? (posting : Posting) : Option Response :=
  match posting.action with
  | .respond response | .respondSplit response =>
      if posting.answer = .gone then none else some response
  | _ => none

/-- Whether the debtor went away with the debt. -/
def forsakes (posting : Posting) : Bool :=
  posting.action = .dropDebtor && posting.answer = .dropped true

/-- Whether the debt was used up. -/
def discharges (posting : Posting) : Bool := posting.response?.isSome || posting.forsakes

/-- The outcome that the creditor saw. -/
def outcome? (posting : Posting) : Option Sighting :=
  match posting.answer with
  | .sighted .pending => none
  | .sighted sighting => some sighting
  | _ => none

/-- Whether the creditor went away without having seen an outcome. -/
def relinquishes (posting : Posting) : Bool :=
  posting.action = .dropCreditor && posting.answer = .dropped true

/-- Whether the claim to the outcome was used up. -/
def withdraws (posting : Posting) : Bool :=
  posting.outcome?.isSome || posting.relinquishes

/-- Whether message and debt were divided. -/
def divides (posting : Posting) : Bool :=
  posting.action = .divide && posting.answer ≠ .gone

end Posting

/-- What is told of one delivery: the steps that were made on it, oldest first. -/
abbrev Story := List Posting

namespace Story

/-- Whether a response was made while the creditor was there. -/
def Answered (story : Story) (response : Response) : Prop :=
  ∃ before posting after, story = before ++ posting :: after ∧
    posting.response? = some response ∧ before.any Posting.withdraws = false

/-- Whether the debtor went away without an answer. -/
def Forsaken (story : Story) : Prop := ∃ posting ∈ story, posting.forsakes = true

/-- Whether the debt is still there. -/
def owed (story : Story) : Bool := !story.any Posting.discharges

/-- Whether the creditor is still there. -/
def awaited (story : Story) : Bool := !story.any Posting.withdraws

/-- Whether message and debt have been divided. -/
def divided (story : Story) : Bool := story.any Posting.divides

end Story

namespace DeliveryStep

/-- Answers with the debt, which was split off or is held together with the message. -/
def answering (split : Bool) (response : Response) : DeliveryStep :=
  if split then .respondSplit response else .respond response

def accepting (split : Bool) : DeliveryStep := answering split .ack

def rejecting (split : Bool) (cause : String) : DeliveryStep := answering split (.nack cause)

/-- Whether the step reads the same before and after message and debt are divided. -/
def ignoresDivision : DeliveryStep → Bool
  | dropDebtor | dropCreditor | askAbandoned | look => true
  | inspect | divide | respond _ | respondSplit _ => false

end DeliveryStep

/-- What is done to a ledger: a delivery is opened, or a step is made on one. -/
inductive LedgerMove where
  | deliver (message : Message)
  | step (number : Nat) (action : DeliveryStep)

/-- Whether a move opens a delivery or is a step on the one with a number. -/
def LedgerMove.concerns (number : Nat) : LedgerMove → Bool
  | deliver _ => true
  | step other _ => other = number

/-- A ledger with the messages of its deliveries and the steps that were made on them. -/
structure Journal where
  ledger : Ledger := []
  messages : List Message := []
  log : List Posting := []

namespace Journal

def perform (journal : Journal) : LedgerMove → Journal
  | .deliver message =>
      { journal with
        ledger := journal.ledger.deliver message
        messages := journal.messages ++ [message] }
  | .step number action =>
      { journal with
        ledger := (journal.ledger.step number action).1
        log := journal.log ++ [⟨number, action, (journal.ledger.step number action).2⟩] }

def performAll (journal : Journal) (moves : List LedgerMove) : Journal :=
  moves.foldl perform journal

/-- The journal of an empty ledger after some moves. -/
def after (moves : List LedgerMove) : Journal := performAll {} moves

/-- The steps on the delivery with a number. -/
def story (journal : Journal) (number : Nat) : Story :=
  journal.log.filter fun posting => posting.number = number

end Journal

/-! ## One step of one delivery -/

namespace Delivery

variable (delivery : Delivery) (number : Nat) (action : DeliveryStep)

/-- The posting of a step. -/
def posting : Posting := ⟨number, action, (delivery.step action).2⟩

theorem message_step : (delivery.step action).1.message = delivery.message := by
  obtain ⟨message, receipt, split⟩ := delivery
  cases action <;> cases receipt <;> cases split <;> rfl

theorem isOwed_step :
    (delivery.step action).1.receipt.isOwed =
      (delivery.receipt.isOwed && !(delivery.posting number action).discharges) := by
  obtain ⟨message, receipt, split⟩ := delivery
  cases action <;> cases receipt <;> cases split <;> rfl

theorem isAwaited_step :
    (delivery.step action).1.receipt.isAwaited =
      (delivery.receipt.isAwaited && !(delivery.posting number action).withdraws) := by
  obtain ⟨message, receipt, split⟩ := delivery
  cases action <;> cases receipt <;> cases split <;> rfl

theorem split_step :
    (delivery.step action).1.split =
      (delivery.split || (delivery.posting number action).divides) := by
  obtain ⟨message, receipt, split⟩ := delivery
  cases action <;> cases receipt <;> cases split <;> rfl

variable {delivery number action}

theorem isOwed_of_discharges (h : (delivery.posting number action).discharges = true) :
    delivery.receipt.isOwed = true := by
  obtain ⟨message, receipt, split⟩ := delivery
  cases action <;> cases receipt <;> cases split <;> first | rfl | cases h

theorem isAwaited_of_withdraws (h : (delivery.posting number action).withdraws = true) :
    delivery.receipt.isAwaited = true := by
  obtain ⟨message, receipt, split⟩ := delivery
  cases action <;> cases receipt <;> cases split <;> first | rfl | cases h

/-- The creditor stays when the debtor acts. -/
theorem withdraws_of_discharges (h : (delivery.posting number action).discharges = true) :
    (delivery.posting number action).withdraws = false := by
  obtain ⟨message, receipt, split⟩ := delivery
  cases action <;> cases receipt <;> cases split <;> first | rfl | cases h

theorem answered_step_iff (number : Nat) {response : Response} :
    (delivery.step action).1.receipt = .answered response ↔
      delivery.receipt = .answered response ∧
          (delivery.posting number action).withdraws = false ∨
        (delivery.posting number action).response? = some response ∧
          delivery.receipt.isAwaited = true := by
  obtain ⟨message, receipt, split⟩ := delivery
  cases action <;> cases receipt <;> cases split <;>
    simp [step, posting, answer, isWhole, isSplit, Receipt.isOwed, Receipt.isAwaited,
      Receipt.respond, Receipt.forsake, Receipt.abandon, Receipt.look, Posting.withdraws,
      Posting.outcome?, Posting.relinquishes, Posting.response?]

theorem forsaken_step_iff (number : Nat) :
    (delivery.step action).1.receipt = .forsaken ↔
      delivery.receipt = .forsaken ∧ (delivery.posting number action).withdraws = false ∨
        (delivery.posting number action).forsakes = true ∧
          delivery.receipt.isAwaited = true := by
  obtain ⟨message, receipt, split⟩ := delivery
  cases action <;> cases receipt <;> cases split <;>
    simp [step, posting, answer, isWhole, isSplit, Receipt.isOwed, Receipt.isAwaited,
      Receipt.respond, Receipt.forsake, Receipt.abandon, Receipt.look, Posting.withdraws,
      Posting.outcome?, Posting.relinquishes, Posting.forsakes]

/-- The outcome that the creditor sees is what has become of the debt. -/
theorem receipt_of_outcome {sighting : Sighting}
    (h : (delivery.posting number action).outcome? = some sighting) :
    (∃ response, sighting = .responded response ∧ delivery.receipt = .answered response) ∨
      sighting = .closed ∧ delivery.receipt = .forsaken := by
  obtain ⟨message, receipt, split⟩ := delivery
  cases action <;> cases receipt <;> cases split <;> cases h <;> simp

end Delivery

/-! ## Stories -/

namespace Story

variable {story : Story} {posting : Posting} {response : Response}

@[simp] theorem owed_concat :
    owed (story ++ [posting]) = (story.owed && !posting.discharges) := by
  simp [owed]

@[simp] theorem awaited_concat :
    awaited (story ++ [posting]) = (story.awaited && !posting.withdraws) := by
  simp [awaited]

@[simp] theorem divided_concat :
    divided (story ++ [posting]) = (story.divided || posting.divides) := by
  simp [divided]

theorem answered_concat :
    Answered (story ++ [posting]) response ↔
      story.Answered response ∨
        posting.response? = some response ∧ story.awaited = true := by
  constructor
  · rintro ⟨before, made, after, hstory, hresponse, hawaited⟩
    rcases List.eq_nil_or_concat after with rfl | ⟨earlier, last, rfl⟩
    · obtain ⟨rfl, hmade⟩ := List.append_inj' hstory rfl
      obtain rfl := List.singleton_inj.mp hmade
      exact .inr ⟨hresponse, by simp [awaited, hawaited]⟩
    · have hsplit : story ++ [posting] = (before ++ made :: earlier) ++ [last] := by
        simpa using hstory
      exact .inl ⟨before, made, earlier, (List.append_inj' hsplit rfl).1, hresponse, hawaited⟩
  · rintro (⟨before, made, after, rfl, hresponse, hawaited⟩ | ⟨hresponse, hawaited⟩)
    · exact ⟨before, made, after ++ [posting], by simp, hresponse, hawaited⟩
    · exact ⟨story, posting, [], rfl, hresponse, by simpa [awaited] using hawaited⟩

theorem forsaken_concat :
    Forsaken (story ++ [posting]) ↔ story.Forsaken ∨ posting.forsakes = true := by
  simp [Forsaken, or_and_right, exists_or]

/-- What was made while the creditor was there was made. -/
theorem Answered.exists_mem (h : story.Answered response) :
    ∃ posting ∈ story, posting.response? = some response := by
  obtain ⟨before, posting, after, rfl, hresponse, -⟩ := h
  exact ⟨posting, by simp, hresponse⟩

/-- A debt that was used up once only was used up in one way. -/
theorem eq_of_discharges {other : Posting} (honce : story.countP Posting.discharges ≤ 1)
    (hposting : posting ∈ story) (hother : other ∈ story)
    (hdischarges : posting.discharges = true) (hdischarges' : other.discharges = true) :
    posting = other := by
  rw [List.countP_eq_length_filter] at honce
  have hmem := List.mem_filter.mpr ⟨hposting, hdischarges⟩
  have hmem' := List.mem_filter.mpr ⟨hother, hdischarges'⟩
  generalize story.filter Posting.discharges = used at *
  match used, honce with
  | [], _ => exact absurd hmem List.not_mem_nil
  | [only], _ => rw [List.mem_singleton.mp hmem, List.mem_singleton.mp hmem']

theorem Answered.unique {other : Response} (honce : story.countP Posting.discharges ≤ 1)
    (h : story.Answered response) (hother : story.Answered other) : response = other := by
  obtain ⟨posting, hmem, hresponse⟩ := h.exists_mem
  obtain ⟨posting', hmem', hresponse'⟩ := hother.exists_mem
  obtain rfl := eq_of_discharges honce hmem hmem' (by simp [Posting.discharges, hresponse])
    (by simp [Posting.discharges, hresponse'])
  exact Option.some.inj (hresponse.symm.trans hresponse')

theorem Answered.not_forsaken (honce : story.countP Posting.discharges ≤ 1)
    (h : story.Answered response) : ¬story.Forsaken := by
  rintro ⟨posting', hmem', hforsakes⟩
  obtain ⟨posting, hmem, hresponse⟩ := h.exists_mem
  obtain rfl := eq_of_discharges honce hmem hmem' (by simp [Posting.discharges, hresponse])
    (by simp [Posting.discharges, hforsakes])
  obtain ⟨number, action, answer⟩ := posting
  cases action <;> simp_all [Posting.response?, Posting.forsakes]

end Story

/-- What a story says of the delivery that it is told of. -/
structure Delivery.Tells (delivery : Delivery) (message : Message) (story : Story) : Prop where
  message : delivery.message = message
  owed : delivery.receipt.isOwed = story.owed
  awaited : delivery.receipt.isAwaited = story.awaited
  divided : delivery.split = story.divided
  oneDebt : story.countP Posting.discharges ≤ 1
  oneClaim : story.countP Posting.withdraws ≤ 1
  answered : ∀ response, delivery.receipt = .answered response ↔
    story.awaited = true ∧ story.Answered response
  forsaken : delivery.receipt = .forsaken ↔ story.awaited = true ∧ story.Forsaken
  outcomes : ∀ posting ∈ story, ∀ sighting, posting.outcome? = some sighting →
    (∃ response, sighting = .responded response ∧ story.Answered response) ∨
      sighting = .closed ∧ story.Forsaken

namespace Delivery.Tells

variable {delivery : Delivery} {message : Message} {story : Story}

/-- What was tried before a delivery was opened says nothing. -/
theorem start (message : Message) (hgone : ∀ posting ∈ story, posting.answer = .gone) :
    Delivery.Tells { message } message story := by
  have hresponse : ∀ posting ∈ story, posting.response? = none := fun posting hmem => by
    unfold Posting.response?
    split <;> simp [hgone posting hmem]
  have hforsakes : ∀ posting ∈ story, posting.forsakes = false := fun posting hmem => by
    simp [Posting.forsakes, hgone posting hmem]
  have houtcome : ∀ posting ∈ story, posting.outcome? = none := fun posting hmem => by
    simp [Posting.outcome?, hgone posting hmem]
  have howed : ∀ posting ∈ story, posting.discharges = false := fun posting hmem => by
    simp [Posting.discharges, hresponse posting hmem, hforsakes posting hmem]
  have hawaited : ∀ posting ∈ story, posting.withdraws = false := fun posting hmem => by
    simp [Posting.withdraws, Posting.relinquishes, houtcome posting hmem, hgone posting hmem]
  have hdivided : ∀ posting ∈ story, posting.divides = false := fun posting hmem => by
    simp [Posting.divides, hgone posting hmem]
  have hunanswered : ∀ response, ¬story.Answered response := fun response hanswered => by
    obtain ⟨posting, hmem, hmade⟩ := hanswered.exists_mem
    simp [hresponse posting hmem] at hmade
  have hunforsaken : ¬story.Forsaken := by
    rintro ⟨posting, hmem, hmade⟩
    simp [hforsakes posting hmem] at hmade
  have hdebts : story.countP Posting.discharges = 0 := by simpa using howed
  have hclaims : story.countP Posting.withdraws = 0 := by simpa using hawaited
  constructor
  · rfl
  · simpa [Receipt.isOwed, Story.owed] using howed
  · simpa [Receipt.isAwaited, Story.awaited] using hawaited
  · simpa [Story.divided] using hdivided
  · omega
  · omega
  · simp [hunanswered]
  · simp [hunforsaken]
  · exact fun posting hmem sighting hseen => by simp [houtcome posting hmem] at hseen

/-- What can happen once only has not happened if it happens now. -/
theorem countP_concat_le_one {test : Posting → Bool} {posting : Posting}
    (honce : story.countP test ≤ 1) (hfirst : test posting = true → story.any test = false) :
    (story ++ [posting]).countP test ≤ 1 := by
  rw [List.countP_append, List.countP_singleton]
  split
  · next htest =>
    have hnone : story.countP test = 0 := by
      rw [List.countP_eq_zero]
      simpa using hfirst htest
    omega
  · omega

theorem step (htells : delivery.Tells message story) (number : Nat) (action : DeliveryStep) :
    (delivery.step action).1.Tells message (story ++ [delivery.posting number action]) where
  message := (delivery.message_step action).trans htells.message
  owed := by rw [isOwed_step, htells.owed, Story.owed_concat]
  awaited := by rw [isAwaited_step, htells.awaited, Story.awaited_concat]
  divided := by rw [split_step, htells.divided, Story.divided_concat]
  oneDebt := countP_concat_le_one htells.oneDebt fun hdischarges => by
    have howed := htells.owed.symm.trans (isOwed_of_discharges hdischarges)
    simpa [Story.owed] using howed
  oneClaim := countP_concat_le_one htells.oneClaim fun hwithdraws => by
    have hawaited := htells.awaited.symm.trans (isAwaited_of_withdraws hwithdraws)
    simpa [Story.awaited] using hawaited
  answered response := by
    rw [answered_step_iff number, htells.answered, htells.awaited, Story.awaited_concat,
      Story.answered_concat]
    have hstays : (delivery.posting number action).response? = some response →
        (delivery.posting number action).withdraws = false :=
      fun hresponse => withdraws_of_discharges (by simp [Posting.discharges, hresponse])
    grind
  forsaken := by
    rw [forsaken_step_iff number, htells.forsaken, htells.awaited, Story.awaited_concat,
      Story.forsaken_concat]
    have hstays : (delivery.posting number action).forsakes = true →
        (delivery.posting number action).withdraws = false :=
      fun hforsakes => withdraws_of_discharges (by simp [Posting.discharges, hforsakes])
    grind
  outcomes posting hmem sighting houtcome := by
    simp only [Story.answered_concat, Story.forsaken_concat]
    rcases List.mem_append.mp hmem with hold | hnew
    · rcases htells.outcomes posting hold sighting houtcome with
        ⟨response, hsighting, hanswered⟩ | ⟨hsighting, hforsaken⟩
      · exact .inl ⟨response, hsighting, .inl hanswered⟩
      · exact .inr ⟨hsighting, .inl hforsaken⟩
    · obtain rfl := List.mem_singleton.mp hnew
      rcases receipt_of_outcome houtcome with
        ⟨response, hsighting, hreceipt⟩ | ⟨hsighting, hreceipt⟩
      · exact .inl ⟨response, hsighting, .inl ((htells.answered response).mp hreceipt).2⟩
      · exact .inr ⟨hsighting, .inl (htells.forsaken.mp hreceipt).2⟩

/-- What the creditor has seen is what came about. -/
theorem outcome (htells : delivery.Tells message story) {posting : Posting}
    (hmem : posting ∈ story) {sighting : Sighting}
    (hseen : posting.outcome? = some sighting) :
    (∀ response, sighting = .responded response ↔ story.Answered response) ∧
      (sighting = .closed ↔ story.Forsaken) := by
  rcases htells.outcomes posting hmem sighting hseen with
    ⟨response, rfl, hanswered⟩ | ⟨rfl, hforsaken⟩
  · refine ⟨fun other => ⟨?_, fun hother => ?_⟩, by simp, fun hforsaken => ?_⟩
    · rintro ⟨⟩
      exact hanswered
    · rw [hanswered.unique htells.oneDebt hother]
    · exact absurd hforsaken (hanswered.not_forsaken htells.oneDebt)
  · refine ⟨fun other => ⟨by simp, fun hother => ?_⟩, fun _ => hforsaken, fun _ => rfl⟩
    exact absurd hforsaken (hother.not_forsaken htells.oneDebt)

theorem oneOutcome (htells : delivery.Tells message story) :
    story.countP (fun posting => posting.outcome?.isSome) ≤ 1 :=
  (List.countP_mono_left fun posting _ hseen => by simp [Posting.withdraws, hseen]).trans
    htells.oneClaim

end Delivery.Tells

/-! ## Ledgers -/

namespace Ledger

variable {ledger : Ledger} {number other : Nat} {delivery : Delivery} {action : DeliveryStep}

theorem step_of_found (hfound : ledger[number]? = some delivery) (action : DeliveryStep) :
    ledger.step number action =
      (ledger.set number (delivery.step action).1, (delivery.step action).2) := by
  simp [step, hfound]

theorem getElem?_step (hfound : ledger[number]? = some delivery) (action : DeliveryStep) :
    (ledger.step number action).1[number]? = some (delivery.step action).1 := by
  have hinside : number < ledger.length := (List.getElem?_eq_some_iff.mp hfound).choose
  simp [step_of_found hfound, hinside]

theorem answer_step (hfound : ledger[number]? = some delivery) (action : DeliveryStep) :
    (ledger.step number action).2 = (delivery.step action).2 := by
  rw [step_of_found hfound]

theorem answer_step_step (hfound : ledger[number]? = some delivery)
    (first later : DeliveryStep) :
    ((ledger.step number first).1.step number later).2 =
      ((delivery.step first).1.step later).2 :=
  answer_step (getElem?_step hfound first) later

/-- A step that leaves something about its delivery as it was leaves it so for all. -/
theorem map_step {α : Type} (read : Delivery → α) (hfound : ledger[number]? = some delivery)
    (hsame : read (delivery.step action).1 = read delivery) :
    (ledger.step number action).1.map read = ledger.map read := by
  obtain ⟨hinside, hdelivery⟩ := List.getElem?_eq_some_iff.mp hfound
  have hinside' : number < (ledger.map read).length := by simpa using hinside
  rw [step_of_found hfound, List.map_set, hsame]
  simpa [hdelivery] using List.set_getElem_self hinside'

theorem step_of_unfound (hunfound : ledger[number]? = none) (action : DeliveryStep) :
    ledger.step number action = (ledger, .gone) := by
  simp [step, hunfound]

/-- What a step answers depends on the delivery that it is made on alone. -/
theorem answer_congr {ledger' : Ledger} (h : ledger[number]? = ledger'[number]?)
    (action : DeliveryStep) :
    (ledger.step number action).2 = (ledger'.step number action).2 ∧
      (ledger.step number action).1[number]? = (ledger'.step number action).1[number]? := by
  cases hfound : ledger[number]? with
  | none =>
      rw [step_of_unfound hfound, step_of_unfound (h ▸ hfound)]
      exact ⟨rfl, h⟩
  | some delivery =>
      have hfound' := h ▸ hfound
      rw [getElem?_step hfound, getElem?_step hfound', step_of_found hfound,
        step_of_found hfound']
      exact ⟨rfl, rfl⟩

theorem getElem?_deliver_of_lt (message : Message) (hinside : number < ledger.length) :
    (ledger.deliver message)[number]? = ledger[number]? :=
  List.getElem?_append_left hinside

/-- What a ledger answers about one delivery, told from its story alone. -/
structure Accounted (ledger : Ledger) (number : Nat) (message : Message) (story : Story) :
    Prop where
  /-- The message is there for a debtor that holds it together with the debt. -/
  payload : ∀ action, action = .inspect ∨ action = .divide →
    (ledger.step number action).2 =
      if story.owed && !story.divided then .message message else .gone
  /-- A response is delivered exactly if the creditor is there, and comes back as it was
  otherwise, with the debt split off or not. -/
  answering : ∀ split response,
    (ledger.step number (.answering split response)).2 =
      if story.owed && story.divided == split then
        if story.awaited then .delivered else .returned response
      else .gone
  accepting : ∀ split,
    ledger.step number (.accepting split) = ledger.step number (.answering split ⟨none⟩)
  rejecting : ∀ split cause,
    ledger.step number (.rejecting split cause) =
      ledger.step number (.answering split ⟨some cause⟩)
  dropDebtor : (ledger.step number .dropDebtor).2 = .dropped story.owed
  dropCreditor : (ledger.step number .dropCreditor).2 = .dropped story.awaited
  askAbandoned : (ledger.step number .askAbandoned).2 =
    if story.owed then .abandoned !story.awaited else .gone
  lookGone : (ledger.step number .look).2 = .gone ↔ story.awaited = false
  lookPending : (ledger.step number .look).2 = .sighted .pending ↔
    story.awaited = true ∧ story.owed = true
  lookResponded : ∀ response,
    (ledger.step number .look).2 = .sighted (.responded response) ↔
      story.awaited = true ∧ story.Answered response
  lookClosed : (ledger.step number .look).2 = .sighted .closed ↔
    story.awaited = true ∧ story.Forsaken
  /-- The creditor has seen one outcome at most, and it was the one that came about. -/
  oneOutcome : story.countP (fun posting => posting.outcome?.isSome) ≤ 1
  outcome : ∀ posting ∈ story, ∀ sighting, posting.outcome? = some sighting →
    (∀ response, sighting = .responded response ↔ story.Answered response) ∧
      (sighting = .closed ↔ story.Forsaken)
  /-- The debt is used up once at most. -/
  oneDebt : story.countP Posting.discharges ≤ 1
  /-- To look at what is pending changes nothing. -/
  patience : (ledger.step number .look).2 = .sighted .pending →
    (ledger.step number .look).1 = ledger
  /-- To divide message and debt changes nothing for either end. -/
  division : ∀ later : DeliveryStep, later.ignoresDivision = true →
    ((ledger.step number .divide).1.step number later).2 = (ledger.step number later).2
  divisionAnswering : ∀ response, (ledger.step number .divide).2 = .message message →
    ((ledger.step number .divide).1.step number (.answering true response)).2 =
      (ledger.step number (.answering false response)).2
  divisionReceipts :
    (ledger.step number .divide).1.map Delivery.receipt = ledger.map Delivery.receipt
  /-- What is done to other deliveries changes nothing. -/
  apart : ∀ other act action, other ≠ number →
    ((ledger.step other act).1.step number action).2 = (ledger.step number action).2
  opening : ∀ new action,
    ((ledger.deliver new).step number action).2 = (ledger.step number action).2

/-- A delivery of which a story tells answers as the story says. -/
theorem accounted_of_tells {message : Message} {story : Story}
    (hfound : ledger[number]? = some delivery) (htells : delivery.Tells message story) :
    ledger.Accounted number message story where
  payload action haction := by
    rw [answer_step hfound, ← htells.owed, ← htells.divided, ← htells.message]
    obtain ⟨message, receipt, divided⟩ := delivery
    rcases haction with rfl | rfl <;> cases receipt <;> cases divided <;> rfl
  answering split response := by
    rw [answer_step hfound, ← htells.owed, ← htells.divided, ← htells.awaited]
    obtain ⟨message, receipt, divided⟩ := delivery
    cases receipt <;> cases divided <;> cases split <;> rfl
  accepting split := rfl
  rejecting split cause := rfl
  dropDebtor := by rw [answer_step hfound, ← htells.owed]; rfl
  dropCreditor := by rw [answer_step hfound, ← htells.awaited]; rfl
  askAbandoned := by rw [answer_step hfound, ← htells.owed, ← htells.awaited]; rfl
  lookGone := by
    rw [answer_step hfound, ← htells.awaited]
    obtain ⟨message, receipt, divided⟩ := delivery
    cases receipt <;> simp [Delivery.step, Receipt.isAwaited]
  lookPending := by
    rw [answer_step hfound, ← htells.awaited, ← htells.owed]
    obtain ⟨message, receipt, divided⟩ := delivery
    cases receipt <;> simp [Delivery.step, Receipt.isAwaited, Receipt.isOwed, Receipt.look]
  lookResponded response := by
    rw [answer_step hfound, ← htells.answered]
    obtain ⟨message, receipt, divided⟩ := delivery
    cases receipt <;> simp [Delivery.step, Receipt.isAwaited, Receipt.look]
  lookClosed := by
    rw [answer_step hfound, ← htells.forsaken]
    obtain ⟨message, receipt, divided⟩ := delivery
    cases receipt <;> simp [Delivery.step, Receipt.isAwaited, Receipt.look]
  oneOutcome := htells.oneOutcome
  outcome posting hmem sighting hseen := htells.outcome hmem hseen
  oneDebt := htells.oneDebt
  patience hpending := by
    rw [answer_step hfound] at hpending
    have hsame : (delivery.step .look).1 = delivery := by
      obtain ⟨message, receipt, divided⟩ := delivery
      cases receipt <;> simp_all [Delivery.step, Receipt.isAwaited, Receipt.look]
    simpa using map_step id hfound hsame
  division later hlater := by
    rw [answer_step_step hfound, answer_step hfound]
    obtain ⟨message, receipt, divided⟩ := delivery
    cases later <;> cases receipt <;> cases divided <;> first | rfl | cases hlater
  divisionAnswering response hdivided := by
    rw [answer_step_step hfound, answer_step hfound]
    rw [answer_step hfound] at hdivided
    obtain ⟨message, receipt, divided⟩ := delivery
    cases receipt <;> cases divided <;> first | rfl | cases hdivided
  divisionReceipts := map_step Delivery.receipt hfound (by
    obtain ⟨message, receipt, divided⟩ := delivery
    cases receipt <;> cases divided <;> rfl)
  apart other act action hother :=
    (answer_congr (getElem?_step_of_ne ledger hother act) action).1
  opening new action := by
    have hinside : number < ledger.length := (List.getElem?_eq_some_iff.mp hfound).choose
    exact (answer_congr (getElem?_deliver_of_lt new hinside) action).1

end Ledger

namespace Journal

variable {journal : Journal}

/-- The log tells of every delivery what has become of it. -/
structure Kept (journal : Journal) : Prop where
  length : journal.ledger.length = journal.messages.length
  untold : ∀ posting ∈ journal.log, journal.messages.length ≤ posting.number →
    posting.answer = .gone
  tells : ∀ number (delivery : Delivery) message, journal.ledger[number]? = some delivery →
    journal.messages[number]? = some message → delivery.Tells message (journal.story number)

theorem Kept.start : ({} : Journal).Kept := by
  constructor <;> simp

@[simp] theorem story_deliver (message : Message) (number : Nat) :
    (journal.perform (.deliver message)).story number = journal.story number := rfl

theorem story_step_self (number : Nat) (action : DeliveryStep) :
    (journal.perform (.step number action)).story number =
      journal.story number ++ [⟨number, action, (journal.ledger.step number action).2⟩] := by
  simp [perform, story]

theorem story_step_of_ne {number other : Nat} (hother : other ≠ number)
    (action : DeliveryStep) :
    (journal.perform (.step other action)).story number = journal.story number := by
  simp [perform, story, hother]

theorem Kept.deliver (hkept : journal.Kept) (message : Message) :
    (journal.perform (.deliver message)).Kept where
  length := by simp [perform, hkept.length]
  untold posting hmem hlater := by
    have hlater' : journal.messages.length + 1 ≤ posting.number := by
      simpa [perform] using hlater
    exact hkept.untold posting hmem (by omega)
  tells number delivery opened hfound hopened := by
    have hlength := hkept.length
    rw [story_deliver]
    by_cases hinside : number < journal.ledger.length
    · refine hkept.tells number delivery opened ?_ ?_
      · rwa [perform, Ledger.getElem?_deliver_of_lt message hinside] at hfound
      · rwa [perform, List.getElem?_append_left (by omega)] at hopened
    · -- the delivery that was just opened
      have hlast : number = journal.ledger.length := by
        have := (List.getElem?_eq_some_iff.mp hfound).choose
        simp only [perform, Ledger.length_deliver] at this
        omega
      subst hlast
      obtain rfl : delivery = { message } := by
        simpa [perform, Ledger.deliver] using hfound.symm
      obtain rfl : message = opened := by
        simpa [perform, hlength] using hopened
      refine Delivery.Tells.start message fun posting hmem => ?_
      obtain ⟨hlog, hnumber⟩ := List.mem_filter.mp hmem
      exact hkept.untold posting hlog (by simp_all)

theorem Kept.step (hkept : journal.Kept) (number : Nat) (action : DeliveryStep) :
    (journal.perform (.step number action)).Kept where
  length := by simp [perform, hkept.length]
  untold posting hmem hlater := by
    rcases List.mem_append.mp hmem with hold | hnew
    · exact hkept.untold posting hold hlater
    · obtain rfl := List.mem_singleton.mp hnew
      have hunfound : journal.ledger[number]? = none :=
        List.getElem?_eq_none (hkept.length ▸ hlater)
      simp [Ledger.step_of_unfound hunfound]
  tells other delivery message hfound hmessage := by
    by_cases hsame : number = other
    · subst hsame
      rw [story_step_self]
      cases hbefore : journal.ledger[number]? with
      | none => simp [perform, Ledger.step_of_unfound hbefore, hbefore] at hfound
      | some before =>
          obtain rfl : (before.step action).1 = delivery :=
            Option.some.inj ((Ledger.getElem?_step hbefore action).symm.trans hfound)
          rw [Ledger.answer_step hbefore]
          exact (hkept.tells number before message hbefore hmessage).step number action
    · rw [story_step_of_ne hsame]
      refine hkept.tells other delivery message ?_ hmessage
      rwa [perform, Ledger.getElem?_step_of_ne _ hsame] at hfound

theorem Kept.perform (hkept : journal.Kept) (move : LedgerMove) :
    (journal.perform move).Kept := by
  cases move with
  | deliver message => exact hkept.deliver message
  | step number action => exact hkept.step number action

theorem kept_performAll (moves : List LedgerMove) (hkept : journal.Kept) :
    (journal.performAll moves).Kept := by
  induction moves generalizing journal with
  | nil => exact hkept
  | cons move rest ih => exact ih (hkept.perform move)

/-! ## Deliveries side by side -/

/-- Two journals that agree about one delivery. -/
structure AgreesOn (number : Nat) (journal other : Journal) : Prop where
  length : journal.ledger.length = other.ledger.length
  found : journal.ledger[number]? = other.ledger[number]?
  story : journal.story number = other.story number

variable {other : Journal} {number : Nat}

theorem AgreesOn.perform (hagrees : journal.AgreesOn number other) (move : LedgerMove) :
    (journal.perform move).AgreesOn number (other.perform move) := by
  obtain ⟨hlength, hfound, hstory⟩ := hagrees
  cases move with
  | deliver message =>
      refine ⟨by simp [Journal.perform, hlength], ?_, hstory⟩
      simp only [Journal.perform, Ledger.deliver, List.getElem?_append, hlength, hfound]
  | step acted action =>
      refine ⟨by simp [Journal.perform, hlength], ?_, ?_⟩
      all_goals by_cases hsame : acted = number
      · subst hsame
        exact (Ledger.answer_congr hfound action).2
      · simp only [Journal.perform, Ledger.getElem?_step_of_ne _ hsame, hfound]
      · subst hsame
        rw [story_step_self, story_step_self, hstory, (Ledger.answer_congr hfound action).1]
      · rw [story_step_of_ne hsame, story_step_of_ne hsame, hstory]

/-- Steps on other deliveries leave what is told of one as it was. -/
theorem AgreesOn.ignore (hagrees : journal.AgreesOn number other) {acted : Nat}
    (hapart : acted ≠ number) (action : DeliveryStep) :
    (journal.perform (.step acted action)).AgreesOn number other where
  length := by simp [Journal.perform, hagrees.length]
  found := by simp [Journal.perform, Ledger.getElem?_step_of_ne _ hapart, hagrees.found]
  story := by rw [story_step_of_ne hapart, hagrees.story]

theorem AgreesOn.performAll (hagrees : journal.AgreesOn number other)
    (moves : List LedgerMove) :
    (journal.performAll moves).AgreesOn number
      (other.performAll (moves.filter (·.concerns number))) := by
  induction moves generalizing journal other with
  | nil => exact hagrees
  | cons move rest ih =>
      by_cases hconcerns : move.concerns number = true
      · rw [List.filter_cons_of_pos hconcerns]
        exact ih (hagrees.perform move)
      · rw [List.filter_cons_of_neg hconcerns]
        cases move with
        | deliver message => exact absurd rfl hconcerns
        | step acted action =>
            exact ih (hagrees.ignore (by simpa [LedgerMove.concerns] using hconcerns) action)

/-- **Every answer is accounted for.**  After any moves, each delivery answers as the steps
that were made on it tell, whatever is done to the others beside it: the story of a delivery
is the one that it has alone.  A delivery that was never opened answers nothing. -/
theorem accounted_after (moves : List LedgerMove) (number : Nat) :
    (∀ message, (after moves).messages[number]? = some message →
      (after moves).ledger.Accounted number message ((after moves).story number)) ∧
    ((after moves).messages[number]? = none → ∀ action,
      (after moves).ledger.step number action = ((after moves).ledger, .gone)) ∧
    (after moves).story number =
      (after (moves.filter (·.concerns number))).story number := by
  have hkept : (after moves).Kept := kept_performAll moves Kept.start
  refine ⟨fun message hmessage => ?_, fun hnone action => ?_, ?_⟩
  · have hinside := (List.getElem?_eq_some_iff.mp hmessage).choose
    have hfound := List.getElem?_eq_getElem (hkept.length ▸ hinside)
    exact Ledger.accounted_of_tells hfound (hkept.tells number _ message hfound hmessage)
  · refine Ledger.step_of_unfound (List.getElem?_eq_none ?_) action
    exact hkept.length ▸ List.getElem?_eq_none_iff.mp hnone
  · exact (AgreesOn.performAll ⟨rfl, rfl, rfl⟩ moves).story

/-- A response that was split off reaches its creditor once, and one that comes after the
creditor has left comes back. -/
example :
    (after
        [.deliver ⟨[]⟩, .deliver ⟨[[1]]⟩, .step 0 .divide, .step 1 .dropCreditor,
          .step 0 .look, .step 1 (.accepting false), .step 0 (.rejecting true "full"),
          .step 0 .look, .step 0 .look]).log.map (·.answer) =
      [.message ⟨[]⟩, .dropped true, .sighted .pending, .returned .ack, .delivered,
        .sighted (.responded (.nack "full")), .gone] := by
  decide

end Journal

end Intake
