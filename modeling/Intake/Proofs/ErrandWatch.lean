import Intake.Proofs.GuardErrands
import Intake.Proofs.WritingRuns

/-!
# What the maker of transactions sees

A stage in use is watched at some depth: which transactions are taken out of the stage
there, and what their makers are told.  With guards around that stage that are never
restarted and do not count, it is told by what the holder was handed out and answered,
as long as no message that met one of the conditions has been accepted.  After that the
guards part from each other one by one, and how far a transaction gets meanwhile is up
to the schedule.
-/

namespace Intake

namespace Receipts

@[simp] theorem tells?_self (receipts : Receipts) (number : Nat) :
    receipts.tells? receipts number = none := by
  cases hget : receipts.get number <;> simp [tells?, hget]

theorem tells?_of_not_open {before : Receipts} (after : Receipts) {number : Nat}
    (hget : before.get number ≠ .open) : before.tells? after number = none := by
  cases hbefore : before.get number with
  | «open» => exact absurd hbefore hget
  | _ => simp [tells?, hbefore]

theorem tells?_of_isOwed (before : Receipts) {after : Receipts} {number : Nat}
    (howed : (after.get number).isOwed = true) : before.tells? after number = none := by
  cases hbefore : before.get number <;> cases hafter : after.get number <;>
    simp_all [tells?, Receipt.isOwed]

theorem tells?_of_pronounce {before after : Receipts} {number : Nat} {verdict : Verdict}
    (hopen : before.get number = .open)
    (hget : after.get number = Receipt.open.pronounce verdict) :
    before.tells? after number = some verdict := by
  cases verdict <;>
    simp [tells?, hopen, hget, Receipt.pronounce, Receipt.respond, Receipt.forsake]

end Receipts

theorem Receipt.isOwed_pronounce_open (verdict : Verdict) :
    (Receipt.open.pronounce verdict).isOwed = false := by
  cases verdict <;> rfl

namespace Usage

variable (usage : Usage) (move : UsageMove)

theorem record_isPrefix_perform : usage.record <+: (usage.perform move).record := by
  have hcase := usage.performs move
  generalize usage.perform move = after at hcase ⊢
  cases hcase with
  | idle => exact List.prefix_rfl
  | _ => exact List.prefix_append _ _

theorem messages_isPrefix_perform : usage.messages <+: (usage.perform move).messages :=
  ((usage.record_isPrefix_perform move).filterMap _).map _

theorem answers_isPrefix_perform : usage.answers <+: (usage.perform move).answers :=
  ((usage.record_isPrefix_perform move).filterMap _).map _

end Usage

/-- A stage in use, with the transactions that were taken out of the stage at some depth
and what the maker of each transaction was told. -/
structure Watch where
  usage : Usage
  depth : Nat
  taken : List Transaction := []
  told : Nat → List Verdict := fun _ => []

/-- A transaction with the verdict that the holder of the outermost stage pronounced on
its message. -/
abbrev Dealing := Transaction × Verdict

namespace Watch

def start (stage : Stage) (world : World) (depth : Nat) : Watch :=
  { usage := .start stage world, depth }

/-- The transaction that a move takes out of the stage at the depth that is watched. -/
def takes? (watch : Watch) : UsageMove → Option Transaction
  | .work level =>
      (watch.usage.running.stage.step watch.usage.running.world level).bind fun move =>
        move.event.takenFrom? watch.depth level
  | _ => none

def perform (watch : Watch) (move : UsageMove) : Watch where
  usage := watch.usage.perform move
  depth := watch.depth
  taken := watch.taken ++ (watch.takes? move).toList
  told number := watch.told number ++
    (watch.usage.receipts.tells? (watch.usage.perform move).receipts number).toList

def performAll (watch : Watch) (moves : List UsageMove) : Watch :=
  moves.foldl perform watch

/-- What becomes of a watched stage when its workers take steps at some levels. -/
def workAll (watch : Watch) (levels : List Nat) : Watch := watch.performAll (levels.map .work)

@[simp] theorem usage_start (stage : Stage) (world : World) (depth : Nat) :
    (start stage world depth).usage = .start stage world := rfl

@[simp] theorem usage_perform (watch : Watch) (move : UsageMove) :
    (watch.perform move).usage = watch.usage.perform move := rfl

@[simp] theorem usage_performAll (watch : Watch) (moves : List UsageMove) :
    (watch.performAll moves).usage = watch.usage.performAll moves := by
  induction moves generalizing watch with
  | nil => rfl
  | cons move rest ih => exact ih (watch.perform move)

theorem workAll_of_isAtRest {watch : Watch} (hrest : watch.usage.running.IsAtRest)
    (levels : List Nat) : watch.workAll levels = watch := by
  induction levels with
  | nil => rfl
  | cons level rest ih =>
      have hstep : watch.usage.running.stage.step watch.usage.running.world level = none := by
        simpa [Running.work] using hrest level
      have hsame : watch.usage.perform (.work level) = watch.usage := by
        simp [Usage.perform, hrest level]
      have hidle : watch.perform (.work level) = watch := by
        simp [perform, takes?, hsame, hstep]
      change (watch.perform (.work level)).workAll rest = watch
      rw [hidle, ih]

/-! ## What is settled and what is not -/

/-- Nobody was told anything about a transaction that somebody owes a verdict for or that
has not been made. -/
def Untold (watch : Watch) : Prop :=
  ∀ number, (watch.usage.receipts.get number).isOwed = true ∨
    watch.usage.receipts.next ≤ number → watch.told number = []

/-- The makers of some transactions were told what the guards with some conditions make
of the verdicts. -/
def HasTold (conditions : List Condition) (watch : Watch) (earlier : List Dealing) : Prop :=
  ∀ dealing ∈ earlier, dealing.1.number < watch.usage.receipts.next ∧
    (watch.usage.receipts.get dealing.1.number).isOwed = false ∧
    watch.told dealing.1.number =
      [dealing.2.relayed (Condition.anyMeets conditions dealing.1.payload)]

section Settled

variable {watch : Watch} {conditions : List Condition} {earlier : List Dealing}

theorem Untold.perform (huntold : watch.Untold) (move : UsageMove) :
    (watch.perform move).Untold := by
  intro number howed
  have hsettles := watch.usage.settles_perform move
  have hbefore : (watch.usage.receipts.get number).isOwed = true ∨
      watch.usage.receipts.next ≤ number := by
    by_cases hissued : number < watch.usage.receipts.next
    · rcases howed with hafter | hlater
      · exact .inl (hsettles.owed hissued hafter)
      · exact absurd (hsettles.next.trans hlater) (by omega)
    · exact .inr (Nat.le_of_not_lt hissued)
  have hnothing : watch.usage.receipts.tells? (watch.usage.perform move).receipts number =
      none := by
    rcases howed with hafter | hlater
    · exact Receipts.tells?_of_isOwed _ hafter
    · apply Receipts.tells?_of_not_open
      rw [watch.usage.receipts.get_of_next_le (hsettles.next.trans hlater)]
      simp
  simp [Watch.perform, huntold number hbefore, hnothing]

theorem HasTold.perform (htold : watch.HasTold conditions earlier)
    (move : UsageMove) : (watch.perform move).HasTold conditions earlier := by
  intro dealing hmem
  obtain ⟨hissued, hunowed, hheard⟩ := htold dealing hmem
  have hsettles := watch.usage.settles_perform move
  refine ⟨Nat.lt_of_lt_of_le hissued hsettles.next,
    hsettles.unowed dealing.1.number hissued hunowed, ?_⟩
  have hnothing : watch.usage.receipts.tells? (watch.usage.perform move).receipts
      dealing.1.number = none := by
    apply Receipts.tells?_of_not_open
    intro hopen
    simp [hopen, Receipt.isOwed] at hunowed
  simpa [Watch.perform, hnothing] using hheard

/-- One more maker is told the verdict on its transaction. -/
theorem HasTold.concat (htold : watch.HasTold conditions earlier) (huntold : watch.Untold)
    {move : UsageMove} {transaction : Transaction} {verdict : Verdict}
    (hopen : watch.usage.receipts.get transaction.number = .open)
    (hget : (watch.usage.perform move).receipts.get transaction.number = Receipt.open.pronounce
      (verdict.relayed (Condition.anyMeets conditions transaction.payload))) :
    (watch.perform move).HasTold conditions (earlier ++ [(transaction, verdict)]) := by
  intro dealing hmem
  rcases List.mem_append.mp hmem with hold | hnew
  · exact htold.perform move dealing hold
  · obtain rfl : dealing = (transaction, verdict) := List.mem_singleton.mp hnew
    have hissued : transaction.number < watch.usage.receipts.next := by
      apply watch.usage.receipts.lt_next_of_get_ne
      simp [hopen]
    have hnothing : watch.told transaction.number = [] :=
      huntold _ (.inl (by simp [hopen, Receipt.isOwed]))
    refine ⟨Nat.lt_of_lt_of_le hissued (watch.usage.settles_perform move).next, ?_, ?_⟩
    · change ((watch.usage.perform move).receipts.get transaction.number).isOwed = false
      rw [hget]
      exact Receipt.isOwed_pronounce_open _
    · change watch.told transaction.number ++ _ = _
      rw [hnothing, Receipts.tells?_of_pronounce hopen hget]
      rfl

end Settled

/-! ## Runs -/

/-! Here the outermost guards of a watched stage have some conditions, its holder answers
before receiving again, and earlier transactions have been dealt with. -/

section Standings

variable (conditions : List Condition) (watch : Watch) (earlier : List Dealing)

/-- The holder has answered all that was handed out. -/
structure Ready (standing : Standing) (errand : Errand) : Prop where
  conveys : watch.usage.running.stage.Conveys watch.usage.receipts conditions standing errand
  outward : ∀ transaction verdict, errand ≠ .back transaction verdict
  unlent : standing.held = []
  held : watch.usage.held = []
  taken : watch.taken = earlier.map Prod.fst ++ errand.transaction?.toList
  messages : watch.usage.messages = earlier.map fun dealing => dealing.1.payload
  answers : watch.usage.answers = earlier.map Prod.snd
  ended : .received .ended ∈ watch.usage.record → standing = .ended

/-- The holder has a transaction and has not answered it. -/
structure Lent (number : Nat) (transaction : Transaction) : Prop where
  conveys : watch.usage.running.stage.Conveys watch.usage.receipts conditions (.lent number)
    (.out transaction)
  held : watch.usage.held = [number]
  taken : watch.taken = earlier.map Prod.fst ++ [transaction]
  messages : watch.usage.messages =
    earlier.map (fun dealing => dealing.1.payload) ++ [transaction.payload]
  answers : watch.usage.answers = earlier.map Prod.snd
  unended : .received .ended ∉ watch.usage.record

/-- A verdict is on its way back to whoever made the last transaction. -/
structure Returns (transaction : Transaction) (verdict : Verdict) : Prop where
  conveys : watch.usage.running.stage.Conveys watch.usage.receipts conditions .working
    (.back transaction (verdict.relayed true))
  met : Condition.anyMeets conditions transaction.payload = true
  held : watch.usage.held = []
  taken : watch.taken = earlier.map Prod.fst ++ [transaction]
  messages : watch.usage.messages =
    earlier.map (fun dealing => dealing.1.payload) ++ [transaction.payload]
  answers : watch.usage.answers = earlier.map Prod.snd ++ [verdict]
  unended : .received .ended ∉ watch.usage.record

/-- A message was accepted that met one of the conditions. -/
structure Parted (transaction : Transaction) (verdict : Verdict) : Prop where
  final : (verdict.accepts && Condition.anyMeets conditions transaction.payload) = true
  taken : earlier.map Prod.fst ++ [transaction] <+: watch.taken
  messages : earlier.map (fun dealing => dealing.1.payload) ++ [transaction.payload] <+:
    watch.usage.messages
  answers : earlier.map Prod.snd ++ [verdict] <+: watch.usage.answers

/-- How a watched stage stands. -/
inductive Stands : Prop where
  | ready {standing : Standing} {errand : Errand}
      (hready : Ready conditions watch earlier standing errand)
  | lent {number : Nat} {transaction : Transaction}
      (hlent : Lent conditions watch earlier number transaction)
  | back {transaction : Transaction} {verdict : Verdict}
      (hreturns : Returns conditions watch earlier transaction verdict)
  | parted {transaction : Transaction} {verdict : Verdict}
      (hparted : Parted conditions watch earlier transaction verdict)

end Standings

/-- All that is known about a watched stage, given the transactions that have been dealt
with. -/
structure Follows (conditions : List Condition) (watch : Watch) (earlier : List Dealing) :
    Prop where
  depth : watch.depth = conditions.length
  untold : watch.Untold
  told : watch.HasTold conditions earlier
  stands : watch.Stands conditions earlier

namespace Follows

variable {watch : Watch} {conditions : List Condition} {earlier : List Dealing}

theorem start {stage : Stage} {world : World}
    (hconveys : stage.Conveys world.receipts conditions .working .idle) :
    (Watch.start stage world conditions.length).Follows conditions [] := by
  have hready : (Watch.start stage world conditions.length).Ready conditions [] .working .idle := {
    conveys := hconveys
    outward := by simp
    unlent := rfl
    held := rfl
    taken := rfl
    messages := rfl
    answers := rfl
    ended := by simp [Watch.start, Usage.start] }
  exact ⟨rfl, fun _ _ => rfl, by simp [HasTold], .ready hready⟩

/-- Where nothing is dealt with, only how the stage stands has to be told anew. -/
theorem keep (hfollows : watch.Follows conditions earlier) {move : UsageMove}
    (hstands : (watch.perform move).Stands conditions earlier) :
    ∃ later, (watch.perform move).Follows conditions later :=
  ⟨earlier, hfollows.depth, hfollows.untold.perform move, hfollows.told.perform move, hstands⟩

/-- One more transaction is dealt with. -/
theorem settle (hfollows : watch.Follows conditions earlier) {move : UsageMove}
    {transaction : Transaction} (verdict : Verdict)
    (hopen : watch.usage.receipts.get transaction.number = .open)
    (hget : (watch.usage.perform move).receipts.get transaction.number = Receipt.open.pronounce
      (verdict.relayed (Condition.anyMeets conditions transaction.payload)))
    (hstands : (watch.perform move).Stands conditions (earlier ++ [(transaction, verdict)])) :
    (watch.perform move).Follows conditions (earlier ++ [(transaction, verdict)]) :=
  ⟨hfollows.depth, hfollows.untold.perform move,
    hfollows.told.concat hfollows.untold hopen hget, hstands⟩

/-- Once the guards part nothing is to be told anew. -/
theorem part (hfollows : watch.Follows conditions earlier) {transaction : Transaction}
    {verdict : Verdict} (hparted : watch.Parted conditions earlier transaction verdict)
    (move : UsageMove) : ∃ later, (watch.perform move).Follows conditions later :=
  hfollows.keep (.parted ⟨hparted.final, hparted.taken.trans (List.prefix_append _ _),
    hparted.messages.trans (watch.usage.messages_isPrefix_perform move),
    hparted.answers.trans (watch.usage.answers_isPrefix_perform move)⟩)

theorem same (hfollows : watch.Follows conditions earlier) {move : UsageMove}
    (hbooks : watch.usage.SameBooks (watch.usage.perform move))
    (hreceipts : (watch.usage.perform move).receipts = watch.usage.receipts)
    (hstage : (watch.usage.perform move).running.stage = watch.usage.running.stage)
    (hnothing : watch.takes? move = none) :
    ∃ later, (watch.perform move).Follows conditions later := by
  obtain ⟨hmessages, hanswers, hheld, hold⟩ := hbooks
  have htaken : (watch.perform move).taken = watch.taken := by
    simp [Watch.perform, hnothing]
  have hconveys {standing : Standing} {errand : Errand}
      (hbefore : watch.usage.running.stage.Conveys watch.usage.receipts conditions standing
        errand) :
      (watch.perform move).usage.running.stage.Conveys (watch.perform move).usage.receipts
        conditions standing errand := by
    rw [usage_perform, hreceipts, hstage]
    exact hbefore
  cases hfollows.stands with
  | ready hready =>
      exact hfollows.keep <| .ready {
        conveys := hconveys hready.conveys
        outward := hready.outward
        unlent := hready.unlent
        held := hheld.trans hready.held
        taken := htaken.trans hready.taken
        messages := hmessages.trans hready.messages
        answers := hanswers.trans hready.answers
        ended := fun hend => hready.ended (hold hend) }
  | lent hlent =>
      exact hfollows.keep <| .lent {
        conveys := hconveys hlent.conveys
        held := hheld.trans hlent.held
        taken := htaken.trans hlent.taken
        messages := hmessages.trans hlent.messages
        answers := hanswers.trans hlent.answers
        unended := mt hold hlent.unended }
  | back hreturns =>
      exact hfollows.keep <| .back {
        conveys := hconveys hreturns.conveys
        met := hreturns.met
        held := hheld.trans hreturns.held
        taken := htaken.trans hreturns.taken
        messages := hmessages.trans hreturns.messages
        answers := hanswers.trans hreturns.answers
        unended := mt hold hreturns.unended }
  | parted hparted => exact hfollows.part hparted move

/-- A move that does nothing. -/
theorem idle (hfollows : watch.Follows conditions earlier) {move : UsageMove}
    (hsame : watch.usage.perform move = watch.usage) (hnothing : watch.takes? move = none) :
    ∃ later, (watch.perform move).Follows conditions later :=
  hfollows.same (by rw [hsame]; exact ⟨rfl, rfl, rfl, id⟩) (by rw [hsame]) (by rw [hsame])
    hnothing

section Steps

variable {level : Nat} {move : StageMove}

/-- What the step of a worker changes, and what it leaves. -/
structure Worked (watch : Watch) (level : Nat) (move : StageMove) : Prop where
  receipts : (watch.usage.perform (.work level)).receipts = move.receipts
  stage : (watch.usage.perform (.work level)).running.stage = move.stage
  books : watch.usage.SameBooks (watch.usage.perform (.work level))
  taken : (watch.perform (.work level)).taken =
    watch.taken ++ (move.event.takenFrom? watch.depth level).toList

theorem worked
    (hstep : watch.usage.running.stage.step watch.usage.running.world level = some move) :
    Worked watch level move := by
  have hafter := Usage.perform_work_of_step hstep
  refine ⟨by rw [hafter]; rfl, by rw [hafter]; rfl, ?_, ?_⟩
  · rw [hafter]
    exact Usage.sameBooks_note _ _ _ rfl rfl (by simp)
  · simp [Watch.perform, takes?, hstep]

/-- A verdict gets on its way back, or whoever made the transaction is told. -/
theorem work_returns {transaction : Transaction} {verdict : Verdict}
    (hfollows : watch.Follows conditions earlier)
    (hreturns : watch.Returns conditions earlier transaction verdict)
    (hsteady : ∀ condition ∈ conditions, condition.IsSteady)
    (hstep : watch.usage.running.stage.step watch.usage.running.world level = some move) :
    (watch.perform (.work level)).Follows conditions earlier ∧
        (watch.perform (.work level)).Returns conditions earlier transaction verdict ∨
      (watch.perform (.work level)).Follows conditions (earlier ++ [(transaction, verdict)]) := by
  obtain ⟨hreceipts, hstage, ⟨hmessages, hanswers, hheld, hold⟩, htaken⟩ := worked hstep
  obtain ⟨after, other, hafter, hbecomes, hgoes⟩ := hreturns.conveys.step hsteady hstep
  rw [← hreceipts, ← hstage] at hafter
  rw [hfollows.depth, hreturns.taken] at htaken
  have hunlent := hbecomes.held_eq_nil rfl
  generalize move.event.takenFrom? conditions.length level = taking at hgoes htaken
  cases hgoes with
  | stays =>
      obtain rfl := hafter.eq_working_of_back
      have hstill : (watch.perform (.work level)).Returns conditions earlier transaction
          verdict := {
        conveys := hafter
        met := hreturns.met
        held := hheld.trans hreturns.held
        taken := by simpa using htaken
        messages := hmessages.trans hreturns.messages
        answers := hanswers.trans hreturns.answers
        unended := mt hold hreturns.unended }
      exact .inl ⟨⟨hfollows.depth, hfollows.untold.perform _, hfollows.told.perform _,
        .back hstill⟩, hstill⟩
  | returns hopen hget =>
      have hready : (watch.perform (.work level)).Ready conditions
          (earlier ++ [(transaction, verdict)]) after .idle := {
        conveys := hafter
        outward := by simp
        unlent := hunlent
        held := hheld.trans hreturns.held
        taken := by simpa [Errand.transaction?] using htaken
        messages := by simpa using hmessages.trans hreturns.messages
        answers := by simpa using hanswers.trans hreturns.answers
        ended := fun hend => absurd (hold hend) hreturns.unended }
      refine .inr (hfollows.settle verdict hopen ?_ (.ready hready))
      rw [hreceipts, hget, hreturns.met]

/-- A transaction may set out on its errand, and its message gets on its way to the
holder. -/
theorem work_ready {standing : Standing} {errand : Errand}
    (hfollows : watch.Follows conditions earlier)
    (hready : watch.Ready conditions earlier standing errand)
    (hsteady : ∀ condition ∈ conditions, condition.IsSteady)
    (hstep : watch.usage.running.stage.step watch.usage.running.world level = some move) :
    ∃ later, (watch.perform (.work level)).Follows conditions later := by
  obtain ⟨hreceipts, hstage, ⟨hmessages, hanswers, hheld, hold⟩, htaken⟩ := worked hstep
  obtain ⟨after, other, hafter, hbecomes, hgoes⟩ := hready.conveys.step hsteady hstep
  rw [← hreceipts, ← hstage] at hafter
  rw [hfollows.depth] at htaken
  have hnext : other.transaction?.toList = errand.transaction?.toList ++
      (move.event.takenFrom? conditions.length level).toList ∧
        ∀ transaction verdict, other ≠ .back transaction verdict := by
    generalize move.event.takenFrom? conditions.length level = taken at hgoes
    cases hgoes with
    | stays => exact ⟨by simp, hready.outward⟩
    | leaves => exact ⟨rfl, by simp⟩
    | returns => exact absurd rfl (hready.outward _ _)
  refine hfollows.keep <| .ready {
    conveys := hafter
    outward := hnext.2
    unlent := hbecomes.held_eq_nil hready.unlent
    held := hheld.trans hready.held
    taken := by rw [htaken, hready.taken, hnext.1, List.append_assoc]
    messages := hmessages.trans hready.messages
    answers := hanswers.trans hready.answers
    ended := fun hend => ?_ }
  obtain rfl := hready.ended (hold hend)
  cases hbecomes with
  | waits hnumber => simp [Standing.number?] at hnumber
  | ends => rfl

/-- While the holder has a transaction nothing happens to it. -/
theorem work_lent {number : Nat} {transaction : Transaction}
    (hfollows : watch.Follows conditions earlier)
    (hlent : watch.Lent conditions earlier number transaction)
    (hsteady : ∀ condition ∈ conditions, condition.IsSteady)
    (hstep : watch.usage.running.stage.step watch.usage.running.world level = some move) :
    ∃ later, (watch.perform (.work level)).Follows conditions later := by
  obtain ⟨hreceipts, hstage, ⟨hmessages, hanswers, hheld, hold⟩, htaken⟩ := worked hstep
  obtain ⟨after, other, hafter, hbecomes, hgoes⟩ := hlent.conveys.step hsteady hstep
  rw [← hreceipts, ← hstage] at hafter
  obtain ⟨hnothing, rfl⟩ := hgoes.of_out
  rw [hfollows.depth, hnothing] at htaken
  cases hbecomes with
  | waits =>
      exact hfollows.keep <| .lent {
        conveys := hafter
        held := hheld.trans hlent.held
        taken := by simpa using htaken.trans (by simpa using hlent.taken)
        messages := hmessages.trans hlent.messages
        answers := hanswers.trans hlent.answers
        unended := mt hold hlent.unended }

theorem work (hfollows : watch.Follows conditions earlier)
    (hsteady : ∀ condition ∈ conditions, condition.IsSteady) (level : Nat) :
    ∃ later, (watch.perform (.work level)).Follows conditions later := by
  cases hstep : watch.usage.running.stage.step watch.usage.running.world level with
  | none =>
      exact hfollows.idle (by simp [Usage.perform, Running.work, hstep])
        (by simp [takes?, hstep])
  | some move =>
      cases hfollows.stands with
      | ready hready => exact hfollows.work_ready hready hsteady hstep
      | lent hlent => exact hfollows.work_lent hlent hsteady hstep
      | back hreturns =>
          rcases hfollows.work_returns hreturns hsteady hstep with ⟨hsame, _⟩ | hlater
          · exact ⟨_, hsame⟩
          · exact ⟨_, hlater⟩
      | parted hparted => exact hfollows.part hparted _

/-- While a verdict is on its way back the workers can get it to whoever made the
transaction. -/
theorem exists_told {transaction : Transaction} {verdict : Verdict}
    (hfollows : watch.Follows conditions earlier)
    (hreturns : watch.Returns conditions earlier transaction verdict)
    (hsteady : ∀ condition ∈ conditions, condition.IsSteady) :
    ∃ levels, (watch.workAll levels).told transaction.number = [verdict.relayed true] := by
  have hreaches : watch.usage.running.stage.Reaches _ watch.usage.running.world :=
    hreturns.conveys.reaches_told
  generalize hstage : watch.usage.running.stage = stage at hreaches
  generalize hworld : watch.usage.running.world = world at hreaches
  induction hreaches generalizing watch with
  | here htold =>
      subst hstage hworld
      have hopen : watch.usage.running.world.receipts.get transaction.number = .open :=
        hreturns.conveys.get_eq_open rfl
      have howed := Receipt.isOwed_pronounce_open (verdict.relayed true)
      rw [← htold, hopen] at howed
      simp [Receipt.isOwed] at howed
  | @step _ _ level move hstep _ ih =>
      subst hstage hworld
      have hafter := Usage.perform_work_of_step hstep
      rcases hfollows.work_returns hreturns hsteady hstep with ⟨hsame, hstill⟩ | hlater
      · obtain ⟨levels, htold⟩ := ih hsame hstill (by rw [usage_perform, hafter]; rfl)
          (by rw [usage_perform, hafter]; rfl)
        exact ⟨level :: levels, htold⟩
      · obtain ⟨_, _, htold⟩ := hlater.told (transaction, verdict) (by simp)
        refine ⟨[level], htold.trans ?_⟩
        rw [hreturns.met]

end Steps

section Holder

variable (hholding : watch.usage.holding = true)

include hholding

theorem receive_working (hfollows : watch.Follows conditions earlier)
    (hshows : Standing.working.Shows watch.usage.outlet) :
    ∃ later, (watch.perform .receive).Follows conditions later := by
  have hoffer : watch.usage.outlet.offer = .pending := hshows.offer_eq
  have hreceive := Usage.KeepsUp.receive_nothing hholding hshows.isClosing_eq hshows.slot_eq
  rw [hoffer] at hreceive
  refine hfollows.same ?_ (by rw [hreceive]; rfl) (by rw [hreceive]) rfl
  rw [hreceive]
  exact Usage.sameBooks_note _ _ _ rfl rfl (by simp)

theorem receive_offering {transaction : Transaction} {errand : Errand}
    (hfollows : watch.Follows conditions earlier) (hguards : conditions ≠ [])
    (hready : watch.Ready conditions earlier (.offering transaction) errand) :
    ∃ later, (watch.perform .receive).Follows conditions later := by
  have hshows : (Standing.offering transaction).Shows watch.usage.outlet :=
    hready.conveys.poised.shows
  have hoffer : watch.usage.outlet.offer = .transaction transaction := hshows.offer_eq
  have hreceive := Usage.perform_receive_some hholding hoffer
  obtain ⟨first, hafter, hpayload, ⟨hbare, _⟩ | ⟨_, rfl⟩⟩ := hready.conveys.take
  · exact absurd hbare hguards
  · have hunended : .received .ended ∉ watch.usage.record := fun hend => by
      simpa using hready.ended hend
    refine hfollows.keep (@Stands.lent _ _ _ transaction.number first ?_)
    constructor
    · rw [usage_perform, hreceive]
      exact hafter
    · simp [hreceive, hready.held]
    · simpa [Watch.perform, takes?, Errand.transaction?] using hready.taken
    · rw [usage_perform, hreceive, Usage.messages_note, hready.messages, ← hpayload]
      rfl
    · rw [usage_perform, hreceive, Usage.answers_note, hready.answers]
      simp [UsageNote.pronounced?]
    · simpa [hreceive] using hunended

theorem receive_ended {errand : Errand} (hfollows : watch.Follows conditions earlier)
    (hready : watch.Ready conditions earlier .ended errand) :
    ∃ later, (watch.perform .receive).Follows conditions later := by
  have hshows : Standing.ended.Shows watch.usage.outlet := hready.conveys.poised.shows
  have hoffer : watch.usage.outlet.offer = .ended := hshows.offer_eq
  have hreceive := Usage.KeepsUp.receive_nothing hholding hshows.isClosing_eq hshows.slot_eq
  rw [hoffer] at hreceive
  refine hfollows.keep (@Stands.ready _ _ _ .ended errand ?_)
  constructor
  · rw [usage_perform, hreceive]
    exact hready.conveys
  · exact hready.outward
  · rfl
  · simpa [hreceive] using hready.held
  · simpa [Watch.perform, takes?] using hready.taken
  · rw [usage_perform, hreceive, Usage.messages_note, hready.messages]
    simp [UsageNote.handedOut?, Received.transaction?]
  · rw [usage_perform, hreceive, Usage.answers_note, hready.answers]
    simp [UsageNote.pronounced?]
  · exact fun _ => rfl

end Holder

theorem receive (hfollows : watch.Follows conditions earlier) (hguards : conditions ≠ [])
    (hnone : watch.usage.held = []) :
    ∃ later, (watch.perform .receive).Follows conditions later := by
  cases hholding : watch.usage.holding with
  | false => exact hfollows.idle (by simp [Usage.perform, hholding]) rfl
  | true =>
      cases hfollows.stands with
      | @ready standing errand hready =>
          cases standing with
          | working => exact hfollows.receive_working hholding hready.conveys.poised.shows
          | offering transaction => exact hfollows.receive_offering hholding hguards hready
          | lent number => simpa [Standing.held] using hready.unlent
          | ended => exact hfollows.receive_ended hholding hready
      | lent hlent => simp [hlent.held] at hnone
      | back hreturns =>
          exact hfollows.receive_working hholding hreturns.conveys.poised.shows
      | parted hparted => exact hfollows.part hparted _

/-- The verdict of the holder is the maker's at once, or on its way back, or the last. -/
theorem pronounce_lent {number : Nat} {transaction : Transaction}
    (hfollows : watch.Follows conditions earlier)
    (hlent : watch.Lent conditions earlier number transaction) (verdict : Verdict) :
    ∃ later, (watch.perform (.pronounce number verdict)).Follows conditions later := by
  have hafter := Usage.perform_pronounce verdict
    (show number ∈ watch.usage.held by simp [hlent.held])
  have hreceipts : (watch.usage.perform (.pronounce number verdict)).receipts =
      watch.usage.receipts.pronounce number verdict := by
    rw [hafter]
    rfl
  have htaken : (watch.perform (.pronounce number verdict)).taken =
      earlier.map Prod.fst ++ [transaction] := by
    simpa [Watch.perform, takes?] using hlent.taken
  have hmessages : (watch.usage.perform (.pronounce number verdict)).messages =
      earlier.map (fun dealing => dealing.1.payload) ++ [transaction.payload] := by
    rw [hafter, Usage.messages_note, hlent.messages]
    simp [UsageNote.handedOut?]
  have hanswers : (watch.usage.perform (.pronounce number verdict)).answers =
      earlier.map Prod.snd ++ [verdict] := by
    rw [hafter, Usage.answers_note, hlent.answers]
    rfl
  have hunended : .received .ended ∉
      (watch.usage.perform (.pronounce number verdict)).record := by
    simpa [hafter] using hlent.unended
  have hnone : (watch.usage.perform (.pronounce number verdict)).held = [] := by
    simp [hafter, hlent.held]
  cases hfinal : verdict.accepts && Condition.anyMeets conditions transaction.payload with
  | true =>
      refine hfollows.keep (.parted ⟨hfinal, ?_, ?_, ?_⟩)
      · rw [htaken]
      · rw [usage_perform, hmessages]
      · rw [usage_perform, hanswers]
  | false =>
      obtain ⟨hunmet, rfl, hworking⟩ | ⟨hmet, hworking⟩ := hlent.conveys.pronounce hfinal
      · have hopen := hlent.conveys.get_eq_open rfl
        refine ⟨_, hfollows.settle verdict hopen ?_ (@Stands.ready _ _ _ .working .idle ?_)⟩
        · rw [hreceipts, Receipts.get_pronounce, if_pos rfl, hopen, hunmet,
            Verdict.relayed_false]
        · constructor
          · rw [usage_perform, hafter]
            exact hworking
          · simp
          · rfl
          · exact hnone
          · simpa [Errand.transaction?] using htaken
          · simpa using hmessages
          · simpa using hanswers
          · exact fun hend => absurd hend hunended
      · refine hfollows.keep (.back ⟨?_, hmet, hnone, htaken, hmessages, hanswers, hunended⟩)
        rw [usage_perform, hafter]
        exact hworking

theorem pronounce (hfollows : watch.Follows conditions earlier) (number : Nat)
    (verdict : Verdict) :
    ∃ later, (watch.perform (.pronounce number verdict)).Follows conditions later := by
  by_cases hheld : number ∈ watch.usage.held
  · cases hfollows.stands with
    | ready hready => simp [hready.held] at hheld
    | lent hlent =>
        obtain rfl : number = _ := by simpa [hlent.held] using hheld
        exact hfollows.pronounce_lent hlent verdict
    | back hreturns => simp [hreturns.held] at hheld
    | parted hparted => exact hfollows.part hparted _
  · exact hfollows.idle (by simp [Usage.perform, hheld]) rfl

theorem perform (hfollows : watch.Follows conditions earlier) (hguards : conditions ≠ [])
    (hsteady : ∀ condition ∈ conditions, condition.IsSteady) {move : UsageMove}
    (hpermits : watch.usage.permits move = true) :
    ∃ later, (watch.perform move).Follows conditions later := by
  cases move with
  | work level => exact hfollows.work hsteady level
  | receive =>
      exact hfollows.receive hguards (by simpa [Usage.permits] using hpermits)
  | pronounce number verdict => exact hfollows.pronounce number verdict
  | close => simp [Usage.permits] at hpermits
  | letGo => simp [Usage.permits] at hpermits
  | rewrite disk =>
      exact hfollows.same (Usage.sameBooks_note _ _ .rewritten rfl rfl (by simp)) rfl rfl rfl

/-- In the hands of an orderly holder a stage goes on like that. -/
theorem performAll (hfollows : watch.Follows conditions earlier) (hguards : conditions ≠ [])
    (hsteady : ∀ condition ∈ conditions, condition.IsSteady) {moves : List UsageMove}
    (horderly : watch.usage.isOrderly moves = true) :
    ∃ later, (watch.performAll moves).Follows conditions later := by
  induction moves generalizing watch earlier with
  | nil => exact ⟨earlier, hfollows⟩
  | cons move rest ih =>
      obtain ⟨hpermits, hrest⟩ : watch.usage.permits move = true ∧
          (watch.usage.perform move).isOrderly rest = true := by
        simpa [Usage.isOrderly] using horderly
      obtain ⟨later, hlater⟩ := hfollows.perform hguards hsteady hpermits
      exact ih hlater hrest

end Follows

end Watch

end Intake
