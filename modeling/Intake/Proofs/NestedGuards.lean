import Intake.Proofs.ErrandWatch
import Intake.Proofs.SerialProgress

/-!
# Nesting is disjunction

Somebody holds a nest of guards that are never restarted and do not count, around any
input whose messages are at hand in a list.  It makes no difference to the holder or to
the input whether there is one guard with several conditions or one guard around another
for each of them: an order in which the workers take their steps may let a message be
held back by the inner guard, by the outer one, by both or by none, and the reading may
end because a condition was met or because the input of a guard did.
-/

namespace Intake

/-! ## Holders -/

namespace Usage

/-- A holder whose verdict on a message depends on what it was handed out so far. -/
def IsAnsweredBy (consumer : List Message → Verdict) (usage : Usage) : Prop :=
  ∀ place verdict, usage.answers[place]? = some verdict →
    verdict = consumer (usage.messages.take (place + 1))

theorem Tidy.answers_le_messages {usage : Usage} (htidy : usage.Tidy) :
    usage.answers.length ≤ usage.messages.length := by
  have hsubset : usage.verdicts.map Prod.fst ⊆ usage.handedOut.map Transaction.number :=
    fun number hmem => htidy.pronouncedHandedOut number hmem
  have hle := (htidy.pronouncedOnce.subperm hsubset).length_le
  simpa [answers, messages] using hle

section Readers

variable {first second : Serial} {one other : Usage} {consumer : List Message → Verdict}

/-- Messages are told by the verdicts on those before them. -/
theorem ReadsAs.take_messages (hreads : one.ReadsAs first) (place : Nat)
    (hanswers : place ≤ one.answers.length) (hmessages : place < one.messages.length) :
    ∃ enough, ∀ turns, enough ≤ turns →
      one.messages.take (place + 1) = (first.play turns (one.answers.take place)).1 := by
  obtain ⟨enough, hbegins⟩ := hreads.messages
  refine ⟨enough, fun turns hturns => ?_⟩
  have hplay := first.play_fst_eq_take turns (one.answers.take place) (one.answers.drop place)
  rw [List.take_append_drop, List.length_take_of_le hanswers] at hplay
  rw [hplay]
  exact (hbegins turns hturns).take _ |>.eq_of_length (by
    have hle := (hbegins turns hturns).length_le
    simp; omega)

/-- The same holder gives the same verdicts where the same reader reads. -/
theorem answers_take_eq (hone : one.ReadsAs first) (hother : other.ReadsAs second)
    (hplay : ∀ turns verdicts, first.play turns verdicts = second.play turns verdicts)
    (hfirst : one.IsAnsweredBy consumer) (hsecond : other.IsAnsweredBy consumer)
    (honeTidy : one.Tidy) (hotherTidy : other.Tidy) (place : Nat)
    (honePlace : place ≤ one.answers.length) (hotherPlace : place ≤ other.answers.length) :
    one.answers.take place = other.answers.take place := by
  have honeLe := honeTidy.answers_le_messages
  have hotherLe := hotherTidy.answers_le_messages
  induction place with
  | zero => simp
  | succ place ih =>
      have hsame := ih (by omega) (by omega)
      obtain ⟨enough, hreads⟩ := hone.take_messages place (by omega) (by omega)
      obtain ⟨others, hothers⟩ := hother.take_messages place (by omega) (by omega)
      have hmessages : one.messages.take (place + 1) = other.messages.take (place + 1) := by
        rw [hreads (max enough others) (le_max_left _ _),
          hothers (max enough others) (le_max_right _ _), hsame, hplay]
      have hverdict : one.answers[place]? = other.answers[place]? := by
        rw [List.getElem?_eq_getElem (by omega), List.getElem?_eq_getElem (by omega)]
        rw [hfirst place _ (List.getElem?_eq_getElem (by omega)),
          hsecond place _ (List.getElem?_eq_getElem (by omega)), hmessages]
      rw [List.take_add_one, List.take_add_one, hsame, hverdict]

theorem answers_comparable (hone : one.ReadsAs first) (hother : other.ReadsAs second)
    (hplay : ∀ turns verdicts, first.play turns verdicts = second.play turns verdicts)
    (hfirst : one.IsAnsweredBy consumer) (hsecond : other.IsAnsweredBy consumer)
    (honeTidy : one.Tidy) (hotherTidy : other.Tidy) :
    one.answers <+: other.answers ∨ other.answers <+: one.answers := by
  have htake := answers_take_eq hone hother hplay hfirst hsecond honeTidy hotherTidy
  rcases Nat.le_total one.answers.length other.answers.length with hle | hle
  · left
    rw [← one.answers.take_length, htake one.answers.length le_rfl hle]
    exact List.take_prefix _ _
  · right
    rw [← other.answers.take_length, ← htake other.answers.length hle le_rfl]
    exact List.take_prefix _ _

end Readers

end Usage

/-! ## Readers -/

namespace Usage

/-- A reader who is told what was answered. -/
structure Reads (first : Serial) (usage : Usage) : Prop where
  keepsUp : usage.KeepsUp first
  canClose : usage.running.stage.CanClose
  tidy : usage.Tidy

theorem Reads.performAll {input : InputConfig} {first : Serial} {stage : Stage} {world : World}
    (hinput : Serial.ofConfig input = some first)
    (hbuild : Stage.build world.disk true input = .ok stage) {moves : List UsageMove}
    (horderly : (Usage.start stage world).isOrderly moves = true) :
    ((Usage.start stage world).performAll moves).Reads first := by
  obtain ⟨built, hbuilt, htracks⟩ := Tracks.build world.disk hinput
  obtain rfl : built = stage := Except.ok.inj (hbuilt.symm.trans hbuild)
  have hfresh := Stage.isFresh_of_build hbuild
  exact {
    keepsUp := (KeepsUp.start first (htracks world.receipts)).performAll horderly
    canClose := (closable_performAll hfresh world moves).stage
    tidy := tidy_performAll hfresh world moves }

/-- What comes next for a holder who owes nothing: a message, the end, or nothing ever if
the reader keeps on starting levels afresh. -/
theorem Reads.goes_on {first : Serial} {usage : Usage} (hreads : usage.Reads first)
    (hheld : usage.held = []) :
    (∃ levels transaction,
        (usage.workAll levels).running.receive.1 = .transaction transaction ∧
          ∃ enough, ∀ turns, enough ≤ turns →
            first.play turns usage.answers =
              (usage.messages ++ [transaction.payload], false)) ∨
      (∃ levels, (usage.workAll levels).running.receive.1 = .ended ∧
        ∃ enough, ∀ turns, enough ≤ turns →
          first.play turns usage.answers = (usage.messages, true)) ∨
      ∃ enough, ∀ turns more, enough ≤ turns →
        first.play turns (usage.answers ++ more) = (usage.messages, false) := by
  rcases hreads.keepsUp.ready_or_silent hreads.canClose hheld with
    ⟨levels, hready⟩ | hsilent
  · obtain ⟨hmessages, hanswers, hsame, _⟩ := usage.sameBooks_workAll levels
    have hoffers := (hreads.keepsUp.workAll levels).offers (hsame.trans hheld) hready
    rw [hmessages, hanswers] at hoffers
    rcases hoffers with ⟨transaction, hoffer, hplay⟩ | ⟨hoffer, hplay⟩
    · exact .inl ⟨levels, transaction, hoffer, hplay⟩
    · exact .inr (.inl ⟨levels, hoffer, hplay⟩)
  · exact .inr (.inr hsilent)

end Usage

/-! ## One nest beside another -/

namespace Usage

/-- What a holder can tell of two stages in use. -/
structure Matches (one other : Usage) : Prop where
  /-- The same is handed out in the same order. -/
  messages : one.messages <+: other.messages ∨ other.messages <+: one.messages
  /-- Where one has ended the other hands nothing more out. -/
  ended : .received .ended ∈ one.record → other.messages <+: one.messages
  /-- The other comes to the message that one handed out next. -/
  next : other.held = [] → ∀ message, one.messages[other.messages.length]? = some message →
    other.ComesTo fun received =>
      ∃ transaction, received = .transaction transaction ∧ transaction.payload = message
  /-- It ends where one did. -/
  last : other.held = [] → .received .ended ∈ one.record → other.messages = one.messages →
    other.ComesTo (· = .ended)

section Matches

variable {first second : Serial} {one other : Usage}

/-- The workers of a stage get to the message that somebody else was handed out next. -/
theorem Reads.comesTo_message (hother : other.Reads second) (hone : one.ReadsAs second)
    (hanswers : other.answers <+: one.answers ∨ one.answers <+: other.answers)
    (hheld : other.held = []) {message : Message}
    (hmessage : one.messages[other.messages.length]? = some message) :
    other.ComesTo fun received =>
      ∃ transaction, received = .transaction transaction ∧ transaction.payload = message := by
  obtain ⟨enough, hmessages⟩ := hone.messages
  have hlonger := (List.getElem?_eq_some_iff.mp hmessage).1
  have hmore {turns : Nat} (hturns : enough ≤ turns)
      (hle : (second.play turns one.answers).1 <+: other.messages) : False := by
    have hlength := ((hmessages turns hturns).trans hle).length_le
    omega
  rcases hother.goes_on hheld with
    ⟨levels, transaction, hoffer, long, hready⟩ | ⟨_, _, long, hover⟩ | ⟨long, hsilent⟩
  · refine .of_exists ⟨levels, transaction, hoffer, ?_⟩
    have hmine := hmessages (max enough long) (le_max_left _ _)
    have hyours := hready (max enough long) (le_max_right _ _)
    have hle := second.play_comparable (max enough long) hanswers
    rw [hyours] at hle
    have hplace {shorter longer : List Message} (hbegins : shorter <+: longer) {next : Message}
        (hnext : shorter[other.messages.length]? = some next) :
        longer[other.messages.length]? = some next := by
      obtain ⟨hlt, hget⟩ := List.getElem?_eq_some_iff.mp hnext
      exact (List.prefix_iff_getElem?.mp hbegins _ hlt).trans (congrArg some hget)
    have hready : (other.messages ++ [transaction.payload])[other.messages.length]? =
        some transaction.payload := by simp
    rcases hle with hle | hle
    · exact Option.some.inj ((hplace hle hready).symm.trans (hplace hmine hmessage))
    · simpa using hplace (hmine.trans hle) hmessage
  · have hyours := hover (max enough long) (le_max_right _ _)
    have hle := second.play_prefix_of_over (max enough long) hanswers (by rw [hyours])
    rw [hyours] at hle
    exact (hmore (le_max_left _ _) hle).elim
  · have hle := second.play_prefix_of_silent (max enough long) hanswers fun more =>
      hsilent _ more (le_max_right _ _)
    exact (hmore (le_max_left _ _) hle).elim

/-- They get to the end where somebody else saw it. -/
theorem Reads.comesTo_end (hother : other.Reads second) (hone : one.ReadsAs second)
    (hanswers : other.answers <+: one.answers ∨ one.answers <+: other.answers)
    (hheld : other.held = []) (hend : .received .ended ∈ one.record)
    (hsame : other.messages = one.messages) : other.ComesTo (· = .ended) := by
  obtain ⟨enough, hover⟩ := hone.ended hend
  rcases hother.goes_on hheld with
    ⟨_, transaction, _, long, hready⟩ | ⟨levels, hoffer, _⟩ | ⟨long, hsilent⟩
  · have hmine := hover (max enough long) (le_max_left _ _)
    have hyours := hready (max enough long) (le_max_right _ _)
    have hle := second.play_prefix_of_over (max enough long) hanswers.symm (by rw [hmine])
    rw [hyours, hmine] at hle
    have hlength := hle.length_le
    simp [hsame] at hlength
  · exact .of_exists ⟨levels, hoffer⟩
  · have hmine := hover (max enough long) (le_max_left _ _)
    have hgoes := second.not_over_of_silent (max enough long) hanswers fun more =>
      hsilent _ more (le_max_right _ _)
    simp [hmine] at hgoes

/-- Two readers alike who get the same answers, one maybe more of them, hand out the
same. -/
theorem Reads.matches (hone : one.Reads first) (hother : other.Reads second)
    (hplay : ∀ turns verdicts, first.play turns verdicts = second.play turns verdicts)
    (hanswers : one.answers <+: other.answers ∨ other.answers <+: one.answers) :
    one.Matches other := by
  have hmine : one.ReadsAs second := by
    obtain ⟨hmessages, hended⟩ := hone.keepsUp.readsAs
    simp only [hplay] at hmessages hended
    exact ⟨hmessages, hended⟩
  obtain ⟨enough, hmessages⟩ := hmine.messages
  obtain ⟨more, hothers⟩ := hother.keepsUp.readsAs.messages
  refine ⟨?_, fun hend => ?_, fun hheld _ => hother.comesTo_message hmine hanswers.symm hheld,
    hother.comesTo_end hmine hanswers.symm⟩
  · have hone := hmessages (max enough more) (le_max_left _ _)
    have hyours := hothers (max enough more) (le_max_right _ _)
    rcases second.play_comparable (max enough more) hanswers with hle | hle
    · exact List.prefix_or_prefix_of_prefix (hone.trans hle) hyours
    · exact List.prefix_or_prefix_of_prefix hone (hyours.trans hle)
  · obtain ⟨long, hover⟩ := hmine.ended hend
    have hyours := hothers (max long more) (le_max_right _ _)
    have hlong := hover (max long more) (le_max_left _ _)
    have hle := second.play_prefix_of_over (max long more) hanswers (by rw [hlong])
    rw [hlong] at hle
    exact hyours.trans hle

end Matches

/-- At some place a message was accepted that met a condition. -/
def IsFinal (meets : Message → Bool) (usage : Usage) (place : Nat) : Prop :=
  ∃ message verdict, usage.messages[place]? = some message ∧
    usage.answers[place]? = some verdict ∧ (verdict.accepts && meets message) = true

/-- The message after the one at some place was handed out, or the end was seen, or the
workers rest. -/
def HasMovedOn (usage : Usage) (place : Nat) : Prop :=
  place + 1 < usage.messages.length ∨ .received .ended ∈ usage.record ∨
    usage.running.IsAtRest

end Usage

namespace Watch

/-- The maker of the transaction at some place is told a verdict and nothing else. -/
structure Hears (watch : Watch) (place : Nat) (transaction : Transaction) (verdict : Verdict) :
    Prop where
  taken : watch.taken[place]? = some transaction
  only : watch.told transaction.number <+: [verdict]
  reached : ∃ levels, (watch.workAll levels).told transaction.number = [verdict]
  inTime : watch.usage.HasMovedOn place → watch.told transaction.number = [verdict]

theorem Hears.of_told {watch : Watch} {place : Nat} {transaction : Transaction}
    {verdict : Verdict} (htaken : watch.taken[place]? = some transaction)
    (htold : watch.told transaction.number = [verdict]) :
    watch.Hears place transaction verdict :=
  ⟨htaken, by rw [htold], ⟨[], htold⟩, fun _ => htold⟩

namespace Follows

variable {watch : Watch} {conditions : List Condition} {earlier : List Dealing} {place : Nat}
  {message : Message} {verdict : Verdict}

theorem hears_earlier (hfollows : watch.Follows conditions earlier)
    (htaken : earlier.map Prod.fst <+: watch.taken)
    (hmessages : earlier.map (fun dealing => dealing.1.payload) <+: watch.usage.messages)
    (hanswers : earlier.map Prod.snd <+: watch.usage.answers) (hplace : place < earlier.length)
    (hmessage : watch.usage.messages[place]? = some message)
    (hverdict : watch.usage.answers[place]? = some verdict) :
    ∃ transaction, transaction.payload = message ∧ watch.Hears place transaction
      (verdict.relayed (Condition.anyMeets conditions transaction.payload)) := by
  obtain ⟨more, hmore⟩ := htaken
  obtain ⟨others, hothers⟩ := hmessages
  obtain ⟨rest, hrest⟩ := hanswers
  have htransaction : watch.taken[place]? = some earlier[place].1 := by
    simp [← hmore, List.getElem?_append_left, hplace]
  obtain rfl : earlier[place].1.payload = message := by
    simpa [← hothers, List.getElem?_append_left, hplace] using hmessage
  obtain rfl : earlier[place].2 = verdict := by
    simpa [← hrest, List.getElem?_append_left, hplace] using hverdict
  obtain ⟨_, _, htold⟩ := hfollows.told earlier[place] (List.getElem_mem hplace)
  exact ⟨earlier[place].1, rfl, .of_told htransaction htold⟩

/-- While a verdict is on its way back it is all that the maker of the last transaction will
be told. -/
theorem hears_last {transaction : Transaction} (hfollows : watch.Follows conditions earlier)
    (hreturns : watch.Returns conditions earlier transaction verdict)
    (hsteady : ∀ condition ∈ conditions, condition.IsSteady) :
    watch.Hears earlier.length transaction
      (verdict.relayed (Condition.anyMeets conditions transaction.payload)) := by
  have hnothing : watch.told transaction.number = [] := by
    apply hfollows.untold
    rw [hreturns.conveys.get_eq_open rfl]
    exact .inl rfl
  obtain ⟨levels, htold⟩ := hfollows.exists_told hreturns hsteady
  rw [hreturns.met]
  refine ⟨by simp [hreturns.taken], ?_, ⟨levels, htold⟩, ?_⟩
  · rw [hnothing]
    exact List.nil_prefix
  · rintro (hlater | hend | hrest)
    · simp [hreturns.messages] at hlater
    · exact absurd hend hreturns.unended
    · rwa [workAll_of_isAtRest hrest] at htold

/-- Up to a message that met one of the conditions and was accepted every maker is told
what the guards make of the verdict of the holder. -/
theorem hears (hfollows : watch.Follows conditions earlier)
    (hsteady : ∀ condition ∈ conditions, condition.IsSteady)
    (hmessage : watch.usage.messages[place]? = some message)
    (hverdict : watch.usage.answers[place]? = some verdict)
    (hlive : ∀ other ≤ place, ¬watch.usage.IsFinal (Condition.anyMeets conditions) other) :
    ∃ transaction, transaction.payload = message ∧ watch.Hears place transaction
      (verdict.relayed (Condition.anyMeets conditions transaction.payload)) := by
  have hanswered : place < watch.usage.answers.length :=
    (List.getElem?_eq_some_iff.mp hverdict).1
  cases hfollows.stands with
  | ready hready =>
      refine hfollows.hears_earlier (by rw [hready.taken]; exact List.prefix_append _ _)
        (by rw [hready.messages]) (by rw [hready.answers]) ?_ hmessage hverdict
      simpa [hready.answers] using hanswered
  | lent hlent =>
      refine hfollows.hears_earlier (by rw [hlent.taken]; exact List.prefix_append _ _)
        (by rw [hlent.messages]; exact List.prefix_append _ _) (by rw [hlent.answers]) ?_
        hmessage hverdict
      simpa [hlent.answers] using hanswered
  | @back transaction own hreturns =>
      by_cases hplace : place < earlier.length
      · exact hfollows.hears_earlier (by rw [hreturns.taken]; exact List.prefix_append _ _)
          (by rw [hreturns.messages]; exact List.prefix_append _ _)
          (by rw [hreturns.answers]; exact List.prefix_append _ _) hplace hmessage hverdict
      · obtain rfl : place = earlier.length := by
          have hlength : place < earlier.length + 1 := by
            simpa [hreturns.answers] using hanswered
          omega
        obtain rfl : own = verdict := by simpa [hreturns.answers] using hverdict
        exact ⟨transaction, by simpa [hreturns.messages] using hmessage,
          hfollows.hears_last hreturns hsteady⟩
  | @parted transaction own hparted =>
      refine hfollows.hears_earlier ((List.prefix_append _ _).trans hparted.taken)
        ((List.prefix_append _ _).trans hparted.messages)
        ((List.prefix_append _ _).trans hparted.answers) ?_ hmessage hverdict
      by_contra hplace
      refine hlive earlier.length (by omega) ⟨transaction.payload, own, ?_, ?_, hparted.final⟩
      · obtain ⟨more, hmore⟩ := hparted.messages
        simp [← hmore]
      · obtain ⟨more, hmore⟩ := hparted.answers
        simp [← hmore]

end Follows

/-- What can be told of two watched stages by their holders and by whoever makes the
transactions that are taken at the depths where they are watched. -/
structure Matches (meets : Message → Bool) (one other : Watch) : Prop where
  usage : one.usage.Matches other.usage
  /-- Up to a message that met one of the conditions and was accepted. -/
  responses : ∀ place verdict, one.usage.answers[place]? = some verdict →
    place < other.usage.answers.length →
      (∀ earlier ≤ place, ¬one.usage.IsFinal meets earlier) →
        ∃ mine yours, mine.payload = yours.payload ∧
          one.Hears place mine (verdict.relayed (meets mine.payload)) ∧
          other.Hears place yours (verdict.relayed (meets mine.payload))

section Matches

variable {one other : Watch} {conditions others : List Condition}
  {earlier dealings : List Dealing} {first second : Serial}

theorem Follows.matches (hone : one.Follows conditions earlier)
    (hother : other.Follows others dealings) (hreads : one.usage.Reads first)
    (hreadsOther : other.usage.Reads second)
    (hplay : ∀ turns verdicts, first.play turns verdicts = second.play turns verdicts)
    (hsteady : ∀ condition ∈ conditions, condition.IsSteady)
    (hsteadyOther : ∀ condition ∈ others, condition.IsSteady)
    (hmeets : Condition.anyMeets conditions = Condition.anyMeets others)
    (hanswers : one.usage.answers <+: other.usage.answers ∨
      other.usage.answers <+: one.usage.answers) :
    one.Matches (Condition.anyMeets conditions) other := by
  have hmatches := hreads.matches hreadsOther hplay hanswers
  refine ⟨hmatches, fun place verdict hverdict hplace hlive => ?_⟩
  have honePlace := (List.getElem?_eq_some_iff.mp hverdict).1
  have honeLe := hreads.tidy.answers_le_messages
  have hotherLe := hreadsOther.tidy.answers_le_messages
  have hanswer {before : Nat} (hle : before ≤ place) :
      one.usage.answers[before]? = other.usage.answers[before]? := by
    rcases hanswers with ⟨more, hmore⟩ | ⟨more, hmore⟩
    · rw [← hmore, List.getElem?_append_left (by omega)]
    · rw [← hmore, List.getElem?_append_left (by omega)]
  have hmessage {before : Nat} (hle : before ≤ place) :
      one.usage.messages[before]? = other.usage.messages[before]? := by
    rcases hmatches.messages with ⟨more, hmore⟩ | ⟨more, hmore⟩
    · rw [← hmore, List.getElem?_append_left (by omega)]
    · rw [← hmore, List.getElem?_append_left (by omega)]
  obtain ⟨message, hgiven⟩ : ∃ message, one.usage.messages[place]? = some message :=
    ⟨_, List.getElem?_eq_getElem (by omega)⟩
  obtain ⟨mine, hmine, hhears⟩ := hone.hears hsteady hgiven hverdict hlive
  rw [hmessage le_rfl] at hgiven
  obtain ⟨yours, hyours, hothers⟩ := hother.hears hsteadyOther hgiven
    ((hanswer le_rfl).symm.trans hverdict) fun before hle hfinal => by
      obtain ⟨message, given, hsame, hgave, hmet⟩ := hfinal
      exact hlive before hle ⟨message, given, (hmessage hle).trans hsame,
        (hanswer hle).trans hgave, hmeets ▸ hmet⟩
  rw [← hmeets, hyours, ← hmine] at hothers
  exact ⟨mine, yours, hmine.trans hyours.symm, hhears, hothers⟩

end Matches

/-- Two watched stages that neither their holders nor whoever makes the transactions can
tell apart. -/
def Alike (meets : Message → Bool) (one other : Watch) : Prop :=
  one.Matches meets other ∧ other.Matches meets one

/-- What becomes of a stage, watched at some depth, in the hands of a holder who answers
before receiving again and neither closes the stage nor lets go of it. -/
def IsRun (consumer : List Message → Verdict) (stage : Stage) (world : World) (depth : Nat)
    (watch : Watch) : Prop :=
  ∃ moves, (Usage.start stage world).isOrderly moves = true ∧
    watch = (Watch.start stage world depth).performAll moves ∧
    watch.usage.IsAnsweredBy consumer

/-- Nests around the same input are alike if the same messages meet one of their
conditions. -/
theorem alike_within {input : InputConfig} {serial : Serial}
    {configs others : List ConditionConfig} {conditions rest : List Condition}
    {stage other : Stage} {world : World} {consumer : List Message → Verdict}
    {mine yours : Watch} (hinput : Serial.ofConfig input = some serial)
    (hbuilt : List.Forall₂ (fun config condition => Condition.build config = .ok condition)
      configs conditions)
    (hrest : List.Forall₂ (fun config condition => Condition.build config = .ok condition)
      others rest)
    (hsteady : ∀ condition ∈ conditions, condition.IsSteady)
    (hothers : ∀ condition ∈ rest, condition.IsSteady)
    (hguards : conditions ≠ []) (hmore : rest ≠ [])
    (hmeets : Condition.anyMeets conditions = Condition.anyMeets rest)
    (hstage : Stage.build world.disk true (input.within configs) = .ok stage)
    (hother : Stage.build world.disk true (input.within others) = .ok other)
    (hmine : IsRun consumer stage world conditions.length mine)
    (hyours : IsRun consumer other world rest.length yours) :
    mine.Alike (Condition.anyMeets conditions) yours := by
  obtain ⟨first, hfirst, hwraps⟩ := Serial.exists_wraps hinput hbuilt
  obtain ⟨second, hsecond, hwrapsOther⟩ := Serial.exists_wraps hinput hrest
  have hplay := Serial.play_eq_of_wraps hwraps hwrapsOther hsteady hothers hmeets
  obtain ⟨moves, horderly, rfl, hanswered⟩ := hmine
  obtain ⟨turns, horderlyOther, rfl, hansweredOther⟩ := hyours
  have hreads := Usage.Reads.performAll hfirst hstage horderly
  have hreadsOther := Usage.Reads.performAll hsecond hother horderlyOther
  rw [← usage_start stage world conditions.length, ← usage_performAll] at hreads
  rw [← usage_start other world rest.length, ← usage_performAll] at hreadsOther
  have hanswers := Usage.answers_comparable hreads.keepsUp.readsAs hreadsOther.keepsUp.readsAs
    hplay hanswered hansweredOther hreads.tidy hreadsOther.tidy
  obtain ⟨earlier, hfollows⟩ := Follows.performAll
    (.start (.of_build hbuilt hstage world.receipts)) hguards hsteady horderly
  obtain ⟨dealings, hfollowsOther⟩ := Follows.performAll
    (.start (.of_build hrest hother world.receipts)) hmore hothers horderlyOther
  refine ⟨hfollows.matches hfollowsOther hreads hreadsOther hplay hsteady hothers hmeets
    hanswers, ?_⟩
  rw [hmeets]
  exact hfollowsOther.matches hfollows hreadsOther hreads (fun turns verdicts =>
    (hplay turns verdicts).symm) hothers hsteady hmeets.symm hanswers.symm

end Watch

/-- Around any input whose messages are in a list, one guard around another is like one
guard with either condition, whoever holds them and in whatever order the workers take
their steps.  A guard whose condition is never met makes no difference. -/
theorem nesting_is_disjunction {input : InputConfig} {serial : Serial}
    {first second : ConditionConfig} {one two : Condition}
    (hinput : Serial.ofConfig input = some serial) (hfirst : Condition.build first = .ok one)
    (hsecond : Condition.build second = .ok two) (hfree : first.isCountFree = true)
    (hfreeToo : second.isCountFree = true) (world : World) :
    ∃ nested joint single,
      Stage.build world.disk true
        (.readUntil (some (.readUntil (some input) false second)) false first) = .ok nested ∧
      Stage.build world.disk true (.readUntil (some input) false (.or [second, first])) =
        .ok joint ∧
      Stage.build world.disk true (.readUntil (some input) false second) = .ok single ∧
      ∀ consumer nest, Watch.IsRun consumer nested world 2 nest →
        (∀ other, Watch.IsRun consumer joint world 1 other →
          nest.Alike (fun message => one.meets message || two.meets message) other) ∧
        (first = .static false → ∀ other, Watch.IsRun consumer single world 1 other →
          nest.Alike two.meets other) := by
  have hor : Condition.build (.or [second, first]) = .ok (.or [two, one]) := by
    simp [Condition.build, Condition.buildAll, hfirst, hsecond, bind, Except.bind]
  have hboth : List.Forall₂ (fun config condition => Condition.build config = .ok condition)
      [first, second] [one, two] := .cons hfirst (.cons hsecond .nil)
  have heither : List.Forall₂ (fun config condition => Condition.build config = .ok condition)
      [.or [second, first]] [.or [two, one]] := .cons hor .nil
  have hinner : List.Forall₂ (fun config condition => Condition.build config = .ok condition)
      [second] [two] := .cons hsecond .nil
  have hone := Condition.isSteady_of_build hfirst hfree
  have htwo := Condition.isSteady_of_build hsecond hfreeToo
  have hsteady : ∀ condition ∈ [one, two], condition.IsSteady := by simp [hone, htwo]
  have hmeets : Condition.anyMeets [one, two] =
      fun message => one.meets message || two.meets message := by
    funext message
    simp [Condition.anyMeets]
  obtain ⟨_, hnested, _⟩ := Serial.exists_wraps hinput hboth
  obtain ⟨_, hjoint, _⟩ := Serial.exists_wraps hinput heither
  obtain ⟨_, hsingle, _⟩ := Serial.exists_wraps hinput hinner
  obtain ⟨nested, hnested, _⟩ := Tracks.build world.disk hnested
  obtain ⟨joint, hjoint, _⟩ := Tracks.build world.disk hjoint
  obtain ⟨single, hsingle, _⟩ := Tracks.build world.disk hsingle
  refine ⟨nested, joint, single, hnested, hjoint, hsingle, fun consumer nest hnest => ⟨?_, ?_⟩⟩
  · intro other hother
    rw [← hmeets]
    refine Watch.alike_within hinput hboth heither hsteady ?_ (by simp) (by simp) ?_ hnested
      hjoint hnest hother
    · simpa using Condition.isSteady_or htwo hone
    · funext message
      simp [Condition.anyMeets, Condition.meets_or, Bool.or_comm]
  · rintro rfl other hother
    obtain rfl : Condition.static false = one := by simpa [Condition.build] using hfirst
    have hnever : Condition.anyMeets [.static false, two] = two.meets := by
      funext message
      simp [Condition.anyMeets, Condition.meets, Condition.check]
    rw [← hnever]
    refine Watch.alike_within hinput hboth hinner hsteady (by simpa using htwo) (by simp)
      (by simp) ?_ hnested hsingle hnest hother
    funext message
    simp [Condition.anyMeets, Condition.meets, Condition.check]

/-- The input is started afresh in between.  One message meets no condition, and the other
one meets both: it is dropped, rejected, and accepted at last. -/
theorem nesting_is_disjunction_of_restart :
    ∃ (input : InputConfig) (serial : Serial) (first second : ConditionConfig)
      (one two : Condition) (turn moves turns : List UsageMove) (nested joint : Stage)
      (consumer : List Message → Verdict) (nest other : Watch),
      input = .readUntil (some (.memory ["a", "b"])) true (.count 2) ∧
      first = .or [.content "equals_cs" 0 "b", .static false] ∧
      second = .content "equals_cs" 0 "b" ∧
      turn = [.work 3, .work 2, .work 1, .work 0] ∧
      moves = (List.replicate 9 turn).flatten ++
        .receive :: .pronounce 0 (some .ack) :: (List.replicate 9 turn).flatten ++
        .receive :: .pronounce 4 none :: (List.replicate 9 turn).flatten ++
        .receive :: .pronounce 7 (some (.nack "full")) :: (List.replicate 9 turn).flatten ++
        .receive :: .pronounce 11 (some .ack) :: (List.replicate 16 turn).flatten ++
        [.receive] ∧
      turns = (List.replicate 9 turn).flatten ++
        .receive :: .pronounce 0 (some .ack) :: (List.replicate 9 turn).flatten ++
        .receive :: .pronounce 3 none :: (List.replicate 9 turn).flatten ++
        .receive :: .pronounce 5 (some (.nack "full")) :: (List.replicate 9 turn).flatten ++
        .receive :: .pronounce 8 (some .ack) :: (List.replicate 16 turn).flatten ++
        [.receive] ∧
      Serial.ofConfig input = some serial ∧ Condition.build first = .ok one ∧
      Condition.build second = .ok two ∧ first.isCountFree = true ∧
      second.isCountFree = true ∧
      Stage.build ({} : World).disk true
        (.readUntil (some (.readUntil (some input) false second)) false first) = .ok nested ∧
      Stage.build ({} : World).disk true
        (.readUntil (some input) false (.or [second, first])) = .ok joint ∧
      nest = (Watch.start nested {} 2).performAll moves ∧
      other = (Watch.start joint {} 1).performAll turns ∧
      Watch.IsRun consumer nested {} 2 nest ∧ Watch.IsRun consumer joint {} 1 other ∧
      nest.Alike (fun message => one.meets message || two.meets message) other ∧
      nest.usage.messages = [.single [97], .single [98], .single [98], .single [98]] ∧
      .received .ended ∈ nest.usage.record ∧ .received .ended ∈ other.usage.record ∧
      (nest.taken.map fun transaction => nest.told transaction.number) =
        [[some .ack], [some (.nack droppedCause)], [some (.nack "full")], [some .ack]] := by
  obtain ⟨input, hinput⟩ : ∃ input : InputConfig, input =
      .readUntil (some (.memory ["a", "b"])) true (.count 2) := ⟨_, rfl⟩
  obtain ⟨first, hfirst⟩ : ∃ first : ConditionConfig, first =
      .or [.content "equals_cs" 0 "b", .static false] := ⟨_, rfl⟩
  obtain ⟨second, hsecond⟩ : ∃ second : ConditionConfig, second =
      .content "equals_cs" 0 "b" := ⟨_, rfl⟩
  obtain ⟨serial, hserial⟩ : ∃ serial, Serial.ofConfig input = some serial := by
    subst hinput
    exact ⟨_, rfl⟩
  obtain ⟨one, hone⟩ : ∃ one, Condition.build first = .ok one := by
    subst hfirst
    exact ⟨_, rfl⟩
  obtain ⟨two, htwo⟩ : ∃ two, Condition.build second = .ok two := by
    subst hsecond
    exact ⟨_, rfl⟩
  have hfree : first.isCountFree = true := by
    subst hfirst
    rfl
  have hfreeToo : second.isCountFree = true := by
    subst hsecond
    rfl
  obtain ⟨nested, joint, single, hnested, hjoint, _, halike⟩ :=
    nesting_is_disjunction hserial hone htwo hfree hfreeToo {}
  have hnest := Stage.eq_of_build hnested
  have hjoined := Stage.eq_of_build hjoint
  obtain ⟨consumer, hconsumer⟩ : ∃ consumer : List Message → Verdict, consumer = fun history =>
      [some .ack, none, some (.nack "full"), some .ack].getD (history.length - 1) none :=
    ⟨_, rfl⟩
  have hanswered {usage : Usage}
      (hanswers : usage.answers = [some .ack, none, some (.nack "full"), some .ack])
      (hmessages : usage.messages.length = 4) : usage.IsAnsweredBy consumer := by
    intro place verdict hverdict
    have hplace : place < 4 := by
      simpa [hanswers] using (List.getElem?_eq_some_iff.mp hverdict).1
    have hlength : (usage.messages.take (place + 1)).length = place + 1 := by
      rw [List.length_take]
      omega
    simp only [hconsumer, hlength, Nat.add_sub_cancel, List.getD_eq_getElem?_getD, ← hanswers,
      hverdict, Option.getD_some]
  obtain ⟨turn, hturn⟩ : ∃ turn : List UsageMove,
      turn = [.work 3, .work 2, .work 1, .work 0] := ⟨_, rfl⟩
  obtain ⟨moves, hmoves⟩ : ∃ moves : List UsageMove,
      moves = (List.replicate 9 turn).flatten ++
        .receive :: .pronounce 0 (some .ack) :: (List.replicate 9 turn).flatten ++
        .receive :: .pronounce 4 none :: (List.replicate 9 turn).flatten ++
        .receive :: .pronounce 7 (some (.nack "full")) :: (List.replicate 9 turn).flatten ++
        .receive :: .pronounce 11 (some .ack) :: (List.replicate 16 turn).flatten ++
        [.receive] := ⟨_, rfl⟩
  obtain ⟨turns, hturns⟩ : ∃ turns : List UsageMove,
      turns = (List.replicate 9 turn).flatten ++
        .receive :: .pronounce 0 (some .ack) :: (List.replicate 9 turn).flatten ++
        .receive :: .pronounce 3 none :: (List.replicate 9 turn).flatten ++
        .receive :: .pronounce 5 (some (.nack "full")) :: (List.replicate 9 turn).flatten ++
        .receive :: .pronounce 8 (some .ack) :: (List.replicate 16 turn).flatten ++
        [.receive] := ⟨_, rfl⟩
  have hmine : Watch.IsRun consumer nested {} 2 ((Watch.start nested {} 2).performAll moves) := by
    refine ⟨moves, ?_, rfl, hanswered ?_ ?_⟩ <;>
      · subst hmoves hturn hnest hfirst hsecond hinput
        decide +kernel
  have hyours : Watch.IsRun consumer joint {} 1 ((Watch.start joint {} 1).performAll turns) := by
    refine ⟨turns, ?_, rfl, hanswered ?_ ?_⟩ <;>
      · subst hturns hturn hjoined hfirst hsecond hinput
        decide +kernel
  refine ⟨input, serial, first, second, one, two, turn, moves, turns, nested, joint, consumer,
    _, _, hinput, hfirst, hsecond, hturn, hmoves, hturns, hserial, hone, htwo, hfree, hfreeToo,
    hnested, hjoint, rfl, rfl, hmine, hyours, (halike consumer _ hmine).1 _ hyours, ?_, ?_, ?_,
    ?_⟩ <;>
    · subst hmoves hturns hturn hnest hjoined hfirst hsecond hinput
      decide +kernel

end Intake
