import Intake.Proofs.ConditionHistory
import Intake.Proofs.SerialReading

/-!
# Nested levels read as one

A level that is never restarted hands out what is read inside it, and is over once a
message has met its condition and has been accepted.  Where no condition counts, so that
none changes from check to check, all that matters of a nest of such levels is which
messages meet one of the conditions.
-/

namespace Intake

/-! ## Conditions that do not count -/

namespace ConditionConfig

mutual

/-- Whether there is no counter in a condition. -/
def isCountFree : ConditionConfig → Bool
  | .content _ _ _ | .static _ => true
  | .count _ => false
  | .not child => child.isCountFree
  | .and children | .or children => allCountFree children

def allCountFree : List ConditionConfig → Bool
  | [] => true
  | child :: rest => child.isCountFree && allCountFree rest

end

mutual

/-- A condition without counters has no memory. -/
theorem after_eq_of_isCountFree : (config : ConditionConfig) → config.isCountFree = true →
    (earlier : List Message) → config.after earlier = config.after []
  | .content _ _ _, _, _ | .static _, _, _ => rfl
  | .count _, hfree, _ => by simp [isCountFree] at hfree
  | .not child, hfree, earlier => by
      rw [isCountFree] at hfree
      rw [after, after, after_eq_of_isCountFree child hfree]
  | .and children, hfree, earlier => by
      rw [isCountFree] at hfree
      rw [after, after, afterAll_eq_of_allCountFree true children hfree]
  | .or children, hfree, earlier => by
      rw [isCountFree] at hfree
      rw [after, after, afterAll_eq_of_allCountFree false children hfree]

theorem afterAll_eq_of_allCountFree (expected : Bool) : (configs : List ConditionConfig) →
    allCountFree configs = true → (earlier : List Message) →
      afterAll expected configs earlier = afterAll expected configs []
  | [], _, _ => rfl
  | config :: rest, hfree, earlier => by
      obtain ⟨hfirst, hrest⟩ : config.isCountFree = true ∧ allCountFree rest = true := by
        simpa [allCountFree] using hfree
      rw [afterAll, afterAll, passed, after_eq_of_isCountFree config hfirst,
        afterAll_eq_of_allCountFree expected rest hrest]

end

end ConditionConfig

namespace Condition

/-- Whether a message meets a condition as it stands. -/
def meets (condition : Condition) (message : Message) : Bool := (condition.check message).1

/-- A condition that stays as it is when it is checked. -/
def IsSteady (condition : Condition) : Prop :=
  ∀ message, (condition.check message).2 = condition

/-- Whether a message meets one of some conditions. -/
def anyMeets (conditions : List Condition) (message : Message) : Bool :=
  conditions.any fun condition => condition.meets message

theorem isSteady_of_build {config : ConditionConfig} {condition : Condition}
    (hbuild : build config = .ok condition) (hfree : config.isCountFree = true) :
    condition.IsSteady := by
  intro message
  obtain rfl : condition = config.after [] := config.build_eq_after condition hbuild
  rw [config.check_after, config.after_eq_of_isCountFree hfree]

section Or

variable {first second : Condition}

theorem meets_or (first second : Condition) (message : Message) :
    (or [first, second]).meets message = (first.meets message || second.meets message) := by
  cases hmeets : (first.check message).1 <;>
    cases hother : (second.check message).1 <;>
      simp [meets, check, checkWhile, hmeets, hother]

theorem isSteady_or (hfirst : first.IsSteady) (hsecond : second.IsSteady) :
    (or [first, second]).IsSteady := by
  intro message
  have hone := hfirst message
  have hother := hsecond message
  cases hmeets : (first.check message).1 <;>
    cases hothers : (second.check message).1 <;>
      simp [check, checkWhile, hmeets, hothers, hone, hother]

end Or

end Condition

/-! ## Levels around a reader -/

/-- A configured input with levels around it that are not to be restarted, the outermost
one first. -/
def InputConfig.within (input : InputConfig) : List ConditionConfig → InputConfig
  | [] => input
  | condition :: rest => .readUntil (some (input.within rest)) false condition

namespace Serial

/-- A reader with levels around another one, the outermost one first. -/
inductive Wraps (inner : Serial) : List Condition → Serial → Prop where
  | bare : Wraps inner [] inner
  | level {input : InputConfig} {condition : Condition} {conditions : List Condition}
      {met : Bool} {outer : Serial} (houter : Wraps inner conditions outer) :
      Wraps inner (condition :: conditions) (.level input false condition met outer)

theorem exists_wraps {input : InputConfig} {inner : Serial} {configs : List ConditionConfig}
    {conditions : List Condition} (hinput : ofConfig input = some inner)
    (hbuilt : List.Forall₂ (fun config condition => Condition.build config = .ok condition)
      configs conditions) :
    ∃ outer, ofConfig (input.within configs) = some outer ∧ inner.Wraps conditions outer := by
  induction hbuilt with
  | nil => exact ⟨inner, hinput, .bare⟩
  | @cons config condition rest _ hbuild _ ih =>
      obtain ⟨outer, houter, hwraps⟩ := ih
      refine ⟨.level (input.within rest) false condition false outer, ?_, .level hwraps⟩
      simp [InputConfig.within, ofConfig, houter, hbuild]

namespace Wraps

variable {inner outer after : Serial} {conditions : List Condition} {message : Message}

theorem next_ends (hwraps : inner.Wraps conditions outer) (hnext : inner.next = .ends) :
    outer.next = .ends := by
  induction hwraps with
  | bare => exact hnext
  | level _ ih => simp [next, ih]

theorem next_rebuilds (hwraps : inner.Wraps conditions outer)
    (hnext : inner.next = .rebuilds after) :
    ∃ other, outer.next = .rebuilds other ∧ after.Wraps conditions other := by
  induction hwraps with
  | bare => exact ⟨after, hnext, .bare⟩
  | @level input condition _ met _ _ ih =>
      obtain ⟨other, hother, hafter⟩ := ih
      refine ⟨.level input false condition met other, ?_, .level hafter⟩
      simp [next, hother]

/-- All levels hand a message on.  The nest is over when a message is accepted that met
one of the conditions, and otherwise still the same nest. -/
theorem next_emits (hwraps : inner.Wraps conditions outer)
    (hsteady : ∀ condition ∈ conditions, condition.IsSteady)
    (hnext : inner.next = .emits message after) :
    ∃ other, outer.next = .emits message other ∧
      (Condition.anyMeets conditions message = true → (other.answer true).next = .ends) ∧
      ∀ accepted, (accepted && Condition.anyMeets conditions message) = false →
        (after.answer accepted).Wraps conditions (other.answer accepted) := by
  induction hwraps with
  | bare => exact ⟨after, hnext, by simp [Condition.anyMeets], fun _ _ => .bare⟩
  | @level input condition conditions met outer _ ih =>
      obtain ⟨other, hother, hover, hgoes⟩ := ih fun inside hmem =>
        hsteady inside (List.mem_cons_of_mem _ hmem)
      have hkeeps := hsteady condition List.mem_cons_self message
      refine ⟨.level input false condition (condition.meets message) other, ?_, ?_, ?_⟩
      · simp [next, hother, hkeeps, Condition.meets]
      · intro hmeets
        cases hmet : condition.meets message with
        | true => simp [answer, next]
        | false =>
            have hinside : Condition.anyMeets conditions message = true := by
              simpa [Condition.anyMeets, hmet] using hmeets
            simp [answer, next, hover hinside]
      · intro accepted hlive
        obtain ⟨hown, hinside⟩ : (accepted && condition.meets message) = false ∧
            (accepted && Condition.anyMeets conditions message) = false := by
          cases accepted <;> simp_all [Condition.anyMeets]
        rw [answer, hown]
        exact .level (hgoes accepted hinside)

end Wraps

theorem play_of_ends {serial : Serial} (hnext : serial.next = .ends) (turns : Nat)
    (verdicts : List Verdict) : play turns serial verdicts = ([], turns != 0) := by
  cases turns <;> simp [play, hnext]

/-- Around the same reader two nests hand out the same if the same messages meet one of
their conditions. -/
theorem play_eq_of_wraps {inner first second : Serial} {conditions others : List Condition}
    (hfirst : inner.Wraps conditions first) (hsecond : inner.Wraps others second)
    (hsteady : ∀ condition ∈ conditions, condition.IsSteady)
    (hothers : ∀ condition ∈ others, condition.IsSteady)
    (hmeets : Condition.anyMeets conditions = Condition.anyMeets others) (turns : Nat)
    (verdicts : List Verdict) : play turns first verdicts = play turns second verdicts := by
  induction turns generalizing inner first second verdicts with
  | zero => rfl
  | succ turns ih =>
      cases hnext : inner.next with
      | ends => rw [play_of_ends (hfirst.next_ends hnext), play_of_ends (hsecond.next_ends hnext)]
      | rebuilds after =>
          obtain ⟨one, hone, honewraps⟩ := hfirst.next_rebuilds hnext
          obtain ⟨other, hother, hotherwraps⟩ := hsecond.next_rebuilds hnext
          simp only [play, hone, hother]
          exact ih honewraps hotherwraps verdicts
      | emits message after =>
          obtain ⟨one, hone, honeover, honegoes⟩ := hfirst.next_emits hsteady hnext
          obtain ⟨other, hother, hotherover, hothergoes⟩ := hsecond.next_emits hothers hnext
          cases verdicts with
          | nil => simp [play, hone, hother]
          | cons verdict rest =>
              simp only [play, hone, hother]
              cases hfinal : verdict.accepts && Condition.anyMeets conditions message with
              | true =>
                  obtain ⟨haccepts, hmet⟩ := Bool.and_eq_true_iff.mp hfinal
                  rw [haccepts, play_of_ends (honeover hmet),
                    play_of_ends (hotherover (hmeets ▸ hmet))]
              | false =>
                  rw [ih (honegoes _ hfinal) (hothergoes _ (hmeets ▸ hfinal))]

/-! ## What later answers leave alone -/

section Later

variable (turns : Nat) (serial : Serial) (verdicts more : List Verdict)

/-- The first messages depend on the answers to those before them only. -/
theorem play_fst_eq_take :
    (play turns serial verdicts).1 =
      (play turns serial (verdicts ++ more)).1.take (verdicts.length + 1) := by
  induction turns generalizing serial verdicts with
  | zero => simp [play]
  | succ turns ih =>
      cases hnext : serial.next with
      | ends => simp [play, hnext]
      | rebuilds after => simpa [play, hnext] using ih after verdicts
      | emits message after =>
          cases verdicts with
          | nil => cases more <;> simp [play, hnext]
          | cons verdict rest => simp [play, hnext, ← ih (after.answer verdict.accepts) rest]

theorem play_append_of_over (hover : (play turns serial verdicts).2 = true) :
    play turns serial (verdicts ++ more) = play turns serial verdicts := by
  induction turns generalizing serial verdicts with
  | zero => simp [play] at hover
  | succ turns ih =>
      cases hnext : serial.next with
      | ends => simp [play, hnext]
      | rebuilds after =>
          rw [play, hnext] at hover
          simpa [play, hnext] using ih after verdicts hover
      | emits message after =>
          cases verdicts with
          | nil => simp [play, hnext] at hover
          | cons verdict rest =>
              have hrest : (play turns (after.answer verdict.accepts) rest).2 = true := by
                simpa [play, hnext] using hover
              simp [play, hnext, ih _ rest hrest]

end Later

section Comparable

variable (turns : Nat) (serial : Serial) {verdicts others : List Verdict}

/-- Of two holders who answer alike one is handed out what the other is, and maybe more. -/
theorem play_comparable (hanswers : verdicts <+: others ∨ others <+: verdicts) :
    (play turns serial verdicts).1 <+: (play turns serial others).1 ∨
      (play turns serial others).1 <+: (play turns serial verdicts).1 := by
  rcases hanswers with ⟨more, rfl⟩ | ⟨more, rfl⟩
  · left
    rw [play_fst_eq_take turns serial verdicts more]
    exact List.take_prefix _ _
  · right
    rw [play_fst_eq_take turns serial others more]
    exact List.take_prefix _ _

theorem play_prefix_of_over (hanswers : verdicts <+: others ∨ others <+: verdicts)
    (hover : (play turns serial verdicts).2 = true) :
    (play turns serial others).1 <+: (play turns serial verdicts).1 := by
  rcases hanswers with ⟨more, rfl⟩ | ⟨more, rfl⟩
  · rw [play_append_of_over turns serial verdicts more hover]
  · rw [play_fst_eq_take turns serial others more]
    exact List.take_prefix _ _

/-- Nothing more is handed out than to a holder whom more answers do not help. -/
theorem play_prefix_of_silent {messages : List Message}
    (hanswers : verdicts <+: others ∨ others <+: verdicts)
    (hsilent : ∀ more, play turns serial (verdicts ++ more) = (messages, false)) :
    (play turns serial others).1 <+: messages := by
  rcases hanswers with ⟨more, rfl⟩ | ⟨more, rfl⟩
  · rw [hsilent more]
  · have hall := hsilent []
    rw [List.append_nil] at hall
    rw [play_fst_eq_take turns serial others more, hall]
    exact List.take_prefix _ _

/-- Such a holder never gets to the end. -/
theorem not_over_of_silent {messages : List Message}
    (hanswers : verdicts <+: others ∨ others <+: verdicts)
    (hsilent : ∀ more, play turns serial (verdicts ++ more) = (messages, false)) :
    (play turns serial others).2 = false := by
  rcases hanswers with ⟨more, rfl⟩ | ⟨more, rfl⟩
  · rw [hsilent more]
  · by_contra hover
    have hall := hsilent []
    rw [List.append_nil, play_append_of_over turns serial others more (by simpa using hover)]
      at hall
    simp [hall] at hover

end Comparable

end Serial

end Intake
