import Intake.Proofs.ConditionFaults
import Intake.Proofs.ConditionHistory

/-!
# Boolean laws

A negation moves through `and` and `or`, two negations cancel, and an `and` inside an
`and`, or an `or` inside an `or`, can be spelled out.  Counters make more of this than an
equation between answers: a check must reach the same children on both sides, or the
answers to later messages differ.  So the laws relate conditions between two checks,
whatever their counters hold, and each check keeps that relation.
-/

namespace Intake

/-- An `and`, whose children are expected to be true, or an `or`, whose children are
expected to be false. -/
def Condition.gate (expected : Bool) (children : List Condition) : Condition :=
  if expected then .and children else .or children

/-- The configuration of an `and` or an `or`. -/
def ConditionConfig.gate (expected : Bool) (children : List ConditionConfig) : ConditionConfig :=
  if expected then .and children else .or children

/-- Two conditions that a law makes of each other. -/
inductive Condition.Interchanged : Condition → Condition → Prop where
  | negation (expected : Bool) (children : List Condition) :
      Interchanged (.not (.gate expected children)) (.gate (!expected) (children.map .not))
  | twice (child : Condition) : Interchanged (.not (.not child)) child
  | nested (expected : Bool) (before inner after : List Condition) :
      Interchanged (.gate expected (before ++ [.gate expected inner] ++ after))
        (.gate expected (before ++ inner ++ after))

/-! ## One check -/

namespace Condition

variable {first second : Condition}

theorem check_gate (message : Message) (expected : Bool) (children : List Condition) :
    (gate expected children).check message =
      ((checkWhile message expected children).1,
        gate expected (checkWhile message expected children).2) := by
  cases expected <;> rfl

theorem check_not (message : Message) (child : Condition) :
    (Condition.not child).check message =
      (!(child.check message).1, .not (child.check message).2) := rfl

theorem checkWhile_cons (message : Message) (expected : Bool) (child : Condition)
    (rest : List Condition) :
    checkWhile message expected (child :: rest) =
      if (child.check message).1 = expected then
        ((checkWhile message expected rest).1,
          (child.check message).2 :: (checkWhile message expected rest).2)
      else ((child.check message).1, (child.check message).2 :: rest) := rfl

/-- The children behind a list are reached if none of the list decides. -/
theorem checkWhile_append (message : Message) (expected : Bool) (front back : List Condition) :
    checkWhile message expected (front ++ back) =
      if (checkWhile message expected front).1 = expected then
        ((checkWhile message expected back).1,
          (checkWhile message expected front).2 ++ (checkWhile message expected back).2)
      else
        ((checkWhile message expected front).1,
          (checkWhile message expected front).2 ++ back) := by
  induction front with
  | nil => simp [checkWhile]
  | cons child rest ih =>
      rw [List.cons_append, checkWhile_cons, checkWhile_cons, ih]
      by_cases hpassed : (child.check message).1 = expected
      · simp only [hpassed, if_true]
        split <;> rfl
      · simp only [hpassed, if_false, List.cons_append]

/-- A child that is negated decides where it did before, and for the other answer. -/
theorem checkWhile_map_not (message : Message) (expected : Bool) (children : List Condition) :
    checkWhile message (!expected) (children.map .not) =
      (!(checkWhile message expected children).1,
        (checkWhile message expected children).2.map .not) := by
  induction children with
  | nil => rfl
  | cons child rest ih =>
      rw [List.map_cons, checkWhile_cons, checkWhile_cons, check_not, ih]
      by_cases hpassed : (child.check message).1 = expected
      · simp [hpassed]
      · simp [hpassed]

theorem checkWhile_gate (message : Message) (expected : Bool) (children : List Condition) :
    checkWhile message expected [gate expected children] =
      ((checkWhile message expected children).1,
        [gate expected (checkWhile message expected children).2]) := by
  rw [checkWhile_cons, check_gate]
  split
  · next hpassed => rw [hpassed]; rfl
  · rfl

namespace Interchanged

/-- Both conditions answer the same, and the law relates what becomes of them. -/
theorem check (hlaw : Interchanged first second) (message : Message) :
    (first.check message).1 = (second.check message).1 ∧
      Interchanged (first.check message).2 (second.check message).2 := by
  cases hlaw with
  | negation expected children =>
      rw [check_not, check_gate, check_gate, checkWhile_map_not]
      exact ⟨rfl, .negation expected _⟩
  | twice child =>
      rw [check_not, check_not]
      exact ⟨Bool.not_not _, .twice _⟩
  | nested expected before inner after =>
      simp only [check_gate, checkWhile_append, checkWhile_gate]
      split
      · split
        · exact ⟨rfl, .nested expected _ _ _⟩
        · exact ⟨rfl, .nested expected _ _ _⟩
      · exact ⟨rfl, .nested expected _ _ _⟩

theorem checkAll (hlaw : Interchanged first second) (messages : List Message) :
    (first.checkAll messages).1 = (second.checkAll messages).1 ∧
      Interchanged (first.checkAll messages).2 (second.checkAll messages).2 := by
  induction messages generalizing first second with
  | nil => exact ⟨rfl, hlaw⟩
  | cons message rest ih =>
      obtain ⟨hanswer, hafter⟩ := hlaw.check message
      obtain ⟨hanswers, hlast⟩ := ih hafter
      refine ⟨?_, hlast⟩
      simp only [Condition.checkAll, hanswer, hanswers]

end Interchanged

/-! ## Counters -/

theorem countersAll_append (front back : List Condition) :
    countersAll (front ++ back) = countersAll front ++ countersAll back := by
  induction front with
  | nil => rfl
  | cons child rest ih => simp [countersAll, ih]

theorem countersAll_map_not (children : List Condition) :
    countersAll (children.map .not) = countersAll children := by
  induction children with
  | nil => rfl
  | cons child rest ih => simp [countersAll, counters, ih]

theorem counters_gate (expected : Bool) (children : List Condition) :
    (gate expected children).counters = countersAll children := by
  cases expected <;> rfl

/-- The same counters stand in the same order and hold the same. -/
theorem Interchanged.counters (hlaw : Interchanged first second) :
    first.counters = second.counters := by
  cases hlaw with
  | negation expected children =>
      rw [Condition.counters, counters_gate, counters_gate, countersAll_map_not]
  | twice child => rfl
  | nested expected before inner after =>
      simp [counters_gate, countersAll_append, countersAll]

/-! ## Building -/

theorem build_gate (expected : Bool) (configs : List ConditionConfig) :
    build (.gate expected configs) = (buildAll configs).map (gate expected) := by
  cases expected with
  | false =>
      change build (.or configs) = _
      rw [build]
      cases buildAll configs <;> rfl
  | true =>
      change build (.and configs) = _
      rw [build]
      cases buildAll configs <;> rfl

/-- Children are built one by one. -/
theorem buildAll_of_forall₂ {configs : List ConditionConfig} {conditions : List Condition}
    (hbuilt : List.Forall₂ (fun config condition => build config = .ok condition)
      configs conditions) :
    buildAll configs = .ok conditions := by
  induction hbuilt with
  | nil => rw [buildAll]
  | cons hfirst _ ih =>
      rw [buildAll, hfirst, ih]
      rfl

end Condition

namespace ConditionConfig

open Condition

theorem constructs_gate (expected : Bool) (configs : List ConditionConfig) :
    (gate expected configs).Constructs ↔ ∀ config ∈ configs, config.Constructs := by
  rw [← sound_leavesAll_iff, constructs_iff]
  cases expected <;> rfl

theorem exists_forall₂_built {configs : List ConditionConfig}
    (hconstruct : ∀ config ∈ configs, config.Constructs) :
    ∃ conditions, List.Forall₂ (fun config condition => build config = .ok condition)
      configs conditions := by
  induction configs with
  | nil => exact ⟨[], .nil⟩
  | cons config rest ih =>
      obtain ⟨⟨condition, hbuild⟩, hrest⟩ := List.forall_mem_cons.mp hconstruct
      obtain ⟨conditions, hbuilt⟩ := ih hrest
      exact ⟨condition :: conditions, .cons hbuild hbuilt⟩

/-- Two configurations that can take each other's place: if one can be built so can the
other, and whatever messages both are checked against, they answer the same and their
counters hold the same. -/
structure Interchangeable (first second : ConditionConfig) : Prop where
  constructs : first.Constructs ↔ second.Constructs
  alike : ∀ one other, build first = .ok one → build second = .ok other → ∀ messages,
    (one.checkAll messages).1 = (other.checkAll messages).1 ∧
      (one.checkAll messages).2.counters = (other.checkAll messages).2.counters

theorem Interchangeable.of_interchanged {first second : ConditionConfig}
    (hconstructs : first.Constructs ↔ second.Constructs)
    (hlaw : first.Constructs → ∃ one other, build first = .ok one ∧ build second = .ok other ∧
      one.Interchanged other) : first.Interchangeable second := by
  refine ⟨hconstructs, fun one other hone hother messages => ?_⟩
  obtain ⟨_, _, hfirst, hsecond, hinterchanged⟩ := hlaw ⟨one, hone⟩
  obtain rfl := Except.ok.inj (hfirst.symm.trans hone)
  obtain rfl := Except.ok.inj (hsecond.symm.trans hother)
  obtain ⟨hanswers, hafter⟩ := hinterchanged.checkAll messages
  exact ⟨hanswers, hafter.counters⟩

theorem interchangeable_negation (expected : Bool) (configs : List ConditionConfig) :
    (ConditionConfig.not (gate expected configs)).Interchangeable
      (gate (!expected) (configs.map .not)) := by
  have hconstructs : (ConditionConfig.not (gate expected configs)).Constructs ↔
      ∀ config ∈ configs, config.Constructs := by
    rw [constructs_not, constructs_gate]
  refine .of_interchanged ?_ fun hconstruct => ?_
  · simp only [hconstructs, constructs_gate, List.forall_mem_map, constructs_not]
  · obtain ⟨conditions, hbuilt⟩ := exists_forall₂_built (hconstructs.mp hconstruct)
    have hnegated : List.Forall₂ (fun config condition => build config = .ok condition)
        (configs.map .not) (conditions.map .not) := by
      rw [List.forall₂_map_left_iff, List.forall₂_map_right_iff]
      refine hbuilt.imp fun config condition hbuild => ?_
      rw [build, hbuild]
    refine ⟨_, _, ?_, ?_, .negation expected conditions⟩
    · rw [build, build_gate, buildAll_of_forall₂ hbuilt]
      rfl
    · rw [build_gate, buildAll_of_forall₂ hnegated]
      rfl

theorem interchangeable_twice (config : ConditionConfig) :
    (ConditionConfig.not (.not config)).Interchangeable config := by
  refine .of_interchanged ?_ fun hconstruct => ?_
  · rw [constructs_not, constructs_not]
  · obtain ⟨condition, hbuild⟩ : config.Constructs := by
      rwa [constructs_not, constructs_not] at hconstruct
    exact ⟨.not (.not condition), condition, by rw [build, build, hbuild], hbuild, .twice _⟩

theorem interchangeable_nested (expected : Bool) (before inner after : List ConditionConfig) :
    (gate expected (before ++ [gate expected inner] ++ after)).Interchangeable
      (gate expected (before ++ inner ++ after)) := by
  have hconstructs : (gate expected (before ++ [gate expected inner] ++ after)).Constructs ↔
      ((∀ config ∈ before, config.Constructs) ∧ ∀ config ∈ inner, config.Constructs) ∧
        ∀ config ∈ after, config.Constructs := by
    rw [constructs_gate, List.forall_mem_append, List.forall_mem_append, List.forall_mem_singleton,
      constructs_gate]
  refine .of_interchanged ?_ fun hconstruct => ?_
  · rw [hconstructs, constructs_gate, List.forall_mem_append, List.forall_mem_append]
  · obtain ⟨⟨hbefore, hinner⟩, hafter⟩ := hconstructs.mp hconstruct
    obtain ⟨front, hfront⟩ := exists_forall₂_built hbefore
    obtain ⟨middle, hmiddle⟩ := exists_forall₂_built hinner
    obtain ⟨back, hback⟩ := exists_forall₂_built hafter
    have hgate : build (gate expected inner) = .ok (.gate expected middle) := by
      rw [build_gate, buildAll_of_forall₂ hmiddle]
      rfl
    have hleft := List.rel_append (List.rel_append hfront (.cons hgate .nil)) hback
    have hright := List.rel_append (List.rel_append hfront hmiddle) hback
    refine ⟨_, _, ?_, ?_, .nested expected front middle back⟩
    · rw [build_gate, buildAll_of_forall₂ hleft]
      rfl
    · rw [build_gate, buildAll_of_forall₂ hright]
      rfl

/-- The laws, and which lists of children they are about. -/
structure BooleanLaws (before children after : List ConditionConfig) (child : ConditionConfig) :
    Prop where
  constructs_and :
    (ConditionConfig.and children).Constructs ↔ ∀ config ∈ children, config.Constructs
  constructs_or :
    (ConditionConfig.or children).Constructs ↔ ∀ config ∈ children, config.Constructs
  not_and : (ConditionConfig.not (.and children)).Interchangeable (.or (children.map .not))
  not_or : (ConditionConfig.not (.or children)).Interchangeable (.and (children.map .not))
  not_not : (ConditionConfig.not (.not child)).Interchangeable child
  and_and : (ConditionConfig.and (before ++ [.and children] ++ after)).Interchangeable
    (.and (before ++ children ++ after))
  or_or : (ConditionConfig.or (before ++ [.or children] ++ after)).Interchangeable
    (.or (before ++ children ++ after))

theorem boolean_laws (before children after : List ConditionConfig) (child : ConditionConfig) :
    BooleanLaws before children after child where
  constructs_and := constructs_gate true children
  constructs_or := constructs_gate false children
  not_and := interchangeable_negation true children
  not_or := interchangeable_negation false children
  not_not := interchangeable_twice child
  and_and := interchangeable_nested true before children after
  or_or := interchangeable_nested false before children after

end ConditionConfig

/-- The counter is reached by each `a`, spelled either way. -/
example :
    let messages : List Message := [.single [0x61], .single [0x62], .single [0x61]]
    let comparison : ConditionConfig := .content "equals_cs" 0 "a"
    let answers (config : ConditionConfig) : Except ConditionError (List Bool) :=
      (Condition.build config).map fun condition => (condition.checkAll messages).1
    answers (.not (.and [comparison, .count 2])) = .ok [true, true, false] ∧
      answers (.or [.not comparison, .not (.count 2)]) = .ok [true, true, false] := by
  decide +kernel

end Intake
