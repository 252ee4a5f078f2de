import Mathlib
import Intake.Condition

/-!
# Conditions by their history

What a condition answers to a message is told by its configuration and by the messages
it was checked against before.  A child is checked against those messages only that
the children to its left did not decide, so its history is a part of that of the whole,
and a counter answers by the length of its own history.  A condition that was built and
checked against one message after another answers just that, and its counters hold no
more than their histories tell.
-/

namespace Intake

/-- Of a history, newest message first, the messages that were answered as expected,
given the answer to each message after those before it. -/
def passed (expected : Bool) (answer : List Message → Message → Bool) :
    List Message → List Message
  | [] => []
  | message :: earlier =>
      if answer earlier message = expected then message :: passed expected answer earlier
      else passed expected answer earlier

namespace ConditionConfig

mutual

/-- What a condition answers to a message after those that it was checked against
earlier, newest first. -/
def answer : ConditionConfig → List Message → Message → Bool
  | .content operator part arg, _, message =>
      match ContentTest.build operator arg with
      | .ok test => test.passesPart part message
      | .error _ => false
  | .count arg, earlier, _ => (earlier.length + 1) % max arg.toNat 1 == 0
  | .static value, _, _ => value
  | .not child, earlier, message => !child.answer earlier message
  | .and children, earlier, message => agree true children earlier message
  | .or children, earlier, message => !agree false children earlier message

/-- Whether all of some children answer as expected.  Only what one child answered as
expected comes to the next. -/
def agree (expected : Bool) : List ConditionConfig → List Message → Message → Bool
  | [], _, _ => true
  | child :: rest, earlier, message =>
      child.answer earlier message == expected &&
        agree expected rest (passed expected child.answer earlier) message

end

mutual

/-- The condition after the messages that it was checked against, newest first. -/
def after : ConditionConfig → List Message → Condition
  | .content operator part arg, _ =>
      match ContentTest.build operator arg with
      | .ok test => .content test part
      | .error _ => .static false
  | .count arg, earlier => .count (max arg 1) (UInt64.ofNat (earlier.length % max arg.toNat 1))
  | .static value, _ => .static value
  | .not child, earlier => .not (child.after earlier)
  | .and children, earlier => .and (afterAll true children earlier)
  | .or children, earlier => .or (afterAll false children earlier)

def afterAll (expected : Bool) : List ConditionConfig → List Message → List Condition
  | [], _ => []
  | child :: rest, earlier =>
      child.after earlier :: afterAll expected rest (passed expected child.answer earlier)

end

mutual

/-- The numbers of the counters, from left to right, each with how many of the messages
of a history came to the counter. -/
def tallies : ConditionConfig → List Message → List (UInt64 × Nat)
  | .content _ _ _, _ => []
  | .count arg, earlier => [(arg, earlier.length)]
  | .static _, _ => []
  | .not child, earlier => child.tallies earlier
  | .and children, earlier => talliesAll true children earlier
  | .or children, earlier => talliesAll false children earlier

def talliesAll (expected : Bool) : List ConditionConfig → List Message → List (UInt64 × Nat)
  | [], _ => []
  | child :: rest, earlier =>
      child.tallies earlier ++ talliesAll expected rest (passed expected child.answer earlier)

end

end ConditionConfig

namespace Condition

mutual

/-- The counters of a condition from left to right: after how many checks each is true,
and how many it has counted since. -/
def counters : Condition → List (UInt64 × UInt64)
  | .content _ _ => []
  | .count every seen => [(every, seen)]
  | .static _ => []
  | .not child => child.counters
  | .and children => countersAll children
  | .or children => countersAll children

def countersAll : List Condition → List (UInt64 × UInt64)
  | [] => []
  | child :: rest => child.counters ++ countersAll rest

end

end Condition

/-! ## Counters -/

theorem toNat_max_one (arg : UInt64) : (max arg 1).toNat = max arg.toNat 1 := by
  change (if arg ≤ 1 then 1 else arg).toNat = _
  by_cases hsmall : arg ≤ 1
  · have hnat : arg.toNat ≤ 1 := UInt64.le_iff_toNat_le.mp hsmall
    simp [hsmall, hnat]
  · have hnat : ¬arg.toNat ≤ 1 := fun hle => hsmall (UInt64.le_iff_toNat_le.mpr hle)
    rw [if_neg hsmall]
    omega

theorem toNat_tally (arg : UInt64) (reached : Nat) :
    (UInt64.ofNat (reached % max arg.toNat 1)).toNat = reached % max arg.toNat 1 := by
  apply UInt64.toNat_ofNat_of_lt'
  have hless : reached % max arg.toNat 1 < max arg.toNat 1 := Nat.mod_lt _ (by omega)
  have hbound := arg.toNat_lt
  simp only [UInt64.size]
  omega

/-- What a counter holds is below the number after which it is true, so one more can be
counted. -/
theorem tally_below (arg : UInt64) (reached : Nat) :
    UInt64.ofNat (reached % max arg.toNat 1) < max arg 1 ∧
      (UInt64.ofNat (reached % max arg.toNat 1) + 1).toNat = reached % max arg.toNat 1 + 1 := by
  have hless : reached % max arg.toNat 1 < max arg.toNat 1 := Nat.mod_lt _ (by omega)
  have hbound := arg.toNat_lt
  constructor
  · rwa [UInt64.lt_iff_toNat_lt, toNat_tally, toNat_max_one]
  · rw [UInt64.toNat_add, toNat_tally]
    exact Nat.mod_eq_of_lt (by simp; omega)

/-- A counter answers as the ordinal of the check tells and has counted it then. -/
theorem Condition.check_count (arg : UInt64) (reached : Nat) (message : Message) :
    (Condition.count (max arg 1) (UInt64.ofNat (reached % max arg.toNat 1))).check message =
      ((reached + 1) % max arg.toNat 1 == 0,
        .count (max arg 1) (UInt64.ofNat ((reached + 1) % max arg.toNat 1))) := by
  obtain ⟨-, hcounted⟩ := tally_below arg reached
  have hless : reached % max arg.toNat 1 < max arg.toNat 1 := Nat.mod_lt _ (by omega)
  have hnext : (reached + 1) % max arg.toNat 1 =
      (reached % max arg.toNat 1 + 1) % max arg.toNat 1 := (Nat.mod_add_mod _ _ _).symm
  by_cases hlast : reached % max arg.toNat 1 + 1 = max arg.toNat 1
  · have hfull : UInt64.ofNat (reached % max arg.toNat 1) + 1 ≥ max arg 1 := by
      rw [ge_iff_le, UInt64.le_iff_toNat_le, hcounted, toNat_max_one, hlast]
    have hzero : (reached + 1) % max arg.toNat 1 = 0 := by rw [hnext, hlast, Nat.mod_self]
    rw [check, if_pos hfull, hzero]
    rfl
  · have hopen : ¬UInt64.ofNat (reached % max arg.toNat 1) + 1 ≥ max arg 1 := by
      rw [ge_iff_le, UInt64.le_iff_toNat_le, hcounted, toNat_max_one]
      omega
    have hmore : (reached + 1) % max arg.toNat 1 = reached % max arg.toNat 1 + 1 := by
      rw [hnext, Nat.mod_eq_of_lt (by omega)]
    have hsum : UInt64.ofNat (reached % max arg.toNat 1) + 1 =
        UInt64.ofNat ((reached + 1) % max arg.toNat 1) := by
      rw [← UInt64.toNat_inj, hcounted, toNat_tally, hmore]
    rw [check, if_neg hopen, hsum]
    simp [hmore]

/-! ## One check -/

namespace ConditionConfig

mutual

/-- A condition that was just built has no history. -/
theorem build_eq_after : (config : ConditionConfig) → (condition : Condition) →
    Condition.build config = .ok condition → condition = config.after []
  | .content operator part arg, condition, hbuild => by
      cases htest : ContentTest.build operator arg with
      | error fault => simp [Condition.build, htest, bind, Except.bind] at hbuild
      | ok test =>
          simp only [Condition.build, htest, bind, Except.bind, Except.ok.injEq] at hbuild
          simp [after, htest, hbuild]
  | .count arg, condition, hbuild => by
      simp only [Condition.build, Except.ok.injEq] at hbuild
      simp [after, ← hbuild]
  | .static value, condition, hbuild => by
      simp only [Condition.build, Except.ok.injEq] at hbuild
      simp [after, hbuild]
  | .not child, condition, hbuild => by
      cases hchild : Condition.build child with
      | error source => simp [Condition.build, hchild] at hbuild
      | ok inner =>
          simp only [Condition.build, hchild, Except.ok.injEq] at hbuild
          rw [after, ← build_eq_after child inner hchild, hbuild]
  | .and children, condition, hbuild => by
      cases hchildren : Condition.buildAll children with
      | error source => simp [Condition.build, hchildren, bind, Except.bind] at hbuild
      | ok inner =>
          simp only [Condition.build, hchildren, bind, Except.bind, Except.ok.injEq] at hbuild
          rw [after, ← buildAll_eq_afterAll true children inner hchildren, hbuild]
  | .or children, condition, hbuild => by
      cases hchildren : Condition.buildAll children with
      | error source => simp [Condition.build, hchildren, bind, Except.bind] at hbuild
      | ok inner =>
          simp only [Condition.build, hchildren, bind, Except.bind, Except.ok.injEq] at hbuild
          rw [after, ← buildAll_eq_afterAll false children inner hchildren, hbuild]

theorem buildAll_eq_afterAll (expected : Bool) : (configs : List ConditionConfig) →
    (conditions : List Condition) → Condition.buildAll configs = .ok conditions →
      conditions = afterAll expected configs []
  | [], conditions, hbuild => by
      simp only [Condition.buildAll, Except.ok.injEq] at hbuild
      simp [afterAll, ← hbuild]
  | config :: rest, conditions, hbuild => by
      cases hfirst : Condition.build config with
      | error source => simp [Condition.buildAll, hfirst] at hbuild
      | ok first =>
          cases hrest : Condition.buildAll rest with
          | error source => simp [Condition.buildAll, hfirst, hrest, bind, Except.bind] at hbuild
          | ok others =>
              simp only [Condition.buildAll, hfirst, hrest, bind, Except.bind,
                Except.ok.injEq] at hbuild
              rw [afterAll, passed, ← build_eq_after config first hfirst,
                ← buildAll_eq_afterAll expected rest others hrest, hbuild]

end

mutual

/-- A check answers as the history tells and adds the message to it. -/
theorem check_after : (config : ConditionConfig) → (earlier : List Message) →
    (message : Message) → (config.after earlier).check message =
      (config.answer earlier message, config.after (message :: earlier))
  | .content operator part arg, earlier, message => by
      cases htest : ContentTest.build operator arg <;>
        simp [after, answer, htest, Condition.check]
  | .count arg, earlier, message => by
      simp [after, answer, Condition.check_count]
  | .static value, earlier, message => by simp [after, answer, Condition.check]
  | .not child, earlier, message => by
      simp [after, answer, Condition.check, check_after child]
  | .and children, earlier, message => by
      simp [after, answer, Condition.check, checkWhile_afterAll true children]
  | .or children, earlier, message => by
      simp [after, answer, Condition.check, checkWhile_afterAll false children]

theorem checkWhile_afterAll (expected : Bool) : (configs : List ConditionConfig) →
    (earlier : List Message) → (message : Message) →
      Condition.checkWhile message expected (afterAll expected configs earlier) =
        (agree expected configs earlier message == expected,
          afterAll expected configs (message :: earlier))
  | [], earlier, message => by simp [afterAll, agree, Condition.checkWhile]
  | config :: rest, earlier, message => by
      rw [afterAll, Condition.checkWhile, check_after config, agree, afterAll, passed]
      -- the other children are reached if this one does not decide
      by_cases hanswer : config.answer earlier message = expected
      · simp [hanswer, checkWhile_afterAll expected rest]
      · have hother : config.answer earlier message = !expected := by
          cases hboth : config.answer earlier message <;> cases expected <;> simp_all
        simp [hother]

end

/-! ## The counters -/

mutual

theorem counters_after : (config : ConditionConfig) → (earlier : List Message) →
    (config.after earlier).counters = (config.tallies earlier).map fun tally =>
      (max tally.1 1, UInt64.ofNat (tally.2 % max tally.1.toNat 1))
  | .content operator part arg, earlier => by
      cases htest : ContentTest.build operator arg <;>
        simp [after, tallies, htest, Condition.counters]
  | .count arg, earlier => by simp [after, tallies, Condition.counters]
  | .static value, earlier => by simp [after, tallies, Condition.counters]
  | .not child, earlier => by
      simp [after, tallies, Condition.counters, counters_after child]
  | .and children, earlier => by
      simp [after, tallies, Condition.counters, counters_afterAll true children]
  | .or children, earlier => by
      simp [after, tallies, Condition.counters, counters_afterAll false children]

theorem counters_afterAll (expected : Bool) : (configs : List ConditionConfig) →
    (earlier : List Message) →
      Condition.countersAll (afterAll expected configs earlier) =
        (talliesAll expected configs earlier).map fun tally =>
          (max tally.1 1, UInt64.ofNat (tally.2 % max tally.1.toNat 1))
  | [], earlier => by simp [afterAll, talliesAll, Condition.countersAll]
  | config :: rest, earlier => by
      simp [afterAll, talliesAll, Condition.countersAll, counters_after config,
        counters_afterAll expected rest]

end

/-! ## Checks in turn -/

/-- Each message is answered by those before it. -/
theorem checkAll_after (config : ConditionConfig) (earlier messages : List Message) :
    (config.after earlier).checkAll messages =
      (List.ofFn fun index : Fin messages.length =>
          config.answer ((messages.take index).reverse ++ earlier) messages[index],
        config.after (messages.reverse ++ earlier)) := by
  induction messages generalizing earlier with
  | nil => rfl
  | cons message rest ih =>
      rw [Condition.checkAll, check_after]
      simp [ih]

end ConditionConfig

/-- How a condition behaves that was built as configured when it is checked against
messages in turn. -/
structure Condition.Follows (condition : Condition) (config : ConditionConfig)
    (messages : List Message) : Prop where
  answers : (condition.checkAll messages).1 =
    List.ofFn fun index : Fin messages.length =>
      config.answer (messages.take index).reverse messages[index]
  /-- What a counter holds depends on nothing but how many messages came to it. -/
  counters : (condition.checkAll messages).2.counters =
    (config.tallies messages.reverse).map fun tally =>
      (max tally.1 1, UInt64.ofNat (tally.2 % max tally.1.toNat 1))
  /-- There is room for one more. -/
  below : ∀ counter ∈ (condition.checkAll messages).2.counters,
    counter.2 < counter.1 ∧ (counter.2 + 1).toNat = counter.2.toNat + 1

/-- A condition answers by the messages that came to each of its children before, a
counter by how many came to it. -/
theorem Condition.follows_of_build {config : ConditionConfig} {condition : Condition}
    (hbuild : Condition.build config = .ok condition) (messages : List Message) :
    condition.Follows config messages := by
  obtain rfl : condition = config.after [] := config.build_eq_after condition hbuild
  have hchecks := config.checkAll_after [] messages
  simp only [List.append_nil] at hchecks
  refine ⟨by rw [hchecks], by rw [hchecks, config.counters_after], ?_⟩
  intro counter hcounter
  rw [hchecks, config.counters_after] at hcounter
  obtain ⟨⟨arg, reached⟩, -, rfl⟩ := List.mem_map.mp hcounter
  obtain ⟨hbelow, hcounted⟩ := tally_below arg reached
  exact ⟨hbelow, by rw [hcounted, toNat_tally]⟩

/-- The first counter is reached by the messages that are no `a`, the second, which is
true every time, by every second one of those and by each `a`, the last one by all that
the second one lets through. -/
theorem Condition.follows_of_build_nested :
    ∃ (config : ConditionConfig) (condition : Condition) (messages : List Message),
      config = .and [.or [.content "equals_cs" 0 "a", .count 2], .count 0,
        .not (.count 18446744073709551615)] ∧
      messages = [.single [0x61], .single [0x62], .single [0x62], .single [0x61], .single []] ∧
      Condition.build config = .ok condition ∧ condition.Follows config messages ∧
      (condition.checkAll messages).1 = [true, false, true, true, false] ∧
      (condition.checkAll messages).2.counters = [(2, 1), (1, 0), (18446744073709551615, 3)] := by
  refine ⟨_, _, _, rfl, rfl, rfl, Condition.follows_of_build rfl _, ?_, ?_⟩
  · decide +kernel
  · decide +kernel

end Intake
