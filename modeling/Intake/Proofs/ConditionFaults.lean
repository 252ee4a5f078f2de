import Mathlib
import Intake.Proofs.InputFaults

/-!
# Faults of configured conditions

Only comparisons can be faulty, by their operator or by their pattern.  The tree of a
condition is written down here as the list of its comparisons from left to right, each
with the kinds that are passed on the way down to it.  Building finds the first of them
that is faulty and goes no further; its fault is wrapped once for each kind on the way, and
the texts of the wrapped error tell the way from the outside in, down to what the engine says
if a pattern is at fault.
-/

namespace Intake

/-- A comparison in a condition.  The path has the kind of each child on the way down to
the comparison, so the path of a comparison that is the whole condition is empty. -/
structure ConditionLeaf where
  path : List ConditionKind
  operator : String
  arg : String
  deriving Repr, DecidableEq

/-- A comparison as seen from the parent of the condition that has it. -/
def ConditionLeaf.below (kind : ConditionKind) (leaf : ConditionLeaf) : ConditionLeaf :=
  { leaf with path := kind :: leaf.path }

namespace ConditionConfig

mutual

/-- The comparisons of a condition from left to right. -/
def leaves : ConditionConfig → List ConditionLeaf
  | .content operator _ arg => [⟨[], operator, arg⟩]
  | .count _ | .static _ => []
  | .not child => child.leaves.map (.below child.kind)
  | .and children | .or children => leavesAll children

/-- The comparisons of the children of a condition. -/
def leavesAll : List ConditionConfig → List ConditionLeaf
  | [] => []
  | child :: rest => child.leaves.map (.below child.kind) ++ leavesAll rest

end

end ConditionConfig

/-- The operators that compare content with the argument itself. -/
def ContentTest.plainOperators : List String :=
  ["equals_cs", "equals", "contains_cs", "contains", "prefix_cs", "prefix", "suffix_cs", "suffix"]

/-- All operators that there are. -/
def ContentTest.operators : List String :=
  plainOperators ++ ["regexp_partial", "regexp_exact"]

namespace ConditionLeaf

/-- The text that has to be a pattern, if the operator takes one. -/
def patternText? (leaf : ConditionLeaf) : Option String :=
  if leaf.operator = "regexp_partial" then some leaf.arg
  else if leaf.operator = "regexp_exact" then some ("^(?:" ++ leaf.arg ++ ")$")
  else none

/-- Nothing is wrong with a comparison. -/
structure Sound (leaf : ConditionLeaf) : Prop where
  operator : leaf.operator ∈ ContentTest.operators
  pattern : ∀ text, leaf.patternText? = some text → ∃ pattern, Regex.compile text = .ok pattern

/-- What is wrong with a comparison. -/
inductive Fails (leaf : ConditionLeaf) : ConditionError → Prop where
  | operator (hunknown : leaf.operator ∉ ContentTest.operators) :
      Fails leaf (.unknownOperator leaf.operator)
  | pattern {text : String} {fault : Regex.Fault} (hpattern : leaf.patternText? = some text)
      (hfault : Regex.compile text = .error fault) : Fails leaf (.pattern fault)

end ConditionLeaf

/-- An error as the conditions above it report it, where the children on the way down have
these kinds. -/
def ConditionError.within (path : List ConditionKind) (error : ConditionError) : ConditionError :=
  path.foldr .child error

/-! ## One comparison -/

namespace ConditionLeaf

variable {leaf : ConditionLeaf} {source : ConditionError}

theorem sound_iff : leaf.Sound ↔ ∀ source, ¬leaf.Fails source := by
  constructor
  · rintro ⟨hknown, hcompiles⟩ _ (hunknown | ⟨hpattern, hfault⟩)
    · exact hunknown hknown
    · obtain ⟨pattern, hpattern⟩ := hcompiles _ hpattern
      simp [hpattern] at hfault
  · intro hsound
    refine ⟨not_not.mp fun hunknown => hsound _ (.operator hunknown), fun text hpattern => ?_⟩
    cases hcompile : Regex.compile text with
    | ok pattern => exact ⟨pattern, rfl⟩
    | error fault => exact absurd (.pattern hpattern hcompile) (hsound _)

/-- An operator is none at all, or compares the argument itself, or takes a pattern. -/
theorem build_cases (leaf : ConditionLeaf) :
    (leaf.operator ∉ ContentTest.operators ∧ leaf.patternText? = none ∧
      ContentTest.build leaf.operator leaf.arg = .error (.unknownOperator leaf.operator)) ∨
    (leaf.operator ∈ ContentTest.operators ∧ leaf.patternText? = none ∧
      ∃ test, ContentTest.build leaf.operator leaf.arg = .ok test) ∨
    (leaf.operator ∈ ContentTest.operators ∧ ∃ text, leaf.patternText? = some text ∧
      ContentTest.build leaf.operator leaf.arg =
        match Regex.compile text with
        | .ok compiled => .ok (.pattern compiled)
        | .error fault => .error (.pattern fault)) := by
  obtain ⟨path, operator, arg⟩ := leaf
  by_cases hpartial : operator = "regexp_partial"
  · subst hpartial
    exact .inr (.inr ⟨by simp [ContentTest.operators], arg, rfl, rfl⟩)
  by_cases hexact : operator = "regexp_exact"
  · subst hexact
    exact .inr (.inr ⟨by simp [ContentTest.operators], _, rfl, rfl⟩)
  have hnone : patternText? ⟨path, operator, arg⟩ = none := by
    simp [patternText?, hpartial, hexact]
  by_cases hplain : operator ∈ ContentTest.plainOperators
  · refine .inr (.inl ⟨List.mem_append_left _ hplain, hnone, ?_⟩)
    simp only [ContentTest.plainOperators, List.mem_cons, List.not_mem_nil, or_false] at hplain
    rcases hplain with rfl | rfl | rfl | rfl | rfl | rfl | rfl | rfl <;> exact ⟨_, rfl⟩
  · have hunknown : operator ∉ ContentTest.operators := by
      simp [ContentTest.operators, hplain, hpartial, hexact]
    refine .inl ⟨hunknown, hnone, ?_⟩
    simp only [ContentTest.operators, ContentTest.plainOperators, List.cons_append,
      List.nil_append, List.mem_cons, List.not_mem_nil, or_false, not_or] at hunknown
    simp only [ContentTest.build]
    split <;> simp_all

theorem build_eq_error_iff :
    ContentTest.build leaf.operator leaf.arg = .error source ↔ leaf.Fails source := by
  rcases leaf.build_cases with ⟨hunknown, hnone, hbuild⟩ | ⟨hknown, hnone, test, hbuild⟩ |
    ⟨hknown, text, hsome, hbuild⟩
  · rw [hbuild]
    constructor
    · rintro ⟨⟩
      exact .operator hunknown
    · rintro (_ | ⟨hpattern, _⟩)
      · rfl
      · simp [hnone] at hpattern
  · rw [hbuild]
    constructor
    · rintro ⟨⟩
    · rintro (hunknown | ⟨hpattern, _⟩)
      · exact absurd hknown hunknown
      · simp [hnone] at hpattern
  · rw [hbuild]
    constructor
    · cases hcompile : Regex.compile text with
      | ok compiled => rintro ⟨⟩
      | error fault =>
          rintro ⟨⟩
          exact .pattern hsome hcompile
    · rintro (hunknown | ⟨hpattern, hfault⟩)
      · exact absurd hknown hunknown
      · obtain rfl := Option.some.inj (hsome.symm.trans hpattern)
        rw [hfault]

end ConditionLeaf

/-! ## The first fault -/

/-- What is reported of a comparison, if it is faulty. -/
def ConditionLeaf.report? (leaf : ConditionLeaf) : Option ConditionError :=
  match ContentTest.build leaf.operator leaf.arg with
  | .ok _ => none
  | .error source => some (.within leaf.path source)

/-- What comes of building a condition that has these comparisons. -/
def ConditionLeaf.verdict (leaves : List ConditionLeaf) : Except ConditionError Unit :=
  match leaves.findSome? report? with
  | some error => .error error
  | none => .ok ()

namespace ConditionLeaf

variable {leaf : ConditionLeaf} {leaves : List ConditionLeaf} {error : ConditionError}

theorem report?_eq_some_iff : leaf.report? = some error ↔
    ∃ source, leaf.Fails source ∧ error = .within leaf.path source := by
  simp only [← build_eq_error_iff, report?]
  cases ContentTest.build leaf.operator leaf.arg <;> simp [eq_comm]

theorem report?_eq_none_iff : leaf.report? = none ↔ leaf.Sound := by
  rw [sound_iff]
  simp only [← build_eq_error_iff, report?]
  cases ContentTest.build leaf.operator leaf.arg <;> simp

/-- From above a fault is reported with one more kind around it. -/
theorem report?_below (kind : ConditionKind) (leaf : ConditionLeaf) :
    (leaf.below kind).report? = leaf.report?.map (.child kind) := by
  simp only [report?, below]
  cases ContentTest.build leaf.operator leaf.arg <;> rfl

theorem sound_below {kind : ConditionKind} : (leaf.below kind).Sound ↔ leaf.Sound := by
  rw [← report?_eq_none_iff, ← report?_eq_none_iff, report?_below, Option.map_eq_none_iff]

theorem verdict_below (kind : ConditionKind) (leaves : List ConditionLeaf) :
    verdict (leaves.map (.below kind)) = (verdict leaves).mapError (.child kind) := by
  have hreports : report? ∘ below kind = Option.map (.child kind) ∘ report? :=
    funext (report?_below kind)
  rw [verdict, verdict, List.findSome?_map, hreports, ← List.map_findSome?]
  cases leaves.findSome? report? <;> rfl

/-- A fault on the left comes before all on the right. -/
theorem verdict_append (first second : List ConditionLeaf) :
    verdict (first ++ second) =
      match verdict first with
      | .error error => .error error
      | .ok () => verdict second := by
  simp only [verdict, List.findSome?_append]
  cases first.findSome? report? <;> rfl

theorem verdict_eq_ok_iff : verdict leaves = .ok () ↔ ∀ leaf ∈ leaves, leaf.Sound := by
  simp only [← report?_eq_none_iff, ← List.findSome?_eq_none_iff, verdict]
  cases leaves.findSome? report? <;> simp

theorem verdict_eq_error_iff : verdict leaves = .error error ↔
    ∃ earlier leaf later source, leaves = earlier ++ leaf :: later ∧
      (∀ other ∈ earlier, other.Sound) ∧ leaf.Fails source ∧
        error = .within leaf.path source := by
  have hfound : verdict leaves = .error error ↔ leaves.findSome? report? = some error := by
    rw [verdict]
    cases leaves.findSome? report? <;> simp
  rw [hfound, List.findSome?_eq_some_iff]
  simp only [report?_eq_some_iff, report?_eq_none_iff]
  constructor
  · rintro ⟨earlier, leaf, later, rfl, ⟨source, hfails, rfl⟩, hsound⟩
    exact ⟨earlier, leaf, later, source, rfl, hsound, hfails, rfl⟩
  · rintro ⟨earlier, leaf, later, source, rfl, hsound, hfails, rfl⟩
    exact ⟨earlier, leaf, later, rfl, ⟨source, hfails, rfl⟩, hsound⟩

end ConditionLeaf

namespace ConditionConfig

open ConditionLeaf

mutual

/-- Building a condition goes through its comparisons from left to right. -/
theorem build_eq_verdict : (config : ConditionConfig) →
    (Condition.build config).map (fun _ => ()) = verdict config.leaves
  | .content operator part arg => by
      rw [Condition.build, leaves, verdict, List.findSome?_singleton, report?]
      cases ContentTest.build operator arg <;> rfl
  | .count arg => by
      rw [Condition.build]
      rfl
  | .static value => by
      rw [Condition.build]
      rfl
  | .not child => by
      rw [Condition.build, leaves, verdict_below, ← build_eq_verdict child]
      cases Condition.build child <;> rfl
  | .and children => by
      rw [Condition.build, leaves, ← buildAll_eq_verdict children]
      cases Condition.buildAll children <;> rfl
  | .or children => by
      rw [Condition.build, leaves, ← buildAll_eq_verdict children]
      cases Condition.buildAll children <;> rfl

theorem buildAll_eq_verdict : (configs : List ConditionConfig) →
    (Condition.buildAll configs).map (fun _ => ()) = verdict (leavesAll configs)
  | [] => by
      rw [Condition.buildAll]
      rfl
  | config :: rest => by
      rw [Condition.buildAll, leavesAll, verdict_append, verdict_below, ← build_eq_verdict config,
        ← buildAll_eq_verdict rest]
      cases Condition.build config with
      | error source => rfl
      | ok condition => cases Condition.buildAll rest <;> rfl

end

theorem constructs_iff (config : ConditionConfig) :
    config.Constructs ↔ ∀ leaf ∈ config.leaves, leaf.Sound := by
  rw [← verdict_eq_ok_iff, ← build_eq_verdict, Constructs]
  cases Condition.build config <;> simp [Except.map]

theorem constructs_not (config : ConditionConfig) :
    (ConditionConfig.not config).Constructs ↔ config.Constructs := by
  simp only [constructs_iff, leaves, List.forall_mem_map, sound_below]

theorem sound_leavesAll_iff (configs : List ConditionConfig) :
    (∀ leaf ∈ leavesAll configs, leaf.Sound) ↔ ∀ config ∈ configs, config.Constructs := by
  induction configs with
  | nil => simp [leavesAll]
  | cons config rest ih =>
      simp only [leavesAll, List.forall_mem_append, List.forall_mem_map, sound_below, ih,
        List.forall_mem_cons, constructs_iff config]

theorem build_eq_error_iff (config : ConditionConfig) (error : ConditionError) :
    Condition.build config = .error error ↔ verdict config.leaves = .error error := by
  rw [← build_eq_verdict]
  cases Condition.build config <;> simp [Except.map]

end ConditionConfig

/-! ## Texts -/

namespace ConditionError

variable (wording : Regex.Wording) {source : ConditionError}

/-- How the texts of an error and of its sources read from the outside in, where the error
is that of a comparison at the end of a path.  They end as those of the comparison do. -/
structure Reads (error : ConditionError) (path : List ConditionKind)
    (source : ConditionError) : Prop where
  outermost : (error.chain wording).head? = some (error.message wording)
  count : (error.chain wording).length = path.length + (source.chain wording).length
  /-- Each text is its own beginning and then the next text. -/
  wrapped : ∀ level kind next, path[level]? = some kind →
    (error.chain wording)[level + 1]? = some next →
      (error.chain wording)[level]? =
        some ("failed to create child condition '" ++ kind.name ++ "': " ++ next)
  innermost : (error.chain wording).drop path.length = source.chain wording

theorem head?_chain (error : ConditionError) :
    (error.chain wording).head? = some (error.message wording) := by
  cases error <;> simp [chain]

theorem reads_within (path : List ConditionKind) :
    (source.within path).Reads wording path source := by
  induction path with
  | nil => exact ⟨head?_chain wording _, by simp [within], by simp, rfl⟩
  | cons kind path ih =>
      have hchain : (source.within (kind :: path)).chain wording =
          (source.within (kind :: path)).message wording :: (source.within path).chain wording :=
        rfl
      refine ⟨head?_chain wording _, ?_, ?_, ?_⟩
      · rw [hchain, List.length_cons, ih.count, List.length_cons, Nat.add_right_comm]
      · intro level other next hkind hnext
        rw [hchain, List.getElem?_cons_succ] at hnext
        cases level with
        | zero =>
            obtain rfl : kind = other := by simpa using hkind
            rw [← List.head?_eq_getElem?, ih.outermost] at hnext
            rw [hchain, List.getElem?_cons_zero, ← Option.some.inj hnext]
            rfl
        | succ level =>
            rw [hchain, List.getElem?_cons_succ]
            exact ih.wrapped level other next (by simpa using hkind) hnext
      · rw [hchain, List.length_cons, List.drop_succ_cons, ih.innermost]

end ConditionError

/-- What the engine finds fault with is the text that it was given. -/
theorem Regex.compile_eq_error {text : String} {fault : Regex.Fault}
    (hfault : Regex.compile text = .error fault) :
    fault = .malformed text ∨ fault = .oversized text := by
  unfold Regex.compile at hfault
  split at hfault
  · exact .inl (Except.error.inj hfault).symm
  split at hfault
  · exact .inl (Except.error.inj hfault).symm
  split_ifs at hfault
  exact .inr (Except.error.inj hfault).symm

namespace ConditionLeaf

/-- The texts that the fault of a comparison ends in.  An unknown operator is named; of a
text that is no pattern the engine has the last word. -/
inductive Tells (wording : Regex.Wording) (leaf : ConditionLeaf) : List String → Prop where
  | operator (hunknown : leaf.operator ∉ ContentTest.operators) :
      Tells wording leaf ["content operator not recognised: " ++ leaf.operator]
  | pattern {text : String} {fault : Regex.Fault} (hpattern : leaf.patternText? = some text)
      (hfault : Regex.compile text = .error fault)
      (habout : fault = .malformed text ∨ fault = .oversized text) :
      Tells wording leaf ["invalid regular expression: " ++ wording fault, wording fault]

theorem Fails.tells {leaf : ConditionLeaf} {source : ConditionError} (hfails : leaf.Fails source)
    (wording : Regex.Wording) : leaf.Tells wording (source.chain wording) := by
  cases hfails with
  | operator hunknown => exact .operator hunknown
  | pattern hpattern hfault => exact .pattern hpattern hfault (Regex.compile_eq_error hfault)

end ConditionLeaf

/-! ## Building -/

/-- Building a condition tells whether anything is wrong with its comparisons, and what is
wrong with the first faulty one. -/
structure ConditionConfig.TellsFirstFault (config : ConditionConfig) : Prop where
  constructs : config.Constructs ↔ ∀ leaf ∈ config.leaves, leaf.Sound
  first : ∀ error, Condition.build config = .error error ↔
    ∃ earlier leaf later source, config.leaves = earlier ++ leaf :: later ∧
      (∀ other ∈ earlier, other.Sound) ∧ leaf.Fails source ∧ error = .within leaf.path source
  reads : ∀ leaf ∈ config.leaves, ∀ source, leaf.Fails source → ∀ wording,
    (ConditionError.within leaf.path source).Reads wording leaf.path source ∧
      leaf.Tells wording (source.chain wording)

theorem build_tells_first_fault (config : ConditionConfig) : config.TellsFirstFault where
  constructs := config.constructs_iff
  first error := by rw [config.build_eq_error_iff, ConditionLeaf.verdict_eq_error_iff]
  reads leaf _ _ hfails wording :=
    ⟨ConditionError.reads_within wording leaf.path, hfails.tells wording⟩

/-- Of two faulty comparisons the left one is found, although it lies deeper. -/
example :
    Condition.build (.and [.count 2, .or [.not (.content "nope" 0 "")], .content "worse" 0 ""]) =
      .error (.child .or (.child .not (.child .content (.unknownOperator "nope")))) := by
  rfl

end Intake
