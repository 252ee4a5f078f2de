import Intake.Config.Validation
import Intake.Stage

/-!
# Faults of configured inputs

Building an input and validating its configuration look at the same things in the
same order, so they find the same fault: first whether there is an innermost
input at all, then the conditions from the inside out.  Only opening the file of
the innermost input is left to building, and it comes before all conditions.
Whatever is found is wrapped once for each input around the one that has it.
-/

namespace Intake

namespace InputConfig

/-- The inputs wrapped inside an input, the outermost first. -/
def wrapped : InputConfig → List InputConfig
  | .readUntil (some input) _ _ => input :: input.wrapped
  | _ => []

/-- The conditions around the innermost input, the outermost first. -/
def conditions : InputConfig → List ConditionConfig
  | .readUntil (some input) _ condition => condition :: input.conditions
  | _ => []

/-- The innermost input, unless it is missing. -/
def innermost? : InputConfig → Option InputConfig
  | .readUntil none _ _ => none
  | .readUntil (some input) _ _ => input.innermost?
  | input => some input

/-- The kinds of the inputs wrapped inside an input, the outermost first. -/
def wrappedKinds (input : InputConfig) : List InputKind := input.wrapped.map kind

end InputConfig

/-- An error as the inputs around it report it that wrap inputs of these kinds. -/
def InputError.within (kinds : List InputKind) (error : InputError) : InputError :=
  kinds.foldr .child error

/-- Whether a condition can be built. -/
def ConditionConfig.Constructs (condition : ConditionConfig) : Prop :=
  ∃ built, Condition.build condition = .ok built

/-- The fault that counts among all those of a configuration: that the innermost
input is missing, or else the innermost condition that cannot be built. -/
inductive InputConfig.FirstFault (input : InputConfig) : InputError → Prop where
  | missing (hmissing : input.innermost? = none) :
      FirstFault input (.within input.wrappedKinds .missingChild)
  | condition {level : Nat} {condition : ConditionConfig} {source : ConditionError}
      (hleaf : input.innermost? ≠ none) (hlevel : input.conditions[level]? = some condition)
      (hfails : Condition.build condition = .error source)
      (hinner : ∀ deeper inner, level < deeper → input.conditions[deeper]? = some inner →
        inner.Constructs) :
      FirstFault input
        (.within (input.wrappedKinds.take level) (.condition condition.kind source))

/-- What building an input in a runtime comes to: nothing to complain about, or an
error. -/
def Stage.buildVerdict (disk : Disk) (input : InputConfig) : Except InputError Unit :=
  ((Stage.build disk true input).mapError BuildFailure.error).map fun _ => ()

/-! ## Around one more input -/

section Around

variable {disk : Disk} {input : InputConfig} {restart : Bool} {condition : ConditionConfig}
  {error : InputError} {source : ConditionError}

/-- The fault of what is wrapped comes first, and then that of the condition. -/
theorem Stage.buildVerdict_readUntil :
    Stage.buildVerdict disk (.readUntil (some input) restart condition) =
      match Stage.buildVerdict disk input with
      | .error error => .error (.child input.kind error)
      | .ok () =>
          match Condition.build condition with
          | .error source => .error (.condition condition.kind source)
          | .ok _ => .ok () := by
  unfold Stage.buildVerdict
  rw [Stage.build]
  cases hbuild : Stage.build disk true input with
  | error failure => rfl
  | ok wrapped => cases hcondition : Condition.build condition <;> rfl

theorem InputConfig.FirstFault.around (hfault : input.FirstFault error) :
    (InputConfig.readUntil (some input) restart condition).FirstFault
      (.child input.kind error) := by
  cases hfault with
  | missing hmissing => exact .missing hmissing
  | @condition level _ _ hleaf hlevel hfails hinner =>
      refine @FirstFault.condition _ (level + 1) _ _ hleaf hlevel hfails ?_
      intro deeper inner hdeeper hmem
      cases deeper with
      | zero => omega
      | succ deeper => exact hinner deeper inner (by omega) hmem

theorem InputConfig.firstFault_own (hleaf : input.innermost? ≠ none)
    (hinside : ∀ inner ∈ input.conditions, inner.Constructs)
    (hfails : Condition.build condition = .error source) :
    (InputConfig.readUntil (some input) restart condition).FirstFault
      (.condition condition.kind source) := by
  refine @FirstFault.condition _ 0 _ _ hleaf rfl hfails ?_
  intro deeper inner hdeeper hmem
  cases deeper with
  | zero => omega
  | succ deeper => exact hinside inner (List.mem_of_getElem? hmem)

end Around

/-! ## What validating finds -/

theorem validate_eq_ok_iff (input : InputConfig) :
    validate input = .ok () ↔
      input.innermost? ≠ none ∧ ∀ condition ∈ input.conditions, condition.Constructs := by
  fun_induction validate input with
  | case1 => simp [InputConfig.innermost?]
  | case2 input restart condition source hinside ih =>
      have hfaulty := hinside ▸ ih
      simpa [InputConfig.innermost?, InputConfig.conditions] using fun hleaf _ => by
        simpa [hleaf] using hfaulty
  | case3 input restart condition hinside source hfails ih =>
      have hfaulty : ¬condition.Constructs := by simp [ConditionConfig.Constructs, hfails]
      simp [InputConfig.conditions, hfaulty]
  | case4 input restart condition hinside built hbuilt ih =>
      have hconstructs : condition.Constructs := ⟨built, hbuilt⟩
      have hsound := ih.mp hinside
      simpa [InputConfig.innermost?, InputConfig.conditions, hconstructs] using hsound
  | case5 input hmissing hwrapping =>
      cases input with
      | readUntil wrapped restart condition =>
          cases wrapped with
          | none => exact absurd rfl (hmissing restart condition)
          | some inner => exact absurd rfl (hwrapping inner restart condition)
      | _ => simp [InputConfig.innermost?, InputConfig.conditions]

theorem firstFault_of_validate {input : InputConfig} {error : InputError}
    (hfaulty : validate input = .error error) : input.FirstFault error := by
  fun_induction validate input generalizing error with
  | case1 =>
      obtain rfl := Except.error.inj hfaulty
      exact .missing rfl
  | case2 input restart condition source hinside ih =>
      obtain rfl := Except.error.inj hfaulty
      exact (ih hinside).around
  | case3 input restart condition hinside source hfails ih =>
      obtain rfl := Except.error.inj hfaulty
      obtain ⟨hleaf, hconstruct⟩ := (validate_eq_ok_iff input).mp hinside
      exact InputConfig.firstFault_own hleaf hconstruct hfails
  | case4 | case5 => simp at hfaulty

/-- There is only one fault that counts. -/
theorem InputConfig.FirstFault.unique {input : InputConfig} {first second : InputError}
    (hfirst : input.FirstFault first) (hsecond : input.FirstFault second) : first = second := by
  cases hfirst with
  | missing hmissing =>
      cases hsecond with
      | missing => rfl
      | condition hleaf => exact absurd hmissing hleaf
  | @condition level condition source hleaf hlevel hfails hinner =>
      cases hsecond with
      | missing hmissing => exact absurd hmissing hleaf
      | @condition other another cause _ hother hbroken hwithin =>
          -- the outer one of two failing conditions is not the innermost
          rcases Nat.lt_trichotomy level other with hless | rfl | hless
          · obtain ⟨built, hbuilt⟩ := hinner other another hless hother
            simp [hbuilt] at hbroken
          · obtain rfl := Option.some.inj (hlevel.symm.trans hother)
            obtain rfl := Except.error.inj (hfails.symm.trans hbroken)
            rfl
          · obtain ⟨built, hbuilt⟩ := hwithin level condition hless hlevel
            simp [hbuilt] at hfails

theorem validate_eq_error_iff (input : InputConfig) (error : InputError) :
    validate input = .error error ↔ input.FirstFault error := by
  refine ⟨firstFault_of_validate, fun hfault => ?_⟩
  cases hvalidate : validate input with
  | error found => rw [(firstFault_of_validate hvalidate).unique hfault]
  | ok _ =>
      obtain ⟨hleaf, hconstruct⟩ := (validate_eq_ok_iff input).mp hvalidate
      cases hfault with
      | missing hmissing => exact absurd hmissing hleaf
      | condition _ hlevel hfails =>
          obtain ⟨built, hbuilt⟩ := hconstruct _ (List.mem_of_getElem? hlevel)
          simp [hbuilt] at hfails

/-! ## What building finds -/

theorem Stage.buildVerdict_of_unopened {disk : Disk} {input : InputConfig} {path : String}
    {multipart : Bool} {error : IoError}
    (hleaf : input.innermost? = some (.file path multipart)) (hdisk : disk path = .error error) :
    Stage.buildVerdict disk input =
      .error (.within input.wrappedKinds (.unopened path error)) := by
  fun_induction InputConfig.innermost? input with
  | case1 => simp at hleaf
  | case2 input restart condition ih =>
      rw [Stage.buildVerdict_readUntil, ih hleaf]
      rfl
  | case3 input hmissing hwrapping =>
      obtain rfl := Option.some.inj hleaf
      simp only [Stage.buildVerdict, Stage.build, hdisk]
      rfl

theorem Stage.buildVerdict_eq_validate {disk : Disk} {input : InputConfig}
    (hopens : ∀ path multipart error, input.innermost? = some (.file path multipart) →
      disk path ≠ .error error) : Stage.buildVerdict disk input = validate input := by
  fun_induction validate input with
  | case1 => rfl
  | case2 input restart condition source hinside ih =>
      rw [Stage.buildVerdict_readUntil, ih hopens, hinside]
  | case3 input restart condition hinside source hfails ih =>
      rw [Stage.buildVerdict_readUntil, ih hopens, hinside, hfails]
  | case4 input restart condition hinside built hbuilt ih =>
      rw [Stage.buildVerdict_readUntil, ih hopens, hinside, hbuilt]
  | case5 input hmissing hwrapping =>
      cases input with
      | file path multipart =>
          cases hdisk : disk path with
          | error error => exact absurd hdisk (hopens path multipart error rfl)
          | ok node =>
              simp only [Stage.buildVerdict, Stage.build, hdisk]
              rfl
      | stdin | memory => rfl
      | readUntil wrapped restart condition =>
          cases wrapped with
          | none => exact absurd rfl (hmissing restart condition)
          | some inner => exact absurd rfl (hwrapping inner restart condition)

/-- How building an input and validating it agree.  Validating knows no files and
gives one verdict for all of them. -/
structure InputConfig.FaultsAgree (input : InputConfig) : Prop where
  /-- A file that cannot be opened is the fault, whatever the conditions are. -/
  unopened : ∀ (disk : Disk) path multipart error,
    input.innermost? = some (.file path multipart) → disk path = .error error →
      Stage.buildVerdict disk input =
        .error (.within input.wrappedKinds (.unopened path error))
  agrees : ∀ disk : Disk,
    (∀ path multipart error, input.innermost? = some (.file path multipart) →
      disk path ≠ .error error) →
    Stage.buildVerdict disk input = validate input
  sound : validate input = .ok () ↔
    input.innermost? ≠ none ∧ ∀ condition ∈ input.conditions, condition.Constructs
  faulty : ∀ error, validate input = .error error ↔ input.FirstFault error

theorem build_agrees_validate (input : InputConfig) : input.FaultsAgree where
  unopened _ _ _ _ := Stage.buildVerdict_of_unopened
  agrees _ := Stage.buildVerdict_eq_validate
  sound := validate_eq_ok_iff input
  faulty := validate_eq_error_iff input

/-- A file that is not there wins over the conditions, of which the inner one
counts where the file is there, for building as for validating. -/
example (found : FileNode) :
    let input : InputConfig := .readUntil
      (some (.readUntil (some (.file "a" false)) false (.content "inner" 0 ""))) true
      (.content "outer" 0 "")
    Stage.buildVerdict (fun _ => .error .notFound) input =
        .error (.child .readUntil (.child .file (.unopened "a" .notFound))) ∧
      Stage.buildVerdict (fun _ => .ok found) input =
        .error (.child .readUntil (.condition .content (.unknownOperator "inner"))) ∧
      validate input =
        .error (.child .readUntil (.condition .content (.unknownOperator "inner"))) :=
  ⟨rfl, rfl, rfl⟩

end Intake
