/-!
# Byte strings and comparisons

Content is a list of bytes, or of characters once it has been decoded.  The
three comparisons below are the ones that a condition can ask for; each is
pinned down by the equation it stands for.
-/

namespace Intake

abbrev Bytes := List UInt8

namespace Sequence

variable {α : Type} [DecidableEq α]

/-- Whether `content` begins with `part`. -/
def startsWith : List α → List α → Bool
  | _, [] => true
  | [], _ :: _ => false
  | b :: content, p :: part => b == p && startsWith content part

/-- Whether `content` ends with `part`. -/
def endsWith (content part : List α) : Bool :=
  content.length ≥ part.length && content.drop (content.length - part.length) == part

/-- The runs of `size` neighbours, from the front.  A run of none is not asked for. -/
def windows (size : Nat) (positive : 0 < size) : List α → List (List α)
  | [] => []
  | b :: rest =>
      let window := (b :: rest).take size
      if window.length < size then [] else window :: windows size positive rest

/-- Whether `part` stands somewhere in `content`. -/
def contains (content part : List α) : Bool :=
  if h : part = [] then true
  else (windows part.length (List.length_pos_iff.mpr h) content).any (· == part)

theorem startsWith_iff {content part : List α} :
    startsWith content part = true ↔ ∃ rest, content = part ++ rest := by
  induction part generalizing content with
  | nil => simp [startsWith]
  | cons p part ih =>
      cases content with
      | nil => simp [startsWith]
      | cons b content =>
          simp only [startsWith, Bool.and_eq_true, beq_iff_eq, ih, List.cons_append,
            List.cons.injEq]
          constructor
          · rintro ⟨rfl, rest, rfl⟩
            exact ⟨rest, rfl, rfl⟩
          · rintro ⟨rest, rfl, rfl⟩
            exact ⟨rfl, rest, rfl⟩

theorem endsWith_iff {content part : List α} :
    endsWith content part = true ↔ ∃ before, content = before ++ part := by
  simp only [endsWith, Bool.and_eq_true, decide_eq_true_eq, beq_iff_eq]
  constructor
  · rintro ⟨_, h⟩
    refine ⟨content.take (content.length - part.length), ?_⟩
    have whole := List.take_append_drop (content.length - part.length) content
    rw [h] at whole
    exact whole.symm
  · rintro ⟨before, rfl⟩
    simp

section Windows

omit [DecidableEq α]

/-- A part stands at the front or behind the first item. -/
theorem exists_split_cons_iff {b : α} {rest part : List α} :
    (∃ before after, b :: rest = before ++ part ++ after) ↔
      (∃ after, b :: rest = part ++ after) ∨
        ∃ before after, rest = before ++ part ++ after := by
  constructor
  · rintro ⟨before, after, h⟩
    cases before with
    | nil => exact Or.inl ⟨after, h⟩
    | cons c before => exact Or.inr ⟨before, after, (List.cons.inj h).2⟩
  · rintro (⟨after, h⟩ | ⟨before, after, rfl⟩)
    · exact ⟨[], after, h⟩
    · exact ⟨b :: before, after, rfl⟩

/-- The windows are all the runs of their size, wherever they begin. -/
theorem mem_windows {size : Nat} {positive : 0 < size} {content window : List α} :
    window ∈ windows size positive content ↔
      window.length = size ∧ ∃ before after, content = before ++ window ++ after := by
  induction content with
  | nil =>
      simp only [windows, List.not_mem_nil, false_iff]
      rintro ⟨rfl, before, after, h⟩
      have whole := congrArg List.length h
      simp only [List.length_nil, List.length_append] at whole
      omega
  | cons b rest ih =>
      rw [windows]
      split
      · next short =>
        simp only [List.not_mem_nil, false_iff]
        rintro ⟨rfl, before, after, h⟩
        have whole := congrArg List.length h
        simp only [List.length_take, List.length_append] at short whole
        omega
      · next long =>
        have full : ((b :: rest).take size).length = size := by
          have bound := List.length_take_le size (b :: rest)
          omega
        rw [List.mem_cons, ih, exists_split_cons_iff, and_or_left]
        refine or_congr ⟨?_, ?_⟩ Iff.rfl
        · rintro rfl
          exact ⟨full, (b :: rest).drop size, (List.take_append_drop size _).symm⟩
        · rintro ⟨rfl, after, h⟩
          rw [h, List.take_left]

end Windows

theorem contains_iff {content part : List α} :
    contains content part = true ↔ ∃ before after, content = before ++ part ++ after := by
  rw [contains]
  split
  · next empty =>
    subst empty
    exact ⟨fun _ => ⟨[], content, rfl⟩, fun _ => rfl⟩
  · rw [List.any_eq_true]
    simp only [beq_iff_eq, exists_eq_right, mem_windows, true_and]

end Sequence

end Intake
