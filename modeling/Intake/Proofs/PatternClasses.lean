import Intake.Proofs.PatternCursor

/-!
# Reading a class of a pattern where the text goes on

A bracketed class needs its closing bracket, so it is read before a closing parenthesis just as
it is alone.  Only the look past blanks for the end of a range may see the parenthesis, and then
no class is read in either text.
-/

namespace Intake.Regex

variable {suffix : List Char}

section Classes

variable {cursor longer : Cursor}

theorem dropBlanks_dropWhile (rest : List Char) :
    dropBlanks (rest.dropWhile isBlank) = dropBlanks rest := by
  induction rest with
  | nil => rfl
  | cons c rest ih =>
      by_cases hblank : isBlank c = true
      · simpa [dropBlanks, hblank] using ih
      · simp [hblank]

theorem dropBlanks_of_blank {rest : List Char} (hblank : rest.dropWhile isBlank = []) :
    dropBlanks rest = [] := by
  rw [← dropBlanks_dropWhile, hblank, dropBlanks]

theorem dropComment_of_blank {rest : List Char} (hblank : rest.dropWhile isBlank = []) :
    dropBlanks.dropComment rest = [] := by
  induction rest with
  | nil => rfl
  | cons c rest ih =>
      have hboth : isBlank c = true ∧ rest.dropWhile isBlank = [] := by
        by_cases hc : isBlank c = true
        · simpa [hc] using hblank
        · simp [hc] at hblank
      rw [dropBlanks.dropComment]
      split
      · exact dropBlanks_of_blank hboth.2
      · exact ih hboth.2

theorem head?_dropWhile {rest : List Char} {c : Char} (hhead : rest.head? = some c)
    (hc : isBlank c = false) : (rest.dropWhile isBlank).head? = some c := by
  cases rest with
  | nil => cases hhead
  | cons d more =>
      cases hhead
      simp [hc]

theorem rest_bumpSettle_of_verbose (hverbose : cursor.verbose = true) :
    cursor.bumpSettle.rest = dropBlanks (cursor.rest.drop 1) := by
  simp [Cursor.bumpSettle, Cursor.bump, Cursor.settle, Cursor.withRest, hverbose]

/-- The character behind the blanks is looked up in the longer text as in the shorter one,
unless nothing stands there, and then what was found ends neither a class nor a range. -/
theorem peekPastBlanks_cases (hrest : cursor.rest ≠ []) (suffix : List Char) :
    (cursor.followedBy suffix).peekPastBlanks = cursor.peekPastBlanks ∨
      cursor.bumpSettle.rest = [] ∧ cursor.peekPastBlanks ≠ some ']' ∧
        cursor.peekPastBlanks ≠ some '-' := by
  have hdrop : (cursor.rest ++ suffix).drop 1 = cursor.rest.drop 1 ++ suffix := by
    obtain ⟨c, more, heq⟩ := List.exists_cons_of_ne_nil hrest
    simp [heq]
  by_cases hverbose : cursor.verbose = true
  · simp only [Cursor.peekPastBlanks, Cursor.rest_followedBy, Cursor.verbose_followedBy, hverbose,
      hdrop, if_true, rest_bumpSettle_of_verbose hverbose]
    generalize cursor.rest.drop 1 = behind
    cases hblank : behind.dropWhile isBlank with
    | nil =>
        refine .inr ⟨dropBlanks_of_blank hblank, fun hhead => ?_, fun hhead => ?_⟩
        · simpa [hblank] using head?_dropWhile hhead (by decide)
        · simpa [hblank] using head?_dropWhile hhead (by decide)
    | cons c more =>
        have happend := dropWhile_append_of_ne_nil (by rw [hblank]; simp) suffix
        rw [happend, hblank]
        by_cases hsign : c = '#'
        · subst hsign
          -- Only the sign of a comment is passed over here, so what stands behind it is looked at.
          cases hcomment : more.dropWhile isBlank with
          | nil =>
              simp only [hcomment]
              refine .inr ⟨?_, fun hhead => ?_, fun hhead => ?_⟩
              · rw [← dropBlanks_dropWhile, hblank, dropBlanks, isBlank_sign]
                simpa using dropComment_of_blank hcomment
              · simpa [hblank] using head?_dropWhile hhead (by decide)
              · simpa [hblank] using head?_dropWhile hhead (by decide)
          | cons d others =>
              left
              have hmore := dropWhile_append_of_ne_nil (by rw [hcomment]; simp) suffix
              simp [hmore, hcomment]
        · left
          simp
  · simp only [Cursor.peekPastBlanks, Cursor.rest_followedBy, Cursor.verbose_followedBy, hverbose,
      hdrop]
    have hsame : cursor.bumpSettle.rest = cursor.rest.drop 1 := by
      simp [Cursor.bumpSettle, Cursor.bump, Cursor.settle, Cursor.withRest, hverbose]
    rw [hsame]
    cases cursor.rest.drop 1 with
    | nil => exact .inr ⟨rfl, by simp, by simp⟩
    | cons c more => exact .inl rfl

/-- Whether a caret stands at the head, and what is behind it. -/
def pastCaret (rest : List Char) : Bool × List Char :=
  match rest with
  | '^' :: rest => (true, rest)
  | _ => (false, rest)

/-- What is left of a class between colons behind its caret. -/
def closedName? (opening : Bool × List Char) (cursor : Cursor) : Option (ClassTree × Cursor) :=
  let (negated, rest) := opening
  let name := rest.takeWhile (· ≠ ':')
  match rest.dropWhile (· ≠ ':') with
  | ':' :: ']' :: behind =>
      (NamedClass.ofName? (String.ofList name)).map fun cls =>
        (.named cls negated, cursor.withRest behind)
  | _ => none

theorem colonClass?_eq (cursor : Cursor) :
    colonClass? cursor =
      if cursor.rest.take 2 = ['[', ':'] then closedName? (pastCaret (cursor.rest.drop 2)) cursor
      else none := by
  unfold colonClass?
  rcases cursor.rest with _ | ⟨c, _ | ⟨d, rest⟩⟩
  · rfl
  · simp
  · by_cases hopen : c = '[' ∧ d = ':'
    · obtain ⟨rfl, rfl⟩ := hopen
      have htaken : List.take 2 ('[' :: ':' :: rest) = ['[', ':'] := rfl
      rw [if_pos htaken]
      unfold closedName? pastCaret
      rfl
    · rw [if_neg (by simpa using hopen)]
      split
      · next heq =>
        cases heq
        exact absurd ⟨rfl, rfl⟩ hopen
      · rfl

/-- What is left of a class behind its bracket and its caret: the items that stand for themselves
because they come first. -/
def openingItems (negated : Bool) (cursor : Cursor) : Bool × List ClassTree × Cursor :=
  let (items, cursor) := leadingHyphens (cursor.rest.length + 1) [] cursor
  match items, cursor.head? with
  | [], some ']' => (negated, [.literal { char := ']' }], cursor.bumpSettle)
  | _, _ => (negated, items, cursor)

theorem openingItems_eq (negated : Bool) (cursor : Cursor) {items : List ClassTree}
    {behind : Cursor}
    (hread : leadingHyphens (cursor.rest.length + 1) [] cursor = (items, behind)) :
    openingItems negated cursor =
      if items = [] ∧ behind.head? = some ']' then
        (negated, [.literal { char := ']' }], behind.bumpSettle)
      else (negated, items, behind) := by
  unfold openingItems
  simp only [hread]
  split
  · next hbracket => rw [if_pos ⟨rfl, hbracket⟩]
  · next hother =>
    rw [if_neg]
    rintro ⟨hnone, hbracket⟩
    exact hother hnone hbracket

theorem classOpening_eq (cursor : Cursor) :
    classOpening cursor =
      if cursor.bumpSettle.head? = some '^' then openingItems true cursor.bumpSettle.bumpSettle
      else openingItems false cursor.bumpSettle := by
  unfold classOpening
  by_cases hcaret : cursor.bumpSettle.head? = some '^'
  · rw [if_pos hcaret]
    simp only [hcaret]
    rfl
  · rw [if_neg hcaret]
    simp only
    rfl

section Items

variable (hclosing : Closing suffix)
include hclosing

theorem stays_classItem? (cursor : Cursor) :
    Stays suffix (classItem? cursor) (classItem? (cursor.followedBy suffix)) := by
  simp only [classItem?]
  refine ((goes_followedBy suffix cursor).classAtom? hclosing).bind
    fun low cursor longer _ hgoes => ?_
  simp only
  rcases (hgoes.settle hclosing).head_cases with hnone | ⟨d, hd, heq⟩
  · rw [hnone]
    exact stays_none
  · rw [heq, hd, Cursor.head?_followedBy hd]
    generalize cursor.settle = settled at hd
    have hrest := Cursor.rest_ne_nil hd
    have hbehind := goes_bumpSettle hclosing hrest
    simp only
    by_cases hhyphen : d = '-'
    · rcases peekPastBlanks_cases hrest suffix with hpeek | ⟨hend, hnobracket, hnohyphen⟩
      · rw [hpeek]
        split
        · cases low.item? with
          | none => exact stays_none
          | some item => exact (goes_followedBy suffix settled).stays item
        · refine (hbehind.classAtom? hclosing).bind fun high cursor longer _ hgoes => ?_
          cases low.end? with
          | none => exact stays_none
          | some low =>
              cases high.end? with
              | none => exact stays_none
              | some high =>
                  simp only [Option.bind_eq_bind, Option.bind_some]
                  split
                  · exact hgoes.stays _
                  · exact stays_none
      · -- The two texts show different characters, but the shorter one has no end of a range.
        have hempty : classAtom? settled.bumpSettle = none := by
          simp [classAtom?, Cursor.head?, hend]
        simp only [hhyphen, hnobracket, hnohyphen, hempty]
        exact stays_none
    · simp only [hhyphen, ne_eq, not_false_eq_true, decide_true, Bool.true_or, if_true]
      cases low.item? with
      | none => exact stays_none
      | some item => exact (goes_followedBy suffix settled).stays item

theorem closedName?_append (negated : Bool) (rest : List Char) (cursor : Cursor) :
    closedName? (negated, rest ++ suffix) (cursor.followedBy suffix) =
      (closedName? (negated, rest) cursor).map fun read =>
        (read.1, read.2.followedBy suffix) := by
  simp only [closedName?]
  cases hdrop : rest.dropWhile (· ≠ ':') with
  | nil =>
      have hnone : (rest ++ suffix).dropWhile (· ≠ ':') = [] := by
        rw [List.dropWhile_append, hdrop]
        simpa using hclosing.ne_colon
      rw [hnone]
      rfl
  | cons c more =>
      have hsome : rest.dropWhile (· ≠ ':') ≠ [] := by
        rw [hdrop]
        simp
      rw [dropWhile_append_of_ne_nil hsome, takeWhile_append_of_ne_nil hsome, hdrop,
        List.cons_append]
      obtain ⟨others, rfl⟩ := hclosing.exists_cons
      cases more with
      | nil => simp
      | cons d more =>
          simp only [List.cons_append]
          split
          · next heq =>
            cases heq
            cases NamedClass.ofName? (String.ofList (rest.takeWhile (· ≠ ':'))) with
            | none => rfl
            | some cls => rfl
          · next hother =>
            split
            · next heq =>
              cases heq
              exact absurd rfl (hother _)
            · rfl

theorem pastCaret_append (rest : List Char) :
    pastCaret (rest ++ suffix) = ((pastCaret rest).1, (pastCaret rest).2 ++ suffix) := by
  obtain ⟨others, rfl⟩ := hclosing.exists_cons
  cases rest with
  | nil => rfl
  | cons c rest =>
      by_cases hcaret : c = '^'
      · subst hcaret
        rfl
      · simp [pastCaret, hcaret]

/-- A class between colons has its end in the text, or the longer text has none either. -/
theorem colonClass?_followedBy (cursor : Cursor) :
    colonClass? (cursor.followedBy suffix) =
      (colonClass? cursor).map fun read => (read.1, read.2.followedBy suffix) := by
  obtain ⟨others, hothers⟩ := hclosing.exists_cons
  rw [colonClass?_eq, colonClass?_eq, Cursor.rest_followedBy]
  rcases cursor.rest with _ | ⟨c, _ | ⟨d, rest⟩⟩
  · simp [hothers]
  · simp [hothers]
  · simp only [List.cons_append, List.take_succ_cons, List.take_zero, List.drop_succ_cons,
      List.drop_zero]
    split
    · rw [pastCaret_append hclosing]
      exact closedName?_append hclosing _ _ cursor
    · rfl

omit hclosing in
theorem leadingHyphens_of_head_ne (hhead : cursor.head? ≠ some '-') (fuel : Nat)
    (items : List ClassTree) : leadingHyphens fuel items cursor = (items, cursor) := by
  cases fuel with
  | zero => rfl
  | succ fuel =>
      rw [leadingHyphens]
      split
      · contradiction
      · rfl

theorem Goes.leadingHyphens (hgoes : Goes suffix cursor longer) {fuel more : Nat}
    (hfuel : cursor.rest.length < fuel) (hmore : fuel ≤ more) (items : List ClassTree) :
    ∃ other, leadingHyphens more items longer =
        ((Regex.leadingHyphens fuel items cursor).1, other) ∧
      Goes suffix (Regex.leadingHyphens fuel items cursor).2 other := by
  induction fuel generalizing more items cursor longer with
  | zero => omega
  | succ fuel ih =>
      obtain ⟨more, rfl⟩ : ∃ n, more = n + 1 := ⟨more - 1, by omega⟩
      by_cases hhead : cursor.head? = some '-'
      · obtain rfl : longer = cursor.followedBy suffix := by
          rcases hgoes.head_cases with hnone | ⟨c, -, heq⟩
          · rw [hnone] at hhead
            cases hhead
          · exact heq
        have hrest := Cursor.rest_ne_nil hhead
        have hshorter := Cursor.length_bumpSettle_lt hrest
        simp only [Regex.leadingHyphens, hhead, Cursor.head?_followedBy hhead]
        exact ih (goes_bumpSettle hclosing hrest) (by omega) (by omega) _
      · have hlonger : longer.head? ≠ some '-' := by
          rcases hgoes with rfl | ⟨-, rfl⟩
          · exact head?_followedBy_ne hclosing hhead (by decide)
          · exact hhead
        rw [leadingHyphens_of_head_ne hhead, leadingHyphens_of_head_ne hlonger]
        exact ⟨longer, rfl, hgoes⟩

theorem Goes.openingItems (hgoes : Goes suffix cursor longer) (negated : Bool) :
    ∃ other, Regex.openingItems negated longer =
        ((Regex.openingItems negated cursor).1, (Regex.openingItems negated cursor).2.1, other) ∧
      Goes suffix (Regex.openingItems negated cursor).2.2 other := by
  obtain ⟨other, hlonger, hbehind⟩ := hgoes.leadingHyphens hclosing (Nat.lt_succ_self _)
    (Nat.succ_le_succ hgoes.length_le) []
  obtain ⟨⟨items, behind⟩, hread⟩ : ∃ read,
      Regex.leadingHyphens (cursor.rest.length + 1) [] cursor = read := ⟨_, rfl⟩
  rw [hread] at hlonger hbehind
  rw [openingItems_eq negated cursor hread, openingItems_eq negated longer hlonger]
  by_cases hbracket : behind.head? = some ']'
  · obtain rfl := hbehind.eq_of_head hbracket
    simp only [Cursor.head?_followedBy hbracket, hbracket]
    split
    · exact ⟨_, rfl, goes_bumpSettle hclosing (Cursor.rest_ne_nil hbracket)⟩
    · exact ⟨_, rfl, hbehind⟩
  · have hnobracket := hbehind.head?_ne hclosing hbracket (by decide)
    simp only [hbracket, hnobracket, and_false, if_false]
    exact ⟨other, rfl, hbehind⟩

theorem goes_classOpening {c : Char} (hhead : cursor.head? = some c) :
    ∃ other, classOpening (cursor.followedBy suffix) =
        ((classOpening cursor).1, (classOpening cursor).2.1, other) ∧
      Goes suffix (classOpening cursor).2.2 other := by
  have hinside := goes_bumpSettle hclosing (Cursor.rest_ne_nil hhead)
  rw [classOpening_eq, classOpening_eq]
  by_cases hcaret : cursor.bumpSettle.head? = some '^'
  · have heq := hinside.eq_of_head hcaret
    rw [if_pos hcaret, heq, Cursor.head?_followedBy hcaret, if_pos rfl]
    have hbehind := goes_bumpSettle hclosing (Cursor.rest_ne_nil hcaret)
    exact hbehind.openingItems hclosing true
  · have hnocaret : (cursor.followedBy suffix).bumpSettle.head? ≠ some '^' :=
      hinside.head?_ne hclosing hcaret (by decide)
    rw [if_neg hcaret, if_neg hnocaret]
    exact hinside.openingItems hclosing false

/-- Whether a rest is neither the end of a class nor one of its operators nor a class within
it. -/
def StartsItem (c : Char) (more : List Char) : Prop :=
  c ≠ '[' ∧ c ≠ ']' ∧ (c = '&' ∨ c = '-' ∨ c = '~' → more.head? ≠ some c)

theorem StartsItem.append {c : Char} {more : List Char} (hitem : StartsItem c more) :
    StartsItem c (more ++ suffix) := by
  obtain ⟨hopen, hclose, hdouble⟩ := hitem
  refine ⟨hopen, hclose, fun hop hhead => ?_⟩
  cases more with
  | nil =>
      rw [List.nil_append, hclosing.head, Option.some.injEq] at hhead
      subst hhead
      simp at hop
  | cons d more => exact hdouble hop hhead

omit hclosing in
theorem classRest?_item {fuel : Nat} {negated : Bool} {left : Option (ClassTree × SetOp)}
    {items : List ClassTree} {c : Char} {more : List Char}
    (hrest : cursor.settle.rest = c :: more) (hitem : StartsItem c more) :
    classRest? (fuel + 1) negated left items cursor =
      (classItem? cursor.settle) >>= fun read =>
        classRest? fuel negated left (read.1 :: items) read.2 := by
  obtain ⟨hopen, hclose, hdouble⟩ := hitem
  rw [classRest?]
  simp only [hrest]
  split
  all_goals simp_all

theorem Goes.classRest? (hgoes : Goes suffix cursor longer) {fuel more : Nat}
    (hfuel : fuel ≤ more) (negated : Bool) (left : Option (ClassTree × SetOp))
    (items : List ClassTree) :
    Stays suffix (classRest? fuel negated left items cursor)
      (classRest? more negated left items longer) := by
  induction fuel generalizing more negated left items cursor longer with
  | zero => exact stays_none
  | succ fuel ih =>
      obtain ⟨more, rfl⟩ : ∃ n, more = n + 1 := ⟨more - 1, by omega⟩
      have hless : fuel ≤ more := Nat.le_of_succ_le_succ hfuel
      have hsettled := hgoes.settle hclosing
      rcases hrest : cursor.settle.rest with _ | ⟨c, behind⟩
      · have hnone : Regex.classRest? (fuel + 1) negated left items cursor = none := by
          simp [Regex.classRest?, hrest]
        rw [hnone]
        exact stays_none
      · have hhead : cursor.settle.head? = some c := by simp [Cursor.head?, hrest]
        have heq := hsettled.eq_of_head hhead
        have hlonger : longer.settle.rest = c :: (behind ++ suffix) := by simp [heq, hrest]
        by_cases hopen : c = '['
        · subst hopen
          rw [Regex.classRest?, Regex.classRest?]
          simp only [heq, Cursor.rest_followedBy, hrest, List.cons_append,
            colonClass?_followedBy hclosing]
          cases colonClass? cursor.settle with
          | some read => exact ih (goes_followedBy suffix read.2) hless _ _ _
          | none =>
              obtain ⟨inner, hopening, hinner⟩ := goes_classOpening hclosing hhead
              simp only [Option.map_none, hopening]
              exact (ih hinner hless _ _ _).bind fun item cursor longer _ hgoes =>
                ih hgoes hless _ _ _
        · by_cases hclose : c = ']'
          · subst hclose
            rw [Regex.classRest?, Regex.classRest?]
            simp only [heq, Cursor.rest_followedBy, hrest, List.cons_append]
            exact (goes_followedBy suffix (cursor.settle.withRest behind)).stays _
          · by_cases hdouble : (c = '&' ∨ c = '-' ∨ c = '~') ∧ behind.head? = some c
            · obtain ⟨hop, hsecond⟩ := hdouble
              obtain ⟨more', rfl⟩ : ∃ more, behind = c :: more := by
                cases behind with
                | nil => cases hsecond
                | cons d more =>
                    cases hsecond
                    exact ⟨more, rfl⟩
              have hbehind := goes_followedBy suffix (cursor.settle.withRest more')
              rw [Regex.classRest?, Regex.classRest?]
              rcases hop with rfl | rfl | rfl
              all_goals
                simp only [heq, Cursor.rest_followedBy, hrest, List.cons_append]
                exact ih hbehind hless _ _ _
            · have hitem : StartsItem c behind := ⟨hopen, hclose, fun h h' => hdouble ⟨h, h'⟩⟩
              rw [classRest?_item hrest hitem, classRest?_item hlonger (hitem.append hclosing), heq]
              exact (stays_classItem? hclosing _).bind fun item cursor longer _ hgoes =>
                ih hgoes hless _ _ _

theorem stays_class? {c : Char} (hhead : cursor.head? = some c) :
    Stays suffix (class? cursor) (class? (cursor.followedBy suffix)) := by
  obtain ⟨inner, hopening, hinner⟩ := goes_classOpening hclosing hhead
  simp only [class?, hopening]
  have hfuel : 2 * (classOpening cursor).2.2.rest.length + 2 ≤ 2 * inner.rest.length + 2 :=
    Nat.add_le_add_right (Nat.mul_le_mul_left 2 hinner.length_le) 2
  exact hinner.classRest? hclosing hfuel _ _ _

end Items

end Classes

end Intake.Regex
