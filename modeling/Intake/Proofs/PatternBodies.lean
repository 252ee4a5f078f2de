import Intake.Proofs.PatternClasses

/-!
# Reading a pattern where the text goes on

One turn of the reader takes an operator, a group, a class or an atom.  Every turn stays as it
is before a closing parenthesis, and so does the body of a group, down to the parenthesis.
-/

namespace Intake.Regex

variable {suffix : List Char}

/-! ## Groups and repetitions -/

section Groups

variable {cursor longer : Cursor}

theorem dropReluctant_of_head_ne (hmark : cursor.head? ≠ some '?') :
    dropReluctant cursor = cursor := by
  unfold dropReluctant
  split
  · next rest hrest => exact absurd (by simp [Cursor.head?, hrest]) hmark
  · rfl

/-- The end of a counted repetition. -/
def closedBounds? (least : Nat) (most : Option Nat) (cursor : Cursor) :
    Option (Nat × Option Nat × Cursor) :=
  match cursor.rest with
  | '\x7d' :: _ => some (least, most, dropReluctant cursor.bumpSettle)
  | _ => none

theorem closedBounds?_eq (least : Nat) (most : Option Nat) (cursor : Cursor) :
    closedBounds? least most cursor =
      if cursor.head? = some '\x7d' then some (least, most, dropReluctant cursor.bumpSettle)
      else none := by
  unfold closedBounds? Cursor.head?
  rcases cursor.rest with _ | ⟨c, rest⟩
  · rfl
  · by_cases hbrace : c = '\x7d'
    · subst hbrace
      simp
    · simp [hbrace]

theorem flags?_append {minus afterMinus : Bool} {taken changes : FlagChanges}
    {given rest : List Char} (hread : flags? minus afterMinus taken given = some (changes, rest))
    (suffix : List Char) :
    flags? minus afterMinus taken (given ++ suffix) = some (changes, rest ++ suffix) := by
  induction given generalizing minus afterMinus taken with
  | nil => simp [flags?] at hread
  | cons c given ih =>
      rw [List.cons_append, flags?]
      rw [flags?] at hread
      split at hread
      · next hend =>
        rw [if_pos hend]
        split at hread
        · cases hread
        · next hafter =>
          cases hread
          simp [hafter]
      · next hend =>
        rw [if_neg hend]
        split at hread
        · next hhyphen =>
          rw [if_pos hhyphen]
          split at hread
          · cases hread
          · next hminus =>
            rw [if_neg hminus]
            exact ih hread
        · next hhyphen =>
          rw [if_neg hhyphen]
          split at hread
          · cases hread
          · next flag hflag =>
            split at hread
            · cases hread
            · next htaken =>
              rw [if_neg htaken]
              exact ih hread

theorem groupName?_followedBy {named : Cursor} (hread : groupName? cursor = some named)
    (suffix : List Char) :
    groupName? (cursor.followedBy suffix) = some (named.followedBy suffix) := by
  unfold groupName? at hread
  simp only at hread
  split at hread
  · next rest hdrop =>
    split at hread
    · next hname =>
      cases hread
      have hsome : cursor.rest.dropWhile (· ≠ '>') ≠ [] := by
        rw [hdrop]
        simp
      have hdrop' := dropWhile_append_of_ne_nil hsome suffix
      have htake' := takeWhile_append_of_ne_nil hsome suffix
      rw [hdrop, List.cons_append] at hdrop'
      simp only [groupName?, Cursor.rest_followedBy, Cursor.names_followedBy, hdrop', htake']
      rw [if_pos hname]
      rfl
    · cases hread
  · cases hread

/-- A group with a name, the cursor before the name. -/
def namedOpening? (cursor : Cursor) : Option (Opening × Cursor) :=
  (groupName? cursor).map fun behind => (.group [], behind)

/-- Flags for a group or for the rest of one, the cursor on the mark and the flags given. -/
def flaggedOpening? (inside : Cursor) (mark : List Char) : Option (Opening × Cursor) := do
  let (changes, rest) ← flags? false false [] mark
  match rest with
  | ')' :: rest => if changes.isEmpty then none else some (.flags changes, inside.withRest rest)
  | _ :: rest => some (.group changes, inside.withRest rest)
  | [] => none

/-- Whether a text asks to look ahead or back, which no pattern may. -/
def looks (text : List Char) : Bool := text.head? = some '=' || text.head? = some '!'

/-- What an opening parenthesis begins where a question mark stands behind it, the cursor on
the mark and the text behind it given. -/
def markedOpening? (inside : Cursor) (mark : List Char) : Option (Opening × Cursor) :=
  if looks mark then none
  else if mark.head? = some '<' then
    if looks (mark.drop 1) then none else namedOpening? (inside.withRest (mark.drop 1))
  else if mark.take 2 = ['P', '<'] then namedOpening? (inside.withRest (mark.drop 2))
  else flaggedOpening? inside mark

theorem not_looks {text : List Char} (hequal : ∀ tail, text = '=' :: tail → False)
    (hbang : ∀ tail, text = '!' :: tail → False) : ¬ looks text = true := by
  cases text with
  | nil => exact Bool.false_ne_true
  | cons c tail =>
      simp only [looks, List.head?_cons, Option.some.injEq, Bool.or_eq_true, decide_eq_true_eq]
      rintro (rfl | rfl)
      · exact hequal tail rfl
      · exact hbang tail rfl

theorem opening?_eq (cursor : Cursor) :
    opening? cursor =
      if cursor.bumpSettle.head? = some '?' then
        markedOpening? cursor.bumpSettle (cursor.bumpSettle.rest.drop 1)
      else some (.group [], cursor.bumpSettle) := by
  unfold opening?
  generalize cursor.bumpSettle = inside
  rcases hrest : inside.rest with _ | ⟨c, mark⟩
  · simp [Cursor.head?, hrest]
  by_cases hmark : c = '?'
  · subst hmark
    simp only [hrest, Cursor.head?, List.head?_cons, if_true, List.drop_succ_cons, List.drop_zero]
    split
    · next heq =>
      cases heq
      rfl
    · next heq =>
      cases heq
      rfl
    · next heq =>
      cases heq
      rfl
    · next heq =>
      cases heq
      rfl
    · next heq =>
      cases heq
      rfl
    · next rest hequal hbang heq =>
      cases heq
      have hlooks : ¬ looks ('<' :: rest) = true := Bool.false_ne_true
      rw [markedOpening?, if_neg hlooks, List.head?_cons, if_pos rfl, List.drop_succ_cons,
        List.drop_zero, if_neg (not_looks hequal hbang)]
      rfl
    · next rest hequal hbang _ _ hcapital hname heq =>
      cases heq
      have hnoname : ¬ mark.head? = some '<' := by
        rw [List.head?_eq_some_iff]
        rintro ⟨tail, rfl⟩
        exact hname tail rfl
      have hnocapital : ¬ mark.take 2 = ['P', '<'] := by
        intro htake
        have happend := List.take_append_drop 2 mark
        rw [htake] at happend
        exact hcapital _ happend.symm
      rw [markedOpening?, if_neg (not_looks hequal hbang), if_neg hnoname, if_neg hnocapital]
      rfl
    · next hother => exact absurd rfl (hother mark)
  · simp [Cursor.head?, hrest, hmark]

theorem stays_namedOpening? (cursor : Cursor) :
    Stays suffix (namedOpening? cursor) (namedOpening? (cursor.followedBy suffix)) := by
  unfold namedOpening?
  cases hread : groupName? cursor with
  | none => exact stays_none
  | some named =>
      rw [groupName?_followedBy hread suffix]
      exact (goes_followedBy suffix named).stays _

theorem stays_flaggedOpening? (suffix : List Char) (inside : Cursor) (mark : List Char) :
    Stays suffix (flaggedOpening? inside mark)
      (flaggedOpening? (inside.followedBy suffix) (mark ++ suffix)) := by
  unfold flaggedOpening?
  cases hread : flags? false false [] mark with
  | none => exact stays_none
  | some read =>
      rw [flags?_append hread suffix]
      simp only [Option.bind_eq_bind, Option.bind_some]
      cases read.2 with
      | nil => exact stays_none
      | cons c rest =>
          have hbehind := goes_followedBy suffix (inside.withRest rest)
          simp only [List.cons_append]
          by_cases hclose : c = ')'
          · subst hclose
            simp only
            cases List.isEmpty read.1 with
            | true => exact stays_none
            | false => exact hbehind.stays _
          · simp only
            exact hbehind.stays _

variable (hclosing : Closing suffix)
include hclosing

theorem stays_markedOpening? (inside : Cursor) (mark : List Char) :
    Stays suffix (markedOpening? inside mark)
      (markedOpening? (inside.followedBy suffix) (mark ++ suffix)) := by
  have hflagged := stays_flaggedOpening? suffix inside mark
  have hlooks : ∀ c (rest : List Char), looks (c :: (rest ++ suffix)) = looks (c :: rest) :=
    fun _ _ => rfl
  obtain ⟨others, hothers⟩ := hclosing.exists_cons
  unfold markedOpening?
  rcases mark with _ | ⟨c, mark⟩
  · exact stays_none
  simp only [List.cons_append, hlooks, List.head?_cons, List.drop_succ_cons, List.drop_zero]
  by_cases hlook : looks (c :: mark) = true
  · simp only [if_pos hlook]
    exact stays_none
  simp only [if_neg hlook]
  by_cases hname : some c = some '<'
  · simp only [if_pos hname]
    rcases mark with _ | ⟨d, mark⟩
    · exact stays_none
    simp only [List.cons_append, hlooks]
    by_cases hbehind : looks (d :: mark) = true
    · simp only [if_pos hbehind]
      exact stays_none
    · simp only [if_neg hbehind]
      exact stays_namedOpening? (inside.withRest (d :: mark))
  simp only [if_neg hname]
  rcases mark with _ | ⟨d, mark⟩
  · simpa [hothers] using hflagged
  simp only [List.cons_append, List.take_succ_cons, List.take_zero, List.drop_succ_cons,
    List.drop_zero]
  by_cases hcapital : [c, d] = ['P', '<']
  · simp only [if_pos hcapital]
    exact stays_namedOpening? (inside.withRest mark)
  · simp only [if_neg hcapital]
    exact hflagged

theorem stays_opening? {c : Char} (hhead : cursor.head? = some c) :
    Stays suffix (opening? cursor) (opening? (cursor.followedBy suffix)) := by
  have hinside := goes_bumpSettle hclosing (Cursor.rest_ne_nil hhead)
  rw [opening?_eq, opening?_eq]
  by_cases hmark : cursor.bumpSettle.head? = some '?'
  · obtain ⟨rest, hrest⟩ := Cursor.exists_rest hmark
    rw [if_pos hmark, hinside.eq_of_head hmark, Cursor.head?_followedBy hmark, if_pos rfl,
      Cursor.rest_followedBy, hrest]
    exact stays_markedOpening? hclosing _ rest
  · rw [if_neg hmark, if_neg (hinside.head?_ne hclosing hmark (by decide))]
    exact hinside.stays _

theorem Goes.decimal? (hgoes : Goes suffix cursor longer) {fuel more : Nat}
    (hfuel : cursor.rest.length < fuel) (hmore : fuel ≤ more) (taken : Option Nat) :
    ∃ other, decimal? more taken longer = ((Regex.decimal? fuel taken cursor).1, other) ∧
      Goes suffix (Regex.decimal? fuel taken cursor).2 other := by
  induction fuel generalizing more taken cursor longer with
  | zero => omega
  | succ fuel ih =>
      obtain ⟨more, rfl⟩ : ∃ n, more = n + 1 := ⟨more - 1, by omega⟩
      rw [Regex.decimal?, Regex.decimal?]
      rcases hgoes.head_cases with hnone | ⟨c, hhead, rfl⟩
      · rw [hnone]
        rcases hgoes.head?_of_none hclosing hnone with hend | hend
        · simp only [hend]
          exact ⟨longer, rfl, hgoes⟩
        · simp only [hend]
          exact ⟨longer, rfl, hgoes⟩
      · rw [hhead, Cursor.head?_followedBy hhead]
        have hrest := Cursor.rest_ne_nil hhead
        have hshorter := Cursor.length_bumpSettle_lt hrest
        simp only
        split
        · exact ih (goes_bumpSettle hclosing hrest) (by omega) (by omega) _
        · exact ⟨_, rfl, hgoes⟩

theorem Goes.passBlanks (hgoes : Goes suffix cursor longer) :
    Goes suffix (cursor.withRest (cursor.rest.dropWhile isBlank))
      (longer.withRest (longer.rest.dropWhile isBlank)) := by
  rcases hgoes with rfl | ⟨hrest, rfl⟩
  · left
    have hsuffix : suffix.dropWhile isBlank = suffix := by
      obtain ⟨others, rfl⟩ := hclosing.exists_cons
      simp [isBlank_close]
    have hdrop : (cursor.rest ++ suffix).dropWhile isBlank =
        cursor.rest.dropWhile isBlank ++ suffix := by
      rw [List.dropWhile_append, hsuffix]
      split
      · next hempty => simp [List.isEmpty_iff.mp hempty]
      · rfl
    simp [Cursor.followedBy, Cursor.withRest, hdrop]
  · right
    simp [Cursor.withRest, hrest]

theorem Goes.blank_head (hgoes : Goes suffix cursor longer) :
    (longer.head?.map isBlank).getD false = (cursor.head?.map isBlank).getD false := by
  rcases hgoes.head_cases with hnone | ⟨c, hhead, rfl⟩
  · rcases hgoes.head?_of_none hclosing hnone with hend | hend
    · rw [hnone, hend]
    · rw [hnone, hend]
      exact isBlank_close
  · rw [hhead, Cursor.head?_followedBy hhead]

theorem Goes.count? (hgoes : Goes suffix cursor longer) :
    Stays suffix (count? cursor) (count? longer) := by
  have hpassed := hgoes.passBlanks hclosing
  obtain ⟨other, hread, hbehind⟩ := hpassed.decimal? hclosing (Nat.lt_succ_self _)
    (Nat.succ_le_succ hpassed.length_le) none
  unfold Regex.count?
  simp only [Nat.succ_eq_add_one] at hread hbehind
  simp only [hread]
  generalize Regex.decimal? _ none (cursor.withRest (cursor.rest.dropWhile isBlank)) = read
    at hbehind
  cases read.1 with
  | none => exact stays_none
  | some value =>
      simp only [Option.bind_eq_bind, Option.bind_some, hbehind.blank_head hclosing]
      split
      · split
        · exact ((hbehind.passBlanks hclosing).settle hclosing).stays value
        · exact hbehind.stays value
      · exact stays_none

theorem Goes.dropReluctant (hgoes : Goes suffix cursor longer) :
    Goes suffix (dropReluctant cursor) (dropReluctant longer) := by
  by_cases hmark : cursor.head? = some '?'
  · obtain ⟨rest, hrest⟩ := Cursor.exists_rest hmark
    obtain rfl := hgoes.eq_of_head hmark
    simp only [Regex.dropReluctant, Cursor.rest_followedBy, hrest, List.cons_append]
    exact goes_followedBy suffix (cursor.withRest rest)
  · rwa [dropReluctant_of_head_ne hmark,
      dropReluctant_of_head_ne (hgoes.head?_ne hclosing hmark (by decide))]

omit hclosing in
theorem bounds?_eq (cursor : Cursor) :
    bounds? cursor = (Regex.count? cursor.bumpSettle).bind fun read =>
      if read.2.head? = some ',' then
        if read.2.bumpSettle.head? = none then none
        else if read.2.bumpSettle.head? = some '\x7d' then
          closedBounds? read.1 none read.2.bumpSettle
        else (Regex.count? read.2.bumpSettle).bind fun most =>
          if read.1 ≤ most.1 then closedBounds? read.1 (some most.1) most.2 else none
      else closedBounds? read.1 (some read.1) read.2 := by
  unfold bounds?
  refine congrArg (Option.bind _) (funext fun read => ?_)
  obtain ⟨least, behind⟩ := read
  simp only
  by_cases hcomma : behind.head? = some ','
  · obtain ⟨rest, hrest⟩ := Cursor.exists_rest hcomma
    rw [if_pos hcomma, hrest]
    simp only
    generalize behind.bumpSettle = inside
    cases hinside : inside.rest with
    | nil => simp [Cursor.head?, hinside]
    | cons c more =>
        have hhead : inside.head? = some c := by simp [Cursor.head?, hinside]
        by_cases hbrace : c = '\x7d'
        · subst hbrace
          simp [hhead, closedBounds?_eq]
        · have hother : some c ≠ some '\x7d' := by simpa using hbrace
          simp only [hhead, if_neg hother, reduceCtorEq, if_false]
          split
          · next heq => cases heq
          · next heq =>
            cases heq
            exact absurd rfl hbrace
          · refine congrArg (Option.bind _) (funext fun most => ?_)
            by_cases hordered : least ≤ most.1
            · simp only [hordered, if_true]
              rfl
            · simp only [hordered, if_false]
  · rw [if_neg hcomma]
    split
    · next rest hrest => exact absurd (by simp [Cursor.head?, hrest]) hcomma
    · rfl

theorem Goes.closedBounds? (hgoes : Goes suffix cursor longer) (least : Nat) (most : Option Nat)
    {result : Nat × Option Nat × Cursor} (hread : closedBounds? least most cursor = some result) :
    ∃ other, Regex.closedBounds? least most longer = some (result.1, result.2.1, other) ∧
      Goes suffix result.2.2 other := by
  rw [closedBounds?_eq] at hread ⊢
  split at hread
  · next hbrace =>
    cases hread
    obtain rfl := hgoes.eq_of_head hbrace
    rw [if_pos (Cursor.head?_followedBy hbrace suffix)]
    exact ⟨_, rfl, (goes_bumpSettle hclosing (Cursor.rest_ne_nil hbrace)).dropReluctant hclosing⟩
  · cases hread

theorem exists_bounds? {c : Char} (hhead : cursor.head? = some c)
    {result : Nat × Option Nat × Cursor} (hread : bounds? cursor = some result) :
    ∃ other, bounds? (cursor.followedBy suffix) = some (result.1, result.2.1, other) ∧
      Goes suffix result.2.2 other := by
  rw [bounds?_eq] at hread ⊢
  obtain ⟨⟨least, behind⟩, hcount, hread⟩ := Option.bind_eq_some_iff.mp hread
  obtain ⟨other, hother, hgoes⟩ :=
    (goes_bumpSettle hclosing (Cursor.rest_ne_nil hhead)).count? hclosing least behind hcount
  simp only [hother, Option.bind_some] at hread ⊢
  by_cases hcomma : behind.head? = some ','
  · obtain rfl := hgoes.eq_of_head hcomma
    rw [if_pos hcomma] at hread
    rw [if_pos (Cursor.head?_followedBy hcomma suffix)]
    have hinside := goes_bumpSettle hclosing (Cursor.rest_ne_nil hcomma)
    rcases hinside.head_cases with hnone | ⟨d, hd, heq⟩
    · rw [if_pos hnone] at hread
      cases hread
    · have hsome : behind.bumpSettle.head? ≠ none := by simp [hd]
      rw [heq, Cursor.head?_followedBy hd, if_neg (by simp)]
      rw [if_neg hsome, hd] at hread
      split at hread
      · next hbrace =>
        rw [if_pos hbrace]
        exact (goes_followedBy suffix _).closedBounds? hclosing least none hread
      · next hbrace =>
        rw [if_neg hbrace]
        obtain ⟨⟨most, last⟩, hmost, hread⟩ := Option.bind_eq_some_iff.mp hread
        obtain ⟨final, hfinal, hlast⟩ :=
          (goes_followedBy suffix _).count? hclosing most last hmost
        rw [hfinal, Option.bind_some]
        simp only at hread ⊢
        split at hread
        · next hordered =>
          rw [if_pos hordered]
          exact hlast.closedBounds? hclosing least (some most) hread
        · cases hread
  · rw [if_neg hcomma] at hread
    rw [if_neg (hgoes.head?_ne hclosing hcomma (by decide))]
    exact hgoes.closedBounds? hclosing least (some least) hread

end Groups

/-! ## Bodies of groups -/

section Bodies

variable {cursor longer : Cursor}

/-- The cursor under the flags that a group or the rest of one is given. -/
def Cursor.under (changes : FlagChanges) (cursor : Cursor) : Cursor :=
  { cursor with verbose := (changes.value? .verbose).getD cursor.verbose }

theorem Goes.under (hgoes : Goes suffix cursor longer) (changes : FlagChanges) :
    Goes suffix (cursor.under changes) (longer.under changes) := by
  rcases hgoes with rfl | ⟨hrest, rfl⟩
  · exact .inl rfl
  · exact .inr ⟨hrest, rfl⟩

/-- One turn of reading a body, the cursor on a character that does not end it: the branches,
the items of the last branch, and the cursor behind what was read. -/
def turn? (readGroup? : Cursor → Option (Tree × Cursor)) (branches items : List Tree)
    (cursor : Cursor) (c : Char) : Option ((List Tree × List Tree) × Cursor) :=
  match c with
  | '|' => some ((Tree.ofItems items.reverse :: branches, []), cursor.bump)
  | '(' => do
      let (opening, inside) ← opening? cursor
      match opening with
      | .flags changes => some ((branches, .flags changes :: items), inside.under changes)
      | .group changes => do
          let (inner, behind) ← readGroup? (inside.under changes)
          match behind.rest with
          | ')' :: rest =>
              some ((branches, .group changes inner :: items),
                { behind with rest, verbose := cursor.verbose })
          | _ => none
  | '[' => do
      let (cls, cursor) ← class? cursor
      match cls with
      | .bracketed negated inner => some ((branches, .bracketed negated inner :: items), cursor)
      | _ => none
  | '?' => (repeatNewest? items 0 (some 1)).map fun items =>
      ((branches, items), dropReluctant cursor.bump)
  | '*' => (repeatNewest? items 0 none).map fun items =>
      ((branches, items), dropReluctant cursor.bump)
  | '+' => (repeatNewest? items 1 none).map fun items =>
      ((branches, items), dropReluctant cursor.bump)
  | '\x7b' => do
      let (least, most, cursor) ← bounds? cursor
      (repeatNewest? items least most).map fun items => ((branches, items), cursor)
  | _ => (atom? cursor).map fun read => ((branches, read.1.tree :: items), read.2)

/-- The tree of the branches so far and the items of the last one. -/
def closeBody (branches items : List Tree) : Tree :=
  Tree.ofBranches (Tree.ofItems items.reverse :: branches).reverse

theorem body?_end {fuel : Nat} (branches items : List Tree)
    (hend : cursor.settle.head? = none ∨ cursor.settle.head? = some ')') :
    body? (fuel + 1) branches items cursor = some (closeBody branches items, cursor.settle) := by
  rw [body?]
  rcases hend with hend | hend
  · have hrest : cursor.settle.rest = [] := List.head?_eq_none_iff.mp hend
    simp only [hrest, closeBody]
  · obtain ⟨rest, hrest⟩ := Cursor.exists_rest hend
    simp only [hrest, closeBody]

theorem body?_turn {fuel : Nat} {branches items : List Tree} {c : Char}
    (hhead : cursor.settle.head? = some c) (hclose : c ≠ ')') :
    body? (fuel + 1) branches items cursor =
      (turn? (body? fuel [] []) branches items cursor.settle c).bind fun read =>
        body? fuel read.1.1 read.1.2 read.2 := by
  obtain ⟨rest, hrest⟩ := Cursor.exists_rest hhead
  rw [body?]
  simp only [hrest]
  unfold turn?
  split
  · contradiction
  · next heq =>
    cases heq
    exact absurd rfl hclose
  · next heq =>
    cases heq
    rfl
  · next heq =>
    cases heq
    cases opening? cursor.settle with
    | none => rfl
    | some read =>
        obtain ⟨opening, inside⟩ := read
        cases opening with
        | flags changes => rfl
        | group changes =>
            simp only [Option.bind_eq_bind, Option.bind_some, Cursor.under]
            cases body? fuel [] [] _ with
            | none => rfl
            | some read =>
                simp only [Option.bind_some]
                cases read.2.rest with
                | nil => rfl
                | cons d rest =>
                    by_cases hd : d = ')'
                    · subst hd
                      rfl
                    · simp [hd]
  · next heq =>
    cases heq
    cases class? cursor.settle with
    | none => rfl
    | some read =>
        obtain ⟨cls, behind⟩ := read
        cases cls <;> rfl
  · next heq =>
    cases heq
    cases repeatNewest? items 0 (some 1) <;> rfl
  · next heq =>
    cases heq
    cases repeatNewest? items 0 none <;> rfl
  · next heq =>
    cases heq
    cases repeatNewest? items 1 none <;> rfl
  · next heq =>
    cases heq
    cases bounds? cursor.settle with
    | none => rfl
    | some read =>
        simp only [Option.bind_eq_bind, Option.bind_some]
        cases repeatNewest? items read.1 read.2.1 <;> rfl
  · split
    all_goals first
      | (cases atom? cursor.settle <;> rfl)
      | simp_all

/-- A turn that is taken is taken as well by a reader that reads all the groups. -/
theorem turn?_mono {readGroup? readMore? : Cursor → Option (Tree × Cursor)}
    (hgroup : ∀ cursor read, readGroup? cursor = some read → readMore? cursor = some read)
    {branches items : List Tree} {c : Char} {result : (List Tree × List Tree) × Cursor}
    (hread : turn? readGroup? branches items cursor c = some result) :
    turn? readMore? branches items cursor c = some result := by
  by_cases hopen : c = '('
  · subst hopen
    obtain ⟨⟨opening, inside⟩, hopening, hread⟩ := Option.bind_eq_some_iff.mp hread
    simp only [turn?, hopening, Option.bind_eq_bind, Option.bind_some]
    cases opening with
    | flags changes => exact hread
    | group changes =>
        obtain ⟨inner, hinner, hread⟩ := Option.bind_eq_some_iff.mp hread
        simp only [hgroup _ _ hinner, Option.bind_some]
        exact hread
  · unfold turn? at hread ⊢
    split at hread
    all_goals first
      | contradiction
      | exact hread

/-- What is read with some fuel is read with more. -/
theorem body?_mono {fuel more : Nat} (hfuel : fuel ≤ more) {branches items : List Tree}
    {result : Tree × Cursor} (hread : body? fuel branches items cursor = some result) :
    body? more branches items cursor = some result := by
  induction fuel generalizing more branches items cursor result with
  | zero => cases hread
  | succ fuel ih =>
      obtain ⟨more, rfl⟩ : ∃ n, more = n + 1 := ⟨more - 1, by omega⟩
      have hless : fuel ≤ more := Nat.le_of_succ_le_succ hfuel
      by_cases hend : cursor.settle.head? = none ∨ cursor.settle.head? = some ')'
      · rw [body?_end branches items hend] at hread ⊢
        exact hread
      · obtain ⟨c, hhead⟩ : ∃ c, cursor.settle.head? = some c :=
          Option.ne_none_iff_exists'.mp fun hnone => hend (.inl hnone)
        have hclose : c ≠ ')' := fun heq => hend (.inr (heq ▸ hhead))
        rw [body?_turn hhead hclose] at hread ⊢
        obtain ⟨next, hturn, hrest⟩ := Option.bind_eq_some_iff.mp hread
        rw [turn?_mono (fun _ _ hgroup => ih hless hgroup) hturn]
        exact ih hless hrest

theorem stays_repetition (hclosing : Closing suffix) {c : Char} (hhead : cursor.head? = some c)
    (branches : List Tree) (items : Option (List Tree)) :
    Stays suffix (items.map fun items => ((branches, items), dropReluctant cursor.bump))
      (items.map fun items =>
        ((branches, items), dropReluctant (cursor.followedBy suffix).bump)) := by
  rw [Cursor.bump_followedBy (Cursor.rest_ne_nil hhead)]
  cases items with
  | none => exact stays_none
  | some items => exact ((goes_followedBy suffix cursor.bump).dropReluctant hclosing).stays _

/-- A turn of reading is taken in the longer text as well, if groups are read there as they
are. -/
theorem stays_turn? (hclosing : Closing suffix)
    {readGroup? readLonger? : Cursor → Option (Tree × Cursor)}
    (hgroup : ∀ cursor longer, Goes suffix cursor longer →
      Stays suffix (readGroup? cursor) (readLonger? longer))
    (branches items : List Tree) {c : Char} (hhead : cursor.head? = some c) :
    Stays suffix (turn? readGroup? branches items cursor c)
      (turn? readLonger? branches items (cursor.followedBy suffix) c) := by
  have hbump := Cursor.bump_followedBy (Cursor.rest_ne_nil hhead) suffix
  have hbehind := goes_followedBy suffix cursor.bump
  unfold turn?
  split
  · rw [hbump]
    exact hbehind.stays _
  · refine (stays_opening? hclosing hhead).bind fun opening inside longer _ hgoes => ?_
    cases opening with
    | flags changes => exact (hgoes.under changes).stays _
    | group changes =>
        refine (hgroup _ _ (hgoes.under changes)).bind fun inner behind longer _ hgoes => ?_
        simp only
        by_cases hclose : behind.head? = some ')'
        · obtain ⟨rest, hrest⟩ := Cursor.exists_rest hclose
          obtain rfl := hgoes.eq_of_head hclose
          simp only [Cursor.rest_followedBy, hrest, List.cons_append]
          exact Goes.stays (.inl rfl) _
        · split
          · next heq => exact absurd (by simp [Cursor.head?, heq]) hclose
          · exact stays_none
  · refine (stays_class? hclosing hhead).bind fun cls inside longer _ hgoes => ?_
    cases cls with
    | bracketed negated inner => exact hgoes.stays _
    | _ => exact stays_none
  · exact stays_repetition hclosing hhead branches _
  · exact stays_repetition hclosing hhead branches _
  · exact stays_repetition hclosing hhead branches _
  · intro x behind hread
    obtain ⟨⟨least, most, inside⟩, hbounds, hread⟩ := Option.bind_eq_some_iff.mp hread
    obtain ⟨other, hlonger, hgoes⟩ := exists_bounds? hclosing hhead hbounds
    obtain ⟨others, hothers, heq⟩ := Option.map_eq_some_iff.mp hread
    cases heq
    refine ⟨other, ?_, hgoes⟩
    simp [hlonger, hothers]
  · exact (stays_atom? hclosing hhead).map (g := fun atom => (branches, atom.tree :: items))
      fun _ _ => rfl

theorem Goes.body? (hclosing : Closing suffix) (hgoes : Goes suffix cursor longer)
    {fuel more : Nat} (hfuel : fuel ≤ more) (branches items : List Tree) :
    Stays suffix (body? fuel branches items cursor) (body? more branches items longer) := by
  induction fuel generalizing more branches items cursor longer with
  | zero => exact stays_none
  | succ fuel ih =>
      obtain ⟨more, rfl⟩ : ∃ n, more = n + 1 := ⟨more - 1, by omega⟩
      have hless : fuel ≤ more := Nat.le_of_succ_le_succ hfuel
      have hsettled := hgoes.settle hclosing
      rcases hsettled.head_cases with hnone | ⟨c, hhead, heq⟩
      · rw [body?_end branches items (.inl hnone),
          body?_end branches items (hsettled.head?_of_none hclosing hnone)]
        exact hsettled.stays _
      · have hlonger : longer.settle.head? = some c := by
          rw [heq]
          exact Cursor.head?_followedBy hhead suffix
        by_cases hclose : c = ')'
        · subst hclose
          rw [body?_end branches items (.inr hhead), body?_end branches items (.inr hlonger)]
          exact hsettled.stays _
        · rw [body?_turn hhead hclose, body?_turn hlonger hclose, heq]
          -- A group inside is read with the fuel that the rest of the body has.
          have hgroup : ∀ cursor longer, Goes suffix cursor longer →
              Stays suffix (Regex.body? fuel [] [] cursor) (Regex.body? more [] [] longer) :=
            fun _ _ hgoes => ih hgoes hless [] []
          exact (stays_turn? hclosing hgroup branches items hhead).bind
            fun read cursor longer _ hgoes => ih hgoes hless read.1 read.2

end Bodies

end Intake.Regex
