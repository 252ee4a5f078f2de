import Mathlib
import Intake.Regex.Parser

/-!
# Reading a piece of a pattern where the text goes on

A pattern that is put before a closing parenthesis is read there as it is alone, piece by piece:
no piece takes the parenthesis.  The one thing that does is a comment that is open where the
pattern ends.  This module says so of cursors and of atoms.
-/

namespace Intake.Regex

theorem dropWhile_append_of_ne_nil {p : Char → Bool} {rest : List Char}
    (hrest : rest.dropWhile p ≠ []) (suffix : List Char) :
    (rest ++ suffix).dropWhile p = rest.dropWhile p ++ suffix := by
  rw [List.dropWhile_append, if_neg (by simpa using hrest)]

theorem takeWhile_append_of_ne_nil {p : Char → Bool} {rest : List Char}
    (hrest : rest.dropWhile p ≠ []) (suffix : List Char) :
    (rest ++ suffix).takeWhile p = rest.takeWhile p := by
  induction rest with
  | nil => simp at hrest
  | cons c rest ih =>
      by_cases hc : p c = true
      · simp only [List.cons_append, List.takeWhile_cons, hc, if_true]
        rw [ih (by simpa [hc] using hrest)]
      · simp [hc]

/-- A text that ends a group, and goes on without an end of a line and without a colon. -/
structure Closing (suffix : List Char) : Prop where
  head : suffix.head? = some ')'
  line : '\n' ∉ suffix
  colon : ':' ∉ suffix

variable {suffix : List Char}

theorem Closing.exists_cons (hclosing : Closing suffix) : ∃ rest, suffix = ')' :: rest := by
  have hhead := hclosing.head
  cases suffix with
  | nil => cases hhead
  | cons c rest =>
      cases hhead
      exact ⟨rest, rfl⟩

theorem Closing.ne_colon (hclosing : Closing suffix) : ∀ c ∈ suffix, c ≠ ':' := by
  rintro c hmem rfl
  exact hclosing.colon hmem

theorem isBlank_close : isBlank ')' = false := by decide

theorem isBlank_sign : isBlank '#' = false := by decide

theorem dropBlanks_closing (hclosing : Closing suffix) : dropBlanks suffix = suffix := by
  obtain ⟨rest, rfl⟩ := hclosing.exists_cons
  rw [dropBlanks, isBlank_close]
  simp

theorem dropComment_closing (hline : '\n' ∉ suffix) : dropBlanks.dropComment suffix = [] := by
  induction suffix with
  | nil => rfl
  | cons c rest ih =>
      rw [List.mem_cons, not_or] at hline
      rw [dropBlanks.dropComment, if_neg (Ne.symm hline.1)]
      exact ih hline.2

/-- Behind blanks and comments stands what stands there alone and then the suffix, which only a
comment that is open at the end swallows. -/
theorem drop_append (hclosing : Closing suffix) (rest : List Char) :
    (dropBlanks (rest ++ suffix) = dropBlanks rest ++ suffix ∨
      dropBlanks rest = [] ∧ dropBlanks (rest ++ suffix) = []) ∧
    (dropBlanks.dropComment (rest ++ suffix) = dropBlanks.dropComment rest ++ suffix ∨
      dropBlanks.dropComment rest = [] ∧ dropBlanks.dropComment (rest ++ suffix) = []) := by
  induction rest with
  | nil => exact ⟨.inl (dropBlanks_closing hclosing), .inr ⟨rfl, dropComment_closing hclosing.line⟩⟩
  | cons c rest ih =>
      obtain ⟨hblanks, hcomment⟩ := ih
      constructor
      · by_cases hblank : isBlank c = true
        · simpa [dropBlanks, hblank] using hblanks
        · by_cases hsign : c = '#'
          · simpa [dropBlanks, isBlank_sign, hsign] using hcomment
          · simp [dropBlanks, hblank, hsign]
      · by_cases hline : c = '\n'
        · simpa [dropBlanks.dropComment, hline] using hblanks
        · simpa [dropBlanks.dropComment, hline] using hcomment

namespace Cursor

variable {cursor : Cursor} {c : Char}

/-- The cursor in a text that goes on with a suffix. -/
def followedBy (cursor : Cursor) (suffix : List Char) : Cursor :=
  cursor.withRest (cursor.rest ++ suffix)

@[simp] theorem rest_followedBy (cursor : Cursor) (suffix : List Char) :
    (cursor.followedBy suffix).rest = cursor.rest ++ suffix := rfl

@[simp] theorem verbose_followedBy (cursor : Cursor) (suffix : List Char) :
    (cursor.followedBy suffix).verbose = cursor.verbose := rfl

@[simp] theorem names_followedBy (cursor : Cursor) (suffix : List Char) :
    (cursor.followedBy suffix).names = cursor.names := rfl

theorem head?_followedBy (hhead : cursor.head? = some c) (suffix : List Char) :
    (cursor.followedBy suffix).head? = some c := by
  unfold head? at hhead
  simp [head?, hhead]

theorem rest_ne_nil (hhead : cursor.head? = some c) : cursor.rest ≠ [] := by
  intro hrest
  simp [head?, hrest] at hhead

theorem length_dropBlanks_le (rest : List Char) :
    (dropBlanks rest).length ≤ rest.length ∧
      (dropBlanks.dropComment rest).length ≤ rest.length := by
  induction rest with
  | nil => simp [dropBlanks, dropBlanks.dropComment]
  | cons c rest ih =>
      rw [dropBlanks, dropBlanks.dropComment]
      constructor
      · split
        · exact Nat.le_succ_of_le ih.1
        · split
          · exact Nat.le_succ_of_le ih.2
          · exact le_rfl
      · split
        · exact Nat.le_succ_of_le ih.1
        · exact Nat.le_succ_of_le ih.2

theorem length_bumpSettle_lt (hrest : cursor.rest ≠ []) :
    cursor.bumpSettle.rest.length < cursor.rest.length := by
  obtain ⟨c, more, heq⟩ := List.exists_cons_of_ne_nil hrest
  have hless := (length_dropBlanks_le more).1
  unfold bumpSettle settle bump withRest
  split
  · simp [heq]
    omega
  · simp [heq]

theorem exists_rest (hhead : cursor.head? = some c) : ∃ rest, cursor.rest = c :: rest := by
  unfold head? at hhead
  cases hrest : cursor.rest with
  | nil => simp [hrest] at hhead
  | cons d rest =>
      rw [hrest] at hhead
      cases hhead
      exact ⟨rest, rfl⟩

theorem bump_followedBy (hrest : cursor.rest ≠ []) (suffix : List Char) :
    (cursor.followedBy suffix).bump = cursor.bump.followedBy suffix := by
  obtain ⟨c, more, heq⟩ := List.exists_cons_of_ne_nil hrest
  simp [followedBy, bump, withRest, heq]

end Cursor

/-- Whether a cursor stands in a text that goes on with a suffix as another does in one that
ends: before the same rest and the suffix, or at the end, where an open comment has taken the
suffix. -/
def Goes (suffix : List Char) (cursor longer : Cursor) : Prop :=
  longer = cursor.followedBy suffix ∨ cursor.rest = [] ∧ longer = cursor

/-- Whether what is read stays the same where the text goes on. -/
def Stays {α : Type} (suffix : List Char) (result longer : Option (α × Cursor)) : Prop :=
  ∀ x cursor, result = some (x, cursor) →
    ∃ other, longer = some (x, other) ∧ Goes suffix cursor other

section Going

variable {α β : Type} {cursor longer : Cursor} {result extended : Option (α × Cursor)}

theorem goes_followedBy (suffix : List Char) (cursor : Cursor) :
    Goes suffix cursor (cursor.followedBy suffix) := .inl rfl

theorem Goes.length_le (hgoes : Goes suffix cursor longer) :
    cursor.rest.length ≤ longer.rest.length := by
  rcases hgoes with rfl | ⟨-, rfl⟩
  · simp
  · exact le_rfl

/-- A cursor that stands before a character stands there in the longer text as well. -/
theorem Goes.head_cases (hgoes : Goes suffix cursor longer) :
    cursor.head? = none ∨ ∃ c, cursor.head? = some c ∧ longer = cursor.followedBy suffix := by
  cases hhead : cursor.head? with
  | none => exact .inl rfl
  | some c =>
      rcases hgoes with rfl | ⟨hrest, -⟩
      · exact .inr ⟨c, rfl, rfl⟩
      · exact absurd hrest (Cursor.rest_ne_nil hhead)

theorem Goes.eq_of_head (hgoes : Goes suffix cursor longer) {c : Char}
    (hhead : cursor.head? = some c) : longer = cursor.followedBy suffix := by
  rcases hgoes.head_cases with hnone | ⟨d, -, heq⟩
  · rw [hnone] at hhead
    cases hhead
  · exact heq

theorem head?_followedBy_ne (hclosing : Closing suffix) {c : Char}
    (hhead : cursor.head? ≠ some c) (hother : c ≠ ')') :
    (cursor.followedBy suffix).head? ≠ some c := by
  obtain ⟨rest, rfl⟩ := hclosing.exists_cons
  cases hrest : cursor.rest with
  | nil => simpa [Cursor.head?, hrest] using Ne.symm hother
  | cons d more => simpa [Cursor.head?, hrest] using hhead

theorem Goes.head?_ne (hclosing : Closing suffix) (hgoes : Goes suffix cursor longer) {c : Char}
    (hhead : cursor.head? ≠ some c) (hother : c ≠ ')') : longer.head? ≠ some c := by
  rcases hgoes with rfl | ⟨-, rfl⟩
  · exact head?_followedBy_ne hclosing hhead hother
  · exact hhead

theorem Goes.head?_of_none (hclosing : Closing suffix) (hgoes : Goes suffix cursor longer)
    (hnone : cursor.head? = none) : longer.head? = none ∨ longer.head? = some ')' := by
  rcases hgoes with rfl | ⟨-, rfl⟩
  · right
    have hrest : cursor.rest = [] := List.head?_eq_none_iff.mp hnone
    simpa [Cursor.head?, hrest] using hclosing.head
  · exact .inl hnone

theorem goes_settle (hclosing : Closing suffix) (cursor : Cursor) :
    Goes suffix cursor.settle (cursor.followedBy suffix).settle := by
  by_cases hverbose : cursor.verbose = true
  · rcases (drop_append hclosing cursor.rest).1 with hdrop | ⟨hrest, hdrop⟩
    · left
      simp [Cursor.settle, hverbose, hdrop, Cursor.followedBy, Cursor.withRest]
    · right
      simp [Cursor.settle, hverbose, hdrop, hrest, Cursor.followedBy, Cursor.withRest]
  · left
    simp [Cursor.settle, hverbose, Cursor.followedBy, Cursor.withRest]

theorem settle_of_nil (hrest : cursor.rest = []) : cursor.settle = cursor := by
  cases cursor
  simp only at hrest
  subst hrest
  simp [Cursor.settle, dropBlanks]

theorem Goes.settle (hclosing : Closing suffix) (hgoes : Goes suffix cursor longer) :
    Goes suffix cursor.settle longer.settle := by
  rcases hgoes with rfl | ⟨hrest, rfl⟩
  · exact goes_settle hclosing cursor
  · rw [settle_of_nil hrest]
    exact .inr ⟨hrest, rfl⟩

theorem goes_bumpSettle (hclosing : Closing suffix) (hrest : cursor.rest ≠ []) :
    Goes suffix cursor.bumpSettle (cursor.followedBy suffix).bumpSettle := by
  unfold Cursor.bumpSettle
  rw [Cursor.bump_followedBy hrest]
  exact goes_settle hclosing cursor.bump

theorem stays_none : Stays suffix none extended := by
  intro x cursor hread
  cases hread

theorem Goes.stays (hgoes : Goes suffix cursor longer) (x : α) :
    Stays suffix (some (x, cursor)) (some (x, longer)) := by
  intro y other hread
  cases hread
  exact ⟨longer, rfl, hgoes⟩

theorem Stays.bind {next further : α × Cursor → Option (β × Cursor)}
    (hstays : Stays suffix result extended)
    (hnext : ∀ x cursor longer, result = some (x, cursor) → Goes suffix cursor longer →
      Stays suffix (next (x, cursor)) (further (x, longer))) :
    Stays suffix (result >>= next) (extended >>= further) := by
  cases hresult : result with
  | none => exact stays_none
  | some pair =>
      obtain ⟨x, cursor⟩ := pair
      obtain ⟨longer, rfl, hgoes⟩ := hstays x cursor hresult
      exact hnext x cursor longer hresult hgoes

theorem Stays.map {f : α × Cursor → β × Cursor} {g : α → β}
    (hstays : Stays suffix result extended) (hf : ∀ x cursor, f (x, cursor) = (g x, cursor)) :
    Stays suffix (result.map f) (extended.map f) := by
  cases hresult : result with
  | none => exact stays_none
  | some pair =>
      obtain ⟨x, cursor⟩ := pair
      obtain ⟨longer, rfl, hgoes⟩ := hstays x cursor hresult
      rw [Option.map_some, Option.map_some, hf, hf]
      exact hgoes.stays (g x)

end Going

/-! ## Atoms -/

section Atoms

variable {cursor longer : Cursor} (hclosing : Closing suffix)
include hclosing

theorem Goes.fixedHex? (hgoes : Goes suffix cursor longer) (count value : Nat) :
    Stays suffix (fixedHex? count value cursor) (fixedHex? count value longer) := by
  induction count generalizing value cursor longer with
  | zero => exact hgoes.stays value
  | succ count ih =>
      rw [Regex.fixedHex?, Regex.fixedHex?]
      rcases hgoes.head_cases with hnone | ⟨c, hhead, rfl⟩
      · rw [hnone]
        exact stays_none
      · rw [hhead, Cursor.head?_followedBy hhead]
        simp only [Option.bind_eq_bind, Option.bind_some]
        cases Unicode.hexDigit? c with
        | none => exact stays_none
        | some digit => exact ih (goes_bumpSettle hclosing (Cursor.rest_ne_nil hhead)) _

theorem Goes.bracedHex? (hgoes : Goes suffix cursor longer) {fuel more : Nat}
    (hfuel : fuel ≤ more) (value : Option Nat) :
    Stays suffix (bracedHex? fuel value cursor) (bracedHex? more value longer) := by
  induction fuel generalizing more value cursor longer with
  | zero => exact stays_none
  | succ fuel ih =>
      obtain ⟨more, rfl⟩ : ∃ n, more = n + 1 := ⟨more - 1, by omega⟩
      rw [Regex.bracedHex?, Regex.bracedHex?]
      rcases hgoes.head_cases with hnone | ⟨c, hhead, rfl⟩
      · rw [hnone]
        exact stays_none
      · rw [hhead, Cursor.head?_followedBy hhead]
        have hbehind := goes_bumpSettle hclosing (Cursor.rest_ne_nil hhead)
        split
        · contradiction
        · next heq =>
          cases heq
          cases value with
          | none => exact stays_none
          | some value => exact hbehind.stays value
        · next d hd heq =>
          cases heq
          simp only [Option.bind_eq_bind]
          cases Unicode.hexDigit? c with
          | none => exact stays_none
          | some digit => exact ih hbehind (by omega) _

theorem stays_hexLiteral? {c : Char} (hhead : cursor.head? = some c) (letter : Char) :
    Stays suffix (hexLiteral? letter cursor) (hexLiteral? letter (cursor.followedBy suffix)) := by
  have hinside := goes_bumpSettle hclosing (Cursor.rest_ne_nil hhead)
  simp only [hexLiteral?]
  rcases hinside.head_cases with hnone | ⟨d, hd, heq⟩
  · rw [hnone]
    exact stays_none
  · rw [heq, hd, Cursor.head?_followedBy hd]
    have hbehind := goes_bumpSettle hclosing (Cursor.rest_ne_nil hd)
    split
    · contradiction
    · next hbrace =>
      cases hbrace
      refine (hbehind.bracedHex? hclosing (Nat.succ_le_succ hbehind.length_le) none).bind
        fun code cursor longer _ hgoes => ?_
      cases scalar? code with
      | none => exact stays_none
      | some char => exact hgoes.stays _
    · refine ((goes_followedBy suffix _).fixedHex? hclosing _ 0).bind
        fun code cursor longer _ hgoes => ?_
      cases scalar? code with
      | none => exact stays_none
      | some char => exact hgoes.stays _

theorem Goes.propertyName? (hgoes : Goes suffix cursor longer) {fuel more : Nat}
    (hfuel : fuel ≤ more) (taken : List Char) :
    Stays suffix (propertyName? fuel taken cursor) (propertyName? more taken longer) := by
  induction fuel generalizing more taken cursor longer with
  | zero => exact stays_none
  | succ fuel ih =>
      obtain ⟨more, rfl⟩ : ∃ n, more = n + 1 := ⟨more - 1, by omega⟩
      rw [Regex.propertyName?, Regex.propertyName?]
      rcases hgoes.head_cases with hnone | ⟨c, hhead, rfl⟩
      · rw [hnone]
        exact stays_none
      · have hrest := Cursor.rest_ne_nil hhead
        rw [hhead, Cursor.head?_followedBy hhead]
        split
        · contradiction
        · rw [Cursor.bump_followedBy hrest]
          exact (goes_followedBy suffix _).stays _
        · next d hd heq =>
          cases heq
          exact ih (goes_bumpSettle hclosing hrest) (by omega) _

theorem stays_propertyClass? {c : Char} (hhead : cursor.head? = some c) (negated : Bool) :
    Stays suffix (propertyClass? negated cursor)
      (propertyClass? negated (cursor.followedBy suffix)) := by
  have hinside := goes_bumpSettle hclosing (Cursor.rest_ne_nil hhead)
  simp only [propertyClass?]
  rcases hinside.head_cases with hnone | ⟨d, hd, heq⟩
  · rw [hnone]
    exact stays_none
  · rw [heq, hd, Cursor.head?_followedBy hd]
    have hbehind := goes_bumpSettle hclosing (Cursor.rest_ne_nil hd)
    split
    · contradiction
    · exact (hbehind.propertyName? hclosing (Nat.succ_le_succ hbehind.length_le) []).bind
        fun name cursor longer _ hgoes => hgoes.stays _
    · exact stays_none
    · exact hbehind.stays _

theorem Goes.boundaryName (hgoes : Goes suffix cursor longer) {fuel more : Nat}
    (hfuel : fuel ≤ more) {taken name : List Char} {behind : Cursor} {c : Char}
    (hread : boundaryName fuel taken cursor = (name, behind)) (hhead : behind.head? = some c)
    (hother : (c.isAlpha || c = '-') = false) :
    Regex.boundaryName more taken longer = (name, behind.followedBy suffix) := by
  induction fuel generalizing more taken cursor longer with
  | zero =>
      cases hread
      rcases hgoes.head_cases with hnone | ⟨d, hd, rfl⟩
      · rw [hnone] at hhead
        cases hhead
      · cases more with
        | zero => rfl
        | succ more => simp [Regex.boundaryName, Cursor.head?_followedBy hhead, hother]
  | succ fuel ih =>
      obtain ⟨more, rfl⟩ : ∃ n, more = n + 1 := ⟨more - 1, by omega⟩
      rw [Regex.boundaryName] at hread
      rcases hgoes.head_cases with hnone | ⟨d, hd, rfl⟩
      · simp only [hnone] at hread
        cases hread
        rw [hnone] at hhead
        cases hhead
      · rw [Regex.boundaryName, Cursor.head?_followedBy hd]
        simp only [hd] at hread ⊢
        split at hread
        · next halpha =>
          rw [if_pos halpha]
          exact ih (goes_bumpSettle hclosing (Cursor.rest_ne_nil hd)) (by omega) hread
        · next halpha =>
          cases hread
          rw [if_neg halpha]

omit hclosing in
theorem boundary?_of_head_ne (hhead : cursor.head? ≠ some '\x7b') :
    boundary? cursor = some (.wordBoundary, cursor) := by
  unfold boundary?
  split
  · contradiction
  · rfl

theorem stays_boundary? (cursor : Cursor) :
    Stays suffix (boundary? cursor) (boundary? (cursor.followedBy suffix)) := by
  by_cases hhead : cursor.head? = some '\x7b'
  · have hinside := goes_bumpSettle hclosing (Cursor.rest_ne_nil hhead)
    simp only [boundary?, hhead, Cursor.head?_followedBy hhead]
    rcases hinside.head_cases with hnone | ⟨c, hc, heq⟩
    · rw [hnone]
      exact stays_none
    · simp only [hc, heq, Cursor.head?_followedBy hc]
      split
      · obtain ⟨⟨name, behind⟩, hname⟩ : ∃ read,
            boundaryName (cursor.bumpSettle.rest.length + 1) [] cursor.bumpSettle = read :=
          ⟨_, rfl⟩
        rw [hname]
        by_cases hbrace : behind.head? = some '\x7d'
        · have hgoes := goes_followedBy suffix cursor.bumpSettle
          rw [hgoes.boundaryName hclosing (Nat.succ_le_succ hgoes.length_le) hname hbrace
            (by decide)]
          simp only [hbrace, Cursor.head?_followedBy hbrace,
            Cursor.bump_followedBy (Cursor.rest_ne_nil hbrace)]
          have hbehind := goes_followedBy suffix behind.bump
          split
          all_goals first
            | exact hbehind.stays _
            | exact stays_none
        · simp only
          exact stays_none
      · exact (goes_followedBy suffix cursor).stays _
  · rw [boundary?_of_head_ne hhead,
      boundary?_of_head_ne (head?_followedBy_ne hclosing hhead (by decide))]
    exact (goes_followedBy suffix cursor).stays _

theorem stays_escape? {c : Char} (hhead : cursor.head? = some c) :
    Stays suffix (escape? cursor) (escape? (cursor.followedBy suffix)) := by
  simp only [escape?, Cursor.bump_followedBy (Cursor.rest_ne_nil hhead)]
  rcases (goes_followedBy suffix cursor.bump).head_cases with hnone | ⟨d, hd, -⟩
  · rw [hnone]
    exact stays_none
  · rw [hd, Cursor.head?_followedBy hd]
    simp only [Cursor.bump_followedBy (Cursor.rest_ne_nil hd)]
    have hbehind := goes_followedBy suffix cursor.bump.bump
    split
    all_goals first
      | exact hbehind.stays _
      | exact stays_propertyClass? hclosing hd _
      | exact (stays_hexLiteral? hclosing hd _).map (g := Atom.literal) fun _ _ => rfl
      | exact (stays_boundary? hclosing _).map (g := Atom.anchor) fun _ _ => rfl
      | (split <;> first | exact hbehind.stays _ | exact stays_none)

theorem stays_atom? {c : Char} (hhead : cursor.head? = some c) :
    Stays suffix (atom? cursor) (atom? (cursor.followedBy suffix)) := by
  simp only [atom?, hhead, Cursor.head?_followedBy hhead,
    Cursor.bump_followedBy (Cursor.rest_ne_nil hhead)]
  have hbehind := goes_followedBy suffix cursor.bump
  split
  · contradiction
  · exact stays_escape? hclosing hhead
  all_goals exact hbehind.stays _

theorem Goes.classAtom? (hgoes : Goes suffix cursor longer) :
    Stays suffix (classAtom? cursor) (classAtom? longer) := by
  rcases hgoes.head_cases with hnone | ⟨c, hhead, rfl⟩
  · simp only [Regex.classAtom?, hnone]
    exact stays_none
  · simp only [Regex.classAtom?, hhead, Cursor.head?_followedBy hhead,
      Cursor.bump_followedBy (Cursor.rest_ne_nil hhead)]
    split
    · contradiction
    · exact stays_escape? hclosing hhead
    · exact (goes_followedBy suffix cursor.bump).stays _

end Atoms

end Intake.Regex
