import Intake.Condition
import Intake.Proofs.PatternOrder

/-!
# Demanding a match of the whole content

The argument of an operator that demands a match of the whole content is put as text between a
group's parentheses and two anchors.  An argument that reads well alone reads as that group, unless
a comment that is open at its end takes the closing parenthesis; then its pattern matches between
both ends of the content.  An argument that does not read well alone may read well there.
-/

namespace Intake

namespace Regex

/-- What stands behind the argument. -/
def closingMark : List Char := [')', '$']

/-- The text with an argument in it. -/
def enclose (text : List Char) : List Char := '^' :: '(' :: '?' :: ':' :: (text ++ closingMark)

theorem closing_closingMark : Closing closingMark :=
  ⟨rfl, by decide, by decide⟩

theorem toList_wholePattern (arg : String) :
    (ContentTest.wholePattern arg).toList = enclose arg.toList := by
  simp [ContentTest.wholePattern, enclose, closingMark]

/-- The tree of a pattern between the anchors. -/
def Tree.enclosed (tree : Tree) : Tree :=
  .concat [.anchor .lineStart, .group [] tree, .anchor .lineEnd]

theorem Tree.depth_enclosed (tree : Tree) : tree.enclosed.depth = tree.depth + 2 := by
  simp [Tree.enclosed, Tree.depth, Tree.depthOfAll]

/-! ## Reading -/

section Reading

variable {text : List Char} {tree : Tree}

theorem parse?_eq_some_iff :
    parse? text = some tree ↔ ∃ cursor,
      body? (2 * text.length + 2) [] [] { rest := text } = some (tree, cursor) ∧
        cursor.rest = [] ∧ tree.depth ≤ greatestDepth := by
  unfold parse?
  cases body? (2 * text.length + 2) [] [] { rest := text } with
  | none => simp
  | some read =>
      obtain ⟨other, cursor⟩ := read
      simp only [Option.bind_eq_bind, Option.bind_some, Option.some.injEq, Prod.mk.injEq,
        Bool.and_eq_true, List.isEmpty_iff, decide_eq_true_eq]
      constructor
      · intro hread
        split at hread
        · next hend =>
          cases hread
          exact ⟨cursor, ⟨rfl, rfl⟩, hend⟩
        · cases hread
      · rintro ⟨cursor, ⟨rfl, rfl⟩, hend⟩
        rw [if_pos hend]

/-- What reads well alone is read in front of the closing mark as well, and the cursor behind it
stands before the mark, or at the end behind a comment that has taken the mark. -/
theorem exists_behind (hread : parse? text = some tree) :
    ∃ behind, (∀ fuel, 2 * text.length + 2 ≤ fuel →
        body? fuel [] [] { rest := text ++ closingMark } = some (tree, behind)) ∧
      (behind.rest = closingMark ∧ parse? (text ++ closingMark) = none ∨
        behind.rest = [] ∧ parse? (text ++ closingMark) = some tree) := by
  obtain ⟨cursor, hbody, hrest, hdepth⟩ := parse?_eq_some_iff.mp hread
  obtain ⟨behind, hlonger, hgoes⟩ :=
    (goes_followedBy closingMark { rest := text }).body? closing_closingMark le_rfl [] [] _ _ hbody
  have hbehind : ∀ fuel, 2 * text.length + 2 ≤ fuel →
      body? fuel [] [] { rest := text ++ closingMark } = some (tree, behind) :=
    fun fuel hfuel => body?_mono hfuel hlonger
  have hmarked := hbehind (2 * (text ++ closingMark).length + 2) (by simp)
  refine ⟨behind, hbehind, ?_⟩
  rcases hgoes with rfl | ⟨-, rfl⟩
  · refine .inl ⟨by simp [hrest], Option.eq_none_iff_forall_ne_some.mpr fun other hother => ?_⟩
    obtain ⟨last, hlast, hnil, -⟩ := parse?_eq_some_iff.mp hother
    rw [hmarked] at hlast
    cases hlast
    simp [hrest, closingMark] at hnil
  · exact .inr ⟨hrest, parse?_eq_some_iff.mpr ⟨behind, hmarked, hrest, hdepth⟩⟩

/-- The argument is read as a group, between an anchor and what is behind the group. -/
theorem body?_enclose (fuel : Nat) :
    body? (fuel + 3) [] [] { rest := enclose text } =
      (body? (fuel + 1) [] [] { rest := text ++ closingMark }).bind fun read =>
        match read.2.rest with
        | ')' :: rest =>
            body? (fuel + 1) [] [.group [] read.1, .anchor .lineStart]
              { read.2 with rest, verbose := false }
        | _ => none := by
  rw [body?_turn (c := '^') rfl (by decide)]
  have hanchor : ∀ readGroup?, turn? readGroup? [] [] (Cursor.settle { rest := enclose text }) '^' =
      some (([], [.anchor .lineStart]),
        { rest := '(' :: '?' :: ':' :: (text ++ closingMark) }) := fun _ => rfl
  rw [hanchor, Option.bind_some]
  simp only
  rw [body?_turn (c := '(') rfl (by decide)]
  have hopening : opening?
      (Cursor.settle { rest := '(' :: '?' :: ':' :: (text ++ closingMark) }) =
        some (.group [], { rest := text ++ closingMark }) := rfl
  simp only [turn?, hopening, Option.bind_eq_bind, Option.bind_some]
  have hunder : Cursor.under [] { rest := text ++ closingMark } =
      { rest := text ++ closingMark } := rfl
  rw [hunder]
  cases body? (fuel + 1) [] [] { rest := text ++ closingMark } with
  | none => rfl
  | some read =>
      simp only [Option.bind_some]
      cases read.2.rest with
      | nil => rfl
      | cons c rest =>
          by_cases hclose : c = ')'
          · subst hclose
            rfl
          · simp [hclose]

theorem body?_lineEnd (fuel : Nat) (items : List Tree) (cursor : Cursor)
    (hverbose : cursor.verbose = false) (hrest : cursor.rest = ['$']) :
    body? (fuel + 2) [] items cursor =
      some (closeBody [] (.anchor .lineEnd :: items), { cursor with rest := [] }) := by
  obtain ⟨rest, verbose, names⟩ := cursor
  simp only at hverbose hrest
  subst hverbose hrest
  rw [body?_turn (c := '$') rfl (by decide)]
  have hturn : ∀ readGroup?,
      turn? readGroup? [] items (Cursor.settle { rest := ['$'], names }) '$' =
        some (([], .anchor .lineEnd :: items), { rest := [], names }) := fun _ => rfl
  rw [hturn, Option.bind_some]
  exact body?_end [] _ (.inl rfl)

/-- What reads well alone is read between the anchors as a group, unless a comment that is open
at its end takes the closing mark. -/
theorem parse?_enclose (hread : parse? text = some tree) :
    parse? (text ++ closingMark) = some tree ∧ parse? (enclose text) = none ∨
      parse? (text ++ closingMark) = none ∧
        parse? (enclose text) =
          if tree.depth + 2 ≤ greatestDepth then some tree.enclosed else none := by
  obtain ⟨behind, hbody, hbehind⟩ := exists_behind hread
  -- The fuel is counted for the text around as well, so the group gets more than it needs alone.
  have hfuel : 2 * (enclose text).length + 2 = 2 * text.length + 11 + 3 := by
    simp [enclose, closingMark]
    omega
  have hinner := hbody (2 * text.length + 11 + 1) (by omega)
  have hwhole : parse? (enclose text) = (body? (2 * text.length + 11 + 3) [] []
      { rest := enclose text }).bind fun read =>
        if read.2.rest.isEmpty && read.1.depth ≤ greatestDepth then some read.1 else none := by
    rw [parse?, hfuel]
    rfl
  rw [hwhole, body?_enclose, hinner, Option.bind_some]
  rcases hbehind with ⟨hrest, hmarked⟩ | ⟨hrest, hmarked⟩
  · right
    refine ⟨hmarked, ?_⟩
    simp only [hrest, closingMark]
    rw [body?_lineEnd _ _ _ rfl rfl]
    have hclose : closeBody [] [.anchor .lineEnd, .group [] tree, .anchor .lineStart] =
        tree.enclosed := rfl
    simp [hclose, Tree.depth_enclosed]
  · left
    simp [hmarked, hrest]

end Reading

/-! ## Meaning -/

/-- The pattern of a tree between the anchors. -/
def Pattern.enclosed (pattern : Pattern) : Pattern :=
  .seq (.look .textStart) (.seq pattern (.look .textEnd))

section Meaning

variable {pattern : Pattern} {content : Bytes}

/-- The anchors are outside the group, where no flag of the argument is in force. -/
theorem meaning?_enclosed (tree : Tree) :
    tree.enclosed.meaning? {} = (tree.meaning? {}).map fun read => (read.1.enclosed, {}) := by
  have hmode : Mode.change {} [] = {} := rfl
  simp only [Tree.enclosed, Tree.meaning?, meanings?, Option.bind_eq_bind, Option.bind_some, hmode]
  cases tree.meaning? {} <;> rfl

theorem Pattern.weight_enclosed (pattern : Pattern) :
    pattern.enclosed.weight = pattern.weight + 64 := by
  simp only [enclosed, weight]
  omega

theorem Pattern.Ordered.enclosed (hordered : pattern.Ordered) : pattern.enclosed.Ordered :=
  ⟨trivial, hordered, trivial⟩

theorem Pattern.matches_enclosed_iff {i j : Nat} :
    pattern.enclosed.Matches (.ofBytes content) i j ↔
      i = 0 ∧ j = content.length ∧ pattern.Matches (.ofBytes content) 0 content.length := by
  constructor
  · intro hmatches
    cases hmatches with
    | seq hstart hrest =>
        cases hrest with
        | seq hinner hend =>
            cases hstart with
            | look hstart =>
                cases hend with
                | look hend =>
                    obtain rfl : i = 0 := by simpa [Look.holds] using hstart
                    obtain rfl : j = content.length := by
                      simpa [Look.holds, Haystack.size_ofBytes] using hend
                    exact ⟨rfl, rfl, hinner⟩
  · rintro ⟨rfl, rfl, hmatches⟩
    refine .seq (.look ?_) (.seq hmatches (.look ?_))
    · simp [Look.holds]
    · simp [Look.holds, Haystack.size_ofBytes]

theorem Pattern.isMatch_enclosed_iff (hordered : pattern.Ordered) :
    pattern.enclosed.isMatch content = true ↔
      pattern.Matches (.ofBytes content) 0 content.length := by
  rw [Pattern.isMatch_iff hordered.enclosed]
  simp [matches_enclosed_iff]

end Meaning

/-- When an argument that notes down a pattern does so between the anchors. -/
theorem compile_wholePattern_iff {arg : String} {tree : Tree} {pattern whole : Pattern}
    {after : Mode} (hread : parse? arg.toList = some tree)
    (hmeaning : tree.meaning? {} = some (pattern, after))
    (hfits : pattern.weight ≤ greatestWeight) :
    compile (ContentTest.wholePattern arg) = .ok whole ↔
      whole = pattern.enclosed ∧ (¬ ∃ other, compile (arg ++ ")$") = .ok other) ∧
        tree.depth + 2 ≤ greatestDepth ∧ pattern.weight + 64 ≤ greatestWeight := by
  have hmark : (arg ++ ")$").toList = arg.toList ++ closingMark := by simp [closingMark]
  rw [compile_eq_ok_iff, toList_wholePattern]
  rcases parse?_enclose hread with ⟨hmarked, hwhole⟩ | ⟨hmarked, hwhole⟩
  · have hopen : ∃ other, compile (arg ++ ")$") = .ok other :=
      ⟨pattern, compile_eq_ok_iff.mpr ⟨tree, after, hmark ▸ hmarked, hmeaning, hfits⟩⟩
    simp [hwhole, hopen]
  · have hclosed : ¬ ∃ other, compile (arg ++ ")$") = .ok other := by
      rintro ⟨other, hother⟩
      obtain ⟨marked, -, hread', -⟩ := compile_eq_ok_iff.mp hother
      rw [hmark, hmarked] at hread'
      cases hread'
    rw [hwhole]
    constructor
    · rintro ⟨read, mode, hsome, hread', hweight⟩
      split at hsome
      · next hdepth =>
        cases hsome
        rw [meaning?_enclosed, hmeaning] at hread'
        cases hread'
        rw [Pattern.weight_enclosed] at hweight
        exact ⟨rfl, hclosed, hdepth, hweight⟩
      · cases hsome
    · rintro ⟨rfl, -, hdepth, hweight⟩
      refine ⟨tree.enclosed, {}, if_pos hdepth, ?_, ?_⟩
      · rw [meaning?_enclosed, hmeaning]
        rfl
      · rwa [Pattern.weight_enclosed]

end Regex

/-! ## Tests of content -/

section Tests

open Regex

variable {arg : String} {test : ContentTest}

theorem build_regexp_partial_iff :
    ContentTest.build "regexp_partial" arg = .ok test ↔
      ∃ pattern, compile arg = .ok pattern ∧ test = .pattern pattern := by
  cases hcompile : compile arg with
  | error fault => simp [ContentTest.build, hcompile]
  | ok pattern => simp [ContentTest.build, hcompile, eq_comm]

theorem build_regexp_exact_iff :
    ContentTest.build "regexp_exact" arg = .ok test ↔
      ∃ pattern, compile (ContentTest.wholePattern arg) = .ok pattern ∧
        test = .pattern pattern := build_regexp_partial_iff

theorem exists_build_partial_iff :
    (∃ test, ContentTest.build "regexp_partial" arg = .ok test) ↔
      ∃ pattern, compile arg = .ok pattern := by
  simp only [build_regexp_partial_iff]
  constructor
  · rintro ⟨_, pattern, hcompile, -⟩
    exact ⟨pattern, hcompile⟩
  · rintro ⟨pattern, hcompile⟩
    exact ⟨_, pattern, hcompile, rfl⟩

/-- The test between the anchors of an argument that notes down a pattern. -/
theorem build_enclosed_iff {tree : Tree} {pattern : Pattern} {after : Mode}
    (hread : parse? arg.toList = some tree) (hmeaning : tree.meaning? {} = some (pattern, after))
    (hfits : pattern.weight ≤ greatestWeight) :
    ContentTest.build "regexp_exact" arg = .ok test ↔
      test = .pattern pattern.enclosed ∧
        (¬ ∃ other, ContentTest.build "regexp_partial" (arg ++ ")$") = .ok other) ∧
        tree.depth + 2 ≤ greatestDepth ∧ pattern.weight + 64 ≤ greatestWeight := by
  simp only [build_regexp_exact_iff, compile_wholePattern_iff hread hmeaning hfits,
    exists_build_partial_iff]
  constructor
  · rintro ⟨other, ⟨rfl, hroom⟩, rfl⟩
    exact ⟨rfl, hroom⟩
  · rintro ⟨rfl, hroom⟩
    exact ⟨_, ⟨rfl, hroom⟩, rfl⟩

/-- If an argument notes down a pattern that is looked for anywhere, then it is looked for from the
first byte to the last: the argument builds unless a comment is open at its end, so that it would
build with the closing mark behind it as well, or unless the limits do not leave room for the
group and the anchors. -/
theorem regexp_exact_of_partial {anywhere : ContentTest}
    (hbuild : ContentTest.build "regexp_partial" arg = .ok anywhere) :
    ∃ tree pattern, parse? arg.toList = some tree ∧ compile arg = .ok pattern ∧
      (∀ content : Bytes, anywhere.passes content = true ↔
        ∃ i j, i ≤ content.length ∧ pattern.Matches (.ofBytes content) i j) ∧
      ((∃ whole, ContentTest.build "regexp_exact" arg = .ok whole) ↔
        (¬ ∃ other, ContentTest.build "regexp_partial" (arg ++ ")$") = .ok other) ∧
          tree.depth + 2 ≤ greatestDepth ∧ pattern.weight + 64 ≤ greatestWeight) ∧
      ∀ whole, ContentTest.build "regexp_exact" arg = .ok whole → ∀ content : Bytes,
        (whole.passes content = true ↔
          pattern.Matches (.ofBytes content) 0 content.length) ∧
        (whole.passes content = true → anywhere.passes content = true) := by
  obtain ⟨pattern, hcompile, rfl⟩ := build_regexp_partial_iff.mp hbuild
  obtain ⟨tree, after, hread, hmeaning, hfits⟩ := compile_eq_ok_iff.mp hcompile
  have hordered := compile_ordered hcompile
  have hanywhere : ∀ content : Bytes, ContentTest.passes content (.pattern pattern) = true ↔
      ∃ i j, i ≤ content.length ∧ pattern.Matches (.ofBytes content) i j :=
    fun _ => Pattern.isMatch_iff hordered
  have hwhole := fun test => @build_enclosed_iff arg test tree pattern after hread hmeaning hfits
  refine ⟨tree, pattern, hread, hcompile, hanywhere, ?_, fun whole hexact content => ?_⟩
  · simp only [hwhole, exists_eq_left]
  · obtain ⟨rfl, -⟩ := (hwhole whole).mp hexact
    have hexactly : ContentTest.passes content (.pattern pattern.enclosed) = true ↔
        pattern.Matches (.ofBytes content) 0 content.length :=
      Pattern.isMatch_enclosed_iff hordered
    refine ⟨hexactly, fun hpasses => (hanywhere content).mpr ?_⟩
    exact ⟨0, _, Nat.zero_le _, hexactly.mp hpasses⟩

/-- A choice matches content of which one branch matches a part, but the whole content only if one
branch matches all of it. -/
theorem regexp_exact_choice : ∃ anywhere whole,
    ContentTest.build "regexp_partial" "a|b" = .ok anywhere ∧
      ContentTest.build "regexp_exact" "a|b" = .ok whole ∧
      whole.passes (Utf8.encode "b") = true ∧ anywhere.passes (Utf8.encode "ab") = true ∧
      whole.passes (Utf8.encode "ab") = false := by
  have hcompile : compile "a|b" = .ok (.alt (.char (.single 97)) (.char (.single 98))) := rfl
  have hbuild := build_regexp_partial_iff.mpr ⟨_, hcompile, rfl⟩
  obtain ⟨tree, pattern, htree, hpattern, hanywhere, hbuilds, hpasses⟩ :=
    regexp_exact_of_partial hbuild
  obtain rfl : tree = .alternate [.literal { char := 'a' }, .literal { char := 'b' }] :=
    Option.some.inj (htree.symm.trans rfl)
  obtain rfl := Except.ok.inj (hpattern.symm.trans hcompile)
  have hclosed : ¬ ∃ other, ContentTest.build "regexp_partial" ("a|b" ++ ")$") = .ok other := by
    rintro ⟨other, hother⟩
    cases hother
  obtain ⟨whole, hwhole⟩ := hbuilds.mpr ⟨hclosed, by decide, by decide⟩
  have hfirst : (Haystack.ofBytes (Utf8.encode "ab")).char? 0 = some ('a', 1) := rfl
  refine ⟨_, whole, hbuild, hwhole, ?_, ?_, ?_⟩
  · exact (hpasses whole hwhole _).1.mpr (.right (.char (c := 'b') rfl rfl))
  · exact (hanywhere _).mpr ⟨0, 1, Nat.zero_le _, .left (.char hfirst rfl)⟩
  · rw [← Bool.not_eq_true, (hpasses whole hwhole _).1]
    intro hmatches
    generalize hlength : (Utf8.encode "ab").length = stop at hmatches
    cases hmatches with
    | left hbranch | right hbranch =>
        cases hbranch with
        | char hchar =>
            rw [hfirst] at hchar
            cases hchar
            cases hlength

/-- An argument that does not note down a pattern may build between the anchors, where its
parentheses close the group and open another, and one that does may not, where its comment takes
the closing mark. -/
theorem regexp_exact_differs :
    ((∃ whole, ContentTest.build "regexp_exact" "a)(?:b" = .ok whole) ∧
      ¬ ∃ anywhere, ContentTest.build "regexp_partial" "a)(?:b" = .ok anywhere) ∧
    (∃ anywhere, ContentTest.build "regexp_partial" "(?x)a#" = .ok anywhere) ∧
      ¬ ∃ whole, ContentTest.build "regexp_exact" "(?x)a#" = .ok whole := by
  refine ⟨⟨⟨_, rfl⟩, ?_⟩, ⟨_, rfl⟩, ?_⟩
  · rintro ⟨anywhere, hbuild⟩
    cases hbuild
  · rintro ⟨whole, hbuild⟩
    cases hbuild

end Tests

end Intake
