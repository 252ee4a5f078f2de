import Mathlib
import Intake.Regex.Search

/-!
# Searching finds what a pattern matches

Running a plan over a set of positions follows the matches of its pattern from all of them at
once.  Only an unbounded repetition needs an argument: the positions that it reaches grow with
every round until they stay as they are, and there are not more rounds than positions.
-/

namespace Intake

/-! ## Characters of a haystack -/

namespace Utf8

theorem Begun.missing_of_extend {state next : Begun} {b : UInt8}
    (hextend : state.extend b = .begun next) :
    0 < next.missing ∧ next.missing + 1 = state.missing := by
  unfold Begun.extend at hextend
  split at hextend
  · simp only at hextend
    split at hextend
    · cases hextend
    · cases hextend
      simp only
      omega
  · cases hextend

theorem missing_of_lead {b : UInt8} {state : Begun} (hlead : lead b = .begun state) :
    0 < state.missing ∧ state.missing ≤ 3 := by
  unfold lead at hlead
  simp only at hlead
  repeat' split at hlead
  all_goals cases hlead <;> simp

theorem more_width {state : Begun} {taken width : Nat} {c : Char} {content : Bytes}
    (hmissing : 0 < state.missing)
    (hmore : first?.more state taken content = some (c, width)) :
    taken < width ∧ width ≤ taken + content.length ∧ width ≤ taken + state.missing := by
  induction content generalizing state taken with
  | nil => simp [first?.more] at hmore
  | cons b rest ih =>
      rw [first?.more] at hmore
      split at hmore
      · cases hmore
        simp only [List.length_cons]
        omega
      · next next hextend =>
        obtain ⟨hnext, hfewer⟩ := Begun.missing_of_extend hextend
        have hwidth := ih hnext hmore
        simp only [List.length_cons]
        omega
      · cases hmore

theorem first?_width {content : Bytes} {c : Char} {width : Nat}
    (hfirst : first? content = some (c, width)) :
    0 < width ∧ width ≤ 4 ∧ width ≤ content.length := by
  cases content with
  | nil => cases hfirst
  | cons b rest =>
      rw [first?] at hfirst
      split at hfirst
      · cases hfirst
        simp
      · cases hfirst
      · next state hlead =>
        obtain ⟨hmissing, hfew⟩ := missing_of_lead hlead
        have hwidth := more_width hmissing hfirst
        simp only [List.length_cons]
        omega

end Utf8

namespace Regex

namespace Haystack

theorem getElem?_heads (content : Bytes) (i : Nat) :
    ((heads content)[i]?).join = Utf8.first? (content.drop i) := by
  induction content generalizing i with
  | nil => simp [heads, Utf8.first?]
  | cons b rest ih =>
      cases i with
      | zero => simp [heads]
      | succ i => simpa [heads] using ih i

@[simp] theorem size_ofBytes (content : Bytes) : (ofBytes content).size = content.length := by
  simp [ofBytes, size]

theorem char?_ofBytes (content : Bytes) (i : Nat) :
    (ofBytes content).char? i = Utf8.first? (content.drop i) := by
  simp [ofBytes, char?, getElem?_heads]

variable {content : Bytes} {i width : Nat} {c : Char}

/-- A character takes between one and four bytes, all of them in the haystack. -/
theorem char?_width (hchar : (ofBytes content).char? i = some (c, width)) :
    0 < width ∧ width ≤ 4 ∧ i + width ≤ content.length := by
  rw [char?_ofBytes] at hchar
  have hwidth := Utf8.first?_width hchar
  rw [List.length_drop] at hwidth
  omega

theorem byte?_lt {b : UInt8} (hbyte : (ofBytes content).byte? i = some b) :
    i < content.length := by
  simpa [ofBytes, byte?] using (Array.getElem?_eq_some_iff.mp hbyte).1

end Haystack

/-! ## Sets of positions -/

theorem testBit_positions (test : Nat → Bool) (bound i : Nat) :
    (positions test bound).testBit i = (decide (i < bound) && test i) := by
  induction bound with
  | zero => simp [positions]
  | succ bound ih =>
      by_cases hlast : i = bound
      · subst hlast
        cases htest : test i <;> simp [positions, htest, ih]
      · have hless : decide (i < bound + 1) = decide (i < bound) := by
          simp only [decide_eq_decide]
          omega
        have hbit : (1 <<< bound).testBit i = false := by
          rw [Nat.one_shiftLeft, Nat.testBit_two_pow]
          simp only [decide_eq_false_iff_not]
          omega
        rw [hless, ← ih, positions]
        split
        · rw [Nat.testBit_or, hbit, Bool.or_false]
        · rfl

/-- Whether a set holds positions of a haystack only. -/
def Within (size s : Nat) : Prop := ∀ i, s.testBit i = true → i ≤ size

theorem iterate_eq (f : Nat → Nat) (times s : Nat) : iterate f times s = f^[times] s := by
  induction times generalizing s with
  | zero => rfl
  | succ times ih =>
      rw [iterate]
      by_cases hsteady : f s = s
      · rw [if_pos hsteady, Function.iterate_succ_apply, hsteady]
        exact (Function.iterate_fixed hsteady times).symm
      · rw [if_neg hsteady, ih, Function.iterate_succ_apply]

section Growing

variable {size s : Nat} {f : Nat → Nat}

/-- The positions that are reached after some rounds of growing. -/
def reached (size s : Nat) (f : Nat → Nat) (rounds : Nat) : Finset Nat :=
  (Finset.range (size + 1)).filter fun i => (f^[rounds] s).testBit i = true

theorem mem_reached (hwithin : ∀ rounds, Within size (f^[rounds] s)) (rounds i : Nat) :
    i ∈ reached size s f rounds ↔ (f^[rounds] s).testBit i = true := by
  have hbound := hwithin rounds i
  rw [reached, Finset.mem_filter, Finset.mem_range]
  exact ⟨fun h => h.2, fun h => ⟨Nat.lt_succ_of_le (hbound h), h⟩⟩

section Steady

variable (hwithin : ∀ rounds, Within size (f^[rounds] s))
  (hgrows : ∀ rounds i, (f^[rounds] s).testBit i = true → (f^[rounds + 1] s).testBit i = true)
include hwithin hgrows

theorem card_reached_lt {rounds : Nat} (hmoves : f^[rounds + 1] s ≠ f^[rounds] s) :
    (reached size s f rounds).card < (reached size s f (rounds + 1)).card := by
  refine Finset.card_lt_card (Finset.ssubset_iff_subset_ne.mpr ⟨fun i hi => ?_, fun heq => ?_⟩)
  · rw [mem_reached hwithin] at hi ⊢
    exact hgrows rounds i hi
  · refine hmoves (Nat.eq_of_testBit_eq fun i => ?_)
    rw [Bool.eq_iff_iff, ← mem_reached hwithin, ← mem_reached hwithin, heq]

theorem steady_or_lt_card (rounds : Nat) :
    f^[rounds + 1] s = f^[rounds] s ∨ rounds < (reached size s f (rounds + 1)).card := by
  induction rounds with
  | zero =>
      by_cases hmoves : f^[1] s = f^[0] s
      · exact .inl hmoves
      · have hless := card_reached_lt hwithin hgrows hmoves
        exact .inr (by omega)
  | succ rounds ih =>
      by_cases hmoves : f^[rounds + 2] s = f^[rounds + 1] s
      · exact .inl hmoves
      · have hless := card_reached_lt hwithin hgrows hmoves
        rcases ih with hsteady | hcard
        · have hsame := congrArg f hsteady
          simp only [← Function.iterate_succ_apply'] at hsame
          exact absurd hsame hmoves
        · exact .inr (by omega)

/-- A set that only grows stays as it is once it has grown as often as there are
positions. -/
theorem iterate_of_le {rounds : Nat} (hrounds : size + 1 ≤ rounds) :
    f^[rounds] s = f^[size + 1] s := by
  have hsteady : f^[size + 2] s = f^[size + 1] s := by
    rcases steady_or_lt_card hwithin hgrows (size + 1) with hsteady | hcard
    · exact hsteady
    · have hmost : (reached size s f (size + 1 + 1)).card ≤ size + 1 := by
        simpa [reached] using
          Finset.card_filter_le (Finset.range (size + 1))
            fun i => (f^[size + 1 + 1] s).testBit i = true
      omega
  induction rounds, hrounds using Nat.le_induction with
  | base => rfl
  | succ rounds _ ih =>
      rw [Function.iterate_succ_apply', ih, ← Function.iterate_succ_apply' f, hsteady]

end Steady

end Growing

/-! ## Plans follow matches -/

namespace Pattern

variable {hay : Haystack} {content : Bytes} {pattern inner : Pattern}

/-- Whether no repetition asks for more rounds than it allows. -/
def Ordered : Pattern → Prop
  | empty | char _ | byte _ | look _ => True
  | seq first second => first.Ordered ∧ second.Ordered
  | alt left right => left.Ordered ∧ right.Ordered
  | «repeat» inner least most => inner.Ordered ∧ ∀ bound, most = some bound → least ≤ bound

theorem MatchesTimes.le {times i j : Nat}
    (hinner : ∀ i j, Matches (.ofBytes content) inner i j → i ≤ content.length →
      j ≤ content.length)
    (hmatches : MatchesTimes (.ofBytes content) inner times i j) (hbound : i ≤ content.length) :
    j ≤ content.length := by
  induction times generalizing i with
  | zero =>
      cases hmatches
      exact hbound
  | succ times ih =>
      cases hmatches with
      | more hfirst hrest => exact ih hrest (hinner _ _ hfirst hbound)

theorem Matches.le {i j : Nat} (hmatches : Matches (.ofBytes content) pattern i j)
    (hbound : i ≤ content.length) : j ≤ content.length := by
  induction pattern generalizing i j with
  | empty | look =>
      cases hmatches
      exact hbound
  | char =>
      cases hmatches with
      | char hchar => exact (Haystack.char?_width hchar).2.2
  | byte =>
      cases hmatches with
      | byte hbyte => exact Haystack.byte?_lt hbyte
  | seq first second ihfirst ihsecond =>
      cases hmatches with
      | seq hfirst hsecond => exact ihsecond hsecond (ihfirst hfirst hbound)
  | alt left right ihleft ihright =>
      cases hmatches with
      | left hleft => exact ihleft hleft hbound
      | right hright => exact ihright hright hbound
  | «repeat» inner least most ih =>
      cases hmatches with
      | «repeat» _ _ htimes => exact htimes.le (fun _ _ hinner => ih hinner) hbound

/-- Whether a function on sets of positions follows a pattern: it leads from a set within the
haystack to where the pattern may end. -/
def Follows (content : Bytes) (pattern : Pattern) (f : Nat → Nat) : Prop :=
  ∀ s, Within content.length s → ∀ j,
    (f s).testBit j = true ↔ ∃ i, s.testBit i = true ∧ pattern.Matches (.ofBytes content) i j

variable {f : Nat → Nat} {s : Nat}

theorem Follows.within (hfollows : Follows content pattern f) (hs : Within content.length s) :
    Within content.length (f s) := by
  intro j hj
  obtain ⟨i, hi, hmatches⟩ := (hfollows s hs j).mp hj
  exact hmatches.le (hs i hi)

theorem Follows.iterate (hfollows : Follows content inner f) (times : Nat)
    (hs : Within content.length s) (j : Nat) :
    (f^[times] s).testBit j = true ↔
      ∃ i, s.testBit i = true ∧ MatchesTimes (.ofBytes content) inner times i j := by
  induction times generalizing s with
  | zero =>
      constructor
      · exact fun hj => ⟨j, hj, .none⟩
      · rintro ⟨i, hi, hmatches⟩
        cases hmatches
        exact hi
  | succ times ih =>
      rw [Function.iterate_succ_apply, ih (hfollows.within hs)]
      constructor
      · rintro ⟨k, hk, hrest⟩
        obtain ⟨i, hi, hfirst⟩ := (hfollows s hs k).mp hk
        exact ⟨i, hi, .more hfirst hrest⟩
      · rintro ⟨i, hi, hmatches⟩
        cases hmatches with
        | more hfirst hrest => exact ⟨_, (hfollows s hs _).mpr ⟨i, hi, hfirst⟩, hrest⟩

theorem Follows.within_iterate (hfollows : Follows content inner f) (times : Nat)
    (hs : Within content.length s) : Within content.length (f^[times] s) := by
  intro k hk
  obtain ⟨i, hi, hmatches⟩ := (hfollows.iterate times hs k).mp hk
  exact hmatches.le (fun _ _ hinner => hinner.le) (hs i hi)

/-- Taking what is there along with what is reached allows any smaller number of rounds. -/
theorem Follows.iterate_or (hfollows : Follows content inner f) (rounds : Nat)
    (hs : Within content.length s) (j : Nat) :
    ((fun s => s ||| f s)^[rounds] s).testBit j = true ↔
      ∃ i times, times ≤ rounds ∧ s.testBit i = true ∧
        MatchesTimes (.ofBytes content) inner times i j := by
  induction rounds generalizing s with
  | zero =>
      constructor
      · exact fun hj => ⟨j, 0, le_refl 0, hj, .none⟩
      · rintro ⟨i, times, htimes, hi, hmatches⟩
        obtain rfl : times = 0 := by omega
        cases hmatches
        exact hi
  | succ rounds ih =>
      have hboth : Within content.length (s ||| f s) := by
        intro i hi
        rw [Nat.testBit_or, Bool.or_eq_true] at hi
        exact hi.elim (hs i) (hfollows.within hs i)
      rw [Function.iterate_succ_apply, ih hboth]
      simp only [Nat.testBit_or, Bool.or_eq_true]
      constructor
      · rintro ⟨k, times, htimes, hk | hk, hrest⟩
        · exact ⟨k, times, by omega, hk, hrest⟩
        · obtain ⟨i, hi, hfirst⟩ := (hfollows s hs k).mp hk
          exact ⟨i, times + 1, by omega, hi, .more hfirst hrest⟩
      · rintro ⟨i, times, htimes, hi, hmatches⟩
        cases hmatches with
        | none => exact ⟨_, 0, by omega, .inl hi, .none⟩
        | more hfirst hrest =>
            exact ⟨_, _, by omega, .inr ((hfollows s hs _).mpr ⟨i, hi, hfirst⟩), hrest⟩

/-- As many rounds as there are positions are as good as any number. -/
theorem Follows.iterate_or_all (hfollows : Follows content inner f)
    (hs : Within content.length s) (j : Nat) :
    ((fun s => s ||| f s)^[content.length + 1] s).testBit j = true ↔
      ∃ i times, s.testBit i = true ∧ MatchesTimes (.ofBytes content) inner times i j := by
  have hwithin : ∀ rounds, Within content.length ((fun s => s ||| f s)^[rounds] s) := by
    intro rounds k hk
    obtain ⟨i, times, -, hi, hmatches⟩ := (hfollows.iterate_or rounds hs k).mp hk
    exact hmatches.le (fun _ _ hinner => hinner.le) (hs i hi)
  have hgrows : ∀ rounds i, ((fun s => s ||| f s)^[rounds] s).testBit i = true →
      ((fun s => s ||| f s)^[rounds + 1] s).testBit i = true := by
    intro rounds i hi
    rw [Function.iterate_succ_apply', Nat.testBit_or, hi, Bool.true_or]
  constructor
  · intro hj
    obtain ⟨i, times, -, hi, hmatches⟩ := (hfollows.iterate_or _ hs j).mp hj
    exact ⟨i, times, hi, hmatches⟩
  · rintro ⟨i, times, hi, hmatches⟩
    have hj := (hfollows.iterate_or (max times (content.length + 1)) hs j).mpr
      ⟨i, times, le_max_left _ _, hi, hmatches⟩
    -- The set only grows, so it stays as it is once there are as many rounds as positions.
    rwa [iterate_of_le hwithin hgrows (le_max_right _ _)] at hj

theorem testBit_advance (jumps : List (Nat × Nat)) (bound s j : Nat) :
    ((Plan.advance jumps).run bound s).testBit j = true ↔
      ∃ width starts i, (width, starts) ∈ jumps ∧ j = i + width ∧ s.testBit i = true ∧
        starts.testBit i = true := by
  have hfold : ∀ reached : Nat,
      (jumps.foldl (fun reached jump => reached ||| (s &&& jump.2) <<< jump.1) reached).testBit
        j = true ↔ reached.testBit j = true ∨
        ∃ width starts i, (width, starts) ∈ jumps ∧ j = i + width ∧ s.testBit i = true ∧
          starts.testBit i = true := by
    intro reached
    induction jumps generalizing reached with
    | nil => simp
    | cons jump rest ih =>
        obtain ⟨width, starts⟩ := jump
        have hjump : ((s &&& starts) <<< width).testBit j = true ↔
            ∃ i, j = i + width ∧ s.testBit i = true ∧ starts.testBit i = true := by
          simp only [Nat.testBit_shiftLeft, Nat.testBit_and, Bool.and_eq_true, decide_eq_true_eq]
          constructor
          · rintro ⟨hwidth, hs, hstarts⟩
            exact ⟨j - width, by omega, hs, hstarts⟩
          · rintro ⟨i, rfl, hs, hstarts⟩
            rw [Nat.add_sub_cancel]
            exact ⟨by omega, hs, hstarts⟩
        rw [List.foldl_cons, ih, Nat.testBit_or, Bool.or_eq_true, hjump]
        simp only [List.mem_cons, Prod.mk.injEq]
        constructor
        · rintro ((hreached | ⟨i, hi⟩) | ⟨w, st, i, hmem, hi⟩)
          · exact .inl hreached
          · exact .inr ⟨width, starts, i, .inl ⟨rfl, rfl⟩, hi⟩
          · exact .inr ⟨w, st, i, .inr hmem, hi⟩
        · rintro (hreached | ⟨w, st, i, ⟨rfl, rfl⟩ | hmem, hi⟩)
          · exact .inl (.inl hreached)
          · exact .inl (.inr ⟨i, hi⟩)
          · exact .inr ⟨w, st, i, hmem, hi⟩
  rw [Plan.run, hfold]
  simp

theorem matchesTimes_add {i j k first second : Nat}
    (hfirst : MatchesTimes hay inner first i j) (hsecond : MatchesTimes hay inner second j k) :
    MatchesTimes hay inner (first + second) i k := by
  induction first generalizing i with
  | zero =>
      cases hfirst
      rwa [Nat.zero_add]
  | succ first ih =>
      cases hfirst with
      | more hone hrest =>
          rw [Nat.succ_add]
          exact .more hone (ih hrest)

theorem exists_of_matchesTimes_add {i k first second : Nat}
    (hmatches : MatchesTimes hay inner (first + second) i k) :
    ∃ j, MatchesTimes hay inner first i j ∧ MatchesTimes hay inner second j k := by
  induction first generalizing i with
  | zero => exact ⟨i, .none, by rwa [Nat.zero_add] at hmatches⟩
  | succ first ih =>
      rw [Nat.succ_add] at hmatches
      cases hmatches with
      | more hone hrest =>
          obtain ⟨j, hfirst, hsecond⟩ := ih hrest
          exact ⟨j, .more hone hfirst, hsecond⟩

section Following

variable {bound : Nat}

theorem follows_empty : Follows content .empty (Plan.run bound .stay) := by
  intro s _ j
  constructor
  · exact fun hj => ⟨j, hj, .empty⟩
  · rintro ⟨i, hi, hmatches⟩
    cases hmatches
    exact hi

theorem follows_char (set : Unicode.CharSet) :
    Follows content (.char set) (Plan.run bound ((char set).over (.ofBytes content))) := by
  intro s _ j
  rw [Pattern.over, testBit_advance]
  constructor
  · rintro ⟨width, starts, i, hmem, rfl, hi, hstarts⟩
    obtain ⟨other, -, heq⟩ := List.mem_map.mp hmem
    cases heq
    rw [testBit_positions, Bool.and_eq_true] at hstarts
    have htest := hstarts.2
    split at htest
    · next c taken hchar =>
      rw [Bool.and_eq_true, beq_iff_eq] at htest
      obtain ⟨rfl, hset⟩ := htest
      exact ⟨i, hi, .char hchar hset⟩
    · cases htest
  · rintro ⟨i, hi, hmatches⟩
    cases hmatches with
    | @char _ _ width c hchar hset =>
        obtain ⟨hpos, hmost, hend⟩ := Haystack.char?_width hchar
        refine ⟨width, _, i, List.mem_map.mpr ⟨width, ?_, rfl⟩, rfl, hi, ?_⟩
        · simp only [List.mem_cons, List.not_mem_nil, or_false]
          omega
        · rw [testBit_positions, Haystack.size_ofBytes, hchar]
          simp only [hset, beq_self_eq_true, Bool.and_self, Bool.and_true, decide_eq_true_eq]
          omega

theorem follows_byte (set : Unicode.CharSet) :
    Follows content (.byte set) (Plan.run bound ((byte set).over (.ofBytes content))) := by
  intro s _ j
  rw [Pattern.over, testBit_advance]
  constructor
  · rintro ⟨width, starts, i, hmem, rfl, hi, hstarts⟩
    cases List.mem_singleton.mp hmem
    rw [testBit_positions, Bool.and_eq_true] at hstarts
    have htest := hstarts.2
    split at htest
    · next b hbyte => exact ⟨i, hi, .byte hbyte htest⟩
    · cases htest
  · rintro ⟨i, hi, hmatches⟩
    cases hmatches with
    | @byte _ _ b hbyte hset =>
        have hless := Haystack.byte?_lt hbyte
        refine ⟨1, _, i, List.mem_singleton.mpr rfl, rfl, hi, ?_⟩
        rw [testBit_positions, Haystack.size_ofBytes, hbyte]
        simp [hless, hset]

theorem follows_look (condition : Look) :
    Follows content (.look condition)
      (Plan.run bound ((look condition).over (.ofBytes content))) := by
  intro s hs j
  rw [Pattern.over, Plan.run, Nat.testBit_and, testBit_positions, Haystack.size_ofBytes]
  simp only [Bool.and_eq_true, decide_eq_true_eq]
  constructor
  · rintro ⟨hj, -, hholds⟩
    exact ⟨j, hj, .look hholds⟩
  · rintro ⟨i, hi, hmatches⟩
    cases hmatches with
    | look hholds => exact ⟨hi, Nat.lt_succ_of_le (hs _ hi), hholds⟩

theorem Follows.seq {first second : Pattern} {f g : Nat → Nat}
    (hfirst : Follows content first f) (hsecond : Follows content second g) :
    Follows content (.seq first second) fun s => g (f s) := by
  intro s hs j
  rw [hsecond (f s) (hfirst.within hs)]
  constructor
  · rintro ⟨k, hk, hmatches⟩
    obtain ⟨i, hi, hbefore⟩ := (hfirst s hs k).mp hk
    exact ⟨i, hi, .seq hbefore hmatches⟩
  · rintro ⟨i, hi, hmatches⟩
    cases hmatches with
    | seq hbefore hafter => exact ⟨_, (hfirst s hs _).mpr ⟨i, hi, hbefore⟩, hafter⟩

theorem Follows.alt {left right : Pattern} {f g : Nat → Nat}
    (hleft : Follows content left f) (hright : Follows content right g) :
    Follows content (.alt left right) fun s => f s ||| g s := by
  intro s hs j
  rw [Nat.testBit_or, Bool.or_eq_true, hleft s hs, hright s hs]
  constructor
  · rintro (⟨i, hi, hmatches⟩ | ⟨i, hi, hmatches⟩)
    · exact ⟨i, hi, .left hmatches⟩
    · exact ⟨i, hi, .right hmatches⟩
  · rintro ⟨i, hi, hmatches⟩
    cases hmatches with
    | left hone => exact .inl ⟨i, hi, hone⟩
    | right hone => exact .inr ⟨i, hi, hone⟩

theorem Follows.repeat_upTo (hfollows : Follows content inner f) {least most : Nat}
    (hordered : least ≤ most) :
    Follows content (.repeat inner least (some most)) fun s =>
      (fun s => s ||| f s)^[most - least] (f^[least] s) := by
  intro s hs j
  rw [hfollows.iterate_or _ (hfollows.within_iterate least hs)]
  constructor
  · rintro ⟨k, times, htimes, hk, hrest⟩
    obtain ⟨i, hi, hfirst⟩ := (hfollows.iterate least hs k).mp hk
    refine ⟨i, hi, .repeat (Nat.le_add_right least times) ?_ (matchesTimes_add hfirst hrest)⟩
    intro bound heq
    cases heq
    omega
  · rintro ⟨i, hi, hmatches⟩
    cases hmatches with
    | @«repeat» _ _ times _ _ _ hlow hhigh htimes =>
        have hmost := hhigh most rfl
        obtain ⟨more, rfl⟩ := Nat.exists_eq_add_of_le hlow
        obtain ⟨k, hfirst, hrest⟩ := exists_of_matchesTimes_add htimes
        exact ⟨k, more, by omega, (hfollows.iterate least hs k).mpr ⟨i, hi, hfirst⟩, hrest⟩

theorem Follows.repeat_ever (hfollows : Follows content inner f) (least : Nat) :
    Follows content (.repeat inner least none) fun s =>
      (fun s => s ||| f s)^[content.length + 1] (f^[least] s) := by
  intro s hs j
  rw [hfollows.iterate_or_all (hfollows.within_iterate least hs)]
  constructor
  · rintro ⟨k, times, hk, hrest⟩
    obtain ⟨i, hi, hfirst⟩ := (hfollows.iterate least hs k).mp hk
    exact ⟨i, hi, .repeat (Nat.le_add_right least times) (by simp)
      (matchesTimes_add hfirst hrest)⟩
  · rintro ⟨i, hi, hmatches⟩
    cases hmatches with
    | @«repeat» _ _ times _ _ _ hlow _ htimes =>
        obtain ⟨more, rfl⟩ := Nat.exists_eq_add_of_le hlow
        obtain ⟨k, hfirst, hrest⟩ := exists_of_matchesTimes_add htimes
        exact ⟨k, more, (hfollows.iterate least hs k).mpr ⟨i, hi, hfirst⟩, hrest⟩

/-- A plan follows its pattern. -/
theorem follows_over (hordered : pattern.Ordered) :
    Follows content pattern
      (Plan.run (content.length + 1) (pattern.over (.ofBytes content))) := by
  induction pattern with
  | empty => exact follows_empty
  | char set => exact follows_char set
  | byte set => exact follows_byte set
  | look condition => exact follows_look condition
  | seq first second ihfirst ihsecond =>
      exact (ihfirst hordered.1).seq (ihsecond hordered.2)
  | alt left right ihleft ihright => exact (ihleft hordered.1).alt (ihright hordered.2)
  | «repeat» inner least most ih =>
      intro s hs j
      cases most with
      | some most =>
          have hfollows := (ih hordered.1).repeat_upTo (hordered.2 most rfl)
          simp only [Pattern.over, Plan.run, iterate_eq]
          exact hfollows s hs j
      | none =>
          have hfollows := (ih hordered.1).repeat_ever least
          simp only [Pattern.over, Plan.run, iterate_eq]
          exact hfollows s hs j

end Following

/-- Searching content tells whether a pattern matches any of it. -/
theorem isMatch_iff (hordered : pattern.Ordered) :
    pattern.isMatch content = true ↔
      ∃ i j, i ≤ content.length ∧ pattern.Matches (.ofBytes content) i j := by
  have hall : Within content.length (positions (fun _ => true) (content.length + 1)) := by
    intro i hi
    rw [testBit_positions, Bool.and_eq_true, decide_eq_true_eq] at hi
    omega
  have hfollows := follows_over hordered _ hall
  simp only [isMatch, Haystack.size_ofBytes, bne_iff_ne, ne_eq]
  constructor
  · intro hsome
    obtain ⟨j, hj⟩ := Nat.exists_testBit_of_ne_zero hsome
    obtain ⟨i, hi, hmatches⟩ := (hfollows j).mp hj
    exact ⟨i, j, hall i hi, hmatches⟩
  · rintro ⟨i, j, hi, hmatches⟩ hzero
    have hj := (hfollows j).mpr ⟨i, by
      rw [testBit_positions, Bool.and_true, decide_eq_true_eq]
      omega, hmatches⟩
    rw [hzero, Nat.zero_testBit] at hj
    cases hj

end Pattern

end Regex
end Intake
