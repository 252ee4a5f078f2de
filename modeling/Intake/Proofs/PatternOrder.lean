import Intake.Proofs.PatternBodies
import Intake.Proofs.PatternSearch

/-!
# Repetitions of patterns that are read

The reader refuses a counted repetition whose least number is above its greatest one.  So every
pattern that a text notes down is one that a search decides.
-/

namespace Intake.Regex

/-! ## Trees -/

namespace Tree

mutual

/-- Whether no repetition in a tree asks for more than it allows. -/
def Ordered : Tree → Prop
  | «repeat» inner least most => inner.Ordered ∧ ∀ bound, most = some bound → least ≤ bound
  | group _ inner => inner.Ordered
  | concat items => AllOrdered items
  | alternate branches => AllOrdered branches
  | empty | flags _ | literal _ | dot | anchor _ | short _ _ | property _ _ | bracketed _ _ => True

def AllOrdered : List Tree → Prop
  | [] => True
  | tree :: rest => tree.Ordered ∧ AllOrdered rest

end

theorem allOrdered_iff {trees : List Tree} : AllOrdered trees ↔ ∀ tree ∈ trees, tree.Ordered := by
  induction trees with
  | nil => simp [AllOrdered]
  | cons tree rest ih => simp [AllOrdered, ih]

theorem ordered_ofItems {items : List Tree} (hitems : ∀ item ∈ items, item.Ordered) :
    (ofItems items).Ordered := by
  unfold ofItems
  split
  · exact trivial
  · exact hitems _ List.mem_cons_self
  · exact allOrdered_iff.mpr hitems

theorem ordered_ofBranches {branches : List Tree}
    (hbranches : ∀ branch ∈ branches, branch.Ordered) : (ofBranches branches).Ordered := by
  unfold ofBranches
  split
  · exact trivial
  · exact hbranches _ List.mem_cons_self
  · exact allOrdered_iff.mpr hbranches

end Tree

theorem Atom.ordered_tree (atom : Atom) : atom.tree.Ordered := by
  cases atom <;> exact trivial

/-! ## Patterns -/

namespace Pattern

theorem ordered_sequence {patterns : List Pattern}
    (hpatterns : ∀ pattern ∈ patterns, pattern.Ordered) : (sequence patterns).Ordered := by
  induction patterns with
  | nil => exact trivial
  | cons first rest ih =>
      obtain ⟨hfirst, hrest⟩ := List.forall_mem_cons.mp hpatterns
      cases rest with
      | nil => exact hfirst
      | cons second more => exact ⟨hfirst, ih hrest⟩

theorem ordered_choice {patterns : List Pattern}
    (hpatterns : ∀ pattern ∈ patterns, pattern.Ordered) : (choice patterns).Ordered := by
  induction patterns with
  | nil => exact trivial
  | cons first rest ih =>
      obtain ⟨hfirst, hrest⟩ := List.forall_mem_cons.mp hpatterns
      cases rest with
      | nil => exact hfirst
      | cons second more => exact ⟨hfirst, ih hrest⟩

end Pattern

theorem Mode.ordered_oneOf (mode : Mode) (set : Unicode.CharSet) : (mode.oneOf set).Ordered := by
  unfold Mode.oneOf
  split <;> exact trivial

theorem Literal.ordered_pattern (literal : Literal) (mode : Mode) :
    (literal.pattern mode).Ordered := by
  unfold Literal.pattern
  simp only
  split
  · exact trivial
  · split <;> exact trivial

mutual

/-- The meaning of a tree repeats what the tree repeats. -/
theorem Tree.Ordered.meaning? : (tree : Tree) → tree.Ordered → {mode after : Mode} →
    {pattern : Pattern} → tree.meaning? mode = some (pattern, after) → pattern.Ordered
  | .empty, _, _, _, _, h | .flags _, _, _, _, _, h | .anchor _, _, _, _, _, h => by
      cases h
      exact trivial
  | .literal l, _, mode, _, _, h => by
      cases h
      exact l.ordered_pattern mode
  | .dot, _, mode, _, _, h => by
      cases h
      exact mode.ordered_oneOf _
  | .short _ _, _, mode, _, _, h => by
      cases h
      exact mode.ordered_oneOf _
  | .property query _, _, mode, _, _, h => by
      simp only [Tree.meaning?] at h
      split at h
      · obtain ⟨set, -, heq⟩ := Option.map_eq_some_iff.mp h
        cases heq
        exact trivial
      · cases h
  | .bracketed _ _, _, mode, _, _, h => by
      obtain ⟨set, -, heq⟩ := Option.map_eq_some_iff.mp h
      cases heq
      exact mode.ordered_oneOf _
  | .repeat inner least most, hordered, _, _, _, h => by
      obtain ⟨⟨pattern, after⟩, hinner, heq⟩ := Option.bind_eq_some_iff.mp h
      cases heq
      exact ⟨Tree.Ordered.meaning? inner hordered.1 hinner, hordered.2⟩
  | .group changes inner, hordered, _, _, _, h => by
      obtain ⟨⟨pattern, after⟩, hinner, heq⟩ := Option.bind_eq_some_iff.mp h
      cases heq
      exact Tree.Ordered.meaning? inner hordered hinner
  | .concat items, hordered, _, _, _, h => by
      obtain ⟨⟨patterns, after⟩, hitems, heq⟩ := Option.bind_eq_some_iff.mp h
      cases heq
      exact Pattern.ordered_sequence (Tree.AllOrdered.meanings? items hordered hitems)
  | .alternate branches, hordered, _, _, _, h => by
      obtain ⟨⟨patterns, after⟩, hbranches, heq⟩ := Option.bind_eq_some_iff.mp h
      cases heq
      exact Pattern.ordered_choice (Tree.AllOrdered.meanings? branches hordered hbranches)

theorem Tree.AllOrdered.meanings? : (trees : List Tree) → Tree.AllOrdered trees →
    {mode after : Mode} → {patterns : List Pattern} →
    Regex.meanings? mode trees = some (patterns, after) → ∀ pattern ∈ patterns, pattern.Ordered
  | [], _, _, _, _, h => by
      cases h
      exact fun _ hmem => absurd hmem List.not_mem_nil
  | tree :: rest, hordered, _, _, _, h => by
      obtain ⟨⟨pattern, between⟩, htree, h⟩ := Option.bind_eq_some_iff.mp h
      obtain ⟨⟨patterns, after⟩, hrest, heq⟩ := Option.bind_eq_some_iff.mp h
      cases heq
      exact List.forall_mem_cons.mpr ⟨Tree.Ordered.meaning? tree hordered.1 htree,
        Tree.AllOrdered.meanings? rest hordered.2 hrest⟩

end

/-! ## The reader -/

section Reading

variable {cursor : Cursor} {branches items : List Tree}

theorem closedBounds?_bounds {least : Nat} {most : Option Nat}
    {result : Nat × Option Nat × Cursor} (hread : closedBounds? least most cursor = some result) :
    result.1 = least ∧ result.2.1 = most := by
  rw [closedBounds?_eq] at hread
  split at hread
  · cases hread
    exact ⟨rfl, rfl⟩
  · cases hread

theorem bounds?_ordered {result : Nat × Option Nat × Cursor}
    (hread : bounds? cursor = some result) :
    ∀ bound, result.2.1 = some bound → result.1 ≤ bound := by
  intro bound hbound
  rw [bounds?_eq] at hread
  obtain ⟨⟨least, behind⟩, -, hread⟩ := Option.bind_eq_some_iff.mp hread
  simp only at hread
  split at hread
  · split at hread
    · cases hread
    · split at hread
      · obtain ⟨-, hmost⟩ := closedBounds?_bounds hread
        rw [hmost] at hbound
        cases hbound
      · obtain ⟨⟨most, last⟩, -, hread⟩ := Option.bind_eq_some_iff.mp hread
        simp only at hread
        split at hread
        · next hordered =>
          obtain ⟨hleast, hmost⟩ := closedBounds?_bounds hread
          rw [hmost, Option.some.injEq] at hbound
          omega
        · cases hread
  · obtain ⟨hleast, hmost⟩ := closedBounds?_bounds hread
    rw [hmost, Option.some.injEq] at hbound
    omega

theorem repeatNewest?_ordered {least : Nat} {most : Option Nat} {repeated : List Tree}
    (hitems : ∀ item ∈ items, item.Ordered) (hbounds : ∀ bound, most = some bound → least ≤ bound)
    (hread : repeatNewest? items least most = some repeated) :
    ∀ item ∈ repeated, item.Ordered := by
  unfold repeatNewest? at hread
  split at hread
  · cases hread
  · cases hread
  · cases hread
  · next item rest _ _ =>
    cases hread
    obtain ⟨hitem, hrest⟩ := List.forall_mem_cons.mp hitems
    exact List.forall_mem_cons.mpr ⟨⟨hitem, hbounds⟩, hrest⟩

/-- The branches and the items of a body keep their repetitions in order. -/
structure OrderedBody (branches items : List Tree) : Prop where
  branches : ∀ branch ∈ branches, branch.Ordered
  items : ∀ item ∈ items, item.Ordered

theorem orderedBody_nil : OrderedBody [] [] :=
  ⟨by simp, by simp⟩

theorem OrderedBody.push (hbody : OrderedBody branches items) {item : Tree}
    (hitem : item.Ordered) : OrderedBody branches (item :: items) :=
  ⟨hbody.branches, List.forall_mem_cons.mpr ⟨hitem, hbody.items⟩⟩

theorem OrderedBody.repeat (hbody : OrderedBody branches items) {least : Nat} {most : Option Nat}
    (hbounds : ∀ bound, most = some bound → least ≤ bound)
    {result : (List Tree × List Tree) × Cursor}
    (hread : (repeatNewest? items least most).map (fun items => ((branches, items), cursor)) =
      some result) : OrderedBody result.1.1 result.1.2 := by
  obtain ⟨repeated, hrepeat, rfl⟩ := Option.map_eq_some_iff.mp hread
  exact ⟨hbody.branches, repeatNewest?_ordered hbody.items hbounds hrepeat⟩

theorem OrderedBody.closed_last (hbody : OrderedBody branches items) :
    ∀ branch ∈ Tree.ofItems items.reverse :: branches, branch.Ordered :=
  List.forall_mem_cons.mpr
    ⟨Tree.ordered_ofItems fun item hmem => hbody.items item (List.mem_reverse.mp hmem),
      hbody.branches⟩

theorem OrderedBody.close (hbody : OrderedBody branches items) :
    (closeBody branches items).Ordered :=
  Tree.ordered_ofBranches fun branch hmem =>
    hbody.closed_last branch (List.mem_reverse.mp hmem)

theorem OrderedBody.turn? {readGroup? : Cursor → Option (Tree × Cursor)}
    (hgroup : ∀ cursor read, readGroup? cursor = some read → read.1.Ordered)
    (hbody : OrderedBody branches items) {c : Char} {result : (List Tree × List Tree) × Cursor}
    (hread : turn? readGroup? branches items cursor c = some result) :
    OrderedBody result.1.1 result.1.2 := by
  unfold Regex.turn? at hread
  split at hread
  · cases hread
    exact ⟨hbody.closed_last, fun _ hmem => absurd hmem List.not_mem_nil⟩
  · obtain ⟨⟨opening, inside⟩, -, hread⟩ := Option.bind_eq_some_iff.mp hread
    cases opening with
    | flags changes =>
        cases hread
        exact hbody.push trivial
    | group changes =>
        obtain ⟨⟨inner, behind⟩, hinner, hread⟩ := Option.bind_eq_some_iff.mp hread
        simp only at hread
        split at hread
        · cases hread
          have hitem : Tree.Ordered (.group changes inner) := hgroup _ _ hinner
          exact hbody.push hitem
        · cases hread
  · obtain ⟨⟨cls, behind⟩, -, hread⟩ := Option.bind_eq_some_iff.mp hread
    simp only at hread
    split at hread
    · cases hread
      exact hbody.push trivial
    · cases hread
  · exact hbody.repeat (by simp) hread
  · exact hbody.repeat (by simp) hread
  · exact hbody.repeat (by simp) hread
  · obtain ⟨⟨least, most, behind⟩, hbounds, hread⟩ := Option.bind_eq_some_iff.mp hread
    exact hbody.repeat (bounds?_ordered hbounds) hread
  · obtain ⟨⟨atom, behind⟩, -, heq⟩ := Option.map_eq_some_iff.mp hread
    cases heq
    exact hbody.push atom.ordered_tree

theorem OrderedBody.body? {fuel : Nat} (hbody : OrderedBody branches items)
    {result : Tree × Cursor} (hread : body? fuel branches items cursor = some result) :
    result.1.Ordered := by
  induction fuel generalizing branches items cursor result with
  | zero => cases hread
  | succ fuel ih =>
      by_cases hend : cursor.settle.head? = none ∨ cursor.settle.head? = some ')'
      · rw [body?_end branches items hend] at hread
        cases hread
        exact hbody.close
      · obtain ⟨c, hhead⟩ : ∃ c, cursor.settle.head? = some c :=
          Option.ne_none_iff_exists'.mp fun hnone => hend (.inl hnone)
        -- A turn that reads a group reads a body with less fuel, so the hypothesis covers it.
        rw [body?_turn hhead fun heq => hend (.inr (heq ▸ hhead))] at hread
        obtain ⟨next, hturn, hrest⟩ := Option.bind_eq_some_iff.mp hread
        exact ih (hbody.turn? (fun _ _ hgroup => ih orderedBody_nil hgroup) hturn) hrest

theorem parse?_ordered {text : List Char} {tree : Tree} (hread : parse? text = some tree) :
    tree.Ordered := by
  obtain ⟨⟨read, cursor⟩, hbody, hread⟩ := Option.bind_eq_some_iff.mp hread
  simp only at hread
  split at hread
  · cases hread
    exact orderedBody_nil.body? hbody
  · cases hread

end Reading

/-- A text that notes down a pattern has a tree that means it, and the pattern fits. -/
theorem compile_eq_ok_iff {text : String} {pattern : Pattern} :
    compile text = .ok pattern ↔
      ∃ tree after, parse? text.toList = some tree ∧ tree.meaning? {} = some (pattern, after) ∧
        pattern.weight ≤ greatestWeight := by
  unfold compile
  cases hread : parse? text.toList with
  | none => simp
  | some tree =>
      cases hmeaning : tree.meaning? {} with
      | none => simp [hmeaning]
      | some result =>
          obtain ⟨other, mode⟩ := result
          by_cases hfits : other.weight ≤ greatestWeight
          · simp only [hmeaning, hfits, if_true, Except.ok.injEq, Option.some.injEq,
              exists_and_left, exists_eq_left', Prod.mk.injEq]
            constructor
            · rintro rfl
              exact ⟨mode, ⟨rfl, rfl⟩, hfits⟩
            · rintro ⟨after, ⟨rfl, -⟩, -⟩
              rfl
          · simp only [hmeaning, hfits, if_false, reduceCtorEq, false_iff]
            rintro ⟨other', after, htree, hother, hweight⟩
            cases htree
            rw [hmeaning] at hother
            cases hother
            exact hfits hweight

theorem compile_ordered {text : String} {pattern : Pattern}
    (hcompile : compile text = .ok pattern) : pattern.Ordered := by
  obtain ⟨tree, after, hread, hmeaning, -⟩ := compile_eq_ok_iff.mp hcompile
  exact Tree.Ordered.meaning? tree (parse?_ordered hread) hmeaning

end Intake.Regex
