import Intake.Proofs.ReceiptVerdicts

/-!
# Accounts of who was told what

Beside the receipts, an account keeps for every number what its creditor was
told, whether the creditor went away before it was told anything, and which
verdicts a distant holder pronounced.  The first two are read off the receipts
as they change, whoever changes them, so a verdict that is written twice, lost
or altered on its way would show here.

At any time a number is owed at most once: by somebody on the inner side, or,
once it has gone outward, by somebody on the outer side.
-/

namespace Intake

/-- What a change of the receipts tells the creditor of a number. -/
def Receipts.tells? (before after : Receipts) (number : Nat) : Option Verdict :=
  match before.get number, after.get number with
  | .open, .answered response => some (some response)
  | .open, .forsaken => some none
  | _, _ => none

/-- Whether the creditor of a number goes away with a change of the receipts. -/
def Receipts.leaves (before after : Receipts) (number : Nat) : Bool :=
  before.get number = .open && after.get number = .abandoned

/-- The receipts with what the two sides of each have seen. -/
structure Accounts where
  receipts : Receipts := {}
  /-- What the creditor was told. -/
  told : Nat → List Verdict := fun _ => []
  /-- Whether the creditor went away before it was told anything. -/
  gone : Nat → Bool := fun _ => false
  /-- What the distant holder pronounced. -/
  pronounced : Nat → List Verdict := fun _ => []

namespace Accounts

/-- The accounts after a change of the receipts. -/
def update (accounts : Accounts) (receipts : Receipts) : Accounts :=
  { accounts with
    receipts
    told := fun number =>
      accounts.told number ++ (accounts.receipts.tells? receipts number).toList
    gone := fun number =>
      accounts.gone number || accounts.receipts.leaves receipts number }

/-- The distant holder pronounces a verdict. -/
def pronounce (accounts : Accounts) (number : Nat) (verdict : Verdict) : Accounts :=
  { accounts.update (accounts.receipts.pronounce number verdict) with
    pronounced := Function.update accounts.pronounced number
      (accounts.pronounced number ++ [verdict]) }

/-- A transaction, if any, is lost on the side of the distant holder. -/
def lose (accounts : Accounts) : Option Transaction → Accounts
  | none => accounts
  | some lost => accounts.pronounce lost.number none

theorem lose_receipts (accounts : Accounts) (lost : Option Transaction) :
    (accounts.lose lost).receipts = accounts.receipts.lose lost := by
  cases lost <;> rfl

/-- What a creditor has been told fits the state of its receipt. -/
def Fits (told : List Verdict) (gone : Bool) : Receipt → Prop
  | .open => told = [] ∧ gone = false
  | .abandoned => told = [] ∧ gone = true
  | .answered response => told = [some response] ∧ gone = false
  | .forsaken => told = [none] ∧ gone = false
  | .settled => if gone then told = [] else told.length = 1

/-- What is known of one number. -/
structure Entry (accounts : Accounts) (outward : List Nat) (number : Nat) : Prop where
  fits : number < accounts.receipts.next →
    Fits (accounts.told number) (accounts.gone number) (accounts.receipts.get number)
  fresh : accounts.receipts.next ≤ number →
    accounts.told number = [] ∧ accounts.gone number = false ∧
      accounts.pronounced number = []
  undecided : (accounts.receipts.get number).isOwed = true → accounts.pronounced number = []
  once : (accounts.pronounced number).length ≤ 1
  /-- What the holder pronounced is what the creditor was told, if it was there. -/
  echoed : number ∈ outward → accounts.told number =
    if accounts.gone number then [] else accounts.pronounced number

/-- The accounts are in order, with `inner` and `outer` owed on the two sides
and `outward` all that has ever gone outward. -/
structure Kept (accounts : Accounts) (inner outer outward : List Nat) : Prop where
  nodup : (inner ++ outer).Nodup
  owed : ∀ number ∈ inner ++ outer, (accounts.receipts.get number).isOwed = true
  inside : ∀ number ∈ inner, number ∉ outward
  outside : ∀ number ∈ outer, number ∈ outward
  issued : ∀ number ∈ outward, number < accounts.receipts.next
  entries : ∀ number, accounts.Entry outward number

theorem kept_empty : ({} : Accounts).Kept [] [] [] := by
  constructor
  · simp
  · simp
  · simp
  · simp
  · simp
  · intro number
    constructor <;> simp [Receipts.next]

section Update

variable {accounts : Accounts} {receipts : Receipts} {number : Nat}

@[simp] theorem update_receipts : (accounts.update receipts).receipts = receipts := rfl

@[simp] theorem update_pronounced :
    (accounts.update receipts).pronounced = accounts.pronounced := rfl

@[simp] theorem pronounce_receipts {verdict : Verdict} :
    (accounts.pronounce number verdict).receipts =
      accounts.receipts.pronounce number verdict := rfl

theorem update_told_of_eq (hget : receipts.get number = accounts.receipts.get number) :
    (accounts.update receipts).told number = accounts.told number := by
  have htells : accounts.receipts.tells? receipts number = none := by
    unfold Receipts.tells?
    rw [hget]
    cases accounts.receipts.get number <;> rfl
  simp [update, htells]

theorem update_gone_of_eq (hget : receipts.get number = accounts.receipts.get number) :
    (accounts.update receipts).gone number = accounts.gone number := by
  have hleaves : accounts.receipts.leaves receipts number = false := by
    unfold Receipts.leaves
    rw [hget]
    cases accounts.receipts.get number <;> rfl
  simp [update, hleaves]

@[simp] theorem update_self : accounts.update accounts.receipts = accounts := by
  have htold : (accounts.update accounts.receipts).told = accounts.told :=
    funext fun _ => update_told_of_eq rfl
  have hgone : (accounts.update accounts.receipts).gone = accounts.gone :=
    funext fun _ => update_gone_of_eq rfl
  calc
    accounts.update accounts.receipts =
        ⟨accounts.receipts, (accounts.update accounts.receipts).told,
          (accounts.update accounts.receipts).gone, accounts.pronounced⟩ := rfl
    _ = accounts := by rw [htold, hgone]

theorem Entry.of_eq {other : Accounts} {outward : List Nat}
    (hentry : accounts.Entry outward number)
    (hnext : other.receipts.next = accounts.receipts.next)
    (hget : other.receipts.get number = accounts.receipts.get number)
    (htold : other.told number = accounts.told number)
    (hgone : other.gone number = accounts.gone number)
    (hpronounced : other.pronounced number = accounts.pronounced number) :
    other.Entry outward number := by
  constructor
  · rw [hnext, hget, htold, hgone]
    exact hentry.fits
  · rw [hnext, htold, hgone, hpronounced]
    exact hentry.fresh
  · rw [hget, hpronounced]
    exact hentry.undecided
  · rw [hpronounced]
    exact hentry.once
  · rw [htold, hgone, hpronounced]
    exact hentry.echoed

end Update

section Entries

variable {accounts : Accounts} {outward : List Nat} {number : Nat}

theorem update_told (receipts : Receipts) : (accounts.update receipts).told number =
    accounts.told number ++ (accounts.receipts.tells? receipts number).toList := rfl

theorem update_gone (receipts : Receipts) : (accounts.update receipts).gone number =
    (accounts.gone number || accounts.receipts.leaves receipts number) := rfl

/-- Whoever owes a number and pronounces a verdict on it tells the creditor
exactly that, if there still is one. -/
theorem Entry.told_pronounce (hentry : accounts.Entry outward number)
    (howed : (accounts.receipts.get number).isOwed = true) (verdict : Verdict) :
    (accounts.update (accounts.receipts.pronounce number verdict)).told number =
        (if accounts.gone number then [] else [verdict]) ∧
      (accounts.update (accounts.receipts.pronounce number verdict)).gone number =
        accounts.gone number := by
  have hfits := hentry.fits (accounts.receipts.lt_next_of_isOwed howed)
  have hget := accounts.receipts.get_pronounce number number verdict
  rw [if_pos rfl] at hget
  rw [update_told, update_gone]
  cases hreceipt : accounts.receipts.get number with
  | «open» =>
      obtain ⟨htold, hgone⟩ : accounts.told number = [] ∧ accounts.gone number = false := by
        simpa [hreceipt, Fits] using hfits
      cases verdict <;>
        simp [Receipts.tells?, Receipts.leaves, hget, hreceipt, Receipt.pronounce,
          Receipt.respond, Receipt.forsake, htold, hgone]
  | abandoned =>
      obtain ⟨htold, hgone⟩ : accounts.told number = [] ∧ accounts.gone number = true := by
        simpa [hreceipt, Fits] using hfits
      simp [Receipts.tells?, hreceipt, htold, hgone]
  | _ => simp [hreceipt, Receipt.isOwed] at howed

theorem Entry.fits_pronounce (hentry : accounts.Entry outward number)
    (howed : (accounts.receipts.get number).isOwed = true) (verdict : Verdict) :
    Fits ((accounts.update (accounts.receipts.pronounce number verdict)).told number)
      ((accounts.update (accounts.receipts.pronounce number verdict)).gone number)
      ((accounts.receipts.pronounce number verdict).get number) := by
  obtain ⟨htold, hgone⟩ := hentry.told_pronounce howed verdict
  have hfits := hentry.fits (accounts.receipts.lt_next_of_isOwed howed)
  rw [htold, hgone, accounts.receipts.get_pronounce, if_pos rfl]
  cases hreceipt : accounts.receipts.get number with
  | «open» =>
      simp only [hreceipt, Fits] at hfits
      cases verdict <;>
        simp [Receipt.pronounce, Receipt.respond, Receipt.forsake, Fits, hfits.2]
  | abandoned =>
      simp only [hreceipt, Fits] at hfits
      cases verdict <;>
        simp [Receipt.pronounce, Receipt.respond, Receipt.forsake, Fits, hfits.2]
  | _ => simp [hreceipt, Receipt.isOwed] at howed

theorem isOwed_pronounce (howed : (accounts.receipts.get number).isOwed = true)
    (verdict : Verdict) :
    ((accounts.receipts.pronounce number verdict).get number).isOwed = false := by
  rw [accounts.receipts.get_pronounce, if_pos rfl]
  cases hreceipt : accounts.receipts.get number <;> cases verdict <;>
    simp_all [Receipt.pronounce, Receipt.respond, Receipt.forsake, Receipt.isOwed]

theorem Entry.answer (hentry : accounts.Entry outward number)
    (howed : (accounts.receipts.get number).isOwed = true) (hinside : number ∉ outward)
    (verdict : Verdict) :
    (accounts.update (accounts.receipts.pronounce number verdict)).Entry outward number := by
  constructor
  · intro _
    exact hentry.fits_pronounce howed verdict
  · intro hnext
    rw [update_receipts, Receipts.next_pronounce] at hnext
    have hissued := accounts.receipts.lt_next_of_isOwed howed
    omega
  · intro hstill
    rw [update_receipts, isOwed_pronounce howed] at hstill
    simp at hstill
  · exact hentry.once
  · exact fun houtside => absurd houtside hinside

theorem Entry.pronounce (hentry : accounts.Entry outward number)
    (howed : (accounts.receipts.get number).isOwed = true) (verdict : Verdict) :
    (accounts.pronounce number verdict).Entry outward number := by
  have hundecided := hentry.undecided howed
  constructor
  · intro _
    exact hentry.fits_pronounce howed verdict
  · intro hnext
    rw [pronounce_receipts, Receipts.next_pronounce] at hnext
    have hissued := accounts.receipts.lt_next_of_isOwed howed
    omega
  · intro hstill
    rw [pronounce_receipts, isOwed_pronounce howed] at hstill
    simp at hstill
  · simp [Accounts.pronounce, hundecided]
  · intro _
    obtain ⟨htold, hgone⟩ := hentry.told_pronounce howed verdict
    have hnow : (accounts.pronounce number verdict).pronounced number = [verdict] := by
      simp [Accounts.pronounce, hundecided]
    rw [hnow]
    calc
      (accounts.pronounce number verdict).told number =
          if accounts.gone number then [] else [verdict] := htold
      _ = if (accounts.pronounce number verdict).gone number then [] else [verdict] := by
          rw [← hgone]
          rfl

theorem Entry.look (hentry : accounts.Entry outward number) :
    (accounts.update (accounts.receipts.look number).2).Entry outward number := by
  have hget := accounts.receipts.get_look number number
  rw [if_pos rfl] at hget
  have htells : accounts.receipts.tells? (accounts.receipts.look number).2 number = none := by
    cases hreceipt : accounts.receipts.get number <;>
      simp [Receipts.tells?, hget, hreceipt, Receipt.look]
  have hleaves : accounts.receipts.leaves (accounts.receipts.look number).2 number = false := by
    cases hreceipt : accounts.receipts.get number <;>
      simp [Receipts.leaves, hget, hreceipt, Receipt.look]
  have htold : (accounts.update (accounts.receipts.look number).2).told number =
      accounts.told number := by
    simp [update_told, htells]
  have hgone : (accounts.update (accounts.receipts.look number).2).gone number =
      accounts.gone number := by
    simp [update_gone, hleaves]
  constructor
  · rw [htold, hgone, update_receipts, Receipts.next_look, hget]
    intro hissued
    have hfits := hentry.fits hissued
    cases hreceipt : accounts.receipts.get number <;>
      simp_all [Receipt.look, Fits]
  · rw [htold, hgone, update_receipts, Receipts.next_look]
    exact hentry.fresh
  · rw [update_receipts, hget]
    intro howed
    apply hentry.undecided
    cases hreceipt : accounts.receipts.get number <;>
      simp_all [Receipt.look, Receipt.isOwed]
  · exact hentry.once
  · rw [htold, hgone]
    exact hentry.echoed

theorem Entry.abandon (hentry : accounts.Entry outward number) :
    (accounts.update (accounts.receipts.abandon number)).Entry outward number := by
  have hget := accounts.receipts.get_abandon number number
  rw [if_pos rfl] at hget
  have htold : (accounts.update (accounts.receipts.abandon number)).told number =
      accounts.told number := by
    cases hreceipt : accounts.receipts.get number <;>
      simp [update_told, Receipts.tells?, hget, hreceipt, Receipt.abandon]
  have hgone : (accounts.update (accounts.receipts.abandon number)).gone number =
      (accounts.gone number || accounts.receipts.get number == .open) := by
    cases hreceipt : accounts.receipts.get number <;>
      simp [update_gone, Receipts.leaves, hget, hreceipt, Receipt.abandon]
  constructor
  · rw [htold, hgone, update_receipts, Receipts.next_abandon, hget]
    intro hissued
    have hfits := hentry.fits hissued
    cases hreceipt : accounts.receipts.get number <;>
      simp_all [Receipt.abandon, Fits]
  · rw [htold, hgone, update_receipts, Receipts.next_abandon]
    intro hnext
    obtain ⟨hnone, hstays, hnothing⟩ := hentry.fresh hnext
    exact ⟨hnone, by simp [hstays, accounts.receipts.get_of_next_le hnext], hnothing⟩
  · rw [update_receipts, hget]
    intro howed
    apply hentry.undecided
    cases hreceipt : accounts.receipts.get number <;>
      simp_all [Receipt.abandon, Receipt.isOwed]
  · exact hentry.once
  · rw [htold, hgone]
    intro houtside
    have hechoed := hentry.echoed houtside
    cases hreceipt : accounts.receipts.get number with
    | «open» =>
        have hissued : number < accounts.receipts.next :=
          accounts.receipts.lt_next_of_get_ne (by simp [hreceipt])
        have hfits := hentry.fits hissued
        simp only [hreceipt, Fits] at hfits
        simp [hfits.1]
    | _ => simpa using hechoed

end Entries

section Kept

variable {accounts : Accounts} {inner outer outward : List Nat} {number : Nat}

theorem Kept.inner_not_outer (hkept : accounts.Kept inner outer outward)
    (hinner : number ∈ inner) : number ∉ outer :=
  fun houter => hkept.inside number hinner (hkept.outside number houter)

/-- A change of one number, which may stop being owed, keeps the accounts. -/
theorem Kept.change (hkept : accounts.Kept inner outer outward) {other : Accounts}
    {less fewer : List Nat} (hinner : less.Sublist inner) (houter : fewer.Sublist outer)
    (hnext : other.receipts.next = accounts.receipts.next)
    (hsame : ∀ apart, apart ≠ number →
      other.receipts.get apart = accounts.receipts.get apart ∧
        other.told apart = accounts.told apart ∧ other.gone apart = accounts.gone apart ∧
          other.pronounced apart = accounts.pronounced apart)
    (hentry : other.Entry outward number)
    (howed : number ∈ less ++ fewer → (other.receipts.get number).isOwed = true) :
    other.Kept less fewer outward := by
  have hsublist : (less ++ fewer).Sublist (inner ++ outer) := hinner.append houter
  constructor
  · exact hkept.nodup.sublist hsublist
  · intro apart hapart
    by_cases heq : apart = number
    · subst apart
      exact howed hapart
    · rw [(hsame apart heq).1]
      exact hkept.owed apart (hsublist.subset hapart)
  · exact fun apart hapart => hkept.inside apart (hinner.subset hapart)
  · exact fun apart hapart => hkept.outside apart (houter.subset hapart)
  · rw [hnext]
    exact hkept.issued
  · intro apart
    by_cases heq : apart = number
    · subst apart
      exact hentry
    · obtain ⟨hget, htold, hgone, hpronounced⟩ := hsame apart heq
      exact (hkept.entries apart).of_eq hnext hget htold hgone hpronounced

theorem update_same {receipts : Receipts}
    (hget : receipts.get number = accounts.receipts.get number) :
    (accounts.update receipts).receipts.get number = accounts.receipts.get number ∧
      (accounts.update receipts).told number = accounts.told number ∧
        (accounts.update receipts).gone number = accounts.gone number ∧
          (accounts.update receipts).pronounced number = accounts.pronounced number :=
  ⟨hget, update_told_of_eq hget, update_gone_of_eq hget, rfl⟩

theorem pronounce_same {apart : Nat} (hapart : apart ≠ number) (verdict : Verdict) :
    (accounts.pronounce number verdict).receipts.get apart = accounts.receipts.get apart ∧
      (accounts.pronounce number verdict).told apart = accounts.told apart ∧
        (accounts.pronounce number verdict).gone apart = accounts.gone apart ∧
          (accounts.pronounce number verdict).pronounced apart =
            accounts.pronounced apart := by
  have hget : (accounts.receipts.pronounce number verdict).get apart =
      accounts.receipts.get apart := by
    rw [accounts.receipts.get_pronounce, if_neg hapart]
  exact ⟨hget, update_told_of_eq hget, update_gone_of_eq hget,
    Function.update_of_ne hapart _ _⟩

theorem Kept.answer (hkept : accounts.Kept inner outer outward) (hinner : number ∈ inner)
    (verdict : Verdict) :
    (accounts.update (accounts.receipts.pronounce number verdict)).Kept
      (inner.erase number) outer outward := by
  have howed := hkept.owed number (List.mem_append_left _ hinner)
  apply hkept.change List.erase_sublist (List.Sublist.refl outer)
  · simp
  · intro apart hapart
    apply update_same
    rw [accounts.receipts.get_pronounce, if_neg hapart]
  · exact (hkept.entries number).answer howed (hkept.inside number hinner) verdict
  · intro hstill
    rcases List.mem_append.mp hstill with hless | houter
    · exact absurd hless ((hkept.nodup.sublist (List.sublist_append_left _ _)).not_mem_erase)
    · exact absurd houter (hkept.inner_not_outer hinner)

theorem Kept.pronounce (hkept : accounts.Kept inner outer outward) (houter : number ∈ outer)
    (verdict : Verdict) :
    (accounts.pronounce number verdict).Kept inner (outer.erase number) outward := by
  have howed := hkept.owed number (List.mem_append_right _ houter)
  apply hkept.change (List.Sublist.refl inner) List.erase_sublist
  · simp
  · exact fun apart hapart => pronounce_same hapart verdict
  · exact (hkept.entries number).pronounce howed verdict
  · intro hstill
    rcases List.mem_append.mp hstill with hinner | hless
    · exact absurd houter (hkept.inner_not_outer hinner)
    · exact absurd hless
        ((hkept.nodup.sublist (List.sublist_append_right _ _)).not_mem_erase)

theorem Kept.lose {lost : Option Transaction}
    (hkept : accounts.Kept inner (lost.toList.map Transaction.number ++ outer) outward) :
    (accounts.lose lost).Kept inner outer outward := by
  cases lost with
  | none => exact hkept
  | some lost =>
      have hlost := hkept.pronounce List.mem_cons_self none
      rwa [Option.toList_some, List.map_singleton, List.singleton_append,
        List.erase_cons_head] at hlost

theorem Kept.look (hkept : accounts.Kept inner outer outward) (number : Nat) :
    (accounts.update (accounts.receipts.look number).2).Kept inner outer outward := by
  apply hkept.change (List.Sublist.refl inner) (List.Sublist.refl outer)
  · simp
  · intro apart hapart
    apply update_same
    rw [accounts.receipts.get_look, if_neg hapart]
  · exact (hkept.entries number).look
  · intro hstill
    have howed := hkept.owed number hstill
    rw [update_receipts, accounts.receipts.get_look, if_pos rfl]
    cases hreceipt : accounts.receipts.get number <;>
      simp_all [Receipt.look, Receipt.isOwed]

theorem Kept.abandon (hkept : accounts.Kept inner outer outward) (number : Nat) :
    (accounts.update (accounts.receipts.abandon number)).Kept inner outer outward := by
  apply hkept.change (List.Sublist.refl inner) (List.Sublist.refl outer)
  · simp
  · intro apart hapart
    apply update_same
    rw [accounts.receipts.get_abandon, if_neg hapart]
  · exact (hkept.entries number).abandon
  · intro hstill
    have howed := hkept.owed number hstill
    rw [update_receipts, accounts.receipts.get_abandon, if_pos rfl]
    cases hreceipt : accounts.receipts.get number <;>
      simp_all [Receipt.abandon, Receipt.isOwed]

/-- Only which numbers are owed on a side matters, not in which order. -/
theorem Kept.perm (hkept : accounts.Kept inner outer outward) {less fewer : List Nat}
    (hinner : inner.Perm less) (houter : outer.Perm fewer) :
    accounts.Kept less fewer outward := by
  have hperm : (inner ++ outer).Perm (less ++ fewer) := hinner.append houter
  constructor
  · exact hperm.nodup_iff.mp hkept.nodup
  · exact fun apart hapart => hkept.owed apart (hperm.mem_iff.mpr hapart)
  · exact fun apart hapart => hkept.inside apart (hinner.mem_iff.mpr hapart)
  · exact fun apart hapart => hkept.outside apart (houter.mem_iff.mpr hapart)
  · exact hkept.issued
  · exact hkept.entries

theorem Kept.forward (hkept : accounts.Kept inner outer outward) (hinner : number ∈ inner) :
    accounts.Kept (inner.erase number) (number :: outer) (outward ++ [number]) := by
  have howed := hkept.owed number (List.mem_append_left _ hinner)
  have hissued := accounts.receipts.lt_next_of_isOwed howed
  have hnodup := hkept.nodup.sublist (List.sublist_append_left inner outer)
  have hperm : (inner ++ outer).Perm (inner.erase number ++ number :: outer) :=
    ((List.perm_cons_erase hinner).append_right outer).trans List.perm_middle.symm
  constructor
  · exact hperm.nodup_iff.mp hkept.nodup
  · exact fun apart hapart => hkept.owed apart (hperm.mem_iff.mpr hapart)
  · intro apart hapart hout
    rw [hnodup.mem_erase_iff] at hapart
    rcases List.mem_append.mp hout with hold | hnew
    · exact hkept.inside apart hapart.2 hold
    · exact hapart.1 (List.mem_singleton.mp hnew)
  · intro apart hapart
    rcases List.mem_cons.mp hapart with rfl | hold
    · exact List.mem_append_right _ (List.mem_singleton_self _)
    · exact List.mem_append_left _ (hkept.outside apart hold)
  · intro apart hapart
    rcases List.mem_append.mp hapart with hold | hnew
    · exact hkept.issued apart hold
    · rw [List.mem_singleton.mp hnew]
      exact hissued
  · intro apart
    have hentry := hkept.entries apart
    refine ⟨hentry.fits, hentry.fresh, hentry.undecided, hentry.once, fun hout => ?_⟩
    rcases List.mem_append.mp hout with hold | hnew
    · exact hentry.echoed hold
    · obtain rfl := List.mem_singleton.mp hnew
      -- nobody has pronounced anything yet, and nobody has been told anything
      have hfits := hentry.fits hissued
      rw [hentry.undecided howed]
      cases hreceipt : accounts.receipts.get apart <;>
        simp_all [Fits, Receipt.isOwed]

theorem Entry.issue {apart : Nat} (hentry : accounts.Entry outward apart) :
    (accounts.update accounts.receipts.issue).Entry outward apart := by
  have hget := accounts.receipts.get_issue apart
  have htells : accounts.receipts.tells? accounts.receipts.issue apart = none := by
    by_cases heq : apart = accounts.receipts.next
    · have hsettled := accounts.receipts.get_of_next_le heq.ge
      simp [Receipts.tells?, hsettled]
    · rw [if_neg heq] at hget
      cases hreceipt : accounts.receipts.get apart <;>
        simp [Receipts.tells?, hget, hreceipt]
  have hleaves : accounts.receipts.leaves accounts.receipts.issue apart = false := by
    by_cases heq : apart = accounts.receipts.next
    · have hsettled := accounts.receipts.get_of_next_le heq.ge
      simp [Receipts.leaves, hsettled]
    · rw [if_neg heq] at hget
      cases hreceipt : accounts.receipts.get apart <;>
        simp [Receipts.leaves, hget, hreceipt]
  have htold : (accounts.update accounts.receipts.issue).told apart =
      accounts.told apart := by
    simp [update_told, htells]
  have hgone : (accounts.update accounts.receipts.issue).gone apart =
      accounts.gone apart := by
    simp [update_gone, hleaves]
  constructor
  · rw [htold, hgone, update_receipts, Receipts.next_issue, hget]
    intro hissued
    by_cases heq : apart = accounts.receipts.next
    · obtain ⟨hnone, hstays, _⟩ := hentry.fresh heq.ge
      rw [if_pos heq]
      exact ⟨hnone, hstays⟩
    · rw [if_neg heq]
      exact hentry.fits (by omega)
  · rw [htold, hgone, update_receipts, Receipts.next_issue]
    intro hnext
    exact hentry.fresh (by omega)
  · rw [update_receipts, hget]
    intro howed
    by_cases heq : apart = accounts.receipts.next
    · exact (hentry.fresh heq.ge).2.2
    · rw [if_neg heq] at howed
      exact hentry.undecided howed
  · exact hentry.once
  · rw [htold, hgone]
    exact hentry.echoed

theorem Kept.next_not_owed (hkept : accounts.Kept inner outer outward) :
    accounts.receipts.next ∉ inner ++ outer := by
  intro hmem
  exact Nat.lt_irrefl _ (accounts.receipts.lt_next_of_isOwed (hkept.owed _ hmem))

theorem Kept.owed_issue (hkept : accounts.Kept inner outer outward) {apart : Nat}
    (hapart : apart = accounts.receipts.next ∨ apart ∈ inner ++ outer) :
    (accounts.receipts.issue.get apart).isOwed = true := by
  rw [accounts.receipts.get_issue]
  by_cases heq : apart = accounts.receipts.next
  · rw [if_pos heq]
    rfl
  · rw [if_neg heq]
    exact hkept.owed apart (hapart.resolve_left heq)

theorem Kept.issueInner (hkept : accounts.Kept inner outer outward) :
    (accounts.update accounts.receipts.issue).Kept (accounts.receipts.next :: inner) outer
      outward := by
  constructor
  · rw [List.cons_append, List.nodup_cons]
    exact ⟨hkept.next_not_owed, hkept.nodup⟩
  · intro apart hapart
    exact hkept.owed_issue (by simpa using hapart)
  · intro apart hapart hout
    rcases List.mem_cons.mp hapart with rfl | hold
    · exact Nat.lt_irrefl _ (hkept.issued _ hout)
    · exact hkept.inside apart hold hout
  · exact hkept.outside
  · intro apart hapart
    rw [update_receipts, Receipts.next_issue]
    exact Nat.lt_succ_of_lt (hkept.issued apart hapart)
  · exact fun apart => (hkept.entries apart).issue

theorem Kept.issueOuter (hkept : accounts.Kept inner outer outward) :
    (accounts.update accounts.receipts.issue).Kept inner (accounts.receipts.next :: outer)
      (outward ++ [accounts.receipts.next]) := by
  have hforward := hkept.issueInner.forward List.mem_cons_self
  rwa [List.erase_cons_head] at hforward

/-- No creditor is ever told twice. -/
theorem Kept.told_length_le (hkept : accounts.Kept inner outer outward) (number : Nat) :
    (accounts.told number).length ≤ 1 := by
  have hentry := hkept.entries number
  by_cases hissued : number < accounts.receipts.next
  · have hfits := hentry.fits hissued
    cases hreceipt : accounts.receipts.get number <;>
      simp only [hreceipt, Fits] at hfits
    · simp [hfits.1]
    · simp [hfits.1]
    · simp [hfits.1]
    · simp [hfits.1]
    · split at hfits
      · simp [hfits]
      · exact hfits.le
  · simp [(hentry.fresh (Nat.le_of_not_lt hissued)).1]

theorem Kept.told_of_owed (hkept : accounts.Kept inner outer outward)
    (howed : (accounts.receipts.get number).isOwed = true) : accounts.told number = [] := by
  have hfits := (hkept.entries number).fits (accounts.receipts.lt_next_of_isOwed howed)
  cases hreceipt : accounts.receipts.get number <;>
    simp_all [Fits, Receipt.isOwed]

end Kept

/-! ## What has been decided -/

/-- Nobody owes the number any more. -/
def Decided (accounts : Accounts) (number : Nat) : Prop :=
  number < accounts.receipts.next ∧ (accounts.receipts.get number).isOwed = false

/-- What has been decided is not touched. -/
def Respects (before after : Accounts) : Prop :=
  ∀ number, before.Decided number →
    after.Decided number ∧ after.told number = before.told number ∧
      after.gone number = before.gone number ∧
        after.pronounced number = before.pronounced number

section Respects

variable {accounts : Accounts} {receipts middle : Receipts} {number : Nat}

theorem Respects.refl (accounts : Accounts) : accounts.Respects accounts :=
  fun _ hdecided => ⟨hdecided, rfl, rfl, rfl⟩

theorem Respects.trans {before between after : Accounts} (hfirst : before.Respects between)
    (hsecond : between.Respects after) : before.Respects after := by
  intro number hdecided
  obtain ⟨hbetween, htold, hgone, hpronounced⟩ := hfirst number hdecided
  obtain ⟨hafter, htold', hgone', hpronounced'⟩ := hsecond number hbetween
  exact ⟨hafter, htold'.trans htold, hgone'.trans hgone, hpronounced'.trans hpronounced⟩

/-- Two changes of the receipts can be taken as one where no number changes
twice. -/
theorem update_update (hapart : ∀ number,
    middle.get number = accounts.receipts.get number ∨
      receipts.get number = middle.get number) :
    (accounts.update middle).update receipts = accounts.update receipts := by
  have htells : ∀ number,
      (accounts.receipts.tells? middle number).toList ++
          (middle.tells? receipts number).toList =
        (accounts.receipts.tells? receipts number).toList := by
    intro number
    unfold Receipts.tells?
    rcases hapart number with heq | heq
    · rw [heq]
      cases accounts.receipts.get number <;> rfl
    · rw [heq]
      cases accounts.receipts.get number <;> cases middle.get number <;> rfl
  have hleaves : ∀ number,
      (accounts.receipts.leaves middle number || middle.leaves receipts number) =
        accounts.receipts.leaves receipts number := by
    intro number
    unfold Receipts.leaves
    rcases hapart number with heq | heq
    · rw [heq]
      cases accounts.receipts.get number <;> cases receipts.get number <;> rfl
    · rw [heq]
      cases accounts.receipts.get number <;> cases middle.get number <;> rfl
  have htold : ((accounts.update middle).update receipts).told =
      (accounts.update receipts).told := by
    funext number
    simp only [update_told, update_receipts, List.append_assoc, htells]
  have hgone : ((accounts.update middle).update receipts).gone =
      (accounts.update receipts).gone := by
    funext number
    simp only [update_gone, update_receipts, Bool.or_assoc, hleaves]
  calc
    (accounts.update middle).update receipts =
        ⟨receipts, ((accounts.update middle).update receipts).told,
          ((accounts.update middle).update receipts).gone, accounts.pronounced⟩ := rfl
    _ = accounts.update receipts := by
        rw [htold, hgone]
        rfl

theorem respects_update (hnext : accounts.receipts.next ≤ receipts.next)
    (hsame : ∀ number, accounts.Decided number →
      (receipts.get number).isOwed = false) :
    accounts.Respects (accounts.update receipts) := by
  intro number hdecided
  have howed := hdecided.2
  have htells : accounts.receipts.tells? receipts number = none := by
    cases hreceipt : accounts.receipts.get number <;>
      simp_all [Receipts.tells?, Receipt.isOwed]
  have hleaves : accounts.receipts.leaves receipts number = false := by
    cases hreceipt : accounts.receipts.get number <;>
      simp_all [Receipts.leaves, Receipt.isOwed]
  refine ⟨⟨Nat.lt_of_lt_of_le hdecided.1 hnext, hsame number hdecided⟩, ?_, ?_, rfl⟩
  · simp [update_told, htells]
  · simp [update_gone, hleaves]

theorem respects_issue (accounts : Accounts) :
    accounts.Respects (accounts.update accounts.receipts.issue) := by
  apply respects_update (by simp)
  intro number hdecided
  rw [accounts.receipts.get_issue_of_lt hdecided.1]
  exact hdecided.2

theorem respects_answer (accounts : Accounts) (number : Nat) (verdict : Verdict) :
    accounts.Respects (accounts.update (accounts.receipts.pronounce number verdict)) := by
  apply respects_update (by simp)
  intro other hdecided
  rw [accounts.receipts.get_pronounce]
  have howed := hdecided.2
  split
  · next heq =>
      subst other
      cases hreceipt : accounts.receipts.get number <;> cases verdict <;>
        simp_all [Receipt.pronounce, Receipt.respond, Receipt.forsake, Receipt.isOwed]
  · exact howed

theorem respects_look (accounts : Accounts) (number : Nat) :
    accounts.Respects (accounts.update (accounts.receipts.look number).2) := by
  apply respects_update (by simp)
  intro other hdecided
  rw [accounts.receipts.get_look]
  have howed := hdecided.2
  split
  · next heq =>
      subst other
      cases hreceipt : accounts.receipts.get number <;>
        simp_all [Receipt.look, Receipt.isOwed]
  · exact howed

theorem respects_abandon (accounts : Accounts) (number : Nat) :
    accounts.Respects (accounts.update (accounts.receipts.abandon number)) := by
  apply respects_update (by simp)
  intro other hdecided
  rw [accounts.receipts.get_abandon]
  have howed := hdecided.2
  split
  · next heq =>
      subst other
      cases hreceipt : accounts.receipts.get number <;>
        simp_all [Receipt.abandon, Receipt.isOwed]
  · exact howed

theorem respects_pronounce (howed : (accounts.receipts.get number).isOwed = true)
    (verdict : Verdict) : accounts.Respects (accounts.pronounce number verdict) := by
  intro other hdecided
  obtain ⟨hafter, htold, hgone, _⟩ := accounts.respects_answer number verdict other hdecided
  refine ⟨hafter, htold, hgone, ?_⟩
  apply Function.update_of_ne
  intro heq
  subst other
  simp [hdecided.2] at howed

/-- The creditor of a number was told just this, if it was still there. -/
def Heard (accounts : Accounts) (number : Nat) (verdict : Verdict) : Prop :=
  accounts.Decided number ∧
    accounts.told number = if accounts.gone number then [] else [verdict]

theorem Heard.mono {before after : Accounts} {verdict : Verdict}
    (hheard : before.Heard number verdict) (hrespects : before.Respects after) :
    after.Heard number verdict := by
  obtain ⟨hafter, htold, hgone, _⟩ := hrespects number hheard.1
  refine ⟨hafter, ?_⟩
  rw [htold, hgone]
  exact hheard.2

theorem Kept.heard_pronounce {inner outer outward : List Nat}
    (hkept : accounts.Kept inner outer outward)
    (howed : (accounts.receipts.get number).isOwed = true) (verdict : Verdict) :
    (accounts.update (accounts.receipts.pronounce number verdict)).Heard number verdict := by
  obtain ⟨htold, hgone⟩ := (hkept.entries number).told_pronounce howed verdict
  refine ⟨⟨?_, isOwed_pronounce howed verdict⟩, ?_⟩
  · rw [update_receipts, Receipts.next_pronounce]
    exact accounts.receipts.lt_next_of_isOwed howed
  · rw [htold, hgone]

/-- A verdict that has been pronounced on a number that is still awaited is the
one that lies there. -/
theorem Kept.get_of_pronounced {inner outer outward : List Nat}
    (hkept : accounts.Kept inner outer outward) (houtward : number ∈ outward)
    (hawaited : (accounts.receipts.get number).isAwaited = true) {verdict : Verdict}
    (hpronounced : accounts.pronounced number = [verdict]) :
    accounts.receipts.get number = Receipt.open.pronounce verdict := by
  have hentry := hkept.entries number
  have hfits := hentry.fits (hkept.issued number houtward)
  have hechoed := hentry.echoed houtward
  rw [hpronounced] at hechoed
  cases hreceipt : accounts.receipts.get number with
  | «open» =>
      have hundecided := hentry.undecided (by rw [hreceipt]; rfl)
      rw [hundecided] at hpronounced
      exact absurd hpronounced (by simp)
  | answered response =>
      simp only [hreceipt, Fits] at hfits
      rw [hfits.2, hfits.1] at hechoed
      obtain rfl : some response = verdict := by simpa using hechoed
      rfl
  | forsaken =>
      simp only [hreceipt, Fits] at hfits
      rw [hfits.2, hfits.1] at hechoed
      obtain rfl : none = verdict := by simpa using hechoed
      rfl
  | abandoned => simp [hreceipt, Receipt.isAwaited] at hawaited
  | settled => simp [hreceipt, Receipt.isAwaited] at hawaited

/-- What lies on a number that went outward is what was pronounced on it. -/
theorem Kept.pronounced_of_get {inner outer outward : List Nat}
    (hkept : accounts.Kept inner outer outward) (houtward : number ∈ outward)
    {verdict : Verdict}
    (hget : accounts.receipts.get number = Receipt.open.pronounce verdict) :
    accounts.pronounced number = [verdict] := by
  have hentry := hkept.entries number
  have hfits := hentry.fits (hkept.issued number houtward)
  have hechoed := hentry.echoed houtward
  obtain ⟨htold, hgone⟩ :
      accounts.told number = [verdict] ∧ accounts.gone number = false := by
    cases verdict <;>
      simpa [hget, Receipt.pronounce, Receipt.respond, Receipt.forsake, Fits] using hfits
  rw [htold, hgone] at hechoed
  simpa using hechoed.symm

end Respects

end Accounts

end Intake
