import Intake.Proofs.GuardSetting

/-!
# Who owes what around a guard

Every transaction is owed by one party at a time: it is ready in the input, in
the hands of the guard, in the outlet, or with the holder.  A guard that waits
for the response to an intercepted message still owes the original.  This is
what makes the accounts come out: nobody can speak twice, or for somebody else.
-/

namespace Intake

/-- The numbers that a guard owes in a phase. -/
def GuardPhase.inHand : GuardPhase → List Nat
  | .forwarding transaction => [transaction.number]
  | .intercepting candidate => [candidate.number]
  | .awaiting candidate _ => [candidate]
  | _ => []

namespace Setting

/-- The numbers owed by the input or the guard. -/
def inner (setting : Setting) : List Nat :=
  setting.ready.map Transaction.number ++ setting.guard.phase.inHand

/-- The numbers owed from the outlet on. -/
def outer (setting : Setting) : List Nat :=
  setting.guard.outlet.slot.toList.map Transaction.number ++ setting.held

/-- Everything in a setting is owed once, and the guard hands on nothing but
what it took and what it made of it. -/
structure Sound (setting : Setting) : Prop where
  kept : setting.accounts.Kept setting.inner setting.outer
    (setting.put.map Transaction.number)
  readyMade : ∀ transaction ∈ setting.ready, transaction.number ∈ setting.made
  takenMade : ∀ transaction ∈ setting.taken, transaction.number ∈ setting.made
  readyUntaken : ∀ transaction ∈ setting.ready,
    transaction.number ∉ setting.taken.map Transaction.number
  madeIssued : ∀ number ∈ setting.made, number < setting.receipts.next
  takenOnce : (setting.taken.map Transaction.number).Nodup
  putMade : ∀ transaction ∈ setting.put, transaction.number ∈ setting.made →
    transaction ∈ setting.taken
  inHandTaken : ∀ transaction, setting.guard.phase = .forwarding transaction ∨
    setting.guard.phase = .intercepting transaction → transaction ∈ setting.taken
  awaited : ∀ candidate number, setting.guard.phase = .awaiting candidate number →
    candidate ∈ setting.taken.map Transaction.number ∧ number ∉ setting.made ∧
      number ∈ setting.put.map Transaction.number ∧
        (setting.receipts.get number).isAwaited = true

theorem Sound.start (input : InputConfig) (restart : Bool) (condition : Condition) :
    (Setting.start input restart condition).Sound := by
  refine ⟨Accounts.kept_empty, ?_, ?_, ?_, ?_, ?_, ?_, ?_, ?_⟩ <;> simp [Setting.start]

section Steps

variable {σ : Type} {setting : Setting} {sight : Sight σ} {move : GuardMove σ}

theorem puts?_of_slot_eq (hslot : move.guard.outlet.slot = setting.guard.outlet.slot) :
    move.puts? setting.guard.outlet = none := by
  unfold GuardMove.puts?
  rw [hslot]
  cases setting.guard.outlet.slot <;> rfl

/-- A step that moves no transaction leaves everything where it is. -/
theorem Sound.quiet (hsound : setting.Sound) (hbefore : setting.guard.phase.inHand = [])
    (hafter : move.guard.phase.inHand = [])
    (hslot : move.guard.outlet.slot = setting.guard.outlet.slot)
    (hreceipts : move.receipts = setting.receipts) (htakes : move.takes? sight = none) :
    (setting.afterStep sight move).Sound := by
  have haccounts : setting.accounts.update move.receipts = setting.accounts := by
    rw [hreceipts]
    exact Accounts.update_self
  have hputs := puts?_of_slot_eq hslot
  have hshape : setting.afterStep sight move =
      { setting with guard := move.guard, events := setting.events ++ [move.event] } := by
    simp [afterStep, haccounts, hputs, htakes]
  rw [hshape]
  refine ⟨?_, hsound.readyMade, hsound.takenMade, hsound.readyUntaken, hsound.madeIssued,
    hsound.takenOnce, hsound.putMade, ?_, ?_⟩
  · have hkept := hsound.kept
    unfold inner outer at hkept ⊢
    rw [hbefore] at hkept
    rw [hafter, hslot]
    exact hkept
  · rintro transaction (hphase | hphase) <;>
      · change move.guard.phase = _ at hphase
        simp [hphase, GuardPhase.inHand] at hafter
  · intro candidate number hphase
    change move.guard.phase = _ at hphase
    simp [hphase, GuardPhase.inHand] at hafter

theorem Sound.take (hsound : setting.Sound) {transaction : Transaction}
    (hready : transaction ∈ setting.ready) (hbefore : setting.guard.phase.inHand = [])
    (hafter : move.guard.phase = .forwarding transaction ∨
      move.guard.phase = .intercepting transaction)
    (houtlet : move.guard.outlet = setting.guard.outlet)
    (hreceipts : move.receipts = setting.receipts)
    (htakes : move.takes? sight = some transaction) :
    (setting.afterStep sight move).Sound := by
  have haccounts : setting.accounts.update move.receipts = setting.accounts := by
    rw [hreceipts]
    exact Accounts.update_self
  have hputs := puts?_of_slot_eq (congrArg Outlet.slot houtlet)
  have hshape : setting.afterStep sight move =
      { setting with
        guard := move.guard
        ready := setting.ready.erase transaction
        taken := setting.taken ++ [transaction]
        events := setting.events ++ [move.event] } := by
    simp [afterStep, haccounts, hputs, htakes]
  have hinHand : move.guard.phase.inHand = [transaction.number] := by
    rcases hafter with hafter | hafter <;> simp [hafter, GuardPhase.inHand]
  have hperm : (setting.ready.map Transaction.number).Perm
      (transaction.number :: (setting.ready.erase transaction).map Transaction.number) := by
    simpa using (List.perm_cons_erase hready).map Transaction.number
  have hnodup : (setting.ready.map Transaction.number).Nodup := by
    have hall := hsound.kept.nodup
    unfold inner at hall
    rw [List.append_assoc] at hall
    exact hall.sublist (List.sublist_append_left _ _)
  -- the number goes into the hands of the guard, and nothing ready has it any more
  have hunready : transaction.number ∉
      (setting.ready.erase transaction).map Transaction.number :=
    (List.nodup_cons.mp (hperm.nodup_iff.mp hnodup)).1
  rw [hshape]
  refine ⟨?_, ?_, ?_, ?_, hsound.madeIssued, ?_, ?_, ?_, ?_⟩
  · have hkept := hsound.kept
    unfold inner outer at hkept ⊢
    rw [hbefore, List.append_nil] at hkept
    simp only [hinHand, houtlet]
    exact hkept.perm (hperm.trans (List.perm_append_singleton _ _).symm) (List.Perm.refl _)
  · exact fun other hother => hsound.readyMade other (List.mem_of_mem_erase hother)
  · intro other hother
    rcases List.mem_append.mp hother with hold | hnew
    · exact hsound.takenMade other hold
    · rw [List.mem_singleton.mp hnew]
      exact hsound.readyMade transaction hready
  · intro other hother hmem
    rw [List.map_append, List.mem_append] at hmem
    rcases hmem with hold | hnew
    · exact hsound.readyUntaken other (List.mem_of_mem_erase hother) hold
    · have heq : other.number = transaction.number := by simpa using hnew
      exact hunready (heq ▸ List.mem_map_of_mem hother)
  · rw [List.map_append, List.nodup_append]
    refine ⟨hsound.takenOnce, List.nodup_singleton _, ?_⟩
    intro number hnumber other hother heq
    have hsame : number = transaction.number := by simpa using heq.trans (by simpa using hother)
    exact hsound.readyUntaken transaction hready (hsame ▸ hnumber)
  · exact fun other hother hmade =>
      List.mem_append_left _ (hsound.putMade other hother hmade)
  · rintro other (hphase | hphase) <;> rcases hafter with hafter | hafter <;>
      simp_all
  · intro candidate number hphase
    rcases hafter with hafter | hafter <;> simp [hafter] at hphase

/-- A number in the hands of the guard is the last of those owed inside. -/
theorem Sound.kept_inHand (hsound : setting.Sound) {number : Nat}
    (hbefore : setting.guard.phase.inHand = [number]) :
    setting.accounts.Kept (number :: setting.ready.map Transaction.number) setting.outer
      (setting.put.map Transaction.number) := by
  have hkept := hsound.kept
  unfold inner at hkept
  rw [hbefore] at hkept
  exact hkept.perm (List.perm_append_singleton _ _) (List.Perm.refl _)

theorem Sound.owed_inHand (hsound : setting.Sound) {number : Nat}
    (hbefore : setting.guard.phase.inHand = [number]) :
    (setting.receipts.get number).isOwed = true :=
  (hsound.kept_inHand hbefore).owed number
    (List.mem_append_left _ List.mem_cons_self)

theorem Sound.giveAway (hsound : setting.Sound) (hafter : move.guard.phase.inHand = [])
    (hslot : move.guard.outlet.slot = setting.guard.outlet.slot)
    (hnext : move.receipts.next = setting.receipts.next)
    (hkept : (setting.accounts.update move.receipts).Kept
      (setting.ready.map Transaction.number) setting.outer
      (setting.put.map Transaction.number))
    (htakes : move.takes? sight = none) : (setting.afterStep sight move).Sound := by
  have hputs := puts?_of_slot_eq hslot
  have hshape : setting.afterStep sight move =
      { setting with
        guard := move.guard
        accounts := setting.accounts.update move.receipts
        events := setting.events ++ [move.event] } := by
    simp [afterStep, hputs, htakes]
  rw [hshape]
  refine ⟨?_, hsound.readyMade, hsound.takenMade, hsound.readyUntaken, ?_,
    hsound.takenOnce, hsound.putMade, ?_, ?_⟩
  · unfold outer at hkept
    unfold inner outer
    rw [hafter, hslot, List.append_nil]
    exact hkept
  · intro number hnumber
    change number < move.receipts.next
    rw [hnext]
    exact hsound.madeIssued number hnumber
  · rintro transaction (hphase | hphase) <;>
      · change move.guard.phase = _ at hphase
        simp [hphase, GuardPhase.inHand] at hafter
  · intro candidate number hphase
    change move.guard.phase = _ at hphase
    simp [hphase, GuardPhase.inHand] at hafter

theorem Sound.kept_answer (hsound : setting.Sound) {number : Nat}
    (hbefore : setting.guard.phase.inHand = [number]) (verdict : Verdict) :
    (setting.accounts.update (setting.receipts.pronounce number verdict)).Kept
      (setting.ready.map Transaction.number) setting.outer
      (setting.put.map Transaction.number) := by
  have hanswer := (hsound.kept_inHand hbefore).answer List.mem_cons_self verdict
  rwa [List.erase_cons_head] at hanswer

theorem Sound.candidate_ne (hsound : setting.Sound) {candidate number : Nat}
    (hphase : setting.guard.phase = .awaiting candidate number) : candidate ≠ number := by
  obtain ⟨htaken, hunmade, _, _⟩ := hsound.awaited candidate number hphase
  obtain ⟨transaction, hmem, rfl⟩ := List.mem_map.mp htaken
  exact fun heq => hunmade (heq ▸ hsound.takenMade transaction hmem)

/-- What the guard does with the two numbers that it holds while it waits can be
taken one after the other. -/
theorem Sound.update_answer (hsound : setting.Sound) {candidate number : Nat}
    (hphase : setting.guard.phase = .awaiting candidate number) (verdict : Verdict)
    {middle : Receipts}
    (hmiddle : ∀ other, other ≠ number →
      middle.get other = setting.receipts.get other) :
    (setting.accounts.update middle).update (middle.pronounce candidate verdict) =
      setting.accounts.update (middle.pronounce candidate verdict) := by
  -- the first change touches the guard's own number, the second the candidate
  apply Accounts.update_update
  intro other
  by_cases heq : other = number
  · right
    subst other
    rw [middle.get_pronounce, if_neg (hsound.candidate_ne hphase).symm]
  · left
    exact hmiddle other heq

theorem Sound.update_look (hsound : setting.Sound) {candidate number : Nat}
    (hphase : setting.guard.phase = .awaiting candidate number) (verdict : Verdict) :
    (setting.accounts.update (setting.receipts.look number).2).update
        ((setting.receipts.look number).2.pronounce candidate verdict) =
      setting.accounts.update
        ((setting.receipts.look number).2.pronounce candidate verdict) := by
  apply hsound.update_answer hphase verdict
  intro other hother
  rw [setting.receipts.get_look, if_neg hother]

theorem Sound.update_abandon (hsound : setting.Sound) {candidate number : Nat}
    (hphase : setting.guard.phase = .awaiting candidate number) (verdict : Verdict) :
    (setting.accounts.update (setting.receipts.abandon number)).update
        ((setting.receipts.abandon number).pronounce candidate verdict) =
      setting.accounts.update
        ((setting.receipts.abandon number).pronounce candidate verdict) := by
  apply hsound.update_answer hphase verdict
  intro other hother
  rw [setting.receipts.get_abandon, if_neg hother]

theorem Sound.kept_relay (hsound : setting.Sound) {candidate number : Nat}
    (hphase : setting.guard.phase = .awaiting candidate number) (verdict : Verdict) :
    (setting.accounts.update
        ((setting.receipts.look number).2.pronounce candidate verdict)).Kept
      (setting.ready.map Transaction.number) setting.outer
      (setting.put.map Transaction.number) := by
  have hbefore : setting.guard.phase.inHand = [candidate] := by
    simp [hphase, GuardPhase.inHand]
  have hlook := (hsound.kept_inHand hbefore).look number
  have hanswer := hlook.answer List.mem_cons_self verdict
  rw [List.erase_cons_head] at hanswer
  rw [← hsound.update_look hphase verdict]
  exact hanswer

theorem Sound.kept_giveUp (hsound : setting.Sound) {candidate number : Nat}
    (hphase : setting.guard.phase = .awaiting candidate number) :
    (setting.accounts.update
        ((setting.receipts.abandon number).pronounce candidate none)).Kept
      (setting.ready.map Transaction.number) setting.outer
      (setting.put.map Transaction.number) := by
  have hbefore : setting.guard.phase.inHand = [candidate] := by
    simp [hphase, GuardPhase.inHand]
  have habandon := (hsound.kept_inHand hbefore).abandon number
  have hanswer := habandon.answer List.mem_cons_self none
  rw [List.erase_cons_head] at hanswer
  rw [← hsound.update_abandon hphase none]
  exact hanswer

theorem Sound.forward (hsound : setting.Sound) {transaction : Transaction}
    (hphase : setting.guard.phase = .forwarding transaction)
    (hroom : setting.guard.outlet.slot = none) :
    (setting.afterStep sight
      { event := .forwarded transaction,
        guard := { setting.guard with
          outlet := setting.guard.outlet.put transaction, phase := .deciding },
        receipts := setting.receipts }).Sound := by
  have hbefore : setting.guard.phase.inHand = [transaction.number] := by
    simp [hphase, GuardPhase.inHand]
  have haccounts : setting.accounts.update setting.receipts = setting.accounts :=
    Accounts.update_self
  have hforward := (hsound.kept_inHand hbefore).forward List.mem_cons_self
  rw [List.erase_cons_head] at hforward
  have hshape : setting.afterStep sight
      { event := .forwarded transaction,
        guard := { setting.guard with
          outlet := setting.guard.outlet.put transaction, phase := .deciding },
        receipts := setting.receipts } =
      { setting with
        guard := { setting.guard with
          outlet := setting.guard.outlet.put transaction, phase := .deciding }
        put := setting.put ++ [transaction]
        events := setting.events ++ [.forwarded transaction] } := by
    simp [afterStep, haccounts, GuardMove.takes?, GuardMove.puts?, hroom, Outlet.put]
  rw [hshape]
  refine ⟨?_, hsound.readyMade, hsound.takenMade, hsound.readyUntaken, hsound.madeIssued,
    hsound.takenOnce, ?_, by simp, by simp⟩
  · unfold outer at hforward
    unfold inner outer
    simpa [GuardPhase.inHand, Outlet.put, hroom] using hforward
  · intro other hother hmade
    rcases List.mem_append.mp hother with hold | hnew
    · exact hsound.putMade other hold hmade
    · rw [List.mem_singleton.mp hnew]
      exact hsound.inHandTaken transaction (.inl hphase)

theorem Sound.intercept (hsound : setting.Sound) {candidate : Transaction}
    (hphase : setting.guard.phase = .intercepting candidate)
    (hroom : setting.guard.outlet.slot = none) :
    (setting.afterStep sight
      { event := .intercepted candidate.number ⟨setting.receipts.next, candidate.payload⟩,
        guard := { setting.guard with
          outlet := setting.guard.outlet.put ⟨setting.receipts.next, candidate.payload⟩
          phase := .awaiting candidate.number setting.receipts.next },
        receipts := setting.receipts.issue }).Sound := by
  have hbefore : setting.guard.phase.inHand = [candidate.number] := by
    simp [hphase, GuardPhase.inHand]
  have hissue := hsound.kept.issueOuter
  have hunmade : setting.receipts.next ∉ setting.made :=
    fun hmade => Nat.lt_irrefl _ (hsound.madeIssued _ hmade)
  have hshape : setting.afterStep sight
      { event := .intercepted candidate.number ⟨setting.receipts.next, candidate.payload⟩,
        guard := { setting.guard with
          outlet := setting.guard.outlet.put ⟨setting.receipts.next, candidate.payload⟩
          phase := .awaiting candidate.number setting.receipts.next },
        receipts := setting.receipts.issue } =
      { setting with
        guard := { setting.guard with
          outlet := setting.guard.outlet.put ⟨setting.receipts.next, candidate.payload⟩
          phase := .awaiting candidate.number setting.receipts.next }
        accounts := setting.accounts.update setting.receipts.issue
        put := setting.put ++ [⟨setting.receipts.next, candidate.payload⟩]
        events := setting.events ++
          [.intercepted candidate.number ⟨setting.receipts.next, candidate.payload⟩] } := by
    simp [afterStep, GuardMove.takes?, GuardMove.puts?, hroom, Outlet.put]
  rw [hshape]
  refine ⟨?_, hsound.readyMade, hsound.takenMade, hsound.readyUntaken, ?_,
    hsound.takenOnce, ?_, by simp, ?_⟩
  · unfold inner outer at hissue ⊢
    simpa [GuardPhase.inHand, Outlet.put, hroom, hphase, receipts] using hissue
  · intro number hnumber
    change number < setting.receipts.issue.next
    rw [Receipts.next_issue]
    exact Nat.lt_succ_of_lt (hsound.madeIssued number hnumber)
  · intro other hother hmade
    rcases List.mem_append.mp hother with hold | hnew
    · exact hsound.putMade other hold hmade
    · rw [List.mem_singleton.mp hnew] at hmade
      exact absurd hmade hunmade
  · intro first second hawaiting
    cases hawaiting
    refine ⟨List.mem_map_of_mem (hsound.inHandTaken candidate (.inr hphase)), hunmade,
      by simp, ?_⟩
    simp [receipts, Receipt.isAwaited]

/-- What the input and the holder do on their sides: the input makes nothing,
and what the guard waits for stays as it is. -/
theorem Sound.around (hsound : setting.Sound) {outlet : Outlet} {accounts : Accounts}
    {ready : List Transaction} {held : List Nat}
    (hready : ∀ transaction ∈ ready, transaction ∈ setting.ready)
    (hnext : accounts.receipts.next = setting.receipts.next)
    (hawaited : ∀ number, number ∉ setting.made →
      (setting.receipts.get number).isAwaited = true →
        (accounts.receipts.get number).isAwaited = true)
    (hkept : accounts.Kept (ready.map Transaction.number ++ setting.guard.phase.inHand)
      (outlet.slot.toList.map Transaction.number ++ held)
      (setting.put.map Transaction.number)) :
    { setting with
      guard := { setting.guard with outlet }
      accounts
      ready
      held : Setting }.Sound := by
  constructor
  · exact hkept
  · exact fun transaction hmem => hsound.readyMade transaction (hready transaction hmem)
  · exact hsound.takenMade
  · exact fun transaction hmem => hsound.readyUntaken transaction (hready transaction hmem)
  · intro number hnumber
    change number < accounts.receipts.next
    rw [hnext]
    exact hsound.madeIssued number hnumber
  · exact hsound.takenOnce
  · exact hsound.putMade
  · exact hsound.inHandTaken
  · intro candidate number hphase
    obtain ⟨htaken, hunmade, hput, hstill⟩ := hsound.awaited candidate number hphase
    exact ⟨htaken, hunmade, hput, hawaited number hunmade hstill⟩

theorem Sound.make (hsound : setting.Sound) (message : Message) :
    (setting.perform (.make message : SettingMove σ)).Sound := by
  have hready : ∀ transaction ∈ setting.ready,
      transaction.number ≠ setting.receipts.next := fun transaction hmem =>
    (hsound.madeIssued _ (hsound.readyMade transaction hmem)).ne
  have htaken : ∀ transaction ∈ setting.taken,
      transaction.number ≠ setting.receipts.next := fun transaction hmem =>
    (hsound.madeIssued _ (hsound.takenMade transaction hmem)).ne
  have hnext : setting.receipts.next ∉ setting.put.map Transaction.number :=
    fun hmem => Nat.lt_irrefl _ (hsound.kept.issued _ hmem)
  constructor
  · exact hsound.kept.issueInner
  · intro transaction hmem
    rcases List.mem_cons.mp hmem with rfl | hold
    · exact List.mem_cons_self
    · exact List.mem_cons_of_mem _ (hsound.readyMade transaction hold)
  · exact fun transaction hmem => List.mem_cons_of_mem _ (hsound.takenMade transaction hmem)
  · intro transaction hmem
    rcases List.mem_cons.mp hmem with rfl | hold
    · intro hnumber
      obtain ⟨other, hother, heq⟩ := List.mem_map.mp hnumber
      exact htaken other hother heq
    · exact hsound.readyUntaken transaction hold
  · intro number hnumber
    change number < setting.receipts.issue.next
    rw [Receipts.next_issue]
    rcases List.mem_cons.mp hnumber with rfl | hold
    · exact Nat.lt_succ_self _
    · exact Nat.lt_succ_of_lt (hsound.madeIssued number hold)
  · exact hsound.takenOnce
  · intro transaction hmem hmade
    rcases List.mem_cons.mp hmade with hnew | hold
    · exact absurd (hnew ▸ List.mem_map_of_mem hmem) hnext
    · exact hsound.putMade transaction hmem hold
  · exact hsound.inHandTaken
  · intro candidate number hphase
    obtain ⟨hcandidate, hunmade, hput, hstill⟩ := hsound.awaited candidate number hphase
    have hissued := hsound.kept.issued number hput
    refine ⟨hcandidate, ?_, hput, ?_⟩
    · intro hmade
      rcases List.mem_cons.mp hmade with hnew | hold
      · exact Nat.ne_of_lt hissued hnew
      · exact hunmade hold
    · change (setting.receipts.issue.get number).isAwaited = true
      rw [setting.receipts.get_issue_of_lt hissued]
      exact hstill

theorem Sound.afterStep (hsound : setting.Sound) (hshows : setting.shows sight = true)
    (hcase : Guard.StepCase sight setting.receipts setting.guard move) :
    (setting.afterStep sight move).Sound := by
  cases hcase with
  | started hphase | stopDeciding hphase | turnToInput hphase | exhausted hphase
  | rebuilt hphase | rebuildFailed hphase | stopReceiving hphase | inputEnded hphase
  | askedToClose hphase | leftAlone hphase | inputClosed hphase | stopped hphase
  | released hphase | confirmed hphase =>
      exact hsound.quiet (by rw [hphase]; rfl) rfl rfl rfl rfl
  | received hphase _ hoffer =>
      exact hsound.take (by simpa [shows, hoffer] using hshows) (by rw [hphase]; rfl)
        (.inl rfl) rfl rfl (by simp [GuardMove.takes?, hoffer])
  | receivedCandidate hphase _ hoffer =>
      exact hsound.take (by simpa [shows, hoffer] using hshows) (by rw [hphase]; rfl)
        (.inr rfl) rfl rfl (by simp [GuardMove.takes?, hoffer])
  | giveUpForwarding hphase | giveUpIntercepting hphase =>
      exact hsound.giveAway rfl rfl (Receipts.next_pronounce _ _ none)
        (hsound.kept_answer (by rw [hphase]; rfl) none) rfl
  | giveUpAwaiting hphase =>
      exact hsound.giveAway rfl rfl
        ((Receipts.next_pronounce _ _ none).trans (Receipts.next_abandon _ _))
        (hsound.kept_giveUp hphase) rfl
  | accepted hphase | rejected hphase | dropped hphase =>
      exact hsound.giveAway rfl rfl
        ((Receipts.next_pronounce _ _ (some _)).trans (Receipts.next_look _ _))
        (hsound.kept_relay hphase (some _)) rfl
  | forwarded hphase _ hroom => exact hsound.forward hphase hroom
  | intercepted hphase _ hroom => exact hsound.intercept hphase hroom

end Steps

section Moves

variable {σ : Type} {setting : Setting}

theorem isAwaited_pronounce (receipts : Receipts) (number apart : Nat) (verdict : Verdict)
    (hawaited : (receipts.get apart).isAwaited = true) :
    ((receipts.pronounce number verdict).get apart).isAwaited = true := by
  rw [receipts.get_pronounce]
  split
  · next heq =>
      subst apart
      cases hreceipt : receipts.get number <;> cases verdict <;>
        simp_all [Receipt.pronounce, Receipt.respond, Receipt.forsake, Receipt.isAwaited]
  · exact hawaited

theorem isAwaited_lose (receipts : Receipts) (lost : Option Transaction) (apart : Nat)
    (hawaited : (receipts.get apart).isAwaited = true) :
    ((receipts.lose lost).get apart).isAwaited = true := by
  cases lost with
  | none => exact hawaited
  | some lost => exact isAwaited_pronounce receipts lost.number apart none hawaited

theorem Sound.settle (hsound : setting.Sound) (transaction : Transaction)
    (verdict : Verdict) :
    (setting.perform (.settle transaction verdict : SettingMove σ)).Sound := by
  simp only [perform]
  split
  · next hready =>
      apply hsound.around
      · exact fun other hmem => List.mem_of_mem_erase hmem
      · exact Receipts.next_pronounce _ _ verdict
      · exact fun number _ => isAwaited_pronounce _ _ number verdict
      · have hmem : transaction.number ∈ setting.inner :=
          List.mem_append_left _ (List.mem_map_of_mem hready)
        have hanswer := hsound.kept.answer hmem verdict
        refine hanswer.perm ?_ (List.Perm.refl _)
        unfold inner
        rw [List.erase_append_left _ (List.mem_map_of_mem hready)]
        apply List.Perm.append_right
        have hperm : (setting.ready.map Transaction.number).Perm
            (transaction.number ::
              (setting.ready.erase transaction).map Transaction.number) := by
          simpa using (List.perm_cons_erase hready).map Transaction.number
        simpa using hperm.erase transaction.number
  · exact hsound

theorem Sound.look (hsound : setting.Sound) (number : Nat) :
    (setting.perform (.look number : SettingMove σ)).Sound := by
  simp only [perform]
  split
  · next hmade =>
      apply hsound.around
      · exact fun _ hmem => hmem
      · exact Receipts.next_look _ _
      · intro other hunmade hawaited
        have hother : other ≠ number := fun heq => hunmade (heq ▸ hmade)
        rw [Accounts.update_receipts, setting.receipts.get_look, if_neg hother]
        exact hawaited
      · exact hsound.kept.look number
  · exact hsound

theorem Sound.withdraw (hsound : setting.Sound) (number : Nat) :
    (setting.perform (.withdraw number : SettingMove σ)).Sound := by
  simp only [perform]
  split
  · next hmade =>
      apply hsound.around
      · exact fun _ hmem => hmem
      · exact Receipts.next_abandon _ _
      · intro other hunmade hawaited
        have hother : other ≠ number := fun heq => hunmade (heq ▸ hmade)
        rw [Accounts.update_receipts, setting.receipts.get_abandon, if_neg hother]
        exact hawaited
      · exact hsound.kept.abandon number
  · exact hsound

theorem Sound.lose (hsound : setting.Sound) {outlet : Outlet} (hempty : outlet.slot = none) :
    { setting with
      guard := { setting.guard with outlet }
      accounts := setting.accounts.lose setting.guard.outlet.slot : Setting }.Sound := by
  apply hsound.around
  · exact fun _ hmem => hmem
  · rw [Accounts.lose_receipts]
    cases setting.guard.outlet.slot with
    | none => rfl
    | some lost => exact Receipts.next_pronounce _ _ none
  · intro number _ hawaited
    rw [Accounts.lose_receipts]
    exact isAwaited_lose _ _ number hawaited
  · rw [hempty]
    exact hsound.kept.lose

theorem Sound.receive (hsound : setting.Sound) :
    (setting.perform (.receive : SettingMove σ)).Sound := by
  simp only [perform]
  rw [Outlet.transaction?_offer]
  cases hclosing : setting.guard.outlet.isClosing with
  | true =>
      simp only [loses?, Outlet.take, hclosing, if_true, Option.map_none, Option.toList_none,
        List.nil_append]
      exact hsound.lose rfl
  | false =>
      simp only [loses?, Outlet.take, hclosing, Bool.false_eq_true, if_false]
      apply hsound.around
      · exact fun _ hmem => hmem
      · rfl
      · exact fun _ _ hawaited => hawaited
      · have hkept := hsound.kept
        unfold outer at hkept
        cases hslot : setting.guard.outlet.slot <;>
          simpa [hslot, inner, Accounts.lose] using hkept

theorem Sound.pronounce (hsound : setting.Sound) (number : Nat) (verdict : Verdict) :
    (setting.perform (.pronounce number verdict : SettingMove σ)).Sound := by
  simp only [perform]
  split
  · next hheld =>
      apply hsound.around
      · exact fun _ hmem => hmem
      · exact Receipts.next_pronounce _ _ verdict
      · exact fun other _ => isAwaited_pronounce _ _ other verdict
      · have hmem : number ∈ setting.outer := List.mem_append_right _ hheld
        have hpronounce := hsound.kept.pronounce hmem verdict
        have hslot : number ∉ setting.guard.outlet.slot.toList.map Transaction.number := by
          have hnodup := hsound.kept.nodup.sublist (List.sublist_append_right _ _)
          exact fun hin => (List.nodup_append.mp hnodup).2.2 number hin number hheld rfl
        unfold outer at hpronounce
        rwa [List.erase_append_right _ hslot] at hpronounce
  · exact hsound

theorem Sound.perform (hsound : setting.Sound) (move : SettingMove σ) :
    (setting.perform move).Sound := by
  cases move with
  | work sight =>
      rcases setting.perform_work_cases sight with hsame | ⟨move, hshows, hcase, hafter⟩
      · rw [hsame]
        exact hsound
      · rw [hafter]
        exact hsound.afterStep hshows hcase
  | make message => exact hsound.make message
  | settle transaction verdict => exact hsound.settle transaction verdict
  | look number => exact hsound.look number
  | withdraw number => exact hsound.withdraw number
  | receive => exact hsound.receive
  | pronounce number verdict => exact hsound.pronounce number verdict
  | close =>
      apply hsound.around
      · exact fun _ hmem => hmem
      · rfl
      · exact fun _ _ hawaited => hawaited
      · exact hsound.kept
  | refuse | letGo => exact hsound.lose rfl

end Moves

end Setting

end Intake
