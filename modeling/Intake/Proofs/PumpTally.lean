import Intake.Proofs.GuardTally
import Intake.Proofs.PumpDelivery
import Intake.Proofs.StageClosing

/-!
# What a pump counts

A pump counts what it sends and what comes back rejected or dropped; what comes
back acknowledged is not counted.  At any time at most one transaction that was
sent is neither, and none if the pump is not waiting and was not asked to close.
Whether an acknowledgement is taken as what the holder said or as what the pump
saw of it makes no difference to that.
-/

namespace Intake

/-- The transaction that a note says a pump saw acknowledged. -/
def UsageNote.acknowledged? : UsageNote → Option Nat
  | .worked (.pump _ (.acknowledged number)) => some number
  | _ => none

namespace Usage

/-- The transactions that the pump of a stage without guards has seen acknowledged. -/
def acknowledged (usage : Usage) : List Nat :=
  usage.record.filterMap UsageNote.acknowledged?

/-- The verdicts pronounced so far that accept a transaction. -/
def acceptances (usage : Usage) : List (Nat × Verdict) :=
  usage.verdicts.filter fun entry => entry.2.accepts

@[simp] theorem acknowledged_note (usage : Usage) (running : Running) (held : List Nat)
    (holding : Bool) (note : UsageNote) :
    (Usage.mk running held holding (usage.record ++ [note])).acknowledged =
      usage.acknowledged ++ note.acknowledged?.toList := by
  cases h : note.acknowledged? <;> simp [acknowledged, h]

@[simp] theorem acceptances_note (usage : Usage) (running : Running) (held : List Nat)
    (holding : Bool) (note : UsageNote) :
    (Usage.mk running held holding (usage.record ++ [note])).acceptances =
      usage.acceptances ++ (note.pronounced?.toList.filter fun entry => entry.2.accepts) := by
  simp [acceptances]

/-- How often the pump has counted in a family. -/
def count (usage : Usage) (kind : String) (family : MetricFamily) : Int :=
  usage.running.metrics.value ⟨family, some kind⟩

end Usage

/-- Where the transaction is that a pump has sent and has seen neither rejected nor
acknowledged, and whether the holder has accepted it. -/
inductive Pump.Owes (usage : Usage) (pump : Pump) : List Nat → List Nat → Prop
  | nothing (hslot : pump.outlet.slot = none) (hheld : usage.held = []) :
      Owes usage pump [] []
  | buffered {transaction : Transaction} (hslot : pump.outlet.slot = some transaction)
      (hheld : usage.held = [])
      (hreceipt : ∀ message, pump.phase = .awaiting message transaction.number →
        usage.receipts.get transaction.number = .open) :
      Owes usage pump [transaction.number] []
  | held {number : Nat} (hslot : pump.outlet.slot = none) (hheld : usage.held = [number])
      (hreceipt : ∀ message, pump.phase = .awaiting message number →
        usage.receipts.get number = .open) :
      Owes usage pump [number] []
  | decided {number : Nat} {verdict : Verdict} (hslot : pump.outlet.slot = none)
      (hheld : usage.held = [])
      (hreceipt : ∀ message, pump.phase = .awaiting message number →
        usage.receipts.get number = Receipt.open.pronounce verdict) :
      Owes usage pump [number] (if verdict.accepts then [number] else [])

/-- How the counters of a pump fit what it has sent and what has come back. -/
structure Pump.Tallied (kind : String) (usage : Usage) (pump : Pump)
    (sent accepted : List Nat) : Prop where
  stage : usage.running.stage = .pump pump
  named : pump.kind = kind
  owes : pump.Owes usage sent accepted
  awaiting : ∀ message number, pump.phase = .awaiting message number → sent = [number]
  idle : pump.outlet.shutdown.signalled = false →
    (∀ message number, pump.phase ≠ .awaiting message number) → sent = []
  balance : usage.count kind .streamSent =
    usage.count kind .streamRejected + usage.acknowledged.length + sent.length
  acceptances : usage.acceptances.length = usage.acknowledged.length + accepted.length

/-! ## One step -/

section Step

variable {kind : String} {usage : Usage} {pump : Pump} {sent accepted : List Nat}

namespace Pump

/-- Steps that leave the outlet alone leave what is owed where it is. -/
theorem Owes.congr (howes : pump.Owes usage sent accepted) {after : Pump} {other : Usage}
    (hslot : after.outlet.slot = pump.outlet.slot) (hheld : other.held = usage.held)
    (hreceipt : ∀ message number, after.phase = .awaiting message number →
      (pump.phase = .awaiting message number ∧
        other.receipts.get number = usage.receipts.get number)) :
    after.Owes other sent accepted := by
  cases howes with
  | nothing hempty hnone => exact .nothing (hslot.trans hempty) (hheld.trans hnone)
  | buffered hthere hnone hopen =>
      refine .buffered (hslot.trans hthere) (hheld.trans hnone) fun message hafter => ?_
      obtain ⟨hbefore, hsame⟩ := hreceipt message _ hafter
      exact hsame.trans (hopen message hbefore)
  | held hempty hone hopen =>
      refine .held (hslot.trans hempty) (hheld.trans hone) fun message hafter => ?_
      obtain ⟨hbefore, hsame⟩ := hreceipt message _ hafter
      exact hsame.trans (hopen message hbefore)
  | decided hempty hnone hdecided =>
      refine .decided (hslot.trans hempty) (hheld.trans hnone) fun message hafter => ?_
      obtain ⟨hbefore, hsame⟩ := hreceipt message _ hafter
      exact hsame.trans (hdecided message hbefore)

/-- A transaction that is awaited and not open any more is back with the verdict that lies
there. -/
theorem Owes.back {number : Nat} (howes : pump.Owes usage [number] accepted)
    {message : Message} (hphase : pump.phase = .awaiting message number)
    (hopen : usage.receipts.get number ≠ .open) :
    pump.outlet.slot = none ∧ usage.held = [] ∧
      ∃ verdict, usage.receipts.get number = Receipt.open.pronounce verdict ∧
        accepted = if verdict.accepts then [number] else [] := by
  cases howes with
  | buffered _ _ hreceipt => exact absurd (hreceipt message hphase) hopen
  | held _ _ hreceipt => exact absurd (hreceipt message hphase) hopen
  | decided hempty hnone hreceipt => exact ⟨hempty, hnone, _, hreceipt message hphase, rfl⟩

theorem Owes.length_le (howes : pump.Owes usage sent accepted) :
    sent.length ≤ 1 ∧ accepted.length ≤ sent.length := by
  cases howes with
  | @decided number verdict => cases h : verdict.accepts <;> simp
  | _ => simp

theorem Owes.of_nothing (howes : pump.Owes usage [] accepted) :
    pump.outlet.slot = none ∧ usage.held = [] ∧ accepted = [] := by
  cases howes with
  | nothing hempty hnone => exact ⟨hempty, hnone, rfl⟩

end Pump

theorem Usage.count_afterPump (move : PumpMove) (family : MetricFamily) :
    (usage.afterPump pump move).count kind family =
      usage.count kind family + (Event.pump pump.kind move.event).amount ⟨family, some kind⟩ :=
  Metrics.value_count _ _ _

namespace Pump

variable {move : PumpMove}

/-- A step keeps the counters in balance that counts what it changes of what is owed. -/
theorem Tallied.afterPump (htallied : pump.Tallied kind usage sent accepted)
    {sent' accepted' : List Nat}
    (howes : move.pump.Owes (usage.afterPump pump move) sent' accepted')
    (hkind : move.pump.kind = pump.kind)
    (hawaiting : ∀ message number, move.pump.phase = .awaiting message number →
      sent' = [number])
    (hidle : move.pump.outlet.shutdown.signalled = false →
      (∀ message number, move.pump.phase ≠ .awaiting message number) → sent' = [])
    (hbalance : (Event.pump kind move.event).amount ⟨.streamSent, some kind⟩ + sent.length =
      (Event.pump kind move.event).amount ⟨.streamRejected, some kind⟩ +
        (UsageNote.worked (.pump kind move.event)).acknowledged?.toList.length +
          sent'.length)
    (hacceptances : accepted.length =
      (UsageNote.worked (.pump kind move.event)).acknowledged?.toList.length +
        accepted'.length) :
    move.pump.Tallied kind (usage.afterPump pump move) sent' accepted' := by
  have hnamed := htallied.named
  subst hnamed
  have hacknowledged : (usage.afterPump pump move).acknowledged = usage.acknowledged ++
      (UsageNote.worked (.pump pump.kind move.event)).acknowledged?.toList :=
    Usage.acknowledged_note ..
  refine ⟨rfl, hkind, howes, hawaiting, hidle, ?_, ?_⟩
  · have hbefore := htallied.balance
    rw [Usage.count_afterPump, Usage.count_afterPump, hacknowledged, List.length_append]
    omega
  · have hbefore := htallied.acceptances
    have hsame : (usage.afterPump pump move).acceptances = usage.acceptances := by
      simp [Usage.afterPump, UsageNote.pronounced?]
    rw [hsame, hacknowledged, List.length_append]
    omega

/-- A step that sends nothing and sees nothing come back leaves the balance as it is. -/
theorem Tallied.quiet (htallied : pump.Tallied kind usage sent accepted)
    (hslot : move.pump.outlet.slot = pump.outlet.slot) (hkind : move.pump.kind = pump.kind)
    (hphase : ∀ message number, move.pump.phase ≠ .awaiting message number)
    (hidle : move.pump.outlet.shutdown.signalled = false → sent = [])
    (hevent : (Event.pump kind move.event).counts = [])
    (hacknowledged : (UsageNote.worked (.pump kind move.event)).acknowledged? = none) :
    move.pump.Tallied kind (usage.afterPump pump move) sent accepted := by
  apply htallied.afterPump
  · exact htallied.owes.congr hslot rfl fun message number hafter =>
      absurd hafter (hphase message number)
  · exact hkind
  · exact fun message number hafter => absurd hafter (hphase message number)
  · exact fun hopen _ => hidle hopen
  · simp [Event.amount, hevent, hacknowledged]
  · simp [hacknowledged]

theorem Tallied.rejected (htallied : pump.Tallied kind usage sent accepted)
    {message : Message} {number : Nat} (hphase : pump.phase = .awaiting message number)
    (hopen : usage.receipts.get number ≠ .open)
    (hreceipt : ∀ response, response.isAck = true →
      usage.receipts.get number ≠ .answered response) {receipts : Receipts} :
    (pump.enter (.offering message)).Tallied kind
      (usage.afterPump pump ⟨.rejected number, pump.enter (.offering message), receipts,
        usage.running.world.stdin⟩) [] [] := by
  obtain rfl := htallied.awaiting message number hphase
  obtain ⟨hempty, hnone, verdict, hback, rfl⟩ := htallied.owes.back hphase hopen
  have hrejects : verdict.accepts = false := by
    cases verdict with
    | none => rfl
    | some response =>
        cases hack : response.isAck with
        | false => exact hack
        | true => exact absurd hback (hreceipt response hack)
  apply htallied.afterPump
  · exact .nothing hempty hnone
  · rfl
  · simp [enter]
  · simp
  · simp [Event.amount, Event.counts, UsageNote.acknowledged?]
  · simp [hrejects, UsageNote.acknowledged?]

theorem Tallied.acknowledged (htallied : pump.Tallied kind usage sent accepted)
    {message : Message} {number : Nat} {response : Response}
    (hphase : pump.phase = .awaiting message number)
    (hanswered : usage.receipts.get number = .answered response)
    (hack : response.isAck = true) {receipts : Receipts} :
    (pump.enter .resting).Tallied kind
      (usage.afterPump pump ⟨.acknowledged number, pump.enter .resting, receipts,
        usage.running.world.stdin⟩) [] [] := by
  obtain rfl := htallied.awaiting message number hphase
  obtain ⟨hempty, hnone, verdict, hback, rfl⟩ :=
    htallied.owes.back hphase (by simp [hanswered])
  have haccepts : verdict.accepts = true := by
    rw [hanswered] at hback
    cases verdict with
    | none => simp [Receipt.pronounce, Receipt.forsake] at hback
    | some other =>
        obtain rfl : other = response := by
          simpa [Receipt.pronounce, Receipt.respond] using hback.symm
        exact hack
  apply htallied.afterPump
  · exact .nothing hempty hnone
  · rfl
  · simp [enter]
  · simp
  · simp [Event.amount, Event.counts, UsageNote.acknowledged?]
  · simp [haccepts, UsageNote.acknowledged?]

theorem Tallied.step (htallied : pump.Tallied kind usage sent accepted)
    (hcase : pump.StepCase usage.receipts usage.running.world.stdin move) :
    ∃ sent' accepted', move.pump.Tallied kind (usage.afterPump pump move) sent' accepted' := by
  cases hcase with
  | turnAway hphase | turnToSource hphase | ended hphase | failed hphase | pulled hphase
  | giveUp hphase | released hphase | confirmed hphase =>
      refine ⟨sent, accepted, htallied.quiet rfl rfl (by simp [enter]) ?_ rfl rfl⟩
      exact fun hopen => htallied.idle hopen (by simp [hphase])
  | readOn hphase =>
      refine ⟨sent, accepted, htallied.quiet rfl rfl (by simp [hphase]) ?_ rfl rfl⟩
      exact fun hopen => htallied.idle hopen (by simp [hphase])
  | withdrew hphase hclosing =>
      refine ⟨sent, accepted, htallied.quiet rfl rfl (by simp [enter]) ?_ rfl rfl⟩
      exact fun hopen => absurd hopen (by simp [enter, hclosing])
  | @sent message hphase hopen =>
      obtain rfl := htallied.idle hopen (by simp [hphase])
      obtain ⟨_, hnone, rfl⟩ := htallied.owes.of_nothing
      refine ⟨[usage.receipts.next], [], htallied.afterPump ?_ rfl ?_ ?_ ?_ ?_⟩
      · exact @Owes.buffered _ _ ⟨usage.receipts.next, message⟩ rfl hnone
          fun _ _ => usage.receipts.get_issue_next
      · rintro other number hafter
        cases hafter
        rfl
      · exact fun _ hafter => absurd rfl (hafter message usage.receipts.next)
      · simp [Event.amount, Event.counts, UsageNote.acknowledged?]
      · simp [UsageNote.acknowledged?]
  | acknowledged hphase _ hanswered hack =>
      exact ⟨[], [], htallied.acknowledged hphase hanswered hack⟩
  | rejected hphase _ hanswered hnack =>
      refine ⟨[], [], htallied.rejected hphase (by simp [hanswered]) ?_⟩
      intro response hack heq
      rw [hanswered, Receipt.answered.injEq] at heq
      simp [← heq, hnack] at hack
  | dropped hphase _ hlook =>
      refine ⟨[], [], htallied.rejected hphase ?_ ?_⟩
      · intro heq
        simp [heq, Receipt.look] at hlook
      · intro response _ heq
        simp [heq, Receipt.look] at hlook

end Pump

end Step

/-! ## Whole runs -/

section Run

variable {kind : String} {usage : Usage} {pump : Pump} {sent accepted : List Nat}

namespace Pump

theorem Tallied.start (kind : String) (source : Source) (world : World) :
    Pump.Tallied kind (Usage.start (.ofSource kind source) world) { kind, source } [] [] :=
  ⟨rfl, rfl, .nothing rfl rfl, by simp, fun _ _ => rfl, rfl, rfl⟩

theorem Tallied.work (htallied : pump.Tallied kind usage sent accepted) (level : Nat) :
    ∃ after sent' accepted', Pump.Tallied kind (usage.perform (.work level)) after sent'
      accepted' := by
  rcases usage.perform_work_cases level with hnone | ⟨move, hstep, hsome⟩
  · exact ⟨pump, sent, accepted, by rwa [hnone]⟩
  rw [htallied.stage] at hstep
  cases level with
  | succ level => simp [Stage.step_succ_pump] at hstep
  | zero =>
      obtain ⟨step, hpump, rfl⟩ := Stage.step_zero_pump hstep
      have hafter : usage.perform (.work 0) = usage.afterPump pump step := hsome
      rw [hafter]
      exact ⟨step.pump, htallied.step (Pump.stepCase_of_step hpump)⟩

/-- What the holder does that answers nothing changes only where a transaction lies. -/
theorem Tallied.around (htallied : pump.Tallied kind usage sent accepted) {running : Running}
    {held : List Nat} {holding : Bool} {note : UsageNote} {outlet : Outlet}
    {accepted' : List Nat} (hstage : running.stage = .pump { pump with outlet })
    (hmetrics : running.metrics = usage.running.metrics)
    (hsignalled : outlet.shutdown.signalled = false →
      pump.outlet.shutdown.signalled = false)
    (hacknowledged : note.acknowledged? = none)
    (hacceptances : (note.pronounced?.toList.filter fun entry => entry.2.accepts).length +
      accepted.length = accepted'.length)
    (howes : Pump.Owes (Usage.mk running held holding (usage.record ++ [note]))
      { pump with outlet } sent accepted') :
    Pump.Tallied kind (Usage.mk running held holding (usage.record ++ [note]))
      { pump with outlet } sent accepted' := by
  refine ⟨hstage, htallied.named, howes, htallied.awaiting,
    fun hopen hphase => htallied.idle (hsignalled hopen) hphase, ?_, ?_⟩
  · have hbefore := htallied.balance
    rw [Usage.acknowledged_note, hacknowledged]
    simpa [Usage.count, hmetrics] using hbefore
  · have hbefore := htallied.acceptances
    rw [Usage.acknowledged_note, Usage.acceptances_note, hacknowledged]
    simp only [Option.toList_none, List.append_nil, List.length_append]
    omega

/-- Losing what lies in the outlet decides it like a drop. -/
theorem Owes.lose (howes : pump.Owes usage sent accepted) {outlet : Outlet} {other : Usage}
    (hslot : outlet.slot = none) (hheld : other.held = usage.held)
    (hreceipts : other.receipts = usage.receipts.lose pump.outlet.slot) :
    Pump.Owes other { pump with outlet } sent accepted := by
  cases howes with
  | nothing hempty hnone => exact .nothing hslot (hheld.trans hnone)
  | @buffered transaction hthere hnone hopen =>
      have hlost : other.receipts = usage.receipts.pronounce transaction.number none := by
        rw [hreceipts, hthere]
        rfl
      have hdecided : Pump.Owes other { pump with outlet } [transaction.number]
          (if Verdict.accepts none then [transaction.number] else []) := by
        refine .decided hslot (hheld.trans hnone) fun message hphase => ?_
        rw [hlost, Receipts.get_pronounce, if_pos rfl, hopen message hphase]
      simpa using hdecided
  | held hempty hone hopen =>
      refine .held hslot (hheld.trans hone) fun message hphase => ?_
      rw [hreceipts, hempty]
      exact hopen message hphase
  | decided hempty hnone hdecided =>
      refine .decided hslot (hheld.trans hnone) fun message hphase => ?_
      rw [hreceipts, hempty]
      exact hdecided message hphase

/-- Receiving moves a transaction from the outlet to the holder, or loses it. -/
theorem Owes.take (howes : pump.Owes usage sent accepted) {other : Usage}
    (hheld : other.held =
      usage.held ++ (pump.outlet.offer.transaction?.map Transaction.number).toList)
    (hreceipts : other.receipts = (pump.outlet.take usage.receipts).2) :
    Pump.Owes other { pump with outlet := (pump.outlet.take usage.receipts).1 } sent
      accepted := by
  rw [Outlet.transaction?_offer] at hheld
  cases hclosing : pump.outlet.isClosing with
  | true =>
      apply howes.lose
      · simp [Outlet.take, hclosing]
      · simpa [hclosing] using hheld
      · simpa [Outlet.take, hclosing] using hreceipts
  | false =>
      have hsame : other.receipts = usage.receipts := by
        simpa [Outlet.take, hclosing] using hreceipts
      have hempty : (pump.outlet.take usage.receipts).1.slot = none := by
        simp [Outlet.take, hclosing]
      simp only [hclosing, Bool.false_eq_true, if_false] at hheld
      cases howes with
      | nothing hslot hnone => exact .nothing hempty (by simpa [hslot, hnone] using hheld)
      | buffered hslot hnone hopen =>
          refine .held hempty (by simpa [hslot, hnone] using hheld) fun message hphase => ?_
          rw [hsame]
          exact hopen message hphase
      | held hslot hone hopen =>
          refine .held hempty (by simpa [hslot, hone] using hheld) fun message hphase => ?_
          rw [hsame]
          exact hopen message hphase
      | decided hslot hnone hdecided =>
          refine .decided hempty (by simpa [hslot, hnone] using hheld) fun message hphase => ?_
          rw [hsame]
          exact hdecided message hphase

/-- A holder that pronounces a verdict decides the one transaction that it holds. -/
theorem Owes.pronounce (howes : pump.Owes usage sent accepted) {number : Nat}
    (hheld : number ∈ usage.held) {verdict : Verdict} {other : Usage}
    (hless : other.held = usage.held.erase number)
    (hreceipts : other.receipts = usage.receipts.pronounce number verdict) :
    accepted = [] ∧
      pump.Owes other sent (if verdict.accepts then [number] else []) := by
  cases howes with
  | nothing _ hnone => simp [hnone] at hheld
  | buffered _ hnone => simp [hnone] at hheld
  | decided _ hnone => simp [hnone] at hheld
  | held hslot hone hopen =>
      obtain rfl : number = _ := by simpa [hone] using hheld
      refine ⟨rfl, .decided hslot (by simp [hless, hone]) fun message hphase => ?_⟩
      rw [hreceipts, Receipts.get_pronounce, if_pos rfl, hopen message hphase]

theorem signalled_of_close (outlet : Outlet)
    (hopen : outlet.close.shutdown.signalled = false) : outlet.shutdown.signalled = false := by
  cases hrequested : outlet.shutdown.requested <;>
    simp_all [Outlet.close, Shutdown.request, Shutdown.requestClose]

theorem Tallied.perform (htallied : pump.Tallied kind usage sent accepted)
    (move : UsageMove) :
    ∃ after sent' accepted', Pump.Tallied kind (usage.perform move) after sent' accepted' := by
  have hperforms := usage.performs move
  cases move with
  | work level => exact htallied.work level
  | receive =>
      generalize usage.perform .receive = later at hperforms ⊢
      cases hperforms with
      | idle => exact ⟨pump, sent, accepted, htallied⟩
      | received hholding =>
          refine ⟨{ pump with outlet := (pump.outlet.take usage.receipts).1 }, sent, accepted,
            htallied.around ?_ rfl ?_ rfl ?_ (htallied.owes.take ?_ ?_)⟩
          · simp [Running.receive, htallied.stage, Stage.take, Stage.outlet, Stage.withOutlet,
              Usage.receipts]
          · intro hopen
            rwa [Outlet.shutdown_take] at hopen
          · simp [UsageNote.pronounced?]
          · simp [Running.receive, htallied.stage, Stage.outlet]
          · simp [Running.receive, htallied.stage, Stage.take, Stage.outlet, Usage.receipts]
  | pronounce number verdict =>
      generalize usage.perform (.pronounce number verdict) = later at hperforms ⊢
      cases hperforms with
      | idle => exact ⟨pump, sent, accepted, htallied⟩
      | pronounced hheld =>
          have hdecided : accepted = [] ∧ pump.Owes
              (Usage.mk (usage.running.pronounce number verdict) (usage.held.erase number)
                usage.holding (usage.record ++ [.pronounced number verdict])) sent
              (if verdict.accepts then [number] else []) :=
            htallied.owes.pronounce hheld rfl rfl
          obtain ⟨rfl, howes⟩ := hdecided
          refine ⟨pump, sent, _, htallied.around htallied.stage rfl id rfl ?_ howes⟩
          cases h : verdict.accepts <;> simp [UsageNote.pronounced?, h]
  | close =>
      generalize usage.perform .close = later at hperforms ⊢
      cases hperforms with
      | idle => exact ⟨pump, sent, accepted, htallied⟩
      | closed hholding =>
          refine ⟨{ pump with outlet := pump.outlet.close }, sent, accepted,
            htallied.around ?_ rfl (signalled_of_close _) rfl ?_
              (htallied.owes.congr rfl rfl fun _ _ hphase => ⟨hphase, rfl⟩)⟩
          · simp [Running.close, htallied.stage, Stage.close, Stage.outlet, Stage.withOutlet]
          · simp [UsageNote.pronounced?]
  | letGo =>
      generalize usage.perform .letGo = later at hperforms ⊢
      cases hperforms with
      | idle => exact ⟨pump, sent, accepted, htallied⟩
      | letGo hholding =>
          refine ⟨{ pump with outlet := (pump.outlet.letGo usage.receipts).1 }, sent, accepted,
            htallied.around ?_ rfl (signalled_of_close _) rfl ?_
              (htallied.owes.lose rfl rfl ?_)⟩
          · simp [Running.letGo, htallied.stage, Stage.letGo, Stage.outlet, Stage.withOutlet,
              Usage.receipts]
          · simp [UsageNote.pronounced?]
          · simp [Running.letGo, htallied.stage, Stage.letGo, Stage.outlet, Outlet.letGo,
              Usage.receipts]
  | rewrite disk =>
      refine ⟨pump, sent, accepted, htallied.around htallied.stage rfl id rfl ?_
        (htallied.owes.congr rfl rfl fun _ _ hphase => ⟨hphase, rfl⟩)⟩
      simp [UsageNote.pronounced?]

theorem tallied_performAll (kind : String) (source : Source) (world : World)
    (moves : List UsageMove) :
    ∃ pump sent accepted, Pump.Tallied kind
      ((Usage.start (.ofSource kind source) world).performAll moves) pump sent accepted := by
  apply Usage.performAll_induction
    (motive := fun usage => ∃ pump sent accepted, Pump.Tallied kind usage pump sent accepted)
  · exact ⟨_, _, _, Tallied.start kind source world⟩
  · rintro usage move ⟨pump, sent, accepted, htallied⟩
    exact htallied.perform move

end Pump

/-- The balances of a pump's counters. -/
structure Usage.Balanced (kind : String) (usage : Usage) : Prop where
  /-- All that was sent came back rejected or acknowledged, as the pump saw it, but for one
  transaction at most. -/
  seen : ∃ rest ≤ 1, usage.count kind .streamSent =
    usage.count kind .streamRejected + usage.acknowledged.length + (rest : Nat)
  /-- The same holds with what the holder accepted in place of what the pump saw of it. -/
  said : ∃ rest ≤ 1, usage.count kind .streamSent =
    usage.count kind .streamRejected + usage.acceptances.length + (rest : Nat)
  /-- A pump that does not wait and was not asked to close has had back all that it sent, so
  one that has ended. -/
  complete : usage.outlet.shutdown.signalled = false →
    ∀ pump, usage.running.stage = .pump pump →
      (∀ message number, pump.phase ≠ .awaiting message number) →
        usage.count kind .streamSent =
            usage.count kind .streamRejected + usage.acknowledged.length ∧
          usage.acceptances.length = usage.acknowledged.length

theorem Pump.Tallied.balanced (htallied : pump.Tallied kind usage sent accepted) :
    usage.Balanced kind := by
  obtain ⟨hsent, haccepted⟩ := htallied.owes.length_le
  have hbalance := htallied.balance
  have hacceptances := htallied.acceptances
  refine ⟨⟨sent.length, hsent, hbalance⟩,
    ⟨sent.length - accepted.length, by omega, ?_⟩, ?_⟩
  · omega
  · intro hopen other hstage hphase
    obtain rfl : pump = other := by simpa [htallied.stage] using hstage
    have hsignal : pump.outlet.shutdown.signalled = false := by
      simpa [Usage.outlet, htallied.stage, Stage.outlet] using hopen
    have hnothing := htallied.idle hsignal hphase
    have hlength : sent.length = 0 := by rw [hnothing, List.length_nil]
    omega

/-- **Metrics are conserved.**  In every run of a guard between an input and a holder that do
as they like, and of a pump with any source and any holder, the counters are in balance. -/
theorem counters_balanced :
    (∀ (σ : Type) (input : InputConfig) (restart : Bool) (condition : Condition)
        (moves : List (SettingMove σ)),
      ((Setting.start input restart condition).performAll moves).Balanced σ) ∧
    ∀ (kind : String) (source : Source) (world : World) (moves : List UsageMove),
      ((Usage.start (.ofSource kind source) world).performAll moves).Balanced kind := by
  constructor
  · intro σ input restart condition moves
    exact Setting.guard_balanced input restart condition moves
  · intro kind source world moves
    obtain ⟨pump, sent, accepted, htallied⟩ :=
      Pump.tallied_performAll kind source world moves
    exact htallied.balanced

end Run

end Intake
