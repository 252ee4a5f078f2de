import Intake.Proofs.StageReceipts

/-!
# What the workers at each level keep

A worker puts a transaction into its outlet only when everything that it put
there before has been answered or dropped.  A pump knows because it waits for the
response.  A guard knows because it waits itself, or because what it handed on
was made by its input, which waits then; and an input that comes to its end by
itself has nothing unanswered.
-/

namespace Intake

/-! ## What a stage has put out -/

def PumpEvent.puts : PumpEvent → List Nat
  | .sent transaction => [transaction.number]
  | _ => []

def GuardEvent.puts : GuardEvent → List Nat
  | .forwarded transaction | .intercepted _ transaction => [transaction.number]
  | _ => []

/-- The numbers that a step put into the outlet of its worker. -/
def Event.puts : Event → List Nat
  | .pump _ event => event.puts
  | .guard event => event.puts

/-- The numbers that the stage at each level has put into its outlet since it was
built. -/
abbrev Output := Nat → List Nat

namespace Output

def inner (output : Output) : Output := fun level => output (level + 1)

/-- The output after a step of the worker at a level.  A restart replaces all that
is below. -/
def after (output : Output) (level : Nat) (event : Event) : Output := fun place =>
  if place = level then output place ++ event.puts
  else if level < place ∧ event = .guard .rebuilt then []
  else output place

variable (output : Output) (level : Nat) (event : Event)

@[simp] theorem inner_zero : output.inner 0 = output 1 := rfl

@[simp] theorem after_self : output.after level event level = output level ++ event.puts := by
  simp [after]

@[simp] theorem after_succ_zero : output.after (level + 1) event 0 = output 0 := by
  simp [after]

theorem inner_after_succ :
    (output.after (level + 1) event).inner = output.inner.after level event := by
  funext place
  simp [inner, after]

theorem after_zero_of_ne (hevent : event ≠ .guard .rebuilt) {place : Nat} (hplace : 0 < place) :
    output.after 0 event place = output place := by
  simp [after, hevent, hplace.ne']

theorem inner_after_zero (hevent : event ≠ .guard .rebuilt) :
    (output.after 0 event).inner = output.inner := by
  funext place
  exact output.after_zero_of_ne event hevent place.succ_pos

theorem inner_after_rebuilt : (output.after 0 (.guard .rebuilt)).inner = fun _ => [] := by
  funext place
  simp [inner, after]

theorem subset_after_zero : output 0 ⊆ output.after level event 0 := by
  cases level with
  | zero =>
      rw [after_self]
      exact List.subset_append_left _ _
  | succ level =>
      rw [after_succ_zero]
      exact List.Subset.refl _

end Output

/-! ## What is unanswered -/

/-- Everything made has been answered or dropped. -/
def Receipts.Clear (receipts : Receipts) (made : List Nat) : Prop :=
  ∀ number ∈ made, (receipts.get number).isOwed = false

/-- At most one transaction made is unanswered, and it has this number. -/
def Receipts.OwesOnly (receipts : Receipts) (made : List Nat) (number : Nat) : Prop :=
  ∀ other ∈ made, (receipts.get other).isOwed = true → other = number

namespace Receipts

variable {before after receipts : Receipts} {made : List Nat} {number : Nat}

theorem Clear.settle (hclear : before.Clear made) (hissued : ∀ number ∈ made, number < before.next)
    (hsettles : before.Settles after) : after.Clear made := fun number hmade =>
  hsettles.unowed number (hissued number hmade) (hclear number hmade)

theorem OwesOnly.settle (honly : before.OwesOnly made number)
    (hissued : ∀ number ∈ made, number < before.next) (hsettles : before.Settles after) :
    after.OwesOnly made number := fun other hmade howed =>
  honly other hmade (hsettles.owed (hissued other hmade) howed)

theorem Clear.owesOnly_append (hclear : receipts.Clear made) (number : Nat) :
    receipts.OwesOnly (made ++ [number]) number := by
  intro other hmade howed
  rcases List.mem_append.mp hmade with hold | hnew
  · have hunowed := hclear other hold
    simp [hunowed] at howed
  · simpa using hnew

/-- Whoever sees the one response that is missing finds nothing missing. -/
theorem OwesOnly.clear_look (honly : receipts.OwesOnly made number)
    (hawaited : (receipts.get number).isAwaited = true)
    (hlook : (receipts.get number).look.2 ≠ .pending) : (receipts.look number).2.Clear made := by
  intro other hmade
  rw [receipts.get_look]
  split
  · cases hget : receipts.get number <;>
      simp_all [Receipt.look, Receipt.isOwed, Receipt.isAwaited]
  · next happart =>
      by_contra howed
      exact happart (honly other hmade (by simpa using howed))

end Receipts

/-! ## What holds at each level -/

section Levels

variable (receipts : Receipts) (made : List Nat)

structure Outlet.Spares (outlet : Outlet) : Prop where
  issued : ∀ number ∈ made, number < receipts.next
  few : ∀ number ∈ made, (receipts.get number).isOwed = true → receipts.OwesOnly made number
  shown : ∀ transaction, outlet.slot = some transaction →
    transaction.number ∈ made ∧ receipts.OwesOnly made transaction.number
  refused : outlet.refused = true → outlet.shutdown.signalled = true

/-- A pump that has not been asked to close waits for whatever is unanswered. -/
structure Pump.Spares (pump : Pump) : Prop where
  outlet : pump.outlet.Spares receipts made
  released : pump.outlet.released = true → pump.phase = .confirming ∨ pump.phase = .finished
  clear : pump.outlet.shutdown.signalled = false → ∀ number ∈ made,
    (receipts.get number).isOwed = true → ∃ message, pump.phase = .awaiting message number

/-- Where a guard has received from its input or is about to. -/
def GuardPhase.IsTurned : GuardPhase → Prop
  | .receiving | .forwarding _ | .intercepting _ | .awaiting .. => True
  | _ => False

/-- A guard that has not been asked to close waits for whatever is unanswered, or
its input made that and waits for it. -/
structure Guard.Spares (inner : List Nat) (inside : Outlet) (guard : Guard) : Prop where
  outlet : guard.outlet.Spares receipts made
  released : guard.outlet.released = true →
    ∃ exit, guard.phase = .confirming exit ∨ guard.phase = .finished exit
  clear : guard.outlet.shutdown.signalled = false → ∀ number ∈ made,
    (receipts.get number).isOwed = true →
      (∃ candidate, guard.phase = .awaiting candidate number) ∨
        guard.current = true ∧ guard.phase.IsWaiting ∧ number ∈ inner ∧ number ∉ inside.buffered
  taken : guard.outlet.shutdown.signalled = false → ∀ transaction,
    guard.phase = .forwarding transaction ∨ guard.phase = .intercepting transaction →
      transaction.number ∈ inner ∧
        ((receipts.get transaction.number).isOwed = true → transaction.number ∉ inside.buffered)
  turned : guard.phase.IsTurned → guard.current = true
  running : guard.current = true →
    guard.phase = .starting ∨ guard.phase = .deciding ∨ guard.phase.IsTurned →
      inside.isClosing = false

end Levels

def Stage.Spares (receipts : Receipts) : Output → Stage → Prop
  | output, .pump leaf => leaf.Spares receipts (output 0)
  | output, .guard head wrapped =>
      head.Spares receipts (output 0) (output 1) wrapped.outlet ∧
        wrapped.Spares receipts output.inner

namespace Outlet.Spares

variable {receipts after : Receipts} {made : List Nat} {outlet : Outlet}

theorem settle (hspares : outlet.Spares receipts made) (hsettles : receipts.Settles after) :
    outlet.Spares after made := by
  refine ⟨fun number hmade => (hspares.issued number hmade).trans_le hsettles.next,
    fun number hmade howed => ?_, fun transaction hslot => ?_, hspares.refused⟩
  · have hbefore := hsettles.owed (hspares.issued number hmade) howed
    exact (hspares.few number hmade hbefore).settle hspares.issued hsettles
  · obtain ⟨hmade, honly⟩ := hspares.shown transaction hslot
    exact ⟨hmade, honly.settle hspares.issued hsettles⟩

theorem put (hspares : outlet.Spares receipts made) (hclear : receipts.Clear made)
    {transaction : Transaction} (hissued : transaction.number < receipts.next) :
    (outlet.put transaction).Spares receipts (made ++ [transaction.number]) := by
  have honly := hclear.owesOnly_append transaction.number
  refine ⟨fun number hmade => ?_, fun number hmade howed => ?_, fun other hslot => ?_,
    hspares.refused⟩
  · rcases List.mem_append.mp hmade with hold | hnew
    · exact hspares.issued number hold
    · rw [List.mem_singleton.mp hnew]
      exact hissued
  · rw [honly number hmade howed]
    exact honly
  · obtain rfl : transaction = other := by simpa [Outlet.put] using hslot
    exact ⟨by simp, honly⟩

theorem put_next (hspares : outlet.Spares receipts made) (hclear : receipts.Clear made)
    (payload : Message) :
    (outlet.put ⟨receipts.next, payload⟩).Spares receipts.issue (made ++ [receipts.next]) := by
  have hissued : (⟨receipts.next, payload⟩ : Transaction).number < receipts.issue.next := by simp
  have hclear := hclear.settle hspares.issued receipts.settles_issue
  exact (hspares.settle receipts.settles_issue).put hclear hissued

theorem keep (hspares : outlet.Spares receipts made) {other : Outlet}
    (hslot : other.slot = outlet.slot ∨ other.slot = none)
    (hrefused : other.refused = true → other.shutdown.signalled = true) :
    other.Spares receipts made := by
  refine ⟨hspares.issued, hspares.few, fun transaction hshown => ?_, hrefused⟩
  rcases hslot with hsame | hempty
  · exact hspares.shown transaction (hsame ▸ hshown)
  · simp [hempty] at hshown

theorem fresh (receipts : Receipts) : ({} : Outlet).Spares receipts [] := by
  constructor <;> simp

end Outlet.Spares

/-! ## Steps of a pump -/

namespace Pump.Spares

variable {receipts : Receipts} {made : List Nat} {pump : Pump}

theorem clear_of (hspares : pump.Spares receipts made)
    (hopen : pump.outlet.shutdown.signalled = false)
    (hphase : ∀ message number, pump.phase ≠ .awaiting message number) : receipts.Clear made := by
  intro number hmade
  by_contra howed
  obtain ⟨message, hawaiting⟩ := hspares.clear hopen number hmade (by simpa using howed)
  exact hphase message number hawaiting

theorem owesOnly_of (hspares : pump.Spares receipts made)
    (hopen : pump.outlet.shutdown.signalled = false) {message : Message} {number : Nat}
    (hphase : pump.phase = .awaiting message number) : receipts.OwesOnly made number := by
  intro other hmade howed
  obtain ⟨_, hawaiting⟩ := hspares.clear hopen other hmade howed
  rw [hphase] at hawaiting
  cases hawaiting
  rfl

theorem settle (hspares : pump.Spares receipts made) {after : Receipts}
    (hsettles : receipts.Settles after) : pump.Spares after made :=
  ⟨hspares.outlet.settle hsettles, hspares.released, fun hopen number hmade howed =>
    hspares.clear hopen number hmade (hsettles.owed (hspares.outlet.issued number hmade) howed)⟩

theorem of_clear (houtlet : pump.outlet.Spares receipts made)
    (hreleased : pump.outlet.released = true → pump.phase = .confirming ∨ pump.phase = .finished)
    (hclear : pump.outlet.shutdown.signalled = false → receipts.Clear made) :
    pump.Spares receipts made := by
  refine ⟨houtlet, hreleased, fun hopen number hmade howed => ?_⟩
  simp [hclear hopen number hmade] at howed

theorem step {stdin : ByteSource} {move : PumpMove} (hspares : pump.Spares receipts made)
    (hawaits : ∀ number ∈ pump.phase.awaited, (receipts.get number).isAwaited = true)
    (hsettles : receipts.Settles move.receipts)
    (hstep : pump.step receipts stdin = some move) :
    move.pump.Spares move.receipts (made ++ move.event.puts) := by
  have hreleased := hspares.released
  have hcase := Pump.stepCase_of_step hstep
  have hquiet (hopen : pump.outlet.shutdown.signalled = false)
      (hphase : ∀ message number, pump.phase ≠ .awaiting message number) :
      move.receipts.Clear made :=
    (hspares.clear_of hopen hphase).settle hspares.outlet.issued hsettles
  have hanswered {message : Message} {number : Nat}
      (hopen : pump.outlet.shutdown.signalled = false)
      (hphase : pump.phase = .awaiting message number)
      (hlook : (receipts.get number).look.2 ≠ .pending) : (receipts.look number).2.Clear made :=
    (hspares.owesOnly_of hopen hphase).clear_look
      (hawaits number (by simp [hphase, PumpPhase.awaited])) hlook
  cases hcase with
  | sent hphase hopen =>
      have hclear : receipts.Clear made := hspares.clear_of hopen (by simp [hphase])
      refine ⟨hspares.outlet.put_next hclear _, fun hlet => ?_, fun _ number hmade howed => ?_⟩
      · simp [hphase] at hreleased
        simp [Outlet.put, hreleased] at hlet
      · have honly := (hclear.settle hspares.outlet.issued
          receipts.settles_issue).owesOnly_append receipts.next
        obtain rfl := honly number hmade howed
        exact ⟨_, rfl⟩
  | acknowledged hphase hopen hget | rejected hphase hopen hget =>
      have hclear := hanswered hopen hphase (by simp [hget, Receipt.look])
      simp only [PumpEvent.puts, List.append_nil]
      refine of_clear (hspares.outlet.settle hsettles) ?_ fun _ => hclear
      simpa [hphase, enter] using hreleased
  | dropped hphase hopen hlook =>
      have hclear := hanswered hopen hphase (by simp [hlook])
      simp only [PumpEvent.puts, List.append_nil]
      refine of_clear (hspares.outlet.settle hsettles) ?_ fun _ => hclear
      simpa [hphase, enter] using hreleased
  | withdrew hphase hclosing =>
      simp only [PumpEvent.puts, List.append_nil]
      refine of_clear (hspares.outlet.settle hsettles) ?_ fun hopen => ?_
      · simpa [hphase, enter] using hreleased
      · simp [enter, hclosing] at hopen
  | released hphase =>
      simp only [PumpEvent.puts, List.append_nil]
      exact of_clear (hspares.outlet.keep (.inl rfl) hspares.outlet.refused)
        (fun _ => .inl rfl) fun hopen => hquiet hopen (by simp [hphase])
  | confirmed hphase =>
      simp only [PumpEvent.puts, List.append_nil]
      exact of_clear (hspares.outlet.keep (.inl rfl) hspares.outlet.refused)
        (fun _ => .inr rfl) fun hopen => hquiet hopen (by simp [hphase])
  | turnAway hphase | turnToSource hphase | readOn hphase | ended hphase | failed hphase
  | pulled hphase | giveUp hphase =>
      simp only [PumpEvent.puts, List.append_nil]
      refine of_clear hspares.outlet ?_ fun hopen => hquiet hopen (by simp [hphase])
      simpa [hphase, enter] using hreleased

end Pump.Spares

/-! ## Stages as their holders see them -/

namespace Guard.Spares

variable {receipts after : Receipts} {made inner more : List Nat} {inside later : Outlet}
  {guard : Guard}

theorem clear_of (hspares : guard.Spares receipts made inner inside)
    (hopen : guard.outlet.shutdown.signalled = false)
    (hphase : ∀ candidate number, guard.phase ≠ .awaiting candidate number)
    (hwaiting : ¬(guard.current = true ∧ guard.phase.IsWaiting)) : receipts.Clear made := by
  intro number hmade
  by_contra howed
  rcases hspares.clear hopen number hmade (by simpa using howed) with
    ⟨candidate, hawaiting⟩ | ⟨hcurrent, hphase, _⟩
  · exact hphase candidate number hawaiting
  · exact hwaiting ⟨hcurrent, hphase⟩

theorem owesOnly_of (hspares : guard.Spares receipts made inner inside)
    (hopen : guard.outlet.shutdown.signalled = false) {candidate number : Nat}
    (hphase : guard.phase = .awaiting candidate number) : receipts.OwesOnly made number := by
  intro other hmade howed
  rcases hspares.clear hopen other hmade howed with ⟨_, hawaiting⟩ | ⟨_, hwaiting, _⟩
  · rw [hphase] at hawaiting
    cases hawaiting
    rfl
  · simp [hphase, GuardPhase.IsWaiting] at hwaiting

theorem unreleased (hspares : guard.Spares receipts made inner inside)
    (hphase : ∀ exit, guard.phase ≠ .confirming exit ∧ guard.phase ≠ .finished exit) :
    guard.outlet.released = false := by
  by_contra hlet
  obtain ⟨exit, hconfirming | hfinished⟩ := hspares.released (by simpa using hlet)
  · exact (hphase exit).1 hconfirming
  · exact (hphase exit).2 hfinished

/-- What happens elsewhere changes nothing for a guard as long as receipts settle
and its input puts nothing out that is already unanswered. -/
theorem elsewhere (hspares : guard.Spares receipts made inner inside)
    (hsettles : receipts.Settles after) (hissued : ∀ number ∈ inner, number < receipts.next)
    (hmore : inner ⊆ more)
    (hlying : ∀ number ∈ inner, (after.get number).isOwed = true →
      number ∉ inside.buffered → number ∉ later.buffered)
    (hclosing : later.isClosing = inside.isClosing) : guard.Spares after made more later := by
  refine ⟨hspares.outlet.settle hsettles, hspares.released, fun hopen number hmade howed => ?_,
    fun hopen transaction hphase => ?_, hspares.turned,
    fun hcurrent hphase => hclosing.trans (hspares.running hcurrent hphase)⟩
  · have hbefore := hsettles.owed (hspares.outlet.issued number hmade) howed
    rcases hspares.clear hopen number hmade hbefore with
      hawaiting | ⟨hcurrent, hwaiting, hinner, houtside⟩
    · exact .inl hawaiting
    · exact .inr ⟨hcurrent, hwaiting, hmore hinner, hlying number hinner howed houtside⟩
  · obtain ⟨hinner, houtside⟩ := hspares.taken hopen transaction hphase
    refine ⟨hmore hinner, fun howed => hlying _ hinner howed (houtside ?_)⟩
    exact hsettles.owed (hissued _ hinner) howed

theorem of_deciding (houtlet : guard.outlet.Spares receipts made)
    (hreleased : guard.outlet.released = false) (hphase : guard.phase = .deciding)
    (hclear : guard.outlet.shutdown.signalled = false → receipts.Clear made)
    (hrunning : guard.current = true → inside.isClosing = false) :
    guard.Spares receipts made inner inside := by
  refine ⟨houtlet, fun hlet => ?_, fun hopen number hmade howed => ?_, fun _ _ hholding => ?_,
    fun hturned => ?_, fun hcurrent _ => hrunning hcurrent⟩
  · simp [hreleased] at hlet
  · simp [hclear hopen number hmade] at howed
  · simp [hphase] at hholding
  · simp [hphase, GuardPhase.IsTurned] at hturned

theorem of_idle (houtlet : guard.outlet.Spares receipts made)
    (hreleased : guard.outlet.released = true →
      ∃ exit, guard.phase = .confirming exit ∨ guard.phase = .finished exit)
    (hidle : guard.phase ≠ .starting ∧ guard.phase ≠ .deciding ∧ ¬guard.phase.IsTurned)
    (hclear : guard.outlet.shutdown.signalled = false → receipts.Clear made) :
    guard.Spares receipts made inner inside := by
  obtain ⟨hstarted, hdecided, hturned⟩ := hidle
  refine ⟨houtlet, hreleased, fun hopen number hmade howed => ?_, fun _ _ hholding => ?_,
    fun hturning => absurd hturning hturned, fun _ hphase => ?_⟩
  · simp [hclear hopen number hmade] at howed
  · rcases hholding with hphase | hphase <;> simp [hphase, GuardPhase.IsTurned] at hturned
  · tauto

theorem leave (houtlet : guard.outlet.Spares receipts made)
    (hkept : guard.outlet.released = false) {phase : GuardPhase}
    (hidle : phase ≠ .starting ∧ phase ≠ .deciding ∧ ¬phase.IsTurned)
    (hclear : guard.outlet.shutdown.signalled = false → receipts.Clear made) :
    (guard.enter phase).Spares receipts made inner inside :=
  of_idle houtlet (fun hlet => by simp [enter, hkept] at hlet) hidle hclear

/-- A guard that turns to its input does not take back what its input made. -/
theorem turn (hspares : guard.Spares receipts made inner inside) (hphase : guard.phase = .deciding)
    (hcurrent : guard.current = true) :
    (guard.enter .receiving).Spares receipts made inner inside := by
  have hkept := hspares.unreleased (by simp [hphase])
  refine ⟨hspares.outlet, fun hlet => ?_, fun hopen number hmade howed => ?_,
    fun _ _ hholding => by simp [enter] at hholding, fun _ => hcurrent,
    fun _ _ => hspares.running hcurrent (.inr (.inl hphase))⟩
  · simp [enter, hkept] at hlet
  · rcases hspares.clear hopen number hmade howed with ⟨_, hawaiting⟩ | ⟨_, _, hinner, houtside⟩
    · simp [hphase] at hawaiting
    · exact .inr ⟨hcurrent, .inr rfl, hinner, houtside⟩

theorem clear_relay (hspares : guard.Spares receipts made inner inside)
    (hopen : guard.outlet.shutdown.signalled = false) {candidate number : Nat}
    (hphase : guard.phase = .awaiting candidate number)
    (hawaited : (receipts.get number).isAwaited = true)
    (hlook : (receipts.get number).look.2 ≠ .pending) (response : Response) :
    ((receipts.look number).2.respond candidate response).2.Clear made := by
  have hclear := (hspares.owesOnly_of hopen hphase).clear_look hawaited hlook
  have hissued : ∀ other ∈ made, other < (receipts.look number).2.next := by
    rw [Receipts.next_look]
    exact hspares.outlet.issued
  exact hclear.settle hissued (Receipts.settles_pronounce _ candidate (some response))

end Guard.Spares

namespace Stage.Spares

variable {receipts after : Receipts} {stage : Stage} {output : Output}

theorem outlet (hspares : stage.Spares receipts output) :
    stage.outlet.Spares receipts (output 0) := by
  cases stage with
  | pump leaf => exact Pump.Spares.outlet hspares
  | guard head wrapped => exact hspares.1.outlet

/-- An input that ended by itself has nothing unanswered. -/
theorem clear_of_ended (hspares : stage.Spares receipts output)
    (hoffer : stage.outlet.offer = .ended) (hrunning : stage.outlet.isClosing = false) :
    receipts.Clear (output 0) := by
  have hopen : stage.outlet.shutdown.signalled = false := by
    simp only [Outlet.isClosing, Bool.or_eq_false_iff] at hrunning
    exact hrunning.2
  have hrefused : stage.outlet.refused = false := by
    by_contra hrefused
    have hsignal := hspares.outlet.refused (by simpa using hrefused)
    simp [hsignal] at hopen
  have hreleased : stage.outlet.released = true := by
    cases hslot : stage.outlet.slot <;> simp_all [Outlet.offer]
  cases stage with
  | pump leaf =>
      have hleaf : leaf.Spares receipts (output 0) := hspares
      refine hleaf.clear_of hopen fun message number hphase => ?_
      rcases hleaf.released hreleased with hleft | hleft <;> simp [hleft] at hphase
  | guard head wrapped =>
      obtain ⟨hhead, _⟩ := hspares
      obtain ⟨exit, hleft⟩ := hhead.released hreleased
      refine hhead.clear_of hopen (fun candidate number hphase => ?_) fun hwaiting => ?_
      · rcases hleft with hleft | hleft <;> simp [hleft] at hphase
      · rcases hleft with hleft | hleft <;> simp [hleft, GuardPhase.IsWaiting] at hwaiting

theorem settle (hspares : stage.Spares receipts output) (hsettles : receipts.Settles after) :
    stage.Spares after output := by
  induction stage generalizing output with
  | pump leaf => exact Pump.Spares.settle hspares hsettles
  | guard head wrapped ih =>
      obtain ⟨hhead, hwrapped⟩ := hspares
      exact ⟨hhead.elsewhere hsettles hwrapped.outlet.issued (List.Subset.refl _)
        (fun _ _ _ houtside => houtside) rfl, ih hwrapped⟩

theorem withOutlet (hspares : stage.Spares receipts output) {outlet : Outlet}
    (houtlet : outlet.Spares receipts (output 0))
    (hsignal : outlet.shutdown.signalled = false → stage.outlet.shutdown.signalled = false)
    (hreleased : outlet.released = stage.outlet.released) :
    (stage.withOutlet outlet).Spares receipts output := by
  cases stage with
  | pump leaf =>
      have hleaf : leaf.Spares receipts (output 0) := hspares
      exact ⟨houtlet, fun hlet => hleaf.released (hreleased.symm.trans hlet),
        fun hopen => hleaf.clear (hsignal hopen)⟩
  | guard head wrapped =>
      obtain ⟨hhead, hwrapped⟩ := hspares
      exact ⟨⟨houtlet, fun hlet => hhead.released (hreleased.symm.trans hlet),
        fun hopen => hhead.clear (hsignal hopen), fun hopen => hhead.taken (hsignal hopen),
        hhead.turned, hhead.running⟩, hwrapped⟩

theorem obey (hspares : stage.Spares receipts output)
    (hplain : stage.outlet.shutdown.IsPlain) (demand : Demand Stage)
    (hreplace : ∀ input, demand ≠ .replace input) :
    (stage.obey receipts demand).1.Spares (stage.obey receipts demand).2 output := by
  have hsettled := hspares.settle (stage.settles_obey receipts demand)
  have hsignal := Shutdown.signalled_request hplain
  cases demand with
  | nothing => exact hsettled
  | take =>
      have hrefused : (stage.outlet.take receipts).1.refused = true →
          (stage.outlet.take receipts).1.shutdown.signalled = true := by
        rw [Outlet.shutdown_take]
        unfold Outlet.take
        split
        · next hclosing =>
            intro _
            have hsame : stage.outlet.shutdown.signalled = stage.outlet.shutdown.requested := hplain
            simpa [Outlet.isClosing, hsame] using hclosing
        · exact hspares.outlet.refused
      have hopen : (stage.outlet.take receipts).1.shutdown.signalled = false →
          stage.outlet.shutdown.signalled = false := by
        rw [Outlet.shutdown_take]
        exact id
      have hkept := hsettled.outlet.keep (.inr (stage.outlet.slot_take receipts)) hrefused
      exact hsettled.withOutlet hkept hopen (stage.outlet.released_take receipts)
  | close =>
      refine hsettled.withOutlet (hsettled.outlet.keep (.inl rfl) fun _ => hsignal) ?_ rfl
      intro hopen
      simp [hsignal] at hopen
  | letGo =>
      refine hsettled.withOutlet (hsettled.outlet.keep (.inr rfl) fun _ => hsignal) ?_ rfl
      intro hopen
      simp [hsignal] at hopen
  | replace input => exact absurd rfl (hreplace input)

theorem fresh (hfresh : stage.IsFresh) (receipts : Receipts) :
    stage.Spares receipts fun _ => [] := by
  induction stage with
  | pump leaf =>
      obtain ⟨houtlet, _⟩ := hfresh
      refine .of_clear ?_ (by simp [houtlet]) fun _ number hmade => by simp at hmade
      rw [houtlet]
      exact .fresh receipts
  | guard head wrapped ih =>
      obtain ⟨houtlet, hphase, hcurrent, hwrapped⟩ := hfresh
      have hrunning : wrapped.outlet.isClosing = false := by
        rw [hwrapped.outlet_eq]
        rfl
      refine ⟨⟨?_, by simp [houtlet], by simp, by simp [hphase], fun _ => hcurrent,
        fun _ _ => hrunning⟩, ih hwrapped⟩
      rw [houtlet]
      exact .fresh receipts

end Stage.Spares

/-! ## Steps of a guard -/

theorem Outlet.isClosing_take (outlet : Outlet) (receipts : Receipts) :
    (outlet.take receipts).1.isClosing = outlet.isClosing := by
  simp [Outlet.isClosing]

theorem Guard.obstacle_signalled {guard : Guard}
    (hrefused : guard.outlet.refused = true → guard.outlet.shutdown.signalled = true) {exit : Exit}
    (hexit : guard.obstacle? = some exit) : guard.outlet.shutdown.signalled = true := by
  unfold Guard.obstacle? at hexit
  split at hexit
  · next hsignal => exact hsignal
  · split at hexit
    · next hlost => exact hrefused hlost
    · simp at hexit

theorem Guard.signalled_of_clear {guard : Guard} (hclear : guard.obstacle? = none) :
    guard.outlet.shutdown.signalled = false := by
  unfold Guard.obstacle? at hclear
  split at hclear
  · simp at hclear
  · next hopen => simpa using hopen

section Guards

variable {world : World} {head : Guard} {wrapped : Stage} {output : Output}
  {move : GuardMove Stage}

/-- A guard that takes what its input offers has nothing else unanswered. -/
theorem Guard.Spares.receive
    (hhead : head.Spares world.receipts (output 0) (output 1) wrapped.outlet)
    (hwrapped : wrapped.Spares world.receipts output.inner) (hphase : head.phase = .receiving)
    (hopen : head.outlet.shutdown.signalled = false) {transaction : Transaction}
    (hoffer : wrapped.outlet.offer = .transaction transaction) {condition : Condition}
    {phase : GuardPhase}
    (hafter : phase = .forwarding transaction ∨ phase = .intercepting transaction) :
    ({ head with condition, phase } : Guard).Spares world.receipts (output 0) (output 1)
      (wrapped.take world.receipts).1.outlet := by
  have hslot : wrapped.outlet.slot = some transaction := Outlet.slot_of_offer hoffer
  obtain ⟨hmade, honly⟩ := hwrapped.outlet.shown transaction hslot
  have hkept := hhead.unreleased (by simp [hphase])
  have hcurrent := hhead.turned (by simp [hphase, GuardPhase.IsTurned])
  have hrunning := hhead.running hcurrent (by simp [hphase, GuardPhase.IsTurned])
  have hclear : world.receipts.Clear (output 0) := by
    intro number hput
    by_contra howed
    have howed : (world.receipts.get number).isOwed = true := by simpa using howed
    rcases hhead.clear hopen number hput howed with ⟨_, hawaiting⟩ | ⟨_, _, hinner, houtside⟩
    · simp [hphase] at hawaiting
    · -- the input made that too, and of what it made only what it offers is unanswered
      obtain rfl := honly number hinner howed
      exact houtside (by simp [Outlet.buffered, hslot])
  refine ⟨hhead.outlet, fun hlet => ?_, fun _ number hput howed => ?_, fun _ other hholding => ?_,
    fun _ => hcurrent, fun _ _ => ?_⟩
  · simp [hkept] at hlet
  · simp [hclear number hput] at howed
  · obtain rfl : transaction = other := by
      rcases hafter with rfl | rfl <;> simpa using hholding
    exact ⟨hmade, fun _ => by simp [Outlet.buffered]⟩
  · rw [Stage.outlet_take, Outlet.isClosing_take]
    exact hrunning

/-- What a guard hands on comes from its input, which waits for it now. -/
theorem Guard.Spares.forward
    (hhead : head.Spares world.receipts (output 0) (output 1) wrapped.outlet)
    (hwrapped : wrapped.Spares world.receipts output.inner) {transaction : Transaction}
    (hphase : head.phase = .forwarding transaction)
    (hopen : head.outlet.shutdown.signalled = false) :
    ({ head with outlet := head.outlet.put transaction, phase := .deciding } : Guard).Spares
      world.receipts (output 0 ++ [transaction.number]) (output 1) wrapped.outlet := by
  have hcurrent := hhead.turned (by simp [hphase, GuardPhase.IsTurned])
  have hrunning := hhead.running hcurrent (by simp [hphase, GuardPhase.IsTurned])
  have hclear : world.receipts.Clear (output 0) :=
    hhead.clear_of hopen (by simp [hphase]) (by simp [hphase, GuardPhase.IsWaiting])
  have hkept := hhead.unreleased (by simp [hphase])
  obtain ⟨hmade, houtside⟩ := hhead.taken hopen transaction (.inl hphase)
  refine ⟨hhead.outlet.put hclear (hwrapped.outlet.issued _ hmade), fun hlet => ?_,
    fun _ number hput howed => ?_, fun _ _ hholding => by simp at hholding,
    fun hturned => by simp [GuardPhase.IsTurned] at hturned, fun _ _ => hrunning⟩
  · simp [Outlet.put, hkept] at hlet
  · obtain rfl := hclear.owesOnly_append transaction.number number hput howed
    exact .inr ⟨hcurrent, .inl rfl, hmade, houtside howed⟩

theorem Guard.Spares.intercept
    (hhead : head.Spares world.receipts (output 0) (output 1) wrapped.outlet)
    {candidate : Transaction} (hphase : head.phase = .intercepting candidate)
    (hopen : head.outlet.shutdown.signalled = false) :
    ({ head with
        outlet := head.outlet.put ⟨world.receipts.next, candidate.payload⟩
        phase := .awaiting candidate.number world.receipts.next } : Guard).Spares
      world.receipts.issue (output 0 ++ [world.receipts.next]) (output 1) wrapped.outlet := by
  have hcurrent := hhead.turned (by simp [hphase, GuardPhase.IsTurned])
  have hrunning := hhead.running hcurrent (by simp [hphase, GuardPhase.IsTurned])
  have hclear : world.receipts.Clear (output 0) :=
    hhead.clear_of hopen (by simp [hphase]) (by simp [hphase, GuardPhase.IsWaiting])
  have hkept := hhead.unreleased (by simp [hphase])
  have hissued := hclear.settle hhead.outlet.issued world.receipts.settles_issue
  refine ⟨hhead.outlet.put_next hclear _, fun hlet => ?_, fun _ number hput howed => ?_,
    fun _ _ hholding => by simp at hholding, fun _ => hcurrent, fun _ _ => hrunning⟩
  · simp [Outlet.put, hkept] at hlet
  · obtain rfl := hissued.owesOnly_append world.receipts.next number hput howed
    exact .inl ⟨_, rfl⟩

theorem Guard.Spares.lose
    (hhead : head.Spares world.receipts (output 0) (output 1) wrapped.outlet)
    (hwrapped : wrapped.Spares world.receipts output.inner) (hphase : head.phase = .receiving)
    (hopen : head.outlet.shutdown.signalled = false) (hoffer : wrapped.outlet.offer = .ended)
    (inside : Outlet) :
    ({ head with current := false, phase := .deciding } : Guard).Spares world.receipts (output 0)
      (output 1) inside := by
  have hcurrent := hhead.turned (by simp [hphase, GuardPhase.IsTurned])
  have hrunning := hhead.running hcurrent (by simp [hphase, GuardPhase.IsTurned])
  have hended : world.receipts.Clear (output 1) := hwrapped.clear_of_ended hoffer hrunning
  refine .of_deciding hhead.outlet (hhead.unreleased (by simp [hphase])) rfl
    (fun _ number hmade => ?_) fun hnone => by simp at hnone
  by_contra howed
  have howed : (world.receipts.get number).isOwed = true := by simpa using howed
  rcases hhead.clear hopen number hmade howed with ⟨_, hawaiting⟩ | ⟨_, _, hinner, _⟩
  · simp [hphase] at hawaiting
  · simp [hended number hinner] at howed

/-- Every step of a guard but a restart, which replaces the input. -/
theorem Guard.Spares.step
    (hhead : head.Spares world.receipts (output 0) (output 1) wrapped.outlet)
    (hwrapped : wrapped.Spares world.receipts output.inner)
    (hplain : head.outlet.shutdown.IsPlain)
    (hawaits : ∀ number ∈ head.phase.awaited, (world.receipts.get number).isAwaited = true)
    (hstep : head.step (wrapped.sight world.disk head.input) world.receipts = some move)
    (hevent : move.event ≠ .rebuilt) :
    move.guard.Spares move.receipts (output 0 ++ move.event.puts) (output 1)
      (wrapped.obey move.receipts move.demand).1.outlet := by
  have houtlet := hhead.outlet.settle (Guard.settles_step hstep)
  have hawaited {candidate number : Nat} (hphase : head.phase = .awaiting candidate number) :
      (world.receipts.get number).isAwaited = true :=
    hawaits number (by simp [hphase, GuardPhase.awaited])
  cases Guard.stepCase_of_step hstep with
  | started hphase =>
      simp only [GuardEvent.puts, List.append_nil]
      refine .of_deciding hhead.outlet (hhead.unreleased (by simp [hphase])) rfl
        (fun hopen =>
          hhead.clear_of hopen (by simp [hphase]) (by simp [hphase, GuardPhase.IsWaiting]))
        fun hcurrent => hhead.running hcurrent (.inl hphase)
  | turnToInput hphase _ hcurrent =>
      simp only [GuardEvent.puts, List.append_nil]
      exact hhead.turn hphase hcurrent
  | rebuilt => exact absurd rfl hevent
  | inputEnded hphase hopen hoffer =>
      simp only [GuardEvent.puts, List.append_nil]
      exact hhead.lose hwrapped hphase hopen hoffer _
  | received hphase hopen hoffer =>
      simp only [GuardEvent.puts, List.append_nil]
      exact hhead.receive hwrapped hphase hopen hoffer (.inl rfl)
  | receivedCandidate hphase hopen hoffer =>
      simp only [GuardEvent.puts, List.append_nil]
      exact hhead.receive hwrapped hphase hopen hoffer (.inr rfl)
  | forwarded hphase hclear => exact hhead.forward hwrapped hphase (signalled_of_clear hclear)
  | intercepted hphase hclear => exact hhead.intercept hphase (signalled_of_clear hclear)
  | rejected hphase hopen hget =>
      simp only [GuardEvent.puts, List.append_nil]
      have hcurrent := hhead.turned (by simp [hphase, GuardPhase.IsTurned])
      exact .of_deciding houtlet (hhead.unreleased (by simp [hphase])) rfl
        (fun _ => hhead.clear_relay hopen hphase (hawaited hphase) (by simp [hget, Receipt.look]) _)
        fun _ => hhead.running hcurrent (by simp [hphase, GuardPhase.IsTurned])
  | dropped hphase hopen hlook =>
      simp only [GuardEvent.puts, List.append_nil]
      have hcurrent := hhead.turned (by simp [hphase, GuardPhase.IsTurned])
      exact .of_deciding houtlet (hhead.unreleased (by simp [hphase])) rfl
        (fun _ => hhead.clear_relay hopen hphase (hawaited hphase) (by simp [hlook]) _)
        fun _ => hhead.running hcurrent (by simp [hphase, GuardPhase.IsTurned])
  | accepted hphase hopen hget =>
      simp only [GuardEvent.puts, List.append_nil]
      exact .leave houtlet (hhead.unreleased (by simp [hphase])) (by simp [GuardPhase.IsTurned])
        fun _ => hhead.clear_relay hopen hphase (hawaited hphase) (by simp [hget, Receipt.look]) _
  | stopDeciding hphase hclosing =>
      simp only [GuardEvent.puts, List.append_nil]
      have hsignal : head.outlet.shutdown.signalled = true := hplain.trans hclosing
      exact .leave houtlet (hhead.unreleased (by simp [hphase])) (by simp [GuardPhase.IsTurned])
        fun hopen => by simp [hsignal] at hopen
  | stopReceiving hphase hsignal | giveUpAwaiting hphase hsignal =>
      simp only [GuardEvent.puts, List.append_nil]
      exact .leave houtlet (hhead.unreleased (by simp [hphase])) (by simp [GuardPhase.IsTurned])
        fun hopen => by simp [hsignal] at hopen
  | giveUpForwarding hphase hexit | giveUpIntercepting hphase hexit =>
      simp only [GuardEvent.puts, List.append_nil]
      have hsignal := Guard.obstacle_signalled hhead.outlet.refused hexit
      exact .leave houtlet (hhead.unreleased (by simp [hphase])) (by simp [GuardPhase.IsTurned])
        fun hopen => by simp [hsignal] at hopen
  | exhausted hphase _ hcurrent | rebuildFailed hphase _ hcurrent =>
      simp only [GuardEvent.puts, List.append_nil]
      exact .leave houtlet (hhead.unreleased (by simp [hphase])) (by simp [GuardPhase.IsTurned])
        fun hopen => hhead.clear_of hopen (by simp [hphase]) (by simp [hcurrent])
  | askedToClose hphase | leftAlone hphase | inputClosed hphase | stopped hphase =>
      simp only [GuardEvent.puts, List.append_nil]
      exact .leave houtlet (hhead.unreleased (by simp [hphase])) (by simp [GuardPhase.IsTurned])
        fun hopen =>
          hhead.clear_of hopen (by simp [hphase]) (by simp [hphase, GuardPhase.IsWaiting])
  | released hphase =>
      simp only [GuardEvent.puts, List.append_nil]
      exact .of_idle (houtlet.keep (.inl rfl) houtlet.refused) (fun _ => ⟨_, .inl rfl⟩)
        (by simp [GuardPhase.IsTurned])
        fun hopen =>
          hhead.clear_of hopen (by simp [hphase]) (by simp [hphase, GuardPhase.IsWaiting])
  | confirmed hphase =>
      simp only [GuardEvent.puts, List.append_nil]
      exact .of_idle (houtlet.keep (.inl rfl) houtlet.refused) (fun _ => ⟨_, .inr rfl⟩)
        (by simp [GuardPhase.IsTurned])
        fun hopen =>
          hhead.clear_of hopen (by simp [hphase]) (by simp [hphase, GuardPhase.IsWaiting])

end Guards

end Intake
