import Intake.Proofs.StageUsage

/-!
# Delivery by a pump

A pump hands out the messages of its source in order, each one again and again
until a transaction for it is accepted.  The proof keeps apart the rounds that
are past, each closed by an acceptance, and the one round that may be under way.
As long as nobody has asked the pump to close, its phase says exactly how far
that round has come.  Once somebody has, only the part of the record that can
no longer change is kept: a message that a stopped reader completes by accident
may still be pulled, but it opens a round that hands out nothing.
-/

namespace Intake

/-- The messages that a source gives to a pump that nobody stops, and the
failure, if any, that comes after them. -/
inductive Source.Streams : Source → ByteSource → List Message → Option IoError → Prop where
  | ended {source after : Source} {stdin left : ByteSource}
      (hpull : source.pull false stdin = (.ended, after, left)) :
      Streams source stdin [] none
  | failed {source after : Source} {stdin left : ByteSource} {error : IoError}
      (hpull : source.pull false stdin = (.failed error, after, left)) :
      Streams source stdin [] (some error)
  | message {source after : Source} {stdin left : ByteSource} {message : Message}
      {rest : List Message} {failure : Option IoError}
      (hpull : source.pull false stdin = (.message message, after, left))
      (hrest : Streams after left rest failure) :
      Streams source stdin (message :: rest) failure
  | more {source after : Source} {stdin left : ByteSource} {rest : List Message}
      {failure : Option IoError}
      (hpull : source.pull false stdin = (.more, after, left))
      (hrest : Streams after left rest failure) :
      Streams source stdin rest failure

section Streams

variable {source after : Source} {stdin left : ByteSource} {messages : List Message}
  {failure : Option IoError}

theorem Source.Streams.after_more (hstream : source.Streams stdin messages failure)
    (hpull : source.pull false stdin = (.more, after, left)) :
    after.Streams left messages failure := by
  cases hstream with
  | more hmore hrest =>
      rw [hpull] at hmore
      cases hmore
      exact hrest
  | ended hother => simp [hpull] at hother
  | failed hother => simp [hpull] at hother
  | message hother _ => simp [hpull] at hother

theorem Source.Streams.after_message {message : Message}
    (hstream : source.Streams stdin messages failure)
    (hpull : source.pull false stdin = (.message message, after, left)) :
    ∃ rest, messages = message :: rest ∧ after.Streams left rest failure := by
  cases hstream with
  | message hmessage hrest =>
      rw [hpull] at hmessage
      cases hmessage
      exact ⟨_, rfl, hrest⟩
  | ended hother => simp [hpull] at hother
  | failed hother => simp [hpull] at hother
  | more hother _ => simp [hpull] at hother

theorem Source.Streams.eq_nil_of_ended (hstream : source.Streams stdin messages failure)
    (hpull : source.pull false stdin = (.ended, after, left)) : messages = [] := by
  cases hstream with
  | ended => rfl
  | failed => rfl
  | message hother _ => simp [hpull] at hother
  | more hother _ => simp [hpull] at hother

theorem Source.Streams.eq_nil_of_failed {error : IoError}
    (hstream : source.Streams stdin messages failure)
    (hpull : source.pull false stdin = (.failed error, after, left)) : messages = [] := by
  cases hstream with
  | ended => rfl
  | failed => rfl
  | message hother _ => simp [hpull] at hother
  | more hother _ => simp [hpull] at hother

/-- A list at hand streams its messages up to its first failure. -/
theorem Source.streams_listed (messages : List Message) (error : IoError)
    (rest : List (Except IoError Message)) (stdin : ByteSource) :
    (Source.listed (messages.map .ok ++ .error error :: rest)).Streams stdin messages
      (some error) := by
  induction messages with
  | nil => exact .failed rfl
  | cons message messages ih => exact .message rfl ih

end Streams

/-- The transactions that hand out one message. -/
structure Round where
  message : Message
  numbers : List Nat

namespace Round

def transactions (round : Round) : List Transaction :=
  round.numbers.map fun number => ⟨number, round.message⟩

/-- All transactions of the round but the last were rejected or dropped. -/
def Repeated (verdicts : List (Nat × Verdict)) (round : Round) : Prop :=
  ∀ number ∈ round.numbers.dropLast,
    ∃ verdict, (number, verdict) ∈ verdicts ∧ verdict.accepts = false

/-- The last transaction of the round was accepted. -/
def Accepted (verdicts : List (Nat × Verdict)) (round : Round) : Prop :=
  ∃ number response, round.numbers.getLast? = some number ∧
    (number, some response) ∈ verdicts ∧ response.isAck = true

theorem Repeated.mono {verdicts more : List (Nat × Verdict)} {round : Round}
    (hrepeated : round.Repeated verdicts) (hmore : verdicts ⊆ more) :
    round.Repeated more := by
  intro number hnumber
  obtain ⟨verdict, hmem, hrejects⟩ := hrepeated number hnumber
  exact ⟨verdict, hmore hmem, hrejects⟩

theorem Accepted.mono {verdicts more : List (Nat × Verdict)} {round : Round}
    (haccepted : round.Accepted verdicts) (hmore : verdicts ⊆ more) :
    round.Accepted more := by
  obtain ⟨number, response, hlast, hmem, hack⟩ := haccepted
  exact ⟨number, response, hlast, hmore hmem, hack⟩

theorem Accepted.numbers_ne_nil {verdicts : List (Nat × Verdict)} {round : Round}
    (haccepted : round.Accepted verdicts) : round.numbers ≠ [] := by
  obtain ⟨number, response, hlast, hmem, hack⟩ := haccepted
  intro hnil
  simp [hnil] at hlast

theorem repeated_of_rejected {verdicts : List (Nat × Verdict)} {message : Message}
    {front : List Nat}
    (hfront : ∀ number ∈ front,
      ∃ verdict, (number, verdict) ∈ verdicts ∧ verdict.accepts = false) :
    (Round.mk message front).Repeated verdicts :=
  fun number hnumber => hfront number (List.dropLast_subset front hnumber)

theorem repeated_concat {verdicts : List (Nat × Verdict)} {message : Message}
    {front : List Nat} {last : Nat}
    (hfront : ∀ number ∈ front,
      ∃ verdict, (number, verdict) ∈ verdicts ∧ verdict.accepts = false) :
    (Round.mk message (front ++ [last])).Repeated verdicts := by
  intro number hnumber
  rw [List.dropLast_concat] at hnumber
  exact hfront number hnumber

end Round

/-! ## A pump that nobody has asked to close -/

namespace Pump

/-- A pump between two messages. -/
structure Idle (messages : List Message) (failure : Option IoError) (usage : Usage)
    (past : List Round) (pump : Pump) : Prop where
  split : ∃ rest, messages = past.map Round.message ++ rest ∧
    pump.source.Streams usage.running.world.stdin rest failure
  pulled : usage.pulled = past.map Round.message
  handedOut : usage.handedOut = past.flatMap Round.transactions
  held : usage.held = []
  slot : pump.outlet.slot = none

/-- A pump that delivers a message, of which the transactions `front` have been
handed out and not accepted. -/
structure Serving (messages : List Message) (failure : Option IoError) (usage : Usage)
    (past : List Round) (pump : Pump) (message : Message) (front : List Nat) : Prop where
  split : ∃ rest, messages = past.map Round.message ++ message :: rest ∧
    pump.source.Streams usage.running.world.stdin rest failure
  pulled : usage.pulled = past.map Round.message ++ [message]
  rejected : ∀ number ∈ front,
    ∃ verdict, (number, verdict) ∈ usage.verdicts ∧ verdict.accepts = false

/-- The transactions handed out are those of the rounds that are over and those
of the round under way. -/
def HasHandedOut (usage : Usage) (past : List Round) (message : Message)
    (numbers : List Nat) : Prop :=
  usage.handedOut =
    past.flatMap Round.transactions ++ (Round.mk message numbers).transactions

/-- Where the transaction is that a pump waits for: in the outlet, with the
holder, or back with a verdict. -/
inductive Outstanding (usage : Usage) (past : List Round) (pump : Pump)
    (message : Message) (front : List Nat) (number : Nat) : Prop
  | buffered (hslot : pump.outlet.slot = some ⟨number, message⟩)
      (hreceipt : usage.receipts.get number = .open) (hheld : usage.held = [])
      (hhanded : HasHandedOut usage past message front)
      (hfresh : number ∉ usage.handedOut.map Transaction.number)
  | held (hslot : pump.outlet.slot = none)
      (hreceipt : usage.receipts.get number = .open) (hheld : usage.held = [number])
      (hhanded : HasHandedOut usage past message (front ++ [number]))
  | decided (hslot : pump.outlet.slot = none) {verdict : Verdict}
      (hreceipt : usage.receipts.get number = Receipt.open.pronounce verdict)
      (hheld : usage.held = [])
      (hhanded : HasHandedOut usage past message (front ++ [number]))
      (hverdict : (number, verdict) ∈ usage.verdicts)

/-- A pump whose source has ended or failed. -/
structure Spent (messages : List Message) (usage : Usage) (past : List Round)
    (pump : Pump) : Prop where
  all : messages = past.map Round.message
  pulled : usage.pulled = past.map Round.message
  handedOut : usage.handedOut = past.flatMap Round.transactions
  held : usage.held = []
  slot : pump.outlet.slot = none

/-- How far a pump has come that nobody has asked to close. -/
def Stands (messages : List Message) (failure : Option IoError) (usage : Usage)
    (past : List Round) (pump : Pump) : Prop :=
  match pump.phase with
  | .resting | .pulling => Idle messages failure usage past pump
  | .offering message =>
      ∃ front, Serving messages failure usage past pump message front ∧
        HasHandedOut usage past message front ∧ usage.held = [] ∧ pump.outlet.slot = none
  | .awaiting message number =>
      ∃ front, Serving messages failure usage past pump message front ∧
        Outstanding usage past pump message front number
  | .leaving | .confirming | .finished => Spent messages usage past pump

end Pump

/-- A stage in use after a step of its pump. -/
def Usage.afterPump (usage : Usage) (pump : Pump) (move : PumpMove) : Usage :=
  { usage with
    running := usage.running.after
      ⟨.pump pump.kind move.event, .pump move.pump, move.receipts, move.stdin⟩
    record := usage.record ++ [.worked (.pump pump.kind move.event)] }

section AfterPump

variable (usage : Usage) (pump : Pump) (move : PumpMove)

@[simp] theorem Usage.afterPump_receipts :
    (usage.afterPump pump move).receipts = move.receipts := rfl

@[simp] theorem Usage.afterPump_stdin :
    (usage.afterPump pump move).running.world.stdin = move.stdin := rfl

@[simp] theorem Usage.afterPump_handedOut :
    (usage.afterPump pump move).handedOut = usage.handedOut := by
  simp [afterPump, UsageNote.handedOut?]

@[simp] theorem Usage.afterPump_verdicts :
    (usage.afterPump pump move).verdicts = usage.verdicts := by
  simp [afterPump, UsageNote.pronounced?]

theorem Usage.afterPump_pulled_message {message : Message}
    (hevent : move.event = .pulled message) :
    (usage.afterPump pump move).pulled = usage.pulled ++ [message] := by
  simp [afterPump, UsageNote.pulled?, hevent]

theorem Usage.afterPump_pulled (hevent : ∀ message, move.event ≠ .pulled message) :
    (usage.afterPump pump move).pulled = usage.pulled := by
  unfold afterPump
  rw [pulled_note]
  cases h : move.event with
  | pulled message => exact absurd h (hevent message)
  | _ => simp [UsageNote.pulled?]

end AfterPump

section Open

variable {messages : List Message} {failure : Option IoError} {usage : Usage}
  {past : List Round} {pump : Pump} {move : PumpMove}

theorem Pump.HasHandedOut.afterPump {message : Message} {numbers : List Nat}
    (hhanded : Pump.HasHandedOut usage past message numbers) :
    Pump.HasHandedOut (usage.afterPump pump move) past message numbers := by
  unfold Pump.HasHandedOut at hhanded ⊢
  rw [Usage.afterPump_handedOut, hhanded]

theorem Pump.Serving.afterPump {message : Message} {front : List Nat} {after : Pump}
    (hserving : pump.Serving messages failure usage past message front)
    (hsource : after.source = pump.source)
    (hstdin : move.stdin = usage.running.world.stdin)
    (hevent : ∀ message, move.event ≠ .pulled message) :
    after.Serving messages failure (usage.afterPump pump move) past message front := by
  constructor
  · rw [hsource, Usage.afterPump_stdin, hstdin]
    exact hserving.split
  · rw [usage.afterPump_pulled pump move hevent]
    exact hserving.pulled
  · rw [Usage.afterPump_verdicts]
    exact hserving.rejected

theorem Pump.stands_idle (hphase : pump.phase = .resting ∨ pump.phase = .pulling) :
    pump.Stands messages failure usage past ↔ pump.Idle messages failure usage past := by
  rcases hphase with hphase | hphase <;> simp [Stands, hphase]

theorem Pump.stands_offering {message : Message} (hphase : pump.phase = .offering message) :
    pump.Stands messages failure usage past ↔
      ∃ front, pump.Serving messages failure usage past message front ∧
        HasHandedOut usage past message front ∧ usage.held = [] ∧
          pump.outlet.slot = none := by
  simp [Stands, hphase]

theorem Pump.stands_awaiting {message : Message} {number : Nat}
    (hphase : pump.phase = .awaiting message number) :
    pump.Stands messages failure usage past ↔
      ∃ front, pump.Serving messages failure usage past message front ∧
        pump.Outstanding usage past message front number := by
  simp [Stands, hphase]

theorem Pump.stands_spent
    (hphase : pump.phase = .leaving ∨ pump.phase = .confirming ∨ pump.phase = .finished) :
    pump.Stands messages failure usage past ↔ pump.Spent messages usage past := by
  rcases hphase with hphase | hphase | hphase <;> simp [Stands, hphase]

theorem Pump.Idle.spent (hidle : pump.Idle messages failure usage past) {after : Pump}
    (hslot : after.outlet.slot = pump.outlet.slot)
    (hevent : ∀ message, move.event ≠ .pulled message)
    (hnothing : ∀ rest, pump.source.Streams usage.running.world.stdin rest failure →
      rest = []) :
    after.Spent messages (usage.afterPump pump move) past := by
  obtain ⟨rest, hmessages, hstream⟩ := hidle.split
  have hrest := hnothing rest hstream
  subst rest
  constructor
  · simpa using hmessages
  · rw [usage.afterPump_pulled pump move hevent]
    exact hidle.pulled
  · rw [Usage.afterPump_handedOut]
    exact hidle.handedOut
  · exact hidle.held
  · rw [hslot]
    exact hidle.slot

theorem Pump.Idle.afterPump (hidle : pump.Idle messages failure usage past) {after : Pump}
    (hslot : after.outlet.slot = pump.outlet.slot)
    (hevent : ∀ message, move.event ≠ .pulled message)
    (hstream : ∀ rest, pump.source.Streams usage.running.world.stdin rest failure →
      after.source.Streams move.stdin rest failure) :
    after.Idle messages failure (usage.afterPump pump move) past := by
  obtain ⟨rest, hmessages, hrest⟩ := hidle.split
  constructor
  · exact ⟨rest, hmessages, hstream rest hrest⟩
  · rw [usage.afterPump_pulled pump move hevent]
    exact hidle.pulled
  · rw [Usage.afterPump_handedOut]
    exact hidle.handedOut
  · exact hidle.held
  · rw [hslot]
    exact hidle.slot

theorem Pump.Spent.afterPump (hspent : pump.Spent messages usage past) {after : Pump}
    (hslot : after.outlet.slot = pump.outlet.slot)
    (hevent : ∀ message, move.event ≠ .pulled message) :
    after.Spent messages (usage.afterPump pump move) past := by
  constructor
  · exact hspent.all
  · rw [usage.afterPump_pulled pump move hevent]
    exact hspent.pulled
  · rw [Usage.afterPump_handedOut]
    exact hspent.handedOut
  · exact hspent.held
  · rw [hslot]
    exact hspent.slot

/-- A transaction that is back with a verdict was handed out and is not in the
outlet any more. -/
theorem Pump.Outstanding.decided_of_receipt {message : Message} {front : List Nat}
    {number : Nat} (houtstanding : pump.Outstanding usage past message front number)
    (hreceipt : usage.receipts.get number ≠ .open) :
    pump.outlet.slot = none ∧ usage.held = [] ∧
      HasHandedOut usage past message (front ++ [number]) ∧
        ∃ verdict, usage.receipts.get number = Receipt.open.pronounce verdict ∧
          (number, verdict) ∈ usage.verdicts := by
  cases houtstanding with
  | buffered hslot hopen => exact absurd hopen hreceipt
  | held hslot hopen => exact absurd hopen hreceipt
  | decided hslot hdecided hheld hhanded hverdict =>
      exact ⟨hslot, hheld, hhanded, _, hdecided, hverdict⟩

/-- The pump sees a transaction that was not accepted and offers the message
again. -/
theorem Pump.stands_after_rejection {message : Message} {front : List Nat} {number : Nat}
    (hserving : pump.Serving messages failure usage past message front)
    (houtstanding : pump.Outstanding usage past message front number)
    (hreceipt : ∀ response, response.isAck = true →
      usage.receipts.get number ≠ .answered response)
    (hopen : usage.receipts.get number ≠ .open) {receipts : Receipts} :
    (pump.enter (.offering message)).Stands messages failure
      (usage.afterPump pump ⟨.rejected number, pump.enter (.offering message), receipts,
        usage.running.world.stdin⟩) past := by
  obtain ⟨hslot, hheld, hhanded, verdict, hdecided, hverdict⟩ :=
    houtstanding.decided_of_receipt hopen
  have hrejects : verdict.accepts = false := by
    cases verdict with
    | none => rfl
    | some response =>
        cases hack : response.isAck with
        | false => exact hack
        | true => exact absurd hdecided (hreceipt response hack)
  rw [stands_offering rfl]
  refine ⟨front ++ [number], ?_, hhanded.afterPump, hheld, hslot⟩
  have hserving' : (pump.enter (.offering message)).Serving messages failure
      (usage.afterPump pump ⟨.rejected number, pump.enter (.offering message), receipts,
        usage.running.world.stdin⟩) past message front :=
    hserving.afterPump rfl rfl (by simp)
  refine ⟨hserving'.split, hserving'.pulled, ?_⟩
  intro other hother
  rcases List.mem_append.mp hother with hfront | hlast
  · exact hserving'.rejected other hfront
  · rw [List.mem_singleton] at hlast
    subst other
    exact ⟨verdict, by simpa using hverdict, hrejects⟩

theorem Pump.stands_after_acknowledgement {message : Message} {front : List Nat}
    {number : Nat} {response : Response}
    (hserving : pump.Serving messages failure usage past message front)
    (houtstanding : pump.Outstanding usage past message front number)
    (hreceipt : usage.receipts.get number = .answered response)
    (hack : response.isAck = true) {receipts : Receipts} :
    (pump.enter .resting).Stands messages failure
        (usage.afterPump pump ⟨.acknowledged number, pump.enter .resting, receipts,
          usage.running.world.stdin⟩) (past ++ [⟨message, front ++ [number]⟩]) ∧
      (Round.mk message (front ++ [number])).Repeated usage.verdicts ∧
        (Round.mk message (front ++ [number])).Accepted usage.verdicts := by
  obtain ⟨hslot, hheld, hhanded, verdict, hdecided, hverdict⟩ :=
    houtstanding.decided_of_receipt (by simp [hreceipt])
  have hsome : verdict = some response := by
    rw [hreceipt] at hdecided
    cases verdict with
    | none => simp [Receipt.pronounce, Receipt.forsake] at hdecided
    | some other => simpa [Receipt.pronounce, Receipt.respond] using hdecided.symm
  subst verdict
  refine ⟨?_, Round.repeated_concat hserving.rejected,
    number, response, by simp, hverdict, hack⟩
  rw [stands_idle (.inl rfl)]
  obtain ⟨rest, hmessages, hstream⟩ := hserving.split
  constructor
  · exact ⟨rest, by simpa using hmessages, hstream⟩
  · rw [usage.afterPump_pulled pump _ (by simp), hserving.pulled]
    simp
  · rw [Usage.afterPump_handedOut, hhanded]
    simp
  · exact hheld
  · exact hslot

/-- A step of a pump that nobody has asked to close leaves it at a known place
again, with at most one more round over. -/
theorem Pump.Stands.step (hstands : pump.Stands messages failure usage past)
    (hopen : pump.outlet.shutdown.signalled = false) (haccepting : pump.outlet.refused = false)
    (htidy : usage.Tidy)
    (hcase : pump.StepCase usage.receipts usage.running.world.stdin move) :
    ∃ more : List Round,
      (∀ round ∈ more, round.Repeated usage.verdicts ∧ round.Accepted usage.verdicts) ∧
        move.pump.Stands messages failure (usage.afterPump pump move) (past ++ more) := by
  have hsame : ∀ {after : Pump} {event : PumpEvent} {receipts : Receipts} {left : ByteSource},
      after.Stands messages failure (usage.afterPump pump ⟨event, after, receipts, left⟩) past →
        ∃ more : List Round,
          (∀ round ∈ more, round.Repeated usage.verdicts ∧ round.Accepted usage.verdicts) ∧
            after.Stands messages failure
              (usage.afterPump pump ⟨event, after, receipts, left⟩) (past ++ more) :=
    fun hafter => ⟨[], by simp, by simpa using hafter⟩
  cases hcase with
  | turnAway _ hclosing => simp [hopen] at hclosing
  | turnToSource hphase =>
      rw [stands_idle (.inl hphase)] at hstands
      apply hsame
      rw [stands_idle (.inr rfl)]
      exact hstands.afterPump rfl (by simp) fun _ hrest => hrest
  | @readOn hphase source left hpull =>
      rw [hopen] at hpull
      rw [stands_idle (.inr hphase)] at hstands
      apply hsame
      have hafter : ({ pump with source } : Pump).phase = .pulling := hphase
      rw [stands_idle (.inr hafter)]
      exact hstands.afterPump rfl (by simp) fun _ hrest => hrest.after_more hpull
  | ended hphase hpull =>
      rw [hopen] at hpull
      rw [stands_idle (.inr hphase)] at hstands
      apply hsame
      rw [stands_spent (.inl rfl)]
      exact hstands.spent rfl (by simp) fun _ hrest => hrest.eq_nil_of_ended hpull
  | failed hphase hpull =>
      rw [hopen] at hpull
      rw [stands_idle (.inr hphase)] at hstands
      apply hsame
      rw [stands_spent (.inl rfl)]
      exact hstands.spent rfl (by simp) fun _ hrest => hrest.eq_nil_of_failed hpull
  | @pulled hphase message source left hpull =>
      rw [hopen] at hpull
      rw [stands_idle (.inr hphase)] at hstands
      obtain ⟨rest, hmessages, hstream⟩ := hstands.split
      obtain ⟨rest, rfl, hrest⟩ := hstream.after_message hpull
      apply hsame
      rw [stands_offering rfl]
      refine ⟨[], ⟨⟨rest, hmessages, hrest⟩, ?_, by simp⟩, ?_, hstands.held, hstands.slot⟩
      · rw [usage.afterPump_pulled_message pump _ rfl, hstands.pulled]
      · unfold HasHandedOut
        rw [Usage.afterPump_handedOut, hstands.handedOut]
        simp [Round.transactions]
  | giveUp _ hclosing => simp [hopen, haccepting] at hclosing
  | sent hphase _ _ hroom =>
      rw [stands_offering hphase] at hstands
      obtain ⟨front, hserving, hhanded, hheld, hslot⟩ := hstands
      apply hsame
      rw [stands_awaiting rfl]
      refine ⟨front, hserving.afterPump rfl rfl (by simp),
        .buffered rfl (by simp) hheld hhanded.afterPump ?_⟩
      rw [Usage.afterPump_handedOut]
      exact fun hmem => Nat.lt_irrefl _ (htidy.issued _ hmem)
  | withdrew _ hclosing => simp [hopen] at hclosing
  | acknowledged hphase _ hanswered hack =>
      rw [stands_awaiting hphase] at hstands
      obtain ⟨front, hserving, houtstanding⟩ := hstands
      obtain ⟨hafter, hrepeated, haccepted⟩ :=
        stands_after_acknowledgement hserving houtstanding hanswered hack
      refine ⟨_, ?_, hafter⟩
      intro round hround
      rw [List.mem_singleton] at hround
      subst round
      exact ⟨hrepeated, haccepted⟩
  | rejected hphase _ hanswered hnack =>
      rw [stands_awaiting hphase] at hstands
      obtain ⟨front, hserving, houtstanding⟩ := hstands
      apply hsame
      apply stands_after_rejection hserving houtstanding
      · intro response hack heq
        rw [hanswered, Receipt.answered.injEq] at heq
        simp [← heq, hnack] at hack
      · simp [hanswered]
  | dropped hphase _ hlook =>
      rw [stands_awaiting hphase] at hstands
      obtain ⟨front, hserving, houtstanding⟩ := hstands
      apply hsame
      apply stands_after_rejection hserving houtstanding
      · intro response hack heq
        simp [heq, Receipt.look] at hlook
      · intro heq
        simp [heq, Receipt.look] at hlook
  | released hphase =>
      rw [stands_spent (.inl hphase)] at hstands
      apply hsame
      rw [stands_spent (.inr (.inl rfl))]
      exact hstands.afterPump rfl (by simp)
  | confirmed hphase =>
      rw [stands_spent (.inr (.inl hphase))] at hstands
      apply hsame
      rw [stands_spent (.inr (.inr rfl))]
      exact hstands.afterPump rfl (by simp)

/-- Only the record, the transactions held, the receipts and standard input
decide where a pump stands. -/
theorem Pump.Stands.congr {other : Usage} (hstands : pump.Stands messages failure usage past)
    (hhanded : other.handedOut = usage.handedOut) (hpulled : other.pulled = usage.pulled)
    (hverdicts : other.verdicts = usage.verdicts) (hheld : other.held = usage.held)
    (hreceipts : other.receipts = usage.receipts)
    (hstdin : other.running.world.stdin = usage.running.world.stdin) :
    pump.Stands messages failure other past := by
  have hserving : ∀ {message front},
      pump.Serving messages failure usage past message front →
        pump.Serving messages failure other past message front := by
    rintro message front ⟨hsplit, hpull, hrejected⟩
    exact ⟨by rwa [hstdin], by rwa [hpulled], by rwa [hverdicts]⟩
  have hnumbers : ∀ {message numbers}, HasHandedOut usage past message numbers →
      HasHandedOut other past message numbers := by
    intro message numbers hnumbers
    unfold HasHandedOut at hnumbers ⊢
    rw [hhanded, hnumbers]
  unfold Stands at hstands ⊢
  split at hstands
  · obtain ⟨hsplit, hpull, hhand, hnone, hslot⟩ := hstands
    exact ⟨by rwa [hstdin], by rwa [hpulled], by rwa [hhanded], by rwa [hheld], hslot⟩
  · obtain ⟨hsplit, hpull, hhand, hnone, hslot⟩ := hstands
    exact ⟨by rwa [hstdin], by rwa [hpulled], by rwa [hhanded], by rwa [hheld], hslot⟩
  · obtain ⟨front, hserve, hhand, hnone, hslot⟩ := hstands
    exact ⟨front, hserving hserve, hnumbers hhand, by rwa [hheld], hslot⟩
  · obtain ⟨front, hserve, houtstanding⟩ := hstands
    refine ⟨front, hserving hserve, ?_⟩
    cases houtstanding with
    | buffered hslot hreceipt hnone hhand hfresh =>
        exact .buffered hslot (by rwa [hreceipts]) (by rwa [hheld]) (hnumbers hhand)
          (by rwa [hhanded])
    | held hslot hreceipt hone hhand =>
        exact .held hslot (by rwa [hreceipts]) (by rwa [hheld]) (hnumbers hhand)
    | decided hslot hreceipt hnone hhand hverdict =>
        exact .decided hslot (by rwa [hreceipts]) (by rwa [hheld]) (hnumbers hhand)
          (by rwa [hverdicts])
  all_goals
    obtain ⟨hall, hpull, hhand, hnone, hslot⟩ := hstands
    exact ⟨hall, by rwa [hpulled], by rwa [hhanded], by rwa [hheld], hslot⟩

theorem Pump.Stands.buffered_of_slot (hstands : pump.Stands messages failure usage past)
    {transaction : Transaction} (hslot : pump.outlet.slot = some transaction) :
    pump.phase = .awaiting transaction.payload transaction.number ∧
      ∃ front, pump.Serving messages failure usage past transaction.payload front ∧
        usage.receipts.get transaction.number = .open ∧ usage.held = [] ∧
          HasHandedOut usage past transaction.payload front ∧
            transaction.number ∉ usage.handedOut.map Transaction.number := by
  unfold Stands at hstands
  split at hstands
  · simpa [hslot] using hstands.slot
  · simpa [hslot] using hstands.slot
  · obtain ⟨front, _, _, _, hempty⟩ := hstands
    simp [hslot] at hempty
  · next message number hphase =>
      obtain ⟨front, hserving, houtstanding⟩ := hstands
      cases houtstanding with
      | buffered hthere hreceipt hnone hhand hfresh =>
          rw [hslot, Option.some.injEq] at hthere
          subst transaction
          exact ⟨hphase, front, hserving, hreceipt, hnone, hhand, hfresh⟩
      | held hempty => simp [hslot] at hempty
      | decided hempty => simp [hslot] at hempty
  all_goals simpa [hslot] using hstands.slot

theorem Pump.Stands.held_of_mem (hstands : pump.Stands messages failure usage past)
    {number : Nat} (hheld : number ∈ usage.held) :
    ∃ message front, pump.phase = .awaiting message number ∧
      pump.Serving messages failure usage past message front ∧ pump.outlet.slot = none ∧
        usage.receipts.get number = .open ∧ usage.held = [number] ∧
          HasHandedOut usage past message (front ++ [number]) := by
  unfold Stands at hstands
  split at hstands
  · simp [hstands.held] at hheld
  · simp [hstands.held] at hheld
  · obtain ⟨front, _, _, hnone, _⟩ := hstands
    simp [hnone] at hheld
  · next message other hphase =>
      obtain ⟨front, hserving, houtstanding⟩ := hstands
      cases houtstanding with
      | buffered _ _ hnone => simp [hnone] at hheld
      | held hslot hreceipt hone hhand =>
          have heq : number = other := by simpa [hone] using hheld
          subst other
          exact ⟨message, front, hphase, hserving, hslot, hreceipt, hone, hhand⟩
      | decided _ _ hnone => simp [hnone] at hheld
  all_goals simp [hstands.held] at hheld

end Open

/-! ## A pump in any state -/

/-- What the record says whatever a pump is doing: after the rounds that are
over there is at most one more, which nobody has accepted. -/
structure Pump.Served (messages : List Message) (usage : Usage) (past tail : List Round) :
    Prop where
  handedOut : usage.handedOut = (past ++ tail).flatMap Round.transactions
  tailRounds : ∀ round ∈ tail, round.numbers ≠ [] ∧ round.Repeated usage.verdicts
  inOrder : (past ++ tail).map Round.message <+: messages
  asPulled : (past ++ tail).map Round.message <+: usage.pulled
  pulledNext : usage.pulled.length ≤ past.length + 1

/-- A pump that somebody has asked to close pulls at most one more message. -/
structure Pump.Closing (messages : List Message) (usage : Usage) (past : List Round)
    (pump : Pump) : Prop where
  served : ∃ tail, Served messages usage past tail
  idle : pump.phase = .resting ∨ pump.phase = .pulling →
    usage.pulled.length ≤ past.length

section Closing

variable {messages : List Message} {failure : Option IoError} {usage : Usage}
  {past : List Round} {pump : Pump} {move : PumpMove}

theorem Pump.served_of_all (hhanded : usage.handedOut = past.flatMap Round.transactions)
    (hpulled : usage.pulled = past.map Round.message)
    (hmessages : past.map Round.message <+: messages) :
    Pump.Served messages usage past [] := by
  constructor
  · simpa using hhanded
  · simp
  · simpa using hmessages
  · simp [hpulled]
  · simp [hpulled]

/-- A round under way shows in the record as soon as it has handed something
out. -/
theorem Pump.Serving.served {message : Message} {front numbers : List Nat}
    (hserving : pump.Serving messages failure usage past message front)
    (hhanded : HasHandedOut usage past message numbers)
    (hrepeated : (Round.mk message numbers).Repeated usage.verdicts) :
    ∃ tail, Pump.Served messages usage past tail := by
  obtain ⟨rest, hmessages, _⟩ := hserving.split
  have hpulled := hserving.pulled
  have hprefix : past.map Round.message ++ [message] <+: messages :=
    ⟨rest, by simp [hmessages]⟩
  unfold HasHandedOut at hhanded
  cases numbers with
  | nil =>
      refine ⟨[], ?_, by simp, ?_, ?_, by simp [hpulled]⟩
      · simpa [Round.transactions] using hhanded
      · simpa using (List.prefix_append _ _).trans hprefix
      · simp [hpulled]
  | cons number numbers =>
      refine ⟨[⟨message, number :: numbers⟩], ?_, ?_, ?_, ?_, by simp [hpulled]⟩
      · simpa using hhanded
      · simpa using hrepeated
      · simpa using hprefix
      · simp [hpulled]

theorem Pump.Stands.closing (hstands : pump.Stands messages failure usage past) :
    pump.Closing messages usage past := by
  unfold Stands at hstands
  split at hstands
  · obtain ⟨rest, hmessages, _⟩ := hstands.split
    refine ⟨⟨[], served_of_all hstands.handedOut hstands.pulled ⟨rest, hmessages.symm⟩⟩, ?_⟩
    simp [hstands.pulled]
  · obtain ⟨rest, hmessages, _⟩ := hstands.split
    refine ⟨⟨[], served_of_all hstands.handedOut hstands.pulled ⟨rest, hmessages.symm⟩⟩, ?_⟩
    simp [hstands.pulled]
  · next message hphase =>
      obtain ⟨front, hserving, hhanded, _, _⟩ := hstands
      exact ⟨hserving.served hhanded (Round.repeated_of_rejected hserving.rejected),
        by simp [hphase]⟩
  · next message number hphase =>
      obtain ⟨front, hserving, houtstanding⟩ := hstands
      refine ⟨?_, by simp [hphase]⟩
      cases houtstanding with
      | buffered _ _ _ hhanded =>
          exact hserving.served hhanded (Round.repeated_of_rejected hserving.rejected)
      | held _ _ _ hhanded =>
          exact hserving.served hhanded (Round.repeated_concat hserving.rejected)
      | decided _ _ _ hhanded =>
          exact hserving.served hhanded (Round.repeated_concat hserving.rejected)
  all_goals
    refine ⟨⟨[], served_of_all hstands.handedOut hstands.pulled
      (by rw [hstands.all])⟩, ?_⟩
    simp [hstands.pulled]

theorem Pump.Closing.mono (hclosing : pump.Closing messages usage past) {other : Usage}
    {after : Pump} (hhanded : other.handedOut = usage.handedOut)
    (hpulled : other.pulled = usage.pulled) (hverdicts : usage.verdicts ⊆ other.verdicts)
    (hphase : after.phase = .resting ∨ after.phase = .pulling →
      pump.phase = .resting ∨ pump.phase = .pulling) :
    after.Closing messages other past := by
  obtain ⟨⟨tail, hserved⟩, hidle⟩ := hclosing
  refine ⟨⟨tail, ?_, ?_, hserved.inOrder, ?_, ?_⟩, ?_⟩
  · rw [hhanded]
    exact hserved.handedOut
  · intro round hround
    obtain ⟨hnonempty, hrepeated⟩ := hserved.tailRounds round hround
    exact ⟨hnonempty, hrepeated.mono hverdicts⟩
  · rw [hpulled]
    exact hserved.asPulled
  · rw [hpulled]
    exact hserved.pulledNext
  · intro hafter
    rw [hpulled]
    exact hidle (hphase hafter)

theorem Pump.Closing.step (hclosing : pump.Closing messages usage past)
    (hsignal : pump.outlet.shutdown.signalled = true)
    (hcase : pump.StepCase usage.receipts usage.running.world.stdin move) :
    move.pump.Closing messages (usage.afterPump pump move) past := by
  have hsame : ∀ {after : Pump}, (∀ message, move.event ≠ .pulled message) →
      (after.phase = .resting ∨ after.phase = .pulling →
        pump.phase = .resting ∨ pump.phase = .pulling) →
        after.Closing messages (usage.afterPump pump move) past :=
    fun hevent hphase => hclosing.mono (usage.afterPump_handedOut pump move)
      (usage.afterPump_pulled pump move hevent) (by simp) hphase
  cases hcase with
  | turnAway hphase => exact hsame (by simp) (by simp [hphase])
  | turnToSource _ hopen => simp [hsignal] at hopen
  | readOn hphase => exact hsame (by simp) (by simp [hphase])
  | ended hphase => exact hsame (by simp) (by simp [hphase])
  | failed hphase => exact hsame (by simp) (by simp [hphase])
  | pulled hphase =>
      obtain ⟨⟨tail, hserved⟩, hidle⟩ := hclosing
      have hcount := hidle (.inr hphase)
      refine ⟨⟨tail, ?_, by simpa using hserved.tailRounds, hserved.inOrder, ?_, ?_⟩, by simp⟩
      · simpa using hserved.handedOut
      · rw [usage.afterPump_pulled_message pump _ rfl]
        exact hserved.asPulled.trans (List.prefix_append _ _)
      · rw [usage.afterPump_pulled_message pump _ rfl]
        simpa using hcount
  | giveUp => exact hsame (by simp) (by simp [enter])
  | sent _ hopen => simp [hsignal] at hopen
  | withdrew => exact hsame (by simp) (by simp [enter])
  | acknowledged _ hopen => simp [hsignal] at hopen
  | rejected _ hopen => simp [hsignal] at hopen
  | dropped _ hopen => simp [hsignal] at hopen
  | released => exact hsame (by simp) (by simp)
  | confirmed => exact hsame (by simp) (by simp)

end Closing

/-! ## Every run of a pump -/

/-- What holds of a pump in use after every move. -/
structure Usage.PumpInvariant (messages : List Message) (failure : Option IoError)
    (usage : Usage) (pump : Pump) (past : List Round) : Prop where
  stage : usage.running.stage = .pump pump
  tidy : usage.Tidy
  rounds : ∀ round ∈ past, round.Repeated usage.verdicts ∧ round.Accepted usage.verdicts
  signal : pump.outlet.shutdown.signalled = pump.outlet.shutdown.requested
  refusal : pump.outlet.refused = true → pump.outlet.shutdown.signalled = true
  release : pump.outlet.released = true → pump.phase = .confirming ∨ pump.phase = .finished
  stands : pump.outlet.shutdown.signalled = false →
    pump.Stands messages failure usage past
  closing : pump.outlet.shutdown.signalled = true → pump.Closing messages usage past

section Invariant

variable {messages : List Message} {failure : Option IoError} {usage : Usage}
  {pump : Pump} {past : List Round}

theorem Pump.StepCase.outlet_shutdown {receipts : Receipts} {stdin : ByteSource}
    {move : PumpMove} (hcase : pump.StepCase receipts stdin move) :
    move.pump.outlet.shutdown.signalled = pump.outlet.shutdown.signalled ∧
      move.pump.outlet.shutdown.requested = pump.outlet.shutdown.requested ∧
        move.pump.outlet.refused = pump.outlet.refused := by
  cases hcase <;> exact ⟨rfl, rfl, rfl⟩

theorem Pump.StepCase.released_phase {receipts : Receipts} {stdin : ByteSource}
    {move : PumpMove} (hcase : pump.StepCase receipts stdin move)
    (hrelease : pump.outlet.released = true →
      pump.phase = .confirming ∨ pump.phase = .finished)
    (hreleased : move.pump.outlet.released = true) :
    move.pump.phase = .confirming ∨ move.pump.phase = .finished := by
  cases hcase with
  | released => exact .inl rfl
  | confirmed => exact .inr rfl
  | readOn hphase => simpa [hphase] using hrelease hreleased
  | _ => simp_all [enter, Outlet.put]

namespace Usage.PumpInvariant

theorem start (kind : String) {source : Source} {world : World}
    (hstream : source.Streams world.stdin messages failure) :
    (Usage.start (.ofSource kind source) world).PumpInvariant messages failure
      { kind, source } [] := by
  refine ⟨rfl, Tidy.start _ _, by simp, rfl, by simp, by simp, fun _ => ?_, by simp⟩
  exact ⟨⟨messages, by simp, hstream⟩, rfl, rfl, rfl, rfl⟩

theorem work (hinv : usage.PumpInvariant messages failure pump past) (level : Nat) :
    ∃ after more, (usage.perform (.work level)).PumpInvariant messages failure after
      (past ++ more) := by
  rcases usage.perform_work_cases level with hnone | ⟨move, hstep, hsome⟩
  · exact ⟨pump, [], by simpa [hnone] using hinv⟩
  rw [hinv.stage] at hstep
  cases level with
  | succ level => simp [Stage.step_succ_pump] at hstep
  | zero =>
      obtain ⟨step, hpump, rfl⟩ := Stage.step_zero_pump hstep
      have hcase := Pump.stepCase_of_step hpump
      have hafter : usage.perform (.work 0) = usage.afterPump pump step := hsome
      obtain ⟨hsignalled, hrequested, hrefused⟩ := hcase.outlet_shutdown
      have htidy : (usage.afterPump pump step).Tidy :=
        hinv.tidy.note hcase.next_le rfl rfl
      have hsignal : step.pump.outlet.shutdown.signalled =
          step.pump.outlet.shutdown.requested := by
        rw [hsignalled, hrequested, hinv.signal]
      have hrefusal : step.pump.outlet.refused = true →
          step.pump.outlet.shutdown.signalled = true := by
        rw [hrefused, hsignalled]
        exact hinv.refusal
      rw [hafter]
      cases hclosing : pump.outlet.shutdown.signalled with
      | true =>
          refine ⟨step.pump, [], rfl, htidy, ?_, hsignal, hrefusal,
            hcase.released_phase hinv.release, ?_, fun _ => ?_⟩
          · simpa using hinv.rounds
          · simp [hsignalled, hclosing]
          · rw [List.append_nil]
            exact (hinv.closing hclosing).step hclosing hcase
      | false =>
          have haccepting : pump.outlet.refused = false := by
            by_contra hrefuses
            simp [hinv.refusal (by simpa using hrefuses)] at hclosing
          obtain ⟨more, hmore, hstands⟩ :=
            (hinv.stands hclosing).step hclosing haccepting hinv.tidy hcase
          refine ⟨step.pump, more, rfl, htidy, ?_, hsignal, hrefusal,
            hcase.released_phase hinv.release, fun _ => hstands, ?_⟩
          · intro round hround
            rw [afterPump_verdicts]
            rcases List.mem_append.mp hround with hold | hnew
            · exact hinv.rounds round hold
            · exact hmore round hnew
          · simp [hsignalled, hclosing]

theorem receive (hinv : usage.PumpInvariant messages failure pump past) :
    ∃ after, (usage.perform .receive).PumpInvariant messages failure after past := by
  by_cases hholding : usage.holding = true
  swap
  · exact ⟨pump, by simpa [perform, hholding] using hinv⟩
  have houtlet : usage.outlet = pump.outlet := by
    simp [outlet, hinv.stage, Stage.outlet]
  cases hclosing : pump.outlet.shutdown.signalled with
  | true =>
      have hended : usage.outlet.offer = .ended :=
        Outlet.offer_of_isClosing (by simp [houtlet, Outlet.isClosing, hclosing])
      rw [perform_receive_none hholding (by simp [hended, Received.transaction?]), hended]
      let after : Pump := { pump with outlet := { pump.outlet with slot := none, refused := true } }
      have hstage : usage.running.receive.2.stage = .pump after := by
        simp [Running.receive, hinv.stage, Stage.take, Stage.outlet, Stage.withOutlet,
          Outlet.take, Outlet.isClosing, hclosing, after]
      have hnext : usage.receipts.next ≤ usage.running.receive.2.world.receipts.next := by
        cases hslot : pump.outlet.slot <;>
          simp [Running.receive, hinv.stage, Stage.take, Stage.outlet, Outlet.take,
            Outlet.isClosing, hclosing, hslot, Receipts.lose, receipts, Receipts.forsake]
      refine ⟨after, hstage, hinv.tidy.note hnext rfl rfl, ?_, hinv.signal,
        fun _ => hclosing, hinv.release, by simp [after, hclosing], fun _ => ?_⟩
      · simpa [UsageNote.pronounced?] using hinv.rounds
      · apply (hinv.closing hclosing).mono
        · simp [UsageNote.handedOut?, Received.transaction?]
        · simp [UsageNote.pulled?]
        · simp
        · exact id
  | false =>
      have hisClosing : pump.outlet.isClosing = false := by
        simp [Outlet.isClosing, hclosing, ← hinv.signal]
      let after : Pump := { pump with outlet := { pump.outlet with slot := none } }
      have hstage : usage.running.receive.2.stage = .pump after := by
        simp [Running.receive, hinv.stage, Stage.take, Stage.outlet, Stage.withOutlet,
          Outlet.take, hisClosing, after]
      have hreceipts : usage.running.receive.2.world.receipts = usage.receipts := by
        simp [Running.receive, hinv.stage, Stage.take, Stage.outlet, Outlet.take, hisClosing,
          receipts]
      have hnext : usage.receipts.next ≤ usage.running.receive.2.world.receipts.next :=
        (congrArg Receipts.next hreceipts).ge
      have hstands := hinv.stands hclosing
      cases hslot : pump.outlet.slot with
      | none =>
          have hsame : after = pump := by
            simp [after, ← hslot]
          have hoffer : usage.outlet.offer.transaction? = none := by
            rw [houtlet]
            cases h : pump.outlet.released || pump.outlet.refused <;>
              simp [Outlet.offer, hisClosing, hslot, h, Received.transaction?]
          rw [perform_receive_none hholding hoffer]
          refine ⟨pump, by rw [← hsame]; exact hstage, hinv.tidy.note hnext hoffer rfl,
            ?_, hinv.signal, hinv.refusal, hinv.release, fun _ => ?_, by simp [hclosing]⟩
          · simpa [UsageNote.pronounced?] using hinv.rounds
          · apply hstands.congr
            · simp [UsageNote.handedOut?, hoffer]
            · simp [UsageNote.pulled?]
            · simp [UsageNote.pronounced?]
            · rfl
            · exact hreceipts
            · rfl
      | some transaction =>
          have hoffer : usage.outlet.offer = .transaction transaction := by
            rw [houtlet]
            simp [Outlet.offer, hisClosing, hslot]
          obtain ⟨hphase, front, hserving, hreceipt, hheld, hhanded, hfresh⟩ :=
            hstands.buffered_of_slot hslot
          have hissued : transaction.number < usage.receipts.next :=
            usage.receipts.lt_next_of_get_ne (by simp [hreceipt])
          rw [perform_receive_some hholding hoffer]
          refine ⟨after, hstage, hinv.tidy.handOut hnext hissued hfresh,
            ?_, hinv.signal, hinv.refusal, hinv.release, fun _ => ?_, by simp [after, hclosing]⟩
          · simpa [UsageNote.pronounced?] using hinv.rounds
          · have hafter : after.phase =
                .awaiting transaction.payload transaction.number := hphase
            rw [Pump.stands_awaiting hafter]
            refine ⟨front, ⟨hserving.split, ?_, ?_⟩, .held rfl ?_ ?_ ?_⟩
            · simpa [UsageNote.pulled?] using hserving.pulled
            · simpa [UsageNote.pronounced?] using hserving.rejected
            · unfold receipts
              rw [hreceipts]
              exact hreceipt
            · simp [hheld]
            · unfold Pump.HasHandedOut at hhanded ⊢
              rw [handedOut_note, hhanded]
              simp [UsageNote.handedOut?, Received.transaction?, Round.transactions]

theorem pronounce (hinv : usage.PumpInvariant messages failure pump past) (number : Nat)
    (verdict : Verdict) :
    (usage.perform (.pronounce number verdict)).PumpInvariant messages failure pump past := by
  by_cases hheld : number ∈ usage.held
  swap
  · simpa [perform, hheld] using hinv
  have htidy : (usage.perform (.pronounce number verdict)).Tidy := hinv.tidy.pronounce hheld
  rw [perform_pronounce verdict hheld] at htidy ⊢
  have hmore : usage.verdicts ⊆
      (Usage.mk (usage.running.pronounce number verdict) (usage.held.erase number)
        usage.holding (usage.record ++ [.pronounced number verdict])).verdicts := by
    simp
  refine ⟨hinv.stage, htidy, ?_, hinv.signal, hinv.refusal, hinv.release, fun hopen => ?_,
    fun hclosing => ?_⟩
  · intro round hround
    obtain ⟨hrepeated, haccepted⟩ := hinv.rounds round hround
    exact ⟨hrepeated.mono hmore, haccepted.mono hmore⟩
  · obtain ⟨message, front, hphase, hserving, hslot, hreceipt, hone, hhanded⟩ :=
      (hinv.stands hopen).held_of_mem hheld
    rw [Pump.stands_awaiting hphase]
    have hreceipt : (usage.receipts.pronounce number verdict).get number =
        Receipt.open.pronounce verdict := by
      rw [usage.receipts.get_pronounce, if_pos rfl, hreceipt]
    refine ⟨front, ⟨hserving.split, ?_, ?_⟩, .decided hslot hreceipt ?_ ?_ ?_⟩
    · simpa [UsageNote.pulled?] using hserving.pulled
    · intro other hother
      obtain ⟨earlier, hmem, hrejects⟩ := hserving.rejected other hother
      exact ⟨earlier, hmore hmem, hrejects⟩
    · simp [hone]
    · unfold Pump.HasHandedOut at hhanded ⊢
      rw [handedOut_note, hhanded]
      simp [UsageNote.handedOut?]
    · simp [UsageNote.pronounced?]
  · apply (hinv.closing hclosing).mono
    · simp [UsageNote.handedOut?]
    · simp [UsageNote.pulled?]
    · exact hmore
    · exact id

theorem outlet_eq (hinv : usage.PumpInvariant messages failure pump past) :
    usage.outlet = pump.outlet := by
  simp [outlet, hinv.stage, Stage.outlet]

/-- What the record says, whether somebody has asked the pump to close or not. -/
theorem overview (hinv : usage.PumpInvariant messages failure pump past) :
    pump.Closing messages usage past := by
  cases hsignal : pump.outlet.shutdown.signalled with
  | true => exact hinv.closing hsignal
  | false => exact (hinv.stands hsignal).closing

/-- Once a pump has been asked to close, the rounds so far are what there is. -/
theorem ask (hinv : usage.PumpInvariant messages failure pump past) {running : Running}
    {holding : Bool} {note : UsageNote} {outlet : Outlet}
    (hstage : running.stage = .pump { pump with outlet })
    (hnext : usage.receipts.next ≤ running.world.receipts.next)
    (hsignalled : outlet.shutdown.signalled = true)
    (hrequested : outlet.shutdown.requested = true)
    (hreleased : outlet.released = pump.outlet.released)
    (hnote : note.handedOut? = none ∧ note.pulled? = none ∧ note.pronounced? = none) :
    (Usage.mk running usage.held holding (usage.record ++ [note])).PumpInvariant messages
      failure { pump with outlet } past := by
  obtain ⟨hhanded, hpulled, hpronounced⟩ := hnote
  refine ⟨hstage, hinv.tidy.note hnext hhanded hpronounced, ?_, by rw [hsignalled, hrequested],
    fun _ => hsignalled, ?_, by simp [hsignalled], fun _ => ?_⟩
  · simpa [hpronounced] using hinv.rounds
  · rw [hreleased]
    exact hinv.release
  · apply hinv.overview.mono
    · simp [hhanded]
    · simp [hpulled]
    · simp [hpronounced]
    · exact id

theorem request_signalled {shutdown : Shutdown}
    (hsignal : shutdown.signalled = shutdown.requested) :
    shutdown.request.signalled = true := by
  cases hrequested : shutdown.requested <;>
    simp [Shutdown.request, Shutdown.requestClose, hrequested, hsignal]

theorem perform (hinv : usage.PumpInvariant messages failure pump past) (move : UsageMove) :
    ∃ after more, (usage.perform move).PumpInvariant messages failure after
      (past ++ more) := by
  have hsignalled : pump.outlet.close.shutdown.signalled = true :=
    request_signalled hinv.signal
  cases move with
  | work level => exact hinv.work level
  | receive =>
      obtain ⟨after, hafter⟩ := hinv.receive
      exact ⟨after, [], by simpa using hafter⟩
  | pronounce number verdict =>
      exact ⟨pump, [], by simpa using hinv.pronounce number verdict⟩
  | close =>
      by_cases hholding : usage.holding = true
      · refine ⟨{ pump with outlet := pump.outlet.close }, [], ?_⟩
        simp only [Usage.perform, hholding, if_true, List.append_nil]
        apply hinv.ask
        · simp [Running.close, hinv.stage, Stage.close, Stage.withOutlet, Stage.outlet]
        · exact le_rfl
        · exact hsignalled
        · simp [Outlet.close]
        · rfl
        · exact ⟨rfl, rfl, rfl⟩
      · exact ⟨pump, [], by simpa [Usage.perform, hholding] using hinv⟩
  | letGo =>
      by_cases hholding : usage.holding = true
      · refine ⟨{ pump with outlet :=
          { pump.outlet.close with slot := none, refused := true } }, [], ?_⟩
        simp only [Usage.perform, hholding, if_true, List.append_nil]
        apply hinv.ask
        · simp [Running.letGo, hinv.stage, Stage.letGo, Stage.withOutlet, Stage.outlet,
            Outlet.letGo]
        · cases hslot : pump.outlet.slot <;>
            simp [Running.letGo, hinv.stage, Stage.letGo, Stage.outlet, Outlet.letGo, hslot,
              Receipts.lose, receipts, Receipts.forsake]
        · exact hsignalled
        · simp [Outlet.close]
        · rfl
        · exact ⟨rfl, rfl, rfl⟩
      · exact ⟨pump, [], by simpa [Usage.perform, hholding] using hinv⟩
  | rewrite disk =>
      refine ⟨pump, [], ?_⟩
      rw [List.append_nil]
      refine ⟨hinv.stage, hinv.tidy.note le_rfl rfl rfl, ?_, hinv.signal, hinv.refusal,
        hinv.release, fun hopen => ?_, fun hclosing => ?_⟩
      · simpa [Usage.perform, UsageNote.pronounced?] using hinv.rounds
      · apply (hinv.stands hopen).congr
        · simp [Usage.perform, UsageNote.handedOut?]
        · simp [Usage.perform, UsageNote.pulled?]
        · simp [Usage.perform, UsageNote.pronounced?]
        · rfl
        · rfl
        · rfl
      · apply (hinv.closing hclosing).mono
        · simp [Usage.perform, UsageNote.handedOut?]
        · simp [Usage.perform, UsageNote.pulled?]
        · simp [Usage.perform, UsageNote.pronounced?]
        · exact id

theorem performAll (hinv : usage.PumpInvariant messages failure pump past)
    (moves : List UsageMove) :
    ∃ after rounds, (usage.performAll moves).PumpInvariant messages failure after rounds := by
  refine performAll_induction (motive := fun usage =>
    ∃ after rounds, usage.PumpInvariant messages failure after rounds) ⟨pump, past, hinv⟩ ?_ moves
  rintro usage move ⟨pump, past, hinv⟩
  obtain ⟨after, more, hafter⟩ := hinv.perform move
  exact ⟨after, past ++ more, hafter⟩

end Usage.PumpInvariant

end Invariant

/-- The deliveries of a pump, message by message: `rounds` are the messages of
which something was handed out, each with its transactions. -/
structure Usage.DeliversInOrder (usage : Usage) (messages : List Message)
    (rounds : List Round) : Prop where
  /-- Each transaction is handed out once and gets at most one verdict. -/
  handedOnce : (usage.handedOut.map Transaction.number).Nodup
  pronouncedOnce : (usage.verdicts.map Prod.fst).Nodup
  handedOut : usage.handedOut = rounds.flatMap Round.transactions
  nonempty : ∀ round ∈ rounds, round.numbers ≠ []
  repeated : ∀ round ∈ rounds, round.Repeated usage.verdicts
  inOrder : rounds.map Round.message <+: messages
  asPulled : rounds.map Round.message <+: usage.pulled
  /-- A message that was pulled after another finds the round of that one accepted. -/
  acceptedFirst : ∀ index, index + 1 < usage.pulled.length →
    ∃ round, rounds[index]? = some round ∧ round.Accepted usage.verdicts
  /-- A pump that lets go of its outlet unasked has delivered everything. -/
  complete : usage.outlet.released = true → usage.outlet.shutdown.requested = false →
    rounds.map Round.message = messages ∧ ∀ round ∈ rounds, round.Accepted usage.verdicts

/-- Whatever the holder does and in whatever order things happen, a pump
delivers the messages of its source in order and at least once: it repeats each
until it is accepted, and turns to the next one only then. -/
theorem Usage.pump_deliversInOrder (kind : String) {source : Source} {world : World}
    {messages : List Message} {failure : Option IoError}
    (hstream : source.Streams world.stdin messages failure) (moves : List UsageMove) :
    ∃ rounds, ((Usage.start (.ofSource kind source) world).performAll moves).DeliversInOrder
      messages rounds := by
  obtain ⟨pump, past, hinv⟩ := (PumpInvariant.start kind hstream).performAll moves
  generalize (Usage.start (.ofSource kind source) world).performAll moves = usage at hinv
  have hoverview : pump.Closing messages usage past := by
    cases hsignal : pump.outlet.shutdown.signalled with
    | true => exact hinv.closing hsignal
    | false => exact (hinv.stands hsignal).closing
  have houtlet : usage.outlet = pump.outlet := by
    simp [outlet, hinv.stage, Stage.outlet]
  obtain ⟨tail, hserved⟩ := hoverview.served
  refine ⟨past ++ tail, hinv.tidy.handedOnce, hinv.tidy.pronouncedOnce, hserved.handedOut,
    ?_, ?_, hserved.inOrder, hserved.asPulled, ?_, ?_⟩
  · intro round hround
    rcases List.mem_append.mp hround with hpast | htail
    · exact (hinv.rounds round hpast).2.numbers_ne_nil
    · exact (hserved.tailRounds round htail).1
  · intro round hround
    rcases List.mem_append.mp hround with hpast | htail
    · exact (hinv.rounds round hpast).1
    · exact (hserved.tailRounds round htail).2
  · intro index hindex
    have hpast : index < past.length := by
      have hcount := hserved.pulledNext
      omega
    refine ⟨past[index], ?_, (hinv.rounds _ (List.getElem_mem hpast)).2⟩
    rw [List.getElem?_append_left hpast, List.getElem?_eq_getElem hpast]
  · rw [houtlet]
    intro hreleased hrequested
    have hopen : pump.outlet.shutdown.signalled = false := by
      rw [hinv.signal, hrequested]
    have hspent := (Pump.stands_spent (.inr (hinv.release hreleased))).mp (hinv.stands hopen)
    have htail : tail = [] := by
      have hlength := hserved.inOrder.length_le
      rw [hspent.all] at hlength
      simpa using hlength
    subst tail
    refine ⟨by simp [hspent.all], ?_⟩
    intro round hround
    exact (hinv.rounds round (by simpa using hround)).2

/-- A message that is dropped, then rejected, then accepted, before the source
fails. -/
theorem Usage.pump_deliversInOrder_of_redelivery :
    (Source.listed [.ok (.single [104, 105]), .error .notFound]).Streams (.ofBytes [])
        [.single [104, 105]] (some .notFound) ∧
      ∃ usage, usage =
          (Usage.start (.ofSource "test"
            (.listed [.ok (.single [104, 105]), .error .notFound])) {}).performAll
          [.work 0, .work 0, .work 0, .receive, .pronounce 0 none,
            .work 0, .work 0, .receive, .pronounce 1 (some (.nack "full")),
            .work 0, .work 0, .receive, .pronounce 2 (some .ack),
            .work 0, .work 0, .work 0, .work 0] ∧
        (∃ rounds, usage.DeliversInOrder [.single [104, 105]] rounds) ∧
        usage.handedOut.map Transaction.number = [0, 1, 2] ∧
        usage.outlet.released = true ∧ usage.outlet.shutdown.requested = false := by
  have hstream : (Source.listed [.ok (.single [104, 105]), .error .notFound]).Streams
      (.ofBytes []) [.single [104, 105]] (some .notFound) :=
    Source.streams_listed [.single [104, 105]] .notFound [] (.ofBytes [])
  refine ⟨hstream, _, rfl, Usage.pump_deliversInOrder "test" hstream _, ?_, ?_, ?_⟩
  · decide +kernel
  · decide +kernel
  · decide +kernel

end Intake
