import Intake.Proofs.LineFraming
import Intake.Proofs.PumpDelivery

/-!
# Delivery of lines

A pump that reads lines hands out messages that the whole content is framed to, in
order, and nothing else.  A reader that is stopped is at its end in the middle of a line
or a block, and the pump then does pull what has been gathered as a message; but it was
asked to close before, so that message never gets into the outlet.  Where the reader
falls silent the whole content is anything that begins with what has come so far: a run
on the silent reader is matched by one on a reader with more to come, which leaves out
the steps for which the silent one has nothing.
-/

namespace Intake

theorem Source.Yields.streams {stdin : ByteSource} {source : Source} {messages : List Message}
    {failure : Option IoError} (hyields : Yields stdin source messages failure) :
    source.Streams stdin messages failure := by
  induction hyields with
  | ended hpull => exact .ended hpull
  | failed hpull => exact .failed hpull
  | more hpull hrest ih => exact .more hpull ih
  | message hpull hrest ih => exact .message hpull ih

/-! ## Handing out in order -/

/-- What has been handed out are messages of a list, from the first on: each one again and
again until it was accepted, and only then the next one. -/
structure Usage.HandsOutOnly (usage : Usage) (messages : List Message) : Prop where
  among : ∀ transaction ∈ usage.handedOut, transaction.payload ∈ messages
  inOrder : ∃ rounds : List Round,
    usage.handedOut = rounds.flatMap Round.transactions ∧
      rounds.map Round.message <+: messages ∧
        (∀ round ∈ rounds, round.numbers ≠ [] ∧ round.Repeated usage.verdicts) ∧
          ∀ round ∈ rounds.dropLast, round.Accepted usage.verdicts

theorem Usage.PumpInvariant.handsOutOnly {messages : List Message} {failure : Option IoError}
    {usage : Usage} {pump : Pump} {past : List Round}
    (hinv : usage.PumpInvariant messages failure pump past) : usage.HandsOutOnly messages := by
  obtain ⟨tail, hserved⟩ := hinv.overview.served
  have hlast : tail.length ≤ 1 := by
    have hpulled := hserved.asPulled.length_le
    have hnext := hserved.pulledNext
    simp only [List.length_map, List.length_append] at hpulled
    omega
  refine ⟨?_, past ++ tail, hserved.handedOut, hserved.inOrder, ?_, ?_⟩
  · intro transaction hmem
    rw [hserved.handedOut, List.mem_flatMap] at hmem
    obtain ⟨round, hround, htransaction⟩ := hmem
    obtain ⟨number, -, rfl⟩ := List.mem_map.mp htransaction
    exact hserved.inOrder.subset (List.mem_map_of_mem hround)
  · intro round hround
    rcases List.mem_append.mp hround with hpast | htail
    · obtain ⟨hrepeated, haccepted⟩ := hinv.rounds round hpast
      exact ⟨haccepted.numbers_ne_nil, hrepeated⟩
    · exact hserved.tailRounds round htail
  · intro round hround
    have hpast : round ∈ past := by
      rcases tail with _ | ⟨last, _ | ⟨other, tail⟩⟩
      · rw [List.append_nil] at hround
        exact List.dropLast_subset past hround
      · rwa [List.dropLast_concat] at hround
      · simp at hlast
    exact (hinv.rounds round hpast).2

/-- A pump over a source that is not silent. -/
theorem Usage.handsOutOnly_frame (kind : String) (multipart : Bool) {origin : Origin}
    {world : World} {chunks : List Bytes} {failure : Option IoError}
    (hsource : origin.source world.stdin = ⟨chunks, .after failure⟩) (moves : List UsageMove) :
    ((Usage.start (.ofSource kind (.lines { multipart } [] origin)) world).performAll
      moves).HandsOutOnly (frame multipart chunks failure).1 := by
  have hyields : Source.Yields world.stdin (.lines { multipart } [] origin)
      (frame multipart chunks failure).1 (frame multipart chunks failure).2 :=
    (Source.yields_frame_iff hsource).mpr rfl
  obtain ⟨pump, past, hinv⟩ := (PumpInvariant.start kind hyields.streams).performAll moves
  exact hinv.handsOutOnly

/-! ## A silent reader -/

section Followed

variable (more : List Bytes) (failure : Option IoError)

/-- A source with more to come. -/
def ByteSource.followed (source : ByteSource) : ByteSource :=
  ⟨source.pieces ++ more, .after failure⟩

def Origin.followed : Origin → Origin
  | .own source => .own (source.followed more failure)
  | .standard => .standard

def Source.followed : Source → Source
  | .listed items => .listed items
  | .lines framer ahead origin => .lines framer ahead (origin.followed more failure)

def Pump.followed (pump : Pump) : Pump :=
  { pump with source := pump.source.followed more failure }

def Stage.followed : Stage → Stage
  | .pump leaf => .pump (leaf.followed more failure)
  | .guard head wrapped => .guard head wrapped

/-- A stage in use whose reader has more to come. -/
def Usage.followed (usage : Usage) : Usage :=
  { usage with
    running := { usage.running with
      stage := usage.running.stage.followed more failure
      world := { usage.running.world with
        stdin := usage.running.world.stdin.followed more failure } } }

end Followed

/-- Whether a source reads lines from something that falls silent. -/
def Source.FallsSilent (stdin : ByteSource) : Source → Prop
  | .listed _ => False
  | .lines _ _ origin => (origin.source stdin).tail = .silent

section Silent

variable (more : List Bytes) (failure : Option IoError) {stdin left : ByteSource}
  {source next : Source} {pump : Pump}

theorem ByteSource.takeFrom_append {size : Nat} {pieces rest : List Bytes} {content : Bytes}
    (hfound : takeFrom size pieces = some (content, rest)) :
    takeFrom size (pieces ++ more) = some (content, rest ++ more) := by
  induction pieces with
  | nil => simp [takeFrom] at hfound
  | cons piece pieces ih =>
      cases piece with
      | nil => exact ih hfound
      | cons b piece =>
          simp only [takeFrom, Option.some.injEq, Prod.mk.injEq] at hfound
          obtain ⟨rfl, rfl⟩ := hfound
          rfl

theorem ByteSource.readUnless_followed {reader : ByteSource} {stopped : Bool} {size : Nat}
    (hsilent : reader.tail = .silent) (hready : (reader.readUnless stopped size).1 ≠ .waiting) :
    (reader.followed more failure).readUnless stopped size =
        ((reader.readUnless stopped size).1,
          (reader.readUnless stopped size).2.followed more failure) ∧
      (reader.readUnless stopped size).2.tail = .silent := by
  cases stopped with
  | true => exact ⟨rfl, hsilent⟩
  | false =>
      cases hfound : takeFrom size reader.pieces with
      | none => simp [readUnless, read, hfound, hsilent] at hready
      | some taken =>
          obtain ⟨content, rest⟩ := taken
          have happend := takeFrom_append more hfound
          simp [readUnless, read, hfound, happend, followed, hsilent]

/-- Reading a piece from an origin that falls silent, unless nothing is there. -/
theorem Source.readPiece_followed {origin after : Origin} {stopped : Bool} {piece : Piece}
    (hsilent : (origin.source stdin).tail = .silent)
    (hpiece : readPiece stopped stdin origin = (piece, after, left)) (hready : piece ≠ .waiting) :
    readPiece stopped (stdin.followed more failure) (origin.followed more failure) =
        (piece, after.followed more failure, left.followed more failure) ∧
      (after.source left).tail = .silent := by
  cases origin with
  | own reader =>
      obtain ⟨rfl, rfl, rfl⟩ : _ ∧ _ ∧ _ := by simpa [readPiece] using hpiece
      have htail : reader.tail = .silent := hsilent
      obtain ⟨hread, hleft⟩ := ByteSource.readUnless_followed more failure htail hready
      exact ⟨by simp [readPiece, Origin.followed, hread], hleft⟩
  | standard =>
      obtain ⟨rfl, rfl, rfl⟩ : _ ∧ _ ∧ _ := by simpa [readPiece] using hpiece
      have htail : stdin.tail = .silent := hsilent
      obtain ⟨hread, hleft⟩ := ByteSource.readUnless_followed more failure htail hready
      exact ⟨by simp [readPiece, Origin.followed, hread], hleft⟩

/-- What pulling at a source that falls silent gives, if it gives something, it gives with
more to come too. -/
theorem Source.pull_followed {stopped : Bool} {pulled : Pulled} (hsilent : source.FallsSilent stdin)
    (hpull : source.pull stopped stdin = (pulled, next, left)) (hready : pulled ≠ .waiting) :
    (source.followed more failure).pull stopped (stdin.followed more failure) =
        (pulled, next.followed more failure, left.followed more failure) ∧
      next.FallsSilent left := by
  cases source with
  | listed items => exact hsilent.elim
  | lines framer ahead origin =>
      have htail : (origin.source stdin).tail = .silent := hsilent
      cases ahead with
      | cons b rest =>
          cases hnext : framer.next (b :: rest) <;>
            · simp only [pull, hnext, Prod.mk.injEq] at hpull
              obtain ⟨rfl, rfl, rfl⟩ := hpull
              exact ⟨by simp [pull, followed, hnext], htail⟩
      | nil =>
          obtain ⟨piece, after, spent, hpiece⟩ :
              ∃ piece after spent, readPiece stopped stdin origin = (piece, after, spent) :=
            ⟨_, _, _, rfl⟩
          have hfollowed := readPiece_followed more failure htail hpiece
          cases piece with
          | waiting =>
              simp only [pull, hpiece, Prod.mk.injEq] at hpull
              exact absurd hpull.1.symm hready
          | failed error =>
              obtain ⟨hread, hrest⟩ := hfollowed (by simp)
              simp only [pull, hpiece, Prod.mk.injEq] at hpull
              obtain ⟨rfl, rfl, rfl⟩ := hpull
              exact ⟨by simp [pull, followed, hread], hrest⟩
          | bytes content =>
              obtain ⟨hread, hrest⟩ := hfollowed (by simp)
              cases content with
              | cons b rest =>
                  simp only [pull, hpiece, Prod.mk.injEq] at hpull
                  obtain ⟨rfl, rfl, rfl⟩ := hpull
                  exact ⟨by simp [pull, followed, hread], hrest⟩
              | nil =>
                  rcases hfinish : framer.finish with error | _ | message <;>
                    · simp only [pull, hpiece, hfinish, Prod.mk.injEq] at hpull
                      obtain ⟨rfl, rfl, rfl⟩ := hpull
                      exact ⟨by simp [pull, followed, hread, hfinish], hrest⟩

/-- A step of a pump whose reader falls silent is one with more to come too. -/
theorem Pump.step_followed {receipts : Receipts} {move : PumpMove}
    (hsilent : pump.source.FallsSilent stdin) (hstep : pump.step receipts stdin = some move) :
    (pump.followed more failure).step receipts (stdin.followed more failure) =
        some { move with
          pump := move.pump.followed more failure
          stdin := move.stdin.followed more failure } ∧
      move.pump.source.FallsSilent move.stdin := by
  cases Pump.stepCase_of_step hstep with
  | readOn hphase hpull =>
      obtain ⟨hfollowed, hrest⟩ := Source.pull_followed more failure hsilent hpull (by simp)
      exact ⟨by simp [step, followed, hphase, hfollowed], hrest⟩
  | ended hphase hpull =>
      obtain ⟨hfollowed, hrest⟩ := Source.pull_followed more failure hsilent hpull (by simp)
      exact ⟨by simp [step, followed, hphase, hfollowed], hrest⟩
  | failed hphase hpull =>
      obtain ⟨hfollowed, hrest⟩ := Source.pull_followed more failure hsilent hpull (by simp)
      exact ⟨by simp [step, followed, hphase, hfollowed], hrest⟩
  | pulled hphase hpull =>
      obtain ⟨hfollowed, hrest⟩ := Source.pull_followed more failure hsilent hpull (by simp)
      exact ⟨by simp [step, followed, hphase, hfollowed], hrest⟩
  | turnAway hphase hclosing =>
      exact ⟨by simp [step, followed, enter, hphase, hclosing], hsilent⟩
  | turnToSource hphase hopen =>
      exact ⟨by simp [step, followed, enter, hphase, hopen], hsilent⟩
  | giveUp hphase hclosing =>
      exact ⟨by simp [step, followed, enter, hphase, hclosing], hsilent⟩
  | sent hphase hopen haccepting hroom =>
      exact ⟨by simp [step, followed, hphase, hopen, haccepting, hroom], hsilent⟩
  | withdrew hphase hclosing =>
      exact ⟨by simp [step, followed, enter, hphase, hclosing], hsilent⟩
  | acknowledged hphase hopen hanswered hack =>
      exact ⟨by simp [step, followed, enter, hphase, hopen, Receipts.look, Receipt.look,
        hanswered, hack], hsilent⟩
  | rejected hphase hopen hanswered hnack =>
      exact ⟨by simp [step, followed, enter, hphase, hopen, Receipts.look, Receipt.look,
        hanswered, hnack], hsilent⟩
  | dropped hphase hopen hlook =>
      exact ⟨by simp [step, followed, enter, hphase, hopen, Receipts.look, hlook], hsilent⟩
  | released hphase => exact ⟨by simp [step, followed, hphase], hsilent⟩
  | confirmed hphase => exact ⟨by simp [step, followed, hphase], hsilent⟩

/-- Whether a stage in use is a pump that reads lines from something that falls silent. -/
def Usage.FallsSilent (usage : Usage) : Prop :=
  match usage.running.stage with
  | .pump pump => pump.source.FallsSilent usage.running.world.stdin
  | .guard _ _ => False

/-- A move on a stage whose reader falls silent is matched with more to come, except that
a step of the worker for which there is nothing to read is left out. -/
theorem Usage.perform_followed {usage : Usage} (hsilent : usage.FallsSilent) (move : UsageMove) :
    (∃ moves, (usage.followed more failure).performAll moves =
        (usage.perform move).followed more failure) ∧
      (usage.perform move).FallsSilent := by
  obtain ⟨⟨stage, world, metrics⟩, held, holding, record⟩ := usage
  cases stage with
  | guard head wrapped => exact hsilent.elim
  | pump pump =>
  have hpump : pump.source.FallsSilent world.stdin := hsilent
  have hperforms := performs ⟨⟨.pump pump, world, metrics⟩, held, holding, record⟩ move
  generalize perform ⟨⟨.pump pump, world, metrics⟩, held, holding, record⟩ move = after
    at hperforms ⊢
  cases hperforms with
  | idle => exact ⟨⟨[], rfl⟩, hsilent⟩
  | @worked level step hstep =>
      cases level with
      | succ level => simp [Stage.step_succ_pump] at hstep
      | zero =>
          obtain ⟨step, hpumped, rfl⟩ := Stage.step_zero_pump hstep
          obtain ⟨hfollowed, hrest⟩ := Pump.step_followed more failure hpump hpumped
          have hstep : Stage.step { world with stdin := world.stdin.followed more failure } 0
              (.pump (pump.followed more failure)) =
                some ⟨.pump pump.kind step.event, .pump (step.pump.followed more failure),
                  step.receipts, step.stdin.followed more failure⟩ := by
            simpa [Stage.step, Pump.followed] using ⟨_, hfollowed, rfl, rfl, rfl, rfl⟩
          refine ⟨⟨[.work 0], ?_⟩, hrest⟩
          simp [perform, Running.work, followed, Stage.followed, hstep, Running.after]
  | received hholding =>
      obtain rfl : holding = true := hholding
      exact ⟨⟨[.receive], rfl⟩, hpump⟩
  | @pronounced number verdict hheld =>
      have hheld : number ∈ held := hheld
      exact ⟨⟨[.pronounce number verdict], by simp [perform, followed, hheld, Running.pronounce]⟩,
        hpump⟩
  | closed hholding =>
      obtain rfl : holding = true := hholding
      exact ⟨⟨[.close], rfl⟩, hpump⟩
  | letGo hholding =>
      obtain rfl : holding = true := hholding
      exact ⟨⟨[.letGo], rfl⟩, hpump⟩
  | rewritten disk => exact ⟨⟨[.rewrite disk], rfl⟩, hpump⟩

theorem Usage.performAll_followed {usage : Usage} (hsilent : usage.FallsSilent)
    (moves : List UsageMove) :
    ∃ others, (usage.followed more failure).performAll others =
      (usage.performAll moves).followed more failure := by
  induction moves generalizing usage with
  | nil => exact ⟨[], rfl⟩
  | cons move rest ih =>
      obtain ⟨⟨first, hfirst⟩, hstill⟩ := perform_followed more failure hsilent move
      obtain ⟨others, hothers⟩ := ih hstill
      refine ⟨first ++ others, ?_⟩
      rw [Usage.performAll_append, hfirst, hothers, performAll_cons]

end Silent

/-! ## Every source of lines -/

/-- What there is to read is the beginning of some content: all of it, up to its end or
a failure, or what has come so far. -/
inductive ByteSource.Begins : ByteSource → Bytes → Option IoError → Prop where
  | whole (pieces : List Bytes) (failure : Option IoError) :
      Begins ⟨pieces, .after failure⟩ pieces.flatten failure
  | silent (pieces : List Bytes) (more : Bytes) (failure : Option IoError) :
      Begins ⟨pieces, .silent⟩ (pieces.flatten ++ more) failure

theorem frame_flatten (multipart : Bool) (chunks : List Bytes) (failure : Option IoError) :
    frame multipart [chunks.flatten] failure = frame multipart chunks failure := by
  rw [frame, frame, Framer.run_eq_run_flatten _ _ chunks]

/-- Whatever the holder does, and whenever it asks a pump that reads lines to close or lets
go of it: no message gets out that the whole content is not framed to, however the content
goes on where the reader has fallen silent. -/
theorem Usage.handsOut_framed (kind : String) (multipart : Bool) {origin : Origin}
    {world : World} {content : Bytes} {failure : Option IoError}
    (hbegins : (origin.source world.stdin).Begins content failure) (moves : List UsageMove) :
    ((Usage.start (.ofSource kind (.lines { multipart } [] origin)) world).performAll
      moves).HandsOutOnly (frame multipart [content] failure).1 := by
  generalize hsource : origin.source world.stdin = reader at hbegins
  cases hbegins with
  | whole pieces =>
      rw [frame_flatten]
      exact handsOutOnly_frame kind multipart hsource moves
  | silent pieces more =>
      have hsilent :
          (Usage.start (.ofSource kind (.lines { multipart } [] origin)) world).FallsSilent := by
        change (origin.source world.stdin).tail = .silent
        rw [hsource]
      obtain ⟨others, hothers⟩ :=
        performAll_followed [more] failure hsilent moves
      have hfollowed : (origin.followed [more] failure).source
          (world.stdin.followed [more] failure) = ⟨pieces ++ [more], .after failure⟩ := by
        cases origin <;> simp_all [Origin.followed, Origin.source, ByteSource.followed]
      have hmatched : (((Usage.start (.ofSource kind (.lines { multipart } [] origin))
          world).followed [more] failure).performAll others).HandsOutOnly
            (frame multipart (pieces ++ [more]) failure).1 :=
        handsOutOnly_frame kind multipart hfollowed others
      -- the two runs have the same record
      have hsame : ((Usage.start (.ofSource kind (.lines { multipart } [] origin))
          world).performAll moves).HandsOutOnly (frame multipart (pieces ++ [more]) failure).1 := by
        rw [hothers] at hmatched
        exact ⟨hmatched.among, hmatched.inOrder⟩
      rwa [← frame_flatten, List.flatten_append, List.flatten_singleton] at hsame

/-- Standard input falls silent in the middle of a line, and then the pump is asked to
close: it pulls what is there of the line, which is not handed out. -/
theorem Usage.handsOut_framed_of_truncation :
    (Origin.standard.source ⟨[[97, 98, 10, 99]], .silent⟩).Begins
        ([97, 98, 10, 99] ++ [100, 10]) none ∧
      ∃ stage usage, Stage.build (fun _ => .error .notFound) true (.stdin false) = .ok stage ∧
        usage = (Usage.start stage { stdin := ⟨[[97, 98, 10, 99]], .silent⟩ }).performAll
          [.work 0, .work 0, .work 0, .work 0, .receive, .pronounce 0 (some .ack), .work 0,
            .work 0, .work 0, .close, .work 0, .receive, .work 0, .work 0, .work 0] ∧
        usage.HandsOutOnly (frame false [[97, 98, 10, 99, 100, 10]] none).1 ∧
        usage.pulled = [.single [97, 98], .single [99]] ∧
        usage.handedOut = [⟨0, .single [97, 98]⟩] ∧
        (frame false [[97, 98, 10, 99, 100, 10]] none).1 =
          [.single [97, 98], .single [99, 100]] := by
  have hbegins : (Origin.standard.source ⟨[[97, 98, 10, 99]], .silent⟩).Begins
      ([97, 98, 10, 99] ++ [100, 10]) none :=
    .silent [[97, 98, 10, 99]] [100, 10] none
  obtain ⟨world, hworld⟩ : ∃ world : World,
      world = { stdin := ⟨[[97, 98, 10, 99]], .silent⟩ } := ⟨_, rfl⟩
  have hstdin : (Origin.standard.source world.stdin).Begins ([97, 98, 10, 99] ++ [100, 10])
      none := by
    rw [hworld]
    exact hbegins
  refine ⟨hbegins, _, _, rfl, rfl, ?_, ?_, ?_, ?_⟩
  · rw [← hworld]
    exact Usage.handsOut_framed InputKind.stdin.name false hstdin _
  · decide +kernel
  · decide +kernel
  · decide +kernel

end Intake
