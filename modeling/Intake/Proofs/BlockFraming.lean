import Mathlib
import Intake.Proofs.LineFraming

/-!
# Lines framed in blocks

Framed in blocks, bytes give the runs of lines between empty lines, taken from the
very lines that framing them singly gives.  An error ends both at the same line, and
the run that it cuts short is lost.  Blocks that are written out line by line, with at
least one empty line between them, are framed to themselves.
-/

namespace Intake

/-- The blocks in lines: the runs of lines between empty ones.  The run that an error
cuts short is none. -/
def blocksOf (lines : List Bytes) (failure : Option IoError) : List (List Bytes) :=
  let runs := lines.splitOn []
  (if failure.isSome then runs.dropLast else runs).filter (· ≠ [])

/-- The blocks that a framer completes which has gathered some parts, newest first,
when it gets these lines. -/
def blocksAfter (parts lines : List Bytes) (failure : Option IoError) : List (List Bytes) :=
  let runs := (lines.splitOn []).modifyHead (parts.reverse ++ ·)
  (if failure.isSome then runs.dropLast else runs).filter (· ≠ [])

theorem blocksAfter_nil_left (lines : List Bytes) (failure : Option IoError) :
    blocksAfter [] lines failure = blocksOf lines failure := by
  cases hruns : lines.splitOn [] <;> simp [blocksAfter, blocksOf, hruns]

/-! ## A framer that has gathered something -/

section Gathered

variable (parts : List Bytes) (failure : Option IoError)

theorem blocksAfter_cut (error : IoError) : blocksAfter parts [] (some error) = [] := by
  simp [blocksAfter]

theorem blocksAfter_end :
    blocksAfter parts [] none = if parts = [] then [] else [parts.reverse] := by
  by_cases hparts : parts = [] <;> simp [blocksAfter, hparts]

theorem blocksAfter_line {line : Bytes} (hline : line ≠ []) (rest : List Bytes) :
    blocksAfter parts (line :: rest) failure = blocksAfter (line :: parts) rest failure := by
  have hruns : (line :: rest).splitOn [] = (rest.splitOn []).modifyHead (line :: ·) := by
    rw [List.splitOn_cons_eq_if_modifyHead, if_neg (by simpa using hline)]
  simp [blocksAfter, hruns, List.modifyHead_modifyHead, Function.comp_def]

theorem blocksAfter_empty (rest : List Bytes) :
    blocksAfter parts ([] :: rest) failure =
      (if parts = [] then [] else [parts.reverse]) ++ blocksOf rest failure := by
  have hruns : ([] :: rest : List Bytes).splitOn [] = [] :: rest.splitOn [] := by
    rw [List.splitOn_cons_eq_if_modifyHead, if_pos (by simp)]
  obtain ⟨piece, pieces, hrest⟩ :=
    List.exists_cons_of_ne_nil (List.splitOn_ne_nil ([] : Bytes) rest)
  by_cases hparts : parts = [] <;> cases failure <;>
    simp [blocksAfter, blocksOf, hruns, hrest, hparts]

end Gathered

namespace Framer

theorem run_cons_cons (framer : Framer) (failure : Option IoError) (b : UInt8) (rest : Bytes) :
    framer.run failure [b :: rest] =
      match framer.feed b with
      | .error error => ([], some error)
      | .ok (framed, completed) =>
          (completed.toList ++ (framed.run failure [rest]).1, (framed.run failure [rest]).2) := by
  cases hfed : framer.feed b with
  | error error => simp [run, feedAll, hfed]
  | ok step =>
      obtain ⟨framed, completed⟩ := step
      rcases htaken : framed.feedAll rest with ⟨messages, error | last⟩ <;>
        simp [run, feedAll, hfed, htaken]

/-- What the end of the bytes completes, in the middle of a line and of a block. -/
theorem finish_block (line : Bytes) (parts : List Bytes) :
    (Framer.mk true line.reverse parts).finish =
      if line.isEmpty then .ok (if parts = [] then none else some ⟨parts.reverse⟩)
      else
        match Utf8.fault? line with
        | some fault => .error (.brokenText fault)
        | none => .ok (some ⟨(line :: parts).reverse⟩) := by
  cases line with
  | nil => simp [finish, closeBlock]
  | cons b line =>
      rw [finish, takeLine, List.reverse_reverse]
      cases hfault : Utf8.fault? (b :: line) <;> simp [closeBlock]

/-- At the end of the bytes, in the middle of a line and of a block. -/
theorem run_block_end (line : Bytes) (parts : List Bytes) (failure : Option IoError) :
    ∃ lines outcome,
      (Framer.mk false line.reverse []).run failure [] = (lines.map .single, outcome) ∧
        (Framer.mk true line.reverse parts).run failure [] =
          ((blocksAfter parts lines outcome).map .mk, outcome) := by
  cases failure with
  | some error => exact ⟨[], some error, by simp [run], by simp [run, blocksAfter_cut]⟩
  | none =>
      rw [run, run, finish_single, finish_block]
      by_cases hempty : line.isEmpty
      · refine ⟨[], none, by simp [hempty], ?_⟩
        by_cases hparts : parts = [] <;> simp [hempty, hparts, blocksAfter_end]
      · cases hfault : Utf8.fault? line with
        | some fault =>
            exact ⟨[], some (.brokenText fault), by simp [hempty],
              by simp [hempty, blocksAfter_cut]⟩
        | none =>
            have hline : line ≠ [] := by simpa using hempty
            refine ⟨[line], none, by simp [hempty], ?_⟩
            simp [hempty, blocksAfter_line parts none hline, blocksAfter_end]

/-- A framer in the middle of a line and of a block gives the blocks in the lines that
it would give if it framed them singly. -/
theorem run_block (content line : Bytes) (parts : List Bytes) (failure : Option IoError) :
    ∃ lines outcome,
      (Framer.mk false line []).run failure [content] = (lines.map .single, outcome) ∧
        (Framer.mk true line parts).run failure [content] =
          ((blocksAfter parts lines outcome).map .mk, outcome) := by
  induction content generalizing line parts with
  | nil =>
      rw [run_cons_nil, run_cons_nil, ← line.reverse_reverse]
      exact run_block_end line.reverse parts failure
  | cons b rest ih =>
      rw [run_cons_cons, run_cons_cons]
      by_cases hnewline : b = newline
      · simp only [feed, if_pos hnewline, takeLine]
        generalize (dropReturn line).reverse = taken
        cases hfault : Utf8.fault? taken with
        | some fault =>
            exact ⟨[], some (.brokenText fault), by simp, by simp [blocksAfter_cut]⟩
        | none =>
            by_cases hempty : taken = []
            · obtain ⟨lines, outcome, hsingly, hblocks⟩ := ih [] []
              refine ⟨[] :: lines, outcome, by simp [hsingly, hempty], ?_⟩
              rw [blocksAfter_nil_left] at hblocks
              by_cases hparts : parts = [] <;>
                simp [hempty, closeBlock, hblocks, hparts, blocksAfter_empty]
            · obtain ⟨lines, outcome, hsingly, hblocks⟩ := ih [] (taken :: parts)
              refine ⟨taken :: lines, outcome, by simp [hsingly], ?_⟩
              rw [blocksAfter_line parts outcome hempty]
              simp [hempty, hblocks]
      · simp only [feed, if_neg hnewline]
        simpa using ih (b :: line) parts

end Framer

/-- Bytes are framed to the blocks in their lines, up to the same error. -/
theorem frame_blocksOf (chunks : List Bytes) (failure : Option IoError) :
    ∃ lines outcome, frame false chunks failure = (lines.map .single, outcome) ∧
      frame true chunks failure = ((blocksOf lines outcome).map .mk, outcome) := by
  obtain ⟨lines, outcome, hsingly, hblocks⟩ := Framer.run_block chunks.flatten [] [] failure
  rw [blocksAfter_nil_left] at hblocks
  refine ⟨lines, outcome, ?_, ?_⟩
  · rw [frame, Framer.run_eq_run_flatten, hsingly]
  · rw [frame, Framer.run_eq_run_flatten, hblocks]

/-! ## Runs of lines -/

theorem flatten_splitOn (lines : List Bytes) :
    (lines.splitOn []).flatten = lines.filter (· ≠ []) := by
  induction lines with
  | nil => simp
  | cons line rest ih =>
      rw [List.splitOn_cons_eq_if_modifyHead]
      obtain ⟨first, later, hrest⟩ :=
        List.exists_cons_of_ne_nil (List.splitOn_ne_nil ([] : Bytes) rest)
      by_cases hempty : line = [] <;> simp_all

/-- A block has a line, and no line of a block is empty. -/
theorem ne_nil_of_mem_blocksOf {lines block : List Bytes} {failure : Option IoError}
    (hblock : block ∈ blocksOf lines failure) : block ≠ [] ∧ ∀ line ∈ block, line ≠ [] := by
  simp only [blocksOf, ne_eq, List.mem_filter, decide_not, Bool.not_eq_true',
    decide_eq_false_iff_not] at hblock
  obtain ⟨hmem, hnonempty⟩ := hblock
  have hrun : block ∈ lines.splitOn [] := by
    split at hmem
    · exact List.dropLast_subset _ hmem
    · exact hmem
  refine ⟨hnonempty, fun line hline => ?_⟩
  rintro rfl
  exact not_mem_of_mem_splitOn hrun hline

/-- Lines that no error cuts short are all in blocks, but for the empty ones. -/
theorem flatten_blocksOf (lines : List Bytes) :
    (blocksOf lines none).flatten = lines.filter (· ≠ []) := by
  rw [← flatten_splitOn, blocksOf]
  exact List.flatten_filter_ne_nil

/-! ## Blocks written out -/

/-- Whether lines can be written out as a block: there is one, and each is a text that
is not empty, has no newline and does not end with a carriage return. -/
structure IsBlock (lines : List Bytes) : Prop where
  nonempty : lines ≠ []
  filled : ∀ line ∈ lines, line ≠ []
  text : ∀ line ∈ lines, Utf8.IsText line
  unbroken : ∀ line ∈ lines, newline ∉ line
  unreturned : ∀ line ∈ lines, line.getLast? ≠ some carriageReturn

/-- A block to be written out, with so many empty lines after it. -/
structure SpacedBlock where
  lines : List Bytes
  gap : Nat
  isBlock : IsBlock lines

/-- Blocks to be written out below some empty lines, with one at least between two of
them. -/
structure Layout where
  above : Nat
  blocks : List SpacedBlock
  apart : ∀ block ∈ blocks.dropLast, 0 < block.gap

namespace Layout

/-- The lines of a layout from the top to the bottom. -/
def lines (layout : Layout) : List Bytes :=
  List.replicate layout.above [] ++
    layout.blocks.flatMap fun block => block.lines ++ List.replicate block.gap []

/-- The lines of a layout, each with a newline after it. -/
def written (layout : Layout) : Bytes := layout.lines.flatMap (· ++ [newline])

end Layout

theorem blocksOf_replicate (count : Nat) (rest : List Bytes) :
    blocksOf (List.replicate count [] ++ rest) none = blocksOf rest none := by
  induction count with
  | zero => rfl
  | succ count ih =>
      have hempty := blocksAfter_empty [] none (List.replicate count [] ++ rest)
      rw [blocksAfter_nil_left, ih] at hempty
      simpa [List.replicate_succ] using hempty

theorem blocksOf_block {block : List Bytes} (hnonempty : block ≠ [])
    (hfilled : ∀ line ∈ block, line ≠ []) : blocksOf block none = [block] := by
  have hrun : block.splitOn [] = [block] :=
    List.splitOn_eq_singleton fun hmem => hfilled [] hmem rfl
  simp [blocksOf, hrun, hnonempty]

theorem blocksOf_block_append {block : List Bytes} (hnonempty : block ≠ [])
    (hfilled : ∀ line ∈ block, line ≠ []) (rest : List Bytes) :
    blocksOf (block ++ [] :: rest) none = block :: blocksOf rest none := by
  have hruns : (block ++ [] :: rest).splitOn [] = block :: rest.splitOn [] :=
    List.splitOn_append_cons_self_of_not_mem (fun hmem => hfilled [] hmem rfl) rest
  simp [blocksOf, hruns, hnonempty]

/-- The blocks in the lines of a layout are its blocks. -/
theorem blocksOf_spaced {blocks : List SpacedBlock}
    (hapart : ∀ block ∈ blocks.dropLast, 0 < block.gap) :
    blocksOf (blocks.flatMap fun block => block.lines ++ List.replicate block.gap []) none =
      blocks.map SpacedBlock.lines := by
  induction blocks with
  | nil => simp [blocksOf]
  | cons block rest ih =>
      have hblock := block.isBlock
      rw [List.flatMap_cons, List.map_cons]
      cases hgap : block.gap with
      | zero =>
          obtain rfl : rest = [] := by
            by_contra hrest
            have := hapart block (by simp [List.dropLast_cons_of_ne_nil hrest])
            omega
          simpa using blocksOf_block hblock.nonempty hblock.filled
      | succ gap =>
          have hrest : ∀ block ∈ rest.dropLast, 0 < block.gap := fun other hother =>
            hapart other (by
              obtain ⟨next, later, rfl⟩ := List.exists_cons_of_ne_nil
                (List.ne_nil_of_mem (List.dropLast_subset _ hother))
              simp [hother])
          rw [List.replicate_succ, List.append_assoc, List.cons_append,
            blocksOf_block_append hblock.nonempty hblock.filled, blocksOf_replicate, ih hrest]

namespace Layout

variable (layout : Layout)

theorem isLine_of_mem {property : Bytes → Prop} (hempty : property [])
    (hblocks : ∀ block ∈ layout.blocks, ∀ line ∈ block.lines, property line) :
    ∀ line ∈ layout.lines, property line := by
  intro line hline
  simp only [lines, List.mem_append, List.mem_flatMap, List.mem_replicate] at hline
  rcases hline with ⟨-, rfl⟩ | ⟨block, hblock, hmem | ⟨-, rfl⟩⟩
  · exact hempty
  · exact hblocks block hblock line hmem
  · exact hempty

theorem blocksOf_lines : blocksOf layout.lines none = layout.blocks.map SpacedBlock.lines := by
  rw [lines, blocksOf_replicate, blocksOf_spaced layout.apart]

/-- The blocks of a layout that is written out are what it is framed to. -/
theorem frame_written {chunks : List Bytes} (hwritten : chunks.flatten = layout.written) :
    frame true chunks none = (layout.blocks.map fun block => ⟨block.lines⟩, none) := by
  have hsingly : frame false chunks none = (layout.lines.map .single, none) := by
    rw [frame, Framer.run_eq_run_flatten, run_single, hwritten]
    apply framedSingly_flatMap_newline
    · exact layout.isLine_of_mem (by simp) fun block _ => block.isBlock.unbroken
    · exact layout.isLine_of_mem (by simp) fun block _ => block.isBlock.unreturned
    · exact layout.isLine_of_mem Utf8.IsText.nil fun block _ => block.isBlock.text
  obtain ⟨lines, outcome, hother, hblocks⟩ := frame_blocksOf chunks none
  rw [hsingly, Prod.mk.injEq] at hother
  obtain ⟨hmap, rfl⟩ := hother
  obtain rfl : layout.lines = lines :=
    List.map_injective_iff.mpr (fun first second heq => by simpa [Message.single] using heq) hmap
  rw [hblocks, layout.blocksOf_lines, List.map_map]
  rfl

end Layout

/-- How bytes that come in chunks, and then end or fail, are framed in blocks. -/
structure FramesInBlocks (chunks : List Bytes) (failure : Option IoError) : Prop where
  /-- The blocks are those in the lines that the bytes are framed to singly, and the
  same error ends them. -/
  grouped : ∃ lines outcome, frame false chunks failure = (lines.map .single, outcome) ∧
    frame true chunks failure = ((blocksOf lines outcome).map .mk, outcome)
  filled : ∀ message ∈ (frame true chunks failure).1,
    message.parts ≠ [] ∧ ∀ part ∈ message.parts, part ≠ []
  /-- Where no error comes nothing is lost but the empty lines. -/
  complete : (frame false chunks failure).2 = none →
    (frame true chunks failure).1.flatMap Message.parts =
      ((frame false chunks failure).1.flatMap Message.parts).filter (· ≠ [])
  /-- It is what pulling at a source that reads the chunks gives. -/
  own : ∀ stdin messages outcome,
    Source.Yields stdin (.lines { multipart := true } [] (.own ⟨chunks, .after failure⟩))
        messages outcome ↔
      frame true chunks failure = (messages, outcome)
  standard : ∀ messages outcome,
    Source.Yields ⟨chunks, .after failure⟩ (.lines { multipart := true } [] .standard)
        messages outcome ↔
      frame true chunks failure = (messages, outcome)
  /-- Blocks that were written out are found again. -/
  written : failure = none → ∀ layout : Layout, chunks.flatten = layout.written →
    frame true chunks failure = (layout.blocks.map fun block => ⟨block.lines⟩, none)

theorem frame_blockwise (chunks : List Bytes) (failure : Option IoError) :
    FramesInBlocks chunks failure := by
  obtain ⟨lines, outcome, hsingly, hblocks⟩ := frame_blocksOf chunks failure
  refine ⟨⟨lines, outcome, hsingly, hblocks⟩, ?_, ?_, ?_, ?_, ?_⟩
  · intro message hmessage
    rw [hblocks] at hmessage
    obtain ⟨block, hblock, rfl⟩ := List.mem_map.mp hmessage
    exact ne_nil_of_mem_blocksOf hblock
  · intro hsound
    rw [hsingly] at hsound
    obtain rfl : outcome = none := hsound
    have hparts : ∀ blocks : List (List Bytes),
        (blocks.map Message.mk).flatMap Message.parts = blocks.flatten := by
      simp [List.flatMap_map, List.flatMap_id']
    have hsingles : (lines.map Message.single).flatMap Message.parts = lines := by
      simp [List.flatMap_map, Message.single]
    rw [hblocks, hsingly, hparts, hsingles, flatten_blocksOf]
  · exact fun _ _ _ => Source.yields_frame_iff rfl
  · exact fun _ _ => Source.yields_frame_iff rfl
  · rintro rfl layout hwritten
    exact layout.frame_written hwritten

/-- An empty line may end with a carriage return, there may be several, and the last
block needs none. -/
example :
    frame true [[0x0A, 0x61, 0x0A, 0x62], [0x0D, 0x0A, 0x0D], [0x0A, 0x0A, 0x63]] none =
      ([⟨[[0x61], [0x62]]⟩, ⟨[[0x63]]⟩], none) := by
  decide +kernel

/-- A block that an error cuts short is lost. -/
example :
    frame true [[0x61, 0x0A, 0x0A, 0x62, 0x0A, 0xFF, 0x0A]] none =
      ([⟨[[0x61]]⟩], some (.brokenText ⟨0, some 1⟩)) := by
  decide +kernel

end Intake
