import FiveStage.Proofs.Asm.Accounting

/-!
# Where the statements of a text are placed

The place of a statement is read off the lines alone: the number of its line, and how many
statements are on lines before (`statements_ofRows`). What is on a line has a say in it only through
its label and through whether it has a statement at all.

So a line can be exchanged for one with the same label and another statement, and the layout of the
text is the same but for this statement (`Akin.exchanges`). That is what lets properties of one line
be shown without looking at the others.
-/

namespace FiveStage.Asm

open Text

/-! ## The text as its lines -/

section

variable {source : String} {ls : List SourceLine} {k : Nat} {line : SourceLine}
  {change : SourceLine → SourceLine}

/-- Lines as one text, with line feeds between them. -/
def unlines (ls : List SourceLine) : String := String.ofList (['\n'].intercalate ls)

/-- The text with one of its lines changed. Lines are counted from zero. -/
def modifyLine (source : String) (k : Nat) (change : SourceLine → SourceLine) : String :=
  unlines ((lines source).modify k change)

theorem lines_unlines (hne : ls ≠ []) (hinline : ∀ line ∈ ls, '\n' ∉ line) :
    lines (unlines ls) = ls := by
  rw [lines, unlines, String.toList_ofList, List.splitOn_intercalate _ hinline hne]

theorem notMem_of_mem_splitOn {c : Char} {s piece : List Char} (h : piece ∈ s.splitOn c) :
    c ∉ piece := by
  induction s generalizing piece with
  | nil =>
      rw [List.splitOn_nil, List.mem_singleton] at h
      rw [h]
      exact List.not_mem_nil
  | cons d s ih =>
      rw [List.splitOn_cons_eq_if_modifyHead] at h
      split at h
      · obtain rfl | h := List.mem_cons.1 h
        · exact List.not_mem_nil
        · exact ih h
      · rename_i hother
        obtain ⟨first, rest, hsplit⟩ := List.exists_cons_of_ne_nil (List.splitOn_ne_nil c s)
        rw [hsplit, List.modifyHead_cons] at h
        obtain rfl | h := List.mem_cons.1 h
        · have hfirst : c ∉ first := ih (hsplit ▸ List.mem_cons_self)
          have hne : c ≠ d := fun heq => hother (beq_iff_eq.2 heq.symm)
          exact List.not_mem_cons_of_ne_of_not_mem hne hfirst
        · exact ih (hsplit ▸ List.mem_cons_of_mem _ h)

theorem newline_notMem_of_mem_lines (h : line ∈ lines source) : '\n' ∉ line :=
  notMem_of_mem_splitOn h

theorem lines_modifyLine (hline : (lines source)[k]? = some line) (hinline : '\n' ∉ change line) :
    lines (modifyLine source k change) =
      (lines source).take k ++ change line :: (lines source).drop (k + 1) := by
  obtain ⟨hk, rfl⟩ := List.getElem?_eq_some_iff.1 hline
  have hmodify := List.modify_eq_take_cons_drop (f := change) hk
  rw [modifyLine, lines_unlines, hmodify]
  · rw [hmodify]
    exact List.append_ne_nil_of_right_ne_nil _ (List.cons_ne_nil _ _)
  · rw [hmodify, List.forall_mem_append, List.forall_mem_cons]
    refine ⟨?_, hinline, ?_⟩
    · exact fun line hmem => newline_notMem_of_mem_lines (List.mem_of_mem_take hmem)
    · exact fun line hmem => newline_notMem_of_mem_lines (List.mem_of_mem_drop hmem)

/-- The lines around one of them. -/
theorem lines_eq_take_append (hline : (lines source)[k]? = some line) :
    lines source = (lines source).take k ++ line :: (lines source).drop (k + 1) := by
  obtain ⟨hk, rfl⟩ := List.getElem?_eq_some_iff.1 hline
  rw [← List.drop_eq_getElem_cons hk, List.take_append_drop]

end

/-! ## Places -/

/-- The statement of a line in its place behind other lines. -/
def SourceLine.placed (before : List SourceLine) (line : SourceLine) : Placed :=
  ⟨before.length + 1, statementCount before, trim line.code, trim line.body⟩

/-- The statements of lines in their places. -/
def placements : List SourceLine → List Placed :=
  perLine fun before line => if line.hasStatement then some (line.placed before) else none

theorem Layout.statements_addRow (layout : Layout) (row : Row) :
    (layout.addRow row).statements.toList =
      layout.statements.toList ++
        if row.statement = [] then []
        else [⟨row.line, layout.statements.size, row.text, row.statement⟩] := by
  have hlabelled : (row.label.elim layout (layout.addLabel row.line)).statements =
      layout.statements := by
    cases row.label with
    | none => rfl
    | some label => exact statements_addLabel layout row.line label
  rw [addRow, addStatement]
  split
  · rw [hlabelled, List.append_nil]
  · rw [hlabelled, Array.toList_push]

/-- A line without code adds nothing, and so does an empty row. -/
theorem foldl_ofLine? (layout : Layout) (number : Nat) (line : SourceLine) :
    (Row.ofLine? number line).toList.foldl Layout.addRow layout =
      layout.addRow (line.row number) := by
  rw [ofLine?_eq]
  split
  · rename_i hblank
    obtain ⟨hlabel, hbody⟩ := SourceLine.of_blank_code hblank
    rw [Layout.addRow, SourceLine.row, hlabel, hbody]
    exact (if_pos rfl).symm
  · rfl

/-- Statements are placed by what their lines say. -/
theorem statements_ofRows (ls : List SourceLine) :
    (Layout.ofRows (rowsFrom 1 ls)).statements.toList = placements ls := by
  induction ls using List.reverseRecOn with
  | nil => rfl
  | append_singleton ls line ih =>
      have hsize := (Layout.follows_ofRows ls).size
      rw [rowsFrom_concat, Layout.ofRows, List.foldl_append, ← Layout.ofRows, foldl_ofLine?,
        Layout.statements_addRow, ih, hsize, placements, perLine_concat]
      refine congrArg _ ?_
      cases hhas : line.hasStatement with
      | false => exact if_pos (SourceLine.trim_body_eq_nil_iff.2 hhas)
      | true =>
          refine if_neg fun hempty => ?_
          rw [SourceLine.trim_body_eq_nil_iff.1 hempty] at hhas
          contradiction

theorem length_placements (ls : List SourceLine) :
    (placements ls).length = statementCount ls := by
  rw [← statements_ofRows, Array.length_toList]
  exact (Layout.follows_ofRows ls).size

/-- An instruction of a listing comes of the statement of a line. -/
theorem exists_placed_of_mem {source : String} {listing : Listing} {instruction : Instruction}
    (h : assemble source = .ok listing) (hmem : instruction ∈ listing.instructions) :
    ∃ (k : Nat) (line : SourceLine), (lines source)[k]? = some line ∧ line.hasStatement = true ∧
      instruction.line = some ((k + 1 : Nat) : Int) ∧
        (line.placed ((lines source).take k)).outcome listing.labels =
          .instruction instruction := by
  obtain ⟨-, rfl⟩ := Layout.listing_eq_ok_iff.1 h
  obtain ⟨outcome, houtcome, hinstruction⟩ := List.mem_filterMap.1 hmem
  rw [Layout.outcomes, rows, statements_ofRows] at houtcome
  obtain ⟨placed, hplaced, rfl⟩ := List.mem_map.1 houtcome
  rw [Outcome.instruction?_eq_some_iff] at hinstruction
  obtain ⟨k, line, hline, hfound⟩ := mem_perLine_iff.1 hplaced
  split at hfound
  · rename_i hstatement
    obtain rfl := Option.some.inj hfound
    have hnumber := (Placed.place_of_outcome hinstruction).2
    have hbound := (List.getElem?_eq_some_iff.1 hline).1
    rw [SourceLine.placed, List.length_take_of_le hbound.le] at hnumber
    exact ⟨k, line, hline, hstatement, hnumber, hinstruction⟩
  · contradiction

theorem Labels.toList_injective {labels others : Labels} (h : labels.toList = others.toList) :
    labels = others :=
  congrArg Labels.mk (Array.toList_inj.1 h)

/-! ## Exchanging a line -/

/-- Lines with the same label, and both or neither with a statement. -/
structure SourceLine.Akin (line other : SourceLine) : Prop where
  label : other.label? = line.label?
  statement : other.hasStatement = line.hasStatement

/-- What is found on lines that stand behind others. -/
theorem perLine_append {α : Type} (find : List SourceLine → SourceLine → Option α)
    (before after : List SourceLine) :
    perLine find (before ++ after) =
      perLine find before ++ perLine (fun between => find (before ++ between)) after := by
  induction after using List.reverseRecOn with
  | nil => rw [List.append_nil, perLine_nil, List.append_nil]
  | append_singleton after line ih =>
      rw [← List.append_assoc, perLine_concat, perLine_concat, ih, List.append_assoc]

theorem perLine_append_cons {α : Type} (find : List SourceLine → SourceLine → Option α)
    (before after : List SourceLine) (line : SourceLine) :
    perLine find (before ++ line :: after) =
      perLine find before ++ (find before line).toList ++
        perLine (fun between => find (before ++ line :: between)) after := by
  rw [List.append_cons, perLine_append, perLine_concat]
  simp only [List.append_assoc, List.singleton_append]

/-- The same is found if neither the line itself nor a later one can tell the difference. -/
theorem perLine_exchange {α : Type} {find : List SourceLine → SourceLine → Option α}
    {before : List SourceLine} {line other : SourceLine}
    (hhere : find before other = find before line)
    (hlater : ∀ between later,
      find (before ++ other :: between) later = find (before ++ line :: between) later)
    (after : List SourceLine) :
    perLine find (before ++ other :: after) = perLine find (before ++ line :: after) := by
  rw [perLine_append_cons, perLine_append_cons, hhere,
    funext fun between => funext (hlater between)]

namespace SourceLine.Akin

variable {line other : SourceLine} (h : line.Akin other) (before between after : List SourceLine)

include h

theorem statementCount_eq :
    statementCount (before ++ other :: between) = statementCount (before ++ line :: between) := by
  simp only [statementCount, List.countP_append, List.countP_cons, h.statement]

theorem accepted?_eq (later : SourceLine) :
    later.accepted? (before ++ other :: between) = later.accepted? (before ++ line :: between) := by
  simp only [accepted?, List.all_append, List.all_cons, h.label]

theorem definitions_eq :
    definitions (before ++ other :: after) = definitions (before ++ line :: after) := by
  apply perLine_exchange
  · rw [accepted?, accepted?, h.label]
  · intro between later
    rw [h.accepted?_eq, h.statementCount_eq]

theorem labelDiagnostics_eq :
    labelDiagnostics (before ++ other :: after) = labelDiagnostics (before ++ line :: after) := by
  have haccepted : ∀ between, perLine accepted? (before ++ other :: between) =
      perLine accepted? (before ++ line :: between) := by
    intro between
    apply perLine_exchange
    · rw [accepted?, accepted?, h.label]
    · exact fun between later => h.accepted?_eq before between later
  apply perLine_exchange
  · rw [labelProblem?, labelProblem?, h.label]
  · intro between later
    rw [labelProblem?, labelProblem?, haccepted]
    simp only [List.length_append, List.length_cons]

/-- Other statements stay in their places. -/
theorem exists_placements (hstatement : line.hasStatement = true) :
    ∃ behind,
      placements (before ++ line :: after) = placements before ++ line.placed before :: behind ∧
        placements (before ++ other :: after) =
          placements before ++ other.placed before :: behind := by
  have hother : other.hasStatement = true := h.statement.trans hstatement
  have hlater : (fun between => fun later : SourceLine =>
        if later.hasStatement then some (later.placed (before ++ other :: between)) else none) =
      fun between later =>
        if later.hasStatement then some (later.placed (before ++ line :: between)) else none := by
    funext between later
    simp only [placed, h.statementCount_eq, List.length_append, List.length_cons]
  refine ⟨perLine (fun between later =>
    if later.hasStatement then some (later.placed (before ++ line :: between)) else none) after,
    ?_, ?_⟩
  · rw [placements, perLine_append_cons, if_pos hstatement, List.append_assoc]
    rfl
  · rw [placements, perLine_append_cons, if_pos hother, hlater, List.append_assoc]
    rfl

/-- The layout is the same but for the one statement, and so are the outcomes. -/
theorem exchanges (hstatement : line.hasStatement = true) :
    let layout := Layout.ofRows (rowsFrom 1 (before ++ line :: after))
    let exchanged := Layout.ofRows (rowsFrom 1 (before ++ other :: after))
    exchanged.labels = layout.labels ∧ exchanged.diagnostics = layout.diagnostics ∧
      ∃ front behind, front.length = statementCount before ∧
        layout.outcomes = front ++ (line.placed before).outcome layout.labels :: behind ∧
        exchanged.outcomes = front ++ (other.placed before).outcome layout.labels :: behind := by
  intro layout exchanged
  have hfollows := Layout.follows_ofRows (before ++ line :: after)
  have hexchanged := Layout.follows_ofRows (before ++ other :: after)
  have hlabels : exchanged.labels = layout.labels := by
    apply Labels.toList_injective
    rw [hexchanged.labels, h.definitions_eq, ← hfollows.labels]
  have hdiagnostics : exchanged.diagnostics = layout.diagnostics := by
    apply Array.toList_inj.1
    rw [hexchanged.diagnostics, h.labelDiagnostics_eq, ← hfollows.diagnostics]
  obtain ⟨behind, hplaces, hothers⟩ := h.exists_placements before after hstatement
  refine ⟨hlabels, hdiagnostics, (placements before).map (Placed.outcome layout.labels),
    behind.map (Placed.outcome layout.labels), ?_, ?_, ?_⟩
  · rw [List.length_map, length_placements]
  · rw [Layout.outcomes, statements_ofRows, hplaces, List.map_append, List.map_cons]
  · rw [Layout.outcomes, hlabels, statements_ofRows, hothers, List.map_append, List.map_cons]

end SourceLine.Akin

/-- If a line is changed to one with the same label and a statement, all other outcomes are those of
the old text. -/
theorem SourceLine.Akin.exchanges_modifyLine {source : String} {k : Nat} {line : SourceLine}
    (change : SourceLine → SourceLine) (h : line.Akin (change line))
    (hline : (lines source)[k]? = some line) (hinline : '\n' ∉ change line)
    (hstatement : line.hasStatement = true) :
    let layout := Layout.ofRows (rows source)
    let exchanged := Layout.ofRows (rows (modifyLine source k change))
    let before := (lines source).take k
    exchanged.labels = layout.labels ∧ exchanged.diagnostics = layout.diagnostics ∧
      ∃ front behind, front.length = statementCount before ∧
        layout.outcomes = front ++ (line.placed before).outcome layout.labels :: behind ∧
        exchanged.outcomes =
          front ++ ((change line).placed before).outcome layout.labels :: behind := by
  have hexchanges := h.exchanges ((lines source).take k) ((lines source).drop (k + 1)) hstatement
  rw [← lines_eq_take_append hline, ← lines_modifyLine hline hinline] at hexchanges
  exact hexchanges

end FiveStage.Asm
