import FiveStage.Proofs.Asm.Anatomy
import FiveStage.Proofs.Asm.Grammar

/-!
# Typography

How a text is set does not change what it means, also where it makes no sense. Each of its lines may
end in a line feed or in a carriage return and a line feed, there may be comments behind the lines
and white space around their code, and there may be more lines without code (`assemble_typography`).
Only lines that are added can be seen in a listing, and only in the numbers of lines.

A line is read by its trimmed code alone (`ofLine?_congr`), and that does not change if the line is
set in another way. Numbers of lines are carried along but never looked at: layout, outcomes and
listing commute with any renumbering of lines (`Layout.listing_renumber`).
-/

namespace FiveStage

/-- The instruction on a line with another number. -/
def Instruction.renumber (number : Nat → Nat) (instruction : Instruction) : Instruction :=
  { instruction with line := instruction.line.map fun line => (number line.toNat : Int) }

namespace Asm

open Text

/-! ## Setting a text -/

/-- The lines in one text, with ends of line between them, each of either kind. -/
inductive Joins : List SourceLine → List Char → Prop
  | nil : Joins [] []
  | last (line : SourceLine) : Joins [line] line
  | feed {lines : List SourceLine} {text : List Char} (line : SourceLine) :
    Joins lines text → Joins (line :: lines) (line ++ '\n' :: text)
  | returnFeed {lines : List SourceLine} {text : List Char} (line : SourceLine) :
    Joins lines text → Joins (line :: lines) (line ++ '\r' :: '\n' :: text)

/-- A line as it is, or with more on it that says nothing. -/
inductive Pads (line : SourceLine) : SourceLine → Prop
  | same : Pads line line
  | comment {remark : List Char} : '\n' ∉ remark → Pads line (line ++ '#' :: remark)
  | blanks {before behind : List Char} : IsGap before → IsGap behind →
    Pads line (before ++ line.code ++ behind ++ line.comment)

/-- A line that is empty but for white space and a comment. -/
structure SourceLine.Idle (line : SourceLine) : Prop where
  blank : Blank line.code
  inline : '\n' ∉ line

/-- The lines with further ones: some in front of every line, and some behind the last one. -/
def spread (gaps : Nat → List SourceLine) (lines : List SourceLine) : List SourceLine :=
  (lines.zipIdx.flatMap fun (line, k) => gaps k ++ [line]) ++ gaps lines.length

/-- How many lines are added in front of the line with a number, which is counted from one. -/
def addedBefore (gaps : Nat → List SourceLine) (number : Nat) : Nat :=
  ((List.range number).flatMap gaps).length

/-! ## Renumbering lines -/

def Row.renumber (number : Nat → Nat) (row : Row) : Row := { row with line := number row.line }

def Diagnostic.renumber (number : Nat → Nat) (diagnostic : Diagnostic) : Diagnostic :=
  { diagnostic with line := number diagnostic.line }

def Placed.renumber (number : Nat → Nat) (placed : Placed) : Placed :=
  { placed with line := number placed.line }

def Layout.renumber (number : Nat → Nat) (layout : Layout) : Layout where
  labels := layout.labels
  diagnostics := layout.diagnostics.map (Diagnostic.renumber number)
  statements := layout.statements.map (Placed.renumber number)

def Outcome.renumber (number : Nat → Nat) : Outcome → Outcome
  | .instruction decoded => .instruction (decoded.renumber number)
  | .diagnostic found => .diagnostic (found.renumber number)
  | .fault cause => .fault cause

/-- The listing of the same lines with other numbers. -/
def Listing.renumber (number : Nat → Nat) (listing : Listing) : Listing where
  instructions := listing.instructions.map (Instruction.renumber number)
  diagnostics := listing.diagnostics.map (Diagnostic.renumber number)
  labels := listing.labels

section

variable (number : Nat → Nat)

theorem Layout.addLabel_renumber (layout : Layout) (line : Nat) (label : List Char) :
    (layout.renumber number).addLabel (number line) label =
      (layout.addLabel line label).renumber number := by
  have hsize : (layout.renumber number).statements.size = layout.statements.size :=
    Array.size_map
  have hlabels : (layout.renumber number).labels = layout.labels := rfl
  simp only [addLabel, hsize, hlabels]
  split
  · simp [report, renumber, Diagnostic.renumber]
  · split
    · simp [report, renumber, Diagnostic.renumber]
    · rfl

theorem Layout.addStatement_renumber (layout : Layout) (row : Row) :
    (layout.renumber number).addStatement (row.renumber number) =
      (layout.addStatement row).renumber number := by
  have hsize : (layout.renumber number).statements.size = layout.statements.size :=
    Array.size_map
  have hstatement : (row.renumber number).statement = row.statement := rfl
  rw [addStatement, addStatement, hsize, hstatement]
  split
  · rfl
  · simp [renumber, Row.renumber, Placed.renumber]

theorem Layout.addRow_renumber (layout : Layout) (row : Row) :
    (layout.renumber number).addRow (row.renumber number) =
      (layout.addRow row).renumber number := by
  rw [addRow, addRow, ← addStatement_renumber]
  congr 1
  cases hlabel : row.label with
  | none => simp [Row.renumber, hlabel]
  | some label => simp [Row.renumber, hlabel, addLabel_renumber]

theorem Layout.ofRows_renumber (rows : List Row) :
    ofRows (rows.map (Row.renumber number)) = (ofRows rows).renumber number := by
  induction rows using List.reverseRecOn with
  | nil => simp [renumber]
  | append_singleton rows row ih =>
      rw [List.map_append, List.map_singleton, ofRows_concat, ofRows_concat, ih, addRow_renumber]

theorem Statement.instruction_renumber (statement : Statement) (labels : Labels) (pc : Int)
    (text : String) (line : Nat) :
    statement.instruction labels pc text (number line) =
      (statement.instruction labels pc text line).map (Instruction.renumber number) := by
  cases statement with
  | branch rs rt target =>
      simp only [instruction]
      split <;> rfl
  | _ => rfl

theorem Placed.outcome_renumber (labels : Labels) (placed : Placed) :
    (placed.renumber number).outcome labels = (placed.outcome labels).renumber number := by
  simp only [outcome, renumber]
  split
  · rfl
  · rfl
  · rename_i statement _
    rw [Statement.instruction_renumber]
    have hpc : Placed.pc (placed.renumber number) = placed.pc := rfl
    rw [renumber] at hpc
    rw [hpc]
    cases statement.instruction labels placed.pc (String.ofList placed.text) placed.line <;> rfl

theorem Layout.outcomes_renumber (layout : Layout) :
    (layout.renumber number).outcomes = layout.outcomes.map (Outcome.renumber number) := by
  rw [outcomes, outcomes, renumber, Array.toList_map, List.map_map, List.map_map]
  exact List.map_congr_left fun placed _ => Placed.outcome_renumber number layout.labels placed

theorem Outcome.fault?_renumber (outcome : Outcome) :
    (outcome.renumber number).fault? = outcome.fault? := by
  cases outcome <;> rfl

theorem Outcome.instruction?_renumber (outcome : Outcome) :
    (outcome.renumber number).instruction? =
      outcome.instruction?.map (Instruction.renumber number) := by
  cases outcome <;> rfl

theorem Outcome.diagnostic?_renumber (outcome : Outcome) :
    (outcome.renumber number).diagnostic? =
      outcome.diagnostic?.map (Diagnostic.renumber number) := by
  cases outcome <;> rfl

/-- A listing is made without looking at the numbers of lines. -/
theorem Layout.listing_renumber (layout : Layout) :
    (layout.renumber number).listing = layout.listing.map (Listing.renumber number) := by
  have hfault : (layout.renumber number).outcomes.findSome? Outcome.fault? =
      layout.outcomes.findSome? Outcome.fault? := by
    rw [outcomes_renumber, List.findSome?_map]
    exact congrArg (List.findSome? · _) (funext (Outcome.fault?_renumber number))
  rw [listing, listing, hfault]
  cases layout.outcomes.findSome? Outcome.fault? with
  | some fault => rfl
  | none =>
      have hinstructions : (layout.renumber number).outcomes.filterMap Outcome.instruction? =
          (layout.outcomes.filterMap Outcome.instruction?).map (Instruction.renumber number) := by
        rw [outcomes_renumber, List.filterMap_map, List.map_filterMap]
        exact List.filterMap_congr fun outcome _ => outcome.instruction?_renumber number
      have hdiagnostics : (layout.renumber number).outcomes.filterMap Outcome.diagnostic? =
          (layout.outcomes.filterMap Outcome.diagnostic?).map (Diagnostic.renumber number) := by
        rw [outcomes_renumber, List.filterMap_map, List.map_filterMap]
        exact List.filterMap_congr fun outcome _ => outcome.diagnostic?_renumber number
      simp only [hinstructions, hdiagnostics, Except.map, Listing.renumber, List.map_append]
      rw [renumber, Array.toList_map]

end

/-! ## Lines that are set in another way -/

section

variable {line other : SourceLine} {lines padded : List SourceLine} {text : List Char}
  {gaps : Nat → List SourceLine}

/-- A line is read by its trimmed code. -/
theorem ofLine?_congr (h : trim other.code = trim line.code) (number : Nat) :
    Row.ofLine? number other = Row.ofLine? number line := by
  have hother : trim (other.takeWhile (· != '#')) = trim (line.takeWhile (· != '#')) := h
  simp only [Row.ofLine?, hother]

/-- What is added at the end of a line is not read if there is only white space in front of its
comment. -/
theorem SourceLine.trim_code_append (line : SourceLine) {s : SourceLine} (h : Blank s.code) :
    trim (code (line ++ s)) = trim line.code := by
  by_cases hcomment : '#' ∈ line
  · obtain ⟨front, remark, rfl, hfront⟩ := List.eq_append_cons_of_mem hcomment
    rw [code, code, List.append_assoc, List.cons_append, takeWhile_bne_append hfront,
      takeWhile_bne_append hfront]
  · have hline : ∀ c ∈ line, (c != '#') = true := fun c hc =>
      bne_iff_ne.2 (ne_of_mem_of_not_mem hc hcomment)
    rw [code, code, List.takeWhile_append_of_pos hline, List.takeWhile_eq_self_iff.2 hline]
    exact trim_append_blank h line

theorem Pads.trim_code (h : Pads line other) : trim other.code = trim line.code := by
  cases h with
  | same => rfl
  | comment hremark => exact line.trim_code_append Blank.nil
  | blanks hbefore hbehind =>
      rename_i before behind
      have hcode : '#' ∉ before ++ line.code ++ behind := by
        simp only [List.mem_append, not_or]
        exact ⟨⟨notMem_of_blank (by decide) hbefore.blank, line.hash_notMem_code⟩,
          notMem_of_blank (by decide) hbehind.blank⟩
      rw [line.code_append hcode, trim_append_blank hbehind.blank,
        trim_append_of_blank hbefore.blank]

theorem Pads.inline (h : Pads line other) (hline : '\n' ∉ line) : '\n' ∉ other := by
  cases h with
  | same => exact hline
  | comment hremark =>
      simp only [List.mem_append, List.mem_cons, not_or]
      exact ⟨hline, by decide, hremark⟩
  | blanks hbefore hbehind =>
      rw [← line.code_append_comment, List.mem_append, not_or] at hline
      simp only [List.mem_append, not_or]
      exact ⟨⟨⟨hbefore.inline, hline.1⟩, hbehind.inline⟩, hline.2⟩

/-- Lines give the same rows if they are padded. -/
theorem rowsFrom_padded (h : List.Forall₂ Pads lines padded) (first : Nat) :
    rowsFrom first padded = rowsFrom first lines := by
  induction h generalizing first with
  | nil => rfl
  | cons hpads _ ih => rw [rowsFrom_cons, rowsFrom_cons, ih, ofLine?_congr hpads.trim_code]

theorem newline_notMem_padded (h : List.Forall₂ Pads lines padded)
    (hinline : ∀ line ∈ lines, '\n' ∉ line) : ∀ line ∈ padded, '\n' ∉ line := by
  induction h with
  | nil => exact hinline
  | cons hpads _ ih =>
      obtain ⟨hline, hlines⟩ := List.forall_mem_cons.1 hinline
      exact List.forall_mem_cons.2 ⟨hpads.inline hline, ih hlines⟩

theorem rowsFrom_idle (h : ∀ line ∈ lines, SourceLine.Idle line) (first : Nat) :
    rowsFrom first lines = [] := by
  induction lines generalizing first with
  | nil => rfl
  | cons line lines ih =>
      obtain ⟨hidle, hrest⟩ := List.forall_mem_cons.1 h
      rw [rowsFrom_cons, ih hrest, ofLine?_eq, if_pos (trim_of_blank hidle.blank)]
      rfl

/-- A text is cut where its lines were joined, and returns are dropped with the white space. -/
theorem rowsFrom_splitOn (h : Joins lines text) (hinline : ∀ line ∈ lines, '\n' ∉ line)
    (first : Nat) : rowsFrom first (text.splitOn '\n') = rowsFrom first lines := by
  induction h generalizing first with
  | nil => rfl
  | last line => rw [List.splitOn_eq_singleton (hinline line List.mem_cons_self)]
  | feed line _ ih =>
      obtain ⟨hline, hlines⟩ := List.forall_mem_cons.1 hinline
      rw [List.splitOn_append_cons_self_of_not_mem hline, rowsFrom_cons, rowsFrom_cons, ih hlines]
  | returnFeed line _ ih =>
      obtain ⟨hline, hlines⟩ := List.forall_mem_cons.1 hinline
      have hreturned : '\n' ∉ line ++ ['\r'] := by
        rw [List.mem_append, not_or]
        exact ⟨hline, by decide⟩
      have hblank : Blank (SourceLine.code ['\r']) := List.forall_mem_singleton.2 (by decide)
      rw [List.append_cons, List.splitOn_append_cons_self_of_not_mem hreturned, rowsFrom_cons,
        rowsFrom_cons, ih hlines, ofLine?_congr (line.trim_code_append hblank)]

theorem rows_of_joins (h : Joins lines text) (hinline : ∀ line ∈ lines, '\n' ∉ line) :
    rows (String.ofList text) = rowsFrom 1 lines := by
  rw [rows, Asm.lines, String.toList_ofList]
  exact rowsFrom_splitOn h hinline 1

/-! ## Further lines -/

theorem ofLine?_renumber (number : Nat → Nat) (n : Nat) (line : SourceLine) :
    Row.ofLine? (number n) line = (Row.ofLine? n line).map (Row.renumber number) := by
  rw [ofLine?_eq, ofLine?_eq]
  split <;> rfl

theorem addedBefore_succ (gaps : Nat → List SourceLine) (number : Nat) :
    addedBefore gaps (number + 1) = addedBefore gaps number + (gaps number).length := by
  rw [addedBefore, List.range_succ, List.flatMap_append, List.length_append,
    List.flatMap_singleton, addedBefore]

/-- With the lines in front of every line, each line is as far behind as lines are added. -/
theorem rowsFrom_flatMap (hidle : ∀ k, ∀ line ∈ gaps k, SourceLine.Idle line) :
    (lines.zipIdx.flatMap fun (line, k) => gaps k ++ [line]).length =
        lines.length + addedBefore gaps lines.length ∧
      rowsFrom 1 (lines.zipIdx.flatMap fun (line, k) => gaps k ++ [line]) =
        (rowsFrom 1 lines).map (Row.renumber fun n => n + addedBefore gaps n) := by
  induction lines using List.reverseRecOn with
  | nil => exact ⟨rfl, rfl⟩
  | append_singleton lines line ih =>
      obtain ⟨hlength, hrows⟩ := ih
      rw [List.zipIdx_append, List.flatMap_append, List.zipIdx_singleton, List.flatMap_singleton,
        Nat.zero_add, ← List.append_assoc]
      constructor
      · rw [List.length_append, List.length_append, List.length_append, hlength,
          List.length_singleton, addedBefore_succ]
        omega
      · have hnumber : (lines.zipIdx.flatMap fun (line, k) => gaps k ++ [line]).length +
            (gaps lines.length).length + 1 =
              lines.length + 1 + addedBefore gaps (lines.length + 1) := by
          rw [hlength, addedBefore_succ]
          omega
        rw [rowsFrom_concat, rowsFrom_append, rowsFrom_idle (hidle _), List.append_nil, hrows,
          List.length_append, hnumber, rowsFrom_concat, List.map_append]
        rw [ofLine?_renumber fun n => n + addedBefore gaps n, Option.toList_map]

theorem rowsFrom_spread (hidle : ∀ k, ∀ line ∈ gaps k, SourceLine.Idle line) :
    rowsFrom 1 (spread gaps lines) =
      (rowsFrom 1 lines).map (Row.renumber fun n => n + addedBefore gaps n) := by
  rw [spread, rowsFrom_append, (rowsFrom_flatMap hidle).2, rowsFrom_idle (hidle _), List.append_nil]

theorem newline_notMem_spread (hinline : ∀ line ∈ lines, '\n' ∉ line)
    (hidle : ∀ k, ∀ line ∈ gaps k, SourceLine.Idle line) :
    ∀ line ∈ spread gaps lines, '\n' ∉ line := by
  intro line hmem
  obtain hmem | hmem := List.mem_append.1 hmem
  · obtain ⟨⟨own, k⟩, hown, hmem⟩ := List.mem_flatMap.1 hmem
    obtain hmem | hmem := List.mem_append.1 hmem
    · exact (hidle k line hmem).inline
    · rw [List.mem_singleton.1 hmem]
      exact hinline own (List.fst_mem_of_mem_zipIdx hown)
  · exact (hidle _ line hmem).inline

end

/-! ## Texts -/

/-- Nothing in a text depends on how its lines end, on comments behind lines and on white space
around their code. Further lines without code show in the numbers of lines, and nowhere else. This
is true of diagnostics and faults as it is of instructions. -/
theorem assemble_typography {lines : List SourceLine} {text : List Char}
    (hinline : ∀ line ∈ lines, '\n' ∉ line) (htext : Joins lines text) :
    (∀ other, Joins lines other →
        assemble (String.ofList other) = assemble (String.ofList text)) ∧
      (∀ padded other, List.Forall₂ Pads lines padded → Joins padded other →
        assemble (String.ofList other) = assemble (String.ofList text)) ∧
      ∀ (gaps : Nat → List SourceLine) (other : List Char),
        (∀ k, ∀ line ∈ gaps k, SourceLine.Idle line) → Joins (spread gaps lines) other →
          assemble (String.ofList other) =
            (assemble (String.ofList text)).map
              (Listing.renumber fun n => n + addedBefore gaps n) := by
  have hrows := rows_of_joins htext hinline
  refine ⟨?_, ?_, ?_⟩
  · intro other hother
    rw [assemble, assemble, rows_of_joins hother hinline, hrows]
  · intro padded other hpads hother
    rw [assemble, assemble, rows_of_joins hother (newline_notMem_padded hpads hinline), hrows,
      rowsFrom_padded hpads]
  · intro gaps other hidle hother
    rw [assemble, assemble, rows_of_joins hother (newline_notMem_spread hinline hidle), hrows,
      rowsFrom_spread hidle, Layout.ofRows_renumber, Layout.listing_renumber]

/-- A note and an empty line in front of the second line. -/
def noteGaps : Nat → List SourceLine
  | 1 => [" # unknown".toList, []]
  | _ => []

/-- Both statements are wrong. The second one is two lines further down behind the note, and it does
not matter that a line ends in a carriage return. -/
theorem assemble_respaced :
    (assemble "MUL R1, R2\r\n # unknown\n\nBEQ R0, R0, end").map (·.diagnostics.map (·.line)) =
      .ok [1, 4] := by
  have hinline : ∀ line ∈ ["MUL R1, R2".toList, "BEQ R0, R0, end".toList], '\n' ∉ line := by
    decide
  have htext : Joins ["MUL R1, R2".toList, "BEQ R0, R0, end".toList]
      ("MUL R1, R2".toList ++ '\n' :: "BEQ R0, R0, end".toList) := .feed _ (.last _)
  have hother : Joins (spread noteGaps ["MUL R1, R2".toList, "BEQ R0, R0, end".toList])
      ("MUL R1, R2".toList ++ '\r' :: '\n' ::
        (" # unknown".toList ++ '\n' :: ([] ++ '\n' :: "BEQ R0, R0, end".toList))) :=
    .returnFeed _ (.feed _ (.feed _ (.last _)))
  have hidle : ∀ k, ∀ line ∈ noteGaps k, SourceLine.Idle line := by
    have hnote : SourceLine.Idle " # unknown".toList :=
      ⟨List.forall_mem_singleton.2 (by decide), by decide⟩
    intro k line hmem
    match k, hmem with
    | 1, hmem =>
        obtain rfl | hmem := List.mem_cons.1 hmem
        · exact hnote
        · rw [List.mem_singleton.1 hmem]
          exact ⟨.nil, List.not_mem_nil⟩
  have hshifted := (assemble_typography hinline htext).2.2 noteGaps _ hidle hother
  have htexts : "MUL R1, R2\r\n # unknown\n\nBEQ R0, R0, end" = String.ofList
      ("MUL R1, R2".toList ++ '\r' :: '\n' ::
        (" # unknown".toList ++ '\n' :: ([] ++ '\n' :: "BEQ R0, R0, end".toList))) := by
    decide
  rw [htexts, hshifted]
  decide +kernel

end Asm

end FiveStage
