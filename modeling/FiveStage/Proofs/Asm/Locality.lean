import FiveStage.Proofs.Asm.Placement

/-!
# A statement is judged on its own

What is wrong with one statement has no effect on another one. If the statement of a line is
replaced, and the label and the comment of the line stay, then all labels are the same, and every
other line gives the same instruction or the same diagnostics (`assemble_withBody`). It makes no
difference whether the old or the new statement is an instruction, or which labels it refers to.

Both texts have to have a listing. A statement that faults leaves no listing to compare.
-/

namespace FiveStage.Asm

open Text

/-! ## Lines with another statement -/

namespace SourceLine

/-- What is in front of the statement: all up to the first colon, if there is one. -/
def front (line : SourceLine) : List Char :=
  if ':' ∈ line.code then line.code.takeWhile (· != ':') ++ [':'] else []

/-- The line with another statement. Its label and its comment stay. -/
def withBody (line : SourceLine) (body : List Char) : SourceLine :=
  line.front ++ body ++ line.comment

/-- What may be written where the line has its statement. A colon may be in it only if there is a
label in front. -/
structure Admits (line : SourceLine) (statement : List Char) : Prop where
  nonblank : ¬ Blank statement
  inline : '\n' ∉ statement
  uncommented : '#' ∉ statement
  unlabelled : ':' ∉ line.code → ':' ∉ statement

variable {line : SourceLine} {statement : List Char}

theorem front_append_body (line : SourceLine) : line.front ++ line.body = line.code := by
  by_cases hcolon : ':' ∈ line.code
  · obtain ⟨label, rest, hcode, hlabel⟩ := List.eq_append_cons_of_mem hcolon
    rw [front, if_pos hcolon, (of_colon hcode hlabel).2, hcode, takeWhile_bne_append hlabel]
    exact (List.append_cons _ _ _).symm
  · rw [front, if_neg hcolon, (of_plain hcolon).2, List.nil_append]

theorem code_withBody (hstatement : '#' ∉ statement) :
    (line.withBody statement).code = line.front ++ statement := by
  have hfront : '#' ∉ line.front := by
    intro hmem
    apply line.hash_notMem_code
    rw [← front_append_body]
    exact List.mem_append_left _ hmem
  apply code_append
  exact fun hmem => (List.mem_append.1 hmem).elim hfront hstatement

theorem Admits.parts (h : line.Admits statement) :
    (line.withBody statement).label? = line.label? ∧
      (line.withBody statement).body = statement := by
  have hwith : (line.withBody statement).code = _ := code_withBody h.uncommented
  by_cases hcolon : ':' ∈ line.code
  · obtain ⟨label, rest, hcode, hlabel⟩ := List.eq_append_cons_of_mem hcolon
    rw [front, if_pos hcolon, hcode, takeWhile_bne_append hlabel, ← List.append_cons] at hwith
    rw [(of_colon hcode hlabel).1]
    exact of_colon hwith hlabel
  · rw [front, if_neg hcolon, List.nil_append] at hwith
    have hplain : ':' ∉ (line.withBody statement).code := by
      rw [hwith]
      exact h.unlabelled hcolon
    rw [(of_plain hcolon).1, (of_plain hplain).1, (of_plain hplain).2]
    exact ⟨rfl, hwith⟩

theorem Admits.akin (h : line.Admits statement) (hstatement : line.hasStatement = true) :
    line.Akin (line.withBody statement) where
  label := h.parts.1
  statement := by
    rw [hstatement, ← Bool.not_eq_false, hasStatement_eq_false_iff, h.parts.2]
    exact h.nonblank

theorem Admits.inline_withBody (h : line.Admits statement) (hline : '\n' ∉ line) :
    '\n' ∉ line.withBody statement := by
  rw [← code_append_comment line, ← front_append_body] at hline
  simp only [List.mem_append, not_or] at hline
  simp only [withBody, List.mem_append, not_or]
  exact ⟨⟨hline.1.1, h.inline⟩, hline.2⟩

end SourceLine

/-- The text with another statement on one of its lines, counted from zero. -/
def withStatement (source : String) (k : Nat) (statement : List Char) : String :=
  modifyLine source k (·.withBody statement)

/-! ## Outcomes of other lines -/

variable {front behind : List Outcome} {old new : Outcome} {number : Nat}

/-- What comes of a statement is left out where its line is. -/
theorem filter_exchange {α : Type} {part : Outcome → Option α} {other : α → Bool}
    (hold : ∀ a, part old = some a → other a = false)
    (hnew : ∀ a, part new = some a → other a = false) :
    ((front ++ new :: behind).filterMap part).filter other =
      ((front ++ old :: behind).filterMap part).filter other := by
  have hdropped : ∀ {outcome}, (∀ a, part outcome = some a → other a = false) →
      (part outcome).filter other = none := by
    intro outcome h
    cases hpart : part outcome with
    | none => rfl
    | some a => simp [h a hpart]
  rw [List.filter_filterMap, List.filter_filterMap, List.filterMap_append, List.filterMap_append,
    List.filterMap_cons, List.filterMap_cons, hdropped hold, hdropped hnew]

theorem Outcome.Yields.line_instruction {index : Nat} {outcome : Outcome}
    (h : outcome.Yields index number) :
    ∀ instruction, outcome.instruction? = some instruction →
      decide (instruction.line ≠ some (number : Int)) = false := by
  intro instruction hinstruction
  cases h with
  | diagnostic => contradiction
  | instruction hpc hline =>
      obtain rfl := Option.some.inj hinstruction
      simp [hline]

theorem Outcome.Yields.line_diagnostic {index : Nat} {outcome : Outcome}
    (h : outcome.Yields index number) :
    ∀ diagnostic, outcome.diagnostic? = some diagnostic →
      decide (diagnostic.line ≠ number) = false := by
  intro diagnostic hdiagnostic
  cases h with
  | instruction => contradiction
  | diagnostic hline =>
      obtain rfl := Option.some.inj hdiagnostic
      simp [hline]

/-! ## Texts -/

variable {source : String} {k : Nat} {line : SourceLine} {statement : List Char}
  {listing exchanged : Listing}

/-- With another statement on one line, the labels are the same, and so is what any other line
gives: its instruction with all fields, and its diagnostics. Outcome by outcome, the two listings
differ in that of the one statement at most. -/
theorem assemble_withBody (hline : (lines source)[k]? = some line)
    (hstatement : line.hasStatement = true) (hadmits : line.Admits statement)
    (hlisting : assemble source = .ok listing)
    (hexchanged : assemble (withStatement source k statement) = .ok exchanged) :
    exchanged.labels = listing.labels ∧
      exchanged.instructions.filter (fun i => i.line ≠ some ((k + 1 : Nat) : Int)) =
        listing.instructions.filter (fun i => i.line ≠ some ((k + 1 : Nat) : Int)) ∧
      exchanged.diagnostics.filter (fun d => d.line ≠ k + 1) =
        listing.diagnostics.filter (fun d => d.line ≠ k + 1) ∧
      ∃ front old new behind,
        listing.Accounts (lines source) (front ++ old :: behind) ∧
        exchanged.Accounts (lines (withStatement source k statement)) (front ++ new :: behind) ∧
        old.Yields front.length (k + 1) ∧ new.Yields front.length (k + 1) ∧
        labelDiagnostics (lines (withStatement source k statement)) =
          labelDiagnostics (lines source) := by
  have hinline := hadmits.inline_withBody (newline_notMem_of_mem_lines (List.mem_of_getElem? hline))
  have hlength : ((lines source).take k).length = k :=
    List.length_take_of_le (List.getElem?_eq_some_iff.1 hline).1.le
  obtain ⟨hsame, hdiagnostics, front, behind, hfront, hold, hnew⟩ :=
    (hadmits.akin hstatement).exchanges_modifyLine (·.withBody statement) hline hinline hstatement
  change (Layout.ofRows (rows (withStatement source k statement))).outcomes = _ at hnew
  have hlabels : labelDiagnostics (lines (withStatement source k statement)) =
      labelDiagnostics (lines source) := by
    rw [← (Layout.follows_ofRows _).diagnostics, ← (Layout.follows_ofRows _).diagnostics]
    exact congrArg Array.toList hdiagnostics
  have haccounts := accounts_outcomes hlisting
  have hexchanges := accounts_outcomes hexchanged
  rw [hold] at haccounts
  rw [hnew] at hexchanges
  -- Both outcomes of the line are at its place.
  have hyields : ∀ {own : SourceLine} {labels : Labels} {outcomes : List Outcome}
      {found : Listing} {ls : List SourceLine},
      found.Accounts ls outcomes → (own.placed ((lines source).take k)).outcome labels ∈ outcomes →
        ((own.placed ((lines source).take k)).outcome labels).Yields front.length (k + 1) := by
    intro own labels outcomes found ls haccounts hmem
    have hplace := Placed.yields_outcome (haccounts.fault?_eq_none _ hmem)
    rw [SourceLine.placed, ← hfront, hlength] at hplace
    rw [SourceLine.placed, ← hfront, hlength]
    exact hplace
  have holdYields := hyields haccounts (List.mem_append_right _ List.mem_cons_self)
  have hnewYields := hyields hexchanges (List.mem_append_right _ List.mem_cons_self)
  refine ⟨?_, ?_, ?_, front, _, _, behind, haccounts, hexchanges, holdYields, hnewYields, hlabels⟩
  · rw [(Layout.listing_eq_ok_iff.1 hlisting).2, (Layout.listing_eq_ok_iff.1 hexchanged).2]
    exact hsame
  · rw [hexchanges.instructions, haccounts.instructions]
    exact filter_exchange holdYields.line_instruction hnewYields.line_instruction
  · rw [hexchanges.diagnostics, haccounts.diagnostics, hlabels, List.filter_append,
      List.filter_append, filter_exchange holdYields.line_diagnostic hnewYields.line_diagnostic]

/-- A branch to a label behind it, on a line that has a label and a comment itself. -/
def forwardSource : String :=
  "back: BEQ R0, R0, end # ahead\n" ++
  "LW R1, R2\n" ++
  "end: BEQ R0, R0, back"

/-- The same with a nonsense word for the first branch. -/
def misspelledSource : String := withStatement forwardSource 0 " BRANCH end ".toList

def forward : Listing := (assemble forwardSource).toOption.getD ⟨[], [], {}⟩

def misspelled : Listing := (assemble misspelledSource).toOption.getD ⟨[], [], {}⟩

/-- The first line gives a diagnostic and no longer an instruction. The second one keeps its
diagnostic, and the branch of the last line still goes to the first. -/
theorem assemble_misspelled :
    misspelledSource = "back: BRANCH end # ahead\nLW R1, R2\nend: BEQ R0, R0, back" ∧
      misspelled.diagnostics.map (·.line) = [1, 2] ∧ forward.diagnostics.map (·.line) = [2] ∧
      misspelled.labels = forward.labels ∧
      misspelled.instructions =
        forward.instructions.filter (fun i => i.line ≠ some ((0 + 1 : Nat) : Int)) := by
  have hline : (lines forwardSource)[0]? = some "back: BEQ R0, R0, end # ahead".toList := by
    decide +kernel
  have hstatement : SourceLine.hasStatement "back: BEQ R0, R0, end # ahead".toList = true := by
    decide +kernel
  have hadmits :
      SourceLine.Admits "back: BEQ R0, R0, end # ahead".toList " BRANCH end ".toList := by
    refine ⟨?_, by decide, by decide, ?_⟩
    · exact fun hblank => absurd (hblank 'B' (by decide)) (by decide)
    · exact fun hcolon => absurd (by decide) hcolon
  have hforward : assemble forwardSource = .ok forward := by decide +kernel
  have hmisspelled : assemble misspelledSource = .ok misspelled := by decide +kernel
  obtain ⟨hlabels, hinstructions, -⟩ :=
    assemble_withBody hline hstatement hadmits hforward hmisspelled
  refine ⟨by decide +kernel, by decide +kernel, by decide +kernel, hlabels, ?_⟩
  rw [← hinstructions]
  decide +kernel

end FiveStage.Asm
