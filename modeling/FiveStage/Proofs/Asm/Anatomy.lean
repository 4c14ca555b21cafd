import FiveStage.Proofs.Asm.Outcomes
import FiveStage.Proofs.Text.Trim
import Mathlib.Data.List.Induction

/-!
# What a text says about its lines

A line of a text has a label if there is a colon in front of its comment, and a statement if
something is left behind the first colon. Of the labels, those are accepted that are identifiers and
that no line before has, and the others are complained about. This is said here of the characters of
the lines, without rows and layouts, which is what the layout of a text comes down to
(`Layout.follows_ofRows`).

All that is found on the lines of a text depends on a line and those before it (`perLine`), and the
induction is on the lines from the last one back, since layout takes in the last one last.
-/

namespace FiveStage.Asm

open Text

/-- A line of a text, without its line feed. -/
abbrev SourceLine := List Char

namespace SourceLine

/-- What is in front of the comment. -/
def code (line : SourceLine) : List Char := line.takeWhile (· != '#')

/-- The comment with its number sign. -/
def comment (line : SourceLine) : List Char := line.dropWhile (· != '#')

/-- What is in front of the first colon, without white space around it. -/
def label? (line : SourceLine) : Option (List Char) :=
  if ':' ∈ line.code then some (trim (line.code.takeWhile (· != ':'))) else none

/-- What is behind the first colon, or all code if there is no colon. -/
def body (line : SourceLine) : List Char :=
  if ':' ∈ line.code then (line.code.dropWhile (· != ':')).drop 1 else line.code

theorem code_append_comment (line : SourceLine) : line.code ++ line.comment = line :=
  List.takeWhile_append_dropWhile

theorem hash_notMem_code (line : SourceLine) : '#' ∉ line.code := by
  intro hmem
  have hother : ('#' != '#') = true := List.mem_takeWhile_imp (p := (· != '#')) hmem
  contradiction

/-- In front of a comment everything is code. -/
theorem code_append (line : SourceLine) {code : List Char} (hcode : '#' ∉ code) :
    SourceLine.code (code ++ line.comment) = code := by
  apply takeWhile_append_of_stop
  · exact fun c hc => bne_iff_ne.2 (ne_of_mem_of_not_mem hc hcode)
  · intro c hc
    have hstop := List.head?_dropWhile_not (· != '#') line
    rw [← comment, Option.mem_def.1 hc] at hstop
    exact hstop

theorem of_colon {line : SourceLine} {label rest : List Char}
    (h : line.code = label ++ ':' :: rest) (hlabel : ':' ∉ label) :
    line.label? = some (trim label) ∧ line.body = rest := by
  have hcolon : ':' ∈ line.code := by
    rw [h]
    exact List.mem_append_right _ List.mem_cons_self
  rw [label?, body, if_pos hcolon, if_pos hcolon, h, takeWhile_bne_append hlabel,
    dropWhile_bne_append hlabel]
  exact ⟨rfl, rfl⟩

theorem of_plain {line : SourceLine} (h : ':' ∉ line.code) :
    line.label? = none ∧ line.body = line.code :=
  ⟨if_neg h, if_neg h⟩

/-- Whether the line has a statement, which may be nonsense. -/
def hasStatement (line : SourceLine) : Bool := line.body.any fun c => !isBlank c

theorem hasStatement_eq_false_iff {line : SourceLine} :
    line.hasStatement = false ↔ Blank line.body := by
  simp [hasStatement, Blank]

end SourceLine

/-- What is found on each line of a text, given the lines before it. -/
def perLine {α : Type} (find : List SourceLine → SourceLine → Option α)
    (lines : List SourceLine) : List α :=
  (List.range lines.length).filterMap fun k => lines[k]?.bind (find (lines.take k))

/-- How many lines have a statement. -/
def statementCount (lines : List SourceLine) : Nat := lines.countP SourceLine.hasStatement

/-- The numbers, from one, of the lines with a statement. -/
def statementLines : List SourceLine → List Nat :=
  perLine fun before line => if line.hasStatement then some (before.length + 1) else none

/-- The label of a line if it is an identifier and no line before has it. -/
def SourceLine.accepted? (before : List SourceLine) (line : SourceLine) : Option (List Char) :=
  line.label?.filter fun label =>
    isIdentifier label && before.all fun earlier => earlier.label? != some label

/-- What is wrong with the label of a line. -/
def SourceLine.labelProblem? (before : List SourceLine) (line : SourceLine) : Option Problem :=
  line.label?.bind fun label =>
    if isIdentifier label = false then some (.invalidLabel (String.ofList label))
    else if label ∈ perLine SourceLine.accepted? before then
      some (.duplicateLabel (String.ofList label))
    else none

/-- The accepted labels, with four times the number of statements on lines before. -/
def definitions : List SourceLine → List (String × Nat) :=
  perLine fun before line =>
    (line.accepted? before).map fun label => (String.ofList label, 4 * statementCount before)

/-- The diagnostics of labels. -/
def labelDiagnostics : List SourceLine → List Diagnostic :=
  perLine fun before line => (line.labelProblem? before).map (⟨before.length + 1, ·⟩)

/-! ## Line by line -/

section

variable {α β : Type} {find : List SourceLine → SourceLine → Option α} {lines : List SourceLine}
  {line : SourceLine}

@[simp] theorem perLine_nil : perLine find [] = [] := rfl

theorem perLine_concat (lines : List SourceLine) (line : SourceLine) :
    perLine find (lines ++ [line]) = perLine find lines ++ (find lines line).toList := by
  rw [perLine, List.length_append, List.length_singleton, List.range_succ, List.filterMap_append]
  have hbefore : (List.range lines.length).filterMap
      (fun k => (lines ++ [line])[k]?.bind (find ((lines ++ [line]).take k))) =
        perLine find lines := by
    apply List.filterMap_congr
    intro k hk
    have hlt : k < lines.length := List.mem_range.1 hk
    rw [List.getElem?_append_left hlt, List.take_append_of_le_length hlt.le]
  have hlast : [lines.length].filterMap
      (fun k => (lines ++ [line])[k]?.bind (find ((lines ++ [line]).take k))) =
        (find lines line).toList := by
    simp only [List.filterMap_cons, List.filterMap_nil, List.getElem?_concat_length,
      Option.bind_some, List.take_left']
    cases find lines line <;> rfl
  rw [hbefore, hlast]

theorem map_perLine (f : α → β) (lines : List SourceLine) :
    (perLine find lines).map f = perLine (fun before line => (find before line).map f) lines := by
  rw [perLine, perLine, List.map_filterMap]
  apply List.filterMap_congr
  intro k _
  cases lines[k]? <;> rfl

/-- What is found on a line is found among the lines. -/
theorem mem_perLine_iff {a : α} : a ∈ perLine find lines ↔
    ∃ k line, lines[k]? = some line ∧ find (lines.take k) line = some a := by
  rw [perLine, List.mem_filterMap]
  constructor
  · rintro ⟨k, -, hfound⟩
    obtain ⟨line, hline, hfound⟩ := Option.bind_eq_some_iff.1 hfound
    exact ⟨k, line, hline, hfound⟩
  · rintro ⟨k, line, hline, hfound⟩
    refine ⟨k, List.mem_range.2 (List.getElem?_eq_some_iff.1 hline).1, ?_⟩
    rw [hline]
    exact hfound

/-- Where what is found has the number of its line, the numbers rise. -/
theorem pairwise_perLine (number : α → Nat)
    (hnumber : ∀ before line, ∀ a ∈ find before line, number a = before.length + 1)
    (lines : List SourceLine) : (perLine find lines).Pairwise fun a b => number a < number b := by
  apply List.pairwise_filterMap.2
  apply List.pairwise_lt_range.imp_of_mem
  intro i j hi hj hlt a ha b hb
  obtain ⟨first, -, ha⟩ := Option.bind_eq_some_iff.1 ha
  obtain ⟨second, -, hb⟩ := Option.bind_eq_some_iff.1 hb
  rw [hnumber _ _ a ha, hnumber _ _ b hb, List.length_take, List.length_take]
  have hbound := List.mem_range.1 hj
  omega

end

theorem length_statementLines (lines : List SourceLine) :
    (statementLines lines).length = statementCount lines := by
  induction lines using List.reverseRecOn with
  | nil => rfl
  | append_singleton lines line ih =>
      rw [statementLines, perLine_concat, List.length_append, statementCount, List.countP_append,
        List.countP_singleton]
      refine congrArg₂ (· + ·) ih ?_
      cases line.hasStatement <;> rfl

theorem pairwise_statementLines (lines : List SourceLine) :
    (statementLines lines).Pairwise (· < ·) := by
  apply pairwise_perLine id
  intro before line number hnumber
  rw [Option.mem_def] at hnumber
  split at hnumber
  · exact (Option.some.inj hnumber).symm
  · contradiction

/-- The accepted labels are the identifiers among the labels. -/
theorem mem_accepted_iff {label : List Char} {lines : List SourceLine} :
    label ∈ perLine SourceLine.accepted? lines ↔
      isIdentifier label = true ∧ ∃ line ∈ lines, SourceLine.label? line = some label := by
  induction lines using List.reverseRecOn with
  | nil => simp
  | append_singleton lines line ih =>
      rw [perLine_concat, List.mem_append, ih]
      simp only [Option.mem_toList, SourceLine.accepted?, Option.filter_eq_some_iff]
      constructor
      · rintro (⟨hidentifier, earlier, hmem, hlabel⟩ | ⟨hlabel, hfirst⟩)
        · exact ⟨hidentifier, earlier, List.mem_append_left _ hmem, hlabel⟩
        · have hlast : line ∈ lines ++ [line] := List.mem_append_right _ List.mem_cons_self
          exact ⟨(Bool.and_eq_true_iff.1 hfirst).1, line, hlast, hlabel⟩
      · rintro ⟨hidentifier, found, hmem, hlabel⟩
        -- It is accepted on the first line that has it, which may be the last one.
        by_cases hearlier : ∃ earlier ∈ lines, SourceLine.label? earlier = some label
        · exact .inl ⟨hidentifier, hearlier⟩
        · right
          obtain hbefore | hlast := List.mem_append.1 hmem
          · exact absurd ⟨found, hbefore, hlabel⟩ hearlier
          · rw [List.mem_singleton.1 hlast] at hlabel
            refine ⟨hlabel, ?_⟩
            simp only [hidentifier, Bool.true_and, List.all_eq_true, bne_iff_ne]
            intro earlier hmem hsame
            exact hearlier ⟨earlier, hmem, hsame⟩

/-- A label is accepted if it is an identifier that was not accepted before. -/
theorem accepted?_eq {lines : List SourceLine} {line : SourceLine} {label : List Char}
    (hlabel : line.label? = some label) :
    line.accepted? lines =
      if isIdentifier label = true ∧ label ∉ perLine SourceLine.accepted? lines then some label
      else none := by
  have hfirst : (lines.all fun earlier => earlier.label? != some label) = true ↔
      ¬ ∃ earlier ∈ lines, SourceLine.label? earlier = some label := by
    simp only [List.all_eq_true, bne_iff_ne, not_exists, not_and]
  have hcondition :
      (isIdentifier label && lines.all fun earlier => earlier.label? != some label) = true ↔
        isIdentifier label = true ∧ label ∉ perLine SourceLine.accepted? lines := by
    rw [Bool.and_eq_true, hfirst, mem_accepted_iff]
    refine and_congr_right fun hidentifier => ?_
    rw [and_iff_right hidentifier]
  rw [SourceLine.accepted?, hlabel, Option.filter_some]
  exact if_congr hcondition rfl rfl

/-- No label has an address beyond the last statement. -/
theorem le_of_mem_definitions {lines : List SourceLine} {entry : String × Nat}
    (h : entry ∈ definitions lines) : entry.2 ≤ 4 * statementCount lines := by
  obtain ⟨k, line, -, hfound⟩ := mem_perLine_iff.1 h
  obtain ⟨label, -, rfl⟩ := Option.map_eq_some_iff.1 hfound
  have hcount : statementCount (lines.take k) ≤ statementCount lines :=
    (List.take_sublist k lines).countP_le
  exact Nat.mul_le_mul_left 4 hcount

theorem pairwise_labelDiagnostics (lines : List SourceLine) :
    (labelDiagnostics lines).Pairwise fun a b => a.line < b.line := by
  apply pairwise_perLine Diagnostic.line
  intro before line diagnostic hfound
  obtain ⟨problem, -, rfl⟩ := Option.map_eq_some_iff.1 hfound
  rfl

/-- The label on a line is not an identifier, or was accepted on a line before. -/
def Mislabelled (lines : List SourceLine) (number : Nat) : Prop :=
  ∃ k line label, lines[k]? = some line ∧ number = k + 1 ∧ SourceLine.label? line = some label ∧
    (isIdentifier label = false ∨ label ∈ perLine SourceLine.accepted? (lines.take k))

theorem exists_labelDiagnostic_iff {lines : List SourceLine} {number : Nat} :
    (∃ diagnostic ∈ labelDiagnostics lines, diagnostic.line = number) ↔
      Mislabelled lines number := by
  constructor
  · rintro ⟨diagnostic, hmem, rfl⟩
    obtain ⟨k, line, hline, hfound⟩ := mem_perLine_iff.1 hmem
    have hbound := (List.getElem?_eq_some_iff.1 hline).1
    obtain ⟨problem, hproblem, rfl⟩ := Option.map_eq_some_iff.1 hfound
    obtain ⟨label, hlabel, hproblem⟩ := Option.bind_eq_some_iff.1 hproblem
    refine ⟨k, line, label, hline, ?_, hlabel, ?_⟩
    · rw [List.length_take, Nat.min_eq_left hbound.le]
    · split at hproblem
      · rename_i hidentifier
        exact .inl hidentifier
      · split at hproblem
        · rename_i hagain
          exact .inr hagain
        · contradiction
  · rintro ⟨k, line, label, hline, rfl, hlabel, hwrong⟩
    have hbound := (List.getElem?_eq_some_iff.1 hline).1
    have hproblem : ∃ problem, line.labelProblem? (lines.take k) = some problem := by
      rw [SourceLine.labelProblem?, hlabel, Option.bind_some]
      by_cases hidentifier : isIdentifier label = false
      · exact ⟨_, if_pos hidentifier⟩
      · exact ⟨_, (if_neg hidentifier).trans (if_pos (hwrong.resolve_left hidentifier))⟩
    obtain ⟨problem, hproblem⟩ := hproblem
    refine ⟨⟨(lines.take k).length + 1, problem⟩, mem_perLine_iff.2 ⟨k, line, hline, ?_⟩, ?_⟩
    · rw [hproblem, Option.map_some]
    · rw [List.length_take, Nat.min_eq_left hbound.le]

/-! ## Rows -/

theorem rowsFrom_concat (ls : List SourceLine) (line : SourceLine) :
    rowsFrom 1 (ls ++ [line]) = rowsFrom 1 ls ++ (Row.ofLine? (ls.length + 1) line).toList := by
  rw [rowsFrom_append, rowsFrom_cons, rowsFrom_nil, List.append_nil, Nat.add_comm]

/-- The row of a line, which may have nothing in it. -/
def SourceLine.row (number : Nat) (line : SourceLine) : Row :=
  ⟨number, trim line.code, line.label?, trim line.body⟩

theorem SourceLine.trim_body_eq_nil_iff {line : SourceLine} :
    trim line.body = [] ↔ line.hasStatement = false :=
  trim_eq_nil_iff.trans SourceLine.hasStatement_eq_false_iff.symm

theorem ofLine?_eq (number : Nat) (line : SourceLine) :
    Row.ofLine? number line = if trim line.code = [] then none else some (line.row number) := by
  obtain ⟨before, after, hbefore, hafter, hcode⟩ := exists_eq_append_trim line.code
  have hdef : line.takeWhile (· != '#') = line.code := rfl
  simp only [Row.ofLine?, hdef]
  refine if_congr Iff.rfl rfl ?_
  split
  · -- The first colon of the trimmed code is also the first one behind the white space.
    rename_i hcolon
    obtain ⟨label, rest, htext, hlabel⟩ := List.eq_append_cons_of_mem hcolon
    have hwhole : line.code = (before ++ label) ++ ':' :: (rest ++ after) := by
      rw [hcode, htext]
      simp only [List.append_assoc, List.cons_append]
    have hbehind : ':' ∉ before ++ label := fun hmem =>
      (List.mem_append.1 hmem).elim (notMem_of_blank (by decide) hbefore) hlabel
    obtain ⟨hname, hbody⟩ := SourceLine.of_colon hwhole hbehind
    rw [SourceLine.row, hname, hbody, trim_append_of_blank hbefore, trim_append_blank hafter, htext,
      takeWhile_bne_append hlabel, dropWhile_bne_append hlabel, List.drop_one, List.tail_cons]
  · rename_i hcolon
    have hplain : ':' ∉ line.code := mt (mem_trim_iff (by decide)).2 hcolon
    obtain ⟨hname, hbody⟩ := SourceLine.of_plain hplain
    rw [SourceLine.row, hname, hbody]

/-- Where there is no code, there is neither a label nor a statement. -/
theorem SourceLine.of_blank_code {line : SourceLine} (h : trim line.code = []) :
    line.label? = none ∧ trim line.body = [] := by
  have hcolon : ':' ∉ line.code := notMem_of_blank (by decide) (trim_eq_nil_iff.1 h)
  obtain ⟨hlabel, hbody⟩ := of_plain hcolon
  exact ⟨hlabel, hbody ▸ h⟩

/-- A row has the label of its line, and a statement iff the line has one. A line without a row has
neither. -/
theorem ofLine?_cases (number : Nat) (line : SourceLine) :
    (Row.ofLine? number line = none ∧ line.label? = none ∧ line.hasStatement = false) ∨
      ∃ row, Row.ofLine? number line = some row ∧ row.line = number ∧ row.label = line.label? ∧
        (row.statement = [] ↔ line.hasStatement = false) := by
  rw [ofLine?_eq]
  split
  · rename_i hblank
    obtain ⟨hlabel, hbody⟩ := SourceLine.of_blank_code hblank
    exact .inl ⟨rfl, hlabel, SourceLine.trim_body_eq_nil_iff.1 hbody⟩
  · exact .inr ⟨_, rfl, rfl, rfl, SourceLine.trim_body_eq_nil_iff⟩

end FiveStage.Asm
