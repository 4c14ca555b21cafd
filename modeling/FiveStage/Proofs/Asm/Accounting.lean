import FiveStage.Proofs.Asm.Anatomy

/-!
# Every statement is accounted for

Layout goes over the rows of a text once, and numbers statements while it collects labels. So both
passes of the assembler count the same: a statement that turns out to be nonsense keeps its index,
and so does one behind a label that is refused. `Layout.Follows` says what a layout has taken in of
a text, and is kept by the next line (`Layout.Follows.concat`).

A listing then has one outcome for each statement, with its index and the number of its line
(`Listing.Accounts`). That is all that the order of its parts depends on (`accounts_of_assemble`).
-/

namespace FiveStage

/-- An instruction stands before another one, in the program and in the text. -/
def Instruction.Precedes (first second : Instruction) : Prop :=
  first.pc < second.pc ∧
    ∃ m n : Int, first.line = some m ∧ second.line = some n ∧ m < n

theorem Instruction.Precedes.line_ne {first second : Instruction} (h : first.Precedes second) :
    first.line ≠ second.line := by
  obtain ⟨-, m, n, hm, hn, hlt⟩ := h
  rw [hm, hn]
  exact fun heq => absurd (Option.some.inj heq) (Int.ne_of_lt hlt)

namespace Asm

/-- A layout has taken in the lines of a text. -/
structure Layout.Follows (layout : Layout) (lines : List SourceLine) : Prop where
  labels : layout.labels.toList = definitions lines
  diagnostics : layout.diagnostics.toList = labelDiagnostics lines
  statements : layout.statements.toList.map (·.line) = statementLines lines

theorem Labels.isSome_address?_iff {labels : Labels} {name : String} :
    (labels.address? name).isSome = true ↔ name ∈ labels.toList.map (·.1) := by
  rw [address?, Option.isSome_map, Array.find?_isSome, List.mem_map]
  simp only [beq_iff_eq, toList, Array.mem_toList_iff]

namespace Layout

variable {layout : Layout} {lines : List SourceLine} {line : SourceLine} {label : List Char}

theorem Follows.size (h : layout.Follows lines) :
    layout.statements.size = statementCount lines := by
  rw [← length_statementLines, ← h.statements, List.length_map, Array.length_toList]

/-- A layout has a label iff it was accepted. -/
theorem Follows.isSome_address?_iff (h : layout.Follows lines) :
    (layout.labels.address? (String.ofList label)).isSome = true ↔
      label ∈ perLine SourceLine.accepted? lines := by
  rw [Labels.isSome_address?_iff, h.labels, definitions, map_perLine]
  simp only [Option.map_map]
  rw [← List.mem_map_of_injective (f := String.ofList) fun _ _ => String.ofList_injective,
    map_perLine]
  rfl

/-- The label of the next line, if it has one, is defined or complained about. -/
theorem Follows.addLabel (h : layout.Follows lines) (line : SourceLine) :
    let labelled := line.label?.elim layout (layout.addLabel (lines.length + 1))
    labelled.labels.toList = definitions (lines ++ [line]) ∧
      labelled.diagnostics.toList = labelDiagnostics (lines ++ [line]) ∧
      labelled.statements = layout.statements := by
  intro labelled
  rw [definitions, perLine_concat, ← definitions, ← h.labels, labelDiagnostics, perLine_concat,
    ← labelDiagnostics, ← h.diagnostics]
  cases hlabel : line.label? with
  | none =>
      have hsame : labelled = layout := by simp only [labelled, hlabel, Option.elim_none]
      rw [hsame, SourceLine.accepted?, SourceLine.labelProblem?, hlabel]
      exact ⟨(List.append_nil _).symm, (List.append_nil _).symm, rfl⟩
  | some label =>
      have hadds : labelled = layout.addLabel (lines.length + 1) label := by
        simp only [labelled, hlabel, Option.elim_some]
      rw [hadds, statements_addLabel, accepted?_eq hlabel, SourceLine.labelProblem?, hlabel,
        Option.bind_some]
      by_cases hidentifier : isIdentifier label = true
      · by_cases hagain : label ∈ perLine SourceLine.accepted? lines
        · have hsome := h.isSome_address?_iff.2 hagain
          simp [Layout.addLabel, report, hidentifier, hagain, hsome]
        · have hnone : ¬ (layout.labels.address? (String.ofList label)).isSome = true :=
            fun hsome => hagain (h.isSome_address?_iff.1 hsome)
          simp [Layout.addLabel, hidentifier, hagain, hnone, h.size]
      · simp [Layout.addLabel, report, hidentifier]

/-- Layout takes in the next line. -/
theorem Follows.concat (h : layout.Follows lines) (line : SourceLine) :
    ((Row.ofLine? (lines.length + 1) line).toList.foldl addRow layout).Follows
      (lines ++ [line]) := by
  have hlines : statementLines (lines ++ [line]) =
      layout.statements.toList.map (·.line) ++
        if line.hasStatement then [lines.length + 1] else [] := by
    rw [statementLines, perLine_concat, ← statementLines, h.statements]
    cases line.hasStatement <;> rfl
  obtain ⟨hlabels, hdiagnostics, hstatements⟩ := h.addLabel line
  obtain ⟨hnone, hlabel, hstatement⟩ | ⟨row, hrow, hnumber, hlabel, hstatement⟩ :=
    ofLine?_cases (lines.length + 1) line
  · rw [hlabel] at hlabels hdiagnostics
    rw [hnone]
    refine ⟨hlabels, hdiagnostics, ?_⟩
    rw [hlines, hstatement]
    exact (List.append_nil _).symm
  · rw [hrow]
    show (addRow layout row).Follows (lines ++ [line])
    rw [addRow, hlabel, hnumber, addStatement]
    split
    · rename_i hempty
      refine ⟨hlabels, hdiagnostics, ?_⟩
      rw [hlines, hstatement.1 hempty, hstatements]
      exact (List.append_nil _).symm
    · rename_i hfull
      have hhas : line.hasStatement = true :=
        Bool.of_not_eq_false fun hlacks => hfull (hstatement.2 hlacks)
      refine ⟨hlabels, hdiagnostics, ?_⟩
      rw [hlines, hhas, hstatements, Array.toList_push, List.map_append, ← hnumber]
      rfl

/-- The layout of a text says what its lines say. -/
theorem follows_ofRows (lines : List SourceLine) : (ofRows (rowsFrom 1 lines)).Follows lines := by
  induction lines using List.reverseRecOn with
  | nil => exact ⟨rfl, rfl, rfl⟩
  | append_singleton lines line ih =>
      rw [rowsFrom_concat, ofRows, List.foldl_append]
      exact ih.concat line

end Layout

/-! ## Outcomes -/

/-- What may become of the statement at an index, which is on a line. -/
inductive Outcome.Yields (index number : Nat) : Outcome → Prop
  | instruction {instruction : Instruction} (pc : instruction.pc = 4 * (index : Int))
    (line : instruction.line = some (number : Int)) : Yields index number (.instruction instruction)
  | diagnostic {diagnostic : Diagnostic} (line : diagnostic.line = number) :
    Yields index number (.diagnostic diagnostic)

/-- Unless it faults, a statement yields what its place says. -/
theorem Placed.yields_outcome {labels : Labels} {placed : Placed}
    (hsound : (placed.outcome labels).fault? = none) :
    (placed.outcome labels).Yields placed.index placed.line := by
  cases houtcome : placed.outcome labels with
  | fault fault =>
      rw [houtcome] at hsound
      contradiction
  | diagnostic diagnostic => exact .diagnostic (line_of_outcome houtcome)
  | instruction instruction =>
      obtain ⟨hpc, hline⟩ := place_of_outcome houtcome
      refine .instruction ?_ hline
      rw [hpc, Placed.pc, Int.natCast_mul]
      rfl

/-- A listing accounts for the lines of a text by one outcome for each statement. -/
structure Listing.Accounts (listing : Listing) (lines : List SourceLine)
    (outcomes : List Outcome) : Prop where
  length : outcomes.length = (statementLines lines).length
  yields : ∀ (index number : Nat) (outcome : Outcome),
    (statementLines lines)[index]? = some number → outcomes[index]? = some outcome →
      outcome.Yields index number
  instructions : listing.instructions = outcomes.filterMap Outcome.instruction?
  diagnostics : listing.diagnostics =
    labelDiagnostics lines ++ outcomes.filterMap Outcome.diagnostic?
  labels : listing.labels.toList = definitions lines

theorem Layout.Follows.accounts {layout : Layout} {lines : List SourceLine} {listing : Listing}
    (h : layout.Follows lines) (hnumbered : layout.Numbered)
    (hlisting : layout.listing = .ok listing) : listing.Accounts lines layout.outcomes := by
  obtain ⟨hfault, rfl⟩ := Layout.listing_eq_ok_iff.1 hlisting
  constructor
  case length =>
    rw [← h.statements, List.length_map, Layout.outcomes, List.length_map]
  case yields =>
    intro index line outcome hline houtcome
    have hsound := hfault outcome (List.mem_of_getElem? houtcome)
    rw [← h.statements, List.getElem?_map, Option.map_eq_some_iff] at hline
    obtain ⟨placed, hplaced, rfl⟩ := hline
    rw [Layout.outcomes, List.getElem?_map, hplaced, Option.map_some] at houtcome
    obtain rfl := Option.some.inj houtcome
    rw [Array.getElem?_toList] at hplaced
    rw [← hnumbered index placed hplaced]
    exact Placed.yields_outcome hsound
  case instructions => rfl
  case diagnostics => rw [h.diagnostics]
  case labels => exact h.labels

namespace Listing.Accounts

variable {listing : Listing} {lines : List SourceLine} {outcomes : List Outcome}

/-- What holds of two statements in their order holds of all outcomes in theirs. -/
theorem pairwise (h : listing.Accounts lines outcomes) {before : Outcome → Outcome → Prop}
    (hbefore : ∀ {i j m n : Nat} {first second : Outcome}, i < j → m < n →
      first.Yields i m → second.Yields j n → before first second) :
    outcomes.Pairwise before := by
  apply List.pairwise_iff_getElem.2
  intro i j hi hj hlt
  have hfirst : i < (statementLines lines).length := by rw [← h.length]; exact hi
  have hsecond : j < (statementLines lines).length := by rw [← h.length]; exact hj
  have hrising := List.pairwise_iff_getElem.1 (pairwise_statementLines lines) i j hfirst hsecond hlt
  exact hbefore hlt hrising
    (h.yields i _ _ (List.getElem?_eq_getElem hfirst) (List.getElem?_eq_getElem hi))
    (h.yields j _ _ (List.getElem?_eq_getElem hsecond) (List.getElem?_eq_getElem hj))

theorem pairwise_instructions (h : listing.Accounts lines outcomes) :
    listing.instructions.Pairwise Instruction.Precedes := by
  rw [h.instructions, List.pairwise_filterMap]
  apply h.pairwise
  intro i j m n first second hindex hline hfirst hsecond a ha b hb
  cases hfirst with
  | diagnostic => contradiction
  | instruction haPc haLine =>
      cases hsecond with
      | diagnostic => contradiction
      | instruction hbPc hbLine =>
          obtain rfl := Option.some.inj ha
          obtain rfl := Option.some.inj hb
          exact ⟨by omega, _, _, haLine, hbLine, Int.ofNat_lt.2 hline⟩

theorem pairwise_diagnostics (h : listing.Accounts lines outcomes) :
    (outcomes.filterMap Outcome.diagnostic?).Pairwise fun a b => a.line < b.line := by
  rw [List.pairwise_filterMap]
  apply h.pairwise
  intro i j m n first second hindex hline hfirst hsecond a ha b hb
  cases hfirst with
  | instruction => contradiction
  | diagnostic haLine =>
      cases hsecond with
      | instruction => contradiction
      | diagnostic hbLine =>
          obtain rfl := Option.some.inj ha
          obtain rfl := Option.some.inj hb
          rw [haLine, hbLine]
          exact hline

theorem fault?_eq_none (h : listing.Accounts lines outcomes) :
    ∀ outcome ∈ outcomes, outcome.fault? = none := by
  intro outcome hmem
  obtain ⟨index, houtcome⟩ := List.mem_iff_getElem?.1 hmem
  have hline : index < (statementLines lines).length := by
    rw [← h.length]
    exact (List.getElem?_eq_some_iff.1 houtcome).1
  cases h.yields index _ outcome (List.getElem?_eq_getElem hline) houtcome <;> rfl

/-- Without diagnostics there are as many instructions as statements. -/
theorem length_instructions (h : listing.Accounts lines outcomes)
    (hclean : listing.isClean = true) : listing.instructions.length = statementCount lines := by
  rw [Listing.isClean, List.isEmpty_iff, h.diagnostics, List.append_eq_nil_iff] at hclean
  have houtcomes := eq_map_instruction h.fault?_eq_none hclean.2
  rw [← h.instructions] at houtcomes
  rw [← length_statementLines, ← h.length, houtcomes, List.length_map]

end Listing.Accounts

variable {source : String} {listing : Listing}

/-- A listing accounts for its text by what comes of the statements that are laid out. -/
theorem accounts_outcomes (h : assemble source = .ok listing) :
    listing.Accounts (lines source) (Layout.ofRows (rows source)).outcomes :=
  (Layout.follows_ofRows (lines source)).accounts (Layout.numbered_ofRows _) h

/-- A listing accounts for every statement of its text once, by an instruction or a diagnostic.
Instructions are in the order of the text, and so are the diagnostics of labels, which come first,
and those of statements. A label is the address of the next statement. So without diagnostics the
instructions are at consecutive words, and no label is beyond their end. -/
theorem accounts_of_assemble (h : assemble source = .ok listing) :
    ∃ outcomes, listing.Accounts (lines source) outcomes ∧
      listing.instructions.Pairwise Instruction.Precedes ∧
      (outcomes.filterMap Outcome.diagnostic?).Pairwise (fun a b => a.line < b.line) ∧
      (labelDiagnostics (lines source)).Pairwise (fun a b => a.line < b.line) ∧
      (∀ number, (∃ diagnostic ∈ labelDiagnostics (lines source), diagnostic.line = number) ↔
        Mislabelled (lines source) number) ∧
      (listing.isClean = true →
        (∀ (index : Nat) (instruction : Instruction),
          listing.instructions[index]? = some instruction → instruction.pc = 4 * index) ∧
        ∀ entry ∈ listing.labels.toList, entry.2 ≤ 4 * listing.instructions.length) := by
  have haccounts :=
    (Layout.follows_ofRows (lines source)).accounts (Layout.numbered_ofRows _) h
  refine ⟨_, haccounts, haccounts.pairwise_instructions, haccounts.pairwise_diagnostics,
    pairwise_labelDiagnostics _, fun _ => exists_labelDiagnostic_iff, ?_⟩
  intro hclean
  refine ⟨fun index instruction => pc_of_assemble h hclean, ?_⟩
  intro entry hmem
  rw [haccounts.labels] at hmem
  rw [haccounts.length_instructions hclean]
  exact le_of_mem_definitions hmem

/-- A label without a name, one that is defined twice, and statements that are none. -/
def untidySource : String :=
  "ADD R1, R2, R3\n" ++
  ": NOP # no name\n" ++
  "end: end: NOP\n" ++
  "end:\n" ++
  "  back : BEQ R0, R0, end"

def untidy : Listing := (assemble untidySource).toOption.getD ⟨[], [], {}⟩

/-- Line 4 has no statement and a diagnostic, and the branch is the statement with index 3. -/
theorem accounts_untidy :
    assemble untidySource = .ok untidy ∧
      statementLines (lines untidySource) = [1, 2, 3, 5] ∧
      Mislabelled (lines untidySource) 4 ∧
      ∃ outcomes, untidy.Accounts (lines untidySource) outcomes ∧ outcomes.length = 4 ∧
        ∃ outcome, outcomes[3]? = some outcome ∧ outcome.Yields 3 5 := by
  have hassemble : assemble untidySource = .ok untidy := by decide +kernel
  have hstatements : statementLines (lines untidySource) = [1, 2, 3, 5] := by decide +kernel
  have hreported : ∃ diagnostic ∈ labelDiagnostics (lines untidySource), diagnostic.line = 4 := by
    decide +kernel
  obtain ⟨outcomes, haccounts, -, -, -, hlabels, -⟩ := accounts_of_assemble hassemble
  have hlength : outcomes.length = 4 := by
    rw [haccounts.length, hstatements]
    rfl
  have hbranch : outcomes[3]? = some outcomes[3] := List.getElem?_eq_getElem (by omega)
  refine ⟨hassemble, hstatements, (hlabels 4).1 hreported, outcomes, haccounts, hlength, _,
    hbranch, ?_⟩
  apply haccounts.yields 3 5 _ _ hbranch
  rw [hstatements]
  rfl

end Asm

end FiveStage
