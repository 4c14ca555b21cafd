import FiveStage.Proofs.Asm.Rows
import Mathlib.Data.List.Nodup

/-!
# Assembling a program from its spelling

Every spelling of a program is assembled to what the program means, with no diagnostics, if
no two labels are equal in capitals and branches go to labels that are defined
(`assemble_source`). The layout is followed line by line, and since a branch may go forward,
statements are resolved only when all labels are there.
-/

namespace FiveStage.Asm

open Text

variable {statement : Option Statement} {core : List Char}

/-! ## Layout -/

/-- The statements of lines, placed from a line number and an index on. -/
inductive Places : Nat → Nat → List Line → List Placed → Prop
  | nil (number index : Nat) : Places number index [] []
  | skip {number index : Nat} {line : Line} {lines : List Line} {placed : List Placed} :
    line.statement = none → Places (number + 1) index lines placed →
    Places number index (line :: lines) placed
  | place {number index : Nat} {line : Line} {lines : List Line} {placed : List Placed}
    {statement : Statement} {s : List Char} : line.statement = some statement →
    Statement.ofText s = .ok statement → Places (number + 1) (index + 1) lines placed →
    Places number index (line :: lines) (⟨number, index, line.core, s⟩ :: placed)

/-- The letters of a label in capitals. -/
def capitals (entry : String × Nat) : List Char := entry.1.toList.map Char.toUpper

theorem SpellsCore.isIdentifier {name : String} (h : SpellsCore (some name) statement core) :
    isIdentifier name.toList = true := by
  cases h with
  | label hidentifier => exact hidentifier
  | both hidentifier => exact hidentifier

theorem addLabel_of_fresh {layout : Layout} {name : String} (number : Nat)
    (hidentifier : isIdentifier name.toList = true)
    (hfresh : ∀ entry ∈ layout.labels.toList, entry.1 ≠ name) :
    layout.addLabel number name.toList =
      { layout with labels := layout.labels.insert name (4 * layout.statements.size) } := by
  have hnone : layout.labels.address? name = none := by
    rw [Labels.address?, Option.map_eq_none_iff, Array.find?_eq_none]
    intro entry hentry
    rw [beq_iff_eq]
    exact hfresh entry (Array.mem_toList_iff.2 hentry)
  simp [Layout.addLabel, hidentifier, hnone]

/-- The layout with more labels. -/
def Layout.withLabels (layout : Layout) (more : List (String × Nat)) : Layout :=
  { layout with labels := ⟨(layout.labels.toList ++ more).toArray⟩ }

theorem insert_eq_append (labels : Labels) (name : String) (address : Nat) :
    labels.insert name address = ⟨(labels.toList ++ [(name, address)]).toArray⟩ :=
  congrArg Labels.mk (Array.ext' (by simp [Labels.toList]))

theorem addLabel_eq_withLabels {layout : Layout} {label : Option String} (number : Nat)
    (hidentifier : ∀ name, label = some name → isIdentifier name.toList = true)
    (hfresh : ∀ name, label = some name → ∀ entry ∈ layout.labels.toList, entry.1 ≠ name) :
    (label.map String.toList).elim layout (layout.addLabel number) =
      layout.withLabels (label.map fun name => (name, 4 * layout.statements.size)).toList := by
  cases label with
  | none => simp [Layout.withLabels, Labels.toList]
  | some name =>
      have hadd := addLabel_of_fresh number (hidentifier name rfl) (hfresh name rfl)
      rw [insert_eq_append] at hadd
      exact hadd

/-- Lines are laid out one behind the other. No label is refused if all can be told apart. -/
theorem foldl_addRow (lines : List Line) (number : Nat) (layout : Layout)
    (hdistinct : ((layout.labels.toList ++ Line.labels layout.statements.size lines).map
      capitals).Nodup) :
    ∃ placed, Places number layout.statements.size lines placed ∧
      (rowsFrom number (lines.map Line.text)).foldl Layout.addRow layout =
        { layout.withLabels (Line.labels layout.statements.size lines) with
          statements := layout.statements ++ placed.toArray } := by
  induction lines generalizing number layout with
  | nil =>
      refine ⟨[], .nil _ _, ?_⟩
      simp [Line.labels, Layout.withLabels, Labels.toList]
  | cons line lines ih =>
      rw [List.map_cons, rowsFrom_cons, List.foldl_append]
      obtain ⟨label, statement, core, text, hspelled, hframed⟩ := line
      rcases ofLine?_of_spells hspelled hframed number with
        ⟨rfl, rfl, hrow⟩ | ⟨s, hrow, hreads⟩
      · obtain ⟨placed, hplaces, hfold⟩ := ih (number + 1) layout hdistinct
        refine ⟨placed, .skip rfl hplaces, ?_⟩
        rw [hrow]
        exact hfold
      · have hidentifier : ∀ name, label = some name → isIdentifier name.toList = true := by
          rintro name rfl
          exact hspelled.isIdentifier
        have hfresh : ∀ name, label = some name →
            ∀ entry ∈ layout.labels.toList, entry.1 ≠ name := by
          rintro name rfl entry hentry rfl
          rw [Line.labels, List.map_append, List.nodup_append] at hdistinct
          exact hdistinct.2.2 _ (List.mem_map_of_mem hentry) _
            (List.mem_map_of_mem (List.mem_append_left _ List.mem_cons_self)) rfl
        have hlabel := addLabel_eq_withLabels number hidentifier hfresh
        rw [Line.labels, ← List.append_assoc] at hdistinct
        rw [hrow, Option.toList_some, List.foldl_cons, List.foldl_nil, Layout.addRow]
        dsimp only
        rw [hlabel]
        cases hreads with
        | none =>
            obtain ⟨placed, hplaces, hfold⟩ := ih (number + 1) (layout.withLabels
              (label.map fun name => (name, 4 * layout.statements.size)).toList) hdistinct
            refine ⟨placed, .skip rfl hplaces, ?_⟩
            rw [Layout.addStatement, if_pos rfl, hfold]
            simp [Layout.withLabels, Line.labels, Labels.toList]
        | some hne hread =>
            rename_i statement
            have hsize : (layout.statements.push ⟨number, layout.statements.size, core, s⟩).size =
                layout.statements.size + [statement].length := Array.size_push _
            obtain ⟨placed, hplaces, hfold⟩ := ih (number + 1) { layout.withLabels
                (label.map fun name => (name, 4 * layout.statements.size)).toList with
              statements := layout.statements.push ⟨number, layout.statements.size, core, s⟩ }
              (hsize ▸ hdistinct)
            rw [hsize] at hplaces hfold
            refine ⟨_ :: placed, .place rfl hread hplaces, ?_⟩
            rw [Layout.addStatement, if_neg hne]
            refine hfold.trans ?_
            simp [Layout.withLabels, Line.labels, Labels.toList]

/-! ## Labels -/

theorem isIdentifier_of_mem_labels {lines : List Line} {before : Nat} {entry : String × Nat}
    (h : entry ∈ Line.labels before lines) : isIdentifier entry.1.toList = true := by
  induction lines generalizing before with
  | nil => contradiction
  | cons line lines ih =>
      rw [Line.labels] at h
      rcases List.mem_append.1 h with hhere | hlater
      · obtain ⟨label, statement, core, text, hspelled, hframed⟩ := line
        cases label with
        | none => contradiction
        | some name =>
            obtain rfl := List.mem_singleton.1 hhere
            exact hspelled.isIdentifier
      · exact ih hlater

theorem lookup_eq_find? (entries : List (String × Nat)) (name : String) :
    entries.lookup name = (entries.find? fun entry => entry.1 == name).map (·.2) := by
  induction entries with
  | nil => rfl
  | cons entry entries ih =>
      rw [List.lookup_cons, List.find?_cons, ih, BEq.comm]
      cases entry.1 == name <;> rfl

theorem address?_eq_lookup (entries : List (String × Nat)) (name : String) :
    Labels.address? ⟨entries.toArray⟩ name = entries.lookup name := by
  rw [lookup_eq_find?, Labels.address?, List.find?_toArray]

variable {entries : List (String × Nat)} {name : String} {place : Nat}

theorem mem_of_lookup (h : entries.lookup name = some place) : (name, place) ∈ entries := by
  obtain ⟨before, behind, rfl, -⟩ := List.lookup_eq_some_iff.1 h
  exact List.mem_append_right before List.mem_cons_self

/-- A label that is there is found, if all can be told apart. -/
theorem lookup_of_mem (hdistinct : (entries.map capitals).Nodup) (h : (name, place) ∈ entries) :
    entries.lookup name = some place := by
  cases hlookup : entries.lookup name with
  | none =>
      rw [List.lookup_eq_none_iff] at hlookup
      have hne := hlookup _ h
      simp at hne
  | some other =>
      have hother := mem_of_lookup hlookup
      have heq : (name, other) = (name, place) :=
        List.inj_on_of_nodup_map hdistinct hother h rfl
      rw [(Prod.mk.inj heq).2]

theorem toUpper_toUpper_of_isIdentifier {s : List Char} (h : isIdentifier s = true) :
    (s.map Char.toUpper).map Char.toUpper = s.map Char.toUpper := by
  rw [List.map_map]
  apply List.map_congr_left
  intro c hc
  have hletter := of_isWordChar (p := fun c => c.toUpper.toUpper == c.toUpper)
    (by decide +kernel) (isWordChar_of_isIdentifier h c hc)
  exact beq_iff_eq.1 hletter

/-- The search in capitals finds the label itself, or nothing. -/
theorem address?_of_mem (hdistinct : (entries.map capitals).Nodup)
    (hidentifier : isIdentifier name.toList = true) (h : (name, place) ∈ entries) :
    Target.address? ⟨entries.toArray⟩ name = some place := by
  have hascii : ∀ c ∈ name.toList, c.toNat < 128 := fun c hc => by
    have hletter := of_isWordChar (p := fun c => decide (c.toNat < 128)) (by decide +kernel)
      (isWordChar_of_isIdentifier hidentifier c hc)
    exact of_decide_eq_true hletter
  rw [Target.address?, address?_eq_lookup, address?_eq_lookup, upper_of_ascii hascii]
  cases hlookup : entries.lookup (String.ofList (name.toList.map Char.toUpper)) with
  | none => rw [Option.none_or, lookup_of_mem hdistinct h]
  | some other =>
      have hother := mem_of_lookup hlookup
      have hsame : capitals (String.ofList (name.toList.map Char.toUpper), other) =
          capitals (name, place) := by
        rw [capitals, String.toList_ofList, toUpper_toUpper_of_isIdentifier hidentifier]
        rfl
      have heq := List.inj_on_of_nodup_map hdistinct hother h hsame
      rw [(Prod.mk.inj heq).2]
      rfl

/-! ## Assembly -/

/-- A statement stands for the instruction that it means, once its label is resolved. -/
theorem instruction_eq_meaning {statement : Statement} {labels : Labels} {address : String → Nat}
    (htarget : ∀ rs rt name, statement = .branch rs rt (.label name) →
      Target.address? labels name = some (address name)) (pc : Nat) (text : String) (line : Nat) :
    statement.instruction labels pc text line = .ok (statement.meaning address pc text line) := by
  cases statement with
  | alu => rfl
  | load => rfl
  | store => rfl
  | nop => rfl
  | branch rs rt target =>
      cases target with
      | label name =>
          rw [Statement.instruction, Target.resolve, htarget rs rt name rfl]
          rfl
      | offset words =>
          rw [Statement.instruction, Target.resolve, Int.mul_comm]
          rfl

theorem outcomes_of_places {number index : Nat} {lines : List Line} {placed : List Placed}
    {labels : Labels} {address : String → Nat} (h : Places number index lines placed)
    (htarget : ∀ line ∈ lines, ∀ rs rt name,
      line.statement = some (.branch rs rt (.label name)) →
      Target.address? labels name = some (address name)) :
    placed.map (Placed.outcome labels) =
      (Line.instructions address number index lines).map Outcome.instruction := by
  induction h with
  | nil => rfl
  | skip hnone _ ih =>
      rw [Line.instructions, hnone]
      exact ih fun line hline => htarget line (List.mem_cons_of_mem _ hline)
  | place hsome hread _ ih =>
      have hlater := ih fun line hline => htarget line (List.mem_cons_of_mem _ hline)
      have hhere := instruction_eq_meaning fun rs rt name heq =>
        htarget _ List.mem_cons_self rs rt name (hsome.trans (congrArg some heq))
      rw [List.map_cons, hlater, Line.instructions, hsome, Placed.outcome, hread]
      dsimp only
      rw [Placed.pc, hhere]
      rfl

/-- If every statement is an instruction, these are the listing. -/
theorem listing_of_instructions {layout : Layout} {instructions : List Instruction}
    (h : layout.outcomes = instructions.map Outcome.instruction) :
    layout.listing = .ok ⟨instructions, layout.diagnostics.toList, layout.labels⟩ := by
  have hfault : (instructions.map Outcome.instruction).findSome? Outcome.fault? = none := by
    rw [List.findSome?_eq_none_iff]
    intro outcome houtcome
    obtain ⟨instruction, -, rfl⟩ := List.mem_map.1 houtcome
    rfl
  have hinstructions :
      (instructions.map Outcome.instruction).filterMap Outcome.instruction? = instructions := by
    rw [List.filterMap_map]
    exact List.filterMap_some
  have hdiagnostics :
      (instructions.map Outcome.instruction).filterMap Outcome.diagnostic? = [] := by
    rw [List.filterMap_map, List.filterMap_eq_nil_iff]
    exact fun _ _ => rfl
  rw [Layout.listing, h, hfault, hinstructions, hdiagnostics, List.append_nil]

theorem Line.Consistent.assemble_eq {lines : List Line} (h : Line.Consistent lines) :
    assemble (Line.source lines) = .ok (Line.listing lines) := by
  obtain ⟨placed, hplaces, hfold⟩ := foldl_addRow lines 1 {} h.distinct
  have htarget : ∀ line ∈ lines, ∀ rs rt name,
      line.statement = some (.branch rs rt (.label name)) →
      Target.address? ⟨(Line.labels 0 lines).toArray⟩ name = some (Line.address lines name) := by
    intro line hline rs rt name hbranch
    obtain ⟨place, hplace⟩ := h.defined rs rt name (List.mem_filterMap.2 ⟨line, hline, hbranch⟩)
    rw [Line.address, lookup_of_mem h.distinct hplace]
    exact address?_of_mem h.distinct (isIdentifier_of_mem_labels hplace) hplace
  have houtcomes := outcomes_of_places hplaces htarget
  rw [assemble, rows_source, Layout.ofRows, hfold]
  refine (listing_of_instructions ?_).trans rfl
  rw [Layout.outcomes, Array.empty_append, List.toList_toArray]
  exact houtcomes

/-! ## Other spellings -/

theorem lookup_eq_of_perm {others : List (String × Nat)} (hdistinct : (entries.map capitals).Nodup)
    (hperm : others.Perm entries) (name : String) : others.lookup name = entries.lookup name := by
  have hothers : (others.map capitals).Nodup := (hperm.map capitals).nodup_iff.2 hdistinct
  cases hlookup : entries.lookup name with
  | some place => exact lookup_of_mem hothers (hperm.mem_iff.2 (mem_of_lookup hlookup))
  | none =>
      cases hother : others.lookup name with
      | none => rfl
      | some place =>
          rw [lookup_of_mem hdistinct (hperm.mem_iff.1 (mem_of_lookup hother))] at hlookup
          contradiction

theorem Line.Consistent.of_perm {lines others : List Line} (h : Line.Consistent lines)
    (hstatements : Line.statements others = Line.statements lines)
    (hlabels : (Line.labels 0 others).Perm (Line.labels 0 lines)) : Line.Consistent others where
  distinct := (hlabels.map capitals).nodup_iff.2 h.distinct
  defined rs rt name hmem := by
    rw [hstatements] at hmem
    obtain ⟨place, hplace⟩ := h.defined rs rt name hmem
    exact ⟨place, hlabels.mem_iff.2 hplace⟩

/-- But for what shows its spelling, an instruction depends on the statement and its place. -/
theorem bare_instructions (address : String → Nat) (number before : Nat) (lines : List Line) :
    (Line.instructions address number before lines).map Instruction.bare =
      ((Line.statements lines).zipIdx before).map fun (statement, index) =>
        (statement.meaning address (4 * index) "" 0).bare := by
  induction lines generalizing number before with
  | nil => rfl
  | cons line lines ih =>
      rw [Line.instructions, List.map_append, ih, Line.statements_cons, List.zipIdx_append,
        List.map_append, Nat.add_comm]
      congr 1
      cases line.statement with
      | none => rfl
      | some statement =>
          cases statement with
          | branch rs rt target => cases target <;> rfl
          | alu => rfl
          | load => rfl
          | store => rfl
          | nop => rfl

/-- Every spelling of a program is assembled to what the program means, and another spelling
of the same statements and labels makes no other difference than in texts and line numbers. -/
theorem assemble_source {lines : List Line} (h : Line.Consistent lines) :
    assemble (Line.source lines) = .ok (Line.listing lines) ∧
      ∀ others, Line.statements others = Line.statements lines →
        (Line.labels 0 others).Perm (Line.labels 0 lines) →
        assemble (Line.source others) = .ok (Line.listing others) ∧
          (Line.listing others).instructions.map Instruction.bare =
            (Line.listing lines).instructions.map Instruction.bare := by
  refine ⟨h.assemble_eq, fun others hstatements hlabels => ?_⟩
  refine ⟨(h.of_perm hstatements hlabels).assemble_eq, ?_⟩
  have haddress : Line.address others = Line.address lines := by
    funext name
    rw [Line.address, Line.address, lookup_eq_of_perm h.distinct hlabels]
  rw [Line.listing, Line.listing, bare_instructions, bare_instructions, hstatements, haddress]

/-- A label in front of its statement, a sign apart from its hexadecimal digits, and a branch
to a label at the end. -/
def oddLines : List Line :=
  have hgap : IsGap [' '] := ⟨List.forall_mem_singleton.2 (by decide), by decide⟩
  have hnone : IsGap [] := ⟨.nil, by decide⟩
  have hreturn : IsGap ['\r'] := ⟨List.forall_mem_singleton.2 (by decide), by decide⟩
  have h0 : SpellsRegister 0 ['r', '0', '0'] :=
    .intro (by decide) (List.all_eq_true.1 (by decide)) (by decide) (by decide) (by decide)
  have h1 : SpellsRegister 1 ['R', '1'] :=
    .intro (by decide) (List.all_eq_true.1 (by decide)) (by decide) (by decide) (by decide)
  have hoffset : SpellsInteger 1 (-31) ['-', ' ', '0', 'X', '1', 'f'] :=
    .minus (.hexadecimal (by decide) (by decide) (List.all_eq_true.1 (by decide)) (by decide))
  have hload : ['l', 'w'].map Char.toUpper = Opcode.lw.name.toList := by decide
  have hbranch : ['B', 'e', 'q'].map Char.toUpper = Opcode.beq.name.toList := by decide
  [⟨some "loop", some (.load 1 ⟨-31, 0⟩), _, _,
      .both (by decide) hgap hnone (.operands hload hgap (by decide)
        (.load h1 (.intro hoffset h0 hnone hgap hnone)) (.cons hnone hgap .nil)),
      .comment hgap hgap (by decide : '\n' ∉ ['!', '\r'])⟩,
    ⟨some "next", some (.branch 0 1 (.label "end")), _, _,
      .both (by decide) hnone hgap (.operands hbranch hgap (by decide)
        (.branch h0 h1 (.label (by decide))) (.cons hgap hnone (.cons hnone hgap .nil))),
      .plain hnone hreturn⟩,
    ⟨none, none, _, _, .blank, .plain hnone hgap⟩,
    ⟨some "end", none, _, _, .label (by decide) hnone, .plain hnone hnone⟩]

theorem consistent_oddLines : Line.Consistent oddLines where
  distinct := by decide +kernel
  defined := by
    have hstatements : Line.statements oddLines =
        [.load 1 ⟨-31, 0⟩, .branch 0 1 (.label "end")] := rfl
    have hlabels : Line.labels 0 oddLines = [("loop", 0), ("next", 4), ("end", 8)] := rfl
    rw [hstatements, hlabels]
    rintro rs rt name hmem
    simp only [List.mem_cons, List.not_mem_nil, or_false, reduceCtorEq, false_or,
      Statement.branch.injEq, Target.label.injEq] at hmem
    obtain ⟨-, -, rfl⟩ := hmem
    exact ⟨8, by decide⟩

/-- Case, white space and comments do not show in the listing, and the label at the end is found. -/
theorem assemble_oddLines :
    Line.Consistent oddLines ∧
      assemble " loop :lw R1, - 0X1f( r00) #!\r\nnext: Beq r00 ,R1, end\r\n \nend:" =
        .ok (Line.listing oddLines) := by
  have hsource : Line.source oddLines =
      " loop :lw R1, - 0X1f( r00) #!\r\nnext: Beq r00 ,R1, end\r\n \nend:" := by
    decide +kernel
  rw [← hsource]
  exact ⟨consistent_oddLines, (assemble_source consistent_oddLines).1⟩

end FiveStage.Asm
