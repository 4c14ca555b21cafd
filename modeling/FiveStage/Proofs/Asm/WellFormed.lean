import FiveStage.Asm.Listing
import FiveStage.Proofs.Machine.Commit

/-!
# What assembled instructions have in common

An assembler can be trusted with more than the type of an instruction says: operations are
those of the instruction set, registers exist, a load writes the register it names, and a
branch has a target on a word boundary (`wellFormed_of_assemble`). This holds for every
instruction of a listing, also where other lines have diagnostics, and it is all that a
machine running the instructions has to know about where they came from.
-/

namespace FiveStage

open Registers (IsIndex)

/-- The properties of an instruction that every machine relies on. -/
structure Instruction.WellFormed (instruction : Instruction) : Prop where
  known : ∀ name, instruction.opcode ≠ .other name
  rs : ∀ index ∈ instruction.rs, IsIndex index
  rt : ∀ index ∈ instruction.rt, IsIndex index
  dest : ∀ index ∈ instruction.dest, IsIndex index
  loadDest : instruction.opcode = .lw → instruction.dest = instruction.rt
  target : instruction.opcode = .beq → ∃ address, instruction.target = some address ∧ 4 ∣ address

theorem Instruction.WellFormed.isIndex_of_mem_sources {instruction : Instruction}
    (h : instruction.WellFormed) {register : Int} (hreads : register ∈ instruction.sources) :
    IsIndex register := by
  rw [Instruction.sources] at hreads
  split at hreads
  · exact h.rs register (Option.mem_toList.1 hreads)
  iterate 3
    · obtain hrs | hrt := List.mem_append.1 hreads
      · exact h.rs register (Option.mem_toList.1 hrs)
      · exact h.rt register (Option.mem_toList.1 hrt)
  iterate 2 contradiction

namespace Asm

theorem isIndex_val (register : Fin 32) : IsIndex register.val := by
  have := register.isLt
  constructor <;> omega

/-- Label addresses are on word boundaries. -/
def Labels.Aligned (labels : Labels) : Prop := ∀ entry ∈ labels.toList, 4 ∣ entry.2

theorem Labels.Aligned.insert {labels : Labels} {name : String} {address : Nat}
    (h : labels.Aligned) (haddress : 4 ∣ address) : (labels.insert name address).Aligned := by
  intro entry hentry
  rw [Labels.toList_insert, List.mem_append, List.mem_singleton] at hentry
  rcases hentry with hentry | rfl
  · exact h entry hentry
  · exact haddress

/-- The address of a label is that of one of its definitions. -/
theorem Labels.exists_mem_of_address? {labels : Labels} {name : String} {address : Nat}
    (h : labels.address? name = some address) : ∃ entry ∈ labels.toList, entry.2 = address := by
  obtain ⟨entry, hentry, rfl⟩ := Option.map_eq_some_iff.1 h
  exact ⟨entry, Array.mem_toList_iff.2 (Array.mem_of_find?_eq_some hentry), rfl⟩

theorem Labels.Aligned.address? {labels : Labels} {name : String} {address : Nat}
    (h : labels.Aligned) (hfound : labels.address? name = some address) : 4 ∣ address := by
  obtain ⟨entry, hentry, rfl⟩ := exists_mem_of_address? hfound
  exact h entry hentry

theorem Layout.aligned_addRow {layout : Layout} {row : Row} (h : layout.labels.Aligned) :
    (layout.addRow row).labels.Aligned := by
  have hstatement : ∀ layout : Layout, (layout.addStatement row).labels = layout.labels := by
    intro layout
    rw [Layout.addStatement]
    split <;> rfl
  rw [Layout.addRow, hstatement]
  cases row.label with
  | none => exact h
  | some label =>
      simp only [Option.elim_some, Layout.addLabel]
      split
      · exact h
      · split
        · exact h
        · exact h.insert (Nat.dvd_mul_right 4 _)

/-- What holds of the empty layout and is kept by every row holds of all layouts. -/
theorem Layout.ofRows_induction {motive : Layout → Prop} (empty : motive {})
    (addRow : ∀ (layout : Layout) (row : Row), motive layout → motive (layout.addRow row))
    (rows : List Row) : motive (ofRows rows) := by
  have hfold : ∀ layout : Layout, motive layout → motive (rows.foldl Layout.addRow layout) := by
    induction rows with
    | nil => exact fun _ h => h
    | cons row rows ih => exact fun layout h => ih _ (addRow layout row h)
  exact hfold {} empty

theorem Layout.aligned_ofRows (rows : List Row) : (ofRows rows).labels.Aligned := by
  apply ofRows_induction (motive := fun layout => layout.labels.Aligned)
  · intro entry hentry
    simp [Labels.toList] at hentry
  · intro layout row h
    exact aligned_addRow h

theorem Target.aligned_resolve {labels : Labels} {pc words address : Int} {target : Target}
    (hlabels : labels.Aligned) (hpc : 4 ∣ pc)
    (h : target.resolve labels pc = .ok (words, address)) : 4 ∣ address := by
  cases target with
  | offset offset =>
      simp only [Target.resolve, Except.ok.injEq, Prod.mk.injEq] at h
      omega
  | label name =>
      simp only [Target.resolve] at h
      split at h
      · rename_i found hfound
        simp only [Except.ok.injEq, Prod.mk.injEq] at h
        rw [← h.2]
        rcases Option.or_eq_some_iff.1 hfound with hcapital | ⟨-, hwritten⟩
        · exact Int.natCast_dvd_natCast.2 (hlabels.address? hcapital)
        · exact Int.natCast_dvd_natCast.2 (hlabels.address? hwritten)
      · contradiction

theorem Statement.wellFormed_instruction {statement : Statement} {labels : Labels} {pc : Int}
    {text : String} {line : Nat} {instruction : Instruction}
    (hlabels : labels.Aligned) (hpc : 4 ∣ pc)
    (h : statement.instruction labels pc text line = .ok instruction) :
    instruction.WellFormed := by
  cases statement with
  | alu op rd rs rt =>
      injection h with h
      subst h
      constructor <;> simp [isIndex_val]
  | load rt address =>
      injection h with h
      subst h
      constructor <;> simp [isIndex_val]
  | store rt address =>
      injection h with h
      subst h
      constructor <;> simp [isIndex_val]
  | branch rs rt target =>
      simp only [Statement.instruction] at h
      split at h
      · rename_i words address hresolve
        have haligned := target.aligned_resolve hlabels hpc hresolve
        injection h with h
        subst h
        constructor <;> simp [isIndex_val, haligned]
      · contradiction
  | nop =>
      injection h with h
      subst h
      constructor <;> simp

/-- An instruction comes from a statement whose labels are resolved. -/
theorem Placed.exists_statement_of_outcome {labels : Labels} {placed : Placed}
    {instruction : Instruction} (h : placed.outcome labels = .instruction instruction) :
    ∃ statement, Statement.ofText placed.statement = .ok statement ∧
      statement.instruction labels placed.pc (String.ofList placed.text) placed.line =
        .ok instruction := by
  rw [Placed.outcome] at h
  split at h
  · contradiction
  · contradiction
  · rename_i statement hread
    split at h
    · rename_i hdecoded
      injection h with h
      exact ⟨statement, hread, h ▸ hdecoded⟩
    · contradiction

theorem Placed.wellFormed_of_outcome {labels : Labels} {placed : Placed}
    {instruction : Instruction} (hlabels : labels.Aligned)
    (h : placed.outcome labels = .instruction instruction) : instruction.WellFormed := by
  have hpc : (4 : Int) ∣ (placed.pc : Nat) :=
    Int.natCast_dvd_natCast.2 (Nat.dvd_mul_right 4 placed.index)
  obtain ⟨statement, -, hdecoded⟩ := exists_statement_of_outcome h
  exact Statement.wellFormed_instruction hlabels hpc hdecoded

theorem Outcome.instruction?_eq_some_iff {outcome : Outcome} {instruction : Instruction} :
    outcome.instruction? = some instruction ↔ outcome = .instruction instruction := by
  cases outcome <;> simp [Outcome.instruction?]

/-- Diagnostics elsewhere do not matter. -/
theorem wellFormed_of_assemble {source : String} {listing : Listing}
    (h : assemble source = .ok listing) :
    ∀ instruction ∈ listing.instructions, instruction.WellFormed := by
  simp only [assemble, Layout.listing] at h
  split at h
  · contradiction
  · injection h with h
    subst h
    intro instruction hmem
    obtain ⟨outcome, houtcome, hinstruction⟩ := List.mem_filterMap.1 hmem
    obtain ⟨placed, -, rfl⟩ := List.mem_map.1 houtcome
    exact Placed.wellFormed_of_outcome (Layout.aligned_ofRows (rows source))
      (Outcome.instruction?_eq_some_iff.1 hinstruction)

end Asm

end FiveStage
