import FiveStage.Proofs.Asm.WellFormed

/-!
# What a listing says about its layout

A layout has a listing if no statement of it faults, and the listing is then made of the
outcomes of its statements (`Layout.listing_eq_ok_iff`), each of which is an instruction or a
diagnostic that is found in it (`Layout.accounts`). Statements are numbered as they come, so in a
listing without diagnostics every instruction stands at the address it was decoded for
(`pc_of_assemble`).
-/

namespace FiveStage.Asm

theorem Layout.listing_eq_ok_iff {layout : Layout} {listing : Listing} :
    layout.listing = .ok listing ↔
      (∀ outcome ∈ layout.outcomes, outcome.fault? = none) ∧
        listing = {
          instructions := layout.outcomes.filterMap Outcome.instruction?
          diagnostics :=
            layout.diagnostics.toList ++ layout.outcomes.filterMap Outcome.diagnostic?
          labels := layout.labels } := by
  rw [← List.findSome?_eq_none_iff, Layout.listing]
  cases hfault : layout.outcomes.findSome? Outcome.fault? with
  | some fault => simp
  | none => simp [eq_comm]

theorem Placed.line_of_outcome {labels : Labels} {placed : Placed} {diagnostic : Diagnostic}
    (h : placed.outcome labels = .diagnostic diagnostic) : diagnostic.line = placed.line := by
  rw [Placed.outcome] at h
  split at h
  · contradiction
  · injection h with h
    rw [← h]
  · split at h
    · contradiction
    · injection h with h
      rw [← h]

/-- A listing has the instruction or the diagnostic of every statement. -/
theorem Layout.accounts {layout : Layout} {listing : Listing} (h : layout.listing = .ok listing)
    {placed : Placed} (hmem : placed ∈ layout.statements) :
    (∃ instruction ∈ listing.instructions,
        placed.outcome layout.labels = .instruction instruction) ∨
      ∃ diagnostic ∈ listing.diagnostics,
        placed.outcome layout.labels = .diagnostic diagnostic := by
  obtain ⟨hfault, rfl⟩ := listing_eq_ok_iff.1 h
  have houtcome : placed.outcome layout.labels ∈ layout.outcomes :=
    List.mem_map_of_mem (Array.mem_toList_iff.2 hmem)
  have hsound := hfault _ houtcome
  cases hcase : placed.outcome layout.labels with
  | instruction instruction =>
      rw [hcase] at houtcome
      exact .inl ⟨instruction, List.mem_filterMap.2 ⟨_, houtcome, rfl⟩, rfl⟩
  | diagnostic diagnostic =>
      rw [hcase] at houtcome
      have hfound : diagnostic ∈ layout.outcomes.filterMap Outcome.diagnostic? :=
        List.mem_filterMap.2 ⟨_, houtcome, rfl⟩
      exact .inr ⟨diagnostic, List.mem_append_right _ hfound, rfl⟩
  | fault fault =>
      rw [hcase] at hsound
      contradiction

/-! ## Places -/

/-- The place of every statement is the number of those before it. -/
def Layout.Numbered (layout : Layout) : Prop :=
  ∀ (index : Nat) (placed : Placed),
    layout.statements[index]? = some placed → placed.index = index

theorem Layout.Numbered.addStatement {layout : Layout} (h : layout.Numbered) (row : Row) :
    (layout.addStatement row).Numbered := by
  rw [Layout.addStatement]
  split
  · exact h
  · intro index placed hplaced
    rw [Array.getElem?_push] at hplaced
    split at hplaced
    · rename_i hlast
      obtain rfl := Option.some.inj hplaced
      exact hlast.symm
    · exact h index placed hplaced

theorem Layout.statements_addLabel (layout : Layout) (line : Nat) (label : List Char) :
    (layout.addLabel line label).statements = layout.statements := by
  simp only [addLabel]
  split
  · rfl
  · split <;> rfl

theorem Layout.Numbered.addRow {layout : Layout} (h : layout.Numbered) (row : Row) :
    (layout.addRow row).Numbered := by
  apply addStatement
  cases row.label with
  | none => exact h
  | some label =>
      intro index placed hplaced
      rw [Option.elim_some, statements_addLabel] at hplaced
      exact h index placed hplaced

theorem Layout.numbered_ofRows (rows : List Row) : (ofRows rows).Numbered := by
  apply ofRows_induction
  · intro index placed hplaced
    simp at hplaced
  · intro layout row h
    exact h.addRow row

/-! ## Listings without diagnostics -/

theorem Statement.place_instruction {statement : Statement} {labels : Labels} {pc : Int}
    {text : String} {line : Nat} {instruction : Instruction}
    (h : statement.instruction labels pc text line = .ok instruction) :
    instruction.pc = pc ∧ instruction.line = some (line : Int) := by
  cases statement with
  | branch rs rt target =>
      simp only [Statement.instruction] at h
      split at h
      · injection h with h
        rw [← h]
        exact ⟨rfl, rfl⟩
      · contradiction
  | _ =>
      injection h with h
      rw [← h]
      exact ⟨rfl, rfl⟩

theorem Placed.place_of_outcome {labels : Labels} {placed : Placed} {instruction : Instruction}
    (h : placed.outcome labels = .instruction instruction) :
    instruction.pc = placed.pc ∧ instruction.line = some (placed.line : Int) := by
  obtain ⟨statement, -, hdecoded⟩ := exists_statement_of_outcome h
  exact Statement.place_instruction hdecoded

theorem Placed.pc_of_outcome {labels : Labels} {placed : Placed} {instruction : Instruction}
    (h : placed.outcome labels = .instruction instruction) : instruction.pc = placed.pc :=
  (place_of_outcome h).1

/-- Without faults and diagnostics there are only instructions. -/
theorem eq_map_instruction {outcomes : List Outcome}
    (hfault : ∀ outcome ∈ outcomes, outcome.fault? = none)
    (hdiagnostic : outcomes.filterMap Outcome.diagnostic? = []) :
    outcomes = (outcomes.filterMap Outcome.instruction?).map Outcome.instruction := by
  induction outcomes with
  | nil => rfl
  | cons outcome outcomes ih =>
      obtain ⟨hhere, hlater⟩ := List.forall_mem_cons.1 hfault
      cases outcome with
      | instruction instruction => exact congrArg (_ :: ·) (ih hlater hdiagnostic)
      | diagnostic diagnostic => contradiction
      | fault fault => contradiction

/-- If nothing was wrong, every instruction is at the address it was decoded for. -/
theorem pc_of_assemble {source : String} {listing : Listing} (h : assemble source = .ok listing)
    (hclean : listing.isClean = true) {index : Nat} {instruction : Instruction}
    (hinstruction : listing.instructions[index]? = some instruction) :
    instruction.pc = 4 * index := by
  obtain ⟨hfault, rfl⟩ := Layout.listing_eq_ok_iff.1 h
  rw [Listing.isClean, List.isEmpty_iff, List.append_eq_nil_iff] at hclean
  have houtcomes := eq_map_instruction hfault hclean.2
  have houtcome : (Layout.ofRows (rows source)).outcomes[index]? =
      some (Outcome.instruction instruction) := by
    rw [houtcomes, List.getElem?_map, hinstruction, Option.map_some]
  rw [Layout.outcomes, List.getElem?_map, Option.map_eq_some_iff] at houtcome
  obtain ⟨placed, hplaced, houtcome⟩ := houtcome
  rw [Array.getElem?_toList] at hplaced
  rw [Placed.pc_of_outcome houtcome, Placed.pc, Layout.numbered_ofRows _ index placed hplaced,
    Int.natCast_mul]
  rfl

end FiveStage.Asm
