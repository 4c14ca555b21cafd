import FiveStage.Proofs.Machine.Commit
import FiveStage.Simulator

/-!
# Loading and seeding

A text is loaded exactly if assembling it gives a listing without diagnostics. Seeding then has
one way to fail: the first register write for a register that does not exist ends it, whatever
is written to memory (`preset_eq_error_iff`).
-/

namespace FiveStage

open Asm
open Registers (IsIndex)

/-- The first register among writes that does not exist. -/
def strayRegister? (writes : List (Int × Int)) : Option Int :=
  (writes.find? fun write => ¬ IsIndex write.1).map (·.1)

theorem strayRegister?_eq_none_iff {writes : List (Int × Int)} :
    strayRegister? writes = none ↔ ∀ write ∈ writes, IsIndex write.1 := by
  simp [strayRegister?, List.find?_eq_none]

theorem strayRegister?_cons_of_isIndex {write : Int × Int} (h : IsIndex write.1)
    (writes : List (Int × Int)) : strayRegister? (write :: writes) = strayRegister? writes := by
  simp [strayRegister?, h]

theorem strayRegister?_cons_of_not_isIndex {write : Int × Int} (h : ¬ IsIndex write.1)
    (writes : List (Int × Int)) : strayRegister? (write :: writes) = some write.1 := by
  simp [strayRegister?, h]

/-- Register writes end at the first register that does not exist. -/
theorem Core.fault_presetRegisters (core : Core) (writes : List (Int × Int)) :
    (core.presetRegisters writes).2 = (strayRegister? writes).map Fault.registerWrite := by
  induction writes generalizing core with
  | nil => rfl
  | cons write writes ih =>
      obtain ⟨index, value⟩ := write
      by_cases hindex : IsIndex index
      · rw [Core.presetRegisters_cons_of_ok (Registers.write_eq_commit core.registers value hindex),
          strayRegister?_cons_of_isIndex hindex, ih]
      · rw [Core.presetRegisters_cons_of_error (Registers.write_eq_error hindex _ value),
          strayRegister?_cons_of_not_isIndex hindex]
        rfl

namespace Simulator

variable {simulator : Simulator} {registers memory : List (Int × Int)} {source : String}
  {listing : Listing}

theorem preset_eq_error_iff {fault : Fault} :
    simulator.preset registers memory = .error fault ↔
      ∃ index, strayRegister? registers = some index ∧ fault = .registerWrite index := by
  have hfault := Core.fault_presetRegisters simulator.state.core registers
  rw [preset, Core.preset]
  rcases hpreset : simulator.state.core.presetRegisters registers with ⟨core, _ | found⟩
  · rw [hpreset] at hfault
    have hnone : strayRegister? registers = none := Option.map_eq_none_iff.1 hfault.symm
    simp [hnone]
  · rw [hpreset] at hfault
    obtain ⟨index, hindex, rfl⟩ := Option.map_eq_some_iff.1 hfault.symm
    simp [hindex, eq_comm]

/-- Registers that exist can all be seeded, and others cannot. -/
theorem exists_preset_iff :
    (∃ ready, simulator.preset registers memory = .ok ready) ↔
      ∀ write ∈ registers, IsIndex write.1 := by
  rw [← strayRegister?_eq_none_iff]
  constructor
  · rintro ⟨ready, hready⟩
    cases hstray : strayRegister? registers with
    | none => rfl
    | some index =>
        have herror : simulator.preset registers memory = .error (.registerWrite index) :=
          preset_eq_error_iff.2 ⟨index, hstray, rfl⟩
        rw [hready] at herror
        contradiction
  · intro hnone
    cases hpreset : simulator.preset registers memory with
    | ok ready => exact ⟨ready, rfl⟩
    | error fault =>
        obtain ⟨index, hindex, -⟩ := preset_eq_error_iff.1 hpreset
        rw [hnone] at hindex
        contradiction

theorem loadSource_of_fault {fault : Fault} (h : assemble source = .error fault) :
    simulator.loadSource source = .error fault := by
  rw [loadSource, h]

theorem loadSource_of_clean (h : assemble source = .ok listing) (hclean : listing.isClean = true) :
    simulator.loadSource source = .ok (simulator.load listing.instructions, listing) := by
  rw [loadSource, h]
  dsimp only
  rw [if_pos hclean]

theorem loadSource_of_unclean (h : assemble source = .ok listing)
    (hunclean : listing.isClean = false) :
    simulator.loadSource source = .ok (simulator, listing) := by
  rw [loadSource, h]
  dsimp only
  rw [hunclean, if_neg Bool.false_ne_true]

end Simulator

end FiveStage
