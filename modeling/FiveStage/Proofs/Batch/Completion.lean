import FiveStage.Proofs.Batch.Clocking
import FiveStage.Proofs.Sequential.Forward

/-!
# Batch runs that end

A batch run of a program without diagnostics clocks a ready simulator, which never faults
(`run_eq_of_clean`), and the run is in order if the simulator is halted when the budget is used up
(`runLoaded_of_halted`). Without branches back it is with a budget of `3 * n + 2` cycles for `n`
instructions, whatever memory and registers hold (`completes_of_forward`).
-/

namespace FiveStage

open Asm Pipeline
open Registers (IsIndex)

namespace Batch

variable {simulator : Simulator} {source : String} {listing : Listing} {options : Options}

/-- A run that is over within its budget has nothing to report, however long the budget is. -/
theorem runLoaded_of_halted (h : simulator.Ready)
    (hhalted : (simulator.clocked options.maxCycles.toNat).halted = true) :
    ∃ result, runLoaded simulator options = .ok result ∧ result.isOk = true := by
  obtain ⟨stop, hends⟩ := simulator.exists_endsIn options.maxCycles.toNat
  rw [runLoaded, clock_eq h.fault_step (budget_of_ready h _) hends]
  dsimp only
  rw [shortfall_of_halted (hends.halted_eq.trans hhalted)]
  exact ⟨_, rfl, rfl⟩

/-- A program of `n` instructions without a branch back halts within `3 * n + 2` cycles from any
registers and memory, and so a batch run of it with that budget is in order, with any memory that
there can be. -/
theorem completes_of_forward (hassemble : assemble source = .ok listing)
    (hclean : listing.isClean = true) (hsome : listing.instructions ≠ [])
    (hforward : Program.Forward listing.instructions.toArray) :
    (∀ simulator : Simulator, simulator.Ready →
        simulator.program = listing.instructions.toArray →
        ∃ m ≤ 3 * listing.instructions.length + 2,
          ∀ n, (simulator.clocked n).halted = true ↔ m ≤ n) ∧
      ∀ (options : Options) (fresh : Simulator),
        Simulator.ofMemorySize options.memorySize = .ok fresh →
        (∀ entry ∈ options.registers, IsIndex entry.1) →
        3 * (listing.instructions.length : Int) + 2 ≤ options.maxCycles →
        ∃ result, run source options = .ok result ∧ result.isOk = true := by
  have hhalts : ∀ simulator : Simulator, simulator.Ready →
      simulator.program = listing.instructions.toArray →
      ∃ m ≤ 3 * listing.instructions.length + 2,
        ∀ n, (simulator.clocked n).halted = true ↔ m ≤ n := by
    intro simulator hready hprogram
    have hnonempty : simulator.program.isEmpty = false := by
      rw [hprogram]
      simpa using hsome
    obtain ⟨m, hm, hiff⟩ := hready.halts_of_forward hnonempty (hprogram ▸ hforward)
    rw [hprogram, List.size_toArray] at hm
    exact ⟨m, hm, hiff⟩
  refine ⟨hhalts, ?_⟩
  intro options fresh hfresh hregisters hcycles
  obtain ⟨ready, hready, hprogram, hrun⟩ := run_eq_of_clean hfresh hassemble hclean hregisters
  obtain ⟨m, hm, hiff⟩ := hhalts ready hready hprogram
  rw [hrun]
  exact runLoaded_of_halted hready ((hiff _).2 (by omega))

/-- Two branches that are each taken to the instruction behind them. -/
def hopsSource : String := "BEQ R0, R0, 0\nBEQ R0, R0, 0"

def hops : Listing := (assemble hopsSource).toOption.getD ⟨[], [], {}⟩

def hopsOptions (maxCycles : Int) : Options :=
  { memorySize := 1, maxCycles, registers := [(31, 7)], memory := [(0, 5)] }

/-- Of the eight cycles that the two branches may take they need every one. -/
theorem completes_hops :
    assemble hopsSource = .ok hops ∧ hops.isClean = true ∧ hops.instructions ≠ [] ∧
      Program.Forward hops.instructions.toArray ∧
      (∃ result, run hopsSource (hopsOptions 8) = .ok result ∧ result.isOk = true) ∧
      (run hopsSource (hopsOptions 7)).toOption.map Result.isOk = some false := by
  have hassemble : assemble hopsSource = .ok hops := by decide +kernel
  have hclean : hops.isClean = true := by decide +kernel
  have hlength : hops.instructions.length = 2 := by decide +kernel
  have hsome : hops.instructions ≠ [] := List.ne_nil_of_length_pos (by omega)
  have hforward : Program.Forward hops.instructions.toArray := by
    have hall : ∀ instruction ∈ hops.instructions, instruction.opcode = .beq →
        ∀ address ∈ instruction.target, instruction.pc < address := by
      decide +kernel
    intro instruction hmem
    exact hall instruction (List.mem_toArray.1 hmem)
  have hregisters : ∀ entry ∈ (hopsOptions 8).registers, IsIndex entry.1 :=
    List.forall_mem_singleton.2 ⟨by decide, by decide⟩
  refine ⟨hassemble, hclean, hsome, hforward, ?_, by decide +kernel⟩
  apply (completes_of_forward hassemble hclean hsome hforward).2 (hopsOptions 8)
  · exact Simulator.ofMemorySize_of_fitsIndex (by decide) (by decide)
  · exact hregisters
  · rw [hlength]
    decide

end Batch

end FiveStage
