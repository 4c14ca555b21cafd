import FiveStage.Proofs.Asm.Outcomes
import FiveStage.Proofs.Pipeline.Timing

/-!
# Programs without branches back

If no branch goes back, every step of the sequential machine takes it at least one word on, so a
program of `n` instructions ends after at most `n` slots (`exists_endsAfter_of_forward`). A slot
delays the next one by two cycles at most, since it is not a load and a taken branch at once,
which bounds the cycle that ends the run by `3 * n + 2` (`haltCycle_le`). Both bounds are
attained by `n` branches that are each taken to the instruction behind them.
-/

namespace FiveStage

open Pipeline

namespace Pipeline.Program

/-- Every instruction is at the address it was decoded for. -/
def Addressed (program : Program) : Prop :=
  ∀ (index : Nat) (instruction : Instruction),
    program[index]? = some instruction → instruction.pc = 4 * index

/-- Every branch goes to an address beyond its own. -/
def Forward (program : Program) : Prop :=
  ∀ instruction ∈ program, instruction.opcode = .beq →
    ∀ address ∈ instruction.target, instruction.pc < address

end Pipeline.Program

namespace Sequential.State

variable {program : Program} {start : State} {j k n : Nat}

/-! ## Slots -/

/-- The instruction that is executed next is at the program counter. -/
theorem pc_of_current? {state : State} {instruction : Instruction}
    (haddressed : program.Addressed) (haligned : 4 ∣ state.pc)
    (h : state.current? program = some instruction) : instruction.pc = state.pc := by
  rw [current?] at h
  split at h
  · contradiction
  · have hpc := haddressed _ instruction h
    omega

/-- A step goes one word on, or further. -/
theorem add_four_le_pc_onward {state : State} (hprogram : program.WellFormed)
    (haddressed : program.Addressed) (hforward : program.Forward) (haligned : 4 ∣ state.pc) :
    state.pc + 4 ≤ (state.onward program).pc := by
  have hnext := aligned_onward hprogram haligned
  cases hcurrent : state.current? program with
  | none =>
      rw [onward_of_none hcurrent]
      exact Int.le_refl _
  | some instruction =>
      rw [onward_of_some hcurrent] at hnext ⊢
      rw [pc_execute] at hnext ⊢
      cases htakes : state.takes instruction with
      | false => exact Int.le_refl _
      | true =>
          rw [htakes, if_pos rfl] at hnext
          rw [if_pos rfl]
          simp only [takes, Bool.and_eq_true, decide_eq_true_eq] at htakes
          have hmem := mem_of_current? hcurrent
          obtain ⟨address, htarget, -⟩ := (hprogram instruction hmem).target htakes.1
          have hbeyond := hforward instruction hmem htakes.1 address htarget
          rw [pc_of_current? haddressed haligned hcurrent] at hbeyond
          rw [htarget, Option.getD_some] at hnext ⊢
          -- Both addresses are on word boundaries, so further on is a word further on.
          omega

theorem four_mul_le_pc_path (hprogram : program.WellFormed) (haddressed : program.Addressed)
    (hforward : program.Forward) (haligned : 4 ∣ start.pc) (hstart : 0 ≤ start.pc) (j : Nat) :
    4 * (j : Int) ≤ (start.path program j).pc := by
  induction j with
  | zero => exact hstart
  | succ j ih =>
      have hstep := add_four_le_pc_onward hprogram haddressed hforward
        (aligned_path hprogram haligned j)
      rw [path_succ]
      omega

/-- There are at most as many slots as instructions. -/
theorem exists_endsAfter_of_forward (hprogram : program.WellFormed)
    (haddressed : program.Addressed) (hforward : program.Forward) (haligned : 4 ∣ start.pc)
    (hstart : 0 ≤ start.pc) : ∃ k, start.EndsAfter program k ∧ k ≤ program.size := by
  apply exists_endsAfter
  rw [isDone_steps, isDone, decide_eq_true_eq]
  exact four_mul_le_pc_path hprogram haddressed hforward haligned hstart program.size

/-! ## Cycles -/

theorem executeCycle_succ_le (program : Program) (start : State) (j : Nat) :
    start.executeCycle program (j + 1) ≤ start.executeCycle program j + 3 := by
  rw [executeCycle_succ]
  cases hload : start.isLoadUse program j with
  | false =>
      have htaken := Bool.toNat_le (start.isTaken program j)
      rw [Bool.toNat_false]
      omega
  | true =>
      rw [isTaken_of_isLoadUse hload, Bool.toNat_true, Bool.toNat_false]
      omega

theorem executeCycle_le (program : Program) (start : State) (j : Nat) :
    start.executeCycle program j ≤ 3 * j + 3 := by
  induction j with
  | zero => exact Nat.le_refl 3
  | succ j ih =>
      have hstep := executeCycle_succ_le program start j
      omega

/-- A run takes at most three cycles for each slot and two more. -/
theorem haltCycle_le (program : Program) (start : State) (k : Nat) :
    start.haltCycle program k ≤ 3 * k + 2 := by
  have hlast := executeCycle_le program start (k - 1)
  apply Nat.max_le.2
  refine ⟨drainCycle_le_iff.2 ?_, by omega⟩
  intro j hj _
  have hslot := executeCycle_le program start j
  omega

end Sequential.State

namespace Simulator

variable {simulator : Simulator}

theorem Ready.addressed (h : Ready simulator) : simulator.program.Addressed := by
  obtain ⟨hload, hclean, hpreset⟩ := h
  obtain ⟨hassemble, rfl⟩ := of_loadSource hload hclean
  obtain ⟨hprogram, -⟩ := state_of_preset hpreset
  rw [hprogram]
  intro index instruction hinstruction
  exact Asm.pc_of_assemble hassemble hclean (by simpa [load] using hinstruction)

/-- A ready simulator whose program has no branch back halts in some cycle up to
`3 * n + 2`, and stays halted. -/
theorem Ready.halts_of_forward (h : Ready simulator) (hprogram : simulator.program.isEmpty = false)
    (hforward : simulator.program.Forward) :
    ∃ m ≤ 3 * simulator.program.size + 2, ∀ n, (simulator.clocked n).halted = true ↔ m ≤ n := by
  have hrun := h.tracks.1
  obtain ⟨k, hends, hk⟩ := Sequential.State.exists_endsAfter_of_forward hrun.formed h.addressed
    hforward hrun.aligned (Int.le_refl 0)
  have hbound := Sequential.State.haltCycle_le simulator.program simulator.origin k
  refine ⟨simulator.origin.haltCycle simulator.program k, by omega, ?_⟩
  intro n
  exact (h.agrees n).halted.trans
    (Sequential.quiet_position_iff hends (pos_of_endsAfter hprogram hends))

end Simulator

end FiveStage
