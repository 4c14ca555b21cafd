import FiveStage.Proofs.Machine.Ratios
import FiveStage.Proofs.Pipeline.Faulting
import FiveStage.Proofs.Pipeline.Tracking

/-!
# Cycles without faults

A cycle can fault in write-back, in execute and in decode, and each time over an instruction. So it
is enough to know what the latches hold: nothing, or a well-formed instruction with the control
lines and the destination that decoding it gives (`Latches.WellFormed`). A cycle keeps this up
(`State.wellFormed_step`) and has no fault (`State.fault_step_of_wellFormed`).

Nothing is assumed of the program counter, of registers and memory, or of the program that the
instructions in flight are from. The pipeline may have been moved to any address or put back
into the state of another run.
-/

namespace FiveStage.Pipeline

open Registers (IsIndex)

/-- A latch behind decode carries nothing, or a well-formed instruction with the control lines
and the destination that go with it. -/
inductive Genuine : Option Instruction → Control → Option Int → Prop
  | empty : Genuine none .nop none
  | carry {instruction : Instruction} (formed : instruction.WellFormed) :
    Genuine (some instruction) (.ofOpcode instruction.opcode) instruction.dest

/-- What is in the latches as long as all instructions come from an assembler. -/
structure Latches.WellFormed (latches : Latches) : Prop where
  ifId : ∀ instruction ∈ latches.ifId.instruction, instruction.WellFormed
  idEx : Genuine latches.idEx.instruction latches.idEx.control latches.idEx.dest
  exMem : Genuine latches.exMem.instruction latches.exMem.control latches.exMem.dest
  memWb : Genuine latches.memWb.instruction latches.memWb.control latches.memWb.dest

theorem Genuine.isIndex {instruction : Option Instruction} {control : Control} {dest : Option Int}
    (h : Genuine instruction control dest) : ∀ index ∈ dest, IsIndex index := by
  cases h with
  | empty => simp
  | carry hformed => exact hformed.dest

theorem Genuine.formed {instruction : Option Instruction} {control : Control} {dest : Option Int}
    (h : Genuine instruction control dest) : ∀ user ∈ instruction, user.WellFormed := by
  cases h with
  | empty => simp
  | carry hformed =>
      rintro _ ⟨⟩
      exact hformed

theorem Latches.wellFormed_empty : ({} : Latches).WellFormed where
  ifId := by simp
  idEx := .empty
  exMem := .empty
  memWb := .empty

/-! ## The stages -/

theorem genuine_ofSlot {registers : Registers} {pc : Int} {slot : Option Instruction}
    (h : ∀ instruction ∈ slot, instruction.WellFormed) :
    Genuine (IdEx.ofSlot registers pc slot).instruction (IdEx.ofSlot registers pc slot).control
      (IdEx.ofSlot registers pc slot).dest := by
  cases slot with
  | none => exact .empty
  | some instruction =>
      rw [IdEx.ofSlot]
      split
      · exact .empty
      · exact .carry (h instruction rfl)

theorem genuine_execute {latches : Latches}
    (h : Genuine latches.idEx.instruction latches.idEx.control latches.idEx.dest) :
    Genuine (execute latches).latch.instruction (execute latches).latch.control
      (execute latches).latch.dest := by
  rw [execute]
  dsimp only
  split
  · exact .empty
  · exact h

theorem genuine_accessMemory {memory : Memory} {latch : ExMem}
    (h : Genuine latch.instruction latch.control latch.dest) :
    Genuine (accessMemory memory latch).2.instruction (accessMemory memory latch).2.control
      (accessMemory memory latch).2.dest := by
  rw [accessMemory]
  split
  · exact .empty
  · exact h

theorem taken_le_branched (latches : Latches) (h : (execute latches).taken = true) :
    (execute latches).branched = true := by
  rw [execute] at h ⊢
  dsimp only at h ⊢
  split at h
  · contradiction
  · rename_i hbubble
    rw [if_neg hbubble]
    exact (Bool.and_eq_true_iff.1 h).1

namespace State

/-! ## The cycle -/

/-- What decode does with a well-formed instruction, which reads the registers behind
write-back. -/
def decoded (state : State) : Decoded :=
  (state.latches.ifId.wait? state.latches.idEx).elim
    (.issue (.ofSlot (retire state.core state.latches.memWb).registers state.latches.ifId.pc
      state.latches.ifId.instruction))
    .stall

variable {program : Program} {state : State}

/-- A cycle puts the results of all stages in place, and nothing comes in between. -/
theorem step_of_live (h : state.latches.WellFormed) (hlive : state.core.halted = false) :
    state.step program =
      (state.advance program
        (behind (retire state.core state.latches.memWb)
          (accessMemory state.core.memory state.latches.exMem).1 (execute state.latches))
        (accessMemory state.core.memory state.latches.exMem).2 (execute state.latches)
        state.decoded, none) :=
  step_eq_advance hlive (writeBack_of_isIndex h.memWb.isIndex) (nameable_execute h.idEx.formed)
    (decode_eq _ _ h.ifId)

theorem fault_step_of_wellFormed (h : state.latches.WellFormed) :
    (state.step program).2 = none := by
  cases hhalted : state.core.halted with
  | true => rw [step_of_halted hhalted]
  | false => rw [step_of_live h hhalted]

theorem cycles_step_of_live (h : state.latches.WellFormed) (hlive : state.core.halted = false) :
    (state.step program).1.core.counters.cycles = state.core.counters.cycles + 1 :=
  cycles_step hlive (fault_step_of_wellFormed h)

/-- The next instruction in front of decode is the one that waits there or one of the
program. -/
theorem wellFormed_front (hprogram : program.WellFormed) (h : state.latches.WellFormed) (pc : Int)
    (executed : Executed) (decoded : Decoded) :
    ∀ instruction ∈ (state.front program pc executed decoded).latch.instruction,
      instruction.WellFormed := by
  rw [front]
  split
  · simp [Front.redirect]
  · split
    · exact h.ifId
    · exact hprogram.fetch? pc

theorem wellFormed_step (hprogram : program.WellFormed) (h : state.latches.WellFormed) :
    (state.step program).1.latches.WellFormed := by
  cases hhalted : state.core.halted with
  | true => rw [step_of_halted hhalted]; exact h
  | false =>
      rw [step_of_live h hhalted]
      constructor
      · exact wellFormed_front hprogram h _ _ _
      · rw [idEx_advance]
        split
        · exact .empty
        · rw [decoded]
          cases state.latches.ifId.wait? state.latches.idEx with
          | some register => exact .empty
          | none => exact genuine_ofSlot h.ifId
      · exact genuine_execute h.idEx
      · exact genuine_accessMemory h.exMem

/-- The late stages count branches, of which some are taken, and no cycles. -/
theorem plausible_late {clocks : Nat} (h : state.core.counters.Plausible clocks) :
    state.late.counters.Plausible clocks := by
  obtain ⟨hcycles, hclocks, hmispredictions, hbranches⟩ := h
  have htaken := taken_le_branched state.latches
  rw [late]
  constructor
  · rw [cycles_behind]
    exact hcycles
  · rw [cycles_behind]
    exact hclocks
  · rw [mispredictions_behind _ _ _ htaken]
    show 0 ≤ state.core.counters.mispredictions + _
    split <;> omega
  · rw [mispredictions_behind _ _ _ htaken, branches_behind]
    show state.core.counters.mispredictions + _ ≤ state.core.counters.branches + _
    cases hexecuted : (execute state.latches).taken with
    | true => rw [htaken hexecuted]; simpa using hbranches
    | false =>
        rw [if_neg Bool.false_ne_true]
        split <;> omega

theorem plausible_broken {clocks : Nat} (h : state.core.counters.Plausible clocks) :
    state.broken.counters.Plausible clocks := by
  have hretire : (retire state.core state.latches.memWb).counters.Plausible clocks :=
    ⟨h.cycles_nonneg, h.cycles_le, h.mispredictions_nonneg, h.mispredictions_le⟩
  exact broken_cases (motive := fun core => core.counters.Plausible clocks) state hretire hretire
    (plausible_late h)

/-- The counters stay plausible under any program, in cycles with faults as well. -/
theorem plausible_step {clocks : Nat} (h : state.core.counters.Plausible clocks) :
    (state.step program).1.core.counters.Plausible (clocks + 1) := by
  cases hhalted : state.core.halted with
  | true => rw [step_of_halted hhalted]; exact h.succ
  | false =>
      obtain ⟨fault, log, -, hstep⟩ | ⟨decoded, -, -, hstep⟩ := step_cases program hhalted
      all_goals rw [hstep]
      · exact (plausible_broken h).succ
      · obtain ⟨hcycles, hclocks, hmispredictions, hbranches⟩ := plausible_late h
        refine ⟨?_, ?_, hmispredictions, hbranches⟩
        · rw [cycles_advance]
          omega
        · rw [cycles_advance]
          omega

end State

end FiveStage.Pipeline
