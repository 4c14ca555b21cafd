import FiveStage.Proofs.Pipeline.Words
import FiveStage.Proofs.Simulator.Hazards

/-!
# Misfits on a bench

A simulator can be given instructions that no assembler made, with registers that do not exist,
fields that are missing and immediates of any size. Two things hold for them as well. Registers,
memory and latches hold words and nothing else, and `R0` is zero (`Bench.holdsWords_run`). And a
cycle that ends in a fault does no harm beyond the writes that were due: trying again has the same
fault and changes nothing more, until the simulator is loaded, reset or put into another state
(`Bench.stuck_run`).
-/

namespace FiveStage

open Pipeline

/-- The operation does nothing to the simulator but clock it. -/
def Operation.Retries (operation : Operation) : Prop := operation = .step ∨ operation.Spares

theorem Operation.loads_any (operation : Operation) : operation.Loads fun _ => True := by
  cases operation with
  | load source => exact fun _ _ => trivial
  | _ => trivial

theorem invariant_holdsWords {size : Int} (hsize : 0 ≤ size) :
    Invariant size (fun _ => True) fun _ state => state.HoldsWords size where
  empty := trivial
  start := by
    intro program _
    refine ⟨Registers.sound_zero, Memory.sound_iff.1 (Memory.sound_zeros size), ?_, ?_⟩
    · show ((Memory.zeros size).size : Int) = size
      rw [Memory.size_zeros, Int.toNat_of_nonneg hsize]
    · exact ⟨Word.inRange_zero, Word.inRange_zero, Word.inRange_zero, Word.inRange_zero,
        Word.inRange_zero⟩
  succ h := h
  step _ h := State.holdsWords_step _ h
  edit := by
    intro _ state edit h
    cases edit with
    | pc address => exact ⟨h.registers, h.memory, h.memorySize, h.latches⟩
    | halted value => exact ⟨h.registers, h.memory, h.memorySize, h.latches⟩
    | register index value =>
        exact ⟨h.registers.commit (some (index, value)), h.memory, h.memorySize, h.latches⟩
    | memory address value =>
        refine ⟨h.registers, ?_, ?_, h.latches⟩
        · exact Memory.sound_iff.1 ((Memory.sound_iff.2 h.memory).write address value)
        · exact (congrArg Nat.cast (Memory.size_write _ _ _)).trans h.memorySize

theorem invariant_counters (size : Int) :
    Invariant size (fun _ => True) fun clocks state => state.core.counters.Plausible clocks where
  empty := trivial
  start _ := ⟨le_refl 0, le_refl 0, le_refl 0, le_refl 0⟩
  succ h := h.succ
  step _ h := State.plausible_step h
  edit edit h := by
    rw [Edit.counters_apply]
    exact h

namespace Bench

variable {size : Int} {fresh : Simulator} {operations : List Operation}

/-- Whatever was loaded, done and changed by hand, the state of the simulator and all that were
taken out of it hold words, and so do their snapshots. -/
theorem holdsWords_run (hfresh : Simulator.ofMemorySize size = .ok fresh)
    (operations : List Operation) :
    let bench := Bench.run { simulator := fresh } operations
    ∀ state, state = bench.simulator.state ∨ state ∈ bench.saved →
      state.HoldsWords size ∧ state.snapshot.HoldsWords size := by
  intro bench state hstate
  have hsize : 0 ≤ size := by
    obtain ⟨hsize, -⟩ := Simulator.ofMemorySize_eq_ok_iff.1 hfresh
    omega
  have hsatisfies : bench.Satisfies size (fun _ => True) (fun _ state => state.HoldsWords size)
      (operations.count .step) :=
    (invariant_holdsWords hsize).run_fresh hfresh fun operation _ => operation.loads_any
  have hholds : state.HoldsWords size := by
    obtain rfl | hsaved := hstate
    · exact hsatisfies.current
    · exact hsatisfies.saved state hsaved
  exact ⟨hholds, hholds.snapshot⟩

/-- An instruction that was put together by hand. -/
def misfit (opcode : Opcode) (rs rt dest immediate : Option Int) : Instruction where
  opcode
  pc := 0
  text := ""
  rd := none
  rs
  rt
  dest
  immediate
  target := none
  line := none

/-- Doubles `R2` by another name of it, stores it at a large address, does nothing, and adds a
register that does not exist. -/
def misfits : List Instruction :=
  [misfit (.alu .add) (some (-30)) (some 2) (some 1) none,
    misfit .sw none (some 2) none (some (2 ^ 40)),
    misfit (.other "MUL") (some (-1)) none (some 99) none,
    misfit (.alu .add) (some 40) none (some 3) none]

/-- Up to the cycle in which the last of them is decoded, with the largest word in `R2`. -/
def misfitting : List Operation :=
  [.install misfits, .save, .edit 0 (.register 2 (2 ^ 31 - 1)), .edit 0 (.register 77 1),
    .restore 0, .step, .step, .step, .step]

/-- The sum wraps when the cycle with the fault writes it. -/
theorem holdsWords_misfitting :
    ∃ fresh, Simulator.ofMemorySize 1 = .ok fresh ∧
      let bench := Bench.run { simulator := fresh } (misfitting ++ [.step])
      bench.simulator.state.core.registers.words[1] = -2 ∧
        bench.simulator.state.HoldsWords 1 ∧ bench.simulator.snapshot.HoldsWords 1 := by
  have hfresh : Simulator.ofMemorySize 1 = .ok ⟨1, #[], Simulator.startState 1 #[]⟩ := rfl
  obtain ⟨hstate, hsnapshot⟩ := holdsWords_run hfresh (misfitting ++ [.step]) _ (.inl rfl)
  exact ⟨_, rfl, by decide +kernel, hstate, hsnapshot⟩

/-! ## Faults -/

/-- A simulator that is stuck remains so, in the same place and with the same registers and
memory. -/
theorem stuck_run_of_retries (bench : Bench) {program : Program} {fault : Fault}
    (hprogram : bench.simulator.program = program)
    (h : bench.simulator.state.Stuck program fault) {later : List Operation}
    (hretries : ∀ operation ∈ later, operation.Retries) :
    let reached := (bench.run later).simulator
    reached.program = program ∧ reached.state.Stuck program fault ∧
      bench.simulator.state.Stands reached.state ∧
      reached.state.core.registers = bench.simulator.state.core.registers ∧
      reached.state.core.memory = bench.simulator.state.core.memory := by
  induction later generalizing bench with
  | nil => exact ⟨hprogram, h, .refl _, rfl, rfl⟩
  | cons operation later ih =>
      obtain ⟨hhere, hlater⟩ := List.forall_mem_cons.1 hretries
      obtain rfl | hspares := hhere
      · subst hprogram
        obtain ⟨hreached, hstuck, hstands, hregisters, hmemory⟩ :=
          ih (bench.perform .step) rfl (State.stuck_step h.fault) hlater
        exact ⟨hreached, hstuck, (State.stands_of_fault h.fault).trans hstands,
          hregisters.trans h.registers, hmemory.trans h.memory⟩
      · have hsame := bench.simulator_perform_of_spares hspares
        have hrest := ih (bench.perform operation) (by rw [hsame]; exact hprogram)
          (by rw [hsame]; exact h) hlater
        rw [hsame] at hrest
        exact hrest

/-- After a cycle that ended in a fault, whatever was loaded, the machine stands where it stood. It
has changed at most the register that the last latch writes and the memory word that a store in the
latch before it addresses. As long as the simulator is only clocked and its state taken out, every
cycle has the same fault and changes no register and no memory word. A cycle without a fault has a
snapshot with both of its ratios, unless the clock ticked `2 ^ 1023` times. -/
theorem stuck_run (hfresh : Simulator.ofMemorySize size = .ok fresh)
    (operations : List Operation) :
    let bench := Bench.run { simulator := fresh } operations
    let before := bench.simulator.state
    let next := bench.perform .step
    let after := next.simulator.state
    (∀ fault, bench.simulator.step.2 = some fault →
        next.simulator.program = bench.simulator.program ∧ before.Stands after ∧
          (∀ index : Nat,
            after.core.registers.words[index]? ≠ before.core.registers.words[index]? →
            before.latches.memWb.commit? = some ((index : Int), before.latches.memWb.value)) ∧
          (∀ index : Nat,
            after.core.memory.words[index]? ≠ before.core.memory.words[index]? →
            before.latches.exMem.isBubble = false ∧
              before.latches.exMem.control.memWrite = true ∧
              Memory.wordIndex? before.latches.exMem.aluResult = some index) ∧
          ∀ later, (∀ operation ∈ later, operation.Retries) →
            let reached := (next.run later).simulator
            reached.step.2 = some fault ∧ reached.program = bench.simulator.program ∧
              before.Stands reached.state ∧
              reached.state.core.registers = after.core.registers ∧
              reached.state.core.memory = after.core.memory) ∧
      (bench.simulator.step.2 = none → operations.count .step + 1 < 2 ^ 1023 →
        (∃ ratio, after.snapshot.counters.cyclesPerInstruction = .ok ratio) ∧
          ∃ share, after.snapshot.counters.branchAccuracy = .ok share) := by
  intro bench before next after
  refine ⟨?_, ?_⟩
  · intro fault hfault
    have hstuck : after.Stuck bench.simulator.program fault := State.stuck_step hfault
    refine ⟨rfl, State.stands_of_fault hfault, ?_, ?_, ?_⟩
    · intro index hindex
      exact State.commit?_of_registers_ne hfault hindex
    · intro index hindex
      exact State.stores_of_memory_ne hfault hindex
    · intro later hretries
      obtain ⟨hprogram, hreached, hstands, hregisters, hmemory⟩ :=
        stuck_run_of_retries next rfl hstuck hretries
      refine ⟨?_, hprogram, (State.stands_of_fault hfault).trans hstands, hregisters, hmemory⟩
      rw [Simulator.step, hprogram]
      exact hreached.fault
  · intro _ hclocks
    have hbefore : before.core.counters.Plausible (operations.count .step) :=
      ((invariant_counters size).run_fresh hfresh fun operation _ => operation.loads_any).current
    have hafter : after.core.counters.Plausible (operations.count .step + 1) :=
      State.plausible_step hbefore
    exact ⟨hafter.exists_cyclesPerInstruction hclocks, hafter.exists_branchAccuracy⟩

/-- The fault is in decode, after a register and a memory word were written. -/
theorem stuck_misfitting :
    ∃ fresh, Simulator.ofMemorySize 1 = .ok fresh ∧
      let bench := Bench.run { simulator := fresh } misfitting
      let next := bench.perform .step
      bench.simulator.step.2 = some (.registerRead 40) ∧
        bench.simulator.state.core.registers.words[1] = 0 ∧
        next.simulator.state.core.registers.words[1] = -2 ∧
        bench.simulator.state.core.memory.words = #[0] ∧
        next.simulator.state.core.memory.words = #[2 ^ 31 - 1] ∧
        let reached := (next.run [.step, .save, .step]).simulator
        reached.step.2 = some (.registerRead 40) ∧
          bench.simulator.state.Stands reached.state ∧
          reached.state.core.registers = next.simulator.state.core.registers ∧
          reached.state.core.memory = next.simulator.state.core.memory := by
  have hfresh : Simulator.ofMemorySize 1 = .ok ⟨1, #[], Simulator.startState 1 #[]⟩ := rfl
  have hfault : (Bench.run { simulator := ⟨1, #[], Simulator.startState 1 #[]⟩ }
      misfitting).simulator.step.2 = some (.registerRead 40) := by decide +kernel
  have hretries : ∀ operation ∈ [Operation.step, .save, .step], operation.Retries := by
    simp [Operation.Retries, Operation.Spares]
  obtain ⟨hstuck, -⟩ := stuck_run hfresh misfitting
  obtain ⟨-, -, -, -, hlater⟩ := hstuck _ hfault
  obtain ⟨hagain, -, hstands, hregisters, hmemory⟩ := hlater _ hretries
  exact ⟨_, rfl, hfault, by decide +kernel, by decide +kernel, by decide +kernel,
    by decide +kernel, hagain, hstands, hregisters, hmemory⟩

end Bench

end FiveStage
