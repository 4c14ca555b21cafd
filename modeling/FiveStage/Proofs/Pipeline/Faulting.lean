import FiveStage.Proofs.Pipeline.Advance
import FiveStage.Proofs.Pipeline.InFlight

/-!
# Cycles with faults

A cycle can end in write-back, over a register that does not exist, in execute, over one that cannot
be named in the log, or in decode, over one that cannot be read or named. If it does, and how, is a
matter of the latches alone (`Latches.fault?`): no word in a register or in memory changes it. So
a cycle either is complete or ends with the fault of the latches (`State.step_cases`), and where it
ended once it ends again.

A cycle that ends early leaves the machine where it stood (`State.stands_of_fault`) and has written
what the latches asked for. To do this twice is the same as to do it once, so the machine is stuck:
from then on every cycle has the same fault and writes nothing new (`State.stuck_step`).
-/

namespace FiveStage

namespace Pipeline

/-- Decode faults on an instruction whatever is in the registers. -/
theorem decode_eq_error {registers : Registers} {ifId : IfId} {idEx : IdEx} {fault : Fault}
    (h : decode registers ifId idEx = .error fault) (other : Registers) :
    decode other ifId idEx = .error fault := by
  rw [decode] at h ⊢
  split at h
  · split at h
    · exact h
    · split at h
      · rename_i hrs
        rw [Registers.readOperand_eq_error hrs other]
        exact h
      · rename_i hrs
        obtain ⟨rsValue, hrsOther⟩ := Registers.exists_readOperand hrs other
        rw [hrsOther]
        dsimp only
        split at h
        · rename_i hrt
          rw [Registers.readOperand_eq_error hrt other]
          exact h
        · contradiction
  · contradiction

/-- The fault of decode, if the instruction in front of it cannot be decoded. -/
def decodeFault? (registers : Registers) (ifId : IfId) (idEx : IdEx) : Option Fault :=
  match decode registers ifId idEx with
  | .error fault => some fault
  | .ok _ => none

theorem decodeFault?_eq (registers other : Registers) (ifId : IfId) (idEx : IdEx) :
    decodeFault? registers ifId idEx = decodeFault? other ifId idEx := by
  rw [decodeFault?, decodeFault?]
  cases hdecode : decode registers ifId idEx with
  | error fault => rw [decode_eq_error hdecode other]
  | ok decoded =>
      cases hother : decode other ifId idEx with
      | error fault =>
          rw [decode_eq_error hother registers] at hdecode
          contradiction
      | ok => rfl

/-- The fault that a cycle ends with, if it does not get to its end. Decode is asked for its fault
with empty registers, since it makes no difference which ones it reads. -/
def Latches.fault? (latches : Latches) : Option Fault :=
  latches.memWb.fault?.or <|
    if (execute latches).operands.Nameable then decodeFault? .zero latches.ifId latches.idEx
    else some .integerLength

/-- Memory access writes the same word to the same place, whatever memory it finds. -/
theorem accessMemory_accessMemory (memory : Memory) (latch : ExMem) :
    (accessMemory (accessMemory memory latch).1 latch).1 = (accessMemory memory latch).1 := by
  simp only [accessMemory]
  cases latch.isBubble with
  | true => rfl
  | false =>
      cases latch.control.memWrite with
      | true => exact Memory.write_write memory latch.aluResult latch.storeValue
      | false => rfl

theorem stores_of_accessMemory_ne {memory : Memory} {latch : ExMem} {index : Nat}
    (h : (accessMemory memory latch).1.words[index]? ≠ memory.words[index]?) :
    latch.isBubble = false ∧ latch.control.memWrite = true ∧
      Memory.wordIndex? latch.aluResult = some index := by
  simp only [accessMemory] at h
  cases hbubble : latch.isBubble with
  | true =>
      rw [hbubble] at h
      exact absurd rfl h
  | false =>
      rw [hbubble] at h
      cases hwrite : latch.control.memWrite with
      | false =>
          rw [hwrite] at h
          exact absurd rfl h
      | true =>
          rw [hwrite] at h
          refine ⟨rfl, rfl, ?_⟩
          by_contra hplace
          refine h ?_
          show (memory.write latch.aluResult latch.storeValue).words[index]? = _
          rw [Memory.getElem?_write, if_neg fun hsame => hplace hsame.1]

namespace State

variable {program : Program} {state : State} {fault : Fault}

/-- The machine when decode begins, behind write-back, memory access and execute. -/
def late (state : State) : Core :=
  behind (retire state.core state.latches.memWb)
    (accessMemory state.core.memory state.latches.exMem).1 (execute state.latches)

/-- The machine when a cycle ends early. The late stages in front of the one that has the fault did
their work. -/
def broken (state : State) : Core :=
  if state.latches.memWb.fault?.isSome then retire state.core state.latches.memWb
  else if (execute state.latches).operands.Nameable then state.late
  else
    { retire state.core state.latches.memWb with
      memory := (accessMemory state.core.memory state.latches.exMem).1 }

/-- A cycle either ends with the fault of the latches or is complete. -/
theorem step_cases (program : Program) (hlive : state.core.halted = false) :
    (∃ fault log, state.latches.fault? = some fault ∧
        state.step program = ({ state with core := state.broken, log }, some fault)) ∨
      ∃ decoded, state.latches.fault? = none ∧
        decode state.late.registers state.latches.ifId state.latches.idEx = .ok decoded ∧
        state.step program =
          (state.advance program state.late
            (accessMemory state.core.memory state.latches.exMem).2 (execute state.latches) decoded,
            none) := by
  have hwriteBack := writeBack_eq state.core state.latches.memWb
  rw [Latches.fault?, broken]
  cases hfault : state.latches.memWb.fault? with
  | some fault =>
      rw [hfault] at hwriteBack
      exact .inl ⟨fault, _, rfl, step_of_writeBack_fault hlive hwriteBack⟩
  | none =>
      rw [hfault] at hwriteBack
      rw [Option.none_or, Option.isSome_none, if_neg Bool.false_ne_true]
      by_cases hnameable : (execute state.latches).operands.Nameable
      · rw [if_pos hnameable, if_pos hnameable, decodeFault?_eq .zero state.late.registers,
          decodeFault?]
        cases hdecode : decode state.late.registers state.latches.ifId state.latches.idEx with
        | error fault =>
            exact .inl ⟨fault, _, rfl, step_of_decode_fault hlive hwriteBack hnameable hdecode⟩
        | ok decoded =>
            exact .inr ⟨decoded, rfl, rfl, step_eq_advance hlive hwriteBack hnameable hdecode⟩
      · rw [if_neg hnameable, if_neg hnameable]
        exact .inl ⟨.integerLength, _, rfl, step_of_not_nameable hlive hwriteBack hnameable⟩

theorem fault_step (program : Program) (hlive : state.core.halted = false) :
    (state.step program).2 = state.latches.fault? := by
  obtain ⟨fault, log, hfault, hstep⟩ | ⟨decoded, hfault, -, hstep⟩ := step_cases program hlive
  all_goals rw [hstep, hfault]

/-- A cycle with a fault changes the machine and the log, and nothing else. -/
theorem step_of_fault (h : (state.step program).2 = some fault) :
    state.core.halted = false ∧
      ∃ log, (state.step program).1 = { state with core := state.broken, log } := by
  cases hhalted : state.core.halted with
  | true =>
      rw [step_of_halted hhalted] at h
      contradiction
  | false =>
      obtain ⟨found, log, -, hstep⟩ | ⟨decoded, -, -, hstep⟩ := step_cases program hhalted
      · exact ⟨rfl, log, congrArg Prod.fst hstep⟩
      · rw [hstep] at h
        contradiction

/-! ## The machine of a cycle that ends early -/

/-- A cycle that ends early does so in write-back, in execute, or in decode. -/
theorem broken_cases {motive : Core → Prop} (state : State)
    (writeBack : motive (retire state.core state.latches.memWb))
    (execute : motive
      { retire state.core state.latches.memWb with
        memory := (accessMemory state.core.memory state.latches.exMem).1 })
    (decode : motive state.late) : motive state.broken := by
  rw [broken]
  split
  · exact writeBack
  · split
    · exact decode
    · exact execute

theorem registers_broken (state : State) :
    state.broken.registers = state.core.registers.commit state.latches.memWb.commit? :=
  broken_cases (motive := fun core => core.registers = _) state rfl rfl rfl

/-- A cycle that ends in write-back leaves the memory alone, and one that ends later has
accessed it. -/
theorem memory_broken (state : State) :
    state.broken.memory =
      if state.latches.memWb.fault?.isSome then state.core.memory
      else (accessMemory state.core.memory state.latches.exMem).1 := by
  rw [broken]
  split
  · rfl
  · split <;> rfl

theorem pc_broken (state : State) : state.broken.pc = state.core.pc :=
  broken_cases (motive := fun core => core.pc = _) state rfl rfl rfl

theorem halted_broken (state : State) : state.broken.halted = state.core.halted :=
  broken_cases (motive := fun core => core.halted = _) state rfl rfl rfl

theorem cycles_broken (state : State) :
    state.broken.counters.cycles = state.core.counters.cycles :=
  broken_cases (motive := fun core => core.counters.cycles = _) state rfl rfl (cycles_behind _ _ _)

theorem stalls_broken (state : State) :
    state.broken.counters.stalls = state.core.counters.stalls :=
  broken_cases (motive := fun core => core.counters.stalls = _) state rfl rfl (stalls_behind _ _ _)

theorem forwards_broken (state : State) :
    state.broken.counters.forwards = state.core.counters.forwards :=
  broken_cases (motive := fun core => core.counters.forwards = _) state rfl rfl
    (forwards_behind _ _ _)

/-! ## What is left as it was -/

/-- The machine stands where it stood, even if registers, memory and some counters have changed. -/
structure Stands (before after : State) : Prop where
  latches : after.latches = before.latches
  fetched : after.fetched = before.fetched
  pc : after.core.pc = before.core.pc
  halted : after.core.halted = before.core.halted
  cycles : after.core.counters.cycles = before.core.counters.cycles
  stalls : after.core.counters.stalls = before.core.counters.stalls
  forwards : after.core.counters.forwards = before.core.counters.forwards

theorem Stands.refl (state : State) : state.Stands state := ⟨rfl, rfl, rfl, rfl, rfl, rfl, rfl⟩

theorem Stands.trans {first second third : State} (h : first.Stands second)
    (h' : second.Stands third) : first.Stands third where
  latches := h'.latches.trans h.latches
  fetched := h'.fetched.trans h.fetched
  pc := h'.pc.trans h.pc
  halted := h'.halted.trans h.halted
  cycles := h'.cycles.trans h.cycles
  stalls := h'.stalls.trans h.stalls
  forwards := h'.forwards.trans h.forwards

theorem stands_of_fault (h : (state.step program).2 = some fault) :
    state.Stands (state.step program).1 := by
  obtain ⟨-, log, hstep⟩ := step_of_fault h
  rw [hstep]
  exact ⟨rfl, rfl, pc_broken state, halted_broken state, cycles_broken state, stalls_broken state,
    forwards_broken state⟩

/-! ## What is written -/

/-- A cycle with a fault writes at most the register that the last latch asks for. -/
theorem registers_of_fault (h : (state.step program).2 = some fault) :
    (state.step program).1.core.registers =
      state.core.registers.commit state.latches.memWb.commit? := by
  obtain ⟨-, log, hstep⟩ := step_of_fault h
  rw [hstep]
  exact registers_broken state

theorem commit?_of_registers_ne (h : (state.step program).2 = some fault) {index : Nat}
    (hne : (state.step program).1.core.registers.words[index]? ≠
      state.core.registers.words[index]?) :
    state.latches.memWb.commit? = some ((index : Int), state.latches.memWb.value) := by
  rw [registers_of_fault h] at hne
  obtain ⟨entry, hcommit, hindex⟩ := Registers.exists_of_getElem?_commit_ne hne
  rw [hcommit, ← hindex, (MemWb.eq_of_mem_commit? hcommit).2]

theorem memory_of_fault (h : (state.step program).2 = some fault) :
    (state.step program).1.core.memory =
      if state.latches.memWb.fault?.isSome then state.core.memory
      else (accessMemory state.core.memory state.latches.exMem).1 := by
  obtain ⟨-, log, hstep⟩ := step_of_fault h
  rw [hstep]
  exact memory_broken state

/-- Of the memory, it writes at most the word that a store behind execute addresses. -/
theorem stores_of_memory_ne (h : (state.step program).2 = some fault) {index : Nat}
    (hne : (state.step program).1.core.memory.words[index]? ≠ state.core.memory.words[index]?) :
    state.latches.exMem.isBubble = false ∧ state.latches.exMem.control.memWrite = true ∧
      Memory.wordIndex? state.latches.exMem.aluResult = some index := by
  rw [memory_of_fault h] at hne
  split at hne
  · exact absurd rfl hne
  · exact stores_of_accessMemory_ne hne

/-- A machine whose next cycle has a fault and writes nothing new. -/
structure Stuck (program : Program) (fault : Fault) (state : State) : Prop where
  fault : (state.step program).2 = some fault
  registers : (state.step program).1.core.registers = state.core.registers
  memory : (state.step program).1.core.memory = state.core.memory

/-- A machine that stands where a cycle had a fault has the same fault. -/
theorem fault_step_of_stands {after : State} (h : (state.step program).2 = some fault)
    (hstands : state.Stands after) : (after.step program).2 = some fault := by
  have hlive := (step_of_fault h).1
  have hagain : after.core.halted = false := hstands.halted.trans hlive
  rw [fault_step program hagain, hstands.latches, ← fault_step program hlive]
  exact h

/-- A cycle with a fault leaves a machine that is stuck. -/
theorem stuck_step (h : (state.step program).2 = some fault) :
    (state.step program).1.Stuck program fault := by
  have hstands := stands_of_fault h
  have hagain := fault_step_of_stands h hstands
  refine ⟨hagain, ?_, ?_⟩
  · rw [registers_of_fault hagain, hstands.latches, registers_of_fault h]
    exact Registers.commit_commit _ _
  · rw [memory_of_fault hagain, hstands.latches, memory_of_fault h]
    split
    · rfl
    · exact accessMemory_accessMemory _ _

end State

end Pipeline

end FiveStage
