import FiveStage.Proofs.Pipeline.Bypass
import FiveStage.Proofs.Sequential.Schedule

/-!
# Slots in flight

A slot in flight has done part of its work. `Carries` says what is right for a latch behind
execute: the arithmetic result of the sequential machine in that slot, and in the last latch
the word to be written back. `Spans` allows for slots that are not work and for latches that
no slot is in.

For each stage there is one statement: given latches that hold the right slots, write-back
and memory take registers and memory one slot further along the path, and execute puts out
what the sequential machine computes (`commit_of_spans`, `accessMemory_of_spans`,
`carries_execute`).
-/

namespace FiveStage.Pipeline

open Registers (IsIndex)
open FiveStage.Sequential.State (needs)

theorem Control.isNop_ofOpcode {instruction : Instruction} (h : instruction.WellFormed)
    (hnop : instruction.opcode ≠ .nop) : (Control.ofOpcode instruction.opcode).isNop = false := by
  cases hopcode : instruction.opcode with
  | nop => exact absurd hopcode hnop
  | other name => exact absurd hopcode (h.known name)
  | alu op => rfl
  | lw => rfl
  | sw => rfl
  | beq => rfl

/-- The latch holds a result of execute. What a load would store is of no interest. -/
structure ExMem.Carries (latch : ExMem) (state : Sequential.State) (instruction : Instruction) :
    Prop where
  present : latch.instruction = some instruction
  control : latch.control = .ofOpcode instruction.opcode
  dest : latch.dest = instruction.dest
  aluResult : latch.aluResult = state.aluOutput instruction
  storeValue : instruction.opcode = .sw → latch.storeValue = state.operand instruction.rt

/-- The latch holds a word to be written back. -/
structure MemWb.Carries (latch : MemWb) (state : Sequential.State) (instruction : Instruction) :
    Prop where
  present : latch.instruction = some instruction
  control : latch.control = .ofOpcode instruction.opcode
  dest : latch.dest = instruction.dest
  value : latch.value =
    if instruction.opcode = .lw then state.memory.read (state.aluOutput instruction)
    else state.aluOutput instruction

/-- A latch holds the slots from one on and before another, of which there is at most one.
A slot that is not work leaves the latch empty. -/
inductive Spans {Latch : Type} (empty : Latch)
    (carries : Latch → Sequential.State → Instruction → Prop) (program : Program)
    (start : Sequential.State) : Nat → Nat → Latch → Prop
  | none (j : Nat) : Spans empty carries program start j j empty
  | idle {j : Nat} (idle : start.isWork program j = false) :
    Spans empty carries program start j (j + 1) empty
  | work {j : Nat} {instruction : Instruction} {latch : Latch}
    (slot : start.slot? program j = some instruction) (effect : instruction.opcode ≠ .nop)
    (formed : instruction.WellFormed) (carried : carries latch (start.path program j) instruction) :
    Spans empty carries program start j (j + 1) latch

/-- `Spans` for the latch behind execute. -/
abbrev ExMem.Spans := Pipeline.Spans ({} : ExMem) ExMem.Carries

/-- `Spans` for the last latch. -/
abbrev MemWb.Spans := Pipeline.Spans ({} : MemWb) MemWb.Carries

/-- What decode hands on for the instruction of a slot. -/
def IdEx.ofSlot (registers : Registers) (pc : Int) : Option Instruction → IdEx
  | none => {}
  | some instruction =>
    if instruction.opcode = .nop then {}
    else
      { instruction := some instruction
        pc
        rsValue := registers.value instruction.rs
        rtValue := registers.value instruction.rt
        dest := instruction.dest
        immediate := instruction.immediate
        target := instruction.target
        control := .ofOpcode instruction.opcode }

theorem IdEx.mem_of_mem_ofSlot {registers : Registers} {pc : Int} {slot : Option Instruction}
    {instruction : Instruction} (h : instruction ∈ (ofSlot registers pc slot).instruction) :
    instruction ∈ slot := by
  cases slot with
  | none => contradiction
  | some given =>
      rw [ofSlot] at h
      split at h
      · contradiction
      · exact h

variable {program : Program} {start : Sequential.State} {first last j : Nat}

/-- A slot is idle or holds a work instruction of the program. -/
theorem slot_cases (start : Sequential.State) (hprogram : program.WellFormed) (j : Nat) :
    start.isWork program j = false ∨
      ∃ instruction, start.slot? program j = some instruction ∧
        instruction.opcode ≠ .nop ∧ instruction.WellFormed := by
  cases hwork : start.isWork program j with
  | false => exact .inl rfl
  | true =>
      obtain ⟨instruction, hslot, hnop⟩ := Option.any_eq_true _ _ |>.1 hwork
      exact .inr ⟨instruction, hslot, by simpa using hnop,
        hprogram instruction (Sequential.State.mem_of_current? hslot)⟩

theorem isWork_of_slot? {instruction : Instruction}
    (h : start.slot? program j = some instruction) (hnop : instruction.opcode ≠ .nop) :
    start.isWork program j = true := by
  simp [Sequential.State.isWork, h, hnop]

theorem path_succ_of_slot? {instruction : Instruction}
    (h : start.slot? program j = some instruction) :
    start.path program (j + 1) = (start.path program j).execute instruction := by
  rw [Sequential.State.slot?_eq_path] at h
  rw [Sequential.State.path_succ, Sequential.State.onward_of_some h]

theorem workCount_succ (program : Program) (start : Sequential.State) (j : Nat) :
    start.workCount program (j + 1) =
      start.workCount program j + if start.isWork program j then 1 else 0 :=
  Nat.count_succ _ _

/-- The destination in a latch is a register that exists. -/
theorem Spans.isIndex {Latch : Type} {empty latch : Latch}
    {carries : Latch → Sequential.State → Instruction → Prop}
    (h : Spans empty carries program start first last latch) (dest : Latch → Option Int)
    (hempty : dest empty = Option.none)
    (hcarries : ∀ {latch : Latch} {state : Sequential.State} {instruction : Instruction},
      carries latch state instruction → dest latch = instruction.dest) :
    ∀ index ∈ dest latch, IsIndex index := by
  cases h with
  | none => simp [hempty]
  | idle => simp [hempty]
  | work _ _ hformed hcarried =>
      rw [hcarries hcarried]
      exact hformed.dest

/-! ## Write-back -/

/-- The machine after write-back. A register that does not exist is not written. -/
def retire (core : Core) (latch : MemWb) : Core :=
  { core with
    registers := core.registers.commit latch.commit?
    counters := { core.counters with
      completed := core.counters.completed + if latch.isBubble then 0 else 1 } }

/-- The fault of write-back, if the register to be written does not exist. -/
def MemWb.fault? (latch : MemWb) : Option Fault :=
  (latch.commit?.filter fun write => ¬ IsIndex write.1).map fun write => .registerWrite write.1

theorem writeBack_eq (core : Core) (latch : MemWb) :
    writeBack core latch = (retire core latch, latch.fault?) := by
  rw [writeBack, retire, MemWb.fault?]
  cases hbubble : latch.isBubble with
  | true =>
      have hnone : latch.commit? = none := by simp [MemWb.commit?, hbubble]
      simp [hnone]
  | false =>
      cases hwrite : latch.commit? with
      | none => rfl
      | some entry =>
          obtain ⟨index, value⟩ := entry
          dsimp only
          by_cases hindex : IsIndex index
          · simp [Registers.write_eq_commit _ _ hindex, hindex]
          · simp [Registers.write_eq_error hindex, Registers.commit_of_not_isIndex hindex, hindex]

theorem writeBack_of_isIndex {core : Core} {latch : MemWb}
    (h : ∀ index ∈ latch.dest, IsIndex index) :
    writeBack core latch = (retire core latch, none) := by
  have hfault : latch.fault? = none := by
    rw [MemWb.fault?, Option.map_eq_none_iff, Option.filter_eq_none_iff]
    intro entry hentry
    simpa using h _ (MemWb.eq_of_mem_commit? hentry).1
  rw [writeBack_eq, hfault]

theorem MemWb.Carries.isBubble {latch : MemWb} {state : Sequential.State}
    {instruction : Instruction} (h : latch.Carries state instruction)
    (hformed : instruction.WellFormed) (hnop : instruction.opcode ≠ .nop) :
    latch.isBubble = false := by
  simp [MemWb.isBubble, h.present, h.control, Control.isNop_ofOpcode hformed hnop]

theorem MemWb.Carries.commit? {latch : MemWb} {state : Sequential.State}
    {instruction : Instruction} (h : latch.Carries state instruction)
    (hformed : instruction.WellFormed) (hnop : instruction.opcode ≠ .nop) :
    latch.commit? = state.write? instruction := by
  rw [MemWb.commit?, h.isBubble hformed hnop, h.control, h.dest, h.value,
    Sequential.State.write?]
  cases instruction.opcode <;> simp [Control.ofOpcode, Control.nop]

/-- The pending write of the last latch is all that is missing of its slot. -/
theorem MemWb.commit_of_spans {latch : MemWb} (h : MemWb.Spans program start first last latch) :
    (start.path program first).registers.commit latch.commit? =
      (start.path program last).registers := by
  cases h with
  | none => rfl
  | idle hidle => exact (Sequential.State.registers_path_succ_of_not_isWork hidle).symm
  | work hslot hnop hformed hcarries =>
      rw [hcarries.commit? hformed hnop, path_succ_of_slot? hslot,
        Sequential.State.registers_execute]

/-- The last latch is a bubble exactly if no work is in it. -/
theorem MemWb.workCount_of_spans {latch : MemWb}
    (h : MemWb.Spans program start first last latch) :
    start.workCount program last =
      start.workCount program first + if latch.isBubble then 0 else 1 := by
  cases h with
  | none => rfl
  | idle hidle => rw [workCount_succ, hidle]; rfl
  | work hslot hnop hformed hcarries =>
      rw [workCount_succ, isWork_of_slot? hslot hnop, hcarries.isBubble hformed hnop]
      rfl

theorem MemWb.isIndex_of_spans {latch : MemWb} (h : MemWb.Spans program start first last latch) :
    ∀ index ∈ latch.dest, IsIndex index :=
  h.isIndex MemWb.dest rfl MemWb.Carries.dest

theorem MemWb.inRange_of_spans {latch : MemWb} (h : MemWb.Spans program start first last latch)
    (hmemory : start.memory.Sound) : Word.InRange latch.value := by
  cases h with
  | none => exact Word.inRange_zero
  | idle => exact Word.inRange_zero
  | work _ _ _ hcarries =>
      rw [hcarries.value]
      split
      · exact Sequential.State.sound_path hmemory first _
      · exact AluOp.inRange_result _ _ _

/-- Write-back takes the registers past the slot in the last latch, and counts it if it is
work. -/
theorem writeBack_of_spans {core : Core} {latch : MemWb}
    (h : MemWb.Spans program start first last latch)
    (hregisters : core.registers = (start.path program first).registers)
    (hcompleted : core.counters.completed = start.workCount program first) :
    writeBack core latch =
      ({ core with
          registers := (start.path program last).registers
          counters := { core.counters with completed := start.workCount program last } },
        none) := by
  have hcommit := MemWb.commit_of_spans h
  have hcount : (start.workCount program last : Int) =
      core.counters.completed + if latch.isBubble then 0 else 1 := by
    rw [MemWb.workCount_of_spans h, hcompleted]
    split <;> rfl
  rw [writeBack_of_isIndex (MemWb.isIndex_of_spans h), retire, hcount, ← hcommit, hregisters]

/-! ## Memory access -/

theorem ExMem.Carries.isBubble {latch : ExMem} {state : Sequential.State}
    {instruction : Instruction} (h : latch.Carries state instruction)
    (hformed : instruction.WellFormed) (hnop : instruction.opcode ≠ .nop) :
    latch.isBubble = false := by
  simp [ExMem.isBubble, h.present, h.control, Control.isNop_ofOpcode hformed hnop]

/-- Memory access takes the memory past the slot behind execute, and the slot on. -/
theorem accessMemory_of_spans {memory : Memory} {latch : ExMem}
    (h : ExMem.Spans program start first last latch)
    (hmemory : memory = (start.path program first).memory) :
    (accessMemory memory latch).1 = (start.path program last).memory ∧
      MemWb.Spans program start first last (accessMemory memory latch).2 := by
  subst hmemory
  cases h with
  | none => exact ⟨rfl, .none _⟩
  | idle hidle =>
      exact ⟨(Sequential.State.memory_path_succ_of_not_isWork hidle).symm, .idle hidle⟩
  | work hslot hnop hformed hcarries =>
      rename_i instruction
      have hbubble := hcarries.isBubble hformed hnop
      rw [path_succ_of_slot? hslot, Sequential.State.memory_execute]
      simp only [accessMemory, hbubble, Bool.false_eq_true, if_false]
      refine ⟨?_, .work hslot hnop hformed ⟨hcarries.present, hcarries.control, hcarries.dest, ?_⟩⟩
      · rw [hcarries.control, hcarries.aluResult]
        cases hopcode : instruction.opcode with
        | sw => simp [Control.ofOpcode, hcarries.storeValue hopcode]
        | nop => exact absurd hopcode hnop
        | other name => exact absurd hopcode (hformed.known name)
        | alu op => simp [Control.ofOpcode]
        | lw => simp [Control.ofOpcode]
        | beq => simp [Control.ofOpcode]
      · rw [hcarries.control, hcarries.aluResult]
        cases hopcode : instruction.opcode <;> simp [Control.ofOpcode, Control.nop]

theorem ExMem.isIndex_of_spans {latch : ExMem} (h : ExMem.Spans program start first last latch) :
    ∀ index ∈ latch.dest, IsIndex index :=
  h.isIndex ExMem.dest rfl ExMem.Carries.dest

theorem ExMem.inRange_of_spans {latch : ExMem}
    (h : ExMem.Spans program start first last latch) : Word.InRange latch.aluResult := by
  cases h with
  | none => exact Word.inRange_zero
  | idle => exact Word.inRange_zero
  | work _ _ _ hcarries =>
      rw [hcarries.aluResult]
      exact AluOp.inRange_result _ _ _

/-- A load in the latch behind execute has its slot. -/
theorem ExMem.slot?_of_loadsInto {latch : ExMem} {register : Int}
    (h : ExMem.Spans program start first last latch) (hload : latch.LoadsInto register) :
    last = first + 1 ∧ ∃ load, start.slot? program first = some load ∧ load.opcode = .lw ∧
      load.rt = some register := by
  cases h with
  | none => simp [ExMem.LoadsInto] at hload
  | idle => simp [ExMem.LoadsInto] at hload
  | work hslot hnop hformed hcarries =>
      rename_i instruction
      obtain ⟨-, hmemToReg, hdest⟩ := hload
      rw [hcarries.control] at hmemToReg
      rw [hcarries.dest] at hdest
      have hopcode : instruction.opcode = .lw := by
        cases hopcode : instruction.opcode <;>
          simp [hopcode, Control.ofOpcode, Control.nop] at hmemToReg ⊢
      exact ⟨rfl, instruction, hslot, hopcode, hformed.loadDest hopcode ▸ hdest⟩

/-- The pending write behind execute is all that is missing of its slot, except for what a
load is about to fetch. -/
theorem ExMem.value_commit_of_spans {latch : ExMem} {register : Int}
    (h : ExMem.Spans program start first last latch) (hregister : IsIndex register)
    (hload : latch.LoadsInto register → register = 0) :
    ((start.path program first).registers.commit latch.commit?).value (some register) =
      (start.path program last).registers.value (some register) := by
  cases h with
  | none => rfl
  | idle hidle => rw [Sequential.State.registers_path_succ_of_not_isWork hidle]; rfl
  | work hslot hnop hformed hcarries =>
      rename_i instruction
      have hbubble := hcarries.isBubble hformed hnop
      rw [path_succ_of_slot? hslot, Sequential.State.registers_execute,
        Sequential.State.write?, ExMem.commit?, hbubble, hcarries.control, hcarries.dest,
        hcarries.aluResult]
      cases hopcode : instruction.opcode with
      | lw =>
          -- The two writes differ in their words, but not in the register, which is another.
          have hother : ∀ index ∈ instruction.dest, index = register → register = 0 := by
            intro index hindex heq
            refine hload ⟨hbubble, by rw [hcarries.control, hopcode]; rfl, ?_⟩
            rw [hcarries.dest, ← heq]
            exact hindex
          simp only [Control.ofOpcode, Bool.not_true, Bool.or_self, Bool.false_eq_true, if_false]
          rw [Registers.value_commit_of_ne _ hregister, Registers.value_commit_of_ne _ hregister]
          all_goals
            intro entry hentry
            obtain ⟨index, hindex, rfl⟩ := Option.mem_map.1 hentry
          · exact hother index hindex
          · exact hformed.dest index hindex
          · exact hother index hindex
          · exact hformed.dest index hindex
      | nop => exact absurd hopcode hnop
      | other name => exact absurd hopcode (hformed.known name)
      | alu op => simp [Control.ofOpcode]
      | sw => simp [Control.ofOpcode]
      | beq => simp [Control.ofOpcode]

end FiveStage.Pipeline
