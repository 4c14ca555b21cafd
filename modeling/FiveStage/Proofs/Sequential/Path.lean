import FiveStage.Proofs.Asm.WellFormed
import FiveStage.Sequential
import Mathlib.Logic.Function.Iterate

/-!
# The path of a program

`path program start j` is the sequential machine after `j` steps if it does not stop past
the end of the program but goes on over the empty words there. A pipeline does the same
when it fetches, so the path and not the machine that stops is what it is compared with.
Registers and memory do not notice the difference (`registers_steps`, `memory_steps`).

The effect of one instruction is given here in the terms of a pipeline: the output of the
arithmetic unit and the register write that is asked for.
-/

namespace FiveStage

open Pipeline

/-- Every instruction of the program is well formed. -/
def Pipeline.Program.WellFormed (program : Program) : Prop :=
  ∀ instruction ∈ program, instruction.WellFormed

namespace Sequential.State

/-! ## One instruction -/

/-- What the arithmetic unit puts out for an instruction: a result or an address. -/
def aluOutput (state : State) (instruction : Instruction) : Int :=
  let control := Control.ofOpcode instruction.opcode
  control.aluOp.result (state.operand instruction.rs)
    (if control.useImmediate then instruction.immediate.getD 0
      else state.operand instruction.rt)

/-- The register write that an instruction asks for. -/
def write? (state : State) (instruction : Instruction) : Option (Int × Int) :=
  match instruction.opcode with
  | .alu _ => instruction.dest.map fun register => (register, state.aluOutput instruction)
  | .lw =>
    instruction.dest.map fun register =>
      (register, state.memory.read (state.aluOutput instruction))
  | .sw | .beq | .nop | .other _ => none

/-- Whether an instruction is a branch that is taken. -/
def takes (state : State) (instruction : Instruction) : Bool :=
  decide (instruction.opcode = .beq) &&
    decide (state.operand instruction.rs = state.operand instruction.rt)

@[simp] theorem registers_next (state : State) : state.next.registers = state.registers := rfl
@[simp] theorem memory_next (state : State) : state.next.memory = state.memory := rfl
@[simp] theorem pc_next (state : State) : state.next.pc = state.pc + 4 := rfl

@[simp] theorem registers_setRegister (state : State) (register : Option Int) (value : Int) :
    (state.setRegister register value).registers =
      state.registers.commit (register.map fun index => (index, value)) := by
  cases register <;> rfl

@[simp] theorem memory_setRegister (state : State) (register : Option Int) (value : Int) :
    (state.setRegister register value).memory = state.memory := by
  cases register <;> rfl

@[simp] theorem pc_setRegister (state : State) (register : Option Int) (value : Int) :
    (state.setRegister register value).pc = state.pc := by
  cases register <;> rfl

theorem registers_execute (state : State) (instruction : Instruction) :
    (state.execute instruction).registers =
      state.registers.commit (state.write? instruction) := by
  rw [execute, write?]
  cases hopcode : instruction.opcode with
  | alu op => simp [aluOutput, hopcode, Control.ofOpcode]
  | lw => simp [aluOutput, hopcode, Control.ofOpcode, address, AluOp.result, AluOp.eval]
  | beq => dsimp only; split <;> rfl
  | sw => rfl
  | nop => rfl
  | other name => rfl

theorem memory_execute (state : State) (instruction : Instruction) :
    (state.execute instruction).memory =
      if instruction.opcode = .sw then
        state.memory.write (state.aluOutput instruction) (state.operand instruction.rt)
      else state.memory := by
  rw [execute]
  cases hopcode : instruction.opcode with
  | sw => simp [aluOutput, hopcode, Control.ofOpcode, address, AluOp.result, AluOp.eval]
  | beq => dsimp only; split <;> simp
  | alu op => simp
  | lw => simp
  | nop => simp
  | other name => simp

theorem pc_execute (state : State) (instruction : Instruction) :
    (state.execute instruction).pc =
      if state.takes instruction then instruction.target.getD state.pc else state.pc + 4 := by
  rw [execute, takes]
  cases instruction.opcode with
  | beq => by_cases h : state.operand instruction.rs = state.operand instruction.rt <;> simp [h]
  | alu op => simp
  | lw => simp
  | sw => simp
  | nop => simp
  | other name => simp

/-! ## The path -/

/-- One step of the machine that does not stop. -/
def onward (program : Program) (state : State) : State :=
  match state.current? program with
  | some instruction => state.execute instruction
  | none => state.next

/-- The machine that does not stop after so many steps. -/
def path (program : Program) (start : State) (j : Nat) : State := (onward program)^[j] start

variable {program : Program} {start state : State}

@[simp] theorem path_zero : start.path program 0 = start := rfl

theorem path_succ (j : Nat) :
    start.path program (j + 1) = (start.path program j).onward program :=
  Function.iterate_succ_apply' _ _ _

theorem onward_of_some {instruction : Instruction}
    (h : state.current? program = some instruction) :
    state.onward program = state.execute instruction := by
  simp [onward, h]

theorem onward_of_none (h : state.current? program = none) :
    state.onward program = state.next := by
  simp [onward, h]

theorem step_of_not_isDone (h : state.isDone program = false) :
    state.step program = state.onward program := by
  rw [step, h]
  rfl

/-- There is nothing past the end. -/
theorem current?_of_isDone (h : state.isDone program = true) : state.current? program = none := by
  have hpc : 4 * (program.size : Int) ≤ state.pc := by simpa [isDone] using h
  rw [current?]
  split
  · rfl
  · rw [Array.getElem?_eq_none]
    omega

theorem mem_of_current? {instruction : Instruction}
    (h : state.current? program = some instruction) : instruction ∈ program := by
  rw [current?] at h
  split at h
  · contradiction
  · exact Array.mem_of_getElem? h

/-- Past the end the path goes on past the end. -/
theorem isDone_onward (h : state.isDone program = true) :
    (state.onward program).isDone program = true := by
  rw [onward_of_none (current?_of_isDone h)]
  simp only [isDone, decide_eq_true_eq] at h ⊢
  rw [pc_next]
  omega

theorem isDone_path_of_le {i j : Nat} (h : (start.path program i).isDone program = true)
    (hle : i ≤ j) : (start.path program j).isDone program = true := by
  induction hle with
  | refl => exact h
  | step _ ih => rw [path_succ]; exact isDone_onward ih

/-! ## The machine that stops -/

/-- Two states that differ at most in how far they are past the end. -/
structure SameBeforeEnd (program : Program) (state other : State) : Prop where
  registers : state.registers = other.registers
  memory : state.memory = other.memory
  isDone : state.isDone program = other.isDone program
  pc : state.isDone program = false → state.pc = other.pc

theorem SameBeforeEnd.eq (h : SameBeforeEnd program state start)
    (hlive : state.isDone program = false) : state = start := by
  obtain ⟨pc, registers, memory⟩ := state
  obtain ⟨pc', registers', memory'⟩ := start
  have hpc : pc = pc' := h.pc hlive
  have hregisters : registers = registers' := h.registers
  have hmemory : memory = memory' := h.memory
  rw [hpc, hregisters, hmemory]

theorem sameBeforeEnd_steps (program : Program) (start : State) (n : Nat) :
    SameBeforeEnd program (start.steps program n) (start.path program n) := by
  induction n with
  | zero => exact ⟨rfl, rfl, rfl, fun _ => rfl⟩
  | succ n ih =>
      rw [steps_succ, path_succ]
      cases hdone : (start.steps program n).isDone program with
      | false =>
          rw [step_of_not_isDone hdone, ih.eq hdone]
          exact ⟨rfl, rfl, rfl, fun _ => rfl⟩
      | true =>
          have hpath := ih.isDone.symm.trans hdone
          rw [step_of_isDone hdone]
          refine ⟨?_, ?_, hdone.trans (isDone_onward hpath).symm, fun h => ?_⟩
          · rw [onward_of_none (current?_of_isDone hpath)]
            exact ih.registers
          · rw [onward_of_none (current?_of_isDone hpath)]
            exact ih.memory
          · rw [hdone] at h
            contradiction

theorem registers_steps (program : Program) (start : State) (n : Nat) :
    (start.steps program n).registers = (start.path program n).registers :=
  (sameBeforeEnd_steps program start n).registers

theorem memory_steps (program : Program) (start : State) (n : Nat) :
    (start.steps program n).memory = (start.path program n).memory :=
  (sameBeforeEnd_steps program start n).memory

theorem isDone_steps (program : Program) (start : State) (n : Nat) :
    (start.steps program n).isDone program = (start.path program n).isDone program :=
  (sameBeforeEnd_steps program start n).isDone

theorem current?_steps (program : Program) (start : State) (n : Nat) :
    (start.steps program n).current? program = (start.path program n).current? program := by
  cases hdone : (start.steps program n).isDone program with
  | false => rw [(sameBeforeEnd_steps program start n).eq hdone]
  | true =>
      rw [current?_of_isDone hdone, current?_of_isDone]
      rw [← isDone_steps]
      exact hdone

/-! ## What a path keeps -/

/-- The program counter stays on word boundaries. -/
theorem aligned_onward (hprogram : program.WellFormed) (h : 4 ∣ state.pc) :
    4 ∣ (state.onward program).pc := by
  cases hcurrent : state.current? program with
  | none => rw [onward_of_none hcurrent, pc_next]; omega
  | some instruction =>
      rw [onward_of_some hcurrent, pc_execute]
      split
      · rename_i htakes
        simp only [takes, Bool.and_eq_true, decide_eq_true_eq] at htakes
        obtain ⟨address, htarget, haddress⟩ :=
          (hprogram instruction (mem_of_current? hcurrent)).target htakes.1
        rw [htarget]
        exact haddress
      · omega

theorem aligned_path (hprogram : program.WellFormed) (h : 4 ∣ start.pc) (j : Nat) :
    4 ∣ (start.path program j).pc := by
  induction j with
  | zero => exact h
  | succ j ih => rw [path_succ]; exact aligned_onward hprogram ih

theorem sound_onward (h : state.memory.Sound) : (state.onward program).memory.Sound := by
  cases hcurrent : state.current? program with
  | none => rw [onward_of_none hcurrent]; exact h
  | some instruction =>
      rw [onward_of_some hcurrent, memory_execute]
      split
      · exact h.write _ _
      · exact h

theorem sound_path (h : start.memory.Sound) (j : Nat) : (start.path program j).memory.Sound := by
  induction j with
  | zero => exact h
  | succ j ih => rw [path_succ]; exact sound_onward ih

/-- On a word boundary, what is executed next is what fetch would find there. -/
theorem current?_eq_fetch? (h : 4 ∣ state.pc) :
    state.current? program = program.fetch? state.pc := by
  have haligned : state.pc % 4 = 0 := by omega
  simp [current?, Program.fetch?, haligned]

end Sequential.State

end FiveStage
