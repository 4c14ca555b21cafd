import FiveStage.Pipeline.Cycle

/-!
# The sequential machine

The instruction set without a pipeline: each step executes one instruction completely
before the next. It has the program counter, the registers and the memory, and nothing
else. A pipeline is right if, for assembled programs, it leaves the same registers and
the same memory as this machine.

The machine stops past the end of the program. Below address zero there is nothing, and
a program counter there moves on word by word.
-/

namespace FiveStage.Sequential

open Pipeline

structure State where
  pc : Int
  registers : Registers
  memory : Memory
  deriving DecidableEq

namespace State

/-- The word of an operand register, zero where there is none. -/
def operand (state : State) (register : Option Int) : Int :=
  ((state.registers.readOperand register).toOption).getD 0

/-- Sets a register that exists; a write without one is dropped. -/
def setRegister (state : State) (register : Option Int) (value : Int) : State :=
  match register with
  | none => state
  | some index =>
    { state with registers := ((state.registers.write index value).toOption).getD state.registers }

/-- Moves on to the next word. -/
def next (state : State) : State := { state with pc := state.pc + 4 }

/-- The address of a load or store. -/
def address (state : State) (instruction : Instruction) : Int :=
  Word.wrap (state.operand instruction.rs + instruction.immediate.getD 0)

/-- The effect of one instruction. -/
def execute (state : State) (instruction : Instruction) : State :=
  match instruction.opcode with
  | .alu op =>
    (state.setRegister instruction.dest
      (op.result (state.operand instruction.rs) (state.operand instruction.rt))).next
  | .lw =>
    (state.setRegister instruction.dest (state.memory.read (state.address instruction))).next
  | .sw =>
    { state.next with
      memory := state.memory.write (state.address instruction) (state.operand instruction.rt) }
  | .beq =>
    if state.operand instruction.rs = state.operand instruction.rt then
      { state with pc := instruction.target.getD state.pc }
    else state.next
  | .nop | .other _ => state.next

/-- Whether the program counter is past the end of the program. -/
def isDone (program : Program) (state : State) : Bool :=
  decide (4 * (program.size : Int) ≤ state.pc)

/-- The instruction that is executed next. -/
def current? (program : Program) (state : State) : Option Instruction :=
  if state.pc < 0 then none else program[(state.pc / 4).toNat]?

/-- One step, or none past the end of the program. -/
def step (program : Program) (state : State) : State :=
  if state.isDone program then state
  else
    match state.current? program with
    | some instruction => state.execute instruction
    | none => state.next

/-- The state after so many steps. -/
def steps (program : Program) : Nat → State → State
  | 0, state => state
  | n + 1, state => steps program n (state.step program)

@[simp] theorem step_of_isDone {program : Program} {state : State}
    (h : state.isDone program = true) : state.step program = state := by
  simp [step, h]

theorem steps_succ (program : Program) (n : Nat) (state : State) :
    state.steps program (n + 1) = (state.steps program n).step program := by
  induction n generalizing state with
  | zero => rfl
  | succ n ih => exact ih (state.step program)

end State

end FiveStage.Sequential
