import FiveStage.Machine.Counters
import FiveStage.Machine.Memory
import FiveStage.Machine.Registers

/-!
# The machine without its pipeline

Program counter, registers, memory, halt flag and counters. `preset` seeds registers and
memory before a run; it stops at the first register that does not exist and keeps what
was written before it, so its caller decides what becomes of a partial write.
-/

namespace FiveStage

structure Core where
  pc : Int
  registers : Registers
  memory : Memory
  halted : Bool
  counters : Counters
  deriving DecidableEq

namespace Core

/-- A machine around a memory, with all else zero, not halted. -/
def ofMemory (memory : Memory) : Core where
  pc := 0
  registers := .zero
  memory
  halted := false
  counters := {}

/-- A machine with a given number of memory words, if there can be that many. -/
def ofMemorySize (size : Int) : Except Fault Core := (Memory.ofSize size).map ofMemory

/-- Everything back to zero, with a memory of the same size. -/
def reset (core : Core) : Core := ofMemory (.zeros core.memory.size)

/-- Register writes in order, up to the first fault. -/
def presetRegisters (core : Core) : List (Int × Int) → Core × Option Fault
  | [] => (core, none)
  | (index, value) :: rest =>
    match core.registers.write index value with
    | .ok registers => presetRegisters { core with registers } rest
    | .error fault => (core, some fault)

/-- Register writes, then memory writes by byte address. A fault leaves memory alone. -/
def preset (core : Core) (registers memory : List (Int × Int)) : Core × Option Fault :=
  match core.presetRegisters registers with
  | (core, none) => ({ core with memory := core.memory.writeAll memory }, none)
  | (core, some fault) => (core, some fault)

@[simp] theorem preset_nil (core : Core) : core.preset [] [] = (core, none) := rfl

theorem presetRegisters_cons_of_ok {core : Core} {index value : Int} {rest : List (Int × Int)}
    {registers : Registers} (h : core.registers.write index value = .ok registers) :
    core.presetRegisters ((index, value) :: rest) =
      ({ core with registers } : Core).presetRegisters rest := by
  simp only [presetRegisters, h]

theorem presetRegisters_cons_of_error {core : Core} {index value : Int}
    {rest : List (Int × Int)} {fault : Fault}
    (h : core.registers.write index value = .error fault) :
    core.presetRegisters ((index, value) :: rest) = (core, some fault) := by
  simp only [presetRegisters, h]

end Core

end FiveStage
