import FiveStage.Isa.Opcode

/-!
# Instructions

An instruction is one flat record. Which fields are filled depends on the operation, and
the machine asks the operation, not the fields, what to do; so an instruction with odd
fields is still executed, and registers out of range show only where they are used.
-/

namespace FiveStage

/-- A decoded instruction and where it came from. -/
structure Instruction where
  opcode : Opcode
  /-- Byte address. -/
  pc : Int
  /-- The source line without its comment, as it is displayed. -/
  text : String
  rd : Option Int
  rs : Option Int
  rt : Option Int
  /-- The register that is written, if any. -/
  dest : Option Int
  immediate : Option Int
  /-- Byte address that a branch goes to. -/
  target : Option Int
  /-- Number of the source line, from one. -/
  line : Option Int
  deriving DecidableEq

namespace Instruction

/-- The registers that an instruction reads, in operand order. -/
def sources (instruction : Instruction) : List Int :=
  match instruction.opcode with
  | .lw => instruction.rs.toList
  | .alu _ | .sw | .beq => instruction.rs.toList ++ instruction.rt.toList
  | .nop | .other _ => []

/-- What a stage holding the instruction displays. Operations without effect are not
displayed, unknown ones are. -/
def display? (instruction : Instruction) : Option String :=
  if instruction.opcode = .nop then none else some instruction.text

end Instruction

/-- The name of a register. -/
def registerName (index : Int) : String := s!"R{index}"

end FiveStage
