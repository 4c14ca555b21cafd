import FiveStage.Isa.Instruction

/-!
# Control lines

Decoding an instruction sets the control lines that travel with it down the pipeline.
They depend on the operation alone.
-/

namespace FiveStage

/-- The control lines of one instruction in flight. -/
structure Control where
  regWrite : Bool := false
  memRead : Bool := false
  memWrite : Bool := false
  /-- The value written back comes from memory and not from the arithmetic unit. -/
  memToReg : Bool := false
  isBranch : Bool := false
  aluOp : AluOp := .add
  /-- The second operand of the arithmetic unit is the immediate. -/
  useImmediate : Bool := false
  /-- The slot does nothing. -/
  isNop : Bool := false
  deriving DecidableEq

namespace Control

/-- The control lines of a slot that does nothing. -/
def nop : Control := { isNop := true }

/-- The control lines of an operation. Unknown operations do nothing. -/
def ofOpcode : Opcode → Control
  | .alu op => { regWrite := true, aluOp := op }
  | .lw => { regWrite := true, memRead := true, memToReg := true, useImmediate := true }
  | .sw => { memWrite := true, useImmediate := true }
  | .beq => { isBranch := true, aluOp := .sub }
  | .nop | .other _ => nop

@[simp] theorem isNop_nop : nop.isNop = true := rfl

end Control

end FiveStage
