import FiveStage.Fault
import FiveStage.Isa.Opcode

/-!
# Diagnostics

A diagnostic is a line number and the cause of the complaint. The wording lives in
`Problem.message` alone, so that everything else can ask for the cause.

A statement can be refused in a second way, by a fault in one of its numerals; a fault
ends the whole assembly and is never listed as a diagnostic.
-/

namespace FiveStage.Asm

/-- What can be wrong with a label or a statement. Tokens are kept as written. -/
inductive Problem where
  | invalidLabel (label : String)
  | duplicateLabel (label : String)
  | unknownOpcode (name : String)
  /-- The operation takes another number of operands. -/
  | operandCount (opcode : Opcode)
  /-- The operand at a position, from one, has to be a register. -/
  | notRegister (position : Nat) (token : String)
  /-- The operand does not have the shape of an offset and a base. -/
  | malformedAddress (token : String)
  /-- The base of an address has to be a register. -/
  | notBase (base token : String)
  | unknownTarget (label : String)
  /-- The branch target is neither a label nor a number of words. -/
  | malformedTarget (token : String)
  deriving DecidableEq

def Problem.message : Problem → String
  | .invalidLabel label =>
    s!"Invalid label \"{label}\". Labels must start with a letter or underscore " ++
      "and contain only alphanumeric characters or underscores."
  | .duplicateLabel label => s!"Duplicate label \"{label}\"."
  | .unknownOpcode name => s!"Unknown opcode \"{name}\"."
  | .operandCount opcode =>
    match opcode with
    | .alu op => op.name ++ " expects 3 operands (rd, rs, rt)."
    | .lw | .sw => opcode.name ++ " expects 2 operands (rt, offset(base))."
    | .beq => "BEQ expects 3 operands (rs, rt, label|offset)."
    | .nop | .other _ => opcode.name ++ " does not accept operands."
  | .notRegister position token =>
    s!"Operand {position} \"{token}\" is not a valid register. Expected format R0-R31."
  | .malformedAddress token =>
    s!"Invalid address operand \"{token}\". Expected format offset(Rx)."
  | .notBase base token =>
    s!"Base register \"{base}\" in \"{token}\" is not a valid register. Expected format R0-R31."
  | .unknownTarget label => s!"Unknown branch target label \"{label}\"."
  | .malformedTarget token =>
    s!"Invalid branch target \"{token}\". Expected label or immediate offset."

/-- A problem and the source line it is on, counted from one. -/
structure Diagnostic where
  line : Nat
  problem : Problem
  deriving DecidableEq

/-- A worded diagnostic, as it is shown to a reader. -/
structure Notice where
  line : Int
  message : String
  deriving DecidableEq

def Notice.text (notice : Notice) : String :=
  "Line " ++ toString notice.line ++ ": " ++ notice.message

def Diagnostic.notice (diagnostic : Diagnostic) : Notice :=
  ⟨diagnostic.line, diagnostic.problem.message⟩

/-- Why a statement is not an instruction. -/
inductive Refusal where
  | problem (problem : Problem)
  | fault (fault : Fault)
  deriving DecidableEq

end FiveStage.Asm
