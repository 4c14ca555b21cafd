import FiveStage.Word

/-!
# Operation codes

The instruction set has four register operations, a load, a store, a branch on equality
and an operation without effect. Any other name is an operation code too: a machine may
be handed instructions that no assembler made, and treats unknown names as operations
without effect that are still shown.

`ofName` and `name` are inverse on the operations of the set (`ofName_name`).
-/

namespace FiveStage

/-- The operations of the arithmetic unit. -/
inductive AluOp where
  | add
  | sub
  | and
  | or
  deriving DecidableEq

namespace AluOp

/-- The operation on unbounded integers, negative ones in two's complement. -/
def eval : AluOp → Int → Int → Int
  | .add, a, b => a + b
  | .sub, a, b => a - b
  | .and, a, b => Word.bitAnd a b
  | .or, a, b => Word.bitOr a b

/-- The word that the arithmetic unit puts out. -/
def result (op : AluOp) (a b : Int) : Int := Word.wrap (op.eval a b)

theorem inRange_result (op : AluOp) (a b : Int) : Word.InRange (op.result a b) :=
  Word.inRange_wrap _

def name : AluOp → String
  | .add => "ADD"
  | .sub => "SUB"
  | .and => "AND"
  | .or => "OR"

end AluOp

/-- The operation of an instruction. -/
inductive Opcode where
  /-- A register operation: `rd` takes the result on `rs` and `rt`. -/
  | alu (op : AluOp)
  /-- Load word: `rt` takes the memory word at `rs` plus the immediate. -/
  | lw
  /-- Store word: the memory word at `rs` plus the immediate takes `rt`. -/
  | sw
  /-- Branch if `rs` and `rt` are equal. -/
  | beq
  | nop
  /-- A name outside the instruction set. -/
  | other (name : String)
  deriving DecidableEq

namespace Opcode

def name : Opcode → String
  | .alu op => op.name
  | .lw => "LW"
  | .sw => "SW"
  | .beq => "BEQ"
  | .nop => "NOP"
  | .other name => name

/-- The operation with a name, which has to be in capitals. -/
def ofName (name : String) : Opcode :=
  if name = "ADD" then .alu .add
  else if name = "SUB" then .alu .sub
  else if name = "AND" then .alu .and
  else if name = "OR" then .alu .or
  else if name = "LW" then .lw
  else if name = "SW" then .sw
  else if name = "BEQ" then .beq
  else if name = "NOP" then .nop
  else .other name

@[simp] theorem name_ofName (name : String) : (ofName name).name = name := by
  unfold ofName
  repeat' split
  all_goals simp_all [Opcode.name, AluOp.name]

/-- Operations of the instruction set are told apart by their names. -/
theorem ofName_name {opcode : Opcode} (h : ∀ name, opcode ≠ .other name) :
    ofName opcode.name = opcode := by
  match opcode with
  | .alu .add => rfl
  | .alu .sub => rfl
  | .alu .and => rfl
  | .alu .or => rfl
  | .lw => rfl
  | .sw => rfl
  | .beq => rfl
  | .nop => rfl
  | .other name => exact absurd rfl (h name)

end Opcode

end FiveStage
