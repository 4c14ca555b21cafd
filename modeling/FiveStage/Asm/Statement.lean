import FiveStage.Asm.Layout
import FiveStage.Isa.Instruction
import FiveStage.Machine.Registers
import FiveStage.Text.Numeral
import FiveStage.Text.Uppercase

/-!
# Statements

A statement is an operation with the operands that it takes. Reading one checks its
operands from left to right, and turns text into registers, offsets and targets; only a
branch to a label still depends on the rest of the program. `Statement.instruction`
resolves that and fills in the instruction.

Letter case does not matter for operations, the letter of a register and hexadecimal
digits. It does for labels, except that a branch tries the label in capitals first.
-/

namespace FiveStage.Asm

open Text

/-! ## Operands -/

/-- A register is the letter R and a number below 32 of one or two decimal digits. -/
def register? : List Char → Option (Fin 32)
  | [] => none
  | letter :: digits =>
    if (letter = 'R' ∨ letter = 'r') ∧ digits.all isDigit = true ∧
        1 ≤ digits.length ∧ digits.length ≤ 2 then
      if h : decimalValue digits < 32 then some ⟨decimalValue digits, h⟩ else none
    else none

/-- The register at an operand position, counted from one. -/
def readRegister (position : Nat) (token : List Char) : Except Refusal (Fin 32) :=
  match register? token with
  | some register => .ok register
  | none => .error (.problem (.notRegister position (String.ofList token)))

/-- The memory operand of a load or store. -/
structure Address where
  offset : Int
  base : Fin 32
  deriving DecidableEq

namespace Address

/-- What may stand for a base: anything but parentheses and white space. -/
def isBaseChar (c : Char) : Bool := !(c == '(' || c == ')' || isBlank c)

/-- Splits an address into its offset and what stands for its base, if it has the shape
`offset(base)`. White space is allowed around both parentheses. -/
def split? (token : List Char) : Option (Numeral × List Char) :=
  match Numeral.read? token with
  | none => none
  | some (numeral, rest) =>
    match trimLeft rest with
    | '(' :: inside =>
      let base := (trimLeft inside).takeWhile isBaseChar
      if base ≠ [] ∧ trimLeft ((trimLeft inside).dropWhile isBaseChar) = [')'] then
        some (numeral, base)
      else none
    | _ => none

/-- Reads an address. An offset without a value is a fault, whatever the base is. -/
def read (token : List Char) : Except Refusal Address :=
  match split? (trim token) with
  | none => .error (.problem (.malformedAddress (String.ofList token)))
  | some (numeral, base) =>
    match numeral.value with
    | .error fault => .error (.fault fault)
    | .ok offset =>
      match register? base with
      | some base => .ok ⟨offset, base⟩
      | none => .error (.problem (.notBase (String.ofList base) (String.ofList token)))

end Address

/-- Where a branch goes. -/
inductive Target where
  | label (name : String)
  /-- So many words beyond the next instruction. -/
  | offset (words : Int)
  deriving DecidableEq

namespace Target

/-- An identifier is a label; anything else has to be a numeral with a value. -/
def read (token : List Char) : Except Refusal Target :=
  if isIdentifier token then .ok (.label (String.ofList token))
  else
    match Numeral.compact? token with
    | some words => .ok (.offset words)
    | none => .error (.problem (.malformedTarget (String.ofList token)))

/-- The address of a label, which is looked up in capitals and then as written. -/
def address? (labels : Labels) (name : String) : Option Nat :=
  (labels.address? (String.ofList (upper name.toList))).or (labels.address? name)

/-- The word offset and the byte address of a target, seen from the branch at `pc`. -/
def resolve (labels : Labels) (pc : Int) : Target → Except Problem (Int × Int)
  | .label name =>
    match address? labels name with
    | some address => .ok ((address - (pc + 4)) / 4, address)
    | none => .error (.unknownTarget name)
  | .offset words => .ok (words, pc + 4 + words * 4)

end Target

/-! ## Statements -/

/-- A statement of the language. -/
inductive Statement where
  | alu (op : AluOp) (rd rs rt : Fin 32)
  | load (rt : Fin 32) (address : Address)
  | store (rt : Fin 32) (address : Address)
  | branch (rs rt : Fin 32) (target : Target)
  | nop
  deriving DecidableEq

namespace Statement

/-- Reads the operands of an operation. -/
def read (opcode : Opcode) (operands : List (List Char)) : Except Refusal Statement :=
  match opcode, operands with
  | .alu op, [rd, rs, rt] => do
    let rd ← readRegister 1 rd
    let rs ← readRegister 2 rs
    let rt ← readRegister 3 rt
    return .alu op rd rs rt
  | .lw, [rt, address] => do
    let rt ← readRegister 1 rt
    let address ← Address.read address
    return .load rt address
  | .sw, [rt, address] => do
    let rt ← readRegister 1 rt
    let address ← Address.read address
    return .store rt address
  | .beq, [rs, rt, target] => do
    let rs ← readRegister 1 rs
    let rt ← readRegister 2 rt
    let target ← Target.read target
    return .branch rs rt target
  | .nop, [] => .ok .nop
  | .other name, _ => .error (.problem (.unknownOpcode name))
  | opcode, _ => .error (.problem (.operandCount opcode))

/-- The operation of a statement's text, in capitals. -/
def opcode (text : List Char) : Opcode :=
  .ofName (String.ofList (upper (text.takeWhile fun c => !isBlank c)))

/-- The operands of a statement's text, between commas. Empty ones do not count. -/
def operands (text : List Char) : List (List Char) :=
  (((text.dropWhile fun c => !isBlank c).splitOn ',').map trim).filter (· ≠ [])

/-- Reads the trimmed text of a statement. -/
def ofText (text : List Char) : Except Refusal Statement := read (opcode text) (operands text)

/-- The instruction of a statement at a byte address. -/
def instruction (statement : Statement) (labels : Labels) (pc : Int) (text : String)
    (line : Nat) : Except Problem Instruction :=
  let plain (opcode : Opcode) : Instruction :=
    { opcode, pc, text, rd := none, rs := none, rt := none, dest := none, immediate := none,
      target := none, line := some line }
  match statement with
  | .alu op rd rs rt =>
    .ok { plain (.alu op) with
      rd := some rd.val, rs := some rs.val, rt := some rt.val, dest := some rd.val }
  | .load rt address =>
    .ok { plain .lw with
      rs := some address.base.val, rt := some rt.val, dest := some rt.val,
      immediate := some address.offset }
  | .store rt address =>
    .ok { plain .sw with
      rs := some address.base.val, rt := some rt.val, immediate := some address.offset }
  | .branch rs rt target =>
    match target.resolve labels pc with
    | .ok (words, address) =>
      .ok { plain .beq with
        rs := some rs.val, rt := some rt.val, immediate := some words, target := some address }
    | .error problem => .error problem
  | .nop => .ok (plain .nop)

end Statement

end FiveStage.Asm
