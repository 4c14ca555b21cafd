import FiveStage.Asm.Listing
import FiveStage.Proofs.Asm.Grammar

/-!
# Sources and what they mean

A source is a list of lines, each with what it says and how that is spelled. What it means is
read off the first alone: the instructions are those of the statements in their order, at
consecutive words, and a label is the address of the next statement behind it or of the end.
The spelling shows in nothing but the displayed text and the line number of an instruction.
-/

namespace FiveStage

/-- An instruction without what shows how it was spelled. -/
def Instruction.bare (instruction : Instruction) : Instruction :=
  { instruction with text := "", line := none }

end FiveStage

namespace FiveStage.Asm

/-- A source line and the way it is spelled. -/
structure Line where
  label : Option String
  statement : Option Statement
  /-- From the first token to the last one. -/
  core : List Char
  /-- The whole line, without its line feed. -/
  text : List Char
  spelled : SpellsCore label statement core
  framed : Frames core text

namespace Line

/-- The lines as one text. -/
def source (lines : List Line) : String :=
  String.ofList (['\n'].intercalate (lines.map Line.text))

/-- The statements of lines. -/
def statements (lines : List Line) : List Statement := lines.filterMap Line.statement

theorem statements_cons (line : Line) (lines : List Line) :
    statements (line :: lines) = line.statement.toList ++ statements lines := by
  rw [statements, List.filterMap_cons]
  cases line.statement <;> rfl

/-- The labels of lines behind so many statements, in order, with their byte addresses. -/
def labels (before : Nat) : List Line → List (String × Nat)
  | [] => []
  | line :: lines =>
    (line.label.map fun name => (name, 4 * before)).toList ++
      labels (before + line.statement.toList.length) lines

/-- The byte address of a label, zero if it is not defined. -/
def address (lines : List Line) (name : String) : Nat := ((labels 0 lines).lookup name).getD 0

end Line

/-- The instruction that a statement stands for, given the addresses of labels, its own
address, and the text and the number of its line. -/
def Statement.meaning (address : String → Nat) (pc : Nat) (text : String) (line : Nat) :
    Statement → Instruction
  | .alu op rd rs rt =>
    { opcode := .alu op, pc, text, line := some line
      rd := some rd.val, rs := some rs.val, rt := some rt.val, dest := some rd.val
      immediate := none, target := none }
  | .load rt ⟨offset, base⟩ =>
    { opcode := .lw, pc, text, line := some line
      rd := none, rs := some base.val, rt := some rt.val, dest := some rt.val
      immediate := some offset, target := none }
  | .store rt ⟨offset, base⟩ =>
    { opcode := .sw, pc, text, line := some line
      rd := none, rs := some base.val, rt := some rt.val, dest := none
      immediate := some offset, target := none }
  | .branch rs rt (.offset words) =>
    { opcode := .beq, pc, text, line := some line
      rd := none, rs := some rs.val, rt := some rt.val, dest := none
      immediate := some words, target := some (pc + 4 + 4 * words) }
  | .branch rs rt (.label name) =>
    { opcode := .beq, pc, text, line := some line
      rd := none, rs := some rs.val, rt := some rt.val, dest := none
      immediate := some (((address name : Int) - (pc + 4)) / 4), target := some (address name) }
  | .nop =>
    { opcode := .nop, pc, text, line := some line
      rd := none, rs := none, rt := none, dest := none
      immediate := none, target := none }

namespace Line

/-- The instructions of lines that start with a number and stand behind so many statements. -/
def instructions (address : String → Nat) (number before : Nat) : List Line → List Instruction
  | [] => []
  | line :: lines =>
    (line.statement.map
      (Statement.meaning address (4 * before) (String.ofList line.core) number)).toList ++
      instructions address (number + 1) (before + line.statement.toList.length) lines

/-- What the lines mean. -/
def listing (lines : List Line) : Listing where
  instructions := instructions (address lines) 1 0 lines
  diagnostics := []
  labels := ⟨(labels 0 lines).toArray⟩

/-- Labels can be told apart in capitals, and branches go to labels that are there. -/
structure Consistent (lines : List Line) : Prop where
  distinct : ((labels 0 lines).map fun entry => entry.1.toList.map Char.toUpper).Nodup
  defined : ∀ rs rt name, .branch rs rt (.label name) ∈ statements lines →
    ∃ place, (name, place) ∈ labels 0 lines

end Line

end FiveStage.Asm
