import FiveStage.Asm.Statement
import FiveStage.Proofs.Text.Trim

/-!
# The grammar of assembly text

The ways to write an operand, a statement and a line, as relations between what is meant and
a text. They say nothing about how a text is read. Everything that an author may choose is a
premise of a constructor: letter case, the number of digits, the base of a numeral, an
explicit sign, and the white space between tokens, which is any but the line feed.
-/

namespace FiveStage.Asm

open Text

/-- White space within a line. -/
structure IsGap (s : List Char) : Prop where
  blank : Blank s
  inline : '\n' ∉ s

/-! ## Operands -/

/-- The letter R and one or two digits. -/
inductive SpellsRegister (register : Fin 32) : List Char → Prop
  | intro {letter : Char} {digits : List Char} :
    (letter = 'R' ∨ letter = 'r') → (∀ c ∈ digits, isDigit c = true) →
    1 ≤ digits.length → digits.length ≤ 2 → decimalValue digits = register.val →
    SpellsRegister register (letter :: digits)

/-- Decimal digits, as many as are converted, or `0x` and any number of hexadecimal ones. -/
inductive SpellsMagnitude (n : Nat) : List Char → Prop
  | decimal {digits : List Char} :
    digits ≠ [] → (∀ c ∈ digits, isDigit c = true) → digits.length ≤ 4300 →
    decimalValue digits = n → SpellsMagnitude n digits
  | hexadecimal {mark : Char} {digits : List Char} :
    (mark = 'x' ∨ mark = 'X') → digits ≠ [] → (∀ c ∈ digits, isHexDigit c = true) →
    hexadecimalValue digits = n → SpellsMagnitude n ('0' :: mark :: digits)

/-- A magnitude, or a sign, a number of plain spaces and a magnitude. -/
inductive SpellsInteger (spaces : Nat) : Int → List Char → Prop
  | unsigned {n : Nat} {s : List Char} : SpellsMagnitude n s → SpellsInteger spaces n s
  | plus {n : Nat} {s : List Char} : SpellsMagnitude n s →
    SpellsInteger spaces n ('+' :: (List.replicate spaces ' ' ++ s))
  | minus {n : Nat} {s : List Char} : SpellsMagnitude n s →
    SpellsInteger spaces (-n) ('-' :: (List.replicate spaces ' ' ++ s))

/-- An offset and, in parentheses, a base. -/
inductive SpellsAddress (address : Address) : List Char → Prop
  | intro {spaces : Nat} {offset base a b c : List Char} :
    SpellsInteger spaces address.offset offset → SpellsRegister address.base base →
    IsGap a → IsGap b → IsGap c →
    SpellsAddress address (offset ++ a ++ '(' :: b ++ base ++ c ++ [')'])

/-- A label as it is defined, or a number of words, whose sign stands close to it. -/
inductive SpellsTarget : Target → List Char → Prop
  | label {name : String} : isIdentifier name.toList = true →
    SpellsTarget (.label name) name.toList
  | offset {words : Int} {s : List Char} : SpellsInteger 0 words s →
    SpellsTarget (.offset words) s

/-! ## Statements -/

/-- The operation of a statement. -/
def Statement.operation : Statement → Opcode
  | .alu op _ _ _ => .alu op
  | .load _ _ => .lw
  | .store _ _ => .sw
  | .branch _ _ _ => .beq
  | .nop => .nop

/-- The operands of a statement in their order. -/
inductive SpellsOperands : Statement → List (List Char) → Prop
  | alu {op : AluOp} {rd rs rt : Fin 32} {a b c : List Char} :
    SpellsRegister rd a → SpellsRegister rs b → SpellsRegister rt c →
    SpellsOperands (.alu op rd rs rt) [a, b, c]
  | load {rt : Fin 32} {address : Address} {a b : List Char} :
    SpellsRegister rt a → SpellsAddress address b → SpellsOperands (.load rt address) [a, b]
  | store {rt : Fin 32} {address : Address} {a b : List Char} :
    SpellsRegister rt a → SpellsAddress address b → SpellsOperands (.store rt address) [a, b]
  | branch {rs rt : Fin 32} {target : Target} {a b c : List Char} :
    SpellsRegister rs a → SpellsRegister rt b → SpellsTarget target c →
    SpellsOperands (.branch rs rt target) [a, b, c]
  | nop : SpellsOperands .nop []

/-- Tokens, each behind a comma. -/
inductive SpellsMore : List (List Char) → List Char → Prop
  | nil : SpellsMore [] []
  | cons {token rest a b : List Char} {tokens : List (List Char)} :
    IsGap a → IsGap b → SpellsMore tokens rest →
    SpellsMore (token :: tokens) (a ++ ',' :: b ++ token ++ rest)

/-- The name of the operation in any case, white space, and the operands with commas. -/
inductive SpellsStatement (statement : Statement) : List Char → Prop
  | bare {word : List Char} :
    word.map Char.toUpper = statement.operation.name.toList → SpellsOperands statement [] →
    SpellsStatement statement word
  | operands {word gap token rest : List Char} {tokens : List (List Char)} :
    word.map Char.toUpper = statement.operation.name.toList → IsGap gap → gap ≠ [] →
    SpellsOperands statement (token :: tokens) → SpellsMore tokens rest →
    SpellsStatement statement (word ++ gap ++ token ++ rest)

/-! ## Lines -/

/-- What a line says, from its first token to its last one. -/
inductive SpellsCore : Option String → Option Statement → List Char → Prop
  | blank : SpellsCore none none []
  | statement {statement : Statement} {s : List Char} :
    SpellsStatement statement s → SpellsCore none (some statement) s
  | label {name : String} {a : List Char} :
    isIdentifier name.toList = true → IsGap a →
    SpellsCore (some name) none (name.toList ++ a ++ [':'])
  | both {name : String} {statement : Statement} {a b s : List Char} :
    isIdentifier name.toList = true → IsGap a → IsGap b → SpellsStatement statement s →
    SpellsCore (some name) (some statement) (name.toList ++ a ++ ':' :: b ++ s)

/-- The core of a line between white space, and a comment up to the end. A carriage return
in front of the line feed is white space, or a part of the comment. -/
inductive Frames (core : List Char) : List Char → Prop
  | plain {a b : List Char} : IsGap a → IsGap b → Frames core (a ++ core ++ b)
  | comment {a b comment : List Char} : IsGap a → IsGap b → '\n' ∉ comment →
    Frames core (a ++ core ++ b ++ '#' :: comment)

end FiveStage.Asm
