import FiveStage.Asm.Diagnostic
import FiveStage.Asm.Row

/-!
# Layout

Layout gives every statement its place in the program and every label the byte address
of the statement that follows it, or of the program's end. Statements count whether or
not they turn out to be instructions, so the addresses do not depend on what the
statements say. A label is kept from its first definition; one that is not an identifier
or is defined again is reported and otherwise ignored.
-/

namespace FiveStage.Asm

/-- Letters, digits and underscores, of ASCII, and no digit in front. -/
def isIdentifier : List Char → Bool
  | [] => false
  | c :: rest => (c.isAlpha || c == '_') && rest.all fun c => c.isAlphanum || c == '_'

/-- Labels and their byte addresses in order of definition, each label once. -/
structure Labels where
  entries : Array (String × Nat) := #[]
  deriving DecidableEq

namespace Labels

/-- The address of a label. -/
def address? (labels : Labels) (name : String) : Option Nat :=
  (labels.entries.find? fun entry => entry.1 == name).map (·.2)

/-- Defines a label that is not there yet. -/
def insert (labels : Labels) (name : String) (address : Nat) : Labels :=
  ⟨labels.entries.push (name, address)⟩

def toList (labels : Labels) : List (String × Nat) := labels.entries.toList

@[simp] theorem toList_insert (labels : Labels) (name : String) (address : Nat) :
    (labels.insert name address).toList = labels.toList ++ [(name, address)] := by
  simp [insert, toList]

end Labels

/-- A statement and its place. -/
structure Placed where
  line : Nat
  /-- How many statements come before it. -/
  index : Nat
  /-- The whole row, label included. -/
  text : List Char
  statement : List Char
  deriving DecidableEq

/-- The byte address of a statement. -/
def Placed.pc (placed : Placed) : Nat := 4 * placed.index

/-- The labels and statements found so far, with what was wrong with labels. -/
structure Layout where
  labels : Labels := {}
  diagnostics : Array Diagnostic := #[]
  statements : Array Placed := #[]
  deriving DecidableEq

namespace Layout

/-- Adds a diagnostic. -/
def report (layout : Layout) (line : Nat) (problem : Problem) : Layout :=
  { layout with diagnostics := layout.diagnostics.push ⟨line, problem⟩ }

/-- Defines the label of a row as the address of the next statement. -/
def addLabel (layout : Layout) (line : Nat) (label : List Char) : Layout :=
  let name := String.ofList label
  if isIdentifier label = false then layout.report line (.invalidLabel name)
  else if (layout.labels.address? name).isSome then layout.report line (.duplicateLabel name)
  else { layout with labels := layout.labels.insert name (4 * layout.statements.size) }

/-- Gives the statement of a row the next place. -/
def addStatement (layout : Layout) (row : Row) : Layout :=
  if row.statement = [] then layout
  else
    { layout with
      statements := layout.statements.push
        { line := row.line, index := layout.statements.size, text := row.text,
          statement := row.statement } }

/-- Takes in a row: first its label, then its statement. -/
def addRow (layout : Layout) (row : Row) : Layout :=
  (row.label.elim layout (layout.addLabel row.line)).addStatement row

/-- The layout of rows in source order. -/
def ofRows (rows : List Row) : Layout := rows.foldl addRow {}

@[simp] theorem ofRows_nil : ofRows [] = {} := rfl

theorem ofRows_concat (rows : List Row) (row : Row) :
    ofRows (rows ++ [row]) = (ofRows rows).addRow row := by
  simp [ofRows]

end Layout

end FiveStage.Asm
