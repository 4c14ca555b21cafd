import FiveStage.Asm.Statement

/-!
# Listings

Assembling a source text gives a listing: the instructions of the statements that make
sense, a diagnostic for every label and statement that does not, and the labels. Label
diagnostics come first, then those of statements, each in source order. A statement has
exactly one outcome, and its outcome depends on other lines only through the labels.

A fault in a numeral ends the assembly: there is then no listing at all, and the first
statement with a fault decides which one it is.
-/

namespace FiveStage.Asm

/-- What becomes of one statement. -/
inductive Outcome where
  | instruction (instruction : Instruction)
  | diagnostic (diagnostic : Diagnostic)
  | fault (fault : Fault)
  deriving DecidableEq

namespace Outcome

def instruction? : Outcome → Option Instruction
  | .instruction decoded => some decoded
  | _ => none

def diagnostic? : Outcome → Option Diagnostic
  | .diagnostic found => some found
  | _ => none

def fault? : Outcome → Option Fault
  | .fault cause => some cause
  | _ => none

end Outcome

/-- Reads a placed statement and resolves its labels. -/
def Placed.outcome (labels : Labels) (placed : Placed) : Outcome :=
  match Statement.ofText placed.statement with
  | .error (.fault fault) => .fault fault
  | .error (.problem problem) => .diagnostic ⟨placed.line, problem⟩
  | .ok statement =>
    match statement.instruction labels placed.pc (String.ofList placed.text) placed.line with
    | .ok instruction => .instruction instruction
    | .error problem => .diagnostic ⟨placed.line, problem⟩

/-- An assembled source text. -/
structure Listing where
  instructions : List Instruction
  diagnostics : List Diagnostic
  labels : Labels
  deriving DecidableEq

namespace Listing

/-- Whether nothing was wrong. -/
def isClean (listing : Listing) : Bool := listing.diagnostics.isEmpty

end Listing

/-- What becomes of the statements of a layout, in source order. -/
def Layout.outcomes (layout : Layout) : List Outcome :=
  layout.statements.toList.map (Placed.outcome layout.labels)

/-- The listing of a layout, or the first fault of its statements. -/
def Layout.listing (layout : Layout) : Except Fault Listing :=
  let outcomes := layout.outcomes
  match outcomes.findSome? Outcome.fault? with
  | some fault => .error fault
  | none =>
    .ok {
      instructions := outcomes.filterMap Outcome.instruction?
      diagnostics := layout.diagnostics.toList ++ outcomes.filterMap Outcome.diagnostic?
      labels := layout.labels }

/-- Assembles a source text. -/
def assemble (source : String) : Except Fault Listing := (Layout.ofRows (rows source)).listing

/-- The first instruction of a source text. Diagnostics of other lines do not matter. -/
def firstInstruction (source : String) : Except Fault Instruction :=
  match assemble source with
  | .error fault => .error fault
  | .ok listing =>
    match listing.instructions with
    | instruction :: _ => .ok instruction
    | [] => .error .noInstruction

end FiveStage.Asm
