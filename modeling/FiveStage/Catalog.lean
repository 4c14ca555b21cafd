import FiveStage.Report
import FiveStage.Simulator

/-!
# The catalog of sample programs

Three programs with presets of registers and memory. A name finds its program in any
letter case. The names of the catalog are ASCII but for a dash, so folding the ASCII
letters decides this, with one character more: the Kelvin sign is the only character
outside ASCII whose small form is a single ASCII letter.
-/

namespace FiveStage

open Asm

/-- A program with values to put into registers and memory before it starts. -/
structure Sample where
  name : String
  description : String
  source : String
  /-- Register writes in order, by index. -/
  registers : List (Int × Int) := []
  /-- Memory writes in order, by byte address. -/
  memory : List (Int × Int) := []
  deriving DecidableEq

namespace Catalog

def defaultSource : String :=
  "# Sample pipeline program\n" ++
    "ADD R1, R0, R0\n" ++
    "ADD R2, R1, R1\n" ++
    "LW R3, 0(R2)\n" ++
    "ADD R4, R1, R3\n" ++
    "SW R4, 4(R2)\n" ++
    "BEQ R1, R4, END\n" ++
    "ADD R5, R5, R5\n" ++
    "END: SUB R6, R4, R1\n"

def registerWriteSource : String :=
  "# Program A – Register Write Demo\n" ++
    "ADD R1, R2, R3\n" ++
    "ADD R4, R1, R5\n" ++
    "NOP\n"

def memoryWriteSource : String :=
  "# Program B – Memory Write & Read\n" ++
    "SW R1, 0(R2)\n" ++
    "LW R3, 0(R2)\n" ++
    "NOP\n"

/-- The samples in the order of the list. -/
def samples : List Sample := [
  { name := "Default Pipeline Demo"
    description := "Forwarding, a load-use stall, a store and a taken branch."
    source := defaultSource
    registers := [(1, 5), (2, 100), (3, 8), (4, 0), (5, 2)]
    memory := [(100, 0)] },
  { name := "Program A – Register Write Demo"
    description :=
      "Demonstrates forwarding and register write-back with two ADD instructions."
    source := registerWriteSource
    registers := [(1, 0), (2, 5), (3, 8), (4, 0), (5, 2)] },
  { name := "Program B – Memory Write & Read"
    description := "Stores R1 to memory and immediately loads it back into R3."
    source := memoryWriteSource
    registers := [(1, 11), (2, 100), (3, 0), (4, 0), (5, 1)]
    memory := [(100, 0)] }]

/-- A character without regard to the case of ASCII letters. -/
def foldCase (c : Char) : Char := if c = '\u212A' then 'k' else c.toLower

def foldName (name : String) : List Char := name.toList.map foldCase

/-- The first sample with a name, in any letter case. -/
def find? (name : String) : Option Sample :=
  samples.find? fun sample => foldName sample.name == foldName name

/-- The sample with a name. -/
def get (name : String) : Except Fault Sample :=
  match find? name with
  | some sample => .ok sample
  | none => .error (.unknownSample name)

/-- Assembles a text that is expected to be free of mistakes. -/
def assembleDefault (source : String) : Except Fault (List Instruction) :=
  match assemble source with
  | .error fault => .error fault
  | .ok listing =>
    if listing.isClean then .ok listing.instructions
    else
      let report := Report.ofNotices "Failed to parse default program:"
        (listing.diagnostics.map Diagnostic.notice)
      .error (.rejectedProgram report.message)

end Catalog

end FiveStage
