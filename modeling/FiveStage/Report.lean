import FiveStage.Asm.Diagnostic
import FiveStage.Fault

/-!
# Reports

A report says in one record why a run has no proper end. It is an answer and not a
fault: the caller gets it together with what the run had reached.
-/

namespace FiveStage

open Asm

inductive ReportKind where
  /-- The program text was not accepted. -/
  | assembly
  /-- The machine was still running when its cycles were used up. -/
  | cycleLimit
  | general
  deriving DecidableEq

structure Report where
  kind : ReportKind
  message : String
  /-- The cycle that was reached. -/
  cycle : Int := 0
  /-- The source line concerned. -/
  line : Option Int := none
  deriving DecidableEq

namespace Report

/-- Lists notices one to a line, below a heading unless that is empty, and points at the
line of the first. -/
def ofNotices (heading : String) (notices : List Notice) : Report :=
  let details := "\n".intercalate (notices.map Notice.text)
  { kind := .assembly
    message := if heading.isEmpty then details else heading ++ "\n" ++ details
    line := notices.head?.map (·.line) }

/-- Names the limit that a run was cut short by. -/
def overLimit (limit cycle : Int) : Report :=
  { kind := .cycleLimit, message := s!"Cycle limit exceeded: {limit}", cycle }

/-- The report that names a limit, unless the limit is too long to be written down. -/
def cycleLimit (limit cycle : Int) : Except Fault Report :=
  if Writable limit then .ok (overLimit limit cycle) else .error .integerLength

end Report

end FiveStage
