import FiveStage.Limit
import FiveStage.Pipeline.Hazard

/-!
# The log of a cycle

A cycle records the hazards it met twice: as a list of events in a fixed order, bypasses
before a stall before a flush, and as notes beside the stages they concern. The log is
cleared at the start of every cycle, so it never tells of an older one.

An event names a register by its number, which has to be short enough to be written down.
-/

namespace FiveStage.Pipeline

/-- The five stages. -/
inductive Stage where
  | fetch
  | decode
  | execute
  | memory
  | writeBack
  deriving DecidableEq

namespace Stage

/-- The stages in the order that an instruction takes. -/
def all : List Stage := [.fetch, .decode, .execute, .memory, .writeBack]

def name : Stage → String
  | .fetch => "IF"
  | .decode => "ID"
  | .execute => "EX"
  | .memory => "MEM"
  | .writeBack => "WB"

def ofName? (name : String) : Option Stage := all.find? fun stage => stage.name == name

@[simp] theorem ofName?_name (stage : Stage) : ofName? stage.name = some stage := by
  cases stage <;> rfl

end Stage

/-- Which latches the operands of a cycle were bypassed from. -/
structure Forwarding where
  aFrom : Option BypassSource := none
  bFrom : Option BypassSource := none
  deriving DecidableEq

/-- The sources of the bypasses of a pair of operands. -/
def Operands.forwarding (operands : Operands) : Forwarding :=
  ⟨operands.rsBypass.map (·.source), operands.rtBypass.map (·.source)⟩

/-- What is written beside a stage. -/
inductive Note where
  /-- Decode waits for a load into the register. -/
  | loadUse (register : Int)
  /-- The instruction being fetched was dropped. -/
  | flushed
  /-- Execute took operands from latches. -/
  | forwarded (forwarding : Forwarding)
  deriving DecidableEq

namespace Note

/-- The kind under which a note is shown. A flush is shown as a stall of fetch. -/
def kind : Note → String
  | .loadUse _ | .flushed => "stall"
  | .forwarded _ => "forward"

def description : Note → String
  | .loadUse register => "Load-use hazard on " ++ registerName register
  | .flushed => "Flushed due to taken branch"
  | .forwarded forwarding =>
    let parts := (forwarding.aFrom.map ("A<-" ++ ·.name)).toList ++
      (forwarding.bFrom.map ("B<-" ++ ·.name)).toList
    "Forwarding applied (" ++ ", ".intercalate parts ++ ")"

end Note

/-- A hazard event, with the number of the cycle that met it. -/
inductive Event where
  | forward (cycle : Int) (side : OperandSide) (register : Int) (source : BypassSource)
  | stall (cycle : Int) (register : Int)
  | flush (cycle : Int)
  deriving DecidableEq

namespace Event

def kind : Event → String
  | .forward .. => "FORWARD"
  | .stall .. => "STALL"
  | .flush .. => "FLUSH"

def cycle : Event → Int
  | .forward cycle _ _ _ => cycle
  | .stall cycle _ => cycle
  | .flush cycle => cycle

def reason : Event → String
  | .forward _ side _ _ => "operand-" ++ side.name
  | .stall .. => "load-use"
  | .flush .. => "branch-taken"

/-- The register concerned; a flush concerns none. -/
def register? : Event → Option Int
  | .forward _ _ register _ => some register
  | .stall _ register => some register
  | .flush _ => none

/-- The latch that a value comes from. -/
def source? : Event → Option BypassSource
  | .forward _ _ _ source => some source
  | _ => none

/-- The stage that a value goes to. -/
def destination? : Event → Option Stage
  | .forward .. => some .execute
  | _ => none

end Event

/-- The hazards of the latest cycle. -/
structure CycleLog where
  /-- At most one note per stage, in the order recorded. -/
  notes : List (Stage × Note) := []
  stalled : Bool := false
  flushed : Bool := false
  forwarding : Forwarding := {}
  events : List Event := []
  deriving DecidableEq

/-- The note beside a stage. -/
def CycleLog.note? (log : CycleLog) (stage : Stage) : Option Note :=
  (log.notes.find? fun entry => entry.1 = stage).map (·.2)

/-- The event of a bypass. -/
def Event.ofBypass (cycle : Int) : OperandSide × Bypass → Event :=
  fun (side, bypass) => .forward cycle side bypass.register bypass.source

@[simp] theorem Event.ofBypass_mk (cycle : Int) (side : OperandSide) (bypass : Bypass) :
    ofBypass cycle (side, bypass) = .forward cycle side bypass.register bypass.source := rfl

namespace Operands

/-- The events of the bypasses of a cycle. -/
def events (operands : Operands) (cycle : Int) : List Event :=
  operands.bypasses.map (Event.ofBypass cycle)

/-- Every register that is bypassed can be named in an event. -/
def Nameable (operands : Operands) : Prop :=
  ∀ entry ∈ operands.bypasses, Writable entry.2.register

instance (operands : Operands) : Decidable operands.Nameable :=
  inferInstanceAs (Decidable (∀ entry ∈ operands.bypasses, Writable entry.2.register))

/-- The events up to the first bypass whose register cannot be named. -/
def eventsBefore (operands : Operands) (cycle : Int) : List Event :=
  (operands.bypasses.takeWhile fun entry => decide (Writable entry.2.register)).map
    (Event.ofBypass cycle)

end Operands

end FiveStage.Pipeline
