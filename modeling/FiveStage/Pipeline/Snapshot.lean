import FiveStage.Pipeline.Cycle

/-!
# Snapshots

A snapshot shows one cycle: what is in each stage and beside it, the contents of the
machine, and the cycle's log. It is a function of the state alone, so equal states look
the same. The reverse does not hold, because latches are shown by their text.
-/

namespace FiveStage.Pipeline

/-- What is shown of one stage. -/
structure StageView where
  /-- Text of the instruction, if one is shown. -/
  text : Option String
  note : Option Note
  deriving DecidableEq

/-- What is shown of all stages. -/
structure StageViews where
  fetch : StageView
  decode : StageView
  execute : StageView
  memory : StageView
  writeBack : StageView
  deriving DecidableEq

namespace StageViews

def get (views : StageViews) : Stage → StageView
  | .fetch => views.fetch
  | .decode => views.decode
  | .execute => views.execute
  | .memory => views.memory
  | .writeBack => views.writeBack

def ofFunction (view : Stage → StageView) : StageViews :=
  ⟨view .fetch, view .decode, view .execute, view .memory, view .writeBack⟩

@[simp] theorem get_ofFunction (view : Stage → StageView) (stage : Stage) :
    (ofFunction view).get stage = view stage := by
  cases stage <;> rfl

end StageViews

structure Snapshot where
  halted : Bool
  stages : StageViews
  registers : Registers
  memory : Memory
  counters : Counters
  stalled : Bool
  flushed : Bool
  forwarding : Forwarding
  events : List Event
  deriving DecidableEq

namespace Snapshot

/-- The number of the cycle shown. -/
def cycle (snapshot : Snapshot) : Int := snapshot.counters.cycles

/-- The view of the stage with a name. -/
def stage (snapshot : Snapshot) (name : String) : Except Fault StageView :=
  match Stage.ofName? name with
  | some stage => .ok (snapshot.stages.get stage)
  | none => .error (.unknownStage name)

end Snapshot

namespace State

/-- The instruction in a stage. -/
def inFlight? (state : State) : Stage → Option Instruction
  | .fetch => state.fetched
  | .decode => state.latches.ifId.instruction
  | .execute => state.latches.idEx.instruction
  | .memory => state.latches.exMem.instruction
  | .writeBack => state.latches.memWb.instruction

def stageView (state : State) (stage : Stage) : StageView :=
  ⟨(state.inFlight? stage).bind (·.display?), state.log.note? stage⟩

def snapshot (state : State) : Snapshot where
  halted := state.core.halted
  stages := .ofFunction state.stageView
  registers := state.core.registers
  memory := state.core.memory
  counters := state.core.counters
  stalled := state.log.stalled
  flushed := state.log.flushed
  forwarding := state.log.forwarding
  events := state.log.events

@[simp] theorem snapshot_halted (state : State) : state.snapshot.halted = state.core.halted := rfl

@[simp] theorem snapshot_registers (state : State) :
    state.snapshot.registers = state.core.registers := rfl

@[simp] theorem snapshot_memory (state : State) : state.snapshot.memory = state.core.memory := rfl

@[simp] theorem snapshot_counters (state : State) :
    state.snapshot.counters = state.core.counters := rfl

@[simp] theorem snapshot_cycle (state : State) :
    state.snapshot.cycle = state.core.counters.cycles := rfl

@[simp] theorem snapshot_stages_get (state : State) (stage : Stage) :
    state.snapshot.stages.get stage = state.stageView stage :=
  StageViews.get_ofFunction state.stageView stage

end State

end FiveStage.Pipeline
