import FiveStage.Asm.Listing
import FiveStage.Pipeline.Snapshot

/-!
# The simulator

A simulator is a program and the state of the pipeline that runs it. It is made with a
memory size, which it keeps for all programs; without a program it is halted.

States can be taken out and put back at any time, also after another program was loaded,
since a state holds the instructions in flight but not the program. Loading from source
is all or nothing: a text with diagnostics or with a fault changes nothing.
-/

namespace FiveStage

open Asm Pipeline

structure Simulator where
  memorySize : Int
  program : Program
  state : State
  deriving DecidableEq

namespace Simulator

/-- The state in which a program starts. An empty program has already ended. -/
def startState (memorySize : Int) (program : Program) : State where
  core := { Core.ofMemory (.zeros memorySize) with halted := program.isEmpty }

/-- A simulator without a program. It needs at least one memory word, and a machine with as
many as it is given. -/
def ofMemorySize (size : Int) : Except Fault Simulator :=
  if size < 1 then .error (.memorySize size)
  else (Core.ofMemorySize size).map fun core =>
    { memorySize := size, program := #[], state := { core := { core with halted := true } } }

/-- Takes a program and starts over. -/
def load (simulator : Simulator) (instructions : List Instruction) : Simulator :=
  { simulator with
    program := instructions.toArray
    state := startState simulator.memorySize instructions.toArray }

/-- Assembles a text and loads it if nothing was wrong with it. -/
def loadSource (simulator : Simulator) (source : String) : Except Fault (Simulator × Listing) :=
  match assemble source with
  | .error fault => .error fault
  | .ok listing =>
    .ok (if listing.isClean then simulator.load listing.instructions else simulator, listing)

/-- Starts the program over. -/
def reset (simulator : Simulator) : Simulator :=
  { simulator with state := startState simulator.memorySize simulator.program }

/-- Drops the program and starts over. -/
def clear (simulator : Simulator) : Simulator := simulator.load []

/-- The simulator in another state. -/
def restore (simulator : Simulator) (state : State) : Simulator := { simulator with state }

def halted (simulator : Simulator) : Bool := simulator.state.core.halted

def snapshot (simulator : Simulator) : Snapshot := simulator.state.snapshot

/-- One clock edge. -/
def step (simulator : Simulator) : Simulator × Option Fault :=
  let (state, fault) := simulator.state.step simulator.program
  ({ simulator with state }, fault)

/-- So many clock edges, with a snapshot after each, up to the first fault. A halted
simulator stands still and is shown again. -/
def steps : Nat → Simulator → Array Snapshot → Simulator × Array Snapshot × Option Fault
  | 0, simulator, seen => (simulator, seen, none)
  | budget + 1, simulator, seen =>
    match simulator.step with
    | (next, none) => steps budget next (seen.push next.snapshot)
    | (next, some fault) => (next, seen, some fault)

/-- Clocks until halted, at most so many times, and adds up the edges. -/
def run : Nat → Simulator → Nat → Simulator × Nat × Option Fault
  | 0, simulator, taken => (simulator, taken, none)
  | budget + 1, simulator, taken =>
    if simulator.halted then (simulator, taken, none)
    else
      match simulator.step with
      | (next, none) => run budget next (taken + 1)
      | (next, some fault) => (next, taken, some fault)

/-- The simulator with registers and memory seeded, or the fault of a register that does
not exist. -/
def preset (simulator : Simulator) (registers memory : List (Int × Int)) :
    Except Fault Simulator :=
  match simulator.state.core.preset registers memory with
  | (core, none) => .ok (simulator.restore { simulator.state with core })
  | (_, some fault) => .error fault

theorem ofMemorySize_of_lt {size : Int} (h : size < 1) :
    ofMemorySize size = .error (.memorySize size) :=
  if_pos h

theorem ofMemorySize_of_not_fitsIndex {size : Int} (h : 1 ≤ size) (hlarge : ¬ FitsIndex size) :
    ofMemorySize size = .error .indexSize := by
  rw [ofMemorySize, if_neg (Int.not_lt.2 h), Core.ofMemorySize, Memory.ofSize, if_neg hlarge]
  rfl

theorem ofMemorySize_of_fitsIndex {size : Int} (h : 1 ≤ size) (hfits : FitsIndex size) :
    ofMemorySize size = .ok ⟨size, #[], startState size #[]⟩ := by
  rw [ofMemorySize, if_neg (Int.not_lt.2 h), Core.ofMemorySize, Memory.ofSize, if_pos hfits]
  rfl

/-- A simulator is made for exactly the sizes that are positive and can be counted. -/
theorem ofMemorySize_eq_ok_iff {size : Int} {simulator : Simulator} :
    ofMemorySize size = .ok simulator ↔
      (1 ≤ size ∧ FitsIndex size) ∧ simulator = ⟨size, #[], startState size #[]⟩ := by
  by_cases hsize : 1 ≤ size
  · by_cases hfits : FitsIndex size
    · simp [ofMemorySize_of_fitsIndex hsize hfits, hsize, hfits, eq_comm]
    · simp [ofMemorySize_of_not_fitsIndex hsize hfits, hfits]
  · simp [ofMemorySize_of_lt (Int.not_le.1 hsize), hsize]

theorem exists_ofMemorySize {size : Int} (h : 1 ≤ size) (hfits : FitsIndex size) :
    ∃ fresh, ofMemorySize size = .ok fresh :=
  ⟨_, ofMemorySize_of_fitsIndex h hfits⟩

@[simp] theorem memorySize_step (simulator : Simulator) :
    simulator.step.1.memorySize = simulator.memorySize := rfl

@[simp] theorem program_step (simulator : Simulator) :
    simulator.step.1.program = simulator.program := rfl

@[simp] theorem state_step (simulator : Simulator) :
    simulator.step.1.state = (simulator.state.step simulator.program).1 := rfl

@[simp] theorem restore_state (simulator : Simulator) :
    simulator.restore simulator.state = simulator := rfl

theorem step_of_halted {simulator : Simulator} (h : simulator.halted = true) :
    simulator.step = (simulator, none) := by
  have hstep : simulator.state.step simulator.program = (simulator.state, none) :=
    State.step_of_halted h
  simp [step, hstep]

/-- A clock edge without a fault goes on to the next cycle. -/
theorem cycle_step {simulator : Simulator} (hlive : simulator.halted = false)
    (hfault : simulator.step.2 = none) :
    simulator.step.1.snapshot.cycle = simulator.snapshot.cycle + 1 :=
  State.cycles_step hlive hfault

@[simp] theorem preset_nil (simulator : Simulator) : simulator.preset [] [] = .ok simulator := rfl

end Simulator

end FiveStage
