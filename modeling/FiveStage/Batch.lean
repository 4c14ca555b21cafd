import FiveStage.Report
import FiveStage.Simulator

/-!
# Batch runs

A batch run assembles a program, seeds the machine and clocks it until it halts or its
cycles are used up. It counts no clock edges but goes by the cycle that is shown. The trace
holds the snapshot before the first cycle and the one after every cycle; leaving it out
changes nothing else.

Both a rejected program and a run that was cut short have a result, with a report. Only
an impossible memory size, a fault of the assembler, a preset of a register that does not
exist, and a limit that is too long for the report leave a run without one. The presets of a
rejected program are not looked at.
-/

namespace FiveStage

open Asm Pipeline

namespace Batch

structure Options where
  memorySize : Int := 1024
  /-- The most cycles to clock; none if it is negative. -/
  maxCycles : Int := 10000
  trace : Bool := true
  /-- Register writes before the first cycle, by index. -/
  registers : List (Int × Int) := []
  /-- Memory writes before the first cycle, by byte address. -/
  memory : List (Int × Int) := []

structure Result where
  cycles : Int
  final : Snapshot
  trace : List Snapshot
  diagnostics : List Diagnostic
  /-- Why the run did not end properly, if it did not. -/
  report : Option Report
  deriving DecidableEq

/-- Whether the program ran to its end. -/
def Result.isOk (result : Result) : Bool := result.report.isNone

/-- The simulator with the presets of the options. Without any it is left alone. -/
def seed (simulator : Simulator) (options : Options) : Except Fault Simulator :=
  if options.registers.isEmpty && options.memory.isEmpty then .ok simulator
  else simulator.preset options.registers options.memory

/-- Clocks a simulator until it halts or shows a cycle that is not below the limit, and adds a
snapshot of every cycle to the trace if there is one. -/
def clock (limit : Int) (simulator : Simulator) (trace : Option (Array Snapshot)) :
    Except Fault (Simulator × Option (Array Snapshot)) :=
  if _hgoes : simulator.halted = false ∧ simulator.snapshot.cycle < limit then
    match _hstep : simulator.step with
    | (_, some fault) => .error fault
    | (next, none) => clock limit next (trace.map (·.push next.snapshot))
  else .ok (simulator, trace)
termination_by (limit - simulator.snapshot.cycle).toNat
decreasing_by
  obtain ⟨hlive, _⟩ := _hgoes
  have hcycle := Simulator.cycle_step hlive (congrArg Prod.snd _hstep)
  rw [show simulator.step.1 = next from congrArg Prod.fst _hstep] at hcycle
  omega

/-- The result for a program that was not accepted. -/
def rejected (simulator : Simulator) (diagnostics : List Diagnostic) : Result where
  cycles := 0
  final := simulator.snapshot
  trace := []
  diagnostics
  report := some (.ofNotices "" (diagnostics.map Diagnostic.notice))

/-- The report on a simulator that clocking has left, if it did not halt. -/
def shortfall (limit : Int) (last : Simulator) : Except Fault (Option Report) :=
  if last.halted then .ok none else (Report.cycleLimit limit last.snapshot.cycle).map some

/-- Runs a loaded and seeded simulator. -/
def runLoaded (simulator : Simulator) (options : Options) : Except Fault Result :=
  let start := if options.trace then some #[simulator.snapshot] else none
  match clock options.maxCycles simulator start with
  | .error fault => .error fault
  | .ok (last, trace) =>
    (shortfall options.maxCycles last).map fun report => {
      cycles := last.snapshot.cycle
      final := last.snapshot
      trace := (trace.getD #[]).toList
      diagnostics := []
      report }

/-- Runs a source text. -/
def run (source : String) (options : Options) : Except Fault Result :=
  match Simulator.ofMemorySize options.memorySize with
  | .error fault => .error fault
  | .ok simulator =>
    match simulator.loadSource source with
    | .error fault => .error fault
    | .ok (simulator, listing) =>
      if listing.isClean then
        match seed simulator options with
        | .error fault => .error fault
        | .ok simulator => runLoaded simulator options
      else .ok (rejected simulator listing.diagnostics)

/-- Presets that are not there make no difference. -/
@[simp] theorem seed_eq_preset (simulator : Simulator) (options : Options) :
    seed simulator options = simulator.preset options.registers options.memory := by
  rw [seed]
  split
  · rename_i hempty
    rw [Bool.and_eq_true, List.isEmpty_iff, List.isEmpty_iff] at hempty
    rw [hempty.1, hempty.2, Simulator.preset_nil]
  · rfl

theorem clock_of_halted {simulator : Simulator} (h : simulator.halted = true) (limit : Int)
    (trace : Option (Array Snapshot)) : clock limit simulator trace = .ok (simulator, trace) := by
  rw [clock, dif_neg (by simp [h])]

theorem clock_of_le {limit : Int} {simulator : Simulator} (h : limit ≤ simulator.snapshot.cycle)
    (trace : Option (Array Snapshot)) : clock limit simulator trace = .ok (simulator, trace) := by
  rw [clock, dif_neg fun hgoes => Int.not_lt.2 h hgoes.2]

theorem clock_of_lt {limit : Int} {simulator : Simulator} (hlive : simulator.halted = false)
    (h : simulator.snapshot.cycle < limit) (trace : Option (Array Snapshot)) :
    clock limit simulator trace =
      match simulator.step with
      | (_, some fault) => .error fault
      | (next, none) => clock limit next (trace.map (·.push next.snapshot)) := by
  rw [clock, dif_pos ⟨hlive, h⟩]
  split <;> rename_i hstep <;> rw [hstep]

end Batch

end FiveStage
