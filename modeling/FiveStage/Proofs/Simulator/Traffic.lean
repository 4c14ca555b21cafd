import FiveStage.Proofs.Pipeline.Spacing
import FiveStage.Proofs.Simulator.Hazards

/-!
# Traffic on a bench

What the snapshots of following cycles have to do with each other, for a simulator that was used in
any way before. The instructions shown move on by a stage in every cycle, so that one in execute is
in write-back two cycles later and counted in the third (`Bench.flows_run`), and hazards keep their
distance in every run of the clock (`Bench.spaced_run`).

A state that is put back brings with it what it showed in fetch. It showed the same as its latch
when it was taken out, and nothing that can be done on a bench drives the two apart
(`invariant_shown`).
-/

namespace FiveStage

open Pipeline

/-- The latches hold instructions of an assembler, and fetch shows what is in the one behind it. -/
structure Pipeline.State.Shown (state : State) : Prop where
  latches : state.latches.WellFormed
  fetch : state.FetchShown

theorem invariant_shown (size : Int) :
    Invariant size Program.WellFormed fun _ state => state.Shown where
  empty := (invariant_sound size).empty
  start _ := ⟨Latches.wellFormed_empty, rfl⟩
  succ h := h
  step hprogram h :=
    ⟨State.wellFormed_step hprogram h.latches, State.fetchShown_step h.latches h.fetch⟩
  edit _ h := ⟨h.latches, h.fetch⟩

namespace Bench

variable {size : Int} {fresh : Simulator} {operations : List Operation}

/-- Whatever was done on the bench before, a cycle of a machine that is not halted takes the texts
in the stages one stage on, and counts the one in write-back. So an instruction in decode is next
in execute unless it waits or is flushed, and one in execute is in write-back two cycles later and
counted after it. -/
theorem flows_run (hfresh : Simulator.ofMemorySize size = .ok fresh)
    (hassembled : ∀ operation ∈ operations, operation.Assembled)
    (hlive : (Bench.run { simulator := fresh } operations).simulator.halted = false) :
    let reached := (Bench.run { simulator := fresh } operations).simulator
    let next := reached.step.1.snapshot
    reached.step.2 = none ∧ Snapshot.Flows reached.snapshot next ∧
      (∀ text, reached.snapshot.text? .decode = some text → next.flushed = false →
        next.text? .execute = some text ∨ next.stalled = true ∧ next.text? .decode = some text) ∧
      ∀ text, reached.snapshot.text? .execute = some text →
        (reached.clocked 2).snapshot.text? .writeBack = some text ∧
          (reached.clocked 3).snapshot.counters.completed =
            (reached.clocked 2).snapshot.counters.completed + 1 := by
  intro reached next
  have hsatisfies := satisfies_run (invariant_shown size) hfresh hassembled
  have hprogram : reached.program.WellFormed := hsatisfies.program
  have hlatches : reached.state.latches.WellFormed := hsatisfies.current.latches
  have hflows : Snapshot.Flows reached.snapshot next :=
    State.flows_step hlatches hlive hsatisfies.current.fetch
  refine ⟨State.fault_step_of_wellFormed hlatches, hflows, ?_, ?_⟩
  · intro text hdecode hkept
    cases hstalled : next.stalled with
    | true => exact .inr ⟨rfl, (hflows.stalled hstalled).2.trans hdecode⟩
    | false => exact .inl ((hflows.issued hstalled hkept).trans hdecode)
  · intro text hexecute
    exact State.arrives hlatches hlive hprogram hsatisfies.current.fetch hexecute

/-- A branch on a word that was just loaded, taken back to the cycle before it waits for it, with
another word in its register. -/
def branching : List Operation :=
  [.load "LW R1, 0(R2)\nBEQ R1, R0, 1", .step, .step, .save, .edit 0 (.register 1 5), .step,
    .restore 0]

theorem assembled_branching : ∀ operation ∈ branching, operation.Assembled := by
  simp [branching, Operation.Assembled]

theorem live_branching :
    (Bench.run { simulator := ⟨2, #[], Simulator.startState 2 #[]⟩ }
      branching).simulator.halted = false := by
  decide +kernel

/-- The load is in execute, and the branch waits for it in the next cycle. -/
theorem flows_branching :
    ∃ fresh, Simulator.ofMemorySize 2 = .ok fresh ∧
      (∀ operation ∈ branching, operation.Assembled) ∧
      (Bench.run { simulator := fresh } branching).simulator.halted = false ∧
      let reached := (Bench.run { simulator := fresh } branching).simulator
      reached.step.1.snapshot.text? .decode = some "BEQ R1, R0, 1" ∧
        (reached.clocked 2).snapshot.text? .writeBack = some "LW R1, 0(R2)" := by
  have hfresh : Simulator.ofMemorySize 2 = .ok ⟨2, #[], Simulator.startState 2 #[]⟩ := rfl
  obtain ⟨-, hflows, -, harrives⟩ := flows_run hfresh assembled_branching live_branching
  refine ⟨_, rfl, assembled_branching, live_branching, ?_, (harrives _ ?_).1⟩
  · refine (hflows.stalled ?_).2.trans ?_
    · decide +kernel
    · decide +kernel
  · decide +kernel

/-- Whatever was done on the bench before, hazards keep their distance in a run of a machine that
is not halted at its start, and no cycle of it has a fault. -/
theorem spaced_run (hfresh : Simulator.ofMemorySize size = .ok fresh)
    (hassembled : ∀ operation ∈ operations, operation.Assembled)
    (hlive : (Bench.run { simulator := fresh } operations).simulator.halted = false) :
    let reached := (Bench.run { simulator := fresh } operations).simulator
    (∀ n, (reached.clocked n).step.2 = none) ∧
      Snapshot.Spaced fun n => (reached.clocked (n + 1)).snapshot := by
  intro reached
  have hsatisfies := satisfies_run (invariant_shown size) hfresh hassembled
  have hrests : reached.state.Rests := by
    intro hhalted
    exact absurd hlive (ne_false_of_eq_true hhalted)
  have hsteady : reached.Steady := ⟨hsatisfies.program, hsatisfies.current.latches, hrests⟩
  refine ⟨?_, hsteady.spaced⟩
  intro n
  exact State.fault_step_of_wellFormed (hsteady.clocked n).latches

/-- The branch waits for the load and is then taken. -/
theorem spaced_branching :
    ∃ fresh, Simulator.ofMemorySize 2 = .ok fresh ∧
      (∀ operation ∈ branching, operation.Assembled) ∧
      (Bench.run { simulator := fresh } branching).simulator.halted = false ∧
      let reached := (Bench.run { simulator := fresh } branching).simulator
      (reached.clocked 2).snapshot.events = [] ∧ (reached.clocked 5).snapshot.events = [] := by
  have hfresh : Simulator.ofMemorySize 2 = .ok ⟨2, #[], Simulator.startState 2 #[]⟩ := rfl
  obtain ⟨-, hspaced⟩ := spaced_run hfresh assembled_branching live_branching
  refine ⟨_, rfl, assembled_branching, live_branching, (hspaced.behindStall 0 ?_).1,
    (hspaced.behindFlush 2 ?_ 2 (by decide) (by decide)).1⟩
  · decide +kernel
  · decide +kernel

end Bench

end FiveStage
