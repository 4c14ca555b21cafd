import FiveStage.Proofs.Pipeline.FaultFree
import FiveStage.Proofs.Pipeline.Run

/-!
# A simulator on the bench

On a bench a simulator can be loaded, clocked and reset in any order, its state can be taken
out and put back at any time, and a state that is out can be changed by hand. A state keeps the
instructions in flight but not the program, so one that is put back may run on under another
program than the one it was taken out of.

What every state on a bench has in common is shown once for all operations
(`Invariant.run`): it has to hold where a program starts, be kept by a clock edge and by a
change by hand, and may count the clock edges. For programs that an assembler made, also out of
texts with diagnostics, this gives that nothing ever faults on a bench (`faultless`).
-/

namespace FiveStage

open Asm Pipeline

/-- A change to a state by hand. A write to a register that does not exist is refused and
changes nothing. -/
inductive Edit where
  | pc (address : Int)
  | halted (value : Bool)
  | register (index value : Int)
  | memory (address value : Int)
  deriving DecidableEq

namespace Edit

def applyCore (core : Core) : Edit → Core
  | .pc address => { core with pc := address }
  | .halted value => { core with halted := value }
  | .register index value => { core with registers := core.registers.commit (some (index, value)) }
  | .memory address value => { core with memory := core.memory.write address value }

def apply (edit : Edit) (state : State) : State :=
  { state with core := edit.applyCore state.core }

@[simp] theorem latches_apply (edit : Edit) (state : State) :
    (edit.apply state).latches = state.latches := rfl

@[simp] theorem counters_apply (edit : Edit) (state : State) :
    (edit.apply state).core.counters = state.core.counters := by
  cases edit <;> rfl

end Edit

/-- What can be done to a simulator on a bench. -/
inductive Operation where
  /-- Loads a text if nothing is wrong with it. -/
  | load (source : String)
  /-- Loads instructions, wherever they come from. -/
  | install (instructions : List Instruction)
  | step
  | reset
  /-- Resets and drops the program. -/
  | clear
  /-- Takes the state out, into the next free slot. -/
  | save
  /-- Puts the state of a slot back. -/
  | restore (slot : Nat)
  | edit (slot : Nat) (edit : Edit)
  deriving DecidableEq

namespace Operation

/-- The programs that the operation may load are of a certain kind. -/
def Loads (kind : Program → Prop) : Operation → Prop
  | .load source => ∀ listing, assemble source = .ok listing → kind listing.instructions.toArray
  | .install instructions => kind instructions.toArray
  | _ => True

/-- The operation loads nothing but what was assembled. Diagnostics of the text do not
matter. -/
def Assembled : Operation → Prop
  | .install instructions =>
    ∃ source listing, assemble source = .ok listing ∧ listing.instructions = instructions
  | _ => True

theorem Assembled.loads {operation : Operation} (h : operation.Assembled) :
    operation.Loads Program.WellFormed := by
  have hlisting : ∀ source listing, assemble source = .ok listing →
      Program.WellFormed listing.instructions.toArray := by
    intro source listing hassemble instruction hmem
    exact wellFormed_of_assemble hassemble instruction (List.mem_toArray.1 hmem)
  cases operation with
  | load source => exact hlisting source
  | install instructions =>
      obtain ⟨source, listing, hassemble, rfl⟩ := h
      exact hlisting source listing hassemble
  | _ => trivial

end Operation

/-- A simulator and the states that were taken out of it, by slot. -/
structure Bench where
  simulator : Simulator
  saved : List State := []

namespace Bench

/-- The bench after an operation. What faults is not done; a cycle that faults leaves what it
did until then. -/
def perform (bench : Bench) : Operation → Bench
  | .load source =>
    match bench.simulator.loadSource source with
    | .ok (simulator, _) => { bench with simulator }
    | .error _ => bench
  | .install instructions => { bench with simulator := bench.simulator.load instructions }
  | .step => { bench with simulator := bench.simulator.step.1 }
  | .reset => { bench with simulator := bench.simulator.reset }
  | .clear => { bench with simulator := bench.simulator.clear }
  | .save => { bench with saved := bench.saved ++ [bench.simulator.state] }
  | .restore slot =>
    match bench.saved[slot]? with
    | some state => { bench with simulator := bench.simulator.restore state }
    | none => bench
  | .edit slot edit => { bench with saved := bench.saved.modify slot edit.apply }

/-- The bench after operations in order. -/
def run (bench : Bench) (operations : List Operation) : Bench := operations.foldl perform bench

/-- The program and all states of a bench are of a certain kind, after so many clock edges. -/
structure Satisfies (size : Int) (kind : Program → Prop) (holds : Nat → State → Prop)
    (clocks : Nat) (bench : Bench) : Prop where
  memorySize : bench.simulator.memorySize = size
  program : kind bench.simulator.program
  current : holds clocks bench.simulator.state
  saved : ∀ state ∈ bench.saved, holds clocks state

end Bench

namespace Bench.Satisfies

variable {size : Int} {kind : Program → Prop} {holds : Nat → State → Prop} {clocks : Nat}
  {bench : Bench} {operation : Operation}

/-- A program that is loaded starts over, and the states that are out are left alone. -/
theorem load (h : bench.Satisfies size kind holds clocks) {instructions : List Instruction}
    (hkind : kind instructions.toArray)
    (hstart : holds clocks (Simulator.startState size instructions.toArray)) :
    ({ bench with simulator := bench.simulator.load instructions } : Bench).Satisfies
      size kind holds clocks where
  memorySize := h.memorySize
  program := hkind
  current := by
    show holds clocks (Simulator.startState bench.simulator.memorySize instructions.toArray)
    rw [h.memorySize]
    exact hstart
  saved := h.saved

/-- One operation keeps what starts, clock edges and the operation itself keep. -/
theorem perform (h : bench.Satisfies size kind holds clocks)
    (hloads : operation.Loads kind) (hclear : operation = .clear → kind #[])
    (hstart : ∀ {program}, kind program → holds clocks (Simulator.startState size program))
    (hsucc : ∀ {state}, holds clocks state → holds (clocks + 1) state)
    (hstep : ∀ {program state}, kind program → holds clocks state →
      holds (clocks + 1) (state.step program).1)
    (hedit : ∀ {slot edit state}, operation = .edit slot edit → holds clocks state →
      holds clocks (edit.apply state)) :
    (bench.perform operation).Satisfies size kind holds (clocks + [operation].count .step) := by
  cases operation with
  | load source =>
      simp only [Bench.perform, Simulator.loadSource]
      cases hassemble : assemble source with
      | error fault => exact h
      | ok listing =>
          have hkind := hloads listing hassemble
          dsimp only
          split
          · exact h.load hkind (hstart hkind)
          · exact h
  | install instructions => exact h.load hloads (hstart hloads)
  | step =>
      refine ⟨h.memorySize, h.program, hstep h.program h.current, ?_⟩
      intro state hstate
      exact hsucc (h.saved state hstate)
  | reset =>
      refine ⟨h.memorySize, h.program, ?_, h.saved⟩
      show holds clocks (Simulator.startState bench.simulator.memorySize bench.simulator.program)
      rw [h.memorySize]
      exact hstart h.program
  | clear =>
      have hkind := hclear rfl
      exact h.load hkind (hstart hkind)
  | save =>
      refine ⟨h.memorySize, h.program, h.current, ?_⟩
      intro state hstate
      obtain hsaved | hcurrent := List.mem_append.1 hstate
      · exact h.saved state hsaved
      · rw [List.mem_singleton.1 hcurrent]
        exact h.current
  | restore slot =>
      simp only [Bench.perform]
      cases hslot : bench.saved[slot]? with
      | none => exact h
      | some state =>
          exact ⟨h.memorySize, h.program, h.saved state (List.mem_of_getElem? hslot), h.saved⟩
  | edit slot edit =>
      refine ⟨h.memorySize, h.program, h.current, ?_⟩
      intro state hstate
      obtain ⟨index, hindex, rfl⟩ := List.getElem_of_mem hstate
      simp only [Bench.perform, List.getElem_modify]
      split
      · exact hedit rfl (h.saved _ (List.getElem_mem _))
      · exact h.saved _ (List.getElem_mem _)

end Bench.Satisfies

/-- A property of states that lasts, whatever is done on a bench with programs of a certain
kind. It may depend on an upper bound of the number of clock edges. -/
structure Invariant (size : Int) (kind : Program → Prop) (holds : Nat → State → Prop) : Prop where
  empty : kind #[]
  start : ∀ {program}, kind program → holds 0 (Simulator.startState size program)
  succ : ∀ {clocks state}, holds clocks state → holds (clocks + 1) state
  step : ∀ {clocks program state}, kind program → holds clocks state →
    holds (clocks + 1) (state.step program).1
  edit : ∀ {clocks state} (edit : Edit), holds clocks state → holds clocks (edit.apply state)

namespace Invariant

open Bench

variable {size : Int} {kind : Program → Prop} {holds : Nat → State → Prop} {clocks : Nat}
  {bench : Bench}

theorem startState (inv : Invariant size kind holds) {program : Program} (h : kind program)
    (clocks : Nat) : holds clocks (Simulator.startState size program) := by
  induction clocks with
  | zero => exact inv.start h
  | succ clocks ih => exact inv.succ ih

/-- One operation keeps the invariant. -/
theorem perform (inv : Invariant size kind holds) (h : bench.Satisfies size kind holds clocks)
    {operation : Operation} (hkind : operation.Loads kind) :
    (bench.perform operation).Satisfies size kind holds (clocks + [operation].count .step) := by
  apply h.perform hkind
  · intro _
    exact inv.empty
  · intro program hprogram
    exact inv.startState hprogram clocks
  · exact inv.succ
  · exact inv.step
  · intro slot edit state _
    exact inv.edit edit

/-- What every operation keeps holds after all of them, of the state in the simulator and of
those that are out. -/
theorem run (inv : Invariant size kind holds) (h : bench.Satisfies size kind holds clocks)
    {operations : List Operation} (hkind : ∀ operation ∈ operations, operation.Loads kind) :
    (bench.run operations).Satisfies size kind holds (clocks + operations.count .step) := by
  induction operations generalizing bench clocks with
  | nil => exact h
  | cons operation operations ih =>
      obtain ⟨hhere, hlater⟩ := List.forall_mem_cons.1 hkind
      have hrun := ih (inv.perform h hhere) hlater
      rw [Nat.add_assoc, ← List.count_append] at hrun
      exact hrun

end Invariant

/-! ## Assembled programs -/

/-- What holds of a state that instructions of an assembler led to in so many clock edges. -/
structure Pipeline.State.Sound (clocks : Nat) (state : State) : Prop where
  latches : state.latches.WellFormed
  counters : state.core.counters.Plausible clocks

theorem invariant_sound (size : Int) : Invariant size Program.WellFormed State.Sound where
  empty := by
    intro instruction hmem
    exact absurd hmem (Array.not_mem_empty instruction)
  start _ := ⟨Latches.wellFormed_empty, le_refl 0, le_refl 0, le_refl 0, le_refl 0⟩
  succ h := ⟨h.latches, h.counters.succ⟩
  step hprogram h :=
    ⟨State.wellFormed_step hprogram h.latches, State.plausible_step h.counters⟩
  edit edit h := ⟨h.latches, by rw [Edit.counters_apply]; exact h.counters⟩

namespace Bench

/-- Whatever is done on a bench with assembled programs, the next clock edge is without a
fault, and the state has a snapshot with both of its ratios, if only the simulator could be made
in the first place. The second ratio is a binary64 number, so the clock must not have ticked
`2 ^ 1023` times before. -/
theorem faultless (size : Int) {operations : List Operation}
    (hassembled : ∀ operation ∈ operations, operation.Assembled) :
    ((∃ simulator, Simulator.ofMemorySize size = .ok simulator) ↔ 1 ≤ size ∧ FitsIndex size) ∧
      ∀ simulator, Simulator.ofMemorySize size = .ok simulator →
        let reached := (Bench.run { simulator } operations).simulator
        reached.step.2 = none ∧
          (∃ share, reached.snapshot.counters.branchAccuracy = .ok share) ∧
          (operations.count .step < 2 ^ 1023 →
            ∃ ratio, reached.snapshot.counters.cyclesPerInstruction = .ok ratio) := by
  have inv := invariant_sound size
  refine ⟨by simp [Simulator.ofMemorySize_eq_ok_iff], ?_⟩
  intro simulator hmade reached
  obtain ⟨-, rfl⟩ := Simulator.ofMemorySize_eq_ok_iff.1 hmade
  have hstart : Bench.Satisfies size Program.WellFormed State.Sound 0
      { simulator := ⟨size, #[], Simulator.startState size #[]⟩ } :=
    ⟨rfl, inv.empty, inv.start inv.empty, by simp⟩
  have hreached := (inv.run hstart fun operation hmem => (hassembled operation hmem).loads).current
  rw [Nat.zero_add] at hreached
  refine ⟨?_, hreached.counters.exists_branchAccuracy, ?_⟩
  · exact State.fault_step_of_wellFormed hreached.latches
  · intro hclocks
    exact hreached.counters.exists_cyclesPerInstruction hclocks

/-- A load with a use behind it, and a statement that is not one. -/
def patchySource : String := "ADD R1, R2\nLW R1, 4(R2)\nADD R3, R1, R1"

def patchyInstructions : List Instruction :=
  ((assemble patchySource).toOption.map Listing.instructions).getD []

/-- The countdown is left in the middle for another program, and comes back below address zero
with a register that does not exist asked for. -/
def programSwapOperations : List Operation :=
  [.load Simulator.countdownSource, .step, .step, .step, .save, .install patchyInstructions, .step,
    .edit 0 (.pc (-6)), .edit 0 (.register 40 7), .edit 0 (.halted false), .restore 0, .step]

theorem assembled_programSwap : ∀ operation ∈ programSwapOperations, operation.Assembled := by
  have hassembles : (assemble patchySource).toOption.isSome = true := by decide +kernel
  have hpatchy : (Operation.install patchyInstructions).Assembled := by
    rw [patchyInstructions]
    cases hassemble : assemble patchySource with
    | error fault => rw [hassemble] at hassembles; contradiction
    | ok listing => exact ⟨patchySource, listing, hassemble, rfl⟩
  simp only [programSwapOperations, List.forall_mem_cons]
  refine ⟨?_, ?_, ?_, ?_, ?_, hpatchy, ?_, ?_, ?_, ?_, ?_, ?_, List.forall_mem_nil _⟩
  all_goals trivial

theorem faultless_programSwap :
    (∀ operation ∈ programSwapOperations, operation.Assembled) ∧
      ∃ simulator, Simulator.ofMemorySize 2 = .ok simulator ∧
        let reached := (Bench.run { simulator } programSwapOperations).simulator
        reached.step.2 = none ∧
          ∃ ratio, reached.snapshot.counters.cyclesPerInstruction = .ok ratio := by
  obtain ⟨hmade, hfaultless⟩ := faultless 2 assembled_programSwap
  obtain ⟨simulator, hsimulator⟩ := hmade.2 ⟨by decide, by decide⟩
  obtain ⟨hstep, -, hratio⟩ := hfaultless simulator hsimulator
  have hfew : programSwapOperations.count .step < 1023 := by decide
  have hlarge : ∀ limit : Nat, limit < 2 ^ limit := fun _ => Nat.lt_two_pow_self
  have hclocks : programSwapOperations.count .step < 2 ^ 1023 := hfew.trans (hlarge 1023)
  exact ⟨assembled_programSwap, simulator, hsimulator, hstep, hratio hclocks⟩

end Bench

end FiveStage
