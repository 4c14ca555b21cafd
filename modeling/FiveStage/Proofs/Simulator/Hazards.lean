import FiveStage.Proofs.Pipeline.Forwards
import FiveStage.Proofs.Pipeline.Interlock
import FiveStage.Proofs.Simulator.Bench
import FiveStage.Proofs.Simulator.Seeding

/-!
# Hazards on a bench

The cycles of a simulator on a bench start from states that are sound, whatever was done to it
before (`Bench.sound_run`). So all that is known of one cycle holds there: its snapshot tells one
story (`Bench.coherent_run`), and this story has the forwards that the operand fields ask for
(`Bench.forwards_run`), which may be more than the dependences. What no forward could bring, the
word of a load that has not read memory, is not needed in any state (`Bench.interlocked_run`).
-/

namespace FiveStage

open Asm Pipeline

/-- The operation leaves the simulator alone. -/
def Operation.Spares : Operation → Prop
  | .save | .edit _ _ => True
  | _ => False

/-- What every operation keeps holds on a bench with a simulator that was fresh in the
beginning. -/
theorem Invariant.run_fresh {size : Int} {kind : Program → Prop} {holds : Nat → State → Prop}
    {fresh : Simulator} {operations : List Operation} (inv : Invariant size kind holds)
    (hfresh : Simulator.ofMemorySize size = .ok fresh)
    (hkind : ∀ operation ∈ operations, operation.Loads kind) :
    (Bench.run { simulator := fresh } operations).Satisfies size kind holds
      (operations.count .step) := by
  have hstart : Bench.Satisfies size kind holds 0 { simulator := fresh } := by
    obtain ⟨-, rfl⟩ := Simulator.ofMemorySize_eq_ok_iff.1 hfresh
    exact ⟨rfl, inv.empty, inv.start inv.empty, by simp⟩
  have hreached := inv.run hstart hkind
  rwa [Nat.zero_add] at hreached

/-- The latches hold instructions of an assembler, and none in execute reads what a load behind it
is fetching. -/
structure Pipeline.State.Guarded (state : State) : Prop where
  latches : state.latches.WellFormed
  interlocked : state.latches.Interlocked

theorem invariant_guarded (size : Int) :
    Invariant size Program.WellFormed fun _ state => state.Guarded where
  empty := (invariant_sound size).empty
  start _ := ⟨Latches.wellFormed_empty, Latches.interlocked_of_idEx_empty rfl⟩
  succ h := h
  step hprogram h :=
    ⟨State.wellFormed_step hprogram h.latches, State.interlocked_step h.latches h.interlocked⟩
  edit _ h := ⟨h.latches, h.interlocked⟩

namespace Bench

theorem simulator_perform_of_spares (bench : Bench) {operation : Operation}
    (h : operation.Spares) : (bench.perform operation).simulator = bench.simulator := by
  cases operation with
  | save => rfl
  | edit slot edit => rfl
  | _ => exact absurd h id

theorem simulator_run_of_spares (bench : Bench) {later : List Operation}
    (h : ∀ operation ∈ later, operation.Spares) :
    (bench.run later).simulator = bench.simulator := by
  induction later generalizing bench with
  | nil => rfl
  | cons operation later ih =>
      obtain ⟨hhere, hlater⟩ := List.forall_mem_cons.1 h
      exact (ih (bench.perform operation) hlater).trans
        (bench.simulator_perform_of_spares hhere)

variable {size : Int} {fresh : Simulator} {operations : List Operation}

theorem satisfies_run {holds : Nat → State → Prop} (inv : Invariant size Program.WellFormed holds)
    (hfresh : Simulator.ofMemorySize size = .ok fresh)
    (hassembled : ∀ operation ∈ operations, operation.Assembled) :
    (Bench.run { simulator := fresh } operations).Satisfies size Program.WellFormed holds
      (operations.count .step) :=
  inv.run_fresh hfresh fun operation hmem => (hassembled operation hmem).loads

theorem sound_run (hfresh : Simulator.ofMemorySize size = .ok fresh)
    (hassembled : ∀ operation ∈ operations, operation.Assembled) :
    (Bench.run { simulator := fresh } operations).simulator.state.Sound
      (operations.count .step) :=
  (satisfies_run (invariant_sound size) hfresh hassembled).current

/-- Whatever was done on the bench before, a cycle of a machine that is not halted has no fault, and
the snapshot after it tells one story. It is shown again until the simulator is used, and wherever
the state is put back. -/
theorem coherent_run (hfresh : Simulator.ofMemorySize size = .ok fresh)
    (hassembled : ∀ operation ∈ operations, operation.Assembled)
    (hlive : (Bench.run { simulator := fresh } operations).simulator.halted = false) :
    let reached := Bench.run { simulator := fresh } operations
    let next := reached.perform .step
    reached.simulator.step.2 = none ∧
      Snapshot.Coherent reached.simulator.snapshot next.simulator.snapshot ∧
      (∀ later, (∀ operation ∈ later, operation.Spares) →
        (next.run later).simulator.snapshot = next.simulator.snapshot) ∧
      ∀ other : Simulator,
        (other.restore next.simulator.state).snapshot = next.simulator.snapshot := by
  intro reached next
  have hlatches := (sound_run hfresh hassembled).latches
  refine ⟨State.fault_step_of_wellFormed hlatches, State.coherent_step hlatches hlive, ?_, ?_⟩
  · intro later hspares
    rw [next.simulator_run_of_spares hspares]
  · intro other
    rfl

/-- The countdown, up to the cycle in which its branch waits for a load. -/
def waiting : List Operation := [.load Simulator.countdownSource, .step, .step]

theorem coherent_waiting :
    ∃ fresh, Simulator.ofMemorySize 2 = .ok fresh ∧
      (∀ operation ∈ waiting, operation.Assembled) ∧
      (Bench.run { simulator := fresh } waiting).simulator.halted = false ∧
      let next := (Bench.run { simulator := fresh } waiting).perform .step
      (next.simulator.snapshot.stages.get .decode).note.isSome = true := by
  have hassembled : ∀ operation ∈ waiting, operation.Assembled := by
    simp [waiting, Operation.Assembled]
  have hfresh : Simulator.ofMemorySize 2 = .ok ⟨2, #[], Simulator.startState 2 #[]⟩ := rfl
  have hlive : (Bench.run { simulator := ⟨2, #[], Simulator.startState 2 #[]⟩ }
      waiting).simulator.halted = false := by decide +kernel
  obtain ⟨-, hcoherent, -⟩ := coherent_run hfresh hassembled hlive
  refine ⟨_, rfl, hassembled, hlive, (hcoherent.noted .decode).2 ?_⟩
  decide +kernel

/-- Whatever was done on the bench before, a cycle of a machine that is not halted logs a bypass of
an operand iff the field of the operand names a register that an older instruction has a word for,
and counts what it logs. These are the dependences, unless a load in execute overwrites such a
register. -/
theorem forwards_run (hfresh : Simulator.ofMemorySize size = .ok fresh)
    (hassembled : ∀ operation ∈ operations, operation.Assembled)
    (hlive : (Bench.run { simulator := fresh } operations).simulator.halted = false) :
    let reached := (Bench.run { simulator := fresh } operations).simulator
    let after := reached.step.1.snapshot
    let latches := reached.state.latches
    (∀ side register, after.Forwards side register ↔
        ∃ user ∈ latches.idEx.instruction, latches.Names user side register) ∧
      after.counters.forwards =
        reached.snapshot.counters.forwards + after.logged "FORWARD" ∧
      ((∀ side register, after.Forwards side register ↔ latches.Depends side register) ↔
        ∀ register, ¬ latches.Overwrites register) := by
  intro reached after latches
  have hlatches := (sound_run hfresh hassembled).latches
  refine ⟨?_, ?_, State.exact_step_iff hlatches hlive⟩
  · intro side register
    exact State.forwards_step_iff hlatches hlive
  · exact (State.coherent_step hlatches hlive).forwards

/-- A load into a register that was just computed. -/
def overwriteSource : String := "ADD R1, R2, R3\nLW R1, 0(R4)"

/-- Takes the load to execute. -/
def overwriting : List Operation := [.load overwriteSource, .step, .step, .step]

theorem assembled_overwriting : ∀ operation ∈ overwriting, operation.Assembled := by
  simp [overwriting, Operation.Assembled]

theorem forwards_overwriting :
    ∃ fresh, Simulator.ofMemorySize 1 = .ok fresh ∧
      (∀ operation ∈ overwriting, operation.Assembled) ∧
      (Bench.run { simulator := fresh } overwriting).simulator.halted = false ∧
      let reached := (Bench.run { simulator := fresh } overwriting).simulator
      ∃ user ∈ reached.state.latches.idEx.instruction,
        reached.state.latches.Names user .b 1 := by
  have hfresh : Simulator.ofMemorySize 1 = .ok ⟨1, #[], Simulator.startState 1 #[]⟩ := rfl
  have hlive : (Bench.run { simulator := ⟨1, #[], Simulator.startState 1 #[]⟩ }
      overwriting).simulator.halted = false := by decide +kernel
  obtain ⟨hforwards, -, -⟩ := forwards_run hfresh assembled_overwriting hlive
  exact ⟨_, rfl, assembled_overwriting, hlive, (hforwards .b 1).1 (by decide +kernel)⟩

/-- The load does not read its destination, so nothing depends on what it overwrites. The log has a
forward of it all the same, and it is counted. -/
theorem not_depends_overwriting :
    (assemble overwriteSource).toOption.any Listing.isClean = true ∧
      ∃ fresh, Simulator.ofMemorySize 1 = .ok fresh ∧
        let reached := (Bench.run { simulator := fresh } overwriting).simulator
        reached.halted = false ∧
          ¬ (reached.step.1.snapshot.Forwards .b 1 ↔ reached.state.latches.Depends .b 1) ∧
          reached.step.1.snapshot.counters.forwards = reached.snapshot.counters.forwards + 1 := by
  refine ⟨by decide +kernel, _, rfl, ?_⟩
  decide +kernel

/-- Whatever was done on the bench before, in the simulator and in every state that is out of it no
instruction in execute reads what a load behind it is fetching, so the newest instruction that
writes an operand of it is never a load that has not read memory yet. Decode waits only where this
would be lost, and always there. -/
theorem interlocked_run (hfresh : Simulator.ofMemorySize size = .ok fresh)
    (hassembled : ∀ operation ∈ operations, operation.Assembled) :
    let bench := Bench.run { simulator := fresh } operations
    let reached := bench.simulator
    (∀ state, state = reached.state ∨ state ∈ bench.saved →
        state.latches.Interlocked ∧
          ∀ user ∈ state.latches.occupant? .execute, ∀ register ∈ user.sources, register ≠ 0 →
            ∀ older, state.latches.newestWriter? register = some (.memory, older) →
              older.opcode ≠ .lw) ∧
      (reached.halted = false →
        (reached.step.1.snapshot.stalled = true ↔
          ¬ (reached.state.unwaited reached.program).Interlocked)) := by
  intro bench reached
  have hsatisfies := satisfies_run (invariant_guarded size) hfresh hassembled
  refine ⟨?_, State.stalled_step_iff hsatisfies.current.latches⟩
  intro state hstate
  have hguarded : state.Guarded := by
    obtain rfl | hsaved := hstate
    · exact hsatisfies.current
    · exact hsatisfies.saved state hsaved
  refine ⟨hguarded.interlocked, ?_⟩
  intro user huser register hreads hne older holder
  exact hguarded.interlocked.opcode_newestWriter? hguarded.latches huser hreads hne holder

/-- Two loads, and an instruction that needs both of them. -/
def gatherSource : String := "LW R1, 0(R2)\nLW R3, 0(R4)\nADD R5, R3, R1"

/-- Takes the first load behind execute, and puts this back with another word for the second one to
go by. -/
def gatherOperations : List Operation :=
  [.load gatherSource, .step, .step, .step, .save, .edit 0 (.register 4 8), .restore 0]

/-- The second load passes behind the first, which it does not read from, and the sum waits for the
second. -/
theorem interlocked_gather :
    ∃ fresh, Simulator.ofMemorySize 4 = .ok fresh ∧
      (∀ operation ∈ gatherOperations, operation.Assembled) ∧
      let reached := (Bench.run { simulator := fresh } gatherOperations).simulator
      reached.halted = false ∧ reached.state.latches.exMem.LoadsInto 1 ∧
        (∃ user ∈ reached.state.latches.occupant? .execute, user.dest = some 3 ∧
          1 ∉ user.sources) ∧
        reached.step.1.snapshot.stalled = true ∧
        ¬ (reached.state.unwaited reached.program).Interlocked := by
  have hfresh : Simulator.ofMemorySize 4 = .ok ⟨4, #[], Simulator.startState 4 #[]⟩ := rfl
  have hassembled : ∀ operation ∈ gatherOperations, operation.Assembled := by
    simp [gatherOperations, Operation.Assembled]
  obtain ⟨hlocked, hstalled⟩ := interlocked_run hfresh hassembled
  have hlive : (Bench.run { simulator := ⟨4, #[], Simulator.startState 4 #[]⟩ }
      gatherOperations).simulator.halted = false := by decide +kernel
  have hloads : (Bench.run { simulator := ⟨4, #[], Simulator.startState 4 #[]⟩ }
      gatherOperations).simulator.state.latches.exMem.LoadsInto 1 :=
    ⟨by decide +kernel, by decide +kernel, by decide +kernel⟩
  have hstalls : (Bench.run { simulator := ⟨4, #[], Simulator.startState 4 #[]⟩ }
      gatherOperations).simulator.step.1.snapshot.stalled = true := by decide +kernel
  obtain ⟨user, huser, hdest⟩ : ∃ user ∈ (Bench.run
      { simulator := ⟨4, #[], Simulator.startState 4 #[]⟩ }
        gatherOperations).simulator.state.latches.occupant? .execute, user.dest = some 3 := by
    decide +kernel
  exact ⟨_, rfl, hassembled, hlive, hloads,
    ⟨user, huser, hdest, (hlocked _ (.inl rfl)).1 1 hloads (by decide) user huser⟩, hstalls,
    (hstalled hlive).1 hstalls⟩

end Bench

end FiveStage
