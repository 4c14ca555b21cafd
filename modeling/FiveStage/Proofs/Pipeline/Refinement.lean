import FiveStage.Proofs.Pipeline.Run

/-!
# The pipeline refines the sequential machine

Registers change in write-back and memory one stage before it, so after any cycle the
registers are those of the sequential machine when it has executed as many instructions as
the pipeline has completed, and the memory is one instruction ahead if one is waiting to be
written back. `NOP` is not counted on either side: which of the sequential states between two
other instructions is taken does not matter (`path_eq_of_workCount_eq`).
-/

namespace FiveStage.Pipeline

/-- How many instructions the latch in front of write-back holds. -/
def MemWb.occupancy (latch : MemWb) : Nat := if latch.isBubble then 0 else 1

/-- What a pipeline has in common with the sequential machine that runs the same program. -/
structure Refines (program : Program) (start : Sequential.State) (state : State) : Prop where
  /-- The sequential machine executes all that has reached write-back. -/
  executes : ∃ n, (start.workCount program n : Int) =
    state.core.counters.completed + state.latches.memWb.occupancy
  /-- The registers are those after the instructions that have been completed. -/
  registers : ∀ n, (start.workCount program n : Int) = state.core.counters.completed →
    state.core.registers = (start.steps program n).registers
  /-- The memory is also past the instruction that is in front of write-back. -/
  memory : ∀ n, (start.workCount program n : Int) =
      state.core.counters.completed + state.latches.memWb.occupancy →
    state.core.memory = (start.steps program n).memory
  /-- A pipeline that has halted is where the sequential machine ends. -/
  ended : state.core.halted = true → ∃ n, (start.steps program n).isDone program = true ∧
    (start.workCount program n : Int) = state.core.counters.completed ∧
    state.core.registers = (start.steps program n).registers ∧
    state.core.memory = (start.steps program n).memory

variable {program : Program} {start : Sequential.State} {a b : Nat}

/-- Between two slots with as much work before the one as before the other there is none. -/
theorem isWork_of_workCount_eq (h : start.workCount program a = start.workCount program b) {i : Nat}
    (hlow : a ≤ i) (hhigh : i < b) : start.isWork program i = false := by
  cases hwork : start.isWork program i with
  | false => rfl
  | true =>
      have hbefore : start.workCount program a ≤ start.workCount program i :=
        Nat.count_monotone _ hlow
      have hbehind : start.workCount program i < start.workCount program b :=
        Nat.count_strict_mono hwork hhigh
      omega

/-- The work done fixes registers and memory. -/
theorem path_eq_of_workCount_eq {α : Type} {view : Sequential.State → α}
    (hnext : ∀ state, view state.next = view state)
    (h : start.workCount program a = start.workCount program b) :
    view (start.path program a) = view (start.path program b) := by
  rcases Nat.le_total a b with hle | hle
  · exact (path_eq_of_idle hnext hle fun _ => isWork_of_workCount_eq h).symm
  · exact path_eq_of_idle hnext hle fun _ => isWork_of_workCount_eq h.symm

theorem Agrees.pending_eq {position : Sequential.Position} {state : State}
    (h : Agrees program start position state) :
    (start.workCount program position.accessed : Int) =
      state.core.counters.completed + state.latches.memWb.occupancy := by
  rw [h.pending, h.completed]
  rfl

/-- Agreeing with the schedule is more than refining the sequential machine. -/
theorem Agrees.refines {position : Sequential.Position} {state : State}
    (h : Agrees program start position state) (hvalid : position.Valid program start) :
    Refines program start state where
  executes := ⟨position.accessed, h.pending_eq⟩
  registers n hn := by
    rw [h.completed] at hn
    rw [h.registers, Sequential.State.registers_steps]
    exact path_eq_of_workCount_eq Sequential.State.registers_next (Int.ofNat.inj hn.symm)
  memory n hn := by
    rw [← h.pending_eq] at hn
    rw [h.memory, Sequential.State.memory_steps]
    exact path_eq_of_workCount_eq Sequential.State.memory_next (Int.ofNat.inj hn.symm)
  ended hhalted := by
    obtain ⟨hidle, hdone⟩ := h.halted.1 hhalted
    have hretired := hvalid.retired_le
    have haccessed := hvalid.accessed_le
    have hupcoming : position.executed ≤ position.upcoming := Nat.le_add_right _ _
    refine ⟨position.upcoming, ?_, ?_, ?_, ?_⟩
    · rw [Sequential.State.isDone_steps]
      exact hdone
    · rw [h.completed]
      exact congrArg Int.ofNat
        (count_eq_of_idle id (by omega) fun i hlow _ => hidle i hlow)
    · rw [h.registers, Sequential.State.registers_steps]
      exact (path_eq_of_idle Sequential.State.registers_next (by omega)
        fun i hlow _ => hidle i hlow).symm
    · rw [h.memory, Sequential.State.memory_steps]
      exact (path_eq_of_idle Sequential.State.memory_next (by omega)
        fun i hlow _ => hidle i (by omega)).symm

end FiveStage.Pipeline

namespace FiveStage.Simulator

open Asm Pipeline

variable {simulator : Simulator}

/-- After any number of clock edges a ready simulator refines the sequential machine from
the same registers and memory, and the next edge is without a fault. -/
theorem Ready.refines_sequential (h : Ready simulator) (n : Nat) :
    (simulator.clocked n).step.2 = none ∧
      Refines simulator.program simulator.origin (simulator.clocked n).state :=
  ⟨h.fault_step n, (h.agrees n).refines (Sequential.valid_position _ _ n)⟩

/-- The countdown with other words in the places that it writes to. -/
def countdownFilled : Simulator :=
  ((countdownLoaded.preset [(1, 5), (2, 1)] [(0, 2), (4, 9)]).toOption).getD countdownLoaded

/-- The load and the subtractions replace the word in `R1` and the store replaces one in memory.
When the pipeline has halted, the sequential machine has ended after as many instructions, with the
same words. -/
theorem refines_countdown :
    Ready countdownFilled ∧
      let ended := (countdownFilled.clocked 20).state.core
      (countdownFilled.origin.registers.value (some 1), countdownFilled.origin.memory.words) =
          (5, #[2, 9]) ∧
        (ended.registers.value (some 1), ended.memory.words, ended.counters.completed) =
          (0, #[2, 0], 9) ∧
        ∃ n, (countdownFilled.origin.steps countdownFilled.program n).isDone
            countdownFilled.program ∧
          countdownFilled.origin.workCount countdownFilled.program n = ended.counters.completed ∧
          ended.registers = (countdownFilled.origin.steps countdownFilled.program n).registers ∧
          ended.memory = (countdownFilled.origin.steps countdownFilled.program n).memory := by
  have hpreset : countdownLoaded.preset [(1, 5), (2, 1)] [(0, 2), (4, 9)] = .ok countdownFilled :=
    rfl
  have hready := ready_of_countdownLoaded hpreset
  have hhalted : (countdownFilled.clocked 20).halted = true := by decide +kernel
  exact ⟨hready, by decide +kernel, by decide +kernel,
    (hready.refines_sequential 20).2.ended hhalted⟩

end FiveStage.Simulator
