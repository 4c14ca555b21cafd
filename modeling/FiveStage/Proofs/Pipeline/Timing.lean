import FiveStage.Proofs.Pipeline.Run

/-!
# How long a run takes

A work slot `j` is completed in cycle `executeCycle j + 2`, and nothing is completed in any
other cycle. A run whose sequential counterpart ends after `k` slots halts when two things
have happened: the last of its work is written back, and fetch has passed the end of the
program. Fetch is two slots ahead of execute, so it is there two cycles before the last slot
is executed, or would be if there is nothing left to execute (`haltCycle`).

That a final taken branch costs no penalty needs no case of its own: the penalty delays the
slot behind it, and there is none.
-/

namespace FiveStage.Sequential.State

open Pipeline

/-- The sequential machine is past the end after so many steps and not before. -/
def EndsAfter (program : Program) (start : State) (k : Nat) : Prop :=
  (start.steps program k).isDone program = true ∧
    ∀ i < k, (start.steps program i).isDone program = false

instance (program : Program) (start : State) (k : Nat) : Decidable (start.EndsAfter program k) :=
  inferInstanceAs (Decidable (_ ∧ ∀ i < k, _))

/-- The cycle in which the last work of the first so many slots is written back, and zero if
there is no work among them. -/
def drainCycle (program : Program) (start : State) : Nat → Nat
  | 0 => 0
  | k + 1 =>
    if start.isWork program k then start.executeCycle program k + 2
    else drainCycle program start k

/-- The cycle that ends a run of so many slots. -/
def haltCycle (program : Program) (start : State) (k : Nat) : Nat :=
  max (start.drainCycle program k) (start.executeCycle program (k - 1) - 2)

variable {program : Program} {start : State} {a i k n : Nat}

theorem drainCycle_le_iff :
    start.drainCycle program k ≤ n ↔
      ∀ j < k, start.isWork program j = true → start.executeCycle program j + 2 ≤ n := by
  induction k with
  | zero => simp [drainCycle]
  | succ k ih =>
      rw [drainCycle]
      constructor
      · intro hle j hj hwork
        rcases Nat.lt_succ_iff_lt_or_eq.1 hj with hlt | rfl
        · split at hle
          · have := strictMono_executeCycle program start hlt
            omega
          · exact ih.1 hle j hlt hwork
        · rw [if_pos hwork] at hle
          exact hle
      · intro hall
        split
        · exact hall k (Nat.lt_succ_self k) ‹_›
        · exact ih.2 fun j hj => hall j (Nat.lt_succ_of_lt hj)

/-- Slots that are not work follow each other without delay. -/
theorem executeCycle_add_of_idle (hidle : ∀ i, a ≤ i → start.isWork program i = false) (n : Nat) :
    start.executeCycle program (a + n) = start.executeCycle program a + n := by
  induction n with
  | zero => rfl
  | succ n ih =>
      have hslot := hidle (a + n) (Nat.le_add_right a n)
      rw [← Nat.add_assoc, executeCycle_succ, ih, isLoadUse_of_not_isWork hslot,
        isTaken_of_not_isWork hslot, Bool.toNat_false]
      omega

/-- The path is past the end from the slot on that the sequential machine ends with. -/
theorem EndsAfter.isDone_iff (h : start.EndsAfter program k) :
    (start.path program i).isDone program = true ↔ k ≤ i := by
  obtain ⟨hdone, hbefore⟩ := h
  rw [isDone_steps] at hdone
  constructor
  · intro hi
    rcases Nat.lt_or_ge i k with hlt | hge
    · have hnot := hbefore i hlt
      rw [isDone_steps, hi] at hnot
      contradiction
    · exact hge
  · exact fun hle => isDone_path_of_le hdone hle

/-- A machine that is past the end has a first step after which it is. -/
theorem exists_endsAfter (h : (start.steps program i).isDone program = true) :
    ∃ k, start.EndsAfter program k ∧ k ≤ i := by
  have hexists : ∃ i, (start.steps program i).isDone program = true := ⟨i, h⟩
  refine ⟨Nat.find hexists, ⟨Nat.find_spec hexists, ?_⟩, Nat.find_min' hexists h⟩
  intro i hi
  exact Bool.eq_false_iff.2 (Nat.find_min hexists hi)

end FiveStage.Sequential.State

namespace FiveStage.Sequential

open Pipeline State

variable {program : Program} {start : State} {j k n : Nat}

/-- A slot is written back in the cycle after the next one behind its execution. -/
theorem retired_succ_of_retires (h : start.executeCycle program j + 2 = n + 1) :
    (position program start n).retired = j ∧ (position program start (n + 1)).retired = j + 1 := by
  have hbefore : ¬ j < (position program start n).retired := by
    rw [lt_retired_iff]
    omega
  have hbehind : j < (position program start (n + 1)).retired := by
    rw [lt_retired_iff]
    omega
  have hstep : (position program start (n + 1)).retired ≤
      (position program start n).retired + 1 := by
    rw [position_succ]
    exact (valid_position program start n).le_retired
  omega

/-- If no slot is due for it, none is written back. -/
theorem workCount_retired_succ_of_none
    (h : ∀ j, start.isWork program j = true → start.executeCycle program j + 2 ≠ n + 1) :
    start.workCount program (position program start (n + 1)).retired =
      start.workCount program (position program start n).retired := by
  have hvalid := valid_position program start n
  have hretired := hvalid.retired_le
  have hstep := hvalid.le_retired
  have hnext : (position program start (n + 1)).retired = (position program start n).accessed := by
    rw [position_succ]
    rfl
  rcases Nat.eq_or_lt_of_le hretired with heq | hlt
  · rw [hnext, ← heq]
  · have hsucc : (position program start (n + 1)).retired =
        (position program start n).retired + 1 := by
      omega
    have hbefore : ¬ start.executeCycle program (position program start n).retired + 2 ≤ n := by
      rw [← lt_retired_iff]
      exact Nat.lt_irrefl _
    have hbehind : start.executeCycle program (position program start n).retired + 2 ≤ n + 1 := by
      rw [← lt_retired_iff, hsucc]
      exact Nat.lt_succ_self _
    cases hwork : start.isWork program (position program start n).retired with
    | false => rw [hsucc, workCount_succ, hwork]; rfl
    | true => exact absurd (by omega) (h _ hwork)

/-- All work has been written back from `drainCycle` on. -/
theorem idle_position_iff (h : start.EndsAfter program k) :
    (∀ i, (position program start n).retired ≤ i → start.isWork program i = false) ↔
      start.drainCycle program k ≤ n := by
  rw [drainCycle_le_iff]
  constructor
  · intro hidle j _ hwork
    rw [← lt_retired_iff]
    rcases Nat.lt_or_ge j (position program start n).retired with hlt | hge
    · exact hlt
    · rw [hidle j hge] at hwork
      contradiction
  · intro hall i hi
    rcases Nat.lt_or_ge i k with hlt | hge
    · cases hwork : start.isWork program i with
      | false => rfl
      | true =>
          have hretired := lt_retired_iff.2 (hall i hlt hwork)
          omega
    · exact isWork_of_isDone (h.isDone_iff.2 hge)

/-- With no work left the slots come one a cycle, so it can be counted when the end is
fetched. -/
theorem isDone_upcoming_iff (h : start.EndsAfter program k) (hpos : 0 < k)
    (hidle : ∀ i, (position program start n).retired ≤ i → start.isWork program i = false) :
    (start.path program (position program start n).upcoming).isDone program = true ↔
      start.executeCycle program (k - 1) - 2 ≤ n := by
  have hvalid := valid_position program start n
  have hdue := executeCycle_executed program start n
  have hretired := hvalid.retired_le
  have haccessed := hvalid.accessed_le
  have hle := hvalid.due_le
  rw [h.isDone_iff, Position.upcoming]
  rcases Nat.lt_or_ge (k - 1) (position program start n).executed with hlt | hge
  · have hpassed := lt_executed_iff.1 hlt
    omega
  · obtain ⟨later, hlater⟩ := Nat.exists_eq_add_of_le hge
    have hbehind : ∀ i, (position program start n).executed ≤ i →
        start.isWork program i = false := fun i hi => hidle i (by omega)
    have hcycle := executeCycle_add_of_idle hbehind later
    rw [← hlater, hdue] at hcycle
    omega

/-- Nothing is left to do from the cycle on that ends the run. -/
theorem quiet_position_iff (h : start.EndsAfter program k) (hpos : 0 < k) :
    (position program start n).Quiet program start ↔ start.haltCycle program k ≤ n := by
  rw [haltCycle, Nat.max_le]
  constructor
  · rintro ⟨hidle, hdone⟩
    exact ⟨(idle_position_iff h).1 hidle, (isDone_upcoming_iff h hpos hidle).1 hdone⟩
  · rintro ⟨hdrain, hfetch⟩
    have hidle := (idle_position_iff h).2 hdrain
    exact ⟨hidle, (isDone_upcoming_iff h hpos hidle).2 hfetch⟩

end FiveStage.Sequential

namespace FiveStage.Simulator

open Pipeline
open FiveStage.Sequential.State (EndsAfter)

variable {simulator : Simulator}

/-- A program that is not empty does not end before its first slot. -/
theorem pos_of_endsAfter (hprogram : simulator.program.isEmpty = false) {k : Nat}
    (h : simulator.origin.EndsAfter simulator.program k) : 0 < k := by
  rcases Nat.eq_zero_or_pos k with rfl | hpos
  · have hdone := h.1
    rw [Sequential.State.steps, Sequential.State.isDone, decide_eq_true_eq] at hdone
    change 4 * (simulator.program.size : Int) ≤ 0 at hdone
    rw [Array.isEmpty, decide_eq_false_iff_not] at hprogram
    omega
  · exact hpos

/-- The exact cycles of a run: a work slot is completed two cycles after it is executed, no
other cycle completes anything, the run halts in cycle `haltCycle` if the sequential machine
ends, and otherwise never. -/
theorem Ready.timing (h : Ready simulator) (hprogram : simulator.program.isEmpty = false) :
    (∀ j n, simulator.origin.isWork simulator.program j = true →
      simulator.origin.executeCycle simulator.program j + 2 = n + 1 →
      (simulator.clocked (n + 1)).state.core.counters.completed =
        (simulator.clocked n).state.core.counters.completed + 1) ∧
    (∀ n, (∀ j, simulator.origin.isWork simulator.program j = true →
        simulator.origin.executeCycle simulator.program j + 2 ≠ n + 1) →
      (simulator.clocked (n + 1)).state.core.counters.completed =
        (simulator.clocked n).state.core.counters.completed) ∧
    (∀ k, simulator.origin.EndsAfter simulator.program k → ∀ n,
      (simulator.clocked n).halted = true ↔
        simulator.origin.haltCycle simulator.program k ≤ n) ∧
    ((∀ k, (simulator.origin.steps simulator.program k).isDone simulator.program = false) →
      ∀ n, (simulator.clocked n).halted = false) := by
  refine ⟨fun j n hwork hcycle => ?_, fun n hnone => ?_, fun k hends n => ?_, fun hnever n => ?_⟩
  · obtain ⟨hbefore, hbehind⟩ := Sequential.retired_succ_of_retires hcycle
    rw [(h.agrees (n + 1)).completed, (h.agrees n).completed, hbefore, hbehind, workCount_succ,
      if_pos hwork]
    rfl
  · rw [(h.agrees (n + 1)).completed, (h.agrees n).completed,
      Sequential.workCount_retired_succ_of_none hnone]
  · exact (h.agrees n).halted.trans
      (Sequential.quiet_position_iff hends (pos_of_endsAfter hprogram hends))
  · cases hhalted : (simulator.clocked n).halted with
    | false => rfl
    | true =>
        have hdone := ((h.agrees n).halted.1 hhalted).done
        rw [← Sequential.State.isDone_steps, hnever] at hdone
        contradiction

/-- The countdown from two executes nine slots and takes until cycle 20. -/
theorem timing_countdown :
    Ready countdown ∧ countdown.program.isEmpty = false ∧
      countdown.origin.EndsAfter countdown.program 9 ∧
      ∀ n, (countdown.clocked n).halted = true ↔ 20 ≤ n := by
  have hprogram : countdown.program.isEmpty = false := by decide +kernel
  have hends : countdown.origin.EndsAfter countdown.program 9 := by decide +kernel
  have hcycle : countdown.origin.haltCycle countdown.program 9 = 20 := by decide +kernel
  refine ⟨ready_countdown, hprogram, hends, fun n => ?_⟩
  rw [← hcycle]
  exact (ready_countdown.timing hprogram).2.2.1 9 hends n

end FiveStage.Simulator
