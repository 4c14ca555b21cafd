import FiveStage.Proofs.Pipeline.Timing
import Mathlib.Data.Set.Card

/-!
# The counters count slots

The counters of branches, mispredictions and stalls are read off the schedule: after any
cycle they are the numbers of branch slots, taken branch slots and slots with a load whose
word the next slot reads, as far as these have been executed. Instructions on a wrong path
are in no slot, so they are never counted, and when the run has halted the counters are the
totals of the sequential machine.
-/

namespace FiveStage.Sequential

open Pipeline State

variable {program : Program} {start : State}

/-- The slots before the next one to be executed are those that have had their cycle. -/
theorem count_executed (p : Nat → Bool) (n : Nat) :
    Nat.count (fun j => p j) (position program start n).executed =
      {j | p j = true ∧ start.executeCycle program j ≤ n}.ncard := by
  rw [Nat.count_eq_card_filter_range, ← Set.ncard_coe_finset]
  congr 1
  ext j
  rw [Finset.mem_coe, Finset.mem_filter, Finset.mem_range, lt_executed_iff, and_comm]
  rfl

/-- With nothing left to do the slots executed are all that count. -/
theorem Position.Quiet.count_executed_eq {position : Position}
    (h : position.Quiet program start) (hvalid : position.Valid program start) {k : Nat}
    (hends : start.EndsAfter program k) {p : Nat → Bool}
    (hp : ∀ {i}, p i = true → start.isWork program i = true) :
    Nat.count (fun j => p j) position.executed = Nat.count (fun j => p j) k := by
  have hretired := hvalid.retired_le
  have haccessed := hvalid.accessed_le
  rcases Nat.le_total k position.executed with hle | hle
  · exact count_eq_of_idle hp hle fun i hlow _ => isWork_of_isDone (hends.isDone_iff.2 hlow)
  · exact (count_eq_of_idle hp hle fun i hlow _ => h.idle i (by omega)).symm

end FiveStage.Sequential

namespace FiveStage.Simulator

open Pipeline

variable {simulator : Simulator}

/-- After any number of clock edges the hazard counters are the numbers of slots of their
kind that have been executed, and when the simulator has halted those of the sequential
machine from its start to its end. -/
theorem Ready.hazardCounts (h : Ready simulator) (n : Nat) :
    let program := simulator.program
    let start := simulator.origin
    let core := (simulator.clocked n).state.core
    core.counters.branches =
        {j | start.isBranch program j = true ∧ start.executeCycle program j ≤ n}.ncard ∧
      core.counters.mispredictions =
        {j | start.isTaken program j = true ∧ start.executeCycle program j ≤ n}.ncard ∧
      core.counters.stalls =
        {j | start.isLoadUse program j = true ∧ start.executeCycle program j ≤ n}.ncard ∧
      (core.halted = true → ∃ k, start.EndsAfter program k ∧
        core.counters.branches = Nat.count (fun j => start.isBranch program j) k ∧
        core.counters.mispredictions = Nat.count (fun j => start.isTaken program j) k ∧
        core.counters.stalls = Nat.count (fun j => start.isLoadUse program j) k) := by
  intro program start core
  have hagrees := h.agrees n
  have hvalid := Sequential.valid_position simulator.program simulator.origin n
  refine ⟨?_, ?_, ?_, fun hhalted => ?_⟩
  · exact hagrees.branches.trans (congrArg Int.ofNat (Sequential.count_executed _ n))
  · exact hagrees.mispredictions.trans (congrArg Int.ofNat (Sequential.count_executed _ n))
  · exact hagrees.stalls.trans (congrArg Int.ofNat (Sequential.count_executed _ n))
  · have hquiet := hagrees.halted.1 hhalted
    have hdone := hquiet.done
    rw [← Sequential.State.isDone_steps] at hdone
    obtain ⟨k, hends, -⟩ := Sequential.State.exists_endsAfter hdone
    refine ⟨k, hends, ?_, ?_, ?_⟩
    · exact hagrees.branches.trans (congrArg Int.ofNat
        (hquiet.count_executed_eq hvalid hends Sequential.State.isWork_of_isBranch))
    · exact hagrees.mispredictions.trans (congrArg Int.ofNat
        (hquiet.count_executed_eq hvalid hends Sequential.State.isWork_of_isTaken))
    · exact hagrees.stalls.trans (congrArg Int.ofNat
        (hquiet.count_executed_eq hvalid hends Sequential.State.isWork_of_isLoadUse))

/-- Three of the branches of the countdown from two are taken. -/
theorem hazardCounts_countdown :
    Ready countdown ∧
      {j | countdown.origin.isTaken countdown.program j = true ∧
        countdown.origin.executeCycle countdown.program j ≤ 20}.ncard = 3 := by
  have hcounted : (countdown.clocked 20).state.core.counters.mispredictions = 3 := by
    decide +kernel
  have hslots := (ready_countdown.hazardCounts 20).2.1
  rw [hcounted] at hslots
  exact ⟨ready_countdown, Int.ofNat.inj hslots.symm⟩

end FiveStage.Simulator
