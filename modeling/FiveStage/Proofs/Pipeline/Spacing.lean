import FiveStage.Proofs.Pipeline.Flow
import FiveStage.Proofs.Pipeline.Run

/-!
# Hazards keep their distance

A cycle that stalls or flushes leaves nothing in execute, and without an instruction in execute a
cycle logs nothing and resolves no branch (`State.quiet_step`). So a stall is followed by one quiet
cycle. A flush also empties the latch in front of decode, which makes two of them.

A machine that has halted shows its last cycle again and again. That cycle is a quiet one too
(`State.Rests`), so the distances hold for all clock edges of a run and not only for those before
the end (`Simulator.Steady.spaced`).
-/

namespace FiveStage

namespace Pipeline

/-- The hazards in snapshots of cycles that follow each other. -/
structure Snapshot.Spaced (shown : Nat → Snapshot) : Prop where
  stalls : ∀ n, (shown n).stalled = true → (shown (n + 1)).stalled = false
  apart : ∀ n, (shown n).stalled = true → (shown n).flushed = false
  /-- Nothing is executed behind a stall. -/
  behindStall : ∀ n, (shown n).stalled = true →
    (shown (n + 1)).events = [] ∧ (shown (n + 1)).counters.branches = (shown n).counters.branches
  behindFlush : ∀ n, (shown n).flushed = true → ∀ k, 1 ≤ k → k ≤ 2 →
    (shown (n + k)).events = [] ∧ (shown (n + k)).counters.branches = (shown n).counters.branches
  flushes : ∀ m n, m < n → (shown m).flushed = true → (shown n).flushed = true → m + 3 ≤ n

/-- If the machine is halted, the cycle that it shows had no hazards. -/
def State.Rests (state : State) : Prop := state.core.halted = true → state.log = {}

theorem IfId.wait?_of_isBubble {idEx : IdEx} (hbubble : idEx.isBubble = true) (latch : IfId) :
    latch.wait? idEx = none := by
  cases hslot : latch.instruction with
  | none => rw [IfId.wait?, hslot]; rfl
  | some instruction =>
      rw [IfId.wait?, hslot, Option.bind_some, loadUse?, hbubble]
      rfl

/-- A cycle with nothing in execute and nothing to wait for has an empty log. -/
theorem cycleLog_of_isBubble {latches : Latches} (hbubble : latches.idEx.isBubble = true)
    (cycle : Int) (latch : IdEx) : cycleLog cycle (execute latches) (.issue latch) = {} := by
  simp [cycleLog, execute, Operands.resolve, hbubble, Operands.bypasses, Operands.events,
    Operands.forwarding, Decoded.isStall]

namespace State

variable {program : Program} {state : State}

theorem branches_step_of_live (h : state.latches.WellFormed) (hlive : state.core.halted = false) :
    (state.step program).1.core.counters.branches =
      state.core.counters.branches + if (execute state.latches).branched then 1 else 0 := by
  rw [step_of_live h hlive, branches_advance, branches_behind]
  rfl

/-- Without an instruction in execute a cycle has no hazards and resolves no branch. -/
theorem quiet_step (h : state.latches.WellFormed) (hrests : state.Rests)
    (hbubble : state.latches.idEx.isBubble = true) :
    (state.step program).1.log = {} ∧
      (state.step program).1.core.counters.branches = state.core.counters.branches := by
  cases hhalted : state.core.halted with
  | true =>
      rw [step_of_halted hhalted]
      exact ⟨hrests hhalted, rfl⟩
  | false =>
      have hissue : state.decoded = .issue state.decoded.latch := by
        rw [decoded, IfId.wait?_of_isBubble hbubble]
        rfl
      refine ⟨?_, ?_⟩
      · rw [log_step_of_live h hhalted, hissue]
        exact cycleLog_of_isBubble hbubble _ _
      · rw [branches_step_of_live h hhalted, (execute_of_isBubble _ hbubble).2.1]
        exact Int.add_zero _

theorem rests_step (h : state.latches.WellFormed) (hrests : state.Rests) :
    (state.step program).1.Rests := by
  intro hhalts
  cases hhalted : state.core.halted with
  | true =>
      rw [step_of_halted hhalted]
      exact hrests hhalted
  | false =>
      apply And.left
      apply quiet_step h hrests
      -- An instruction in execute is in flight behind it after the cycle.
      by_contra hbusy
      have hshows : (state.snapshot.text? .execute).isSome = true := by
        rw [text?_snapshot]
        exact h.idEx.isSome_display?.trans ((Bool.not_eq_true' _).mpr (Bool.of_not_eq_true hbusy))
      rw [live_step_of_execute h hhalted hshows] at hhalts
      contradiction

/-- The cycle that a halted machine shows had no hazards. -/
theorem live_of_hazard (hrests : state.Rests)
    (hhazard : (state.step program).1.snapshot.stalled = true ∨
      (state.step program).1.snapshot.flushed = true) : state.core.halted = false := by
  refine Bool.of_not_eq_true fun hhalted => ?_
  rw [step_of_halted hhalted] at hhazard
  have hlog : state.log = {} := hrests hhalted
  have hnone : ¬ (state.log.stalled = true ∨ state.log.flushed = true) := by
    rw [hlog]
    simp
  exact hnone hhazard

section

variable (h : state.latches.WellFormed) (hrests : state.Rests)
include h hrests

/-- Decode does not wait in the cycle that takes a branch. -/
theorem not_flushed_of_stalled (hstall : (state.step program).1.snapshot.stalled = true) :
    (state.step program).1.snapshot.flushed = false := by
  have hlive := live_of_hazard hrests (.inl hstall)
  rw [stalled_step_of_live h hlive] at hstall
  rw [flushed_step_of_live h hlive]
  exact not_taken_of_stall h hstall

/-- A cycle with a hazard leaves nothing in execute. -/
theorem idEx_step_of_hazard
    (hhazard : (state.step program).1.snapshot.stalled = true ∨
      (state.step program).1.snapshot.flushed = true) :
    (state.step program).1.latches.idEx = {} := by
  have hlive := live_of_hazard hrests hhazard
  rw [stalled_step_of_live h hlive, flushed_step_of_live h hlive] at hhazard
  rw [idEx_step_of_live h hlive]
  obtain hstall | htaken := hhazard
  · rw [not_taken_of_stall h hstall]
    exact latch_of_isStall hstall
  · exact if_pos htaken

/-- A flush leaves nothing in front of decode. -/
theorem ifId_step_of_flush (hflush : (state.step program).1.snapshot.flushed = true) :
    (state.step program).1.latches.ifId = {} := by
  have hlive := live_of_hazard hrests (.inr hflush)
  rw [flushed_step_of_live h hlive] at hflush
  rw [ifId_step_of_live h hlive, front_of_taken hflush]
  rfl

end

/-- With nothing in execute and in front of decode, a cycle has nothing to execute either. -/
theorem idEx_step_of_empty (h : state.latches.WellFormed) (hifId : state.latches.ifId = {})
    (hidEx : state.latches.idEx = {}) : (state.step program).1.latches.idEx = {} := by
  cases hhalted : state.core.halted with
  | true =>
      rw [step_of_halted hhalted]
      exact hidEx
  | false =>
      have hbubble : state.latches.idEx.isBubble = true := by
        rw [hidEx]
        rfl
      have hissue : state.decoded.isStall = false := by
        rw [decoded, IfId.wait?_of_isBubble hbubble]
        rfl
      rw [idEx_step_of_live h hhalted, (execute_of_isBubble _ hbubble).2.2,
        if_neg Bool.false_ne_true, latch_decoded_of_issue hissue, hifId]
      rfl

end State

end Pipeline

namespace Simulator

open Pipeline

variable {simulator : Simulator}

/-- A simulator with instructions of an assembler, in a state that a run can be in. -/
structure Steady (simulator : Simulator) : Prop where
  program : simulator.program.WellFormed
  latches : simulator.state.latches.WellFormed
  rests : simulator.state.Rests

namespace Steady

theorem step (h : Steady simulator) : Steady simulator.step.1 where
  program := h.program
  latches := State.wellFormed_step h.program h.latches
  rests := State.rests_step h.latches h.rests

theorem clocked (h : Steady simulator) (n : Nat) : Steady (simulator.clocked n) := by
  induction n with
  | zero => exact h
  | succ n ih =>
      rw [clocked_succ]
      exact ih.step

/-- The cycle behind a hazard is quiet. -/
theorem behind_hazard (h : Steady simulator)
    (hhazard : simulator.step.1.snapshot.stalled = true ∨
      simulator.step.1.snapshot.flushed = true) :
    simulator.step.1.step.1.state.log = {} ∧
      simulator.step.1.step.1.snapshot.counters.branches =
        simulator.step.1.snapshot.counters.branches := by
  apply State.quiet_step h.step.latches h.step.rests
  have hempty : simulator.step.1.state.latches.idEx = {} :=
    State.idEx_step_of_hazard h.latches h.rests hhazard
  rw [hempty]
  rfl

/-- Behind a flush a second cycle is quiet. -/
theorem behind_flush (h : Steady simulator) (hflush : simulator.step.1.snapshot.flushed = true) :
    simulator.step.1.step.1.step.1.state.log = {} ∧
      simulator.step.1.step.1.step.1.snapshot.counters.branches =
        simulator.step.1.snapshot.counters.branches := by
  have hifId : simulator.step.1.state.latches.ifId = {} :=
    State.ifId_step_of_flush h.latches h.rests hflush
  have hidEx : simulator.step.1.state.latches.idEx = {} :=
    State.idEx_step_of_hazard h.latches h.rests (.inr hflush)
  have hnext : simulator.step.1.step.1.state.latches.idEx = {} :=
    State.idEx_step_of_empty h.step.latches hifId hidEx
  have hquiet : simulator.step.1.step.1.step.1.state.log = {} ∧
      simulator.step.1.step.1.step.1.snapshot.counters.branches =
        simulator.step.1.step.1.snapshot.counters.branches :=
    State.quiet_step h.step.step.latches h.step.step.rests (by rw [hnext]; rfl)
  exact ⟨hquiet.1, hquiet.2.trans (h.behind_hazard (.inr hflush)).2⟩

/-- Hazards keep their distance for any number of clock edges. -/
theorem spaced (h : Steady simulator) :
    Snapshot.Spaced fun n => (simulator.clocked (n + 1)).snapshot := by
  have hhazard (n : Nat) := (h.clocked n).behind_hazard
  have hflush (n : Nat) := (h.clocked n).behind_flush
  simp only [← clocked_succ] at hhazard hflush
  have hquiet (n k : Nat) (hlow : 1 ≤ k) (hhigh : k ≤ 2)
      (hflushed : (simulator.clocked (n + 1)).snapshot.flushed = true) :
      (simulator.clocked (n + k + 1)).state.log = {} ∧
        (simulator.clocked (n + k + 1)).snapshot.counters.branches =
          (simulator.clocked (n + 1)).snapshot.counters.branches := by
    obtain rfl | rfl : k = 1 ∨ k = 2 := by omega
    · exact hhazard n (.inr hflushed)
    · exact hflush n hflushed
  constructor
  case stalls =>
    intro n hstall
    exact congrArg CycleLog.stalled (hhazard n (.inl hstall)).1
  case apart =>
    intro n hstall
    have hclocked := h.clocked n
    rw [clocked_succ] at hstall ⊢
    exact State.not_flushed_of_stalled hclocked.latches hclocked.rests hstall
  case behindStall =>
    intro n hstall
    obtain ⟨hlog, hbranches⟩ := hhazard n (.inl hstall)
    exact ⟨congrArg CycleLog.events hlog, hbranches⟩
  case behindFlush =>
    intro n hflushed k hlow hhigh
    obtain ⟨hlog, hbranches⟩ := hquiet n k hlow hhigh hflushed
    exact ⟨congrArg CycleLog.events hlog, hbranches⟩
  case flushes =>
    intro m n hlt hfirst hsecond
    by_contra hnear
    obtain ⟨k, rfl⟩ := Nat.exists_eq_add_of_lt hlt
    have hquieter := (hquiet m (k + 1) (by omega) (by omega) hfirst).1
    have hnone : (simulator.clocked (m + (k + 1) + 1)).snapshot.flushed = false :=
      congrArg CycleLog.flushed hquieter
    have hagain : (simulator.clocked (m + (k + 1) + 1)).snapshot.flushed = true := hsecond
    rw [hnone] at hagain
    contradiction

end Steady

end Simulator

end FiveStage
