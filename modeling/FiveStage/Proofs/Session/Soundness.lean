import FiveStage.Proofs.Session.Loading
import FiveStage.Proofs.Simulator.Bench

/-!
# Sound sessions

A session that runs an assembled program has no faults, whichever way it is taken through its
history. What it keeps goes back to the program: every entry of the history is a state that the
program led to, with the snapshot of this very state (`Session.Sound`). A step adds one of them and
a step back puts one in place, so all of it lasts.

That the entries show what they hold is needed for the step back. What is shown decides whether the
next step is taken.
-/

namespace FiveStage

open Asm Pipeline
open Registers (IsIndex)

theorem Pipeline.State.Sound.mono {state : State} {clocks later : Nat} (h : state.Sound clocks)
    (hle : clocks ≤ later) : state.Sound later :=
  ⟨h.latches, h.counters.mono hle⟩

namespace Simulator

variable {simulator : Simulator} {clocks later : Nat}

/-- An assembled program, in a state that assembled programs lead to. -/
structure Sound (clocks : Nat) (simulator : Simulator) : Prop where
  program : simulator.program.WellFormed
  state : simulator.state.Sound clocks

theorem Sound.mono (h : simulator.Sound clocks) (hle : clocks ≤ later) : simulator.Sound later :=
  ⟨h.program, h.state.mono hle⟩

theorem Sound.fault_step (h : simulator.Sound clocks) : simulator.step.2 = none :=
  State.fault_step_of_wellFormed h.state.latches

theorem Sound.step (h : simulator.Sound clocks) : simulator.step.1.Sound (clocks + 1) :=
  ⟨h.program, (invariant_sound simulator.memorySize).step h.program h.state⟩

theorem Sound.clocked (h : simulator.Sound clocks) (n : Nat) :
    (simulator.clocked n).Sound (clocks + n) := by
  induction n with
  | zero => exact h
  | succ n ih =>
      rw [clocked_succ]
      exact ih.step

theorem Sound.reset (h : simulator.Sound clocks) : simulator.reset.Sound clocks :=
  ⟨h.program, (invariant_sound simulator.memorySize).startState h.program clocks⟩

theorem Ready.sound (h : simulator.Ready) : simulator.Sound 0 := by
  refine ⟨h.tracks.1.formed, h.wellFormed_latches, ?_⟩
  rw [h.pristine.2]
  exact ⟨le_refl 0, le_refl 0, le_refl 0, le_refl 0⟩

end Simulator

namespace Session

variable {session previous : Session} {simulator : Simulator} {source : String} {sample : Sample}
  {listing : Listing} {clocks later : Nat}

/-- The session runs an assembled program, shows where it is, and remembers states that the program
led to together with their snapshots. -/
structure Sound (clocks : Nat) (session : Session) : Prop where
  simulator : session.simulator.Sound clocks
  shown : session.shown = session.simulator.snapshot
  history : ∀ entry ∈ session.history,
    entry.state.Sound clocks ∧ entry.snapshot = entry.state.snapshot

theorem Sound.mono (h : session.Sound clocks) (hle : clocks ≤ later) : session.Sound later where
  simulator := h.simulator.mono hle
  shown := h.shown
  history := by
    intro entry hentry
    obtain ⟨hstate, hsnapshot⟩ := h.history entry hentry
    exact ⟨hstate.mono hle, hsnapshot⟩

theorem Sound.plausible_shown (h : session.Sound clocks) :
    session.shown.counters.Plausible clocks := by
  rw [h.shown]
  exact h.simulator.state.counters

theorem sound_begin (h : simulator.Sound clocks) (before : Session) :
    (before.begin simulator).Sound clocks where
  simulator := h
  shown := rfl
  history := by simp

/-! ## Moves -/

/-- A step remembers the present and forgets at most the oldest entry. -/
theorem mem_remember {entry : HistoryEntry} (h : entry ∈ session.remember) :
    entry = ⟨session.shown, session.simulator.state⟩ ∨ entry ∈ session.history := by
  rw [← List.mem_cons]
  rw [remember] at h
  split at h
  · exact h
  · split at h
    · exact List.mem_of_mem_dropLast h
    · exact h

theorem Sound.fault_step (h : session.Sound clocks) : session.step.2 = none := by
  cases hhalted : session.halted with
  | true => rw [step_of_halted hhalted]
  | false => rw [fault_step_of_live hhalted, h.simulator.fault_step]

theorem Sound.step (h : session.Sound clocks) : session.step.1.Sound (clocks + 1) := by
  cases hhalted : session.halted with
  | true =>
      rw [step_of_halted hhalted]
      exact h.mono (Nat.le_succ clocks)
  | false =>
      rw [step_of_live hhalted h.simulator.fault_step]
      refine ⟨h.simulator.step, rfl, ?_⟩
      intro entry hentry
      obtain rfl | hentry := mem_remember hentry
      · exact ⟨h.simulator.state.mono (Nat.le_succ clocks), h.shown⟩
      · obtain ⟨hstate, hsnapshot⟩ := h.history entry hentry
        exact ⟨hstate.mono (Nat.le_succ clocks), hsnapshot⟩

theorem Sound.stepBack (h : session.Sound clocks) (hback : session.stepBack = some previous) :
    previous.Sound clocks := by
  rw [Session.stepBack] at hback
  split at hback
  · contradiction
  · rename_i entry rest hhistory
    cases hback
    have hkept := h.history
    rw [hhistory, List.forall_mem_cons] at hkept
    obtain ⟨⟨hstate, hsnapshot⟩, hrest⟩ := hkept
    exact ⟨⟨h.simulator.program, hstate⟩, hsnapshot, hrest⟩

theorem Sound.reset (h : session.Sound clocks) : session.reset.Sound clocks :=
  sound_begin h.simulator.reset session

/-! ## Beginnings -/

theorem sound_loadSource (hassemble : assemble source = .ok listing)
    (hclean : listing.isClean = true) (before : Session) :
    (before.loadSource source).1.Sound 0 := by
  rw [loadSource_of_clean hassemble hclean]
  have hready : (before.simulator.load listing.instructions).Ready :=
    .intro (Simulator.loadSource_of_clean hassemble hclean) hclean (Simulator.preset_nil _)
  exact sound_begin hready.sound before

theorem sound_loadSample (hassemble : assemble sample.source = .ok listing)
    (hclean : listing.isClean = true) (hregisters : ∀ write ∈ sample.registers, IsIndex write.1)
    (before : Session) : (before.loadSample sample).1.Sound 0 := by
  obtain ⟨ready, hpreset, hload⟩ := loadSample_of_isIndex hassemble hclean hregisters before
  have hready : ready.Ready :=
    .intro (Simulator.loadSource_of_clean hassemble hclean) hclean hpreset
  rw [hload]
  exact sound_begin hready.sound before

end Session

end FiveStage
