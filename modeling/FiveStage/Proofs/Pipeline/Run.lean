import FiveStage.Proofs.Asm.WellFormed
import FiveStage.Proofs.Pipeline.FaultFree
import FiveStage.Proofs.Pipeline.Halting
import FiveStage.Simulator

/-!
# Whole runs

A simulator is ready when it has loaded a source text without diagnostics, was seeded, and
has not been clocked since. From there it keeps to the schedule for any number of clock
edges: `Agrees` holds at every position, that is, also after the simulator has halted, when
it stands still while the schedule passes slots that are not work (`Ready.agrees`).
-/

namespace FiveStage.Pipeline

open FiveStage.Sequential (Position position)

/-- What can be read off a pipeline at a position of the schedule, halted or not. -/
structure Agrees (program : Program) (start : Sequential.State) (position : Position)
    (state : State) : Prop where
  registers : state.core.registers = (start.path program position.retired).registers
  memory : state.core.memory = (start.path program position.accessed).memory
  halted : state.core.halted = true ↔ position.Quiet program start
  completed : state.core.counters.completed = start.workCount program position.retired
  pending : start.workCount program position.accessed =
    start.workCount program position.retired + if state.latches.memWb.isBubble then 0 else 1
  branches : state.core.counters.branches =
    Nat.count (fun j => start.isBranch program j) position.executed
  mispredictions : state.core.counters.mispredictions =
    Nat.count (fun j => start.isTaken program j) position.executed
  stalls : state.core.counters.stalls =
    Nat.count (fun j => start.isLoadUse program j) position.executed

variable {program : Program} {start : Sequential.State} {position : Position} {state : State}
  {a b : Nat}

theorem Tracks.agrees (h : Tracks program start position state) (hrun : Runnable program start)
    (hvalid : position.Valid program start) : Agrees program start position state where
  registers := h.registers
  memory := h.memory
  halted := h.halted_iff hrun hvalid
  completed := h.completed
  pending := MemWb.workCount_of_spans h.memWb
  branches := h.branches
  mispredictions := h.mispredictions
  stalls := h.stalls

/-! ## Slots that are not work -/

/-- Slots that are not work show in nothing that the program counter is not a part of. -/
theorem path_eq_of_idle {α : Type} {view : Sequential.State → α}
    (hnext : ∀ state, view state.next = view state) (hle : a ≤ b)
    (hidle : ∀ i, a ≤ i → i < b → start.isWork program i = false) :
    view (start.path program b) = view (start.path program a) := by
  induction hle with
  | refl => rfl
  | step hle ih =>
      have hslot := hidle _ hle (Nat.lt_succ_self _)
      rw [Sequential.State.path_succ, Sequential.State.onward_of_not_isWork hslot, hnext]
      exact ih fun i hlow hhigh => hidle i hlow (Nat.lt_succ_of_lt hhigh)

theorem count_eq_of_idle {p : Nat → Bool} (hp : ∀ {i}, p i = true → start.isWork program i = true)
    (hle : a ≤ b) (hidle : ∀ i, a ≤ i → i < b → start.isWork program i = false) :
    Nat.count (fun i => p i) b = Nat.count (fun i => p i) a := by
  induction hle with
  | refl => rfl
  | step hle ih =>
      rename_i i
      have hnot : ¬ p i = true := by
        intro htrue
        have hwork := hp htrue
        rw [hidle i hle (Nat.lt_succ_self _)] at hwork
        contradiction
      rw [Nat.count_succ, if_neg hnot, Nat.add_zero,
        ih fun k hlow hhigh => hidle k hlow (Nat.lt_succ_of_lt hhigh)]

/-- The schedule passes by a pipeline that has nothing left to do. -/
theorem Agrees.next (h : Agrees program start position state)
    (hvalid : position.Valid program start) (hquiet : position.Quiet program start) :
    Agrees program start (position.next program start) state := by
  have hretired := hvalid.retired_le
  have haccessed := hvalid.accessed_le
  have hexecuted : position.executed ≤ (position.next program start).executed := by
    simp only [Position.next]
    split <;> omega
  have hidle : ∀ {first last : Nat}, position.retired ≤ first →
      ∀ i, first ≤ i → i < last → start.isWork program i = false :=
    fun hfirst i hlow _ => hquiet.idle i (Nat.le_trans hfirst hlow)
  have hwork : start.workCount program position.accessed =
      start.workCount program position.retired :=
    count_eq_of_idle id hretired (hidle (Nat.le_refl _))
  have hwork' : start.workCount program position.executed =
      start.workCount program position.accessed :=
    count_eq_of_idle id haccessed (hidle hretired)
  constructor
  · rw [h.registers]
    exact (path_eq_of_idle Sequential.State.registers_next hretired (hidle (Nat.le_refl _))).symm
  · rw [h.memory]
    exact (path_eq_of_idle Sequential.State.memory_next haccessed (hidle hretired)).symm
  · exact ⟨fun _ => hquiet.next hvalid, fun _ => h.halted.2 hquiet⟩
  · rw [h.completed, ← hwork]
    rfl
  · have hpending := h.pending
    change start.workCount program position.executed =
      start.workCount program position.accessed + _
    omega
  · rw [h.branches, count_eq_of_idle Sequential.State.isWork_of_isBranch hexecuted
      (hidle (Nat.le_trans hretired haccessed))]
  · rw [h.mispredictions, count_eq_of_idle Sequential.State.isWork_of_isTaken hexecuted
      (hidle (Nat.le_trans hretired haccessed))]
  · rw [h.stalls, count_eq_of_idle Sequential.State.isWork_of_isLoadUse hexecuted
      (hidle (Nat.le_trans hretired haccessed))]

end FiveStage.Pipeline

namespace FiveStage.Simulator

open Asm Pipeline
open FiveStage.Sequential (Position position)

/-- The simulator after so many clock edges. -/
def clocked (simulator : Simulator) (n : Nat) : Simulator :=
  (fun simulator => simulator.step.1)^[n] simulator

/-- A source text was loaded without diagnostics, registers and memory were seeded, and the
clock has not ticked since. -/
inductive Ready : Simulator → Prop
  | intro {before loaded ready : Simulator} {source : String} {listing : Listing}
    {registers memory : List (Int × Int)} (load : before.loadSource source = .ok (loaded, listing))
    (clean : listing.isClean = true) (preset : loaded.preset registers memory = .ok ready) :
    Ready ready

/-- Where the sequential machine starts: at address zero, with the same registers and the
same memory. -/
def origin (simulator : Simulator) : Sequential.State where
  pc := 0
  registers := simulator.state.core.registers
  memory := simulator.state.core.memory

variable {simulator : Simulator}

theorem clocked_succ (simulator : Simulator) (n : Nat) :
    simulator.clocked (n + 1) = (simulator.clocked n).step.1 :=
  Function.iterate_succ_apply' _ _ _

theorem clocked_succ_step (simulator : Simulator) (n : Nat) :
    simulator.clocked (n + 1) = simulator.step.1.clocked n :=
  Function.iterate_succ_apply _ _ _

@[simp] theorem program_clocked (simulator : Simulator) (n : Nat) :
    (simulator.clocked n).program = simulator.program := by
  induction n with
  | zero => rfl
  | succ n ih => rw [clocked_succ, program_step, ih]

@[simp] theorem memorySize_clocked (simulator : Simulator) (n : Nat) :
    (simulator.clocked n).memorySize = simulator.memorySize := by
  induction n with
  | zero => rfl
  | succ n ih => rw [clocked_succ, memorySize_step, ih]

theorem halted_clocked_of_le {m n : Nat} (hle : m ≤ n) (h : (simulator.clocked m).halted = true) :
    (simulator.clocked n).halted = true := by
  induction hle with
  | refl => exact h
  | step _ ih =>
      rw [clocked_succ, step_of_halted ih]
      exact ih

/-- Program and memory size stay, so the state of a cycle is all there is to it. -/
theorem restore_clocked (simulator : Simulator) (m n : Nat) :
    (simulator.clocked m).restore (simulator.clocked n).state = simulator.clocked n := by
  have hprogram : (simulator.clocked m).program = (simulator.clocked n).program := by
    rw [program_clocked, program_clocked]
  have hsize : (simulator.clocked m).memorySize = (simulator.clocked n).memorySize := by
    rw [memorySize_clocked, memorySize_clocked]
  rw [restore, hprogram, hsize]

/-! ## Instructions of an assembler -/

theorem wellFormed_clocked (hprogram : simulator.program.WellFormed)
    (hlatches : simulator.state.latches.WellFormed) (n : Nat) :
    (simulator.clocked n).state.latches.WellFormed := by
  induction n with
  | zero => exact hlatches
  | succ n ih =>
      rw [clocked_succ, state_step, program_clocked]
      exact State.wellFormed_step hprogram ih

/-- No clock edge faults as long as all instructions come from an assembler. -/
theorem fault_clocked_of_wellFormed (hprogram : simulator.program.WellFormed)
    (hlatches : simulator.state.latches.WellFormed) (n : Nat) :
    (simulator.clocked n).step.2 = none :=
  State.fault_step_of_wellFormed (wellFormed_clocked hprogram hlatches n)

/-- Every clock edge is a cycle until the simulator halts. -/
theorem cycle_clocked (hprogram : simulator.program.WellFormed)
    (hlatches : simulator.state.latches.WellFormed) {n : Nat}
    (hlive : ∀ i < n, (simulator.clocked i).halted = false) :
    (simulator.clocked n).snapshot.cycle = simulator.snapshot.cycle + n := by
  induction n with
  | zero => exact (Int.add_zero _).symm
  | succ n ih =>
      have hbefore := ih fun i hi => hlive i (Nat.lt_succ_of_lt hi)
      have hstep : (simulator.clocked (n + 1)).snapshot.cycle =
          (simulator.clocked n).snapshot.cycle + 1 := by
        rw [clocked_succ]
        exact State.cycles_step_of_live (wellFormed_clocked hprogram hlatches n)
          (hlive n (Nat.lt_succ_self n))
      rw [hstep, hbefore, Int.natCast_succ, Int.add_assoc]

/-! ## Ready simulators -/

theorem core_presetRegisters (core : Core) (entries : List (Int × Int)) :
    ∃ registers, (core.presetRegisters entries).1 = { core with registers } := by
  induction entries generalizing core with
  | nil => exact ⟨core.registers, rfl⟩
  | cons entry rest ih =>
      obtain ⟨index, value⟩ := entry
      cases hwrite : core.registers.write index value with
      | error fault =>
          rw [Core.presetRegisters_cons_of_error hwrite]
          exact ⟨core.registers, rfl⟩
      | ok registers =>
          rw [Core.presetRegisters_cons_of_ok hwrite]
          exact ih { core with registers }

/-- Seeding changes registers and memory only. -/
theorem state_of_preset {loaded : Simulator} {registers memory : List (Int × Int)}
    (h : loaded.preset registers memory = .ok simulator) :
    simulator.program = loaded.program ∧ ∃ seeded, simulator.state =
      { loaded.state with
        core := { loaded.state.core with
          registers := seeded
          memory := loaded.state.core.memory.writeAll memory } } := by
  obtain ⟨seeded, hseeded⟩ := core_presetRegisters loaded.state.core registers
  rw [preset, Core.preset] at h
  cases hpreset : loaded.state.core.presetRegisters registers with
  | mk core fault =>
      rw [hpreset] at h hseeded
      cases fault with
      | some fault => contradiction
      | none =>
          simp only [Except.ok.injEq] at h
          subst h
          dsimp only at hseeded
          refine ⟨rfl, seeded, ?_⟩
          rw [restore, hseeded]

/-- Loading a text without diagnostics starts its program. -/
theorem of_loadSource {before loaded : Simulator} {source : String} {listing : Listing}
    (h : before.loadSource source = .ok (loaded, listing)) (hclean : listing.isClean = true) :
    assemble source = .ok listing ∧ loaded = before.load listing.instructions := by
  rw [loadSource] at h
  cases hassemble : assemble source with
  | error fault => rw [hassemble] at h; contradiction
  | ok found =>
      simp only [hassemble, Except.ok.injEq, Prod.mk.injEq] at h
      obtain ⟨rfl, rfl⟩ := h
      rw [if_pos hclean]
      exact ⟨rfl, rfl⟩

/-- A ready simulator stands at the first position of the schedule. -/
theorem Ready.tracks (h : Ready simulator) :
    Runnable simulator.program simulator.origin ∧
      Tracks simulator.program simulator.origin .initial simulator.state := by
  obtain ⟨hload, hclean, hpreset⟩ := h
  obtain ⟨hassemble, rfl⟩ := of_loadSource hload hclean
  obtain ⟨hprogram, seeded, hstate⟩ := state_of_preset hpreset
  refine ⟨⟨?_, Int.dvd_zero 4, ?_⟩, ?_⟩
  · rw [hprogram]
    intro instruction hmem
    exact wellFormed_of_assemble hassemble instruction (List.mem_toArray.1 hmem)
  · rw [origin, hstate]
    exact (Memory.sound_zeros _).writeAll _
  · rw [hprogram, hstate]
    constructor
    · rw [origin, hstate]; rfl
    · rw [origin, hstate]; rfl
    · exact .none 0
    · exact .none 0
    · exact .pending rfl rfl rfl
    · rename_i listing _ _
      change listing.instructions.toArray.isEmpty =
        decide ((listing.instructions.toArray.size : Int) ≤ 0 / 4)
      rw [Array.isEmpty, Bool.eq_iff_iff, decide_eq_true_eq, decide_eq_true_eq]
      omega
    · rfl
    · rfl
    · rfl
    · rfl

/-- Whatever the number of clock edges, the simulator agrees with the schedule. As long as
it is not halted, its latches are where the schedule has them. -/
theorem Ready.agrees_and_tracks (h : Ready simulator) (n : Nat) :
    Agrees simulator.program simulator.origin
        (position simulator.program simulator.origin n) (simulator.clocked n).state ∧
      ((simulator.clocked n).halted = false →
        Tracks simulator.program simulator.origin
          (position simulator.program simulator.origin n) (simulator.clocked n).state) := by
  obtain ⟨hrun, hstart⟩ := h.tracks
  have hvalid := Sequential.valid_position simulator.program simulator.origin
  induction n with
  | zero => exact ⟨hstart.agrees hrun (hvalid 0), fun _ => hstart⟩
  | succ n ih =>
      obtain ⟨hagrees, htracks⟩ := ih
      rw [clocked_succ, Sequential.position_succ]
      cases hhalted : (simulator.clocked n).halted with
      | true =>
          rw [step_of_halted hhalted]
          refine ⟨hagrees.next (hvalid n) (hagrees.halted.1 hhalted), fun hlive => ?_⟩
          rw [hhalted] at hlive
          contradiction
      | false =>
          have hnext := ((htracks hhalted).step hrun (hvalid n) hhalted).2
          rw [state_step, program_clocked]
          exact ⟨hnext.agrees hrun (hvalid n).next, fun _ => hnext⟩

theorem Ready.agrees (h : Ready simulator) (n : Nat) :
    Agrees simulator.program simulator.origin
      (position simulator.program simulator.origin n) (simulator.clocked n).state :=
  (h.agrees_and_tracks n).1

/-- Nothing is in flight and nothing was counted before the first clock edge. -/
theorem Ready.pristine (h : Ready simulator) :
    simulator.state.latches = {} ∧ simulator.state.core.counters = {} := by
  obtain ⟨hload, hclean, hpreset⟩ := h
  obtain ⟨-, rfl⟩ := of_loadSource hload hclean
  obtain ⟨-, seeded, hstate⟩ := state_of_preset hpreset
  rw [hstate]
  exact ⟨rfl, rfl⟩

theorem Ready.wellFormed_latches (h : Ready simulator) : simulator.state.latches.WellFormed := by
  rw [h.pristine.1]
  exact Latches.wellFormed_empty

/-- No clock edge of a ready simulator faults. -/
theorem Ready.fault_step (h : Ready simulator) (n : Nat) : (simulator.clocked n).step.2 = none :=
  fault_clocked_of_wellFormed h.tracks.1.formed h.wellFormed_latches n

/-- Until it halts, the number of the cycle that a ready simulator shows is the number of clock
edges. -/
theorem Ready.cycle_eq (h : Ready simulator) {n : Nat}
    (hlive : ∀ i < n, (simulator.clocked i).halted = false) :
    (simulator.clocked n).snapshot.cycle = n := by
  have hstart : simulator.snapshot.cycle = 0 := by
    rw [snapshot, State.snapshot_cycle, h.pristine.2]
  rw [cycle_clocked h.tracks.1.formed h.wellFormed_latches hlive, hstart, Int.zero_add]

/-! ## An example -/

/-- Counts the word at address zero down and stores what is left of it. -/
def countdownSource : String :=
  "      LW  R1, 0(R0)\n" ++
  "loop: BEQ R1, R0, done\n" ++
  "      SUB R1, R1, R2\n" ++
  "      BEQ R0, R0, loop\n" ++
  "done: SW  R1, 4(R0)"

/-- A simulator with two words of memory and the countdown assembled. -/
def countdownLoaded : Simulator :=
  load ⟨2, #[], startState 2 #[]⟩
    (((assemble countdownSource).toOption.map Listing.instructions).getD [])

/-- The countdown from two in steps of one. -/
def countdown : Simulator :=
  ((countdownLoaded.preset [(2, 1)] [(0, 2)]).toOption).getD countdownLoaded

/-- Nothing is wrong with the text of the countdown. -/
theorem exists_countdownLoaded :
    ∃ listing, assemble countdownSource = .ok listing ∧ listing.isClean = true ∧
      countdownLoaded = load ⟨2, #[], startState 2 #[]⟩ listing.instructions := by
  have hassembles : (assemble countdownSource).toOption.any Listing.isClean = true := by
    decide +kernel
  cases hassemble : assemble countdownSource with
  | error fault =>
      rw [hassemble] at hassembles
      contradiction
  | ok listing =>
      rw [hassemble] at hassembles
      refine ⟨listing, rfl, hassembles, ?_⟩
      rw [countdownLoaded, hassemble]
      rfl

/-- The countdown can start from any registers and memory that can be seeded. -/
theorem ready_of_countdownLoaded {registers memory : List (Int × Int)} {simulator : Simulator}
    (hpreset : countdownLoaded.preset registers memory = .ok simulator) : Ready simulator := by
  obtain ⟨listing, hassemble, hclean, hloaded⟩ := exists_countdownLoaded
  have hload : (⟨2, #[], startState 2 #[]⟩ : Simulator).loadSource countdownSource =
      .ok (countdownLoaded, listing) := by
    simp only [loadSource, hassemble, if_pos hclean, hloaded]
  exact .intro hload hclean hpreset

theorem ready_countdown : Ready countdown :=
  have hpreset : countdownLoaded.preset [(2, 1)] [(0, 2)] = .ok countdown := rfl
  ready_of_countdownLoaded hpreset

end FiveStage.Simulator
