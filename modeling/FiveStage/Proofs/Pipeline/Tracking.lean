import FiveStage.Proofs.Pipeline.Advance
import FiveStage.Proofs.Pipeline.Operands

/-!
# The pipeline keeps to the schedule

`Tracks` relates a pipeline to a position of the schedule: registers and memory are those of
the sequential machine after the slots written back and accessed, the two latches behind
execute hold the slots between, and the front of the pipeline is on its way to the slot that
is due. One cycle of a machine that is not halted takes it to the next position, without a
fault (`Tracks.step`).

The front needs three cases only. A slot that is due now has been decoded, and the word
behind it, on the right path or not, has been fetched. A slot that is due in two cycles has
been fetched, or is held by a stall. A slot that is due in three is where the program counter
points, at the start and after a taken branch.
-/

namespace FiveStage.Pipeline

open FiveStage.Sequential (Position)
open Registers (IsIndex)

/-- What a run may start from: an assembled program, an aligned program counter and a memory
of words. -/
structure Runnable (program : Program) (start : Sequential.State) : Prop where
  formed : program.WellFormed
  aligned : 4 ∣ start.pc
  sound : start.memory.Sound

/-- The instruction at an address, as fetch puts it into its latch. -/
def Program.fetched (program : Program) (pc : Int) : IfId := ⟨program.fetch? pc, pc⟩

/-- The front of a pipeline whose next slot is at an address and is due in so many cycles. -/
inductive Leads (program : Program) (pc : Int) (state : State) : Nat → Prop
  | decoded (idEx : state.latches.idEx = .ofSlot state.core.registers pc (program.fetch? pc))
    (ifId : state.latches.ifId = program.fetched (pc + 4)) (counter : state.core.pc = pc + 8) :
    Leads program pc state 1
  | fetched (idEx : state.latches.idEx = {}) (ifId : state.latches.ifId = program.fetched pc)
    (counter : state.core.pc = pc + 4) : Leads program pc state 2
  | pending (idEx : state.latches.idEx = {}) (ifId : state.latches.ifId = {})
    (counter : state.core.pc = pc) : Leads program pc state 3

/-- The pipeline is at a position of the schedule. -/
structure Tracks (program : Program) (start : Sequential.State) (position : Position)
    (state : State) : Prop where
  registers : state.core.registers = (start.path program position.retired).registers
  memory : state.core.memory = (start.path program position.accessed).memory
  memWb : MemWb.Spans program start position.retired position.accessed state.latches.memWb
  exMem : ExMem.Spans program start position.accessed position.executed state.latches.exMem
  leads : Leads program (start.path program position.executed).pc state position.due
  halted : state.core.halted =
    (state.latches.isDrained && decide ((program.size : Int) ≤ state.core.pc / 4))
  completed : state.core.counters.completed = start.workCount program position.retired
  branches : state.core.counters.branches =
    Nat.count (fun j => start.isBranch program j) position.executed
  mispredictions : state.core.counters.mispredictions =
    Nat.count (fun j => start.isTaken program j) position.executed
  stalls : state.core.counters.stalls =
    Nat.count (fun j => start.isLoadUse program j) position.executed

variable {program : Program} {start : Sequential.State} {position : Position} {state : State}

theorem Runnable.slot?_eq_fetch? (h : Runnable program start) (j : Nat) :
    start.slot? program j = program.fetch? (start.path program j).pc := by
  rw [Sequential.State.slot?_eq_path]
  exact Sequential.State.current?_eq_fetch? (Sequential.State.aligned_path h.formed h.aligned j)

theorem Program.WellFormed.fetch? (h : program.WellFormed) (pc : Int) :
    ∀ instruction ∈ program.fetch? pc, instruction.WellFormed := by
  intro instruction hfetch
  rw [Option.mem_def, Program.fetch?] at hfetch
  split at hfetch
  · contradiction
  · exact h instruction (Array.mem_of_getElem? hfetch)

theorem IfId.wait?_fetched (pc : Int) (idEx : IdEx) :
    (program.fetched pc).wait? idEx =
      (program.fetch? pc).bind fun instruction => loadUse? instruction idEx := rfl

/-! ## The front in the next cycle -/

section

variable {core : Core} {memWb : MemWb} {executed : Executed} {pc : Int}

/-- Behind a taken branch the slot is at the target, and nothing is fetched yet. -/
theorem leads_of_taken (htaken : executed.taken = true) (htarget : executed.latch.target = some pc)
    (decoded : Decoded) :
    Leads program pc (state.advance program core memWb executed decoded) 3 := by
  apply Leads.pending
  · rw [State.idEx_advance, if_pos htaken]
  · rw [State.ifId_advance, State.front_of_taken htaken]
    rfl
  · rw [State.pc_advance, State.front_of_taken htaken, htarget]
    rfl

/-- A slot that has to wait is still in front of decode. -/
theorem leads_of_stall (hifId : state.latches.ifId = program.fetched pc)
    (hcounter : state.core.pc = pc + 4) (htaken : executed.taken = false) (register : Int) :
    Leads program pc (state.advance program core memWb executed (.stall register)) 2 := by
  apply Leads.fetched
  · rw [State.idEx_advance, htaken]
    rfl
  · rw [State.ifId_advance, State.front_of_stall htaken rfl]
    exact hifId
  · rw [State.pc_advance, State.front_of_stall htaken rfl]
    exact hcounter

/-- A slot that was decoded has the next one behind it. -/
theorem leads_of_issue (hifId : state.latches.ifId = program.fetched pc)
    (hcounter : state.core.pc = pc + 4) (hpc : core.pc = state.core.pc)
    (htaken : executed.taken = false) :
    Leads program pc
      (state.advance program core memWb executed
        (.issue (.ofSlot core.registers state.latches.ifId.pc state.latches.ifId.instruction)))
      1 := by
  apply Leads.decoded
  · rw [State.idEx_advance, htaken, hifId]
    rfl
  · rw [State.ifId_advance, State.front_of_issue htaken rfl, hpc, hcounter]
    rfl
  · rw [State.pc_advance, State.front_of_issue htaken rfl, hpc, hcounter]
    change _ + 4 + 4 = _ + 8
    omega

/-- With nothing in front of decode the slot is fetched. -/
theorem leads_of_empty (hifId : state.latches.ifId = {}) (hcounter : state.core.pc = pc)
    (hpc : core.pc = state.core.pc) (htaken : executed.taken = false) :
    Leads program pc
      (state.advance program core memWb executed
        (.issue (.ofSlot core.registers state.latches.ifId.pc state.latches.ifId.instruction)))
      2 := by
  apply Leads.fetched
  · rw [State.idEx_advance, htaken, hifId]
    rfl
  · rw [State.ifId_advance, State.front_of_issue htaken rfl, hpc, hcounter]
    rfl
  · rw [State.pc_advance, State.front_of_issue htaken rfl, hpc, hcounter]
    rfl

end

namespace Tracks

/-- Decode waits in the cycle that executes a load whose word the next slot reads. A wrong
path is behind a branch, which is nothing to wait for. -/
theorem isSome_wait? (h : Tracks program start position state) (hrun : Runnable program start) :
    (state.latches.ifId.wait? state.latches.idEx).isSome =
      (decide (position.due = 1) && start.isLoadUse program position.executed) := by
  have hleads := h.leads
  generalize position.due = due at hleads
  cases hleads with
  | fetched hidEx => simp [hidEx]
  | pending hidEx => simp [hidEx]
  | decoded hidEx hifId _ =>
      have hslot := hrun.slot?_eq_fetch? position.executed
      rw [hidEx, hifId, IfId.wait?_fetched]
      simp only [decide_true, Bool.true_and]
      cases htaken : start.isTaken program position.executed with
      | false =>
          rw [← Sequential.State.pc_path_succ htaken, ← hrun.slot?_eq_fetch?, ← hslot,
            Sequential.State.isLoadUse]
          cases huser : start.slot? program (position.executed + 1) with
          | none => cases start.slot? program position.executed <;> simp
          | some user =>
              simp only [Option.bind_some, Option.any_some]
              rw [isSome_loadUse?_ofSlot]
              rw [hslot]
              exact hrun.formed.fetch? _
      | true =>
          rw [Sequential.State.isLoadUse_of_isTaken htaken]
          cases program.fetch? ((start.path program position.executed).pc + 4) with
          | none => rfl
          | some user =>
              rw [Option.bind_some, isSome_loadUse?_ofSlot (hrun.formed.fetch? _), ← hslot]
              rw [Sequential.State.isTaken, Option.any_eq_true] at htaken
              obtain ⟨branch, hbranch, htakes⟩ := htaken
              simp only [Sequential.State.takes, Bool.and_eq_true, decide_eq_true_eq] at htakes
              rw [hbranch]
              simp [Sequential.State.needs, htakes.1]

/-- Execute takes on the slot that is due, and nothing if none is. -/
theorem execute_spans (h : Tracks program start position state) (hrun : Runnable program start)
    (hvalid : position.Valid program start) :
    ExMem.Spans program start position.executed (position.next program start).executed
        (execute state.latches).latch ∧
      (execute state.latches).branched =
        (decide (position.due = 1) && start.isBranch program position.executed) ∧
      (execute state.latches).taken =
        (decide (position.due = 1) && start.isTaken program position.executed) ∧
      ((execute state.latches).taken = true → (execute state.latches).latch.target =
        some (start.path program (position.executed + 1)).pc) := by
  have hleads := h.leads
  by_cases hdue : position.due = 1
  · rw [hdue] at hleads
    cases hleads with
    | decoded hidEx _ _ =>
        rw [← hrun.slot?_eq_fetch?, h.registers] at hidEx
        obtain ⟨hspans, hbranched, htaken, htarget⟩ := execute_of_spans hrun.formed h.memWb
          h.exMem hrun.sound (hvalid.interlock hdue) hidEx
        simp only [Position.next, hdue, if_true, decide_true, Bool.true_and]
        exact ⟨hspans, hbranched, htaken, fun htakes => htarget (htaken.symm.trans htakes)⟩
  · have hempty : state.latches.idEx = {} := by
      generalize position.due = due at hleads hdue
      cases hleads with
      | decoded => exact absurd rfl hdue
      | fetched hidEx => exact hidEx
      | pending hidEx => exact hidEx
    obtain ⟨hlatch, hbranched, htaken⟩ :=
      execute_of_isBubble state.latches (by rw [hempty]; rfl)
    rw [hlatch, hbranched, htaken]
    refine ⟨?_, by simp [hdue], by simp [hdue], fun htakes => by contradiction⟩
    simp only [Position.next, if_neg hdue]
    exact .none _

/-- The front moves on towards the slot that is due next. -/
theorem leads_advance (h : Tracks program start position state) (hrun : Runnable program start)
    (hvalid : position.Valid program start) {core : Core} {memWb : MemWb}
    (hpc : core.pc = state.core.pc) :
    Leads program (start.path program (position.next program start).executed).pc
      (state.advance program core memWb (execute state.latches)
        ((state.latches.ifId.wait? state.latches.idEx).elim
          (.issue (.ofSlot core.registers state.latches.ifId.pc state.latches.ifId.instruction))
          .stall))
      (position.next program start).due := by
  obtain ⟨-, -, htaken, htarget⟩ := h.execute_spans hrun hvalid
  have hwait := h.isSome_wait? hrun
  have hleads := h.leads
  simp only [Position.next]
  generalize position.due = due at hleads hwait htaken ⊢
  cases hleads with
  | decoded hidEx hifId hcounter =>
      simp only [decide_true, Bool.true_and, if_true] at htaken hwait ⊢
      cases htakes : start.isTaken program position.executed with
      | true =>
          rw [htakes] at htaken
          rw [Sequential.State.isLoadUse_of_isTaken htakes]
          exact leads_of_taken htaken (htarget htaken) _
      | false =>
          rw [htakes] at htaken
          rw [Sequential.State.pc_path_succ htakes]
          have hnext : state.core.pc = (start.path program position.executed).pc + 4 + 4 := by
            rw [hcounter]
            omega
          cases hload : start.isLoadUse program position.executed with
          | true =>
              rw [hload] at hwait
              obtain ⟨register, hregister⟩ := Option.isSome_iff_exists.1 hwait
              rw [hregister]
              exact leads_of_stall hifId hnext htaken register
          | false =>
              rw [hload, Option.isSome_eq_false_iff, Option.isNone_iff_eq_none] at hwait
              rw [hwait]
              exact leads_of_issue hifId hnext hpc htaken
  | fetched hidEx hifId hcounter =>
      have hfree : state.latches.ifId.wait? state.latches.idEx = none := by
        simpa using hwait
      rw [hfree, if_neg (by decide), if_neg (by decide)]
      exact leads_of_issue hifId hcounter hpc htaken
  | pending hidEx hifId hcounter =>
      have hfree : state.latches.ifId.wait? state.latches.idEx = none := by
        simpa using hwait
      rw [hfree, if_neg (by decide), if_neg (by decide)]
      exact leads_of_empty hifId hcounter hpc htaken

/-- The instruction in front of decode is from the program. -/
theorem wellFormed_ifId (h : Tracks program start position state)
    (hrun : Runnable program start) :
    ∀ instruction ∈ state.latches.ifId.instruction, instruction.WellFormed := by
  have hleads := h.leads
  generalize position.due = due at hleads
  cases hleads with
  | decoded _ hifId => rw [hifId]; exact hrun.formed.fetch? _
  | fetched _ hifId => rw [hifId]; exact hrun.formed.fetch? _
  | pending _ hifId => rw [hifId]; simp

/-- So is the instruction in execute. -/
theorem wellFormed_idEx (h : Tracks program start position state)
    (hrun : Runnable program start) :
    ∀ instruction ∈ state.latches.idEx.instruction, instruction.WellFormed := by
  have hleads := h.leads
  generalize position.due = due at hleads
  cases hleads with
  | decoded hidEx =>
      intro instruction hmem
      rw [hidEx] at hmem
      exact hrun.formed.fetch? _ instruction (IdEx.mem_of_mem_ofSlot hmem)
  | fetched hidEx => rw [hidEx]; simp
  | pending hidEx => rw [hidEx]; simp

private theorem count_next (p : Nat → Bool) :
    (Nat.count (fun j => p j) (position.next program start).executed : Int) =
      Nat.count (fun j => p j) position.executed +
        if decide (position.due = 1) && p position.executed then 1 else 0 := by
  by_cases hdue : position.due = 1
  · cases hp : p position.executed <;> simp [Position.next, hdue, Nat.count_succ, hp]
  · simp [Position.next, hdue]

/-- One cycle takes the pipeline to the next position of the schedule, without a fault. -/
theorem step (h : Tracks program start position state) (hrun : Runnable program start)
    (hvalid : position.Valid program start) (hlive : state.core.halted = false) :
    (state.step program).2 = none ∧
      Tracks program start (position.next program start) (state.step program).1 := by
  have hwriteBack := writeBack_of_spans h.memWb h.registers h.completed
  have hdecode := decode_eq (start.path program position.accessed).registers state.latches.idEx
    (h.wellFormed_ifId hrun)
  obtain ⟨hmemory, hmemWb⟩ := accessMemory_of_spans h.exMem h.memory
  obtain ⟨hspans, hbranched, htaken, -⟩ := h.execute_spans hrun hvalid
  have hwait := h.isSome_wait? hrun
  have hnameable := nameable_execute (h.wellFormed_idEx hrun)
  rw [State.step_eq_advance hlive hwriteBack hnameable hdecode]
  refine ⟨rfl, ?_, ?_, ?_, ?_, h.leads_advance hrun hvalid (State.pc_behind ..),
    State.halted_advance .., ?_, ?_, ?_, ?_⟩
  · rw [State.registers_advance, State.registers_behind]
    rfl
  · rw [State.memory_advance, State.memory_behind]
    exact hmemory
  · rw [State.memWb_advance]
    exact hmemWb
  · rw [State.exMem_advance]
    exact hspans
  · rw [State.completed_advance, State.completed_behind]
    rfl
  · rw [State.branches_advance, State.branches_behind, hbranched, count_next, ← h.branches]
  · have hbranch : (execute state.latches).taken = true →
        (execute state.latches).branched = true := by
      rw [htaken, hbranched, Bool.and_eq_true, Bool.and_eq_true]
      exact fun htakes => ⟨htakes.1, Sequential.State.isBranch_of_isTaken htakes.2⟩
    rw [State.mispredictions_advance, State.mispredictions_behind _ _ _ hbranch, htaken,
      count_next, ← h.mispredictions]
  · have hstall : ∀ (wait : Option Int) (latch : IdEx),
        (wait.elim (Decoded.issue latch) .stall).isStall = wait.isSome := by
      intro wait latch
      cases wait <;> rfl
    rw [State.stalls_advance, State.stalls_behind, hstall, hwait, count_next, ← h.stalls]

end Tracks

end FiveStage.Pipeline
