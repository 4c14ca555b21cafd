import FiveStage.Proofs.Pipeline.Tracking

/-!
# When a pipeline halts

A pipeline halts when every latch is a bubble and fetch is past the end. On the schedule this
means that no slot is left that does anything: none of those not yet written back is work,
and the path is past the end at the slot to be fetched next (`Tracks.halted_iff`). From then
on nothing changes, neither in the pipeline nor along the path.
-/

namespace FiveStage.Sequential

open Pipeline State

/-- The slot that is fetched next. A slot due in three cycles has not been fetched, one due
now has another one behind it. -/
def Position.upcoming (position : Position) : Nat := position.executed + (3 - position.due)

/-- Nothing is left to do. -/
structure Position.Quiet (program : Program) (start : State) (position : Position) : Prop where
  idle : ∀ i, position.retired ≤ i → start.isWork program i = false
  done : (start.path program position.upcoming).isDone program = true

variable {program : Program} {start : State}

theorem State.isWork_of_isDone {i : Nat} (h : (start.path program i).isDone program = true) :
    start.isWork program i = false := by
  rw [isWork, slot?_eq_path, current?_of_isDone h]
  rfl

theorem Position.Quiet.next {position : Position} (h : position.Quiet program start)
    (hvalid : position.Valid program start) :
    (position.next program start).Quiet program start where
  idle i hi := h.idle i (Nat.le_trans hvalid.retired_le hi)
  done := by
    have hretired := hvalid.retired_le
    have haccessed := hvalid.accessed_le
    have hidle : start.isWork program position.executed = false := h.idle _ (by omega)
    have hle : position.upcoming ≤ (position.next program start).upcoming := by
      simp only [upcoming, Position.next, isLoadUse_of_not_isWork hidle,
        isTaken_of_not_isWork hidle, Bool.toNat_false]
      split <;> omega
    exact isDone_path_of_le h.done hle

end FiveStage.Sequential

namespace FiveStage.Pipeline

open FiveStage.Sequential (Position)

variable {program : Program} {start : Sequential.State} {position : Position} {state : State}
  {first last : Nat}

/-- A latch is a bubble exactly if no work is in it. -/
theorem Spans.isBubble_iff {Latch : Type} {empty latch : Latch}
    {carries : Latch → Sequential.State → Instruction → Prop} {isBubble : Latch → Bool}
    (h : Spans empty carries program start first last latch) (hempty : isBubble empty = true)
    (hcarries : ∀ {latch : Latch} {state : Sequential.State} {instruction : Instruction},
      carries latch state instruction → instruction.WellFormed → instruction.opcode ≠ .nop →
        isBubble latch = false) :
    isBubble latch = true ↔ ∀ i, first ≤ i → i < last → start.isWork program i = false := by
  cases h with
  | none =>
      refine ⟨fun _ i hlow hhigh => ?_, fun _ => hempty⟩
      omega
  | idle hidle =>
      refine ⟨fun _ i hlow hhigh => ?_, fun _ => hempty⟩
      obtain rfl : i = first := by omega
      exact hidle
  | work hslot hnop hformed hcarried =>
      rw [hcarries hcarried hformed hnop]
      refine ⟨fun h => by contradiction, fun h => ?_⟩
      rw [← h first (Nat.le_refl _) (Nat.lt_succ_self _), isWork_of_slot? hslot hnop]

theorem Runnable.isBubble_fetched (h : Runnable program start) (i : Nat) :
    (program.fetched (start.path program i).pc).isBubble = !start.isWork program i := by
  rw [IfId.isBubble, Program.fetched, ← h.slot?_eq_fetch?, Sequential.State.isWork]
  cases start.slot? program i <;> simp

theorem Runnable.isBubble_ofSlot (h : Runnable program start) (i : Nat) (registers : Registers)
    (pc : Int) :
    (IdEx.ofSlot registers pc (program.fetch? (start.path program i).pc)).isBubble =
      !start.isWork program i := by
  have hformed := h.formed.fetch? (start.path program i).pc
  rw [← h.slot?_eq_fetch?] at hformed ⊢
  rw [Sequential.State.isWork]
  cases hslot : start.slot? program i with
  | none => rfl
  | some instruction =>
      by_cases hnop : instruction.opcode = .nop
      · simp [IdEx.ofSlot, hnop]
      · have hcontrol := Control.isNop_ofOpcode (hformed instruction hslot) hnop
        simp [IdEx.ofSlot, hnop, IdEx.isBubble, hcontrol]

theorem isDone_path_iff (i : Nat) :
    (start.path program i).isDone program = true ↔
      (program.size : Int) ≤ (start.path program i).pc / 4 := by
  simp only [Sequential.State.isDone, decide_eq_true_eq]
  omega

/-- Unless a slot is work, the next slot is at the next word. -/
theorem pc_path_succ_of_not_isWork {j : Nat} (h : start.isWork program j = false) :
    (start.path program (j + 1)).pc = (start.path program j).pc + 4 :=
  Sequential.State.pc_path_succ (Sequential.State.isTaken_of_not_isWork h)

theorem pc_path_add_two_of_idle {j : Nat} (hj : start.isWork program j = false)
    (hnext : start.isWork program (j + 1) = false) :
    (start.path program (j + 2)).pc = (start.path program j).pc + 8 := by
  rw [pc_path_succ_of_not_isWork hnext, pc_path_succ_of_not_isWork hj, Int.add_assoc]
  rfl

/-- The front of the pipeline is empty and past the end exactly if no work is to come. -/
theorem Tracks.front_iff (h : Tracks program start position state)
    (hrun : Runnable program start) :
    (state.latches.idEx.isBubble = true ∧ state.latches.ifId.isBubble = true ∧
        (program.size : Int) ≤ state.core.pc / 4) ↔
      (∀ i, position.executed ≤ i → start.isWork program i = false) ∧
        (start.path program position.upcoming).isDone program = true := by
  have hleads := h.leads
  rw [Position.upcoming, isDone_path_iff]
  generalize position.executed = j at hleads ⊢
  generalize position.due = due at hleads ⊢
  -- Past the slot that is fetched next nothing is work, which leaves those before it.
  have hlater : ∀ {i k : Nat}, (program.size : Int) ≤ (start.path program k).pc / 4 → k ≤ i →
      start.isWork program i = false := fun hdone hle =>
    Sequential.State.isWork_of_isDone
      (Sequential.State.isDone_path_of_le ((isDone_path_iff _).2 hdone) hle)
  cases hleads with
  | decoded hidEx hifId hcounter =>
      rw [hidEx, hrun.isBubble_ofSlot, hifId, hcounter, Bool.not_eq_true']
      constructor
      · rintro ⟨hj, hbubble, hpc⟩
        rw [← pc_path_succ_of_not_isWork hj, hrun.isBubble_fetched, Bool.not_eq_true'] at hbubble
        rw [← pc_path_add_two_of_idle hj hbubble] at hpc
        refine ⟨fun i hi => ?_, hpc⟩
        rcases Nat.lt_or_ge i (j + 2) with hlt | hge
        · obtain rfl | rfl : i = j ∨ i = j + 1 := by omega
          · exact hj
          · exact hbubble
        · exact hlater hpc hge
      · rintro ⟨hidle, hpc⟩
        have hj := hidle j (Nat.le_refl j)
        have hnext := hidle (j + 1) (Nat.le_succ j)
        refine ⟨hj, ?_, ?_⟩
        · rw [← pc_path_succ_of_not_isWork hj, hrun.isBubble_fetched, hnext]
          rfl
        · rw [← pc_path_add_two_of_idle hj hnext]
          exact hpc
  | fetched hidEx hifId hcounter =>
      rw [hidEx, hifId, hcounter, hrun.isBubble_fetched, Bool.not_eq_true']
      constructor
      · rintro ⟨-, hj, hpc⟩
        rw [← pc_path_succ_of_not_isWork hj] at hpc
        refine ⟨fun i hi => ?_, hpc⟩
        rcases Nat.eq_or_lt_of_le hi with rfl | hlt
        · exact hj
        · exact hlater hpc hlt
      · rintro ⟨hidle, hpc⟩
        have hj := hidle j (Nat.le_refl j)
        refine ⟨rfl, hj, ?_⟩
        rw [← pc_path_succ_of_not_isWork hj]
        exact hpc
  | pending hidEx hifId hcounter =>
      rw [hidEx, hifId, hcounter]
      constructor
      · rintro ⟨-, -, hpc⟩
        exact ⟨fun i hi => hlater hpc hi, hpc⟩
      · rintro ⟨-, hpc⟩
        exact ⟨rfl, rfl, hpc⟩

/-- A pipeline is halted exactly if nothing is left to do. -/
theorem Tracks.halted_iff (h : Tracks program start position state)
    (hrun : Runnable program start) (hvalid : position.Valid program start) :
    state.core.halted = true ↔ position.Quiet program start := by
  have hfront := h.front_iff hrun
  have hmemWb := Spans.isBubble_iff h.memWb rfl MemWb.Carries.isBubble
  have hexMem := Spans.isBubble_iff h.exMem rfl ExMem.Carries.isBubble
  rw [h.halted, Latches.isDrained]
  simp only [Bool.and_eq_true, decide_eq_true_eq]
  constructor
  · rintro ⟨⟨⟨⟨hifId, hidEx⟩, hex⟩, hmem⟩, hpc⟩
    obtain ⟨hlater, hdone⟩ := hfront.1 ⟨hidEx, hifId, hpc⟩
    refine ⟨fun i hi => ?_, hdone⟩
    rcases Nat.lt_or_ge i position.accessed with hlt | hge
    · exact hmemWb.1 hmem i hi hlt
    · rcases Nat.lt_or_ge i position.executed with hlt | hge'
      · exact hexMem.1 hex i hge hlt
      · exact hlater i hge'
  · rintro ⟨hidle, hdone⟩
    have hretired := hvalid.retired_le
    have haccessed := hvalid.accessed_le
    obtain ⟨hidEx, hifId, hpc⟩ := hfront.2 ⟨fun i hi => hidle i (by omega), hdone⟩
    exact ⟨⟨⟨⟨hifId, hidEx⟩, hexMem.2 fun i hi _ => hidle i (by omega)⟩,
      hmemWb.2 fun i hi _ => hidle i hi⟩, hpc⟩

end FiveStage.Pipeline
