import FiveStage.Pipeline.Cycle
import FiveStage.Proofs.Machine.Commit

/-!
# Bypassing reads the register file of the future

The two latches behind execute hold at most one pending register write each. An operand
that is bypassed gets the word that its register will have once both writes are done, the
older one in the last latch first (`value_bypass`). A load behind execute is the one
exception, since its word is not known yet: its own register must not be asked for.
-/

namespace FiveStage.Pipeline

open Registers

/-- The register write that a latch will ask for once the value it needs is there. For a
load the value shown is an address, and stands for a word still to be read. -/
def ExMem.commit? (latch : ExMem) : Option (Int × Int) :=
  if latch.isBubble || !latch.control.regWrite then none
  else latch.dest.map fun register => (register, latch.aluResult)

/-- Whether the latch holds a load into a register. -/
def ExMem.LoadsInto (latch : ExMem) (register : Int) : Prop :=
  latch.isBubble = false ∧ latch.control.memToReg = true ∧ latch.dest = some register

theorem ExMem.supplies_iff {latch : ExMem} {register : Int} :
    latch.supplies register = true ↔
      latch.commit? = some (register, latch.aluResult) ∧ latch.control.memToReg = false := by
  cases hbubble : latch.isBubble <;> cases hwrite : latch.control.regWrite <;>
    simp [ExMem.supplies, ExMem.commit?, hbubble, hwrite]

theorem MemWb.supplies_iff {latch : MemWb} {register : Int} :
    latch.supplies register = true ↔ latch.commit? = some (register, latch.value) := by
  cases hbubble : latch.isBubble <;> cases hwrite : latch.control.regWrite <;>
    simp [MemWb.supplies, MemWb.commit?, hbubble, hwrite]

theorem ExMem.eq_of_mem_commit? {latch : ExMem} {entry : Int × Int}
    (h : entry ∈ latch.commit?) :
    latch.isBubble = false ∧ latch.dest = some entry.1 ∧ latch.aluResult = entry.2 := by
  rw [Option.mem_def, ExMem.commit?] at h
  split at h
  · contradiction
  · rename_i hwrites
    obtain ⟨register, hdest, rfl⟩ := Option.map_eq_some_iff.1 h
    exact ⟨by simp_all, hdest, rfl⟩

theorem MemWb.eq_of_mem_commit? {latch : MemWb} {entry : Int × Int}
    (h : entry ∈ latch.commit?) : latch.dest = some entry.1 ∧ latch.value = entry.2 := by
  rw [Option.mem_def, MemWb.commit?] at h
  split at h
  · contradiction
  · obtain ⟨register, hdest, rfl⟩ := Option.map_eq_some_iff.1 h
    exact ⟨hdest, rfl⟩

/-- The word of a register that is taken from the last latch if it can be. -/
private theorem value_memWb {registers : Registers} {memWb : MemWb} {register : Int}
    (hregister : IsIndex register) (hne : register ≠ 0)
    (hdest : ∀ index ∈ memWb.dest, IsIndex index) (hvalue : Word.InRange memWb.value) :
    (registers.commit memWb.commit?).value (some register) =
      if memWb.supplies register then memWb.value else registers.value (some register) := by
  split
  · rename_i hsupplies
    rw [MemWb.supplies_iff.1 hsupplies, value_commit hregister hregister, if_pos ⟨rfl, hne⟩]
    exact Word.wrap_eq_self_iff.2 hvalue
  · rename_i hsupplies
    apply value_commit_of_ne _ hregister
    · intro entry hentry heq
      have hcommit := MemWb.eq_of_mem_commit? hentry
      refine absurd (MemWb.supplies_iff.2 ?_) hsupplies
      rw [hcommit.2, ← heq]
      exact hentry
    · intro entry hentry
      exact hdest _ (MemWb.eq_of_mem_commit? hentry).1

/-- An operand taken from the latches, or else from the file, is the word of its register
after both pending writes. -/
theorem value_bypass {registers : Registers} {exMem : ExMem} {memWb : MemWb} {register : Int}
    (hregister : IsIndex register)
    (hexMem : ∀ index ∈ exMem.dest, IsIndex index) (halu : Word.InRange exMem.aluResult)
    (hmemWb : ∀ index ∈ memWb.dest, IsIndex index) (hvalue : Word.InRange memWb.value)
    (hload : exMem.LoadsInto register → register = 0) :
    ((bypass? exMem memWb (some register)).map (·.value)).getD
        (registers.value (some register)) =
      ((registers.commit memWb.commit?).commit exMem.commit?).value (some register) := by
  have hexMem' : ∀ entry ∈ exMem.commit?, IsIndex entry.1 := fun entry hentry =>
    hexMem _ (ExMem.eq_of_mem_commit? hentry).2.1
  have hmemWb' : ∀ entry ∈ memWb.commit?, IsIndex entry.1 := fun entry hentry =>
    hmemWb _ (MemWb.eq_of_mem_commit? hentry).1
  by_cases hzero : register = 0
  · subst hzero
    rw [value_commit_of_ne hexMem' hregister fun _ _ _ => rfl,
      value_commit_of_ne hmemWb' hregister fun _ _ _ => rfl]
    rfl
  · simp only [bypass?, if_neg hzero]
    by_cases hsupplies : exMem.supplies register = true
    · rw [if_pos hsupplies, (ExMem.supplies_iff.1 hsupplies).1,
        value_commit hregister hregister, if_pos ⟨rfl, hzero⟩]
      exact (Word.wrap_eq_self_iff.2 halu).symm
    · -- A write of the newer latch to this register would be a load, which is excluded.
      rw [if_neg hsupplies, value_commit_of_ne hexMem' hregister, value_memWb hregister hzero
        hmemWb hvalue]
      · split <;> rfl
      · intro entry hentry heq
        obtain ⟨hbubble, hdest, hresult⟩ := ExMem.eq_of_mem_commit? hentry
        apply hload
        refine ⟨hbubble, ?_, by rw [← heq]; exact hdest⟩
        refine Bool.of_not_eq_false fun hnotLoad => ?_
        refine hsupplies (ExMem.supplies_iff.2 ⟨?_, hnotLoad⟩)
        rw [hresult, ← heq]
        exact hentry

end FiveStage.Pipeline
