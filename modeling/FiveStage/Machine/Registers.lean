import FiveStage.Fault
import FiveStage.Word

/-!
# The register file

Thirty-two words, of which `R0` is always zero because writes to it are dropped. A write
wraps its value, so the file holds words only.

Reads and writes treat stray indices differently. A write outside `R0` to `R31` is a
fault. A read counts negative indices from the end, so `-1` is `R31`, and is a fault
only past either end. Assembled programs have neither.
-/

namespace FiveStage

structure Registers where
  words : Vector Int 32
  deriving DecidableEq

namespace Registers

def zero : Registers := ⟨Vector.replicate 32 0⟩

/-- The register that an index reads. -/
def slot? (index : Int) : Option (Fin 32) :=
  if h : 0 ≤ index ∧ index < 32 then some ⟨index.toNat, by omega⟩
  else if h : -32 ≤ index ∧ index < 0 then some ⟨(index + 32).toNat, by omega⟩
  else none

/-- The word in a register. -/
def read (registers : Registers) (index : Int) : Except Fault Int :=
  match slot? index with
  | some slot => .ok registers.words[slot]
  | none => .error (.registerRead index)

/-- The word of an operand, which is zero if the instruction has none. -/
def readOperand (registers : Registers) : Option Int → Except Fault Int
  | some index => registers.read index
  | none => .ok 0

/-- The file with a register set to a wrapped value. -/
def write (registers : Registers) (index value : Int) : Except Fault Registers :=
  if h : 0 ≤ index ∧ index < 32 then
    if index = 0 then .ok registers
    else .ok ⟨registers.words.set index.toNat (Word.wrap value) (by omega)⟩
  else .error (.registerWrite index)

/-- All words are in range and `R0` is zero. Every file made from `zero` by `write` is
sound. -/
structure Sound (registers : Registers) : Prop where
  inRange : ∀ slot : Fin 32, Word.InRange registers.words[slot]
  zero : registers.words[0] = 0

theorem sound_zero : Sound zero where
  inRange slot := by simp [Registers.zero]
  zero := by simp [Registers.zero]

theorem Sound.write {registers registers' : Registers} {index value : Int}
    (sound : registers.Sound) (h : registers.write index value = .ok registers') :
    registers'.Sound := by
  unfold Registers.write at h
  split at h
  · split at h
    · injection h with h
      exact h ▸ sound
    · injection h with h
      subst h
      constructor
      · intro slot
        simp only [Fin.getElem_fin, Vector.getElem_set]
        split
        · exact Word.inRange_wrap value
        · exact sound.inRange slot
      · simp only [Vector.getElem_set]
        split
        · omega
        · exact sound.zero
  · contradiction

theorem write_isOk_iff {registers : Registers} {index value : Int} :
    (∃ registers', registers.write index value = .ok registers') ↔ 0 ≤ index ∧ index < 32 := by
  unfold write
  by_cases h : 0 ≤ index ∧ index < 32
  · by_cases h0 : index = 0 <;> simp [h, h0]
  · simp [h]

end Registers

end FiveStage
