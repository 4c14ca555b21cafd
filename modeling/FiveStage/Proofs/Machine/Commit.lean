import FiveStage.Machine.Memory
import FiveStage.Machine.Registers

/-!
# Register writes as values

An instruction in flight stands for at most one register write that has not happened yet.
Here such a write is a value, an index with a word, and `commit` carries it out. `value`
is the total view of a register file: it agrees with `read` wherever reading succeeds,
and one equation says how a commit changes it (`value_commit`).

Whether an operand can be read is a matter of its index, and a file that is sound stays so. For
memory it is enough to know that it holds words and nothing else (`Memory.Sound`). Registers and
memory do not notice if a write is done again (`commit_commit`, `write_write`).
-/

namespace FiveStage

namespace Registers

/-- The index of a register that exists. -/
def IsIndex (index : Int) : Prop := 0 ≤ index ∧ index < 32

instance (index : Int) : Decidable (IsIndex index) := inferInstanceAs (Decidable (_ ∧ _))

theorem IsIndex.writable {index : Int} (h : IsIndex index) : Writable index := by
  obtain ⟨hlow, hhigh⟩ := h
  have hfits : FitsIndex index := ⟨by omega, by omega⟩
  exact hfits.writable

/-- The word of an operand, zero where reading it would be a fault. -/
def value (registers : Registers) (operand : Option Int) : Int :=
  ((registers.readOperand operand).toOption).getD 0

/-- The file after a pending write. One that would be a fault is dropped. -/
def commit (registers : Registers) : Option (Int × Int) → Registers
  | none => registers
  | some (index, value) => ((registers.write index value).toOption).getD registers

@[simp] theorem commit_none (registers : Registers) : registers.commit none = registers := rfl

theorem toNat_lt_of_isIndex {index : Int} (h : IsIndex index) : index.toNat < 32 := by
  obtain ⟨hlow, hhigh⟩ := h
  omega

theorem slot?_of_isIndex {index : Int} (h : IsIndex index) :
    slot? index = some ⟨index.toNat, toNat_lt_of_isIndex h⟩ :=
  dif_pos h

/-- Reading operands in range always succeeds. -/
theorem readOperand_eq_value {registers : Registers} {operand : Option Int}
    (h : ∀ index ∈ operand, IsIndex index) :
    registers.readOperand operand = .ok (registers.value operand) := by
  cases operand with
  | none => rfl
  | some index =>
      have hslot := slot?_of_isIndex (h index rfl)
      simp [value, readOperand, read, hslot, Except.toOption]

/-- An operand that cannot be read cannot be read from any file. -/
theorem readOperand_eq_error {registers : Registers} {operand : Option Int}
    {fault : Fault} (h : registers.readOperand operand = .error fault) (other : Registers) :
    other.readOperand operand = .error fault := by
  cases operand with
  | none => contradiction
  | some index =>
      rw [readOperand, read] at h ⊢
      split at h
      · contradiction
      · exact h

theorem exists_readOperand {registers : Registers} {operand : Option Int} {value : Int}
    (h : registers.readOperand operand = .ok value) (other : Registers) :
    ∃ found, other.readOperand operand = .ok found := by
  cases hother : other.readOperand operand with
  | ok found => exact ⟨found, rfl⟩
  | error fault =>
      rw [readOperand_eq_error hother registers] at h
      contradiction

theorem value_some {registers : Registers} {index : Int} (h : IsIndex index)
    (hbound : index.toNat < 32) :
    registers.value (some index) = registers.words[index.toNat] := by
  simp [value, readOperand, read, slot?_of_isIndex h, Except.toOption]

/-- Writing in range always succeeds. -/
theorem write_eq_commit (registers : Registers) (value : Int) {index : Int} (h : IsIndex index) :
    registers.write index value = .ok (registers.commit (some (index, value))) := by
  have hwrites : ∃ written, registers.write index value = .ok written := write_isOk_iff.2 h
  obtain ⟨written, hwrite⟩ := hwrites
  simp [commit, hwrite, Except.toOption]

theorem write_eq_error {index : Int} (h : ¬ IsIndex index) (registers : Registers) (value : Int) :
    registers.write index value = .error (.registerWrite index) :=
  dif_neg h

theorem commit_of_not_isIndex {registers : Registers} {index value : Int} (h : ¬ IsIndex index) :
    registers.commit (some (index, value)) = registers := by
  rw [commit, write_eq_error h]
  rfl

theorem commit_of_isIndex {registers : Registers} {index : Int} (h : IsIndex index) (value : Int) :
    registers.commit (some (index, value)) =
      if index = 0 then registers
      else ⟨registers.words.set index.toNat (Word.wrap value) (toNat_lt_of_isIndex h)⟩ := by
  obtain ⟨hlow, hhigh⟩ := h
  rw [commit, write, dif_pos ⟨hlow, hhigh⟩]
  split <;> rfl

/-- A commit is seen at its own register, unless that is `R0`, and nowhere else. -/
theorem getElem?_commit (registers : Registers) {index : Int} (h : IsIndex index) (written : Int)
    (place : Nat) :
    (registers.commit (some (index, written))).words[place]? =
      if index = place ∧ index ≠ 0 then some (Word.wrap written) else registers.words[place]? := by
  have hlow := h.1
  rw [commit_of_isIndex h]
  by_cases hzero : index = 0
  · rw [if_pos hzero, if_neg]
    exact fun hsame => hsame.2 hzero
  · have hsame : index.toNat = place ↔ index = place ∧ index ≠ 0 := by omega
    simp only [if_neg hzero, Vector.getElem?_set, hsame]

/-- Only a commit to a register changes it. -/
theorem exists_of_getElem?_commit_ne {registers : Registers} {write : Option (Int × Int)}
    {place : Nat} (h : (registers.commit write).words[place]? ≠ registers.words[place]?) :
    ∃ entry, write = some entry ∧ entry.1 = place := by
  cases write with
  | none => exact absurd rfl h
  | some entry =>
      obtain ⟨index, value⟩ := entry
      by_cases hindex : IsIndex index
      · rw [registers.getElem?_commit hindex] at h
        split at h
        · rename_i hsame
          exact ⟨_, rfl, hsame.1⟩
        · exact absurd rfl h
      · rw [commit_of_not_isIndex hindex] at h
        exact absurd rfl h

theorem value_commit {registers : Registers} {index written place : Int}
    (hindex : IsIndex index) (hplace : IsIndex place) :
    (registers.commit (some (index, written))).value (some place) =
      if index = place ∧ place ≠ 0 then Word.wrap written
      else registers.value (some place) := by
  have hbound := toNat_lt_of_isIndex hplace
  have hlow := hplace.1
  have hsame : index = place.toNat ∧ index ≠ 0 ↔ index = place ∧ place ≠ 0 := by omega
  rw [value_some hplace hbound, value_some hplace hbound]
  apply Option.some.inj
  rw [← Vector.getElem?_eq_getElem hbound, getElem?_commit _ hindex,
    Vector.getElem?_eq_getElem hbound]
  simp only [hsame]
  split <;> rfl

/-- To commit twice is to commit once. -/
theorem commit_commit (registers : Registers) (write : Option (Int × Int)) :
    (registers.commit write).commit write = registers.commit write := by
  cases write with
  | none => rfl
  | some entry =>
      obtain ⟨index, value⟩ := entry
      by_cases hindex : IsIndex index
      · simp only [commit_of_isIndex hindex]
        split
        · rfl
        · rw [Vector.set_set]
      · simp only [commit_of_not_isIndex hindex]

/-- A commit keeps a file sound, whatever it writes. -/
theorem Sound.commit {registers : Registers} (h : registers.Sound) (write : Option (Int × Int)) :
    (registers.commit write).Sound := by
  cases write with
  | none => exact h
  | some entry =>
      obtain ⟨index, value⟩ := entry
      by_cases hindex : IsIndex index
      · exact h.write (write_eq_commit registers value hindex)
      · rw [commit_of_not_isIndex hindex]
        exact h

theorem Sound.inRange_readOperand {registers : Registers} (h : registers.Sound)
    {operand : Option Int} {value : Int} (hvalue : registers.readOperand operand = .ok value) :
    Word.InRange value := by
  cases operand with
  | none =>
      cases hvalue
      exact Word.inRange_zero
  | some index =>
      rw [readOperand, read] at hvalue
      split at hvalue
      · cases hvalue
        exact h.inRange _
      · contradiction

/-- A commit elsewhere is not seen. -/
theorem value_commit_of_ne {registers : Registers} {write : Option (Int × Int)} {place : Int}
    (hindex : ∀ entry ∈ write, IsIndex entry.1) (hplace : IsIndex place)
    (h : ∀ entry ∈ write, entry.1 = place → place = 0) :
    (registers.commit write).value (some place) = registers.value (some place) := by
  cases write with
  | none => rfl
  | some entry =>
      rw [value_commit (hindex entry rfl) hplace, if_neg]
      rintro ⟨heq, hne⟩
      exact hne (h entry rfl heq)

end Registers

namespace Memory

/-- Every word is a signed 32-bit value. -/
def Sound (memory : Memory) : Prop := ∀ address, Word.InRange (memory.read address)

/-- A memory is sound if all its words are in range, since there is nothing else to read. -/
theorem sound_iff {memory : Memory} :
    memory.Sound ↔ ∀ word ∈ memory.words, Word.InRange word := by
  constructor
  · intro h word hword
    obtain ⟨index, hindex, rfl⟩ := Array.getElem_of_mem hword
    have hread := h (4 * index)
    rw [read, wordIndex?, if_neg (by omega)] at hread
    dsimp only at hread
    have hplace : (4 * (index : Int)).toNat / 4 = index := by omega
    rwa [hplace, Array.getElem?_eq_getElem hindex] at hread
  · intro h address
    rw [read]
    split
    · rename_i index hindex
      cases hword : memory.words[index]? with
      | none => exact Word.inRange_zero
      | some word => exact h word (Array.mem_of_getElem? hword)
    · exact Word.inRange_zero

theorem sound_zeros (size : Int) : (zeros size).Sound := by
  intro address
  simp only [read, zeros]
  split
  · simp only [Array.getElem?_replicate]
    split <;> simp
  · simp

theorem Sound.write {memory : Memory} (h : memory.Sound) (address value : Int) :
    (memory.write address value).Sound := by
  intro place
  rw [read_write]
  split
  · exact Word.inRange_wrap value
  · exact h place

theorem Sound.writeAll {memory : Memory} (h : memory.Sound) (entries : List (Int × Int)) :
    (memory.writeAll entries).Sound := by
  induction entries generalizing memory with
  | nil => exact h
  | cons entry entries ih => exact ih (h.write entry.1 entry.2)

/-- To write twice is to write once. -/
theorem write_write (memory : Memory) (address value : Int) :
    (memory.write address value).write address value = memory.write address value := by
  have hwords : ((memory.write address value).write address value).words =
      (memory.write address value).words := by
    apply Array.ext_getElem?
    intro index
    rw [getElem?_write, getElem?_write, size_write]
    split <;> rfl
  exact congrArg Memory.mk hwords

end Memory

end FiveStage
