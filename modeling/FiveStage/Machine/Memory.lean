import FiveStage.Fault
import FiveStage.Word

/-!
# Data memory

A fixed number of words under byte addresses. Four addresses share a word, so an
unaligned address means the word that holds its byte. The only fault is to ask for a memory
whose size cannot be counted. Once it is there, a read outside it gives zero and a write
outside it is dropped.
-/

namespace FiveStage

structure Memory where
  words : Array Int
  deriving DecidableEq

namespace Memory

/-- A memory of zeros. A size below one makes a memory without words. -/
def zeros (size : Int) : Memory := ⟨Array.replicate size.toNat 0⟩

/-- A memory of zeros, if words can be counted up to its size, or down to it. -/
def ofSize (size : Int) : Except Fault Memory :=
  if FitsIndex size then .ok (zeros size) else .error .indexSize

def size (memory : Memory) : Nat := memory.words.size

/-- The position of the word that holds a byte address. It may lie beyond the end. -/
def wordIndex? (address : Int) : Option Nat :=
  if address < 0 then none else some (address.toNat / 4)

/-- The word at a byte address. -/
def read (memory : Memory) (address : Int) : Int :=
  match wordIndex? address with
  | some index => memory.words[index]?.getD 0
  | none => 0

/-- The memory with the wrapped value at a byte address. -/
def write (memory : Memory) (address value : Int) : Memory :=
  match wordIndex? address with
  | some index =>
    if h : index < memory.words.size then ⟨memory.words.set index (Word.wrap value)⟩ else memory
  | none => memory

/-- The writes in order, given as address and value. -/
def writeAll (memory : Memory) (entries : List (Int × Int)) : Memory :=
  entries.foldl (fun memory entry => memory.write entry.1 entry.2) memory

/-- A memory of zeros after the given writes. -/
def ofEntries (size : Int) (entries : List (Int × Int)) : Except Fault Memory :=
  (ofSize size).map (·.writeAll entries)

@[simp] theorem size_zeros (size : Int) : (zeros size).size = size.toNat := by
  simp [zeros, Memory.size]

@[simp] theorem size_write (memory : Memory) (address value : Int) :
    (memory.write address value).size = memory.size := by
  unfold write Memory.size
  split
  · split <;> simp
  · rfl

@[simp] theorem size_writeAll (memory : Memory) (entries : List (Int × Int)) :
    (memory.writeAll entries).size = memory.size := by
  unfold writeAll
  induction entries generalizing memory with
  | nil => rfl
  | cons entry entries ih => simp [ih]

/-- A write changes the word of its address, if there is one, and no other. -/
theorem getElem?_write (memory : Memory) (address value : Int) (index : Nat) :
    (memory.write address value).words[index]? =
      if wordIndex? address = some index ∧ index < memory.size then some (Word.wrap value)
      else memory.words[index]? := by
  rw [write]
  cases wordIndex? address with
  | none => simp
  | some place =>
    simp only [Option.some.injEq]
    split
    · rename_i hbound
      rw [Array.getElem?_set]
      by_cases hsame : place = index
      · subst hsame
        simp [Memory.size, hbound]
      · simp [hsame]
    · rename_i hbound
      rw [if_neg]
      rintro ⟨rfl, hsize⟩
      exact hbound hsize

/-- A write is read back at the addresses of its word and nowhere else. -/
theorem read_write (memory : Memory) (address value place : Int) :
    (memory.write address value).read place =
      if 0 ≤ address ∧ address.toNat / 4 < memory.size ∧
          wordIndex? place = some (address.toNat / 4) then
        Word.wrap value
      else memory.read place := by
  rw [read, read]
  cases hplace : wordIndex? place with
  | none => simp
  | some index =>
    have hsame : wordIndex? address = some index ∧ index < memory.size ↔
        0 ≤ address ∧ address.toNat / 4 < memory.size ∧ some index = some (address.toNat / 4) := by
      rw [wordIndex?]
      split
      · simp only [reduceCtorEq, false_and, false_iff]
        omega
      · simp only [Option.some.injEq]
        omega
    simp only [getElem?_write, hsame]
    split <;> rfl

end Memory

end FiveStage
