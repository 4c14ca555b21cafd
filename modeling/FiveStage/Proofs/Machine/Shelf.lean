import FiveStage.Machine.Memory
import Mathlib.Data.List.Induction

/-!
# Memories answer from their histories

On a shelf stand any number of memories. More can be made at any time, or cloned from those that are
there, and each can be written and read. What a shelf does is told apart from what stands on it
(`Kind`), so there can be a shelf of records as well. A record knows nothing of words in an array:
it keeps the writes to a memory, those of its origin included, and answers a read by looking up the
latest one that reaches the word.

A record can be turned into a memory by doing its writes over. This goes along with everything
that is done on a shelf (`Shelf.run_replay`), so both shelves give the same answers. Among them are
the refusals: a size that is no number of 64 bits makes no memory, not even one without words.
-/

namespace FiveStage.Memory

/-- What was done to a memory: the size it was made with and the writes, oldest first. -/
structure Record where
  size : Int
  fits : FitsIndex size
  writes : List (Int × Int)

namespace Record

/-- The number of the word that a byte address falls into. Negative addresses have one too. -/
def wordNumber (address : Int) : Int := address >>> (2 : Nat)

/-- A write to an address of the memory reaches all addresses of its word. -/
def Reaches (size address place : Int) : Prop :=
  0 ≤ address ∧ wordNumber address < size ∧ wordNumber address = wordNumber place

instance (size address place : Int) : Decidable (Reaches size address place) :=
  inferInstanceAs (Decidable (_ ∧ _ ∧ _))

/-- The value of the latest write that reaches an address. -/
def latest? (record : Record) (place : Int) : Option Int :=
  (record.writes.reverse.find? fun write => Reaches record.size write.1 place).map (·.2)

/-- The record of a new memory, if there can be one of this size. -/
def ofEntries (size : Int) (entries : List (Int × Int)) : Except Fault Record :=
  if fits : FitsIndex size then .ok ⟨size, fits, entries⟩ else .error .indexSize

/-- The word at an address, by what was written to it. -/
def read (record : Record) (place : Int) : Int :=
  if 0 ≤ place ∧ wordNumber place < record.size then
    ((record.latest? place).map Word.wrap).getD 0
  else 0

def write (record : Record) (address value : Int) : Record :=
  { record with writes := record.writes ++ [(address, value)] }

def words (record : Record) : Array Int :=
  Array.ofFn fun index : Fin record.size.toNat => record.read (4 * (index : Int))

/-- Does everything over on a new memory. -/
def replay (record : Record) : Memory := (zeros record.size).writeAll record.writes

end Record

/-! ## Shelves -/

/-- What can be done on a shelf. A slot that is empty has nothing to be cloned, written or read. -/
inductive Operation where
  /-- Puts a new memory on the shelf, with some values written to it, if it can be made. -/
  | make (size : Int) (entries : List (Int × Int))
  | clone (slot : Nat)
  | write (slot : Nat) (address value : Int)
  | read (slot : Nat) (address : Int)
  /-- Hands out all words of a memory. -/
  | view (slot : Nat)
  deriving DecidableEq

/-- What was read, or why a memory was not made. -/
inductive Answer where
  | word (value : Int)
  | words (values : Array Int)
  | refusal (fault : Fault)
  deriving DecidableEq

/-- How memories of some kind are made, written and read. -/
structure Kind (α : Type) where
  make : Int → List (Int × Int) → Except Fault α
  write : α → Int → Int → α
  read : α → Int → Int
  words : α → Array Int

/-- Memories as they are. -/
def stored : Kind Memory := ⟨Memory.ofEntries, Memory.write, Memory.read, Memory.words⟩

/-- Memories as records of what was done to them. -/
def recorded : Kind Record := ⟨Record.ofEntries, Record.write, Record.read, Record.words⟩

/-- Memories by slot, in the order in which they were made, and all answers. -/
structure Shelf (α : Type) where
  items : List α := []
  answers : List Answer := []
  deriving DecidableEq

/-- The operation writes to the memory in a slot. -/
def Operation.Changes (operation : Operation) (slot : Nat) : Prop :=
  ∃ address value, operation = .write slot address value

namespace Shelf

section

variable {α : Type} (kind : Kind α) (shelf : Shelf α)

/-- The shelf after an operation. A clone goes to a new slot, with all that its origin has. -/
def perform : Operation → Shelf α
  | .make size entries =>
    match kind.make size entries with
    | .ok item => { shelf with items := shelf.items ++ [item] }
    | .error fault => { shelf with answers := shelf.answers ++ [.refusal fault] }
  | .clone slot => { shelf with items := shelf.items ++ shelf.items[slot]?.toList }
  | .write slot address value =>
    { shelf with items := shelf.items.modify slot (kind.write · address value) }
  | .read slot address =>
    { shelf with
      answers := shelf.answers ++ (shelf.items[slot]?.map (.word <| kind.read · address)).toList }
  | .view slot =>
    { shelf with
      answers := shelf.answers ++ (shelf.items[slot]?.map (.words <| kind.words ·)).toList }

/-- The shelf after operations in order. -/
def run (operations : List Operation) : Shelf α := operations.foldl (perform kind) shelf

/-- What was answered before stays. -/
theorem answers_perform (operation : Operation) :
    shelf.answers <+: (shelf.perform kind operation).answers := by
  cases operation with
  | make size entries =>
      rw [perform]
      split
      · exact List.prefix_refl _
      · exact List.prefix_append _ _
  | read slot address => exact List.prefix_append _ _
  | view slot => exact List.prefix_append _ _
  | _ => exact List.prefix_refl _

/-- A memory that is not written to stays as it is. -/
theorem items_perform {operation : Operation} {slot : Nat} (hslot : slot < shelf.items.length)
    (h : ¬ operation.Changes slot) :
    (shelf.perform kind operation).items[slot]? = shelf.items[slot]? := by
  cases operation with
  | make size entries =>
      rw [perform]
      split
      · exact List.getElem?_append_left hslot
      · rfl
  | clone origin => exact List.getElem?_append_left hslot
  | write target address value =>
      have hne : target ≠ slot := by
        rintro rfl
        exact h ⟨address, value, rfl⟩
      exact List.getElem?_modify_ne _ _ hne
  | read target address => rfl
  | view target => rfl

end

end Shelf

/-! ## Records and memories -/

theorem Record.wordNumber_eq (address : Int) : wordNumber address = address / 4 :=
  Int.shiftRight_eq_div_pow address 2

/-- What a write reaches by the record is what it reaches in memory. -/
theorem Record.reaches_iff {size address place : Int} :
    Reaches size address place ↔
      0 ≤ address ∧ address.toNat / 4 < size.toNat ∧
        wordIndex? place = some (address.toNat / 4) := by
  rw [Reaches, wordIndex?]
  simp only [wordNumber_eq]
  split
  · simp only [reduceCtorEq, and_false, iff_false]
    omega
  · rw [Option.some_inj]
    omega

theorem Record.latest?_write (record : Record) (address value place : Int) :
    (record.write address value).latest? place =
      if Reaches record.size address place then some value else record.latest? place := by
  rw [latest?, write, List.reverse_append, List.reverse_singleton, List.singleton_append,
    List.find?_cons]
  by_cases h : Reaches record.size address place <;> simp [h, latest?]

theorem read_zeros (size place : Int) : (zeros size).read place = 0 := by
  rw [read, zeros]
  cases wordIndex? place with
  | none => rfl
  | some index =>
      show ((Array.replicate size.toNat 0)[index]?).getD 0 = 0
      rw [Array.getElem?_replicate]
      split <;> rfl

namespace Record

variable (record : Record)

@[simp] theorem replay_write (address value : Int) :
    (record.write address value).replay = record.replay.write address value := by
  rw [replay, write, writeAll, List.foldl_append]
  rfl

@[simp] theorem size_replay : record.replay.size = record.size.toNat := by
  rw [replay, size_writeAll, size_zeros]

/-- A memory is made exactly if a record is, and to the same end. -/
theorem map_replay_ofEntries (size : Int) (entries : List (Int × Int)) :
    (ofEntries size entries).map replay = Memory.ofEntries size entries := by
  rw [ofEntries, Memory.ofEntries, ofSize]
  split <;> rfl

/-- Without the look at the size, which the writes have had already. -/
theorem read_eq (place : Int) :
    record.read place = ((record.latest? place).map Word.wrap).getD 0 := by
  rw [read]
  split
  · rfl
  · rename_i hplace
    have hnone : record.latest? place = none := by
      rw [latest?, Option.map_eq_none_iff, List.find?_eq_none]
      intro write _ hreaches
      obtain ⟨hpos, hsize, hword⟩ := of_decide_eq_true hreaches
      simp only [wordNumber_eq] at hsize hword hplace
      omega
    rw [hnone]
    rfl

theorem read_write (address value place : Int) :
    (record.write address value).read place =
      if Reaches record.size address place then Word.wrap value else record.read place := by
  rw [read_eq, read_eq, latest?_write]
  split <;> rfl

/-- The memory holds at every address what the record says. -/
theorem read_replay (place : Int) : record.replay.read place = record.read place := by
  obtain ⟨size, fits, writes⟩ := record
  induction writes using List.reverseRecOn with
  | nil =>
      rw [read_eq]
      exact read_zeros size place
  | append_singleton writes entry ih =>
      show (Record.write ⟨size, fits, writes⟩ entry.1 entry.2).replay.read place =
        (Record.write ⟨size, fits, writes⟩ entry.1 entry.2).read place
      rw [replay_write, Memory.read_write, size_replay, read_write, ih]
      exact if_congr reaches_iff.symm rfl rfl

theorem words_replay : record.replay.words = record.words := by
  have hsize : record.replay.words.size = record.words.size := by
    rw [words, Array.size_ofFn]
    exact record.size_replay
  refine Array.ext hsize ?_
  intro index hstored hrecorded
  simp only [Record.words, Array.getElem_ofFn]
  rw [← read_replay, Memory.read, wordIndex?, if_neg (by omega)]
  dsimp only
  have hindex : (4 * (index : Int)).toNat / 4 = index := by omega
  rw [hindex, Array.getElem?_eq_getElem hstored]
  rfl

end Record

namespace Shelf

/-- The shelf with all records turned into memories. -/
def replay (shelf : Shelf Record) : Shelf Memory :=
  { items := shelf.items.map Record.replay, answers := shelf.answers }

/-- It makes no difference if memories are made out of records before an operation or after it. -/
theorem perform_replay (shelf : Shelf Record) (operation : Operation) :
    shelf.replay.perform stored operation = (shelf.perform recorded operation).replay := by
  cases operation with
  | make size entries =>
      have hmade := Record.map_replay_ofEntries size entries
      rw [perform, perform, stored, recorded]
      dsimp only
      rw [← hmade]
      cases Record.ofEntries size entries with
      | error fault => rfl
      | ok record => simp [replay, Except.map]
  | clone slot =>
      simp only [perform, replay, List.getElem?_map, List.map_append, Option.toList_map]
  | write slot address value =>
      simp only [perform, replay, mk.injEq, and_true]
      apply List.ext_getElem?
      intro place
      simp only [List.getElem?_modify, List.getElem?_map, Option.map_eq_map, Option.map_map]
      congr 1
      funext record
      by_cases h : slot = place <;> simp [h, stored, recorded]
  | read slot address =>
      simp [perform, replay, stored, recorded, Function.comp_def, Record.read_replay]
  | view slot =>
      simp [perform, replay, stored, recorded, Function.comp_def, Record.words_replay]

theorem run_replay (shelf : Shelf Record) (operations : List Operation) :
    shelf.replay.run stored operations = (shelf.run recorded operations).replay := by
  induction operations generalizing shelf with
  | nil => rfl
  | cons operation operations ih =>
      show (shelf.replay.perform stored operation).run stored operations = _
      rw [perform_replay, ih]
      rfl

/-- A memory is put on the shelf if its size can be counted, and the fault is answered if not. -/
theorem perform_make (shelf : Shelf Memory) (size : Int) (entries : List (Int × Int)) :
    if FitsIndex size then
      ∃ memory : Memory, (memory.size : Int) = max 0 size ∧
        shelf.perform stored (.make size entries) =
          { shelf with items := shelf.items ++ [memory] }
    else
      shelf.perform stored (.make size entries) =
        { shelf with answers := shelf.answers ++ [.refusal .indexSize] } := by
  split
  · rename_i hfits
    refine ⟨(zeros size).writeAll entries, ?_, ?_⟩
    · rw [size_writeAll, size_zeros]
      omega
    · simp [perform, stored, ofEntries, ofSize, hfits, Except.map]
  · rename_i hfits
    simp [perform, stored, ofEntries, ofSize, hfits, Except.map]

/-- Whatever is done with any number of memories, everything that is answered is what the histories
say, and so is everything that could be read. An operation leaves alone what was answered before,
and every memory that it does not write to. A memory can be made of any size, below zero too, that
is a number of 64 bits, and nothing is made of another one. -/
theorem answers_run (operations : List Operation) :
    let shelf : Shelf Memory := run stored {} operations
    let ledger : Shelf Record := run recorded {} operations
    shelf.answers = ledger.answers ∧ shelf.items.length = ledger.items.length ∧
      (∀ (slot : Nat), ∀ memory ∈ shelf.items[slot]?, ∃ record ∈ ledger.items[slot]?,
        (memory.size : Int) = max 0 record.size ∧
          ∀ address, memory.read address = record.read address) ∧
      (∀ operation, shelf.answers <+: (shelf.perform stored operation).answers ∧
        ∀ slot < shelf.items.length, ¬ operation.Changes slot →
          (shelf.perform stored operation).items[slot]? = shelf.items[slot]?) ∧
      ∀ size entries,
        if FitsIndex size then
          ∃ memory : Memory, (memory.size : Int) = max 0 size ∧
            shelf.perform stored (.make size entries) =
              { shelf with items := shelf.items ++ [memory] }
        else
          shelf.perform stored (.make size entries) =
            { shelf with answers := shelf.answers ++ [.refusal .indexSize] } := by
  intro shelf ledger
  have hreplay : shelf = ledger.replay := run_replay {} operations
  refine ⟨by rw [hreplay, replay], by rw [hreplay, replay, List.length_map], ?_, ?_,
    shelf.perform_make⟩
  · intro slot memory hmemory
    rw [hreplay, replay, List.getElem?_map, Option.mem_def, Option.map_eq_some_iff] at hmemory
    obtain ⟨record, hrecord, rfl⟩ := hmemory
    refine ⟨record, hrecord, ?_, record.read_replay⟩
    rw [record.size_replay]
    omega
  · intro operation
    exact ⟨shelf.answers_perform stored operation,
      fun slot hslot h => shelf.items_perform stored hslot h⟩

/-- A memory of a size far below zero would have no words, but there is none. -/
theorem not_answers_uncountable :
    let shelf : Shelf Memory := run stored {} [.make (-9223372036854775809) [], .read 0 0]
    shelf.answers ≠ [.word 0] ∧
      ¬ ∃ memory ∈ shelf.items[0]?, (memory.size : Int) = max 0 (-9223372036854775809) := by
  have hrun : run stored {} [.make (-9223372036854775809) [], .read 0 0] =
      { items := [], answers := [.refusal .indexSize] } := by
    decide +kernel
  intro shelf
  constructor
  · rw [show shelf = _ from hrun]
    simp
  · rintro ⟨memory, hmemory, -⟩
    rw [show shelf = _ from hrun] at hmemory
    contradiction

-- The clone keeps what was written before it was made.
example : (run stored {} [.make 2 [(4, 7)], .clone 0, .write 0 5 (2 ^ 31), .read 0 4, .read 1 6,
    .view 1]).answers = [.word (-(2 ^ 31)), .word 7, .words #[0, 7]] := by decide

end Shelf

end FiveStage.Memory
