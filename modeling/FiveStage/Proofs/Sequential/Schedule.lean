import FiveStage.Proofs.Sequential.Path
import Mathlib.Data.Nat.Count

/-!
# The schedule of a program

Slot `j` of a program is what the sequential machine does in its step `j`: execute an
instruction, pass an empty word below address zero, or nothing once it is past the end. The
slots alone fix when a pipeline executes each instruction. The first one is executed in
cycle three, and every other one a cycle after the one before it, with one cycle more behind
a load whose word it reads and two more behind a taken branch (`executeCycle`).

A `Position` says how far a pipeline has come: how many slots have been written back, have
had their turn at memory and have been executed, and in how many cycles the next one will be.
`position program start n` is where the schedule is after `n` cycles, and `lt_executed_iff`
and its companions tie the three numbers to the cycles of `executeCycle`.
-/

namespace FiveStage.Sequential.State

open Pipeline

/-! ## Slots -/

/-- The instruction in a slot. There is none below address zero and past the end. -/
def slot? (program : Program) (start : State) (j : Nat) : Option Instruction :=
  (start.steps program j).current? program

/-- Whether a slot holds an instruction with an effect, which is any but `NOP`. -/
def isWork (program : Program) (start : State) (j : Nat) : Bool :=
  (start.slot? program j).any fun instruction => decide (instruction.opcode ≠ .nop)

/-- Whether a slot holds a branch. -/
def isBranch (program : Program) (start : State) (j : Nat) : Bool :=
  (start.slot? program j).any fun instruction => decide (instruction.opcode = .beq)

/-- Whether a slot holds a branch that is taken. -/
def isTaken (program : Program) (start : State) (j : Nat) : Bool :=
  (start.slot? program j).any (start.steps program j).takes

/-- Whether an instruction reads the word that a load before it fetches. -/
def needs (load user : Instruction) : Bool :=
  decide (load.opcode = .lw) &&
    load.rt.any fun register => decide (register ≠ 0) && user.sources.contains register

/-- Whether a slot holds a load whose word the next slot reads. -/
def isLoadUse (program : Program) (start : State) (j : Nat) : Bool :=
  (start.slot? program j).any fun load => (start.slot? program (j + 1)).any (needs load)

/-- The cycle in which a slot is executed, counted from one. -/
def executeCycle (program : Program) (start : State) : Nat → Nat
  | 0 => 3
  | j + 1 =>
    executeCycle program start j + 1 + (start.isLoadUse program j).toNat +
      2 * (start.isTaken program j).toNat

/-- How many of the first `n` slots are work. -/
def workCount (program : Program) (start : State) (n : Nat) : Nat :=
  Nat.count (fun j => start.isWork program j) n

variable {program : Program} {start : State} {j : Nat}

theorem slot?_eq_path (program : Program) (start : State) (j : Nat) :
    start.slot? program j = (start.path program j).current? program :=
  current?_steps program start j

theorem takes_congr {state other : State} (h : state.registers = other.registers) :
    state.takes = other.takes := by
  funext instruction
  rw [takes, takes, operand, operand, operand, operand, h]

theorem isTaken_eq_path (program : Program) (start : State) (j : Nat) :
    start.isTaken program j =
      ((start.path program j).current? program).any (start.path program j).takes := by
  rw [isTaken, slot?_eq_path, takes_congr (registers_steps program start j)]

/-- A load is not a branch, so a slot delays the next one for one reason at most. -/
theorem isTaken_of_isLoadUse (h : start.isLoadUse program j = true) :
    start.isTaken program j = false := by
  rw [isLoadUse] at h
  rw [isTaken]
  cases hslot : start.slot? program j with
  | none => rfl
  | some load =>
      simp only [hslot, Option.any_some, Option.any_eq_true, needs, Bool.and_eq_true,
        decide_eq_true_eq] at h
      obtain ⟨user, -, hload, -⟩ := h
      simp [takes, hload]

theorem isLoadUse_of_isTaken (h : start.isTaken program j = true) :
    start.isLoadUse program j = false := by
  cases hload : start.isLoadUse program j with
  | false => rfl
  | true =>
      rw [isTaken_of_isLoadUse hload] at h
      contradiction

/-- Slots that are not work change nothing but the program counter. -/
theorem onward_of_not_isWork (h : start.isWork program j = false) :
    (start.path program j).onward program = (start.path program j).next := by
  rw [isWork, slot?_eq_path] at h
  cases hcurrent : (start.path program j).current? program with
  | none => exact onward_of_none hcurrent
  | some instruction =>
      have hnop : instruction.opcode = .nop := by simpa [hcurrent] using h
      rw [onward_of_some hcurrent, execute, hnop]

theorem registers_path_succ_of_not_isWork (h : start.isWork program j = false) :
    (start.path program (j + 1)).registers = (start.path program j).registers := by
  rw [path_succ, onward_of_not_isWork h, registers_next]

theorem memory_path_succ_of_not_isWork (h : start.isWork program j = false) :
    (start.path program (j + 1)).memory = (start.path program j).memory := by
  rw [path_succ, onward_of_not_isWork h, memory_next]

/-- Unless a branch is taken, the next slot is at the next word. -/
theorem pc_path_succ (h : start.isTaken program j = false) :
    (start.path program (j + 1)).pc = (start.path program j).pc + 4 := by
  rw [isTaken_eq_path] at h
  rw [path_succ]
  cases hcurrent : (start.path program j).current? program with
  | none => rw [onward_of_none hcurrent, pc_next]
  | some instruction =>
      have htakes : (start.path program j).takes instruction = false := by
        simpa [hcurrent] using h
      rw [onward_of_some hcurrent, pc_execute, htakes]
      rfl

theorem isTaken_of_not_isWork (h : start.isWork program j = false) :
    start.isTaken program j = false := by
  rw [isWork] at h
  rw [isTaken]
  cases hslot : start.slot? program j with
  | none => rfl
  | some instruction =>
      have hnop : instruction.opcode = .nop := by simpa [hslot] using h
      simp [takes, hnop]

theorem isBranch_of_isTaken (h : start.isTaken program j = true) :
    start.isBranch program j = true := by
  simp only [isTaken, isBranch, Option.any_eq_true, takes, Bool.and_eq_true] at h ⊢
  obtain ⟨instruction, hslot, hbranch, -⟩ := h
  exact ⟨instruction, hslot, hbranch⟩

theorem isWork_of_isBranch (h : start.isBranch program j = true) :
    start.isWork program j = true := by
  simp only [isBranch, isWork, Option.any_eq_true, decide_eq_true_eq] at h ⊢
  obtain ⟨instruction, hslot, hbranch⟩ := h
  exact ⟨instruction, hslot, by simp [hbranch]⟩

theorem isWork_of_isLoadUse (h : start.isLoadUse program j = true) :
    start.isWork program j = true := by
  simp only [isLoadUse, isWork, Option.any_eq_true, needs, Bool.and_eq_true,
    decide_eq_true_eq] at h ⊢
  obtain ⟨load, hslot, -, -, hload, -⟩ := h
  exact ⟨load, hslot, by simp [hload]⟩

theorem isWork_of_isTaken (h : start.isTaken program j = true) :
    start.isWork program j = true :=
  isWork_of_isBranch (isBranch_of_isTaken h)

theorem isLoadUse_of_not_isWork (h : start.isWork program j = false) :
    start.isLoadUse program j = false := by
  cases hload : start.isLoadUse program j with
  | false => rfl
  | true =>
      rw [isWork_of_isLoadUse hload] at h
      contradiction

/-! ## Execute cycles -/

theorem executeCycle_succ (program : Program) (start : State) (j : Nat) :
    start.executeCycle program (j + 1) =
      start.executeCycle program j + 1 + (start.isLoadUse program j).toNat +
        2 * (start.isTaken program j).toNat := rfl

theorem executeCycle_lt_succ (program : Program) (start : State) (j : Nat) :
    start.executeCycle program j < start.executeCycle program (j + 1) := by
  rw [executeCycle_succ]
  omega

theorem strictMono_executeCycle (program : Program) (start : State) :
    StrictMono (start.executeCycle program) :=
  strictMono_nat_of_lt_succ (executeCycle_lt_succ program start)

theorem add_three_le_executeCycle (program : Program) (start : State) (j : Nat) :
    j + 3 ≤ start.executeCycle program j := by
  induction j with
  | zero => exact Nat.le_refl 3
  | succ j ih =>
      have := executeCycle_lt_succ program start j
      omega

end FiveStage.Sequential.State

namespace FiveStage.Sequential

open Pipeline State

/-! ## Positions -/

/-- How far a pipeline has come with the slots of a program. -/
structure Position where
  /-- Slots that have been written back. -/
  retired : Nat
  /-- Slots that have had their turn at memory. -/
  accessed : Nat
  /-- Slots that have been executed. -/
  executed : Nat
  /-- In how many cycles the next slot is executed. -/
  due : Nat

namespace Position

/-- Nothing is in flight, and the first slot still has to be fetched and decoded. -/
def initial : Position := ⟨0, 0, 0, 3⟩

/-- One cycle later. -/
def next (program : Program) (start : State) (position : Position) : Position where
  retired := position.accessed
  accessed := position.executed
  executed := if position.due = 1 then position.executed + 1 else position.executed
  due :=
    if position.due = 1 then
      1 + (start.isLoadUse program position.executed).toNat +
        2 * (start.isTaken program position.executed).toNat
    else position.due - 1

/-- What holds of every position that a schedule passes through. -/
structure Valid (program : Program) (start : State) (position : Position) : Prop where
  retired_le : position.retired ≤ position.accessed
  le_retired : position.accessed ≤ position.retired + 1
  accessed_le : position.accessed ≤ position.executed
  le_accessed : position.executed ≤ position.accessed + 1
  due_pos : 1 ≤ position.due
  due_le : position.due ≤ 3
  /-- A slot never follows a load that it needs the word of without a cycle between. -/
  interlock : position.due = 1 → position.accessed < position.executed →
    start.isLoadUse program position.accessed = false

theorem valid_initial (program : Program) (start : State) : initial.Valid program start := by
  constructor <;> simp [initial]

theorem Valid.next {program : Program} {start : State} {position : Position}
    (h : position.Valid program start) : (position.next program start).Valid program start := by
  obtain ⟨hretired, hretired', haccessed, haccessed', hpos, hle, hinterlock⟩ := h
  have hexclusive : start.isLoadUse program position.executed = true →
      start.isTaken program position.executed = false := isTaken_of_isLoadUse
  constructor
  · exact haccessed
  · exact haccessed'
  · simp only [Position.next]
    split <;> omega
  · simp only [Position.next]
    split <;> omega
  · simp only [Position.next]
    split <;> omega
  · simp only [Position.next]
    cases hload : start.isLoadUse program position.executed <;>
      cases htaken : start.isTaken program position.executed <;>
      simp_all <;> split <;> omega
  · simp only [Position.next]
    intro hdue hlt
    split at hlt
    · rename_i hone
      rw [if_pos hone] at hdue
      cases hload : start.isLoadUse program position.executed with
      | false => rfl
      | true =>
          rw [hload, Bool.toNat_true] at hdue
          omega
    · omega

end Position

/-- Where the schedule of a program is after so many cycles. -/
def position (program : Program) (start : State) (n : Nat) : Position :=
  (Position.next program start)^[n] .initial

variable {program : Program} {start : State} {n i : Nat}

theorem position_succ (program : Program) (start : State) (n : Nat) :
    position program start (n + 1) = (position program start n).next program start :=
  Function.iterate_succ_apply' _ _ _

theorem valid_position (program : Program) (start : State) (n : Nat) :
    (position program start n).Valid program start := by
  induction n with
  | zero => exact Position.valid_initial program start
  | succ n ih => rw [position_succ]; exact ih.next

/-- The next slot is executed when it is due. -/
theorem executeCycle_executed (program : Program) (start : State) (n : Nat) :
    start.executeCycle program (position program start n).executed =
      n + (position program start n).due := by
  induction n with
  | zero => rfl
  | succ n ih =>
      have hpos := (valid_position program start n).due_pos
      rw [position_succ]
      simp only [Position.next]
      split
      · rw [executeCycle_succ, ih]
        omega
      · rw [ih]
        omega

theorem lt_executed_iff :
    i < (position program start n).executed ↔ start.executeCycle program i ≤ n := by
  induction n with
  | zero =>
      have := add_three_le_executeCycle program start i
      simp only [position, Function.iterate_zero, id_eq, Position.initial]
      omega
  | succ n ih =>
      have hdue := executeCycle_executed program start n
      have hmono := strictMono_executeCycle program start
      rw [position_succ]
      simp only [Position.next]
      -- Only the slot that is due can come in, and it does exactly if it is due now.
      rcases Nat.lt_trichotomy i (position program start n).executed with hlt | rfl | hgt
      · have := ih.1 hlt
        split <;> omega
      · split <;> omega
      · have := hmono hgt
        have := (valid_position program start n).due_pos
        split <;> omega

theorem lt_accessed_iff :
    i < (position program start n).accessed ↔ start.executeCycle program i + 1 ≤ n := by
  cases n with
  | zero => simp [position, Position.initial]
  | succ n =>
      rw [position_succ]
      exact lt_executed_iff.trans (by omega)

theorem lt_retired_iff :
    i < (position program start n).retired ↔ start.executeCycle program i + 2 ≤ n := by
  cases n with
  | zero => simp [position, Position.initial]
  | succ n =>
      rw [position_succ]
      exact lt_accessed_iff.trans (by omega)

end FiveStage.Sequential
