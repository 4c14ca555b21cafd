import FiveStage.Isa.Control

/-!
# Pipeline latches

Four latches separate the five stages. Each holds the instruction that is between two
stages with what later stages need of it, and starts out empty. A latch without an
instruction, or whose control lines do nothing, is a bubble: no stage acts on it.

Before decode there are no control lines, so the first latch is a bubble if its
instruction is an operation without effect. An unknown operation is not one there, but
decoding gives it control lines that do nothing.
-/

namespace FiveStage.Pipeline

/-- Between fetch and decode. -/
structure IfId where
  instruction : Option Instruction := none
  pc : Int := 0
  deriving DecidableEq

/-- Between decode and execute. -/
structure IdEx where
  instruction : Option Instruction := none
  pc : Int := 0
  rsValue : Int := 0
  rtValue : Int := 0
  dest : Option Int := none
  immediate : Option Int := none
  target : Option Int := none
  control : Control := .nop
  deriving DecidableEq

/-- Between execute and memory access. -/
structure ExMem where
  instruction : Option Instruction := none
  pc : Int := 0
  aluResult : Int := 0
  /-- What a store writes. -/
  storeValue : Int := 0
  dest : Option Int := none
  control : Control := .nop
  branchTaken : Bool := false
  target : Option Int := none
  deriving DecidableEq

/-- Between memory access and write-back. -/
structure MemWb where
  instruction : Option Instruction := none
  pc : Int := 0
  /-- What is written back. -/
  value : Int := 0
  dest : Option Int := none
  control : Control := .nop
  deriving DecidableEq

def IfId.isBubble (latch : IfId) : Bool :=
  latch.instruction.all fun instruction => decide (instruction.opcode = .nop)

def IdEx.isBubble (latch : IdEx) : Bool := latch.instruction.isNone || latch.control.isNop

def ExMem.isBubble (latch : ExMem) : Bool := latch.instruction.isNone || latch.control.isNop

def MemWb.isBubble (latch : MemWb) : Bool := latch.instruction.isNone || latch.control.isNop

@[simp] theorem IfId.isBubble_empty : ({} : IfId).isBubble = true := rfl

@[simp] theorem IdEx.isBubble_empty : ({} : IdEx).isBubble = true := rfl

@[simp] theorem ExMem.isBubble_empty : ({} : ExMem).isBubble = true := rfl

@[simp] theorem MemWb.isBubble_empty : ({} : MemWb).isBubble = true := rfl

theorem IfId.exists_of_not_isBubble {latch : IfId} (h : latch.isBubble = false) :
    ∃ instruction, latch.instruction = some instruction ∧ instruction.opcode ≠ .nop := by
  obtain ⟨instruction, pc⟩ := latch
  cases instruction with
  | none => simp [IfId.isBubble] at h
  | some instruction => exact ⟨instruction, rfl, by simpa [IfId.isBubble] using h⟩

theorem IdEx.exists_of_not_isBubble {latch : IdEx} (h : latch.isBubble = false) :
    ∃ instruction, latch.instruction = some instruction ∧ latch.control.isNop = false := by
  simp only [IdEx.isBubble, Bool.or_eq_false_iff, Option.isNone_eq_false_iff] at h
  obtain ⟨instruction, hinstruction⟩ := Option.isSome_iff_exists.1 h.1
  exact ⟨instruction, hinstruction, h.2⟩

/-- The four latches at the end of a cycle. -/
structure Latches where
  ifId : IfId := {}
  idEx : IdEx := {}
  exMem : ExMem := {}
  memWb : MemWb := {}
  deriving DecidableEq

/-- Whether every latch is a bubble, so that nothing is in flight. -/
def Latches.isDrained (latches : Latches) : Bool :=
  latches.ifId.isBubble && latches.idEx.isBubble && latches.exMem.isBubble &&
    latches.memWb.isBubble

@[simp] theorem Latches.isDrained_empty : ({} : Latches).isDrained = true := rfl

end FiveStage.Pipeline
