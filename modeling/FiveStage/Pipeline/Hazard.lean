import FiveStage.Pipeline.Latch

/-!
# Data hazards

An instruction may need a register that an older instruction in flight has not written
yet. Two rules keep it from reading the old value.

* In execute, an operand is bypassed from the newest latch that is about to write its
  register. The latch behind execute goes first, but a load there has no value yet.
* In decode, an instruction that reads what a load in execute is about to fetch waits one
  cycle. After that the load is in the last latch and can be bypassed from.

`R0` is never bypassed and never waited for.
-/

namespace FiveStage.Pipeline

/-- The latch that an operand is taken from. -/
inductive BypassSource where
  | exMem
  | memWb
  deriving DecidableEq

def BypassSource.name : BypassSource → String
  | .exMem => "EX/MEM"
  | .memWb => "MEM/WB"

/-- An operand that is taken from a latch. -/
structure Bypass where
  source : BypassSource
  register : Int
  value : Int
  deriving DecidableEq

/-- Whether the latch holds the value that a register is about to get. -/
def ExMem.supplies (latch : ExMem) (register : Int) : Bool :=
  !latch.isBubble && latch.control.regWrite && decide (latch.dest = some register) &&
    !latch.control.memToReg

/-- Whether the latch holds the value that a register is about to get. -/
def MemWb.supplies (latch : MemWb) (register : Int) : Bool :=
  !latch.isBubble && latch.control.regWrite && decide (latch.dest = some register)

/-- Where an operand register is bypassed from, if it is. -/
def bypass? (exMem : ExMem) (memWb : MemWb) : Option Int → Option Bypass
  | none => none
  | some register =>
    if register = 0 then none
    else if exMem.supplies register then some ⟨.exMem, register, exMem.aluResult⟩
    else if memWb.supplies register then some ⟨.memWb, register, memWb.value⟩
    else none

@[simp] theorem bypass?_none (exMem : ExMem) (memWb : MemWb) : bypass? exMem memWb none = none :=
  rfl

@[simp] theorem bypass?_zero (exMem : ExMem) (memWb : MemWb) :
    bypass? exMem memWb (some 0) = none := rfl

theorem register_of_bypass? {exMem : ExMem} {memWb : MemWb} {operand : Option Int}
    {bypass : Bypass} (h : bypass? exMem memWb operand = some bypass) :
    operand = some bypass.register := by
  cases operand with
  | none => contradiction
  | some register =>
    simp only [bypass?] at h
    split at h
    · contradiction
    · split at h
      · injection h with h
        rw [← h]
      · split at h
        · injection h with h
          rw [← h]
        · contradiction

/-- The two operand positions of execute. -/
inductive OperandSide where
  | a
  | b
  deriving DecidableEq

def OperandSide.name : OperandSide → String
  | .a => "A"
  | .b => "B"

/-- The operands of the instruction in execute: A is its `rs` and B its `rt`. -/
structure Operands where
  rsValue : Int
  rtValue : Int
  rsBypass : Option Bypass
  rtBypass : Option Bypass
  deriving DecidableEq

namespace Operands

/-- Each operand on its own: the bypassed value, or else the one read in decode. -/
def resolve (idEx : IdEx) (exMem : ExMem) (memWb : MemWb) : Operands :=
  if idEx.isBubble then ⟨idEx.rsValue, idEx.rtValue, none, none⟩
  else
    let rsBypass := bypass? exMem memWb (idEx.instruction.bind (·.rs))
    let rtBypass := bypass? exMem memWb (idEx.instruction.bind (·.rt))
    { rsValue := (rsBypass.map (·.value)).getD idEx.rsValue
      rtValue := (rtBypass.map (·.value)).getD idEx.rtValue
      rsBypass, rtBypass }

/-- The bypasses in operand order. -/
def bypasses (operands : Operands) : List (OperandSide × Bypass) :=
  (operands.rsBypass.map (OperandSide.a, ·)).toList ++
    (operands.rtBypass.map (OperandSide.b, ·)).toList

theorem length_bypasses_le (operands : Operands) : operands.bypasses.length ≤ 2 := by
  unfold bypasses
  cases operands.rsBypass <;> cases operands.rtBypass <;> simp

end Operands

/-- The register that an instruction has to wait for, because a load in execute is about
to fetch it. -/
def loadUse? (instruction : Instruction) (idEx : IdEx) : Option Int :=
  if idEx.isBubble || !idEx.control.memRead then none
  else idEx.dest.filter fun register => register ≠ 0 && instruction.sources.contains register

theorem mem_sources_of_loadUse? {instruction : Instruction} {idEx : IdEx} {register : Int}
    (h : loadUse? instruction idEx = some register) :
    idEx.dest = some register ∧ register ≠ 0 ∧ register ∈ instruction.sources := by
  unfold loadUse? at h
  split at h
  · contradiction
  · have := Option.filter_eq_some_iff.1 h
    simpa using this

end FiveStage.Pipeline
