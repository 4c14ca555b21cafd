import FiveStage.Binary64

/-!
# Counters

Six running totals of a machine and the two ratios shown with them. Counters are
integers without bounds, and may be set to anything from outside, so a ratio beyond the
range of binary64 is a fault. No counter of a running machine comes near it.
-/

namespace FiveStage

structure Counters where
  cycles : Int := 0
  /-- Instructions that left the pipeline. -/
  completed : Int := 0
  /-- Cycles lost to a load followed by a use. -/
  stalls : Int := 0
  /-- Operands taken from a latch and not from the register file. -/
  forwards : Int := 0
  /-- Branches executed. -/
  branches : Int := 0
  /-- Branches taken; all are predicted not to be. -/
  mispredictions : Int := 0
  deriving DecidableEq

namespace Counters

/-- Cycles per completed instruction, or the cycles where none completed. -/
def cyclesPerInstruction (counters : Counters) : Except Fault Float :=
  if 0 < counters.completed then
    (Binary64.quotient? counters.cycles counters.completed.toNat).elim
      (.error .quotientRange) .ok
  else
    (Binary64.quotient? counters.cycles 1).elim (.error .integerRange) .ok

/-- The share of branches that went as predicted, in percent. The quotient is rounded
before the product. -/
def branchAccuracy (counters : Counters) : Except Fault Float :=
  if 0 < counters.branches then
    (Binary64.quotient? (counters.branches - counters.mispredictions)
      counters.branches.toNat).elim (.error .quotientRange) (fun share => .ok (share * 100))
  else .ok 100

/-- One branch more, which was taken or not. -/
def countBranch (counters : Counters) (taken : Bool) : Counters :=
  { counters with
    branches := counters.branches + 1
    mispredictions := counters.mispredictions + if taken then 1 else 0 }

end Counters

end FiveStage
