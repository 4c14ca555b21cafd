import FiveStage.Proofs.Pipeline.Forwards

/-!
# Operands and pending writes

What decode read may be out of date in execute, by the writes of the two instructions behind it
that are not done yet. Doing these writes first, the older one before the newer, would give a
register file to read the operands from. Execute takes them from the latches instead, and gets the
same words (`Operands.resolve_eq_read`).

The latches need not hold anything that a program led to. It is enough that their words are words
and their registers exist, and that the newer instruction is not a load of the operand, which
decode sees to.
-/

namespace FiveStage

open Registers (IsIndex)

/-- The file after writes in order, or the fault of the first to a register that does not
exist. -/
def Registers.writeAll (registers : Registers) (writes : List (Int × Int)) :
    Except Fault Registers :=
  writes.foldlM (fun registers write => registers.write write.1 write.2) registers

theorem Registers.writeAll_toList_append {registers : Registers} {write : Option (Int × Int)}
    (h : ∀ entry ∈ write, IsIndex entry.1) (writes : List (Int × Int)) :
    registers.writeAll (write.toList ++ writes) = (registers.commit write).writeAll writes := by
  cases write with
  | none => rfl
  | some entry =>
      have hwrite := write_eq_commit registers entry.2 (h entry rfl)
      rw [writeAll, Option.toList_some, List.singleton_append, List.foldlM_cons, hwrite]
      rfl

namespace Pipeline

/-- The word that decode read for an operand. -/
def IdEx.value (latch : IdEx) : OperandSide → Int
  | .a => latch.rsValue
  | .b => latch.rtValue

/-- The word that execute has for an operand. -/
def Operands.value (operands : Operands) : OperandSide → Int
  | .a => operands.rsValue
  | .b => operands.rtValue

/-- The register writes that the latches behind execute ask for, the older one first. -/
def pendingWrites (exMem : ExMem) (memWb : MemWb) : List (Int × Int) :=
  memWb.commit?.toList ++ exMem.commit?.toList

/-- The result is a word, for a register that exists if for any. -/
structure ExMem.Regular (latch : ExMem) : Prop where
  dest : ∀ index ∈ latch.dest, IsIndex index
  aluResult : Word.InRange latch.aluResult

/-- What is written back is a word, for a register that exists if for any. -/
structure MemWb.Regular (latch : MemWb) : Prop where
  dest : ∀ index ∈ latch.dest, IsIndex index
  value : Word.InRange latch.value

namespace Operands

variable {registers : Registers} {idEx : IdEx} {exMem : ExMem} {memWb : MemWb}
  {side : OperandSide} {user : Instruction}

theorem mem_bypasses_iff {operands : Operands} {bypass : Bypass} :
    (side, bypass) ∈ operands.bypasses ↔ operands.bypass? side = some bypass := by
  rw [bypasses]
  cases side <;> cases hrs : operands.rsBypass <;> cases hrt : operands.rtBypass <;>
    simp [Operands.bypass?, hrs, hrt, eq_comm]

/-- An operand is bypassed by the register in its field. -/
theorem bypass?_of_full (hfull : idEx.isBubble = false) (huser : idEx.instruction = some user) :
    (resolve idEx exMem memWb).bypass? side =
      Pipeline.bypass? exMem memWb (side.register? user) := by
  rw [bypass?_resolve, hfull, huser]
  rfl

/-- An operand that is not bypassed has the word that decode read. -/
theorem value_of_full (hfull : idEx.isBubble = false) (huser : idEx.instruction = some user) :
    (resolve idEx exMem memWb).value side =
      ((Pipeline.bypass? exMem memWb (side.register? user)).map (·.value)).getD
        (idEx.value side) := by
  rw [resolve, hfull, huser]
  cases side <;> rfl

/-- The latches supply the registers that they write, but for a load that is still behind
execute. -/
theorem supplies_iff_pending {register : Int} (hload : ¬ exMem.LoadsInto register) :
    exMem.supplies register = true ∨ memWb.supplies register = true ↔
      ∃ value, (register, value) ∈ pendingWrites exMem memWb := by
  rw [ExMem.supplies_iff, MemWb.supplies_iff]
  simp only [pendingWrites, List.mem_append, Option.mem_toList]
  constructor
  · rintro (⟨hcommit, -⟩ | hcommit)
    · exact ⟨_, .inr hcommit⟩
    · exact ⟨_, .inl hcommit⟩
  · rintro ⟨value, hcommit | hcommit⟩
    · obtain ⟨-, rfl⟩ := MemWb.eq_of_mem_commit? hcommit
      exact .inr hcommit
    · obtain ⟨hbubble, hdest, rfl⟩ := ExMem.eq_of_mem_commit? hcommit
      refine .inl ⟨hcommit, Bool.of_not_eq_true fun hmemToReg => ?_⟩
      exact hload ⟨hbubble, hmemToReg, hdest⟩

/-- An operand of the instruction in execute is the word of its register after the pending writes,
unless the latch behind execute holds a load of this register. Then it is bypassed iff one of the
writes is to its register and this is not `R0`. Nothing else about the instruction matters, the
other operand included. -/
theorem resolve_eq_read (side : OperandSide) (hfull : idEx.isBubble = false)
    (huser : idEx.instruction = some user)
    (hindex : ∀ index ∈ side.register? user, IsIndex index)
    (hvalue : registers.readOperand (side.register? user) = .ok (idEx.value side))
    (hexMem : exMem.Regular) (hmemWb : memWb.Regular)
    (hload : ∀ register ∈ side.register? user, register ≠ 0 → ¬ exMem.LoadsInto register) :
    let operands := resolve idEx exMem memWb
    (∃ written, registers.writeAll (pendingWrites exMem memWb) = .ok written ∧
        written.readOperand (side.register? user) = .ok (operands.value side)) ∧
      (∀ register, (∃ bypass, (side, bypass) ∈ operands.bypasses ∧ bypass.register = register) ↔
        side.register? user = some register ∧ register ≠ 0 ∧
          ∃ value, (register, value) ∈ pendingWrites exMem memWb) ∧
      ∀ (other : IdEx) (otherUser : Instruction), other.isBubble = false →
        other.instruction = some otherUser → side.register? otherUser = side.register? user →
        other.value side = idEx.value side →
          (resolve other exMem memWb).value side = operands.value side ∧
            ∀ bypass, (side, bypass) ∈ (resolve other exMem memWb).bypasses ↔
              (side, bypass) ∈ operands.bypasses := by
  intro operands
  have hread : registers.readOperand (side.register? user) = _ :=
    Registers.readOperand_eq_value hindex
  rw [hvalue, Except.ok.injEq] at hread
  refine ⟨⟨(registers.commit memWb.commit?).commit exMem.commit?, ?_, ?_⟩, ?_, ?_⟩
  · have holder : ∀ entry ∈ memWb.commit?, IsIndex entry.1 := fun entry hentry =>
      hmemWb.dest _ (MemWb.eq_of_mem_commit? hentry).1
    have hnewer : ∀ entry ∈ exMem.commit?, IsIndex entry.1 := fun entry hentry =>
      hexMem.dest _ (ExMem.eq_of_mem_commit? hentry).2.1
    have hdone : (registers.commit memWb.commit?).writeAll (exMem.commit?.toList ++ []) = _ :=
      Registers.writeAll_toList_append hnewer []
    rw [List.append_nil] at hdone
    rw [pendingWrites, Registers.writeAll_toList_append holder, hdone]
    rfl
  · rw [Registers.readOperand_eq_value hindex, value_of_full hfull huser, hread]
    cases hregister : side.register? user with
    | none => rfl
    | some register =>
        rw [value_bypass (hindex register hregister) hexMem.dest hexMem.aluResult hmemWb.dest
          hmemWb.value]
        intro hloads
        by_contra hne
        exact hload register hregister hne hloads
  · intro register
    simp only [operands, mem_bypasses_iff, bypass?_of_full hfull huser, ← Option.mem_def]
    rw [exists_bypass?_iff]
    refine and_congr_right fun hregister => and_congr_right fun hne => ?_
    exact supplies_iff_pending (hload register hregister hne)
  · intro other otherUser hotherFull hotherUser hsame hotherValue
    refine ⟨?_, fun bypass => ?_⟩
    · rw [value_of_full hotherFull hotherUser, value_of_full hfull huser, hsame, hotherValue]
    · rw [mem_bypasses_iff, mem_bypasses_iff, bypass?_of_full hotherFull hotherUser,
        bypass?_of_full hfull huser, hsame]

/-- `ADD R3, R1, R2` in execute. -/
def sum : Instruction where
  opcode := .alu .add
  pc := 8
  text := "ADD R3, R1, R2"
  rd := some 3
  rs := some 1
  rt := some 2
  dest := some 3
  immediate := none
  target := none
  line := some 3

/-- It was decoded when `R1` was 5 and `R2` was zero. -/
def sumIdEx : IdEx where
  instruction := some sum
  rsValue := 5
  rtValue := 0
  dest := sum.dest
  control := .ofOpcode sum.opcode

/-- An older subtraction has -3 for `R1`. -/
def sumExMem : ExMem where
  instruction := some { sum with opcode := .alu .sub, dest := some 1 }
  aluResult := -3
  dest := some 1
  control := .ofOpcode (.alu .sub)

/-- A load before it has 7, also for `R1`. -/
def sumMemWb : MemWb where
  instruction := some { sum with opcode := .lw, dest := some 1 }
  value := 7
  dest := some 1
  control := .ofOpcode .lw

/-- The newer word counts. -/
theorem resolve_sum :
    let registers := Registers.zero.commit (some (1, 5))
    sumIdEx.isBubble = false ∧ registers.readOperand sum.rs = .ok (sumIdEx.value .a) ∧
      pendingWrites sumExMem sumMemWb = [(1, 7), (1, -3)] ∧
      (∃ written, registers.writeAll (pendingWrites sumExMem sumMemWb) = .ok written ∧
        written.readOperand sum.rs = .ok (-3)) ∧
      ∃ bypass, (OperandSide.a, bypass) ∈ (resolve sumIdEx sumExMem sumMemWb).bypasses ∧
        bypass.register = 1 := by
  intro registers
  have hfull : sumIdEx.isBubble = false := rfl
  have hindex : ∀ index ∈ OperandSide.a.register? sum, IsIndex index := by
    rintro _ ⟨⟩
    decide
  have hvalue : registers.readOperand (OperandSide.a.register? sum) = .ok (sumIdEx.value .a) := rfl
  have hexMem : sumExMem.Regular := ⟨by rintro _ ⟨⟩; decide, by decide⟩
  have hmemWb : sumMemWb.Regular := ⟨by rintro _ ⟨⟩; decide, by decide⟩
  have hload : ∀ register ∈ OperandSide.a.register? sum, register ≠ 0 →
      ¬ sumExMem.LoadsInto register := by
    rintro _ - - ⟨-, hmemToReg, -⟩
    contradiction
  obtain ⟨hread, hbypass, -⟩ :=
    resolve_eq_read .a hfull rfl hindex hvalue hexMem hmemWb hload
  have hpending : pendingWrites sumExMem sumMemWb = [(1, 7), (1, -3)] := rfl
  refine ⟨hfull, hvalue, hpending, hread, (hbypass 1).2 ⟨rfl, by decide, -3, ?_⟩⟩
  rw [hpending]
  decide

end Operands

end Pipeline

end FiveStage
