import FiveStage.Proofs.Pipeline.InFlight

/-!
# Decode and execute

Decode never faults on a well-formed instruction: it waits for a load or reads its operands
(`decode_eq`). Nor does execute, which finds a name for what it bypasses (`nameable_execute`). What
was read may be out of date when the instruction is executed, but execute bypasses exactly what is
missing. So an instruction that did not have to wait is executed on the operands that the sequential
machine has in its slot (`value_of_spans`), and everything that execute puts out is what that
machine computes.
-/

namespace FiveStage.Pipeline

open Registers (IsIndex)
open FiveStage.Sequential.State (needs)

/-! ## Decode -/

/-- The load that an instruction in front of decode has to wait for. -/
def IfId.wait? (latch : IfId) (idEx : IdEx) : Option Int :=
  latch.instruction.bind fun instruction => loadUse? instruction idEx

/-- On well-formed instructions decode waits or issues, and has no faults. -/
theorem decode_eq (registers : Registers) {ifId : IfId} (idEx : IdEx)
    (hformed : ∀ instruction ∈ ifId.instruction, instruction.WellFormed) :
    decode registers ifId idEx =
      .ok ((ifId.wait? idEx).elim (.issue (.ofSlot registers ifId.pc ifId.instruction))
        .stall) := by
  obtain ⟨slot, pc⟩ := ifId
  cases slot with
  | none => rfl
  | some instruction =>
      have hinstruction := hformed instruction rfl
      by_cases hnop : instruction.opcode = .nop
      · have hsources : instruction.sources = [] := by simp [Instruction.sources, hnop]
        have hwait : loadUse? instruction idEx = none := by
          cases hload : loadUse? instruction idEx with
          | none => rfl
          | some register =>
              have hmem := (mem_sources_of_loadUse? hload).2.2
              rw [hsources] at hmem
              contradiction
        simp [decode, IfId.isBubble, IfId.wait?, hnop, hwait, IdEx.ofSlot]
      · simp only [decode, IfId.isBubble, Option.all_some, hnop, decide_false, IfId.wait?,
          Option.bind_some]
        cases hload : loadUse? instruction idEx with
        | some register =>
            have hreads := (mem_sources_of_loadUse? hload).2.2
            have hnamed := (hinstruction.isIndex_of_mem_sources hreads).writable
            simp [hnamed]
        | none =>
            simp [Registers.readOperand_eq_value hinstruction.rs,
              Registers.readOperand_eq_value hinstruction.rt, IdEx.ofSlot, hnop]

@[simp] theorem loadUse?_empty (user : Instruction) : loadUse? user {} = none := rfl

@[simp] theorem IfId.wait?_empty (latch : IfId) : latch.wait? {} = none := by
  cases h : latch.instruction <;> simp [IfId.wait?, h]

/-- Waiting is for loads whose word is needed, and for nothing else. -/
theorem isSome_loadUse?_ofSlot {registers : Registers} {pc : Int} {slot : Option Instruction}
    {user : Instruction} (hformed : ∀ load ∈ slot, load.WellFormed) :
    (loadUse? user (.ofSlot registers pc slot)).isSome =
      slot.any fun load => needs load user := by
  cases slot with
  | none => rfl
  | some load =>
      have hload := hformed load rfl
      have hknown := hload.known
      cases hopcode : load.opcode with
      | lw =>
          have hdest : load.dest = load.rt := hload.loadDest hopcode
          cases hrt : load.rt with
          | none =>
              simp [loadUse?, IdEx.ofSlot, IdEx.isBubble, hopcode, Control.ofOpcode, hdest, hrt,
                needs]
          | some register =>
              simp [loadUse?, IdEx.ofSlot, IdEx.isBubble, hopcode, Control.ofOpcode, hdest, hrt,
                needs, Option.filter]
              split <;> simp_all
      | other name => exact absurd hopcode (hknown name)
      | nop => simp [loadUse?, IdEx.ofSlot, hopcode, needs]
      | alu op => simp [loadUse?, IdEx.ofSlot, hopcode, Control.ofOpcode, needs]
      | sw => simp [loadUse?, IdEx.ofSlot, hopcode, Control.ofOpcode, needs]
      | beq => simp [loadUse?, IdEx.ofSlot, hopcode, Control.ofOpcode, needs]

/-! ## Execute -/

theorem operands_execute (latches : Latches) :
    (execute latches).operands = .resolve latches.idEx latches.exMem latches.memWb := by
  rw [execute]
  dsimp only
  split <;> rfl

/-- Only registers in the operand fields of an instruction are bypassed for it. -/
theorem Operands.exists_of_mem_bypasses {idEx : IdEx} {exMem : ExMem} {memWb : MemWb}
    {entry : OperandSide × Bypass} (h : entry ∈ (resolve idEx exMem memWb).bypasses) :
    ∃ user ∈ idEx.instruction, user.rs = some entry.2.register ∨
      user.rt = some entry.2.register := by
  rw [resolve] at h
  split at h
  · contradiction
  · obtain hrs | hrt := List.mem_append.1 h
    · obtain ⟨bypass, hbypass, rfl⟩ := Option.map_eq_some_iff.1 (Option.mem_toList.1 hrs)
      obtain ⟨user, huser, hfield⟩ := Option.bind_eq_some_iff.1 (register_of_bypass? hbypass)
      exact ⟨user, huser, .inl hfield⟩
    · obtain ⟨bypass, hbypass, rfl⟩ := Option.map_eq_some_iff.1 (Option.mem_toList.1 hrt)
      obtain ⟨user, huser, hfield⟩ := Option.bind_eq_some_iff.1 (register_of_bypass? hbypass)
      exact ⟨user, huser, .inr hfield⟩

/-- What execute bypasses for a well-formed instruction can be logged. -/
theorem nameable_execute {latches : Latches}
    (hformed : ∀ user ∈ latches.idEx.instruction, user.WellFormed) :
    (execute latches).operands.Nameable := by
  intro entry hentry
  rw [operands_execute] at hentry
  obtain ⟨user, huser, hfield | hfield⟩ := Operands.exists_of_mem_bypasses hentry
  · exact ((hformed user huser).rs _ hfield).writable
  · exact ((hformed user huser).rt _ hfield).writable

theorem execute_of_isBubble (latches : Latches) (h : latches.idEx.isBubble = true) :
    (execute latches).latch = {} ∧ (execute latches).branched = false ∧
      (execute latches).taken = false := by
  simp [execute, h]

variable {program : Program} {start : Sequential.State} {retired accessed j : Nat}
  {latches : Latches} {instruction : Instruction} {pc : Int}

/-- An operand that an instruction reads is, after bypassing, the word that the sequential
machine finds in its slot. -/
theorem value_of_spans {operand : Option Int}
    (hmemWb : MemWb.Spans program start retired accessed latches.memWb)
    (hexMem : ExMem.Spans program start accessed j latches.exMem)
    (hmemory : start.memory.Sound) (hslot : start.slot? program j = some instruction)
    (hinterlock : accessed < j → start.isLoadUse program accessed = false)
    (hindex : ∀ register ∈ operand, IsIndex register)
    (hreads : ∀ register ∈ operand, register ∈ instruction.sources) :
    ((bypass? latches.exMem latches.memWb operand).map (·.value)).getD
        ((start.path program retired).registers.value operand) =
      (start.path program j).operand operand := by
  cases operand with
  | none => rfl
  | some register =>
      have hregister := hindex register rfl
      have hload : latches.exMem.LoadsInto register → register = 0 := by
        intro hloads
        obtain ⟨rfl, load, hloadSlot, hopcode, hrt⟩ := ExMem.slot?_of_loadsInto hexMem hloads
        have hfree := hinterlock (Nat.lt_succ_self accessed)
        rw [Sequential.State.isLoadUse, hloadSlot, hslot] at hfree
        have hsource := hreads register rfl
        simpa [needs, hopcode, hrt, hsource] using hfree
      rw [value_bypass hregister (ExMem.isIndex_of_spans hexMem) (ExMem.inRange_of_spans hexMem)
        (MemWb.isIndex_of_spans hmemWb) (MemWb.inRange_of_spans hmemWb hmemory) hload,
        MemWb.commit_of_spans hmemWb, ExMem.value_commit_of_spans hexMem hregister hload]
      rfl

theorem mem_sources_of_mem_rs (hformed : instruction.WellFormed)
    (hnop : instruction.opcode ≠ .nop) {register : Int} (h : register ∈ instruction.rs) :
    register ∈ instruction.sources := by
  have hrs : register ∈ instruction.rs.toList := by simpa using h
  cases hopcode : instruction.opcode with
  | nop => exact absurd hopcode hnop
  | other name => exact absurd hopcode (hformed.known name)
  | lw => simpa [Instruction.sources, hopcode] using hrs
  | alu op => simp [Instruction.sources, hopcode, hrs]
  | sw => simp [Instruction.sources, hopcode, hrs]
  | beq => simp [Instruction.sources, hopcode, hrs]

theorem mem_sources_of_mem_rt (hformed : instruction.WellFormed)
    (hnop : instruction.opcode ≠ .nop) (hload : instruction.opcode ≠ .lw) {register : Int}
    (h : register ∈ instruction.rt) : register ∈ instruction.sources := by
  have hrt : register ∈ instruction.rt.toList := by simpa using h
  cases hopcode : instruction.opcode with
  | nop => exact absurd hopcode hnop
  | other name => exact absurd hopcode (hformed.known name)
  | lw => exact absurd hopcode hload
  | alu op => simp [Instruction.sources, hopcode, hrt]
  | sw => simp [Instruction.sources, hopcode, hrt]
  | beq => simp [Instruction.sources, hopcode, hrt]

theorem isBranch_ofOpcode (opcode : Opcode) :
    (Control.ofOpcode opcode).isBranch = decide (opcode = .beq) := by
  cases opcode <;> simp [Control.ofOpcode, Control.nop]

theorem useImmediate_of_lw_or_sw (h : instruction.opcode = .lw ∨ instruction.opcode = .sw) :
    (Control.ofOpcode instruction.opcode).useImmediate = true := by
  rcases h with h | h <;> simp [h, Control.ofOpcode]

/-- Execute puts out what the sequential machine computes in the slot. -/
theorem carries_execute
    (hmemWb : MemWb.Spans program start retired accessed latches.memWb)
    (hexMem : ExMem.Spans program start accessed j latches.exMem)
    (hmemory : start.memory.Sound) (hslot : start.slot? program j = some instruction)
    (hformed : instruction.WellFormed) (hnop : instruction.opcode ≠ .nop)
    (hinterlock : accessed < j → start.isLoadUse program accessed = false)
    (hidEx : latches.idEx =
      .ofSlot (start.path program retired).registers pc (some instruction)) :
    (execute latches).latch.Carries (start.path program j) instruction ∧
      (execute latches).branched = decide (instruction.opcode = .beq) ∧
      (execute latches).taken = (start.path program j).takes instruction ∧
      (execute latches).latch.target = instruction.target := by
  have hbubble : latches.idEx.isBubble = false := by
    rw [hidEx, IdEx.ofSlot, if_neg hnop]
    exact Control.isNop_ofOpcode hformed hnop
  have hcontrol : latches.idEx.control = .ofOpcode instruction.opcode := by
    rw [hidEx, IdEx.ofSlot, if_neg hnop]
  have hrs : (Operands.resolve latches.idEx latches.exMem latches.memWb).rsValue =
      (start.path program j).operand instruction.rs := by
    rw [← value_of_spans hmemWb hexMem hmemory hslot hinterlock hformed.rs
      fun _ => mem_sources_of_mem_rs hformed hnop]
    rw [Operands.resolve, hbubble, hidEx, IdEx.ofSlot, if_neg hnop]
    rfl
  have hrt (hload : instruction.opcode ≠ .lw) :
      (Operands.resolve latches.idEx latches.exMem latches.memWb).rtValue =
        (start.path program j).operand instruction.rt := by
    rw [← value_of_spans hmemWb hexMem hmemory hslot hinterlock hformed.rt
      fun _ => mem_sources_of_mem_rt hformed hnop hload]
    rw [Operands.resolve, hbubble, hidEx, IdEx.ofSlot, if_neg hnop]
    rfl
  -- The second operand is bypassed too, but a load and a store put an immediate in its place.
  have hb : (if latches.idEx.control.useImmediate then latches.idEx.immediate.getD 0
        else (Operands.resolve latches.idEx latches.exMem latches.memWb).rtValue) =
      if (Control.ofOpcode instruction.opcode).useImmediate then instruction.immediate.getD 0
        else (start.path program j).operand instruction.rt := by
    rw [hcontrol]
    split
    · rw [hidEx, IdEx.ofSlot, if_neg hnop]
    · rename_i himmediate
      exact hrt fun hload => himmediate (useImmediate_of_lw_or_sw (.inl hload))
  simp only [execute, hbubble, Bool.false_eq_true, if_false, hb, hrs]
  refine ⟨⟨?_, hcontrol, ?_, ?_, ?_⟩, ?_, ?_, ?_⟩
  · rw [hidEx, IdEx.ofSlot, if_neg hnop]
  · rw [hidEx, IdEx.ofSlot, if_neg hnop]
  · rw [hcontrol]
    rfl
  · intro hstore
    exact hrt (by simp [hstore])
  · rw [hcontrol, isBranch_ofOpcode]
  · rw [hcontrol, isBranch_ofOpcode, Sequential.State.takes]
    cases hopcode : instruction.opcode <;> simp [Control.ofOpcode]
  · rw [hidEx, IdEx.ofSlot, if_neg hnop]

theorem takes_of_slot? (h : start.slot? program j = some instruction) :
    (start.path program j).takes instruction = start.isTaken program j := by
  rw [Sequential.State.isTaken_eq_path, ← Sequential.State.slot?_eq_path, h]
  rfl

/-- A taken branch goes where the path goes. -/
theorem target_of_takes (hslot : start.slot? program j = some instruction)
    (hformed : instruction.WellFormed)
    (htakes : (start.path program j).takes instruction = true) :
    instruction.target = some (start.path program (j + 1)).pc := by
  rw [path_succ_of_slot? hslot, Sequential.State.pc_execute, if_pos htakes]
  simp only [Sequential.State.takes, Bool.and_eq_true, decide_eq_true_eq] at htakes
  obtain ⟨address, htarget, -⟩ := hformed.target htakes.1
  rw [htarget]
  rfl

/-- Execute takes a decoded slot on, and resolves it if it is a branch. -/
theorem execute_of_spans (hprogram : program.WellFormed)
    (hmemWb : MemWb.Spans program start retired accessed latches.memWb)
    (hexMem : ExMem.Spans program start accessed j latches.exMem)
    (hmemory : start.memory.Sound)
    (hinterlock : accessed < j → start.isLoadUse program accessed = false)
    (hidEx : latches.idEx =
      .ofSlot (start.path program retired).registers pc (start.slot? program j)) :
    ExMem.Spans program start j (j + 1) (execute latches).latch ∧
      (execute latches).branched = start.isBranch program j ∧
      (execute latches).taken = start.isTaken program j ∧
      (start.isTaken program j = true →
        (execute latches).latch.target = some (start.path program (j + 1)).pc) := by
  rcases slot_cases start hprogram j with
    hidle | ⟨instruction, hslot, hnop, hformed⟩
  · have hempty : latches.idEx = {} := by
      rw [hidEx]
      cases hslot : start.slot? program j with
      | none => rfl
      | some instruction =>
          have hnop : instruction.opcode = .nop := by
            simpa [Sequential.State.isWork, hslot] using hidle
          simp [IdEx.ofSlot, hnop]
    have htaken := Sequential.State.isTaken_of_not_isWork hidle
    obtain ⟨hlatch, hbranched, htakes⟩ :=
      execute_of_isBubble latches (by rw [hempty]; rfl)
    rw [hlatch, hbranched, htakes, htaken]
    refine ⟨.idle hidle, ?_, rfl, fun h => by contradiction⟩
    cases hbranch : start.isBranch program j with
    | false => rfl
    | true => rw [Sequential.State.isWork_of_isBranch hbranch] at hidle; contradiction
  · rw [hslot] at hidEx
    obtain ⟨hcarries, hbranched, htaken, htarget⟩ :=
      carries_execute hmemWb hexMem hmemory hslot hformed hnop hinterlock hidEx
    refine ⟨.work hslot hnop hformed hcarries, ?_, ?_, ?_⟩
    · rw [hbranched, Sequential.State.isBranch, hslot]
      rfl
    · rw [htaken, takes_of_slot? hslot]
    · intro htakes
      rw [htarget]
      exact target_of_takes hslot hformed (by rw [takes_of_slot? hslot]; exact htakes)

end FiveStage.Pipeline
