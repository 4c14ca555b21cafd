import FiveStage.Proofs.Pipeline.Forwards
import FiveStage.Proofs.Pipeline.Order

/-!
# The interlock of loads

A load has its word only at the end of the cycle that it spends behind execute, too late for an
instruction in execute. No bypass helps there. So an instruction that needs the word must not be in
execute in that cycle (`Latches.Interlocked`), and every cycle sees to it for the next one
(`State.interlocked_step`).

This is the work of decode. It looks at the load while that is in execute, and waits exactly if the
instruction in it would be too close behind the load (`State.stalled_step_iff`).
-/

namespace FiveStage.Pipeline

namespace Latches

/-- No instruction in execute reads a register other than `R0` that a load behind it is still
fetching. -/
def Interlocked (latches : Latches) : Prop :=
  ∀ register, latches.exMem.LoadsInto register → register ≠ 0 →
    ∀ user ∈ latches.occupant? .execute, register ∉ user.sources

/-- The newest instruction behind execute that writes the register, and the stage that it is in. -/
def newestWriter? (latches : Latches) (register : Int) : Option (Stage × Instruction) :=
  (((latches.occupant? .memory).filter (·.Writes register)).map (.memory, ·)).or
    (((latches.occupant? .writeBack).filter (·.Writes register)).map (.writeBack, ·))

end Latches

/-- The latches after a cycle, had decode not waited in it. -/
def State.unwaited (program : Program) (state : State) : Latches :=
  let after := (state.step program).1
  { after.latches with
    idEx := .ofSlot after.core.registers state.latches.ifId.pc state.latches.ifId.instruction }

/-! ## Latches -/

variable {latches : Latches} {register : Int}

theorem loadUse?_eq_some_iff {user : Instruction} {idEx : IdEx} :
    loadUse? user idEx = some register ↔
      idEx.isBubble = false ∧ idEx.control.memRead = true ∧ idEx.dest = some register ∧
        register ≠ 0 ∧ register ∈ user.sources := by
  rw [loadUse?]
  cases hbubble : idEx.isBubble <;> cases hread : idEx.control.memRead <;>
    simp [Option.filter_eq_some_iff]

/-- Loads are what reads memory, and what writes back a word out of it. -/
theorem Genuine.memRead_eq_memToReg {slot : Option Instruction} {control : Control}
    {dest : Option Int} (h : Genuine slot control dest) : control.memRead = control.memToReg := by
  cases h with
  | empty => rfl
  | @carry instruction _ => cases instruction.opcode <;> rfl

theorem loadsInto_execute_iff (latches : Latches) :
    (execute latches).latch.LoadsInto register ↔
      latches.idEx.isBubble = false ∧ latches.idEx.control.memToReg = true ∧
        latches.idEx.dest = some register := by
  rw [execute]
  dsimp only
  split
  · rename_i hbubble
    simp [ExMem.LoadsInto, hbubble]
  · rfl

/-- An instruction waits for what the load in execute will be fetching behind it. -/
theorem loadUse?_eq_some_iff_loadsInto (h : latches.WellFormed) {user : Instruction} :
    loadUse? user latches.idEx = some register ↔
      (execute latches).latch.LoadsInto register ∧ register ≠ 0 ∧ register ∈ user.sources := by
  rw [loadUse?_eq_some_iff, loadsInto_execute_iff, h.idEx.memRead_eq_memToReg]
  simp only [and_assoc]

theorem mem_occupant?_decode {user : Instruction} (huser : user ∈ latches.ifId.instruction)
    (hreads : register ∈ user.sources) : user ∈ latches.occupant? .decode := by
  have hnop : user.opcode ≠ .nop := by
    intro hnop
    rw [Instruction.sources, hnop] at hreads
    contradiction
  refine occupying_eq_some_iff.2 ⟨?_, huser⟩
  rw [IfId.isBubble, huser, Option.all_some]
  exact decide_eq_false hnop

theorem Latches.interlocked_of_idEx_empty (h : latches.idEx = {}) : latches.Interlocked := by
  intro register _ _ user huser
  rw [occupant?, h] at huser
  contradiction

theorem Genuine.opcode_eq_lw {slot : Option Instruction} {control : Control} {dest : Option Int}
    (h : Genuine slot control dest) {load : Instruction} (hload : load ∈ slot)
    (hopcode : load.opcode = .lw) : control.memToReg = true ∧ dest = load.dest := by
  cases h with
  | empty => contradiction
  | carry =>
      obtain rfl := Option.some.inj hload
      rw [hopcode]
      exact ⟨rfl, rfl⟩

/-- In interlocked latches, the newest instruction that writes what the one in execute reads is not
a load that has not read memory yet. -/
theorem Latches.Interlocked.opcode_newestWriter? (hlocked : latches.Interlocked)
    (h : latches.WellFormed) {user older : Instruction} (huser : user ∈ latches.occupant? .execute)
    (hreads : register ∈ user.sources) (hne : register ≠ 0)
    (holder : latches.newestWriter? register = some (.memory, older)) : older.opcode ≠ .lw := by
  intro hopcode
  -- The instruction next behind execute is the newest, whatever there is in write-back.
  have hwriter : (latches.occupant? .memory).filter (·.Writes register) = some older := by
    rw [newestWriter?] at holder
    cases hmemory : (latches.occupant? .memory).filter (·.Writes register) with
    | some found => simpa [hmemory] using holder
    | none => simp [hmemory] at holder
  obtain ⟨hoccupant, hwrites⟩ := Option.filter_eq_some_iff.1 hwriter
  obtain ⟨hbubble, hslot⟩ := occupying_eq_some_iff.1 hoccupant
  obtain ⟨hload, hdest⟩ := h.exMem.opcode_eq_lw hslot hopcode
  have hloads : latches.exMem.LoadsInto register :=
    ⟨hbubble, hload, hdest.trans (of_decide_eq_true hwrites).1⟩
  exact hlocked register hloads hne user huser hreads

namespace State

variable {program : Program} {state : State}

/-- Decode waits if the instruction in it reads what the load in execute will be fetching. An
operation without effect is not in decode, and reads nothing either. -/
theorem isStall_decoded_iff (h : state.latches.WellFormed) :
    state.decoded.isStall = true ↔
      ∃ register, (execute state.latches).latch.LoadsInto register ∧ register ≠ 0 ∧
        ∃ user ∈ state.latches.occupant? .decode, register ∈ user.sources := by
  have hwaits : state.decoded.isStall = true ↔
      ∃ register, state.latches.ifId.wait? state.latches.idEx = some register := by
    rw [← Option.isSome_iff_exists, decoded]
    cases state.latches.ifId.wait? state.latches.idEx <;> rfl
  rw [hwaits]
  refine exists_congr fun register => ?_
  rw [IfId.wait?, Option.bind_eq_some_iff]
  simp only [loadUse?_eq_some_iff_loadsInto h]
  constructor
  · rintro ⟨user, huser, hloads, hne, hreads⟩
    exact ⟨hloads, hne, user, mem_occupant?_decode huser hreads, hreads⟩
  · rintro ⟨hloads, hne, user, huser, hreads⟩
    exact ⟨user, (occupying_eq_some_iff.1 huser).2, hloads, hne, hreads⟩

section

variable (h : state.latches.WellFormed) (hlive : state.core.halted = false)
include h hlive

theorem registers_step_of_live :
    (state.step program).1.core.registers =
      (retire state.core state.latches.memWb).registers := by
  rw [step_of_live h hlive, registers_advance, registers_behind]

/-- Decode waits in a cycle if and only if the instruction in it would be in execute after the
cycle with a load behind it that is still fetching what it reads. -/
theorem stalled_step_iff :
    (state.step program).1.snapshot.stalled = true ↔ ¬ (state.unwaited program).Interlocked := by
  have hexMem : (state.unwaited program).exMem = (execute state.latches).latch :=
    exMem_step_of_live h hlive
  have hoccupant : (state.unwaited program).occupant? .execute = state.latches.occupant? .decode :=
    occupying_ofSlot h.ifId
  rw [stalled_step_of_live h hlive, isStall_decoded_iff h, Latches.Interlocked, hexMem, hoccupant]
  push Not
  rfl

/-- What decode hands on does not read what a load is fetching behind execute. -/
theorem interlocked_step_of_live : (state.step program).1.latches.Interlocked := by
  have hidEx : (state.step program).1.latches.idEx = _ := idEx_step_of_live h hlive
  -- A flush or a wait leaves execute empty. Any other cycle is one in which decode did not wait.
  cases htaken : (execute state.latches).taken with
  | true =>
      rw [htaken, if_pos rfl] at hidEx
      exact Latches.interlocked_of_idEx_empty hidEx
  | false =>
      rw [htaken, if_neg Bool.false_ne_true] at hidEx
      cases hstall : state.decoded.isStall with
      | true =>
          rw [latch_of_isStall hstall] at hidEx
          exact Latches.interlocked_of_idEx_empty hidEx
      | false =>
          have hunwaited : state.unwaited program = (state.step program).1.latches := by
            rw [unwaited, registers_step_of_live h hlive, ← latch_decoded_of_issue hstall, ← hidEx]
          have hstalled : (state.step program).1.snapshot.stalled = false :=
            (stalled_step_of_live h hlive).trans hstall
          rw [← hunwaited]
          by_contra hnot
          rw [(stalled_step_iff h hlive).2 hnot] at hstalled
          contradiction

end

/-- A cycle leaves the latches interlocked, and a halted machine does not touch them. -/
theorem interlocked_step (h : state.latches.WellFormed) (hlocked : state.latches.Interlocked) :
    (state.step program).1.latches.Interlocked := by
  cases hhalted : state.core.halted with
  | true =>
      rw [step_of_halted hhalted]
      exact hlocked
  | false => exact interlocked_step_of_live h hhalted

end State

end FiveStage.Pipeline
