import FiveStage.Proofs.Pipeline.CycleLog

/-!
# Forwards and dependences

Two places decide which registers an instruction reads. Decode goes by the operation
(`Instruction.sources`), execute by the operand fields. The two agree for every operation but
one: the second operand field of a load names its destination, which a load does not read.

So execute bypasses an operand whenever an older instruction is about to write the register in
its field (`State.forwards_step_iff`), and this is more than the dependences (`Latches.Depends`).
The difference is exactly the load that is about to overwrite such a register
(`State.exact_step_iff`). The bypassed word is used for nothing there, but it is logged and
counted like any other.
-/

namespace FiveStage

/-- The instruction has a result for the register. -/
def Instruction.Writes (instruction : Instruction) (register : Int) : Prop :=
  instruction.dest = some register ∧ (Control.ofOpcode instruction.opcode).regWrite = true

instance (instruction : Instruction) (register : Int) : Decidable (instruction.Writes register) :=
  inferInstanceAs (Decidable (_ ∧ _))

namespace Pipeline

/-- The register in the field of an operand. -/
def OperandSide.register? (instruction : Instruction) : OperandSide → Option Int
  | .a => instruction.rs
  | .b => instruction.rt

/-- The log shows that an operand was bypassed for a register. -/
def Snapshot.Forwards (snapshot : Snapshot) (side : OperandSide) (register : Int) : Prop :=
  ∃ event ∈ snapshot.events, event.Feeds side ∧ event.register? = some register

instance (snapshot : Snapshot) (side : OperandSide) (register : Int) :
    Decidable (snapshot.Forwards side register) :=
  inferInstanceAs (Decidable (∃ event ∈ snapshot.events, _ ∧ _))

namespace Latches

/-- An instruction behind execute has a word for the register: one in the next latch, unless it
is a load, or one in the last. -/
def Produces (latches : Latches) (register : Int) : Prop :=
  (∃ older ∈ latches.exMem.instruction,
    latches.exMem.isBubble = false ∧ older.opcode ≠ .lw ∧ older.Writes register) ∨
  ∃ older ∈ latches.memWb.instruction, latches.memWb.isBubble = false ∧ older.Writes register

/-- An operand field of the instruction in execute names a register that an older instruction
has a word for. -/
def Names (latches : Latches) (user : Instruction) (side : OperandSide) (register : Int) : Prop :=
  latches.idEx.isBubble = false ∧ side.register? user = some register ∧ register ≠ 0 ∧
    latches.Produces register

/-- The instruction in execute reads as an operand what an older instruction has a word for. -/
def Depends (latches : Latches) (side : OperandSide) (register : Int) : Prop :=
  ∃ user ∈ latches.idEx.instruction,
    latches.Names user side register ∧ register ∈ user.sources

instance (latches : Latches) (register : Int) : Decidable (latches.Produces register) :=
  inferInstanceAs (Decidable ((∃ older ∈ latches.exMem.instruction, _ ∧ _ ∧ _) ∨
    ∃ older ∈ latches.memWb.instruction, _ ∧ _))

instance (latches : Latches) (user : Instruction) (side : OperandSide) (register : Int) :
    Decidable (latches.Names user side register) :=
  inferInstanceAs (Decidable (_ ∧ _ ∧ _ ∧ _))

instance (latches : Latches) (side : OperandSide) (register : Int) :
    Decidable (latches.Depends side register) :=
  inferInstanceAs (Decidable (∃ user ∈ latches.idEx.instruction, _ ∧ _))

end Latches

/-! ## What is bypassed -/

/-- The latch behind execute has a word for a register unless the instruction in it is a load,
which gets its word only now. -/
theorem ExMem.supplies_iff_writes {latch : ExMem} {register : Int}
    (h : Genuine latch.instruction latch.control latch.dest) :
    latch.supplies register = true ↔
      ∃ older ∈ latch.instruction,
        latch.isBubble = false ∧ older.opcode ≠ .lw ∧ older.Writes register := by
  obtain ⟨slot, pc, aluResult, storeValue, dest, control, branchTaken, target⟩ := latch
  dsimp only at h
  cases h with
  | empty => simp [ExMem.supplies, ExMem.isBubble]
  | @carry older =>
      cases hopcode : older.opcode <;>
        simp [ExMem.supplies, ExMem.isBubble, Instruction.Writes, Control.ofOpcode, Control.nop,
          hopcode]

theorem MemWb.supplies_iff_writes {latch : MemWb} {register : Int}
    (h : Genuine latch.instruction latch.control latch.dest) :
    latch.supplies register = true ↔
      ∃ older ∈ latch.instruction, latch.isBubble = false ∧ older.Writes register := by
  obtain ⟨slot, pc, value, dest, control⟩ := latch
  dsimp only at h
  cases h with
  | empty => simp [MemWb.supplies, MemWb.isBubble]
  | @carry older =>
      cases hopcode : older.opcode <;>
        simp [MemWb.supplies, MemWb.isBubble, Instruction.Writes, Control.ofOpcode, Control.nop,
          hopcode]

theorem Latches.WellFormed.supplies_iff_produces {latches : Latches} (h : latches.WellFormed)
    (register : Int) :
    latches.exMem.supplies register = true ∨ latches.memWb.supplies register = true ↔
      latches.Produces register := by
  rw [Latches.Produces, ExMem.supplies_iff_writes h.exMem, MemWb.supplies_iff_writes h.memWb]

theorem exists_bypass?_iff {exMem : ExMem} {memWb : MemWb} {operand : Option Int}
    {register : Int} :
    (∃ bypass ∈ bypass? exMem memWb operand, bypass.register = register) ↔
      operand = some register ∧ register ≠ 0 ∧
        (exMem.supplies register = true ∨ memWb.supplies register = true) := by
  cases operand with
  | none => simp
  | some index =>
      rw [bypass?, Option.some_inj]
      constructor
      · rintro ⟨bypass, hbypass, rfl⟩
        split at hbypass
        · contradiction
        · split at hbypass
          · cases hbypass
            exact ⟨rfl, by assumption, .inl (by assumption)⟩
          · split at hbypass
            · cases hbypass
              exact ⟨rfl, by assumption, .inr (by assumption)⟩
            · contradiction
      · rintro ⟨rfl, hne, hsupplies⟩
        rw [if_neg hne]
        split
        · exact ⟨_, rfl, rfl⟩
        · rw [if_pos (hsupplies.resolve_left (by assumption))]
          exact ⟨_, rfl, rfl⟩

theorem Operands.bypass?_resolve (idEx : IdEx) (exMem : ExMem) (memWb : MemWb)
    (side : OperandSide) :
    (Operands.resolve idEx exMem memWb).bypass? side =
      if idEx.isBubble then none
      else
        Pipeline.bypass? exMem memWb (idEx.instruction.bind fun user => side.register? user) := by
  rw [Operands.resolve]
  split <;> cases side <;> rfl

namespace State

variable {program : Program} {state : State} {side : OperandSide} {register : Int}

/-- The events of an operand tell of its bypass. -/
theorem mem_feeds_iff (h : state.latches.WellFormed) (hlive : state.core.halted = false)
    {event : Event} :
    event ∈ (state.step program).1.snapshot.events ∧ event.Feeds side ↔
      ∃ bypass ∈ (execute state.latches).operands.bypass? side,
        .forward (state.core.counters.cycles + 1) side bypass.register bypass.source = event := by
  calc
    _ ↔ event ∈ (state.step program).1.snapshot.events.filter fun event => event.Feeds side := by
      rw [List.mem_filter, decide_eq_true_eq]
    _ ↔ _ := by
      rw [filter_feeds_of_live h hlive, Option.mem_toList, Option.map_eq_some_iff]
      rfl

/-- What a cycle logs of an operand is its bypass. -/
theorem forwards_iff_exists_bypass (h : state.latches.WellFormed)
    (hlive : state.core.halted = false) :
    (state.step program).1.snapshot.Forwards side register ↔
      ∃ bypass ∈ (execute state.latches).operands.bypass? side, bypass.register = register := by
  constructor
  · rintro ⟨event, hevent, hfeeds, hregister⟩
    obtain ⟨bypass, hbypass, rfl⟩ := (mem_feeds_iff h hlive).1 ⟨hevent, hfeeds⟩
    exact ⟨bypass, hbypass, Option.some_inj.1 hregister⟩
  · rintro ⟨bypass, hbypass, rfl⟩
    obtain ⟨hevent, hfeeds⟩ := (mem_feeds_iff h hlive).2 ⟨bypass, hbypass, rfl⟩
    exact ⟨_, hevent, hfeeds, rfl⟩

/-- A cycle logs a bypass of an operand iff its field names a register that an older
instruction has a word for. -/
theorem forwards_step_iff (h : state.latches.WellFormed) (hlive : state.core.halted = false) :
    (state.step program).1.snapshot.Forwards side register ↔
      ∃ user ∈ state.latches.idEx.instruction, state.latches.Names user side register := by
  rw [forwards_iff_exists_bypass h hlive, operands_execute, Operands.bypass?_resolve]
  cases hbubble : state.latches.idEx.isBubble with
  | true => simp [Latches.Names, hbubble]
  | false =>
      rw [if_neg Bool.false_ne_true, exists_bypass?_iff, h.supplies_iff_produces,
        Option.bind_eq_some_iff]
      simp only [Latches.Names, hbubble, true_and, Option.mem_def]
      constructor
      · rintro ⟨⟨user, huser, hregister⟩, hproduces⟩
        exact ⟨user, huser, hregister, hproduces⟩
      · rintro ⟨user, huser, hregister, hproduces⟩
        exact ⟨⟨user, huser, hregister⟩, hproduces⟩

end State

/-! ## What is bypassed without being read -/

/-- In execute is a load, and its destination is a register that it does not read and that an older
instruction has a word for. -/
def Latches.Overwrites (latches : Latches) (register : Int) : Prop :=
  ∃ load ∈ latches.idEx.instruction,
    load.opcode = .lw ∧ register ∉ load.sources ∧ latches.Names load .b register

theorem Genuine.opcode_ne {instruction : Option Instruction} {control : Control}
    {dest : Option Int} (h : Genuine instruction control dest) (hcontrol : control.isNop = false) :
    ∀ user ∈ instruction, user.opcode ≠ .nop ∧ ∀ name, user.opcode ≠ .other name := by
  cases h with
  | empty => simp
  | @carry user hformed =>
      rintro _ ⟨⟩
      refine ⟨?_, hformed.known⟩
      intro hnop
      rw [hnop] at hcontrol
      contradiction

/-- An instruction with an effect reads its operand fields, but for the second one of a load. -/
theorem mem_sources_or_load {user : Instruction} (hnop : user.opcode ≠ .nop)
    (hknown : ∀ name, user.opcode ≠ .other name) {side : OperandSide} {register : Int}
    (hregister : side.register? user = some register) :
    register ∈ user.sources ∨ user.opcode = .lw ∧ side = .b := by
  cases hopcode : user.opcode with
  | nop => exact absurd hopcode hnop
  | other name => exact absurd hopcode (hknown name)
  | lw => cases side <;> simp_all [OperandSide.register?, Instruction.sources]
  | alu op => cases side <;> simp_all [OperandSide.register?, Instruction.sources]
  | sw => cases side <;> simp_all [OperandSide.register?, Instruction.sources]
  | beq => cases side <;> simp_all [OperandSide.register?, Instruction.sources]

/-- Execute bypasses what the instruction in it reads, and the destination of a load. -/
theorem Latches.WellFormed.exists_names_iff {latches : Latches} (h : latches.WellFormed)
    (side : OperandSide) (register : Int) :
    (∃ user ∈ latches.idEx.instruction, latches.Names user side register) ↔
      latches.Depends side register ∨ side = .b ∧ latches.Overwrites register := by
  constructor
  · rintro ⟨user, huser, hnames⟩
    by_cases hreads : register ∈ user.sources
    · exact .inl ⟨user, huser, hnames, hreads⟩
    · obtain ⟨-, -, hcontrol⟩ := IdEx.exists_of_not_isBubble hnames.1
      obtain ⟨hnop, hknown⟩ := h.idEx.opcode_ne hcontrol user huser
      obtain ⟨hload, rfl⟩ := (mem_sources_or_load hnop hknown hnames.2.1).resolve_left hreads
      exact .inr ⟨rfl, user, huser, hload, hreads, hnames⟩
  · rintro (⟨user, huser, hnames, -⟩ | ⟨rfl, load, hload, -, -, hnames⟩)
    · exact ⟨user, huser, hnames⟩
    · exact ⟨load, hload, hnames⟩

theorem Latches.Overwrites.not_depends {latches : Latches} {register : Int}
    (h : latches.Overwrites register) : ¬ latches.Depends .b register := by
  obtain ⟨load, hload, -, hunread, -⟩ := h
  rintro ⟨user, huser, -, hreads⟩
  rw [Option.mem_unique huser hload] at hreads
  exact hunread hreads

/-- The log of a cycle has the dependences and nothing else, unless a load overwrites a register
that an older instruction has a word for. -/
theorem State.exact_step_iff {program : Program} {state : State} (h : state.latches.WellFormed)
    (hlive : state.core.halted = false) :
    (∀ side register, (state.step program).1.snapshot.Forwards side register ↔
        state.latches.Depends side register) ↔
      ∀ register, ¬ state.latches.Overwrites register := by
  have hforwards (side : OperandSide) (register : Int) :
      (state.step program).1.snapshot.Forwards side register ↔
        state.latches.Depends side register ∨ side = .b ∧ state.latches.Overwrites register :=
    (forwards_step_iff h hlive).trans (h.exists_names_iff side register)
  constructor
  · intro hexact register hoverwrites
    exact hoverwrites.not_depends ((hexact .b register).1 ((hforwards .b register).2
      (.inr ⟨rfl, hoverwrites⟩)))
  · intro hnone side register
    rw [hforwards, or_iff_left]
    exact fun hload => hnone register hload.2

end Pipeline

end FiveStage
