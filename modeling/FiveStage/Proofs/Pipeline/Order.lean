import FiveStage.Proofs.Pipeline.Flow
import FiveStage.Proofs.Sequential.Forward

/-!
# The order in flight

The instructions in flight are those that control came by, in the order that it came by them. This
module says what each latch holds (`State.Placed`) and how control gets from what is in one latch to
what is in the next (`State.Ordered`): from behind an instruction, or from the target of a branch,
over words without effect alone.

`State.Ordered` speaks of latches with instructions and is not kept by a cycle as it stands. What a
cycle keeps is that control gets from every instruction in flight to the next one in front of it,
or to the program counter if there is none (`State.Heads`). In front of the program counter there is
nothing to be said of the words, which may be past the end of the program. An instruction that was
fetched from there shows that they were not.

What a cycle does to the instructions in flight is said once (`State.Moves`), with three ways for
the front of the pipeline: to the target of a taken branch, not at all, or to the next word.
-/

namespace FiveStage.Pipeline

/-! ## Ways through a program -/

/-- The instruction is the one that the program has at its address, which is the given one. -/
structure Program.Holds (program : Program) (instruction : Instruction) (pc : Int) : Prop where
  pc : pc = instruction.pc
  aligned : 4 ∣ instruction.pc
  lower : 0 ≤ instruction.pc
  upper : instruction.pc < 4 * program.size
  found : program[(instruction.pc / 4).toNat]? = some instruction

/-- Control gets from one address to another word by word, over words of a certain kind. -/
inductive Coasts (idle : Int → Prop) : Int → Int → Prop
  | here (address : Int) : Coasts idle address address
  | next {address last : Int} (passed : idle address) (rest : Coasts idle (address + 4) last) :
    Coasts idle address last

/-- Fetch finds no instruction with an effect at the address. -/
def Program.Vacant (program : Program) (address : Int) : Prop :=
  (program.fetched address).isBubble = true

/-- The address is below zero, or the program has an instruction without effect there. -/
def Program.Passes (program : Program) (address : Int) : Prop :=
  address < 0 ∨ ∃ instruction, program.fetch? address = some instruction ∧
    instruction.opcode = .nop

variable {program : Program} {first middle last pc : Int} {instruction : Instruction}

theorem Program.Addressed.holds (h : program.Addressed)
    (hfetch : program.fetch? pc = some instruction) : program.Holds instruction pc := by
  rw [Program.fetch?] at hfetch
  split at hfetch
  · contradiction
  · have hpc := h _ instruction hfetch
    obtain ⟨hlt, -⟩ := Array.getElem?_eq_some_iff.1 hfetch
    have heq : pc = instruction.pc := by omega
    refine ⟨heq, by omega, by omega, by omega, ?_⟩
    rw [← heq]
    exact hfetch

theorem Program.Holds.mem (h : program.Holds instruction pc) : instruction ∈ program :=
  Array.mem_of_getElem? h.found

theorem Coasts.trans {idle : Int → Prop} (h : Coasts idle first middle)
    (hrest : Coasts idle middle last) : Coasts idle first last := by
  induction h with
  | here => exact hrest
  | next hidle _ ih => exact .next hidle (ih hrest)

theorem Coasts.le {idle : Int → Prop} (h : Coasts idle first last) : first ≤ last := by
  induction h with
  | here => exact Int.le_refl _
  | next _ _ ih => omega

/-- A word without an effect that is before the end of the program is one that control passes. -/
theorem Program.Vacant.passes (h : program.Vacant pc) (haligned : 4 ∣ pc)
    (hbefore : pc < 4 * program.size) : program.Passes pc := by
  by_cases hbelow : pc < 0
  · exact .inl hbelow
  · right
    have hfetch : program.fetch? pc = some program[(pc / 4).toNat] := by
      rw [Program.fetch?, if_neg (by omega), Array.getElem?_eq_getElem]
    refine ⟨_, hfetch, ?_⟩
    rw [Program.Vacant, IfId.isBubble, Program.fetched, hfetch] at h
    simpa using h

/-- Where control gets to a word of the program, it passed all words before it. -/
theorem Coasts.passes (h : Coasts program.Vacant first last) (haligned : 4 ∣ first)
    (hbefore : last < 4 * program.size) : Coasts program.Passes first last := by
  induction h with
  | here => exact .here _
  | next hvacant hrest ih =>
      have hle := hrest.le
      exact .next (hvacant.passes haligned (by omega)) (ih (by omega) hbefore)

/-! ## What is in the latches -/

/-- The latch has an instruction of the program with all that decode found of it. -/
structure IdEx.Keeps (program : Program) (latch : IdEx) (instruction : Instruction) : Prop where
  present : latch.instruction = some instruction
  place : program.Holds instruction latch.pc
  control : latch.control = .ofOpcode instruction.opcode
  dest : latch.dest = instruction.dest
  immediate : latch.immediate = instruction.immediate
  target : latch.target = instruction.target

structure ExMem.Keeps (program : Program) (latch : ExMem) (instruction : Instruction) : Prop where
  present : latch.instruction = some instruction
  place : program.Holds instruction latch.pc
  control : latch.control = .ofOpcode instruction.opcode
  dest : latch.dest = instruction.dest
  target : latch.target = instruction.target

structure MemWb.Keeps (program : Program) (latch : MemWb) (instruction : Instruction) : Prop where
  present : latch.instruction = some instruction
  place : program.Holds instruction latch.pc
  control : latch.control = .ofOpcode instruction.opcode
  dest : latch.dest = instruction.dest

/-- A latch that is empty if it is a bubble, and has an instruction if it is none. -/
structure Filled {Latch : Type} (empty : Latch) (isBubble : Latch → Bool)
    (keeps : Latch → Instruction → Prop) (latch : Latch) : Prop where
  empty : isBubble latch = true → latch = empty
  keeps : isBubble latch = false → ∃ instruction, keeps latch instruction

theorem Filled.of_isBubble {Latch : Type} {empty : Latch} {isBubble : Latch → Bool}
    {keeps : Latch → Instruction → Prop} (h : isBubble empty = true) :
    Filled empty isBubble keeps empty where
  empty _ := rfl
  keeps hfull := absurd hfull (ne_false_of_eq_true h)

theorem Filled.of_keeps {Latch : Type} {empty latch : Latch} {isBubble : Latch → Bool}
    {keeps : Latch → Instruction → Prop} (h : isBubble latch = false)
    (hkeeps : keeps latch instruction) : Filled empty isBubble keeps latch where
  empty hbubble := absurd h (ne_false_of_eq_true hbubble)
  keeps _ := ⟨instruction, hkeeps⟩

/-- What is in the latches while a program runs. -/
structure State.Placed (program : Program) (state : State) : Prop where
  aligned : 4 ∣ state.core.pc
  ifId : state.latches.ifId.isBubble = false → ∃ instruction,
    state.latches.ifId.instruction = some instruction ∧
      program.Holds instruction state.latches.ifId.pc
  idEx : Filled {} IdEx.isBubble (IdEx.Keeps program) state.latches.idEx
  exMem : Filled {} ExMem.isBubble (ExMem.Keeps program) state.latches.exMem
  memWb : Filled {} MemWb.isBubble (MemWb.Keeps program) state.latches.memWb
  branchTaken : state.latches.exMem.branchTaken = true →
    ∃ branch, state.latches.exMem.instruction = some branch ∧ branch.opcode = .beq

/-- The instruction in a latch, which is none if the latch is a bubble. -/
def occupying (isBubble : Bool) (slot : Option Instruction) : Option Instruction :=
  if isBubble then none else slot

/-- The instruction that a stage works on. -/
def Latches.occupant? (latches : Latches) : Stage → Option Instruction
  | .fetch => none
  | .decode => occupying latches.ifId.isBubble latches.ifId.instruction
  | .execute => occupying latches.idEx.isBubble latches.idEx.instruction
  | .memory => occupying latches.exMem.isBubble latches.exMem.instruction
  | .writeBack => occupying latches.memWb.isBubble latches.memWb.instruction

/-- How far down the pipeline a stage is. -/
def Stage.depth : Stage → Nat
  | .fetch => 0
  | .decode => 1
  | .execute => 2
  | .memory => 3
  | .writeBack => 4

/-- An address where control went from the instruction in a stage. A branch is resolved when it
leaves execute; the last latch does not tell any more how. -/
def Latches.Exits (latches : Latches) (instruction : Instruction) (address : Int) : Stage → Prop
  | .fetch | .decode | .execute => address = instruction.pc + 4
  | .memory =>
    if latches.exMem.branchTaken then
      instruction.opcode = .beq ∧ instruction.target = some address
    else address = instruction.pc + 4
  | .writeBack =>
    address = instruction.pc + 4 ∨ instruction.opcode = .beq ∧ instruction.target = some address

/-- Control got from every instruction in flight to the next one over words without effect. -/
def State.Ordered (program : Program) (state : State) : Prop :=
  ∀ (older younger : Stage) (x y : Instruction), younger.depth < older.depth →
    state.latches.occupant? older = some x → state.latches.occupant? younger = some y →
    (∀ between : Stage, younger.depth < between.depth → between.depth < older.depth →
      state.latches.occupant? between = none) →
    ∃ address, state.latches.Exits x address older ∧ Coasts program.Passes address y.pc

/-- The address of the instruction in a stage, or another one if there is none. -/
def Latches.addressAt (latches : Latches) (stage : Stage) (otherwise : Int) : Int :=
  (latches.occupant? stage).elim otherwise (·.pc)

/-- The address of the next instruction in front of a stage, or else the program counter. -/
def State.ahead (state : State) : Stage → Int
  | .fetch | .decode => state.core.pc
  | .execute => state.latches.addressAt .decode state.core.pc
  | .memory => state.latches.addressAt .execute (state.latches.addressAt .decode state.core.pc)
  | .writeBack =>
    state.latches.addressAt .memory
      (state.latches.addressAt .execute (state.latches.addressAt .decode state.core.pc))

/-- Control gets from the instruction in a stage to what is ahead of it. -/
def State.HeadsFrom (program : Program) (state : State) (stage : Stage) (x : Instruction) : Prop :=
  ∃ address, state.latches.Exits x address stage ∧
    Coasts program.Vacant address (state.ahead stage)

/-- Control gets from every instruction in flight to what is ahead of it. -/
def State.Heads (program : Program) (state : State) : Prop :=
  ∀ (stage : Stage) (x : Instruction), state.latches.occupant? stage = some x →
    state.HeadsFrom program stage x

/-! ## Stages -/

section

variable {latches : Latches}

theorem not_isBubble_of_taken (h : (execute latches).taken = true) :
    latches.idEx.isBubble = false := by
  refine Bool.of_not_eq_true fun hbubble => ?_
  rw [(execute_of_isBubble latches hbubble).2.2] at h
  contradiction

theorem branchTaken_execute (latches : Latches) :
    (execute latches).latch.branchTaken = (execute latches).taken := by
  rw [execute]
  dsimp only
  split <;> rfl

/-- Only a branch is taken. -/
theorem IdEx.Keeps.opcode_of_taken (h : latches.idEx.Keeps program instruction)
    (htaken : (execute latches).taken = true) : instruction.opcode = .beq := by
  have hbranched := taken_le_branched latches htaken
  have hisBranch : (execute latches).branched = latches.idEx.control.isBranch := by
    rw [execute, if_neg (by rw [not_isBubble_of_taken htaken]; exact Bool.false_ne_true)]
  rw [hisBranch, h.control, isBranch_ofOpcode, decide_eq_true_eq] at hbranched
  exact hbranched

theorem IdEx.Keeps.execute (h : latches.idEx.Keeps program instruction)
    (hbubble : latches.idEx.isBubble = false) :
    (execute latches).latch.Keeps program instruction := by
  rw [Pipeline.execute, if_neg (by rw [hbubble]; exact Bool.false_ne_true)]
  exact ⟨h.present, h.place, h.control, h.dest, h.target⟩

theorem filled_ofSlot {registers : Registers} {slot : Option Instruction}
    (hformed : ∀ instruction ∈ slot, instruction.WellFormed)
    (hplace : (IfId.mk slot pc).isBubble = false →
      ∃ instruction, slot = some instruction ∧ program.Holds instruction pc) :
    Filled {} IdEx.isBubble (IdEx.Keeps program) (.ofSlot registers pc slot) := by
  cases slot with
  | none => exact .of_isBubble rfl
  | some instruction =>
      rw [IdEx.ofSlot]
      split
      · exact .of_isBubble rfl
      · rename_i hnop
        have hcontrol := Control.isNop_ofOpcode (hformed instruction rfl) hnop
        obtain ⟨_, hpresent, hholds⟩ := hplace (by simp [IfId.isBubble, hnop])
        obtain rfl := Option.some.inj hpresent
        refine .of_keeps ?_ ⟨rfl, hholds, rfl, rfl, rfl, rfl⟩
        simp [IdEx.isBubble, hcontrol]

theorem filled_execute (h : Filled {} IdEx.isBubble (IdEx.Keeps program) latches.idEx) :
    Filled {} ExMem.isBubble (ExMem.Keeps program) (execute latches).latch := by
  cases hbubble : latches.idEx.isBubble with
  | true =>
      rw [(execute_of_isBubble latches hbubble).1]
      exact .of_isBubble rfl
  | false =>
      obtain ⟨instruction, hkeeps⟩ := h.keeps hbubble
      refine .of_keeps ?_ (hkeeps.execute hbubble)
      rw [execute, if_neg (by rw [hbubble]; exact Bool.false_ne_true)]
      exact hbubble

theorem filled_accessMemory (memory : Memory)
    (h : Filled {} ExMem.isBubble (ExMem.Keeps program) latches.exMem) :
    Filled {} MemWb.isBubble (MemWb.Keeps program) (accessMemory memory latches.exMem).2 := by
  rw [accessMemory]
  split
  · exact .of_isBubble rfl
  · rename_i hbubble
    obtain ⟨instruction, hkeeps⟩ := h.keeps (Bool.of_not_eq_true hbubble)
    refine .of_keeps (Bool.of_not_eq_true hbubble) (?_ : MemWb.Keeps program _ instruction)
    exact ⟨hkeeps.present, hkeeps.place, hkeeps.control, hkeeps.dest⟩

theorem occupying_ofSlot {registers : Registers} {slot : Option Instruction}
    (hformed : ∀ instruction ∈ slot, instruction.WellFormed) :
    occupying (IdEx.ofSlot registers pc slot).isBubble (IdEx.ofSlot registers pc slot).instruction =
      occupying (IfId.mk slot pc).isBubble slot := by
  cases slot with
  | none => rfl
  | some instruction =>
      by_cases hnop : instruction.opcode = .nop
      · simp [IdEx.ofSlot, hnop, occupying, IfId.isBubble]
      · have hcontrol := Control.isNop_ofOpcode (hformed instruction rfl) hnop
        simp [IdEx.ofSlot, hnop, occupying, IfId.isBubble, IdEx.isBubble, hcontrol]

theorem occupying_execute (latches : Latches) :
    occupying (execute latches).latch.isBubble (execute latches).latch.instruction =
      occupying latches.idEx.isBubble latches.idEx.instruction := by
  rw [execute]
  dsimp only
  split
  · rename_i hbubble
    rw [hbubble]
    rfl
  · rfl

theorem occupying_accessMemory (memory : Memory) (latch : ExMem) :
    occupying (accessMemory memory latch).2.isBubble (accessMemory memory latch).2.instruction =
      occupying latch.isBubble latch.instruction := by
  rw [accessMemory]
  split
  · rename_i hbubble
    rw [hbubble]
    rfl
  · rfl

theorem occupying_eq_some_iff {isBubble : Bool} {slot : Option Instruction} :
    occupying isBubble slot = some instruction ↔ isBubble = false ∧ slot = some instruction := by
  cases isBubble <;> simp [occupying]

end

namespace State

variable {state before after : State}

/-- How the front of a pipeline moves in a cycle. -/
inductive Turns (program : Program) (before after : State) : Prop
  | redirect {branch : Instruction} (taken : after.latches.exMem.branchTaken = true)
    (resolved : before.latches.occupant? .execute = some branch) (opcode : branch.opcode = .beq)
    (target : branch.target = some after.core.pc) (aligned : 4 ∣ after.core.pc)
    (idEx : after.latches.idEx = {}) (ifId : after.latches.ifId = {})
  | hold (kept : after.latches.exMem.branchTaken = false) (counter : after.core.pc = before.core.pc)
    (idEx : after.latches.idEx = {}) (ifId : after.latches.ifId = before.latches.ifId)
  | onward {registers : Registers} (kept : after.latches.exMem.branchTaken = false)
    (counter : after.core.pc = before.core.pc + 4)
    (idEx : after.latches.idEx =
      .ofSlot registers before.latches.ifId.pc before.latches.ifId.instruction)
    (issued : after.latches.occupant? .execute = before.latches.occupant? .decode)
    (ifId : after.latches.ifId = program.fetched before.core.pc)

/-- A cycle goes to the target of a taken branch, waits, or goes on to the next word. -/
theorem turns_step (hprogram : program.WellFormed) (h : state.latches.WellFormed)
    (hplaced : state.Placed program) (hlive : state.core.halted = false) :
    Turns program state (state.step program).1 := by
  have hcounter : (state.step program).1.core.pc =
      (state.front program state.core.pc (execute state.latches) state.decoded).pc := by
    rw [step_of_live h hlive, pc_advance]
    rfl
  have htaken : (state.step program).1.latches.exMem.branchTaken =
      (execute state.latches).taken := by
    rw [exMem_step_of_live h hlive, branchTaken_execute]
  have hidEx : (state.step program).1.latches.idEx = _ := idEx_step_of_live h hlive
  have hifId : (state.step program).1.latches.ifId = _ := ifId_step_of_live h hlive
  cases hbranch : (execute state.latches).taken with
  | true =>
      have hbubble := not_isBubble_of_taken hbranch
      obtain ⟨branch, hkeeps⟩ := hplaced.idEx.keeps hbubble
      have hopcode := hkeeps.opcode_of_taken hbranch
      obtain ⟨address, htarget, haligned⟩ := (hprogram branch hkeeps.place.mem).target hopcode
      have hlatch := (hkeeps.execute hbubble).target
      rw [front_of_taken hbranch] at hcounter hifId
      rw [hbranch, if_pos rfl] at hidEx
      have hpc : (state.step program).1.core.pc = address := by
        rw [hcounter, Front.redirect, hlatch, htarget]
        rfl
      refine .redirect (htaken.trans hbranch) (occupying_eq_some_iff.2 ⟨hbubble, hkeeps.present⟩)
        hopcode ?_ ?_ hidEx hifId
      · rw [htarget, hpc]
      · rw [hpc]
        exact haligned
  | false =>
      rw [hbranch, if_neg Bool.false_ne_true] at hidEx
      cases hstall : state.decoded.isStall with
      | true =>
          rw [front_of_stall hbranch hstall] at hcounter hifId
          rw [latch_of_isStall hstall] at hidEx
          exact .hold (htaken.trans hbranch) hcounter hidEx hifId
      | false =>
          rw [front_of_issue hbranch hstall] at hcounter hifId
          rw [latch_decoded_of_issue hstall] at hidEx
          refine .onward (htaken.trans hbranch) hcounter hidEx ?_ hifId
          show occupying (state.step program).1.latches.idEx.isBubble _ = _
          rw [hidEx]
          exact occupying_ofSlot h.ifId

/-- How the instructions in flight move in a cycle. -/
structure Moves (program : Program) (before after : State) : Prop where
  turns : Turns program before after
  memory : after.latches.occupant? .memory = before.latches.occupant? .execute
  writeBack : after.latches.occupant? .writeBack = before.latches.occupant? .memory

theorem moves_step (hprogram : program.WellFormed) (h : state.latches.WellFormed)
    (hplaced : state.Placed program) (hlive : state.core.halted = false) :
    Moves program state (state.step program).1 where
  turns := turns_step hprogram h hplaced hlive
  memory := by
    show occupying (state.step program).1.latches.exMem.isBubble _ = _
    rw [exMem_step_of_live h hlive]
    exact occupying_execute state.latches
  writeBack := by
    show occupying (state.step program).1.latches.memWb.isBubble _ = _
    rw [memWb_step_of_live h hlive]
    exact occupying_accessMemory state.core.memory state.latches.exMem

/-! ## Latches -/

theorem Moves.branchTaken (h : Moves program before after)
    (htaken : after.latches.exMem.branchTaken = true) :
    ∃ branch, after.latches.exMem.instruction = some branch ∧ branch.opcode = .beq := by
  cases h.turns with
  | redirect _ hresolved hopcode =>
      have hmemory := h.memory.trans hresolved
      exact ⟨_, (occupying_eq_some_iff.1 hmemory).2, hopcode⟩
  | hold hkept => exact absurd hkept (ne_false_of_eq_true htaken)
  | onward hkept => exact absurd hkept (ne_false_of_eq_true htaken)

theorem placed_step (hprogram : program.WellFormed) (haddressed : program.Addressed)
    (h : state.latches.WellFormed) (hplaced : state.Placed program)
    (hlive : state.core.halted = false) : (state.step program).1.Placed program := by
  have hmoves := moves_step hprogram h hplaced hlive
  constructor
  case aligned =>
    cases hmoves.turns with
    | redirect _ _ _ _ haligned => exact haligned
    | hold _ hcounter =>
        rw [hcounter]
        exact hplaced.aligned
    | onward _ hcounter =>
        rw [hcounter]
        exact dvd_add hplaced.aligned (dvd_refl 4)
  case ifId =>
    intro hbubble
    cases hmoves.turns with
    | redirect _ _ _ _ _ _ hifId =>
        rw [hifId] at hbubble
        contradiction
    | hold _ _ _ hifId =>
        rw [hifId] at hbubble ⊢
        exact hplaced.ifId hbubble
    | onward _ _ _ _ hifId =>
        rw [hifId] at hbubble ⊢
        obtain ⟨instruction, hfetch, -⟩ := IfId.exists_of_not_isBubble hbubble
        exact ⟨instruction, hfetch, haddressed.holds hfetch⟩
  case idEx =>
    cases hmoves.turns with
    | redirect _ _ _ _ _ hidEx =>
        rw [hidEx]
        exact .of_isBubble rfl
    | hold _ _ hidEx =>
        rw [hidEx]
        exact .of_isBubble rfl
    | onward _ _ hidEx =>
        rw [hidEx]
        exact filled_ofSlot h.ifId hplaced.ifId
  case exMem =>
    rw [exMem_step_of_live h hlive]
    exact filled_execute hplaced.idEx
  case memWb =>
    rw [memWb_step_of_live h hlive]
    exact filled_accessMemory state.core.memory hplaced.exMem
  case branchTaken => exact hmoves.branchTaken

/-! ## What is ahead -/

theorem occupant?_execute_of_empty (hidEx : after.latches.idEx = {}) :
    after.latches.occupant? .execute = none := by
  rw [Latches.occupant?, hidEx]
  rfl

theorem occupant?_decode_of_empty (hifId : after.latches.ifId = {}) :
    after.latches.occupant? .decode = none := by
  rw [Latches.occupant?, hifId]
  rfl

/-- Fetch takes the word at the program counter, or control passes it. -/
theorem coasts_fetched {latches : Latches} (haddressed : program.Addressed)
    (hifId : latches.ifId = program.fetched pc) :
    Coasts program.Vacant pc (latches.addressAt .decode (pc + 4)) := by
  rw [Latches.addressAt, Latches.occupant?, hifId]
  cases hbubble : (program.fetched pc).isBubble with
  | true => exact .next hbubble (.here _)
  | false =>
      obtain ⟨instruction, hfetch, -⟩ := IfId.exists_of_not_isBubble hbubble
      have hpc : pc = instruction.pc := (haddressed.holds hfetch).pc
      rw [hfetch]
      show Coasts program.Vacant pc instruction.pc
      rw [← hpc]
      exact .here _

/-- A branch is taken by an instruction in execute. -/
theorem Turns.kept (h : Turns program before after)
    (hnone : before.latches.occupant? .execute = none) :
    after.latches.exMem.branchTaken = false := by
  cases h with
  | redirect _ hresolved => exact absurd (hresolved.symm.trans hnone) (Option.some_ne_none _)
  | hold hkept => exact hkept
  | onward hkept => exact hkept

/-- What is ahead of execute is ahead of memory access after the cycle, unless a branch is taken or
the next word is passed. -/
theorem Turns.coasts_ahead (h : Turns program before after) (haddressed : program.Addressed)
    (hkept : after.latches.exMem.branchTaken = false) :
    Coasts program.Vacant (before.ahead .execute) (after.ahead .memory) := by
  cases h with
  | redirect htaken => exact absurd hkept (ne_false_of_eq_true htaken)
  | hold _ hcounter hidEx hifId =>
      simp only [ahead, Latches.addressAt, Latches.occupant?, hcounter, hidEx, hifId]
      exact .here _
  | onward _ hcounter _ hissued hifId =>
      simp only [ahead, hcounter]
      rw [Latches.addressAt, Latches.addressAt, hissued]
      cases before.latches.occupant? .decode with
      | none => exact coasts_fetched haddressed hifId
      | some instruction => exact .here _

namespace Moves

/-- What is ahead of memory access is ahead of write-back after the cycle, unless it was in front
of execute and is passed. -/
theorem coasts_ahead (h : Moves program before after) (haddressed : program.Addressed) :
    Coasts program.Vacant (before.ahead .memory) (after.ahead .writeBack) := by
  have hbefore : before.ahead .memory =
      before.latches.addressAt .execute (before.ahead .execute) := rfl
  have hafter : after.ahead .writeBack =
      after.latches.addressAt .memory (after.ahead .memory) := rfl
  rw [hbefore, hafter, Latches.addressAt, Latches.addressAt, h.memory]
  cases hexecute : before.latches.occupant? .execute with
  | some instruction => exact .here _
  | none => exact h.turns.coasts_ahead haddressed (h.turns.kept hexecute)

variable {x : Instruction}

theorem headsFrom_decode (h : Moves program before after) (haddressed : program.Addressed)
    (hheads : before.Heads program) (hx : after.latches.occupant? .decode = some x) :
    after.HeadsFrom program .decode x := by
  simp only [HeadsFrom, Latches.Exits, ahead]
  cases h.turns with
  | redirect _ _ _ _ _ _ hifId =>
      rw [occupant?_decode_of_empty hifId] at hx
      contradiction
  | hold _ hcounter _ hifId =>
      rw [Latches.occupant?, hifId] at hx
      rw [hcounter]
      exact hheads .decode x hx
  | onward _ hcounter _ _ hifId =>
      rw [Latches.occupant?, hifId] at hx
      have hpc := (haddressed.holds (occupying_eq_some_iff.1 hx).2).pc
      rw [hcounter, hpc]
      exact ⟨_, rfl, .here _⟩

theorem headsFrom_execute (h : Moves program before after) (haddressed : program.Addressed)
    (hheads : before.Heads program) (hx : after.latches.occupant? .execute = some x) :
    after.HeadsFrom program .execute x := by
  simp only [HeadsFrom, Latches.Exits, ahead]
  cases h.turns with
  | redirect _ _ _ _ _ hidEx =>
      rw [occupant?_execute_of_empty hidEx] at hx
      contradiction
  | hold _ _ hidEx =>
      rw [occupant?_execute_of_empty hidEx] at hx
      contradiction
  | onward _ hcounter _ hissued hifId =>
      rw [hissued] at hx
      obtain ⟨address, hexits, hcoasts⟩ := hheads .decode x hx
      rw [hcounter]
      exact ⟨address, hexits, hcoasts.trans (coasts_fetched haddressed hifId)⟩

theorem headsFrom_memory (h : Moves program before after) (haddressed : program.Addressed)
    (hheads : before.Heads program) (hx : after.latches.occupant? .memory = some x) :
    after.HeadsFrom program .memory x := by
  rw [h.memory] at hx
  cases htaken : after.latches.exMem.branchTaken with
  | true =>
      cases h.turns with
      | hold hkept => exact absurd hkept (ne_false_of_eq_true htaken)
      | onward hkept => exact absurd hkept (ne_false_of_eq_true htaken)
      | redirect _ hresolved hopcode htarget _ hidEx hifId =>
          obtain rfl := Option.some.inj (hx.symm.trans hresolved)
          -- Both latches in front of the branch were emptied.
          have hahead : after.ahead .memory = after.core.pc := by
            rw [ahead, Latches.addressAt, Latches.addressAt, occupant?_execute_of_empty hidEx,
              occupant?_decode_of_empty hifId]
            rfl
          rw [HeadsFrom, hahead]
          refine ⟨_, ?_, .here _⟩
          rw [Latches.Exits, htaken, if_pos rfl]
          exact ⟨hopcode, htarget⟩
  | false =>
      obtain ⟨address, hexits, hcoasts⟩ := hheads .execute x hx
      refine ⟨address, ?_, hcoasts.trans (h.turns.coasts_ahead haddressed htaken)⟩
      rw [Latches.Exits, htaken, if_neg Bool.false_ne_true]
      exact hexits

theorem headsFrom_writeBack (h : Moves program before after) (haddressed : program.Addressed)
    (hheads : before.Heads program) (hx : after.latches.occupant? .writeBack = some x) :
    after.HeadsFrom program .writeBack x := by
  rw [h.writeBack] at hx
  obtain ⟨address, hexits, hcoasts⟩ := hheads .memory x hx
  refine ⟨address, ?_, hcoasts.trans (h.coasts_ahead haddressed)⟩
  simp only [Latches.Exits] at hexits ⊢
  split at hexits
  · exact .inr hexits
  · exact .inl hexits

/-- A cycle keeps the way that control took from each instruction in flight to the next. -/
theorem heads (h : Moves program before after) (haddressed : program.Addressed)
    (hheads : before.Heads program) : after.Heads program := by
  intro stage x hx
  cases stage with
  | fetch => contradiction
  | decode => exact h.headsFrom_decode haddressed hheads hx
  | execute => exact h.headsFrom_execute haddressed hheads hx
  | memory => exact h.headsFrom_memory haddressed hheads hx
  | writeBack => exact h.headsFrom_writeBack haddressed hheads hx

end Moves

/-! ## The order -/

/-- Over bubbles, the next instruction is what is ahead. -/
theorem ahead_eq {older younger : Stage} {y : Instruction}
    (hdepth : younger.depth < older.depth) (hy : state.latches.occupant? younger = some y)
    (hbetween : ∀ between : Stage, younger.depth < between.depth → between.depth < older.depth →
      state.latches.occupant? between = none) : state.ahead older = y.pc := by
  have hfull (otherwise : Int) : state.latches.addressAt younger otherwise = y.pc := by
    rw [Latches.addressAt, hy]
    rfl
  have hbubble (between : Stage) (hbehind : younger.depth < between.depth)
      (hfront : between.depth < older.depth) (otherwise : Int) :
      state.latches.addressAt between otherwise = otherwise := by
    rw [Latches.addressAt, hbetween between hbehind hfront]
    rfl
  cases younger with
  | fetch => contradiction
  | decode =>
      cases older with
      | execute => exact hfull _
      | memory =>
          have hexecute := hbubble .execute (by decide) (by decide)
          exact (hexecute _).trans (hfull _)
      | writeBack =>
          have hexecute := hbubble .execute (by decide) (by decide)
          have hmemory := hbubble .memory (by decide) (by decide)
          exact (hmemory _).trans ((hexecute _).trans (hfull _))
      | fetch => contradiction
      | decode => contradiction
  | execute =>
      cases older with
      | memory => exact hfull _
      | writeBack =>
          have hmemory := hbubble .memory (by decide) (by decide)
          exact (hmemory _).trans (hfull _)
      | fetch => contradiction
      | decode => contradiction
      | execute => contradiction
  | memory =>
      cases older with
      | writeBack => exact hfull _
      | fetch => contradiction
      | decode => contradiction
      | execute => contradiction
      | memory => contradiction
  | writeBack => cases older <;> contradiction

/-- Every instruction in flight is one of the program. -/
theorem Placed.holds (hplaced : state.Placed program) {stage : Stage} {x : Instruction}
    (hx : state.latches.occupant? stage = some x) : ∃ pc, program.Holds x pc := by
  cases stage with
  | fetch => contradiction
  | decode =>
      obtain ⟨hbubble, hslot⟩ := occupying_eq_some_iff.1 hx
      obtain ⟨_, hpresent, hholds⟩ := hplaced.ifId hbubble
      obtain rfl := Option.some.inj (hslot.symm.trans hpresent)
      exact ⟨_, hholds⟩
  | execute =>
      obtain ⟨hbubble, hslot⟩ := occupying_eq_some_iff.1 hx
      obtain ⟨_, hkeeps⟩ := hplaced.idEx.keeps hbubble
      obtain rfl := Option.some.inj (hslot.symm.trans hkeeps.present)
      exact ⟨_, hkeeps.place⟩
  | memory =>
      obtain ⟨hbubble, hslot⟩ := occupying_eq_some_iff.1 hx
      obtain ⟨_, hkeeps⟩ := hplaced.exMem.keeps hbubble
      obtain rfl := Option.some.inj (hslot.symm.trans hkeeps.present)
      exact ⟨_, hkeeps.place⟩
  | writeBack =>
      obtain ⟨hbubble, hslot⟩ := occupying_eq_some_iff.1 hx
      obtain ⟨_, hkeeps⟩ := hplaced.memWb.keeps hbubble
      obtain rfl := Option.some.inj (hslot.symm.trans hkeeps.present)
      exact ⟨_, hkeeps.place⟩

/-- Control goes from an instruction of the program to a word boundary. -/
theorem aligned_of_exits {latches : Latches} {x : Instruction} {address : Int} {stage : Stage}
    (hprogram : program.WellFormed) (hholds : program.Holds x pc)
    (hexits : latches.Exits x address stage) : 4 ∣ address := by
  have hnext : address = x.pc + 4 → 4 ∣ address := by
    rintro rfl
    exact dvd_add hholds.aligned (dvd_refl 4)
  have htarget : x.opcode = .beq ∧ x.target = some address → 4 ∣ address := by
    rintro ⟨hopcode, htarget⟩
    obtain ⟨target, hsome, haligned⟩ := (hprogram x hholds.mem).target hopcode
    obtain rfl := Option.some.inj (htarget.symm.trans hsome)
    exact haligned
  cases stage with
  | fetch => exact hnext hexits
  | decode => exact hnext hexits
  | execute => exact hnext hexits
  | memory =>
      simp only [Latches.Exits] at hexits
      split at hexits
      · exact htarget hexits
      · exact hnext hexits
  | writeBack => exact hexits.elim hnext htarget

/-- Instructions in flight are in the order that control comes by them. -/
theorem Heads.ordered (hheads : state.Heads program) (hprogram : program.WellFormed)
    (hplaced : state.Placed program) : state.Ordered program := by
  intro older younger x y hdepth hx hy hbetween
  obtain ⟨address, hexits, hcoasts⟩ := hheads older x hx
  obtain ⟨_, hxHolds⟩ := hplaced.holds hx
  obtain ⟨_, hyHolds⟩ := hplaced.holds hy
  rw [ahead_eq hdepth hy hbetween] at hcoasts
  have haligned := aligned_of_exits hprogram hxHolds hexits
  exact ⟨address, hexits, hcoasts.passes haligned hyHolds.upper⟩

end State

end FiveStage.Pipeline
