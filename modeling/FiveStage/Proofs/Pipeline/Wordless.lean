import FiveStage.Pipeline.Snapshot
import FiveStage.Proofs.Pipeline.Advance

/-!
# Texts do not matter to a machine

An instruction carries the text of its line, which is shown in snapshots and used for nothing else.
So a machine whose instructions have lost their texts runs as before (`State.step_wordless`), and
its snapshots are those of the other one, with the texts blanked out (`State.snapshot_wordless`).

The proof goes through the stages of a cycle. Each of them gives the same, but for texts, if it is
given the same but for texts.
-/

namespace FiveStage

/-- The instruction without its text. -/
def Instruction.wordless (instruction : Instruction) : Instruction :=
  { instruction with text := "" }

namespace Pipeline

/-! ## What has lost its texts -/

def Program.wordless (program : Program) : Program := program.map Instruction.wordless

def IfId.wordless (latch : IfId) : IfId :=
  { latch with instruction := latch.instruction.map Instruction.wordless }

def IdEx.wordless (latch : IdEx) : IdEx :=
  { latch with instruction := latch.instruction.map Instruction.wordless }

def ExMem.wordless (latch : ExMem) : ExMem :=
  { latch with instruction := latch.instruction.map Instruction.wordless }

def MemWb.wordless (latch : MemWb) : MemWb :=
  { latch with instruction := latch.instruction.map Instruction.wordless }

def Latches.wordless (latches : Latches) : Latches :=
  ⟨latches.ifId.wordless, latches.idEx.wordless, latches.exMem.wordless, latches.memWb.wordless⟩

def State.wordless (state : State) : State :=
  { state with
    latches := state.latches.wordless
    fetched := state.fetched.map Instruction.wordless }

def Executed.wordless (executed : Executed) : Executed :=
  { executed with latch := executed.latch.wordless }

def Decoded.wordless : Decoded → Decoded
  | .stall register => .stall register
  | .issue latch => .issue latch.wordless

def Front.wordless (front : Front) : Front :=
  { front with
    latch := front.latch.wordless
    fetched := front.fetched.map Instruction.wordless }

/-- A view that shows whether there is a text, and not which one. -/
def StageView.wordless (view : StageView) : StageView :=
  { view with text := view.text.map fun _ => "" }

def Snapshot.wordless (snapshot : Snapshot) : Snapshot :=
  { snapshot with stages := .ofFunction fun stage => (snapshot.stages.get stage).wordless }

/-! ## Latches -/

@[simp] theorem IfId.isBubble_wordless (latch : IfId) :
    latch.wordless.isBubble = latch.isBubble := by
  obtain ⟨instruction, pc⟩ := latch
  cases instruction <;> rfl

@[simp] theorem IdEx.isBubble_wordless (latch : IdEx) :
    latch.wordless.isBubble = latch.isBubble := by
  rw [isBubble, isBubble, wordless, Option.isNone_map]

@[simp] theorem ExMem.isBubble_wordless (latch : ExMem) :
    latch.wordless.isBubble = latch.isBubble := by
  rw [isBubble, isBubble, wordless, Option.isNone_map]

@[simp] theorem MemWb.isBubble_wordless (latch : MemWb) :
    latch.wordless.isBubble = latch.isBubble := by
  rw [isBubble, isBubble, wordless, Option.isNone_map]

theorem Latches.isDrained_wordless (latches : Latches) :
    latches.wordless.isDrained = latches.isDrained := by
  simp only [isDrained, wordless, IfId.isBubble_wordless, IdEx.isBubble_wordless,
    ExMem.isBubble_wordless, MemWb.isBubble_wordless]

/-! ## Stages -/

theorem writeBack_wordless (core : Core) (latch : MemWb) :
    writeBack core latch.wordless = writeBack core latch := by
  have hcommit : latch.wordless.commit? = latch.commit? := by
    rw [MemWb.commit?, MemWb.commit?, MemWb.isBubble_wordless]
    rfl
  rw [writeBack, writeBack, hcommit, MemWb.isBubble_wordless]

theorem accessMemory_wordless (memory : Memory) (latch : ExMem) :
    accessMemory memory latch.wordless =
      ((accessMemory memory latch).1, (accessMemory memory latch).2.wordless) := by
  rw [accessMemory, accessMemory, ExMem.isBubble_wordless]
  split <;> rfl

theorem bypass?_wordless (exMem : ExMem) (memWb : MemWb) (operand : Option Int) :
    bypass? exMem.wordless memWb.wordless operand = bypass? exMem memWb operand := by
  have hexMem : exMem.wordless.supplies = exMem.supplies := by
    funext register
    rw [ExMem.supplies, ExMem.supplies, ExMem.isBubble_wordless]
    rfl
  have hmemWb : memWb.wordless.supplies = memWb.supplies := by
    funext register
    rw [MemWb.supplies, MemWb.supplies, MemWb.isBubble_wordless]
    rfl
  cases operand with
  | none => rfl
  | some register =>
      rw [bypass?, bypass?, hexMem, hmemWb]
      rfl

theorem resolve_wordless (latches : Latches) :
    Operands.resolve latches.wordless.idEx latches.wordless.exMem latches.wordless.memWb =
      Operands.resolve latches.idEx latches.exMem latches.memWb := by
  have hoperands : latches.wordless.idEx.instruction.bind (·.rs) =
        latches.idEx.instruction.bind (·.rs) ∧
      latches.wordless.idEx.instruction.bind (·.rt) = latches.idEx.instruction.bind (·.rt) := by
    show (latches.idEx.instruction.map Instruction.wordless).bind _ = _ ∧
      (latches.idEx.instruction.map Instruction.wordless).bind _ = _
    cases latches.idEx.instruction <;> exact ⟨rfl, rfl⟩
  have hbubble : latches.wordless.idEx.isBubble = latches.idEx.isBubble :=
    IdEx.isBubble_wordless _
  rw [Operands.resolve, Operands.resolve, hbubble, hoperands.1, hoperands.2]
  simp only [Latches.wordless, bypass?_wordless]
  rfl

theorem execute_wordless (latches : Latches) :
    execute latches.wordless = (execute latches).wordless := by
  have hbubble : latches.wordless.idEx.isBubble = latches.idEx.isBubble :=
    IdEx.isBubble_wordless _
  rw [execute, execute, resolve_wordless, hbubble]
  split <;> rfl

theorem loadUse?_wordless (instruction : Instruction) (idEx : IdEx) :
    loadUse? instruction.wordless idEx.wordless = loadUse? instruction idEx := by
  rw [loadUse?, loadUse?, IdEx.isBubble_wordless]
  rfl

theorem decode_wordless (registers : Registers) (ifId : IfId) (idEx : IdEx) :
    decode registers ifId.wordless idEx.wordless =
      (decode registers ifId idEx).map Decoded.wordless := by
  rw [decode, decode, IfId.isBubble_wordless]
  cases ifId.isBubble with
  | true => rfl
  | false =>
      cases hinstruction : ifId.instruction with
      | none =>
          rw [IfId.wordless, hinstruction]
          rfl
      | some instruction =>
          rw [IfId.wordless, hinstruction]
          dsimp only [Option.map_some]
          rw [loadUse?_wordless]
          cases loadUse? instruction idEx with
          | some register =>
              dsimp only
              split <;> rfl
          | none =>
              dsimp only [Instruction.wordless]
              cases registers.readOperand instruction.rs with
              | error fault => rfl
              | ok rsValue => cases registers.readOperand instruction.rt <;> rfl

/-! ## The cycle -/

theorem Program.fetch?_wordless (program : Program) (pc : Int) :
    Program.fetch? program.wordless pc = (program.fetch? pc).map Instruction.wordless := by
  rw [fetch?, fetch?]
  split
  · rfl
  · rw [wordless, Array.getElem?_map]

theorem Front.fetch_wordless (program : Program) (pc : Int) :
    Front.fetch program.wordless pc = (Front.fetch program pc).wordless := by
  rw [fetch, fetch, Program.fetch?_wordless]
  rfl

theorem Decoded.isStall_wordless (decoded : Decoded) :
    decoded.wordless.isStall = decoded.isStall := by
  cases decoded <;> rfl

theorem Decoded.latch_wordless (decoded : Decoded) :
    decoded.wordless.latch = decoded.latch.wordless := by
  cases decoded <;> rfl

theorem cycleLog_wordless (cycle : Int) (executed : Executed) (decoded : Decoded) :
    cycleLog cycle executed.wordless decoded.wordless = cycleLog cycle executed decoded := by
  cases decoded <;> rfl

namespace State

variable (state : State) (program : Program)

theorem front_wordless (pc : Int) (executed : Executed) (decoded : Decoded) :
    state.wordless.front program.wordless pc executed.wordless decoded.wordless =
      (state.front program pc executed decoded).wordless := by
  have htaken : executed.wordless.taken = executed.taken := rfl
  rw [front, front, Decoded.isStall_wordless, Front.fetch_wordless, htaken]
  cases executed.taken <;> cases decoded.isStall <;> rfl

theorem settled_wordless (pc : Int) (memWb : MemWb) (executed : Executed) (decoded : Decoded) :
    state.wordless.settled program.wordless pc memWb.wordless executed.wordless decoded.wordless =
      (state.settled program pc memWb executed decoded).wordless := by
  have htaken : executed.wordless.taken = executed.taken := rfl
  have hissued : (if executed.taken then {} else decoded.latch.wordless : IdEx) =
      (if executed.taken then {} else decoded.latch : IdEx).wordless := by
    split <;> rfl
  rw [settled, front_wordless, htaken, Decoded.latch_wordless, hissued]
  rfl

theorem advance_wordless (core : Core) (memWb : MemWb) (executed : Executed) (decoded : Decoded) :
    state.wordless.advance program.wordless core memWb.wordless executed.wordless
        decoded.wordless =
      (state.advance program core memWb executed decoded).wordless := by
  have hsize : (Program.wordless program).size = program.size := Array.size_map
  rw [advance_eq, advance_eq, settled_wordless, front_wordless, cycleLog_wordless,
    Decoded.isStall_wordless, Latches.isDrained_wordless, hsize]
  simp only [State.wordless, apply_ite (Option.map Instruction.wordless)]
  rfl

/-- A cycle goes the same way without texts. -/
theorem step_wordless :
    state.wordless.step program.wordless =
      ((state.step program).1.wordless, (state.step program).2) := by
  cases hlive : state.core.halted with
  | true =>
      have hwordless : state.wordless.core.halted = true := hlive
      rw [step_of_halted hlive, step_of_halted hwordless]
  | false =>
      have hwordless : state.wordless.core.halted = false := hlive
      have hsame := writeBack_wordless state.core state.latches.memWb
      cases hwriteBack : writeBack state.core state.latches.memWb with
      | mk core fault =>
          rw [hwriteBack] at hsame
          cases fault with
          | some fault =>
              rw [step_of_writeBack_fault hlive hwriteBack, step_of_writeBack_fault hwordless hsame]
              rfl
          | none =>
              have haccess : accessMemory core.memory state.wordless.latches.exMem = _ :=
                accessMemory_wordless core.memory state.latches.exMem
              have hexecute : execute state.wordless.latches = _ :=
                execute_wordless state.latches
              have hoperands : (execute state.wordless.latches).operands =
                  (execute state.latches).operands := by rw [hexecute]; rfl
              by_cases hnameable : (execute state.latches).operands.Nameable
              · have hstill := hoperands ▸ hnameable
                have hdecoded :=
                  decode_wordless core.registers state.latches.ifId state.latches.idEx
                cases hdecode : decode core.registers state.latches.ifId state.latches.idEx with
                | error fault =>
                    rw [hdecode] at hdecoded
                    rw [step_of_decode_fault hlive hwriteBack hnameable hdecode,
                      step_of_decode_fault hwordless hsame hstill hdecoded, haccess, hexecute]
                    rfl
                | ok decoded =>
                    rw [hdecode] at hdecoded
                    rw [step_eq_advance hlive hwriteBack hnameable hdecode,
                      step_eq_advance hwordless hsame hstill hdecoded, haccess, hexecute,
                      ← advance_wordless]
                    rfl
              · have hstill := hoperands ▸ hnameable
                rw [step_of_not_nameable hlive hwriteBack hnameable,
                  step_of_not_nameable hwordless hsame hstill, haccess, hoperands]
                rfl

theorem snapshot_wordless : state.wordless.snapshot = state.snapshot.wordless := by
  have hview : ∀ stage, state.wordless.stageView stage = (state.stageView stage).wordless := by
    intro stage
    have hflight : state.wordless.inFlight? stage =
        (state.inFlight? stage).map Instruction.wordless := by
      cases stage <;> rfl
    rw [stageView, stageView, hflight, StageView.wordless]
    cases state.inFlight? stage with
    | none => rfl
    | some instruction =>
        simp only [Option.map_some, Option.bind_some, Instruction.display?, Instruction.wordless]
        split <;> rfl
  rw [snapshot, funext hview]
  simp only [Snapshot.wordless, snapshot_stages_get]
  rfl

end State

end Pipeline

end FiveStage
