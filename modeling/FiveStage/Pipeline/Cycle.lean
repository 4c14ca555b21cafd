import FiveStage.Machine.Core
import FiveStage.Pipeline.CycleLog

/-!
# One clock cycle

`step` is one clock edge. The stages work from the last to the first: what is written
back in a cycle can be read by decode in the same cycle, and a taken branch in execute
overrides what fetch did. All stages look at the latches as they stood before, and the
four new latches are put in place together.

Branches are predicted not to be taken. A taken one drops the two instructions behind it
and moves the program counter to its target.

Three stages can fault, and only on instructions that no assembler makes: write-back on a
register that does not exist, execute on one whose bypass cannot be logged because its number
is too long, and decode on one that cannot be read, or cannot be logged when it is waited for.
The latches and the program counter then stay as they were, so the cycle can be tried again,
but what earlier stages of the cycle wrote to registers, memory and counters is kept.
-/

namespace FiveStage.Pipeline

/-- A program in memory: its instruction at index `i` has byte address `4 * i`. -/
abbrev Program := Array Instruction

/-- The instruction at a byte address, if there is one. -/
def Program.fetch? (program : Program) (pc : Int) : Option Instruction :=
  if pc < 0 ∨ pc % 4 ≠ 0 then none else program[(pc / 4).toNat]?

/-- Everything that one cycle hands to the next. -/
structure State where
  core : Core
  latches : Latches := {}
  /-- The instruction in fetch. -/
  fetched : Option Instruction := none
  log : CycleLog := {}
  deriving DecidableEq

/-! ## The stages -/

/-- The register write that a latch asks for. -/
def MemWb.commit? (latch : MemWb) : Option (Int × Int) :=
  if latch.isBubble || !latch.control.regWrite then none
  else latch.dest.map fun register => (register, latch.value)

/-- Write-back completes the instruction in the last latch. -/
def writeBack (core : Core) (latch : MemWb) : Core × Option Fault :=
  if latch.isBubble then (core, none)
  else
    let counters := { core.counters with completed := core.counters.completed + 1 }
    match latch.commit? with
    | none => ({ core with counters }, none)
    | some (register, value) =>
      match core.registers.write register value with
      | .ok registers => ({ core with counters, registers }, none)
      | .error fault => ({ core with counters }, some fault)

/-- Memory access reads for a load and writes for a store, at the address that the
arithmetic unit put out. -/
def accessMemory (memory : Memory) (latch : ExMem) : Memory × MemWb :=
  if latch.isBubble then (memory, {})
  else
    let loaded := if latch.control.memRead then memory.read latch.aluResult else 0
    let written :=
      if latch.control.memWrite then memory.write latch.aluResult latch.storeValue else memory
    (written,
      { instruction := latch.instruction
        pc := latch.pc
        value := if latch.control.memToReg then loaded else latch.aluResult
        dest := latch.dest
        control := latch.control })

/-- What execute hands on. -/
structure Executed where
  latch : ExMem
  operands : Operands
  /-- Whether a branch was resolved. -/
  branched : Bool
  /-- Whether it was taken. -/
  taken : Bool
  deriving DecidableEq

/-- Execute computes a result or an address, and resolves a branch by comparing its
operands. -/
def execute (latches : Latches) : Executed :=
  let idEx := latches.idEx
  let operands := Operands.resolve idEx latches.exMem latches.memWb
  if idEx.isBubble then { latch := {}, operands, branched := false, taken := false }
  else
    let a := operands.rsValue
    let b := if idEx.control.useImmediate then idEx.immediate.getD 0 else operands.rtValue
    let taken := idEx.control.isBranch && decide (a = b)
    { latch :=
        { instruction := idEx.instruction
          pc := idEx.pc
          aluResult := idEx.control.aluOp.result a b
          storeValue := operands.rtValue
          dest := idEx.dest
          control := idEx.control
          branchTaken := taken
          target := idEx.target }
      operands
      branched := idEx.control.isBranch
      taken }

/-- What decode hands on. -/
inductive Decoded where
  /-- The instruction waits for a load into the register. -/
  | stall (register : Int)
  | issue (latch : IdEx)
  deriving DecidableEq

namespace Decoded

def isStall : Decoded → Bool
  | .stall _ => true
  | .issue _ => false

/-- A stall sends a bubble down the pipeline. -/
def latch : Decoded → IdEx
  | .stall _ => {}
  | .issue latch => latch

end Decoded

/-- Decode sets the control lines and reads the operand registers, unless the
instruction has to wait. -/
def decode (registers : Registers) (ifId : IfId) (idEx : IdEx) : Except Fault Decoded :=
  match ifId.isBubble, ifId.instruction with
  | false, some instruction =>
    match loadUse? instruction idEx with
    | some register =>
      if Writable register then .ok (.stall register) else .error .integerLength
    | none =>
      match registers.readOperand instruction.rs with
      | .error fault => .error fault
      | .ok rsValue =>
        match registers.readOperand instruction.rt with
        | .error fault => .error fault
        | .ok rtValue =>
          .ok (.issue {
            instruction := some instruction
            pc := ifId.pc
            rsValue, rtValue
            dest := instruction.dest
            immediate := instruction.immediate
            target := instruction.target
            control := .ofOpcode instruction.opcode })
  | _, _ => .ok (.issue {})

/-- The front of the pipeline: what decode sees next, where fetch goes on, and what it
shows. -/
structure Front where
  latch : IfId
  pc : Int
  fetched : Option Instruction
  deriving DecidableEq

namespace Front

/-- Fetch takes the instruction at the program counter. -/
def fetch (program : Program) (pc : Int) : Front :=
  let instruction := program.fetch? pc
  { latch := ⟨instruction, pc⟩, pc := pc + 4, fetched := instruction }

/-- A stall presents the same instruction to decode again. -/
def hold (state : State) : Front :=
  { latch := state.latches.ifId, pc := state.core.pc, fetched := state.fetched }

/-- A taken branch drops what was fetched. Without a target the program counter stays. -/
def redirect (pc : Int) (target : Option Int) : Front :=
  { latch := {}, pc := target.getD pc, fetched := none }

end Front

/-! ## The cycle -/

/-- The log of a complete cycle. -/
def cycleLog (cycle : Int) (executed : Executed) (decoded : Decoded) : CycleLog :=
  let operands := executed.operands
  let stalls := match decoded with
    | .stall register => [register]
    | .issue _ => []
  { notes :=
      stalls.map (fun register => (.decode, .loadUse register)) ++
        (if executed.taken then [(.fetch, .flushed)] else []) ++
        (if operands.bypasses.isEmpty then []
          else [(.execute, .forwarded operands.forwarding)])
    stalled := decoded.isStall
    flushed := executed.taken
    forwarding := operands.forwarding
    events :=
      operands.events cycle ++ stalls.map (.stall cycle) ++
        (if executed.taken then [.flush cycle] else []) }

/-- Puts the results of all stages in place. `core` is the machine after write-back,
memory access and branch counting. -/
def State.advance (state : State) (program : Program) (core : Core) (memWb : MemWb)
    (executed : Executed) (decoded : Decoded) : State :=
  let front : Front :=
    if executed.taken then .redirect core.pc executed.latch.target
    else if decoded.isStall then .hold state
    else .fetch program core.pc
  let latches : Latches :=
    { ifId := front.latch
      idEx := if executed.taken then {} else decoded.latch
      exMem := executed.latch
      memWb }
  let counters : Counters :=
    { core.counters with
      cycles := core.counters.cycles + 1
      stalls := core.counters.stalls + if decoded.isStall then 1 else 0
      forwards := core.counters.forwards + executed.operands.bypasses.length }
  let halted := latches.isDrained && decide ((program.size : Int) ≤ front.pc / 4)
  { core := { core with pc := front.pc, counters, halted }
    latches
    fetched := if halted then none else front.fetched
    log := cycleLog counters.cycles executed decoded }

/-- One clock edge. A halted machine does not move. A fault is reported beside the state
that it leaves behind. -/
def State.step (program : Program) (state : State) : State × Option Fault :=
  if state.core.halted then (state, none)
  else
    match writeBack state.core state.latches.memWb with
    | (core, some fault) => ({ state with core, log := {} }, some fault)
    | (core, none) =>
      let (memory, memWb) := accessMemory core.memory state.latches.exMem
      let executed := execute state.latches
      let cycle := core.counters.cycles + 1
      if executed.operands.Nameable then
        let counters :=
          if executed.branched then core.counters.countBranch executed.taken else core.counters
        let core := { core with memory, counters }
        match decode core.registers state.latches.ifId state.latches.idEx with
        | .error fault =>
          ({ state with core, log := { events := executed.operands.events cycle } }, some fault)
        | .ok decoded => (state.advance program core memWb executed decoded, none)
      else
        let events := executed.operands.eventsBefore cycle
        ({ state with core := { core with memory }, log := { events } }, some .integerLength)

@[simp] theorem State.step_of_halted {program : Program} {state : State}
    (h : state.core.halted = true) : state.step program = (state, none) := by
  simp [State.step, h]

@[simp] theorem cycles_writeBack (core : Core) (latch : MemWb) :
    (writeBack core latch).1.counters.cycles = core.counters.cycles := by
  unfold writeBack
  split
  · rfl
  · dsimp only
    split
    · rfl
    · split <;> rfl

/-- A clock edge without a fault is a cycle, unless the machine is halted. -/
theorem State.cycles_step {program : Program} {state : State}
    (hlive : state.core.halted = false) (hfault : (state.step program).2 = none) :
    (state.step program).1.core.counters.cycles = state.core.counters.cycles + 1 := by
  have hcycles := cycles_writeBack state.core state.latches.memWb
  rw [State.step, hlive, if_neg Bool.false_ne_true] at hfault ⊢
  generalize writeBack state.core state.latches.memWb = written at hcycles hfault ⊢
  obtain ⟨core, _ | fault⟩ := written
  · dsimp only at hcycles hfault ⊢
    split at hfault
    · rename_i hnameable
      rw [if_pos hnameable]
      cases hdecoded : decode core.registers state.latches.ifId state.latches.idEx with
      | error fault => rw [hdecoded] at hfault; contradiction
      | ok decoded =>
        show (if _ then _ else _ : Counters).cycles + 1 = _
        split <;> exact congrArg (· + 1) hcycles
    · contradiction
  · contradiction

end FiveStage.Pipeline
