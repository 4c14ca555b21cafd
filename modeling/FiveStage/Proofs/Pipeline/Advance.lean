import FiveStage.Pipeline.Cycle

/-!
# A cycle without a fault

If write-back, execute and decode have no fault, a cycle is `State.advance` of what the stages
put out (`State.step_eq_advance`). The lemmas here say what that makes of each part of the state,
so that no proof about cycles has to unfold it.
-/

namespace FiveStage.Pipeline.State

/-- Where the front of the pipeline goes: a taken branch comes before a stall, and a stall
before the next word. -/
def front (state : State) (program : Program) (pc : Int) (executed : Executed)
    (decoded : Decoded) : Front :=
  if executed.taken then .redirect pc executed.latch.target
  else if decoded.isStall then .hold state
  else .fetch program pc

/-- The latches behind a cycle. -/
def settled (state : State) (program : Program) (pc : Int) (memWb : MemWb) (executed : Executed)
    (decoded : Decoded) : Latches :=
  { ifId := (state.front program pc executed decoded).latch
    idEx := if executed.taken then {} else decoded.latch
    exMem := executed.latch
    memWb }

/-- The machine behind write-back and memory access, with a branch counted. -/
def behind (core : Core) (memory : Memory) (executed : Executed) : Core :=
  { core with
    memory
    counters :=
      if executed.branched then core.counters.countBranch executed.taken else core.counters }

variable {state : State} {program : Program} {core : Core} {memory : Memory} {memWb : MemWb}
  {executed : Executed} {decoded : Decoded}

theorem step_eq_advance (hlive : state.core.halted = false)
    (hwriteBack : writeBack state.core state.latches.memWb = (core, none))
    (hnameable : (execute state.latches).operands.Nameable)
    (hdecode : decode core.registers state.latches.ifId state.latches.idEx = .ok decoded) :
    state.step program =
      (state.advance program
        (behind core (accessMemory core.memory state.latches.exMem).1 (execute state.latches))
        (accessMemory core.memory state.latches.exMem).2 (execute state.latches) decoded,
        none) := by
  simp only [step, hlive, hwriteBack, hnameable, hdecode]
  rfl

theorem step_of_writeBack_fault {fault : Fault} (hlive : state.core.halted = false)
    (hwriteBack : writeBack state.core state.latches.memWb = (core, some fault)) :
    state.step program = ({ state with core, log := {} }, some fault) := by
  simp [step, hlive, hwriteBack]

theorem step_of_not_nameable (hlive : state.core.halted = false)
    (hwriteBack : writeBack state.core state.latches.memWb = (core, none))
    (hlong : ¬ (execute state.latches).operands.Nameable) :
    let memory := (accessMemory core.memory state.latches.exMem).1
    let events := (execute state.latches).operands.eventsBefore (core.counters.cycles + 1)
    state.step program =
      ({ state with core := { core with memory }, log := { events } }, some .integerLength) := by
  simp only [step, hlive, hwriteBack, hlong]
  rfl

theorem step_of_decode_fault {fault : Fault} (hlive : state.core.halted = false)
    (hwriteBack : writeBack state.core state.latches.memWb = (core, none))
    (hnameable : (execute state.latches).operands.Nameable)
    (hdecode : decode core.registers state.latches.ifId state.latches.idEx = .error fault) :
    let events := (execute state.latches).operands.events (core.counters.cycles + 1)
    let core := behind core (accessMemory core.memory state.latches.exMem).1 (execute state.latches)
    state.step program = ({ state with core, log := { events } }, some fault) := by
  simp only [step, hlive, hwriteBack, hnameable, hdecode]
  rfl

section

variable (state program core memory memWb executed decoded)

@[simp] theorem registers_behind : (behind core memory executed).registers = core.registers := rfl
@[simp] theorem memory_behind : (behind core memory executed).memory = memory := rfl
@[simp] theorem pc_behind : (behind core memory executed).pc = core.pc := rfl

theorem counters_behind :
    (behind core memory executed).counters =
      if executed.branched then core.counters.countBranch executed.taken
      else core.counters := rfl

@[simp] theorem completed_behind :
    (behind core memory executed).counters.completed = core.counters.completed := by
  rw [counters_behind]
  split <;> rfl

@[simp] theorem cycles_behind :
    (behind core memory executed).counters.cycles = core.counters.cycles := by
  rw [counters_behind]
  split <;> rfl

@[simp] theorem stalls_behind :
    (behind core memory executed).counters.stalls = core.counters.stalls := by
  rw [counters_behind]
  split <;> rfl

@[simp] theorem forwards_behind :
    (behind core memory executed).counters.forwards = core.counters.forwards := by
  rw [counters_behind]
  split <;> rfl

theorem branches_behind :
    (behind core memory executed).counters.branches =
      core.counters.branches + if executed.branched then 1 else 0 := by
  rw [counters_behind]
  split
  · rfl
  · rw [Int.add_zero]

theorem mispredictions_behind (h : executed.taken = true → executed.branched = true) :
    (behind core memory executed).counters.mispredictions =
      core.counters.mispredictions + if executed.taken then 1 else 0 := by
  rw [counters_behind]
  split
  · rfl
  · rename_i hbranched
    rw [if_neg fun htaken => hbranched (h htaken), Int.add_zero]

@[simp] theorem registers_advance :
    (state.advance program core memWb executed decoded).core.registers = core.registers := rfl

@[simp] theorem memory_advance :
    (state.advance program core memWb executed decoded).core.memory = core.memory := rfl

@[simp] theorem pc_advance :
    (state.advance program core memWb executed decoded).core.pc =
      (state.front program core.pc executed decoded).pc := rfl

@[simp] theorem ifId_advance :
    (state.advance program core memWb executed decoded).latches.ifId =
      (state.front program core.pc executed decoded).latch := rfl

@[simp] theorem idEx_advance :
    (state.advance program core memWb executed decoded).latches.idEx =
      if executed.taken then {} else decoded.latch := rfl

@[simp] theorem exMem_advance :
    (state.advance program core memWb executed decoded).latches.exMem = executed.latch := rfl

@[simp] theorem memWb_advance :
    (state.advance program core memWb executed decoded).latches.memWb = memWb := rfl

@[simp] theorem cycles_advance :
    (state.advance program core memWb executed decoded).core.counters.cycles =
      core.counters.cycles + 1 := rfl

@[simp] theorem completed_advance :
    (state.advance program core memWb executed decoded).core.counters.completed =
      core.counters.completed := rfl

@[simp] theorem branches_advance :
    (state.advance program core memWb executed decoded).core.counters.branches =
      core.counters.branches := rfl

@[simp] theorem mispredictions_advance :
    (state.advance program core memWb executed decoded).core.counters.mispredictions =
      core.counters.mispredictions := rfl

@[simp] theorem stalls_advance :
    (state.advance program core memWb executed decoded).core.counters.stalls =
      core.counters.stalls + if decoded.isStall then 1 else 0 := rfl

@[simp] theorem forwards_advance :
    (state.advance program core memWb executed decoded).core.counters.forwards =
      core.counters.forwards + executed.operands.bypasses.length := rfl

theorem log_advance :
    (state.advance program core memWb executed decoded).log =
      cycleLog (core.counters.cycles + 1) executed decoded := rfl

/-- The whole state behind a cycle. -/
theorem advance_eq :
    state.advance program core memWb executed decoded =
      { core :=
          { core with
            pc := (state.front program core.pc executed decoded).pc
            counters :=
              { core.counters with
                cycles := core.counters.cycles + 1
                stalls := core.counters.stalls + if decoded.isStall then 1 else 0
                forwards := core.counters.forwards + executed.operands.bypasses.length }
            halted := (state.settled program core.pc memWb executed decoded).isDrained &&
              decide
                ((program.size : Int) ≤ (state.front program core.pc executed decoded).pc / 4) }
        latches := state.settled program core.pc memWb executed decoded
        fetched :=
          if (state.settled program core.pc memWb executed decoded).isDrained &&
              decide ((program.size : Int) ≤ (state.front program core.pc executed decoded).pc / 4)
          then none
          else (state.front program core.pc executed decoded).fetched
        log := cycleLog (core.counters.cycles + 1) executed decoded } := rfl

/-- A cycle halts the machine if nothing is in flight and fetch is past the end. -/
theorem halted_advance :
    (state.advance program core memWb executed decoded).core.halted =
      ((state.advance program core memWb executed decoded).latches.isDrained &&
        decide ((program.size : Int) ≤
          (state.advance program core memWb executed decoded).core.pc / 4)) := rfl

end

theorem front_of_taken (h : executed.taken = true) (pc : Int) :
    state.front program pc executed decoded = .redirect pc executed.latch.target :=
  if_pos h

theorem front_of_stall (h : executed.taken = false) (hstall : decoded.isStall = true) (pc : Int) :
    state.front program pc executed decoded = .hold state := by
  rw [front, h, hstall]
  rfl

theorem front_of_issue (h : executed.taken = false) (hissue : decoded.isStall = false)
    (pc : Int) : state.front program pc executed decoded = .fetch program pc := by
  rw [front, h, hissue]
  rfl

end FiveStage.Pipeline.State
