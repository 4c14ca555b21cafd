import FiveStage.Pipeline.Snapshot
import FiveStage.Proofs.Pipeline.Faulting

/-!
# Words in a pipeline

Instructions may ask for registers that do not exist and have immediates of any size, but all they
can put into a register, into memory or into a latch are words. The arithmetic unit and every write
wrap their values. What is taken over as it is, by a bypass or out of memory, was a word where it
comes from. A cycle keeps this up with any program, also one that ends in a fault
(`State.holdsWords_step`).
-/

namespace FiveStage

namespace Pipeline

/-- Whatever the latches hand on is a word. -/
structure Latches.HoldWords (latches : Latches) : Prop where
  rsValue : Word.InRange latches.idEx.rsValue
  rtValue : Word.InRange latches.idEx.rtValue
  aluResult : Word.InRange latches.exMem.aluResult
  storeValue : Word.InRange latches.exMem.storeValue
  value : Word.InRange latches.memWb.value

/-! ## The stages -/

section

variable {latches : Latches} {registers : Registers} {memory : Memory}

theorem value_of_bypass? {exMem : ExMem} {memWb : MemWb} {operand : Option Int} {bypass : Bypass}
    (h : bypass? exMem memWb operand = some bypass) :
    bypass.value = exMem.aluResult ∨ bypass.value = memWb.value := by
  cases operand with
  | none => contradiction
  | some register =>
      rw [bypass?] at h
      split at h
      · contradiction
      · split at h
        · cases h
          exact .inl rfl
        · split at h
          · cases h
            exact .inr rfl
          · contradiction

theorem Latches.HoldWords.bypass (h : latches.HoldWords) {operand : Option Int} {value : Int}
    (hvalue : Word.InRange value) :
    Word.InRange (((bypass? latches.exMem latches.memWb operand).map (·.value)).getD value) := by
  cases hbypass : bypass? latches.exMem latches.memWb operand with
  | none => exact hvalue
  | some bypass =>
      rw [Option.map_some, Option.getD_some]
      obtain hvalue | hvalue := value_of_bypass? hbypass
      · rw [hvalue]
        exact h.aluResult
      · rw [hvalue]
        exact h.value

theorem Latches.HoldWords.rtValue_resolve (h : latches.HoldWords) :
    Word.InRange (Operands.resolve latches.idEx latches.exMem latches.memWb).rtValue := by
  rw [Operands.resolve]
  split
  · exact h.rtValue
  · exact h.bypass h.rtValue

theorem Latches.HoldWords.execute (h : latches.HoldWords) :
    Word.InRange (execute latches).latch.aluResult ∧
      Word.InRange (execute latches).latch.storeValue := by
  rw [Pipeline.execute]
  dsimp only
  split
  · exact ⟨Word.inRange_zero, Word.inRange_zero⟩
  · exact ⟨AluOp.inRange_result _ _ _, h.rtValue_resolve⟩

theorem sound_accessMemory (h : memory.Sound) (latch : ExMem) :
    (accessMemory memory latch).1.Sound := by
  rw [Pipeline.accessMemory]
  split
  · exact h
  · dsimp only
    split
    · exact h.write _ _
    · exact h

@[simp] theorem size_accessMemory (memory : Memory) (latch : ExMem) :
    (accessMemory memory latch).1.size = memory.size := by
  rw [accessMemory]
  split
  · rfl
  · dsimp only
    split
    · exact Memory.size_write _ _ _
    · rfl

theorem inRange_accessMemory (h : memory.Sound) {latch : ExMem}
    (haluResult : Word.InRange latch.aluResult) :
    Word.InRange (accessMemory memory latch).2.value := by
  rw [accessMemory]
  split
  · exact Word.inRange_zero
  · dsimp only
    split
    · split
      · exact h _
      · exact Word.inRange_zero
    · exact haluResult

theorem inRange_decode (h : registers.Sound) {ifId : IfId} {idEx : IdEx} {decoded : Decoded}
    (hdecode : decode registers ifId idEx = .ok decoded) :
    Word.InRange decoded.latch.rsValue ∧ Word.InRange decoded.latch.rtValue := by
  rw [decode] at hdecode
  split at hdecode
  · split at hdecode
    · split at hdecode
      · cases hdecode
        exact ⟨Word.inRange_zero, Word.inRange_zero⟩
      · contradiction
    · split at hdecode
      · contradiction
      · rename_i hrs
        split at hdecode
        · contradiction
        · rename_i hrt
          cases hdecode
          exact ⟨h.inRange_readOperand hrs, h.inRange_readOperand hrt⟩
  · cases hdecode
    exact ⟨Word.inRange_zero, Word.inRange_zero⟩

end

/-! ## The cycle -/

/-- The machine and its latches hold words and nothing else. How many registers there are is in
their type, and which of them is always zero in `Registers.Sound`. -/
structure State.HoldsWords (size : Int) (state : State) : Prop where
  registers : state.core.registers.Sound
  memory : ∀ word ∈ state.core.memory.words, Word.InRange word
  memorySize : (state.core.memory.size : Int) = size
  latches : state.latches.HoldWords

/-- What is shown of registers and memory are words. -/
structure Snapshot.HoldsWords (size : Int) (snapshot : Snapshot) : Prop where
  registers : snapshot.registers.Sound
  memory : ∀ word ∈ snapshot.memory.words, Word.InRange word
  memorySize : (snapshot.memory.size : Int) = size

namespace State

variable {size : Int} {program : Program} {state : State}

theorem HoldsWords.snapshot (h : state.HoldsWords size) : state.snapshot.HoldsWords size :=
  ⟨h.registers, h.memory, h.memorySize⟩

/-- The late stages leave words in registers and in memory. -/
theorem HoldsWords.late (h : state.HoldsWords size) :
    state.late.registers.Sound ∧ state.late.memory.Sound ∧ (state.late.memory.size : Int) = size :=
  ⟨h.registers.commit _, sound_accessMemory (Memory.sound_iff.2 h.memory) _,
    (congrArg Nat.cast (size_accessMemory _ _)).trans h.memorySize⟩

/-- So does a cycle that ends early, whatever it has logged. -/
theorem HoldsWords.broken (h : state.HoldsWords size) (log : CycleLog) :
    ({ state with core := state.broken, log } : State).HoldsWords size := by
  obtain ⟨-, hmemory, hsize⟩ := h.late
  constructor
  case registers => exact registers_broken state ▸ h.registers.commit _
  case latches => exact h.latches
  all_goals
    dsimp only
    rw [memory_broken]
    split
  case memory.isTrue => exact h.memory
  case memory.isFalse => exact Memory.sound_iff.1 hmemory
  case memorySize.isTrue => exact h.memorySize
  case memorySize.isFalse => exact hsize

/-- A cycle of any program keeps to words, and so does what it leaves behind if it ends in a
fault. -/
theorem holdsWords_step (program : Program) (h : state.HoldsWords size) :
    (state.step program).1.HoldsWords size := by
  cases hhalted : state.core.halted with
  | true =>
      rw [step_of_halted hhalted]
      exact h
  | false =>
      obtain ⟨hregisters, hmemory, hsize⟩ := h.late
      obtain ⟨fault, log, -, hstep⟩ | ⟨decoded, -, hdecode, hstep⟩ := step_cases program hhalted
      all_goals rw [hstep]
      · exact h.broken log
      · refine ⟨hregisters, Memory.sound_iff.1 hmemory, hsize, ?_⟩
        obtain ⟨haluResult, hstoreValue⟩ := h.latches.execute
        have hvalue := inRange_accessMemory (Memory.sound_iff.2 h.memory) h.latches.aluResult
        obtain ⟨hrsValue, hrtValue⟩ := inRange_decode hregisters hdecode
        constructor
        case rsValue =>
          rw [idEx_advance]
          split
          · exact Word.inRange_zero
          · exact hrsValue
        case rtValue =>
          rw [idEx_advance]
          split
          · exact Word.inRange_zero
          · exact hrtValue
        case aluResult => exact haluResult
        case storeValue => exact hstoreValue
        case value => exact hvalue

end State

end Pipeline

end FiveStage
