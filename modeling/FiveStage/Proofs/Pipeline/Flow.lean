import FiveStage.Proofs.Pipeline.CycleLog

/-!
# From stage to stage

A snapshot shows the instruction of each stage by its text, and a bubble by none. From one cycle
to the next the texts move on by one stage (`State.flows_step`): the last stages always take over
what was in front of them, execute takes over from decode unless the cycle stalls or flushes, and
what was in the last stage is counted. So no instruction is lost on the way from execute to
write-back, and none is shown twice in a stage behind decode.

The text shown in fetch is kept apart from the latch behind it. That the two agree is the one part
that a cycle has to find true to keep it true (`State.FetchShown`).
-/

namespace FiveStage.Pipeline

/-- The text shown in a stage. -/
def Snapshot.text? (snapshot : Snapshot) (stage : Stage) : Option String :=
  (snapshot.stages.get stage).text

/-- A snapshot shows the instructions of another one a cycle later. -/
structure Snapshot.Flows (before after : Snapshot) : Prop where
  writeBack : after.text? .writeBack = before.text? .memory
  memory : after.text? .memory = before.text? .execute
  stalled : after.stalled = true →
    after.text? .execute = none ∧ after.text? .decode = before.text? .decode
  flushed : after.flushed = true → after.text? .execute = none ∧ after.text? .decode = none
  issued : after.stalled = false → after.flushed = false →
    after.text? .execute = before.text? .decode
  fetch : after.text? .fetch = after.text? .decode
  completed : after.counters.completed =
    before.counters.completed + if (before.text? .writeBack).isSome then 1 else 0

/-- Fetch shows what is in the latch behind it. -/
def State.FetchShown (state : State) : Prop :=
  state.snapshot.text? .fetch = state.snapshot.text? .decode

/-! ## Texts and bubbles -/

/-- The text of the instruction in a slot, if there is one that is displayed. -/
def display? (slot : Option Instruction) : Option String := slot.bind (·.display?)

theorem State.text?_snapshot (state : State) (stage : Stage) :
    state.snapshot.text? stage = display? (state.inFlight? stage) := by
  rw [Snapshot.text?, snapshot_stages_get]
  rfl

theorem IfId.display?_eq_none_of_isBubble {latch : IfId} (h : latch.isBubble = true) :
    display? latch.instruction = none := by
  cases hslot : latch.instruction with
  | none => rfl
  | some instruction =>
      rw [IfId.isBubble, hslot, Option.all_some, decide_eq_true_eq] at h
      exact if_pos h

/-- Behind decode, what is displayed is what is not a bubble. -/
theorem Genuine.isSome_display? {slot : Option Instruction} {control : Control}
    {dest : Option Int} (h : Genuine slot control dest) :
    (display? slot).isSome = !(slot.isNone || control.isNop) := by
  cases h with
  | empty => rfl
  | @carry instruction hformed =>
      by_cases hnop : instruction.opcode = .nop
      · simp [display?, Instruction.display?, hnop, Control.ofOpcode]
      · simp [display?, Instruction.display?, hnop, Control.isNop_ofOpcode hformed hnop]

theorem Genuine.display?_eq_none {slot : Option Instruction} {control : Control}
    {dest : Option Int} (h : Genuine slot control dest)
    (hbubble : (slot.isNone || control.isNop) = true) : display? slot = none := by
  rw [← Option.isNone_iff_eq_none, ← Option.not_isSome, h.isSome_display?, hbubble]
  rfl

@[simp] theorem display?_ofSlot (registers : Registers) (pc : Int) (slot : Option Instruction) :
    display? (IdEx.ofSlot registers pc slot).instruction = display? slot := by
  cases slot with
  | none => rfl
  | some instruction =>
      rw [IdEx.ofSlot]
      split
      · rename_i hnop
        exact (if_pos hnop).symm
      · rfl

theorem display?_execute {latches : Latches} (h : latches.WellFormed) :
    display? (execute latches).latch.instruction = display? latches.idEx.instruction := by
  rw [execute]
  dsimp only
  split
  · rename_i hbubble
    exact (h.idEx.display?_eq_none hbubble).symm
  · rfl

theorem display?_accessMemory {latches : Latches} (h : latches.WellFormed) (memory : Memory) :
    display? (accessMemory memory latches.exMem).2.instruction =
      display? latches.exMem.instruction := by
  rw [accessMemory]
  split
  · rename_i hbubble
    exact (h.exMem.display?_eq_none hbubble).symm
  · rfl

namespace State

variable {program : Program} {state : State}

theorem stalled_step_of_live (h : state.latches.WellFormed) (hlive : state.core.halted = false) :
    (state.step program).1.snapshot.stalled = state.decoded.isStall :=
  congrArg CycleLog.stalled (log_step_of_live h hlive)

theorem flushed_step_of_live (h : state.latches.WellFormed) (hlive : state.core.halted = false) :
    (state.step program).1.snapshot.flushed = (execute state.latches).taken :=
  congrArg CycleLog.flushed (log_step_of_live h hlive)

/-! ## The front -/

/-- Fetch shows what it puts into its latch. A machine that halts has nothing to show. -/
theorem fetchShown_advance (hshown : state.FetchShown) (core : Core) (memWb : MemWb)
    (executed : Executed) (decoded : Decoded) :
    (state.advance program core memWb executed decoded).FetchShown := by
  have hfront : display? (state.front program core.pc executed decoded).fetched =
      display? (state.front program core.pc executed decoded).latch.instruction := by
    rw [front]
    split
    · rfl
    · split
      · rw [FetchShown, text?_snapshot, text?_snapshot] at hshown
        exact hshown
      · rfl
  rw [FetchShown, text?_snapshot, text?_snapshot]
  cases hhalted : (state.advance program core memWb executed decoded).core.halted with
  | true =>
      have hfetched : (state.advance program core memWb executed decoded).fetched = none :=
        if_pos hhalted
      rw [halted_advance, Bool.and_eq_true, Latches.isDrained] at hhalted
      simp only [Bool.and_eq_true] at hhalted
      show display? (state.advance program core memWb executed decoded).fetched = _
      rw [hfetched]
      exact (IfId.display?_eq_none_of_isBubble hhalted.1.1.1.1).symm
  | false =>
      have hfetched : (state.advance program core memWb executed decoded).fetched =
          (state.front program core.pc executed decoded).fetched :=
        if_neg (by rw [← Bool.not_eq_true] at hhalted; exact hhalted)
      show display? (state.advance program core memWb executed decoded).fetched = _
      rw [hfetched]
      exact hfront

theorem fetchShown_step (h : state.latches.WellFormed) (hshown : state.FetchShown) :
    (state.step program).1.FetchShown := by
  cases hhalted : state.core.halted with
  | true => rw [step_of_halted hhalted]; exact hshown
  | false =>
      rw [step_of_live h hhalted]
      exact fetchShown_advance hshown _ _ _ _

/-- Decode hands on what is in front of it, unless that has to wait. -/
theorem latch_decoded_of_issue (hissue : state.decoded.isStall = false) :
    state.decoded.latch =
      .ofSlot (retire state.core state.latches.memWb).registers state.latches.ifId.pc
        state.latches.ifId.instruction := by
  rw [decoded] at hissue ⊢
  cases hwait : state.latches.ifId.wait? state.latches.idEx with
  | none => rfl
  | some register =>
      rw [hwait] at hissue
      contradiction

/-- A stall hands on nothing. -/
theorem latch_of_isStall {decoded : Decoded} (hstall : decoded.isStall = true) :
    decoded.latch = {} := by
  cases decoded with
  | stall register => rfl
  | issue latch => contradiction

theorem not_taken_of_stall (h : state.latches.WellFormed) (hstall : state.decoded.isStall = true) :
    (execute state.latches).taken = false := by
  refine Bool.of_not_eq_true fun htaken => ?_
  rw [isStall_decoded_of_taken h htaken] at hstall
  contradiction

/-! ## A cycle -/

section

variable (h : state.latches.WellFormed) (hlive : state.core.halted = false)
include h hlive

theorem memWb_step_of_live :
    (state.step program).1.latches.memWb =
      (accessMemory state.core.memory state.latches.exMem).2 := by
  rw [step_of_live h hlive, memWb_advance]

theorem exMem_step_of_live :
    (state.step program).1.latches.exMem = (execute state.latches).latch := by
  rw [step_of_live h hlive, exMem_advance]

theorem idEx_step_of_live :
    (state.step program).1.latches.idEx =
      if (execute state.latches).taken then {} else state.decoded.latch := by
  rw [step_of_live h hlive, idEx_advance]

theorem ifId_step_of_live :
    (state.step program).1.latches.ifId =
      (state.front program state.core.pc (execute state.latches) state.decoded).latch := by
  rw [step_of_live h hlive, ifId_advance]
  rfl

theorem completed_step_of_live :
    (state.step program).1.core.counters.completed =
      state.core.counters.completed + if state.latches.memWb.isBubble then 0 else 1 := by
  rw [step_of_live h hlive, completed_advance, completed_behind]
  rfl

/-- A cycle takes the texts one stage on. -/
theorem flows_step (hshown : state.FetchShown) :
    Snapshot.Flows state.snapshot (state.step program).1.snapshot := by
  constructor
  case writeBack =>
    rw [text?_snapshot, text?_snapshot]
    refine Eq.trans ?_ (display?_accessMemory h state.core.memory)
    exact congrArg (fun latch : MemWb => display? latch.instruction) (memWb_step_of_live h hlive)
  case memory =>
    rw [text?_snapshot, text?_snapshot]
    refine Eq.trans ?_ (display?_execute h)
    exact congrArg (fun latch : ExMem => display? latch.instruction) (exMem_step_of_live h hlive)
  case stalled =>
    intro hstalled
    rw [stalled_step_of_live h hlive] at hstalled
    have htaken := not_taken_of_stall h hstalled
    refine ⟨?_, ?_⟩
    · rw [text?_snapshot]
      show display? (state.step program).1.latches.idEx.instruction = none
      rw [idEx_step_of_live h hlive, htaken, latch_of_isStall hstalled]
      rfl
    · rw [text?_snapshot, text?_snapshot]
      show display? (state.step program).1.latches.ifId.instruction = _
      rw [ifId_step_of_live h hlive, front_of_stall htaken hstalled]
      rfl
  case flushed =>
    intro hflushed
    rw [flushed_step_of_live h hlive] at hflushed
    refine ⟨?_, ?_⟩
    · rw [text?_snapshot]
      show display? (state.step program).1.latches.idEx.instruction = none
      rw [idEx_step_of_live h hlive, if_pos hflushed]
      rfl
    · rw [text?_snapshot]
      show display? (state.step program).1.latches.ifId.instruction = none
      rw [ifId_step_of_live h hlive, front_of_taken hflushed]
      rfl
  case issued =>
    intro hissue hkept
    rw [stalled_step_of_live h hlive] at hissue
    rw [flushed_step_of_live h hlive] at hkept
    rw [text?_snapshot, text?_snapshot]
    show display? (state.step program).1.latches.idEx.instruction = _
    rw [idEx_step_of_live h hlive, hkept, if_neg Bool.false_ne_true,
      latch_decoded_of_issue hissue]
    exact display?_ofSlot _ _ _
  case fetch => exact fetchShown_step h hshown
  case completed =>
    refine (completed_step_of_live h hlive).trans ?_
    have hbubble : (state.snapshot.text? .writeBack).isSome = !state.latches.memWb.isBubble := by
      rw [text?_snapshot]
      exact h.memWb.isSome_display?
    rw [hbubble]
    show _ = state.core.counters.completed + _
    cases state.latches.memWb.isBubble <;> rfl

/-! ## The way to write-back -/

/-- With an instruction in flight behind execute a cycle does not halt the machine. -/
theorem live_step_of_busy (hbusy : (state.step program).1.latches.exMem.isBubble = false ∨
    (state.step program).1.latches.memWb.isBubble = false) :
    (state.step program).1.core.halted = false := by
  have hflight : (state.step program).1.latches.isDrained = false := by
    rw [Latches.isDrained]
    obtain hbusy | hbusy := hbusy <;> simp [hbusy]
  rw [step_of_live h hlive] at hflight ⊢
  rw [halted_advance, hflight]
  rfl

/-- A machine that shows an instruction in execute goes on. -/
theorem live_step_of_execute (hshows : (state.snapshot.text? .execute).isSome = true) :
    (state.step program).1.core.halted = false := by
  apply live_step_of_busy h hlive
  left
  have hgenuine := (genuine_execute h.idEx).isSome_display?
  rw [display?_execute h] at hgenuine
  rw [text?_snapshot] at hshows
  rw [exMem_step_of_live h hlive]
  exact (Bool.not_eq_true' _).mp (hgenuine.symm.trans hshows)

/-- A machine that shows an instruction in memory access goes on. -/
theorem live_step_of_memory (hshows : (state.snapshot.text? .memory).isSome = true) :
    (state.step program).1.core.halted = false := by
  apply live_step_of_busy h hlive
  right
  have hgenuine := (@genuine_accessMemory state.core.memory _ h.exMem).isSome_display?
  rw [display?_accessMemory h] at hgenuine
  rw [text?_snapshot] at hshows
  rw [memWb_step_of_live h hlive]
  exact (Bool.not_eq_true' _).mp (hgenuine.symm.trans hshows)

/-- An instruction shown in execute is shown in write-back two cycles later, and counted in the
third. -/
theorem arrives (hprogram : program.WellFormed) (hshown : state.FetchShown) {text : String}
    (htext : state.snapshot.text? .execute = some text) :
    let accessed := ((state.step program).1.step program).1
    accessed.snapshot.text? .writeBack = some text ∧
      (accessed.step program).1.core.counters.completed =
        accessed.core.counters.completed + 1 := by
  intro accessed
  have hexecuted := wellFormed_step hprogram h
  have hshownNext : (state.step program).1.FetchShown := fetchShown_step h hshown
  have hmemory : (state.step program).1.snapshot.text? .memory = some text :=
    (flows_step h hlive hshown).memory.trans htext
  have hliveNext : (state.step program).1.core.halted = false :=
    live_step_of_execute h hlive (by rw [htext]; rfl)
  have hwriteBack : accessed.snapshot.text? .writeBack = some text :=
    (flows_step hexecuted hliveNext hshownNext).writeBack.trans hmemory
  have hliveLast : accessed.core.halted = false :=
    live_step_of_memory hexecuted hliveNext (by rw [hmemory]; rfl)
  have hflows : Snapshot.Flows accessed.snapshot (accessed.step program).1.snapshot :=
    flows_step (wellFormed_step hprogram hexecuted) hliveLast (fetchShown_step hexecuted hshownNext)
  have hcounted := hflows.completed
  rw [hwriteBack] at hcounted
  exact ⟨hwriteBack, hcounted⟩

end

end State

end FiveStage.Pipeline
