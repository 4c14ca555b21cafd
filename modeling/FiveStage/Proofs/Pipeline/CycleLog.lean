import FiveStage.Pipeline.Snapshot
import FiveStage.Proofs.Pipeline.FaultFree

/-!
# One story of a cycle

A cycle shows its hazards in five places: the events, three of the counters, two flags, the
sources of the operands, and the notes beside the stages. They are filled at different points of
the cycle, but all of them come down to three things: which operands execute bypassed, which
register decode waits for, and whether a branch was taken (`cycleLog`). So each place can be read
off any other, and what a snapshot shows after a cycle is coherent with the snapshot before it
(`State.coherent_step`).

That a cycle does not both stall and flush is the one fact about the machine in it. Decode waits
for a load in execute, and a flush is the work of a branch there.
-/

namespace FiveStage.Pipeline

/-! ## Reading a log -/

/-- The place of an event in the log of its cycle. -/
def Event.rank : Event → Nat
  | .forward _ .a _ _ => 0
  | .forward _ .b _ _ => 1
  | .stall _ _ => 2
  | .flush _ => 3

/-- The event tells of a bypass of the operand. -/
def Event.Feeds (side : OperandSide) (event : Event) : Prop :=
  event.kind = "FORWARD" ∧ event.reason = "operand-" ++ side.name

instance (side : OperandSide) : DecidablePred (Event.Feeds side) := fun event =>
  inferInstanceAs (Decidable (event.kind = "FORWARD" ∧ event.reason = "operand-" ++ side.name))

/-- The kind of the events that are noted beside a stage. -/
def Stage.hazard? : Stage → Option String
  | .fetch => some "FLUSH"
  | .decode => some "STALL"
  | .execute => some "FORWARD"
  | .memory | .writeBack => none

namespace Snapshot

/-- The number of logged events of a kind. -/
def logged (snapshot : Snapshot) (kind : String) : Nat :=
  snapshot.events.countP fun event => event.kind = kind

/-- The latch that the log says an operand was bypassed from. -/
def source? (snapshot : Snapshot) (side : OperandSide) : Option BypassSource :=
  (snapshot.events.find? fun event => event.Feeds side).bind Event.source?

/-- A snapshot tells the story of the cycle after the one that another shows. -/
structure Coherent (before after : Snapshot) : Prop where
  cycle : after.cycle = before.cycle + 1
  dated : ∀ event ∈ after.events, event.cycle = after.cycle
  /-- Operand A comes before operand B, then a stall, then a flush. -/
  ordered : (after.events.map Event.rank).Pairwise (· < ·)
  stalls : after.counters.stalls = before.counters.stalls + after.logged "STALL"
  stalled : after.logged "STALL" = if after.stalled then 1 else 0
  forwards : after.counters.forwards = before.counters.forwards + after.logged "FORWARD"
  forwards_le : after.logged "FORWARD" ≤ 2
  once : ∀ side, (after.events.countP fun event => event.Feeds side) ≤ 1
  mispredictions :
    after.counters.mispredictions = before.counters.mispredictions + after.logged "FLUSH"
  flushed : after.logged "FLUSH" = if after.flushed then 1 else 0
  apart : after.logged "STALL" = 0 ∨ after.logged "FLUSH" = 0
  sources : after.forwarding = ⟨after.source? .a, after.source? .b⟩
  noted : ∀ stage, (after.stages.get stage).note.isSome = true ↔
    ∃ event ∈ after.events, stage.hazard? = some event.kind

end Snapshot

@[simp] theorem Event.feeds_forward (cycle : Int) (side other : OperandSide) (register : Int)
    (source : BypassSource) :
    (Event.forward cycle side register source).Feeds other ↔ side = other := by
  cases side <;> cases other <;> simp [Event.Feeds, Event.kind, Event.reason, OperandSide.name]

@[simp] theorem Event.not_feeds_stall (side : OperandSide) (cycle register : Int) :
    ¬ (Event.stall cycle register).Feeds side := by
  simp [Event.Feeds, Event.kind]

@[simp] theorem Event.not_feeds_flush (side : OperandSide) (cycle : Int) :
    ¬ (Event.flush cycle).Feeds side := by
  simp [Event.Feeds, Event.kind]

/-! ## The log of a cycle -/

/-- The register that decode waits for. -/
def Decoded.wait? : Decoded → Option Int
  | .stall register => some register
  | .issue _ => none

theorem Decoded.isSome_wait? (decoded : Decoded) : decoded.wait?.isSome = decoded.isStall := by
  cases decoded <;> rfl

section

variable (cycle : Int) (executed : Executed) (decoded : Decoded)

/-- The event of a stall, if there is one. -/
def Decoded.events : List Event := (decoded.wait?.map (Event.stall cycle)).toList

/-- The event of a flush, if there is one. -/
def Executed.flushes : List Event := if executed.taken then [.flush cycle] else []

theorem events_cycleLog :
    (cycleLog cycle executed decoded).events =
      executed.operands.events cycle ++ decoded.events cycle ++ executed.flushes cycle := by
  cases decoded <;> rfl

theorem mem_events_iff (operands : Operands) (event : Event) :
    event ∈ operands.events cycle ↔
      (∃ bypass ∈ operands.rsBypass, event = .forward cycle .a bypass.register bypass.source) ∨
        ∃ bypass ∈ operands.rtBypass, event = .forward cycle .b bypass.register bypass.source := by
  simp only [Operands.events, Operands.bypasses]
  cases operands.rsBypass <;> cases operands.rtBypass <;> simp

theorem cycle_of_mem_cycleLog : ∀ event ∈ (cycleLog cycle executed decoded).events,
    event.cycle = cycle := by
  intro event hmem
  rw [events_cycleLog, List.mem_append, List.mem_append] at hmem
  obtain (hforward | hstall) | hflush := hmem
  · obtain ⟨bypass, -, rfl⟩ | ⟨bypass, -, rfl⟩ := (mem_events_iff cycle _ event).1 hforward <;> rfl
  · obtain ⟨register, -, rfl⟩ := by simpa [Decoded.events] using hstall
    rfl
  · obtain ⟨-, rfl⟩ := by simpa [Executed.flushes] using hflush
    rfl

/-- Of the four events that a cycle can have, in this order, any may be missing. -/
theorem ranks_sublist :
    ((cycleLog cycle executed decoded).events.map Event.rank).Sublist [0, 1, 2, 3] := by
  have hforwards : ((executed.operands.events cycle).map Event.rank).Sublist [0, 1] := by
    simp only [Operands.events, Operands.bypasses]
    cases executed.operands.rsBypass <;> cases executed.operands.rtBypass <;> simp [Event.rank]
  have hstall : ((decoded.events cycle).map Event.rank).Sublist [2] := by
    rw [Decoded.events]
    cases decoded.wait? <;> simp [Event.rank]
  have hflush : ((executed.flushes cycle).map Event.rank).Sublist [3] := by
    rw [Executed.flushes]
    split <;> simp [Event.rank]
  rw [events_cycleLog, List.map_append, List.map_append]
  exact (hforwards.append hstall).append hflush

/-- How many events of a kind a cycle logs. -/
theorem countP_kind_cycleLog (kind : String) :
    ((cycleLog cycle executed decoded).events.countP fun event => event.kind = kind) =
      (if "FORWARD" = kind then executed.operands.bypasses.length else 0) +
        (if "STALL" = kind ∧ decoded.isStall = true then 1 else 0) +
        (if "FLUSH" = kind ∧ executed.taken = true then 1 else 0) := by
  have hforwards : ((executed.operands.events cycle).countP fun event => event.kind = kind) =
      if "FORWARD" = kind then executed.operands.bypasses.length else 0 := by
    by_cases hkind : "FORWARD" = kind <;>
      simp [Operands.events, List.countP_map, Function.comp_def, Event.kind, hkind]
  have hstall : ((decoded.events cycle).countP fun event => event.kind = kind) =
      if "STALL" = kind ∧ decoded.isStall = true then 1 else 0 := by
    by_cases hkind : "STALL" = kind <;> cases decoded <;>
      simp [Decoded.events, Decoded.wait?, Decoded.isStall, Event.kind, hkind]
  have hflush : ((executed.flushes cycle).countP fun event => event.kind = kind) =
      if "FLUSH" = kind ∧ executed.taken = true then 1 else 0 := by
    by_cases hkind : "FLUSH" = kind <;> cases htaken : executed.taken <;>
      simp [Executed.flushes, htaken, Event.kind, hkind]
  rw [events_cycleLog, List.countP_append, List.countP_append, hforwards, hstall, hflush]

/-- The bypass of an operand. -/
def Operands.bypass? (operands : Operands) : OperandSide → Option Bypass
  | .a => operands.rsBypass
  | .b => operands.rtBypass

/-- The events of an operand are the one of its bypass, if it has one. -/
theorem filter_feeds_cycleLog (side : OperandSide) :
    ((cycleLog cycle executed decoded).events.filter fun event => event.Feeds side) =
      ((executed.operands.bypass? side).map fun bypass =>
        Event.forward cycle side bypass.register bypass.source).toList := by
  have hstall : (decoded.events cycle).filter (fun event => event.Feeds side) = [] := by
    simp [Decoded.events]
  have hflush : (executed.flushes cycle).filter (fun event => event.Feeds side) = [] := by
    rw [Executed.flushes]
    split <;> simp
  rw [events_cycleLog, List.filter_append, List.filter_append, hstall, hflush, List.append_nil,
    List.append_nil, Operands.events, Operands.bypasses]
  cases side <;> cases hrs : executed.operands.rsBypass <;>
    cases hrt : executed.operands.rtBypass <;> simp [Operands.bypass?, hrs, hrt]

theorem note?_cycleLog (stage : Stage) :
    (cycleLog cycle executed decoded).note? stage =
      match stage with
      | .fetch => if executed.taken then some .flushed else none
      | .decode => decoded.wait?.map .loadUse
      | .execute =>
        if executed.operands.bypasses.isEmpty then none
        else some (.forwarded executed.operands.forwarding)
      | .memory | .writeBack => none := by
  cases stage <;> cases decoded <;> cases htaken : executed.taken <;>
    cases hempty : executed.operands.bypasses.isEmpty <;>
    simp [CycleLog.note?, cycleLog, Decoded.wait?, htaken, hempty]

end

/-! ## Cycles -/

theorem Genuine.not_load_and_branch {instruction : Option Instruction} {control : Control}
    {dest : Option Int} (h : Genuine instruction control dest) (hload : control.memRead = true) :
    control.isBranch = false := by
  cases h with
  | empty => rfl
  | @carry instruction _ =>
      cases hopcode : instruction.opcode <;>
        simp [hopcode, Control.ofOpcode, Control.nop] at hload ⊢

namespace State

variable {program : Program} {state : State}

theorem log_step_of_live (h : state.latches.WellFormed) (hlive : state.core.halted = false) :
    (state.step program).1.log =
      cycleLog (state.core.counters.cycles + 1) (execute state.latches) state.decoded := by
  rw [step_of_live h hlive, log_advance, cycles_behind]
  rfl

theorem forwards_step_of_live (h : state.latches.WellFormed) (hlive : state.core.halted = false) :
    (state.step program).1.core.counters.forwards =
      state.core.counters.forwards + (execute state.latches).operands.bypasses.length := by
  rw [step_of_live h hlive, forwards_advance, forwards_behind]
  rfl

theorem stalls_step_of_live (h : state.latches.WellFormed) (hlive : state.core.halted = false) :
    (state.step program).1.core.counters.stalls =
      state.core.counters.stalls + if state.decoded.isStall then 1 else 0 := by
  rw [step_of_live h hlive, stalls_advance, stalls_behind]
  rfl

theorem mispredictions_step_of_live (h : state.latches.WellFormed)
    (hlive : state.core.halted = false) :
    (state.step program).1.core.counters.mispredictions =
      state.core.counters.mispredictions + if (execute state.latches).taken then 1 else 0 := by
  rw [step_of_live h hlive, mispredictions_advance,
    mispredictions_behind _ _ _ (taken_le_branched state.latches)]
  rfl

/-- Decode waits for a load in execute, which is no branch. -/
theorem isStall_decoded_of_taken (h : state.latches.WellFormed)
    (htaken : (execute state.latches).taken = true) : state.decoded.isStall = false := by
  have hbranch : state.latches.idEx.control.isBranch = true := by
    have hbranched := taken_le_branched state.latches htaken
    simp only [execute] at hbranched
    split at hbranched
    · contradiction
    · exact hbranched
  rw [decoded]
  cases hwait : state.latches.ifId.wait? state.latches.idEx with
  | none => rfl
  | some register =>
      obtain ⟨user, -, hload⟩ := Option.bind_eq_some_iff.1 hwait
      have hread : state.latches.idEx.control.memRead = true := by
        by_contra hnot
        rw [loadUse?, if_pos (by simp [hnot])] at hload
        contradiction
      rw [h.idEx.not_load_and_branch hread] at hbranch
      contradiction

/-! ## What the snapshot after a cycle shows -/

section

variable (h : state.latches.WellFormed) (hlive : state.core.halted = false)
include h hlive

theorem events_step_of_live :
    (state.step program).1.snapshot.events =
      (cycleLog (state.core.counters.cycles + 1) (execute state.latches)
        state.decoded).events :=
  congrArg CycleLog.events (log_step_of_live h hlive)

theorem logged_forward_of_live :
    (state.step program).1.snapshot.logged "FORWARD" =
      (execute state.latches).operands.bypasses.length := by
  rw [Snapshot.logged, events_step_of_live h hlive, countP_kind_cycleLog]
  simp

theorem logged_stall_of_live :
    (state.step program).1.snapshot.logged "STALL" = if state.decoded.isStall then 1 else 0 := by
  rw [Snapshot.logged, events_step_of_live h hlive, countP_kind_cycleLog]
  simp

theorem logged_flush_of_live :
    (state.step program).1.snapshot.logged "FLUSH" =
      if (execute state.latches).taken then 1 else 0 := by
  rw [Snapshot.logged, events_step_of_live h hlive, countP_kind_cycleLog]
  simp

theorem filter_feeds_of_live (side : OperandSide) :
    ((state.step program).1.snapshot.events.filter fun event => event.Feeds side) =
      (((execute state.latches).operands.bypass? side).map fun bypass =>
        Event.forward (state.core.counters.cycles + 1) side bypass.register
          bypass.source).toList := by
  rw [events_step_of_live h hlive, filter_feeds_cycleLog]

theorem source?_of_live (side : OperandSide) :
    (state.step program).1.snapshot.source? side =
      ((execute state.latches).operands.bypass? side).map (·.source) := by
  rw [Snapshot.source?, ← List.head?_filter, filter_feeds_of_live h hlive]
  cases (execute state.latches).operands.bypass? side <;> rfl

theorem note_of_live (stage : Stage) :
    ((state.step program).1.snapshot.stages.get stage).note =
      (cycleLog (state.core.counters.cycles + 1) (execute state.latches)
        state.decoded).note? stage := by
  rw [snapshot_stages_get, ← log_step_of_live h hlive]
  rfl

/-- A stage has a note beside it iff an event of its kind was logged. -/
theorem noted_of_live (stage : Stage) :
    ((state.step program).1.snapshot.stages.get stage).note.isSome = true ↔
      ∃ event ∈ (state.step program).1.snapshot.events, stage.hazard? = some event.kind := by
  have hlogged (kind : String) : 0 < (state.step program).1.snapshot.logged kind ↔
      ∃ event ∈ (state.step program).1.snapshot.events, some kind = some event.kind := by
    rw [Snapshot.logged, List.countP_pos_iff]
    exact exists_congr fun event => and_congr_right fun _ => by
      rw [decide_eq_true_eq, Option.some_inj, eq_comm]
  rw [note_of_live h hlive, note?_cycleLog]
  cases stage with
  | fetch =>
      refine Iff.trans ?_ (hlogged "FLUSH")
      rw [logged_flush_of_live h hlive]
      cases (execute state.latches).taken <;> simp
  | decode =>
      refine Iff.trans ?_ (hlogged "STALL")
      rw [logged_stall_of_live h hlive, Option.isSome_map, Decoded.isSome_wait?]
      cases state.decoded.isStall <;> simp
  | execute =>
      refine Iff.trans ?_ (hlogged "FORWARD")
      rw [logged_forward_of_live h hlive]
      cases (execute state.latches).operands.bypasses <;> simp
  | memory => simp [Stage.hazard?]
  | writeBack => simp [Stage.hazard?]

/-- Whatever the stages hold, the snapshot after a cycle tells one story of it. -/
theorem coherent_step :
    Snapshot.Coherent state.snapshot (state.step program).1.snapshot := by
  have hcycle : (state.step program).1.snapshot.cycle = state.snapshot.cycle + 1 :=
    cycles_step_of_live h hlive
  have hlog : (state.step program).1.log =
      cycleLog (state.core.counters.cycles + 1) (execute state.latches) state.decoded :=
    log_step_of_live h hlive
  constructor
  case cycle => exact hcycle
  case dated =>
    intro event hmem
    rw [events_step_of_live h hlive] at hmem
    rw [cycle_of_mem_cycleLog _ _ _ event hmem, hcycle]
    rfl
  case ordered =>
    rw [events_step_of_live h hlive]
    exact List.Pairwise.sublist (ranks_sublist _ _ _) (by decide)
  case stalls =>
    rw [logged_stall_of_live h hlive]
    refine (stalls_step_of_live h hlive).trans ?_
    split <;> rfl
  case stalled =>
    rw [logged_stall_of_live h hlive]
    exact congrArg (fun log : CycleLog => if log.stalled then 1 else 0) hlog.symm
  case forwards =>
    rw [logged_forward_of_live h hlive]
    exact forwards_step_of_live h hlive
  case forwards_le =>
    rw [logged_forward_of_live h hlive]
    exact Operands.length_bypasses_le _
  case once =>
    intro side
    rw [List.countP_eq_length_filter, filter_feeds_of_live h hlive]
    cases (execute state.latches).operands.bypass? side <;> simp
  case mispredictions =>
    rw [logged_flush_of_live h hlive]
    refine (mispredictions_step_of_live h hlive).trans ?_
    split <;> rfl
  case flushed =>
    rw [logged_flush_of_live h hlive]
    exact congrArg (fun log : CycleLog => if log.flushed then 1 else 0) hlog.symm
  case apart =>
    rw [logged_stall_of_live h hlive, logged_flush_of_live h hlive]
    cases htaken : (execute state.latches).taken with
    | true => exact .inl (if_neg (by simp [isStall_decoded_of_taken h htaken]))
    | false => exact .inr rfl
  case sources =>
    rw [source?_of_live h hlive, source?_of_live h hlive]
    exact congrArg CycleLog.forwarding hlog
  case noted => exact noted_of_live h hlive

end

end State

end FiveStage.Pipeline
