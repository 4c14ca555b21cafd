import FiveStage.Proofs.Batch.Clocking

/-!
# The results of batch runs

Three things leave a batch run without a result before it starts, and they are looked at in this
order: the memory size, the text, and the registers to be seeded, of which only a text without
diagnostics makes use (`run_eq_error_iff`). One can in the end: a budget that was used up and is too
long to be named in a report (`Unreported`). Any other run has a result. For a rejected text it
shows a machine in which everything is zero. Otherwise the machine was clocked until it halted or
the budget was used up, and the result says how often, what the machine looked like in the end and,
if a trace was asked for, in every cycle before (`run_results`).
-/

namespace FiveStage

open Asm Pipeline
open Registers (IsIndex)

/-- A halted machine without a program, in which everything is zero. -/
def Pipeline.Snapshot.blank (size : Int) : Snapshot where
  halted := true
  stages := .ofFunction fun _ => ⟨none, none⟩
  registers := .zero
  memory := .zeros size
  counters := {}
  stalled := false
  flushed := false
  forwarding := {}
  events := []

theorem Simulator.snapshot_of_ofMemorySize {size : Int} {fresh : Simulator}
    (h : ofMemorySize size = .ok fresh) : fresh.snapshot = .blank size := by
  obtain ⟨-, rfl⟩ := ofMemorySize_eq_ok_iff.1 h
  rfl

namespace Batch

variable {source : String} {options : Options} {listing : Listing} {fresh ready : Simulator}

/-- A result without its trace. -/
def Result.untraced (result : Result) : Result := { result with trace := [] }

/-! ## Runs without a result -/

theorem run_of_unmade {fault : Fault}
    (h : Simulator.ofMemorySize options.memorySize = .error fault) :
    run source options = .error fault := by
  rw [run, h]

theorem run_of_fault {fault : Fault}
    (hfresh : Simulator.ofMemorySize options.memorySize = .ok fresh)
    (hassemble : assemble source = .error fault) : run source options = .error fault := by
  rw [run, hfresh]
  dsimp only
  rw [Simulator.loadSource_of_fault hassemble]

theorem run_of_preset_error {fault : Fault}
    (hfresh : Simulator.ofMemorySize options.memorySize = .ok fresh)
    (hassemble : assemble source = .ok listing) (hclean : listing.isClean = true)
    (hpreset : (fresh.load listing.instructions).preset options.registers options.memory =
      .error fault) :
    run source options = .error fault := by
  rw [run, hfresh]
  dsimp only
  rw [Simulator.loadSource_of_clean hassemble hclean]
  dsimp only
  rw [if_pos hclean, seed_eq_preset, hpreset]

/-! ## Runs with one -/

theorem run_of_unclean (hfresh : Simulator.ofMemorySize options.memorySize = .ok fresh)
    (hassemble : assemble source = .ok listing) (hunclean : listing.isClean = false) :
    run source options =
      .ok {
        cycles := 0
        final := .blank options.memorySize
        trace := []
        diagnostics := listing.diagnostics
        report := some (.ofNotices "" (listing.diagnostics.map Diagnostic.notice)) } := by
  rw [run, hfresh]
  dsimp only
  rw [Simulator.loadSource_of_unclean hassemble hunclean]
  dsimp only
  rw [hunclean, if_neg Bool.false_ne_true, rejected, Simulator.snapshot_of_ofMemorySize hfresh]

/-- What a ready simulator comes to with a budget, if it can be reported on. -/
theorem runLoaded_eq (h : ready.Ready) {stop : Nat}
    (hends : ready.EndsIn options.maxCycles.toNat stop) :
    runLoaded ready options =
      (shortfall options.maxCycles (ready.clocked stop)).map fun report =>
        { cycles := stop
          final := (ready.clocked stop).snapshot
          trace :=
            if options.trace then
              (List.range (stop + 1)).map fun i => (ready.clocked i).snapshot
            else []
          diagnostics := []
          report } := by
  rw [runLoaded, clock_eq h.fault_step (budget_of_ready h _) hends]
  dsimp only
  rw [h.cycle_eq hends.live]
  cases options.trace with
  | false => rfl
  | true =>
      rw [List.range_succ_eq_map, List.map_cons, List.map_map]
      simp [shown]
      rfl

/-- The simulator that a run clocks, with the program of the text loaded and everything seeded. -/
def Starts (source : String) (options : Options) (ready : Simulator) : Prop :=
  ∃ fresh listing, Simulator.ofMemorySize options.memorySize = .ok fresh ∧
    assemble source = .ok listing ∧ listing.isClean = true ∧
    (fresh.load listing.instructions).preset options.registers options.memory = .ok ready

/-- The budget of a run is used up, and too long for the report that should say so. -/
def Unreported (source : String) (options : Options) : Prop :=
  ¬ Writable options.maxCycles ∧
    ∃ ready, Starts source options ready ∧
      (ready.clocked options.maxCycles.toNat).halted = false

theorem Starts.isReady (h : Starts source options ready) : ready.Ready := by
  obtain ⟨fresh, listing, -, hassemble, hclean, hpreset⟩ := h
  exact .intro (Simulator.loadSource_of_clean hassemble hclean) hclean hpreset

theorem Starts.run_eq (h : Starts source options ready) :
    run source options = runLoaded ready options := by
  obtain ⟨fresh, listing, hfresh, hassemble, hclean, hpreset⟩ := h
  exact run_eq_of_preset hfresh hassemble hclean hpreset

theorem Unreported.run_eq (h : Unreported source options) :
    run source options = .error .integerLength := by
  obtain ⟨hlong, ready, hstarts, hlive⟩ := h
  obtain ⟨stop, hends⟩ := ready.exists_endsIn options.maxCycles.toNat
  rw [hstarts.run_eq, runLoaded_eq hstarts.isReady hends,
    shortfall_of_not_writable hlong (hends.halted_eq.trans hlive)]
  rfl

/-- A run with a report that can be written, or without any need of one, has a result. -/
theorem Starts.run_eq_of_reported (h : Starts source options ready)
    (hreported : ¬ Unreported source options) {stop : Nat}
    (hends : ready.EndsIn options.maxCycles.toNat stop) :
    run source options =
      .ok {
        cycles := stop
        final := (ready.clocked stop).snapshot
        trace :=
          if options.trace then
            (List.range (stop + 1)).map fun i => (ready.clocked i).snapshot
          else []
        diagnostics := []
        report :=
          if (ready.clocked stop).halted then none
          else some (.overLimit options.maxCycles stop) } := by
  have hcycle := h.isReady.cycle_eq hends.live
  rw [h.run_eq, runLoaded_eq h.isReady hends]
  by_cases hwritable : Writable options.maxCycles
  · rw [shortfall_of_writable hwritable, hcycle]
    rfl
  · have hhalted : (ready.clocked stop).halted = true := by
      by_contra hlive
      rw [Bool.not_eq_true, hends.halted_eq] at hlive
      exact hreported ⟨hwritable, ready, h, hlive⟩
    rw [shortfall_of_halted hhalted, if_pos hhalted]
    rfl

/-! ## The ways a run can go -/

/-- How far a run gets: to the memory size, to the text, to the registers to be seeded, or to a
ready simulator. -/
inductive Course (source : String) (options : Options) : Prop
  | unmade {fault : Fault} (unmade : Simulator.ofMemorySize options.memorySize = .error fault)
  | unreadable {fresh : Simulator} {fault : Fault}
    (made : Simulator.ofMemorySize options.memorySize = .ok fresh)
    (assembled : assemble source = .error fault)
  | unclean {fresh : Simulator} {listing : Listing}
    (made : Simulator.ofMemorySize options.memorySize = .ok fresh)
    (assembled : assemble source = .ok listing) (unclean : listing.isClean = false)
  | stray {fresh : Simulator} {listing : Listing} {fault : Fault}
    (made : Simulator.ofMemorySize options.memorySize = .ok fresh)
    (assembled : assemble source = .ok listing) (clean : listing.isClean = true)
    (preset : (fresh.load listing.instructions).preset options.registers options.memory =
      .error fault)
  | ready {fresh ready : Simulator} {listing : Listing}
    (made : Simulator.ofMemorySize options.memorySize = .ok fresh)
    (assembled : assemble source = .ok listing) (clean : listing.isClean = true)
    (preset : (fresh.load listing.instructions).preset options.registers options.memory =
      .ok ready)

theorem course (source : String) (options : Options) : Course source options := by
  cases hfresh : Simulator.ofMemorySize options.memorySize with
  | error fault => exact .unmade hfresh
  | ok fresh =>
      cases hassemble : assemble source with
      | error fault => exact .unreadable hfresh hassemble
      | ok listing =>
          cases hclean : listing.isClean with
          | false => exact .unclean hfresh hassemble hclean
          | true =>
              cases hpreset :
                  (fresh.load listing.instructions).preset options.registers options.memory with
              | error fault => exact .stray hfresh hassemble hclean hpreset
              | ok ready => exact .ready hfresh hassemble hclean hpreset

/-- A memory size, a text or a register can leave a run without a result. -/
theorem run_eq_error_iff (hreported : ¬ Unreported source options) :
    (∃ fault, run source options = .error fault) ↔
      options.memorySize < 1 ∨ ¬ FitsIndex options.memorySize ∨
        (∃ fault, assemble source = .error fault) ∨
        ∃ listing, assemble source = .ok listing ∧ listing.isClean = true ∧
          ∃ write ∈ options.registers, ¬ IsIndex write.1 := by
  cases course source options with
  | unmade hunmade =>
      refine iff_of_true ⟨_, run_of_unmade hunmade⟩ ?_
      by_contra hnone
      push Not at hnone
      obtain ⟨fresh, hfresh⟩ := Simulator.exists_ofMemorySize hnone.1 hnone.2.1
      rw [hunmade] at hfresh
      contradiction
  | unreadable hfresh hassemble =>
      exact iff_of_true ⟨_, run_of_fault hfresh hassemble⟩ (.inr (.inr (.inl ⟨_, hassemble⟩)))
  | unclean hfresh hassemble hunclean =>
      obtain ⟨⟨hsize, hfits⟩, -⟩ := Simulator.ofMemorySize_eq_ok_iff.1 hfresh
      rw [run_of_unclean hfresh hassemble hunclean]
      simp [Int.not_lt.2 hsize, hfits, hassemble, hunclean]
  | stray hfresh hassemble hclean hpreset =>
      refine iff_of_true ⟨_, run_of_preset_error hfresh hassemble hclean hpreset⟩ ?_
      refine .inr (.inr (.inr ⟨_, hassemble, hclean, ?_⟩))
      by_contra hall
      push Not at hall
      obtain ⟨ready, hready⟩ := Simulator.exists_preset_iff.2 hall
      rw [hpreset] at hready
      contradiction
  | ready hfresh hassemble hclean hpreset =>
      obtain ⟨⟨hsize, hfits⟩, -⟩ := Simulator.ofMemorySize_eq_ok_iff.1 hfresh
      have hregisters := Simulator.exists_preset_iff.1 ⟨_, hpreset⟩
      have hstarts : Starts source options _ := ⟨_, _, hfresh, hassemble, hclean, hpreset⟩
      obtain ⟨stop, hends⟩ := Simulator.exists_endsIn _ options.maxCycles.toNat
      rw [hstarts.run_eq_of_reported hreported hends]
      simpa [Int.not_lt.2 hsize, hfits, hassemble, hclean] using hregisters

/-- What a result shows is a machine in which everything is zero, or a cycle of a ready
simulator. -/
theorem shown_of_run {result : Result} (h : run source options = .ok result) :
    ∀ snapshot ∈ result.final :: result.trace,
      snapshot = .blank options.memorySize ∨
        ∃ ready : Simulator, ready.Ready ∧
          ∃ i ≤ options.maxCycles.toNat, snapshot = (ready.clocked i).snapshot := by
  cases course source options with
  | unmade hunmade =>
      rw [run_of_unmade hunmade] at h
      contradiction
  | unreadable hfresh hassemble =>
      rw [run_of_fault hfresh hassemble] at h
      contradiction
  | unclean hfresh hassemble hunclean =>
      rw [run_of_unclean hfresh hassemble hunclean] at h
      cases h
      simp
  | stray hfresh hassemble hclean hpreset =>
      rw [run_of_preset_error hfresh hassemble hclean hpreset] at h
      contradiction
  | ready hfresh hassemble hclean hpreset =>
      have hstarts : Starts source options _ := ⟨_, _, hfresh, hassemble, hclean, hpreset⟩
      have hreported : ¬ Unreported source options := by
        intro hunreported
        rw [hunreported.run_eq] at h
        contradiction
      obtain ⟨stop, hends⟩ := Simulator.exists_endsIn _ options.maxCycles.toNat
      rw [hstarts.run_eq_of_reported hreported hends] at h
      cases h
      intro snapshot hsnapshot
      refine .inr ⟨_, hstarts.isReady, ?_⟩
      obtain rfl | htrace := List.mem_cons.1 hsnapshot
      · exact ⟨stop, hends.le, rfl⟩
      · dsimp only at htrace
        split at htrace
        · obtain ⟨i, hi, rfl⟩ := List.mem_map.1 htrace
          have hstop := List.mem_range.1 hi
          exact ⟨i, Nat.le_trans (Nat.le_of_lt_succ hstop) hends.le, rfl⟩
        · contradiction

/-! ## Traces -/

/-- Keeping a trace does not move the simulator. -/
theorem clock_map_fst (limit : Int) (simulator : Simulator) (trace : Option (Array Snapshot)) :
    (clock limit simulator trace).map Prod.fst = (clock limit simulator none).map Prod.fst := by
  fun_induction clock limit simulator trace with
  | case1 simulator trace hgoes _ fault hstep =>
      rw [clock_of_lt hgoes.1 hgoes.2, hstep]
  | case2 simulator trace hgoes next hstep ih =>
      rw [clock_of_lt hgoes.1 hgoes.2, hstep]
      exact ih
  | case3 simulator trace hends =>
      rw [clock, dif_neg hends]
      rfl

theorem untraced_runLoaded (simulator : Simulator) (options : Options) :
    (runLoaded simulator options).map Result.untraced =
      ((clock options.maxCycles simulator none).map Prod.fst).bind fun last =>
        (shortfall options.maxCycles last).map fun report =>
          { cycles := last.snapshot.cycle
            final := last.snapshot
            trace := []
            diagnostics := []
            report } := by
  rw [← clock_map_fst _ _ (if options.trace then some #[simulator.snapshot] else none), runLoaded]
  rcases clock options.maxCycles simulator
    (if options.trace then some #[simulator.snapshot] else none) with fault | ⟨last, trace⟩
  · rfl
  · show ((shortfall options.maxCycles last).map _).map _ = (shortfall options.maxCycles last).map _
    cases shortfall options.maxCycles last <;> rfl

/-- Whether a trace is asked for shows in the trace and in nothing else. -/
theorem untraced_run (source : String) (options : Options) (trace : Bool) :
    (run source { options with trace }).map Result.untraced =
      (run source options).map Result.untraced := by
  rw [run, run]
  cases Simulator.ofMemorySize options.memorySize with
  | error fault => rfl
  | ok fresh =>
      dsimp only
      rcases fresh.loadSource source with fault | ⟨loaded, listing⟩
      · rfl
      · dsimp only
        split
        · rw [seed_eq_preset, seed_eq_preset]
          cases loaded.preset options.registers options.memory with
          | error fault => rfl
          | ok ready =>
              dsimp only
              rw [untraced_runLoaded, untraced_runLoaded]
        · rfl

/-! ## All runs -/

/-- What a batch run answers, whatever its text and its options are. A negative budget is as good
as none. -/
theorem run_results (source : String) (options : Options)
    (hreported : ¬ Unreported source options) :
    ((∃ fault, run source options = .error fault) ↔
        options.memorySize < 1 ∨ ¬ FitsIndex options.memorySize ∨
          (∃ fault, assemble source = .error fault) ∨
          ∃ listing, assemble source = .ok listing ∧ listing.isClean = true ∧
            ∃ write ∈ options.registers, ¬ IsIndex write.1) ∧
      (∀ listing, 1 ≤ options.memorySize → FitsIndex options.memorySize →
          assemble source = .ok listing → listing.isClean = false →
          run source options =
            .ok {
              cycles := 0
              final := .blank options.memorySize
              trace := []
              diagnostics := listing.diagnostics
              report := some (.ofNotices "" (listing.diagnostics.map Diagnostic.notice)) }) ∧
      (∀ listing, 1 ≤ options.memorySize → FitsIndex options.memorySize →
          assemble source = .ok listing → listing.isClean = true →
          (∀ write ∈ options.registers, IsIndex write.1) →
          ∃ (fresh ready : Simulator) (stop : Nat),
            Simulator.ofMemorySize options.memorySize = .ok fresh ∧
            (fresh.load listing.instructions).preset options.registers options.memory =
              .ok ready ∧
            stop = min ready.haltTime options.maxCycles.toNat ∧
            (∀ i ≤ stop, (ready.clocked i).snapshot.cycle = i) ∧
            run source options =
              .ok {
                cycles := stop
                final := (ready.clocked stop).snapshot
                trace :=
                  if options.trace then
                    (List.range (stop + 1)).map fun i => (ready.clocked i).snapshot
                  else []
                diagnostics := []
                report :=
                  if ready.haltTime ≤ options.maxCycles.toNat then none
                  else some (.overLimit options.maxCycles stop) }) ∧
      ∀ trace, (run source { options with trace }).map Result.untraced =
        (run source options).map Result.untraced := by
  refine ⟨run_eq_error_iff hreported, ?_, ?_, untraced_run source options⟩
  · intro listing hsize hfits hassemble hunclean
    obtain ⟨fresh, hfresh⟩ := Simulator.exists_ofMemorySize hsize hfits
    exact run_of_unclean hfresh hassemble hunclean
  · intro listing hsize hfits hassemble hclean hregisters
    obtain ⟨fresh, hfresh⟩ := Simulator.exists_ofMemorySize hsize hfits
    obtain ⟨ready, hpreset⟩ : ∃ ready,
        (fresh.load listing.instructions).preset options.registers options.memory = .ok ready :=
      Simulator.exists_preset_iff.2 hregisters
    have hstarts : Starts source options ready :=
      ⟨fresh, listing, hfresh, hassemble, hclean, hpreset⟩
    obtain ⟨stop, hends⟩ := ready.exists_endsIn options.maxCycles.toNat
    refine ⟨fresh, ready, stop, hfresh, hpreset, Simulator.endsIn_iff.1 hends, ?_, ?_⟩
    · intro i hi
      exact hstarts.isReady.cycle_eq fun j hj => hends.live j (Nat.lt_of_lt_of_le hj hi)
    · rw [hstarts.run_eq_of_reported hreported hends, hends.halted_eq]
      simp only [Simulator.haltTime_le_iff]

/-- With a budget of six cycles the countdown is cut short, and the report can say so. -/
theorem run_results_countdown :
    let options : Options :=
      { memorySize := 2, maxCycles := 6, registers := [(2, 1)], memory := [(0, 2)] }
    ¬ Unreported Simulator.countdownSource options ∧
      ∃ (ready : Simulator) (stop : Nat), stop = min ready.haltTime 6 ∧
        (run Simulator.countdownSource options).map Result.cycles = .ok (stop : Int) ∧
        (run Simulator.countdownSource options).map Result.isOk = .ok false := by
  intro options
  have hreported : ¬ Unreported Simulator.countdownSource options :=
    fun hunreported => hunreported.1 (by decide +kernel)
  obtain ⟨listing, hassemble, hclean, -⟩ := Simulator.exists_countdownLoaded
  have hregisters : ∀ write ∈ options.registers, IsIndex write.1 :=
    List.forall_mem_singleton.2 ⟨by decide, by decide⟩
  obtain ⟨-, ready, stop, -, -, hstop, -, hrun⟩ :=
    (run_results Simulator.countdownSource options hreported).2.2.1 listing (by decide) (by decide)
      hassemble hclean hregisters
  exact ⟨hreported, ready, stop, hstop, by rw [hrun]; rfl, by decide +kernel⟩

/-- The text is in order and nothing is to be seeded, but so many words cannot be counted. -/
theorem not_run_results_uncountable :
    let options : Options := { memorySize := 9223372036854775808 }
    ¬ Unreported "NOP" options ∧
      ¬ ((∃ fault, run "NOP" options = .error fault) ↔
        options.memorySize < 1 ∨ (∃ fault, assemble "NOP" = .error fault) ∨
          ∃ listing, assemble "NOP" = .ok listing ∧ listing.isClean = true ∧
            ∃ write ∈ options.registers, ¬ IsIndex write.1) := by
  intro options
  have hunmade : Simulator.ofMemorySize options.memorySize = .error .indexSize :=
    Simulator.ofMemorySize_of_not_fitsIndex (by decide) (by decide)
  have hassembles : (assemble "NOP").toOption.isSome = true := by decide +kernel
  refine ⟨fun hunreported => hunreported.1 (by decide +kernel), fun hiff => ?_⟩
  obtain hsize | ⟨fault, hfault⟩ | ⟨-, -, -, write, hwrite, -⟩ := hiff.1 ⟨_, run_of_unmade hunmade⟩
  · contradiction
  · rw [hfault] at hassembles
    contradiction
  · exact List.not_mem_nil hwrite

end Batch

end FiveStage
