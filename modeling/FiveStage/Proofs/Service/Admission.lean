import FiveStage.Proofs.Batch.Results
import FiveStage.Proofs.Service.Opening
import FiveStage.Proofs.Session.Soundness

/-!
# What the checks let through

Before a program is run or a session opened for a client, the body of the request is checked against
its form, the text for its size, and the keys of the presets for being numbers. None of these checks
knows what comes after it, and still nothing that passes them all can go wrong, provided that the
assembler has an answer for the text (`exists_result`, `admits_openSession`).

The form lets through only memory sizes and budgets that a run takes, the keys only registers that
exist, and the samples of the catalog are programs without diagnostics.
-/

namespace FiveStage

open Asm Pipeline
open Registers (IsIndex)

/-- The assembler has an answer for the text. -/
def Asm.Readable (source : String) : Prop := ∃ listing, assemble source = .ok listing

theorem Asm.readable_iff {source : String} :
    Readable source ↔ (assemble source).toOption.isSome = true := by
  rw [Readable]
  cases assemble source <;> simp [Except.toOption]

instance (source : String) : Decidable (Readable source) := decidable_of_iff' _ readable_iff

/-- The snapshots that a result shows. -/
def Batch.Result.snapshots (result : Result) : List Snapshot := result.final :: result.trace

/-- The counters in a result are those of a machine that was clocked within the budget. -/
theorem Batch.plausible_of_run {source : String} {options : Options} {result : Result}
    (h : run source options = .ok result) :
    ∀ snapshot ∈ result.snapshots, snapshot.counters.Plausible options.maxCycles.toNat := by
  intro snapshot hsnapshot
  obtain rfl | ⟨ready, hready, i, hi, rfl⟩ := shown_of_run h snapshot hsnapshot
  · exact ⟨le_refl 0, Int.natCast_nonneg _, le_refl 0, le_refl 0⟩
  · exact (hready.sound.clocked i).state.counters.mono (by omega)

namespace Service

/-! ## Keys -/

namespace Key

/-- What is read of every key holds of the keys of all entries. -/
theorem forall_readAll {P : Int → Prop} {read : String → Except KeyProblem Int}
    (hread : ∀ key number, read key = .ok number → P number) {fields : List (String × Int)}
    {entries result : List (Int × Int)} (h : readAll read fields entries = .ok result)
    (hentries : ∀ key ∈ entries.map (·.1), P key) : ∀ key ∈ result.map (·.1), P key := by
  induction fields generalizing entries with
  | nil =>
      cases h
      exact hentries
  | cons field rest ih =>
      obtain ⟨key, value⟩ := field
      rw [readAll] at h
      split at h
      · rename_i number hnumber
        refine ih h ?_
        rw [Entries.keys_insert]
        split
        · exact hentries
        · intro other hother
          obtain hold | hnew := List.mem_append.1 hother
          · exact hentries other hold
          · rw [List.mem_singleton.1 hnew]
            exact hread key number hnumber
      · contradiction

/-- Register keys that pass their check are of registers that exist. -/
theorem isIndex_of_registers {fields : List (String × Int)} {registers : List (Int × Int)}
    (h : Key.registers fields = .ok registers) : ∀ write ∈ registers, IsIndex write.1 := by
  have hkeys := forall_readAll (P := IsIndex) (fun key number => register_inRange) h (by simp)
  exact fun write hwrite => hkeys write.1 (List.mem_map_of_mem hwrite)

end Key

/-! ## Runs -/

/-- What a run is given when the keys of its presets were read. -/
def RunOptions.seeded (options : RunOptions) (registers memory : List (Int × Int)) :
    Batch.Options :=
  { memorySize := options.memorySize
    maxCycles := options.maxCycles
    trace := options.trace
    registers, memory }

variable {form : RunForm} {registers memory : List (Int × Int)}

theorem RunOptions.InRange.fitsIndex {options : RunOptions} (h : options.InRange) :
    FitsIndex options.memorySize := by
  obtain ⟨hlow, hhigh⟩ := h.memorySize
  exact ⟨by omega, by omega⟩

/-- A budget within its bounds can be named when it is used up. -/
theorem RunOptions.InRange.not_unreported {options : RunOptions} (h : options.InRange)
    (source : String) (registers memory : List (Int × Int)) :
    ¬ Batch.Unreported source (options.seeded registers memory) := by
  obtain ⟨hlow, hhigh⟩ := h.maxCycles
  have hfits : FitsIndex options.maxCycles := ⟨by omega, by omega⟩
  exact fun hunreported => hunreported.1 hfits.writable

/-- A form that passes all checks is run to a result, whatever its presets are. -/
theorem exists_result (hrange : form.options.InRange)
    (hregisters : Key.registers form.options.registers = .ok registers)
    (hreadable : Readable form.program) (memory : List (Int × Int)) :
    ∃ result, Batch.run form.program (form.options.seeded registers memory) = .ok result := by
  obtain ⟨listing, hassemble⟩ := hreadable
  cases hrun : Batch.run form.program (form.options.seeded registers memory) with
  | ok result => exact ⟨result, rfl⟩
  | error fault =>
      obtain hsize | hcount | ⟨_, hfault⟩ | ⟨_, _, _, write, hwrite, hstray⟩ :=
        (Batch.run_eq_error_iff (hrange.not_unreported _ _ _)).1 ⟨fault, hrun⟩
      · exact absurd hrange.memorySize.1 (Int.not_le.2 hsize)
      · exact absurd hrange.fitsIndex hcount
      · rw [hassemble] at hfault
        contradiction
      · exact absurd (Key.isIndex_of_registers hregisters write hwrite) hstray

theorem runForm_of_result {result : Batch.Result} (hlength : form.program.length ≤ programLimit)
    (hregisters : Key.registers form.options.registers = .ok registers)
    (hmemory : Key.addresses form.options.memory = .ok memory)
    (hrun : Batch.run form.program (form.options.seeded registers memory) = .ok result) :
    runForm form = .reply 200 (.result result) := by
  rw [RunOptions.seeded] at hrun
  rw [runForm, if_neg (Nat.not_lt.2 hlength), hregisters, hmemory]
  dsimp only
  rw [hrun]

/-! ## Responses -/

/-- The snapshots that a response shows. -/
def Response.snapshots : Response → List Snapshot
  | .reply _ (.result result) => result.snapshots
  | .reply _ (.session _ _ shown) => [shown]
  | _ => []

/-- A success, or a refusal for a reason that lies with the request; and what is shown are cycles
of a machine that was clocked at most so many times, or within the largest budget. -/
structure Response.Proper (clocks : Nat) (response : Response) : Prop where
  status : response.status ∈ [200, 400, 404, 409, 422]
  shown : ∀ snapshot ∈ response.snapshots, snapshot.counters.Plausible (max clocks 1000000)

theorem Response.Proper.mono {clocks later : Nat} {response : Response}
    (h : response.Proper clocks) (hle : clocks ≤ later) : response.Proper later where
  status := h.status
  shown := fun snapshot hsnapshot => (h.shown snapshot hsnapshot).mono (max_le_max_right _ hle)

theorem proper_runForm (hrange : form.options.InRange) (hreadable : Readable form.program)
    (clocks : Nat) : (runForm form).Proper clocks := by
  by_cases hlength : form.program.length ≤ programLimit
  · cases hregisters : Key.registers form.options.registers with
    | error problem =>
        rw [runForm, if_neg (Nat.not_lt.2 hlength), hregisters]
        exact ⟨by simp, by simp [Response.refuse, Response.snapshots]⟩
    | ok registers =>
        cases hmemory : Key.addresses form.options.memory with
        | error problem =>
            rw [runForm, if_neg (Nat.not_lt.2 hlength), hregisters]
            dsimp only
            rw [hmemory]
            exact ⟨by simp, by simp [Response.refuse, Response.snapshots]⟩
        | ok memory =>
            obtain ⟨result, hrun⟩ := exists_result hrange hregisters hreadable memory
            rw [runForm_of_result hlength hregisters hmemory hrun]
            refine ⟨by simp, fun snapshot hsnapshot => ?_⟩
            have hbudget := hrange.maxCycles.2
            refine (Batch.plausible_of_run hrun snapshot hsnapshot).mono ?_
            show form.options.maxCycles.toNat ≤ _
            omega
  · rw [runForm, if_pos (Nat.lt_of_not_le hlength)]
    exact ⟨by simp, by simp [Response.oversized, Response.refuse, Response.snapshots]⟩

/-! ## Openings -/

/-- A sound session was opened, or the response says what was wrong with the request. -/
def Admits : Except Response Session → Prop
  | .error response => response.status ∈ [400, 404, 422] ∧ response.snapshots = []
  | .ok session => session.Sound 0

/-- The samples of the catalog are programs. -/
theorem exists_listing_of_mem_samples {sample : Sample} (h : sample ∈ Catalog.samples) :
    ∃ listing, assemble sample.source = .ok listing ∧ listing.isClean = true := by
  have hall : ∀ sample ∈ Catalog.samples, ¬ Rejected sample.source := by
    simp only [rejected_iff]
    decide +kernel
  exact Session.not_rejected_iff.1 (hall sample h)

/-- A sample of the catalog opens a session. -/
theorem exists_settle_loadSample {sample : Sample} (h : sample ∈ Catalog.samples)
    (session : Session) :
    ∃ opened, settle (session.loadSample sample) = .ok opened ∧ opened.Sound 0 := by
  obtain ⟨listing, hassemble, hclean⟩ := exists_listing_of_mem_samples h
  have hregisters := Session.isIndex_of_mem_samples h
  have hsound := Session.sound_loadSample hassemble hclean hregisters session
  obtain ⟨ready, -, hload⟩ :=
    Session.loadSample_of_isIndex hassemble hclean hregisters session
  rw [hload] at hsound ⊢
  exact ⟨_, if_pos hclean, hsound⟩

/-- A text that the assembler has an answer for opens a session or has diagnostics. -/
theorem admits_settle_loadSource {source : String} (h : Readable source) (session : Session) :
    Admits (settle (session.loadSource source)) := by
  obtain ⟨listing, hassemble⟩ := h
  cases hclean : listing.isClean with
  | true =>
      have hsound := Session.sound_loadSource hassemble hclean session
      rw [Session.loadSource_of_clean hassemble hclean] at hsound ⊢
      rw [settle, if_pos hclean]
      exact hsound
  | false =>
      rw [Session.loadSource, Simulator.loadSource_of_unclean hassemble hclean]
      dsimp only
      rw [hclean, settle, hclean]
      exact ⟨by simp, rfl⟩

theorem SessionForm.InRange.exists_ofMemorySize {form : SessionForm} (h : form.InRange) :
    ∃ fresh, Simulator.ofMemorySize form.memorySize = .ok fresh := by
  obtain ⟨hlow, hhigh⟩ := h.memorySize
  exact Simulator.exists_ofMemorySize hlow ⟨by omega, by omega⟩

theorem exists_openSession_of_find? {form : SessionForm} {name : String} {sample : Sample}
    (hrange : form.InRange) (hname : form.sample = some name)
    (hfind : Catalog.find? name = some sample) :
    ∃ opened, openSession form = .ok opened ∧ opened.Sound 0 := by
  obtain ⟨fresh, hfresh⟩ := hrange.exists_ofMemorySize
  have hmem : sample ∈ Catalog.samples := List.mem_of_find?_eq_some hfind
  obtain ⟨opened, hsettle, hsound⟩ :=
    exists_settle_loadSample hmem (.ofSimulator fresh form.maxHistory)
  refine ⟨opened, ?_, hsound⟩
  rw [openSession, hfresh]
  dsimp only
  rw [hname]
  dsimp only
  rw [hfind]
  exact hsettle

theorem admits_openSession {form : SessionForm} (hrange : form.InRange)
    (hreadable : ∀ program ∈ form.program, Readable program) : Admits (openSession form) := by
  obtain ⟨fresh, hfresh⟩ := hrange.exists_ofMemorySize
  cases hname : form.sample with
  | some name =>
      cases hfind : Catalog.find? name with
      | some sample =>
          obtain ⟨opened, hopen, hsound⟩ := exists_openSession_of_find? hrange hname hfind
          rw [hopen]
          exact hsound
      | none =>
          rw [openSession, hfresh]
          dsimp only
          rw [hname]
          dsimp only
          rw [hfind]
          exact ⟨by simp, rfl⟩
  | none =>
      rw [openSession, hfresh]
      dsimp only
      rw [hname]
      cases hprogram : form.program with
      | none => exact ⟨by simp, rfl⟩
      | some program =>
          dsimp only
          split
          · exact ⟨by simp, rfl⟩
          · exact admits_settle_loadSource (hreadable program hprogram) _

end Service

end FiveStage
