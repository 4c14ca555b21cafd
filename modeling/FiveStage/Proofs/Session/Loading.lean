import FiveStage.Proofs.Session.Timeline
import FiveStage.Proofs.Simulator.Seeding

/-!
# Loads that fail

A load succeeds if it answers with a listing without diagnostics. One that does not should leave
the session as it was: program, state, snapshot and history. Loading a text does, and so does
loading by name, since all registers that the catalog seeds exist.

For a sample it is a matter of what the sample is (`allOrNothing_iff`). Its program is in place,
with a new history, before the first register is seeded. If then a register turns out not to
exist, the load ends in a fault, and what was there before is gone.
-/

namespace FiveStage

open Asm Pipeline
open Registers (IsIndex)

namespace Session

variable {session : Session} {source : String} {sample : Sample} {listing : Listing}

/-- The answer of a load that took place. -/
def Succeeds (answer : Except Fault Listing) : Prop :=
  ∃ listing, answer = .ok listing ∧ listing.isClean = true

/-- Unless the load succeeds, the session is what it was before. -/
def AllOrNothing (load : Session → Session × Except Fault Listing) : Prop :=
  ∀ session, ¬ Succeeds (load session).2 → (load session).1 = session

@[simp] theorem not_succeeds_error (fault : Fault) : ¬ Succeeds (.error fault) := by
  rintro ⟨listing, h, -⟩
  contradiction

@[simp] theorem succeeds_ok_iff : Succeeds (.ok listing) ↔ listing.isClean = true := by
  simp [Succeeds]

/-! ## The limit of the history -/

@[simp] theorem maxHistory_loadSource (session : Session) (source : String) :
    (session.loadSource source).1.maxHistory = session.maxHistory := by
  rw [loadSource]
  split
  · rfl
  · dsimp only
    split <;> rfl

@[simp] theorem maxHistory_loadSample (session : Session) (sample : Sample) :
    (session.loadSample sample).1.maxHistory = session.maxHistory := by
  have hsource := maxHistory_loadSource session sample.source
  rw [loadSample]
  split
  · rename_i hload
    rwa [hload] at hsource
  · rename_i hload
    rw [hload] at hsource
    split
    · split <;> exact hsource
    · exact hsource

/-! ## Texts -/

theorem loadSource_of_clean (h : assemble source = .ok listing) (hclean : listing.isClean = true)
    (session : Session) :
    session.loadSource source =
      (session.begin (session.simulator.load listing.instructions), .ok listing) := by
  rw [loadSource, Simulator.loadSource_of_clean h hclean]
  dsimp only
  rw [if_pos hclean]

theorem not_rejected_iff :
    ¬ Rejected source ↔ ∃ listing, assemble source = .ok listing ∧ listing.isClean = true := by
  simp [Rejected]

/-- A text is loaded if it is not refused. -/
theorem succeeds_loadSource_iff : Succeeds (session.loadSource source).2 ↔ ¬ Rejected source := by
  rw [not_rejected_iff, loadSource]
  cases hassemble : assemble source with
  | error fault => simp [Simulator.loadSource_of_fault hassemble]
  | ok listing =>
      cases hclean : listing.isClean with
      | false => simp [Simulator.loadSource_of_unclean hassemble hclean, hclean]
      | true => simp [Simulator.loadSource_of_clean hassemble hclean, hclean]

theorem allOrNothing_loadSource (source : String) : AllOrNothing fun s => s.loadSource source := by
  intro session hfailed
  have hrejected : Rejected source := by
    by_contra haccepted
    exact hfailed (succeeds_loadSource_iff.2 haccepted)
  exact loadSource_of_rejected hrejected

/-! ## Samples -/

/-- Of a sample whose text is refused nothing else is looked at. -/
theorem loadSample_of_rejected (h : Rejected sample.source) (session : Session) :
    session.loadSample sample = session.loadSource sample.source := by
  have hfailed : ¬ Succeeds (session.loadSource sample.source).2 := by
    rw [succeeds_loadSource_iff, not_not]
    exact h
  rw [loadSample]
  rcases hload : session.loadSource sample.source with ⟨loaded, fault | listing⟩
  · rfl
  · rw [hload, succeeds_ok_iff] at hfailed
    dsimp only
    rw [if_neg hfailed]

/-- A register that does not exist is found when the program is in place. -/
theorem loadSample_of_stray {index : Int} (h : assemble sample.source = .ok listing)
    (hclean : listing.isClean = true) (hstray : strayRegister? sample.registers = some index)
    (session : Session) :
    session.loadSample sample =
      (session.begin (session.simulator.load listing.instructions),
        .error (.registerWrite index)) := by
  have hpreset : (session.simulator.load listing.instructions).preset sample.registers
      sample.memory = .error (.registerWrite index) :=
    Simulator.preset_eq_error_iff.2 ⟨index, hstray, rfl⟩
  rw [loadSample, loadSource_of_clean h hclean]
  dsimp only
  rw [if_pos hclean, begin, hpreset]

/-- Registers that exist are seeded, and the session begins with them. -/
theorem loadSample_of_isIndex (h : assemble sample.source = .ok listing)
    (hclean : listing.isClean = true) (hregisters : ∀ write ∈ sample.registers, IsIndex write.1)
    (session : Session) :
    ∃ ready, (session.simulator.load listing.instructions).preset sample.registers sample.memory =
        .ok ready ∧
      session.loadSample sample = (session.begin ready, .ok listing) := by
  obtain ⟨ready, hpreset⟩ : ∃ ready, (session.simulator.load listing.instructions).preset
      sample.registers sample.memory = .ok ready := Simulator.exists_preset_iff.2 hregisters
  refine ⟨ready, hpreset, ?_⟩
  rw [loadSample, loadSource_of_clean h hclean]
  dsimp only
  rw [if_pos hclean, begin, hpreset]
  rfl

theorem allOrNothing_loadSample_of_rejected (h : Rejected sample.source) :
    AllOrNothing fun s => s.loadSample sample := by
  intro session hfailed
  dsimp only at hfailed ⊢
  rw [loadSample_of_rejected h] at hfailed ⊢
  exact allOrNothing_loadSource sample.source session hfailed

theorem allOrNothing_loadSample_of_isIndex
    (hregisters : ∀ write ∈ sample.registers, IsIndex write.1) :
    AllOrNothing fun s => s.loadSample sample := by
  by_cases hrejected : Rejected sample.source
  · exact allOrNothing_loadSample_of_rejected hrejected
  · obtain ⟨listing, hassemble, hclean⟩ := not_rejected_iff.1 hrejected
    intro session hfailed
    obtain ⟨ready, -, hload⟩ := loadSample_of_isIndex hassemble hclean hregisters session
    dsimp only at hfailed
    rw [hload] at hfailed
    exact absurd ⟨listing, rfl, hclean⟩ hfailed

/-- The catalog seeds no register that does not exist. -/
theorem isIndex_of_mem_samples (h : sample ∈ Catalog.samples) :
    ∀ write ∈ sample.registers, IsIndex write.1 := by
  have hall : ∀ sample ∈ Catalog.samples, ∀ write ∈ sample.registers, IsIndex write.1 := by
    decide
  exact hall sample h

theorem allOrNothing_loadNamed (name : String) : AllOrNothing fun s => s.loadNamed name := by
  intro session hfailed
  dsimp only at hfailed ⊢
  rw [loadNamed, Catalog.get] at hfailed ⊢
  cases hfind : Catalog.find? name with
  | none => rfl
  | some sample =>
      rw [hfind] at hfailed
      have hmem : sample ∈ Catalog.samples := List.mem_of_find?_eq_some hfind
      exact allOrNothing_loadSample_of_isIndex (isIndex_of_mem_samples hmem) session hfailed

/-- A `NOP` after its first cycle, which can be taken back. -/
def stepped : Session :=
  ((Session.ofSimulator ⟨4, #[], Simulator.startState 4 #[]⟩ none).loadSource "NOP").1.step.1

/-- A stray register costs a session its history. -/
theorem not_allOrNothing_of_stray {index : Int} (h : assemble sample.source = .ok listing)
    (hclean : listing.isClean = true) (hstray : strayRegister? sample.registers = some index) :
    ¬ AllOrNothing fun s => s.loadSample sample := by
  intro hall
  have hload := loadSample_of_stray h hclean hstray stepped
  have hkept : (stepped.loadSample sample).1 = stepped := by
    apply hall
    dsimp only
    rw [hload]
    exact not_succeeds_error _
  have hdepth : stepped.historyDepth = 1 := by decide +kernel
  rw [hload] at hkept
  rw [← hkept] at hdepth
  contradiction

/-- A text and a name are loaded or leave the session alone. A sample is so exactly if its text
is refused or all registers that it seeds exist. Any other sample makes the session begin anew
with its program and without what should have been seeded. -/
theorem allOrNothing_iff (source name : String) (sample : Sample) :
    (AllOrNothing fun s => s.loadSource source) ∧
      (AllOrNothing fun s => s.loadNamed name) ∧
      ((AllOrNothing fun s => s.loadSample sample) ↔
        Rejected sample.source ∨ ∀ write ∈ sample.registers, IsIndex write.1) ∧
      ∀ listing index, assemble sample.source = .ok listing → listing.isClean = true →
        strayRegister? sample.registers = some index →
        ∀ session : Session, session.loadSample sample =
          (session.begin (session.simulator.load listing.instructions),
            .error (.registerWrite index)) := by
  refine ⟨allOrNothing_loadSource source, allOrNothing_loadNamed name, ⟨?_, ?_⟩, ?_⟩
  · intro hall
    by_contra hneither
    obtain ⟨haccepted, hregisters⟩ := not_or.1 hneither
    obtain ⟨listing, hassemble, hclean⟩ := not_rejected_iff.1 haccepted
    rw [← strayRegister?_eq_none_iff] at hregisters
    obtain ⟨index, hstray⟩ := Option.ne_none_iff_exists'.1 hregisters
    exact not_allOrNothing_of_stray hassemble hclean hstray hall
  · rintro (hrejected | hregisters)
    · exact allOrNothing_loadSample_of_rejected hrejected
    · exact allOrNothing_loadSample_of_isIndex hregisters
  · intro listing index hassemble hclean hstray session
    exact loadSample_of_stray hassemble hclean hstray session

/-- Seeds a register that exists and then one that does not. -/
def strayed : Sample where
  name := "Stray"
  description := ""
  source := "ADD R1, R2, R3"
  registers := [(1, 5), (32, 1)]

/-- The load ends in a fault, and neither the program nor the history is what it was before. -/
theorem not_allOrNothing_strayed :
    (stepped.loadSample strayed).2 = .error (.registerWrite 32) ∧
      (stepped.loadSample strayed).1.simulator.program ≠ stepped.simulator.program ∧
      (stepped.loadSample strayed).1.history ≠ stepped.history ∧
      ¬ AllOrNothing fun s => s.loadSample strayed := by
  have hassembles : (assemble strayed.source).toOption.any Listing.isClean = true := by
    decide +kernel
  refine ⟨by decide +kernel, by decide +kernel, by decide +kernel, ?_⟩
  have haccepted : ¬ Rejected strayed.source := by
    rw [rejected_iff, hassembles]
    exact Bool.noConfusion
  obtain ⟨listing, hassemble, hclean⟩ := not_rejected_iff.1 haccepted
  have hstray : strayRegister? strayed.registers = some 32 := rfl
  exact not_allOrNothing_of_stray hassemble hclean hstray

end Session

end FiveStage
