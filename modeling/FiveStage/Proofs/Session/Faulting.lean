import FiveStage.Proofs.Asm.Faults
import FiveStage.Proofs.Asm.Placement
import FiveStage.Proofs.Session.Loading
import FiveStage.Proofs.Simulator.Bench

/-!
# Texts that end in a fault

Whether a statement faults can be seen from the statement alone. It has to be a load or store with
two operands, of which the first is a register and the second is spelled as an address, with an
offset that stands for no integer; if the base is a register is not asked before. Nothing else
faults, and the fault of a text is that of its first such statement, whatever is wrong on other
lines (`assemble_eq_error_iff`).

A text that faults is not loaded. The fault is handed on, and the simulator or the session it was
meant for stays as it was.
-/

namespace FiveStage

namespace Asm

open Text

variable {source : String} {fault : Fault}

/-- The fault of the statement of a line, if it has one. -/
def SourceLine.fault? (line : SourceLine) : Option Fault :=
  ((line.placed []).outcome {}).fault?

theorem SourceLine.fault?_eq_some_iff {line : SourceLine} :
    line.fault? = some fault ↔ Statement.FaultsAs (trim line.body) fault :=
  Placed.fault?_outcome_eq_some_iff

theorem SourceLine.fault?_eq_none_iff {line : SourceLine} :
    line.fault? = none ↔ ¬ Statement.Valueless (trim line.body) :=
  Placed.fault?_outcome_eq_none_iff

/-- The place of a statement has no part in its fault, and neither have labels. -/
theorem SourceLine.fault?_outcome_placed (line : SourceLine) (before : List SourceLine)
    (labels : Labels) : ((line.placed before).outcome labels).fault? = line.fault? := by
  apply Option.ext
  intro fault
  rw [Placed.fault?_outcome_eq_some_iff, fault?_eq_some_iff]
  rfl

/-- Where there is no statement, there is no fault. -/
theorem SourceLine.fault?_of_not_hasStatement {line : SourceLine}
    (h : line.hasStatement = false) : line.fault? = none := by
  rw [fault?_eq_none_iff, trim_body_eq_nil_iff.2 h]
  rintro ⟨hopcode, -⟩
  exact absurd hopcode (by decide)

theorem findSome?_fault?_placements (labels : Labels) (ls : List SourceLine) :
    (placements ls).findSome? (fun placed => (placed.outcome labels).fault?) =
      ls.findSome? SourceLine.fault? := by
  induction ls using List.reverseRecOn with
  | nil => rfl
  | append_singleton ls line ih =>
      rw [placements, perLine_concat, List.findSome?_append, ← placements, ih,
        List.findSome?_append, List.findSome?_singleton]
      cases hhas : line.hasStatement with
      | false => rw [line.fault?_of_not_hasStatement hhas]; rfl
      | true =>
          rw [if_pos rfl, Option.toList_some, List.findSome?_singleton, line.fault?_outcome_placed]

/-- The first line with a fault decides. -/
theorem assemble_eq_error_iff_findSome? :
    assemble source = .error fault ↔
      (lines source).findSome? SourceLine.fault? = some fault := by
  have houtcomes : (Layout.ofRows (rows source)).outcomes.findSome? Outcome.fault? =
      (lines source).findSome? SourceLine.fault? := by
    rw [Layout.outcomes, rows, statements_ofRows, List.findSome?_map]
    exact findSome?_fault?_placements _ _
  rw [assemble, Layout.listing, houtcomes]
  cases (lines source).findSome? SourceLine.fault? with
  | none => simp
  | some found => simp

/-- Only numerals fault. -/
theorem Statement.FaultsAs.numeral {text : List Char} (h : Statement.FaultsAs text fault) :
    (∃ spelling, fault = .numeralSpelling spelling) ∨ ∃ digits, fault = .numeralLength digits := by
  obtain ⟨-, first, address, register, -, -, numeral, base, -, hfault⟩ := h
  cases hfault with
  | spelling => exact .inl ⟨_, rfl⟩
  | length => exact .inr ⟨_, rfl⟩

/-- A text faults exactly if one of its statements does, and the first of them says how. A simulator
or a session that is given such a text has the same fault, and is left as it was. -/
theorem assemble_eq_error_iff (source : String) :
    ((∃ fault, assemble source = .error fault) ↔
        ∃ line ∈ lines source, Statement.Valueless (trim (SourceLine.body line))) ∧
      ∀ fault,
        (assemble source = .error fault ↔
          ∃ before line after, lines source = before ++ line :: after ∧
            (∀ earlier ∈ before, ¬ Statement.Valueless (trim (SourceLine.body earlier))) ∧
            Statement.FaultsAs (trim (SourceLine.body line)) fault) ∧
        (assemble source = .error fault →
          ((∃ spelling, fault = .numeralSpelling spelling) ∨
              ∃ digits, fault = .numeralLength digits) ∧
            (∀ bench : Bench, bench.simulator.loadSource source = .error fault ∧
              bench.perform (.load source) = bench) ∧
            ∀ session : Session, session.loadSource source = (session, .error fault)) := by
  have hfirst : ∀ fault, assemble source = .error fault ↔
      ∃ before line after, lines source = before ++ line :: after ∧
        (∀ earlier ∈ before, ¬ Statement.Valueless (trim (SourceLine.body earlier))) ∧
        Statement.FaultsAs (trim (SourceLine.body line)) fault := by
    intro fault
    rw [assemble_eq_error_iff_findSome?, List.findSome?_eq_some_iff]
    simp only [SourceLine.fault?_eq_some_iff, SourceLine.fault?_eq_none_iff]
    constructor
    · rintro ⟨before, line, after, hlines, hfault, hearlier⟩
      exact ⟨before, line, after, hlines, hearlier, hfault⟩
    · rintro ⟨before, line, after, hlines, hearlier, hfault⟩
      exact ⟨before, line, after, hlines, hfault, hearlier⟩
  refine ⟨?_, fun fault => ⟨hfirst fault, ?_⟩⟩
  · simp only [assemble_eq_error_iff_findSome?]
    rw [← Option.isSome_iff_exists, List.findSome?_isSome_iff]
    refine exists_congr fun line => and_congr_right fun _ => ?_
    rw [← not_iff_not, ← SourceLine.fault?_eq_none_iff, Bool.not_eq_true,
      Option.isSome_eq_false_iff, Option.isNone_iff_eq_none]
  · intro hassemble
    obtain ⟨before, line, after, -, -, hfault⟩ := (hfirst fault).1 hassemble
    have hload : ∀ simulator : Simulator, simulator.loadSource source = .error fault :=
      fun simulator => Simulator.loadSource_of_fault hassemble
    refine ⟨hfault.numeral, fun bench => ⟨hload _, ?_⟩, fun session => ?_⟩
    · rw [Bench.perform, hload]
    · rw [Session.loadSource, hload]

/-- An unknown operation, an offset with a tab behind its sign and a base that is no register, and
another such offset. -/
def tabbedSource : String :=
  "MUL R1\n" ++
  "get: LW R1, -\t4(R99)\n" ++
  "SW R2, +\t5(R1)"

/-- The load on the second line decides. -/
theorem assemble_tabbed :
    assemble tabbedSource = .error (.numeralSpelling "-\t4") ∧
      (∃ before line after, lines tabbedSource = before ++ line :: after ∧
        (∀ earlier ∈ before, ¬ Statement.Valueless (trim (SourceLine.body earlier))) ∧
        Statement.FaultsAs (trim (SourceLine.body line)) (.numeralSpelling "-\t4")) ∧
      ∀ session : Session, session.loadSource tabbedSource =
        (session, .error (.numeralSpelling "-\t4")) := by
  have hassemble : assemble tabbedSource = .error (.numeralSpelling "-\t4") := by decide +kernel
  obtain ⟨hfirst, hleft⟩ := (assemble_eq_error_iff tabbedSource).2 (.numeralSpelling "-\t4")
  exact ⟨hassemble, hfirst.1 hassemble, (hleft hassemble).2.2⟩

end Asm

end FiveStage
