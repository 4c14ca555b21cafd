import FiveStage.Proofs.Asm.BranchNotation
import FiveStage.Proofs.Pipeline.Wordless
import FiveStage.Proofs.Simulator.Bench
import FiveStage.Proofs.Simulator.Seeding

/-!
# Runs of programs that differ in texts

Two simulators whose programs and states differ in nothing but texts are indistinguishable, whatever
is done with them, except that they show different texts (`Bench.wordless_run`). The reason is that
what is left of a bench without texts is all that an operation needs to know (`Bench.factors`).

This is what it means for the two notations of a branch target to agree. The text with a number in
place of a label is assembled to the same listing but for a text, so it makes no difference to any
run which of the two is loaded (`branch_notations`).
-/

namespace FiveStage

open Asm Pipeline

namespace Simulator

/-- The simulator without texts. -/
def wordless (simulator : Simulator) : Simulator :=
  { simulator with
    program := Program.wordless simulator.program
    state := simulator.state.wordless }

theorem startState_wordless (size : Int) (program : Program) :
    startState size (Program.wordless program) = (startState size program).wordless := by
  have hempty : (Program.wordless program).isEmpty = program.isEmpty := by
    rw [Array.isEmpty, Array.isEmpty, Program.wordless, Array.size_map]
  rw [startState, hempty]
  rfl

theorem load_wordless (simulator : Simulator) (instructions : List Instruction) :
    (simulator.load instructions).wordless =
      simulator.wordless.load (instructions.map Instruction.wordless) := by
  have hprogram : (instructions.map Instruction.wordless).toArray =
      Program.wordless instructions.toArray := List.map_toArray.symm
  rw [load, load, hprogram, startState_wordless]
  rfl

theorem reset_wordless (simulator : Simulator) :
    simulator.reset.wordless = simulator.wordless.reset := by
  rw [reset, reset]
  show _ = Simulator.mk _ _ (startState simulator.memorySize (Program.wordless simulator.program))
  rw [startState_wordless]
  rfl

theorem step_wordless (simulator : Simulator) :
    simulator.wordless.step = (simulator.step.1.wordless, simulator.step.2) := by
  have hstep := simulator.state.step_wordless simulator.program
  have hstate : simulator.wordless.state.step simulator.wordless.program = _ := hstep
  rw [step, hstate]
  rfl

theorem snapshot_wordless (simulator : Simulator) :
    simulator.wordless.snapshot = simulator.snapshot.wordless :=
  simulator.state.snapshot_wordless

end Simulator

namespace Bench

/-- The bench without texts. -/
def wordless (bench : Bench) : Bench where
  simulator := bench.simulator.wordless
  saved := bench.saved.map State.wordless

theorem perform_load_of_clean {source : String} {listing : Listing}
    (h : assemble source = .ok listing) (hclean : listing.isClean = true) (bench : Bench) :
    bench.perform (.load source) = bench.perform (.install listing.instructions) := by
  simp only [perform, Simulator.loadSource_of_clean h hclean]

theorem perform_load_of_unclean {source : String} {listing : Listing}
    (h : assemble source = .ok listing) (hunclean : listing.isClean = false) (bench : Bench) :
    bench.perform (.load source) = bench := by
  simp only [perform, Simulator.loadSource_of_unclean h hunclean]

theorem wordless_install (bench : Bench) (instructions : List Instruction) :
    (bench.perform (.install instructions)).wordless =
      bench.wordless.perform (.install (instructions.map Instruction.wordless)) := by
  show Bench.mk (bench.simulator.load instructions).wordless _ = _
  rw [Simulator.load_wordless]
  rfl

/-- What is left of a bench without texts decides what is left of it after an operation. -/
theorem factors (operation : Operation) : ∃ next : Bench → Bench, ∀ bench : Bench,
    (bench.perform operation).wordless = next bench.wordless := by
  have hinstall : ∀ instructions : List Instruction, ∃ next : Bench → Bench, ∀ bench : Bench,
      (bench.perform (.install instructions)).wordless = next bench.wordless := fun instructions =>
    ⟨(·.perform (.install (instructions.map Instruction.wordless))), fun bench =>
      bench.wordless_install instructions⟩
  cases operation with
  | load source =>
      cases hassemble : assemble source with
      | error fault =>
          refine ⟨id, fun bench => ?_⟩
          simp only [perform, Simulator.loadSource_of_fault hassemble]
          rfl
      | ok listing =>
          cases hclean : listing.isClean with
          | false => exact ⟨id, fun bench => by rw [perform_load_of_unclean hassemble hclean]; rfl⟩
          | true =>
              simp only [perform_load_of_clean hassemble hclean]
              exact hinstall listing.instructions
  | install instructions => exact hinstall instructions
  | step =>
      refine ⟨(·.perform .step), fun bench => ?_⟩
      have hstep : bench.wordless.simulator.step = _ := bench.simulator.step_wordless
      simp only [perform, hstep]
      rfl
  | reset =>
      refine ⟨(·.perform .reset), fun bench => ?_⟩
      show Bench.mk bench.simulator.reset.wordless _ = _
      rw [Simulator.reset_wordless]
      rfl
  | clear => exact hinstall []
  | save =>
      refine ⟨(·.perform .save), fun bench => ?_⟩
      simp only [perform, wordless, List.map_append]
      rfl
  | restore slot =>
      refine ⟨(·.perform (.restore slot)), fun bench => ?_⟩
      have hslot : bench.wordless.saved[slot]? = bench.saved[slot]?.map State.wordless :=
        List.getElem?_map
      simp only [perform, hslot]
      cases bench.saved[slot]? <;> rfl
  | edit slot edit =>
      refine ⟨(·.perform (.edit slot edit)), fun bench => ?_⟩
      have hsaved : (bench.saved.modify slot edit.apply).map State.wordless =
          (bench.saved.map State.wordless).modify slot edit.apply := by
        apply List.ext_getElem?
        intro index
        rw [List.getElem?_map, List.getElem?_modify, List.getElem?_modify, List.getElem?_map]
        split <;> cases bench.saved[index]? <;> rfl
      simp only [perform, wordless, hsaved]

/-- Benches that differ in texts only still do after the same operations. -/
theorem wordless_run {first second : Bench} (h : first.wordless = second.wordless)
    (operations : List Operation) :
    (first.run operations).wordless = (second.run operations).wordless := by
  induction operations generalizing first second with
  | nil => exact h
  | cons operation operations ih =>
      obtain ⟨next, hnext⟩ := factors operation
      apply ih
      rw [hnext, hnext, h]

/-- Whatever is done after the one text or the other was loaded into the same simulator, the states
differ in texts only. So the same is shown but for texts, and the next clock edge has the same
fault, if any. -/
def RunAlike (source other : String) : Prop :=
  ∀ (bench : Bench) (operations : List Operation),
    let first := bench.run (.load source :: operations)
    let second := bench.run (.load other :: operations)
    second.wordless = first.wordless ∧
      second.simulator.snapshot.wordless = first.simulator.snapshot.wordless ∧
      second.simulator.step.2 = first.simulator.step.2

theorem runAlike_of_wordless {source other : String} {listing relisted : Listing}
    (h : assemble source = .ok listing) (hother : assemble other = .ok relisted)
    (hclean : relisted.isClean = listing.isClean)
    (hinstructions : relisted.instructions.map Instruction.wordless =
      listing.instructions.map Instruction.wordless) : RunAlike source other := by
  intro bench operations first second
  have hloaded : (bench.perform (.load other)).wordless =
      (bench.perform (.load source)).wordless := by
    cases hlisting : listing.isClean with
    | false =>
        rw [perform_load_of_unclean h hlisting, perform_load_of_unclean hother (hclean ▸ hlisting)]
    | true =>
        rw [perform_load_of_clean h hlisting, perform_load_of_clean hother (hclean ▸ hlisting),
          wordless_install, wordless_install, hinstructions]
  have hrun : second.wordless = first.wordless := wordless_run hloaded operations
  have hsimulator : second.simulator.wordless = first.simulator.wordless :=
    congrArg Bench.simulator hrun
  refine ⟨hrun, ?_, ?_⟩
  · rw [← Simulator.snapshot_wordless, ← Simulator.snapshot_wordless, hsimulator]
  · have hsecond := congrArg Prod.snd second.simulator.step_wordless
    have hfirst := congrArg Prod.snd first.simulator.step_wordless
    rw [hsimulator] at hsecond
    exact hsecond.symm.trans hfirst

theorem wordless_retext (listing : Listing) (number : Nat) (text : String) :
    (listing.retext number text).instructions.map Instruction.wordless =
      listing.instructions.map Instruction.wordless := by
  rw [Listing.retext, List.map_map]
  refine List.map_congr_left fun instruction _ => ?_
  rw [Function.comp_apply]
  split <;> rfl

end Bench

/-! ## The notations of a branch target -/

namespace Asm

open Text

/-- A branch goes to a multiple of four, as many words beyond the next instruction as it says. One
that is written with a label goes where the label is, in capitals or else as it is written. The
number of words may be written for the label, which is the last word of the statement. Listing and
runs are the same then but for a text. In decimal that is possible in every text of fewer than
`10 ^ 4300` statements, where the number is not too long. -/
theorem branch_notations {source : String} {listing : Listing}
    (h : assemble source = .ok listing) :
    (∀ instruction ∈ listing.instructions, instruction.opcode = .beq →
        ∃ words, instruction.immediate = some words ∧
          instruction.target = some (instruction.pc + 4 + 4 * words) ∧
            4 ∣ instruction.pc + 4 + 4 * words) ∧
      ∀ (k : Nat) (line : SourceLine) (label : List Char) (instruction : Instruction),
        (lines source)[k]? = some line → line.BranchesTo label →
        instruction ∈ listing.instructions → instruction.line = some ((k + 1 : Nat) : Int) →
          ∃ (words : Int) (address : Nat),
            instruction.opcode = .beq ∧ instruction.immediate = some words ∧
            instruction.target = some (address : Int) ∧
            (listing.labels.address? (String.ofList (upper label))).or
              (listing.labels.address? (String.ofList label)) = some address ∧
            address ≤ 4 * statementCount (lines source) ∧
            lastWord line.body = label ∧
            (statementCount (lines source) < 10 ^ digitLimit →
              SpellsInteger 0 words (toString words).toList) ∧
            ∀ numeral, SpellsInteger 0 words numeral →
              assemble (withTarget source k numeral) =
                  .ok (listing.retext (k + 1)
                    (String.ofList (trim (line.withTarget numeral).code))) ∧
                Bench.RunAlike source (withTarget source k numeral) := by
  refine ⟨fun instruction => target_of_branch h, ?_⟩
  intro k line label instruction hline hbranch hmem hnumber
  have hinline := newline_notMem_of_mem_lines (List.mem_of_getElem? hline)
  obtain ⟨j, own, hown, hstatement, hplace, houtcome⟩ := exists_placed_of_mem h hmem
  obtain rfl : j = k := by
    have hsame := hplace.symm.trans hnumber
    simp only [Option.some.injEq, Int.natCast_inj] at hsame
    omega
  obtain rfl := Option.some.inj (hline.symm.trans hown)
  obtain ⟨hopcode, address, haddress, htarget⟩ := hbranch.decoded hinline houtcome
  obtain ⟨words, himmediate, hdestination, -⟩ := target_of_branch h hmem hopcode
  have hle := le_of_address? h haddress
  refine ⟨words, address, hopcode, himmediate, htarget, ?_, hle, hbranch.lastWord_eq, ?_, ?_⟩
  · rw [Target.address?, String.toList_ofList] at haddress
    exact haddress
  · intro hfew
    apply spellsInteger_toString
    have hbefore := statementCount_take_lt hline hstatement
    have hsame := Option.some.inj (htarget.symm.trans hdestination)
    rw [Placed.pc_of_outcome houtcome, Placed.pc, SourceLine.placed] at hsame
    dsimp only at hsame
    generalize 10 ^ digitLimit = limit at hfew ⊢
    omega
  · intro numeral hnumeral
    have hassemble :=
      assemble_withTarget h hline hbranch hstatement houtcome himmediate hnumeral
    exact ⟨hassemble, Bench.runAlike_of_wordless h hassemble rfl (Bench.wordless_retext _ _ _)⟩

/-- A branch back and one ahead to the end, behind a statement that is not one. -/
def loopSource : String :=
  "loop: ADD R1, R1, R2\n" ++
  "MUL R1\n" ++
  "beq R1, R3, done # ahead\n" ++
  "BEQ R0, R0, loop\n" ++
  "done:"

def loop : Listing := (assemble loopSource).toOption.getD ⟨[], [], {}⟩

theorem branch_notations_loop :
    assemble loopSource = .ok loop ∧
      withTarget loopSource 3 "-4".toList =
        "loop: ADD R1, R1, R2\nMUL R1\nbeq R1, R3, done # ahead\nBEQ R0, R0, -4\ndone:" ∧
      assemble (withTarget loopSource 3 "-4".toList) = .ok (loop.retext 4 "BEQ R0, R0, -4") ∧
      Bench.RunAlike loopSource (withTarget loopSource 3 "-4".toList) := by
  have hassemble : assemble loopSource = .ok loop := by decide +kernel
  have hline : (lines loopSource)[3]? = some "BEQ R0, R0, loop".toList := by decide +kernel
  have hbranch : SourceLine.BranchesTo "BEQ R0, R0, loop".toList "loop".toList :=
    ⟨by decide +kernel, ⟨"R0".toList, "R0".toList, by decide +kernel⟩, by decide +kernel⟩
  have hdecoded : ∃ instruction ∈ loop.instructions,
      instruction.line = some ((3 + 1 : Nat) : Int) ∧ instruction.immediate = some (-4) := by
    decide +kernel
  obtain ⟨instruction, hmem, hnumber, himmediate⟩ := hdecoded
  obtain ⟨words, address, -, hwords, -, -, -, -, hdecimal, hnumerals⟩ :=
    (branch_notations hassemble).2 3 _ _ instruction hline hbranch hmem hnumber
  obtain rfl := Option.some.inj (himmediate.symm.trans hwords)
  have hfew : statementCount (lines loopSource) < 10 ^ digitLimit := by
    have hcount : statementCount (lines loopSource) < digitLimit := by decide +kernel
    exact hcount.trans (Nat.lt_pow_self (by decide))
  have hnumeral : (toString (-4 : Int)).toList = "-4".toList := by decide +kernel
  have hspells := hdecimal hfew
  rw [hnumeral] at hspells
  obtain ⟨hnumbered, hruns⟩ := hnumerals _ hspells
  have htext : String.ofList (trim (SourceLine.withTarget "BEQ R0, R0, loop".toList
      "-4".toList).code) = "BEQ R0, R0, -4" := by
    decide +kernel
  rw [htext] at hnumbered
  exact ⟨hassemble, by decide +kernel, hnumbered, hruns⟩

end Asm

end FiveStage
