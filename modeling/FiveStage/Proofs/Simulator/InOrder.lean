import FiveStage.Proofs.Pipeline.Order
import FiveStage.Proofs.Simulator.Bench

/-!
# One program on a bench

Between two loads, states are taken out and put back under the same program. Then what is in flight
is of this program, and in the order in which control came by it (`Bench.ordered_run`). A state that
is put back under another program, or with another program counter, need not have an order.
-/

namespace FiveStage

open Asm Pipeline

/-- The operation keeps to the program, and to the way that states take through it. -/
def Operation.Stays : Operation → Prop
  | .step | .reset | .save | .restore _ => True
  | .edit _ (.register _ _) | .edit _ (.memory _ _) => True
  | _ => False

theorem Operation.Stays.loads {operation : Operation} (h : operation.Stays)
    (kind : Program → Prop) : operation.Loads kind := by
  cases operation <;> trivial

/-- A state that the program led to. -/
structure Pipeline.State.Under (program : Program) (state : State) : Prop where
  latches : state.latches.WellFormed
  placed : state.Placed program
  heads : state.Heads program

namespace Pipeline.State.Under

variable {program : Program} {state : State}

theorem startState (size : Int) (program : Program) :
    (Simulator.startState size program).Under program where
  latches := Latches.wellFormed_empty
  placed :=
    { aligned := dvd_zero 4
      ifId := fun hfull => by contradiction
      idEx := .of_isBubble rfl
      exMem := .of_isBubble rfl
      memWb := .of_isBubble rfl
      branchTaken := fun htaken => by contradiction }
  heads := by
    intro stage x hx
    cases stage <;> contradiction

theorem step (h : state.Under program) (hprogram : program.WellFormed)
    (haddressed : program.Addressed) : (state.step program).1.Under program := by
  cases hhalted : state.core.halted with
  | true =>
      rw [State.step_of_halted hhalted]
      exact h
  | false =>
      exact ⟨State.wellFormed_step hprogram h.latches,
        State.placed_step hprogram haddressed h.latches h.placed hhalted,
        (State.moves_step hprogram h.latches h.placed hhalted).heads haddressed h.heads⟩

/-- What a register or the memory holds does not matter. -/
theorem edit (h : state.Under program) {slot : Nat} {edit : Edit}
    (hstays : (Operation.edit slot edit).Stays) : (edit.apply state).Under program := by
  obtain ⟨hlatches, ⟨haligned, hifId, hidEx, hexMem, hmemWb, hbranchTaken⟩, hheads⟩ := h
  cases edit with
  | register index value =>
      exact ⟨hlatches, ⟨haligned, hifId, hidEx, hexMem, hmemWb, hbranchTaken⟩, hheads⟩
  | memory address value =>
      exact ⟨hlatches, ⟨haligned, hifId, hidEx, hexMem, hmemWb, hbranchTaken⟩, hheads⟩
  | pc address => contradiction
  | halted value => contradiction

end Pipeline.State.Under

namespace Bench

variable {source : String} {listing : Listing} {operations : List Operation}

/-- What stays under a program was led to by the program. -/
theorem under_run {size : Int} {program : Program} {clocks : Nat} {bench : Bench}
    (hprogram : program.WellFormed) (haddressed : program.Addressed)
    (h : bench.Satisfies size (· = program) (fun _ state => state.Under program) clocks)
    (hstays : ∀ operation ∈ operations, operation.Stays) :
    (bench.run operations).Satisfies size (· = program) (fun _ state => state.Under program)
      (clocks + operations.count .step) := by
  induction operations generalizing bench clocks with
  | nil => exact h
  | cons operation operations ih =>
      obtain ⟨hhere, hlater⟩ := List.forall_mem_cons.1 hstays
      have hperform : (bench.perform operation).Satisfies size (· = program)
          (fun _ state => state.Under program) (clocks + [operation].count .step) := by
        apply h.perform (hhere.loads _)
        case hclear =>
          rintro rfl
          contradiction
        case hstart =>
          rintro _ rfl
          exact .startState size _
        case hsucc => exact id
        case hstep =>
          rintro _ state rfl hstate
          exact hstate.step hprogram haddressed
        case hedit =>
          rintro slot edit state rfl hstate
          exact hstate.edit hhere
      have hrun := ih hperform hlater
      rw [Nat.add_assoc, ← List.count_append] at hrun
      exact hrun

/-- Whatever is done under a program without diagnostics, the instructions in flight are those of
the program at the addresses that the latches have, with what decode made of them, and they are in
the order in which control comes by them: from behind the instruction in front, or from the target
of a branch, over nothing but words without effect. -/
theorem ordered_run (before : Simulator) (hassemble : assemble source = .ok listing)
    (hclean : listing.isClean = true) (hstays : ∀ operation ∈ operations, operation.Stays) :
    let program : Program := listing.instructions.toArray
    let reached := (Bench.run { simulator := before.load listing.instructions }
      operations).simulator
    reached.program = program ∧ reached.state.Placed program ∧ reached.state.Ordered program := by
  intro program reached
  have hprogram : program.WellFormed := by
    intro instruction hmem
    exact wellFormed_of_assemble hassemble instruction (List.mem_toArray.1 hmem)
  have haddressed : program.Addressed := by
    intro index instruction hinstruction
    rw [List.getElem?_toArray] at hinstruction
    exact pc_of_assemble hassemble hclean hinstruction
  have hstart : Bench.Satisfies before.memorySize (· = program)
      (fun _ state => state.Under program) 0
      { simulator := before.load listing.instructions } :=
    ⟨rfl, rfl, .startState _ _, by simp⟩
  have hsatisfies := under_run hprogram haddressed hstart hstays
  have hcurrent := hsatisfies.current
  exact ⟨hsatisfies.program, hcurrent.placed, hcurrent.heads.ordered hprogram hcurrent.placed⟩

/-- The countdown from two in steps of one, up to the cycle in which it has gone back once. -/
def loopBackOperations : List Operation :=
  [.step, .save, .edit 0 (.memory 0 2), .edit 0 (.register 2 1), .restore 0] ++
    List.replicate 7 .step

/-- The countdown after it has gone back. -/
def returned : Simulator :=
  (Bench.run { simulator := Simulator.countdownLoaded } loopBackOperations).simulator

/-- The branch back is in the last latch, and the branch that it went to in the first. -/
theorem ordered_returned :
    ∃ listing, assemble Simulator.countdownSource = .ok listing ∧ listing.isClean = true ∧
      (∀ operation ∈ loopBackOperations, operation.Stays) ∧
      Simulator.countdownLoaded =
        Simulator.load ⟨2, #[], Simulator.startState 2 #[]⟩ listing.instructions ∧
      ∃ x y, returned.state.latches.occupant? .writeBack = some x ∧ x.pc = 12 ∧
        returned.state.latches.occupant? .decode = some y ∧ y.pc = 4 ∧
        ∃ address, returned.state.latches.Exits x address .writeBack ∧
          Coasts (Program.Passes listing.instructions.toArray) address y.pc := by
  obtain ⟨listing, hassemble, hclean, hload⟩ := Simulator.exists_countdownLoaded
  have hstays : ∀ operation ∈ loopBackOperations, operation.Stays := by
    simp [loopBackOperations, Operation.Stays]
  have hreturned : returned.state.Ordered listing.instructions.toArray := by
    obtain ⟨-, -, hordered⟩ := ordered_run ⟨2, #[], Simulator.startState 2 #[]⟩ hassemble hclean
      hstays
    rw [returned, hload]
    exact hordered
  obtain ⟨hlast, hmemory, hexecute, hfirst⟩ :
      (returned.state.latches.occupant? .writeBack).any (·.pc = 12) = true ∧
        returned.state.latches.occupant? .memory = none ∧
        returned.state.latches.occupant? .execute = none ∧
        (returned.state.latches.occupant? .decode).any (·.pc = 4) = true := by
    decide +kernel
  obtain ⟨x, hx, hxCounter⟩ := (Option.any_eq_true _ _).1 hlast
  obtain ⟨y, hy, hyCounter⟩ := (Option.any_eq_true _ _).1 hfirst
  refine ⟨listing, hassemble, hclean, hstays, hload, x, y, hx, of_decide_eq_true hxCounter, hy,
    of_decide_eq_true hyCounter, ?_⟩
  refine hreturned .writeBack .decode x y (by decide) hx hy ?_
  intro between hbehind hfront
  cases between with
  | memory => exact hmemory
  | execute => exact hexecute
  | fetch => exact absurd hbehind (by decide)
  | decode => exact absurd hbehind (by decide)
  | writeBack => exact absurd hfront (by decide)

end Bench

end FiveStage
