import FiveStage.Batch
import FiveStage.Proofs.Pipeline.Run
import FiveStage.Proofs.Simulator.Seeding
import Mathlib.Data.ENat.Lattice

/-!
# Clocking with a budget

A simulator halts at a certain clock edge or never, which makes `haltTime` a natural number or
`⊤`. With a budget it is clocked as often as the smaller of the two says (`endsIn_iff`), and the
trace gets the snapshot of every cycle on the way (`clock_eq`). As long as no clock edge faults
there is no other way for a batch run to end.
-/

namespace FiveStage

open Asm Pipeline
open Registers (IsIndex)

namespace Simulator

variable {simulator : Simulator} {n budget stop : Nat}

/-- The first cycle after which the simulator is halted, or `⊤` if it runs for ever. -/
noncomputable def haltTime (simulator : Simulator) : ℕ∞ :=
  ⨅ n : Nat, ⨅ _ : (simulator.clocked n).halted = true, (n : ℕ∞)

theorem haltTime_le_iff : simulator.haltTime ≤ n ↔ (simulator.clocked n).halted = true := by
  refine ⟨fun hle => ?_, fun hhalted => iInf₂_le n hhalted⟩
  by_contra hlive
  have hlater : ((n + 1 : Nat) : ℕ∞) ≤ simulator.haltTime := by
    refine le_iInf₂ fun m hm => ?_
    rw [Nat.cast_le]
    by_contra hearly
    exact hlive (halted_clocked_of_le (by omega) hm)
  have hn := Nat.cast_le.1 (hlater.trans hle)
  omega

/-- With a budget the simulator is clocked so many times: until then it is not halted, and then
it is or the budget is used up. -/
structure EndsIn (simulator : Simulator) (budget stop : Nat) : Prop where
  le : stop ≤ budget
  live : ∀ i < stop, (simulator.clocked i).halted = false
  ended : stop = budget ∨ (simulator.clocked stop).halted = true

theorem endsIn_iff :
    simulator.EndsIn budget stop ↔ (stop : ℕ∞) = min simulator.haltTime budget := by
  have hlive : (∀ i < stop, (simulator.clocked i).halted = false) ↔
      (stop : ℕ∞) ≤ simulator.haltTime := by
    constructor
    · intro hlive
      refine le_iInf₂ fun m hm => ?_
      rw [Nat.cast_le]
      by_contra hearly
      rw [hlive m (by omega)] at hm
      contradiction
    · intro hle i hi
      by_contra hhalted
      have htime := haltTime_le_iff.2 (Bool.not_eq_false _ ▸ hhalted)
      have hstop := Nat.cast_le.1 (hle.trans htime)
      omega
  constructor
  · intro h
    refine le_antisymm (le_min (hlive.1 h.live) (Nat.cast_le.2 h.le)) ?_
    obtain heq | hhalted := h.ended
    · exact (min_le_right _ _).trans (Nat.cast_le.2 heq.ge)
    · exact (min_le_left _ _).trans (haltTime_le_iff.2 hhalted)
  · intro h
    refine ⟨Nat.cast_le.1 (h ▸ min_le_right _ _), hlive.2 (h ▸ min_le_left _ _), ?_⟩
    obtain hhalt | hbudget := min_choice simulator.haltTime (budget : ℕ∞)
    · exact .inr (haltTime_le_iff.1 (h.trans hhalt).ge)
    · exact .inl (Nat.cast_inj.1 (h.trans hbudget))

theorem exists_endsIn (simulator : Simulator) (budget : Nat) :
    ∃ stop, simulator.EndsIn budget stop := by
  have hfinite : min simulator.haltTime budget ≠ ⊤ :=
    ne_top_of_le_ne_top (ENat.natCast_ne_top budget) (min_le_right _ _)
  obtain ⟨stop, hstop⟩ := ENat.ne_top_iff_exists.1 hfinite
  exact ⟨stop, endsIn_iff.2 hstop⟩

/-- When the budget is used up, the simulator is halted if it was when it was clocked last. -/
theorem EndsIn.halted_eq (h : simulator.EndsIn budget stop) :
    (simulator.clocked stop).halted = (simulator.clocked budget).halted := by
  obtain heq | hhalted := h.ended
  · rw [heq]
  · rw [hhalted, halted_clocked_of_le h.le hhalted]

theorem EndsIn.eq_zero_of_halted (h : simulator.EndsIn budget stop)
    (hhalted : simulator.halted = true) : stop = 0 := by
  by_contra hne
  have hlive : simulator.halted = false := h.live 0 (Nat.pos_of_ne_zero hne)
  rw [hhalted] at hlive
  contradiction

/-- One clock edge of the budget is spent on the first step. -/
theorem EndsIn.exists_step (h : simulator.EndsIn (budget + 1) stop)
    (hlive : simulator.halted = false) :
    ∃ rest, stop = rest + 1 ∧ simulator.step.1.EndsIn budget rest := by
  cases stop with
  | zero =>
      obtain hzero | hhalted := h.ended
      · contradiction
      · rw [show simulator.clocked 0 = simulator from rfl, hlive] at hhalted
        contradiction
  | succ rest =>
      refine ⟨rest, rfl, Nat.le_of_succ_le_succ h.le, ?_, ?_⟩
      · intro i hi
        rw [← clocked_succ_step]
        exact h.live (i + 1) (Nat.succ_lt_succ hi)
      · rw [← clocked_succ_step]
        exact h.ended.imp_left Nat.succ.inj

end Simulator

namespace Batch

variable {simulator : Simulator} {source : String} {listing : Listing} {options : Options}
  {budget stop : Nat}

/-- The snapshots after each of so many clock edges. -/
def shown (simulator : Simulator) (n : Nat) : List Snapshot :=
  (List.range n).map fun i => (simulator.clocked (i + 1)).snapshot

theorem shown_succ (simulator : Simulator) (n : Nat) :
    shown simulator (n + 1) = simulator.step.1.snapshot :: shown simulator.step.1 n := by
  rw [shown, List.range_succ_eq_map, List.map_cons, List.map_map]
  rfl

/-- Where no clock edge faults, clocking goes on to the cycle in which it ends, and the trace
gets the snapshot of every cycle. The budget is what the shown cycle leaves of the limit: one
clock edge takes both a step further. -/
theorem clock_eq {limit : Int} (hsafe : ∀ n, (simulator.clocked n).step.2 = none)
    (hbudget : (limit - simulator.snapshot.cycle).toNat = budget)
    (hends : simulator.EndsIn budget stop) (trace : Option (Array Snapshot)) :
    clock limit simulator trace =
      .ok (simulator.clocked stop, trace.map (· ++ (shown simulator stop).toArray)) := by
  induction budget generalizing simulator trace stop with
  | zero =>
      obtain rfl := Nat.le_zero.1 hends.le
      rw [clock_of_le (by omega)]
      cases trace <;> simp [shown] <;> rfl
  | succ budget ih =>
      cases hhalted : simulator.halted with
      | true =>
          obtain rfl := hends.eq_zero_of_halted hhalted
          rw [clock_of_halted hhalted]
          cases trace <;> simp [shown] <;> rfl
      | false =>
          obtain ⟨rest, rfl, hrest⟩ := hends.exists_step hhalted
          have hstep : simulator.step = (simulator.step.1, none) := Prod.ext rfl (hsafe 0)
          have hcycle := Simulator.cycle_step hhalted (hsafe 0)
          change simulator.step.1.snapshot.cycle = _ at hcycle
          have hlater : ∀ n, (simulator.step.1.clocked n).step.2 = none := by
            intro n
            rw [← Simulator.clocked_succ_step]
            exact hsafe (n + 1)
          rw [clock_of_lt hhalted (by omega), hstep, Simulator.clocked_succ_step, shown_succ]
          dsimp only
          rw [ih hlater (by omega) hrest]
          cases trace <;> simp

/-- A ready simulator shows cycle zero, so its budget is the limit. -/
theorem budget_of_ready (h : simulator.Ready) (limit : Int) :
    (limit - simulator.snapshot.cycle).toNat = limit.toNat := by
  have hzero : simulator.snapshot.cycle = 0 :=
    h.cycle_eq (n := 0) fun i hi => absurd hi (Nat.not_lt_zero i)
  rw [hzero, Int.sub_zero]

/-! ## Reports -/

theorem shortfall_of_halted (h : simulator.halted = true) (limit : Int) :
    shortfall limit simulator = .ok none := by
  rw [shortfall, if_pos h]

theorem shortfall_of_writable {limit : Int} (h : Writable limit) (simulator : Simulator) :
    shortfall limit simulator =
      .ok (if simulator.halted then none
        else some (.overLimit limit simulator.snapshot.cycle)) := by
  rw [shortfall, Report.cycleLimit, if_pos h]
  split <;> rfl

/-- There is no report on a simulator that still runs at a limit without a numeral. -/
theorem shortfall_of_not_writable {limit : Int} (h : ¬ Writable limit)
    (hlive : simulator.halted = false) : shortfall limit simulator = .error .integerLength := by
  rw [shortfall, hlive, if_neg Bool.false_ne_true, Report.cycleLimit, if_neg h]
  rfl

/-! ## Runs of programs -/

/-- A text without diagnostics is loaded and seeded before it runs. -/
theorem run_eq_of_preset {fresh ready : Simulator}
    (hfresh : Simulator.ofMemorySize options.memorySize = .ok fresh)
    (hassemble : assemble source = .ok listing) (hclean : listing.isClean = true)
    (hpreset : (fresh.load listing.instructions).preset options.registers options.memory =
      .ok ready) :
    run source options = runLoaded ready options := by
  rw [run, hfresh]
  dsimp only
  rw [Simulator.loadSource_of_clean hassemble hclean]
  dsimp only
  rw [if_pos hclean, seed_eq_preset, hpreset]

/-- What runs is a ready simulator if every register that is seeded exists. -/
theorem run_eq_of_clean {fresh : Simulator}
    (hfresh : Simulator.ofMemorySize options.memorySize = .ok fresh)
    (hassemble : assemble source = .ok listing) (hclean : listing.isClean = true)
    (hregisters : ∀ entry ∈ options.registers, IsIndex entry.1) :
    ∃ ready : Simulator, ready.Ready ∧ ready.program = listing.instructions.toArray ∧
      run source options = runLoaded ready options := by
  obtain ⟨ready, hpreset⟩ : ∃ ready,
      (fresh.load listing.instructions).preset options.registers options.memory = .ok ready :=
    Simulator.exists_preset_iff.2 hregisters
  exact ⟨ready, .intro (Simulator.loadSource_of_clean hassemble hclean) hclean hpreset,
    (Simulator.state_of_preset hpreset).1, run_eq_of_preset hfresh hassemble hclean hpreset⟩

end Batch

end FiveStage
