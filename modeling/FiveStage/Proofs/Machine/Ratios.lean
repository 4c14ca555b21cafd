import FiveStage.Binary64
import FiveStage.Machine.Counters
import Mathlib.Algebra.Order.Field.Power
import Mathlib.Tactic.Linarith
import Mathlib.Tactic.NormNum
import Mathlib.Tactic.Positivity
import Mathlib.Tactic.Ring

/-!
# Ratios that exist

A quotient of natural numbers has a nearest binary64 number if it is below `2 ^ 1023`
(`exists_quotient?`). To see this the last place of the quotient is bounded from both sides
(`lastPlace_bounds`), which bounds the units of it that are counted.

Counters that a run can lead to are `Plausible`: mispredictions are branches, and there is at
most one cycle for each clock edge. Both of their ratios then exist.
-/

namespace FiveStage.Binary64

variable {n d : Nat} {unit : Int}

theorem roundDiv_le {k : Nat} (hd : 0 < d) (h : n ≤ k * d) : roundDiv n d ≤ k := by
  have hnear := (roundDiv_near n hd).2
  have hscaled : 2 * roundDiv n d * d ≤ (2 * k + 1) * d := by
    calc 2 * roundDiv n d * d = 2 * (roundDiv n d * d) := Nat.mul_assoc _ _ _
      _ ≤ 2 * n + d := hnear
      _ ≤ 2 * (k * d) + d := Nat.add_le_add_right (Nat.mul_le_mul_left 2 h) d
      _ = (2 * k + 1) * d := by ring
  have hle := Nat.le_of_mul_le_mul_right hscaled hd
  omega

/-- A comparison with a power of two, in natural numbers whatever the sign of the exponent. -/
theorem mul_zpow_le_iff (a b : Nat) (e : Int) :
    (a : ℚ) * 2 ^ e ≤ b ↔
      if 0 ≤ e then a * Nat.pow 2 e.toNat ≤ b else a ≤ b * Nat.pow 2 (-e).toNat := by
  obtain ⟨k, rfl | rfl⟩ := e.eq_nat_or_neg
  · rw [if_pos (Int.natCast_nonneg k), zpow_natCast, Int.toNat_natCast, Nat.pow_eq]
    exact_mod_cast Iff.rfl
  · have hpos : (0 : ℚ) < 2 ^ k := pow_pos two_pos k
    rw [zpow_neg, zpow_natCast, ← div_eq_mul_inv, div_le_iff₀ hpos]
    rcases Nat.eq_zero_or_pos k with rfl | hk
    · simp
    · rw [if_neg (by omega), neg_neg, Int.toNat_natCast, Nat.pow_eq]
      exact_mod_cast Iff.rfl

/-- A quotient below `2 ^ 53` units of the last place has at most so many units. -/
theorem countUnits_le (hd : 0 < d) (h : (n : ℚ) ≤ d * 2 ^ (unit + 53)) :
    countUnits n d unit ≤ 2 ^ 53 := by
  have hunits : (n : ℚ) * 2 ^ (-unit) ≤ (d * 2 ^ 53 : Nat) := by
    rw [zpow_neg, ← div_eq_mul_inv, div_le_iff₀ (zpow_pos two_pos unit)]
    rw [zpow_add₀ two_ne_zero] at h
    push_cast
    linarith
  rw [mul_zpow_le_iff] at hunits
  rw [countUnits]
  split
  · rename_i hunit
    apply roundDiv_le (Nat.mul_pos hd (Nat.pow_pos two_pos))
    split at hunits
    · obtain rfl : unit = 0 := by omega
      simpa [Nat.mul_comm] using hunits
    · rw [neg_neg] at hunits
      calc n ≤ d * 2 ^ 53 * Nat.pow 2 unit.toNat := hunits
        _ = 2 ^ 53 * (d * Nat.pow 2 unit.toNat) := by ring
  · rename_i hunit
    apply roundDiv_le hd
    rw [if_pos (by omega)] at hunits
    linarith

theorem log2_bounds (hn : n ≠ 0) :
    (2 : ℚ) ^ (n.log2 : Int) ≤ n ∧ (n : ℚ) < 2 ^ ((n.log2 : Int) + 1) := by
  have hlow := Nat.log2_self_le hn
  have hhigh := Nat.lt_log2_self (n := n)
  constructor
  · rw [zpow_natCast]
    exact_mod_cast hlow
  · rw [← Nat.cast_succ, zpow_natCast]
    exact_mod_cast hhigh

/-- The last place is large enough for 53 bits and, above the bottom of the range, no larger. -/
theorem lastPlace_bounds (hn : n ≠ 0) (hd : d ≠ 0) :
    (n : ℚ) ≤ d * 2 ^ (lastPlace n d + 53) ∧
      (lastPlace n d = -1074 ∨ (d : ℚ) * 2 ^ (lastPlace n d + 52) ≤ n) := by
  obtain ⟨hnlow, hnhigh⟩ := log2_bounds hn
  obtain ⟨hdlow, hdhigh⟩ := log2_bounds hd
  rw [lastPlace]
  generalize hexponent : (n.log2 : Int) - d.log2 - 53 = low
  have hlow : (d : ℚ) * 2 ^ (low + 52) ≤ n := by
    refine le_trans ?_ hnlow
    calc (d : ℚ) * 2 ^ (low + 52) ≤ 2 ^ ((d.log2 : Int) + 1) * 2 ^ (low + 52) :=
          mul_le_mul_of_nonneg_right hdhigh.le (zpow_nonneg zero_le_two _)
      _ = 2 ^ (n.log2 : Int) := by
        rw [← zpow_add₀ two_ne_zero]
        congr 1
        omega
  have hhigh : (n : ℚ) ≤ d * 2 ^ (low + 1 + 53) := by
    refine le_trans hnhigh.le ?_
    calc (2 : ℚ) ^ ((n.log2 : Int) + 1) = 2 ^ (d.log2 : Int) * 2 ^ (low + 1 + 53) := by
          rw [← zpow_add₀ two_ne_zero]
          congr 1
          omega
      _ ≤ d * 2 ^ (low + 1 + 53) :=
          mul_le_mul_of_nonneg_right hdlow (zpow_nonneg zero_le_two _)
  have hwide : (if 0 ≤ low then d * Nat.pow 2 low.toNat * Nat.pow 2 53 ≤ n
      else d * Nat.pow 2 53 ≤ n * Nat.pow 2 (-low).toNat) ↔ (d : ℚ) * 2 ^ (low + 53) ≤ n := by
    have hscale : (d : ℚ) * 2 ^ (low + 53) = (d * Nat.pow 2 53 : Nat) * 2 ^ low := by
      rw [zpow_add₀ two_ne_zero]
      push_cast
      ring
    rw [hscale, mul_zpow_le_iff, Nat.mul_right_comm]
  have hplace : ∀ place : Int, (n : ℚ) ≤ d * 2 ^ (place + 53) → (d : ℚ) * 2 ^ (place + 52) ≤ n →
      (n : ℚ) ≤ d * 2 ^ (max (-1074) place + 53) ∧
        (max (-1074) place = -1074 ∨ (d : ℚ) * 2 ^ (max (-1074) place + 52) ≤ n) := by
    intro place hle hge
    rcases max_cases (-1074) place with ⟨hmax, hsmall⟩ | ⟨hmax, -⟩
    · rw [hmax]
      refine ⟨hle.trans ?_, .inl rfl⟩
      apply mul_le_mul_of_nonneg_left _ (Nat.cast_nonneg d)
      exact zpow_le_zpow_right₀ one_le_two (by omega)
    · rw [hmax]
      exact ⟨hle, .inr hge⟩
  by_cases h : (d : ℚ) * 2 ^ (low + 53) ≤ n
  · rw [if_pos (hwide.2 h)]
    apply hplace _ hhigh
    rw [add_assoc]
    exact h
  · rw [if_neg (mt hwide.1 h)]
    exact hplace _ (not_le.1 h).le hlow

/-- A quotient below `2 ^ 1023` is near a finite number. -/
theorem isSome_nearestBits? (hd : 0 < d) (h : n < d * 2 ^ 1023) :
    (nearestBits? n d).isSome := by
  have hcast : (n : ℚ) < d * 2 ^ 1023 := by exact_mod_cast h
  rw [nearestBits?]
  split
  · rfl
  · rename_i hn
    obtain ⟨hle, hge⟩ := lastPlace_bounds hn hd.ne'
    have hplace : lastPlace n d ≤ 970 := by
      rcases hge with hbottom | hge
      · omega
      · have hlt := lt_of_mul_lt_mul_left (hge.trans_lt hcast) (Nat.cast_nonneg d)
        rw [← zpow_natCast, zpow_lt_zpow_iff_right₀ one_lt_two] at hlt
        omega
    have hcount := countUnits_le hd hle
    dsimp only
    rw [if_pos]
    · rfl
    · have hunit : (lastPlace n d + 1074).toNat * 2 ^ 52 ≤ 2044 * 2 ^ 52 :=
        Nat.mul_le_mul_right _ (by omega)
      simp only [Nat.pow_eq]
      omega

theorem exists_quotient? {n : Int} (hd : 0 < d) (h : n.natAbs < d * 2 ^ 1023) :
    ∃ ratio, quotient? n d = some ratio := by
  obtain ⟨code, hcode⟩ := Option.isSome_iff_exists.1 (isSome_nearestBits? hd h)
  rw [quotient?, hcode]
  exact ⟨_, rfl⟩

end FiveStage.Binary64


namespace FiveStage.Counters

variable {counters : Counters} {clocks : Nat}

/-- What the counters of a pipeline have in common that was clocked at most so many times. -/
structure Plausible (clocks : Nat) (counters : Counters) : Prop where
  cycles_nonneg : 0 ≤ counters.cycles
  cycles_le : counters.cycles ≤ clocks
  mispredictions_nonneg : 0 ≤ counters.mispredictions
  mispredictions_le : counters.mispredictions ≤ counters.branches

theorem Plausible.mono {later : Nat} (h : counters.Plausible clocks) (hle : clocks ≤ later) :
    counters.Plausible later where
  cycles_nonneg := h.cycles_nonneg
  cycles_le := Int.le_trans h.cycles_le (Int.ofNat_le.2 hle)
  mispredictions_nonneg := h.mispredictions_nonneg
  mispredictions_le := h.mispredictions_le

theorem Plausible.succ (h : counters.Plausible clocks) : counters.Plausible (clocks + 1) :=
  h.mono (Nat.le_succ clocks)

theorem Plausible.exists_branchAccuracy (h : counters.Plausible clocks) :
    ∃ share, counters.branchAccuracy = .ok share := by
  have hnonneg := h.mispredictions_nonneg
  have hle := h.mispredictions_le
  rw [branchAccuracy]
  split
  · have hpos : 0 < counters.branches.toNat := by omega
    have hbound : (counters.branches - counters.mispredictions).natAbs <
        counters.branches.toNat * 2 ^ 1023 := by
      calc (counters.branches - counters.mispredictions).natAbs ≤ counters.branches.toNat := by
            omega
        _ < counters.branches.toNat * 2 ^ 1023 :=
            lt_mul_of_one_lt_right hpos (one_lt_pow₀ one_lt_two (by decide))
    obtain ⟨share, hshare⟩ := Binary64.exists_quotient? hpos hbound
    rw [hshare]
    exact ⟨_, rfl⟩
  · exact ⟨_, rfl⟩

theorem Plausible.exists_cyclesPerInstruction (h : counters.Plausible clocks)
    (hclocks : clocks < 2 ^ 1023) : ∃ ratio, counters.cyclesPerInstruction = .ok ratio := by
  have hcycles : counters.cycles.natAbs < 2 ^ 1023 := by
    have hnonneg := h.cycles_nonneg
    have hle := h.cycles_le
    exact lt_of_le_of_lt (by omega) hclocks
  have hbound {d : Nat} (hd : 0 < d) : ∃ ratio, Binary64.quotient? counters.cycles d = some ratio :=
    Binary64.exists_quotient? hd (lt_of_lt_of_le hcycles (Nat.le_mul_of_pos_left _ hd))
  rw [cyclesPerInstruction]
  split
  · obtain ⟨ratio, hratio⟩ := hbound (d := counters.completed.toNat) (by omega)
    rw [hratio]
    exact ⟨ratio, rfl⟩
  · obtain ⟨ratio, hratio⟩ := hbound one_pos
    rw [hratio]
    exact ⟨ratio, rfl⟩

end FiveStage.Counters
