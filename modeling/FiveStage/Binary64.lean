import FiveStage.Fault

/-!
# Binary64 quotients

The ratios of counters are shown as binary64 numbers. Counters are unbounded, so their
quotient is rounded once, from the exact rational, to the nearest representable number
with ties to even. `nearestBits?` computes the encoding in natural numbers; only the last
step, `quotient?`, makes a `Float` of it.

Decimals that are read as binary64 numbers are rounded in the same way. Where such a
number has to count something, `nearestNat?` gives the natural number that it is.

The encoding uses that consecutive binary64 numbers have consecutive codes. With `unit`
the exponent of the last place and `count` the number of units, the code is
`(unit + 1074) * 2 ^ 52 + count`, also where rounding carries into the next binade and
where the number is subnormal.

Powers are spelled `Nat.pow`, so that they are the same terms whichever instances of `^`
are in scope.
-/

namespace FiveStage.Binary64

/-- The quotient of natural numbers, rounded to the nearest, a tie to the even one. -/
def roundDiv (n d : Nat) : Nat :=
  if 2 * (n % d) < d ∨ (2 * (n % d) = d ∧ n / d % 2 = 0) then n / d else n / d + 1

/-- Rounding moves the quotient by at most half a unit. -/
theorem roundDiv_near (n : Nat) {d : Nat} (hd : 0 < d) :
    2 * n ≤ 2 * (roundDiv n d * d) + d ∧ 2 * (roundDiv n d * d) ≤ 2 * n + d := by
  have hdiv := Nat.div_add_mod n d
  have hmod := Nat.mod_lt n hd
  have hcomm : d * (n / d) = n / d * d := Nat.mul_comm _ _
  unfold roundDiv
  split
  · omega
  · rw [Nat.add_mul]
    omega

/-- The quotient `n / d` in units of `2 ^ unit`, rounded. -/
def countUnits (n d : Nat) (unit : Int) : Nat :=
  if 0 ≤ unit then roundDiv n (d * Nat.pow 2 unit.toNat)
  else roundDiv (n * Nat.pow 2 (-unit).toNat) d

/-- The exponent of the last place of `n / d`: 53 significant bits, or fewer at the
bottom of the range. -/
def lastPlace (n d : Nat) : Int :=
  let low : Int := (n.log2 : Int) - d.log2 - 53
  let wide := if 0 ≤ low then d * Nat.pow 2 low.toNat * Nat.pow 2 53 ≤ n
    else d * Nat.pow 2 53 ≤ n * Nat.pow 2 (-low).toNat
  max (-1074) (if wide then low + 1 else low)

/-- The code of the binary64 number nearest to `n / d`, or `none` from halfway beyond the
largest finite one. -/
def nearestBits? (n d : Nat) : Option Nat :=
  if n = 0 then some 0
  else
    let unit := lastPlace n d
    let code := (unit + 1074).toNat * Nat.pow 2 52 + countUnits n d unit
    if code < 0x7FF0000000000000 then some code else none

/-- The finite number with a code, in units of `2 ^ -1074`. Subnormal numbers share their
last place with the lowest binade of normal ones. -/
def scaled (code : Nat) : Nat :=
  let place := code / Nat.pow 2 52 - 1
  (code - place * Nat.pow 2 52) * Nat.pow 2 place

/-- The binary64 number nearest to `n / d`, if it is finite and whole. -/
def nearestNat? (n d : Nat) : Option Nat :=
  match nearestBits? n d with
  | some code =>
    let unit := Nat.pow 2 1074
    if scaled code % unit = 0 then some (scaled code / unit) else none
  | none => none

/-- The binary64 number nearest to `n / d` for a positive `d`. A quotient that is too
close to zero keeps its sign. -/
def quotient? (n : Int) (d : Nat) : Option Float :=
  (nearestBits? n.natAbs d).map fun code =>
    Float.ofBits (UInt64.ofNat (if n < 0 then Nat.pow 2 63 + code else code))

end FiveStage.Binary64
