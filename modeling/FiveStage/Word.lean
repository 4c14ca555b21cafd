/-!
# Machine words

A word is a signed 32-bit number, kept as the integer it stands for. Arithmetic is
done on unbounded integers and brought back by `wrap`, which picks the one number of
the signed range with the same residue modulo `2 ^ 32`. Nothing else normalises: a
value is a word exactly when `wrap` leaves it alone (`wrap_eq_self_iff`).

`bitAnd` and `bitOr` act on integers as on two's-complement numbers with infinitely
many sign bits, so they need no width.
-/

namespace FiveStage.Word

/-- The number of different words, `2 ^ 32`. -/
def modulus : Nat := 4294967296

/-- The signed 32-bit value of an integer. Bits beyond the thirty-second are lost and
the highest bit kept is the sign. -/
def wrap (x : Int) : Int := x.bmod modulus

/-- The signed 32-bit range. -/
def InRange (x : Int) : Prop := -2147483648 ≤ x ∧ x < 2147483648

instance : DecidablePred InRange := fun x =>
  inferInstanceAs (Decidable (-2147483648 ≤ x ∧ x < 2147483648))

theorem inRange_wrap (x : Int) : InRange (wrap x) := by
  have lower := Int.le_bmod (m := modulus) (x := x) (by decide)
  have upper := Int.bmod_lt (m := modulus) (x := x) (by decide)
  unfold InRange wrap
  simp only [modulus] at *
  omega

/-- Exactly the words are left alone. -/
theorem wrap_eq_self_iff {x : Int} : wrap x = x ↔ InRange x := by
  constructor
  · intro h
    rw [← h]
    exact inRange_wrap x
  · rintro ⟨lower, upper⟩
    exact Int.bmod_eq_of_le (by simp only [modulus]; omega) (by simp only [modulus]; omega)

@[simp] theorem wrap_wrap (x : Int) : wrap (wrap x) = wrap x := Int.bmod_bmod

@[simp] theorem inRange_zero : InRange 0 := by decide

@[simp] theorem wrap_zero : wrap 0 = 0 := by decide

/-- Bitwise conjunction of two's-complement integers. A negative operand is one less
than the negation of a natural number, whose bits are the complement. -/
def bitAnd : Int → Int → Int
  | .ofNat m, .ofNat n => .ofNat (m &&& n)
  | .ofNat m, .negSucc n => .ofNat (m ^^^ (m &&& n))
  | .negSucc m, .ofNat n => .ofNat (n ^^^ (n &&& m))
  | .negSucc m, .negSucc n => .negSucc (m ||| n)

/-- Bitwise disjunction of two's-complement integers, by complement on both sides. -/
def bitOr (a b : Int) : Int := ~~~(bitAnd (~~~a) (~~~b))

end FiveStage.Word
