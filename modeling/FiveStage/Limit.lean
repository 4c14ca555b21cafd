/-!
# Limits

Integers have no bounds, but not everything can be done with all of them. A decimal numeral
has at most `digitLimit` digits, be it one that is read or one that is written into a text.
And what counts the words of a row, or a place in it, has to fit a signed number of 64 bits.

A number beyond a limit is harmless as long as it is only calculated with. The limits are
asked for where a number is written down or used as a size or an index, and nowhere else.
Line numbers are written down without asking, as no text has enough lines for one of them to be
too long. How much room there really is for words is no matter of these limits and not looked at.
-/

namespace FiveStage

/-- The most digits that a decimal numeral may have. -/
def digitLimit : Nat := 4300

/-- The integer has a decimal numeral. The sign is no digit. -/
def Writable (n : Int) : Prop := n.natAbs < Nat.pow 10 digitLimit

instance : DecidablePred Writable := fun n =>
  inferInstanceAs (Decidable (n.natAbs < Nat.pow 10 digitLimit))

/-- The integer can count words: it is a signed number of 64 bits. -/
def FitsIndex (n : Int) : Prop := -9223372036854775808 ≤ n ∧ n < 9223372036854775808

instance : DecidablePred FitsIndex := fun n =>
  inferInstanceAs (Decidable (-9223372036854775808 ≤ n ∧ n < 9223372036854775808))

/-- What can count has a numeral. -/
theorem FitsIndex.writable {n : Int} (h : FitsIndex n) : Writable n := by
  obtain ⟨hlow, hhigh⟩ := h
  -- For any limit, as the power itself is better not evaluated.
  have hgrow : ∀ limit, 63 ≤ limit → Nat.pow 10 63 ≤ Nat.pow 10 limit :=
    fun limit hlimit => Nat.pow_le_pow_right (by decide) hlimit
  calc n.natAbs ≤ 9223372036854775808 := by omega
    _ < Nat.pow 10 63 := by decide
    _ ≤ Nat.pow 10 digitLimit := hgrow digitLimit (by decide)

end FiveStage
