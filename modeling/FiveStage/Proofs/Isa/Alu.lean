import FiveStage.Isa.Opcode
import Mathlib.Data.Int.Bitwise

/-!
# The arithmetic unit and vectors of bits

The arithmetic unit computes on integers of any size and wraps the result. This is arithmetic on
vectors of 32 bits (`AluOp.exact_result`): cutting an integer to its low 32 bits takes each
operation on integers to the one on vectors (`AluOp.ofInt_eval`), and wrapping is to cut and to
read the vector as a signed number (`Word.wrap_eq_toInt`). So it makes no difference whether
operands are wrapped before.

Sums and differences are compared modulo `2 ^ 32`, the bitwise operations bit by bit. A negative
integer has infinitely many bits, of which all but finitely many are ones.
-/

namespace FiveStage

namespace Word

/-! ## Bits -/

theorem testBit_not (x : Int) (i : Nat) : (~~~x).testBit i = !x.testBit i := by
  cases x with
  | ofNat m => rfl
  | negSucc m => exact (Bool.not_not _).symm

/-- The bits of one number that another one does not have. -/
theorem testBit_xor_and (m n i : Nat) :
    (m ^^^ (m &&& n)).testBit i = (m.testBit i && !n.testBit i) := by
  rw [Nat.testBit_xor, Nat.testBit_and]
  cases m.testBit i <;> cases n.testBit i <;> rfl

/-- A bit of the conjunction is the conjunction of the bits, also beyond the highest one. -/
theorem testBit_bitAnd (a b : Int) (i : Nat) :
    (bitAnd a b).testBit i = (a.testBit i && b.testBit i) := by
  cases a with
  | ofNat m =>
      cases b with
      | ofNat n => exact Nat.testBit_and m n i
      | negSucc n => exact testBit_xor_and m n i
  | negSucc m =>
      cases b with
      | ofNat n =>
          show (n ^^^ (n &&& m)).testBit i = (!m.testBit i && n.testBit i)
          rw [testBit_xor_and, Bool.and_comm]
      | negSucc n =>
          show (!(m ||| n).testBit i) = (!m.testBit i && !n.testBit i)
          rw [Nat.testBit_or, Bool.not_or]

theorem testBit_bitOr (a b : Int) (i : Nat) :
    (bitOr a b).testBit i = (a.testBit i || b.testBit i) := by
  rw [bitOr, testBit_not, testBit_bitAnd, testBit_not, testBit_not, ← Bool.not_or, Bool.not_not]

/-- Cutting an integer to a width keeps its low bits. -/
theorem getLsbD_ofInt {width : Nat} (x : Int) {i : Nat} (h : i < width) :
    (BitVec.ofInt width x).getLsbD i = x.testBit i := by
  cases x with
  | ofNat m =>
      rw [Int.ofNat_eq_natCast, BitVec.ofInt_natCast, BitVec.getLsbD_ofNat, decide_eq_true h,
        Bool.true_and]
      rfl
  | negSucc m =>
      rw [BitVec.ofInt_negSucc_eq_not_ofNat, BitVec.getLsbD_not, BitVec.getLsbD_ofNat,
        decide_eq_true h, Bool.true_and, Bool.true_and]
      rfl

theorem ofInt_bitAnd {width : Nat} (a b : Int) :
    BitVec.ofInt width (bitAnd a b) = BitVec.ofInt width a &&& BitVec.ofInt width b := by
  apply BitVec.eq_of_getLsbD_eq
  intro i hi
  rw [BitVec.getLsbD_and, getLsbD_ofInt _ hi, getLsbD_ofInt _ hi, getLsbD_ofInt _ hi,
    testBit_bitAnd]

theorem ofInt_bitOr {width : Nat} (a b : Int) :
    BitVec.ofInt width (bitOr a b) = BitVec.ofInt width a ||| BitVec.ofInt width b := by
  apply BitVec.eq_of_getLsbD_eq
  intro i hi
  rw [BitVec.getLsbD_or, getLsbD_ofInt _ hi, getLsbD_ofInt _ hi, getLsbD_ofInt _ hi,
    testBit_bitOr]

/-! ## Wrapping -/

theorem wrap_eq_toInt (x : Int) : wrap x = (BitVec.ofInt 32 x).toInt := by
  rw [BitVec.toInt_ofInt]
  rfl

@[simp] theorem ofInt_wrap (x : Int) : BitVec.ofInt 32 (wrap x) = BitVec.ofInt 32 x := by
  rw [wrap_eq_toInt, BitVec.ofInt_toInt]

/-- What a mask of ones leaves of a number that is one less than a negation. -/
theorem xor_and_mask (m : Nat) :
    (2 ^ 32 - 1) ^^^ ((2 ^ 32 - 1) &&& m) = 2 ^ 32 - (m % 2 ^ 32 + 1) := by
  apply Nat.eq_of_testBit_eq
  intro i
  rw [testBit_xor_and, Nat.testBit_two_pow_sub_one,
    Nat.testBit_two_pow_sub_succ (Nat.mod_lt m (by decide)), Nat.testBit_mod_two_pow]
  cases decide (i < 32) <;> cases m.testBit i <;> rfl

/-- Masking takes the residue, which is never negative. -/
theorem bitAnd_mask (x : Int) : bitAnd x 4294967295 = x % 4294967296 := by
  cases x with
  | ofNat m =>
      show ((m &&& (2 ^ 32 - 1) : Nat) : Int) = (m : Int) % 4294967296
      rw [Nat.and_two_pow_sub_one_eq_mod]
      rfl
  | negSucc m =>
      show (((2 ^ 32 - 1) ^^^ ((2 ^ 32 - 1) &&& m) : Nat) : Int) = _
      rw [xor_and_mask, Int.negSucc_emod m (by decide)]
      omega

/-- Wrapping masks the low 32 bits, and counts down from `2 ^ 32` if the highest of them is set. -/
theorem wrap_eq_mask (x : Int) :
    wrap x =
      if 2147483647 < bitAnd x 4294967295 then bitAnd x 4294967295 - 4294967296
      else bitAnd x 4294967295 := by
  have hmodulus : (modulus : Int) = 4294967296 := rfl
  rw [bitAnd_mask, wrap, Int.bmod_def, hmodulus]
  split <;> split <;> omega

/-! ## Words -/

theorem inRange_ofNat_iff (m : Nat) : InRange (.ofNat m) ↔ m < 2 ^ 31 := by
  rw [InRange, Int.ofNat_eq_natCast]
  omega

theorem inRange_negSucc_iff (m : Nat) : InRange (.negSucc m) ↔ m < 2 ^ 31 := by
  rw [InRange]
  omega

theorem inRange_not_iff {x : Int} : InRange (~~~x) ↔ InRange x := by
  cases x with
  | ofNat m => exact (inRange_negSucc_iff m).trans (inRange_ofNat_iff m).symm
  | negSucc m => exact (inRange_ofNat_iff m).trans (inRange_negSucc_iff m).symm

theorem InRange.bitAnd {a b : Int} (ha : InRange a) (hb : InRange b) : InRange (bitAnd a b) := by
  cases a with
  | ofNat m =>
      have hm := (inRange_ofNat_iff m).1 ha
      cases b with
      | ofNat n =>
          have hn := (inRange_ofNat_iff n).1 hb
          exact (inRange_ofNat_iff _).2 (Nat.and_lt_two_pow m hn)
      | negSucc n =>
          have hn := (inRange_negSucc_iff n).1 hb
          exact (inRange_ofNat_iff _).2 (Nat.xor_lt_two_pow hm (Nat.and_lt_two_pow m hn))
  | negSucc m =>
      have hm := (inRange_negSucc_iff m).1 ha
      cases b with
      | ofNat n =>
          have hn := (inRange_ofNat_iff n).1 hb
          exact (inRange_ofNat_iff _).2 (Nat.xor_lt_two_pow hn (Nat.and_lt_two_pow n hm))
      | negSucc n =>
          have hn := (inRange_negSucc_iff n).1 hb
          exact (inRange_negSucc_iff _).2 (Nat.or_lt_two_pow hm hn)

theorem InRange.bitOr {a b : Int} (ha : InRange a) (hb : InRange b) : InRange (bitOr a b) :=
  inRange_not_iff.2 ((inRange_not_iff.2 ha).bitAnd (inRange_not_iff.2 hb))

end Word

namespace AluOp

/-- The operation on vectors of 32 bits. -/
def vector : AluOp → BitVec 32 → BitVec 32 → BitVec 32
  | .add, x, y => x + y
  | .sub, x, y => x - y
  | .and, x, y => x &&& y
  | .or, x, y => x ||| y

/-- Cutting to 32 bits takes the operation on integers to the one on vectors. -/
theorem ofInt_eval (op : AluOp) (a b : Int) :
    BitVec.ofInt 32 (op.eval a b) = op.vector (BitVec.ofInt 32 a) (BitVec.ofInt 32 b) := by
  cases op with
  | add => exact BitVec.ofInt_add a b
  | sub =>
      show BitVec.ofInt 32 (a - b) = BitVec.ofInt 32 a - BitVec.ofInt 32 b
      rw [Int.sub_eq_add_neg, BitVec.ofInt_add, BitVec.ofInt_neg, BitVec.sub_eq_add_neg]
  | and => exact Word.ofInt_bitAnd a b
  | or => exact Word.ofInt_bitOr a b

theorem result_eq_toInt (op : AluOp) (a b : Int) :
    op.result a b = (op.vector (BitVec.ofInt 32 a) (BitVec.ofInt 32 b)).toInt := by
  rw [result, Word.wrap_eq_toInt, ofInt_eval]

/-- For integers of any size, the arithmetic unit puts out the signed number of the vector that the
operation makes of their low 32 bits. So it is all the same whether an operand was wrapped, and a
bitwise operation on words does not need to be. Wrapping itself is to mask and to count down. -/
theorem exact_result (op : AluOp) (a b : Int) :
    Word.InRange (op.result a b) ∧
      op.result a b = (op.vector (BitVec.ofInt 32 a) (BitVec.ofInt 32 b)).toInt ∧
      op.result (Word.wrap a) b = op.result a b ∧ op.result a (Word.wrap b) = op.result a b ∧
      Word.wrap (Word.wrap a) = Word.wrap a ∧
      Word.wrap a =
        (if 2147483647 < Word.bitAnd a 4294967295 then Word.bitAnd a 4294967295 - 4294967296
          else Word.bitAnd a 4294967295) ∧
      (op = .and ∨ op = .or → Word.InRange a → Word.InRange b →
        Word.InRange (op.eval a b) ∧ op.result a b = op.eval a b) := by
  refine ⟨op.inRange_result a b, op.result_eq_toInt a b, ?_, ?_, Word.wrap_wrap a,
    Word.wrap_eq_mask a, ?_⟩
  · rw [result_eq_toInt, result_eq_toInt, Word.ofInt_wrap]
  · rw [result_eq_toInt, result_eq_toInt, Word.ofInt_wrap]
  · intro hbitwise ha hb
    have hrange : Word.InRange (op.eval a b) := by
      obtain rfl | rfl := hbitwise
      · exact ha.bitAnd hb
      · exact ha.bitOr hb
    exact ⟨hrange, Word.wrap_eq_self_iff.2 hrange⟩

/-- A number beyond 32 bits and the smallest word. -/
theorem exact_result_wide :
    AluOp.sub.result (2 ^ 40 + 5) (-2147483648) = -2147483643 ∧
      AluOp.or.result (2 ^ 40 + 5) (-2147483648) = -2147483643 ∧
      AluOp.or.result (Word.wrap (2 ^ 40 + 5)) (-2147483648) =
        AluOp.or.eval (Word.wrap (2 ^ 40 + 5)) (-2147483648) := by
  obtain ⟨-, hsub, -⟩ := exact_result .sub (2 ^ 40 + 5) (-2147483648)
  obtain ⟨-, hor, -⟩ := exact_result .or (2 ^ 40 + 5) (-2147483648)
  obtain ⟨-, -, -, -, -, -, hbitwise⟩ :=
    exact_result .or (Word.wrap (2 ^ 40 + 5)) (-2147483648)
  refine ⟨hsub.trans ?_, hor.trans ?_, (hbitwise (.inr rfl) ?_ ?_).2⟩
  · decide
  · decide
  · decide
  · decide

end AluOp

end FiveStage
