/-!
# Digits

A decimal digit is any character of the Unicode category of decimal numbers. These come
in rows of ten in the order of their values, so the list of the zeros describes them
all. Hexadecimal digits are the ASCII ones, in either case.
-/

namespace FiveStage.Text

/-- The code points of the digits zero. -/
def digitZeros : List Nat := [
  48, 1632, 1776, 1984, 2406, 2534, 2662, 2790, 2918, 3046, 3174, 3302, 3430, 3558, 3664, 3792,
  3872, 4160, 4240, 6112, 6160, 6470, 6608, 6784, 6800, 6992, 7088, 7232, 7248, 42528, 43216,
  43264, 43472, 43504, 43600, 44016, 65296, 66720, 68912, 69734, 69872, 69942, 70096, 70384,
  70736, 70864, 71248, 71360, 71472, 71904, 72016, 72784, 73040, 73120, 92768, 92864, 93008,
  120782, 120792, 120802, 120812, 120822, 123200, 123632, 125264, 130032]

/-- The value of a decimal digit of any script. -/
def digitValue? (c : Char) : Option Nat :=
  (digitZeros.find? fun first => decide (first ≤ c.toNat ∧ c.toNat < first + 10)).map (c.toNat - ·)

def isDigit (c : Char) : Bool := (digitValue? c).isSome

/-- The value of an ASCII hexadecimal digit. -/
def hexValue? (c : Char) : Option Nat :=
  let n := c.toNat
  if 48 ≤ n ∧ n ≤ 57 then some (n - 48)
  else if 97 ≤ n ∧ n ≤ 102 then some (n - 87)
  else if 65 ≤ n ∧ n ≤ 70 then some (n - 55)
  else none

def isHexDigit (c : Char) : Bool := (hexValue? c).isSome

/-- The number that a row of digits stands for, the leading one first. A character
without a value counts as zero. -/
def digitsValue (base : Nat) (value? : Char → Option Nat) (digits : List Char) : Nat :=
  digits.foldl (fun number c => number * base + (value? c).getD 0) 0

/-- The number that a row of decimal digits stands for. -/
def decimalValue (digits : List Char) : Nat := digitsValue 10 digitValue? digits

/-- The number that a row of hexadecimal digits stands for. -/
def hexadecimalValue (digits : List Char) : Nat := digitsValue 16 hexValue? digits

/-- The digits of a text in which single underscores may stand between digits. -/
def groupedDigits? (digit : Char → Bool) (s : List Char) : Option (List Char) :=
  let groups := s.splitOn '_'
  if groups.all (fun group => !group.isEmpty && group.all digit) then some groups.flatten
  else none

/-- A digit appended at the end shifts the others by one place. -/
theorem digitsValue_concat (base : Nat) (value? : Char → Option Nat) (digits : List Char)
    (c : Char) :
    digitsValue base value? (digits ++ [c]) =
      digitsValue base value? digits * base + (value? c).getD 0 := by
  simp [digitsValue]

end FiveStage.Text
