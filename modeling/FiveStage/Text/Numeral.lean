import FiveStage.Fault
import FiveStage.Text.Blank
import FiveStage.Text.Digit

/-!
# Numerals

A numeral is an optional sign, white space, and a magnitude in decimal or, after `0x`,
in hexadecimal. `read?` takes the longest one from the front of a text and hands back
the rest; the parts it finds spell exactly what it took (`spelling_append_of_read?`).

Reading is kept apart from valuing. A numeral may be well formed and still have no
value: only plain spaces may separate sign and magnitude, and a decimal magnitude is
limited to `digitLimit` digits. Hexadecimal magnitudes have no limit.
-/

namespace FiveStage.Text

/-- The sign in front of a numeral; an absent one counts as a plus. -/
inductive Sign where
  | absent
  | plus
  | minus
  deriving DecidableEq

namespace Sign

def spelling : Sign → List Char
  | .absent => []
  | .plus => ['+']
  | .minus => ['-']

/-- The integer of a magnitude under a sign. -/
def apply : Sign → Nat → Int
  | .minus, n => -(n : Int)
  | _, n => n

/-- Takes a sign from the front of a text, if there is one. -/
def read : List Char → Sign × List Char
  | '+' :: rest => (.plus, rest)
  | '-' :: rest => (.minus, rest)
  | s => (.absent, s)

theorem spelling_append_read (s : List Char) : (read s).1.spelling ++ (read s).2 = s := by
  unfold read
  split <;> simp [spelling]

end Sign

/-- A magnitude as it is spelled. The mark of a hexadecimal one is its small or capital
letter x. -/
inductive Magnitude where
  | decimal (digits : List Char)
  | hexadecimal (mark : Char) (digits : List Char)
  deriving DecidableEq

namespace Magnitude

def spelling : Magnitude → List Char
  | .decimal digits => digits
  | .hexadecimal mark digits => '0' :: mark :: digits

/-- The number of a magnitude, or the fault of a decimal one that is too long. -/
def value : Magnitude → Except Fault Nat
  | .decimal digits =>
    if digits.length ≤ digitLimit then .ok (decimalValue digits)
    else .error (.numeralLength digits.length)
  | .hexadecimal _ digits => .ok (hexadecimalValue digits)

/-- Takes the decimal digits from the front of a text. -/
def readDecimal? (s : List Char) : Option (Magnitude × List Char) :=
  match s.takeWhile isDigit with
  | [] => none
  | digits => some (.decimal digits, s.dropWhile isDigit)

/-- Takes the longest magnitude from the front of a text. A zero whose `x` is followed
by no hexadecimal digit is a decimal zero. -/
def read? (s : List Char) : Option (Magnitude × List Char) :=
  match s with
  | '0' :: mark :: rest =>
    if (mark = 'x' ∨ mark = 'X') ∧ rest.takeWhile isHexDigit ≠ [] then
      some (.hexadecimal mark (rest.takeWhile isHexDigit), rest.dropWhile isHexDigit)
    else readDecimal? s
  | _ => readDecimal? s

theorem spelling_append_of_readDecimal? {s rest : List Char} {magnitude : Magnitude}
    (h : readDecimal? s = some (magnitude, rest)) : magnitude.spelling ++ rest = s := by
  unfold readDecimal? at h
  split at h
  · contradiction
  · simp only [Option.some.injEq, Prod.mk.injEq] at h
    obtain ⟨rfl, rfl⟩ := h
    exact List.takeWhile_append_dropWhile

theorem spelling_append_of_read? {s rest : List Char} {magnitude : Magnitude}
    (h : read? s = some (magnitude, rest)) : magnitude.spelling ++ rest = s := by
  unfold read? at h
  split at h
  · split at h
    · simp only [Option.some.injEq, Prod.mk.injEq] at h
      obtain ⟨rfl, rfl⟩ := h
      simp [spelling, List.takeWhile_append_dropWhile]
    · exact spelling_append_of_readDecimal? h
  · exact spelling_append_of_readDecimal? h

end Magnitude

/-- A numeral as it is spelled, with the white space between sign and magnitude. -/
structure Numeral where
  sign : Sign
  gap : List Char
  magnitude : Magnitude
  deriving DecidableEq

namespace Numeral

def spelling (numeral : Numeral) : List Char :=
  numeral.sign.spelling ++ numeral.gap ++ numeral.magnitude.spelling

/-- The gap without its plain spaces. A numeral has a value only where nothing is left. -/
def strayBlanks (numeral : Numeral) : List Char := numeral.gap.filter (· ≠ ' ')

/-- The integer of a numeral. White space other than plain spaces in the gap is a fault
that comes before that of a magnitude with too many digits. -/
def value (numeral : Numeral) : Except Fault Int :=
  if numeral.strayBlanks = [] then
    numeral.magnitude.value.map numeral.sign.apply
  else
    .error (.numeralSpelling (String.ofList
      (numeral.sign.spelling ++ numeral.strayBlanks ++ numeral.magnitude.spelling)))

/-- Takes a numeral from the front of a text. -/
def read? (s : List Char) : Option (Numeral × List Char) :=
  let (sign, afterSign) := Sign.read s
  (Magnitude.read? (afterSign.dropWhile isBlank)).map fun (magnitude, rest) =>
    (⟨sign, afterSign.takeWhile isBlank, magnitude⟩, rest)

theorem spelling_append_of_read? {s rest : List Char} {numeral : Numeral}
    (h : read? s = some (numeral, rest)) : numeral.spelling ++ rest = s := by
  obtain ⟨⟨magnitude, rest'⟩, hread, heq⟩ := Option.map_eq_some_iff.1 h
  simp only [Prod.mk.injEq] at heq
  obtain ⟨rfl, rfl⟩ := heq
  have hmagnitude := Magnitude.spelling_append_of_read? hread
  simp only [spelling, List.append_assoc, hmagnitude, List.takeWhile_append_dropWhile]
  exact Sign.spelling_append_read s

/-- The integer of a text that is one numeral without a gap, if it has a value. -/
def compact? (s : List Char) : Option Int :=
  match read? s with
  | some (numeral, []) =>
    if numeral.gap = [] then numeral.value.toOption else none
  | _ => none

end Numeral

end FiveStage.Text
