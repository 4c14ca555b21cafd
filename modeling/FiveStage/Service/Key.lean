import FiveStage.Entries
import FiveStage.Text.Blank
import FiveStage.Text.Numeral

/-!
# Keys of presets

Presets come as objects, whose keys are texts, and are used by number. A key is a
decimal numeral of any script, with white space around it, a sign and single underscores
between digits. Different texts can be the same number: the later one then gives the
value and the earlier one the place.

The first key that is not a number, or not in range, is the one reported.
-/

namespace FiveStage.Service

open Text

/-- What is wrong with the key of a preset. The text is given as it came. -/
inductive KeyProblem where
  | registerNumeral (key : String)
  | registerRange (key : String)
  | addressNumeral (key : String)
  deriving DecidableEq

def KeyProblem.message : KeyProblem → String
  | .registerNumeral key => s!"Invalid register key: {key}"
  | .registerRange key => s!"Register key out of range 0..31: {key}"
  | .addressNumeral key => s!"Invalid memory address key: {key}"

namespace Key

/-- The number of a key. -/
def integer? (key : String) : Option Int :=
  let (sign, rest) := Sign.read (dropEnds isPadding key.toList)
  match groupedDigits? isDigit rest with
  | none => none
  | some digits =>
    if digits.length ≤ digitLimit then some (sign.apply (decimalValue digits)) else none

/-- A register key has to name a register. -/
def register (key : String) : Except KeyProblem Int :=
  match integer? key with
  | none => .error (.registerNumeral key)
  | some index =>
    if 0 ≤ index ∧ index < 32 then .ok index else .error (.registerRange key)

/-- An address key may be any number; addresses outside the memory do nothing. -/
def address (key : String) : Except KeyProblem Int :=
  match integer? key with
  | none => .error (.addressNumeral key)
  | some address => .ok address

/-- Reads the keys of a preset in order. -/
def readAll (read : String → Except KeyProblem Int) :
    List (String × Int) → List (Int × Int) → Except KeyProblem (List (Int × Int))
  | [], entries => .ok entries
  | (key, value) :: rest, entries =>
    match read key with
    | .ok number => readAll read rest (Entries.insert number value entries)
    | .error problem => .error problem

/-- Register presets by index. -/
def registers (fields : List (String × Int)) : Except KeyProblem (List (Int × Int)) :=
  readAll register fields []

/-- Memory presets by byte address. -/
def addresses (fields : List (String × Int)) : Except KeyProblem (List (Int × Int)) :=
  readAll address fields []

theorem register_inRange {key : String} {index : Int} (h : register key = .ok index) :
    0 ≤ index ∧ index < 32 := by
  unfold register at h
  split at h
  · contradiction
  · split at h
    · injection h with h
      subst h
      assumption
    · contradiction

end Key

end FiveStage.Service
