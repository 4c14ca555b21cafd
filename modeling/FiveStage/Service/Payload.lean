import FiveStage.Binary64
import FiveStage.Text.Blank
import FiveStage.Text.Digit
import FiveStage.Text.Numeral

/-!
# Payloads

The body of a request is a tree of values. Numbers that were written with a point or an
exponent are kept as decimals, and an object keeps the order of its fields, each of which
it has once.

Simple values are read generously where nothing is lost: a whole decimal, a truth value
and the text of a numeral are integers; zero, one and a few words are truth values. Text
is never made out of anything else.

Plain integers have no bounds. A decimal stands for the nearest binary64 number, and that
is taken for an integer only where it is whole and fits a signed word of 64 bits.
-/

namespace FiveStage.Service

open Text

inductive Payload where
  | null
  | bool (value : Bool)
  | integer (value : Int)
  /-- The number `mantissa / 10 ^ places`, written with a point or an exponent. -/
  | decimal (mantissa : Int) (places : Nat)
  | text (value : String)
  | list (items : List Payload)
  | object (fields : List (String × Payload))
  deriving Inhabited

namespace Payload

/-- Takes a fraction off the end of a text. It has to have zeros, and only zeros. -/
def dropZeroFraction? (s : List Char) : Option (List Char) :=
  match s.dropWhile (· != '.') with
  | [] => some s
  | _ :: fraction =>
    if !fraction.isEmpty && fraction.all (· == '0') then some (s.takeWhile (· != '.')) else none

/-- Drops a row of zeros and underscores. In front of a point or the end its last character
is kept; `last` is the one before the row. -/
def dropZeros (last : Char) : List Char → List Char
  | [] => [last]
  | c :: rest =>
    if c = '0' ∨ c = '_' then dropZeros c rest
    else if c = '.' then last :: c :: rest
    else c :: rest

/-- Drops the zeros in front of a numeral. A minus sign may stand behind them instead of in
front, and an underscore behind that. -/
def dropLeadingZeros (sign : Sign) : List Char → Sign × List Char
  | '0' :: rest =>
    match sign, dropZeros '0' rest with
    | .minus, numeral => (.minus, numeral)
    | _, '-' :: '_' :: numeral => (.minus, numeral)
    | _, '-' :: numeral => (.minus, numeral)
    | _, numeral => (sign, numeral)
  | numeral => (sign, numeral)

/-- A text that spells an integer, in ASCII digits and with no fraction but zeros. Only
the digits that are left when leading zeros are dropped count for the limit; behind a late
minus sign there are no more zeros to drop. -/
def integerOfText? (s : String) : Option Int :=
  let (first, unsigned) := Sign.read (dropEnds isPadding s.toList)
  let (sign, numeral) := dropLeadingZeros first unsigned
  match (dropZeroFraction? numeral).bind (groupedDigits? Char.isDigit) with
  | none => none
  | some digits =>
    let padded := digits.head? = some '0' ∧ 1 < digits.length
    if digits.length ≤ digitLimit ∧ ¬padded then some (sign.apply (decimalValue digits)) else none

/-- The integer that a decimal is. The bounds themselves are left out, because decimals
that are too large are rounded to them. -/
def integerOfDecimal? (mantissa : Int) (places : Nat) : Option Int :=
  match Binary64.nearestNat? mantissa.natAbs (Nat.pow 10 places) with
  | some n => if n < Nat.pow 2 63 then some (if mantissa < 0 then -(n : Int) else n) else none
  | none => none

def integer? : Payload → Option Int
  | .integer value => some value
  | .decimal mantissa places => integerOfDecimal? mantissa places
  | .bool value => some (if value then 1 else 0)
  | .text value => integerOfText? value
  | _ => none

/-- Texts for true and false, in small letters. -/
def truths : List String := ["1", "on", "t", "true", "y", "yes"]

def falsehoods : List String := ["0", "off", "f", "false", "n", "no"]

/-- The truth value of zero or one. -/
def bit? (value : Int) : Option Bool :=
  if value = 0 then some false else if value = 1 then some true else none

def bool? : Payload → Option Bool
  | .bool value => some value
  | .text value =>
    let folded := String.ofList (value.toList.map Char.toLower)
    if truths.contains folded then some true
    else if falsehoods.contains folded then some false
    else none
  | .integer value => bit? value
  | .decimal mantissa places => (integerOfDecimal? mantissa places).bind bit?
  | _ => none

def text? : Payload → Option String
  | .text value => some value
  | _ => none

end Payload

end FiveStage.Service
