import FiveStage.Limit

/-!
# Faults

A fault ends an operation before it has an answer. It is not a diagnostic: malformed
assembly text is reported beside the rest of the listing, while a fault leaves nothing
to report beside. The causes are listed once, here, with the wording of each. A wording
that would have to spell a number with too many digits is replaced by that of this limit.
-/

namespace FiveStage

/-- What can end an operation early. -/
inductive Fault where
  /-- A machine was asked for with fewer than one memory word. -/
  | memorySize (words : Int)
  /-- A register outside `R0` to `R31` was written. -/
  | registerWrite (index : Int)
  /-- A register index counted past either end of the register file was read. -/
  | registerRead (index : Int)
  /-- An address offset holds white space other than plain spaces after its sign. -/
  | numeralSpelling (text : String)
  /-- A decimal numeral has more digits than are read. -/
  | numeralLength (digits : Nat)
  /-- A number has more digits than are written. -/
  | integerLength
  /-- A size is beyond what can be counted. -/
  | indexSize
  /-- A listing without instructions was asked for its first one. -/
  | noInstruction
  /-- A program that has to assemble did not; the message lists the diagnostics. -/
  | rejectedProgram (message : String)
  | unknownSample (name : String)
  | unknownStage (name : String)
  /-- A quotient of counters is beyond the range of binary64. -/
  | quotientRange
  /-- A counter is beyond the range of binary64. -/
  | integerRange
  deriving DecidableEq

namespace Fault

def lengthMessage : String :=
  "Exceeds the limit (4300 digits) for integer string conversion; " ++
    "use sys.set_int_max_str_digits() to increase the limit"

def sizeMessage : String := "cannot fit 'int' into an index-sized integer"

/-- A wording that ends in a number. -/
def spelling (words : String) (n : Int) : String :=
  if Writable n then words ++ toString n else lengthMessage

/-- The wording of a fault. -/
def message : Fault → String
  | .memorySize words => spelling "memory_size must be positive, got " words
  | .registerWrite index => spelling "Register index out of range: " index
  | .registerRead index => if FitsIndex index then "tuple index out of range" else sizeMessage
  | .numeralSpelling text => s!"Invalid numeric literal: {text}"
  | .numeralLength digits =>
    "Exceeds the limit (4300 digits) for integer string conversion: value has " ++
      s!"{digits} digits; use sys.set_int_max_str_digits() to increase the limit"
  | .integerLength => lengthMessage
  | .indexSize => sizeMessage
  | .noInstruction => "list index out of range"
  | .rejectedProgram message => message
  | .unknownSample name => s!"Unknown sample program: {name}"
  | .unknownStage name => name
  | .quotientRange => "integer division result too large for a float"
  | .integerRange => "int too large to convert to float"

end Fault

end FiveStage
