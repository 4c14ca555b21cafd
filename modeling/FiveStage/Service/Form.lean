/-!
# Forms

The body of a request is read as a form: the fields that an endpoint knows, with the defaults
of those that were left out. The form declares bounds for its numbers. How a body is read, and
that what is read is within the bounds, is up to the reader of bodies.
-/

namespace FiveStage.Service

/-- Options of a run. -/
structure RunOptions where
  memorySize : Int := 1024
  maxCycles : Int := 10000
  trace : Bool := true
  registers : List (String × Int) := []
  memory : List (String × Int) := []
  deriving DecidableEq

/-- The options of a run are within their bounds. -/
structure RunOptions.InRange (options : RunOptions) : Prop where
  memorySize : 1 ≤ options.memorySize ∧ options.memorySize ≤ 65536
  maxCycles : 1 ≤ options.maxCycles ∧ options.maxCycles ≤ 1000000

/-- What is not given is within its bounds. -/
theorem RunOptions.inRange_default : ({} : RunOptions).InRange := ⟨by decide, by decide⟩

/-- A request to run a program. -/
structure RunForm where
  program : String
  options : RunOptions := {}
  deriving DecidableEq

/-- A request for a session. -/
structure SessionForm where
  program : Option String := none
  sample : Option String := none
  memorySize : Int := 1024
  maxHistory : Int := 1000
  deriving DecidableEq

/-- The limits of a session are within their bounds. -/
structure SessionForm.InRange (form : SessionForm) : Prop where
  memorySize : 1 ≤ form.memorySize ∧ form.memorySize ≤ 65536
  maxHistory : 1 ≤ form.maxHistory ∧ form.maxHistory ≤ 100000

theorem SessionForm.inRange_default : ({} : SessionForm).InRange := ⟨by decide, by decide⟩

end FiveStage.Service
