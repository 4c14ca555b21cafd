import FiveStage.Entries
import FiveStage.Service.Endpoint
import FiveStage.Service.Payload

/-!
# Reading payloads

A reader of bodies that come as payloads. Reading a body against its form either gives all
values or the places of all violations, not only the first. Fields that the form does not know
are ignored, and one that is left out has the default of the form.
-/

namespace FiveStage.Service

/-- The order of places: field by field, and a place before those inside it. -/
def Location.le : Location → Location → Bool
  | [], _ => true
  | _ :: _, [] => false
  | a :: as, b :: bs => decide (a < b) || (a == b && Location.le as bs)

/-- A value that was read, or the places where it breaks its form. -/
inductive Checked (α : Type) where
  | valid (value : α)
  | invalid (locations : List Location)

namespace Checked

variable {α β : Type}

def map (f : α → β) : Checked α → Checked β
  | .valid value => .valid (f value)
  | .invalid locations => .invalid locations

/-- Both values, or the violations of both. -/
def both : Checked α → Checked β → Checked (α × β)
  | .valid a, .valid b => .valid (a, b)
  | .valid _, .invalid locations => .invalid locations
  | .invalid locations, .valid _ => .invalid locations
  | .invalid first, .invalid second => .invalid (first ++ second)

/-- The same inside the field with a name. -/
def under (name : String) : Checked α → Checked α
  | .valid value => .valid value
  | .invalid locations => .invalid (locations.map (name :: ·))

/-- A value that is there, or a violation here. -/
def ofOption : Option α → Checked α
  | some value => .valid value
  | none => .invalid [[]]

/-- All values in order, or the violations of all. -/
def all : List (Checked α) → Checked (List α)
  | [] => .valid []
  | first :: rest => (first.both (all rest)).map fun (value, values) => value :: values

/-- A value, or the response that tells the places in order. -/
def response : Checked α → Except Response α
  | .valid value => .ok value
  | .invalid locations => .error (.unprocessable (locations.mergeSort Location.le))

end Checked

/-! ## Fields -/

/-- A field with a default. -/
def fieldD {α : Type} (fields : List (String × Payload)) (name : String) (default : α)
    (read : Payload → Checked α) : Checked α :=
  match Entries.find? fields name with
  | none => .valid default
  | some value => (read value).under name

/-- A field that has to be there. -/
def field {α : Type} (fields : List (String × Payload)) (name : String)
    (read : Payload → Checked α) : Checked α :=
  match Entries.find? fields name with
  | none => .invalid [[name]]
  | some value => (read value).under name

/-- Lets a value be null. -/
def nullable {α : Type} (read : Payload → Checked α) : Payload → Checked (Option α)
  | .null => .valid none
  | value => (read value).map some

def readText (value : Payload) : Checked String := .ofOption value.text?

def readBool (value : Payload) : Checked Bool := .ofOption value.bool?

def readInteger (value : Payload) : Checked Int := .ofOption value.integer?

/-- An integer between bounds, both included. -/
def readBounded (low high : Int) (value : Payload) : Checked Int :=
  .ofOption (value.integer?.filter fun n => decide (low ≤ n ∧ n ≤ high))

/-- An object of integers, in the order of its fields. -/
def readPresets : Payload → Checked (List (String × Int))
  | .object fields =>
    .all (fields.map fun (key, value) =>
      ((readInteger value).under key).map fun number => (key, number))
  | _ => .invalid [[]]

/-! ## The forms -/

/-- Options of a run. -/
def RunOptions.read : Payload → Checked RunOptions
  | .object fields =>
    let default : RunOptions := {}
    let sizes := (fieldD fields "memory_size" default.memorySize (readBounded 1 65536)).both
      (fieldD fields "max_cycles" default.maxCycles (readBounded 1 1000000))
    let presets := (fieldD fields "initial_registers" default.registers readPresets).both
      (fieldD fields "initial_memory" default.memory readPresets)
    ((sizes.both (fieldD fields "trace" default.trace readBool)).both presets).map
      fun (((memorySize, maxCycles), trace), (registers, memory)) =>
        { memorySize, maxCycles, trace, registers, memory }
  | _ => .invalid [[]]

/-- A run: a program, and options unless they are left out or null. -/
def RunForm.read (body : Option Payload) : Checked RunForm :=
  match body with
  | some (.object fields) =>
    (((field fields "program" readText).both
      (fieldD fields "options" none (nullable RunOptions.read))).map
        fun (program, options) => { program, options := options.getD {} }).under "body"
  | _ => .invalid [["body"]]

/-- A session: a program or the name of a sample, and limits. -/
def SessionForm.read (body : Option Payload) : Checked SessionForm :=
  match body with
  | some (.object fields) =>
    let default : SessionForm := {}
    let source := (fieldD fields "program" default.program (nullable readText)).both
      (fieldD fields "sample" default.sample (nullable readText))
    let limits := (fieldD fields "memory_size" default.memorySize (readBounded 1 65536)).both
      (fieldD fields "max_history" default.maxHistory (readBounded 1 100000))
    ((source.both limits).map fun ((program, sample), (memorySize, maxHistory)) =>
      ({ program, sample, memorySize, maxHistory } : SessionForm)).under "body"
  | _ => .invalid [["body"]]

/-- Reads bodies that are payloads, or missing. -/
def Reader.ofPayloads : Reader (Option Payload) where
  run body := (RunForm.read body).response
  session body := (SessionForm.read body).response

end FiveStage.Service
