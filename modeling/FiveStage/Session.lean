import FiveStage.Catalog

/-!
# Sessions

A session clocks a simulator by hand and can take steps back. Before every step it
remembers the state and the snapshot that was shown, and a step back restores both. A
limit on the history drops the oldest entry, and a limit of zero or less keeps none.

The shown snapshot belongs to the session. It is what decides whether a step is taken,
so a session whose simulator was clocked behind its back goes by what it shows.

A load or a reset starts a new history. A rejected text changes nothing. A sample is
loaded in two parts: if a preset is for a register that does not exist, the fault comes
after the program is in place, and the session is left with the program but no presets.
-/

namespace FiveStage

open Asm Pipeline

/-- What was there before a step. -/
structure HistoryEntry where
  snapshot : Snapshot
  state : State
  deriving DecidableEq

structure Session where
  simulator : Simulator
  shown : Snapshot
  /-- Entries to step back to, the newest first. -/
  history : List HistoryEntry := []
  /-- The most entries to keep; without a limit all are kept. -/
  maxHistory : Option Int := none
  deriving DecidableEq

namespace Session

/-- A session that starts where a simulator stands. -/
def ofSimulator (simulator : Simulator) (maxHistory : Option Int) : Session :=
  { simulator, shown := simulator.snapshot, maxHistory }

def historyDepth (session : Session) : Nat := session.history.length

def canStepBack (session : Session) : Bool := !session.history.isEmpty

/-- Whether the cycle shown is the last one. -/
def halted (session : Session) : Bool := session.shown.halted

/-- Shows where a simulator stands, and begins a new history from there. -/
def begin (session : Session) (simulator : Simulator) : Session :=
  { session with simulator, shown := simulator.snapshot, history := [] }

/-- Assembles and loads a text. The session moves on only if nothing was wrong. -/
def loadSource (session : Session) (source : String) : Session × Except Fault Listing :=
  match session.simulator.loadSource source with
  | .error fault => (session, .error fault)
  | .ok (simulator, listing) =>
    (if listing.isClean then session.begin simulator else session, .ok listing)

/-- Loads a sample and then puts its presets in place. -/
def loadSample (session : Session) (sample : Sample) : Session × Except Fault Listing :=
  match session.loadSource sample.source with
  | (session, .error fault) => (session, .error fault)
  | (session, .ok listing) =>
    if listing.isClean then
      match session.simulator.preset sample.registers sample.memory with
      | .ok simulator => (session.begin simulator, .ok listing)
      | .error fault => (session, .error fault)
    else (session, .ok listing)

/-- Loads the sample of the catalog with a name. -/
def loadNamed (session : Session) (name : String) : Session × Except Fault Listing :=
  match Catalog.get name with
  | .ok sample => session.loadSample sample
  | .error fault => (session, .error fault)

/-- The history with one entry more, cut to the limit at its old end. -/
def remember (session : Session) : List HistoryEntry :=
  let history := ⟨session.shown, session.simulator.state⟩ :: session.history
  match session.maxHistory with
  | none => history
  | some limit => if limit < history.length then history.dropLast else history

/-- One clock edge, unless the cycle shown is the last one. After a fault the session
shows what it showed before, with one entry more in its history. -/
def step (session : Session) : Session × Option Fault :=
  if session.halted then (session, none)
  else
    let history := session.remember
    match session.simulator.step with
    | (simulator, none) => ({ session with simulator, shown := simulator.snapshot, history }, none)
    | (simulator, some fault) => ({ session with simulator, history }, some fault)

/-- Takes the last step back, if there is one. -/
def stepBack (session : Session) : Option Session :=
  match session.history with
  | [] => none
  | entry :: history =>
    some { session with
      simulator := session.simulator.restore entry.state
      shown := entry.snapshot
      history }

/-- Steps until the last cycle is shown, at most so many times. -/
def run : Nat → Session → Session × Option Fault
  | 0, session => (session, none)
  | budget + 1, session =>
    if session.halted then (session, none)
    else
      match session.step with
      | (session, none) => run budget session
      | (session, some fault) => (session, some fault)

/-- Starts the program over. -/
def reset (session : Session) : Session := session.begin session.simulator.reset

/-- Clocks the simulator without showing the result. -/
def stepUnseen (session : Session) : Session × Option Fault :=
  let (simulator, fault) := session.simulator.step
  ({ session with simulator }, fault)

@[simp] theorem maxHistory_begin (session : Session) (simulator : Simulator) :
    (session.begin simulator).maxHistory = session.maxHistory := rfl

@[simp] theorem history_begin (session : Session) (simulator : Simulator) :
    (session.begin simulator).history = [] := rfl

theorem step_of_halted {session : Session} (h : session.halted = true) :
    session.step = (session, none) := by
  simp [step, h]

theorem stepBack_eq_none_iff {session : Session} :
    session.stepBack = none ↔ session.history = [] := by
  unfold stepBack
  cases session.history <;> simp

/-- A history within its limit stays within it. -/
theorem length_remember_le {session : Session} {limit : Int} (h : session.maxHistory = some limit)
    (hlimit : 0 ≤ limit) (hlength : session.historyDepth ≤ limit) :
    (session.remember.length : Int) ≤ limit := by
  unfold historyDepth at hlength
  simp only [remember, h, List.length_cons]
  split
  · simp only [List.length_dropLast, List.length_cons]
    omega
  · simp only [List.length_cons]
    omega

end Session

end FiveStage
