import FiveStage.Entries
import FiveStage.Session

/-!
# The table of sessions

Sessions are kept under identifiers, in the order of their creation, and stepping one
does not move it. Identifiers are issued from a counter and never again, so an
identifier means one session for good, or none any more. A table that is full drops its
oldest session for a new one.
-/

namespace FiveStage.Service

structure Sessions where
  /-- The most sessions to keep. -/
  capacity : Nat
  /-- How many identifiers were issued. -/
  issued : Nat := 0
  /-- The live sessions, the oldest first. -/
  entries : List (String × Session) := []
  deriving DecidableEq

namespace Sessions

/-- The identifier of the session that is created after so many others. -/
def identifier (issued : Nat) : String := s!"s{issued}"

/-- The identifier that the next session gets. -/
def nextIdentifier (sessions : Sessions) : String := identifier sessions.issued

def find? (sessions : Sessions) (id : String) : Option Session :=
  Entries.find? sessions.entries id

/-- Adds a session under the next identifier, and drops the oldest ones beyond the
capacity. -/
def add (sessions : Sessions) (session : Session) : Sessions :=
  let entries := sessions.entries ++ [(sessions.nextIdentifier, session)]
  { sessions with
    issued := sessions.issued + 1
    entries := entries.drop (entries.length - sessions.capacity) }

/-- Replaces a live session in place. -/
def update (sessions : Sessions) (id : String) (session : Session) : Sessions :=
  { sessions with
    entries := sessions.entries.map fun entry => if entry.1 = id then (id, session) else entry }

def erase (sessions : Sessions) (id : String) : Sessions :=
  { sessions with entries := Entries.erase sessions.entries id }

theorem length_entries_add_le (sessions : Sessions) (session : Session) :
    (sessions.add session).entries.length ≤ sessions.capacity := by
  simp only [add, List.length_drop]
  omega

@[simp] theorem keys_update (sessions : Sessions) (id : String) (session : Session) :
    (sessions.update id session).entries.map (·.1) = sessions.entries.map (·.1) := by
  simp only [update, List.map_map]
  apply List.map_congr_left
  intro entry _
  by_cases h : entry.1 = id <;> simp [h]

@[simp] theorem capacity_add (sessions : Sessions) (session : Session) :
    (sessions.add session).capacity = sessions.capacity := rfl

end Sessions

end FiveStage.Service
