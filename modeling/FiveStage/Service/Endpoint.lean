import FiveStage.Batch
import FiveStage.Service.Form
import FiveStage.Service.Key
import FiveStage.Service.Sessions

/-!
# Endpoints

The service runs programs and keeps sessions for its clients. `handle` answers one
request and gives the table it leaves. Running a program, listing the samples and viewing
a session leave the table alone, and so does every request that is refused. The others
concern the one session that they create or name.

The body of a request is read before anything else, by a reader that either gives a form or
refuses the body with a response of its own. What bodies are does not matter here. A creation
that fails, for whatever reason, leaves no session behind.
-/

namespace FiveStage.Service

open Asm Pipeline

/-- The most characters that a program text may have. -/
def programLimit : Nat := 51200

/-- A request, with a body if it is to run a program or to create a session. -/
inductive Request (Body : Type) where
  | run (body : Body)
  | samples
  | create (body : Body)
  | view (id : String)
  | delete (id : String)
  | step (id : String)
  | stepBack (id : String)
  | reset (id : String)

/-- The request that a method and a path mean. -/
def Request.route? {Body : Type} (method path : String) (body : Body) : Option (Request Body) :=
  match method, (path.toList.splitOn '/').map String.ofList with
  | "POST", ["", "api", "run"] => some (.run body)
  | "GET", ["", "api", "samples"] => some .samples
  | "POST", ["", "api", "sessions"] => some (.create body)
  | "GET", ["", "api", "sessions", id] => some (.view id)
  | "DELETE", ["", "api", "sessions", id] => some (.delete id)
  | "POST", ["", "api", "sessions", id, "step"] => some (.step id)
  | "POST", ["", "api", "sessions", id, "step-back"] => some (.stepBack id)
  | "POST", ["", "api", "sessions", id, "reset"] => some (.reset id)
  | _, _ => none

/-- The path to a place in a body, from the outside in. -/
abbrev Location := List String

/-- What a response holds. -/
inductive Content where
  | result (result : Batch.Result)
  | samples (samples : List Sample)
  | session (id : String) (historyDepth : Nat) (shown : Snapshot)
  | deleted (id : String)
  /-- A refusal in words. -/
  | detail (message : String)
  /-- A refusal because of the program text. -/
  | diagnostics (diagnostics : List Diagnostic)
  /-- A refusal because the body breaks its form at these places. -/
  | violations (locations : List Location)
  deriving DecidableEq

inductive Response where
  | reply (status : Nat) (content : Content)
  /-- The request could not be answered. -/
  | failed (fault : Fault)
  deriving DecidableEq

namespace Response

def refuse (status : Nat) (message : String) : Response := .reply status (.detail message)

def ofSession (id : String) (session : Session) : Response :=
  .reply 200 (.session id session.historyDepth session.shown)

/-- The response to a body that does not have its form. -/
def unprocessable (locations : List Location) : Response := .reply 422 (.violations locations)

def unknownSession (id : String) : Response := refuse 404 ("Unknown session: " ++ id)

def oversized : Response :=
  refuse 400 ("Program size exceeds limit of " ++ toString programLimit ++ " bytes")

end Response

/-- How bodies are read: as a form, or with the response that refuses them. -/
structure Reader (Body : Type) where
  run : Body → Except Response RunForm
  session : Body → Except Response SessionForm

/-- Runs a program as a form asks. -/
def runForm (form : RunForm) : Response :=
  if programLimit < form.program.length then .oversized
  else
    match Key.registers form.options.registers with
    | .error problem => .refuse 400 problem.message
    | .ok registers =>
      match Key.addresses form.options.memory with
      | .error problem => .refuse 400 problem.message
      | .ok memory =>
        let options : Batch.Options :=
          { memorySize := form.options.memorySize
            maxCycles := form.options.maxCycles
            trace := form.options.trace
            registers, memory }
        match Batch.run form.program options with
        | .error fault => .failed fault
        | .ok result => .reply 200 (.result result)

/-- The session that a load leaves, unless it was refused. -/
def settle (loaded : Session × Except Fault Listing) : Except Response Session :=
  match loaded with
  | (_, .error fault) => .error (.failed fault)
  | (session, .ok listing) =>
    if listing.isClean then .ok session
    else .error (.reply 400 (.diagnostics listing.diagnostics))

/-- Makes the session that a form asks for, or the response that refuses it. A sample
wins over a program. -/
def openSession (form : SessionForm) : Except Response Session :=
  match Simulator.ofMemorySize form.memorySize with
  | .error fault => .error (.failed fault)
  | .ok simulator =>
    let empty := Session.ofSimulator simulator (some form.maxHistory)
    match form.sample, form.program with
    | some name, _ =>
      match Catalog.find? name with
      | some sample => settle (empty.loadSample sample)
      | none => .error (.refuse 404 ("Unknown sample: " ++ name))
    | none, some program =>
      if programLimit < program.length then .error .oversized
      else settle (empty.loadSource program)
    | none, none => .error (.refuse 400 "Either program or sample is required")

namespace Sessions

/-- Answers for a live session, or says that there is none. -/
def onSession (sessions : Sessions) (id : String)
    (answer : Session → Sessions × Response) : Sessions × Response :=
  match sessions.find? id with
  | some session => answer session
  | none => (sessions, .unknownSession id)

/-- Answers one request. -/
def handle {Body : Type} (sessions : Sessions) (reader : Reader Body) :
    Request Body → Sessions × Response
  | .run body =>
    match reader.run body with
    | .error response => (sessions, response)
    | .ok form => (sessions, runForm form)
  | .samples => (sessions, .reply 200 (.samples Catalog.samples))
  | .create body =>
    match reader.session body with
    | .error response => (sessions, response)
    | .ok form =>
      match openSession form with
      | .error response => (sessions, response)
      | .ok session => (sessions.add session, .ofSession sessions.nextIdentifier session)
  | .view id => sessions.onSession id fun session => (sessions, .ofSession id session)
  | .delete id =>
    sessions.onSession id fun _ => (sessions.erase id, .reply 200 (.deleted id))
  | .step id =>
    sessions.onSession id fun session =>
      match session.step with
      | (next, none) => (sessions.update id next, .ofSession id next)
      | (next, some fault) => (sessions.update id next, .failed fault)
  | .stepBack id =>
    sessions.onSession id fun session =>
      match session.stepBack with
      | some previous => (sessions.update id previous, .ofSession id previous)
      | none => (sessions, .refuse 409 "No history to step back to")
  | .reset id =>
    sessions.onSession id fun session =>
      (sessions.update id session.reset, .ofSession id session.reset)

/-- Answers requests in order. -/
def handleAll {Body : Type} (sessions : Sessions) (reader : Reader Body) :
    List (Request Body) → Sessions × List Response
  | [] => (sessions, [])
  | request :: rest =>
    let (next, response) := sessions.handle reader request
    let (last, responses) := next.handleAll reader rest
    (last, response :: responses)

end Sessions

end FiveStage.Service
