import FiveStage.Proofs.Service.Table
import FiveStage.Service.Endpoint

/-!
# Requests by what they concern

A request concerns no session, makes one, or is addressed to one. Of the last kind there are five,
the actions, and what an action does and answers is a matter of the session that stands under
the identifier (`Action.attend`). The table only hands the session over and takes back what is
left of it (`handle_on`).

What a session answers does not depend on the identifier that it goes by, and a response is such
an answer with the identifier filled in (`Answer.response`).

Bodies are left to their reader, and little is asked of it: that the numbers in a form are within
their bounds, and that the response to a body that it refuses is no success (`Reader.Reliable`).
-/

namespace FiveStage.Service

open Asm Pipeline

/-- The status code of a response. -/
def Response.status : Response → Nat
  | .reply status _ => status
  | .failed _ => 500

namespace Response

@[simp] theorem status_reply (status : Nat) (content : Content) :
    (reply status content).status = status := rfl

@[simp] theorem status_failed (fault : Fault) : (failed fault).status = 500 := rfl

@[simp] theorem status_unprocessable (locations : List Location) :
    (unprocessable locations).status = 422 := rfl

@[simp] theorem status_refuse (status : Nat) (message : String) :
    (refuse status message).status = status := rfl

@[simp] theorem status_oversized : oversized.status = 400 := rfl

@[simp] theorem status_unknownSession (id : String) : (unknownSession id).status = 404 := rfl

@[simp] theorem status_ofSession (id : String) (session : Session) :
    (ofSession id session).status = 200 := rfl

end Response

variable {Body : Type} {reader : Reader Body}

/-- What is relied on when a reader is asked for a form. -/
structure Reader.Reliable (reader : Reader Body) : Prop where
  run : ∀ body form, reader.run body = .ok form → form.options.InRange
  session : ∀ body form, reader.session body = .ok form → form.InRange
  refused : ∀ body response, reader.session body = .error response → response.status ≠ 200

/-! ## Actions -/

/-- What can be asked of a session. -/
inductive Action where
  | view
  | delete
  | step
  | stepBack
  | reset
  deriving DecidableEq

/-- What a session answers, before it is said which session it is. -/
inductive Answer where
  | shown (historyDepth : Nat) (snapshot : Snapshot)
  | deleted
  | noHistory
  | unknown
  | failed (fault : Fault)
  deriving DecidableEq

/-- The answer of the session with an identifier. -/
def Answer.response (id : String) : Answer → Response
  | .shown historyDepth snapshot => .reply 200 (.session id historyDepth snapshot)
  | .deleted => .reply 200 (.deleted id)
  | .noHistory => .refuse 409 "No history to step back to"
  | .unknown => .unknownSession id
  | .failed fault => .failed fault

def Answer.ofSession (session : Session) : Answer := .shown session.historyDepth session.shown

theorem Answer.response_ofSession (id : String) (session : Session) :
    (Answer.ofSession session).response id = .ofSession id session := rfl

namespace Action

/-- The request that asks this of the session with an identifier. -/
def on (id : String) : Action → Request Body
  | .view => .view id
  | .delete => .delete id
  | .step => .step id
  | .stepBack => .stepBack id
  | .reset => .reset id

/-- What becomes of a session, and what it answers. Where there is none there is none after. -/
def attend : Action → Option Session → Option Session × Answer
  | _, none => (none, .unknown)
  | .view, some session => (some session, .ofSession session)
  | .delete, some _ => (none, .deleted)
  | .step, some session =>
    match session.step with
    | (next, none) => (some next, .ofSession next)
    | (next, some fault) => (some next, .failed fault)
  | .stepBack, some session =>
    match session.stepBack with
    | some previous => (some previous, .ofSession previous)
    | none => (some session, .noHistory)
  | .reset, some session => (some session.reset, .ofSession session.reset)

/-- What a session answers to actions in order. -/
def attendAll : List Action → Option Session → List Answer
  | [], _ => []
  | action :: rest, slot => (action.attend slot).2 :: attendAll rest (action.attend slot).1

theorem attend_none (action : Action) : action.attend none = (none, .unknown) := by
  cases action <;> rfl

/-- Only a deletion ends a session. -/
theorem attend_some_eq_none_iff {action : Action} {session : Session} :
    (action.attend (some session)).1 = none ↔ action = .delete := by
  cases action with
  | step => rcases hstep : session.step with ⟨next, _ | fault⟩ <;> simp [attend, hstep]
  | stepBack => cases hback : session.stepBack <;> simp [attend, hback]
  | view | delete | reset => simp [attend]

end Action

namespace Request

/-- What a request asks of the session with an identifier, if it is addressed to it. -/
def action? (id : String) : Request Body → Option Action
  | .view target => if target = id then some .view else none
  | .delete target => if target = id then some .delete else none
  | .step target => if target = id then some .step else none
  | .stepBack target => if target = id then some .stepBack else none
  | .reset target => if target = id then some .reset else none
  | _ => none

@[simp] theorem action?_on (id other : String) (action : Action) :
    (action.on other : Request Body).action? id = if other = id then some action else none := by
  cases action <;> rfl

/-- Requests by what they concern. -/
inductive Kind : Request Body → Prop
  | run (body : Body) : Kind (.run body)
  | samples : Kind .samples
  | create (body : Body) : Kind (.create body)
  | on (id : String) (action : Action) : Kind (action.on id)

theorem kind (request : Request Body) : request.Kind := by
  cases request with
  | run body => exact .run body
  | samples => exact .samples
  | create body => exact .create body
  | view id => exact .on id .view
  | delete id => exact .on id .delete
  | step id => exact .on id .step
  | stepBack id => exact .on id .stepBack
  | reset id => exact .on id .reset

/-- The response that refuses a request because of its body, if it is refused for that. -/
def refusal? (reader : Reader Body) : Request Body → Option Response
  | .run body =>
    match reader.run body with
    | .error response => some response
    | .ok _ => none
  | .create body =>
    match reader.session body with
    | .error response => some response
    | .ok _ => none
  | _ => none

/-- Where the body is refused, the response says in which places it breaks its form. -/
def Explained (reader : Reader Body) (request : Request Body) : Prop :=
  ∀ response ∈ request.refusal? reader, ∃ locations, response = .unprocessable locations

/-- The program text that a request comes with, if its body can be read. -/
def text? (reader : Reader Body) : Request Body → Option String
  | .run body =>
    match reader.run body with
    | .error _ => none
    | .ok form => some form.program
  | .create body =>
    match reader.session body with
    | .error _ => none
    | .ok form => form.program
  | _ => none

end Request

/-- The session that a body asks for, or the response that refuses it. -/
def opening (reader : Reader Body) (body : Body) : Except Response Session :=
  match reader.session body with
  | .error response => .error response
  | .ok form => openSession form

namespace Sessions

variable {table : Sessions} {id : String} {action : Action}

theorem handle_run (table : Sessions) (body : Body) :
    (table.handle reader (.run body)).1 = table := by
  simp only [handle]
  cases reader.run body <;> rfl

theorem handle_create (table : Sessions) (body : Body) :
    table.handle reader (.create body) =
      match opening reader body with
      | .error response => (table, response)
      | .ok session => (table.add session, .ofSession table.nextIdentifier session) := by
  rw [handle, opening]
  cases reader.session body <;> rfl

theorem handle_on_of_none (hnone : table.find? id = none) (action : Action) :
    table.handle reader (action.on id) = (table, .unknownSession id) := by
  cases action <;> simp only [Action.on, handle, onSession, hnone]

theorem handle_on (hnodup : table.ids.Nodup) (id : String) (action : Action) :
    table.handle reader (action.on id) =
      (table.put id (action.attend (table.find? id)).1,
        (action.attend (table.find? id)).2.response id) := by
  -- Some actions leave the session alone, and the table with it.
  have hput := put_find? hnodup id
  cases hfind : table.find? id with
  | none =>
      rw [hfind] at hput
      rw [handle_on_of_none hfind, Action.attend_none, hput, Answer.response]
  | some session =>
      rw [hfind] at hput
      cases action with
      | view => simp only [Action.on, handle, onSession, hfind, Action.attend, hput]; rfl
      | delete | reset => simp only [Action.on, handle, onSession, hfind, Action.attend]; rfl
      | step =>
          simp only [Action.on, handle, onSession, hfind, Action.attend]
          rcases session.step with ⟨next, _ | fault⟩ <;> rfl
      | stepBack =>
          simp only [Action.on, handle, onSession, hfind, Action.attend]
          cases session.stepBack with
          | none => simp only [hput]; rfl
          | some previous => rfl

theorem handleAll_cons (table : Sessions) (request : Request Body) (rest : List (Request Body)) :
    table.handleAll reader (request :: rest) =
      (((table.handle reader request).1.handleAll reader rest).1,
        (table.handle reader request).2 ::
          ((table.handle reader request).1.handleAll reader rest).2) := rfl

end Sessions

end FiveStage.Service
