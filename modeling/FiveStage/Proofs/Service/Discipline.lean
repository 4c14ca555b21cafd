import FiveStage.Proofs.Service.Forms
import FiveStage.Proofs.Service.Opening

/-!
# The discipline of the table

The table never holds more sessions than its capacity, and it holds them in the order of their
creation. Which ones are there after a request follows from the request and the status of its
response alone (`Sessions.idsAfter`): a creation that succeeds adds one at the end, for which the
oldest has to go if the table was full, a deletion that succeeds takes out the one that it names,
and nothing else moves anything.

The invariant is `Sessions.Orderly`. In a table that has it a request has one of the effects
`Sessions.Effect` and no other, and everything else is a matter of these effects: they keep the
invariant, and they change the membership as told.
-/

namespace FiveStage.Service

variable {Body : Type} {reader : Reader Body}

/-! ## The invariant -/

namespace Sessions

variable {table : Sessions} {request : Request Body} {outcome : Sessions × Response}
  {session : Session}

/-- The live sessions are among those that were created, in that order, not too many, and each
with a history within its limit. -/
structure Orderly (table : Sessions) : Prop where
  capacity_pos : 0 < table.capacity
  length_le : table.ids.length ≤ table.capacity
  ids : table.ids.Sublist table.issuedIds
  bounded : ∀ entry ∈ table.entries, entry.2.Bounded

theorem Orderly.nodup (h : table.Orderly) : table.ids.Nodup :=
  h.ids.nodup table.nodup_issuedIds

theorem Orderly.fresh (h : table.Orderly) : table.nextIdentifier ∉ table.ids :=
  fun hmem => table.nextIdentifier_notMem_issuedIds (h.ids.subset hmem)

theorem orderly_empty {capacity : Nat} (h : 0 < capacity) : Orderly { capacity } where
  capacity_pos := h
  length_le := Nat.zero_le capacity
  ids := List.Sublist.refl []
  bounded := by simp

theorem Orderly.put (h : table.Orderly) (id : String) {slot : Option Session}
    (hslot : ∀ session ∈ slot, session.Bounded) : (table.put id slot).Orderly := by
  have hsublist : (table.put id slot).ids.Sublist table.ids := by
    rw [ids_put]
    split
    · exact List.filter_sublist
    · exact List.Sublist.refl _
  exact
    { capacity_pos := by simpa using h.capacity_pos
      length_le := by simpa using hsublist.length_le.trans h.length_le
      ids := by simpa using hsublist.trans h.ids
      bounded := forall_mem_put h.bounded hslot }

theorem issuedIds_add (table : Sessions) (session : Session) :
    (table.add session).issuedIds = table.issuedIds ++ [table.nextIdentifier] := by
  simp [issuedIds, add, List.range_succ, nextIdentifier]

theorem Orderly.add (h : table.Orderly) (hsession : session.Bounded) :
    (table.add session).Orderly where
  capacity_pos := h.capacity_pos
  length_le := by simpa [Sessions.ids] using length_entries_add_le table session
  ids := by
    rw [ids_add h.length_le h.capacity_pos, issuedIds_add]
    refine List.Sublist.append_right ?_ _
    split
    · exact (List.tail_sublist _).trans h.ids
    · exact h.ids
  bounded := by
    rw [entries_add h.length_le h.capacity_pos]
    intro entry hentry
    rcases List.mem_append.1 hentry with hold | hnew
    · split at hold
      · exact h.bounded entry (List.mem_of_mem_tail hold)
      · exact h.bounded entry hold
    · rw [List.mem_singleton.1 hnew]
      exact hsession

/-! ## Effects of requests -/

/-- What a request can do to the table, and what it is answered. -/
inductive Effect (table : Sessions) : Request Body → Sessions × Response → Prop
  | run (body : Body) (response : Response) : Effect table (.run body) (table, response)
  | samples (response : Response) : Effect table .samples (table, response)
  | refused (body : Body) {response : Response} (status : response.status ≠ 200) :
    Effect table (.create body) (table, response)
  | opened (body : Body) {session : Session} (bounded : session.Bounded) :
    Effect table (.create body)
      (table.add session, .ofSession table.nextIdentifier session)
  | unknown {id : String} (action : Action) (absent : table.find? id = none) :
    Effect table (action.on id) (table, .unknownSession id)
  | attended {id : String} {session : Session} (action : Action)
    (found : table.find? id = some session) :
    Effect table (action.on id)
      (table.put id (action.attend (some session)).1,
        (action.attend (some session)).2.response id)

theorem Orderly.effect (h : table.Orderly) (hreader : reader.Reliable) (request : Request Body) :
    table.Effect request (table.handle reader request) := by
  cases request.kind with
  | run body =>
      rw [← Prod.mk.eta (p := table.handle reader (.run body)), handle_run]
      exact .run body _
  | samples => exact .samples _
  | create body =>
      have hopens := hreader.opens_opening body
      rw [handle_create]
      cases hopening : opening reader body with
      | error response =>
          rw [hopening] at hopens
          exact .refused body hopens
      | ok session =>
          rw [hopening] at hopens
          exact .opened body hopens
  | on id action =>
      cases hfind : table.find? id with
      | none =>
          rw [handle_on_of_none hfind]
          exact .unknown action hfind
      | some session =>
          rw [handle_on h.nodup, hfind]
          exact .attended action hfind

theorem Effect.orderly (he : table.Effect request outcome) (h : table.Orderly) :
    outcome.1.Orderly := by
  cases he with
  | run | samples | refused | unknown => exact h
  | opened _ hbounded => exact h.add hbounded
  | @attended id session action hfind =>
      have hsession : session.Bounded := h.bounded (id, session) (Entries.mem_of_find? hfind)
      refine h.put id (action.attend_bounded ?_)
      rintro _ ⟨⟩
      exact hsession

theorem Effect.capacity_eq (he : table.Effect request outcome) :
    outcome.1.capacity = table.capacity := by
  cases he with
  | run | samples | refused | unknown => rfl
  | opened => exact capacity_add table _
  | attended => exact capacity_put table _ _

end Sessions

/-! ## Membership -/

/-- The session that a response reports as created. -/
def Request.created? : Request Body → Response → Option String
  | .create _, .reply 200 (.session id _ _) => some id
  | _, _ => none

theorem Request.created?_of_status {response : Response} (h : response.status ≠ 200)
    (request : Request Body) : request.created? response = none := by
  unfold created?
  split
  · exact absurd rfl h
  · rfl

@[simp] theorem Request.created?_on (id : String) (action : Action) (response : Response) :
    (action.on id : Request Body).created? response = none := by
  cases action <;> rfl

namespace Sessions

variable {table : Sessions} {request : Request Body} {outcome : Sessions × Response}

/-- The sessions that responses report as created, in order. -/
def created (requests : List (Request Body)) (responses : List Response) : List String :=
  (requests.zip responses).filterMap fun (request, response) => request.created? response

theorem created_cons (request : Request Body) (requests : List (Request Body))
    (response : Response) (responses : List Response) :
    created (request :: requests) (response :: responses) =
      (request.created? response).toList ++ created requests responses := by
  cases h : request.created? response <;> simp [created, h]

/-- The live sessions after a request was answered. -/
def idsAfter (table : Sessions) (request : Request Body) (response : Response) : List String :=
  match request, response.status with
  | .create _, 200 =>
    (if table.Full then table.ids.tail else table.ids) ++ [table.nextIdentifier]
  | .delete id, 200 => table.ids.filter (· ≠ id)
  | _, _ => table.ids

theorem idsAfter_of_status {response : Response} (h : response.status ≠ 200) (table : Sessions)
    (request : Request Body) : table.idsAfter request response = table.ids := by
  unfold idsAfter
  split
  · contradiction
  · contradiction
  · rfl

theorem idsAfter_of_created {request : Request Body} {response : Response}
    (h : request.created? response ≠ none) (table : Sessions) :
    table.idsAfter request response =
      (if table.Full then table.ids.tail else table.ids) ++ [table.nextIdentifier] := by
  unfold Request.created? at h
  split at h
  · rfl
  · contradiction

theorem idsAfter_on_of_ne {action : Action} (h : action ≠ .delete) (table : Sessions) (id : String)
    (response : Response) : table.idsAfter (action.on id : Request Body) response = table.ids := by
  cases action with
  | delete => contradiction
  | view | step | stepBack | reset => rfl

theorem Effect.issuedIds_eq (he : table.Effect request outcome) :
    outcome.1.issuedIds = table.issuedIds ++ (request.created? outcome.2).toList := by
  cases he with
  | run | samples => exact (List.append_nil _).symm
  | refused body hstatus =>
      rw [Request.created?_of_status hstatus, Option.toList_none, List.append_nil]
  | opened => exact issuedIds_add table _
  | unknown => rw [Request.created?_on, Option.toList_none, List.append_nil]
  | attended =>
      rw [Request.created?_on, Option.toList_none, List.append_nil, issuedIds_put]

theorem Effect.ids_eq (he : table.Effect request outcome) (h : table.Orderly) :
    outcome.1.ids = table.idsAfter request outcome.2 := by
  cases he with
  | run | samples => rfl
  | refused body hstatus => rw [idsAfter_of_status hstatus]
  | unknown => rw [idsAfter_of_status (by simp)]
  | opened => exact ids_add h.length_le h.capacity_pos _
  | attended action hfind =>
      rw [ids_put]
      by_cases hdelete : action = .delete
      · subst hdelete
        rfl
      · rw [if_neg (mt Action.attend_some_eq_none_iff.1 hdelete), idsAfter_on_of_ne hdelete]

/-! ## All requests -/

theorem Orderly.handleAll (h : table.Orderly) (hreader : reader.Reliable)
    (requests : List (Request Body)) :
    (table.handleAll reader requests).1.Orderly ∧
      (table.handleAll reader requests).1.capacity = table.capacity ∧
      (table.handleAll reader requests).1.issuedIds =
        table.issuedIds ++ created requests (table.handleAll reader requests).2 := by
  induction requests generalizing table with
  | nil => exact ⟨h, rfl, (List.append_nil _).symm⟩
  | cons request rest ih =>
      have heffect := h.effect hreader request
      obtain ⟨horderly, hcapacity, hissued⟩ := ih (heffect.orderly h)
      rw [handleAll_cons, created_cons]
      refine ⟨horderly, hcapacity.trans heffect.capacity_eq, ?_⟩
      rw [hissued, heffect.issuedIds_eq, List.append_assoc]

/-- What holds of a table, with the sessions that were created so far, and of what any request
does to it. -/
structure Disciplined (reader : Reader Body) (table : Sessions) (created : List String) :
    Prop where
  /-- There are no more sessions than the table is for. -/
  length_le : table.ids.length ≤ table.capacity
  /-- They stand in the order of their creation. -/
  inOrder : table.ids.Sublist created
  nodup : table.ids.Nodup
  /-- No session has a longer history than it may have. -/
  bounded : ∀ entry ∈ table.entries, entry.2.Bounded
  /-- The next session has an identifier of its own. -/
  fresh : table.nextIdentifier ∉ created
  /-- Request and status say which sessions are there afterwards, and in which order. -/
  membership : ∀ request,
    (table.handle reader request).1.ids =
      table.idsAfter request (table.handle reader request).2
  /-- Only what is there can be deleted. -/
  deleted : ∀ id, (table.handle reader (.delete id)).2.status = 200 → id ∈ table.ids

theorem Orderly.disciplined (h : table.Orderly) (hreader : reader.Reliable) :
    table.Disciplined reader table.issuedIds where
  length_le := h.length_le
  inOrder := h.ids
  nodup := h.nodup
  bounded := h.bounded
  fresh := table.nextIdentifier_notMem_issuedIds
  membership := fun request => (h.effect hreader request).ids_eq h
  deleted := by
    intro id hstatus
    by_contra habsent
    have hunknown : table.handle reader (Action.delete.on id) = (table, .unknownSession id) :=
      handle_on_of_none (find?_eq_none_iff.2 habsent) .delete
    rw [Action.on] at hunknown
    rw [hunknown, Response.status_unknownSession] at hstatus
    contradiction

/-- Whatever is asked, the table is in good order, and stays so with the next request. -/
theorem disciplined_handleAll (hreader : reader.Reliable) {capacity : Nat}
    (hcapacity : 0 < capacity) (requests : List (Request Body)) :
    let served := ({ capacity } : Sessions).handleAll reader requests
    served.1.capacity = capacity ∧ served.1.Disciplined reader (created requests served.2) := by
  obtain ⟨horderly, hkept, hissued⟩ := (orderly_empty hcapacity).handleAll hreader requests
  have hcreated : (({ capacity } : Sessions).handleAll reader requests).1.issuedIds =
      created requests (({ capacity } : Sessions).handleAll reader requests).2 := hissued
  exact ⟨hkept, hcreated ▸ horderly.disciplined hreader⟩

/-- A body that asks for a session with a program and a limit of the history. -/
def bodyOf (program : String) (limit : Int) : Option Payload :=
  some (.object [("program", .text program), ("max_history", .integer limit)])

/-- Five creations, one of which is refused. The last one has to make room. -/
def evictingRequests : List (Request (Option Payload)) :=
  [.create (bodyOf "NOP" 2), .create (bodyOf "ADD R1, R2, R3" 1), .step "s0",
    .create (bodyOf "MUL" 2), .delete "s1", .create (bodyOf "NOP" 2), .create (bodyOf "NOP" 2),
    .step "s2", .view "s0"]

theorem disciplined_evicting :
    let served := ({ capacity := 2 } : Sessions).handleAll .ofPayloads evictingRequests
    Reader.ofPayloads.Reliable ∧ 0 < 2 ∧ served.1.ids = ["s2", "s3"] ∧
      served.2.map Response.status = [200, 200, 200, 400, 200, 200, 200, 200, 404] ∧
      served.1.Disciplined .ofPayloads (created evictingRequests served.2) := by
  have hreader := Reader.reliable_ofPayloads
  exact ⟨hreader, by decide, by decide +kernel, by decide +kernel,
    (disciplined_handleAll hreader (by decide) evictingRequests).2⟩

end Sessions

end FiveStage.Service
