import FiveStage.Proofs.Service.Discipline

/-!
# Isolation of sessions

From its creation on, a session answers the requests that are addressed to it as if it were alone:
the same session on an empty table answers the same requests in the same way, but for the name it
goes by (`isolated_handleAll`). The one thing that others can do to a session is to take its
place, and when it is gone, by that or by its own deletion, nothing answers under its name again.

The two runs are compared through what they both project to, the answers of the session to the
actions asked of it (`Action.attendAll`). For that the table is looked at under one identifier
only. A request to another session, or to none, leaves what is found there as it is
(`Orderly.find?_handle_of_other`), and one that is addressed to it is an action of the session
(`Orderly.find?_handle_on`).
-/

namespace FiveStage.Service

variable {Body : Type} {reader : Reader Body}

theorem Request.eq_on_of_action? {request : Request Body} {id : String} {action : Action}
    (h : request.action? id = some action) : request = action.on id := by
  cases request.kind with
  | run body => contradiction
  | samples => contradiction
  | create body => contradiction
  | on other given =>
      rw [action?_on] at h
      split at h
      · rename_i hother
        rw [hother, Option.some_inj.1 h]
      · contradiction

/-- Where there is no session every answer says so. -/
theorem Action.eq_unknown_of_mem_attendAll {actions : List Action} {answer : Answer}
    (h : answer ∈ attendAll actions none) : answer = .unknown := by
  induction actions with
  | nil => contradiction
  | cons action rest ih =>
      rw [attendAll, attend_none, List.mem_cons] at h
      exact h.elim id ih

namespace Sessions

variable {table : Sessions} {id : String} {request : Request Body} {requests : List (Request Body)}

/-- The actions that requests ask of a session, in order. -/
def asked (id : String) (requests : List (Request Body)) : List Action :=
  requests.filterMap (·.action? id)

/-- The responses to the requests that are addressed to a session, in order. -/
def responsesTo (id : String) (requests : List (Request Body)) (responses : List Response) :
    List Response :=
  (requests.zip responses).filterMap fun (request, response) =>
    (request.action? id).map fun _ => response

theorem responsesTo_cons (id : String) (request : Request Body) (requests : List (Request Body))
    (response : Response) (responses : List Response) :
    responsesTo id (request :: requests) (response :: responses) =
      ((request.action? id).map fun _ => response).toList ++ responsesTo id requests responses := by
  cases h : request.action? id <;> simp [responsesTo, h]

/-- A session is created for which the oldest one, this one, has to go. -/
def Evicts (reader : Reader Body) (table : Sessions) (request : Request Body) (id : String) :
    Prop :=
  request.created? (table.handle reader request).2 ≠ none ∧ table.Full ∧ table.Oldest id

instance (table : Sessions) (request : Request Body) (id : String) :
    Decidable (table.Evicts reader request id) :=
  inferInstanceAs (Decidable (_ ∧ _))

/-- The session is evicted while requests are answered. -/
def EvictedIn (reader : Reader Body) (table : Sessions) (id : String) : List (Request Body) → Prop
  | [] => False
  | request :: rest =>
    table.Evicts reader request id ∨ (table.handle reader request).1.EvictedIn reader id rest

instance decidableEvictedIn (id : String) :
    ∀ (requests : List (Request Body)) (table : Sessions),
      Decidable (table.EvictedIn reader id requests)
  | [], _ => inferInstanceAs (Decidable False)
  | request :: rest, table =>
    have := decidableEvictedIn id rest (table.handle reader request).1
    inferInstanceAs (Decidable (_ ∨ _))

/-! ## One request -/

/-- Others change what is found under an identifier by eviction only. -/
theorem Orderly.find?_handle_of_other (h : table.Orderly) (hreader : reader.Reliable)
    (hid : id ∈ table.issuedIds) (hother : request.action? id = none)
    (hkept : ¬ table.Evicts reader request id) :
    (table.handle reader request).1.find? id = table.find? id := by
  have heffect := h.effect hreader request
  rw [Evicts] at hkept
  generalize table.handle reader request = outcome at heffect hkept
  cases heffect with
  | run | samples | refused | unknown => rfl
  | opened body hbounded =>
      refine find?_add_of_kept h.length_le h.capacity_pos (ne_nextIdentifier_of_mem hid) ?_ _
      intro hdropped
      exact hkept ⟨Option.some_ne_none _, hdropped⟩
  | @attended other session action hfind =>
      rw [Request.action?_on] at hother
      have hne : id ≠ other := by
        rintro rfl
        simp at hother
      exact find?_put_of_ne hne _

theorem Orderly.find?_handle_on (h : table.Orderly) (id : String) (action : Action) :
    (table.handle reader (action.on id)).1.find? id = (action.attend (table.find? id)).1 := by
  cases hfind : table.find? id with
  | none => rw [handle_on_of_none hfind, hfind, Action.attend_none]
  | some session =>
      rw [handle_on h.nodup, hfind]
      exact find?_put_self (by simp [hfind]) _

theorem not_evicts_of_none (hnone : table.find? id = none) : ¬ table.Evicts reader request id := by
  rintro ⟨-, -, hold⟩
  exact find?_eq_none_iff.1 hnone (List.mem_of_head? hold)

/-- A session that is gone stays away. -/
theorem Orderly.find?_handle_of_none (h : table.Orderly) (hreader : reader.Reliable)
    (hid : id ∈ table.issuedIds) (hnone : table.find? id = none) (request : Request Body) :
    (table.handle reader request).1.find? id = none := by
  cases haction : request.action? id with
  | some action =>
      rw [Request.eq_on_of_action? haction, h.find?_handle_on, hnone, Action.attend_none]
  | none => rw [h.find?_handle_of_other hreader hid haction (not_evicts_of_none hnone), hnone]

theorem Orderly.mem_issuedIds_handle (h : table.Orderly) (hreader : reader.Reliable)
    (hid : id ∈ table.issuedIds) (request : Request Body) :
    id ∈ (table.handle reader request).1.issuedIds := by
  rw [(h.effect hreader request).issuedIds_eq]
  exact List.mem_append_left _ hid

/-- The end of a session is its deletion or its eviction. -/
theorem Orderly.find?_handle_of_end (h : table.Orderly) (hreader : reader.Reliable)
    (hid : id ∈ table.issuedIds) (hend : request = .delete id ∨ table.Evicts reader request id) :
    (table.handle reader request).1.find? id = none := by
  rcases hend with rfl | ⟨hcreated, hfull, hold⟩
  · have hdelete : (table.handle reader (.delete id)).1.find? id = _ :=
      h.find?_handle_on id .delete
    rw [hdelete]
    cases table.find? id <;> rfl
  · rw [find?_eq_none_iff, (h.effect hreader request).ids_eq h, idsAfter_of_created hcreated,
      if_pos hfull, List.mem_append, List.mem_singleton, not_or]
    exact ⟨notMem_tail_of_oldest h.nodup hold, ne_nextIdentifier_of_mem hid⟩

/-! ## All requests -/

theorem Orderly.responsesTo_handleAll (h : table.Orderly) (hreader : reader.Reliable)
    (hid : id ∈ table.issuedIds) (hkept : ¬ table.EvictedIn reader id requests) :
    responsesTo id requests (table.handleAll reader requests).2 =
      (Action.attendAll (asked id requests) (table.find? id)).map (Answer.response id) := by
  induction requests generalizing table with
  | nil => rfl
  | cons request rest ih =>
      obtain ⟨hhere, hrest⟩ := not_or.1 hkept
      have hnext := ih ((h.effect hreader request).orderly h)
        (h.mem_issuedIds_handle hreader hid request) hrest
      rw [handleAll_cons, responsesTo_cons, hnext]
      cases haction : request.action? id with
      | none =>
          rw [h.find?_handle_of_other hreader hid haction hhere]
          simp [asked, haction]
      | some action =>
          have hrequest := Request.eq_on_of_action? haction
          subst hrequest
          rw [h.find?_handle_on, handle_on h.nodup]
          simp [asked, Action.attendAll]

/-- Answers of a session that is asked and nothing else happens. -/
theorem Orderly.handleAll_on (h : table.Orderly) (hreader : reader.Reliable) (id : String)
    (actions : List Action) :
    (table.handleAll reader (actions.map (Action.on id))).2 =
      (Action.attendAll actions (table.find? id)).map (Answer.response id) := by
  induction actions generalizing table with
  | nil => rfl
  | cons action rest ih =>
      have hhere : table.handle reader (action.on id) = _ := handle_on h.nodup id action
      rw [List.map_cons, handleAll_cons, ih ((h.effect hreader _).orderly h), h.find?_handle_on,
        hhere]
      rfl

/-- Nothing answers under the name of a session that is gone. -/
theorem Orderly.responsesTo_handleAll_of_none (h : table.Orderly) (hreader : reader.Reliable)
    (hid : id ∈ table.issuedIds) (hnone : table.find? id = none) (requests : List (Request Body)) :
    ∀ response ∈ responsesTo id requests (table.handleAll reader requests).2,
      response = .unknownSession id := by
  have hkept : ¬ table.EvictedIn reader id requests := by
    induction requests generalizing table with
    | nil => exact not_false
    | cons request rest ih =>
        rintro (hevicts | hlater)
        · exact not_evicts_of_none hnone hevicts
        · exact ih ((h.effect hreader request).orderly h)
            (h.mem_issuedIds_handle hreader hid request)
            (h.find?_handle_of_none hreader hid hnone request) hlater
  rw [h.responsesTo_handleAll hreader hid hkept, hnone]
  intro response hresponse
  obtain ⟨answer, hanswer, rfl⟩ := List.mem_map.1 hresponse
  rw [Action.eq_unknown_of_mem_attendAll hanswer, Answer.response]

/-- A session that was just created is found under the identifier that is told. -/
theorem Orderly.find?_add_nextIdentifier (h : table.Orderly) (session : Session) :
    (table.add session).find? table.nextIdentifier = some session :=
  Sessions.find?_add_nextIdentifier h.length_le h.capacity_pos h.fresh session

/-- Let a session be created at any time. Until it is evicted the creation and the requests that
are addressed to it are answered as on a table with no other session, where just these requests
are made. Once it was deleted or evicted, a request that is addressed to it is answered by saying
that there is no such session. -/
theorem isolated_handleAll (hreader : reader.Reliable) {capacity : Nat} (hcapacity : 0 < capacity)
    (before : List (Request Body)) (body : Body) :
    let empty : Sessions := { capacity }
    let table := (empty.handleAll reader before).1
    let id := table.nextIdentifier
    let alone := empty.nextIdentifier
    let opened := table.handle reader (.create body)
    opened.2.status = 200 →
      (∀ after, ¬ opened.1.EvictedIn reader id after →
        ∃ answers : List Answer,
          opened.2 :: responsesTo id after (opened.1.handleAll reader after).2 =
            answers.map (Answer.response id) ∧
          (empty.handleAll reader (.create body :: (asked id after).map (Action.on alone))).2 =
            answers.map (Answer.response alone)) ∧
      ∀ after request,
        request = .delete id ∨ (opened.1.handleAll reader after).1.Evicts reader request id →
        ∀ rest, ∀ response ∈ responsesTo id rest
            (((opened.1.handleAll reader after).1.handle reader request).1.handleAll reader rest).2,
          response = .unknownSession id := by
  intro empty table id alone opened hstatus
  have hempty : empty.Orderly := orderly_empty hcapacity
  have htable : table.Orderly := (hempty.handleAll hreader before).1
  have hopens := hreader.opens_opening body
  have hopened : opened = _ := handle_create table body
  have halone : empty.handle reader (.create body) = _ := handle_create empty body
  cases hopening : opening reader body with
  | error response =>
      rw [hopening] at hopens hopened
      rw [hopened] at hstatus
      exact absurd hstatus hopens
  | ok session =>
      rw [hopening] at hopens hopened halone
      have horderly : (table.add session).Orderly := htable.add hopens
      have hid : id ∈ (table.add session).issuedIds := by
        rw [issuedIds_add]
        exact List.mem_append_right _ (List.mem_singleton_self id)
      rw [hopened]
      constructor
      · intro after hkept
        refine ⟨.ofSession session :: Action.attendAll (asked id after) (some session), ?_, ?_⟩
        · rw [horderly.responsesTo_handleAll hreader hid hkept, htable.find?_add_nextIdentifier,
            List.map_cons, Answer.response_ofSession]
        · rw [handleAll_cons, halone, (hempty.add hopens).handleAll_on hreader,
            hempty.find?_add_nextIdentifier, List.map_cons, Answer.response_ofSession]
      · intro after request hend rest
        obtain ⟨hafter, -, hissued⟩ := horderly.handleAll hreader after
        have hlater : id ∈ ((table.add session).handleAll reader after).1.issuedIds := by
          rw [hissued]
          exact List.mem_append_left _ hid
        have hnext := (hafter.effect hreader request).orderly hafter
        exact hnext.responsesTo_handleAll_of_none hreader
          (hafter.mem_issuedIds_handle hreader hlater request)
          (hafter.find?_handle_of_end hreader hlater hend) rest

/-- Requests to one session among requests to two others, of which one is deleted and one made on
the way. -/
def interleavedRequests : List (Request (Option Payload)) :=
  [.step "s1", .step "s0", .view "s1", .reset "s0", .run none, .stepBack "s1", .delete "s0",
    .create (bodyOf "NOP" 2), .stepBack "s1", .step "s2", .delete "s1", .view "s1"]

theorem isolated_interleaved :
    let reader : Reader (Option Payload) := .ofPayloads
    let empty : Sessions := { capacity := 2 }
    let table := (empty.handleAll reader [.create (bodyOf "NOP" 2)]).1
    let opened := table.handle reader (.create (bodyOf "ADD R1, R2, R3" 1))
    let id := table.nextIdentifier
    let later := (opened.1.handleAll reader [.create (bodyOf "NOP" 2)]).1
    reader.Reliable ∧ 0 < 2 ∧ id = "s1" ∧ opened.2.status = 200 ∧
      ¬ opened.1.EvictedIn reader id interleavedRequests ∧
      (∃ answers : List Answer,
        opened.2 ::
            responsesTo id interleavedRequests (opened.1.handleAll reader interleavedRequests).2 =
          answers.map (Answer.response id) ∧
        (empty.handleAll reader (.create (bodyOf "ADD R1, R2, R3" 1) ::
            (asked id interleavedRequests).map (Action.on empty.nextIdentifier))).2 =
          answers.map (Answer.response empty.nextIdentifier)) ∧
      later.Evicts reader (.create (bodyOf "NOP" 1)) id ∧
      ∀ response ∈ responsesTo id interleavedRequests
          ((later.handle reader (.create (bodyOf "NOP" 1))).1.handleAll reader
            interleavedRequests).2,
        response = .unknownSession id := by
  intro reader empty table opened id later
  have hreader : reader.Reliable := Reader.reliable_ofPayloads
  have hstatus : opened.2.status = 200 := by decide +kernel
  have hkept : ¬ opened.1.EvictedIn reader id interleavedRequests := by decide +kernel
  have hevicts : later.Evicts reader (.create (bodyOf "NOP" 1)) id := by decide +kernel
  obtain ⟨hsame, hgone⟩ := isolated_handleAll hreader (by decide) [.create (bodyOf "NOP" 2)]
    (bodyOf "ADD R1, R2, R3" 1) hstatus
  exact ⟨hreader, by decide, by decide +kernel, hstatus, hkept, hsame interleavedRequests hkept,
    hevicts, hgone [.create (bodyOf "NOP" 2)] (.create (bodyOf "NOP" 1)) (.inr hevicts)
      interleavedRequests⟩

end Sessions

end FiveStage.Service
