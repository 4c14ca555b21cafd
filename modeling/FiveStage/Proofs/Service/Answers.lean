import FiveStage.Proofs.Service.Admission
import FiveStage.Proofs.Service.Discipline

/-!
# Every request is answered

The service is asked for programs that the assembler has an answer for, be it diagnostics, and its
reader gives forms within their bounds or says where a body breaks its form. Then no request fails,
whatever was asked before: a response is a success or says what was wrong with the request
(`Sessions.answered_handleAll`).

What carries this from one request to the next is that the sessions in the table are sound
(`Sessions.Sound`). They were when they were opened, no action takes that from them
(`Action.attend_sound`), and on a sound session every action succeeds but a step back without
history (`Action.status_attend`).
-/

namespace FiveStage.Service

open Asm Pipeline

/-! ## Actions -/

/-- A sound session stays sound, whatever is asked of it. -/
theorem Action.attend_sound (action : Action) {slot : Option Session} {clocks : Nat}
    (h : ∀ session ∈ slot, session.Sound clocks) :
    ∀ session ∈ (action.attend slot).1, session.Sound (clocks + 1) := by
  have hlater := Nat.le_succ clocks
  cases slot with
  | none => simp [attend_none]
  | some session =>
      have hsession : session.Sound clocks := h session rfl
      cases action with
      | view =>
          rintro _ ⟨⟩
          exact hsession.mono hlater
      | delete => simp [attend]
      | reset =>
          rintro _ ⟨⟩
          exact hsession.reset.mono hlater
      | step =>
          have hstep : session.step = (session.step.1, none) := Prod.ext rfl hsession.fault_step
          rw [attend, hstep]
          rintro _ ⟨⟩
          exact hsession.step
      | stepBack =>
          rw [attend]
          cases hback : session.stepBack with
          | none =>
              rintro _ ⟨⟩
              exact hsession.mono hlater
          | some previous =>
              rintro _ ⟨⟩
              exact (hsession.stepBack hback).mono hlater

/-- Only a step back can be refused, and it is exactly if there is no history. -/
theorem Action.status_attend (action : Action) {session : Session} {clocks : Nat}
    (h : session.Sound clocks) (id : String) :
    ((action.attend (some session)).2.response id).status =
      if action = .stepBack ∧ session.historyDepth = 0 then 409 else 200 := by
  cases action with
  | view | delete | reset => simp [attend, Answer.ofSession, Answer.response]
  | step =>
      have hstep : session.step = (session.step.1, none) := Prod.ext rfl h.fault_step
      rw [attend, hstep]
      simp [Answer.ofSession, Answer.response]
  | stepBack =>
      have hdepth : session.historyDepth = 0 ↔ session.stepBack = none := by
        rw [Session.stepBack_eq_none_iff, Session.historyDepth, List.length_eq_zero_iff]
      rw [attend]
      cases hback : session.stepBack with
      | none => simp [hdepth, hback, Answer.response]
      | some previous => simp [hdepth, hback, Answer.ofSession, Answer.response]

/-- An action shows the session that it leaves. -/
theorem Action.shown_of_mem_snapshots (action : Action) {slot : Option Session} {id : String}
    {snapshot : Snapshot} (h : snapshot ∈ ((action.attend slot).2.response id).snapshots) :
    ∃ session ∈ (action.attend slot).1, session.shown = snapshot := by
  cases slot with
  | none => simp [attend_none, Answer.response, Response.unknownSession, Response.refuse,
      Response.snapshots] at h
  | some session =>
      cases action with
      | view => exact ⟨session, rfl, (List.mem_singleton.1 h).symm⟩
      | delete => contradiction
      | reset => exact ⟨session.reset, rfl, (List.mem_singleton.1 h).symm⟩
      | step =>
          rw [attend] at h ⊢
          rcases hstep : session.step with ⟨next, _ | fault⟩
          · rw [hstep] at h
            exact ⟨next, rfl, (List.mem_singleton.1 h).symm⟩
          · rw [hstep] at h
            contradiction
      | stepBack =>
          rw [attend] at h ⊢
          cases hback : session.stepBack with
          | none => rw [hback] at h; contradiction
          | some previous =>
              rw [hback] at h
              exact ⟨previous, rfl, (List.mem_singleton.1 h).symm⟩

/-! ## Requests -/

variable {Body : Type} {reader : Reader Body}

/-- The assembler has an answer for the program text, if there is one. -/
def Request.Readable (reader : Reader Body) (request : Request Body) : Prop :=
  ∀ source ∈ request.text? reader, Asm.Readable source

instance (request : Request Body) : Decidable (request.Readable reader) :=
  inferInstanceAs (Decidable (∀ source ∈ request.text? reader, Asm.Readable source))

theorem admits_opening (hreader : reader.Reliable) {body : Body}
    (hreadable : (Request.create body).Readable reader)
    (hexplained : (Request.create body).Explained reader) : Admits (opening reader body) := by
  rw [Request.Readable, Request.text?] at hreadable
  rw [Request.Explained, Request.refusal?] at hexplained
  rw [opening]
  cases hread : reader.session body with
  | error response =>
      rw [hread] at hexplained
      obtain ⟨locations, rfl⟩ := hexplained response rfl
      exact ⟨by simp, rfl⟩
  | ok form =>
      rw [hread] at hreadable
      exact admits_openSession (hreader.session body form hread) hreadable

namespace Sessions

variable {table : Sessions} {request : Request Body} {clocks : Nat}

/-- The table is in order, and the sessions in it are sound. -/
structure Sound (clocks : Nat) (table : Sessions) : Prop where
  orderly : table.Orderly
  sessions : ∀ entry ∈ table.entries, entry.2.Sound clocks

theorem Sound.mono {later : Nat} (h : table.Sound clocks) (hle : clocks ≤ later) :
    table.Sound later :=
  ⟨h.orderly, fun entry hentry => (h.sessions entry hentry).mono hle⟩

theorem Sound.of_find? (h : table.Sound clocks) (id : String) :
    ∀ session ∈ table.find? id, session.Sound clocks :=
  fun session hfind => h.sessions (id, session) (Entries.mem_of_find? hfind)

theorem Sound.sessions_add (h : table.Sound clocks) {session : Session}
    (hsession : session.Sound clocks) :
    ∀ entry ∈ (table.add session).entries, entry.2.Sound clocks := by
  rw [entries_add h.orderly.length_le h.orderly.capacity_pos]
  intro entry hentry
  obtain hold | hnew := List.mem_append.1 hentry
  · split at hold
    · exact h.sessions entry (List.mem_of_mem_tail hold)
    · exact h.sessions entry hold
  · rw [List.mem_singleton.1 hnew]
    exact hsession

/-- What a request answers for the session that it is addressed to. -/
theorem Sound.status_on (h : table.Sound clocks) (id : String) (action : Action) :
    (table.handle reader (action.on id)).2.status =
      match table.find? id with
      | none => 404
      | some session => if action = .stepBack ∧ session.historyDepth = 0 then 409 else 200 := by
  cases hfind : table.find? id with
  | none => rw [handle_on_of_none hfind, Response.status_unknownSession]
  | some session =>
      rw [handle_on h.orderly.nodup, hfind]
      exact action.status_attend (h.of_find? id session hfind) id

theorem Sound.handle_run (h : table.Sound clocks) (hreader : reader.Reliable) {body : Body}
    (hreadable : (Request.run body).Readable reader)
    (hexplained : (Request.run body).Explained reader) :
    (table.handle reader (.run body)).1.Sound clocks ∧
      (table.handle reader (.run body)).2.Proper clocks := by
  rw [Request.Readable, Request.text?] at hreadable
  rw [Request.Explained, Request.refusal?] at hexplained
  rw [Sessions.handle_run]
  refine ⟨h, ?_⟩
  rw [Sessions.handle]
  cases hread : reader.run body with
  | error response =>
      rw [hread] at hexplained
      obtain ⟨locations, rfl⟩ := hexplained response rfl
      exact ⟨by simp, by simp [Response.unprocessable, Response.snapshots]⟩
  | ok form =>
      rw [hread] at hreadable
      exact proper_runForm (hreader.run body form hread) (hreadable form.program rfl) _

theorem Sound.handle_create (h : table.Sound clocks) (hreader : reader.Reliable) {body : Body}
    (hreadable : (Request.create body).Readable reader)
    (hexplained : (Request.create body).Explained reader) :
    (table.handle reader (.create body)).1.Sound clocks ∧
      (table.handle reader (.create body)).2.Proper clocks := by
  have hadmits := admits_opening hreader hreadable hexplained
  have horderly := (h.orderly.effect hreader (.create body)).orderly h.orderly
  rw [Sessions.handle_create] at horderly ⊢
  cases hopening : opening reader body with
  | error response =>
      rw [hopening] at hadmits
      obtain ⟨hstatus, hnone⟩ := hadmits
      have hsubset : ∀ status ∈ [400, 404, 422], status ∈ [200, 400, 404, 409, 422] := by decide
      exact ⟨h, hsubset _ hstatus, by simp [hnone]⟩
  | ok session =>
      rw [hopening] at hadmits horderly
      have hsession : session.Sound clocks := hadmits.mono (Nat.zero_le _)
      refine ⟨⟨horderly, h.sessions_add hsession⟩, by simp, ?_⟩
      intro snapshot hsnapshot
      rw [List.mem_singleton.1 hsnapshot]
      exact hsession.plausible_shown.mono (Nat.le_max_left _ _)

/-- An action can clock its session once more. -/
theorem Sound.handle_on (h : table.Sound clocks) (hreader : reader.Reliable) (id : String)
    (action : Action) :
    (table.handle reader (action.on id)).1.Sound (clocks + 1) ∧
      (table.handle reader (action.on id)).2.Proper (clocks + 1) := by
  have hlater := h.mono (Nat.le_succ clocks)
  have horderly := (h.orderly.effect hreader (action.on id)).orderly h.orderly
  have hattend := action.attend_sound (h.of_find? id)
  have hstatus : (table.handle reader (action.on id)).2.status = _ := h.status_on id action
  rw [Sessions.handle_on h.orderly.nodup] at horderly hstatus ⊢
  refine ⟨⟨horderly, forall_mem_put hlater.sessions hattend⟩, ?_, ?_⟩
  · rw [hstatus]
    split
    · simp
    · split <;> simp
  · intro snapshot hsnapshot
    obtain ⟨session, hsession, rfl⟩ := action.shown_of_mem_snapshots hsnapshot
    exact (hattend session hsession).plausible_shown.mono (Nat.le_max_left _ _)

/-- One request is answered properly, and leaves a sound table. -/
theorem Sound.handle (h : table.Sound clocks) (hreader : reader.Reliable)
    (hreadable : request.Readable reader) (hexplained : request.Explained reader) :
    (table.handle reader request).1.Sound (clocks + 1) ∧
      (table.handle reader request).2.Proper (clocks + 1) := by
  have hlater := h.mono (Nat.le_succ clocks)
  cases request.kind with
  | run body => exact hlater.handle_run hreader hreadable hexplained
  | samples =>
      rw [Sessions.handle]
      exact ⟨hlater, by simp, by simp [Response.snapshots]⟩
  | create body => exact hlater.handle_create hreader hreadable hexplained
  | on id action => exact h.handle_on hreader id action

theorem Sound.handleAll (h : table.Sound clocks) (hreader : reader.Reliable)
    {requests : List (Request Body)} (hreadable : ∀ request ∈ requests, request.Readable reader)
    (hexplained : ∀ request ∈ requests, request.Explained reader) :
    (table.handleAll reader requests).1.Sound (clocks + requests.length) ∧
      ∀ response ∈ (table.handleAll reader requests).2,
        response.Proper (clocks + requests.length) := by
  induction requests generalizing table clocks with
  | nil => exact ⟨h, by simp [Sessions.handleAll]⟩
  | cons request rest ih =>
      obtain ⟨hhere, hrest⟩ := List.forall_mem_cons.1 hreadable
      obtain ⟨htold, hothers⟩ := List.forall_mem_cons.1 hexplained
      obtain ⟨hsound, hproper⟩ := h.handle hreader hhere htold
      obtain ⟨hlast, hresponses⟩ := ih hsound hrest hothers
      have hclocks : clocks + 1 + rest.length = clocks + (rest.length + 1) := by omega
      rw [hclocks] at hlast hresponses
      rw [handleAll_cons, List.length_cons]
      refine ⟨hlast, List.forall_mem_cons.2 ⟨?_, hresponses⟩⟩
      exact hproper.mono (by omega)

theorem sound_empty {capacity : Nat} (h : 0 < capacity) : Sound 0 { capacity } :=
  ⟨orderly_empty h, by simp⟩

/-! ## All requests -/

/-- What a table answers to the next request. -/
structure Answers (reader : Reader Body) (table : Sessions) : Prop where
  /-- A run whose form, size and keys pass their checks has a result. -/
  runs : ∀ body form registers memory, reader.run body = .ok form →
    form.program.length ≤ programLimit →
    Key.registers form.options.registers = .ok registers →
    Key.addresses form.options.memory = .ok memory → Asm.Readable form.program →
    ∃ result, Batch.run form.program (form.options.seeded registers memory) = .ok result ∧
      table.handle reader (.run body) = (table, .reply 200 (.result result))
  /-- What is asked of a session that is there is done, unless there is nothing to step back to. -/
  actions : ∀ (id : String) (action : Action), (table.handle reader (action.on id)).2.status =
    match table.find? id with
    | none => 404
    | some session => if action = .stepBack ∧ session.historyDepth = 0 then 409 else 200
  stepBack : ∀ id : String, (table.handle reader (.stepBack id)).2.status = 409 ↔
    ∃ session, table.find? id = some session ∧ session.historyDepth = 0
  /-- The name of a sample opens a session with it. -/
  samples : ∀ body form, reader.session body = .ok form →
    (∃ sample ∈ Catalog.samples, form.sample = some sample.name) →
    (table.handle reader (.create body)).2.status = 200

theorem find?_ne_none_of_mem_samples {sample : Sample} (h : sample ∈ Catalog.samples) :
    Catalog.find? sample.name ≠ none := by
  have hall : ∀ sample ∈ Catalog.samples, Catalog.find? sample.name ≠ none := by decide
  exact hall sample h

theorem Sound.answers (h : table.Sound clocks) (hreader : reader.Reliable) :
    table.Answers reader where
  runs := by
    intro body form registers memory hread hlength hregisters hmemory hreadable
    obtain ⟨result, hrun⟩ :=
      exists_result (hreader.run body form hread) hregisters hreadable memory
    refine ⟨result, hrun, ?_⟩
    rw [Sessions.handle, hread]
    exact congrArg (table, ·) (runForm_of_result hlength hregisters hmemory hrun)
  actions := h.status_on
  stepBack := by
    intro id
    have hstatus : (table.handle reader (.stepBack id)).2.status = _ := h.status_on id .stepBack
    rw [hstatus]
    cases table.find? id with
    | none => simp
    | some session => simp
  samples := by
    rintro body form hread ⟨sample, hsample, hname⟩
    obtain ⟨found, hfind⟩ :=
      Option.ne_none_iff_exists'.1 (find?_ne_none_of_mem_samples hsample)
    obtain ⟨opened, hopen, -⟩ :=
      exists_openSession_of_find? (hreader.session body form hread) hname hfind
    rw [Sessions.handle, hread]
    dsimp only
    rw [hopen, Response.status_ofSession]

/-- Whatever is asked, with program texts that the assembler has an answer for, no request fails,
and what the next one is answered can be told from the table. All that is shown has both of its
ratios. The cycles per instruction are a binary64 number, so there may not be `2 ^ 1023` clock
edges. -/
theorem answered_handleAll (hreader : reader.Reliable) {capacity : Nat} (hcapacity : 0 < capacity)
    {requests : List (Request Body)} (hreadable : ∀ request ∈ requests, request.Readable reader)
    (hexplained : ∀ request ∈ requests, request.Explained reader) :
    let served := ({ capacity } : Sessions).handleAll reader requests
    (∀ response ∈ served.2, response.status ∈ [200, 400, 404, 409, 422]) ∧
      (requests.length < 2 ^ 1023 → ∀ response ∈ served.2, ∀ snapshot ∈ response.snapshots,
        (∃ ratio, snapshot.counters.cyclesPerInstruction = .ok ratio) ∧
          ∃ share, snapshot.counters.branchAccuracy = .ok share) ∧
      served.1.Answers reader := by
  intro served
  obtain ⟨hsound, hproper⟩ := (sound_empty hcapacity).handleAll hreader hreadable hexplained
  refine ⟨fun response hresponse => (hproper response hresponse).status, ?_,
    hsound.answers hreader⟩
  intro hlength response hresponse snapshot hsnapshot
  have hplausible := (hproper response hresponse).shown snapshot hsnapshot
  have hbudget : ∀ limit, 20 ≤ limit → 1000000 < 2 ^ limit := by
    intro limit hlimit
    calc 1000000 < 2 ^ 20 := by decide
      _ ≤ 2 ^ limit := Nat.pow_le_pow_right two_pos hlimit
  have hclocks : max (0 + requests.length) 1000000 < 2 ^ 1023 :=
    max_lt (by rwa [Nat.zero_add]) (hbudget 1023 (by decide))
  have hratio := hplausible.exists_cyclesPerInstruction hclocks
  exact ⟨hratio, hplausible.exists_branchAccuracy⟩

/-- A sample that is stepped and taken back too far, runs with good and bad keys, and requests for
what does not exist. -/
def validAndFaultyRequests : List (Request (Option Payload)) :=
  [.create (some (.object [("sample", .text "default pipeline demo")])), .step "s0",
    .stepBack "s0", .stepBack "s0",
    .run (some (.object [("program", .text "ADD R1, R2, R3"),
      ("options", .object [("memory_size", .integer 4),
        ("initial_registers", .object [("2", .integer 5)]),
        ("initial_memory", .object [("-8", .integer 1)])])])),
    .run (some (.object [("program", .text "NOP"),
      ("options", .object [("initial_registers", .object [("32", .integer 5)])])])),
    .run none, .create (bodyOf "MUL" 2), .step "s1"]

theorem answered_validAndFaulty :
    let reader : Reader (Option Payload) := .ofPayloads
    let served := ({ capacity := 2 } : Sessions).handleAll reader validAndFaultyRequests
    reader.Reliable ∧ 0 < 2 ∧ (∀ request ∈ validAndFaultyRequests, request.Readable reader) ∧
      (∀ request ∈ validAndFaultyRequests, request.Explained reader) ∧
      served.2.map Response.status = [200, 200, 200, 409, 200, 400, 422, 400, 404] ∧
      served.1.Answers reader := by
  intro reader served
  have hreader : reader.Reliable := Reader.reliable_ofPayloads
  have hreadable : ∀ request ∈ validAndFaultyRequests, request.Readable reader := by
    decide +kernel
  have hexplained : ∀ request ∈ validAndFaultyRequests, request.Explained reader :=
    fun request _ => request.explained_ofPayloads
  exact ⟨hreader, by decide, hreadable, hexplained, by decide +kernel,
    (answered_handleAll hreader (by decide) hreadable hexplained).2.2⟩

end Sessions

end FiveStage.Service
