import FiveStage.Proofs.Service.Requests
import FiveStage.Proofs.Session.Loading

/-!
# What is opened, and what becomes of it

A body either opens a session or is refused with another status than 200
(`Reader.Reliable.opens_opening`). The sessions that are opened have a limit of their history, and
nothing that can be asked of them takes the history beyond it (`Action.attend_bounded`).
-/

namespace FiveStage

open Asm

/-- The session has a limit and its history is within it. -/
def Session.Bounded (session : Session) : Prop :=
  ∃ limit, session.maxHistory = some limit ∧ (session.historyDepth : Int) ≤ limit

namespace Session

variable {session previous : Session}

theorem Bounded.step (h : session.Bounded) : session.step.1.Bounded := by
  obtain ⟨limit, hlimit, hdepth⟩ := h
  have hremember : (session.remember.length : Int) ≤ limit :=
    length_remember_le hlimit (by omega) hdepth
  rw [Session.step]
  split
  · exact ⟨limit, hlimit, hdepth⟩
  · dsimp only
    split
    · exact ⟨limit, hlimit, hremember⟩
    · exact ⟨limit, hlimit, hremember⟩

theorem Bounded.stepBack (h : session.Bounded) (hback : session.stepBack = some previous) :
    previous.Bounded := by
  obtain ⟨limit, hlimit, hdepth⟩ := h
  cases hhistory : session.history with
  | nil => simp [Session.stepBack, hhistory] at hback
  | cons entry history =>
      simp only [Session.stepBack, hhistory, Option.some.injEq] at hback
      subst hback
      rw [historyDepth, hhistory, List.length_cons] at hdepth
      exact ⟨limit, hlimit, by simp only [historyDepth]; omega⟩

theorem Bounded.reset (h : session.Bounded) : session.reset.Bounded := by
  obtain ⟨limit, hlimit, hdepth⟩ := h
  refine ⟨limit, hlimit, ?_⟩
  simp only [historyDepth, Session.reset, history_begin, List.length_nil]
  omega

end Session

namespace Service

/-- Whatever is asked of a session, its history stays within its limit. -/
theorem Action.attend_bounded (action : Action) {slot : Option Session}
    (h : ∀ session ∈ slot, session.Bounded) :
    ∀ session ∈ (action.attend slot).1, session.Bounded := by
  cases slot with
  | none => rw [Action.attend_none]; exact h
  | some session =>
      have hsession : session.Bounded := h session rfl
      have hstep := hsession.step
      cases action with
      | view => simpa [attend] using hsession
      | delete => simp [attend]
      | reset => simpa [attend] using hsession.reset
      | step =>
          rcases hnext : session.step with ⟨next, _ | fault⟩
          · simpa [attend, hnext] using hstep
          · simpa [attend, hnext] using hstep
      | stepBack =>
          cases hback : session.stepBack with
          | none => simpa [attend, hback] using hsession
          | some previous => simpa [attend, hback] using hsession.stepBack hback

/-! ## Opening -/

/-- What was opened has a property; otherwise the response says that nothing was. -/
def Opens (P : Session → Prop) : Except Response Session → Prop
  | .error response => response.status ≠ 200
  | .ok session => P session

variable {P : Session → Prop}

theorem opens_settle {loaded : Session × Except Fault Listing}
    (h : ∀ session (listing : Listing), loaded = (session, .ok listing) →
      listing.isClean = true → P session) : Opens P (settle loaded) := by
  obtain ⟨session, fault | listing⟩ := loaded
  · simp [settle, Opens]
  · rw [settle]
    split
    · rename_i hclean
      exact h session listing rfl hclean
    · simp [Opens]

theorem opens_openSession (form : SessionForm) :
    Opens (fun session => session.Begun ∧ session.maxHistory = some form.maxHistory)
      (openSession form) := by
  rw [openSession]
  split
  · simp [Opens]
  · rename_i simulator _
    dsimp only
    split
    · split
      · rename_i sample _
        refine opens_settle ?_
        intro session listing hload hclean
        have hlimit := Session.maxHistory_loadSample
          (.ofSimulator simulator form.maxHistory) sample
        rw [hload] at hlimit
        exact ⟨.sample hload hclean, hlimit⟩
      · simp [Opens]
    · split
      · simp [Opens]
      · rename_i program _ _ _
        refine opens_settle ?_
        intro session listing hload hclean
        have hlimit := Session.maxHistory_loadSource
          (.ofSimulator simulator form.maxHistory) program
        rw [hload] at hlimit
        exact ⟨.source hload hclean, hlimit⟩
    · simp [Opens]

theorem Opens.mono {Q : Session → Prop} {outcome : Except Response Session}
    (h : Opens P outcome) (hPQ : ∀ session, P session → Q session) : Opens Q outcome := by
  cases outcome with
  | error response => exact h
  | ok session => exact hPQ session h

/-- A session is opened with no history, and the form allows for at least one step back. -/
theorem Reader.Reliable.opens_opening {Body : Type} {reader : Reader Body} (h : reader.Reliable)
    (body : Body) : Opens Session.Bounded (opening reader body) := by
  rw [opening]
  split
  · rename_i response hread
    exact h.refused body response hread
  · rename_i form hread
    refine (opens_openSession form).mono ?_
    intro session hopened
    obtain ⟨hbegun, hlimit⟩ := hopened
    obtain ⟨before, simulator, rfl⟩ := hbegun.eq_begin
    have hrange := (h.session body form hread).maxHistory
    refine ⟨form.maxHistory, hlimit, ?_⟩
    simp only [Session.historyDepth, Session.history_begin, List.length_nil]
    omega

end Service

end FiveStage
