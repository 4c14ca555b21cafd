import FiveStage.Proofs.Pipeline.Run
import FiveStage.Session

/-!
# The timeline of a session

From where a session begins, its simulator has one timeline, `origin.clocked i` for the cycles
`i`. Whatever is done with the session then, short of another beginning, it stays on that
timeline and is described by two numbers: the position it is at and the depth of its history
(`Cursor`). A step moves both on, a step back moves both back, and a limit of the history cuts
the depth only.

That a session is where its cursor says covers everything in it: the simulator, the snapshot
that is shown, and every entry of the history, which are the states and snapshots right before
the position (`Session.At`). It is kept by each call (`Session.At.perform`), and by induction on
the calls it holds after all of them (`Session.Begun.timeline`).
-/

namespace FiveStage

open Asm Pipeline

/-- Assembling the text gives diagnostics or a fault. -/
def Asm.Rejected (source : String) : Prop :=
  ∀ listing, assemble source = .ok listing → listing.isClean = false

theorem Asm.rejected_iff {source : String} :
    Rejected source ↔ (assemble source).toOption.any Listing.isClean = false := by
  rw [Rejected]
  cases assemble source <;> simp [Except.toOption]

instance (source : String) : Decidable (Rejected source) := decidable_of_iff' _ rejected_iff

namespace Session

/-- What can be done with a session without beginning anew. -/
inductive Call where
  | step
  | stepBack
  /-- Steps until halted, at most so many times, and not at all if it is negative. -/
  | run (maxCycles : Int)
  | load (source : String) (rejected : Rejected source)

def perform (session : Session) : Call → Session × Option Fault
  | .step => session.step
  | .stepBack => (session.stepBack.getD session, none)
  | .run maxCycles => run maxCycles.toNat session
  | .load source _ => ((session.loadSource source).1, none)

/-- The session after calls in order, up to the first that faults. -/
def play (session : Session) : List Call → Session × Option Fault
  | [] => (session, none)
  | call :: calls =>
    match session.perform call with
    | (session, none) => play session calls
    | (session, some fault) => (session, some fault)

/-- A session that has just been made, or has taken in a text, a sample or a reset. -/
inductive Begun : Session → Prop
  | make (simulator : Simulator) (limit : Option Int) : Begun (.ofSimulator simulator limit)
  | source {before session : Session} {source : String} {listing : Listing}
    (load : before.loadSource source = (session, .ok listing)) (clean : listing.isClean = true) :
    Begun session
  | sample {before session : Session} {sample : Sample} {listing : Listing}
    (load : before.loadSample sample = (session, .ok listing)) (clean : listing.isClean = true) :
    Begun session
  | named {before session : Session} {name : String} {listing : Listing}
    (load : before.loadNamed name = (session, .ok listing)) (clean : listing.isClean = true) :
    Begun session
  | reset (before : Session) : Begun before.reset

/-! ## Cursors -/

/-- A place on a timeline, and how many steps can be taken back from it. -/
structure Cursor where
  position : Nat := 0
  depth : Nat := 0
  deriving DecidableEq

namespace Cursor

/-- A depth cut to the limit of a history. -/
def cut (limit : Option Int) (depth : Nat) : Nat :=
  limit.elim depth fun most => min depth most.toNat

/-- One step on, unless the timeline has come to its end. -/
def forward (origin : Simulator) (limit : Option Int) (cursor : Cursor) : Cursor :=
  if (origin.clocked cursor.position).halted then cursor
  else ⟨cursor.position + 1, cut limit (cursor.depth + 1)⟩

/-- One step back, if there is one to take back. -/
def back (cursor : Cursor) : Cursor :=
  if cursor.depth = 0 then cursor else ⟨cursor.position - 1, cursor.depth - 1⟩

def move (origin : Simulator) (limit : Option Int) (cursor : Cursor) : Call → Cursor
  | .step => cursor.forward origin limit
  | .stepBack => cursor.back
  | .run maxCycles => (forward origin limit)^[maxCycles.toNat] cursor
  | .load _ _ => cursor

/-- The cursor after calls in order. -/
def play (origin : Simulator) (limit : Option Int) (calls : List Call) : Cursor :=
  calls.foldl (move origin limit) {}

end Cursor

/-- What a session remembers of a cycle of its timeline. -/
def entry (origin : Simulator) (i : Nat) : HistoryEntry :=
  ⟨(origin.clocked i).snapshot, (origin.clocked i).state⟩

/-- The session is on the timeline of `origin` where the cursor says, and its history holds the
cycles right before, the oldest of them `depth` cycles ago. -/
structure At (origin : Simulator) (limit : Option Int) (cursor : Cursor) (session : Session) :
    Prop where
  simulator : session.simulator = origin.clocked cursor.position
  shown : session.shown = (origin.clocked cursor.position).snapshot
  history : session.history.reverse =
    (List.range' (cursor.position - cursor.depth) cursor.depth).map (entry origin)
  maxHistory : session.maxHistory = limit
  depth_le : cursor.depth ≤ cursor.position
  within : ∀ most, limit = some most → cursor.depth ≤ most.toNat

variable {origin : Simulator} {limit : Option Int} {cursor : Cursor} {session : Session}

/-! ## Beginnings -/

theorem eq_begin_of_loadSource {before : Session} {source : String} {listing : Listing}
    (h : before.loadSource source = (session, .ok listing)) (hclean : listing.isClean = true) :
    ∃ simulator, session = before.begin simulator := by
  rw [loadSource] at h
  cases hload : before.simulator.loadSource source with
  | error fault => rw [hload] at h; simp at h
  | ok loaded =>
      obtain ⟨simulator, found⟩ := loaded
      simp only [hload, Prod.mk.injEq, Except.ok.injEq] at h
      obtain ⟨hsession, rfl⟩ := h
      rw [if_pos hclean] at hsession
      exact ⟨simulator, hsession.symm⟩

theorem eq_begin_of_loadSample {before : Session} {sample : Sample} {listing : Listing}
    (h : before.loadSample sample = (session, .ok listing)) (hclean : listing.isClean = true) :
    ∃ loaded simulator, session = begin loaded simulator := by
  rw [loadSample] at h
  split at h
  · simp at h
  · rename_i loaded found hload
    split at h
    · split at h
      · rename_i simulator _
        exact ⟨loaded, simulator, (congrArg Prod.fst h).symm⟩
      · simp at h
    · rename_i hunclean
      injection h with _ h
      injection h with h
      rw [h] at hunclean
      contradiction

theorem Begun.eq_begin (h : session.Begun) :
    ∃ before simulator, session = begin before simulator := by
  cases h with
  | make simulator limit => exact ⟨.ofSimulator simulator limit, simulator, rfl⟩
  | source hload hclean => exact ⟨_, eq_begin_of_loadSource hload hclean⟩
  | sample hload hclean => exact eq_begin_of_loadSample hload hclean
  | named hload hclean =>
      rw [loadNamed] at hload
      split at hload
      · exact eq_begin_of_loadSample hload hclean
      · simp at hload
  | reset before => exact ⟨before, before.simulator.reset, rfl⟩

theorem Begun.at_start (h : session.Begun) :
    At session.simulator session.maxHistory {} session := by
  obtain ⟨before, simulator, rfl⟩ := h.eq_begin
  exact ⟨rfl, rfl, rfl, rfl, Nat.le_refl 0, fun most _ => Nat.zero_le _⟩

/-! ## Unfolding calls -/

/-- A step faults where the clock edge does. -/
theorem fault_step_of_live (hlive : session.halted = false) :
    session.step.2 = session.simulator.step.2 := by
  rw [Session.step, hlive, if_neg Bool.false_ne_true]
  rcases session.simulator.step with ⟨simulator, _ | fault⟩ <;> rfl

theorem step_of_live (hlive : session.halted = false)
    (hfault : session.simulator.step.2 = none) :
    session.step =
      ({ session with
        simulator := session.simulator.step.1
        shown := session.simulator.step.1.snapshot
        history := session.remember }, none) := by
  have hstep : session.simulator.step = (session.simulator.step.1, none) := Prod.ext rfl hfault
  rw [Session.step, hlive, if_neg Bool.false_ne_true, hstep]

theorem run_of_halted (h : session.halted = true) (budget : Nat) :
    Session.run budget session = (session, none) := by
  cases budget with
  | zero => rfl
  | succ budget => rw [Session.run, if_pos h]

theorem run_succ_of_live (hlive : session.halted = false) (budget : Nat) :
    Session.run (budget + 1) session =
      if session.step.2 = none then Session.run budget session.step.1 else session.step := by
  rw [Session.run, hlive, if_neg Bool.false_ne_true]
  rcases session.step with ⟨next, _ | fault⟩ <;> rfl

theorem play_cons (session : Session) (call : Call) (calls : List Call) :
    session.play (call :: calls) =
      if (session.perform call).2 = none then (session.perform call).1.play calls
      else session.perform call := by
  rw [Session.play]
  rcases session.perform call with ⟨next, _ | fault⟩ <;> rfl

/-! ## Calls -/

theorem At.halted_eq (h : At origin limit cursor session) :
    session.halted = (origin.clocked cursor.position).halted := by
  rw [Session.halted, h.shown]
  rfl

theorem At.historyDepth_eq (h : At origin limit cursor session) :
    session.historyDepth = cursor.depth := by
  rw [historyDepth, ← List.length_reverse, h.history, List.length_map, List.length_range']

/-- The history gets the present cycle, and at its limit loses the oldest one for it. -/
theorem At.reverse_remember (h : At origin limit cursor session) :
    session.remember.reverse =
      (List.range' (cursor.position + 1 - Cursor.cut limit (cursor.depth + 1))
        (Cursor.cut limit (cursor.depth + 1))).map (entry origin) := by
  have hdepth := h.depth_le
  have hlength := h.historyDepth_eq
  have hhere : (⟨session.shown, session.simulator.state⟩ : HistoryEntry) =
      entry origin cursor.position := by
    rw [h.shown, h.simulator]
    rfl
  have hall : (⟨session.shown, session.simulator.state⟩ :: session.history).reverse =
      (List.range' (cursor.position - cursor.depth) (cursor.depth + 1)).map (entry origin) := by
    rw [List.reverse_cons, h.history, hhere, List.range'_concat, List.map_append]
    congr 3
    omega
  have hkeep : cursor.position + 1 - (cursor.depth + 1) = cursor.position - cursor.depth := by
    omega
  rw [remember, h.maxHistory]
  cases limit with
  | none =>
      rw [Cursor.cut, Option.elim_none, hkeep]
      exact hall
  | some most =>
      have hmost := h.within most rfl
      dsimp only
      rw [List.length_cons, ← historyDepth, hlength, Cursor.cut, Option.elim_some]
      split
      · have hcut : min (cursor.depth + 1) most.toNat = cursor.depth := by omega
        have hlater : cursor.position + 1 - cursor.depth =
            cursor.position - cursor.depth + 1 := by omega
        rw [hcut, ← List.tail_reverse, hall, List.range'_succ, List.map_cons, List.tail_cons,
          hlater]
      · have hcut : min (cursor.depth + 1) most.toNat = cursor.depth + 1 := by omega
        rw [hcut, hkeep]
        exact hall

theorem At.step (h : At origin limit cursor session) (hfault : session.step.2 = none) :
    At origin limit (cursor.forward origin limit) session.step.1 := by
  have hhalted := h.halted_eq
  rw [Cursor.forward]
  cases hend : (origin.clocked cursor.position).halted with
  | true =>
      rw [step_of_halted (hhalted.trans hend)]
      exact h
  | false =>
      have hlive : session.halted = false := hhalted.trans hend
      have hcycle : session.simulator.step.1 = origin.clocked (cursor.position + 1) := by
        rw [h.simulator, Simulator.clocked_succ]
      have hdepth := h.depth_le
      rw [fault_step_of_live hlive] at hfault
      rw [if_neg Bool.false_ne_true, step_of_live hlive hfault, hcycle]
      refine ⟨rfl, rfl, h.reverse_remember, h.maxHistory, ?_, ?_⟩
      · show Cursor.cut limit (cursor.depth + 1) ≤ cursor.position + 1
        cases limit with
        | none => exact Nat.succ_le_succ hdepth
        | some most => exact Nat.le_trans (Nat.min_le_left _ _) (Nat.succ_le_succ hdepth)
      · rintro most rfl
        exact Nat.min_le_right _ _

theorem At.stepBack_eq_none_iff (h : At origin limit cursor session) :
    session.stepBack = none ↔ cursor.depth = 0 := by
  rw [Session.stepBack_eq_none_iff, ← h.historyDepth_eq, historyDepth, List.length_eq_zero_iff]

theorem At.stepBack (h : At origin limit cursor session) :
    At origin limit cursor.back (session.stepBack.getD session) := by
  rw [Cursor.back]
  split
  · rename_i hnone
    rw [h.stepBack_eq_none_iff.2 hnone]
    exact h
  · rename_i hsome
    have hdepth := h.depth_le
    have hhistory := h.history
    obtain ⟨depth, hsucc⟩ := Nat.exists_eq_succ_of_ne_zero hsome
    have hfirst : cursor.position - cursor.depth = cursor.position - 1 - depth := by omega
    have hlast : cursor.position - 1 - depth + depth = cursor.position - 1 := by omega
    have hdepth' : cursor.depth - 1 = depth := by omega
    rw [hfirst, hsucc, Nat.succ_eq_add_one, List.range'_concat, Nat.one_mul, hlast,
      List.map_append, List.reverse_eq_iff, List.reverse_append, List.map_singleton,
      List.reverse_singleton, List.singleton_append] at hhistory
    rw [Session.stepBack, hhistory, Option.getD_some, hdepth']
    refine ⟨?_, rfl, List.reverse_reverse _, h.maxHistory, ?_, ?_⟩
    · show session.simulator.restore _ = origin.clocked (cursor.position - 1)
      rw [h.simulator]
      exact Simulator.restore_clocked origin _ _
    · show depth ≤ cursor.position - 1
      omega
    · intro most hmost
      have hwithin := h.within most hmost
      show depth ≤ most.toNat
      omega

/-- A text that is refused changes nothing. -/
theorem loadSource_of_rejected {source : String} (h : Rejected source) :
    (session.loadSource source).1 = session := by
  rw [loadSource, Simulator.loadSource]
  cases hassemble : assemble source with
  | error fault => rfl
  | ok listing =>
      dsimp only
      rw [if_neg (by simp [h listing hassemble])]

theorem At.run (h : At origin limit cursor session) (budget : Nat)
    (hfault : (Session.run budget session).2 = none) :
    At origin limit ((Cursor.forward origin limit)^[budget] cursor)
      (Session.run budget session).1 := by
  induction budget generalizing cursor session with
  | zero => exact h
  | succ budget ih =>
      have hhalted := h.halted_eq
      cases hend : (origin.clocked cursor.position).halted with
      | true =>
          have hfixed : cursor.forward origin limit = cursor := by
            rw [Cursor.forward, if_pos hend]
          rw [run_of_halted (hhalted.trans hend), Function.iterate_fixed hfixed]
          exact h
      | false =>
          rw [run_succ_of_live (hhalted.trans hend)] at hfault ⊢
          by_cases hstep : session.step.2 = none
          · rw [if_pos hstep] at hfault ⊢
            rw [Function.iterate_succ_apply]
            exact ih (h.step hstep) hfault
          · rw [if_neg hstep] at hfault
            contradiction

/-- A call that does not fault moves the session as it moves the cursor. -/
theorem At.perform (h : At origin limit cursor session) (call : Call)
    (hfault : (session.perform call).2 = none) :
    At origin limit (cursor.move origin limit call) (session.perform call).1 := by
  cases call with
  | step => exact h.step hfault
  | stepBack => exact h.stepBack
  | run maxCycles => exact h.run maxCycles.toNat hfault
  | load source hrejected =>
      show At origin limit cursor (session.loadSource source).1
      rw [loadSource_of_rejected hrejected]
      exact h

theorem At.play (h : At origin limit cursor session) (calls : List Call)
    (hfault : (session.play calls).2 = none) :
    At origin limit (calls.foldl (Cursor.move origin limit) cursor) (session.play calls).1 := by
  induction calls generalizing cursor session with
  | nil => exact h
  | cons call calls ih =>
      rw [play_cons] at hfault ⊢
      by_cases hcall : (session.perform call).2 = none
      · rw [if_pos hcall] at hfault ⊢
        exact ih (h.perform call hcall) hfault
      · rw [if_neg hcall] at hfault
        contradiction

/-! ## Calls without faults -/

theorem At.fault_step (h : At origin limit cursor session)
    (hsafe : ∀ n, (origin.clocked n).step.2 = none) : session.step.2 = none := by
  cases hhalted : session.halted with
  | true => rw [step_of_halted hhalted]
  | false =>
      rw [fault_step_of_live hhalted, h.simulator]
      exact hsafe cursor.position

theorem At.fault_run (h : At origin limit cursor session)
    (hsafe : ∀ n, (origin.clocked n).step.2 = none) (budget : Nat) :
    (Session.run budget session).2 = none := by
  induction budget generalizing cursor session with
  | zero => rfl
  | succ budget ih =>
      have hstep := h.fault_step hsafe
      cases hhalted : session.halted with
      | true => rw [run_of_halted hhalted]
      | false =>
          rw [run_succ_of_live hhalted, if_pos hstep]
          exact ih (h.step hstep)

theorem At.fault_perform (h : At origin limit cursor session)
    (hsafe : ∀ n, (origin.clocked n).step.2 = none) (call : Call) :
    (session.perform call).2 = none := by
  cases call with
  | step => exact h.fault_step hsafe
  | stepBack => rfl
  | run maxCycles => exact h.fault_run hsafe maxCycles.toNat
  | load source hrejected => rfl

theorem At.fault_play (h : At origin limit cursor session)
    (hsafe : ∀ n, (origin.clocked n).step.2 = none) (calls : List Call) :
    (session.play calls).2 = none := by
  induction calls generalizing cursor session with
  | nil => rfl
  | cons call calls ih =>
      have hcall := h.fault_perform hsafe call
      rw [play_cons, if_pos hcall]
      exact ih (h.perform call hcall)

/-- After any calls a session is on the timeline that it began, where its cursor says; the
number of entries in its history is the depth of the cursor, and a step can be taken back
unless that is zero. For a program from an assembler none of the calls faults. -/
theorem Begun.timeline (h : session.Begun) (calls : List Call) :
    let origin := session.simulator
    let cursor := Cursor.play origin session.maxHistory calls
    let reached := (session.play calls).1
    (origin.program.WellFormed → origin.state.latches.WellFormed →
        (session.play calls).2 = none) ∧
      ((session.play calls).2 = none →
        At origin session.maxHistory cursor reached ∧
          reached.historyDepth = cursor.depth ∧
          (reached.stepBack = none ↔ cursor.depth = 0)) := by
  intro origin cursor reached
  refine ⟨?_, ?_⟩
  · intro hprogram hlatches
    exact h.at_start.fault_play (Simulator.fault_clocked_of_wellFormed hprogram hlatches) calls
  · intro hfault
    have hreached : At origin session.maxHistory cursor reached := h.at_start.play calls hfault
    exact ⟨hreached, hreached.historyDepth_eq, hreached.stepBack_eq_none_iff⟩

/-- Three cycles of the countdown, one of them taken back, and two more behind a text that is
refused, of which the last is taken back. -/
def stepAndUndoCalls : List Call :=
  [.run 3, .stepBack, .load "ADD" (by decide +kernel), .step, .step, .run (-1), .stepBack]

/-- With room for two entries one is left, since the oldest had to go. -/
theorem timeline_stepAndUndo :
    let start := Session.ofSimulator Simulator.countdown (some 2)
    start.Begun ∧ Simulator.countdown.program.WellFormed ∧
      Simulator.countdown.state.latches.WellFormed ∧ (start.play stepAndUndoCalls).2 = none ∧
      (start.play stepAndUndoCalls).1.simulator = Simulator.countdown.clocked 3 ∧
      (start.play stepAndUndoCalls).1.history = [entry Simulator.countdown 2] := by
  intro start
  have hbegun : start.Begun := .make _ _
  have hprogram := Simulator.ready_countdown.tracks.1.formed
  have hempty : Simulator.countdown.state.latches = {} := by decide +kernel
  have hlatches : Simulator.countdown.state.latches.WellFormed := by
    rw [hempty]
    exact Latches.wellFormed_empty
  obtain ⟨hsafe, hat⟩ := hbegun.timeline stepAndUndoCalls
  have hfault := hsafe hprogram hlatches
  have hcursor : Cursor.play Simulator.countdown (some 2) stepAndUndoCalls = ⟨3, 1⟩ := by
    decide +kernel
  have hreached : At Simulator.countdown (some 2) ⟨3, 1⟩ (start.play stepAndUndoCalls).1 :=
    hcursor ▸ (hat hfault).1
  refine ⟨hbegun, hprogram, hlatches, hfault, hreached.simulator, ?_⟩
  exact List.reverse_eq_iff.1 hreached.history

end Session

end FiveStage
