import FiveStage.Proofs.Service.Requests
import FiveStage.Service.Reading

/-!
# Payloads that were read

The reader of payloads is one that can be relied on (`Reader.reliable_ofPayloads`). A bounded field
has a value within its bounds whether it was given or left out, because the defaults pass the check
that is made on what is given. And where a payload breaks its form, the response that tells the
places is the only one (`Request.explained_ofPayloads`).
-/

namespace FiveStage.Service

namespace Checked

variable {α β : Type} {a : Checked α} {b : Checked β}

theorem map_eq_valid_iff {f : α → β} {y : β} :
    a.map f = .valid y ↔ ∃ x, a = .valid x ∧ f x = y := by
  cases a <;> simp [map]

theorem both_eq_valid_iff {x : α} {y : β} :
    a.both b = .valid (x, y) ↔ a = .valid x ∧ b = .valid y := by
  cases a <;> cases b <;> simp [both]

theorem under_eq_valid_iff {name : String} {x : α} : a.under name = .valid x ↔ a = .valid x := by
  cases a <;> simp [under]

theorem ofOption_eq_valid_iff {value : Option α} {x : α} :
    ofOption value = .valid x ↔ value = some x := by
  cases value <;> simp [ofOption]

theorem response_eq_ok_iff {x : α} : a.response = .ok x ↔ a = .valid x := by
  cases a <;> simp [Checked.response]

/-- A refusal tells the places where the form is broken. -/
theorem exists_of_response_eq_error {response : Response} (h : a.response = .error response) :
    ∃ locations, response = .unprocessable locations := by
  cases a with
  | valid value => contradiction
  | invalid locations =>
      cases h
      exact ⟨_, rfl⟩

end Checked

open Checked

variable {fields : List (String × Payload)} {name : String} {low high default value : Int}

theorem inRange_of_readBounded {payload : Payload}
    (h : readBounded low high payload = .valid value) : low ≤ value ∧ value ≤ high := by
  rw [readBounded, ofOption_eq_valid_iff, Option.filter_eq_some_iff] at h
  exact of_decide_eq_true h.2

/-- A field has a value within its bounds if its default is. -/
theorem inRange_of_fieldD (hdefault : low ≤ default ∧ default ≤ high)
    (h : fieldD fields name default (readBounded low high) = .valid value) :
    low ≤ value ∧ value ≤ high := by
  unfold fieldD at h
  split at h
  · injection h with h
    exact h ▸ hdefault
  · exact inRange_of_readBounded (under_eq_valid_iff.1 h)

/-- A field that may be left out has its default or a value that was read. -/
theorem eq_or_exists_of_fieldD {α : Type} {initial result : α} {read : Payload → Checked α}
    (h : fieldD fields name initial read = .valid result) :
    result = initial ∨ ∃ payload, read payload = .valid result := by
  unfold fieldD at h
  split at h
  · injection h with h
    exact .inl h.symm
  · exact .inr ⟨_, under_eq_valid_iff.1 h⟩

theorem exists_of_nullable {α : Type} {result : α} {read : Payload → Checked α} {payload : Payload}
    (h : nullable read payload = .valid (some result)) :
    ∃ payload, read payload = .valid result := by
  unfold nullable at h
  split at h
  · cases h
  · obtain ⟨_, hread, heq⟩ := map_eq_valid_iff.1 h
    cases heq
    exact ⟨_, hread⟩

theorem RunOptions.inRange_of_read {payload : Payload} {options : RunOptions}
    (h : RunOptions.read payload = .valid options) : options.InRange := by
  unfold RunOptions.read at h
  split at h
  · rw [map_eq_valid_iff] at h
    obtain ⟨⟨⟨⟨memorySize, maxCycles⟩, trace⟩, registers, memory⟩, hread, rfl⟩ := h
    obtain ⟨hlimits, -⟩ := both_eq_valid_iff.1 hread
    obtain ⟨hsizes, -⟩ := both_eq_valid_iff.1 hlimits
    obtain ⟨hmemory, hcycles⟩ := both_eq_valid_iff.1 hsizes
    exact ⟨inRange_of_fieldD inRange_default.memorySize hmemory,
      inRange_of_fieldD inRange_default.maxCycles hcycles⟩
  · contradiction

/-- Options are within their bounds whether they were given, left out or null. -/
theorem RunForm.inRange_of_read {body : Option Payload} {form : RunForm}
    (h : RunForm.read body = .valid form) : form.options.InRange := by
  unfold RunForm.read at h
  split at h
  · rw [under_eq_valid_iff, map_eq_valid_iff] at h
    obtain ⟨⟨program, options⟩, hread, rfl⟩ := h
    obtain ⟨-, hoptions⟩ := both_eq_valid_iff.1 hread
    cases options with
    | none => exact RunOptions.inRange_default
    | some options =>
        obtain hnone | ⟨payload, hpayload⟩ := eq_or_exists_of_fieldD hoptions
        · contradiction
        · obtain ⟨given, hgiven⟩ := exists_of_nullable hpayload
          exact RunOptions.inRange_of_read hgiven
  · contradiction

theorem SessionForm.inRange_of_read {body : Option Payload} {form : SessionForm}
    (h : SessionForm.read body = .valid form) : form.InRange := by
  unfold SessionForm.read at h
  split at h
  · rename_i fields
    rw [under_eq_valid_iff, map_eq_valid_iff] at h
    obtain ⟨⟨⟨program, sample⟩, memorySize, maxHistory⟩, hread, rfl⟩ := h
    obtain ⟨-, hlimits⟩ := both_eq_valid_iff.1 hread
    obtain ⟨hmemory, hhistory⟩ := both_eq_valid_iff.1 hlimits
    exact ⟨inRange_of_fieldD inRange_default.memorySize hmemory,
      inRange_of_fieldD inRange_default.maxHistory hhistory⟩
  · contradiction

/-- What the reader of payloads gives is within the bounds of its form. -/
theorem Reader.reliable_ofPayloads : Reader.ofPayloads.Reliable where
  run := fun _ _ hread => RunForm.inRange_of_read (response_eq_ok_iff.1 hread)
  session := fun _ _ hread => SessionForm.inRange_of_read (response_eq_ok_iff.1 hread)
  refused := by
    intro body response hread
    obtain ⟨locations, rfl⟩ := exists_of_response_eq_error hread
    simp

/-- A payload is refused by telling where it breaks its form. -/
theorem Request.explained_ofPayloads (request : Request (Option Payload)) :
    request.Explained .ofPayloads := by
  intro response hrefusal
  cases request with
  | run body =>
      cases hread : Reader.ofPayloads.run body with
      | error refused =>
          rw [Request.refusal?, hread] at hrefusal
          cases hrefusal
          exact exists_of_response_eq_error hread
      | ok form =>
          rw [Request.refusal?, hread] at hrefusal
          contradiction
  | create body =>
      cases hread : Reader.ofPayloads.session body with
      | error refused =>
          rw [Request.refusal?, hread] at hrefusal
          cases hrefusal
          exact exists_of_response_eq_error hread
      | ok form =>
          rw [Request.refusal?, hread] at hrefusal
          contradiction
  | _ => contradiction

end FiveStage.Service
