import FiveStage.Proofs.Asm.Address
import FiveStage.Proofs.Asm.Outcomes

/-!
# Texts without a listing

Everything that can be wrong with a statement is a diagnostic, with one exception. The offset of
a load or store is read as far as its shape goes before it is asked for its value, and it may not
have one: white space other than plain spaces may stand behind its sign, and there may be more
decimal digits than are read. Then assembling ends in a fault.

`Statement.Valueless` says of which statements this is true, and a text has a listing exactly if
none of its statements is such a one (`exists_listing_iff`). A branch target with the same
mistake is a diagnostic.
-/

namespace FiveStage.Asm

open Text

/-! ## Operands -/

variable {fault : Fault} {token text : List Char}

/-- What is read in order faults where the first part faults that does not have its value. -/
theorem bind_eq_fault_iff {α β : Type} {first : Except Refusal α} {next : α → Except Refusal β} :
    first >>= next = .error (.fault fault) ↔
      first = .error (.fault fault) ∨ ∃ a, first = .ok a ∧ next a = .error (.fault fault) := by
  cases first with
  | ok a => simp [bind, Except.bind]
  | error refusal => simp [bind, Except.bind]

@[simp] theorem map_eq_fault_iff {α β : Type} {first : Except Refusal α} {f : α → β} :
    f <$> first = .error (.fault fault) ↔ first = .error (.fault fault) := by
  cases first with
  | ok a => simp [Functor.map, Except.map]
  | error refusal => simp [Functor.map, Except.map]

theorem readRegister_eq_ok_iff {position : Nat} {token : List Char} {register : Fin 32} :
    readRegister position token = .ok register ↔ register? token = some register := by
  rw [readRegister]
  cases register? token <;> simp

@[simp] theorem readRegister_ne_fault (position : Nat) (token : List Char) (fault : Fault) :
    readRegister position token ≠ .error (.fault fault) := by
  rw [readRegister]
  cases register? token <;> simp

@[simp] theorem Target.read_ne_fault (token : List Char) (fault : Fault) :
    Target.read token ≠ .error (.fault fault) := by
  rw [Target.read]
  split
  · simp
  · cases Numeral.compact? token <;> simp

/-- The token is spelled as an address, but its offset stands for no integer. -/
def Address.Valueless (token : List Char) : Prop :=
  ∃ numeral base, Shaped numeral base (trim token) ∧ numeral.Valueless

/-- The token is spelled as an address with a certain fault in its offset. -/
def Address.FaultsAs (token : List Char) (fault : Fault) : Prop :=
  ∃ numeral base, Shaped numeral base (trim token) ∧ numeral.FaultsAs fault

theorem Address.valueless_iff : Valueless token ↔ ∃ fault, FaultsAs token fault := by
  simp only [Valueless, FaultsAs, Numeral.valueless_iff]
  constructor
  · rintro ⟨numeral, base, hshaped, fault, hfault⟩
    exact ⟨fault, numeral, base, hshaped, hfault⟩
  · rintro ⟨fault, numeral, base, hshaped, hfault⟩
    exact ⟨numeral, base, hshaped, fault, hfault⟩

theorem Address.read_eq_fault_iff :
    Address.read token = .error (.fault fault) ↔ Address.FaultsAs token fault := by
  have hhead := not_isBlank_head_trim token
  rw [Address.read]
  constructor
  · intro hread
    split at hread
    · simp at hread
    · rename_i numeral base hsplit
      refine ⟨numeral, base, (split?_eq_some_iff hhead).1 hsplit, ?_⟩
      split at hread
      · rename_i hvalue
        simp only [Except.error.injEq, Refusal.fault.injEq] at hread
        rw [← hread]
        exact Numeral.value_eq_error_iff.1 hvalue
      · split at hread <;> simp at hread
  · rintro ⟨numeral, base, hshaped, hfault⟩
    rw [(split?_eq_some_iff hhead).2 hshaped]
    dsimp only
    rw [Numeral.value_eq_error_iff.2 hfault]

/-! ## Statements -/

/-- A load or store with a register that exists and an address whose offset stands for no
integer. -/
def Statement.Valueless (text : List Char) : Prop :=
  (opcode text = .lw ∨ opcode text = .sw) ∧ ∃ first address register,
    operands text = [first, address] ∧ register? first = some register ∧
      Address.Valueless address

/-- A load or store with a register that exists and a certain fault in its address. -/
def Statement.FaultsAs (text : List Char) (fault : Fault) : Prop :=
  (opcode text = .lw ∨ opcode text = .sw) ∧ ∃ first address register,
    operands text = [first, address] ∧ register? first = some register ∧
      Address.FaultsAs address fault

theorem Statement.valueless_iff : Valueless text ↔ ∃ fault, FaultsAs text fault := by
  simp only [Valueless, FaultsAs, Address.valueless_iff]
  constructor
  · rintro ⟨hopcode, first, address, register, hoperands, hregister, fault, hfault⟩
    exact ⟨fault, hopcode, first, address, register, hoperands, hregister, hfault⟩
  · rintro ⟨fault, hopcode, first, address, register, hoperands, hregister, hfault⟩
    exact ⟨hopcode, first, address, register, hoperands, hregister, fault, hfault⟩

theorem Statement.read_eq_fault_iff {opcode : Opcode} {operands : List (List Char)} :
    Statement.read opcode operands = .error (.fault fault) ↔
      (opcode = .lw ∨ opcode = .sw) ∧ ∃ first address register,
        operands = [first, address] ∧ register? first = some register ∧
          Address.FaultsAs address fault := by
  unfold Statement.read
  split
  · simp [bind_eq_fault_iff]
  · simp [bind_eq_fault_iff, readRegister_eq_ok_iff, Address.read_eq_fault_iff]
  · simp [bind_eq_fault_iff, readRegister_eq_ok_iff, Address.read_eq_fault_iff]
  · simp [bind_eq_fault_iff]
  · simp
  · simp
  · -- Another number of operands is a diagnostic.
    rename_i hload hstore _ _
    refine iff_of_false (by simp) ?_
    rintro ⟨rfl | rfl, first, address, register, hoperands, -⟩
    · exact hload first address rfl hoperands
    · exact hstore first address rfl hoperands

theorem Statement.ofText_eq_fault_iff :
    Statement.ofText text = .error (.fault fault) ↔ Statement.FaultsAs text fault :=
  Statement.read_eq_fault_iff

theorem Placed.fault?_outcome_eq_some_iff {labels : Labels} {placed : Placed} :
    (placed.outcome labels).fault? = some fault ↔ Statement.FaultsAs placed.statement fault := by
  rw [← Statement.ofText_eq_fault_iff, Placed.outcome]
  cases Statement.ofText placed.statement with
  | error refusal =>
      cases refusal with
      | problem problem => simp [Outcome.fault?]
      | fault cause => simp [Outcome.fault?]
  | ok statement =>
      dsimp only
      cases statement.instruction labels placed.pc (String.ofList placed.text) placed.line <;>
        simp [Outcome.fault?]

theorem Placed.fault?_outcome_eq_none_iff {labels : Labels} {placed : Placed} :
    (placed.outcome labels).fault? = none ↔ ¬ Statement.Valueless placed.statement := by
  rw [Statement.valueless_iff, Option.eq_none_iff_forall_ne_some, not_exists]
  exact forall_congr' fun fault => not_congr fault?_outcome_eq_some_iff

/-! ## Texts -/

/-- A text has a listing exactly if every offset in it stands for an integer. The listing then
has, for every statement, the instruction at its address or a diagnostic on its line. -/
theorem exists_listing_iff (source : String) :
    ((∃ listing, assemble source = .ok listing) ↔
        ∀ placed ∈ (Layout.ofRows (rows source)).statements,
          ¬ Statement.Valueless placed.statement) ∧
      ∀ listing, assemble source = .ok listing →
        ∀ placed ∈ (Layout.ofRows (rows source)).statements,
          (∃ instruction ∈ listing.instructions,
              placed.outcome listing.labels = .instruction instruction ∧
                instruction.pc = placed.pc) ∨
            ∃ diagnostic ∈ listing.diagnostics,
              placed.outcome listing.labels = .diagnostic diagnostic ∧
                diagnostic.line = placed.line := by
  refine ⟨?_, ?_⟩
  · have hfaults : (∃ listing, assemble source = .ok listing) ↔
        ∀ outcome ∈ (Layout.ofRows (rows source)).outcomes, outcome.fault? = none := by
      constructor
      · rintro ⟨listing, hlisting⟩
        exact (Layout.listing_eq_ok_iff.1 hlisting).1
      · intro hnone
        exact ⟨_, Layout.listing_eq_ok_iff.2 ⟨hnone, rfl⟩⟩
    rw [hfaults, Layout.outcomes, List.forall_mem_map]
    constructor
    · intro hnone placed hmem
      exact Placed.fault?_outcome_eq_none_iff.1 (hnone placed (Array.mem_toList_iff.2 hmem))
    · intro hvalued placed hmem
      exact Placed.fault?_outcome_eq_none_iff.2 (hvalued placed (Array.mem_toList_iff.1 hmem))
  · intro listing hlisting placed hmem
    have hlabels : listing.labels = (Layout.ofRows (rows source)).labels := by
      rw [(Layout.listing_eq_ok_iff.1 hlisting).2]
    rw [hlabels]
    obtain ⟨instruction, hfound, houtcome⟩ | ⟨diagnostic, hfound, houtcome⟩ :=
      Layout.accounts hlisting hmem
    · exact .inl ⟨instruction, hfound, houtcome, Placed.pc_of_outcome houtcome⟩
    · exact .inr ⟨diagnostic, hfound, houtcome, Placed.line_of_outcome houtcome⟩

/-- A tab behind the sign of an offset leaves the text without a listing, though nothing else is
wrong with it. -/
theorem not_assemble_tab_behind_sign :
    assemble "LW R1, +\t4(R2)" = .error (.numeralSpelling "+\t4") ∧
      ¬ ∃ listing, assemble "LW R1, +\t4(R2)" = .ok listing := by
  have hfault : assemble "LW R1, +\t4(R2)" = .error (.numeralSpelling "+\t4") := by
    decide +kernel
  refine ⟨hfault, ?_⟩
  rintro ⟨listing, hlisting⟩
  rw [hfault] at hlisting
  contradiction

end FiveStage.Asm
