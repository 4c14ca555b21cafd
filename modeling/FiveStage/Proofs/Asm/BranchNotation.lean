import FiveStage.Proofs.Asm.Faults
import FiveStage.Proofs.Asm.LastOperand
import FiveStage.Proofs.Asm.Locality
import Mathlib.Algebra.Group.Nat.Defs

/-!
# The two notations of a branch target

A branch target is written as a label or as a number of words beyond the next instruction. Either is
turned into both, in opposite directions: an address into words by a division, and words into an
address by a product. Nothing is lost on the way, since labels and branches are at multiples of four
(`Target.address_resolve`).

So the number that a label was turned into can be written in its place, and nothing of the listing
changes but the text of the line that is shown (`assemble_withTarget`).
-/

namespace FiveStage.Asm

open Text

/-! ## Numerals -/

theorem spellsMagnitude_toDigits {n : Nat} (h : n < 10 ^ digitLimit) :
    SpellsMagnitude n (Nat.toDigits 10 n) := by
  have hdigits : ∀ c ∈ Nat.toDigits 10 n, c.isDigit = true := fun c hc =>
    Nat.isDigit_of_mem_toDigits (by decide) (by decide) hc
  refine .decimal ?_ ?_ ?_ ?_
  · exact List.ne_nil_of_length_pos Nat.length_toDigits_pos
  · intro c hc
    rw [isDigit, digitValue?_of_isDigit (hdigits c hc)]
    rfl
  · have hlength : (Nat.toDigits 10 n).length ≤ digitLimit :=
      (Nat.length_toDigits_le_iff (by decide) (by decide)).2 h
    exact hlength
  · rw [decimalValue_eq_ofDigitChars hdigits, Nat.ofDigitChars_toDigits (by decide) (by decide)]

/-- An integer that is not too long is spelled by its decimal numeral. -/
theorem spellsInteger_toString {n : Int} (h : n.natAbs < 10 ^ digitLimit) :
    SpellsInteger 0 n (toString n).toList := by
  cases n with
  | ofNat n =>
      have hspells : SpellsInteger 0 n _ := .unsigned (spellsMagnitude_toDigits h)
      rw [← Nat.toList_repr] at hspells
      exact hspells
  | negSucc n =>
      have hspells : SpellsInteger 0 _ _ := .minus (spellsMagnitude_toDigits h)
      rw [Int.natAbs_negSucc, ← Nat.toList_repr] at hspells
      rw [Int.toString_eq_repr, Int.repr, String.toList_append]
      exact hspells

/-! ## Targets -/

/-- The address of a target is as many words beyond the next instruction as the target says. -/
theorem Target.address_resolve {labels : Labels} {pc words address : Int} {target : Target}
    (hlabels : labels.Aligned) (hpc : 4 ∣ pc)
    (h : target.resolve labels pc = .ok (words, address)) : address = pc + 4 + 4 * words := by
  have haligned := aligned_resolve hlabels hpc h
  cases target with
  | offset offset =>
      simp only [resolve, Except.ok.injEq, Prod.mk.injEq] at h
      omega
  | label name =>
      simp only [resolve] at h
      split at h
      · simp only [Except.ok.injEq, Prod.mk.injEq] at h
        omega
      · contradiction

theorem Statement.read_branch_eq_ok_iff {rs rt target : List Char} {statement : Statement} :
    Statement.read .beq [rs, rt, target] = .ok statement ↔
      ∃ first second destination, readRegister 1 rs = .ok first ∧ readRegister 2 rt = .ok second ∧
        Target.read target = .ok destination ∧ statement = .branch first second destination := by
  rw [Statement.read]
  cases readRegister 1 rs <;> cases readRegister 2 rt <;> cases Target.read target <;>
    simp [bind, Except.bind, pure, Except.pure, eq_comm]

/-- A branch has the words and the address that its target resolves to. -/
theorem Statement.exists_resolve {statement : Statement} {labels : Labels} {pc : Int}
    {text : String} {line : Nat} {instruction : Instruction}
    (h : statement.instruction labels pc text line = .ok instruction)
    (hopcode : instruction.opcode = .beq) :
    ∃ rs rt target words address, statement = .branch rs rt target ∧
      target.resolve labels pc = .ok (words, address) ∧
        instruction.immediate = some words ∧ instruction.target = some address := by
  cases statement with
  | branch rs rt target =>
      simp only [Statement.instruction] at h
      split at h
      · rename_i words address hresolve
        injection h with h
        rw [← h]
        exact ⟨rs, rt, target, words, address, rfl, hresolve, rfl, rfl⟩
      · contradiction
  | _ =>
      injection h with h
      rw [← h] at hopcode
      contradiction

/-- The text of an instruction is not looked at. -/
theorem Statement.instruction_retext (statement : Statement) (labels : Labels) (pc : Int)
    (text other : String) (line : Nat) :
    statement.instruction labels pc other line =
      (statement.instruction labels pc text line).map fun i => { i with text := other } := by
  cases statement with
  | branch rs rt target =>
      simp only [instruction]
      split <;> rfl
  | _ => rfl

/-- A branch to a target is the branch to the words that the target resolves to. -/
theorem Statement.instruction_branch {labels : Labels} {pc words address : Int} {target : Target}
    (hresolve : target.resolve labels pc = .ok (words, address))
    (haddress : address = pc + 4 + 4 * words) (rs rt : Fin 32) (text : String) (line : Nat) :
    (branch rs rt (.offset words)).instruction labels pc text line =
      (branch rs rt target).instruction labels pc text line := by
  have hoffset : (Target.offset words).resolve labels pc = target.resolve labels pc := by
    rw [hresolve, Target.resolve, haddress, Int.mul_comm]
  simp only [instruction, hoffset]

theorem Placed.outcome_of_statement {labels : Labels} {placed : Placed} {statement : Statement}
    {instruction : Instruction} (hread : Statement.ofText placed.statement = .ok statement)
    (hdecoded : statement.instruction labels placed.pc (String.ofList placed.text) placed.line =
      .ok instruction) : placed.outcome labels = .instruction instruction := by
  rw [Placed.outcome, hread]
  dsimp only
  rw [hdecoded]

/-! ## Lines -/

/-- The line has a branch whose target is written as a label. -/
structure SourceLine.BranchesTo (line : SourceLine) (label : List Char) : Prop where
  opcode : Statement.opcode (trim line.body) = .beq
  operands : ∃ rs rt, Statement.operands (trim line.body) = [rs, rt, label]
  identifier : isIdentifier label = true

/-- The line with another token for the last operand of its statement. -/
def SourceLine.withTarget (line : SourceLine) (token : List Char) : SourceLine :=
  line.withBody (withLastWord line.body token)

/-- The text with another token for the last operand on one of its lines, counted from zero. -/
def withTarget (source : String) (k : Nat) (token : List Char) : String :=
  modifyLine source k (·.withTarget token)

section

variable {line : SourceLine} {label token : List Char}

theorem SourceLine.mem_code_of_mem_body {c : Char} (h : c ∈ line.body) : c ∈ line.code := by
  rw [← front_append_body]
  exact List.mem_append_right _ h

/-- A token may be written on any line without getting in the way of its other parts. -/
theorem SourceLine.admits_withLastWord (htoken : IsToken token) (hline : '\n' ∉ line) :
    line.Admits (withLastWord line.body token) := by
  have hinherited : ∀ {c : Char}, isMark c = true → c ∉ line.code →
      c ∉ withLastWord line.body token := by
    intro c hmark hcode hmem
    obtain hbody | htok := mem_withLastWord hmem
    · exact hcode (mem_code_of_mem_body hbody)
    · rw [htoken.whole c htok] at hmark
      contradiction
  constructor
  case nonblank =>
    obtain ⟨c, tail, hcons⟩ := List.exists_cons_of_ne_nil htoken.trimmed.ne_nil
    have hhead : isBlank c = false := htoken.trimmed.head c (by rw [hcons]; rfl)
    refine fun hblank => notMem_of_blank hhead hblank ?_
    rw [withLastWord, hcons]
    simp
  case inline =>
    apply hinherited (by decide)
    intro hmem
    rw [← code_append_comment line] at hline
    exact hline (List.mem_append_left _ hmem)
  case uncommented => exact hinherited (by decide) line.hash_notMem_code
  case unlabelled => exact hinherited (by decide)

theorem isSeparator_of_isIdentifier (h : isIdentifier label = true) :
    ∀ c ∈ label, isSeparator c = false := by
  intro c hc
  have hordinary := isOrdinary_of_isIdentifier h c hc
  have hmark := isMark_of_isOrdinary hordinary
  rw [isMark, Bool.or_eq_false_iff] at hmark
  rw [isSeparator, isBlank_of_isOrdinary hordinary, hmark.1]
  rfl

theorem SourceLine.BranchesTo.lastWord_eq (h : line.BranchesTo label) :
    lastWord line.body = label := by
  obtain ⟨rs, rt, hoperands⟩ := h.operands
  have hlast : Statement.operands (trim line.body) = [rs, rt] ++ [label] := hoperands
  exact (operands_withLastWord hlast (isSeparator_of_isIdentifier h.identifier)).1

/-- If the branch is read, then so is the one with another target, with the same registers. -/
theorem SourceLine.BranchesTo.exists_branch (h : line.BranchesTo label) (hline : '\n' ∉ line)
    {statement : Statement} (hread : Statement.ofText (trim line.body) = .ok statement) :
    ∃ rs rt, statement = .branch rs rt (.label (String.ofList label)) ∧
      ∀ token target, IsToken token → Target.read token = .ok target →
        Statement.ofText (trim (line.withTarget token).body) = .ok (.branch rs rt target) := by
  obtain ⟨rs, rt, hoperands⟩ := h.operands
  rw [Statement.ofText, h.opcode, hoperands, Statement.read_branch_eq_ok_iff] at hread
  obtain ⟨first, second, destination, hfirst, hsecond, hdestination, rfl⟩ := hread
  rw [Target.read, if_pos h.identifier] at hdestination
  injection hdestination with hdestination
  refine ⟨first, second, by rw [hdestination], ?_⟩
  intro token target htoken htarget
  have hlast : Statement.operands (trim line.body) = [rs, rt] ++ [label] := hoperands
  obtain ⟨hopcode, hchanged⟩ :=
    (operands_withLastWord hlast (isSeparator_of_isIdentifier h.identifier)).2 token htoken
  rw [SourceLine.withTarget, (admits_withLastWord htoken hline).parts.2, Statement.ofText, hopcode,
    h.opcode, hchanged]
  exact Statement.read_branch_eq_ok_iff.2 ⟨first, second, target, hfirst, hsecond, htarget, rfl⟩

variable {before : List SourceLine} {labels : Labels} {instruction : Instruction} {words : Int}

/-- A statement is at a multiple of four. -/
theorem SourceLine.dvd_pc_placed (line : SourceLine) (before : List SourceLine) :
    (4 : Int) ∣ (line.placed before).pc :=
  Int.natCast_dvd_natCast.2 (Nat.dvd_mul_right 4 _)

/-- A branch to a label goes where the label is. -/
theorem SourceLine.BranchesTo.decoded (h : line.BranchesTo label) (hline : '\n' ∉ line)
    (houtcome : (line.placed before).outcome labels = .instruction instruction) :
    instruction.opcode = .beq ∧ ∃ address : Nat,
      Target.address? labels (String.ofList label) = some address ∧
        instruction.target = some (address : Int) := by
  obtain ⟨statement, hread, hdecoded⟩ := Placed.exists_statement_of_outcome houtcome
  obtain ⟨rs, rt, rfl, -⟩ := h.exists_branch hline hread
  simp only [Statement.instruction, Target.resolve] at hdecoded
  cases haddress : Target.address? labels (String.ofList label) with
  | none =>
      rw [haddress] at hdecoded
      contradiction
  | some address =>
      rw [haddress] at hdecoded
      injection hdecoded with hdecoded
      rw [← hdecoded]
      exact ⟨rfl, address, rfl, rfl⟩

/-- With its words for the label, the branch gives the same instruction but for the text. -/
theorem SourceLine.BranchesTo.outcome_withTarget (h : line.BranchesTo label) (hline : '\n' ∉ line)
    (hlabels : labels.Aligned)
    (houtcome : (line.placed before).outcome labels = .instruction instruction)
    (hwords : instruction.immediate = some words) (htoken : SpellsInteger 0 words token) :
    ((line.withTarget token).placed before).outcome labels =
      .instruction { instruction with
        text := String.ofList (trim (line.withTarget token).code) } := by
  have hopcode := (h.decoded hline houtcome).1
  obtain ⟨statement, hread, hdecoded⟩ := Placed.exists_statement_of_outcome houtcome
  obtain ⟨rs, rt, rfl, hchanged⟩ := h.exists_branch hline hread
  obtain ⟨_, _, target, _, address, hbranch, hresolve, himmediate, -⟩ :=
    Statement.exists_resolve hdecoded hopcode
  obtain ⟨-, -, rfl⟩ := Statement.branch.inj hbranch
  obtain rfl := Option.some.inj (hwords.symm.trans himmediate)
  have haddress := Target.address_resolve hlabels (line.dvd_pc_placed before) hresolve
  have hoffset := hchanged token _ (isToken_integer htoken) (read_target_of_spells (.offset htoken))
  have hretext : (Statement.branch rs rt (.offset words)).instruction labels
      (line.placed before).pc (String.ofList (trim (line.withTarget token).code))
      (line.placed before).line =
        .ok { instruction with text := String.ofList (trim (line.withTarget token).code) } := by
    rw [Statement.instruction_branch hresolve haddress,
      Statement.instruction_retext _ _ _ (String.ofList (line.placed before).text), hdecoded]
    rfl
  exact Placed.outcome_of_statement hoffset hretext

end

/-! ## Texts -/

/-- The listing with another text for what is on one line. -/
def Listing.retext (listing : Listing) (number : Nat) (text : String) : Listing :=
  { listing with
    instructions := listing.instructions.map fun instruction =>
      if instruction.line = some (number : Int) then { instruction with text } else instruction }

section

variable {source : String} {listing : Listing} {instruction : Instruction} {k : Nat}
  {line : SourceLine} {label token : List Char} {words : Int}

/-- An instruction is alone on its line. -/
theorem retext_instructions {before behind : List Instruction} {number : Nat} {text : String}
    (hline : instruction.line = some (number : Int))
    (hpairwise : (before ++ instruction :: behind).Pairwise Instruction.Precedes) :
    ((before ++ instruction :: behind).map fun i =>
        if i.line = some (number : Int) then { i with text } else i) =
      before ++ { instruction with text } :: behind := by
  obtain ⟨-, hbehind, hbefore⟩ := List.pairwise_append.1 hpairwise
  have hsame : ∀ {others : List Instruction}, (∀ i ∈ others, i.line ≠ some (number : Int)) →
      (others.map fun i => if i.line = some (number : Int) then { i with text } else i) =
        others := by
    intro others hothers
    refine (List.map_congr_left fun i hi => ?_).trans (List.map_id others)
    exact if_neg (hothers i hi)
  rw [List.map_append, List.map_cons, if_pos hline, hsame, hsame]
  · intro i hi
    rw [← hline]
    exact ((List.pairwise_cons.1 hbehind).1 i hi).line_ne.symm
  · intro i hi
    rw [← hline]
    exact (hbefore i hi instruction List.mem_cons_self).line_ne

theorem aligned_of_assemble (h : assemble source = .ok listing) : listing.labels.Aligned := by
  obtain ⟨-, rfl⟩ := Layout.listing_eq_ok_iff.1 h
  exact Layout.aligned_ofRows (rows source)

/-- The words that a label stands for may be written in its place. Nothing but a text that is shown
is another one then. -/
theorem assemble_withTarget (h : assemble source = .ok listing)
    (hline : (lines source)[k]? = some line) (hbranch : line.BranchesTo label)
    (hstatement : line.hasStatement = true)
    (houtcome : (line.placed ((lines source).take k)).outcome listing.labels =
      .instruction instruction)
    (hwords : instruction.immediate = some words) (htoken : SpellsInteger 0 words token) :
    assemble (withTarget source k token) =
      .ok (listing.retext (k + 1) (String.ofList (trim (line.withTarget token).code))) := by
  have hinline := newline_notMem_of_mem_lines (List.mem_of_getElem? hline)
  have hadmits := SourceLine.admits_withLastWord (isToken_integer htoken) hinline
  have hnumber := (Placed.place_of_outcome houtcome).2
  rw [SourceLine.placed, List.length_take_of_le (List.getElem?_eq_some_iff.1 hline).1.le] at hnumber
  have hchanged := hbranch.outcome_withTarget hinline (aligned_of_assemble h) houtcome hwords htoken
  have hpairwise := (accounts_outcomes h).pairwise_instructions
  obtain ⟨hsame, hdiagnostics, front, behind, -, hold, hnew⟩ :=
    (hadmits.akin hstatement).exchanges_modifyLine (·.withTarget token) hline
      (hadmits.inline_withBody hinline) hstatement
  change (Layout.ofRows (rows (withTarget source k token))).labels = _ at hsame
  change (Layout.ofRows (rows (withTarget source k token))).diagnostics = _ at hdiagnostics
  change (Layout.ofRows (rows (withTarget source k token))).outcomes = _ at hnew
  obtain ⟨hsound, rfl⟩ := Layout.listing_eq_ok_iff.1 h
  rw [houtcome] at hold
  rw [hchanged] at hnew
  have hinstructions : (front ++ Outcome.instruction instruction :: behind).filterMap
      Outcome.instruction? = front.filterMap Outcome.instruction? ++
        instruction :: behind.filterMap Outcome.instruction? := by
    rw [List.filterMap_append, List.filterMap_cons]
    rfl
  rw [hold] at hsound
  rw [hold, hinstructions] at hpairwise
  rw [assemble, Layout.listing_eq_ok_iff, hnew, hsame, hdiagnostics]
  refine ⟨?_, ?_⟩
  · rw [List.forall_mem_append, List.forall_mem_cons] at hsound ⊢
    exact ⟨hsound.1, rfl, hsound.2.2⟩
  · simp only [Listing.retext, hold, hinstructions, retext_instructions hnumber hpairwise]
    simp only [List.filterMap_append, List.filterMap_cons, Outcome.instruction?,
      Outcome.diagnostic?]

/-- A branch goes to an instruction's place, as many words beyond the next one as it says. -/
theorem target_of_branch (h : assemble source = .ok listing)
    (hmem : instruction ∈ listing.instructions) (hopcode : instruction.opcode = .beq) :
    ∃ words, instruction.immediate = some words ∧
      instruction.target = some (instruction.pc + 4 + 4 * words) ∧
        4 ∣ instruction.pc + 4 + 4 * words := by
  obtain ⟨k, line, -, -, -, houtcome⟩ := exists_placed_of_mem h hmem
  obtain ⟨statement, -, hdecoded⟩ := Placed.exists_statement_of_outcome houtcome
  obtain ⟨_, _, target, words, address, -, hresolve, himmediate, htarget⟩ :=
    Statement.exists_resolve hdecoded hopcode
  have hpc := line.dvd_pc_placed ((lines source).take k)
  have haddress := Target.address_resolve (aligned_of_assemble h) hpc hresolve
  rw [← Placed.pc_of_outcome houtcome] at haddress hpc
  refine ⟨words, himmediate, by rw [htarget, haddress], ?_⟩
  omega

/-- No label is beyond the last statement. -/
theorem le_of_address? (h : assemble source = .ok listing) {name : String} {address : Nat}
    (hfound : Target.address? listing.labels name = some address) :
    address ≤ 4 * statementCount (lines source) := by
  have hlabels := (accounts_outcomes h).labels
  have hdefined : ∃ entry ∈ listing.labels.toList, entry.2 = address := by
    obtain hcapital | ⟨-, hwritten⟩ := Option.or_eq_some_iff.1 hfound
    · exact Labels.exists_mem_of_address? hcapital
    · exact Labels.exists_mem_of_address? hwritten
  obtain ⟨entry, hentry, rfl⟩ := hdefined
  rw [hlabels] at hentry
  exact le_of_mem_definitions hentry

/-- A line with a statement is one of those that are counted. -/
theorem statementCount_take_lt {ls : List SourceLine} (hline : ls[k]? = some line)
    (hstatement : line.hasStatement = true) : statementCount (ls.take k) < statementCount ls := by
  obtain ⟨hk, rfl⟩ := List.getElem?_eq_some_iff.1 hline
  conv_rhs => rw [← List.take_append_drop k ls, List.drop_eq_getElem_cons hk]
  rw [statementCount, statementCount, List.countP_append, List.countP_cons, if_pos hstatement]
  omega

end

end FiveStage.Asm
