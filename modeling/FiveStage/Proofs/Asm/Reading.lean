import FiveStage.Proofs.Asm.Address
import FiveStage.Proofs.Asm.Grammar

/-!
# Reading statements back

Every spelling of an operand, and with the operands every spelling of a statement, is read
back as what it spells. A token can be told from its surroundings because it starts and ends
with something else than white space and has no comma, colon or number sign in it
(`IsToken`); `ofText_of_spells` puts the parts together.
-/

namespace FiveStage.Asm

open Text

/-- The characters that end a statement, a label or a line. -/
def isBreak (c : Char) : Bool := c == ':' || c == '#' || c == '\n'

/-- The characters that end a token. -/
def isMark (c : Char) : Bool := c == ',' || isBreak c

/-- A text that stays in one piece: nothing cuts it and its ends are not trimmed. -/
structure IsToken (s : List Char) : Prop where
  trimmed : Trimmed s
  whole : ∀ c ∈ s, isMark c = false

variable {s t rest token : List Char}

/-! ## Characters -/

theorem isBreak_of_isMark {c : Char} (h : isMark c = false) : isBreak c = false := by
  rw [isMark, Bool.or_eq_false_iff] at h
  exact h.2

theorem isMark_of_isOrdinary {c : Char} (h : isOrdinary c = true) : isMark c = false := by
  have hblank := isBlank_of_isOrdinary h
  rw [isOrdinary, Bool.not_eq_true'] at h
  simp only [Bool.or_eq_false_iff] at h
  obtain ⟨⟨⟨⟨⟨-, hcomma⟩, hcolon⟩, hsign⟩, -⟩, -⟩ := h
  have hline : (c == '\n') = false := by
    rw [beq_eq_false_iff_ne]
    rintro rfl
    exact absurd hblank (by decide)
  rw [isMark, isBreak, hcomma, hcolon, hsign, hline]
  rfl

theorem IsGap.isMark (h : IsGap s) : ∀ c ∈ s, isMark c = false := by
  intro c hc
  have hblank := h.blank c hc
  have hline : c ≠ '\n' := fun heq => h.inline (heq ▸ hc)
  simp only [Asm.isMark, isBreak, Bool.or_eq_false_iff, beq_eq_false_iff_ne]
  refine ⟨?_, ⟨?_, ?_⟩, hline⟩
  · rintro rfl
    exact absurd hblank (by decide)
  · rintro rfl
    exact absurd hblank (by decide)
  · rintro rfl
    exact absurd hblank (by decide)

theorem IsGap.isBreak (h : IsGap s) : ∀ c ∈ s, isBreak c = false := fun c hc =>
  isBreak_of_isMark (h.isMark c hc)

theorem isGap_replicate (n : Nat) : IsGap (List.replicate n ' ') where
  blank c hc := by
    rw [List.eq_of_mem_replicate hc]
    decide
  inline hmem := absurd (List.eq_of_mem_replicate hmem) (by decide)

theorem IsToken.of_ordinary (hne : s ≠ []) (h : ∀ c ∈ s, isOrdinary c = true) : IsToken s where
  trimmed := .of_forall hne fun c hc => isBlank_of_isOrdinary (h c hc)
  whole c hc := isMark_of_isOrdinary (h c hc)

theorem toNat_lt_of_isUpper {c : Char} (h : c.isUpper = true) : c.toNat < 128 := by
  have hle : c.val ≤ 'Z'.val := (of_decide_eq_true h).2
  exact Nat.lt_of_le_of_lt (UInt32.le_iff_toNat_le.1 hle) (by decide)

/-- Letters, digits and the underscore are in ASCII. -/
theorem of_isWordChar {p : Char → Bool}
    (h : ∀ n < 128, ((Char.ofNat n).isAlphanum || Char.ofNat n == '_') = true →
      p (Char.ofNat n) = true) {c : Char} (hc : (c.isAlphanum || c == '_') = true) :
    p c = true := by
  have hrange : ∀ {low high : UInt32}, (c.val ≥ low && c.val ≤ high) = true →
      high.toNat < 128 → c.toNat < 128 := by
    intro low high hwithin hhigh
    have hle : c.val ≤ high := of_decide_eq_true (Bool.and_eq_true_iff.1 hwithin).2
    exact Nat.lt_of_le_of_lt (UInt32.le_iff_toNat_le.1 hle) hhigh
  have hbound : c.toNat < 128 := by
    rcases Bool.or_eq_true_iff.1 hc with halphanum | hscore
    · rcases Bool.or_eq_true_iff.1 halphanum with halpha | hdigit
      · rcases Bool.or_eq_true_iff.1 halpha with hcapital | hsmall
        · exact toNat_lt_of_isUpper hcapital
        · exact hrange hsmall (by decide)
      · exact hrange hdigit (by decide)
    · rw [beq_iff_eq.1 hscore]
      decide
  exact of_ascii (p := fun c => (c.isAlphanum || c == '_') = true → p c = true) h hbound hc

theorem isWordChar_of_isIdentifier (h : isIdentifier s = true) :
    ∀ c ∈ s, (c.isAlphanum || c == '_') = true := by
  cases s with
  | nil => contradiction
  | cons first s =>
      rw [isIdentifier, Bool.and_eq_true, List.all_eq_true] at h
      intro c hc
      rcases List.mem_cons.1 hc with rfl | hc
      · rcases Bool.or_eq_true_iff.1 h.1 with hletter | hscore
        · exact Bool.or_eq_true_iff.2 (.inl (Bool.or_eq_true_iff.2 (.inl hletter)))
        · rw [hscore, Bool.or_true]
      · exact h.2 c hc

theorem isOrdinary_of_isIdentifier (h : isIdentifier s = true) :
    ∀ c ∈ s, isOrdinary c = true := fun c hc =>
  of_isWordChar (by decide +kernel) (isWordChar_of_isIdentifier h c hc)

theorem IsToken.isBreak (h : IsToken s) : ∀ c ∈ s, isBreak c = false := fun c hc =>
  isBreak_of_isMark (h.whole c hc)

theorem IsToken.append (hs : IsToken s) (ht : IsToken t) {middle : List Char}
    (hmiddle : ∀ c ∈ middle, isMark c = false) : IsToken (s ++ middle ++ t) where
  trimmed := hs.trimmed.append ht.trimmed middle
  whole := by
    rw [List.forall_mem_append, List.forall_mem_append]
    exact ⟨⟨hs.whole, hmiddle⟩, ht.whole⟩

theorem isToken_of_isIdentifier (h : isIdentifier s = true) : IsToken s :=
  .of_ordinary (by rintro rfl; contradiction) (isOrdinary_of_isIdentifier h)

/-! ## Registers -/

theorem register?_of_spells {register : Fin 32} (h : SpellsRegister register s) :
    register? s = some register := by
  cases h with
  | intro hletter hdigit hpos hshort hvalue =>
      rw [register?, if_pos ⟨hletter, List.all_eq_true.2 hdigit, hpos, hshort⟩]
      rw [dif_pos (hvalue ▸ register.isLt)]
      exact congrArg some (Fin.ext hvalue)

theorem isOrdinary_register {register : Fin 32} (h : SpellsRegister register s) :
    ∀ c ∈ s, isOrdinary c = true := by
  intro c hc
  cases h with
  | intro hletter hdigit hpos hshort hvalue =>
      rcases List.mem_cons.1 hc with rfl | hc
      · rcases hletter with rfl | rfl <;> decide
      · exact isOrdinary_of_isDigit (hdigit c hc)

theorem isToken_register {register : Fin 32} (h : SpellsRegister register s) : IsToken s :=
  .of_ordinary (by cases h; simp) (isOrdinary_register h)

theorem readRegister_of_spells {register : Fin 32} (h : SpellsRegister register s)
    (position : Nat) : readRegister position s = .ok register := by
  rw [readRegister, register?_of_spells h]

/-! ## Integers -/

theorem magnitude_of_spells {n : Nat} (h : SpellsMagnitude n s) :
    ∃ magnitude : Magnitude, magnitude.WellFormed ∧ magnitude.spelling = s ∧
      magnitude.value = .ok n := by
  cases h with
  | decimal hne hdigit hshort hvalue =>
      refine ⟨.decimal s, ⟨hne, hdigit⟩, rfl, ?_⟩
      have hlimit : s.length ≤ digitLimit := hshort
      rw [Magnitude.value, if_pos hlimit, hvalue]
  | hexadecimal hmark hne hdigit hvalue =>
      refine ⟨.hexadecimal _ _, ⟨hmark, hne, hdigit⟩, rfl, ?_⟩
      rw [Magnitude.value, hvalue]

private theorem numeral_value {sign : Sign} {n spaces : Nat} {magnitude : Magnitude}
    (h : magnitude.value = .ok n) :
    (⟨sign, List.replicate spaces ' ', magnitude⟩ : Numeral).value = .ok (sign.apply n) := by
  have hstray : (⟨sign, List.replicate spaces ' ', magnitude⟩ : Numeral).strayBlanks = [] := by
    simp [Numeral.strayBlanks]
  rw [Numeral.value, if_pos hstray, h]
  rfl

theorem numeral_of_spells {spaces : Nat} {n : Int} (h : SpellsInteger spaces n s) :
    ∃ numeral : Numeral, numeral.WellFormed ∧ numeral.spelling = s ∧ numeral.value = .ok n ∧
      (spaces = 0 → numeral.gap = []) := by
  cases h with
  | unsigned hmagnitude =>
      obtain ⟨magnitude, hformed, hspelling, hvalue⟩ := magnitude_of_spells hmagnitude
      exact ⟨⟨.absent, List.replicate 0 ' ', magnitude⟩, ⟨hformed, .nil, fun _ => rfl⟩, hspelling,
        numeral_value hvalue, fun _ => rfl⟩
  | plus hmagnitude =>
      obtain ⟨magnitude, hformed, rfl, hvalue⟩ := magnitude_of_spells hmagnitude
      refine ⟨⟨.plus, List.replicate spaces ' ', magnitude⟩,
        ⟨hformed, (isGap_replicate spaces).blank, fun h => by contradiction⟩, rfl,
        numeral_value hvalue, ?_⟩
      rintro rfl
      rfl
  | minus hmagnitude =>
      obtain ⟨magnitude, hformed, rfl, hvalue⟩ := magnitude_of_spells hmagnitude
      refine ⟨⟨.minus, List.replicate spaces ' ', magnitude⟩,
        ⟨hformed, (isGap_replicate spaces).blank, fun h => by contradiction⟩, rfl,
        numeral_value hvalue, ?_⟩
      rintro rfl
      rfl

theorem isToken_magnitude {n : Nat} (h : SpellsMagnitude n s) : IsToken s := by
  obtain ⟨magnitude, hformed, rfl, -⟩ := magnitude_of_spells h
  obtain ⟨c, tail, hspelling, -⟩ := Magnitude.spelling_eq_cons hformed
  refine .of_ordinary ?_ (Magnitude.isOrdinary_spelling hformed)
  rw [hspelling]
  exact List.cons_ne_nil c tail

theorem isToken_integer {spaces : Nat} {n : Int} (h : SpellsInteger spaces n s) : IsToken s := by
  have hspaces := (isGap_replicate spaces).isMark
  cases h with
  | unsigned hmagnitude => exact isToken_magnitude hmagnitude
  | plus hmagnitude =>
      have hsign : IsToken ['+'] :=
        .of_ordinary (by decide) (List.forall_mem_singleton.2 (by decide))
      exact hsign.append (isToken_magnitude hmagnitude) hspaces
  | minus hmagnitude =>
      have hsign : IsToken ['-'] :=
        .of_ordinary (by decide) (List.forall_mem_singleton.2 (by decide))
      exact hsign.append (isToken_magnitude hmagnitude) hspaces

/-- An integer does not start like a label. -/
theorem isIdentifier_integer {spaces : Nat} {n : Int} (h : SpellsInteger spaces n s) :
    isIdentifier s = false := by
  cases h with
  | unsigned hmagnitude =>
      obtain ⟨magnitude, hformed, rfl, -⟩ := magnitude_of_spells hmagnitude
      obtain ⟨c, tail, hspelling, hdigit⟩ := Magnitude.spelling_eq_cons hformed
      have hletter : (!(c.isAlpha || c == '_')) = true :=
        of_isDigit (p := fun c => !(c.isAlpha || c == '_')) (by decide +kernel) hdigit
      rw [Bool.not_eq_true'] at hletter
      rw [hspelling, isIdentifier, hletter, Bool.false_and]
  | plus => rfl
  | minus => rfl

/-! ## Addresses -/

theorem isToken_address {address : Address} (h : SpellsAddress address s) : IsToken s := by
  cases h with
  | intro hoffset hbase ha hb hc =>
      rename_i spaces offset base a b c
      have hclose : IsToken [')'] :=
        ⟨.of_forall (by decide) (List.forall_mem_singleton.2 (by decide)),
          List.forall_mem_singleton.2 (by decide)⟩
      have hmiddle : ∀ d ∈ a ++ '(' :: (b ++ base ++ c), isMark d = false := by
        simp only [List.forall_mem_append, List.forall_mem_cons]
        exact ⟨ha.isMark, by decide, ⟨hb.isMark, (isToken_register hbase).whole⟩, hc.isMark⟩
      have htoken := (isToken_integer hoffset).append hclose hmiddle
      simpa only [List.append_assoc, List.cons_append] using htoken

theorem read_address_of_spells {address : Address} (h : SpellsAddress address s) :
    Address.read s = .ok address := by
  have htrim := (isToken_address h).trimmed.trim_eq
  cases h with
  | intro hoffset hbase ha hb hc =>
      rename_i spaces offset base a b c
      obtain ⟨numeral, hformed, rfl, hvalue, -⟩ := numeral_of_spells hoffset
      have hsplit := Address.split?_of_shaped (.intro hformed ha.blank hb.blank
        (isToken_register hbase).trimmed.ne_nil
        (fun d hd => Address.isBaseChar_of_isOrdinary (isOrdinary_register hbase d hd)) hc.blank)
      simp only [List.append_assoc, List.cons_append] at htrim ⊢
      rw [Address.read, htrim, hsplit]
      simp only [hvalue, register?_of_spells hbase]

/-! ## Targets -/

theorem isToken_target {target : Target} (h : SpellsTarget target s) : IsToken s := by
  cases h with
  | label hidentifier => exact isToken_of_isIdentifier hidentifier
  | offset hinteger => exact isToken_integer hinteger

theorem read_target_of_spells {target : Target} (h : SpellsTarget target s) :
    Target.read s = .ok target := by
  cases h with
  | label hidentifier => rw [Target.read, if_pos hidentifier, String.ofList_toList]
  | offset hinteger =>
      obtain ⟨numeral, hformed, rfl, hvalue, hgap⟩ := numeral_of_spells hinteger
      have hread : Numeral.read? numeral.spelling = some (numeral, []) := by
        have hends : EndsNumeral [] := fun c hc => by contradiction
        have happend := Numeral.read?_spelling_append hformed hends
        rw [List.append_nil] at happend
        exact happend
      have hnot : ¬ isIdentifier numeral.spelling = true := by
        rw [isIdentifier_integer hinteger]
        decide
      rw [Target.read, if_neg hnot, Numeral.compact?, hread]
      simp only [if_pos (hgap rfl), hvalue]
      rfl

/-! ## Operations -/

/-- The characters of a name in any case. -/
theorem isOrdinary_of_isUpper_toUpper {c : Char} (h : c.toUpper.isUpper = true) :
    c.toNat < 128 ∧ isOrdinary c = true := by
  have hbound : c.toNat < 128 := by
    by_cases hsmall : 'a'.val ≤ c.val ∧ c.val ≤ 'z'.val
    · exact Nat.lt_of_le_of_lt (UInt32.le_iff_toNat_le.1 hsmall.2) (by decide)
    · have hsame : c.toUpper = c := dif_neg hsmall
      rw [hsame] at h
      exact toNat_lt_of_isUpper h
  have hascii : c.toUpper.isUpper = true → isOrdinary c = true :=
    of_ascii (p := fun c => c.toUpper.isUpper = true → isOrdinary c = true)
      (by decide +kernel) hbound
  exact ⟨hbound, hascii h⟩

theorem upper_of_ascii (h : ∀ c ∈ s, c.toNat < 128) : upper s = s.map Char.toUpper := by
  induction s with
  | nil => rfl
  | cons c s ih =>
      have hc : upperChar c = [c.toUpper] := by
        rw [upperChar, if_pos (h c List.mem_cons_self)]
      have hs := ih fun d hd => h d (List.mem_cons_of_mem c hd)
      rw [List.map_cons, ← hs, upper, List.flatMap_cons, hc]
      rfl

theorem isUpper_name {opcode : Opcode} (h : ∀ name, opcode ≠ .other name) :
    opcode.name.toList ≠ [] ∧ opcode.name.toList.all Char.isUpper = true := by
  cases opcode with
  | alu op => cases op <;> decide
  | lw => decide
  | sw => decide
  | beq => decide
  | nop => decide
  | other name => exact absurd rfl (h name)

theorem operation_ne_other (statement : Statement) (name : String) :
    statement.operation ≠ .other name := by
  cases statement <;> exact fun h => by contradiction

variable {statement : Statement} {word tail : List Char} {tokens : List (List Char)}

theorem isOrdinary_word (h : word.map Char.toUpper = statement.operation.name.toList) :
    ∀ c ∈ word, c.toNat < 128 ∧ isOrdinary c = true := by
  intro c hc
  apply isOrdinary_of_isUpper_toUpper
  apply List.all_eq_true.1 (isUpper_name (operation_ne_other statement)).2
  rw [← h]
  exact List.mem_map_of_mem hc

theorem not_isBlank_word (h : word.map Char.toUpper = statement.operation.name.toList) :
    ∀ c ∈ word, (!isBlank c) = true := by
  intro c hc
  rw [isBlank_of_isOrdinary (isOrdinary_word h c hc).2]
  rfl

theorem isToken_word (h : word.map Char.toUpper = statement.operation.name.toList) :
    IsToken word := by
  refine .of_ordinary ?_ fun c hc => (isOrdinary_word h c hc).2
  rintro rfl
  exact (isUpper_name (operation_ne_other statement)).1 h.symm

theorem opcode_append (h : word.map Char.toUpper = statement.operation.name.toList)
    (hstop : ∀ c ∈ tail.head?, isBlank c = true) :
    Statement.opcode (word ++ tail) = statement.operation := by
  have hword := isOrdinary_word h
  have htake : (word ++ tail).takeWhile (fun c => !isBlank c) = word := by
    apply takeWhile_append_of_stop (not_isBlank_word h)
    intro c hc
    rw [hstop c hc]
    rfl
  rw [Statement.opcode, htake, upper_of_ascii fun c hc => (hword c hc).1, h, String.ofList_toList,
    Opcode.ofName_name (operation_ne_other statement)]

/-! ## Operand lists -/

theorem isToken_operands (h : SpellsOperands statement tokens) :
    ∀ token ∈ tokens, IsToken token := by
  cases h with
  | alu hrd hrs hrt =>
      simp only [List.forall_mem_cons]
      exact ⟨isToken_register hrd, isToken_register hrs, isToken_register hrt, by simp⟩
  | load hrt haddress =>
      simp only [List.forall_mem_cons]
      exact ⟨isToken_register hrt, isToken_address haddress, by simp⟩
  | store hrt haddress =>
      simp only [List.forall_mem_cons]
      exact ⟨isToken_register hrt, isToken_address haddress, by simp⟩
  | branch hrs hrt htarget =>
      simp only [List.forall_mem_cons]
      exact ⟨isToken_register hrs, isToken_register hrt, isToken_target htarget, by simp⟩
  | nop => simp

theorem read_of_spells (h : SpellsOperands statement tokens) :
    Statement.read statement.operation tokens = .ok statement := by
  cases h with
  | alu hrd hrs hrt =>
      simp only [Statement.operation, Statement.read, readRegister_of_spells hrd,
        readRegister_of_spells hrs, readRegister_of_spells hrt]
      rfl
  | load hrt haddress =>
      simp only [Statement.operation, Statement.read, readRegister_of_spells hrt,
        read_address_of_spells haddress]
      rfl
  | store hrt haddress =>
      simp only [Statement.operation, Statement.read, readRegister_of_spells hrt,
        read_address_of_spells haddress]
      rfl
  | branch hrs hrt htarget =>
      simp only [Statement.operation, Statement.read, readRegister_of_spells hrs,
        readRegister_of_spells hrt, read_target_of_spells htarget]
      rfl
  | nop => rfl

/-- Commas separate tokens, and the white space around them is dropped. -/
theorem map_trim_splitOn {gap : List Char} (hgap : IsGap gap) (htoken : IsToken token)
    (hmore : SpellsMore tokens rest) (htokens : ∀ token ∈ tokens, IsToken token) :
    ((gap ++ token ++ rest).splitOn ',').map trim = token :: tokens := by
  have hcomma : ∀ {s : List Char}, (∀ c ∈ s, isMark c = false) → ',' ∉ s := by
    intro s hs hmem
    exact absurd (hs _ hmem) (by decide)
  induction hmore generalizing gap token with
  | nil =>
      have hfree : ',' ∉ gap ++ token := fun hmem =>
        (List.mem_append.1 hmem).elim (hcomma hgap.isMark) (hcomma htoken.whole)
      have htrim := trim_append hgap.blank htoken.trimmed .nil
      rw [List.append_nil] at htrim ⊢
      rw [List.splitOn_eq_singleton hfree, List.map_singleton, htrim]
  | cons ha hb hmore ih =>
      rename_i next rest a b tokens
      have hfree : ',' ∉ gap ++ token ++ a := fun hmem =>
        (List.mem_append.1 hmem).elim (fun hmem =>
          (List.mem_append.1 hmem).elim (hcomma hgap.isMark) (hcomma htoken.whole))
          (hcomma ha.isMark)
      have htail := ih hb (htokens next List.mem_cons_self) fun token htoken =>
        htokens token (List.mem_cons_of_mem _ htoken)
      have hsplit : gap ++ token ++ (a ++ ',' :: b ++ next ++ rest) =
          (gap ++ token ++ a) ++ ',' :: (b ++ next ++ rest) := by
        simp only [List.append_assoc, List.cons_append]
      rw [hsplit, List.splitOn_append_cons_self_of_not_mem hfree, List.map_cons, htail,
        trim_append hgap.blank htoken.trimmed ha.blank]

theorem operands_append {gap : List Char}
    (hword : word.map Char.toUpper = statement.operation.name.toList) (hgap : IsGap gap)
    (hne : gap ≠ []) (htoken : IsToken token) (hmore : SpellsMore tokens rest)
    (htokens : ∀ token ∈ tokens, IsToken token) :
    Statement.operands (word ++ (gap ++ token ++ rest)) = token :: tokens := by
  have hdrop : (word ++ (gap ++ token ++ rest)).dropWhile (fun c => !isBlank c) =
      gap ++ token ++ rest := by
    apply dropWhile_append_of_stop (not_isBlank_word hword)
    rw [List.append_assoc, head?_append_of_ne_nil hne]
    intro c hc
    rw [hgap.blank c (List.mem_of_mem_head? hc)]
    rfl
  have hnonempty : ∀ t ∈ token :: tokens, decide (t ≠ []) = true := by
    intro t ht
    rw [decide_eq_true_eq]
    rcases List.mem_cons.1 ht with rfl | ht
    · exact htoken.trimmed.ne_nil
    · exact (htokens t ht).trimmed.ne_nil
  rw [Statement.operands, hdrop, map_trim_splitOn hgap htoken hmore htokens,
    List.filter_eq_self.2 hnonempty]

/-! ## Statements -/

/-- Every spelling of a statement is read as the statement. -/
theorem ofText_of_spells (h : SpellsStatement statement s) :
    Statement.ofText s = .ok statement := by
  cases h with
  | bare hword hoperands =>
      have hopcode : Statement.opcode (s ++ []) = statement.operation :=
        opcode_append hword fun c hc => by contradiction
      have hdrop : (s ++ []).dropWhile (fun c => !isBlank c) = [] :=
        dropWhile_append_of_stop (not_isBlank_word hword) fun c hc => by contradiction
      rw [List.append_nil] at hopcode hdrop
      have hnone : Statement.operands s = [] := by
        rw [Statement.operands, hdrop]
        rfl
      rw [Statement.ofText, hopcode, hnone, read_of_spells hoperands]
  | operands hword hgap hne hoperands hmore =>
      rename_i word gap token rest tokens
      have htokens := isToken_operands hoperands
      have hopcode : Statement.opcode (word ++ (gap ++ token ++ rest)) = statement.operation := by
        apply opcode_append hword
        rw [List.append_assoc, head?_append_of_ne_nil hne]
        exact fun c hc => hgap.blank c (List.mem_of_mem_head? hc)
      have hlist := operands_append hword hgap hne (htokens token List.mem_cons_self) hmore
        fun t ht => htokens t (List.mem_cons_of_mem _ ht)
      rw [← List.append_assoc, ← List.append_assoc] at hopcode hlist
      rw [Statement.ofText, hopcode, hlist, read_of_spells hoperands]

theorem trimmed_append_more (hs : Trimmed s) (hmore : SpellsMore tokens rest)
    (htokens : ∀ token ∈ tokens, IsToken token) : Trimmed (s ++ rest) := by
  induction hmore generalizing s with
  | nil => rwa [List.append_nil]
  | cons ha hb hmore ih =>
      rename_i token rest a b tokens
      have htoken := htokens token List.mem_cons_self
      have hlonger := hs.append htoken.trimmed (a ++ ',' :: b)
      have htrimmed := ih hlonger fun t ht => htokens t (List.mem_cons_of_mem _ ht)
      simpa only [List.append_assoc, List.cons_append] using htrimmed

theorem isBreak_more (hmore : SpellsMore tokens rest) (htokens : ∀ token ∈ tokens, IsToken token) :
    ∀ c ∈ rest, isBreak c = false := by
  induction hmore with
  | nil => exact fun c hc => by contradiction
  | cons ha hb hmore ih =>
      obtain ⟨htoken, hothers⟩ := List.forall_mem_cons.1 htokens
      simp only [List.forall_mem_append, List.forall_mem_cons]
      exact ⟨⟨⟨ha.isBreak, by decide, hb.isBreak⟩, htoken.isBreak⟩, ih hothers⟩

/-- A statement is not trimmed and has no colon, number sign or line feed in it. -/
theorem trimmed_and_isBreak_of_spells (h : SpellsStatement statement s) :
    Trimmed s ∧ ∀ c ∈ s, isBreak c = false := by
  cases h with
  | bare hword _ =>
      have htoken := isToken_word hword
      exact ⟨htoken.trimmed, htoken.isBreak⟩
  | operands hword hgap hne hoperands hmore =>
      rename_i word gap token rest tokens
      have htoken := isToken_word hword
      have htokens := isToken_operands hoperands
      obtain ⟨hfirst, hothers⟩ := List.forall_mem_cons.1 htokens
      refine ⟨trimmed_append_more (htoken.trimmed.append hfirst.trimmed gap) hmore hothers, ?_⟩
      rw [List.forall_mem_append]
      exact ⟨(htoken.append hfirst hgap.isMark).isBreak, isBreak_more hmore hothers⟩

end FiveStage.Asm
