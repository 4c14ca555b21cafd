import FiveStage.Proofs.Asm.Reading

/-!
# The last operand of a statement

The last operand of a statement stands at its end, with nothing but white space and commas behind
it. So it can be exchanged in the text for another token: operation and other operands are then read
as before, and the last operand as the new token (`operands_withLastWord`).

A text with commas is taken apart at its first comma (`comma_induction`). What matters of the
surroundings of a token is that any token can stand there, and is then the last one (`Surrounds`).
-/

namespace FiveStage.Asm

open Text

/-! ## Words -/

/-- What stands between operands. -/
def isSeparator (c : Char) : Bool := isBlank c || c == ','

/-- The last word of a text. Behind it there are only separators. -/
def lastWord (s : List Char) : List Char :=
  (s.rdropWhile isSeparator).rtakeWhile fun c => !isSeparator c

/-- The text with another word for its last one. -/
def withLastWord (s word : List Char) : List Char :=
  (s.rdropWhile isSeparator).rdropWhile (fun c => !isSeparator c) ++ word ++
    s.rtakeWhile isSeparator

variable {s pre post word token other body : List Char} {l : List (List Char)}

theorem isSeparator_of_isBlank {c : Char} (h : isBlank c = true) : isSeparator c = true := by
  rw [isSeparator, h, Bool.true_or]

theorem lastWord_append (hpre : ∀ c ∈ pre.getLast?, isSeparator c = true) (hne : word ≠ [])
    (hword : ∀ c ∈ word, isSeparator c = false) (hpost : ∀ c ∈ post, isSeparator c = true) :
    lastWord (pre ++ word ++ post) = word ∧
      ∀ other, withLastWord (pre ++ word ++ post) other = pre ++ other ++ post := by
  have hlast : ∀ c ∈ (pre ++ word).getLast?, isSeparator c = false := by
    rw [List.getLast?_append_of_ne_nil _ hne]
    exact fun c hc => hword c (List.mem_of_getLast? hc)
  have hkept : ∀ c ∈ word, (!isSeparator c) = true := by
    intro c hc
    rw [hword c hc]
    rfl
  have hstop : ∀ c ∈ pre.getLast?, (!isSeparator c) = false := by
    intro c hc
    rw [hpre c hc]
    rfl
  refine ⟨?_, fun other => ?_⟩
  · rw [lastWord, rdropWhile_append_of_stop hpost hlast, rtakeWhile_append_of_stop hkept hstop]
  · rw [withLastWord, rdropWhile_append_of_stop hpost hlast, rtakeWhile_append_of_stop hpost hlast,
      rdropWhile_append_of_stop hkept hstop]

theorem mem_withLastWord {c : Char} (h : c ∈ withLastWord s word) : c ∈ s ∨ c ∈ word := by
  rw [withLastWord, List.mem_append, List.mem_append] at h
  obtain (hfront | hword) | hback := h
  · have hrest := (List.rdropWhile_prefix _ _).subset hfront
    exact .inl ((List.rdropWhile_prefix _ _).subset hrest)
  · exact .inr hword
  · exact .inl ((List.rtakeWhile_suffix _ _).subset hback)

/-! ## Tokens between commas -/

/-- The trimmed texts between commas, without the empty ones. -/
def betweenCommas (s : List Char) : List (List Char) :=
  ((s.splitOn ',').map trim).filter (· ≠ [])

/-- A text without a comma, or with one behind which the same is true of the rest. -/
theorem comma_induction {motive : List Char → Prop} (whole : ∀ s, ',' ∉ s → motive s)
    (cut : ∀ first rest, ',' ∉ first → motive rest → motive (first ++ ',' :: rest))
    (s : List Char) : motive s := by
  by_cases hcomma : ',' ∈ s
  · obtain ⟨first, rest, hs, hfirst⟩ := List.eq_append_cons_of_mem hcomma
    have hshorter : rest.length < s.length := by
      rw [hs, List.length_append, List.length_cons]
      omega
    rw [hs]
    exact cut first rest hfirst (comma_induction whole cut rest)
  · exact whole s hcomma
termination_by s.length

theorem betweenCommas_append (s t : List Char) :
    betweenCommas (s ++ ',' :: t) = betweenCommas s ++ betweenCommas t := by
  rw [betweenCommas, List.splitOn_append_cons_self, List.map_append, List.filter_append]
  rfl

theorem betweenCommas_of_notMem (h : ',' ∉ s) :
    betweenCommas s = if trim s = [] then [] else [trim s] := by
  rw [betweenCommas, List.splitOn_eq_singleton h, List.map_singleton]
  split <;> simp [*]

theorem isSeparator_of_betweenCommas_eq_nil (h : betweenCommas s = []) :
    ∀ c ∈ s, isSeparator c = true := by
  induction s using comma_induction with
  | whole s hcomma =>
      rw [betweenCommas_of_notMem hcomma] at h
      split at h
      · rename_i hblank
        exact fun c hc => isSeparator_of_isBlank (trim_eq_nil_iff.1 hblank c hc)
      · contradiction
  | cut first rest hfirst ih =>
      rw [betweenCommas_append, List.append_eq_nil_iff, betweenCommas_of_notMem hfirst] at h
      obtain ⟨hhere, hrest⟩ := h
      have hblank : trim first = [] := by
        by_contra hne
        rw [if_neg hne] at hhere
        contradiction
      rw [List.forall_mem_append, List.forall_mem_cons]
      refine ⟨?_, by decide, ih hrest⟩
      exact fun c hc => isSeparator_of_isBlank (trim_eq_nil_iff.1 hblank c hc)

/-- Any token can stand between the two texts, and it is then the last one, behind some others. -/
structure Surrounds (l : List (List Char)) (pre post : List Char) : Prop where
  before : ∀ c ∈ pre.getLast?, isSeparator c = true
  behind : ∀ c ∈ post, isSeparator c = true
  tokens : ∀ token, IsToken token → betweenCommas (pre ++ token ++ post) = l ++ [token]

theorem Surrounds.of_blank (hpre : Blank pre) (hpost : Blank post) : Surrounds [] pre post where
  before c hc := isSeparator_of_isBlank (hpre c (List.mem_of_getLast? hc))
  behind c hc := isSeparator_of_isBlank (hpost c hc)
  tokens token htoken := by
    have hcomma : ',' ∉ pre ++ token ++ post := by
      simp only [List.mem_append, not_or]
      have hfree : ',' ∉ token := fun hmem => absurd (htoken.whole _ hmem) (by decide)
      exact ⟨⟨notMem_of_blank (by decide) hpre, hfree⟩, notMem_of_blank (by decide) hpost⟩
    rw [betweenCommas_of_notMem hcomma, trim_append hpre htoken.trimmed hpost,
      if_neg htoken.trimmed.ne_nil, List.nil_append]

/-- Tokens in front. -/
theorem Surrounds.cut (h : Surrounds l pre post) (first : List Char) :
    Surrounds (betweenCommas first ++ l) (first ++ ',' :: pre) post where
  before := by
    intro c hc
    rw [List.getLast?_append_of_ne_nil _ (List.cons_ne_nil _ _)] at hc
    cases pre with
    | nil =>
        obtain rfl : ',' = c := Option.some.inj hc
        decide
    | cons d pre => exact h.before c hc
  behind := h.behind
  tokens token htoken := by
    have hwhole :
        first ++ ',' :: pre ++ token ++ post = first ++ ',' :: (pre ++ token ++ post) := by
      simp only [List.append_assoc, List.cons_append]
    rw [hwhole, betweenCommas_append, h.tokens token htoken, List.append_assoc]

/-- Nothing but separators behind. -/
theorem Surrounds.append (h : Surrounds l pre post) {rest : List Char}
    (hrest : betweenCommas rest = []) : Surrounds l pre (post ++ ',' :: rest) where
  before := h.before
  behind := by
    rw [List.forall_mem_append, List.forall_mem_cons]
    exact ⟨h.behind, by decide, isSeparator_of_betweenCommas_eq_nil hrest⟩
  tokens token htoken := by
    rw [← List.append_assoc, betweenCommas_append, h.tokens token htoken, hrest, List.append_nil]

theorem exists_surrounds_of_notMem (hcomma : ',' ∉ s) (h : betweenCommas s = l ++ [token]) :
    Trimmed token ∧ ∃ pre post, s = pre ++ token ++ post ∧ Surrounds l pre post := by
  rw [betweenCommas_of_notMem hcomma] at h
  split at h
  · exact absurd h.symm (List.append_ne_nil_of_right_ne_nil l (List.cons_ne_nil _ _))
  · rename_i hne
    obtain ⟨rfl, rfl⟩ : l = [] ∧ token = trim s := by
      cases l with
      | nil => exact ⟨rfl, (List.singleton_inj.1 h).symm⟩
      | cons first l => simp at h
    obtain ⟨before, after, hbefore, hafter, hs⟩ := exists_eq_append_trim s
    rw [← List.append_assoc] at hs
    exact ⟨trimmed_trim hne, before, after, hs, .of_blank hbefore hafter⟩

/-- The last token between commas has surroundings. -/
theorem exists_surrounds (h : betweenCommas s = l ++ [token]) :
    Trimmed token ∧ ∃ pre post, s = pre ++ token ++ post ∧ Surrounds l pre post := by
  induction s using comma_induction generalizing l with
  | whole s hcomma => exact exists_surrounds_of_notMem hcomma h
  | cut first rest hfirst ih =>
      rw [betweenCommas_append] at h
      obtain hrest | ⟨others, last, hrest⟩ := List.eq_nil_or_concat (betweenCommas rest)
      · -- The rest has no token, so the last one is in front of the comma.
        rw [hrest, List.append_nil] at h
        obtain ⟨htrimmed, pre, post, rfl, hsurrounds⟩ := exists_surrounds_of_notMem hfirst h
        exact ⟨htrimmed, pre, post ++ ',' :: rest, by simp, hsurrounds.append hrest⟩
      · rw [List.concat_eq_append] at hrest
        rw [hrest, ← List.append_assoc] at h
        obtain ⟨rfl, rfl⟩ := List.append_singleton_inj.1 h
        obtain ⟨htrimmed, pre, post, rfl, hsurrounds⟩ := ih hrest
        exact ⟨htrimmed, first ++ ',' :: pre, post, by simp, hsurrounds.cut first⟩

/-! ## Statements -/

/-- The operation of a statement stands before the first white space, and its operands behind. -/
theorem Statement.parts_append {rest : List Char} (hword : ∀ c ∈ word, isBlank c = false)
    (hrest : ∀ c ∈ rest.head?, isBlank c = true) :
    opcode (word ++ rest) = .ofName (String.ofList (upper word)) ∧
      operands (word ++ rest) = betweenCommas rest := by
  have hkept : ∀ c ∈ word, (!isBlank c) = true := by
    intro c hc
    rw [hword c hc]
    rfl
  have hstop : ∀ c ∈ rest.head?, (!isBlank c) = false := by
    intro c hc
    rw [hrest c hc]
    rfl
  constructor
  · rw [opcode, takeWhile_append_of_stop hkept hstop]
  · rw [operands, dropWhile_append_of_stop hkept hstop]
    rfl

theorem Statement.exists_parts (text : List Char) :
    ∃ word rest, text = word ++ rest ∧ (∀ c ∈ word, isBlank c = false) ∧
      ∀ c ∈ rest.head?, isBlank c = true := by
  refine ⟨text.takeWhile fun c => !isBlank c, text.dropWhile fun c => !isBlank c,
    List.takeWhile_append_dropWhile.symm, ?_, ?_⟩
  · intro c hc
    rw [← Bool.not_eq_true']
    exact List.mem_takeWhile_imp (p := fun c => !isBlank c) hc
  · intro c hc
    have hstop := List.head?_dropWhile_not (fun c => !isBlank c) text
    rw [Option.mem_def.1 hc] at hstop
    rw [← Bool.not_eq_false']
    exact hstop

/-- The last operand of a statement has surroundings, of which the operation is a part. -/
theorem Statement.exists_surrounds {text : List Char} (h : operands text = l ++ [token]) :
    Trimmed token ∧ ∃ pre post, text = pre ++ token ++ post ∧ pre ≠ [] ∧
      (∀ c ∈ pre.getLast?, isSeparator c = true) ∧ (∀ c ∈ post, isSeparator c = true) ∧
        ∀ other, IsToken other → opcode (pre ++ other ++ post) = opcode text ∧
          operands (pre ++ other ++ post) = l ++ [other] := by
  obtain ⟨word, rest, rfl, hword, hrest⟩ := exists_parts text
  obtain ⟨hopcode, hoperands⟩ := parts_append hword hrest
  rw [hoperands] at h
  obtain ⟨htrimmed, pre, post, rfl, hsurrounds⟩ := Asm.exists_surrounds h
  rw [List.append_assoc] at hrest
  -- The operands begin with white space, and the last one does not.
  have hne : pre ≠ [] := by
    rintro rfl
    rw [List.nil_append, head?_append_of_ne_nil htrimmed.ne_nil] at hrest
    obtain ⟨c, tail, rfl⟩ := List.exists_cons_of_ne_nil htrimmed.ne_nil
    have hblank := hrest c rfl
    rw [htrimmed.head c rfl] at hblank
    contradiction
  have hwhole : ∀ other, word ++ pre ++ other ++ post = word ++ (pre ++ other ++ post) := by
    intro other
    simp only [List.append_assoc]
  refine ⟨htrimmed, word ++ pre, post, (hwhole token).symm, ?_, ?_, hsurrounds.behind, ?_⟩
  · exact List.append_ne_nil_of_right_ne_nil _ hne
  · rw [List.getLast?_append_of_ne_nil _ hne]
    exact hsurrounds.before
  · intro other hother
    have hbegin : ∀ c ∈ (pre ++ other ++ post).head?, isBlank c = true := by
      rw [head?_append_of_ne_nil hne] at hrest
      rw [List.append_assoc, head?_append_of_ne_nil hne]
      exact hrest
    obtain ⟨hsame, hothers⟩ := parts_append hword hbegin
    rw [hwhole, hsame, hopcode, hothers]
    exact ⟨rfl, hsurrounds.tokens other hother⟩

/-- The last operand is the last word of a statement. If another token is written for it, the
operation and the other operands are read as before. -/
theorem operands_withLastWord (h : Statement.operands (trim body) = l ++ [token])
    (hword : ∀ c ∈ token, isSeparator c = false) :
    lastWord body = token ∧ ∀ other, IsToken other →
      Statement.opcode (trim (withLastWord body other)) = Statement.opcode (trim body) ∧
        Statement.operands (trim (withLastWord body other)) = l ++ [other] := by
  obtain ⟨htrimmed, pre, post, htext, hne, hpre, hpost, hexchange⟩ := Statement.exists_surrounds h
  obtain ⟨before, after, hbefore, hafter, hbody⟩ := exists_eq_append_trim body
  have hwhole : body = before ++ pre ++ token ++ (post ++ after) := by
    rw [hbody, htext]
    simp only [List.append_assoc]
  have hlast : ∀ c ∈ (before ++ pre).getLast?, isSeparator c = true := by
    rw [List.getLast?_append_of_ne_nil _ hne]
    exact hpre
  have hbehind : ∀ c ∈ post ++ after, isSeparator c = true :=
    List.forall_mem_append.2 ⟨hpost, fun c hc => isSeparator_of_isBlank (hafter c hc)⟩
  obtain ⟨hlastWord, hwith⟩ := lastWord_append hlast htrimmed.ne_nil hword hbehind
  rw [← hwhole] at hlastWord hwith
  refine ⟨hlastWord, fun other hother => ?_⟩
  have hnonempty : trim body ≠ [] := by
    rw [htext, List.append_assoc]
    exact List.append_ne_nil_of_left_ne_nil hne _
  have hends : Trimmed (pre ++ other ++ post) := by
    have hown := trimmed_trim hnonempty
    rw [htext] at hown
    exact hown.exchange hne hother.trimmed
  have hexchanged : withLastWord body other = before ++ (pre ++ other ++ post) ++ after := by
    rw [hwith]
    simp only [List.append_assoc]
  rw [hexchanged, trim_append hbefore hends hafter]
  exact hexchange other hother

end FiveStage.Asm
