import FiveStage.Text.Blank
import Mathlib.Data.List.Basic
import Mathlib.Data.List.DropRight
import Mathlib.Data.List.TakeWhile

/-!
# Reading behind and between white space

What `trim` and the prefix readers do to a text that is put together from pieces: white
space around a trimmed piece is dropped (`trim_append`), and a prefix of one kind is taken
exactly as far as the next piece is of another kind (`takeWhile_append_of_stop`).
-/

namespace FiveStage.Text

/-- Nothing but white space. -/
def Blank (s : List Char) : Prop := ∀ c ∈ s, isBlank c = true

/-- Something, with no white space at either end. -/
structure Trimmed (s : List Char) : Prop where
  ne_nil : s ≠ []
  head : ∀ c ∈ s.head?, isBlank c = false
  last : ∀ c ∈ s.getLast?, isBlank c = false

variable {s t before after rest : List Char} {p : Char → Bool}

/-! ## Prefixes -/

theorem takeWhile_append_of_stop (h : ∀ c ∈ s, p c = true) (hstop : ∀ c ∈ rest.head?, p c = false) :
    (s ++ rest).takeWhile p = s := by
  rw [List.takeWhile_append_of_pos h]
  cases rest with
  | nil => simp
  | cons c rest =>
      have hc : p c = false := hstop c rfl
      rw [List.takeWhile_cons, hc]
      simp

theorem dropWhile_append_of_stop (h : ∀ c ∈ s, p c = true) (hstop : ∀ c ∈ rest.head?, p c = false) :
    (s ++ rest).dropWhile p = rest := by
  rw [List.dropWhile_append_of_pos h]
  cases rest with
  | nil => rfl
  | cons c rest =>
      have hc : p c = false := hstop c rfl
      rw [List.dropWhile_cons, hc]
      rfl

/-- What is of one kind at the end of a text is dropped as far as it goes. -/
theorem rdropWhile_append_of_stop (h : ∀ c ∈ t, p c = true)
    (hstop : ∀ c ∈ s.getLast?, p c = false) : (s ++ t).rdropWhile p = s := by
  have hreverse : ∀ c ∈ t.reverse, p c = true := fun c hc => h c (List.mem_reverse.1 hc)
  rw [List.rdropWhile, List.reverse_append, dropWhile_append_of_stop hreverse, List.reverse_reverse]
  rw [List.head?_reverse]
  exact hstop

theorem rtakeWhile_append_of_stop (h : ∀ c ∈ t, p c = true)
    (hstop : ∀ c ∈ s.getLast?, p c = false) : (s ++ t).rtakeWhile p = t := by
  have hreverse : ∀ c ∈ t.reverse, p c = true := fun c hc => h c (List.mem_reverse.1 hc)
  rw [List.rtakeWhile, List.reverse_append, takeWhile_append_of_stop hreverse, List.reverse_reverse]
  rw [List.head?_reverse]
  exact hstop

theorem takeWhile_bne_append {c : Char} (h : c ∉ s) (rest : List Char) :
    (s ++ c :: rest).takeWhile (· != c) = s := by
  apply takeWhile_append_of_stop
  · exact fun d hd => bne_iff_ne.2 (ne_of_mem_of_not_mem hd h)
  · simp

theorem dropWhile_bne_append {c : Char} (h : c ∉ s) (rest : List Char) :
    (s ++ c :: rest).dropWhile (· != c) = c :: rest := by
  apply dropWhile_append_of_stop
  · exact fun d hd => bne_iff_ne.2 (ne_of_mem_of_not_mem hd h)
  · simp

theorem head?_append_of_ne_nil (h : s ≠ []) (t : List Char) : (s ++ t).head? = s.head? := by
  cases s with
  | nil => contradiction
  | cons c s => rfl

/-! ## Trimming -/

theorem Blank.nil : Blank [] := by
  intro c hc
  contradiction

theorem Blank.append (hs : Blank s) (ht : Blank t) : Blank (s ++ t) :=
  List.forall_mem_append.2 ⟨hs, ht⟩

theorem notMem_of_blank {c : Char} (hc : isBlank c = false) (hs : Blank s) : c ∉ s := by
  intro hmem
  rw [hs c hmem] at hc
  contradiction

theorem trimLeft_append (h : Blank before) (hstop : ∀ c ∈ s.head?, isBlank c = false) :
    trimLeft (before ++ s) = s :=
  dropWhile_append_of_stop h hstop

theorem trimRight_append (h : Blank after) (hstop : ∀ c ∈ s.getLast?, isBlank c = false) :
    trimRight (s ++ after) = s :=
  rdropWhile_append_of_stop h hstop

theorem blank_takeWhile (s : List Char) : Blank (s.takeWhile isBlank) := by
  intro c hc
  exact List.mem_takeWhile_imp hc

theorem takeWhile_append_trimLeft (s : List Char) : s.takeWhile isBlank ++ trimLeft s = s :=
  List.takeWhile_append_dropWhile

/-- White space around a trimmed text is dropped. -/
theorem trim_append (hbefore : Blank before) (hs : Trimmed s) (hafter : Blank after) :
    trim (before ++ s ++ after) = s := by
  rw [trim, List.append_assoc, trimLeft_append hbefore, trimRight_append hafter hs.last]
  rw [head?_append_of_ne_nil hs.ne_nil]
  exact hs.head

theorem trim_of_blank (h : Blank s) : trim s = [] := trim_eq_nil_iff.2 h

theorem Trimmed.trim_eq (hs : Trimmed s) : trim s = s := by
  have htrim := trim_append .nil hs .nil
  rw [List.nil_append, List.append_nil] at htrim
  exact htrim

theorem Trimmed.of_forall (hne : s ≠ []) (h : ∀ c ∈ s, isBlank c = false) : Trimmed s where
  ne_nil := hne
  head c hc := h c (List.mem_of_mem_head? hc)
  last c hc := h c (List.mem_of_getLast? hc)

/-- Only the two ends count. -/
theorem Trimmed.append (hs : Trimmed s) (ht : Trimmed t) (middle : List Char) :
    Trimmed (s ++ middle ++ t) where
  ne_nil h := hs.ne_nil (List.append_eq_nil_iff.1 (List.append_eq_nil_iff.1 h).1).1
  head := by
    rw [List.append_assoc, head?_append_of_ne_nil hs.ne_nil]
    exact hs.head
  last := by
    rw [List.getLast?_append_of_ne_nil _ ht.ne_nil]
    exact ht.last

/-- Another trimmed text may stand behind the front of a trimmed one. -/
theorem Trimmed.exchange (h : Trimmed (before ++ s ++ after)) (hne : before ≠ []) (ht : Trimmed t) :
    Trimmed (before ++ t ++ after) where
  ne_nil := by
    rw [List.append_assoc]
    exact List.append_ne_nil_of_left_ne_nil hne _
  head := by
    have hhead := h.head
    rw [List.append_assoc, head?_append_of_ne_nil hne] at hhead
    rw [List.append_assoc, head?_append_of_ne_nil hne]
    exact hhead
  last := by
    by_cases hafter : after = []
    · rw [hafter, List.append_nil, List.getLast?_append_of_ne_nil _ ht.ne_nil]
      exact ht.last
    · have hlast := h.last
      rw [List.getLast?_append_of_ne_nil _ hafter] at hlast
      rw [List.getLast?_append_of_ne_nil _ hafter]
      exact hlast

theorem trim_append_of_blank (h : Blank before) (s : List Char) :
    trim (before ++ s) = trim s := by
  rw [trim, trimLeft, List.dropWhile_append_of_pos h]
  rfl

/-- Trimming takes nothing but white space. -/
theorem exists_eq_append_trim (s : List Char) :
    ∃ before after, Blank before ∧ Blank after ∧ s = before ++ (trim s ++ after) := by
  refine ⟨s.takeWhile isBlank, ((trimLeft s).reverse.takeWhile isBlank).reverse,
    blank_takeWhile s, ?_, ?_⟩
  · intro c hc
    exact blank_takeWhile _ c (List.mem_reverse.1 hc)
  · have hright : trim s ++ ((trimLeft s).reverse.takeWhile isBlank).reverse = trimLeft s := by
      rw [trim, trimRight, ← List.reverse_append, List.takeWhile_append_dropWhile,
        List.reverse_reverse]
    rw [hright, takeWhile_append_trimLeft]

/-- What is left of a text has no white space in front. -/
theorem not_isBlank_head_trim (s : List Char) : ∀ c ∈ (trim s).head?, isBlank c = false := by
  intro c hc
  -- Trimming at the end keeps the front, unless it takes everything.
  obtain ⟨tail, htail⟩ := List.head?_eq_some_iff.1 hc
  have hfront : ∃ rest, trimLeft s = c :: rest := by
    have hprefix : trim s <+: trimLeft s := by
      rw [trim, trimRight, ← List.reverse_suffix, List.reverse_reverse]
      exact List.dropWhile_suffix _
    rw [htail] at hprefix
    obtain ⟨rest, hrest⟩ := hprefix
    exact ⟨tail ++ rest, hrest.symm⟩
  obtain ⟨rest, hrest⟩ := hfront
  exact not_isBlank_of_trimLeft_eq_cons hrest

/-- What is left of a text has no white space at the end. -/
theorem not_isBlank_last_trim (s : List Char) : ∀ c ∈ (trim s).getLast?, isBlank c = false := by
  intro c hc
  rw [trim, trimRight, List.getLast?_reverse] at hc
  obtain ⟨rest, hrest⟩ := List.head?_eq_some_iff.1 hc
  exact not_isBlank_of_trimLeft_eq_cons hrest

theorem trimmed_trim (h : trim s ≠ []) : Trimmed (trim s) :=
  ⟨h, not_isBlank_head_trim s, not_isBlank_last_trim s⟩

theorem trim_append_blank (h : Blank after) (s : List Char) : trim (s ++ after) = trim s := by
  obtain ⟨front, back, hfront, hback, hs⟩ := exists_eq_append_trim s
  by_cases hempty : trim s = []
  · rw [hempty]
    exact trim_of_blank (Blank.append (trim_eq_nil_iff.1 hempty) h)
  · have hwhole : s ++ after = front ++ trim s ++ (back ++ after) := by
      conv_lhs => rw [hs]
      simp only [List.append_assoc]
    rw [hwhole]
    exact trim_append hfront (trimmed_trim hempty) (hback.append h)

theorem mem_trim_iff {c : Char} (hc : isBlank c = false) : c ∈ trim s ↔ c ∈ s := by
  obtain ⟨before, after, hbefore, hafter, hs⟩ := exists_eq_append_trim s
  conv_rhs => rw [hs]
  simp only [List.mem_append, notMem_of_blank hc hbefore, notMem_of_blank hc hafter, false_or,
    or_false]

end FiveStage.Text
