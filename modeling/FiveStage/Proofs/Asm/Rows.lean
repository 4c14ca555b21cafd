import FiveStage.Proofs.Asm.Reading
import FiveStage.Proofs.Asm.Source

/-!
# Rows of spelled lines

The row of a spelled line has its core as text, its label, and a statement that is read as
the one that is meant; a line that says nothing has no row (`ofLine?_of_spells`). The lines
of a source are cut where they were joined (`rows_source`).
-/

namespace FiveStage.Asm

open Text

/-- The text of a row is read as the statement of its line; it is empty if there is none. -/
inductive Reads : Option Statement → List Char → Prop
  | none : Reads none []
  | some {statement : Statement} {s : List Char} : s ≠ [] →
    Statement.ofText s = .ok statement → Reads (some statement) s

variable {label : Option String} {statement : Option Statement} {core text : List Char}

theorem SpellsCore.trimmed (h : SpellsCore label statement core) :
    core = [] ∨ Trimmed core := by
  cases h with
  | blank => exact .inl rfl
  | statement hspells => exact .inr (trimmed_and_isBreak_of_spells hspells).1
  | label hidentifier ha =>
      have hcolon : Trimmed [':'] :=
        .of_forall (by decide) (List.forall_mem_singleton.2 (by decide))
      exact .inr ((isToken_of_isIdentifier hidentifier).trimmed.append hcolon _)
  | both hidentifier ha hb hspells =>
      rename_i name statement a b s
      have hstatement := (trimmed_and_isBreak_of_spells hspells).1
      have htrimmed :=
        (isToken_of_isIdentifier hidentifier).trimmed.append hstatement (a ++ ':' :: b)
      exact .inr (by simpa only [List.append_assoc, List.cons_append] using htrimmed)

/-- A core stays on its line, in front of the comment. -/
theorem SpellsCore.isInline (h : SpellsCore label statement core) :
    ∀ c ∈ core, c ≠ '#' ∧ c ≠ '\n' := by
  have hbreak : ∀ {c : Char}, isBreak c = false → c ≠ '#' ∧ c ≠ '\n' := by
    intro c hc
    refine ⟨?_, ?_⟩
    · rintro rfl
      exact absurd hc (by decide)
    · rintro rfl
      exact absurd hc (by decide)
  have hgap : ∀ {a : List Char}, IsGap a → ∀ c ∈ a, c ≠ '#' ∧ c ≠ '\n' := fun ha c hc =>
    hbreak (ha.isBreak c hc)
  have hname : ∀ {name : String}, isIdentifier name.toList = true →
      ∀ c ∈ name.toList, c ≠ '#' ∧ c ≠ '\n' := fun hidentifier c hc =>
    hbreak ((isToken_of_isIdentifier hidentifier).isBreak c hc)
  cases h with
  | blank => exact fun c hc => absurd hc List.not_mem_nil
  | statement hspells =>
      exact fun c hc => hbreak ((trimmed_and_isBreak_of_spells hspells).2 c hc)
  | label hidentifier ha =>
      simp only [List.forall_mem_append, List.forall_mem_singleton]
      exact ⟨⟨hname hidentifier, hgap ha⟩, by decide⟩
  | both hidentifier ha hb hspells =>
      simp only [List.forall_mem_append, List.forall_mem_cons]
      exact ⟨⟨⟨hname hidentifier, hgap ha⟩, by decide, hgap hb⟩, fun c hc =>
        hbreak ((trimmed_and_isBreak_of_spells hspells).2 c hc)⟩

/-- Comment and outer white space of a line are dropped. -/
theorem Frames.trim_eq (h : Frames core text) (hcore : SpellsCore label statement core) :
    trim (text.takeWhile (· != '#')) = core := by
  have hgap : ∀ {a : List Char}, IsGap a → ∀ c ∈ a, (c != '#') = true := by
    intro a ha c hc
    rw [bne_iff_ne]
    rintro rfl
    exact absurd (ha.blank _ hc) (by decide)
  have hinline : ∀ {a b : List Char}, IsGap a → IsGap b →
      ∀ c ∈ a ++ core ++ b, (c != '#') = true := by
    intro a b ha hb
    rw [List.forall_mem_append, List.forall_mem_append]
    exact ⟨⟨hgap ha, fun c hc => bne_iff_ne.2 (hcore.isInline c hc).1⟩, hgap hb⟩
  have htrim : ∀ {a b : List Char}, IsGap a → IsGap b → trim (a ++ core ++ b) = core := by
    intro a b ha hb
    rcases hcore.trimmed with rfl | htrimmed
    · rw [List.append_nil]
      exact trim_of_blank (ha.blank.append hb.blank)
    · exact trim_append ha.blank htrimmed hb.blank
  cases h with
  | plain ha hb =>
      rename_i a b
      have htake : (a ++ core ++ b ++ []).takeWhile (· != '#') = a ++ core ++ b :=
        takeWhile_append_of_stop (hinline ha hb) fun c hc => by contradiction
      rw [List.append_nil] at htake
      rw [htake, htrim ha hb]
  | comment ha hb hcomment =>
      rw [takeWhile_append_of_stop (hinline ha hb) fun c hc => ?_, htrim ha hb]
      obtain rfl : '#' = c := Option.some.inj hc
      decide

/-- A label is what stands before the first colon. -/
theorem cut_label {name a : List Char} (hname : IsToken name) (ha : IsGap a) (tail : List Char) :
    ':' ∈ name ++ a ++ ':' :: tail ∧
      trim ((name ++ a ++ ':' :: tail).takeWhile (· != ':')) = name ∧
      ((name ++ a ++ ':' :: tail).dropWhile (· != ':')).drop 1 = tail := by
  have hbefore : ':' ∉ name ++ a := by
    have hmark := List.forall_mem_append.2 ⟨hname.whole, ha.isMark⟩
    exact fun hmem => absurd (hmark _ hmem) (by decide)
  refine ⟨List.mem_append_right _ List.mem_cons_self, ?_, ?_⟩
  · rw [takeWhile_bne_append hbefore]
    exact trim_append .nil hname.trimmed ha.blank
  · rw [dropWhile_bne_append hbefore]
    rfl

theorem ofLine?_of_spells (hcore : SpellsCore label statement core) (hframes : Frames core text)
    (number : Nat) :
    (label = none ∧ statement = none ∧ Row.ofLine? number text = none) ∨
      ∃ s, Row.ofLine? number text = some ⟨number, core, label.map String.toList, s⟩ ∧
        Reads statement s := by
  have htrim := hframes.trim_eq hcore
  simp only [Row.ofLine?, htrim]
  cases hcore with
  | blank => exact .inl ⟨rfl, rfl, rfl⟩
  | statement hspells =>
      obtain ⟨htrimmed, hbreak⟩ := trimmed_and_isBreak_of_spells hspells
      have hcolon : ':' ∉ core := fun hmem => absurd (hbreak _ hmem) (by decide)
      refine .inr ⟨core, ?_, .some htrimmed.ne_nil (ofText_of_spells hspells)⟩
      rw [if_neg htrimmed.ne_nil, if_neg hcolon]
      rfl
  | label hidentifier ha =>
      rename_i name a
      obtain ⟨hmem, hlabel, hrest⟩ := cut_label (isToken_of_isIdentifier hidentifier) ha []
      refine .inr ⟨[], ?_, .none⟩
      rw [if_neg (List.ne_nil_of_mem hmem), if_pos hmem, hlabel, hrest]
      rfl
  | both hidentifier ha hb hspells =>
      rename_i name statement a b s
      obtain ⟨htrimmed, -⟩ := trimmed_and_isBreak_of_spells hspells
      obtain ⟨hmem, hlabel, hrest⟩ :=
        cut_label (isToken_of_isIdentifier hidentifier) ha (b ++ s)
      have hstatement : trim (b ++ s) = s := by
        have hbetween := trim_append hb.blank htrimmed .nil
        rw [List.append_nil] at hbetween
        exact hbetween
      refine .inr ⟨s, ?_, .some htrimmed.ne_nil (ofText_of_spells hspells)⟩
      have hassoc : name.toList ++ a ++ ':' :: b ++ s = name.toList ++ a ++ ':' :: (b ++ s) := by
        simp only [List.append_assoc, List.cons_append]
      rw [hassoc, if_neg (List.ne_nil_of_mem hmem), if_pos hmem, hlabel, hrest, hstatement]
      rfl

theorem Frames.isInline (h : Frames core text) (hcore : '\n' ∉ core) : '\n' ∉ text := by
  cases h with
  | plain ha hb =>
      simp only [List.mem_append, not_or]
      exact ⟨⟨ha.inline, hcore⟩, hb.inline⟩
  | comment ha hb hcomment =>
      simp only [List.mem_append, List.mem_cons, not_or]
      exact ⟨⟨⟨ha.inline, hcore⟩, hb.inline⟩, by decide, hcomment⟩

theorem rows_source (lines : List Line) :
    rows (Line.source lines) = rowsFrom 1 (lines.map Line.text) := by
  rw [rows, Asm.lines, Line.source, String.toList_ofList]
  cases lines with
  | nil => rfl
  | cons line lines =>
      rw [List.splitOn_intercalate]
      · intro text htext hmem
        obtain ⟨line, -, rfl⟩ := List.mem_map.1 htext
        exact line.framed.isInline (fun hmem => (line.spelled.isInline _ hmem).2 rfl) hmem
      · exact List.cons_ne_nil _ _

end FiveStage.Asm
