import FiveStage.Asm.Statement
import FiveStage.Proofs.Text.Numeral

/-!
# The shape of an address

An address is a numeral and, in parentheses, something that may stand for a base, with any white
space around the parentheses. Splitting an address finds the two parts of every text of this
shape and of no other (`split?_eq_some_iff`), so there is never a choice of what the parts are.
Whether they mean anything is another question: the numeral may have no value, and the base need
not be a register.
-/

namespace FiveStage.Asm.Address

open Text

/-- The spelling of an offset and a base. -/
inductive Shaped (numeral : Numeral) (base : List Char) : List Char → Prop
  | intro {a b c : List Char} : numeral.WellFormed → Blank a → Blank b → base ≠ [] →
    (∀ d ∈ base, isBaseChar d = true) → Blank c →
    Shaped numeral base (numeral.spelling ++ (a ++ '(' :: (b ++ (base ++ (c ++ [')'])))))

variable {numeral : Numeral} {base token : List Char}

theorem isBlank_of_isBaseChar {c : Char} (h : isBaseChar c = true) : isBlank c = false := by
  rw [isBaseChar, Bool.not_eq_true', Bool.or_eq_false_iff] at h
  exact h.2

theorem isBaseChar_of_isOrdinary {c : Char} (h : isOrdinary c = true) : isBaseChar c = true := by
  rw [isOrdinary, Bool.not_eq_true'] at h
  simp only [Bool.or_eq_false_iff] at h
  obtain ⟨⟨⟨⟨⟨hblank, -⟩, -⟩, -⟩, hopen⟩, hclose⟩ := h
  rw [isBaseChar, hopen, hclose, hblank]
  rfl

theorem split?_of_shaped (h : Shaped numeral base token) : split? token = some (numeral, base) := by
  obtain ⟨hnumeral, ha, hb, hne, hbase, hc⟩ := h
  rename_i a b c
  have hends : EndsNumeral (a ++ '(' :: (b ++ (base ++ (c ++ [')'])))) := by
    intro d hd
    cases a with
    | nil => exact .inl (Option.some.inj hd).symm
    | cons first a =>
        obtain rfl : first = d := Option.some.inj hd
        exact .inr (ha first List.mem_cons_self)
  have hopen : trimLeft (a ++ '(' :: (b ++ (base ++ (c ++ [')'])))) =
      '(' :: (b ++ (base ++ (c ++ [')']))) := by
    refine trimLeft_append ha ?_
    intro d hd
    obtain rfl : '(' = d := Option.some.inj hd
    decide
  have hinside : trimLeft (b ++ (base ++ (c ++ [')']))) = base ++ (c ++ [')']) := by
    refine trimLeft_append hb ?_
    rw [head?_append_of_ne_nil hne]
    intro d hd
    exact isBlank_of_isBaseChar (hbase d (List.mem_of_mem_head? hd))
  have hstop : ∀ d ∈ (c ++ [')']).head?, isBaseChar d = false := by
    intro d hd
    cases c with
    | nil =>
        obtain rfl : ')' = d := Option.some.inj hd
        decide
    | cons first c =>
        obtain rfl : first = d := Option.some.inj hd
        rw [isBaseChar, hc first List.mem_cons_self, Bool.or_true]
        rfl
  have hclosed : trimLeft (c ++ [')']) = [')'] := by
    refine trimLeft_append hc ?_
    intro d hd
    obtain rfl : ')' = d := Option.some.inj hd
    decide
  rw [split?, Numeral.read?_spelling_append hnumeral hends]
  simp only [hopen, hinside]
  rw [takeWhile_append_of_stop hbase hstop, dropWhile_append_of_stop hbase hstop, hclosed,
    if_pos ⟨hne, rfl⟩]

/-- What is split off was there, with nothing but white space in between. -/
theorem shaped_of_split? (hhead : ∀ c ∈ token.head?, isBlank c = false)
    (h : split? token = some (numeral, base)) : Shaped numeral base token := by
  rw [split?] at h
  split at h
  · contradiction
  · rename_i found rest hread
    split at h
    · rename_i inside hopen
      dsimp only at h
      split at h
      · rename_i hbase
        simp only [Option.some.injEq, Prod.mk.injEq] at h
        obtain ⟨rfl, rfl⟩ := h
        have hnumeral := Numeral.wellFormed_of_read? hread hhead
        have hinside := List.takeWhile_append_dropWhile (p := isBaseChar) (l := trimLeft inside)
        have hclosed := takeWhile_append_trimLeft ((trimLeft inside).dropWhile isBaseChar)
        rw [hbase.2] at hclosed
        have hshaped := Shaped.intro hnumeral (blank_takeWhile rest) (blank_takeWhile inside)
          hbase.1 (fun d hd => List.mem_takeWhile_imp hd)
          (blank_takeWhile ((trimLeft inside).dropWhile isBaseChar))
        rw [hclosed, hinside, takeWhile_append_trimLeft, ← hopen, takeWhile_append_trimLeft,
          Numeral.spelling_append_of_read? hread] at hshaped
        exact hshaped
      · contradiction
    · contradiction

/-- An address is split exactly if it has the shape, and the parts are those of the shape. -/
theorem split?_eq_some_iff (hhead : ∀ c ∈ token.head?, isBlank c = false) :
    split? token = some (numeral, base) ↔ Shaped numeral base token :=
  ⟨shaped_of_split? hhead, split?_of_shaped⟩

end FiveStage.Asm.Address
