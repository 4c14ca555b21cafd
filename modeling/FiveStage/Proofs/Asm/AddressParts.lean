import FiveStage.Proofs.Asm.Faults
import FiveStage.Proofs.Asm.Reading
import Mathlib.Data.Nat.Digits.Defs

/-!
# Addresses, part by part

An address has five parts around its two parentheses, of which three are white space. Every token
can be cut in at most one way (`Address.Parts.eq_of_text_eq`), though white space may have any
length and a zero can be the start of two kinds of numerals.

With the parts it is known what becomes of a token (`Address.exact_read`). It is read exactly if it
can be cut, its offset stands for an integer and its base is a register. Without a cut, and without
a register in a cut whose offset does stand for an integer, there is a diagnostic.
-/

namespace FiveStage

namespace Text

/-! ## The number of a numeral -/

/-- The number that digits stand for by their places. -/
def Magnitude.number : Magnitude → Nat
  | .decimal digits => Nat.ofDigits 10 (digits.reverse.map fun c => (digitValue? c).getD 0)
  | .hexadecimal _ digits => Nat.ofDigits 16 (digits.reverse.map fun c => (hexValue? c).getD 0)

/-- The integer that a numeral stands for, if it stands for one. -/
def Numeral.integer (numeral : Numeral) : Int := numeral.sign.apply numeral.magnitude.number

theorem digitsValue_eq_ofDigits (base : Nat) (value? : Char → Option Nat) (digits : List Char) :
    digitsValue base value? digits =
      Nat.ofDigits base (digits.reverse.map fun c => (value? c).getD 0) := by
  induction digits using List.reverseRecOn with
  | nil => rfl
  | append_singleton digits c ih =>
      rw [digitsValue_concat, ih, List.reverse_append, List.reverse_singleton,
        List.singleton_append, List.map_cons, Nat.ofDigits_cons, Nat.add_comm, Nat.mul_comm]

theorem Magnitude.value_of_not_oversized {magnitude : Magnitude} (h : ¬ magnitude.Oversized) :
    magnitude.value = .ok magnitude.number := by
  cases magnitude with
  | decimal digits =>
      rw [value, if_pos (Nat.le_of_not_lt h), decimalValue, digitsValue_eq_ofDigits]
      rfl
  | hexadecimal mark digits =>
      rw [value, hexadecimalValue, digitsValue_eq_ofDigits]
      rfl

theorem Numeral.value_of_not_valueless {numeral : Numeral} (h : ¬ numeral.Valueless) :
    numeral.value = .ok numeral.integer := by
  rw [Valueless, not_or, ← strayBlanks_eq_nil_iff] at h
  rw [value, if_pos h.1, Magnitude.value_of_not_oversized h.2]
  rfl

theorem Numeral.value_eq_ok_iff {numeral : Numeral} {n : Int} :
    numeral.value = .ok n ↔ ¬ numeral.Valueless ∧ n = numeral.integer := by
  constructor
  · intro hvalue
    have hvalued := exists_value_iff.1 ⟨n, hvalue⟩
    rw [value_of_not_valueless hvalued] at hvalue
    exact ⟨hvalued, (Except.ok.inj hvalue).symm⟩
  · rintro ⟨hvalued, rfl⟩
    exact value_of_not_valueless hvalued

/-- Two texts are cut in the same place where characters of one kind end. -/
theorem append_inj_of_stop {p : Char → Bool} {s s' rest rest' : List Char}
    (hs : ∀ c ∈ s, p c = true) (hs' : ∀ c ∈ s', p c = true)
    (hrest : ∀ c ∈ rest.head?, p c = false) (hrest' : ∀ c ∈ rest'.head?, p c = false)
    (h : s ++ rest = s' ++ rest') : s = s' ∧ rest = rest' := by
  refine ⟨?_, ?_⟩
  · rw [← takeWhile_append_of_stop hs hrest, h, takeWhile_append_of_stop hs' hrest']
  · rw [← dropWhile_append_of_stop hs hrest, h, dropWhile_append_of_stop hs' hrest']

end Text

namespace Asm

open Text

/-! ## Registers -/

theorem register?_eq_some_iff {token : List Char} {register : Fin 32} :
    register? token = some register ↔ SpellsRegister register token := by
  refine ⟨?_, register?_of_spells⟩
  intro h
  cases token with
  | nil => contradiction
  | cons letter digits =>
      rw [register?] at h
      split at h
      · rename_i hspelled
        obtain ⟨hletter, hdigits, hpos, hshort⟩ := hspelled
        split at h
        · cases h
          exact .intro hletter (List.all_eq_true.1 hdigits) hpos hshort rfl
        · contradiction
      · contradiction

theorem register?_eq_none_iff {token : List Char} :
    register? token = none ↔ ∀ register, ¬ SpellsRegister register token := by
  simp only [← register?_eq_some_iff, Option.eq_none_iff_forall_ne_some, ne_eq]

namespace Address

/-! ## Parts -/

/-- An address cut into its parts. -/
@[ext] structure Parts where
  numeral : Numeral
  beforeOpen : List Char
  afterOpen : List Char
  base : List Char
  beforeClose : List Char

namespace Parts

/-- The parts in their order, with the parentheses. -/
def text (parts : Parts) : List Char :=
  parts.numeral.spelling ++ (parts.beforeOpen ++
    '(' :: (parts.afterOpen ++ (parts.base ++ (parts.beforeClose ++ [')']))))

/-- The parts are of the kinds that an address has. -/
structure WellFormed (parts : Parts) : Prop where
  numeral : parts.numeral.WellFormed
  beforeOpen : Blank parts.beforeOpen
  afterOpen : Blank parts.afterOpen
  base_ne_nil : parts.base ≠ []
  base : ∀ c ∈ parts.base, isBaseChar c = true
  beforeClose : Blank parts.beforeClose

/-- The offset stands for an integer and the base is a register, and these make the address. -/
structure Denotes (parts : Parts) (address : Address) : Prop where
  valued : ¬ parts.numeral.Valueless
  offset : address.offset = parts.numeral.integer
  base : SpellsRegister address.base parts.base

variable {parts parts' : Parts}

theorem WellFormed.shaped (h : parts.WellFormed) :
    Shaped parts.numeral parts.base parts.text :=
  .intro h.numeral h.beforeOpen h.afterOpen h.base_ne_nil h.base h.beforeClose

theorem exists_of_shaped {numeral : Numeral} {base token : List Char}
    (h : Shaped numeral base token) :
    ∃ parts : Parts, parts.WellFormed ∧ parts.text = token ∧ parts.numeral = numeral ∧
      parts.base = base := by
  obtain ⟨hnumeral, ha, hb, hne, hbase, hc⟩ := h
  exact ⟨⟨numeral, _, _, base, _⟩, ⟨hnumeral, ha, hb, hne, hbase, hc⟩, rfl, rfl, rfl⟩

/-- A token is cut in at most one way. -/
theorem eq_of_text_eq (h : parts.WellFormed) (h' : parts'.WellFormed)
    (htext : parts.text = parts'.text) : parts = parts' := by
  have hsplit := split?_of_shaped h.shaped
  rw [htext, split?_of_shaped h'.shaped, Option.some_inj, Prod.mk.injEq] at hsplit
  obtain ⟨hnumeral, hbase⟩ := hsplit
  have hparenthesis {c : Char} {rest : List Char} (hc : c = '(' ∨ c = ')') :
      ∀ d ∈ (c :: rest).head?, isBlank d = false := by
    rintro d ⟨⟩
    rcases hc with rfl | rfl <;> decide
  have hstart (rest : List Char) : ∀ d ∈ (parts.base ++ rest).head?, isBlank d = false := by
    intro d hd
    rw [head?_append_of_ne_nil h.base_ne_nil] at hd
    exact isBlank_of_isBaseChar (h.base d (List.mem_of_mem_head? hd))
  -- Each piece of white space ends where a character of another kind follows.
  rw [text, text, hnumeral, hbase] at htext
  obtain ⟨hbeforeOpen, hopened⟩ := append_inj_of_stop h.beforeOpen h'.beforeOpen
    (hparenthesis (.inl rfl)) (hparenthesis (.inl rfl)) (List.append_cancel_left htext)
  obtain ⟨hafterOpen, hinside⟩ := append_inj_of_stop h.afterOpen h'.afterOpen (hstart _) (hstart _)
    (List.cons.inj hopened).2
  obtain ⟨hbeforeClose, -⟩ := append_inj_of_stop h.beforeClose h'.beforeClose
    (hparenthesis (.inr rfl)) (hparenthesis (.inr rfl)) (List.append_cancel_left hinside)
  exact Parts.ext hnumeral.symm hbeforeOpen hafterOpen hbase.symm hbeforeClose

end Parts

/-! ## Reading -/

variable {token : List Char}

theorem split?_trim_eq_some_iff {numeral : Numeral} {base : List Char} :
    split? (trim token) = some (numeral, base) ↔
      ∃ parts : Parts, parts.WellFormed ∧ parts.text = trim token ∧ parts.numeral = numeral ∧
        parts.base = base := by
  rw [split?_eq_some_iff (not_isBlank_head_trim token)]
  constructor
  · exact Parts.exists_of_shaped
  · rintro ⟨parts, hformed, htext, rfl, rfl⟩
    rw [← htext]
    exact hformed.shaped

theorem read_eq_ok_iff {address : Address} :
    read token = .ok address ↔
      ∃ parts : Parts, parts.WellFormed ∧ parts.text = trim token ∧ parts.Denotes address := by
  rw [read]
  constructor
  · intro hread
    split at hread
    · contradiction
    · rename_i hsplit
      obtain ⟨parts, hformed, htext, rfl, rfl⟩ := split?_trim_eq_some_iff.1 hsplit
      split at hread
      · contradiction
      · rename_i hvalue
        obtain ⟨hvalued, hoffset⟩ := Numeral.value_eq_ok_iff.1 hvalue
        split at hread
        · rename_i hregister
          cases hread
          exact ⟨parts, hformed, htext, hvalued, hoffset, register?_eq_some_iff.1 hregister⟩
        · contradiction
  · rintro ⟨parts, hformed, htext, hvalued, hoffset, hbase⟩
    rw [split?_trim_eq_some_iff.2 ⟨parts, hformed, htext, rfl, rfl⟩]
    dsimp only
    rw [Numeral.value_eq_ok_iff.2 ⟨hvalued, hoffset⟩, register?_of_spells hbase]

theorem read_eq_problem_iff {problem : Problem} :
    read token = .error (.problem problem) ↔
      (∀ parts : Parts, parts.WellFormed → parts.text ≠ trim token) ∧
          problem = .malformedAddress (String.ofList token) ∨
        ∃ parts : Parts, parts.WellFormed ∧ parts.text = trim token ∧
          ¬ parts.numeral.Valueless ∧ (∀ register, ¬ SpellsRegister register parts.base) ∧
          problem = .notBase (String.ofList parts.base) (String.ofList token) := by
  rw [read]
  constructor
  · intro hread
    split at hread
    · rename_i hsplit
      cases hread
      refine .inl ⟨?_, rfl⟩
      intro parts hformed htext
      rw [split?_trim_eq_some_iff.2 ⟨parts, hformed, htext, rfl, rfl⟩] at hsplit
      contradiction
    · rename_i hsplit
      obtain ⟨parts, hformed, htext, rfl, rfl⟩ := split?_trim_eq_some_iff.1 hsplit
      split at hread
      · simp at hread
      · rename_i hvalue
        obtain ⟨hvalued, -⟩ := Numeral.value_eq_ok_iff.1 hvalue
        split at hread
        · contradiction
        · rename_i hregister
          cases hread
          exact .inr ⟨parts, hformed, htext, hvalued, register?_eq_none_iff.1 hregister, rfl⟩
  · rintro (⟨hnone, rfl⟩ | ⟨parts, hformed, htext, hvalued, hregister, rfl⟩)
    · cases hsplit : split? (trim token) with
      | none => rfl
      | some found =>
          obtain ⟨parts, hformed, htext, -⟩ := split?_trim_eq_some_iff.1 hsplit
          exact absurd htext (hnone parts hformed)
    · rw [split?_trim_eq_some_iff.2 ⟨parts, hformed, htext, rfl, rfl⟩]
      dsimp only
      rw [Numeral.value_of_not_valueless hvalued, register?_eq_none_iff.2 hregister]

/-- A token is read as an address exactly if it can be cut into parts that make the address, of
which there are never two. There is a diagnostic if it cannot be cut, and if the base of a cut with
an integer for an offset is not a register. -/
theorem exact_read (token : List Char) :
    (∀ address, read token = .ok address ↔
        ∃ parts : Parts, parts.WellFormed ∧ parts.text = trim token ∧ parts.Denotes address) ∧
      (∀ parts parts' : Parts, parts.WellFormed → parts'.WellFormed →
        parts.text = parts'.text → parts = parts') ∧
      ∀ problem, read token = .error (.problem problem) ↔
        (∀ parts : Parts, parts.WellFormed → parts.text ≠ trim token) ∧
            problem = .malformedAddress (String.ofList token) ∨
          ∃ parts : Parts, parts.WellFormed ∧ parts.text = trim token ∧
            ¬ parts.numeral.Valueless ∧ (∀ register, ¬ SpellsRegister register parts.base) ∧
            problem = .notBase (String.ofList parts.base) (String.ofList token) := by
  refine ⟨?_, ?_, ?_⟩
  · intro address
    exact read_eq_ok_iff
  · intro parts parts' hformed hformed' htext
    exact Parts.eq_of_text_eq hformed hformed' htext
  · intro problem
    exact read_eq_problem_iff

/-- A sign with spaces behind it, digits of two scripts, and white space of three kinds. -/
def spaciousParts : Parts where
  numeral := ⟨.minus, [' ', ' '], .decimal ['٤', '2']⟩
  beforeOpen := [' ']
  afterOpen := ['\t']
  base := ['r', '٠', '7']
  beforeClose := [' ']

theorem wellFormed_spaciousParts : spaciousParts.WellFormed where
  numeral := ⟨⟨by decide, List.all_eq_true.1 (by decide +kernel)⟩, (isGap_replicate 2).blank,
    by decide⟩
  beforeOpen := (isGap_replicate 1).blank
  afterOpen := List.all_eq_true.1 (by decide)
  base_ne_nil := by decide
  base := List.all_eq_true.1 (by decide +kernel)
  beforeClose := (isGap_replicate 1).blank

theorem exact_read_spacious :
    read "-  ٤2 (\tr٠7 )\n".toList = .ok ⟨-42, 7⟩ ∧
      ∀ parts : Parts, parts.WellFormed → parts.text = "-  ٤2 (\tr٠7 )".toList →
        parts = spaciousParts := by
  obtain ⟨hread, hunique, -⟩ := exact_read "-  ٤2 (\tr٠7 )\n".toList
  refine ⟨(hread _).2 ⟨spaciousParts, wellFormed_spaciousParts, by decide +kernel, ?_⟩, ?_⟩
  · refine ⟨?_, by decide +kernel, ?_⟩
    · exact Numeral.exists_value_iff.1 ⟨-42, by decide +kernel⟩
    · exact .intro (.inr rfl) (List.all_eq_true.1 (by decide +kernel)) (by decide) (by decide)
        (by decide +kernel)
  · intro parts hformed htext
    exact hunique parts spaciousParts hformed wellFormed_spaciousParts
      (htext.trans (by decide +kernel))

end Address

end Asm

end FiveStage
