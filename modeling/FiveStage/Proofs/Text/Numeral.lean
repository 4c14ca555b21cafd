import FiveStage.Proofs.Text.Trim
import FiveStage.Text.Numeral

/-!
# Reading numerals back

A well-formed numeral is read from the front of a text as it is spelled, if what follows
cannot be taken for a part of it (`read?_spelling_append`). Here that is the end of the text,
white space or an opening parenthesis.

Facts about digits are checked character by character: those of decimal digits over the
table of zeros, those of hexadecimal digits over ASCII.
-/

namespace FiveStage.Text

/-- Not white space, and nothing that separates or ends what it stands in. -/
def isOrdinary (c : Char) : Bool :=
  !(isBlank c || c == ',' || c == ':' || c == '#' || c == '(' || c == ')')

theorem isBlank_of_isOrdinary {c : Char} (h : isOrdinary c = true) : isBlank c = false := by
  rw [isOrdinary, Bool.not_eq_true'] at h
  simp only [Bool.or_eq_false_iff] at h
  exact h.1.1.1.1.1

/-! ## Digits -/

theorem of_isDigit {p : Char → Bool}
    (h : ∀ first ∈ digitZeros, ∀ d < 10, p (Char.ofNat (first + d)) = true) {c : Char}
    (hc : isDigit c = true) : p c = true := by
  rw [isDigit, digitValue?, Option.isSome_map, Option.isSome_iff_exists] at hc
  obtain ⟨first, hfirst⟩ := hc
  have hmem := List.mem_of_find?_eq_some hfirst
  have hrange := List.find?_some hfirst
  rw [decide_eq_true_eq] at hrange
  obtain ⟨d, hd⟩ := Nat.exists_eq_add_of_le hrange.1
  have hp := h first hmem d (by omega)
  rw [← hd, Char.ofNat_toNat] at hp
  exact hp

/-- What holds of every character in ASCII can be checked one by one. -/
theorem of_ascii {p : Char → Prop} (h : ∀ n < 128, p (Char.ofNat n)) {c : Char}
    (hc : c.toNat < 128) : p c := by
  have hp := h c.toNat hc
  rw [Char.ofNat_toNat] at hp
  exact hp

theorem digitValue?_of_isDigit {c : Char} (h : c.isDigit = true) :
    digitValue? c = some (c.toNat - 48) := by
  have hrange : 48 ≤ c.toNat ∧ c.toNat < 48 + 10 := by
    simp only [Char.isDigit, Bool.and_eq_true, decide_eq_true_eq] at h
    have hlow := UInt32.le_iff_toNat_le.1 h.1
    have hhigh := UInt32.le_iff_toNat_le.1 h.2
    exact ⟨hlow, Nat.lt_succ_of_le hhigh⟩
  have hzero : (digitZeros.find? fun first =>
      decide (first ≤ c.toNat ∧ c.toNat < first + 10)) = some 48 :=
    List.find?_cons_of_pos (decide_eq_true hrange)
  rw [digitValue?, hzero, Option.map_some]

/-- A row of digits in ASCII stands for the number that it is converted to. -/
theorem decimalValue_eq_ofDigitChars {digits : List Char} (h : ∀ c ∈ digits, c.isDigit = true) :
    decimalValue digits = Nat.ofDigitChars 10 digits 0 := by
  have hfold : ∀ n : Nat, digits.foldl (fun number c => number * 10 + (digitValue? c).getD 0) n =
      Nat.ofDigitChars 10 digits n := by
    induction digits with
    | nil => exact fun n => rfl
    | cons c digits ih =>
        obtain ⟨hhere, hlater⟩ := List.forall_mem_cons.1 h
        intro n
        rw [List.foldl_cons, ih hlater, digitValue?_of_isDigit hhere, Nat.ofDigitChars_cons,
          Nat.mul_comm]
        rfl
  exact hfold 0

theorem of_isHexDigit {p : Char → Bool}
    (h : ∀ n < 128, isHexDigit (Char.ofNat n) = true → p (Char.ofNat n) = true) {c : Char}
    (hc : isHexDigit c = true) : p c = true := by
  have hbound : c.toNat < 128 := by
    simp only [isHexDigit, hexValue?] at hc
    split at hc
    · omega
    · split at hc
      · omega
      · split at hc
        · omega
        · contradiction
  exact of_ascii (p := fun c => isHexDigit c = true → p c = true) h hbound hc

theorem isOrdinary_of_isDigit {c : Char} (h : isDigit c = true) : isOrdinary c = true :=
  of_isDigit (by decide +kernel) h

theorem isOrdinary_of_isHexDigit {c : Char} (h : isHexDigit c = true) : isOrdinary c = true :=
  of_isHexDigit (by decide +kernel) h

theorem isBlank_of_isDigit {c : Char} (h : isDigit c = true) : isBlank c = false :=
  isBlank_of_isOrdinary (isOrdinary_of_isDigit h)

/-- What ends a numeral in front of it. -/
def EndsNumeral (rest : List Char) : Prop := ∀ c ∈ rest.head?, c = '(' ∨ isBlank c = true

/-- Nothing ordinary, so no digit of any kind, ends a numeral. -/
theorem EndsNumeral.stops {rest : List Char} (h : EndsNumeral rest) {p : Char → Bool}
    (hp : ∀ {c}, p c = true → isOrdinary c = true) : ∀ c ∈ rest.head?, p c = false := by
  intro c hc
  cases hpc : p c with
  | false => rfl
  | true =>
      have hordinary := hp hpc
      rcases h c hc with rfl | hblank
      · exact absurd hordinary (by decide)
      · rw [isBlank_of_isOrdinary hordinary] at hblank
        contradiction

/-! ## Magnitudes -/

namespace Magnitude

def WellFormed : Magnitude → Prop
  | .decimal digits => digits ≠ [] ∧ ∀ c ∈ digits, isDigit c = true
  | .hexadecimal mark digits =>
    (mark = 'x' ∨ mark = 'X') ∧ digits ≠ [] ∧ ∀ c ∈ digits, isHexDigit c = true

variable {magnitude : Magnitude} {rest s : List Char}

theorem spelling_eq_cons (h : magnitude.WellFormed) :
    ∃ c tail, magnitude.spelling = c :: tail ∧ isDigit c = true := by
  cases magnitude with
  | decimal digits =>
      obtain ⟨hne, hdigits⟩ := h
      obtain ⟨c, tail, rfl⟩ := List.exists_cons_of_ne_nil hne
      exact ⟨c, tail, rfl, hdigits c List.mem_cons_self⟩
  | hexadecimal mark digits => exact ⟨'0', mark :: digits, rfl, by decide⟩

theorem isOrdinary_spelling (h : magnitude.WellFormed) :
    ∀ c ∈ magnitude.spelling, isOrdinary c = true := by
  intro c hc
  cases magnitude with
  | decimal digits => exact isOrdinary_of_isDigit (h.2 c hc)
  | hexadecimal mark digits =>
      obtain ⟨hmark, -, hdigits⟩ := h
      rcases List.mem_cons.1 hc with rfl | hc
      · decide
      · rcases List.mem_cons.1 hc with rfl | hc
        · rcases hmark with rfl | rfl <;> decide
        · exact isOrdinary_of_isHexDigit (hdigits c hc)

/-- Only a zero with an `x` behind it can be the start of a hexadecimal magnitude. -/
theorem read?_eq_readDecimal?
    (h : ∀ mark tail, s = '0' :: mark :: tail → mark ≠ 'x' ∧ mark ≠ 'X') :
    read? s = readDecimal? s := by
  unfold read?
  split
  · rename_i mark tail
    obtain ⟨hsmall, hcapital⟩ := h mark tail rfl
    rw [if_neg]
    rintro ⟨hmark | hmark, -⟩
    · exact hsmall hmark
    · exact hcapital hmark
  · rfl

theorem readDecimal?_append (hne : s ≠ []) (hdigits : ∀ c ∈ s, isDigit c = true)
    (hstop : ∀ c ∈ rest.head?, isDigit c = false) :
    readDecimal? (s ++ rest) = some (.decimal s, rest) := by
  rw [readDecimal?, takeWhile_append_of_stop hdigits hstop, dropWhile_append_of_stop hdigits hstop]
  cases s with
  | nil => contradiction
  | cons c s => rfl

theorem read?_spelling_append (h : magnitude.WellFormed) (hstop : EndsNumeral rest) :
    read? (magnitude.spelling ++ rest) = some (magnitude, rest) := by
  cases magnitude with
  | decimal digits =>
      obtain ⟨hne, hdigits⟩ := h
      change read? (digits ++ rest) = _
      rw [read?_eq_readDecimal?,
        readDecimal?_append hne hdigits (hstop.stops isOrdinary_of_isDigit)]
      -- Behind a first zero stands a digit or what ends the numeral.
      intro mark tail heq
      have hmark : isDigit mark = true ∨ mark = '(' ∨ isBlank mark = true := by
        obtain ⟨c, others, rfl⟩ := List.exists_cons_of_ne_nil hne
        rw [List.cons_append] at heq
        injection heq with _ heq
        cases others with
        | nil =>
            rw [List.nil_append] at heq
            exact .inr (hstop mark (by rw [heq]; rfl))
        | cons d others =>
            rw [List.cons_append] at heq
            injection heq with heq _
            rw [← heq]
            exact .inl (hdigits d (List.mem_cons_of_mem _ List.mem_cons_self))
      constructor
      · rintro rfl
        exact absurd hmark (by decide)
      · rintro rfl
        exact absurd hmark (by decide)
  | hexadecimal mark digits =>
      obtain ⟨hmark, hne, hdigits⟩ := h
      change read? ('0' :: mark :: (digits ++ rest)) = _
      have hstop' := hstop.stops isOrdinary_of_isHexDigit
      simp only [read?]
      rw [takeWhile_append_of_stop hdigits hstop', dropWhile_append_of_stop hdigits hstop',
        if_pos ⟨hmark, hne⟩]

theorem wellFormed_of_readDecimal? (h : readDecimal? s = some (magnitude, rest)) :
    magnitude.WellFormed := by
  unfold readDecimal? at h
  split at h
  · contradiction
  · rename_i hne
    simp only [Option.some.injEq, Prod.mk.injEq] at h
    obtain ⟨rfl, -⟩ := h
    exact ⟨hne, fun c hc => List.mem_takeWhile_imp hc⟩

theorem wellFormed_of_read? (h : read? s = some (magnitude, rest)) : magnitude.WellFormed := by
  unfold read? at h
  split at h
  · split at h
    · rename_i hhexadecimal
      simp only [Option.some.injEq, Prod.mk.injEq] at h
      obtain ⟨rfl, -⟩ := h
      exact ⟨hhexadecimal.1, hhexadecimal.2, fun c hc => List.mem_takeWhile_imp hc⟩
    · exact wellFormed_of_readDecimal? h
  · exact wellFormed_of_readDecimal? h

/-- A decimal magnitude with more digits than are read. -/
def Oversized : Magnitude → Prop
  | .decimal digits => digitLimit < digits.length
  | .hexadecimal _ _ => False

theorem exists_value_iff : (∃ n, magnitude.value = .ok n) ↔ ¬ magnitude.Oversized := by
  cases magnitude with
  | decimal digits =>
      rw [Oversized, Nat.not_lt, value]
      by_cases hlength : digits.length ≤ digitLimit <;> simp [hlength]
  | hexadecimal mark digits => simp [Oversized, value]

end Magnitude

/-! ## Numerals -/

namespace Numeral

/-- White space may stand between a sign and a magnitude, but not in front of both. -/
structure WellFormed (numeral : Numeral) : Prop where
  magnitude : numeral.magnitude.WellFormed
  gap : Blank numeral.gap
  unsigned : numeral.sign = .absent → numeral.gap = []

variable {numeral : Numeral} {rest : List Char}

theorem read_sign_append (h : numeral.WellFormed) :
    Sign.read (numeral.spelling ++ rest) =
      (numeral.sign, numeral.gap ++ (numeral.magnitude.spelling ++ rest)) := by
  obtain ⟨sign, gap, magnitude⟩ := numeral
  obtain ⟨hmagnitude, -, hunsigned⟩ := h
  cases sign with
  | absent =>
      obtain ⟨c, tail, hspelling, hdigit⟩ := Magnitude.spelling_eq_cons hmagnitude
      dsimp only at hunsigned hspelling
      have hgap := hunsigned rfl
      simp only [spelling, Sign.spelling, hgap, hspelling, List.nil_append, List.cons_append,
        Sign.read]
      split
      · rename_i hcons
        injection hcons with hc _
        rw [hc] at hdigit
        exact absurd hdigit (by decide)
      · rename_i hcons
        injection hcons with hc _
        rw [hc] at hdigit
        exact absurd hdigit (by decide)
      · rfl
  | plus => simp [spelling, Sign.spelling, Sign.read]
  | minus => simp [spelling, Sign.spelling, Sign.read]

theorem read?_spelling_append (h : numeral.WellFormed) (hstop : EndsNumeral rest) :
    read? (numeral.spelling ++ rest) = some (numeral, rest) := by
  have hhead : ∀ c ∈ (numeral.magnitude.spelling ++ rest).head?, isBlank c = false := by
    obtain ⟨d, tail, hspelling, hdigit⟩ := Magnitude.spelling_eq_cons h.magnitude
    rw [hspelling]
    intro c hc
    obtain rfl : d = c := Option.some.inj hc
    exact isBlank_of_isDigit hdigit
  rw [read?, read_sign_append h]
  dsimp only
  rw [takeWhile_append_of_stop h.gap hhead, dropWhile_append_of_stop h.gap hhead,
    Magnitude.read?_spelling_append h.magnitude hstop]
  rfl

theorem wellFormed_of_read? {s : List Char} (h : read? s = some (numeral, rest))
    (hhead : ∀ c ∈ s.head?, isBlank c = false) : numeral.WellFormed := by
  obtain ⟨⟨magnitude, behind⟩, hread, heq⟩ := Option.map_eq_some_iff.1 h
  simp only [Prod.mk.injEq] at heq
  obtain ⟨rfl, -⟩ := heq
  refine ⟨Magnitude.wellFormed_of_read? hread, blank_takeWhile _, ?_⟩
  intro hsign
  -- Without a sign the gap is the white space in front, of which there is none.
  have hwhole := Sign.spelling_append_read s
  change (Sign.read s).1 = .absent at hsign
  rw [hsign, Sign.spelling, List.nil_append] at hwhole
  show (Sign.read s).2.takeWhile isBlank = []
  rw [hwhole]
  cases s with
  | nil => rfl
  | cons c s => rw [List.takeWhile_cons, hhead c rfl]; rfl

/-- A numeral that can be read but stands for no integer: it has other white space than plain
spaces behind its sign, or too many digits. -/
def Valueless (numeral : Numeral) : Prop :=
  (∃ c ∈ numeral.gap, c ≠ ' ') ∨ numeral.magnitude.Oversized

theorem strayBlanks_eq_nil_iff : numeral.strayBlanks = [] ↔ ¬ ∃ c ∈ numeral.gap, c ≠ ' ' := by
  simp [strayBlanks, List.filter_eq_nil_iff]

theorem exists_value_iff : (∃ n, numeral.value = .ok n) ↔ ¬ numeral.Valueless := by
  rw [Valueless, not_or, ← strayBlanks_eq_nil_iff, ← Magnitude.exists_value_iff, value]
  split
  · rename_i hgap
    cases hvalue : numeral.magnitude.value <;> simp [hgap, Except.map]
  · rename_i hgap
    simp [hgap]

/-- How a numeral fails to stand for an integer. Its white space is looked at before its digits are
counted. -/
inductive FaultsAs (numeral : Numeral) : Fault → Prop
  | spelling : numeral.strayBlanks ≠ [] →
    FaultsAs numeral (.numeralSpelling (String.ofList
      (numeral.sign.spelling ++ numeral.strayBlanks ++ numeral.magnitude.spelling)))
  | length {digits : List Char} : numeral.strayBlanks = [] →
    numeral.magnitude = .decimal digits → digitLimit < digits.length →
    FaultsAs numeral (.numeralLength digits.length)

theorem value_eq_error_iff {fault : Fault} :
    numeral.value = .error fault ↔ numeral.FaultsAs fault := by
  constructor
  · intro hvalue
    rw [value] at hvalue
    split at hvalue
    · rename_i hgap
      cases hmagnitude : numeral.magnitude with
      | hexadecimal mark digits =>
          rw [hmagnitude] at hvalue
          contradiction
      | decimal digits =>
          rw [hmagnitude, Magnitude.value] at hvalue
          split at hvalue
          · contradiction
          · rename_i hlength
            injection hvalue with hfault
            rw [← hfault]
            exact .length hgap hmagnitude (Nat.lt_of_not_le hlength)
    · rename_i hgap
      injection hvalue with hfault
      rw [← hfault]
      exact .spelling hgap
  · intro hfaults
    cases hfaults with
    | spelling hgap => exact if_neg hgap
    | length hgap hmagnitude hlength =>
        rw [value, if_pos hgap, hmagnitude, Magnitude.value, if_neg (Nat.not_le_of_lt hlength)]
        rfl

theorem valueless_iff : numeral.Valueless ↔ ∃ fault, numeral.FaultsAs fault := by
  rw [← not_iff_not, ← exists_value_iff]
  simp only [← value_eq_error_iff]
  cases numeral.value <;> simp

end Numeral

end FiveStage.Text
