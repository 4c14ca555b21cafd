/-!
# White space

The white space of assembly text is that of Unicode together with the four separator
controls `U+001C` to `U+001F`. It is wider than the white space of `Char.isWhitespace`,
and it does not contain the zero-width characters. A carriage return is white space like
any other.

`trim` removes it at both ends. What is left is empty exactly when all was blank
(`trim_eq_nil_iff`). Around the numeral of a key the separator controls are no white space, so
what is dropped at both ends there is a class of its own.
-/

namespace FiveStage.Text

/-- White space between tokens. -/
def isBlank (c : Char) : Bool :=
  let n := c.toNat
  (9 ≤ n && n ≤ 13) || (28 ≤ n && n ≤ 32) || n == 0x85 || n == 0xA0 || n == 0x1680 ||
    (0x2000 ≤ n && n ≤ 0x200A) || n == 0x2028 || n == 0x2029 || n == 0x202F ||
    n == 0x205F || n == 0x3000

/-- Drops white space at the front. -/
def trimLeft (s : List Char) : List Char := s.dropWhile isBlank

/-- Drops white space at the end. -/
def trimRight (s : List Char) : List Char := (s.reverse.dropWhile isBlank).reverse

/-- Drops white space at both ends and keeps it inside. -/
def trim (s : List Char) : List Char := trimRight (trimLeft s)

/-- Drops the characters of a class at both ends. -/
def dropEnds (drop : Char → Bool) (s : List Char) : List Char :=
  ((s.dropWhile drop).reverse.dropWhile drop).reverse

/-- White space around the numeral of a key. It leaves out the separator controls. -/
def isPadding (c : Char) : Bool := isBlank c && !(28 ≤ c.toNat && c.toNat ≤ 31)

@[simp] theorem trimLeft_nil : trimLeft [] = [] := rfl

@[simp] theorem trimRight_nil : trimRight [] = [] := rfl

@[simp] theorem trim_nil : trim [] = [] := rfl

theorem trimLeft_cons (c : Char) (s : List Char) :
    trimLeft (c :: s) = if isBlank c then trimLeft s else c :: s := by
  simp only [trimLeft, List.dropWhile_cons]

theorem trimLeft_eq_nil_iff {s : List Char} : trimLeft s = [] ↔ ∀ c ∈ s, isBlank c = true := by
  induction s with
  | nil => simp
  | cons c s ih =>
    rw [trimLeft_cons]
    by_cases h : isBlank c = true <;> simp [h, ih]

theorem trimRight_eq_nil_iff {s : List Char} :
    trimRight s = [] ↔ ∀ c ∈ s, isBlank c = true := by
  rw [trimRight, List.reverse_eq_nil_iff]
  exact (trimLeft_eq_nil_iff (s := s.reverse)).trans (by simp only [List.mem_reverse])

/-- Trimming stops at the first character that is not blank. -/
theorem not_isBlank_of_trimLeft_eq_cons {c : Char} {s rest : List Char}
    (h : trimLeft s = c :: rest) : isBlank c = false := by
  induction s with
  | nil => simp at h
  | cons d s ih =>
    rw [trimLeft_cons] at h
    by_cases hd : isBlank d = true
    · exact ih (by simpa [hd] using h)
    · simp only [hd, Bool.false_eq_true, ↓reduceIte, List.cons.injEq] at h
      rw [← h.1]
      simpa using hd

theorem trim_eq_nil_iff {s : List Char} : trim s = [] ↔ ∀ c ∈ s, isBlank c = true := by
  rw [← trimLeft_eq_nil_iff, trim, trimRight_eq_nil_iff]
  match hs : trimLeft s with
  | [] => simp
  | c :: rest =>
    have hc := not_isBlank_of_trimLeft_eq_cons hs
    simp [hc]

end FiveStage.Text
