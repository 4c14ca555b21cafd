import FiveStage.Text.CaseTable

/-!
# Capital letters

`upper` replaces every character by its capital form, character by character and without
regard to language or context. The result can be longer than the text: the sharp s
becomes two letters.
-/

namespace FiveStage.Text

/-- The capital form of one character. ASCII letters need no table. -/
def upperChar (c : Char) : List Char :=
  if c.toNat < 128 then [c.toUpper]
  else
    match caseExpansions.find? (fun entry => entry.1 == c.toNat) with
    | some (_, capitals) => capitals.map Char.ofNat
    | none =>
      match caseRuns.findSome? (fun run => run.capital? c.toNat) with
      | some capital => [Char.ofNat capital]
      | none => [c]

/-- The capital form of a text. -/
def upper (s : List Char) : List Char := s.flatMap upperChar

@[simp] theorem upper_nil : upper [] = [] := rfl

@[simp] theorem upper_append (s t : List Char) : upper (s ++ t) = upper s ++ upper t := by
  simp [upper]

end FiveStage.Text
