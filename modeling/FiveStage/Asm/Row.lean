import FiveStage.Text.Blank

/-!
# Rows

A source text is cut into lines at line feeds. Of every line the comment, from the first
`#` on, and the white space around the rest are dropped. A line with something left is a
row: an optional label before the first colon, and a statement, which may be empty after
a label. Rows are found line by line, so no line has a say in how another one is cut.

A carriage return before a line feed is white space at the end of its line, which makes
both kinds of line ends mean the same.
-/

namespace FiveStage.Asm

open Text

/-- A source line that is not blank. -/
structure Row where
  /-- Number of the source line, from one. -/
  line : Nat
  /-- The trimmed line without its comment. It is not empty. -/
  text : List Char
  /-- The trimmed text before the first colon, if there is a colon. -/
  label : Option (List Char)
  /-- The trimmed statement; empty if the row is a label alone. -/
  statement : List Char
  deriving DecidableEq

namespace Row

/-- The row of a line, unless the line is blank. -/
def ofLine? (line : Nat) (source : List Char) : Option Row :=
  let text := trim (source.takeWhile (· != '#'))
  if text = [] then none
  else if ':' ∈ text then
    some {
      line, text
      label := some (trim (text.takeWhile (· != ':')))
      statement := trim ((text.dropWhile (· != ':')).drop 1) }
  else some { line, text, label := none, statement := text }

end Row

/-- The lines of a source text, without their line feeds. -/
def lines (source : String) : List (List Char) := source.toList.splitOn '\n'

/-- The rows of a list of lines, of which the first one has the given number. -/
def rowsFrom (first : Nat) (lines : List (List Char)) : List Row :=
  (lines.zipIdx first).filterMap fun (source, line) => Row.ofLine? line source

/-- The rows of a source text. -/
def rows (source : String) : List Row := rowsFrom 1 (lines source)

@[simp] theorem rowsFrom_nil (first : Nat) : rowsFrom first [] = [] := rfl

theorem rowsFrom_cons (first : Nat) (source : List Char) (rest : List (List Char)) :
    rowsFrom first (source :: rest) =
      (Row.ofLine? first source).toList ++ rowsFrom (first + 1) rest := by
  simp only [rowsFrom, List.zipIdx_cons, List.filterMap_cons]
  split <;> simp [*]

theorem rowsFrom_append (first : Nat) (before after : List (List Char)) :
    rowsFrom first (before ++ after) =
      rowsFrom first before ++ rowsFrom (first + before.length) after := by
  unfold rowsFrom
  rw [List.zipIdx_append, List.filterMap_append, Nat.add_comm]

end FiveStage.Asm
