import GrammarServer.Text.Line

/-!
# Identifiers in a line

An identifier is a run of ASCII letters, digits and underscores.  This module finds
the run that touches a column and the columns where a given word stands alone.

Main results:

- `mem_wholeWordColumns`: a column is listed exactly when the word stands alone there.
-/

namespace GrammarServer.Text

/-- Identifiers consist of ASCII letters, ASCII digits and underscores. -/
def isIdentifierChar (c : Char) : Bool :=
  c.isAlphanum || c == '_'

/-- The character just before a column of a line. -/
def charBefore? (line : Line) (column : Nat) : Option Char :=
  (line.take column).getLast?

/-! ## The run under a column -/

/-- The columns where the identifier run touching `column` starts and stops.

The run extends to the left over the identifier characters before the column and to
the right over those from the column on.  There is none past the end of the line or
where neither neighbour is an identifier character. -/
def wordSpan? (line : Line) (column : Nat) : Option (Nat × Nat) :=
  if line.length < column then none
  else
    let left := ((line.take column).reverse.takeWhile isIdentifierChar).length
    let right := ((line.drop column).takeWhile isIdentifierChar).length
    if left + right = 0 then none else some (column - left, column + right)

/-- The characters of a line from one column to another. -/
def slice (line : Line) (start stop : Nat) : List Char :=
  (line.take stop).drop start

/-! ## Whole words -/

/-- Whether `word` occurs at `column` with no identifier character on either side. -/
def isWholeWordAt (line : Line) (word : List Char) (column : Nat) : Bool :=
  !word.isEmpty
    && word.isPrefixOf (line.drop column)
    && !(charBefore? line column).any isIdentifierChar
    && !(line.drop (column + word.length)).head?.any isIdentifierChar

/-- The columns of a line where `word` stands as a whole word, in increasing order. -/
def wholeWordColumns (line : Line) (word : List Char) : List Nat :=
  (List.range line.length).filter (isWholeWordAt line word)

/-- A whole word starts inside its line. -/
theorem lt_length_of_isWholeWordAt {line : Line} {word : List Char} {column : Nat}
    (h : isWholeWordAt line word column = true) : column < line.length := by
  simp only [isWholeWordAt, Bool.and_eq_true, Bool.not_eq_true', List.isEmpty_eq_false_iff,
    List.isPrefixOf_iff_prefix] at h
  obtain ⟨⟨⟨hne, hpre⟩, _⟩, _⟩ := h
  have hlen := hpre.length_le
  have hpos := List.length_pos_iff.mpr hne
  rw [List.length_drop] at hlen
  omega

/-- The listed columns are exactly those where the word stands alone. -/
@[simp]
theorem mem_wholeWordColumns {line : Line} {word : List Char} {column : Nat} :
    column ∈ wholeWordColumns line word ↔ isWholeWordAt line word column = true := by
  simp only [wholeWordColumns, List.mem_filter, List.mem_range]
  exact ⟨And.right, fun h => ⟨lt_length_of_isWholeWordAt h, h⟩⟩

end GrammarServer.Text
