/-!
# Lines of a text

A text is cut into lines at its line feeds.  The cut keeps each line's ending, so
that the lines joined with their endings give the text back.

Main results:

- `flatMap_chars_rawLines`: cutting a text into raw lines loses nothing.
- `lines_nil`: the empty text has no line.
-/

namespace GrammarServer.Text

/-- A line is the list of its characters, without its ending. -/
abbrev Line := List Char

/-- How a line of a text ends. -/
inductive LineEnd where
  /-- The line ends with a line feed. -/
  | lineFeed
  /-- The line ends with a carriage return and a line feed. -/
  | returnFeed
  /-- The line is the last one and the text stops without a line feed. -/
  | endOfText
deriving DecidableEq, Repr

/-- The characters a line ending stands for. -/
def LineEnd.chars : LineEnd → List Char
  | .lineFeed => ['\n']
  | .returnFeed => ['\r', '\n']
  | .endOfText => []

/-- A line together with its ending. -/
structure RawLine where
  content : Line
  ending : LineEnd
deriving DecidableEq, Repr

/-- The characters of a line including its ending. -/
def RawLine.chars (line : RawLine) : List Char :=
  line.content ++ line.ending.chars

/-- Cut a text at its line feeds.  One carriage return directly before a line feed
belongs to the ending; a final line feed opens no further line. -/
def rawLines : List Char → List RawLine
  | [] => []
  | '\n' :: rest => ⟨[], .lineFeed⟩ :: rawLines rest
  | '\r' :: '\n' :: rest => ⟨[], .returnFeed⟩ :: rawLines rest
  | c :: rest =>
    match rawLines rest with
    | [] => [⟨[c], .endOfText⟩]
    | line :: others => { line with content := c :: line.content } :: others

/-- The lines of a text, without their endings. -/
def lines (text : String) : List Line :=
  (rawLines text.toList).map (·.content)

/-- The empty text has no line. -/
@[simp]
theorem rawLines_nil : rawLines [] = [] := by
  rw [rawLines]

/-- The raw lines of a text, joined with their endings, are the text. -/
theorem flatMap_chars_rawLines (cs : List Char) :
    (rawLines cs).flatMap RawLine.chars = cs := by
  fun_induction rawLines cs with
  | case1 => rfl
  | case2 rest ih => simp [RawLine.chars, LineEnd.chars, ih]
  | case3 rest ih => simp [RawLine.chars, LineEnd.chars, ih]
  | case4 c rest _ _ h ih =>
    rw [h] at ih
    simp [RawLine.chars, LineEnd.chars, ← ih]
  | case5 c rest _ _ line others h ih =>
    rw [h] at ih
    simp [← ih, RawLine.chars]

/-- The empty text has no line. -/
@[simp]
theorem lines_nil : lines "" = [] := by
  simp [lines]

end GrammarServer.Text
