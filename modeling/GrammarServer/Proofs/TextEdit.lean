import GrammarServer.Document.Basic
import GrammarServer.Proofs.LineCut
import Mathlib.Order.Monotone.Basic

/-!
# Applying text edits

The edits of an answer all refer to the text before any of them is made, so they are
applied at once: a position is turned into an offset of the old text, each edit inserts
its new text at its start, and a character stays unless an edit covers it.

Main results:

- Theorem `spliceFrom_append`: a text can be edited part by part.
- Theorem `spliceFrom_flatMap_chars`: a text can be edited line by line.
- Theorem `lineStart_add_le`: offsets follow the order of the lines.
-/

namespace GrammarServer

namespace Text

/-! ## Splices -/

/-- A replacement of the characters from one offset to another. -/
structure Splice where
  start : Nat
  stop : Nat
  inserted : List Char
deriving DecidableEq, Repr

/-- What is inserted at an offset, in the order of the splices. -/
def insertedAt (splices : List Splice) (offset : Nat) : List Char :=
  (splices.filter (·.start = offset)).flatMap (·.inserted)

/-- Whether a splice removes the character at an offset. -/
def isRemovedAt (splices : List Splice) (offset : Nat) : Bool :=
  splices.any fun splice => splice.start ≤ offset && offset < splice.stop

/-- The characters from an offset on, with all splices made that start before their end. -/
def spliceFrom (splices : List Splice) (offset : Nat) : List Char → List Char
  | [] => []
  | c :: rest =>
    insertedAt splices offset
      ++ ((if isRemovedAt splices offset then [] else [c])
        ++ spliceFrom splices (offset + 1) rest)

/-- A text with all splices made. -/
def spliceAll (splices : List Splice) (text : List Char) : List Char :=
  spliceFrom splices 0 text ++ insertedAt splices text.length

/-- A text can be edited part by part. -/
theorem spliceFrom_append (splices : List Splice) (offset : Nat) (first second : List Char) :
    spliceFrom splices offset (first ++ second) =
      spliceFrom splices offset first ++ spliceFrom splices (offset + first.length) second := by
  induction first generalizing offset with
  | nil => rfl
  | cons c rest ih =>
    have hoffset : offset + 1 + rest.length = offset + (c :: rest).length := by
      rw [List.length_cons]
      omega
    simp only [List.cons_append, spliceFrom, ih, hoffset, List.append_assoc]

/-- Where no splice starts, the characters stay, or all are removed. -/
theorem spliceFrom_of_no_start {splices : List Splice} {offset : Nat} {text : List Char}
    {removed : Bool} (h : ∀ k < text.length, insertedAt splices (offset + k) = [] ∧
      isRemovedAt splices (offset + k) = removed) :
    spliceFrom splices offset text = if removed then [] else text := by
  induction text generalizing offset with
  | nil => cases removed <;> rfl
  | cons c rest ih =>
    rcases h 0 (by simp) with ⟨hinserted, hremoved⟩
    have hrest : spliceFrom splices (offset + 1) rest = if removed then [] else rest := by
      apply ih
      intro k hk
      have hshift : offset + 1 + k = offset + (k + 1) := by omega
      rw [hshift]
      exact h (k + 1) (by simpa using hk)
    rw [Nat.add_zero] at hinserted hremoved
    cases removed <;> simp [spliceFrom, hinserted, hremoved, hrest]

/-! ## Offsets -/

/-- The offset at which a line starts; past the last line, the length of the text. -/
def lineStart (list : List RawLine) (index : Nat) : Nat :=
  ((list.take index).flatMap RawLine.chars).length

/-- The offset of a position.  A column past the end of its line is the end of the line,
and a line past the last one is the end of the text. -/
def offsetOf (list : List RawLine) (position : Position) : Nat :=
  lineStart list position.line +
    match list[position.line]? with
    | some line => min position.character line.content.length
    | none => 0

@[simp]
theorem lineStart_zero (list : List RawLine) : lineStart list 0 = 0 := rfl

@[simp]
theorem lineStart_cons_succ (line : RawLine) (rest : List RawLine) (index : Nat) :
    lineStart (line :: rest) (index + 1) = line.chars.length + lineStart rest index := by
  simp [lineStart]

theorem lineStart_le_succ (list : List RawLine) (index : Nat) :
    lineStart list index ≤ lineStart list (index + 1) := by
  rw [lineStart, lineStart, List.take_add, List.flatMap_append, List.length_append]
  exact Nat.le_add_right _ _

/-- A line starts where the line before it ends. -/
theorem lineStart_succ {list : List RawLine} {index : Nat} {line : RawLine}
    (h : list[index]? = some line) :
    lineStart list (index + 1) = lineStart list index + line.chars.length := by
  rw [lineStart, lineStart, List.take_add_one, h, Option.toList_some, List.flatMap_append,
    List.length_append, List.flatMap_singleton]

theorem lineStart_mono (list : List RawLine) {first second : Nat} (h : first ≤ second) :
    lineStart list first ≤ lineStart list second :=
  monotone_nat_of_le_succ (lineStart_le_succ list) h

/-- A line ends before every later line starts. -/
theorem lineStart_add_le {list : List RawLine} {index later : Nat} {line : RawLine}
    (h : list[index]? = some line) (hlt : index < later) :
    lineStart list index + line.chars.length ≤ lineStart list later := by
  rw [← lineStart_succ h]
  exact lineStart_mono list hlt

/-- Every line ends inside the text. -/
theorem lineStart_add_le_length {list : List RawLine} {index : Nat} {line : RawLine}
    (h : list[index]? = some line) :
    lineStart list index + line.chars.length ≤ (list.flatMap RawLine.chars).length := by
  have hlt : index < list.length := (List.getElem?_eq_some_iff.mp h).1
  have hle := lineStart_add_le h hlt
  rwa [lineStart, lineStart, List.take_length] at hle

/-- Offsets inside two lines are the same only if the lines are. -/
theorem index_eq_of_lineStart {list : List RawLine} {index index' column column' : Nat}
    {line line' : RawLine} (h : list[index]? = some line) (h' : list[index']? = some line')
    (hcolumn : column < line.chars.length) (hcolumn' : column' < line'.chars.length)
    (heq : lineStart list index + column = lineStart list index' + column') :
    index = index' := by
  rcases Nat.lt_trichotomy index index' with hlt | heq | hgt
  · have hle := lineStart_add_le h hlt
    omega
  · exact heq
  · have hle := lineStart_add_le h' hgt
    omega

/-! ## Editing line by line -/

/-- A text can be edited line by line. -/
theorem spliceFrom_flatMap_chars (splices : List Splice) (offset : Nat) (list : List RawLine) :
    spliceFrom splices offset (list.flatMap RawLine.chars) =
      (list.mapIdx fun index line =>
        spliceFrom splices (offset + lineStart list index) line.chars).flatten := by
  induction list generalizing offset with
  | nil => rfl
  | cons line rest ih =>
    simp only [List.flatMap_cons, spliceFrom_append, ih, List.mapIdx_cons, List.flatten_cons,
      lineStart_zero, Nat.add_zero, lineStart_cons_succ, Nat.add_assoc]

end Text

open Text

/-- An edit as a splice of a text cut into lines. -/
def TextEdit.toSplice (list : List RawLine) (edit : TextEdit) : Splice :=
  ⟨offsetOf list edit.range.start, offsetOf list edit.range.stop, edit.newText.toList⟩

/-- A text with all edits made at once. -/
def applyEdits (text : String) (edits : List TextEdit) : String :=
  String.ofList
    (spliceAll (edits.map (TextEdit.toSplice (rawLines text.toList))) text.toList)

-- The order of the edits plays no part, and positions past an end stand for the end.
example : applyEdits "a b\r\nc"
    [⟨⟨⟨1, 7⟩, ⟨5, 0⟩⟩, "!"⟩, ⟨⟨⟨0, 2⟩, ⟨0, 3⟩⟩, "yy"⟩, ⟨⟨⟨0, 0⟩, ⟨0, 1⟩⟩, "x"⟩] =
    "x yy\r\nc!" := by
  decide

end GrammarServer
