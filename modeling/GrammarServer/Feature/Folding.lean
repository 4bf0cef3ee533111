import GrammarServer.Document.Basic
import GrammarServer.Text.Blank

/-!
# Folding

The line ranges that an editor may fold away: rules with several alternatives,
comments, verbatim code sections and action blocks.  The four kinds are found
independently and may overlap.

Main results:

- `Fold.cut_of_le`: a fold whose lines can be written keeps them.
- `dropBytes?_zero`: no byte offset cuts nothing off.
-/

namespace GrammarServer

open Text

/-- What a folded range is. -/
inductive FoldKind where
  | region
  | comment
deriving DecidableEq, Repr

/-- A range of lines that can be folded away, both ends included. -/
structure Fold where
  startLine : Nat
  endLine : Nat
  kind : FoldKind
deriving DecidableEq, Repr

/-- A fold whose lines are counts, with both of them as coordinates. -/
def Fold.cut (fold : Fold) : Fold :=
  { fold with startLine := toCoordinate fold.startLine, endLine := toCoordinate fold.endLine }

/-- A fold whose lines can be written keeps them. -/
theorem Fold.cut_of_le {fold : Fold} (hle : fold.startLine ≤ fold.endLine)
    (hend : fold.endLine ≤ maxCoordinate) : fold.cut = fold := by
  rw [Fold.cut, toCoordinate_of_le hend, toCoordinate_of_le (Nat.le_trans hle hend)]

/-! ## Rules -/

/-- How many lines are folded below the last rule, which has no rule after it. -/
def lastRuleSpan : Nat := 10

/-- The number of the last of `lineCount` lines, as a coordinate. -/
def lastLine (lineCount : Nat) : Nat :=
  toCoordinate (lineCount - 1)

/-- The last line of a rule's fold: the line before the next rule, or the lines below
the rule as far as the document reaches. -/
def ruleFoldEnd (start lineCount : Nat) (next : Option Location) : Except Crash Nat :=
  match next with
  | some location => .ok (location.line - 1 - 1)
  | none => do
    let below ← coordinateSum start lastRuleSpan
    return min below (lastLine lineCount)

/-- The folds of rules with two or more alternatives. -/
def ruleFolds (lineCount : Nat) : List Rule → Except Crash (List Fold)
  | [] => .ok []
  | rule :: rest =>
    match rule.location with
    | none => ruleFolds lineCount rest
    | some location =>
      if rule.alternatives.length < 2 then ruleFolds lineCount rest
      else do
        let start := location.line - 1
        let stop ← ruleFoldEnd start lineCount (rest.head?.bind (·.location))
        let others ← ruleFolds lineCount rest
        return if start < stop then ⟨start, stop, .region⟩ :: others else others

/-! ## Comments -/

/-- The text after the first occurrence of two characters in a row. -/
def afterPair? (first second : Char) : List Char → Option (List Char)
  | [] => none
  | [_] => none
  | a :: b :: rest =>
    if a = first ∧ b = second then some rest else afterPair? first second (b :: rest)

/-- Whether a line opens a comment that it does not close.  Only its first opening
counts. -/
def opensComment (line : Line) : Bool :=
  match afterPair? '/' '*' line with
  | none => false
  | some rest => (afterPair? '*' '/' rest).isNone

/-- Whether a line closes the comment it stands in. -/
def closesComment (line : Line) : Bool :=
  (afterPair? '*' '/' line).isSome

/-- The comments from line `index` on; `opened` is the line of a comment still open. -/
def commentFoldsFrom (index : Nat) (opened : Option Nat) : List Line → List Fold
  | [] => []
  | line :: rest =>
    match opened with
    | none => commentFoldsFrom (index + 1) (if opensComment line then some index else none) rest
    | some start =>
      if closesComment line then
        ⟨start, index, .comment⟩ :: commentFoldsFrom (index + 1) none rest
      else commentFoldsFrom (index + 1) (some start) rest

/-- The comments that span several lines. -/
def commentFolds (lines : List Line) : List Fold :=
  (commentFoldsFrom 0 none lines).map Fold.cut

/-! ## Verbatim code -/

/-- Whether a line opens a verbatim code section. -/
def opensCode (line : Line) : Bool :=
  trimChars line == ['%', '\x7b']

/-- Whether a line closes a verbatim code section. -/
def closesCode (line : Line) : Bool :=
  trimChars line == ['%', '\x7d']

/-- The code sections from line `index` on; `opened` is the line of one still open. -/
def codeFoldsFrom (index : Nat) (opened : Option Nat) : List Line → List Fold
  | [] => []
  | line :: rest =>
    match opened with
    | none => codeFoldsFrom (index + 1) (if opensCode line then some index else none) rest
    | some start =>
      if closesCode line then ⟨start, index, .region⟩ :: codeFoldsFrom (index + 1) none rest
      else codeFoldsFrom (index + 1) (some start) rest

/-- The verbatim code sections. -/
def codeFolds (lines : List Line) : List Fold :=
  (codeFoldsFrom 0 none lines).map Fold.cut

/-! ## Action blocks -/

/-- The characters of a line from a byte offset on; none if the offset lies outside the
line or inside a character. -/
def dropBytes? (offset : Nat) (line : Line) : Option Line :=
  match offset, line with
  | 0, line => some line
  | _ + 1, [] => none
  | offset + 1, c :: rest =>
    if c.utf8Size ≤ offset + 1 then dropBytes? (offset + 1 - c.utf8Size) rest else none

/-- No byte offset cuts nothing off. -/
@[simp]
theorem dropBytes?_zero (line : Line) : dropBytes? 0 line = some line := by
  unfold dropBytes?
  rfl

/-- How many braces are open after some characters, or none if the last one closes
among them. -/
def bracesAfter? (depth : Nat) : List Char → Option Nat
  | [] => some depth
  | c :: rest =>
    if c = '\x7b' then bracesAfter? (depth + 1) rest
    else if c = '\x7d' then if depth ≤ 1 then none else bracesAfter? (depth - 1) rest
    else bracesAfter? depth rest

/-- The line on which the last of `depth` open braces closes; the first of the given
lines is line `index`. -/
def closingLine? (depth index : Nat) : List Line → Option Nat
  | [] => none
  | line :: rest =>
    match bracesAfter? depth line with
    | none => some index
    | some deeper => closingLine? deeper (index + 1) rest

/-- The line that closes the brace at a byte offset of a line. -/
def matchingBraceLine (lines : List Line) (start offset : Nat) : Except Crash (Option Nat) :=
  match lines.drop start with
  | [] => .ok none
  | line :: below =>
    match dropBytes? (offset + 1) line with
    | none => .error .offsetOutOfRange
    | some rest => .ok (closingLine? 1 start (rest :: below))

/-- The byte offset of the first opening brace of a line. -/
def firstBrace? : Line → Option Nat
  | [] => none
  | c :: rest => if c = '\x7b' then some 0 else (firstBrace? rest).map (· + c.utf8Size)

/-- The fold that the first brace of a line opens, if it closes on a later line. -/
def actionFold (lines : List Line) (index : Nat) (line : Line) : Except Crash (List Fold) :=
  match firstBrace? line with
  | none => .ok []
  | some offset => do
    match ← matchingBraceLine lines index offset with
    | none => return []
    | some stop => return if index < stop then [Fold.cut ⟨index, stop, .region⟩] else []

/-- The action blocks.  Only the first brace of each line counts. -/
def actionFolds (lines : List Line) : Except Crash (List Fold) :=
  match collect (fun (line, index) => actionFold lines index line) lines.zipIdx with
  | .error crash => .error crash
  | .ok folds => .ok folds.flatten

/-! ## All folds -/

/-- Folds are ordered by their first line, then by their last. -/
def Fold.le (a b : Fold) : Bool :=
  a.startLine < b.startLine || (a.startLine == b.startLine && a.endLine ≤ b.endLine)

/-- All folds of a text, sorted; rules fold only with a grammar. -/
def foldsOf (text : String) (grammar : Option Grammar) : Except Crash (List Fold) := do
  let lines := lines text
  let rules ← match grammar with
    | none => pure []
    | some grammar => ruleFolds lines.length grammar.rules
  let actions ← actionFolds lines
  return (rules ++ commentFolds lines ++ codeFolds lines ++ actions).mergeSort Fold.le

/-- The folds of a document. -/
def Document.folds (document : Document) : Except Crash (List Fold) :=
  foldsOf document.text document.grammar

end GrammarServer
