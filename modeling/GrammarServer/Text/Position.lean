import GrammarServer.Crash
import GrammarServer.Text.Identifier

/-!
# Positions, ranges and engine locations

Editors count lines and characters from 0, the grammar engine counts lines and
columns from 1.  Both count characters, in coordinates of 32 bits.  The numbers of this
library have no bound, so the bits are kept track of where coordinates are made: those that
arrive are checked when they are decoded, a count of lines or characters is cut by
`toCoordinate` when it becomes a coordinate, and a sum of coordinates is refused by
`coordinateSum` if it cannot be written.

Main results:

- Theorem `toCoordinate_of_le`: a count that can be written is not changed.
- Theorem `coordinateSum_eq_ok_iff`: the sums that can be written.
- Theorem `Position.span_eq_ok_iff`: a span stays on its line.
-/

namespace GrammarServer.Text

/-- The largest line or column that can be written: 32 bits without a sign. -/
def maxCoordinate : Nat := 4294967295

/-! ## Coordinates -/

/-- A count as a coordinate: its lowest 32 bits. -/
def toCoordinate (count : Nat) : Nat :=
  count % (maxCoordinate + 1)

/-- The sum of two coordinates, as long as it can be written. -/
def coordinateSum (a b : Nat) : Except Crash Nat :=
  if a + b ≤ maxCoordinate then .ok (a + b) else .error .coordinateOverflow

/-- A count that can be written is not changed. -/
theorem toCoordinate_of_le {count : Nat} (h : count ≤ maxCoordinate) :
    toCoordinate count = count :=
  Nat.mod_eq_of_lt (Nat.lt_succ_of_le h)

/-- What becomes of a count can be written. -/
theorem toCoordinate_le (count : Nat) : toCoordinate count ≤ maxCoordinate :=
  Nat.le_of_lt_succ (Nat.mod_lt count (Nat.succ_pos maxCoordinate))

theorem coordinateSum_of_le {a b : Nat} (h : a + b ≤ maxCoordinate) :
    coordinateSum a b = .ok (a + b) :=
  if_pos h

theorem coordinateSum_eq_ok_iff {a b sum : Nat} :
    coordinateSum a b = .ok sum ↔ a + b ≤ maxCoordinate ∧ sum = a + b := by
  unfold coordinateSum
  split
  case isTrue h => simp [h, eq_comm]
  case isFalse h => simp [h]

/-! ## Positions, ranges and locations -/

/-- A place between two characters of a text, counted from 0. -/
structure Position where
  line : Nat
  character : Nat
deriving DecidableEq, Repr

/-- The text between two positions. -/
structure Range where
  start : Position
  stop : Position
deriving DecidableEq, Repr

/-- A place reported by the grammar engine, counted from 1. -/
structure Location where
  line : Nat
  column : Nat
deriving DecidableEq, Repr

/-! ## From locations to positions -/

/-- The editor's position for an engine location; 0 is read as 1. -/
def Location.toPosition (location : Location) : Position :=
  ⟨location.line - 1, location.column - 1⟩

/-- The single-line range of `width` characters from `start`, as long as its end can
be written. -/
def Position.span (start : Position) (width : Nat) : Except Crash Range := do
  let stop ← coordinateSum start.character width
  return ⟨start, ⟨start.line, stop⟩⟩

/-- The range that `name` covers when it starts at an engine location. -/
def nameRange (location : Location) (name : String) : Except Crash Range :=
  location.toPosition.span (toCoordinate name.length)

/-- The range from the start of a text to the line after its last line. -/
def fullRange (text : String) : Range :=
  ⟨⟨0, 0⟩, ⟨toCoordinate (lines text).length, 0⟩⟩

/-! ## The word under a position -/

/-- A word of a text and the range it covers. -/
structure WordAt where
  word : String
  range : Range
deriving DecidableEq, Repr

/-- The identifier touching a position of a text. -/
def wordAt? (text : String) (position : Position) : Option WordAt := do
  let line ← (lines text)[position.line]?
  let (start, stop) ← wordSpan? line position.character
  return ⟨String.ofList (slice line start stop),
    ⟨position.line, toCoordinate start⟩, ⟨position.line, toCoordinate stop⟩⟩

/-- A span starts where it was asked to and stays on its line. -/
theorem Position.span_eq_ok_iff {start : Position} {width : Nat} {range : Range} :
    start.span width = .ok range ↔
      start.character + width ≤ maxCoordinate ∧
        range = ⟨start, ⟨start.line, start.character + width⟩⟩ := by
  unfold Position.span
  simp only [bind_eq_ok_iff, coordinateSum_eq_ok_iff, pure, Except.pure, Except.ok.injEq]
  constructor
  · rintro ⟨stop, ⟨hfits, rfl⟩, rfl⟩
    exact ⟨hfits, rfl⟩
  · rintro ⟨hfits, rfl⟩
    exact ⟨_, ⟨hfits, rfl⟩, rfl⟩

end GrammarServer.Text
