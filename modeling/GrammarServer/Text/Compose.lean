import GrammarServer.Text.ComposeTable

/-!
# Canonical composition

A letter with marks can be written in several ways that mean the same.  The composed
form takes all characters apart, writes the marks in the order of their classes, and
joins bases and marks again as far as composites exist.
-/

namespace GrammarServer.Text

/-- The combining class of a character; zero for a character that starts anew. -/
def combiningClass (code : Nat) : Nat :=
  ((combiningClasses.find? fun (_, members) => members.any (·.contains code)).map (·.1)).getD 0

/-- Whether a character is a combining mark. -/
def isMark (c : Char) : Bool :=
  inIntervals markIntervals c

/-! ## Korean syllables -/

/-- The first Korean syllable. -/
def firstSyllable : Nat := 0xAC00

/-- The parts of a Korean syllable. -/
def syllableParts (code : Nat) : List Nat :=
  let index := code - firstSyllable
  let ends := if index % 28 = 0 then [] else [0x11A7 + index % 28]
  [0x1100 + index / 588, 0x1161 + index % 588 / 28] ++ ends

/-- Whether a code point is a Korean syllable. -/
def isSyllable (code : Nat) : Bool :=
  firstSyllable ≤ code && code < firstSyllable + 11172

/-- The Korean syllable of two parts, of which the first may be a syllable without an
end. -/
def joinSyllable? (left right : Nat) : Option Nat :=
  if 0x1100 ≤ left ∧ left ≤ 0x1112 ∧ 0x1161 ≤ right ∧ right ≤ 0x1175 then
    some (firstSyllable + ((left - 0x1100) * 21 + (right - 0x1161)) * 28)
  else if isSyllable left ∧ (left - firstSyllable) % 28 = 0
      ∧ 0x11A8 ≤ right ∧ right ≤ 0x11C2 then
    some (left + (right - 0x11A7))
  else none

/-! ## Taking apart and ordering -/

/-- Take a composite apart with the entries of a table, in which the entry of a base
stands after the entry that mentions it. -/
def decomposeWith : List Composite → Nat → List Nat
  | [], code => [code]
  | entry :: rest, code =>
    if entry.whole = code then decomposeWith rest entry.base ++ [entry.mark]
    else decomposeWith rest code

/-- The characters of which a character is composed. -/
def decompose (code : Nat) : List Nat :=
  if isSyllable code then syllableParts code else decomposeWith composites code

/-- Put a character before others, behind the marks whose class is lower than its own. -/
def insertMark (code : Nat) : List Nat → List Nat
  | [] => [code]
  | next :: rest =>
    if 0 < combiningClass next ∧ combiningClass next < combiningClass code then
      next :: insertMark code rest
    else code :: next :: rest

/-- The marks after each base in the order of their classes. -/
def orderMarks (codes : List Nat) : List Nat :=
  codes.foldr insertMark []

/-! ## Joining -/

/-- The composite of a base and a character after it. -/
def join? (base code : Nat) : Option Nat :=
  match joinSyllable? base code with
  | some syllable => some syllable
  | none =>
    (composites.find? fun entry => entry.base == base && entry.mark == code).map (·.whole)

/-- Join a base with what follows it.  `kept` lists the marks that stay, latest first;
a mark joins the base unless a kept mark of the same or a higher class stands between. -/
def composeFrom (base : Nat) (kept : List Nat) : List Nat → List Nat
  | [] => base :: kept.reverse
  | code :: rest =>
    let isFree := kept.head?.all (combiningClass · < combiningClass code)
    match if isFree then join? base code else none with
    | some whole => composeFrom whole kept rest
    | none =>
      if combiningClass code = 0 then base :: (kept.reverse ++ composeFrom code [] rest)
      else composeFrom base (code :: kept) rest

/-- Join every base with its marks. -/
def joinMarks : List Nat → List Nat
  | [] => []
  | code :: rest =>
    if combiningClass code = 0 then composeFrom code [] rest else code :: joinMarks rest

/-- The composed form of a text. -/
def compose (cs : List Char) : List Char :=
  (joinMarks (orderMarks (cs.flatMap fun c => decompose c.toNat))).map Char.ofNat

end GrammarServer.Text
