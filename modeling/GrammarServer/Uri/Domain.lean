import GrammarServer.Text.Compose
import GrammarServer.Text.DirectionTable
import GrammarServer.Text.Split
import GrammarServer.Uri.DomainTable
import GrammarServer.Uri.Label

/-!
# Domain names

A domain name is read into its normal form: every character is kept, dropped or
replaced, marks are composed with their bases, and each label is written in ASCII.  A
name is refused when a character may not stand in it, or when one of its labels could be
mistaken for another one.
-/

namespace GrammarServer.Uri

open Text

/-! ## Characters -/

/-- What becomes of a character of a domain name; none if it may not stand there. -/
def domainChars? (c : Char) : Option (List Char) :=
  if c.toNat < 0x80 then some [c.toLower]
  else if inIntervals domainKept c then some [c]
  else if inIntervals domainDropped c then some []
  else runImage? domainReplaced c

/-- Characters of ASCII that no domain name may hold. -/
def isForbiddenInDomain (c : Char) : Bool :=
  c.toNat ≤ 0x20 || c.toNat == 0x7F || "%#/:<>?@[\\]^|".toList.contains c

/-! ## Joiners -/

/-- Whether a character suppresses the vowel of the letter before it. -/
def isVowelKiller (c : Char) : Bool :=
  combiningClass c.toNat == 9

/-- Whether the letters around a place join each other.  `before` lists the characters
before it, nearest first. -/
def lettersJoin (before after : List Char) : Bool :=
  (before.dropWhile isTransparent).head?.any joinsForward
    && (after.dropWhile isTransparent).head?.any joinsBackward

/-- Whether every joiner of a label stands where it makes a difference: after a vowel
killer, or, if it keeps letters apart, between letters that join.  `before` lists the
characters before the label's rest, nearest first. -/
def joinersFit (before : List Char) : List Char → Bool
  | [] => true
  | c :: rest =>
    let fits :=
      if c = '\u200D' then before.head?.any isVowelKiller
      else if c = '\u200C' then before.head?.any isVowelKiller || lettersJoin before rest
      else true
    fits && joinersFit (c :: before) rest

/-! ## Direction -/

/-- Whether a label can be read in one direction only.  It starts with a letter, which
gives its direction, and ends with a letter or digit, not counting marks. -/
def hasOneDirection : List Char → Bool
  | [] => true
  | first :: rest =>
    let middle := ((rest.map directionOf).reverse.dropWhile (· == .mark)).reverse
    match directionOf first with
    | .left =>
      middle.getLast?.all (fun d => d == .left || d == .europeanDigit)
        && middle.all fun d => d != .right && d != .arabicDigit
    | .right =>
      middle.getLast?.all (fun d => d == .right || d == .europeanDigit || d == .arabicDigit)
        && middle.all (· != .left)
        && !(middle.contains .europeanDigit && middle.contains .arabicDigit)
    | _ => false

/-- Whether a label has a character that is written from right to left. -/
def isRightToLeft (label : List Char) : Bool :=
  label.any fun c => directionOf c == .right || directionOf c == .arabicDigit

/-! ## Labels -/

/-- The greatest number of characters of a label that is not in ASCII. -/
def maxLabelLength : Nat := 1000

/-- The greatest number of characters of an encoded label. -/
def maxEncodedLength : Nat := 2000

/-- Whether the characters of a label may stand together. -/
def isLabel (label : List Char) : Bool :=
  !label.head?.any isMark && joinersFit [] label
    && (label.all (·.toNat < 0x80) || label.length ≤ maxLabelLength)

/-- Whether a label stands for itself: all its characters are kept, and it is composed. -/
def isSettled (label : List Char) : Bool :=
  label.all (fun c => domainChars? c == some [c]) && compose label == label

/-- The label that a text between dots stands for. -/
def label? (text : List Char) : Option (List Char) := do
  if labelMark.isPrefixOf text then
    if text.any (0x80 ≤ ·.toNat) || text.getLast? == some '-'
        || maxEncodedLength < (text.drop labelMark.length).length then none
    else
      let label ← decodeLabel? (text.drop labelMark.length)
      if isSettled label && isLabel label then return label else none
  else if isLabel text then return text
  else none

/-! ## Names -/

/-- The normal form of a domain name, in ASCII. -/
def domain? (name : List Char) : Option (List Char) := do
  let composed := compose (← name.mapM domainChars?).flatten
  if composed.any isForbiddenInDomain then none
  else
    let labels ← (splitAt (· == '.') composed).mapM label?
    if labels.any isRightToLeft && !labels.all hasOneDirection then none
    else
      let ascii := ['.'].intercalate (labels.map asciiLabel)
      if ascii.isEmpty then none else return ascii

end GrammarServer.Uri
