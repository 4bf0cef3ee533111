/-!
# Blank characters

The characters with the Unicode property `White_Space`, and the two operations that
depend on them: trimming a text and cutting it into words.
-/

namespace GrammarServer.Text

/-- The code points with the Unicode property `White_Space`. -/
def blankCodePoints : List Nat :=
  [0x9, 0xA, 0xB, 0xC, 0xD, 0x20, 0x85, 0xA0, 0x1680,
    0x2000, 0x2001, 0x2002, 0x2003, 0x2004, 0x2005, 0x2006, 0x2007, 0x2008, 0x2009, 0x200A,
    0x2028, 0x2029, 0x202F, 0x205F, 0x3000]

/-- Whether a character is white space. -/
def isBlank (c : Char) : Bool :=
  blankCodePoints.contains c.toNat

/-- A list of characters without the blanks at both ends. -/
def trimChars (cs : List Char) : List Char :=
  ((cs.dropWhile isBlank).reverse.dropWhile isBlank).reverse

/-- A text without the blanks at both ends. -/
def trim (text : String) : String :=
  String.ofList (trimChars text.toList)

/-- Whether a text holds blanks only. -/
def isAllBlank (text : String) : Bool :=
  text.toList.all isBlank

/-- The words of a text: its maximal runs without a blank. -/
def words (text : String) : List String :=
  (text.toList.splitBy fun a b => isBlank a == isBlank b).filterMap fun run =>
    if run.all isBlank then none else some (String.ofList run)

end GrammarServer.Text
