import GrammarServer.Text.CaseTable

/-!
# Lower case

Lower-casing of a text by the full Unicode rules.  Each character is lowered on its
own, with two exceptions: a capital I with a dot keeps its dot as a combining mark,
and a capital sigma at the end of a word takes its final form.

Main results:

- `lowercase_eq_empty_iff`: no character vanishes.
-/

namespace GrammarServer.Text

/-- Whether a character counts as a letter when a word's end is sought. -/
def isCased (c : Char) : Bool :=
  inIntervals casedIntervals c

/-- Whether a character is passed over when a word's end is sought. -/
def isCaseIgnorable (c : Char) : Bool :=
  inIntervals caseIgnorableIntervals c

/-- The lower-case form of one character, without regard to its neighbours. -/
def lowerChar (c : Char) : List Char :=
  if c.toNat < 0x80 then [c.toLower]
  else if c = '\u0130' then ['i', '\u0307']
  else (runImage? caseRuns c).getD [c]

/-- Whether the nearest character that is not passed over is a letter. -/
def nearestIsCased (cs : List Char) : Bool :=
  (cs.dropWhile isCaseIgnorable).head?.any isCased

/-- The capital sigma, whose lower-case form depends on its place in the word. -/
def capitalSigma : Char := '\u03A3'

/-- Lower the rest of a text; `before` holds the characters before it, nearest first.
A capital sigma is final when a letter precedes it and none follows. -/
def lowerChars (before : List Char) : List Char → List Char
  | [] => []
  | c :: rest =>
    let lowered :=
      if c = capitalSigma then
        if nearestIsCased before && !nearestIsCased rest then ['\u03C2'] else ['\u03C3']
      else lowerChar c
    lowered ++ lowerChars (c :: before) rest

/-- A text in lower case. -/
def lowercase (text : String) : String :=
  String.ofList (lowerChars [] text.toList)

/-- No character vanishes on its own. -/
theorem lowerChar_ne_nil (c : Char) : lowerChar c ≠ [] := by
  unfold lowerChar
  split
  · simp
  split
  · simp
  cases h : runImage? caseRuns c with
  | none => simp
  | some image => exact ne_nil_of_runImage? h

/-- No character vanishes among others. -/
theorem lowerChars_eq_nil_iff {before cs : List Char} : lowerChars before cs = [] ↔ cs = [] := by
  cases cs with
  | nil => simp [lowerChars]
  | cons c rest =>
    simp only [lowerChars, List.append_eq_nil_iff, reduceCtorEq, iff_false]
    rintro ⟨hlowered, _⟩
    split at hlowered
    · split at hlowered <;> cases hlowered
    · exact lowerChar_ne_nil c hlowered

/-- Only the empty text is empty in lower case. -/
@[simp]
theorem lowercase_eq_empty_iff {text : String} : lowercase text = "" ↔ text = "" := by
  rw [← String.toList_inj, ← String.toList_inj]
  simp [lowercase, lowerChars_eq_nil_iff]

end GrammarServer.Text
