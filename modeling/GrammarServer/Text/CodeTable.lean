import GrammarServer.Text.Split

/-!
# Tables of characters

Sets of characters and maps on characters, written as lines of text.  A line holds
entries apart by one space, and numbers are code points in hexadecimal:

- `41` is one character and `41-5A` all characters from the first to the last;
- `41-5A>61` sends the characters of an interval to those from `61` on, `100-12E/2>101`
  only every second one, and `FB01>66,69` sends one character to two; without an arrow
  they go to themselves.
-/

namespace GrammarServer.Text

/-- The pieces of a text between the places of a separator. -/
def pieces (separator : Char) (text : String) : List String :=
  (splitAt (· == separator) text.toList).map String.ofList

/-- The entries of a table. -/
def entries (lines : List String) : List String :=
  lines.flatMap (pieces ' ')

/-- The number that hexadecimal digits in upper case write. -/
def hexNumber (digits : String) : Nat :=
  digits.toList.foldl
    (fun n c => n * 16 + if c.isDigit then c.toNat - 0x30 else c.toNat - 0x37) 0

/-! ## Sets -/

/-- The code points from `first` to `last`. -/
structure Interval where
  first : Nat
  last : Nat
deriving DecidableEq, Repr

/-- Whether a code point lies in an interval. -/
def Interval.contains (interval : Interval) (code : Nat) : Bool :=
  interval.first ≤ code && code ≤ interval.last

/-- The interval that an entry of a table writes. -/
def Interval.ofText (text : String) : Interval :=
  match pieces '-' text with
  | [first, last] => ⟨hexNumber first, hexNumber last⟩
  | _ => ⟨hexNumber text, hexNumber text⟩

/-- The intervals of a table. -/
def intervals (lines : List String) : List Interval :=
  (entries lines).map Interval.ofText

/-- Whether a character lies in one of the intervals. -/
def inIntervals (list : List Interval) (c : Char) : Bool :=
  list.any (·.contains c.toNat)

/-! ## Maps -/

/-- A map on every `stride`-th code point of an interval.  The first of them goes to
`images`; any other goes to the images moved by its distance from the first. -/
structure CodeRun where
  source : Interval
  stride : Nat
  images : List Nat
deriving DecidableEq, Repr

/-- The code points to which a run sends `code`. -/
def CodeRun.image? (run : CodeRun) (code : Nat) : Option (List Nat) :=
  if run.source.contains code && (code - run.source.first) % run.stride == 0 then
    some (run.images.map (· + (code - run.source.first)))
  else none

/-- The run that an entry of a table writes. -/
def CodeRun.ofText (text : String) : CodeRun :=
  let (left, right) := match pieces '>' text with
    | [source, images] => (source, (pieces ',' images).map hexNumber)
    | _ => (text, [(Interval.ofText text).first])
  match pieces '/' left with
  | [source, stride] => ⟨.ofText source, hexNumber stride, right⟩
  | _ => ⟨.ofText left, 1, right⟩

/-- The runs of a table. -/
def codeRuns (lines : List String) : List CodeRun :=
  (entries lines).map CodeRun.ofText

/-- The characters to which a table sends a character, if it has an entry for it. -/
def runImage? (runs : List CodeRun) (c : Char) : Option (List Char) :=
  (runs.findSome? (·.image? c.toNat)).map (·.map Char.ofNat)

/-- There is always at least one piece. -/
theorem pieces_ne_nil (separator : Char) (text : String) : pieces separator text ≠ [] := by
  simp [pieces, splitAt_ne_nil]

/-- An entry of a table sends its characters somewhere. -/
theorem CodeRun.images_ofText_ne_nil (text : String) : (CodeRun.ofText text).images ≠ [] := by
  unfold CodeRun.ofText
  split
  next left right hparts =>
    have hright : right ≠ [] := by
      split at hparts <;> cases hparts <;> simp [pieces_ne_nil]
    split <;> exact hright

/-- A table that has an entry for a character sends it somewhere. -/
theorem ne_nil_of_runImage? {lines : List String} {c : Char} {image : List Char}
    (h : runImage? (codeRuns lines) c = some image) : image ≠ [] := by
  obtain ⟨codes, hcodes, rfl⟩ := Option.map_eq_some_iff.mp h
  obtain ⟨run, hrun, himage⟩ := List.exists_of_findSome?_eq_some hcodes
  obtain ⟨entry, _, rfl⟩ := List.mem_map.mp hrun
  unfold CodeRun.image? at himage
  split at himage
  case isTrue =>
    cases himage
    simp [CodeRun.images_ofText_ne_nil]
  case isFalse => cases himage

end GrammarServer.Text
