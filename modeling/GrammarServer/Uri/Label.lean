/-!
# Labels in ASCII

A label of a domain name that is not in ASCII has a form in ASCII: `xn--`, its ASCII
characters, a hyphen if there are any, and then digits that tell which other characters
stand where.  The digits write, for one character after the other in the order of their
code points, how many places are passed over before it is inserted.

Main results:

- `length_lt_of_readNumber?`: reading a number uses up at least one digit.
-/

namespace GrammarServer.Uri

/-! ## Numbers -/

/-- The digit of the encoding of a label outside ASCII. -/
def labelDigit (n : Nat) : Char :=
  if n < 26 then Char.ofNat (0x61 + n) else Char.ofNat (0x30 + n - 26)

/-- A number divided by 35 until it is at most 455, and 36 for every division. -/
def shrink (value steps : Nat) : Nat × Nat :=
  if 455 < value then shrink (value / 35) (steps + 36) else (value, steps)
termination_by value
decreasing_by exact Nat.div_lt_self (by omega) (by omega)

/-- How the thresholds of the label encoding adapt after each encoded character. -/
def adaptBias (delta points : Nat) (first : Bool) : Nat :=
  let scaled := if first then delta / 700 else delta / 2
  let (value, steps) := shrink (scaled + scaled / points) 0
  steps + 36 * value / (value + 38)

/-- The threshold of the digit at `place` of a number in the label encoding. -/
def labelThreshold (place bias : Nat) : Nat :=
  if place ≤ bias then 1 else if bias + 26 ≤ place then 26 else place - bias

/-- A threshold is at least 1. -/
theorem one_le_labelThreshold (place bias : Nat) : 1 ≤ labelThreshold place bias := by
  unfold labelThreshold
  split
  · exact Nat.le_refl 1
  · split <;> omega

/-- A number as a run of digits whose weights depend on the bias. -/
def labelNumber (number place bias : Nat) : List Char :=
  let threshold := labelThreshold place bias
  if number < threshold then [labelDigit number]
  else
    labelDigit (threshold + (number - threshold) % (36 - threshold))
      :: labelNumber ((number - threshold) / (36 - threshold)) (place + 36) bias
termination_by number
decreasing_by
  have hpos := one_le_labelThreshold place bias
  have hle := Nat.div_le_self (number - labelThreshold place bias)
    (36 - labelThreshold place bias)
  omega

/-! ## Writing -/

/-- The encoding's state while it visits the code points in increasing order. -/
structure LabelState where
  delta : Nat
  bias : Nat
  handled : Nat
  output : List Char

/-- Encode every occurrence of `code` in a label. -/
def encodeCode (basic code : Nat) (state : LabelState) : List Nat → LabelState
  | [] => state
  | c :: rest =>
    if c < code then encodeCode basic code { state with delta := state.delta + 1 } rest
    else if c = code then
      encodeCode basic code {
        delta := 0
        bias := adaptBias state.delta (state.handled + 1) (state.handled == basic)
        handled := state.handled + 1
        output := state.output ++ labelNumber state.delta 36 state.bias } rest
    else encodeCode basic code state rest

/-- Encode all code points of a label outside ASCII; `codes` lists them in increasing
order and `previous` is the one before. -/
def encodeCodes (basic : Nat) (label : List Nat) :
    List Nat → Nat → LabelState → LabelState
  | [], _, state => state
  | code :: codes, previous, state =>
    let raised := { state with delta := state.delta + (code - previous) * (state.handled + 1) }
    let encoded := encodeCode basic code raised label
    encodeCodes basic label codes (code + 1) { encoded with delta := encoded.delta + 1 }

/-- What stands before the ASCII form of a label that is not in ASCII. -/
def labelMark : List Char := ['x', 'n', '-', '-']

/-- A label of a domain name in ASCII. -/
def asciiLabel (label : List Char) : List Char :=
  if label.all (·.toNat < 0x80) then label
  else
    let basic := label.filter (·.toNat < 0x80)
    let codes := label.map (·.toNat)
    let foreign := ((codes.filter (0x80 ≤ ·)).mergeSort (· ≤ ·)).eraseDups
    let state := encodeCodes basic.length codes foreign 0x80 ⟨0, 72, basic.length, []⟩
    labelMark ++ basic ++ (if basic.isEmpty then [] else ['-']) ++ state.output

/-! ## Reading -/

/-- The value of a digit of the encoding. -/
def labelDigitValue? (c : Char) : Option Nat :=
  if c.isDigit then some (c.toNat - 0x30 + 26)
  else if c.isAlpha then some (c.toLower.toNat - 0x61)
  else none

/-- A number that fits into 32 bits. -/
def word? (n : Nat) : Option Nat :=
  if n < Nat.pow 2 32 then some n else none

/-- Read a number at the front of a text and add it to `total`; also gives the rest.
`weight` is the weight of the digit at `place`. -/
def readNumber? (bias : Nat) (total weight place : Nat) :
    List Char → Option (Nat × List Char)
  | [] => none
  | c :: rest => do
    let digit ← labelDigitValue? c
    let sum ← word? (total + (← word? (digit * weight)))
    let threshold := labelThreshold place bias
    if digit < threshold then return (sum, rest)
    else readNumber? bias sum (← word? (weight * (36 - threshold))) (place + 36) rest

/-- Reading a number uses up at least one digit. -/
theorem length_lt_of_readNumber? {bias total weight place : Nat} {cs : List Char}
    {number : Nat} {rest : List Char}
    (h : readNumber? bias total weight place cs = some (number, rest)) :
    rest.length < cs.length := by
  induction cs generalizing total weight place with
  | nil => simp [readNumber?] at h
  | cons c cs ih =>
    simp only [readNumber?, Option.bind_eq_bind, Option.bind_eq_some_iff] at h
    obtain ⟨digit, -, product, -, sum, -, h⟩ := h
    split at h
    · simp only [pure, Option.some.injEq, Prod.mk.injEq] at h
      simp [h.2]
    · obtain ⟨next, -, h⟩ := Option.bind_eq_some_iff.1 h
      exact Nat.lt_succ_of_lt (ih h)

/-- Insert the characters that digits write into a label.  `code` is the character
inserted last and `place` the place after it. -/
def insertCodes? (bias code place : Nat) (label digits : List Char) : Option (List Char) :=
  match digits with
  | [] => some label
  | digit :: more =>
    match _ : readNumber? bias place 1 36 (digit :: more) with
    | none => none
    | some (total, rest) =>
      let points := label.length + 1
      let next := code + total / points
      if next.isValidChar then
        insertCodes? (adaptBias (total - place) points (place == 0)) next (total % points + 1)
          (label.insertIdx (total % points) (Char.ofNat next)) rest
      else none
termination_by digits.length
decreasing_by exact length_lt_of_readNumber? (by assumption)

/-- The label that a text after `xn--` stands for.  What precedes its last hyphen is in
ASCII and kept. -/
def decodeLabel? (text : List Char) : Option (List Char) :=
  let digits := (text.reverse.takeWhile (· != '-')).reverse
  match text.take (text.length - digits.length) with
  | [] => insertCodes? 72 0x80 0 [] digits
  | ['-'] => none
  | kept => insertCodes? 72 0x80 0 kept.dropLast digits

end GrammarServer.Uri
