import GrammarServer.Json.Basic
import GrammarServer.Json.Fault
import GrammarServer.Text.Utf8

/-!
# Numbers in a JSON text

A number is an optional minus sign, a whole part without leading zeros, and optional
fraction and exponent.  A whole number other than minus zero keeps its value; every
other number keeps its text.  A wanted number must fit a double.
-/

namespace GrammarServer.Json

/-- Whether a byte is an ASCII digit. -/
def isDigitByte (b : UInt8) : Bool :=
  0x30 ≤ b && b ≤ 0x39

/-- The value of a run of ASCII digits. -/
def natOfDigits (digits : List UInt8) : Nat :=
  digits.foldl (fun n d => n * 10 + (d.toNat - 0x30)) 0

/-- The parts of a number in the order they are written. -/
structure NumberParts where
  negative : Bool
  whole : List UInt8
  fraction : List UInt8
  exponent : Option Int
deriving DecidableEq, Repr

/-! ## Scanning -/

/-- At least one digit, and what follows the run. -/
def scanDigits (bytes : List UInt8) : Except Fault (List UInt8 × List UInt8) :=
  match bytes.takeWhile isDigitByte with
  | [] => .error (if bytes.isEmpty then .ended else .malformed)
  | d :: digits => .ok (d :: digits, bytes.dropWhile isDigitByte)

/-- The whole part: a single zero, or digits that do not start with zero. -/
def scanWhole (bytes : List UInt8) : Except Fault (List UInt8 × List UInt8) :=
  match bytes with
  | 0x30 :: d :: rest => if isDigitByte d then .error .malformed else .ok ([0x30], d :: rest)
  | _ => scanDigits bytes

/-- The digits after a point, none without a point. -/
def scanFraction : List UInt8 → Except Fault (List UInt8 × List UInt8)
  | 0x2E :: rest => scanDigits rest
  | bytes => .ok ([], bytes)

/-- Whether a minus sign stands here, and what follows an optional sign. -/
def scanSign : List UInt8 → Bool × List UInt8
  | 0x2B :: rest => (false, rest)
  | 0x2D :: rest => (true, rest)
  | bytes => (false, bytes)

/-- The exponent, if there is one. -/
def scanExponent : List UInt8 → Except Fault (Option Int × List UInt8)
  | [] => .ok (none, [])
  | b :: rest =>
    if b = 0x65 ∨ b = 0x45 then
      match scanDigits (scanSign rest).2 with
      | .error fault => .error fault
      | .ok (digits, after) =>
        .ok (some (if (scanSign rest).1 then -(natOfDigits digits : Int) else natOfDigits digits),
          after)
    else .ok (none, b :: rest)

/-- A number without its sign, and what follows it. -/
def scanUnsigned (negative : Bool) (bytes : List UInt8) :
    Except Fault (NumberParts × List UInt8) :=
  match scanWhole bytes with
  | .error fault => .error fault
  | .ok (whole, afterWhole) =>
    match scanFraction afterWhole with
    | .error fault => .error fault
    | .ok (fraction, afterFraction) =>
      match scanExponent afterFraction with
      | .error fault => .error fault
      | .ok (exponent, rest) => .ok (⟨negative, whole, fraction, exponent⟩, rest)

/-- A number and what follows it. -/
def scanNumber : List UInt8 → Except Fault (NumberParts × List UInt8)
  | 0x2D :: rest => scanUnsigned true rest
  | bytes => scanUnsigned false bytes

/-! ## Value -/

/-- The greatest significand: a number of 64 bits. -/
def maxSignificand : Nat := Nat.pow 2 64 - 1

/-- Append digits to a significand as long as it does not grow too large; also gives the
digits that are left over. -/
def absorbDigits (significand : Nat) : List UInt8 → Nat × List UInt8
  | [] => (significand, [])
  | d :: digits =>
    let longer := significand * 10 + (d.toNat - 0x30)
    if longer ≤ maxSignificand then absorbDigits longer digits else (significand, d :: digits)

/-- The double next to a natural number, the even one of two that are equally near; it is
a natural number again. -/
def nearestDouble (n : Nat) : Nat :=
  if n < Nat.pow 2 53 then n
  else
    let unit := Nat.pow 2 (n.log2 - 52)
    let quotient := n / unit
    let twiceRest := 2 * (n % unit)
    let up := unit < twiceRest ∨ (twiceRest = unit ∧ quotient % 2 = 1)
    (if up then quotient + 1 else quotient) * unit

/-- Whether a significand times a power of ten lies beyond every double.  The significand
and the power are rounded first, each on its own. -/
def exceedsDouble (significand : Nat) (exponent : Int) : Bool :=
  if significand = 0 ∨ exponent < 0 then false
  else if 308 < exponent then true
  else
    Nat.pow 2 1024 - Nat.pow 2 970 ≤
      nearestDouble significand * nearestDouble (Nat.pow 10 exponent.toNat)

/-- The significand and the decimal exponent of a number.  Digits before the point that
do not fit raise the exponent; digits after the point that do not fit play no part. -/
def NumberParts.scaled (parts : NumberParts) : Nat × Int :=
  let (front, pending) := absorbDigits 0 parts.whole
  let (significand, ignored) := absorbDigits front parts.fraction
  (significand,
    parts.exponent.getD 0 + (pending.length : Int)
      - ((parts.fraction.length : Int) - (ignored.length : Int)))

/-- The whole number that the parts write, if they write one.  Minus zero is none. -/
def NumberParts.integer? (parts : NumberParts) : Option Int :=
  let whole := natOfDigits parts.whole
  if parts.fraction.isEmpty && parts.exponent.isNone && !(parts.negative && whole == 0) then
    some (if parts.negative then -(whole : Int) else whole)
  else none

/-- The text of a number that stands at the front of `bytes` and ends before `rest`. -/
def consumedText (bytes rest : List UInt8) : String :=
  Text.ofUtf8Lenient (bytes.take (bytes.length - rest.length))

/-- The number that the parts denote; it stands at the front of `bytes` and ends before
`rest`. -/
def NumberParts.value (parts : NumberParts) (bytes rest : List UInt8) : Except Fault Number :=
  if exceedsDouble parts.scaled.1 parts.scaled.2 then .error .malformed
  else
    match parts.integer? with
    | some n => .ok (.integer n)
    | none => .ok (.real (consumedText bytes rest))

/-! ## Scanning shortens the text -/

/-- Scanning digits consumes at least one byte. -/
theorem scanDigits_length {bytes digits rest : List UInt8}
    (h : scanDigits bytes = .ok (digits, rest)) : rest.length < bytes.length := by
  unfold scanDigits at h
  split at h
  · simp at h
  · rename_i d ds hd
    simp only [Except.ok.injEq, Prod.mk.injEq] at h
    have := congrArg List.length
      (List.takeWhile_append_dropWhile (p := isDigitByte) (l := bytes))
    rw [hd, h.2] at this
    simp at this
    omega

/-- Scanning the part before the point consumes at least one byte. -/
theorem scanWhole_length {bytes digits rest : List UInt8}
    (h : scanWhole bytes = .ok (digits, rest)) : rest.length < bytes.length := by
  unfold scanWhole at h
  split at h
  · split at h
    · simp at h
    · simp only [Except.ok.injEq, Prod.mk.injEq] at h
      simp [← h.2]
  · exact scanDigits_length h

/-- Scanning a fraction, which may be absent, adds no byte. -/
theorem scanFraction_length {bytes digits rest : List UInt8}
    (h : scanFraction bytes = .ok (digits, rest)) : rest.length ≤ bytes.length := by
  unfold scanFraction at h
  split at h
  · have := scanDigits_length h
    simp
    omega
  · simp only [Except.ok.injEq, Prod.mk.injEq] at h
    simp [h.2]

/-- Scanning a sign, which may be absent, adds no byte. -/
theorem scanSign_length (bytes : List UInt8) : (scanSign bytes).2.length ≤ bytes.length := by
  unfold scanSign
  split <;> simp

/-- Scanning an exponent, which may be absent, adds no byte. -/
theorem scanExponent_length {bytes rest : List UInt8} {n : Option Int}
    (h : scanExponent bytes = .ok (n, rest)) : rest.length ≤ bytes.length := by
  unfold scanExponent at h
  split at h
  · simp_all
  · rename_i b tail
    split at h
    · split at h
      · simp at h
      · rename_i hd
        simp only [Except.ok.injEq, Prod.mk.injEq] at h
        have h1 := scanDigits_length hd
        have h2 := scanSign_length tail
        rw [← h.2]
        simp
        omega
    · simp only [Except.ok.injEq, Prod.mk.injEq] at h
      simp [← h.2]

/-- Scanning a number after its sign consumes at least one byte. -/
theorem scanUnsigned_length {negative : Bool} {bytes rest : List UInt8} {parts : NumberParts}
    (h : scanUnsigned negative bytes = .ok (parts, rest)) : rest.length < bytes.length := by
  unfold scanUnsigned at h
  split at h
  · simp at h
  · rename_i hw
    split at h
    · simp at h
    · rename_i hf
      split at h
      · simp at h
      · rename_i he
        simp only [Except.ok.injEq, Prod.mk.injEq] at h
        have h1 := scanWhole_length hw
        have h2 := scanFraction_length hf
        have h3 := scanExponent_length he
        rw [← h.2]
        omega

/-- Scanning a number consumes at least one byte. -/
theorem scanNumber_length {bytes rest : List UInt8} {parts : NumberParts}
    (h : scanNumber bytes = .ok (parts, rest)) : rest.length < bytes.length := by
  unfold scanNumber at h
  split at h
  · have := scanUnsigned_length h
    simp
    omega
  · exact scanUnsigned_length h

end GrammarServer.Json
