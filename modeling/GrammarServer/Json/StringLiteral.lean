import GrammarServer.Json.Fault
import GrammarServer.Text.Utf8

/-!
# Strings in a JSON text

A string can be read in two ways.  Reading it for its text checks that surrogates
come in pairs and, at the closing quote, that the bytes are UTF-8.  Passing over it
checks only that every escape is complete and that no control character occurs.
-/

namespace GrammarServer.Json

/-! ## Escapes -/

/-- The value of a hexadecimal digit. -/
def hexValue? (b : UInt8) : Option Nat :=
  if 0x30 ≤ b ∧ b ≤ 0x39 then some (b.toNat - 0x30)
  else if 0x41 ≤ b ∧ b ≤ 0x46 then some (b.toNat - 0x41 + 10)
  else if 0x61 ≤ b ∧ b ≤ 0x66 then some (b.toNat - 0x61 + 10)
  else none

/-- Four hexadecimal digits, and what follows them. -/
def readHex : List UInt8 → Except Fault (Nat × List UInt8)
  | a :: b :: c :: d :: rest =>
    match hexValue? a, hexValue? b, hexValue? c, hexValue? d with
    | some a, some b, some c, some d => .ok (((a * 16 + b) * 16 + c) * 16 + d, rest)
    | _, _, _, _ => .error .malformed
  | _ => .error .ended

/-- The character of an escape that is one character after the backslash. -/
def shortEscape? (b : UInt8) : Option Char :=
  if b = 0x22 then some '"'
  else if b = 0x5C then some '\\'
  else if b = 0x2F then some '/'
  else if b = 0x62 then some '\x08'
  else if b = 0x66 then some '\x0C'
  else if b = 0x6E then some '\n'
  else if b = 0x72 then some '\r'
  else if b = 0x74 then some '\t'
  else none

/-- Whether a 16-bit unit is the first half of a surrogate pair. -/
def isHighSurrogate (n : Nat) : Bool :=
  0xD800 ≤ n && n ≤ 0xDBFF

/-- Whether a 16-bit unit is the second half of a surrogate pair. -/
def isLowSurrogate (n : Nat) : Bool :=
  0xDC00 ≤ n && n ≤ 0xDFFF

/-- The second half of a surrogate pair, written as an escape of its own. -/
def readLowSurrogate : List UInt8 → Except Fault (Nat × List UInt8)
  | [] => .error .ended
  | [0x5C] => .error .ended
  | 0x5C :: 0x75 :: rest =>
    match readHex rest with
    | .ok (n, after) => if isLowSurrogate n then .ok (n, after) else .error .malformed
    | .error fault => .error fault
  | _ => .error .malformed

/-- The character written by hexadecimal digits, which may take a second escape. -/
def readUnicode (bytes : List UInt8) : Except Fault (Char × List UInt8) :=
  match readHex bytes with
  | .error fault => .error fault
  | .ok (n, rest) =>
    if isLowSurrogate n then .error .malformed
    else if isHighSurrogate n then
      match readLowSurrogate rest with
      | .error fault => .error fault
      | .ok (m, after) =>
        .ok (Char.ofNat (0x10000 + (n - 0xD800) * 0x400 + (m - 0xDC00)), after)
    else .ok (Char.ofNat n, rest)

/-- The character of an escape, read after its backslash. -/
def readEscape : List UInt8 → Except Fault (Char × List UInt8)
  | [] => .error .ended
  | b :: rest =>
    if b = 0x75 then readUnicode rest
    else
      match shortEscape? b with
      | some c => .ok (c, rest)
      | none => .error .malformed

/-- What follows an escape that is passed over. -/
def skipEscape : List UInt8 → Except Fault (List UInt8)
  | [] => .error .ended
  | b :: rest =>
    if b = 0x75 then
      match readHex rest with
      | .ok (_, after) => .ok after
      | .error fault => .error fault
    else if (shortEscape? b).isSome then .ok rest
    else .error .malformed

/-! ## Escapes shorten the text -/

/-- Reading four hexadecimal digits consumes bytes. -/
theorem readHex_length {bytes rest : List UInt8} {n : Nat}
    (h : readHex bytes = .ok (n, rest)) : rest.length < bytes.length := by
  unfold readHex at h
  split at h
  · split at h
    · simp only [Except.ok.injEq, Prod.mk.injEq] at h
      simp [← h.2]
      omega
    · simp at h
  · simp at h

/-- Reading the second half of a pair consumes bytes. -/
theorem readLowSurrogate_length {bytes rest : List UInt8} {n : Nat}
    (h : readLowSurrogate bytes = .ok (n, rest)) : rest.length < bytes.length := by
  unfold readLowSurrogate at h
  split at h
  · simp at h
  · simp at h
  · split at h
    · rename_i hx
      split at h
      · simp only [Except.ok.injEq, Prod.mk.injEq] at h
        have := readHex_length hx
        simp [← h.2]
        omega
      · simp at h
    · simp at h
  · simp at h

/-- Reading the code of a character consumes bytes. -/
theorem readUnicode_length {bytes rest : List UInt8} {c : Char}
    (h : readUnicode bytes = .ok (c, rest)) : rest.length < bytes.length := by
  unfold readUnicode at h
  split at h
  · simp at h
  · rename_i hx
    have h1 := readHex_length hx
    split at h
    · simp at h
    · split at h
      · split at h
        · simp at h
        · rename_i hl
          have h2 := readLowSurrogate_length hl
          simp only [Except.ok.injEq, Prod.mk.injEq] at h
          rw [← h.2]
          omega
      · simp only [Except.ok.injEq, Prod.mk.injEq] at h
        rw [← h.2]
        exact h1

/-- Reading an escape consumes bytes. -/
theorem readEscape_length {bytes rest : List UInt8} {c : Char}
    (h : readEscape bytes = .ok (c, rest)) : rest.length < bytes.length := by
  unfold readEscape at h
  split at h
  · simp at h
  · split at h
    · have := readUnicode_length h
      simp
      omega
    · split at h
      · simp only [Except.ok.injEq, Prod.mk.injEq] at h
        simp [← h.2]
      · simp at h

/-- Passing over an escape consumes bytes. -/
theorem skipEscape_length {bytes rest : List UInt8}
    (h : skipEscape bytes = .ok rest) : rest.length < bytes.length := by
  unfold skipEscape at h
  split at h
  · simp at h
  · split at h
    · split at h
      · rename_i hx
        have := readHex_length hx
        simp only [Except.ok.injEq] at h
        simp [← h]
        omega
      · simp at h
    · split at h
      · simp only [Except.ok.injEq] at h
        simp [← h]
      · simp at h

/-! ## Whole strings -/

/-- The text of a string, read after its opening quote; `content` holds the bytes
collected so far, latest first. -/
def readString (content bytes : List UInt8) : Except Fault String :=
  match bytes with
  | [] => .error .ended
  | b :: rest =>
    if b = 0x22 then
      match Text.ofUtf8? content.reverse with
      | some text => .ok text
      | none => .error .malformed
    else if b = 0x5C then
      match _h : readEscape rest with
      | .error fault => .error fault
      | .ok (c, after) => readString ((String.utf8EncodeChar c).reverse ++ content) after
    else if b < 0x20 then .error .malformed
    else readString (b :: content) rest
termination_by bytes.length
decreasing_by
  · have := readEscape_length ‹readEscape rest = _›
    simp
    omega
  · simp

/-- What follows a string that is passed over, from after its opening quote. -/
def skipString (bytes : List UInt8) : Except Fault (List UInt8) :=
  match bytes with
  | [] => .error .ended
  | b :: rest =>
    if b = 0x22 then .ok rest
    else if b = 0x5C then
      match _h : skipEscape rest with
      | .error fault => .error fault
      | .ok after => skipString after
    else if b < 0x20 then .error .malformed
    else skipString rest
termination_by bytes.length
decreasing_by
  · have := skipEscape_length ‹skipEscape rest = _›
    simp
    omega
  · simp

/-- Passing over a string consumes at least its closing quote. -/
theorem skipString_length {bytes rest : List UInt8}
    (h : skipString bytes = .ok rest) : rest.length < bytes.length := by
  fun_induction skipString bytes with
  | case1 => simp at h
  | case2 rest' => simp_all
  | case3 => simp at h
  | case4 rest' after hx _ ih =>
    have h1 := skipEscape_length hx
    have h2 := ih h
    simp
    omega
  | case5 => simp at h
  | case6 b rest' _ _ _ ih =>
    have := ih h
    simp
    omega

end GrammarServer.Json
