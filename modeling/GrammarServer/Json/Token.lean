import GrammarServer.Json.NumberLiteral
import GrammarServer.Json.StringLiteral

/-!
# Tokens of a JSON text

A JSON text is cut into brackets, separators, words, numbers and strings.  The cut
stops at the first byte that no token can start with or inside the first token that
is not complete; that last token carries the fault.
-/

namespace GrammarServer.Json

/-- A piece of a JSON text. -/
inductive Token where
  | openArray
  | closeArray
  | openObject
  | closeObject
  | colon
  | comma
  | null
  | bool (value : Bool)
  | number (literal : Literal Number)
  | string (literal : Literal String)
  /-- Neither of these: an unknown or unfinished word. -/
  | broken (fault : Fault)

/-- Bytes that may stand between two tokens. -/
def isSpaceByte (b : UInt8) : Bool :=
  b == 0x20 || b == 0x0A || b == 0x09 || b == 0x0D

/-- The token that a single byte makes. -/
def punctuation? (b : UInt8) : Option Token :=
  if b = 0x5B then some .openArray
  else if b = 0x5D then some .closeArray
  else if b = 0x7B then some .openObject
  else if b = 0x7D then some .closeObject
  else if b = 0x3A then some .colon
  else if b = 0x2C then some .comma
  else none

/-- The word that a letter begins: the letters after the first, and its token. -/
def word? (b : UInt8) : Option (List UInt8 × Token) :=
  if b = 0x6E then some ([0x75, 0x6C, 0x6C], .null)
  else if b = 0x74 then some ([0x72, 0x75, 0x65], .bool true)
  else if b = 0x66 then some ([0x61, 0x6C, 0x73, 0x65], .bool false)
  else none

/-- What follows the expected letters. -/
def expect : List UInt8 → List UInt8 → Except Fault (List UInt8)
  | [], bytes => .ok bytes
  | _ :: _, [] => .error .ended
  | e :: expected, b :: bytes => if b = e then expect expected bytes else .error .malformed

/-- Expecting letters never lengthens the text. -/
theorem expect_length {expected bytes rest : List UInt8}
    (h : expect expected bytes = .ok rest) : rest.length ≤ bytes.length := by
  fun_induction expect expected bytes with
  | case1 bytes => simp_all
  | case2 => simp at h
  | case3 expected b bytes ih =>
    have := ih h
    simp
    omega
  | case4 => simp at h

/-- The tokens of a JSON text, up to and including the first incomplete one. -/
def tokens (bytes : List UInt8) : List Token :=
  match bytes with
  | [] => []
  | b :: rest =>
    if isSpaceByte b then tokens rest
    else
      match punctuation? b with
      | some token => token :: tokens rest
      | none =>
        if b = 0x22 then
          match _h : skipString rest with
          | .ok after => .string ⟨readString [] rest, none⟩ :: tokens after
          | .error fault => [.string ⟨readString [] rest, some fault⟩]
        else if b = 0x2D ∨ isDigitByte b then
          match _h : scanNumber (b :: rest) with
          | .ok (parts, after) =>
            .number ⟨parts.value (b :: rest) after, none⟩ :: tokens after
          | .error fault => [.number ⟨.error fault, some .malformed⟩]
        else
          match word? b with
          | none => [.broken .malformed]
          | some (letters, token) =>
            match _h : expect letters rest with
            | .ok after => token :: tokens after
            | .error fault => [.broken fault]
termination_by bytes.length
decreasing_by
  · simp
  · simp
  · have := skipString_length ‹skipString rest = _›
    simp
    omega
  · exact scanNumber_length ‹scanNumber (b :: rest) = _›
  · have := expect_length ‹expect letters rest = _›
    simp
    omega

end GrammarServer.Json
