/-!
# UTF-8

Bytes received from another program are read as UTF-8 in two ways: strictly, where
any invalid sequence refuses the whole, and leniently, where each invalid sequence
becomes one replacement character.
-/

namespace GrammarServer.Text

/-- The bytes of a text in UTF-8. -/
def utf8Bytes (text : String) : List UInt8 :=
  text.toUTF8.data.toList

/-- The text that `bytes` encode, if they are valid UTF-8. -/
def ofUtf8? (bytes : List UInt8) : Option String :=
  String.fromUTF8? ⟨bytes.toArray⟩

/-! ## Lenient reading -/

/-- U+FFFD, which stands for bytes that encode no character. -/
def replacement : Char := '\uFFFD'

/-- The character begun by the bytes read so far: how many bytes are still needed,
the bounds of the next one, and the bits collected. -/
structure PartialChar where
  needed : Nat
  low : UInt8
  high : UInt8
  bits : Nat
deriving DecidableEq, Repr

/-- Read a byte between two characters: the characters it completes, and the
character it begins. -/
def beginChar (byte : UInt8) : List Char × Option PartialChar :=
  let tail (needed : Nat) (low high : UInt8) (bits : Nat) : List Char × Option PartialChar :=
    ([], some ⟨needed, low, high, bits⟩)
  if byte < 0x80 then ([Char.ofNat byte.toNat], none)
  else if 0xC2 ≤ byte ∧ byte ≤ 0xDF then tail 1 0x80 0xBF (byte.toNat - 0xC0)
  else if byte = 0xE0 then tail 2 0xA0 0xBF 0
  else if byte = 0xED then tail 2 0x80 0x9F 0xD
  else if 0xE1 ≤ byte ∧ byte ≤ 0xEF then tail 2 0x80 0xBF (byte.toNat - 0xE0)
  else if byte = 0xF0 then tail 3 0x90 0xBF 0
  else if 0xF1 ≤ byte ∧ byte ≤ 0xF3 then tail 3 0x80 0xBF (byte.toNat - 0xF0)
  else if byte = 0xF4 then tail 3 0x80 0x8F 4
  else ([replacement], none)

/-- Read a byte inside a character.  A byte out of bounds ends the character as
invalid and is itself read as the beginning of the next one. -/
def PartialChar.feed (begun : PartialChar) (byte : UInt8) : List Char × Option PartialChar :=
  if begun.low ≤ byte ∧ byte ≤ begun.high then
    let bits := begun.bits * 64 + (byte.toNat - 0x80)
    if begun.needed ≤ 1 then ([Char.ofNat bits], none)
    else ([], some ⟨begun.needed - 1, 0x80, 0xBF, bits⟩)
  else
    let (done, next) := beginChar byte
    (replacement :: done, next)

/-- Read bytes from inside or between characters; an unfinished character at the end
is invalid. -/
def readLenient : Option PartialChar → List UInt8 → List Char
  | none, [] => []
  | some _, [] => [replacement]
  | none, byte :: rest =>
    let (done, next) := beginChar byte
    done ++ readLenient next rest
  | some begun, byte :: rest =>
    let (done, next) := begun.feed byte
    done ++ readLenient next rest

/-- The text that `bytes` encode, with one replacement character for each longest
beginning of a character that does not go on as one. -/
def ofUtf8Lenient (bytes : List UInt8) : String :=
  String.ofList (readLenient none bytes)

end GrammarServer.Text
