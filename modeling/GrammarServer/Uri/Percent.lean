import GrammarServer.Json.StringLiteral
import GrammarServer.Text.Utf8

/-!
# Percent encoding

Characters that may not stand in a part of a URI are written as the bytes of their
UTF-8 form, each as a percent sign and two hexadecimal digits.  Which characters those
are depends on the part.
-/

namespace GrammarServer.Uri

/-- A set of bytes that must be encoded. -/
abbrev EncodeSet := UInt8 → Bool

/-- Control characters and everything outside ASCII. -/
def controlSet : EncodeSet := fun b => b < 0x20 || 0x7F ≤ b

/-- What is encoded in a fragment. -/
def fragmentSet : EncodeSet := fun b =>
  controlSet b || b == 0x20 || b == 0x22 || b == 0x3C || b == 0x3E || b == 0x60

/-- What is encoded in a path. -/
def pathSet : EncodeSet := fun b =>
  fragmentSet b || b == 0x23 || b == 0x3F || b == 0x7B || b == 0x7D

/-- What is encoded in a user name or password. -/
def userSet : EncodeSet := fun b =>
  pathSet b || b == 0x2F || b == 0x3A || b == 0x3B || b == 0x3D || b == 0x40
    || b == 0x5B || b == 0x5C || b == 0x5D || b == 0x5E || b == 0x7C

/-- What is encoded in a query. -/
def querySet : EncodeSet := fun b =>
  controlSet b || b == 0x20 || b == 0x22 || b == 0x23 || b == 0x3C || b == 0x3E

/-- What is encoded in the query of a scheme with a fixed meaning. -/
def specialQuerySet : EncodeSet := fun b =>
  querySet b || b == 0x27

/-- One hexadecimal digit in upper case. -/
def upperHexDigit (n : Nat) : Char :=
  if n < 10 then Char.ofNat (0x30 + n) else Char.ofNat (0x37 + n)

/-- A byte in encoded form. -/
def encodeByte (b : UInt8) : List Char :=
  ['%', upperHexDigit (b.toNat / 16), upperHexDigit (b.toNat % 16)]

/-- A character, encoded if it is in the set. -/
def encodeChar (set : EncodeSet) (c : Char) : List Char :=
  (String.utf8EncodeChar c).flatMap fun b =>
    if set b then encodeByte b else [Char.ofNat b.toNat]

/-- A text with all characters of the set encoded. -/
def encode (set : EncodeSet) (cs : List Char) : String :=
  String.ofList (cs.flatMap (encodeChar set))

/-- Bytes with every encoded byte replaced by itself.  A percent sign that starts no
encoded byte stands for itself. -/
def decodeBytes : List UInt8 → List UInt8
  | 0x25 :: a :: b :: rest =>
    match Json.hexValue? a, Json.hexValue? b with
    | some high, some low => UInt8.ofNat (high * 16 + low) :: decodeBytes rest
    | _, _ => 0x25 :: decodeBytes (a :: b :: rest)
  | byte :: rest => byte :: decodeBytes rest
  | [] => []

/-- The bytes that an encoded text stands for. -/
def decode (text : String) : List UInt8 :=
  decodeBytes (Text.utf8Bytes text)

end GrammarServer.Uri
