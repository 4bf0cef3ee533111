import GrammarServer.Uri.Domain
import GrammarServer.Uri.Percent

/-!
# Hosts of a URI

The host of a scheme with a fixed meaning is a domain name, an IPv4 address or an IPv6
address in brackets; each has one normal form.  The host of any other scheme is kept as
it is.
-/

namespace GrammarServer.Uri

open Text

/-! ## IPv4 addresses -/

/-- The value of a digit in a base up to sixteen. -/
def digitValue? (base : Nat) (c : Char) : Option Nat :=
  if c.toNat < 0x80 then
    (Json.hexValue? (UInt8.ofNat c.toNat)).bind fun n => if n < base then some n else none
  else none

/-- The number written by digits of a base; no digits write zero. -/
def numberInBase? (base : Nat) (digits : List Char) : Option Nat :=
  digits.foldl (fun total c => do
    let n ← total
    let d ← digitValue? base c
    return n * base + d) (some 0)

/-- A number of an IPv4 address: hexadecimal after `0x`, octal after `0`, else decimal. -/
def ipv4Number? : List Char → Option Nat
  | [] => none
  | '0' :: 'x' :: digits => numberInBase? 16 digits
  | '0' :: 'X' :: digits => numberInBase? 16 digits
  | '0' :: d :: digits => numberInBase? 8 (d :: digits)
  | digits => numberInBase? 10 digits

/-- The dotted parts of a host, without an empty part after a final dot. -/
def dottedParts (host : List Char) : List (List Char) :=
  let parts := splitAt (· == '.') host
  if 1 < parts.length && parts.getLast? == some [] then parts.dropLast else parts

/-- Whether a host must be an IPv4 address because its last part is a number. -/
def endsInNumber (host : List Char) : Bool :=
  match (dottedParts host).getLast? with
  | none => false
  | some last => (!last.isEmpty && last.all Char.isDigit) || (ipv4Number? last).isSome

/-- The IPv4 address that dotted numbers write.  The last number fills all bytes that
are left. -/
def ipv4? (host : List Char) : Option Nat := do
  let parts := dottedParts host
  if 4 < parts.length then none
  else
    let numbers ← parts.mapM ipv4Number?
    let last ← numbers.getLast?
    let front := numbers.dropLast
    if front.any (255 < ·) || Nat.pow 256 (5 - numbers.length) ≤ last then none
    else
      let placed := front.zipIdx.map fun (n, index) => n * Nat.pow 256 (3 - index)
      return placed.foldr (· + ·) last

/-- An IPv4 address in dotted decimal form. -/
def ipv4Text (address : Nat) : String :=
  ".".intercalate ([3, 2, 1, 0].map fun k => toString (address / Nat.pow 256 k % 256))

/-! ## IPv6 addresses -/

/-- The pieces of one side of an IPv6 address; the last may be a dotted IPv4 address. -/
def ipv6Pieces? (side : List Char) : Option (List Nat) :=
  if side.isEmpty then some []
  else
    let parts := splitAt (· == ':') side
    let piece? (digits : List Char) : Option Nat :=
      if digits.isEmpty || 4 < digits.length then none else numberInBase? 16 digits
    let dotted? (digits : List Char) : Option (List Nat) := do
      let numbers := splitAt (· == '.') digits
      if numbers.length ≠ 4 then none
      else
        let bytes ← numbers.mapM fun n =>
          if n.isEmpty || 3 < n.length || (1 < n.length && n.head? == some '0') then none
          else numberInBase? 10 n
        match bytes with
        | [a, b, c, d] =>
          if bytes.any (255 < ·) then none else some [a * 256 + b, c * 256 + d]
        | _ => none
    match parts.getLast? with
    | none => none
    | some last =>
      if last.contains '.' then do
        let front ← parts.dropLast.mapM piece?
        let back ← dotted? last
        return front ++ back
      else parts.mapM piece?

/-- The two sides of the first double colon of an IPv6 address. -/
def cutAtDoubleColon : List Char → Option (List Char × List Char)
  | ':' :: ':' :: rest => some ([], rest)
  | c :: rest => (cutAtDoubleColon rest).map fun (left, right) => (c :: left, right)
  | [] => none

/-- The eight pieces of an IPv6 address.  A double colon stands for at least one piece
that is zero. -/
def ipv6? (host : List Char) : Option (List Nat) := do
  match cutAtDoubleColon host with
  | none =>
    let pieces ← ipv6Pieces? host
    if pieces.length = 8 then some pieces else none
  | some (left, right) =>
    let front ← ipv6Pieces? left
    let back ← ipv6Pieces? right
    if 7 < front.length + back.length || left.contains '.' then none
    else some (front ++ List.replicate (8 - front.length - back.length) 0 ++ back)

/-- Where the first longest run of zeros starts and how long it is. -/
def longestZeros (pieces : List Nat) : Nat × Nat :=
  (List.range pieces.length).foldl (fun best start =>
    let run := ((pieces.drop start).takeWhile (· == 0)).length
    if best.2 < run then (start, run) else best) (0, 0)

/-- A piece of an IPv6 address in hexadecimal. -/
def pieceText (n : Nat) : String :=
  String.ofList (Nat.toDigits 16 n)

/-- An IPv6 address in brackets; the first longest run of at least two zeros is
shortened to a double colon. -/
def ipv6Text (pieces : List Nat) : String :=
  let join (ps : List Nat) := ":".intercalate (ps.map pieceText)
  let (start, run) := longestZeros pieces
  if run < 2 then "[" ++ join pieces ++ "]"
  else "[" ++ join (pieces.take start) ++ "::" ++ join (pieces.drop (start + run)) ++ "]"

/-! ## Hosts -/

/-- The address between the brackets of a host. -/
def bracketed? (host : List Char) : Option (List Char) :=
  match host with
  | '[' :: rest => if rest.getLast? == some ']' then some rest.dropLast else none
  | _ => none

/-- The normal form of the host of a scheme with a fixed meaning. -/
def specialHost? (host : List Char) : Option String := do
  if host.head? == some '[' then
    return ipv6Text (← ipv6? (← bracketed? host))
  else
    let decoded ← Text.ofUtf8? (decode (String.ofList host))
    let name ← domain? decoded.toList
    if endsInNumber name then return ipv4Text (← ipv4? name)
    else return String.ofList name

/-- The normal form of the host of any other scheme. -/
def plainHost? (host : List Char) : Option String := do
  if host.head? == some '[' then
    return ipv6Text (← ipv6? (← bracketed? host))
  else if host.any fun c => c.toNat == 0 || " \t\n\r#/:<>?@[\\]^|".toList.contains c then none
  else return encode controlSet host

end GrammarServer.Uri
