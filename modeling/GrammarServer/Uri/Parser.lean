import GrammarServer.Uri.Basic
import GrammarServer.Uri.Host

/-!
# Reading URIs

A URI is read into its normal form.  Schemes such as `http` and `file` have a fixed
meaning: they always have an authority, treat a backslash as a slash and never have an
empty path.
-/

namespace GrammarServer.Uri

open Text

/-- What is known about a scheme. -/
inductive SchemeKind where
  /-- The scheme of files on this machine. -/
  | file
  /-- A scheme with a fixed meaning; `standard` is the number that may be left out after
  the host. -/
  | special (standard : Nat)
  /-- Any other scheme. -/
  | other
deriving DecidableEq, Repr

/-- What is known about a scheme of a given name. -/
def SchemeKind.ofName (name : String) : SchemeKind :=
  if name = "file" then .file
  else if name = "http" ∨ name = "ws" then .special 80
  else if name = "https" ∨ name = "wss" then .special 443
  else if name = "ftp" then .special 21
  else .other

/-- Whether a character separates path segments. -/
def SchemeKind.isSlash (kind : SchemeKind) (c : Char) : Bool :=
  c == '/' || (c == '\\' && kind != .other)

/-! ## Cutting a URI into parts -/

/-- A tab or line break, which is passed over wherever it stands in a URI. -/
def isBreak (c : Char) : Bool :=
  c == '\t' || c == '\n' || c == '\r'

/-- A text without tabs and line breaks. -/
def withoutBreaks (cs : List Char) : List Char :=
  cs.filter (!isBreak ·)

/-- A text without control characters and spaces at its ends. -/
def trimmed (text : String) : List Char :=
  let isEdge (c : Char) : Bool := c.toNat ≤ 0x20
  ((text.toList.dropWhile isEdge).reverse.dropWhile isEdge).reverse

/-- The text before the first `mark`, and the text after it if there is one. -/
def cutAt (mark : Char) (cs : List Char) : List Char × Option (List Char) :=
  match cs.dropWhile (· != mark) with
  | [] => (cs, none)
  | _ :: rest => (cs.takeWhile (· != mark), some rest)

/-- The scheme of a URI in lower case, and the text after its colon. -/
def scheme? (cs : List Char) : Option (String × List Char) :=
  let isSchemeChar (c : Char) : Bool :=
    c.isAlphanum || c == '+' || c == '-' || c == '.' || isBreak c
  match cs.head?, cs.dropWhile isSchemeChar with
  | some first, ':' :: rest =>
    if first.isAlpha then
      let name := withoutBreaks (cs.takeWhile isSchemeChar)
      some (String.ofList (name.map Char.toLower), rest)
    else none
  | _, _ => none

/-! ## Paths -/

/-- A letter and a colon or bar: the name of a drive. -/
def isDrive : List Char → Bool
  | [letter, mark] => letter.isAlpha && (mark == ':' || mark == '|')
  | _ => false

/-- A segment in lower case, as far as dots are concerned. -/
def dotForm (segment : List Char) : String :=
  String.ofList (segment.map Char.toLower)

/-- Whether a segment stands for the current directory. -/
def isSingleDot (segment : List Char) : Bool :=
  [".", "%2e"].contains (dotForm segment)

/-- Whether a segment stands for the parent directory. -/
def isDoubleDot (segment : List Char) : Bool :=
  ["..", ".%2e", "%2e.", "%2e%2e"].contains (dotForm segment)

/-- A path while it is read: its segments so far, latest first, and whether the first of
them is a drive of this machine. -/
structure Trail where
  done : List String := []
  onDrive : Bool := false

/-- A path without its last segment.  A drive stays. -/
def Trail.shorten (trail : Trail) : Trail :=
  match trail.done with
  | [] => trail
  | last :: before => if isDrive last.toList then trail else { trail with done := before }

/-- A path with one more segment. -/
def Trail.push (trail : Trail) (segment : List Char) : Trail :=
  { trail with done := encode pathSet segment :: trail.done }

/-- A piece of a path that names a drive with a colon and goes on after a tab or line
break: the drive, and what follows it. -/
def brokenDrive? (piece : List Char) : Option (Char × List Char) :=
  match piece.dropWhile isBreak with
  | letter :: afterLetter =>
    match afterLetter.dropWhile isBreak with
    | ':' :: next :: rest =>
      let follows := withoutBreaks rest
      if letter.isAlpha && isBreak next && !follows.isEmpty then some (letter, follows)
      else none
    | _ => none
  | [] => none

/-- A file path with one more piece.  A drive at the front is written with a colon. -/
def Trail.pushInFile (trail : Trail) (piece : List Char) : Trail :=
  match trail.done, brokenDrive? piece, withoutBreaks piece with
  | [], some (letter, follows), _ => (trail.push [letter, ':']).push follows
  | [], none, [letter, mark] =>
    if isDrive [letter, mark] then { trail.push [letter, ':'] with onDrive := true }
    else trail.push [letter, mark]
  | _, _, segment => trail.push segment

/-- A path with one more piece. -/
def Trail.add (kind : SchemeKind) (trail : Trail) (piece : List Char) : Trail :=
  if kind = .file then trail.pushInFile piece else trail.push (withoutBreaks piece)

/-- Resolve the dots among the pieces of a path. -/
def resolve (kind : SchemeKind) (trail : Trail) : List (List Char) → Trail
  | [] => trail
  | [last] =>
    let segment := withoutBreaks last
    if isDoubleDot segment then trail.shorten.push []
    else if isSingleDot segment then trail.push []
    else trail.add kind last
  | piece :: rest =>
    let segment := withoutBreaks piece
    if isDoubleDot segment then resolve kind trail.shorten rest
    else if isSingleDot segment then resolve kind trail rest
    else resolve kind (trail.add kind piece) rest

/-- The segments of a path that has been read.  Empty segments at the front of a file
path are dropped. -/
def Trail.segments (kind : SchemeKind) (trail : Trail) : List String :=
  match kind with
  | .file =>
    match trail.done.reverse.dropWhile (· == "") with
    | [] => [""]
    | kept => kept
  | _ => trail.done.reverse

/-- Read a path from the text after its first slash. -/
def trailOf (kind : SchemeKind) (cs : List Char) : Trail :=
  resolve kind {} (splitAt kind.isSlash cs)

/-- The segments of a path from the text after its first slash. -/
def segmentsOf (kind : SchemeKind) (cs : List Char) : List String :=
  (trailOf kind cs).segments kind

/-- A text without one slash at its front. -/
def dropSlash (kind : SchemeKind) : List Char → List Char
  | [] => []
  | c :: rest => if kind.isSlash c then rest else c :: rest

/-! ## Authorities -/

/-- The user name and password before the last at sign of an authority, and the text
after it. -/
def userInfo (cs : List Char) : Option (List Char) × List Char :=
  let parts := splitAt (· == '@') cs
  match parts.getLast? with
  | none => (none, cs)
  | some last =>
    if parts.length ≤ 1 then (none, cs)
    else (some (['@'].intercalate parts.dropLast), last)

/-- The name and password that a user part writes; an empty password is dropped. -/
def nameAndPassword (info : List Char) : String × Option String :=
  match cutAt ':' info with
  | (name, none) => (encode userSet name, none)
  | (name, some password) =>
    (encode userSet name, if password.isEmpty then none else some (encode userSet password))

/-- The host at the front of a text, up to a colon outside brackets, and the rest. -/
def hostPart (inBrackets : Bool) : List Char → List Char × List Char
  | [] => ([], [])
  | c :: rest =>
    if c == ':' && !inBrackets then ([], c :: rest)
    else
      let inside := if c == '[' then true else if c == ']' then false else inBrackets
      let (host, after) := hostPart inside rest
      (c :: host, after)

/-- The number after the host at the front of a text, and what follows it.  It is at
most 65535; the standard number of the scheme is left out. -/
def portNumber? (kind : SchemeKind) (cs : List Char) : Option (Option Nat × List Char) := do
  let digits := cs.takeWhile Char.isDigit
  let rest := cs.dropWhile Char.isDigit
  let number ← numberInBase? 10 digits
  if 65535 < number then none
  else if rest.head?.any (· != '\\') then none
  else if digits.isEmpty || kind = .special number then some (none, rest)
  else some (some number, rest)

/-- The authority of a URI and what of its text belongs to the path.  `more` tells
whether anything follows the authority. -/
def authority? (kind : SchemeKind) (cs : List Char) (more : Bool) :
    Option (Authority × List Char) := do
  let (info, hostAndPort) := userInfo cs
  if info == some [] && hostAndPort.isEmpty && more then none
  else
    let (username, password) := nameAndPassword (info.getD [])
    let (hostText, afterHost) := hostPart false hostAndPort
    if hostText.isEmpty && (kind != .other || !afterHost.isEmpty
        || username != "" || password.isSome) then none
    else
      let host ← if kind = .other then plainHost? hostText else specialHost? hostText
      match afterHost with
      | ':' :: digits =>
        let (number, rest) ← portNumber? kind digits
        return (⟨username, password, host, number⟩, rest)
      | rest => return (⟨username, password, host, none⟩, rest)

/-! ## Whole URIs -/

/-- The authority and path of a URI whose scheme is followed by an authority. -/
def withAuthority? (kind : SchemeKind) (cs : List Char) (more : Bool) :
    Option (Option Authority × Path) := do
  let front := cs.takeWhile (!kind.isSlash ·)
  let back := cs.drop front.length
  let (authority, leftover) ← authority? kind front (more || !back.isEmpty)
  let pathText := leftover ++ back
  if kind = .other ∧ pathText = [] then return (some authority, .segments [])
  else return (some authority, .segments (segmentsOf kind (dropSlash kind pathText)))

/-- The authority and path of a file URI from the text after its two slashes.  A host
that is a drive belongs to the path, and `localhost` is no host.  Without a host the path
starts with an empty piece, the one before its first slash; with one, a path on a drive
takes the place of the host. -/
def fileWithHost? (cs : List Char) : Option (Option Authority × Path) := do
  let rawHost := cs.takeWhile (!SchemeKind.file.isSlash ·)
  let hostText := withoutBreaks rawHost
  let onThisMachine (path : List Char) : Option Authority × Path :=
    (some {}, .segments (segmentsOf .file path))
  let back := cs.drop rawHost.length
  if hostText.isEmpty then return onThisMachine back
  else if isDrive hostText then return onThisMachine cs
  else
    let host ← specialHost? hostText
    if host = "localhost" then return onThisMachine back
    else
      let trail := trailOf .file (dropSlash .file back)
      return (some { host := if trail.onDrive then "" else host },
        .segments (trail.segments .file))

/-- The authority and path of a file URI. -/
def file? (cs : List Char) : Option (Option Authority × Path) :=
  let path := dropSlash .file (cs.dropWhile isBreak)
  let afterSlash := path.dropWhile isBreak
  if (cs.dropWhile isBreak).head?.any SchemeKind.file.isSlash
      && afterSlash.head?.any SchemeKind.file.isSlash then
    fileWithHost? (dropSlash .file afterSlash)
  else some (some {}, .segments (segmentsOf .file path))

/-- The authority and path of a URI from the text between scheme and query. -/
def hierarchy? (kind : SchemeKind) (cs : List Char) (more : Bool) :
    Option (Option Authority × Path) :=
  match kind with
  | .file => file? cs
  | .special _ => withAuthority? kind ((withoutBreaks cs).dropWhile kind.isSlash) more
  | .other =>
    match withoutBreaks cs with
    | '/' :: '/' :: rest => withAuthority? kind rest more
    | '/' :: rest => some (none, .segments (segmentsOf kind rest))
    | path => some (none, .plain (encode controlSet path))

/-- Read a URI into its normal form. -/
def parse? (text : String) : Option Uri := do
  let (scheme, rest) ← scheme? (trimmed text)
  let kind := SchemeKind.ofName scheme
  let (beforeFragment, fragment) := cutAt '#' rest
  let (beforeQuery, query) := cutAt '?' beforeFragment
  let (authority, path) ← hierarchy? kind beforeQuery (query.isSome || fragment.isSome)
  return {
    scheme := scheme
    authority := authority
    path := path
    query := query.map fun cs =>
      encode (if kind = .other then querySet else specialQuerySet) (withoutBreaks cs)
    fragment := fragment.map fun cs => encode fragmentSet (withoutBreaks cs) }

end GrammarServer.Uri
