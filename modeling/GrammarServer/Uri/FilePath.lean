import GrammarServer.Uri.Basic
import GrammarServer.Uri.Percent

/-!
# File paths of URIs

A URI without a foreign host and with a path of segments names a file on this machine.
The engine is told a file name for every document.
-/

namespace GrammarServer.Uri

/-- Whether a path ends with a letter and a colon or bar. -/
def endsWithDrive (path : List UInt8) : Bool :=
  match path.reverse with
  | mark :: letter :: _ :: _ =>
    (mark == 0x3A || mark == 0x7C)
      && ((0x41 ≤ letter && letter ≤ 0x5A) || (0x61 ≤ letter && letter ≤ 0x7A))
  | _ => false

/-- The bytes of the file path that a list of segments stands for.  A drive at the very
end is followed by a slash. -/
def filePathBytes (segments : List String) : List UInt8 :=
  let path := segments.flatMap fun segment => 0x2F :: decode segment
  if endsWithDrive path then path ++ [0x2F] else path

/-- The host a URI names; none counts as this machine. -/
def host (uri : Uri) : String :=
  match uri.authority with
  | some authority => authority.host
  | none => ""

/-- The file path of a URI on this machine. -/
def filePath? (uri : Uri) : Option String :=
  match uri.path with
  | .segments (first :: rest) =>
    if uri.host = "" ∨ uri.host = "localhost" then
      some (Text.ofUtf8Lenient (filePathBytes (first :: rest)))
    else none
  | _ => none

/-- The file name used when a URI has no path. -/
def fallbackFilename : String := "grammar.y"

/-- The file name that the engine is told for a document: its file path, else the path
as it stands in the URI. -/
def filename (uri : Uri) : String :=
  match uri.filePath? with
  | some path => path
  | none => if uri.path.text = "" then fallbackFilename else uri.path.text

end GrammarServer.Uri
