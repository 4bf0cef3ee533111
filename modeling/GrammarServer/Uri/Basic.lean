/-!
# URIs

A URI in normal form, in parts.  Two URIs are the same when their parts are, and
`toString` writes the normal form.
-/

namespace GrammarServer

/-- The part of a URI that names a host. -/
structure Uri.Authority where
  username : String := ""
  password : Option String := none
  host : String := ""
  portNumber : Option Nat := none
deriving DecidableEq, Repr

/-- The path of a URI: a list of segments, each after a slash, or a plain text. -/
inductive Uri.Path where
  | segments (list : List String)
  | plain (text : String)
deriving DecidableEq, Repr

/-- A URI in normal form. -/
structure Uri where
  scheme : String
  authority : Option Uri.Authority := none
  path : Uri.Path
  query : Option String := none
  fragment : Option String := none
deriving DecidableEq, Repr

namespace Uri

/-- A path as it stands in the URI. -/
def Path.text : Path → String
  | .segments list => String.join (list.map ("/" ++ ·))
  | .plain text => text

/-- The user name and password before a host. -/
def Authority.userText (authority : Authority) : String :=
  match authority.password with
  | some password => authority.username ++ ":" ++ password ++ "@"
  | none => if authority.username = "" then "" else authority.username ++ "@"

/-- An authority as it stands in the URI. -/
def Authority.text (authority : Authority) : String :=
  authority.userText ++ authority.host ++
    match authority.portNumber with
    | some number => ":" ++ toString number
    | none => ""

/-- What stands between the scheme and the path.  Without an authority, a path that
starts with two slashes is kept apart from one. -/
def authorityText (uri : Uri) : String :=
  match uri.authority, uri.path with
  | some authority, _ => "//" ++ authority.text
  | none, .segments ("" :: _ :: _) => "/."
  | none, _ => ""

/-- A URI as text. -/
def text (uri : Uri) : String :=
  uri.scheme ++ ":" ++ uri.authorityText ++ uri.path.text
    ++ (uri.query.map ("?" ++ ·)).getD "" ++ (uri.fragment.map ("#" ++ ·)).getD ""

end Uri

end GrammarServer
