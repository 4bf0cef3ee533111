import GrammarServer.Grammar.Basic

/-!
# Looking up names in a grammar

Tokens and nonterminals are looked up by name.  A name that is declared both as a
token and as a rule is the token.  Where the engine gives one location for several
names, or none for the uses of a name, the text is searched for the name as a whole
word.

Main results:

- `isToken_iff_mem_tokenNames`: a name is a token exactly when it is among the token names.
-/

namespace GrammarServer

open Text

/-- Whether a name denotes a token or a nonterminal. -/
inductive SymbolKind where
  | token
  | rule
deriving DecidableEq, Repr

/-- What a name denotes and where the engine places its declaration. -/
structure SymbolDeclaration where
  name : String
  kind : SymbolKind
  location : Option Location
deriving DecidableEq, Repr

/-! ## Places in the text -/

/-- The column, counted from 0, of the first whole-word match of `name` on the line of a
declaration, at or after the declaration's column. -/
def nameColumn? (text name : String) (location : Location) : Option Nat := do
  let line ← (lines text)[location.line - 1]?
  (wholeWordColumns line name.toList).find? (location.column - 1 ≤ ·)

/-- The place of `name` on the line of a declaration: its first whole-word match at or
after the declaration's column, else the declaration's own location. -/
def nameLocation (text name : String) (location : Location) : Except Crash Location :=
  match nameColumn? text name location with
  | none => .ok location
  | some column => do
    let next ← coordinateSum (toCoordinate column) 1
    return ⟨location.line, next⟩

/-- The engine's location for column `column` of line `index`, both counted from 0. -/
def locationAt (index column : Nat) : Except Crash Location := do
  let line ← coordinateSum (toCoordinate index) 1
  let next ← coordinateSum (toCoordinate column) 1
  return ⟨line, next⟩

/-- The line where the rule body that starts on line `start` ends: the first line from
there on with a semicolon, or the last line. -/
def bodyEnd (lines : List Line) (start : Nat) : Nat :=
  match (lines.drop start).findIdx? (·.contains ';') with
  | some offset => start + offset
  | none => lines.length - 1

namespace Grammar

/-! ## Declarations -/

/-- The `%token` declarations in source order. -/
def tokenDeclarations (grammar : Grammar) : List NameDeclaration :=
  grammar.declarations.filterMap fun
    | .token declaration => some declaration
    | _ => none

/-- The `%type` declarations in source order. -/
def typeDeclarations (grammar : Grammar) : List NameDeclaration :=
  grammar.declarations.filterMap fun
    | .type declaration => some declaration
    | _ => none

/-- All names declared as tokens, in source order. -/
def tokenNames (grammar : Grammar) : List String :=
  grammar.tokenDeclarations.flatMap (·.names)

/-- The first token declaration with a given name. -/
def token? (grammar : Grammar) (name : String) : Option NameDeclaration :=
  grammar.tokenDeclarations.find? (·.names.contains name)

/-- The first rule with a given name. -/
def rule? (grammar : Grammar) (name : String) : Option Rule :=
  grammar.rules.find? (·.name == name)

/-- Whether a name is declared as a token. -/
def isToken (grammar : Grammar) (name : String) : Bool :=
  (grammar.token? name).isSome

/-- The type tag of a name: the first tag among the token declarations that name it,
then among the type declarations. -/
def typeOf? (grammar : Grammar) (name : String) : Option String :=
  (grammar.tokenDeclarations ++ grammar.typeDeclarations).findSome? fun declaration =>
    if declaration.names.contains name then declaration.typeTag else none

/-- What a name denotes: a token if it is declared as one, else a rule. -/
def declaration? (grammar : Grammar) (name : String) : Option SymbolDeclaration :=
  match grammar.token? name with
  | some declaration => some ⟨name, .token, declaration.location⟩
  | none => (grammar.rule? name).map fun rule => ⟨name, .rule, rule.location⟩

/-- Where a name is declared in the text.  A token declaration covers several names, so
the name is looked up on its line. -/
def declarationLocation? (grammar : Grammar) (text name : String) :
    Except Crash (Option Location) :=
  match grammar.declaration? name with
  | none => .ok none
  | some declaration =>
    match declaration.location, declaration.kind with
    | none, _ => .ok none
    | some location, .rule => .ok (some location)
    | some location, .token => do
      let place ← nameLocation text name location
      return some place

/-! ## Uses -/

/-- The whole-word matches of a name from line `start` to line `stop`, in order, each as the
number of its line and its column. -/
def matchesBetween (lines : List Line) (name : String) (start stop : Nat) :
    List (Nat × Nat) :=
  ((lines.take (stop + 1)).zipIdx.drop start).flatMap fun (line, index) =>
    (wholeWordColumns line name.toList).map fun column => (index, column)

/-- The whole-word matches of a name in the body of a rule. -/
def bodyMatches (lines : List Line) (name : String) (rule : Rule) : List (Nat × Nat) :=
  match rule.location with
  | none => []
  | some location =>
    let start := location.line - 1
    if start < lines.length then matchesBetween lines name start (bodyEnd lines start) else []

/-- The locations of the whole-word matches of a name in the bodies of all rules, rule by
rule.  Bodies may share lines, so a match can be listed more than once. -/
def occurrences (grammar : Grammar) (text name : String) : Except Crash (List Location) :=
  collect (fun (index, column) => locationAt index column)
    (grammar.rules.flatMap (bodyMatches (lines text) name))

/-- A list without the elements that occurred before or are listed in `seen`. -/
def distinct (seen : List Location) : List Location → List Location
  | [] => []
  | location :: rest =>
    if seen.contains location then distinct seen rest
    else location :: distinct (location :: seen) rest

/-- The places found for a name, each once.  With its declaration they start with the
declaring place; without it that place is left out even where the search finds it. -/
def listPlaces (declared : Option Location) (found : List Location) (withDeclaration : Bool) :
    List Location :=
  match declared with
  | none => distinct [] found
  | some declared =>
    if withDeclaration then declared :: distinct [declared] found
    else distinct [declared] found

/-- The places of a name, each once, with its declaration or without it. -/
def references (grammar : Grammar) (text name : String) (withDeclaration : Bool) :
    Except Crash (List Location) := do
  let declared ← grammar.declarationLocation? text name
  let found ← grammar.occurrences text name
  return listPlaces declared found withDeclaration

/-! ## Laws of the lookups -/

/-- A name is a token exactly when it is among the token names. -/
@[simp]
theorem isToken_iff_mem_tokenNames {grammar : Grammar} {name : String} :
    grammar.isToken name = true ↔ name ∈ grammar.tokenNames := by
  simp [isToken, token?, tokenNames]

end Grammar

end GrammarServer
