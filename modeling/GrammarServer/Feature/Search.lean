import GrammarServer.Document.Store
import GrammarServer.Feature.Outline
import GrammarServer.Text.Lowercase

/-!
# Workspace search

The tokens, types and rules of all open documents whose names contain the query, the
best matches first.  Letter case plays no part.
-/

namespace GrammarServer

open Text

/-- A declared name found by a search. -/
structure FoundSymbol where
  name : String
  kind : OutlineKind
  container : String
  place : Place
deriving DecidableEq, Repr

/-- A declared name with the place the engine gives it, before it is searched. -/
structure DeclaredSymbol where
  name : String
  kind : OutlineKind
  container : String
  location : Option Location
deriving DecidableEq, Repr

/-- Whether a run of characters occurs somewhere in a text. -/
def occursIn (run : List Char) : List Char → Bool
  | [] => run.isEmpty
  | c :: rest => run.isPrefixOf (c :: rest) || occursIn run rest

/-- How well a name matches a query in lower case; a smaller rank is better.  An empty
query matches everything best. -/
def relevance (name query : String) : Nat :=
  let lowered := (lowercase name).toList
  if query.isEmpty then 0
  else if lowered = query.toList then 1
  else if query.toList.isPrefixOf lowered then 2
  else if occursIn query.toList lowered then 3
  else 4

/-- Whether a name contains a query in lower case. -/
def matchesQuery (query name : String) : Bool :=
  occursIn query.toList (lowercase name).toList

/-- The names of declarations, each with the location of its declaration. -/
def declaredSymbols (kind : OutlineKind) (container : String)
    (declarations : List NameDeclaration) : List DeclaredSymbol :=
  declarations.flatMap fun declaration =>
    declaration.names.map fun name => ⟨name, kind, container, declaration.location⟩

/-- All names that a grammar declares: tokens, types, then rules. -/
def Grammar.symbols (grammar : Grammar) : List DeclaredSymbol :=
  declaredSymbols .token "Tokens" grammar.tokenDeclarations
    ++ declaredSymbols .type "Types" grammar.typeDeclarations
    ++ grammar.rules.map fun rule => ⟨rule.name, .rule, "Rules", rule.location⟩

/-- Where a declared symbol stands: a rule at its own location, any other name on the line
of its declaration. -/
def DeclaredSymbol.placeFrom (text : String) (symbol : DeclaredSymbol) (location : Location) :
    Except Crash Location :=
  match symbol.kind with
  | .rule => .ok location
  | _ => nameLocation text symbol.name location

/-- A declared symbol as a search result, if it has a place and matches the query. -/
def DeclaredSymbol.found? (query text : String) (uri : Uri) (symbol : DeclaredSymbol) :
    Except Crash (Option FoundSymbol) :=
  match symbol.location with
  | none => .ok none
  | some location => do
    let place ← symbol.placeFrom text location
    if matchesQuery query symbol.name then
      let range ← nameRange place symbol.name
      return some ⟨symbol.name, symbol.kind, symbol.container, uri, range⟩
    else return none

/-- The search results of one document, in the order of its declarations. -/
def Document.search (document : Document) (query : String) : Except Crash (List FoundSymbol) :=
  match document.grammar with
  | none => .ok []
  | some grammar => do
    let results ← collect (DeclaredSymbol.found? query document.text document.uri)
      grammar.symbols
    return results.filterMap id

/-- The search results of all open documents.  Equally good matches keep the order of
documents and declarations. -/
def Store.search (store : Store) (query : String) : Except Crash (List FoundSymbol) := do
  let lowered := lowercase query
  let results ← collect (·.search lowered) store.documents
  return results.flatten.mergeSort fun a b =>
    decide (relevance a.name lowered ≤ relevance b.name lowered)

end GrammarServer
