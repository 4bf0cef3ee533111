import GrammarServer.Document.Basic

/-!
# Definition, references and rename

Three answers about the name under the cursor: where it is declared, where it occurs,
and the edits that give it another name.
-/

namespace GrammarServer

open Text

/-- A word of a document that stands for a name of its grammar. -/
structure NameInUse where
  grammar : Grammar
  name : String

/-- The name under a position, if the document has a grammar. -/
def Document.nameAt? (document : Document) (position : Position) : Option NameInUse := do
  let grammar ← document.grammar
  let found ← wordAt? document.text position
  return ⟨grammar, found.word⟩

/-- The ranges that a name covers at several locations. -/
def nameRanges (name : String) (locations : List Location) : Except Crash (List Range) :=
  collect (nameRange · name) locations

/-! ## Definition and references -/

/-- The declaration of the name under a position. -/
def Document.definition? (document : Document) (position : Position) :
    Except Crash (Option Place) :=
  match document.nameAt? position with
  | none => .ok none
  | some use => do
    match ← use.grammar.declarationLocation? document.text use.name with
    | none => return none
    | some location =>
      let range ← nameRange location use.name
      return some ⟨document.uri, range⟩

/-- The occurrences of the name under a position. -/
def Document.references (document : Document) (position : Position) (withDeclaration : Bool) :
    Except Crash (List Place) :=
  match document.nameAt? position with
  | none => .ok []
  | some use => do
    let locations ← use.grammar.references document.text use.name withDeclaration
    let ranges ← nameRanges use.name locations
    return ranges.map (⟨document.uri, ·⟩)

/-! ## Rename -/

/-- A text that starts with a character of one class and goes on with those of
another. -/
def hasShape (first next : Char → Bool) : List Char → Bool
  | [] => false
  | c :: rest => first c && rest.all next

/-- Whether a text is written like a token: capitals, digits and underscores, with a
capital first. -/
def isTokenName (name : String) : Bool :=
  hasShape Char.isUpper (fun c => c.isUpper || c.isDigit || c == '_') name.toList

/-- Whether a text is written like a nonterminal: small letters, digits and
underscores, with a small letter first. -/
def isRuleName (name : String) : Bool :=
  hasShape Char.isLower (fun c => c.isLower || c.isDigit || c == '_') name.toList

/-- Whether a name may be changed into another: tokens stay in capitals, everything
else in small letters. -/
def Grammar.isValidRename (grammar : Grammar) (oldName newName : String) : Bool :=
  if grammar.isToken oldName then isTokenName newName else isRuleName newName

/-- The edits that rename the name under a position; none for an invalid new name. -/
def Document.rename? (document : Document) (position : Position) (newName : String) :
    Except Crash (Option WorkspaceEdit) :=
  match document.nameAt? position with
  | none => .ok none
  | some use =>
    if use.grammar.isValidRename use.name newName then do
      let locations ← use.grammar.references document.text use.name true
      let ranges ← nameRanges use.name locations
      return some ⟨document.uri, ranges.map (⟨·, newName⟩)⟩
    else .ok none

end GrammarServer
