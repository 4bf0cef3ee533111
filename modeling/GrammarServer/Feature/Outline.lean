import GrammarServer.Document.Basic

/-!
# Outline

The tokens, types, precedence levels and rules of a document, each where it stands in
the text.  What has no location is left out.
-/

namespace GrammarServer

open Text

/-- What an entry of an outline is. -/
inductive OutlineKind where
  | token
  | type
  | precedence
  | rule
  | alternative
deriving DecidableEq, Repr

/-- An entry of an outline. -/
structure OutlineItem where
  name : String
  detail : String
  kind : OutlineKind
  range : Range
deriving DecidableEq, Repr

/-- An entry of an outline with the entries below it. -/
structure OutlineEntry where
  item : OutlineItem
  children : List OutlineItem := []
deriving DecidableEq, Repr

/-- The entry for a name at a location. -/
def outlineItem (name : String) (kind : OutlineKind) (detail : String) (location : Location) :
    Except Crash OutlineItem := do
  let range ← nameRange location name
  return ⟨name, detail, kind, range⟩

/-! ## Declarations -/

/-- The kind, detail and names that a declaration contributes. -/
def Declaration.outlineNames : Declaration → OutlineKind × String × List String
  | .token declaration => (.token, "Token", declaration.names)
  | .type declaration => (.type, "Type", declaration.names)
  | .precedence declaration =>
    (.precedence, declaration.associativity.label ++ " precedence", declaration.tokens)

/-- The entries of a declaration: each of its names where it stands on the line. -/
def Declaration.outline (text : String) (declaration : Declaration) :
    Except Crash (List OutlineEntry) :=
  match declaration.location with
  | none => .ok []
  | some location =>
    let (kind, detail, names) := declaration.outlineNames
    collect (fun name => do
      let place ← nameLocation text name location
      let item ← outlineItem name kind detail place
      return ⟨item, []⟩) names

/-! ## Rules -/

/-- The symbols of an alternative in a line; an empty one is shown as an epsilon. -/
def Alternative.summary (alternative : Alternative) : String :=
  if alternative.symbols.isEmpty then "ε"
  else " ".intercalate (alternative.symbols.map (·.name))

/-- The entry of an alternative, which counts from 1. -/
def Alternative.outline (alternative : Alternative) (index : Nat) :
    Except Crash (Option OutlineItem) :=
  match alternative.location with
  | none => .ok none
  | some location => do
    let item ← outlineItem ("Alternative " ++ toString (index + 1)) .alternative
      alternative.summary location
    return some item

/-- The entry of a rule with its alternatives. -/
def Rule.outline (rule : Rule) : Except Crash (Option OutlineEntry) :=
  match rule.location with
  | none => .ok none
  | some location => do
    let children ← collect (fun (alternative, index) => Alternative.outline alternative index)
      rule.alternatives.zipIdx
    let item ← outlineItem rule.name .rule
      ("Grammar rule (" ++ toString rule.alternatives.length ++ " alternatives)") location
    return some ⟨item, children.filterMap id⟩

/-! ## Documents -/

/-- The outline of a grammar: tokens, types, precedence levels, then rules. -/
def Grammar.outline (grammar : Grammar) (text : String) : Except Crash (List OutlineEntry) := do
  let declared ← collect (Declaration.outline text) grammar.declarations
  let rules ← collect Rule.outline grammar.rules
  let ofKind (kind : OutlineKind) := declared.flatten.filter (·.item.kind == kind)
  return ofKind .token ++ ofKind .type ++ ofKind .precedence ++ rules.filterMap id

/-- The outline of a document; empty without a grammar. -/
def Document.outline (document : Document) : Except Crash (List OutlineEntry) :=
  match document.grammar with
  | none => .ok []
  | some grammar => grammar.outline document.text

end GrammarServer
