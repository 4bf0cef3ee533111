import GrammarServer.Document.Basic

/-!
# Hover

A short description of the token or nonterminal under the cursor, in Markdown.
-/

namespace GrammarServer

/-- A description and the word it describes. -/
structure Hover where
  markdown : String
  range : Text.Range
deriving DecidableEq, Repr

/-- The description of a name, if the grammar declares it. -/
def Grammar.describe? (grammar : Grammar) (name : String) : Option String :=
  (grammar.declaration? name).map fun declaration =>
    match declaration.kind with
    | .token =>
      "**Token**: `" ++ name ++ "`\n\nType: `" ++ (grammar.typeOf? name).getD "none" ++ "`"
    | .rule =>
      let alternatives := ((grammar.rule? name).map (·.alternatives.length)).getD 0
      "**Nonterminal**: `" ++ name ++ "`\n\n" ++ toString alternatives ++ " alternative(s)" ++
        match grammar.typeOf? name with
        | some tag => "\n\nType: `" ++ tag ++ "`"
        | none => ""

/-- The description of the word at a position. -/
def Document.hover? (document : Document) (position : Text.Position) : Option Hover := do
  let grammar ← document.grammar
  let found ← Text.wordAt? document.text position
  let markdown ← grammar.describe? found.word
  return ⟨markdown, found.range⟩

end GrammarServer
