import GrammarServer.Document.Basic

/-!
# Completion

The names a grammar declares and the directives of grammar files.  The cursor plays no
part: editors filter the list themselves.
-/

namespace GrammarServer

/-- How an editor displays a completion. -/
inductive CompletionKind where
  | keyword
  | nonterminal
deriving DecidableEq, Repr

/-- A word offered for completion. -/
structure CompletionItem where
  label : String
  kind : CompletionKind
  detail : String
  documentation : Option String := none
deriving DecidableEq, Repr

/-- The directives of grammar files. -/
def directives : List String :=
  ["%token", "%type", "%left", "%right", "%nonassoc", "%prec", "%union", "%start"]

/-- The completion for a token. -/
def tokenCompletion (name : String) : CompletionItem where
  label := name
  kind := .keyword
  detail := "Token: " ++ name
  documentation := some "Declared token"

/-- The completion for a nonterminal. -/
def ruleCompletion (rule : Rule) : CompletionItem where
  label := rule.name
  kind := .nonterminal
  detail := "Nonterminal: " ++ rule.name
  documentation := some "Grammar rule"

/-- The completion for a directive. -/
def directiveCompletion (directive : String) : CompletionItem where
  label := directive
  kind := .keyword
  detail := "Grammar directive"

/-- Tokens, then nonterminals, then directives; nothing without a grammar. -/
def Document.completions (document : Document) : List CompletionItem :=
  match document.grammar with
  | none => []
  | some grammar =>
    grammar.tokenNames.map tokenCompletion ++ grammar.rules.map ruleCompletion
      ++ directives.map directiveCompletion

end GrammarServer
