import GrammarServer.Json.Basic
import GrammarServer.Server.Message

/-!
# Answers in JSON

How positions, edits, symbols and all other parts of an answer are written in JSON for
an editor.  Absent members are left out; an absent answer is `null`.
-/

namespace GrammarServer.Protocol

open Text Json

/-! ## Places -/

/-- A position. -/
def position (p : Position) : Json :=
  .object [("line", .nat p.line), ("character", .nat p.character)]

/-- A range. -/
def range (r : Range) : Json :=
  .object [("start", position r.start), ("end", position r.stop)]

/-- A URI. -/
def uri (u : Uri) : Json := .string u.text

/-- A range of a document. -/
def place (p : Place) : Json :=
  .object [("uri", uri p.uri), ("range", range p.range)]

/-! ## Edits -/

/-- An edit. -/
def textEdit (edit : TextEdit) : Json :=
  .object [("range", range edit.range), ("newText", .string edit.newText)]

/-- Edits of a document. -/
def workspaceEdit (edit : WorkspaceEdit) : Json :=
  .object [("changes", .object [(edit.uri.text, .array (edit.edits.map textEdit))])]

/-! ## Diagnostics -/

/-- The number of a severity. -/
def severityNumber : DiagnosticSeverity → Nat
  | .error => 1
  | .warning => 2
  | .information => 3
  | .hint => 4

/-- A diagnostic. -/
def diagnostic (d : Diagnostic) : Json :=
  .objectOf [
    ("range", some (range d.range)),
    ("severity", d.severity.map fun severity => .nat (severityNumber severity)),
    ("code", d.code.map .string),
    ("source", d.source.map .string),
    ("message", some (.string d.message))]

/-- An action that corrects all offenses. -/
def codeAction (action : CodeAction) : Json :=
  .object [
    ("title", .string action.title),
    ("kind", .string "source.fixAll"),
    ("diagnostics", .array (action.diagnostics.map diagnostic)),
    ("edit", workspaceEdit action.edit)]

/-! ## Symbols -/

/-- A description. -/
def hover (h : Hover) : Json :=
  .object [
    ("contents", .object [("kind", .string "markdown"), ("value", .string h.markdown)]),
    ("range", range h.range)]

/-- The number of a kind of completion. -/
def completionKindNumber : CompletionKind → Nat
  | .keyword => 14
  | .nonterminal => 7

/-- A completion. -/
def completionItem (item : CompletionItem) : Json :=
  .objectOf [
    ("label", some (.string item.label)),
    ("kind", some (.nat (completionKindNumber item.kind))),
    ("detail", some (.string item.detail)),
    ("documentation", item.documentation.map .string)]

/-- The number of a kind of symbol. -/
def symbolKindNumber : OutlineKind → Nat
  | .token => 14
  | .type => 5
  | .precedence => 22
  | .rule => 12
  | .alternative => 6

/-- The members of an entry of an outline. -/
def outlineMembers (item : OutlineItem) : List (String × Json) := [
  ("name", .string item.name),
  ("detail", .string item.detail),
  ("kind", .nat (symbolKindNumber item.kind)),
  ("range", range item.range),
  ("selectionRange", range item.range)]

/-- An entry of an outline with the entries below it. -/
def outlineEntry (entry : OutlineEntry) : Json :=
  .object (outlineMembers entry.item ++
    if entry.children.isEmpty then []
    else [("children", .array (entry.children.map fun child => .object (outlineMembers child)))])

/-- A result of a search. -/
def foundSymbol (symbol : FoundSymbol) : Json :=
  .object [
    ("name", .string symbol.name),
    ("kind", .nat (symbolKindNumber symbol.kind)),
    ("location", place symbol.place),
    ("containerName", .string symbol.container)]

/-! ## Lines and tokens -/

/-- The name of a kind of fold. -/
def foldKindName : FoldKind → String
  | .region => "region"
  | .comment => "comment"

/-- A fold. -/
def fold (f : Fold) : Json :=
  .object [
    ("startLine", .nat f.startLine),
    ("endLine", .nat f.endLine),
    ("kind", .string (foldKindName f.kind))]

/-- The five numbers of a token. -/
def tokenNumbers (delta : TokenDelta) : List Json :=
  [.nat delta.deltaLine, .nat delta.deltaStart, .nat delta.length, .nat delta.type,
    .nat delta.modifiers]

/-- The coloured tokens of a document. -/
def semanticTokens (deltas : List TokenDelta) : Json :=
  .object [("data", .array (deltas.flatMap tokenNumbers))]

/-! ## Answers -/

/-- A reply that is a value of the protocol; an empty reply is `null`. -/
def reply : Reply → Json
  | .empty => .null
  | .formatting edits => .ofOption (fun list => .array (list.map textEdit)) edits
  | .codeAction actions => .array (actions.map codeAction)
  | .hover h => .ofOption hover h
  | .completion items => .array (items.map completionItem)
  | .definition found => .ofOption place found
  | .references places => .array (places.map place)
  | .documentSymbol entries => .array (entries.map outlineEntry)
  | .rename edit => .ofOption workspaceEdit edit
  | .semanticTokens tokens => semanticTokens tokens
  | .foldingRange folds => .array (folds.map fold)
  | .workspaceSymbol symbols => .array (symbols.map foundSymbol)

end GrammarServer.Protocol
