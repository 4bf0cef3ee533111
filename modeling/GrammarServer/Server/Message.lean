import GrammarServer.Feature.Analysis
import GrammarServer.Feature.Completion
import GrammarServer.Feature.Folding
import GrammarServer.Feature.Highlight
import GrammarServer.Feature.Hover
import GrammarServer.Feature.Outline
import GrammarServer.Feature.References
import GrammarServer.Feature.Search

/-!
# Messages and answers

The messages that the server handles, the replies it gives and the diagnostics it
publishes.
-/

namespace GrammarServer

open Text

/-- What an editor tells about the workspace when a session starts. -/
structure StartParams where
  rootUri : Option Uri := none
  folders : List Uri := []
deriving DecidableEq, Repr

/-- The path of the workspace: the root, or else the first folder, if it is a file. -/
def StartParams.workspaceRoot? (params : StartParams) : Option String :=
  (params.rootUri.or params.folders.head?).bind (·.filePath?)

/-- A message from an editor. -/
inductive Message where
  | start (params : StartParams)
  | started
  | shutdown
  | didOpen (uri : Uri) (text : String) (version : Int)
  /-- The texts of the changes in order; each is the whole text. -/
  | didChange (uri : Uri) (version : Int) (changes : List String)
  | didSave (uri : Uri) (text : Option String)
  | didClose (uri : Uri)
  | formatting (uri : Uri)
  | codeAction (uri : Uri) (range : Range)
  | hover (uri : Uri) (position : Position)
  | completion (uri : Uri)
  | definition (uri : Uri) (position : Position)
  | references (uri : Uri) (position : Position) (withDeclaration : Bool)
  | documentSymbol (uri : Uri)
  | rename (uri : Uri) (position : Position) (newName : String)
  | semanticTokens (uri : Uri)
  | foldingRange (uri : Uri)
  | workspaceSymbol (query : String)
deriving DecidableEq, Repr

/-- The document that a message is about. -/
def Message.uri? : Message → Option Uri
  | .start _ | .started | .shutdown | .workspaceSymbol _ => none
  | .didOpen uri _ _ | .didChange uri _ _ | .didSave uri _ | .didClose uri | .formatting uri
  | .codeAction uri _ | .hover uri _ | .completion uri | .definition uri _
  | .references uri _ _ | .documentSymbol uri | .rename uri _ _ | .semanticTokens uri
  | .foldingRange uri => some uri

/-- The reply to a message. -/
inductive Reply where
  /-- Nothing but the fact that the message was handled. -/
  | empty
  | formatting (edits : Option (List TextEdit))
  | codeAction (actions : List CodeAction)
  | hover (hover : Option Hover)
  | completion (items : List CompletionItem)
  | definition (place : Option Place)
  | references (places : List Place)
  | documentSymbol (entries : List OutlineEntry)
  | rename (edit : Option WorkspaceEdit)
  | semanticTokens (tokens : List TokenDelta)
  | foldingRange (folds : List Fold)
  | workspaceSymbol (symbols : List FoundSymbol)
deriving DecidableEq, Repr

/-- Whether a reply is of the kind that a message asks for. -/
def Message.expects : Message → Reply → Bool
  | .formatting _, .formatting _ | .codeAction _ _, .codeAction _ | .hover _ _, .hover _
  | .completion _, .completion _ | .definition _ _, .definition _
  | .references _ _ _, .references _ | .documentSymbol _, .documentSymbol _
  | .rename _ _ _, .rename _ | .semanticTokens _, .semanticTokens _
  | .foldingRange _, .foldingRange _ | .workspaceSymbol _, .workspaceSymbol _
  | .start _, .empty | .started, .empty | .shutdown, .empty | .didOpen _ _ _, .empty
  | .didChange _ _ _, .empty | .didSave _ _, .empty | .didClose _, .empty => true
  | _, _ => false

/-- Diagnostics that the server shows for a document, with the version they are for. -/
structure Publication where
  uri : Uri
  diagnostics : List Diagnostic
  version : Option Int
deriving DecidableEq, Repr

/-- The answer to a message. -/
structure Answer where
  reply : Reply
  published : List Publication := []
deriving DecidableEq, Repr

/-- Why a message was not answered. -/
inductive ServerError where
  /-- No session has been started. -/
  | notInitialized
  /-- The handling of the message broke off. -/
  | crashed (crash : Crash)
deriving DecidableEq, Repr

/-- An error in words. -/
def ServerError.message : ServerError → String
  | .notInitialized => "Server has not been initialized"
  | .crashed _ => "Handler panicked"

end GrammarServer
