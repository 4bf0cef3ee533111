import GrammarServer.Diagnostic
import GrammarServer.Grammar.Index
import GrammarServer.Uri.FilePath

/-!
# Documents

An open document: its text as the editor last sent it, the grammar parsed from that
text if there is one, and the diagnostics last computed for it.
-/

namespace GrammarServer

/-- An open document. -/
structure Document where
  uri : Uri
  text : String
  version : Int
  /-- The grammar of the current text, once it has been parsed. -/
  grammar : Option Grammar := none
  diagnostics : List Diagnostic := []
deriving DecidableEq, Repr

/-- A document as it is when it has just been opened. -/
def Document.fresh (uri : Uri) (text : String) (version : Int) : Document where
  uri := uri
  text := text
  version := version

/-- A document with a new text; its grammar is forgotten. -/
def Document.withText (document : Document) (text : String) (version : Int) : Document :=
  { document with text := text, version := version, grammar := none }

/-- A replacement of a range of a document by a new text. -/
structure TextEdit where
  range : Text.Range
  newText : String
deriving DecidableEq, Repr

/-- The edit that replaces a whole document. -/
def Document.replaceAll (document : Document) (newText : String) : TextEdit :=
  ⟨Text.fullRange document.text, newText⟩

/-- Edits to one document. -/
structure WorkspaceEdit where
  uri : Uri
  edits : List TextEdit
deriving DecidableEq, Repr

/-- A range of a document. -/
structure Place where
  uri : Uri
  range : Text.Range
deriving DecidableEq, Repr

end GrammarServer
