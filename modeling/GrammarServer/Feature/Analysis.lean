import GrammarServer.Document.Basic
import GrammarServer.Engine.Basic

/-!
# Linting, formatting and fixing

The three activities that call the engine for a document: computing its diagnostics,
formatting it, and correcting all its offenses at once.
-/

namespace GrammarServer

open Text

/-! ## Lint -/

/-- The diagnostics of a document; none when the engine fails, so that those of the
last successful lint stay in place. -/
def Engine.lintDocument (engine : Engine) (log : List Call) (uri : Uri) (text : String) :
    EngineRun (Option (List Diagnostic)) :=
  let calls := [⟨.lint, text, uri.filename⟩]
  match engine.lint log text uri.filename with
  | .crashed => ⟨calls, .error .engineCrash⟩
  | .failed => ⟨calls, .ok none⟩
  | .ok offenses => ⟨calls, (diagnosticsOf offenses).map some⟩

/-! ## Formatting -/

/-- The edits that format a document: none when the engine cannot, an empty list when
the text is formatted already. -/
def Engine.formatDocument (engine : Engine) (log : List Call) (document : Document) :
    EngineRun (Option (List TextEdit)) :=
  let calls := [⟨.format, document.text, document.uri.filename⟩]
  match engine.format log document.text document.uri.filename with
  | .crashed => ⟨calls, .error .engineCrash⟩
  | .failed => ⟨calls, .ok none⟩
  | .ok none => ⟨calls, .ok none⟩
  | .ok (some formatted) =>
    ⟨calls, .ok (some (if formatted = document.text then [] else [document.replaceAll formatted]))⟩

/-! ## Fixing -/

/-- An action that corrects all offenses of a document. -/
structure CodeAction where
  title : String
  diagnostics : List Diagnostic
  edit : WorkspaceEdit
deriving DecidableEq, Repr

/-- The title of the action that corrects all offenses. -/
def fixAllTitle : String := "Fix all auto-correctable offenses"

/-- The diagnostics whose lines lie in a range; columns play no part. -/
def diagnosticsIn (range : Range) (diagnostics : List Diagnostic) : List Diagnostic :=
  diagnostics.filter fun diagnostic =>
    decide (range.start.line ≤ diagnostic.range.start.line)
      && decide (diagnostic.range.stop.line ≤ range.stop.line)

/-- The corrected text of a source; the source itself when the engine fails. -/
def Engine.correct (engine : Engine) (log : List Call) (source filename : String) :
    EngineRun String :=
  let calls := [⟨.autocorrect, source, filename⟩]
  match engine.autocorrect log source filename with
  | .crashed => ⟨calls, .error .engineCrash⟩
  | .failed => ⟨calls, .ok source⟩
  | .ok corrected => ⟨calls, .ok corrected⟩

/-- The action offered for a range: one that corrects the whole document if any of its
diagnostics lies in the range. -/
def Engine.fixAll (engine : Engine) (log : List Call) (document : Document) (range : Range) :
    EngineRun (List CodeAction) :=
  match diagnosticsIn range document.diagnostics with
  | [] => .silent []
  | found =>
    let run := engine.correct log document.text document.uri.filename
    ⟨run.calls, run.result.map fun corrected =>
      [⟨fixAllTitle, found, ⟨document.uri, [document.replaceAll corrected]⟩⟩]⟩

end GrammarServer
