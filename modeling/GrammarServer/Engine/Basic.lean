import GrammarServer.Offense

/-!
# Grammar engines

A grammar engine parses, lints, formats and corrects grammar sources.  What an engine
answers may depend on the calls it has received before, so each operation is a function
of the log of earlier calls.  A call succeeds, fails, or crashes the handling of the
message that made it.
-/

namespace GrammarServer

/-- The four operations of an engine. -/
inductive CallKind where
  | parse
  | lint
  | format
  | autocorrect
deriving DecidableEq, Repr

/-- The name of an operation. -/
def CallKind.name : CallKind → String
  | .parse => "parse"
  | .lint => "lint"
  | .format => "format"
  | .autocorrect => "autocorrect"

/-- A call of an engine: the operation, the source and the name of its file. -/
structure Call where
  kind : CallKind
  source : String
  filename : String
deriving DecidableEq, Repr

/-- How an engine call ends. -/
inductive CallResult (α : Type) where
  | ok (value : α)
  | failed
  | crashed
deriving DecidableEq, Repr

/-- A grammar engine.  Each operation sees the log of earlier calls, the source and the
file name.  Formatting succeeds with nothing when the source cannot be formatted. -/
structure Engine where
  parse : List Call → String → String → CallResult Grammar
  lint : List Call → String → String → CallResult (List Offense)
  format : List Call → String → String → CallResult (Option String)
  autocorrect : List Call → String → String → CallResult String

/-- Whether an engine's answers depend on source and file name alone. -/
def Engine.Memoryless (engine : Engine) : Prop :=
  (∀ log source filename, engine.parse log source filename = engine.parse [] source filename) ∧
  (∀ log source filename, engine.lint log source filename = engine.lint [] source filename) ∧
  (∀ log source filename, engine.format log source filename = engine.format [] source filename) ∧
  (∀ log source filename,
    engine.autocorrect log source filename = engine.autocorrect [] source filename)

/-- The engine calls that an activity made, and how the activity ended. -/
structure EngineRun (α : Type) where
  calls : List Call
  result : Except Crash α

/-- An activity that calls no engine. -/
def EngineRun.silent {α : Type} (value : α) : EngineRun α := ⟨[], .ok value⟩

end GrammarServer
