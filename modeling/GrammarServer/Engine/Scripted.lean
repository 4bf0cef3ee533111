import GrammarServer.Engine.Basic

/-!
# Scripted engines

An engine that answers from a script.  For each operation the script lists the results
of successive calls; when they run out, the last one is given again.  An operation
without results has a fixed answer.
-/

namespace GrammarServer

/-- The results that an engine gives, operation by operation. -/
structure Script where
  parse : List (CallResult Grammar) := []
  lint : List (CallResult (List Offense)) := []
  format : List (CallResult (Option String)) := []
  autocorrect : List (CallResult String) := []

/-- How many of the calls are of a kind. -/
def callCount (kind : CallKind) (log : List Call) : Nat :=
  log.countP (·.kind == kind)

/-- The result of the call after `earlier` others: the next of the list, its last one
when the list has run out, and `otherwise` when it is empty. -/
def nextResult {α : Type} (results : List (CallResult α)) (otherwise : CallResult α)
    (earlier : Nat) : CallResult α :=
  (results[min earlier (results.length - 1)]?).getD otherwise

/-- The engine that follows a script. -/
def Engine.scripted (script : Script) : Engine where
  parse log _ _ := nextResult script.parse (.ok .empty) (callCount .parse log)
  lint log _ _ := nextResult script.lint (.ok []) (callCount .lint log)
  format log _ _ := nextResult script.format (.ok none) (callCount .format log)
  autocorrect log source _ :=
    nextResult script.autocorrect (.ok source) (callCount .autocorrect log)

end GrammarServer
