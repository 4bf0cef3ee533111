import GrammarServer.Offense

/-!
# Diagnostics

An offense is shown to the editor as a diagnostic.  The engine gives no end for an
offense, so every diagnostic is ten characters wide.

Main results:

- `Offense.toDiagnostic_range`: a diagnostic lies on one line and is ten characters wide.
-/

namespace GrammarServer

open Text

/-- How serious a diagnostic is for the editor. -/
inductive DiagnosticSeverity where
  | error
  | warning
  | information
  | hint
deriving DecidableEq, Repr

/-- A remark on a range of a document. -/
structure Diagnostic where
  range : Range
  severity : Option DiagnosticSeverity := none
  code : Option String := none
  source : Option String := none
  message : String
deriving DecidableEq, Repr

/-- The editor's severity for a severity of the engine. -/
def Severity.toDiagnosticSeverity : Severity → DiagnosticSeverity
  | .error => .error
  | .warning => .warning
  | .convention => .information
  | .info => .hint
  | .other _ => .information

/-- The source named in every diagnostic that stands for an offense. -/
def diagnosticSource : String := "collie"

/-- The width of every diagnostic that stands for an offense. -/
def diagnosticWidth : Nat := 10

/-- The diagnostic for an offense.  An offense without a location is shown at the start
of the document. -/
def Offense.toDiagnostic (offense : Offense) : Except Crash Diagnostic := do
  let start := (offense.location.getD ⟨1, 1⟩).toPosition
  let range ← start.span diagnosticWidth
  return {
    range := range
    severity := some offense.severity.toDiagnosticSeverity
    code := some (offense.ruleName.getD "unknown")
    source := some diagnosticSource
    message := offense.message.getD "Unknown error" }

/-- The diagnostics for a list of offenses, in the same order. -/
def diagnosticsOf (offenses : List Offense) : Except Crash (List Diagnostic) :=
  collect Offense.toDiagnostic offenses

/-- A diagnostic for an offense lies on one line and has the fixed width. -/
theorem Offense.toDiagnostic_range {offense : Offense} {diagnostic : Diagnostic}
    (h : offense.toDiagnostic = .ok diagnostic) :
    diagnostic.range.stop.line = diagnostic.range.start.line ∧
      diagnostic.range.stop.character = diagnostic.range.start.character + diagnosticWidth := by
  unfold Offense.toDiagnostic at h
  cases hs : ((offense.location.getD ⟨1, 1⟩).toPosition.span diagnosticWidth) with
  | error e => simp [hs, bind, Except.bind] at h
  | ok range =>
    simp only [hs, bind, Except.bind, pure, Except.pure, Except.ok.injEq] at h
    obtain ⟨_, rfl⟩ := Position.span_eq_ok_iff.mp hs
    subst h
    exact ⟨rfl, rfl⟩

end GrammarServer
