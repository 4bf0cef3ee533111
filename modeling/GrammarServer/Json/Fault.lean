/-!
# Faults in a JSON text

A JSON text is read front to back.  Reading breaks off where the text ends too early
or where it stops being JSON.  Some faults matter only when a value is wanted: a
value that is passed over is checked less strictly.
-/

namespace GrammarServer.Json

/-- Why the reading of a JSON text broke off. -/
inductive Fault where
  /-- The text ended inside a value. -/
  | ended
  /-- The text is not JSON. -/
  | malformed
deriving DecidableEq, Repr

/-- A string or number as it stands in a JSON text. -/
structure Literal (α : Type) where
  /-- What it is worth when it is wanted, or the first fault met while reading it. -/
  value : Except Fault α
  /-- The fault met even when it is only passed over. -/
  skipFault : Option Fault

end GrammarServer.Json
