import GrammarServer.Document.Basic
import GrammarServer.Json.Basic
import GrammarServer.Uri.Parser

/-!
# Values in JSON

How the values of which messages consist are read: numbers and lists, records, and
places in documents.
-/

namespace GrammarServer.Protocol

open Text

/-! ## Plain values -/

/-- The members of a record: those of an object by name, or an array that lists all of
them in order. -/
def record? (names : List String) : Json → Option (String → Option Json)
  | .array items =>
    if items.length = names.length then
      some fun name => (names.idxOf? name).bind (items[·]?)
    else none
  | .object members => some fun name => (Json.object members).get? name
  | _ => none

/-- The members of an object by name. -/
def object? : Json → Option (String → Option Json)
  | .object members => some fun name => (Json.object members).get? name
  | _ => none

/-- A member that may be missing or `null`. -/
def optional? {α : Type} (decode : Json → Option α) : Option Json → Option (Option α)
  | none => some none
  | some .null => some none
  | some value => (decode value).map some

/-- A coordinate: a whole number of 32 bits without a sign. -/
def coordinate? (value : Json) : Option Nat :=
  value.asNat?.filter (· ≤ maxCoordinate)

/-- A version: a whole number of 32 bits with a sign. -/
def version? (value : Json) : Option Int :=
  value.asInt?.filter fun n => decide (-2147483648 ≤ n ∧ n ≤ 2147483647)

/-- A list of values. -/
def list? {α : Type} (decode : Json → Option α) (value : Json) : Option (List α) :=
  value.asArray?.bind (·.mapM decode)

/-! ## Places -/

/-- A position. -/
def position? (value : Json) : Option Position := do
  let member ← record? ["line", "character"] value
  return ⟨← coordinate? (← member "line"), ← coordinate? (← member "character")⟩

/-- A range. -/
def range? (value : Json) : Option Range := do
  let member ← record? ["start", "end"] value
  return ⟨← position? (← member "start"), ← position? (← member "end")⟩

/-- A URI. -/
def uri? (value : Json) : Option Uri :=
  value.asString?.bind Uri.parse?

/-- The URI of a document that is named by nothing else. -/
def documentUri? (value : Json) : Option Uri := do
  let member ← record? ["uri"] value
  uri? (← member "uri")

/-- A place in a document. -/
def place? (value : Json) : Option Place := do
  let member ← record? ["uri", "range"] value
  return ⟨← uri? (← member "uri"), ← range? (← member "range")⟩

end GrammarServer.Protocol
