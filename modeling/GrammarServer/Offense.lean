import GrammarServer.Grammar.Decoder

/-!
# Offenses

What the engine objects to in a grammar file, and the decoder for the list of offenses
that it writes as JSON.
-/

namespace GrammarServer

open Text (Location)
open Json

/-- How serious an offense is; an unknown tag is kept as it is. -/
inductive Severity where
  | error
  | warning
  | convention
  | info
  | other (tag : String)
deriving DecidableEq, Repr

/-- The severity that a tag of the engine stands for. -/
def Severity.ofTag (tag : String) : Severity :=
  if tag = "error" then .error
  else if tag = "warning" then .warning
  else if tag = "convention" then .convention
  else if tag = "info" then .info
  else .other tag

/-- A finding of the engine's linter. -/
structure Offense where
  location : Option Location := none
  severity : Severity
  ruleName : Option String := none
  message : Option String := none
deriving DecidableEq, Repr

/-- Decode a severity. -/
def decodeSeverity : Decoder Severity := fun node =>
  match decodeString node with
  | .ok tag => .ok (.ofTag tag)
  | .error e => .error e

/-- Decode an offense. -/
def decodeOffense : Decoder Offense :=
  decodeRecord [
    .of "location" false (decodeOption decodeLocation) fun offense location =>
      { offense with location := location },
    .of "severity" true decodeSeverity fun offense severity =>
      { offense with severity := severity },
    .of "rule_name" false (decodeOption decodeString) fun offense name =>
      { offense with ruleName := name },
    .of "message" false (decodeOption decodeString) fun offense message =>
      { offense with message := message }] { severity := .other "" }

/-- Decode a list of offenses. -/
def decodeOffenses : Decoder (List Offense) :=
  decodeList decodeOffense

/-- Decode the offenses that a JSON text writes. -/
def Offense.listOfBytes (bytes : List UInt8) : Except DecodeError (List Offense) :=
  (readBytes bytes).decode decodeOffenses

/-- Decode the offenses that a JSON value stands for. -/
def Offense.listOfJson (value : Json) : Except DecodeError (List Offense) :=
  decodeValue decodeOffenses value

end GrammarServer
