import GrammarServer.Grammar.Basic
import GrammarServer.Json.Decoder

/-!
# Grammars in JSON

The decoder for the grammar that the engine writes as JSON.  All fields of a
declaration are read before its kind is looked at, so an unknown kind is reported only
for a declaration that is otherwise sound.
-/

namespace GrammarServer

open Text (Location maxCoordinate)
open Json

/-- The fields of a location. -/
def locationFields : List (RecordField Location) := [
  .of "line" true (decodeNat maxCoordinate) fun location n => { location with line := n },
  .of "column" true (decodeNat maxCoordinate) fun location n => { location with column := n }]

/-- Decode a location. -/
def decodeLocation : Decoder Location :=
  decodeRecord locationFields ⟨0, 0⟩

/-- Decode a list of names. -/
def decodeNames : Decoder (List String) :=
  decodeList decodeString

/-! ## Declarations -/

/-- A declaration before its kind is looked at. -/
structure DeclarationDraft where
  kind : String := ""
  names : List String := []
  tokens : List String := []
  typeTag : Option String := none
  location : Option Location := none

/-- The fields of a declaration. -/
def declarationFields : List (RecordField DeclarationDraft) := [
  .of "kind" true decodeString fun draft kind => { draft with kind := kind },
  .of "names" false decodeNames fun draft names => { draft with names := names },
  .of "tokens" false decodeNames fun draft tokens => { draft with tokens := tokens },
  .of "type_tag" false (decodeOption decodeString) fun draft tag => { draft with typeTag := tag },
  .of "location" false (decodeOption decodeLocation) fun draft location =>
    { draft with location := location }]

/-- The declaration that a draft stands for.  Fields its kind does not use are dropped. -/
def DeclarationDraft.toDeclaration (draft : DeclarationDraft) :
    Except DecodeError Declaration :=
  let named : NameDeclaration := ⟨draft.names, draft.typeTag, draft.location⟩
  let ordered (associativity : Associativity) : Declaration :=
    .precedence ⟨associativity, draft.tokens, draft.location⟩
  if draft.kind = "token" then .ok (.token named)
  else if draft.kind = "type" then .ok (.type named)
  else if draft.kind = "left" then .ok (ordered .left)
  else if draft.kind = "right" then .ok (ordered .right)
  else if draft.kind = "nonassoc" then .ok (ordered .nonassoc)
  else .error (.unknownKind draft.kind)

/-- Decode a declaration. -/
def decodeDeclaration : Decoder Declaration := fun node =>
  match decodeRecord declarationFields {} node with
  | .error e => .error e
  | .ok draft => draft.toDeclaration

/-! ## Rules -/

/-- Decode a symbol. -/
def decodeSymbol : Decoder GrammarSymbol :=
  decodeRecord [.of "name" true decodeString fun _ name => ⟨name⟩] ⟨""⟩

/-- Decode an alternative. -/
def decodeAlternative : Decoder Alternative :=
  decodeRecord [
    .of "symbols" false (decodeList decodeSymbol) fun alternative symbols =>
      { alternative with symbols := symbols },
    .of "location" false (decodeOption decodeLocation) fun alternative location =>
      { alternative with location := location }] {}

/-- Decode a rule. -/
def decodeRule : Decoder Rule :=
  decodeRecord [
    .of "name" true decodeString fun rule name => { rule with name := name },
    .of "location" false (decodeOption decodeLocation) fun rule location =>
      { rule with location := location },
    .of "alternatives" false (decodeList decodeAlternative) fun rule alternatives =>
      { rule with alternatives := alternatives }] { name := "" }

/-! ## Whole grammars -/

/-- The fields of a grammar. -/
def grammarFields : List (RecordField Grammar) := [
  .of "declarations" false (decodeList decodeDeclaration) fun grammar declarations =>
    { grammar with declarations := declarations },
  .of "rules" false (decodeList decodeRule) fun grammar rules => { grammar with rules := rules },
  .of "prologue" false (decodeOption decodeString) fun grammar prologue =>
    { grammar with prologue := prologue },
  .of "epilogue" false (decodeOption decodeString) fun grammar epilogue =>
    { grammar with epilogue := epilogue }]

/-- Decode a grammar. -/
def decodeGrammar : Decoder Grammar :=
  decodeRecord grammarFields .empty

/-- Decode the grammar that a JSON text writes. -/
def Grammar.ofBytes (bytes : List UInt8) : Except DecodeError Grammar :=
  (readBytes bytes).decode decodeGrammar

/-- Decode the grammar that a JSON value stands for. -/
def Grammar.ofJson (value : Json) : Except DecodeError Grammar :=
  decodeValue decodeGrammar value

end GrammarServer
