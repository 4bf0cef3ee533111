import GrammarServer.Json.Reading

/-!
# Decoding a tree

A decoder walks a tree from front to back and reports the first problem it meets: a
fault of the text, or a value of the wrong shape.  A record may be written as an
object with its members in any order or as the array of its fields in order.
-/

namespace GrammarServer.Json

/-- The first problem met while a tree is decoded. -/
inductive DecodeError where
  /-- The text is faulty. -/
  | fault (fault : Fault)
  /-- A value has the wrong shape, or a member is missing or repeated. -/
  | mismatch
  /-- A declaration is of no known kind. -/
  | unknownKind (kind : String)
deriving DecidableEq, Repr

/-- The wording of the errors that carry one. -/
def DecodeError.message? : DecodeError → Option String
  | .unknownKind kind => some ("unknown declaration kind: " ++ kind)
  | _ => none

/-- A decoder turns a tree into a value or reports its first problem. -/
abbrev Decoder (α : Type) := Node → Except DecodeError α

/-- The problem with a node that is not of the wanted kind.  A string or number is
read before its kind is found wrong, so its own fault comes first. -/
def Node.reject : Node → DecodeError
  | .string ⟨.error fault, _⟩ => .fault fault
  | .number ⟨.error fault, _⟩ => .fault fault
  | .broken fault => .fault fault
  | _ => .mismatch

/-- Pass over a node. -/
def Node.skip (node : Node) : Except DecodeError Unit :=
  match node.skipFault? with
  | some fault => .error (.fault fault)
  | none => .ok ()

/-! ## Plain values -/

/-- A string. -/
def decodeString : Decoder String
  | .string ⟨.ok text, _⟩ => .ok text
  | node => .error node.reject

/-- A whole number from 0 to `bound`. -/
def decodeNat (bound : Nat) : Decoder Nat
  | .number ⟨.ok (.integer n), _⟩ =>
    if 0 ≤ n ∧ n ≤ bound then .ok n.toNat else .error .mismatch
  | node => .error node.reject

/-- A value that may be `null`. -/
def decodeOption {α : Type} (decode : Decoder α) : Decoder (Option α)
  | .null => .ok none
  | node =>
    match decode node with
    | .ok a => .ok (some a)
    | .error e => .error e

/-- The items of an array, one after the other. -/
def decodeItems {α : Type} (decode : Decoder α) : List Node → Except DecodeError (List α)
  | [] => .ok []
  | item :: rest =>
    match decode item with
    | .error e => .error e
    | .ok a =>
      match decodeItems decode rest with
      | .error e => .error e
      | .ok others => .ok (a :: others)

/-- An array of values. -/
def decodeList {α : Type} (decode : Decoder α) : Decoder (List α)
  | .array items fault =>
    match decodeItems decode items with
    | .error e => .error e
    | .ok values =>
      match fault with
      | some f => .error (.fault f)
      | none => .ok values
  | node => .error node.reject

/-! ## Records -/

/-- A field of a record of type `σ`: its name, whether it may be left out, and how its
value is put into the record. -/
structure RecordField (σ : Type) where
  name : String
  required : Bool
  put : Node → σ → Except DecodeError σ

/-- A field of a record from the decoder of its value and a setter. -/
def RecordField.of {σ α : Type} (name : String) (required : Bool) (decode : Decoder α)
    (set : σ → α → σ) : RecordField σ where
  name := name
  required := required
  put node record :=
    match decode node with
    | .ok a => .ok (set record a)
    | .error e => .error e

/-- Read the members of an object into a record.  Unknown members are passed over, a
repeated field is an error as soon as its key is read.  `seen` holds the names of the
fields read so far. -/
def readMembers {σ : Type} (fields : List (RecordField σ)) :
    List String → σ → Members → Except DecodeError (List String × σ)
  | seen, record, [] => .ok (seen, record)
  | seen, record, (key, node) :: rest =>
    match key.value with
    | .error fault => .error (.fault fault)
    | .ok name =>
      match fields.find? (·.name == name) with
      | none =>
        match node.skip with
        | .error e => .error e
        | .ok () => readMembers fields seen record rest
      | some field =>
        if seen.contains name then .error .mismatch
        else
          match field.put node record with
          | .error e => .error e
          | .ok filled => readMembers fields (name :: seen) filled rest

/-- Read the items of an array into the fields of a record, in order.  The array may
stop before fields that can be left out; more items than fields are not allowed. -/
def readPositional {σ : Type} :
    List (RecordField σ) → σ → List Node → Option Fault → Except DecodeError σ
  | [], _, _ :: _, _ => .error (.fault .malformed)
  | _, _, [], some fault => .error (.fault fault)
  | fields, record, [], none =>
    if fields.any (·.required) then .error .mismatch else .ok record
  | field :: fields, record, item :: items, fault =>
    match field.put item record with
    | .error e => .error e
    | .ok filled => readPositional fields filled items fault

/-- A record whose fields start out as in `blank`. -/
def decodeRecord {σ : Type} (fields : List (RecordField σ)) (blank : σ) : Decoder σ
  | .object members fault =>
    match readMembers fields [] blank members with
    | .error e => .error e
    | .ok (seen, record) =>
      match fault with
      | some f => .error (.fault f)
      | none =>
        if fields.all fun field => !field.required || seen.contains field.name then .ok record
        else .error .mismatch
  | .array items fault => readPositional fields blank items fault
  | node => .error node.reject

/-! ## Whole texts -/

/-- Decode the value a text holds; nothing may follow it. -/
def Reading.decode {α : Type} (reading : Reading) (decode : Decoder α) :
    Except DecodeError α :=
  match decode reading.node with
  | .error e => .error e
  | .ok a =>
    match reading.trailing with
    | some fault => .error (.fault fault)
    | none => .ok a

/-- Decode a value that was never written down.  It has no text that could be faulty, so
whatever is wrong with it is its shape. -/
def decodeValue {α : Type} (decode : Decoder α) (value : Json) : Except DecodeError α :=
  match decode value.toNode with
  | .error (.fault _) => .error .mismatch
  | result => result

end GrammarServer.Json
