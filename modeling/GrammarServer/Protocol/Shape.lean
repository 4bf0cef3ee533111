import GrammarServer.Protocol.Value

/-!
# Shapes of values

Editors send more than the server looks at, and it must all be well-formed.  A shape
tells whether a value is; shapes of larger values are built from those of their parts.
-/

namespace GrammarServer.Protocol

/-- A test for values of a certain form. -/
abbrev Shape := Json → Bool

/-- When a member of a record may be left out. -/
inductive Presence where
  /-- Never. -/
  | required
  /-- In an object, but not in an array. -/
  | optional
  /-- Everywhere. -/
  | defaulted
deriving DecidableEq, Repr

/-- A member of a record. -/
structure Member where
  name : String
  presence : Presence
  shape : Shape

namespace Shape

/-! ## Plain values -/

/-- The values that a decoder reads. -/
def ofDecoder {α : Type} (decode : Json → Option α) : Shape := fun value =>
  (decode value).isSome

/-- All values. -/
def any : Shape := fun _ => true

/-- Truth values. -/
def bool : Shape := ofDecoder Json.asBool?

/-- Texts. -/
def string : Shape := ofDecoder Json.asString?

/-- Texts that are URIs. -/
def uri : Shape := ofDecoder uri?

/-- Whole numbers of 32 bits with a sign. -/
def int32 : Shape := ofDecoder version?

/-- Whole numbers of 32 bits without a sign. -/
def uint32 : Shape := ofDecoder coordinate?

/-- Numbers, whole or not. -/
def number : Shape
  | .number _ => true
  | _ => false

/-- One of some names, written as a text or as the only member of an object, which is
`null`. -/
def name (names : List String) : Shape
  | .string text => names.contains text
  | .object [(text, .null)] => names.contains text
  | _ => false

/-! ## Composed values -/

/-- `null`, or a value of a shape. -/
def option (shape : Shape) : Shape
  | .null => true
  | value => shape value

/-- A value of one of two shapes. -/
def either (left right : Shape) : Shape := fun value =>
  left value || right value

/-- Arrays whose items have a shape. -/
def list (item : Shape) : Shape
  | .array items => items.all item
  | _ => false

/-- Arrays of two items. -/
def pair (first second : Shape) : Shape
  | .array [a, b] => first a && second b
  | _ => false

/-- Objects with any names that have a form and values that have a shape. -/
def map (isName : String → Bool) (shape : Shape) : Shape
  | .object members => members.all fun (name, value) => isName name && shape value
  | _ => false

/-! ## Records -/

/-- Whether an object has the members of a record.  Other members are ignored. -/
def hasMembers (members : List Member) (value : Json) : Bool :=
  members.all fun member =>
    match value.get? member.name with
    | some inner => member.shape inner
    | none => member.presence != .required

/-- Whether the items of an array are the members of a record in order.  It may stop
before members that have a default. -/
def areMembers : List Member → List Json → Bool
  | [], items => items.isEmpty
  | member :: members, [] => member.presence == .defaulted && areMembers members []
  | member :: members, item :: items => member.shape item && areMembers members items

/-- A record, written as an object or as the array of its members. -/
def record (members : List Member) : Shape
  | .object found => hasMembers members (.object found)
  | .array items => areMembers members items
  | _ => false

/-- A record that is always written as an object. -/
def object (members : List Member) : Shape
  | .object found => hasMembers members (.object found)
  | _ => false

/-- A record that is always written as an object and whose further members have a shape
as well. -/
def objectWith (members : List Member) (others : Shape) : Shape
  | .object found =>
    hasMembers members (.object found)
      && found.all fun (name, value) => members.any (·.name == name) || others value
  | _ => false

/-- A record that tells by a member, or by the first item of its array, which of some
variants it is. -/
def tagged (tag : String) (variants : List (String × Shape)) : Shape := fun value =>
  let variant (label : Json) : Shape :=
    (label.asString?.bind fun text => variants.lookup text).getD fun _ => false
  match value with
  | .object found =>
    ((Json.object found).get? tag).any fun label => variant label (.object found)
  | .array (label :: items) => variant label (.array items)
  | _ => false

end Shape

/-! ## Members -/

namespace Member

/-- A member that must be there. -/
def required (name : String) (shape : Shape) : Member := ⟨name, .required, shape⟩

/-- A member that may be missing or `null`. -/
def optional (name : String) (shape : Shape) : Member := ⟨name, .optional, .option shape⟩

/-- A member that takes a default when it is missing, also from the end of an array. -/
def defaulted (name : String) (shape : Shape) : Member := ⟨name, .defaulted, shape⟩

/-- Truth values that may be missing or `null`. -/
def flags (names : List String) : List Member :=
  names.map fun name => .optional name .bool

end Member

end GrammarServer.Protocol
