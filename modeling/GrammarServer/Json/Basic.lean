/-!
# JSON values

The values that the server exchanges with editors and that it receives from the
grammar engine.  Whole numbers are kept apart from all others, because `1.0` is not
accepted where a whole number is asked for.
-/

namespace GrammarServer

/-- A JSON number. -/
inductive Json.Number where
  /-- A whole number written without fraction and exponent. -/
  | integer (value : Int)
  /-- Any other number, as it was written. -/
  | real (literal : String)
deriving DecidableEq, Repr

/-- A JSON value; the members of an object keep their order. -/
inductive Json where
  | null
  | bool (value : Bool)
  | number (value : Json.Number)
  | string (value : String)
  | array (items : List Json)
  | object (members : List (String × Json))
deriving Repr, Inhabited

namespace Json

/-- A whole number as a JSON value. -/
def nat (n : Nat) : Json := .number (.integer n)

/-- A possibly negative whole number as a JSON value. -/
def int (n : Int) : Json := .number (.integer n)

/-- A value that may be absent; absence is written `null`. -/
def ofOption {α : Type} (encode : α → Json) : Option α → Json
  | none => .null
  | some a => encode a

/-- An object whose absent members are left out. -/
def objectOf (members : List (String × Option Json)) : Json :=
  .object (members.filterMap fun (name, value) => value.map (name, ·))

/-! ## Looking into a value -/

/-- The member of an object with a given name; of several the last. -/
def get? (name : String) : Json → Option Json
  | .object members => (members.filter fun member => member.1 == name).getLast?.map (·.2)
  | _ => none

/-- The text of a JSON string. -/
def asString? : Json → Option String
  | .string s => some s
  | _ => none

/-- The truth value of a JSON boolean. -/
def asBool? : Json → Option Bool
  | .bool b => some b
  | _ => none

/-- The value of a whole number. -/
def asInt? : Json → Option Int
  | .number (.integer n) => some n
  | _ => none

/-- The value of a whole number that is not negative. -/
def asNat? : Json → Option Nat
  | .number (.integer n) => if 0 ≤ n then some n.toNat else none
  | _ => none

/-- The items of a JSON array. -/
def asArray? : Json → Option (List Json)
  | .array items => some items
  | _ => none

end Json

end GrammarServer
