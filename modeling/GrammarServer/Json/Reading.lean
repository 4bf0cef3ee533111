import GrammarServer.Json.Token

/-!
# Reading a JSON text

A reading is the tree of a JSON text as far as the text could be read.  Where reading
broke off, the tree carries the fault, so that whoever walks the tree from front to
back meets its own objections and the text's faults in the order of the text.

The tree is built by a machine that takes one token at a time and keeps the arrays
and objects that are still open on a stack.
-/

namespace GrammarServer.Json

/-- The tree of a JSON text as far as it could be read. -/
inductive Node where
  | null
  | bool (value : Bool)
  | number (literal : Literal Number)
  | string (literal : Literal String)
  /-- The items read, and the fault met in place of the closing bracket. -/
  | array (items : List Node) (fault : Option Fault)
  /-- The members read, and the fault met in place of the closing bracket. -/
  | object (members : List (Literal String × Node)) (fault : Option Fault)
  /-- No value stands where one is needed. -/
  | broken (fault : Fault)

/-- The members of an object as far as they were read. -/
abbrev Members := List (Literal String × Node)

/-- An array or object that is still open; what was read of it, latest first. -/
inductive Frame where
  | items (done : List Node)
  /-- An object whose member `key` still lacks its value. -/
  | members (done : Members) (key : Literal String)

/-- The tree of a text, and the fault of anything that follows it. -/
structure Reading where
  node : Node
  trailing : Option Fault

/-- Where the machine stands between two tokens. -/
inductive ReaderState where
  /-- A value must follow. -/
  | value (frames : List Frame)
  /-- An array has just been opened. -/
  | firstItem (frames : List Frame)
  /-- An object has just been opened. -/
  | firstKey (frames : List Frame)
  /-- A comma has been read in an object. -/
  | nextKey (frames : List Frame) (done : Members)
  /-- A member's key has been read. -/
  | afterKey (frames : List Frame) (done : Members) (key : Literal String)
  /-- A value has been read. -/
  | afterValue (frames : List Frame) (node : Node)
  /-- Reading is over. -/
  | over (reading : Reading)

/-- Close every open array and object around the node where reading broke off. -/
def abandon : List Frame → Node → Node
  | [], node => node
  | .items done :: frames, node => abandon frames (.array (node :: done).reverse none)
  | .members done key :: frames, node =>
    abandon frames (.object ((key, node) :: done).reverse none)

/-- The state after reading broke off at `node`. -/
def ReaderState.stop (frames : List Frame) (node : Node) : ReaderState :=
  .over ⟨abandon frames node, none⟩

/-- Take a token where a value must follow. -/
def takeValue (frames : List Frame) : Token → ReaderState
  | .openArray => .firstItem frames
  | .openObject => .firstKey frames
  | .null => .afterValue frames .null
  | .bool b => .afterValue frames (.bool b)
  | .number literal => .afterValue frames (.number literal)
  | .string literal => .afterValue frames (.string literal)
  | .broken fault => .stop frames (.broken fault)
  | .closeArray | .closeObject | .colon | .comma => .stop frames (.broken .malformed)

/-- Take a token where a key must follow. -/
def takeKey (frames : List Frame) (done : Members) : Token → ReaderState
  | .string key => .afterKey frames done key
  | _ => .stop frames (.object done.reverse (some .malformed))

/-- Take a token after a complete value. -/
def takeAfterValue (node : Node) : List Frame → Token → ReaderState
  | [], _ => .over ⟨node, some .malformed⟩
  | .items done :: frames, .comma => .value (.items (node :: done) :: frames)
  | .items done :: frames, .closeArray => .afterValue frames (.array (node :: done).reverse none)
  | .items done :: frames, _ => .stop frames (.array (node :: done).reverse (some .malformed))
  | .members done key :: frames, .comma => .nextKey frames ((key, node) :: done)
  | .members done key :: frames, .closeObject =>
    .afterValue frames (.object ((key, node) :: done).reverse none)
  | .members done key :: frames, _ =>
    .stop frames (.object ((key, node) :: done).reverse (some .malformed))

/-- Take the next token. -/
def ReaderState.take : ReaderState → Token → ReaderState
  | .value frames, token => takeValue frames token
  | .firstItem frames, .closeArray => .afterValue frames (.array [] none)
  | .firstItem frames, token => takeValue (.items [] :: frames) token
  | .firstKey frames, .closeObject => .afterValue frames (.object [] none)
  | .firstKey frames, token => takeKey frames [] token
  | .nextKey frames done, token => takeKey frames done token
  | .afterKey frames done key, .colon => .value (.members done key :: frames)
  | .afterKey frames done key, _ => .stop (.members done key :: frames) (.broken .malformed)
  | .afterValue frames node, token => takeAfterValue node frames token
  | .over reading, _ => .over reading

/-- The reading when no token is left. -/
def ReaderState.finish : ReaderState → Reading
  | .value frames => ⟨abandon frames (.broken .ended), none⟩
  | .firstItem frames => ⟨abandon frames (.array [] (some .ended)), none⟩
  | .firstKey frames => ⟨abandon frames (.object [] (some .ended)), none⟩
  | .nextKey frames done => ⟨abandon frames (.object done.reverse (some .ended)), none⟩
  | .afterKey frames done key =>
    ⟨abandon (.members done key :: frames) (.broken .ended), none⟩
  | .afterValue [] node => ⟨node, none⟩
  | .afterValue (.items done :: frames) node =>
    ⟨abandon frames (.array (node :: done).reverse (some .ended)), none⟩
  | .afterValue (.members done key :: frames) node =>
    ⟨abandon frames (.object ((key, node) :: done).reverse (some .ended)), none⟩
  | .over reading => reading

/-- Read a JSON text given as bytes. -/
def readBytes (bytes : List UInt8) : Reading :=
  ((tokens bytes).foldl ReaderState.take (.value [])).finish

/-- Read a JSON text. -/
def read (text : String) : Reading :=
  readBytes (Text.utf8Bytes text)

/-! ## Passing over a tree -/

mutual

/-- The first fault met when a value is only passed over. -/
def Node.skipFault? : Node → Option Fault
  | .null => none
  | .bool _ => none
  | .number literal => literal.skipFault
  | .string literal => literal.skipFault
  | .array items fault => (itemsSkipFault? items).or fault
  | .object members fault => (membersSkipFault? members).or fault
  | .broken fault => some fault

/-- The first fault met when items are passed over. -/
def itemsSkipFault? : List Node → Option Fault
  | [] => none
  | item :: rest => item.skipFault?.or (itemsSkipFault? rest)

/-- The first fault met when members are passed over. -/
def membersSkipFault? : List (Literal String × Node) → Option Fault
  | [] => none
  | (key, value) :: rest => (key.skipFault.or value.skipFault?).or (membersSkipFault? rest)

end

/-! ## Trees without faults -/

mutual

/-- The tree of a value that was never written down. -/
def toNode : Json → Node
  | .null => .null
  | .bool b => .bool b
  | .number n => .number ⟨.ok n, none⟩
  | .string s => .string ⟨.ok s, none⟩
  | .array items => .array (itemsToNodes items) none
  | .object members => .object (membersToNodes members) none

/-- The trees of items. -/
def itemsToNodes : List Json → List Node
  | [] => []
  | item :: rest => item.toNode :: itemsToNodes rest

/-- The trees of members. -/
def membersToNodes : List (String × Json) → List (Literal String × Node)
  | [] => []
  | (name, value) :: rest => (⟨.ok name, none⟩, value.toNode) :: membersToNodes rest

end

/-- Put a member into its place in the order of names, unless there is one of its name. -/
def insertMember (name : String) (value : Json) : List (String × Json) → List (String × Json)
  | [] => [(name, value)]
  | (other, held) :: rest =>
    if name < other then (name, value) :: (other, held) :: rest
    else if name = other then (other, held) :: rest
    else (other, held) :: insertMember name value rest

mutual

/-- The value of a tree, if nothing in it is faulty. -/
def Node.toJson? : Node → Option Json
  | .null => some .null
  | .bool b => some (.bool b)
  | .number literal => literal.value.toOption.map .number
  | .string literal => literal.value.toOption.map .string
  | .array items none => (nodesToItems? items).map .array
  | .object members none => (nodesToMembers? members).map .object
  | .array _ (some _) => none
  | .object _ (some _) => none
  | .broken _ => none

/-- The values of items. -/
def nodesToItems? : List Node → Option (List Json)
  | [] => some []
  | item :: rest =>
    match item.toJson?, nodesToItems? rest with
    | some value, some values => some (value :: values)
    | _, _ => none

/-- The values of members in the order of their names; of several members with one name
the last counts. -/
def nodesToMembers? : List (Literal String × Node) → Option (List (String × Json))
  | [] => some []
  | (key, node) :: rest =>
    match key.value.toOption, node.toJson?, nodesToMembers? rest with
    | some name, some value, some values => some (insertMember name value values)
    | _, _, _ => none

end

/-- The value that a JSON text writes, if it writes one. -/
def parse? (text : String) : Option Json :=
  let reading := read text
  match reading.trailing with
  | some _ => none
  | none => reading.node.toJson?

end GrammarServer.Json
