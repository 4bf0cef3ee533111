import GrammarServer.Document.Basic
import GrammarServer.Feature.Completion
import GrammarServer.Text.Blank

/-!
# Highlighting

Each line of a document is cut into coloured tokens.  For transport the tokens are
sorted and each is given relative to the one before; `decodeDeltas` undoes that.
-/

namespace GrammarServer

open Text

/-! ## Token types -/

/-- The token types of the legend, in order. -/
def tokenTypeNames : List String :=
  ["namespace", "type", "class", "enum", "interface", "struct", "typeParameter", "parameter",
    "variable", "property", "enumMember", "event", "function", "method", "macro", "keyword",
    "modifier", "comment", "string", "number", "regexp", "operator"]

/-- The token modifiers of the legend, in order. -/
def tokenModifierNames : List String :=
  ["declaration", "definition", "readonly", "static", "deprecated", "abstract", "async",
    "modification", "documentation", "defaultLibrary"]

/-- The classes of tokens that occur in grammar files. -/
inductive TokenClass where
  | variable
  | enumMember
  | function
  | keyword
  | comment
  | string
  | operator
deriving DecidableEq, Repr

/-- The index of a class in the legend. -/
def TokenClass.legendIndex : TokenClass → Nat
  | .variable => 8
  | .enumMember => 10
  | .function => 12
  | .keyword => 15
  | .comment => 17
  | .string => 18
  | .operator => 21

/-- A coloured token; `type` is an index into the legend. -/
structure HighlightToken where
  line : Nat
  start : Nat
  length : Nat
  type : Nat
deriving DecidableEq, Repr

/-- A token whose start and length are counts, with both of them as coordinates. -/
def HighlightToken.cut (token : HighlightToken) : HighlightToken :=
  { token with start := toCoordinate token.start, length := toCoordinate token.length }

/-- The names that a grammar declares, as far as they matter for colours. -/
structure DeclaredNames where
  tokens : List String := []
  rules : List String := []
deriving DecidableEq, Repr

/-- The names that a grammar declares. -/
def Grammar.declaredNames (grammar : Grammar) : DeclaredNames :=
  ⟨grammar.tokenNames, grammar.rules.map (·.name)⟩

/-- The class of an identifier: a token before a nonterminal. -/
def DeclaredNames.classify (names : DeclaredNames) (word : String) : TokenClass :=
  if names.tokens.contains word then .enumMember
  else if names.rules.contains word then .function
  else .variable

/-! ## Scanning a line -/

/-- How many characters of `cs` a comment takes up to and including its end. -/
def commentLength? : List Char → Option Nat
  | [] => none
  | [_] => none
  | a :: b :: rest =>
    if a = '*' ∧ b = '/' then some 2 else (commentLength? (b :: rest)).map (· + 1)

/-- How many characters of `cs` a string takes up to and including its closing quote.
A backslash takes the character after it along. -/
def stringLength? (quote : Char) : List Char → Option Nat
  | [] => none
  | ['\\'] => none
  | '\\' :: _ :: rest => (stringLength? quote rest).map (· + 2)
  | c :: rest => if c = quote then some 1 else (stringLength? quote rest).map (· + 1)

/-- Whether an identifier may start with a character. -/
def isIdentifierStart (c : Char) : Bool :=
  c.isAlpha || c == '_'

/-- Whether a character is an operator of grammar files. -/
def isOperator (c : Char) : Bool :=
  c == '\x7b' || c == '\x7d' || c == ':' || c == ';' || c == '|'

/-- The token at the front of a text whose first character is `c`: its length and its
class.  There is none for a blank, for a character that belongs to no token, for a
percent sign that starts no directive and for a comment that is not closed. -/
def tokenAt? (names : DeclaredNames) (c : Char) (rest : List Char) :
    Option (Nat × TokenClass) :=
  if isBlank c then none
  else if c = '%' then
    let letters := rest.takeWhile Char.isLower
    if directives.contains (String.ofList ('%' :: letters)) then
      some (letters.length + 1, .keyword)
    else none
  else if c = '/' then
    match rest with
    | '/' :: tail => some (tail.length + 2, .comment)
    | '*' :: tail => (commentLength? tail).map fun n => (n + 2, .comment)
    | _ => none
  else if c = '"' ∨ c = '\'' then (stringLength? c rest).map fun n => (n + 1, .string)
  else if isIdentifierStart c then
    let letters := rest.takeWhile isIdentifierChar
    some (letters.length + 1, names.classify (String.ofList (c :: letters)))
  else if isOperator c then some (1, .operator)
  else none

/-- Whether a quote opens a string that is not closed on its line. -/
def opensUnclosedString (c : Char) (rest : List Char) : Bool :=
  (c == '"' || c == '\'') && (stringLength? c rest).isNone

/-- The tokens of a line from column `column` on.  The scan goes on after each token,
or one character further where there is none, and stops at a string without an end. -/
def scanLine (names : DeclaredNames) (line column : Nat) (cs : List Char) :
    List HighlightToken :=
  match cs with
  | [] => []
  | c :: rest =>
    if opensUnclosedString c rest then []
    else
      match tokenAt? names c rest with
      | some (length, tokenClass) =>
        ⟨line, column, length, tokenClass.legendIndex⟩
          :: scanLine names line (column + length) (rest.drop (length - 1))
      | none => scanLine names line (column + 1) rest
termination_by cs.length
decreasing_by
  · simp only [List.length_drop, List.length_cons]
    omega
  · simp only [List.length_cons]
    omega

/-- The tokens of a line. -/
def lineTokens (names : DeclaredNames) (line : Nat) (text : Line) : List HighlightToken :=
  (scanLine names line 0 text).map HighlightToken.cut

/-! ## Relative positions -/

/-- A token relative to the one before it. -/
structure TokenDelta where
  deltaLine : Nat
  deltaStart : Nat
  length : Nat
  type : Nat
  modifiers : Nat := 0
deriving DecidableEq, Repr

/-- Tokens are ordered by line, then by column. -/
def HighlightToken.le (a b : HighlightToken) : Bool :=
  a.line < b.line || (a.line == b.line && a.start ≤ b.start)

/-- Each token relative to the one before; the first follows a token at `line` and
`start`. -/
def deltasFrom (line start : Nat) : List HighlightToken → List TokenDelta
  | [] => []
  | token :: rest =>
    let deltaLine := token.line - line
    let deltaStart := if deltaLine = 0 then token.start - start else token.start
    ⟨deltaLine, deltaStart, token.length, token.type, 0⟩
      :: deltasFrom token.line token.start rest

/-- The sorted tokens, each relative to the one before. -/
def encodeTokens (tokens : List HighlightToken) : List TokenDelta :=
  deltasFrom 0 0 (tokens.mergeSort HighlightToken.le)

/-- The tokens that relative positions stand for; the first follows a token at `line`
and `start`. -/
def decodeDeltas (line start : Nat) : List TokenDelta → List HighlightToken
  | [] => []
  | delta :: rest =>
    let nextLine := line + delta.deltaLine
    let nextStart := if delta.deltaLine = 0 then start + delta.deltaStart else delta.deltaStart
    ⟨nextLine, nextStart, delta.length, delta.type⟩ :: decodeDeltas nextLine nextStart rest

/-! ## Documents -/

/-- The tokens of a text, line by line. -/
def textTokens (names : DeclaredNames) (text : String) : List HighlightToken :=
  (lines text).zipIdx.flatMap fun (line, index) => lineTokens names (toCoordinate index) line

/-- The coloured tokens of a document; none without a grammar. -/
def Document.highlights (document : Document) : List TokenDelta :=
  match document.grammar with
  | none => []
  | some grammar => encodeTokens (textTokens grammar.declaredNames document.text)

end GrammarServer
