import GrammarServer.Text.Position

/-!
# Grammars

A grammar as the engine reports it: declarations and rules, each with the place where
it stands in the source if the engine knows one.  A grammar file has tokens, declared
by `%token`, and nonterminals, each defined by a rule.
-/

namespace GrammarServer

open Text (Location)

/-- How operators of one precedence level group. -/
inductive Associativity where
  | left
  | right
  | nonassoc
deriving DecidableEq, Repr

/-- The name of an associativity as shown to the user. -/
def Associativity.label : Associativity → String
  | .left => "Left"
  | .right => "Right"
  | .nonassoc => "Nonassoc"

/-- A `%token` or `%type` declaration: several names under one location. -/
structure NameDeclaration where
  names : List String := []
  typeTag : Option String := none
  location : Option Location := none
deriving DecidableEq, Repr

/-- A `%left`, `%right` or `%nonassoc` declaration. -/
structure PrecedenceDeclaration where
  associativity : Associativity
  tokens : List String := []
  location : Option Location := none
deriving DecidableEq, Repr

/-- A declaration of the first section of a grammar file. -/
inductive Declaration where
  | token (declaration : NameDeclaration)
  | type (declaration : NameDeclaration)
  | precedence (declaration : PrecedenceDeclaration)
deriving DecidableEq, Repr

/-- Where a declaration stands. -/
def Declaration.location : Declaration → Option Location
  | .token declaration => declaration.location
  | .type declaration => declaration.location
  | .precedence declaration => declaration.location

/-- A symbol on the right-hand side of a rule. -/
structure GrammarSymbol where
  name : String
deriving DecidableEq, Repr

/-- One right-hand side of a rule. -/
structure Alternative where
  symbols : List GrammarSymbol := []
  location : Option Location := none
deriving DecidableEq, Repr

/-- A nonterminal with its alternatives. -/
structure Rule where
  name : String
  location : Option Location := none
  alternatives : List Alternative := []
deriving DecidableEq, Repr

/-- A grammar file as parsed by the engine. -/
structure Grammar where
  declarations : List Declaration := []
  rules : List Rule := []
  prologue : Option String := none
  epilogue : Option String := none
deriving DecidableEq, Repr

/-- The grammar without declarations and rules. -/
def Grammar.empty : Grammar := {}

end GrammarServer
