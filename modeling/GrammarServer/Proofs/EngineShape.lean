import GrammarServer.Offense
import GrammarServer.Proofs.JsonText
import GrammarServer.Proofs.RecordForm

/-!
# Decoding what the engine writes

The engine has much freedom in how it writes a grammar or a list of offenses: each record may be
an object, with its members in any order and without those that hold nothing, or the array of its
fields; strings may be escaped and gaps may stand between all tokens.  None of this shows in
what is decoded.

Main results:

- Theorem `decodeGrammar_of_writes`: a grammar is decoded as its drafts of declarations say.
- Theorem `decodeOffense_of_writes`: an offense is decoded as it was written.
- Theorem `engine_json_decodes_to_what_is_written`: so are whole texts, and a text with a
  declaration of an unknown kind fails.
-/

namespace GrammarServer

open Text (Location maxCoordinate utf8Bytes)
open Json

/-! ## How the engine writes -/

/-- A string is written as such. -/
def WritesString (text : String) (value : Json) : Prop :=
  value = .string text

/-- A coordinate is written as a whole number. -/
def WritesCoordinate (n : Nat) (value : Json) : Prop :=
  n ≤ maxCoordinate ∧ value = .nat n

def WritesLocation (location : Location) : Json → Prop :=
  WritesRecord [
    requiredField "line" WritesCoordinate location.line,
    requiredField "column" WritesCoordinate location.column]

def WritesSymbol (symbol : GrammarSymbol) : Json → Prop :=
  WritesRecord [requiredField "name" WritesString symbol.name]

def WritesAlternative (alternative : Alternative) : Json → Prop :=
  WritesRecord [
    listField "symbols" WritesSymbol alternative.symbols,
    optionField "location" WritesLocation alternative.location]

def WritesRule (rule : Rule) : Json → Prop :=
  WritesRecord [
    requiredField "name" WritesString rule.name,
    optionField "location" WritesLocation rule.location,
    listField "alternatives" WritesAlternative rule.alternatives]

/-- The kinds of declarations. -/
def declarationKinds : List String :=
  ["token", "type", "left", "right", "nonassoc"]

/-- The kind that an associativity is written as. -/
def Associativity.kind : Associativity → String
  | .left => "left"
  | .right => "right"
  | .nonassoc => "nonassoc"

/-- The fields that a declaration is written with.  Those that its kind does not use hold
nothing. -/
def Declaration.draft : Declaration → DeclarationDraft
  | .token ⟨names, typeTag, location⟩ => ⟨"token", names, [], typeTag, location⟩
  | .type ⟨names, typeTag, location⟩ => ⟨"type", names, [], typeTag, location⟩
  | .precedence ⟨associativity, tokens, location⟩ =>
    ⟨associativity.kind, [], tokens, none, location⟩

def WritesDraft (draft : DeclarationDraft) : Json → Prop :=
  WritesRecord [
    requiredField "kind" WritesString draft.kind,
    listField "names" WritesString draft.names,
    listField "tokens" WritesString draft.tokens,
    optionField "type_tag" WritesString draft.typeTag,
    optionField "location" WritesLocation draft.location]

/-- A grammar is written with the given drafts in place of its declarations. -/
def WritesGrammarWith (drafts : List DeclarationDraft) (grammar : Grammar) : Json → Prop :=
  WritesRecord [
    listField "declarations" WritesDraft drafts,
    listField "rules" WritesRule grammar.rules,
    optionField "prologue" WritesString grammar.prologue,
    optionField "epilogue" WritesString grammar.epilogue]

/-- A grammar is written with its own declarations. -/
def WritesGrammar (grammar : Grammar) : Json → Prop :=
  WritesGrammarWith (grammar.declarations.map Declaration.draft) grammar

/-- A severity is written by its tag; a tag that is not known stands for itself. -/
inductive WritesSeverity : Severity → Json → Prop
  | error : WritesSeverity .error (.string "error")
  | warning : WritesSeverity .warning (.string "warning")
  | convention : WritesSeverity .convention (.string "convention")
  | info : WritesSeverity .info (.string "info")
  | other {tag : String} (h : tag ∉ ["error", "warning", "convention", "info"]) :
    WritesSeverity (.other tag) (.string tag)

def WritesOffense (offense : Offense) : Json → Prop :=
  WritesRecord [
    optionField "location" WritesLocation offense.location,
    requiredField "severity" WritesSeverity offense.severity,
    optionField "rule_name" WritesString offense.ruleName,
    optionField "message" WritesString offense.message]

/-! ## Plain values -/

theorem decodeString_of_writes : Reads decodeString WritesString .ok := by
  intro text value hvalue
  rw [hvalue]
  rfl

theorem decodeCoordinate_of_writes :
    Reads (decodeNat maxCoordinate) WritesCoordinate .ok := by
  rintro n value ⟨hn, rfl⟩
  have hbounds : (0 : Int) ≤ n ∧ (n : Int) ≤ maxCoordinate := by omega
  rw [Json.nat, toNode, decodeNat, if_pos hbounds, Int.toNat_natCast]

theorem decodeNames_of_writes : Reads decodeNames (WritesList WritesString) .ok :=
  decodeList_of_reads_ok decodeString_of_writes

theorem decodeStringOption_of_writes :
    Reads (decodeOption decodeString) (WritesOption WritesString) .ok :=
  decodeOption_of_reads decodeString_of_writes (by intro text h; cases h)

theorem decodeSeverity_of_writes : Reads decodeSeverity WritesSeverity .ok := by
  intro severity value hvalue
  cases hvalue with
  | error | warning | convention | info => rfl
  | @other tag h =>
    simp only [List.mem_cons, List.not_mem_nil, or_false, not_or] at h
    simp [decodeSeverity, toNode, decodeString, Severity.ofTag, h]

/-! ## Records -/

/-- The location after the fields `seen`. -/
def heldLocation (location : Location) (seen : List String) : Location where
  line := held seen "line" location.line 0
  column := held seen "column" location.column 0

theorem decodeLocation_of_writes : Reads decodeLocation WritesLocation .ok := by
  intro location value hvalue
  apply decodeRecord_of_fill (heldLocation location) hvalue
  case hnodup => simp
  case hstart => rfl
  case htakes =>
    apply List.Forall₂.cons (takes_required decodeCoordinate_of_writes ?_)
    apply List.Forall₂.cons (takes_required decodeCoordinate_of_writes ?_) .nil
    all_goals simp [heldLocation, held]
  case hends =>
    intro seen hseen
    simp only [List.forall_mem_cons, requiredField_optional, requiredField_name, false_or] at hseen
    simp [heldLocation, held_eq, hseen]

theorem decodeLocationOption_of_writes :
    Reads (decodeOption decodeLocation) (WritesOption WritesLocation) .ok :=
  decodeOption_of_reads decodeLocation_of_writes (by intro location h; cases h)

/-- The symbol after the fields `seen`. -/
def heldSymbol (symbol : GrammarSymbol) (seen : List String) : GrammarSymbol where
  name := held seen "name" symbol.name ""

theorem decodeSymbol_of_writes : Reads decodeSymbol WritesSymbol .ok := by
  intro symbol value hvalue
  apply decodeRecord_of_fill (heldSymbol symbol) hvalue
  case hnodup => simp
  case hstart => rfl
  case htakes =>
    apply List.Forall₂.cons (takes_required decodeString_of_writes ?_) .nil
    simp [heldSymbol, held]
  case hends =>
    intro seen hseen
    simp only [List.forall_mem_cons, requiredField_optional, requiredField_name, false_or] at hseen
    simp [heldSymbol, held_eq, hseen]

/-- The alternative after the fields `seen`. -/
def heldAlternative (alternative : Alternative) (seen : List String) : Alternative where
  symbols := held seen "symbols" alternative.symbols []
  location := held seen "location" alternative.location none

theorem decodeAlternative_of_writes : Reads decodeAlternative WritesAlternative .ok := by
  intro alternative value hvalue
  apply decodeRecord_of_fill (heldAlternative alternative) hvalue
  case hnodup => simp
  case hstart => rfl
  case htakes =>
    apply List.Forall₂.cons (takes_optional (decodeList_of_reads_ok decodeSymbol_of_writes) ?_)
    apply List.Forall₂.cons (takes_optional decodeLocationOption_of_writes ?_) .nil
    all_goals simp [heldAlternative, held]
  case hends =>
    intro seen hseen
    simp only [List.forall_mem_cons, listField_optional, listField_name, optionField_optional,
      optionField_name] at hseen
    simp [heldAlternative, held_eq, hseen]

/-- The rule after the fields `seen`. -/
def heldRule (rule : Rule) (seen : List String) : Rule where
  name := held seen "name" rule.name ""
  location := held seen "location" rule.location none
  alternatives := held seen "alternatives" rule.alternatives []

theorem decodeRule_of_writes : Reads decodeRule WritesRule .ok := by
  intro rule value hvalue
  apply decodeRecord_of_fill (heldRule rule) hvalue
  case hnodup => simp
  case hstart => rfl
  case htakes =>
    apply List.Forall₂.cons (takes_required decodeString_of_writes ?_)
    apply List.Forall₂.cons (takes_optional decodeLocationOption_of_writes ?_)
    apply List.Forall₂.cons
      (takes_optional (decodeList_of_reads_ok decodeAlternative_of_writes) ?_) .nil
    all_goals simp [heldRule, held]
  case hends =>
    intro seen hseen
    simp only [List.forall_mem_cons, requiredField_optional, requiredField_name, false_or,
      optionField_optional, optionField_name, listField_optional, listField_name] at hseen
    simp [heldRule, held_eq, hseen]

/-- The offense after the fields `seen`. -/
def heldOffense (offense : Offense) (seen : List String) : Offense where
  location := held seen "location" offense.location none
  severity := held seen "severity" offense.severity (.other "")
  ruleName := held seen "rule_name" offense.ruleName none
  message := held seen "message" offense.message none

theorem decodeOffense_of_writes : Reads decodeOffense WritesOffense .ok := by
  intro offense value hvalue
  apply decodeRecord_of_fill (heldOffense offense) hvalue
  case hnodup => simp
  case hstart => rfl
  case htakes =>
    apply List.Forall₂.cons (takes_optional decodeLocationOption_of_writes ?_)
    apply List.Forall₂.cons (takes_required decodeSeverity_of_writes ?_)
    apply List.Forall₂.cons (takes_optional decodeStringOption_of_writes ?_)
    apply List.Forall₂.cons (takes_optional decodeStringOption_of_writes ?_) .nil
    all_goals simp [heldOffense, held]
  case hends =>
    intro seen hseen
    simp only [List.forall_mem_cons, requiredField_optional, requiredField_name, false_or,
      optionField_optional, optionField_name] at hseen
    simp [heldOffense, held_eq, hseen]

/-! ## Declarations -/

/-- The draft after the fields `seen`. -/
def heldDraft (draft : DeclarationDraft) (seen : List String) : DeclarationDraft where
  kind := held seen "kind" draft.kind ""
  names := held seen "names" draft.names []
  tokens := held seen "tokens" draft.tokens []
  typeTag := held seen "type_tag" draft.typeTag none
  location := held seen "location" draft.location none

theorem decodeDraft_of_writes :
    Reads (decodeRecord declarationFields {}) WritesDraft .ok := by
  intro draft value hvalue
  apply decodeRecord_of_fill (heldDraft draft) hvalue
  case hnodup => simp
  case hstart => rfl
  case htakes =>
    apply List.Forall₂.cons (takes_required decodeString_of_writes ?_)
    apply List.Forall₂.cons (takes_optional decodeNames_of_writes ?_)
    apply List.Forall₂.cons (takes_optional decodeNames_of_writes ?_)
    apply List.Forall₂.cons (takes_optional decodeStringOption_of_writes ?_)
    apply List.Forall₂.cons (takes_optional decodeLocationOption_of_writes ?_) .nil
    all_goals simp [heldDraft, held]
  case hends =>
    intro seen hseen
    simp only [List.forall_mem_cons, requiredField_optional, requiredField_name, false_or,
      optionField_optional, optionField_name, listField_optional, listField_name] at hseen
    simp [heldDraft, held_eq, hseen]

/-- A declaration is decoded as its draft says, which may be of no known kind. -/
theorem decodeDeclaration_of_writes :
    Reads decodeDeclaration WritesDraft DeclarationDraft.toDeclaration := by
  intro draft value hvalue
  rw [decodeDeclaration, decodeDraft_of_writes draft value hvalue]

/-- The draft of a declaration stands for it. -/
theorem toDeclaration_draft (declaration : Declaration) :
    declaration.draft.toDeclaration = .ok declaration := by
  cases declaration with
  | token declaration | type declaration => rfl
  | precedence declaration =>
    obtain ⟨associativity, tokens, location⟩ := declaration
    cases associativity <;> rfl

/-- A draft of a kind outside the five stands for nothing. -/
theorem toDeclaration_of_not_mem {draft : DeclarationDraft} (h : draft.kind ∉ declarationKinds) :
    draft.toDeclaration = .error (.unknownKind draft.kind) := by
  simp only [declarationKinds, List.mem_cons, List.not_mem_nil, or_false, not_or] at h
  simp [DeclarationDraft.toDeclaration, h]

/-- The drafts of declarations stand for these, in their order. -/
theorem mapM_toDeclaration_draft (declarations : List Declaration) :
    (declarations.map Declaration.draft).mapM DeclarationDraft.toDeclaration =
      .ok declarations := by
  induction declarations with
  | nil => rfl
  | cons declaration declarations ih =>
    rw [List.map_cons, List.mapM_cons, toDeclaration_draft, ih]
    rfl

/-- Where one draft is given an unknown kind, no list of declarations comes about. -/
theorem mapM_toDeclaration_modify {kind : String} (hkind : kind ∉ declarationKinds)
    {declarations : List Declaration} {i : Nat} (hi : i < declarations.length) :
    ((declarations.map Declaration.draft).modify i ({ · with kind := kind })).mapM
        DeclarationDraft.toDeclaration = .error (.unknownKind kind) := by
  induction declarations generalizing i with
  | nil => cases hi
  | cons declaration declarations ih =>
    cases i with
    | zero =>
      rw [List.map_cons, List.modify_zero_cons, List.mapM_cons, toDeclaration_of_not_mem hkind]
      rfl
    | succ i =>
      rw [List.map_cons, List.modify_succ_cons, List.mapM_cons, toDeclaration_draft,
        ih (Nat.lt_of_succ_lt_succ hi)]
      rfl

/-! ## Grammars -/

/-- The grammar after the fields `seen`, with the given declarations. -/
def heldSections (grammar : Grammar) (seen : List String) (declarations : List Declaration) :
    Grammar where
  declarations := declarations
  rules := held seen "rules" grammar.rules []
  prologue := held seen "prologue" grammar.prologue none
  epilogue := held seen "epilogue" grammar.epilogue none

/-- What is known of a grammar after the fields `seen`, if its drafts give `result`. -/
def heldGrammar (result : Except DecodeError (List Declaration)) (grammar : Grammar)
    (seen : List String) : Except DecodeError Grammar :=
  (held seen "declarations" result (.ok [])).map (heldSections grammar seen)

section

variable {result : Except DecodeError (List Declaration)} {grammar : Grammar}

theorem exists_of_heldGrammar_eq_ok {seen : List String} {record : Grammar}
    (h : heldGrammar result grammar seen = .ok record) :
    ∃ declarations, held seen "declarations" result (.ok []) = .ok declarations ∧
      record = heldSections grammar seen declarations := by
  rw [heldGrammar] at h
  cases hheld : held seen "declarations" result (.ok []) with
  | error e =>
    rw [hheld] at h
    cases h
  | ok declarations =>
    rw [hheld] at h
    exact ⟨declarations, rfl, (Except.ok.inj h).symm⟩

/-- An error of the declarations is not left again. -/
theorem heldGrammar_stays {seen : List String} {e : DecodeError}
    (h : heldGrammar result grammar seen = .error e) (name : String) :
    heldGrammar result grammar (name :: seen) = .error e := by
  by_cases hmem : "declarations" ∈ seen
  · have hall : "declarations" ∈ name :: seen := List.mem_cons_of_mem name hmem
    rw [heldGrammar, held_eq (.inr hmem)] at h
    rw [heldGrammar, held_eq (.inr hall)]
    cases result with
    | error _ => exact h
    | ok _ => cases h
  · have hblank : held seen "declarations" result (.ok []) = .ok [] := if_neg hmem
    rw [heldGrammar, hblank] at h
    cases h

/-- The declarations are put into a grammar unless their drafts fail. -/
theorem takes_declarations {drafts : List DeclarationDraft} :
    Takes (heldGrammar (drafts.mapM DeclarationDraft.toDeclaration) grammar)
      (.of "declarations" false (decodeList decodeDeclaration) fun grammar declarations =>
        { grammar with declarations := declarations })
      (listField "declarations" WritesDraft drafts) := by
  apply Takes.of (by simp) (decodeList_of_reads decodeDeclaration_of_writes drafts)
  intro seen record hrecord
  obtain ⟨declarations, -, rfl⟩ := exists_of_heldGrammar_eq_ok hrecord
  have hsections : heldSections grammar ("declarations" :: seen) =
      ({ heldSections grammar seen declarations with declarations := · }) := by
    funext declared
    simp [heldSections, held]
  rw [heldGrammar, held_cons_self, hsections]

/-- Every other field sets its value. -/
theorem takes_section {α : Type} {name : String} {decode : Decoder α}
    {set : Grammar → α → Grammar} {writes : α → Json → Prop} {a : α} {optional : Prop}
    (hreads : Reads decode writes .ok) (hname : "declarations" ≠ name)
    (hset : ∀ seen declarations, heldSections grammar (name :: seen) declarations =
      set (heldSections grammar seen declarations) a) :
    Takes (heldGrammar result grammar) (.of name false decode set)
      ⟨name, writes a, optional⟩ := by
  apply Takes.of (by simp) (hreads a)
  intro seen record hrecord
  obtain ⟨declarations, hheld, rfl⟩ := exists_of_heldGrammar_eq_ok hrecord
  rw [heldGrammar, held_cons_of_ne hname, hheld]
  exact congrArg Except.ok (hset seen declarations)

end

/-- A grammar is decoded as its drafts say. -/
theorem decodeGrammar_of_writes {drafts : List DeclarationDraft} {grammar : Grammar}
    {value : Json} (hvalue : WritesGrammarWith drafts grammar value) :
    decodeGrammar value.toNode =
      (drafts.mapM DeclarationDraft.toDeclaration).map ({ grammar with declarations := · }) := by
  have hrules := decodeList_of_reads_ok decodeRule_of_writes
  apply decodeRecord_of_writes (heldGrammar (drafts.mapM DeclarationDraft.toDeclaration) grammar)
    hvalue
  refine ⟨by simp, rfl, ?takes, fun _ name _ h => heldGrammar_stays h name, ?ends⟩
  case takes =>
    apply List.Forall₂.cons takes_declarations
    apply List.Forall₂.cons (takes_section hrules (by decide) ?_)
    apply List.Forall₂.cons (takes_section decodeStringOption_of_writes (by decide) ?_)
    apply List.Forall₂.cons (takes_section decodeStringOption_of_writes (by decide) ?_) .nil
    all_goals simp [heldSections, held]
  case ends =>
    intro seen hseen
    simp only [List.forall_mem_cons, listField_optional, listField_name, optionField_optional,
      optionField_name] at hseen
    obtain ⟨hdeclarations, hsections⟩ := hseen
    have hheld : heldSections grammar seen = ({ grammar with declarations := · }) := by
      funext declarations
      simp [heldSections, held_eq, hsections]
    rw [heldGrammar, hheld, held_eq (hdeclarations.imp_left (by rintro rfl; rfl))]

/-! ## Whole texts -/

/-- The engine's JSON is decoded to what it writes: a grammar and a list of offenses are got back
from every text that writes them, and no grammar is got from a text in which a declaration has an
unknown kind. -/
theorem engine_json_decodes_to_what_is_written :
    (∀ (grammar : Grammar) (value : Json) (text : String),
      WritesGrammar grammar value → value.Writes text →
        Grammar.ofBytes (utf8Bytes text) = .ok grammar) ∧
    (∀ (offenses : List Offense) (value : Json) (text : String),
      WritesList WritesOffense offenses value → value.Writes text →
        Offense.listOfBytes (utf8Bytes text) = .ok offenses) ∧
    ∀ (grammar : Grammar) (i : Nat) (kind : String) (value : Json) (text : String),
      i < grammar.declarations.length → kind ∉ declarationKinds →
        WritesGrammarWith ((grammar.declarations.map Declaration.draft).modify i
            ({ · with kind := kind })) grammar value → value.Writes text →
          Grammar.ofBytes (utf8Bytes text) = .error (.unknownKind kind) := by
  refine ⟨?_, ?_, ?_⟩
  · intro grammar value text hvalue htext
    rw [Grammar.ofBytes, readBytes_of_writes htext, Reading.decode, decodeGrammar_of_writes hvalue,
      mapM_toDeclaration_draft]
    rfl
  · intro offenses value text hvalue htext
    have hoffenses := decodeList_of_reads_ok decodeOffense_of_writes offenses value hvalue
    rw [Offense.listOfBytes, readBytes_of_writes htext, Reading.decode, decodeOffenses, hoffenses]
  · intro grammar i kind value text hi hkind hvalue htext
    rw [Grammar.ofBytes, readBytes_of_writes htext, Reading.decode, decodeGrammar_of_writes hvalue,
      mapM_toDeclaration_modify hkind hi]
    rfl

/-- A grammar with a single level of precedence. -/
def plusGrammar : Grammar :=
  { declarations := [.precedence ⟨.left, ["+"], some ⟨1, 2⟩⟩] }

/-- The grammar as an object without its empty members; the declaration in it is an array. -/
def plusValue : Json :=
  .object [("declarations", .array [.array [.string "left", .array [], .array [.string "+"],
    .null, .object [("column", .nat 2), ("line", .nat 1)]]])]

theorem writesGrammar_plusValue : WritesGrammar plusGrammar plusValue := by
  have hlocation : WritesLocation ⟨1, 2⟩ (.object [("column", .nat 2), ("line", .nat 1)]) := by
    apply WritesRecord.object
    · decide
    · simp [WritesCoordinate, maxCoordinate]
    · simp
  have hdraft : WritesDraft ⟨"left", [], ["+"], none, some ⟨1, 2⟩⟩ (.array [.string "left",
      .array [], .array [.string "+"], .null,
      .object [("column", .nat 2), ("line", .nat 1)]]) := by
    apply WritesRecord.array
    refine .cons rfl (.cons ?_ (.cons ?_ (.cons ?_ (.cons ?_ .nil))))
    · exact .array .nil
    · exact .array (.cons rfl .nil)
    · exact .none
    · exact .some hlocation
  apply WritesRecord.object
  · decide
  · intro member hmember
    obtain rfl := List.mem_singleton.mp hmember
    exact ⟨_, List.mem_cons_self, rfl, .array (.cons hdraft .nil)⟩
  · simp [plusGrammar]

/-- The grammar is got back from its text. -/
theorem plusText_decodes : Grammar.ofBytes (utf8Bytes
      "\x7b\"declarations\":[[\"left\",[],[\"+\"],null,\x7b\"column\":2,\"line\":1\x7d]]\x7d") =
    .ok plusGrammar := by
  have hcoordinates : plusValue.HasCoordinates := by
    simp only [plusValue, HasCoordinates, ItemsHaveCoordinates, MembersHaveCoordinates, Json.nat,
      and_true, true_and]
    exact ⟨⟨2, by decide, rfl⟩, ⟨1, by decide, rfl⟩⟩
  exact engine_json_decodes_to_what_is_written.1 plusGrammar plusValue _ writesGrammar_plusValue
    (writes_render hcoordinates)

end GrammarServer
