import GrammarServer.Feature.Search
import GrammarServer.Proofs.Occurrence

/-!
# What outlines and searches list

A name can be shown at a location if the range that it covers there can be written.  The
outline of a grammar comes out exactly if all its names can be shown, and then it holds one
entry for each of them, at the place where it stands.  A search comes out if the names that
it finds can be shown.

Main results:

- Theorem `Grammar.outline_eq_ok_iff`: when an outline comes out, and what it holds.
- Theorem `Store.search_eq_ok_iff`: when a search comes out, and what it finds.
- Theorem `Grammar.map_found_entries`: without its precedence levels, the outline of a grammar
  lists the symbols that a search goes through.
-/

namespace GrammarServer

open Text

/-! ## Names that can be shown -/

/-- The range that a name covers from a location can be written. -/
def Text.Location.Fits (location : Location) (name : String) : Prop :=
  location.toPosition.character + toCoordinate name.length ≤ maxCoordinate

instance (location : Location) (name : String) : Decidable (location.Fits name) :=
  inferInstanceAs (Decidable (_ ≤ _))

/-- A name has a range at a location exactly if the range can be written. -/
theorem nameRange_eq_ok_iff {location : Location} {name : String} {range : Range} :
    nameRange location name = .ok range ↔ location.Fits name ∧ range = rangeFrom name location :=
  Position.span_eq_ok_iff

/-- The entry of a name that covers the text from a location. -/
def itemFrom (name : String) (kind : OutlineKind) (detail : String) (location : Location) :
    OutlineItem :=
  ⟨name, detail, kind, rangeFrom name location⟩

theorem outlineItem_eq_ok_iff {name : String} {kind : OutlineKind} {detail : String}
    {location : Location} {item : OutlineItem} :
    outlineItem name kind detail location = .ok item ↔
      location.Fits name ∧ item = itemFrom name kind detail location :=
  bind_pure_eq_ok_iff fun _ => nameRange_eq_ok_iff

/-- A name can be shown where it stands on the line of a declaration. -/
def NameFits (text name : String) (location : Location) : Prop :=
  PlaceFits text name location ∧ (namePlace text name location).Fits name

/-! ## Declarations -/

namespace Declaration

/-- The kind of the entries of a declaration. -/
def kind (declaration : Declaration) : OutlineKind := declaration.outlineNames.1

/-- The detail of the entries of a declaration. -/
def detail (declaration : Declaration) : String := declaration.outlineNames.2.1

/-- The names of a declaration. -/
def names (declaration : Declaration) : List String := declaration.outlineNames.2.2

/-- All names of a declaration can be shown where they stand on its line. -/
def NamesFit (declaration : Declaration) (text : String) : Prop :=
  ∀ location ∈ declaration.location, ∀ name ∈ declaration.names, NameFits text name location

/-- The entries of a declaration, if all its names can be shown. -/
def entries (text : String) (declaration : Declaration) : List OutlineEntry :=
  match declaration.location with
  | none => []
  | some location => declaration.names.map fun name =>
    ⟨itemFrom name declaration.kind declaration.detail (namePlace text name location), []⟩

/-- A declaration has an outline exactly if its names can be shown. -/
theorem outline_computes (text : String) :
    Computes (Declaration.outline text) (·.NamesFit text) (entries text) := by
  intro declaration results
  simp only [Declaration.outline, NamesFit, entries]
  cases declaration.location with
  | none => exact ok_eq_ok_iff (by simp)
  | some location =>
    simp only [Option.mem_some_iff, forall_eq']
    apply collect_eq_ok_iff_of_computes
    intro name entry
    exact bind_eq_ok_iff_and (fun _ => nameLocation_eq_ok_iff) fun _ =>
      bind_pure_eq_ok_iff fun _ => outlineItem_eq_ok_iff

end Declaration

/-! ## Rules -/

/-- The label of an alternative, which counts from 1, can be shown. -/
def Alternative.LabelFits (alternative : Alternative) (index : Nat) : Prop :=
  ∀ location ∈ alternative.location, location.Fits ("Alternative " ++ toString (index + 1))

/-- The entry of an alternative, if its label can be shown. -/
def Alternative.item? (alternative : Alternative) (index : Nat) : Option OutlineItem :=
  alternative.location.map
    (itemFrom ("Alternative " ++ toString (index + 1)) .alternative alternative.summary)

/-- An alternative has an outline exactly if its label can be shown. -/
theorem Alternative.outline_computes :
    Computes (fun (alternative, index) => Alternative.outline alternative index)
      (fun (alternative, index) => alternative.LabelFits index)
      (fun (alternative, index) => alternative.item? index) := by
  rintro ⟨alternative, index⟩ item
  simp only [Alternative.outline, Alternative.LabelFits, Alternative.item?]
  cases alternative.location with
  | none => exact ok_eq_ok_iff (by simp)
  | some location =>
    simp only [Option.mem_some_iff, forall_eq', Option.map_some]
    exact bind_pure_eq_ok_iff fun _ => outlineItem_eq_ok_iff

namespace Rule

/-- The name of a rule and the labels of its alternatives can be shown. -/
def NamesFit (rule : Rule) : Prop :=
  ∀ location ∈ rule.location, location.Fits rule.name ∧
    ∀ alternative ∈ rule.alternatives.zipIdx, alternative.1.LabelFits alternative.2

/-- The entry of a rule, if its names can be shown. -/
def entry? (rule : Rule) : Option OutlineEntry :=
  rule.location.map fun location =>
    ⟨itemFrom rule.name .rule
        ("Grammar rule (" ++ toString rule.alternatives.length ++ " alternatives)") location,
      rule.alternatives.zipIdx.filterMap fun alternative => alternative.1.item? alternative.2⟩

/-- A rule has an outline exactly if its names can be shown. -/
theorem outline_computes : Computes Rule.outline NamesFit entry? := by
  intro rule entry
  unfold Rule.outline NamesFit entry?
  cases rule.location with
  | none => exact ok_eq_ok_iff (by simp)
  | some location =>
    simp only [Option.mem_some_iff, forall_eq', Option.map_some, bind_eq_ok_iff,
      collect_eq_ok_iff_of_computes Alternative.outline_computes, outlineItem_eq_ok_iff, pure,
      Except.pure, Except.ok.injEq]
    constructor
    · rintro ⟨_, ⟨halternatives, rfl⟩, _, ⟨hname, rfl⟩, rfl⟩
      refine ⟨⟨hname, halternatives⟩, ?_⟩
      simp [List.filterMap_map]
    · rintro ⟨⟨hname, halternatives⟩, rfl⟩
      refine ⟨_, ⟨halternatives, rfl⟩, _, ⟨hname, rfl⟩, ?_⟩
      simp [List.filterMap_map]

end Rule

/-! ## Grammars -/

namespace Grammar

/-- All names that a grammar declares, and the labels of its alternatives, can be shown. -/
structure NamesFit (grammar : Grammar) (text : String) : Prop where
  declarations : ∀ declaration ∈ grammar.declarations, declaration.NamesFit text
  rules : ∀ rule ∈ grammar.rules, rule.NamesFit

/-- The entries of all declarations of one kind. -/
def entriesOf (grammar : Grammar) (text : String) (kind : OutlineKind) : List OutlineEntry :=
  (grammar.declarations.flatMap (Declaration.entries text)).filter (·.item.kind == kind)

/-- The entries of a grammar, if all names can be shown. -/
def entries (grammar : Grammar) (text : String) : List OutlineEntry :=
  grammar.entriesOf text .token ++ grammar.entriesOf text .type ++
    grammar.entriesOf text .precedence ++ grammar.rules.filterMap Rule.entry?

/-- A grammar has an outline exactly if all its names can be shown. -/
theorem outline_eq_ok_iff {grammar : Grammar} {text : String} {results : List OutlineEntry} :
    grammar.outline text = .ok results ↔
      grammar.NamesFit text ∧ results = grammar.entries text := by
  simp only [outline, bind_eq_ok_iff,
    collect_eq_ok_iff_of_computes (Declaration.outline_computes text),
    collect_eq_ok_iff_of_computes Rule.outline_computes, pure, Except.pure, Except.ok.injEq]
  constructor
  · rintro ⟨_, ⟨hdeclarations, rfl⟩, _, ⟨hrules, rfl⟩, rfl⟩
    refine ⟨⟨hdeclarations, hrules⟩, ?_⟩
    simp [entries, entriesOf, List.flatMap_def, List.filterMap_map]
  · rintro ⟨⟨hdeclarations, hrules⟩, rfl⟩
    refine ⟨_, ⟨hdeclarations, rfl⟩, _, ⟨hrules, rfl⟩, ?_⟩
    simp [entries, entriesOf, List.flatMap_def, List.filterMap_map]

end Grammar

/-! ## Documents -/

namespace Document

/-- All names that the grammar of a document declares can be shown. -/
def NamesFit (document : Document) : Prop :=
  ∀ grammar ∈ document.grammar, grammar.NamesFit document.text

/-- The entries of a document, if all names can be shown; none without a grammar. -/
def entries (document : Document) : List OutlineEntry :=
  document.grammar.elim [] (·.entries document.text)

/-- A document has an outline exactly if all its names can be shown. -/
theorem outline_computes : Computes Document.outline NamesFit entries := by
  intro document results
  simp only [Document.outline, NamesFit, entries]
  cases document.grammar with
  | none => exact ok_eq_ok_iff (by simp)
  | some grammar => simpa using Grammar.outline_eq_ok_iff

end Document

/-! ## Searches -/

namespace DeclaredSymbol

/-- Where a declared symbol stands, if its column can be counted from 1. -/
def placed (text : String) (symbol : DeclaredSymbol) (location : Location) : Location :=
  if symbol.kind = .rule then location else namePlace text symbol.name location

/-- The column of a declared symbol can be counted from 1; that of a rule is not looked up. -/
def PlaceFits (text : String) (symbol : DeclaredSymbol) (location : Location) : Prop :=
  symbol.kind ≠ .rule → GrammarServer.PlaceFits text symbol.name location

/-- A declared symbol has a place exactly if its column can be counted from 1. -/
theorem placeFrom_eq_ok_iff {text : String} {symbol : DeclaredSymbol} {location place : Location} :
    symbol.placeFrom text location = .ok place ↔
      symbol.PlaceFits text location ∧ place = symbol.placed text location := by
  unfold placeFrom PlaceFits placed
  cases symbol.kind with
  | rule => exact ok_eq_ok_iff (by simp)
  | token | type | precedence | alternative => simp [nameLocation_eq_ok_iff]

/-- A declared symbol with its place in a document, if it has one. -/
def located? (text : String) (uri : Uri) (symbol : DeclaredSymbol) : Option FoundSymbol :=
  symbol.location.map fun location =>
    ⟨symbol.name, symbol.kind, symbol.container, uri,
      rangeFrom symbol.name (symbol.placed text location)⟩

/-- A declared symbol has a place, and can be shown there if it matches a query. -/
def FitsFor (query text : String) (symbol : DeclaredSymbol) : Prop :=
  ∀ location ∈ symbol.location, symbol.PlaceFits text location ∧
    (matchesQuery query symbol.name = true → (symbol.placed text location).Fits symbol.name)

/-- A symbol is searched for exactly if it has a place and does not match or can be shown. -/
theorem found?_computes (query text : String) (uri : Uri) :
    Computes (DeclaredSymbol.found? query text uri) (FitsFor query text)
      (fun symbol => (symbol.located? text uri).filter (matchesQuery query ·.name)) := by
  intro symbol found
  simp only [DeclaredSymbol.found?, FitsFor, located?]
  cases symbol.location with
  | none => exact ok_eq_ok_iff (by simp)
  | some location =>
    simp only [Option.mem_some_iff, forall_eq', Option.map_some, Option.filter_some]
    apply bind_eq_ok_iff_and fun _ => placeFrom_eq_ok_iff
    intro result
    split
    case isTrue hmatches =>
      simp only [hmatches, true_imp_iff]
      exact bind_pure_eq_ok_iff fun _ => nameRange_eq_ok_iff
    case isFalse hmatches => exact ok_eq_ok_iff (fun h => absurd h hmatches)

end DeclaredSymbol

namespace Document

/-- The symbols that the grammar of a document declares, with their places. -/
def located (document : Document) : List FoundSymbol :=
  document.grammar.elim [] fun grammar =>
    grammar.symbols.filterMap (DeclaredSymbol.located? document.text document.uri)

/-- All symbols of a document have places, and those that match a query can be shown. -/
def MatchesFit (document : Document) (query : String) : Prop :=
  ∀ grammar ∈ document.grammar, ∀ symbol ∈ grammar.symbols, symbol.FitsFor query document.text

/-- A document is searched exactly if all symbols that match can be shown. -/
theorem search_computes (query : String) :
    Computes (fun document : Document => document.search query) (MatchesFit · query)
      (fun document => document.located.filter (matchesQuery query ·.name)) := by
  intro document results
  simp only [Document.search, MatchesFit, located]
  cases document.grammar with
  | none => exact ok_eq_ok_iff (by simp)
  | some grammar =>
    simp only [Option.mem_some_iff, forall_eq', Option.elim_some, List.filter_filterMap]
    rw [bind_pure_eq_ok_iff fun _ =>
      collect_eq_ok_iff_of_computes
        (DeclaredSymbol.found?_computes query document.text document.uri),
      List.filterMap_map]
    rfl

end Document

/-- A store is searched exactly if in all documents the symbols that match can be shown. -/
theorem Store.search_eq_ok_iff {store : Store} {query : String} {results : List FoundSymbol} :
    store.search query = .ok results ↔
      (∀ document ∈ store.documents, document.MatchesFit (lowercase query)) ∧
        results = ((store.documents.flatMap Document.located).filter
          (matchesQuery (lowercase query) ·.name)).mergeSort
            fun a b => decide (relevance a.name (lowercase query) ≤
              relevance b.name (lowercase query)) := by
  rw [List.filter_flatMap, List.flatMap_def]
  exact bind_pure_eq_ok_iff fun _ =>
    collect_eq_ok_iff_of_computes (Document.search_computes (lowercase query))

/-! ## The outline lists what a search goes through -/

/-- The heading under which the names of a kind are found. -/
def OutlineKind.container : OutlineKind → String
  | .token => "Tokens"
  | .type => "Types"
  | .precedence => "Precedence"
  | .rule | .alternative => "Rules"

/-- An entry of the outline of a document as a search result. -/
def OutlineEntry.found (uri : Uri) (entry : OutlineEntry) : FoundSymbol :=
  ⟨entry.item.name, entry.item.kind, entry.item.kind.container, uri, entry.item.range⟩

/-- An outline without its precedence levels, as search results of a document. -/
def Document.listed (document : Document) (outline : List OutlineEntry) : List FoundSymbol :=
  (outline.filter (·.item.kind != .precedence)).map (OutlineEntry.found document.uri)

namespace Declaration

variable (text : String) (uri : Uri) (declaration : Declaration)

/-- The entries of a declaration are of its kind. -/
theorem filter_kind_entries (kind : OutlineKind) :
    (declaration.entries text).filter (·.item.kind == kind) =
      if declaration.kind = kind then declaration.entries text else [] := by
  have hkind : ∀ entry ∈ declaration.entries text, entry.item.kind = declaration.kind := by
    unfold entries
    cases declaration.location with
    | none => simp
    | some location => simp [itemFrom]
  split
  case isTrue heq => exact List.filter_eq_self.mpr fun entry h => by simp [hkind entry h, heq]
  case isFalse hne => exact List.filter_eq_nil_iff.mpr fun entry h => by simp [hkind entry h, hne]

/-- No declaration is shown as a rule. -/
theorem kind_ne_rule : declaration.kind ≠ .rule := by
  cases declaration <;> simp [kind, outlineNames]

/-- The entries of a declaration as search results are its names with their places. -/
theorem map_found_entries :
    (declaration.entries text).map (OutlineEntry.found uri) =
      (declaration.names.map fun name => DeclaredSymbol.mk name declaration.kind
        declaration.kind.container declaration.location).filterMap
          (DeclaredSymbol.located? text uri) := by
  unfold entries
  cases declaration.location with
  | none => simp [DeclaredSymbol.located?, List.filterMap_map]
  | some location =>
    rw [List.map_map, List.filterMap_map, ← List.filterMap_eq_map]
    congr 1
    funext name
    simp [DeclaredSymbol.located?, DeclaredSymbol.placed, declaration.kind_ne_rule,
      OutlineEntry.found, itemFrom]

/-- A view of the declarations of one kind: it gives their names and locations, and nothing
for any other declaration. -/
def IsView (kind : OutlineKind) (view : Declaration → Option NameDeclaration) : Prop :=
  ∀ declaration, (declaration.kind ≠ kind ∧ view declaration = none) ∨
    ∃ viewed, declaration.kind = kind ∧ view declaration = some viewed ∧
      declaration.names = viewed.names ∧ declaration.location = viewed.location

theorem isView_token :
    IsView .token fun | .token declaration => some declaration | _ => none := by
  rintro (declaration | declaration | declaration) <;> simp [kind, names, outlineNames, location]

theorem isView_type :
    IsView .type fun | .type declaration => some declaration | _ => none := by
  rintro (declaration | declaration | declaration) <;> simp [kind, names, outlineNames, location]

end Declaration

namespace Grammar

variable (grammar : Grammar) (text : String) (uri : Uri)

/-- The entries of one kind are the symbols that a search goes through in the view of that
kind. -/
theorem map_found_entriesOf {kind : OutlineKind} {view : Declaration → Option NameDeclaration}
    (hview : Declaration.IsView kind view) :
    (grammar.entriesOf text kind).map (OutlineEntry.found uri) =
      (declaredSymbols kind kind.container (grammar.declarations.filterMap view)).filterMap
        (DeclaredSymbol.located? text uri) := by
  unfold entriesOf declaredSymbols
  induction grammar.declarations with
  | nil => rfl
  | cons declaration rest ih =>
    rw [List.flatMap_cons, List.filter_append, List.map_append, ih,
      Declaration.filter_kind_entries]
    rcases hview declaration with ⟨hkind, hnone⟩ | ⟨viewed, hkind, hsome, hnames, hlocation⟩
    · rw [if_neg hkind, List.filterMap_cons_none hnone]
      rfl
    · rw [if_pos hkind, List.filterMap_cons_some hsome, List.flatMap_cons, List.filterMap_append,
        Declaration.map_found_entries, hkind, hnames, hlocation]

/-- Leaving out the precedence levels leaves the entries of all other kinds. -/
theorem filter_entriesOf (kind : OutlineKind) :
    (grammar.entriesOf text kind).filter (·.item.kind != .precedence) =
      if kind = .precedence then [] else grammar.entriesOf text kind := by
  have hkind : ∀ entry ∈ grammar.entriesOf text kind, entry.item.kind = kind := by
    intro entry hentry
    simpa using (List.mem_filter.mp hentry).2
  split
  case isTrue heq => exact List.filter_eq_nil_iff.mpr fun entry h => by simp [hkind entry h, heq]
  case isFalse hne => exact List.filter_eq_self.mpr fun entry h => by simp [hkind entry h, hne]

/-- The entry of a rule as a search result is its name with its place. -/
theorem map_found_rules :
    ((grammar.rules.filterMap Rule.entry?).filter (·.item.kind != .precedence)).map
        (OutlineEntry.found uri) =
      (grammar.rules.map fun rule => DeclaredSymbol.mk rule.name .rule "Rules"
        rule.location).filterMap (DeclaredSymbol.located? text uri) := by
  rw [List.filter_filterMap, List.map_filterMap, List.filterMap_map]
  congr 1
  funext rule
  simp only [Rule.entry?, DeclaredSymbol.located?, Function.comp_apply]
  cases rule.location with
  | none => rfl
  | some location => rfl

/-- Without its precedence levels, the outline of a grammar lists the symbols that a search
goes through. -/
theorem map_found_entries :
    ((grammar.entries text).filter (·.item.kind != .precedence)).map (OutlineEntry.found uri) =
      grammar.symbols.filterMap (DeclaredSymbol.located? text uri) := by
  have htokens : (grammar.entriesOf text .token).map (OutlineEntry.found uri) =
      (declaredSymbols .token "Tokens" grammar.tokenDeclarations).filterMap
        (DeclaredSymbol.located? text uri) :=
    grammar.map_found_entriesOf text uri Declaration.isView_token
  have htypes : (grammar.entriesOf text .type).map (OutlineEntry.found uri) =
      (declaredSymbols .type "Types" grammar.typeDeclarations).filterMap
        (DeclaredSymbol.located? text uri) :=
    grammar.map_found_entriesOf text uri Declaration.isView_type
  simp only [entries, symbols, List.filter_append, List.map_append, List.filterMap_append,
    filter_entriesOf, reduceCtorEq, if_false, if_true, htokens, htypes,
    grammar.map_found_rules text uri, List.append_nil]

end Grammar

/-- The outline of a document lists the symbols that a search goes through. -/
theorem Document.listed_entries (document : Document) :
    document.listed document.entries = document.located := by
  unfold listed entries located
  cases document.grammar with
  | none => rfl
  | some grammar => exact grammar.map_found_entries document.text document.uri

namespace Grammar

variable {grammar : Grammar} {declaration : NameDeclaration}

theorem mem_tokenDeclarations_iff :
    declaration ∈ grammar.tokenDeclarations ↔ .token declaration ∈ grammar.declarations := by
  rw [tokenDeclarations, List.mem_filterMap]
  constructor
  · rintro ⟨other | other | other, hmem, heq⟩ <;> cases heq
    exact hmem
  · intro hmem
    exact ⟨_, hmem, rfl⟩

theorem mem_typeDeclarations_iff :
    declaration ∈ grammar.typeDeclarations ↔ .type declaration ∈ grammar.declarations := by
  rw [typeDeclarations, List.mem_filterMap]
  constructor
  · rintro ⟨other | other | other, hmem, heq⟩ <;> cases heq
    exact hmem
  · intro hmem
    exact ⟨_, hmem, rfl⟩

end Grammar

/-- A declared symbol is a name of one of the declarations, with its location. -/
theorem mem_declaredSymbols_iff {kind : OutlineKind} {container : String}
    {declarations : List NameDeclaration} {symbol : DeclaredSymbol} :
    symbol ∈ declaredSymbols kind container declarations ↔
      ∃ declaration ∈ declarations, ∃ name ∈ declaration.names,
        symbol = ⟨name, kind, container, declaration.location⟩ := by
  simp only [declaredSymbols, List.mem_flatMap, List.mem_map, eq_comm]

/-- A symbol that can be shown on the line of its declaration is found by every search. -/
theorem DeclaredSymbol.fitsFor_of_nameFits {query text : String} {symbol : DeclaredSymbol}
    (hkind : symbol.kind ≠ .rule)
    (h : ∀ location ∈ symbol.location, NameFits text symbol.name location) :
    symbol.FitsFor query text := by
  intro location hlocation
  rw [DeclaredSymbol.placed, if_neg hkind]
  exact ⟨fun _ => (h location hlocation).1, fun _ => (h location hlocation).2⟩

/-- If all names of a document can be shown, so can those that match a query. -/
theorem Document.NamesFit.matchesFit {document : Document} (h : document.NamesFit)
    (query : String) : document.MatchesFit query := by
  intro grammar hgrammar symbol hsymbol
  have hfit := h grammar hgrammar
  rw [Grammar.symbols, List.mem_append, List.mem_append, mem_declaredSymbols_iff,
    mem_declaredSymbols_iff, List.mem_map] at hsymbol
  rcases hsymbol with
    (⟨declaration, hmem, name, hname, rfl⟩ | ⟨declaration, hmem, name, hname, rfl⟩) |
      ⟨rule, hmem, rfl⟩
  · refine DeclaredSymbol.fitsFor_of_nameFits (by simp) fun location hlocation => ?_
    exact hfit.declarations _ (Grammar.mem_tokenDeclarations_iff.mp hmem) location hlocation
      name hname
  · refine DeclaredSymbol.fitsFor_of_nameFits (by simp) fun location hlocation => ?_
    exact hfit.declarations _ (Grammar.mem_typeDeclarations_iff.mp hmem) location hlocation
      name hname
  · intro location hlocation
    exact ⟨fun hne => absurd rfl hne, fun _ => (hfit.rules rule hmem location hlocation).1⟩

end GrammarServer
