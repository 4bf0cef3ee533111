import GrammarServer.Feature.Hover
import GrammarServer.Protocol.Encode
import GrammarServer.Proofs.Pointing
import GrammarServer.Proofs.Ranking

/-!
# A declared name has one place

The definition of a name looks up its first declaration.  The outline and the search list
all declarations, and the references and the edits of a rename start with the declaration.
All of them report the place that the definition gives.

Main results:

- Theorem `Grammar.exists_symbol_of_declaredPlace?`: the declaring place of a name is among the
  places of all declared symbols.
- Theorem `exists_entry_of_mem_located`: what a search goes through is an entry of the outline.
- Theorem `Document.references_true_eq`: the declaration comes before all other references.
- Theorem `not_mem_references_of_definition?`: the other references are elsewhere, if the
  engine counts from 1.
- Theorem `declared_name_at_one_place`: all answers about a name agree on where it is declared.
-/

namespace GrammarServer

open Text

/-! ## The declaring place among all declarations -/

namespace Grammar

variable {grammar : Grammar} {text name : String} {location : Location}

/-- How an outline shows a declared name: as a token if it is declared as one, else as a
rule. -/
def outlineKind (grammar : Grammar) (name : String) : OutlineKind :=
  if grammar.isToken name then .token else .rule

/-- The engine counts the lines and columns of the declaration of a name from 1. -/
def CountsFromOne (grammar : Grammar) (name : String) : Prop :=
  ∀ declaration ∈ grammar.declaration? name, ∀ location ∈ declaration.location,
    0 < location.line ∧ 0 < location.column

/-- The declaring place of a name is among the places of all declared symbols. -/
theorem exists_symbol_of_declaredPlace? (h : grammar.declaredPlace? text name = some location) :
    ∃ symbol ∈ grammar.symbols, symbol.name = name ∧ symbol.kind = grammar.outlineKind name ∧
      symbol.location.map (symbol.placed text) = some location := by
  simp only [symbols, List.mem_append, mem_declaredSymbols_iff, List.mem_map]
  rcases declaredPlace?_cases h with
    ⟨declaration, declared, htoken, hdeclared, rfl⟩ | ⟨htoken, rule, hrule, rfl, hlocation⟩
  · rcases mem_of_token? htoken with ⟨hmem, hname⟩
    refine ⟨_, .inl (.inl ⟨declaration, hmem, name, hname, rfl⟩), rfl, ?_, ?_⟩
    · simp [outlineKind, isToken, htoken]
    · simp [hdeclared, DeclaredSymbol.placed]
  · refine ⟨_, .inr ⟨rule, hrule, rfl⟩, rfl, ?_, ?_⟩
    · simp [outlineKind, isToken, htoken]
    · simp [hlocation, DeclaredSymbol.placed]

/-- A name that is declared at a place has a description. -/
theorem isSome_describe?_of_declaredPlace? (h : grammar.declaredPlace? text name = some location) :
    (grammar.describe? name).isSome = true := by
  unfold declaredPlace? at h
  cases hdeclaration : grammar.declaration? name with
  | none => simp [hdeclaration] at h
  | some declaration => rw [describe?, hdeclaration, Option.isSome_map, Option.isSome_some]

/-- The declaring place of a name counts from 1 if the engine does. -/
theorem CountsFromOne.declaredPlace?_pos (hcounts : grammar.CountsFromOne name)
    (h : grammar.declaredPlace? text name = some location) :
    0 < location.line ∧ 0 < location.column := by
  unfold declaredPlace? at h
  cases hdeclaration : grammar.declaration? name with
  | none => simp [hdeclaration] at h
  | some declaration =>
    have hpos := hcounts declaration hdeclaration
    cases hkind : declaration.kind with
    | token =>
      simp only [hdeclaration, hkind] at h
      obtain ⟨declared, hdeclared, rfl⟩ := Option.map_eq_some_iff.mp h
      exact namePlace_pos text name (hpos declared hdeclared)
    | rule =>
      simp only [hdeclaration, hkind] at h
      exact hpos location h

/-- The locations of occurrences count from 1. -/
theorem pos_of_mem_places (h : location ∈ grammar.places text name) :
    0 < location.line ∧ 0 < location.column := by
  obtain ⟨place, _, rfl⟩ := List.mem_map.mp h
  exact ⟨Nat.succ_pos _, Nat.succ_pos _⟩

/-- With the declaration, the references start with the declaring place. -/
theorem references_true_eq
    (h : grammar.declarationLocation? text name = .ok (some location)) :
    grammar.references text name true =
      (grammar.references text name false).map (location :: ·) := by
  simp only [references, h, bind, Except.bind]
  cases grammar.occurrences text name with
  | error crash => rfl
  | ok found => rfl

/-- Without a declaring place, it does not matter whether it is asked for. -/
theorem references_eq_of_declarationLocation?_eq_none
    (h : grammar.declarationLocation? text name = .ok none) :
    grammar.references text name true = grammar.references text name false := by
  simp only [references, h, bind, Except.bind]
  rfl

end Grammar

/-! ## Outlines and searches -/

section Listed

variable {store : Store} {document : Document} {symbol : FoundSymbol}

/-- The declaring place of a name is among the places that a document lists. -/
theorem Document.exists_located_of_declaredPlace? {grammar : Grammar} {name : String}
    {location : Location} (hgrammar : document.grammar = some grammar)
    (h : grammar.declaredPlace? document.text name = some location) :
    ∃ symbol ∈ document.located, symbol.name = name ∧
      symbol.kind = grammar.outlineKind name ∧
      symbol.place = ⟨document.uri, rangeFrom name location⟩ := by
  obtain ⟨symbol, hmem, rfl, hkind, hplaced⟩ := Grammar.exists_symbol_of_declaredPlace? h
  obtain ⟨declared, hdeclared, rfl⟩ := Option.map_eq_some_iff.mp hplaced
  refine ⟨⟨symbol.name, symbol.kind, symbol.container, document.uri,
    rangeFrom symbol.name (symbol.placed document.text declared)⟩, ?_, rfl, hkind, rfl⟩
  rw [Document.located, hgrammar, Option.elim_some, List.mem_filterMap]
  refine ⟨symbol, hmem, ?_⟩
  rw [DeclaredSymbol.located?, hdeclared, Option.map_some]

/-- What a search goes through is an entry of the outline. -/
theorem exists_entry_of_mem_located {entries : List OutlineEntry}
    (houtline : document.outline = .ok entries) (h : symbol ∈ document.located) :
    ∃ entry ∈ entries, entry.item.name = symbol.name ∧ entry.item.kind = symbol.kind ∧
      entry.item.range = symbol.place.range := by
  obtain rfl := ((Document.outline_computes document entries).mp houtline).2
  rw [← Document.listed_entries, Document.listed, List.mem_map] at h
  obtain ⟨entry, hentry, rfl⟩ := h
  exact ⟨entry, List.mem_of_mem_filter hentry, rfl, rfl, rfl⟩

/-- A search for the name of a listed symbol finds the symbol. -/
theorem mem_search_of_mem_located {results : List FoundSymbol}
    (hmem : document ∈ store.documents) (h : symbol ∈ document.located)
    (hsearch : store.search symbol.name = .ok results) : symbol ∈ results := by
  obtain ⟨_, rfl⟩ := Store.search_eq_ok_iff.mp hsearch
  rw [List.mem_mergeSort, List.mem_filter, matchesQuery_iff]
  exact ⟨List.mem_flatMap_of_mem hmem h, List.infix_rfl⟩

end Listed

/-! ## References -/

section References

variable {document : Document} {position : Position} {use : NameInUse} {location : Location}

/-- With the declaration, the references are its range and those without it. -/
theorem Document.references_true_eq {range : Range}
    (huse : document.nameAt? position = some use)
    (hlocation : use.grammar.declarationLocation? document.text use.name = .ok (some location))
    (hrange : nameRange location use.name = .ok range) :
    document.references position true =
      (document.references position false).map (⟨document.uri, range⟩ :: ·) := by
  simp only [Document.references, huse, Grammar.references_true_eq hlocation]
  cases use.grammar.references document.text use.name false with
  | error crash => rfl
  | ok locations =>
    simp only [Except.map, bind, Except.bind, nameRanges, collect, hrange]
    cases collect (nameRange · use.name) locations with
    | error crash => rfl
    | ok ranges => rfl

/-- If the engine counts from 1, the references without the declaration are elsewhere. -/
theorem not_mem_references_of_definition? (huse : document.nameAt? position = some use)
    (hlocation : use.grammar.declaredPlace? document.text use.name = some location)
    (hcounts : use.grammar.CountsFromOne use.name) {places : List Place}
    (h : document.references position false = .ok places) :
    (⟨document.uri, rangeFrom use.name location⟩ : Place) ∉ places := by
  rcases eq_of_references h with ⟨_, rfl⟩ | ⟨use', huse', rfl⟩
  · exact List.not_mem_nil
  · rw [huse, Option.some.injEq] at huse'
    subst huse'
    intro hmem
    obtain ⟨other, hother, heq⟩ := List.mem_map.mp hmem
    rw [Grammar.mem_listedPlaces_iff] at hother
    split at hother
    case isTrue => cases hother
    case isFalse hne =>
      -- Both locations count from 1, so that their ranges tell them apart.
      have hpos := hcounts.declaredPlace?_pos hlocation
      have hpos' := Grammar.pos_of_mem_places hother
      have hstart := congrArg Range.start (Place.mk.inj heq).2
      simp only [rangeFrom, Location.toPosition, Position.mk.injEq] at hstart
      refine hne ?_
      rw [hlocation, ← locationOf_pred hpos'.1 hpos'.2, ← locationOf_pred hpos.1 hpos.2,
        hstart.1, hstart.2]

/-- If there is no definition, the references are the same with and without it. -/
theorem references_eq_of_definition?_eq_none (h : document.definition? position = .ok none) :
    document.references position true = document.references position false := by
  cases huse : document.nameAt? position with
  | none => simp [Document.references, huse]
  | some use =>
    simp only [Document.definition?, huse, bind_eq_ok_iff] at h
    obtain ⟨_ | location, hlocation, h⟩ := h
    · simp only [Document.references, huse,
        Grammar.references_eq_of_declarationLocation?_eq_none hlocation]
    · obtain ⟨range, _, hsome⟩ := bind_eq_ok_iff.mp h
      cases hsome

end References

/-! ## All answers -/

/-- All answers about the name in use at a position agree that it is declared at a place. -/
structure Store.Reports (store : Store) (document : Document) (position : Position)
    (use : NameInUse) (place : Place) : Prop where
  uri : place.uri = document.uri
  /-- An entry of the outline has the range, both as what it covers and as what it selects. -/
  outline : ∀ entries, document.outline = .ok entries → ∃ entry ∈ entries,
    entry.item.name = use.name ∧ entry.item.kind = use.grammar.outlineKind use.name ∧
      entry.item.range = place.range ∧
      ("selectionRange", Protocol.range place.range) ∈ Protocol.outlineMembers entry.item
  search : ∀ results, store.search use.name = .ok results → ∃ symbol ∈ results,
    symbol.name = use.name ∧ symbol.kind = use.grammar.outlineKind use.name ∧
      symbol.place = place
  /-- The references with the declaration are the place and those without it. -/
  references : document.references position true =
    (document.references position false).map (place :: ·)
  apart : use.grammar.CountsFromOne use.name →
    ∀ places, document.references position false = .ok places → place ∉ places
  rename : ∀ newName edit, document.rename? position newName = .ok (some edit) →
    edit.edits.head?.map (·.range) = some place.range
  hover : (document.hover? position).isSome = true

/-- The name in use is described wherever it is declared at a place. -/
theorem isSome_hover?_of_declaredPlace? {document : Document} {position : Position}
    {use : NameInUse} {location : Location} (huse : document.nameAt? position = some use)
    (hlocation : use.grammar.declaredPlace? document.text use.name = some location) :
    (document.hover? position).isSome = true := by
  simp only [Document.nameAt?, Option.bind_eq_bind, Option.bind_eq_some_iff, Option.pure_def,
    Option.some.injEq] at huse
  obtain ⟨grammar, hgrammar, found, hfound, rfl⟩ := huse
  obtain ⟨markdown, hmarkdown⟩ := Option.isSome_iff_exists.mp
    (Grammar.isSome_describe?_of_declaredPlace? hlocation)
  simp [Document.hover?, hgrammar, hfound, hmarkdown]

/-- Where a definition gives a place, all answers about the name agree on it.  Where it gives
none, the references are the same with and without the declaration. -/
theorem declared_name_at_one_place {store : Store} {document : Document}
    (hmem : document ∈ store.documents) (position : Position) :
    (∀ place, document.definition? position = .ok (some place) →
      ∃ use, document.nameAt? position = some use ∧
        store.Reports document position use place) ∧
    (document.definition? position = .ok none →
      document.references position true = document.references position false) := by
  refine ⟨?_, references_eq_of_definition?_eq_none⟩
  intro place hdefinition
  obtain ⟨use, location, huse, hlocation, hrange, rfl⟩ := eq_of_definition? hdefinition
  have hdeclared := (Grammar.declarationLocation?_eq_ok_iff.mp hlocation).2.symm
  obtain ⟨symbol, hlocated, hname, hkind, hplace⟩ :=
    Document.exists_located_of_declaredPlace? (of_nameAt? huse).1 hdeclared
  refine ⟨use, huse, rfl, ?_, ?_, ?_, ?_, ?_, ?_⟩
  · intro entries houtline
    obtain ⟨entry, hentry, hitem, hitemKind, hitemRange⟩ :=
      exists_entry_of_mem_located houtline hlocated
    rw [hplace] at hitemRange
    refine ⟨entry, hentry, hitem.trans hname, hitemKind.trans hkind, hitemRange, ?_⟩
    simp [Protocol.outlineMembers, hitemRange]
  · intro results hsearch
    rw [← hname] at hsearch
    exact ⟨symbol, mem_search_of_mem_located hmem hlocated hsearch, hname, hkind, hplace⟩
  · exact Document.references_true_eq huse hlocation hrange
  · intro hcounts places hplaces
    exact not_mem_references_of_definition? huse hdeclared hcounts hplaces
  · intro newName edit hrename
    obtain ⟨use', huse', _, rfl⟩ := eq_of_rename? hrename
    rw [huse, Option.some.injEq] at huse'
    subst huse'
    simp [Grammar.listedPlaces, Grammar.listPlaces, hdeclared]
  · exact isSome_hover?_of_declaredPlace? huse hdeclared

/-! ## A token that is also a rule -/

/-- A grammar with a token that is declared twice and once more as a rule. -/
def crowdedGrammar : Grammar where
  declarations := [.token { names := ["B", "A"], location := some ⟨1, 8⟩ },
    .token { names := ["A"] }]
  rules := [{ name := "A", location := some ⟨1, 15⟩ }]

/-- The document of that grammar, on one line: the body of the rule holds the declaration
of the token. -/
def crowdedDocument : Document where
  uri := { scheme := "file", authority := some {}, path := .segments ["g.y"] }
  text := "%token B A %% A: B A ;"
  version := 1
  grammar := some crowdedGrammar

/-- The store of the document. -/
def crowdedStore : Store where
  documents := [crowdedDocument]
  nodup := by decide

/-- The place where the token is declared. -/
def crowdedPlace : Place := ⟨crowdedDocument.uri, ⟨⟨0, 9⟩, ⟨0, 10⟩⟩⟩

/-- The uses of the token, without its declaration. -/
def crowdedUses : List Place :=
  [⟨crowdedDocument.uri, ⟨⟨0, 14⟩, ⟨0, 15⟩⟩⟩, ⟨crowdedDocument.uri, ⟨⟨0, 19⟩, ⟨0, 20⟩⟩⟩]

/-- All answers agree on where the token is declared. -/
theorem crowdedDocument_declared_at_one_place :
    crowdedDocument.definition? ⟨0, 19⟩ = .ok (some crowdedPlace) ∧
      (∃ entries, crowdedDocument.outline = .ok entries ∧ ∃ entry ∈ entries,
        entry.item.name = "A" ∧ entry.item.kind = .token ∧
          entry.item.range = crowdedPlace.range) ∧
      (∃ results, crowdedStore.search "A" = .ok results ∧ ∃ symbol ∈ results,
        symbol.name = "A" ∧ symbol.place = crowdedPlace) ∧
      crowdedDocument.references ⟨0, 19⟩ true = .ok (crowdedPlace :: crowdedUses) ∧
      crowdedPlace ∉ crowdedUses := by
  have hdefinition : crowdedDocument.definition? ⟨0, 19⟩ = .ok (some crowdedPlace) := by decide
  have hfound : wordAt? crowdedDocument.text ⟨0, 19⟩ = some ⟨"A", ⟨⟨0, 19⟩, ⟨0, 20⟩⟩⟩ := by
    decide
  have houtline : crowdedDocument.outline = .ok crowdedDocument.entries := by decide
  have huses : crowdedDocument.references ⟨0, 19⟩ false = .ok crowdedUses := by decide
  have hcounts : crowdedGrammar.CountsFromOne "A" := by
    have hdeclaration : crowdedGrammar.declaration? "A" =
        some ⟨"A", .token, some ⟨1, 8⟩⟩ := by decide
    simp [Grammar.CountsFromOne, hdeclaration]
  obtain ⟨_, hsearch⟩ : ∃ results, crowdedStore.search "A" = .ok results := by
    refine ⟨_, Store.search_eq_ok_iff.mpr ⟨?_, rfl⟩⟩
    intro document hmem
    obtain rfl := List.mem_singleton.mp hmem
    exact ((Document.outline_computes _ _).mp houtline).1.matchesFit _
  have hmem : crowdedDocument ∈ crowdedStore.documents := List.mem_cons_self
  obtain ⟨use, huse, hreports⟩ := (declared_name_at_one_place hmem ⟨0, 19⟩).1 _ hdefinition
  rw [nameAt?_of_wordAt? rfl hfound, Option.some.injEq] at huse
  subst huse
  obtain ⟨entry, hentry, hname, hkind, hrange, _⟩ := hreports.outline _ houtline
  obtain ⟨symbol, hsymbol, hsymbolName, _, hplace⟩ := hreports.search _ hsearch
  refine ⟨hdefinition, ⟨_, houtline, entry, hentry, hname, ?_, hrange⟩,
    ⟨_, hsearch, symbol, hsymbol, hsymbolName, hplace⟩, ?_, hreports.apart hcounts _ huses⟩
  · rw [hkind]
    decide
  · rw [hreports.references, huses]
    rfl

end GrammarServer
