import GrammarServer.Proofs.IndexedTokens
import GrammarServer.Proofs.Locality
import GrammarServer.Proofs.Outline
import GrammarServer.Proofs.Pointing

/-!
# When a handler breaks off

The engine's locations are not checked when they arrive, so the range of a name can reach
past the largest coordinate.  This is the only way in which a handler breaks off: all scanners
are safe on every text, and a range that covers a match in the text always fits.  For each
handler the inputs on which it breaks off are given exactly.

Main results:

- Theorem `not_overflows_of_isPlaceOf`: a name can be shown wherever it stands in the text.
- Theorem `Document.overflowsExactly_definition?`: a definition breaks off exactly if the
  declaring place of the name overflows; the same holds for references and renames.
- Theorem `declaration_overflow_cause`: only a location that the engine gave can overflow.
- Theorem `Document.overflowsExactly_outline`, Theorem `Store.overflowsExactly_search`,
  Theorem `Document.overflowsExactly_folds` and Theorem `overflowsExactly_diagnosticsOf`: the
  other handlers.
- Theorem `handlers_break_off_exactly_on_overflow`: all of it.
-/

namespace GrammarServer

open Text

/-! ## Computations that can only overflow -/

/-- The end of a name at a location would exceed the largest coordinate.  The length of the name
is itself a coordinate. -/
def Text.Location.Overflows (location : Location) (name : String) : Prop :=
  maxCoordinate < max location.column 1 - 1 + toCoordinate name.length

instance (location : Location) (name : String) : Decidable (location.Overflows name) :=
  inferInstanceAs (Decidable (_ < _))

/-- The length of a name that can be written is not cut. -/
theorem overflows_iff_of_le (location : Location) {name : String}
    (h : name.length ≤ maxCoordinate) :
    location.Overflows name ↔ maxCoordinate < max location.column 1 - 1 + name.length := by
  rw [Location.Overflows, toCoordinate_of_le h]

/-- A computation that breaks off exactly under a condition, for no other reason than a
coordinate that would be too large, and has a result otherwise. -/
def OverflowsExactly {α : Type} (result : Except Crash α) (condition : Prop) : Prop :=
  (condition ∧ result = .error .coordinateOverflow) ∨ (¬ condition ∧ ∃ value, result = .ok value)

theorem overflowsExactly_ok {α : Type} (value : α) {condition : Prop} (h : ¬ condition) :
    OverflowsExactly (.ok value) condition :=
  .inr ⟨h, value, rfl⟩

theorem OverflowsExactly.congr {α : Type} {result : Except Crash α} {first second : Prop}
    (h : OverflowsExactly result first) (hiff : first ↔ second) :
    OverflowsExactly result second := by
  rwa [OverflowsExactly, ← hiff]

theorem OverflowsExactly.exists_ok {α : Type} {result : Except Crash α} {condition : Prop}
    (h : OverflowsExactly result condition) (hnot : ¬ condition) :
    ∃ value, result = .ok value := by
  rcases h with ⟨hcondition, _⟩ | ⟨_, hok⟩
  · exact absurd hcondition hnot
  · exact hok

/-- Two computations in a row break off if one of them does. -/
theorem OverflowsExactly.bind {α β : Type} {x : Except Crash α} {f : α → Except Crash β}
    {first second : Prop} (hx : OverflowsExactly x first)
    (hf : ∀ a, OverflowsExactly (f a) second) : OverflowsExactly (x >>= f) (first ∨ second) := by
  rcases hx with ⟨hfirst, hcrash⟩ | ⟨hfirst, a, hok⟩
  · exact .inl ⟨.inl hfirst, by rw [hcrash]; rfl⟩
  · have hbind : (x >>= f) = f a := by rw [hok]; rfl
    rw [hbind]
    exact (hf a).congr (by simp [hfirst])

/-- A result that is only wrapped up breaks off under the same condition. -/
theorem OverflowsExactly.map {α β : Type} {x : Except Crash α} {condition : Prop}
    (hx : OverflowsExactly x condition) (wrap : α → β) :
    OverflowsExactly (x >>= fun a => pure (wrap a)) condition :=
  (hx.bind fun a => overflowsExactly_ok (wrap a) not_false).congr (iff_of_eq (or_false _))

/-- A computation that goes on with a known result. -/
theorem OverflowsExactly.of_ok {α β : Type} {x : Except Crash α} {f : α → Except Crash β} {a : α}
    {condition : Prop} (hx : x = .ok a) (hf : OverflowsExactly (f a) condition) :
    OverflowsExactly (x >>= f) condition := by
  rw [hx]
  exact hf

/-- A list is computed unless one of its elements breaks off. -/
theorem overflowsExactly_collect {α β : Type} {f : α → Except Crash β} {condition : α → Prop}
    {list : List α} (h : ∀ a ∈ list, OverflowsExactly (f a) (condition a)) :
    OverflowsExactly (collect f list) (∃ a ∈ list, condition a) := by
  induction list with
  | nil => exact overflowsExactly_ok [] (by simp)
  | cons a rest ih =>
    rw [collect]
    replace ih := ih fun other hother => h other (List.mem_cons_of_mem a hother)
    rcases h a List.mem_cons_self with ⟨ha, hcrash⟩ | ⟨ha, b, hok⟩
    · exact .inl ⟨⟨a, List.mem_cons_self, ha⟩, by rw [hcrash]⟩
    rw [hok]
    rcases ih with ⟨⟨other, hmem, hother⟩, hcrash⟩ | ⟨hrest, others, hok'⟩
    · exact .inl ⟨⟨other, List.mem_cons_of_mem a hmem, hother⟩, by rw [hcrash]⟩
    · refine .inr ⟨?_, b :: others, by rw [hok']⟩
      rintro ⟨other, hmem, hother⟩
      rcases List.mem_cons.mp hmem with rfl | hmem
      · exact ha hother
      · exact hrest ⟨other, hmem, hother⟩

/-- A sum breaks off exactly if it is too large. -/
theorem overflowsExactly_coordinateSum (a b : Nat) :
    OverflowsExactly (coordinateSum a b) (maxCoordinate < a + b) := by
  by_cases hfits : a + b ≤ maxCoordinate
  · exact .inr ⟨by omega, _, if_pos hfits⟩
  · exact .inl ⟨by omega, if_neg hfits⟩

/-- A span breaks off exactly if its end is too large. -/
theorem overflowsExactly_span (start : Position) (width : Nat) :
    OverflowsExactly (start.span width) (maxCoordinate < start.character + width) :=
  (overflowsExactly_coordinateSum start.character width).map _

/-- The range of a name breaks off exactly if the name overflows. -/
theorem overflowsExactly_nameRange (location : Location) (name : String) :
    OverflowsExactly (nameRange location name) (location.Overflows name) := by
  apply (overflowsExactly_span location.toPosition (toCoordinate name.length)).congr
  simp only [Location.Overflows, Location.toPosition]
  omega

/-! ## Names in the text -/

/-- A name does not overflow where it stands in a bounded text. -/
theorem not_overflows_of_isPlaceOf {text name : String} (hbounded : IsBounded text)
    {location : Location} (h : IsPlaceOf text name location) : ¬ location.Overflows name := by
  obtain ⟨index, column, hstands, rfl⟩ := h
  have hroom := hbounded.column_lt hstands
  rw [overflows_iff_of_le _ (by omega), locationOf]
  dsimp only
  omega

/-- The listed places of a name overflow exactly if its declaring place is listed and does. -/
theorem exists_listedPlaces_overflow_iff {grammar : Grammar} {text name : String}
    (hbounded : IsBounded text) (withDeclaration : Bool) :
    (∃ location ∈ grammar.listedPlaces text name withDeclaration, location.Overflows name) ↔
      withDeclaration = true ∧
        ∃ location, grammar.declarationLocation? text name = .ok (some location) ∧
          location.Overflows name := by
  simp only [Grammar.declarationLocation?_of_isBounded hbounded, Except.ok.injEq]
  constructor
  · rintro ⟨location, hmem, hoverflows⟩
    rw [Grammar.mem_listedPlaces_iff] at hmem
    split at hmem
    case isTrue hlocation => exact ⟨hmem, location, hlocation, hoverflows⟩
    case isFalse =>
      have hplace := Grammar.isPlaceOf_of_mem_places hbounded hmem
      exact absurd hoverflows (not_overflows_of_isPlaceOf hbounded hplace)
  · rintro ⟨hlisted, location, hlocation, hoverflows⟩
    refine ⟨location, ?_, hoverflows⟩
    rw [Grammar.mem_listedPlaces_iff, if_pos hlocation]
    exact hlisted

/-- Only a location that the engine gave can overflow: the name does not stand there, and the
location is that of a rule, or that of a token declaration on whose line the name is not
found. -/
theorem declaration_overflow_cause {grammar : Grammar} {text name : String}
    {location : Location} (hbounded : IsBounded text)
    (hlocation : grammar.declarationLocation? text name = .ok (some location))
    (hoverflows : location.Overflows name) :
    ¬ IsPlaceOf text name location ∧
      ((∃ rule ∈ grammar.rules, rule.name = name ∧ rule.location = some location) ∨
        ∃ declaration, grammar.token? name = some declaration ∧
          declaration.location = some location ∧
          ∀ column, location.column - 1 ≤ column →
            ¬ StandsAt (lines text) name (location.line - 1) column) := by
  have hplace : ¬ IsPlaceOf text name location := fun h =>
    not_overflows_of_isPlaceOf hbounded h hoverflows
  refine ⟨hplace, ?_⟩
  rw [Grammar.declarationLocation?_of_isBounded hbounded, Except.ok.injEq] at hlocation
  rcases Grammar.declaredPlace?_cases hlocation with
    ⟨declaration, declared, htoken, hdeclared, rfl⟩ | ⟨_, hrule⟩
  · right
    rcases namePlace_cases hbounded name declared with
      ⟨column, _, hstands, hfound⟩ | ⟨hnone, hfallback⟩
    · -- A match in the text leaves room for the name.
      have hroom := hbounded.column_lt hstands
      rw [hfound, overflows_iff_of_le _ (by omega)] at hoverflows
      dsimp only at hoverflows
      omega
    · rw [hfallback]
      exact ⟨declaration, htoken, hdeclared, hnone⟩
  · exact .inl hrule

/-! ## Answers about the name under a position -/

namespace Document

/-- The declaring place of the name under a position overflows. -/
def DeclarationOverflows (document : Document) (position : Position) : Prop :=
  ∃ use location, document.nameAt? position = some use ∧
    use.grammar.declarationLocation? document.text use.name = .ok (some location) ∧
    location.Overflows use.name

/-- The name under a position may be changed into another. -/
def AllowsRename (document : Document) (position : Position) (newName : String) : Prop :=
  ∃ use, document.nameAt? position = some use ∧
    use.grammar.isValidRename use.name newName = true

section

variable {document : Document} {position : Position}

theorem not_declarationOverflows (h : document.nameAt? position = none) :
    ¬ document.DeclarationOverflows position := by
  rintro ⟨use, location, huse, _⟩
  rw [h] at huse
  cases huse

theorem declarationOverflows_iff {use : NameInUse} (h : document.nameAt? position = some use) :
    document.DeclarationOverflows position ↔
      ∃ location, use.grammar.declarationLocation? document.text use.name = .ok (some location) ∧
        location.Overflows use.name := by
  simp [DeclarationOverflows, h]

/-- The length of the name under a position of a bounded text can be written. -/
theorem length_le_of_nameAt? (hbounded : IsBounded document.text) {use : NameInUse}
    (h : document.nameAt? position = some use) : use.name.length ≤ maxCoordinate := by
  simp only [nameAt?, Option.bind_eq_bind, Option.bind_eq_some_iff, Option.pure_def,
    Option.some.injEq] at h
  obtain ⟨_, _, found, hfound, rfl⟩ := h
  obtain ⟨_, line, start, hline, hwhole, _⟩ := isWholeWordAt_of_wordAt? hfound
  have hroom := hbounded.column_lt ⟨line, hline, hwhole⟩
  dsimp only
  omega

/-- A definition breaks off exactly if the declaring place of the name overflows. -/
theorem overflowsExactly_definition? (hbounded : IsBounded document.text) (position : Position) :
    OverflowsExactly (document.definition? position)
      (document.DeclarationOverflows position) := by
  unfold definition?
  cases huse : document.nameAt? position with
  | none => exact overflowsExactly_ok none (not_declarationOverflows huse)
  | some use =>
    have hdeclared := Grammar.declarationLocation?_of_isBounded hbounded use.grammar use.name
    rw [declarationOverflows_iff huse, hdeclared]
    refine OverflowsExactly.of_ok hdeclared ?_
    cases use.grammar.declaredPlace? document.text use.name with
    | none => exact overflowsExactly_ok none (by simp)
    | some location =>
      apply ((overflowsExactly_nameRange location use.name).map _).congr
      simp

/-- The ranges of the references of a name break off exactly if its declaring place is
listed and overflows. -/
theorem overflowsExactly_nameRanges (hbounded : IsBounded document.text) {use : NameInUse}
    (h : document.nameAt? position = some use) (withDeclaration : Bool) :
    OverflowsExactly
      (nameRanges use.name (use.grammar.listedPlaces document.text use.name withDeclaration))
      (withDeclaration = true ∧ document.DeclarationOverflows position) := by
  rw [declarationOverflows_iff h, ← exists_listedPlaces_overflow_iff hbounded]
  exact overflowsExactly_collect fun location _ => overflowsExactly_nameRange location use.name

/-- References break off exactly if the declaring place is listed and overflows. -/
theorem overflowsExactly_references (hbounded : IsBounded document.text) (position : Position)
    (withDeclaration : Bool) :
    OverflowsExactly (document.references position withDeclaration)
      (withDeclaration = true ∧ document.DeclarationOverflows position) := by
  unfold references
  cases huse : document.nameAt? position with
  | none => exact overflowsExactly_ok [] fun h => not_declarationOverflows huse h.2
  | some use =>
    refine OverflowsExactly.of_ok
      (Grammar.references_of_isBounded hbounded use.grammar use.name withDeclaration) ?_
    exact (overflowsExactly_nameRanges hbounded huse withDeclaration).map _

/-- A rename breaks off exactly if the new name is valid and the declaring place
overflows. -/
theorem overflowsExactly_rename? (hbounded : IsBounded document.text) (position : Position)
    (newName : String) :
    OverflowsExactly (document.rename? position newName)
      (document.AllowsRename position newName ∧ document.DeclarationOverflows position) := by
  unfold rename?
  cases huse : document.nameAt? position with
  | none => exact overflowsExactly_ok none fun h => not_declarationOverflows huse h.2
  | some use =>
    have hallows : document.AllowsRename position newName ↔
        use.grammar.isValidRename use.name newName = true := by
      simp [AllowsRename, huse]
    dsimp only
    by_cases hvalid : use.grammar.isValidRename use.name newName = true
    · rw [if_pos hvalid]
      refine OverflowsExactly.of_ok
        (Grammar.references_of_isBounded hbounded use.grammar use.name true) ?_
      apply ((overflowsExactly_nameRanges hbounded huse true).map _).congr
      simp [hallows, hvalid]
    · rw [if_neg hvalid]
      exact overflowsExactly_ok none fun h => hvalid (hallows.mp h.1)

end

end Document

/-! ## Outlines and searches -/

/-- A name of a declaration overflows where it stands on the line of the declaration. -/
def Declaration.Overflows (declaration : Declaration) (text : String) : Prop :=
  ∃ location, declaration.location = some location ∧ ∃ name ∈ declaration.names, ∃ place,
    nameLocation text name location = .ok place ∧ place.Overflows name

/-- The label of an alternative overflows. -/
def Alternative.Overflows (alternative : Alternative) (index : Nat) : Prop :=
  ∃ location, alternative.location = some location ∧
    location.Overflows ("Alternative " ++ toString (index + 1))

/-- The name of a rule or the label of one of its alternatives overflows. -/
def Rule.Overflows (rule : Rule) : Prop :=
  ∃ location, rule.location = some location ∧
    (location.Overflows rule.name ∨
      ∃ alternative ∈ rule.alternatives.zipIdx, alternative.1.Overflows alternative.2)

/-- A name or a label of a grammar overflows in the outline. -/
def Grammar.OutlineOverflows (grammar : Grammar) (text : String) : Prop :=
  (∃ declaration ∈ grammar.declarations, declaration.Overflows text) ∨
    ∃ rule ∈ grammar.rules, rule.Overflows

theorem overflowsExactly_outlineItem (name : String) (kind : OutlineKind) (detail : String)
    (location : Location) :
    OverflowsExactly (outlineItem name kind detail location) (location.Overflows name) :=
  (overflowsExactly_nameRange location name).map _

theorem Declaration.overflowsExactly_outline {text : String} (hbounded : IsBounded text)
    (declaration : Declaration) :
    OverflowsExactly (Declaration.outline text declaration) (declaration.Overflows text) := by
  unfold Declaration.outline Declaration.Overflows
  cases declaration.location with
  | none => exact overflowsExactly_ok [] (by simp)
  | some location =>
    simp only [Grammar.nameLocation_of_isBounded hbounded]
    have hname := fun name (_ : name ∈ declaration.names) =>
      (overflowsExactly_outlineItem name declaration.kind declaration.detail
        (namePlace text name location)).map (OutlineEntry.mk · [])
    apply (overflowsExactly_collect hname).congr
    simp

theorem Alternative.overflowsExactly_outline (alternative : Alternative) (index : Nat) :
    OverflowsExactly (alternative.outline index) (alternative.Overflows index) := by
  unfold Alternative.outline Alternative.Overflows
  cases alternative.location with
  | none => exact overflowsExactly_ok none (by simp)
  | some location =>
    apply ((overflowsExactly_outlineItem _ _ _ location).map _).congr
    simp

theorem Rule.overflowsExactly_outline (rule : Rule) :
    OverflowsExactly rule.outline rule.Overflows := by
  unfold Rule.outline Rule.Overflows
  cases rule.location with
  | none => exact overflowsExactly_ok none (by simp)
  | some location =>
    have halternatives := overflowsExactly_collect
      fun (alternative : Alternative × Nat) (_ : alternative ∈ rule.alternatives.zipIdx) =>
        alternative.1.overflowsExactly_outline alternative.2
    have hitem := fun children : List (Option OutlineItem) =>
      (overflowsExactly_outlineItem rule.name .rule
        ("Grammar rule (" ++ toString rule.alternatives.length ++ " alternatives)") location).map
          fun item => some (OutlineEntry.mk item (children.filterMap id))
    apply (halternatives.bind hitem).congr
    simp [or_comm]

theorem Grammar.overflowsExactly_outline (grammar : Grammar) {text : String}
    (hbounded : IsBounded text) :
    OverflowsExactly (grammar.outline text) (grammar.OutlineOverflows text) := by
  unfold Grammar.outline
  apply OverflowsExactly.bind
  · exact overflowsExactly_collect fun declaration _ =>
      declaration.overflowsExactly_outline hbounded
  · intro declared
    exact (overflowsExactly_collect fun rule _ => rule.overflowsExactly_outline).map _

/-- An outline breaks off exactly if a name or a label overflows. -/
theorem Document.overflowsExactly_outline {document : Document}
    (hbounded : IsBounded document.text) :
    OverflowsExactly document.outline
      (∃ grammar, document.grammar = some grammar ∧ grammar.OutlineOverflows document.text) := by
  unfold Document.outline
  cases document.grammar with
  | none => exact overflowsExactly_ok [] (by simp)
  | some grammar =>
    apply (grammar.overflowsExactly_outline hbounded).congr
    simp

/-- A token, type or rule of a grammar that matches a query in lower case overflows. -/
def Grammar.MatchOverflows (grammar : Grammar) (text query : String) : Prop :=
  (∃ declaration ∈ grammar.tokenDeclarations ++ grammar.typeDeclarations, ∃ location,
      declaration.location = some location ∧ ∃ name ∈ declaration.names,
        matchesQuery query name = true ∧ ∃ place,
          nameLocation text name location = .ok place ∧ place.Overflows name) ∨
    ∃ rule ∈ grammar.rules, ∃ location, rule.location = some location ∧
      matchesQuery query rule.name = true ∧ location.Overflows rule.name

/-- A declared symbol that matches a query overflows where it stands. -/
def DeclaredSymbol.Overflows (query text : String) (symbol : DeclaredSymbol) : Prop :=
  ∃ location, symbol.location = some location ∧ matchesQuery query symbol.name = true ∧
    ∃ place, symbol.placeFrom text location = .ok place ∧ place.Overflows symbol.name

theorem DeclaredSymbol.overflowsExactly_found? {text : String} (hbounded : IsBounded text)
    (query : String) (uri : Uri) (symbol : DeclaredSymbol) :
    OverflowsExactly (symbol.found? query text uri) (symbol.Overflows query text) := by
  unfold DeclaredSymbol.found? DeclaredSymbol.Overflows
  cases symbol.location with
  | none => exact overflowsExactly_ok none (by simp)
  | some location =>
    have hplace : symbol.placeFrom text location = .ok (symbol.placed text location) :=
      placeFrom_eq_ok_iff.mpr
        ⟨fun _ => Grammar.placeFits_of_isBounded hbounded symbol.name location, rfl⟩
    refine OverflowsExactly.of_ok hplace ?_
    by_cases hmatches : matchesQuery query symbol.name = true
    · rw [if_pos hmatches]
      apply ((overflowsExactly_nameRange _ symbol.name).map _).congr
      simp [hmatches, hplace]
    · rw [if_neg hmatches]
      exact overflowsExactly_ok none (by simp [hmatches])

/-- The symbols that a search goes through are the names of tokens and types, each where it
stands on the line of its declaration, and the rules. -/
theorem Grammar.exists_symbol_overflows_iff {grammar : Grammar} {text query : String} :
    (∃ symbol ∈ grammar.symbols, symbol.Overflows query text) ↔
      grammar.MatchOverflows text query := by
  unfold Grammar.symbols Grammar.MatchOverflows
  constructor
  · rintro ⟨symbol, hsymbol, location, hlocation, hmatches, place, hplace, hoverflows⟩
    rw [List.mem_append, List.mem_append, mem_declaredSymbols_iff, mem_declaredSymbols_iff,
      List.mem_map] at hsymbol
    rcases hsymbol with
      (⟨declaration, hmem, name, hname, rfl⟩ | ⟨declaration, hmem, name, hname, rfl⟩) |
        ⟨rule, hmem, rfl⟩
    · exact .inl ⟨declaration, List.mem_append_left _ hmem, location, hlocation, name, hname,
        hmatches, place, hplace, hoverflows⟩
    · exact .inl ⟨declaration, List.mem_append_right _ hmem, location, hlocation, name, hname,
        hmatches, place, hplace, hoverflows⟩
    · obtain rfl := Except.ok.inj hplace
      exact .inr ⟨rule, hmem, location, hlocation, hmatches, hoverflows⟩
  · rintro (⟨declaration, hmem, location, hlocation, name, hname, hmatches, hoverflows⟩ |
      ⟨rule, hmem, location, hlocation, hmatches, hoverflows⟩)
    · rcases List.mem_append.mp hmem with hmem | hmem
      · refine ⟨⟨name, .token, "Tokens", declaration.location⟩, ?_, location, hlocation, hmatches,
          hoverflows⟩
        rw [List.mem_append, List.mem_append, mem_declaredSymbols_iff]
        exact .inl (.inl ⟨declaration, hmem, name, hname, rfl⟩)
      · refine ⟨⟨name, .type, "Types", declaration.location⟩, ?_, location, hlocation, hmatches,
          hoverflows⟩
        rw [List.mem_append, List.mem_append, mem_declaredSymbols_iff, mem_declaredSymbols_iff]
        exact .inl (.inr ⟨declaration, hmem, name, hname, rfl⟩)
    · refine ⟨⟨rule.name, .rule, "Rules", rule.location⟩, ?_, location, hlocation, hmatches,
        location, rfl, hoverflows⟩
      rw [List.mem_append, List.mem_map]
      exact .inr ⟨rule, hmem, rfl⟩

theorem Document.overflowsExactly_search {document : Document}
    (hbounded : IsBounded document.text) (query : String) :
    OverflowsExactly (document.search query)
      (∃ grammar, document.grammar = some grammar ∧
        grammar.MatchOverflows document.text query) := by
  unfold Document.search
  cases document.grammar with
  | none => exact overflowsExactly_ok [] (by simp)
  | some grammar =>
    have hsymbols := overflowsExactly_collect
      fun (symbol : DeclaredSymbol) (_ : symbol ∈ grammar.symbols) =>
        symbol.overflowsExactly_found? hbounded query document.uri
    apply (hsymbols.map _).congr
    simp [← Grammar.exists_symbol_overflows_iff]

/-- A search through bounded texts breaks off exactly if a symbol that matches overflows in one
of the documents. -/
theorem Store.overflowsExactly_search {store : Store}
    (hbounded : ∀ document ∈ store.documents, IsBounded document.text) (query : String) :
    OverflowsExactly (store.search query)
      (∃ document ∈ store.documents, ∃ grammar, document.grammar = some grammar ∧
        grammar.MatchOverflows document.text (lowercase query)) :=
  (overflowsExactly_collect fun document hmem =>
    document.overflowsExactly_search (hbounded document hmem) _).map _

/-! ## Folds -/

/-- The lines below a rule that no located rule follows reach past the largest coordinate. -/
def SpanOverflows (rules : List Rule) : Prop :=
  ∃ front rule after location, rules = front ++ rule :: after ∧ rule.location = some location ∧
    2 ≤ rule.alternatives.length ∧ after.head?.bind (·.location) = none ∧
    maxCoordinate < max location.line 1 - 1 + lastRuleSpan

/-- The lines below one of several rules overflow if those below the first do, or those below
one of the others. -/
theorem spanOverflows_cons_iff {rule : Rule} {rest : List Rule} :
    SpanOverflows (rule :: rest) ↔
      (∃ location, rule.location = some location ∧ 2 ≤ rule.alternatives.length ∧
        rest.head?.bind (·.location) = none ∧
        maxCoordinate < max location.line 1 - 1 + lastRuleSpan) ∨ SpanOverflows rest := by
  constructor
  · rintro ⟨front, other, after, location, hrules, hother⟩
    cases front with
    | nil =>
      obtain ⟨rfl, rfl⟩ := List.cons.inj hrules
      exact .inl ⟨location, hother⟩
    | cons first front =>
      obtain ⟨_, rfl⟩ := List.cons.inj hrules
      exact .inr ⟨front, other, after, location, rfl, hother⟩
  · rintro (⟨location, hrule⟩ | ⟨front, other, after, location, rfl, hother⟩)
    · exact ⟨[], rule, rest, location, rfl, hrule⟩
    · exact ⟨rule :: front, other, after, location, rfl, hother⟩

theorem overflowsExactly_ruleFoldEnd (location : Location) (lineCount : Nat)
    (next : Option Location) :
    OverflowsExactly (ruleFoldEnd (location.line - 1) lineCount next)
      (next = none ∧ maxCoordinate < max location.line 1 - 1 + lastRuleSpan) := by
  unfold ruleFoldEnd
  cases next with
  | some other => exact overflowsExactly_ok _ (by simp)
  | none =>
    apply ((overflowsExactly_coordinateSum (location.line - 1) lastRuleSpan).map _).congr
    have hline : max location.line 1 - 1 = location.line - 1 := by omega
    simp [hline]

theorem overflowsExactly_ruleFolds (lineCount : Nat) (rules : List Rule) :
    OverflowsExactly (ruleFolds lineCount rules) (SpanOverflows rules) := by
  induction rules with
  | nil =>
    refine overflowsExactly_ok [] ?_
    rintro ⟨front, rule, after, location, hrules, _⟩
    simp at hrules
  | cons rule rest ih =>
    rw [ruleFolds, spanOverflows_cons_iff]
    cases rule.location with
    | none => exact ih.congr (by simp)
    | some location =>
      dsimp only
      by_cases hfew : rule.alternatives.length < 2
      · rw [if_pos hfew]
        exact ih.congr (by simp [Nat.not_le.mpr hfew])
      · rw [if_neg hfew]
        have hstop := overflowsExactly_ruleFoldEnd location lineCount
          (rest.head?.bind (·.location))
        apply (hstop.bind fun stop => ih.map _).congr
        simp [Nat.le_of_not_lt hfew]

/-- Folds break off exactly if the lines below a rule overflow. -/
theorem Document.overflowsExactly_folds (document : Document) :
    OverflowsExactly document.folds
      (∃ grammar, document.grammar = some grammar ∧ SpanOverflows grammar.rules) := by
  have hactions : OverflowsExactly (actionFolds (lines document.text)) False :=
    .inr ⟨not_false, exists_actionFolds _⟩
  unfold Document.folds foldsOf
  cases document.grammar with
  | none => exact (hactions.map _).congr (by simp)
  | some grammar =>
    have hrules := overflowsExactly_ruleFolds (lines document.text).length grammar.rules
    apply (hrules.bind fun rules => hactions.map _).congr
    simp

/-! ## Diagnostics -/

/-- The diagnostic for an offense breaks off exactly if it would end past the largest
coordinate. -/
theorem Offense.overflowsExactly_toDiagnostic (offense : Offense) :
    OverflowsExactly offense.toDiagnostic
      (∃ location, offense.location = some location ∧
        maxCoordinate < max location.column 1 - 1 + diagnosticWidth) := by
  unfold Offense.toDiagnostic
  apply ((overflowsExactly_span _ diagnosticWidth).map _).congr
  cases offense.location with
  | none => simp [Location.toPosition, diagnosticWidth, maxCoordinate]
  | some location =>
    have hcolumn : location.column - 1 = max location.column 1 - 1 := by omega
    simp [Location.toPosition, hcolumn]

/-- Diagnostics break off exactly if one of them would end past the largest coordinate. -/
theorem overflowsExactly_diagnosticsOf (offenses : List Offense) :
    OverflowsExactly (diagnosticsOf offenses)
      (∃ offense ∈ offenses, ∃ location, offense.location = some location ∧
        maxCoordinate < max location.column 1 - 1 + diagnosticWidth) :=
  overflowsExactly_collect fun offense _ => offense.overflowsExactly_toDiagnostic

/-! ## All handlers -/

/-- The requests that are answered whatever the engine reports. -/
def Message.neverBreaksOff : Message → Bool
  | .hover _ _ | .completion _ | .semanticTokens _ | .references _ _ false => true
  | _ => false

namespace Document

/-- Read by index, with every index, slice, sum and difference checked, a document gives the
same answers: no check fails but for the end of a range.  The scanners for comments, code and
action blocks always have a result, and so have the requests that show no location of the
engine. -/
structure ScansSafely (document : Document) : Prop where
  hover : ∀ position, document.hoverByIndex position = .ok (document.hover? position)
  highlights : document.highlightsByIndex = .ok document.highlights
  places : ∀ name location, ∃ place, nameLocation document.text name location = .ok place ∧
    nameLocationByIndex document.text name location = .ok place
  definition : ∀ position, document.definitionByIndex position = document.definition? position
  references : ∀ position withDeclaration,
    document.referencesByIndex position withDeclaration =
      document.references position withDeclaration
  rename : ∀ position newName,
    document.renameByIndex position newName = document.rename? position newName
  comments : commentFoldsByOffset 0 none (lines document.text) =
    .ok (commentFolds (lines document.text))
  actions : actionFoldsByCount (lines document.text) = actionFolds (lines document.text) ∧
    ∃ folds, actionFolds (lines document.text) = .ok folds
  answers : ∀ message : Message, message.neverBreaksOff = true →
    ∃ answer, message.readAnswer (some document) = .ok answer

/-- The other requests break off exactly if a location of the engine overflows. -/
structure BreaksOffExactly (document : Document) : Prop where
  /-- The length of a name that is asked for is not cut. -/
  length_le : ∀ position use, document.nameAt? position = some use →
    use.name.length ≤ maxCoordinate
  definition : ∀ position, OverflowsExactly (document.definition? position)
    (document.DeclarationOverflows position)
  references : ∀ position, OverflowsExactly (document.references position true)
    (document.DeclarationOverflows position)
  rename : ∀ position newName, OverflowsExactly (document.rename? position newName)
    (document.AllowsRename position newName ∧ document.DeclarationOverflows position)
  /-- A declaring place that overflows is no match in the text, but the location of a rule or
  that of a token declaration on whose line the name is not found. -/
  cause : ∀ position use location, document.nameAt? position = some use →
    use.grammar.declarationLocation? document.text use.name = .ok (some location) →
    location.Overflows use.name →
    ¬ IsPlaceOf document.text use.name location ∧
      ((∃ rule ∈ use.grammar.rules, rule.name = use.name ∧ rule.location = some location) ∨
        ∃ declaration, use.grammar.token? use.name = some declaration ∧
          declaration.location = some location ∧
          ∀ column, location.column - 1 ≤ column →
            ¬ StandsAt (lines document.text) use.name (location.line - 1) column)
  outline : OverflowsExactly document.outline
    (∃ grammar, document.grammar = some grammar ∧ grammar.OutlineOverflows document.text)
  folds : OverflowsExactly document.folds
    (∃ grammar, document.grammar = some grammar ∧ SpanOverflows grammar.rules)

variable {document : Document} (hbounded : IsBounded document.text)
include hbounded

theorem exists_answer {message : Message} (h : message.neverBreaksOff = true) :
    ∃ answer, message.readAnswer (some document) = .ok answer := by
  cases message with
  | hover uri position => exact ⟨_, rfl⟩
  | completion uri => exact ⟨_, rfl⟩
  | semanticTokens uri => exact ⟨_, rfl⟩
  | references uri position withDeclaration =>
    cases withDeclaration with
    | true => cases h
    | false =>
      have hok := (overflowsExactly_references hbounded position false).exists_ok (by simp)
      obtain ⟨places, hplaces⟩ := hok
      refine ⟨⟨.references places, []⟩, ?_⟩
      simp only [Message.readAnswer, answerFrom, hplaces, ServerState.answer]
  | _ => cases h

theorem scansSafely : document.ScansSafely where
  hover := document.hoverByIndex_eq
  highlights := document.highlightsByIndex_eq
  places := fun name location =>
    have hplace := Grammar.nameLocation_of_isBounded hbounded name location
    ⟨_, hplace, (nameLocationByIndex_eq _ _ _).trans hplace⟩
  definition := document.definitionByIndex_eq
  references := document.referencesByIndex_eq
  rename := document.renameByIndex_eq
  comments := commentFoldsByOffset_eq 0 none (lines document.text)
  actions := ⟨actionFoldsByCount_eq _, exists_actionFolds _⟩
  answers := fun _ => exists_answer hbounded

theorem breaksOffExactly : document.BreaksOffExactly where
  length_le := fun _ _ => length_le_of_nameAt? hbounded
  definition := overflowsExactly_definition? hbounded
  references := fun position =>
    (overflowsExactly_references hbounded position true).congr (by simp)
  rename := overflowsExactly_rename? hbounded
  cause := fun _ _ _ _ hlocation hoverflows =>
    declaration_overflow_cause hbounded hlocation hoverflows
  outline := overflowsExactly_outline hbounded
  folds := document.overflowsExactly_folds

end Document

/-- On a bounded text no scanner fails a check, and a handler breaks off exactly if a location
of the engine that it shows overflows: the declaring place of a name, a name or a label of the
outline, a name that a search through bounded texts finds, the lines below a rule, or an offense.
A name whose length can be written overflows if it would end past the largest coordinate. -/
theorem handlers_break_off_exactly_on_overflow (document : Document)
    (hbounded : IsBounded document.text) :
    document.ScansSafely ∧ document.BreaksOffExactly ∧
      (∀ store : Store, (∀ found ∈ store.documents, IsBounded found.text) →
        ∀ query, OverflowsExactly (store.search query)
          (∃ found ∈ store.documents, ∃ grammar, found.grammar = some grammar ∧
            grammar.MatchOverflows found.text (lowercase query))) ∧
      (∀ offenses, OverflowsExactly (diagnosticsOf offenses)
        (∃ offense ∈ offenses, ∃ location, offense.location = some location ∧
          maxCoordinate < max location.column 1 - 1 + diagnosticWidth)) ∧
      ∀ (location : Location) (name : String), name.length ≤ maxCoordinate →
        (location.Overflows name ↔
          maxCoordinate < max location.column 1 - 1 + name.length) := by
  refine ⟨Document.scansSafely hbounded, Document.breaksOffExactly hbounded, ?_, ?_, ?_⟩
  · exact fun _ => Store.overflowsExactly_search
  · exact overflowsExactly_diagnosticsOf
  · exact fun location _ => overflows_iff_of_le location

/-- A grammar whose rule the engine places at the last column that can be written. -/
def brimGrammar : Grammar where
  rules := [{ name := "st", location := some ⟨2, 4294967295⟩ }]

/-- A document with this grammar. -/
def brimDocument : Document where
  uri := { scheme := "file", authority := some {}, path := .segments ["b.y"] }
  text := "%%\nst: st ;"
  version := 1
  grammar := some brimGrammar

theorem isBounded_brimDocument : IsBounded brimDocument.text := by
  constructor
  · decide
  · decide

/-- The declaring place of the rule cannot be shown, but its other places can. -/
theorem brimDocument_breaks_off :
    IsBounded brimDocument.text ∧
      brimDocument.definition? ⟨1, 0⟩ = .error .coordinateOverflow ∧
      brimDocument.rename? ⟨1, 0⟩ "root" = .error .coordinateOverflow ∧
      ∃ answer, (Message.references brimDocument.uri ⟨1, 0⟩ false).readAnswer
        (some brimDocument) = .ok answer := by
  have hfound : wordAt? brimDocument.text ⟨1, 0⟩ = some ⟨"st", ⟨⟨1, 0⟩, ⟨1, 2⟩⟩⟩ := by decide
  have huse : brimDocument.nameAt? ⟨1, 0⟩ = some ⟨brimGrammar, "st"⟩ :=
    nameAt?_of_wordAt? rfl hfound
  have hoverflows : brimDocument.DeclarationOverflows ⟨1, 0⟩ :=
    ⟨_, ⟨2, 4294967295⟩, huse, by decide, by decide⟩
  have hallows : brimDocument.AllowsRename ⟨1, 0⟩ "root" := ⟨_, huse, by decide⟩
  obtain ⟨hscans, hbreaks, _⟩ :=
    handlers_break_off_exactly_on_overflow brimDocument isBounded_brimDocument
  refine ⟨isBounded_brimDocument, ?_, ?_, hscans.answers _ rfl⟩
  · exact ((hbreaks.definition ⟨1, 0⟩).resolve_right fun h => h.1 hoverflows).2
  · exact ((hbreaks.rename ⟨1, 0⟩ "root").resolve_right fun h =>
      h.1 ⟨hallows, hoverflows⟩).2

end GrammarServer
