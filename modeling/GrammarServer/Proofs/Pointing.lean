import GrammarServer.Proofs.Occurrence

/-!
# Answers that point at the name

The engine gives one location to all names of a token declaration, so the place of a
name is searched on the declaration's line.  If the name stands only on a following
line, the search falls back on the location of the declaration, where another name
stands.  For an engine whose locations are right, this is the only way in which a
definition, a reference or an edit of a rename can miss the name under the cursor.

Main results:

- Theorem `nameColumn?_cases`: the search finds the first place of a name on a line, or none.
- Theorem `namePlace_cases`: the search finds the name, or falls back.
- Theorem `isPlaceOf_declaredPlace?_iff`: the declaring place is a place of the name
  unless its declaration is continued.
- Theorem `answers_point_at_name_iff`: in a bounded text all answers point at the name exactly
  if its declaration is not continued.
-/

namespace GrammarServer

open Text

/-! ## Engines with right locations -/

/-- One location comes before another in the text. -/
def Before (first second : Location) : Prop :=
  first.line < second.line ∨ first.line = second.line ∧ first.column < second.column

/-- The locations of a grammar are right: each rule is located at its name, each token
declaration at the first of its names, and its other names follow. -/
structure Grammar.IsFaithful (grammar : Grammar) (text : String) : Prop where
  rule_at : ∀ rule ∈ grammar.rules, ∀ location, rule.location = some location →
    IsPlaceOf text rule.name location
  first_at : ∀ declaration ∈ grammar.tokenDeclarations, ∀ location,
    declaration.location = some location →
      ∀ first, declaration.names.head? = some first → IsPlaceOf text first location
  others_follow : ∀ declaration ∈ grammar.tokenDeclarations, ∀ location,
    declaration.location = some location →
      ∀ name ∈ declaration.names.tail, ∃ place, IsPlaceOf text name place ∧ Before location place

/-- The first declaration of a token stands on a line that does not name the token from
the declaration's column on. -/
def Grammar.IsContinued (grammar : Grammar) (text name : String) : Prop :=
  ∃ declaration location, grammar.token? name = some declaration ∧
    declaration.location = some location ∧
    ∀ column, location.column - 1 ≤ column →
      ¬ StandsAt (lines text) name (location.line - 1) column

/-! ## The declaring place -/

/-- Of the elements of an increasing list that pass a test, the first found is the least. -/
theorem le_of_find? {list : List Nat} {test : Nat → Bool} {first other : Nat}
    (hincreasing : list.Pairwise (· < ·)) (hfind : list.find? test = some first)
    (hmem : other ∈ list) (htest : test other = true) : first ≤ other := by
  obtain ⟨_, before, after, rfl, hfail⟩ := List.find?_eq_some_iff_append.mp hfind
  rcases List.mem_append.mp hmem with hbefore | hafter
  · have hnot := hfail other hbefore
    rw [htest] at hnot
    cases hnot
  · have hlater := (List.pairwise_cons.mp (List.pairwise_append.mp hincreasing).2.1).1
    rcases List.mem_cons.mp hafter with rfl | hmem
    · exact Nat.le_refl other
    · exact Nat.le_of_lt (hlater other hmem)

/-- The column that is found for a name on the line of a declaration is the first one from the
declaration's column on at which it stands, or the name does not stand there. -/
theorem nameColumn?_cases (text name : String) (location : Location) :
    (∃ column, location.column - 1 ≤ column ∧
        StandsAt (lines text) name (location.line - 1) column ∧
        (∀ other, location.column - 1 ≤ other →
          StandsAt (lines text) name (location.line - 1) other → column ≤ other) ∧
        nameColumn? text name location = some column) ∨
      ((∀ column, location.column - 1 ≤ column →
          ¬ StandsAt (lines text) name (location.line - 1) column) ∧
        nameColumn? text name location = none) := by
  unfold nameColumn?
  cases hline : (lines text)[location.line - 1]? with
  | none =>
    right
    refine ⟨?_, rfl⟩
    rintro column _ ⟨line, hget, _⟩
    rw [hline] at hget
    cases hget
  | some line =>
    have hstands : ∀ column, StandsAt (lines text) name (location.line - 1) column ↔
        column ∈ wholeWordColumns line name.toList := by
      intro column
      simp [StandsAt, hline, mem_wholeWordColumns]
    simp only [Option.bind_eq_bind, Option.bind_some, hstands]
    cases hfind : (wholeWordColumns line name.toList).find? (location.column - 1 ≤ ·) with
    | none =>
      right
      refine ⟨?_, rfl⟩
      intro column hle hmem
      exact List.find?_eq_none.mp hfind column hmem (decide_eq_true hle)
    | some column =>
      left
      have hle : location.column - 1 ≤ column := by simpa using List.find?_some hfind
      refine ⟨column, hle, List.mem_of_find?_eq_some hfind, ?_, rfl⟩
      intro other hle' hmem
      exact le_of_find? (List.Pairwise.filter _ List.pairwise_lt_range) hfind hmem
        (decide_eq_true hle')

/-- The place of a name on the line of its declaration is the name's own, or the name does
not stand there and the declaration's location is taken. -/
theorem namePlace_cases {text : String} (hbounded : IsBounded text) (name : String)
    (location : Location) :
    (∃ column, location.column - 1 ≤ column ∧
        StandsAt (lines text) name (location.line - 1) column ∧
        namePlace text name location = ⟨location.line, column + 1⟩) ∨
      ((∀ column, location.column - 1 ≤ column →
          ¬ StandsAt (lines text) name (location.line - 1) column) ∧
        namePlace text name location = location) := by
  unfold namePlace
  rcases nameColumn?_cases text name location with
    ⟨column, hle, hstands, _, heq⟩ | ⟨hnone, heq⟩
  · have hcolumn := hbounded.column_lt hstands
    have hcut : toCoordinate column = column := toCoordinate_of_le (by omega)
    exact .inl ⟨column, hle, hstands, by simp only [heq, hcut]⟩
  · exact .inr ⟨hnone, by rw [heq]⟩

namespace Grammar

variable {grammar : Grammar} {text name : String} {location : Location}

/-- The first token declaration with a name lists it. -/
theorem mem_of_token? {declaration : NameDeclaration}
    (h : grammar.token? name = some declaration) :
    declaration ∈ grammar.tokenDeclarations ∧ name ∈ declaration.names := by
  refine ⟨List.mem_of_find?_eq_some h, ?_⟩
  simpa using List.find?_some h

/-- A name is declared by its first token declaration, else by its first rule. -/
theorem declaredPlace?_cases (h : grammar.declaredPlace? text name = some location) :
    (∃ declaration declared, grammar.token? name = some declaration ∧
        declaration.location = some declared ∧ location = namePlace text name declared) ∨
      (grammar.token? name = none ∧
        ∃ rule ∈ grammar.rules, rule.name = name ∧ rule.location = some location) := by
  unfold declaredPlace? declaration? at h
  cases htoken : grammar.token? name with
  | some declaration =>
    left
    simp only [htoken] at h
    obtain ⟨declared, hdeclared, rfl⟩ := Option.map_eq_some_iff.mp h
    exact ⟨declaration, declared, rfl, hdeclared, rfl⟩
  | none =>
    right
    refine ⟨rfl, ?_⟩
    cases hrule : grammar.rule? name with
    | none => simp [htoken, hrule] at h
    | some rule =>
      simp only [htoken, hrule, Option.map_some] at h
      exact ⟨rule, List.mem_of_find?_eq_some hrule, by simpa using List.find?_some hrule, h⟩

/-- A continued declaration has a location. -/
theorem exists_declaredPlace?_of_isContinued (h : grammar.IsContinued text name) :
    ∃ location, grammar.declaredPlace? text name = some location := by
  rcases h with ⟨declaration, declared, htoken, hdeclared, _⟩
  refine ⟨namePlace text name declared, ?_⟩
  simp [declaredPlace?, declaration?, htoken, hdeclared]

/-- The locations of token declarations are counted from 1. -/
theorem IsFaithful.pos_of_token? (hfaithful : grammar.IsFaithful text)
    {declaration : NameDeclaration} (htoken : grammar.token? name = some declaration)
    (hlocation : declaration.location = some location) :
    0 < location.line ∧ 0 < location.column := by
  rcases mem_of_token? htoken with ⟨hmem, hname⟩
  cases hfirst : declaration.names.head? with
  | none =>
    rw [List.head?_eq_none_iff.mp hfirst] at hname
    cases hname
  | some first => exact (hfaithful.first_at declaration hmem location hlocation first hfirst).pos

/-- The place of a name on a line counts from 1 if the location of the declaration does. -/
theorem namePlace_pos (text name : String) (h : 0 < location.line ∧ 0 < location.column) :
    0 < (namePlace text name location).line ∧ 0 < (namePlace text name location).column := by
  unfold namePlace
  cases nameColumn? text name location with
  | none => exact h
  | some column => exact ⟨h.1, Nat.succ_pos _⟩

/-- The declaring place of a name is counted from 1. -/
theorem IsFaithful.pos_of_declaredPlace? (hfaithful : grammar.IsFaithful text)
    (h : grammar.declaredPlace? text name = some location) :
    0 < location.line ∧ 0 < location.column := by
  rcases declaredPlace?_cases h with
    ⟨declaration, declared, htoken, hdeclared, rfl⟩ | ⟨_, rule, hrule, _, hlocation⟩
  · exact namePlace_pos text name (hfaithful.pos_of_token? htoken hdeclared)
  · exact (hfaithful.rule_at rule hrule location hlocation).pos

/-- The declaring place of a name is one of its places exactly if its declaration is not
continued. -/
theorem IsFaithful.isPlaceOf_declaredPlace?_iff (hfaithful : grammar.IsFaithful text)
    (hbounded : IsBounded text) (h : grammar.declaredPlace? text name = some location) :
    IsPlaceOf text name location ↔ ¬ grammar.IsContinued text name := by
  rcases declaredPlace?_cases h with
    ⟨declaration, declared, htoken, hdeclared, rfl⟩ | ⟨htoken, rule, hrule, rfl, hlocation⟩
  · have hpos := hfaithful.pos_of_token? htoken hdeclared
    rcases namePlace_cases hbounded name declared with ⟨column, hle, hstands, heq⟩ | ⟨hnone, heq⟩
    · refine iff_of_true ?_ ?_
      · refine ⟨declared.line - 1, column, hstands, ?_⟩
        rw [heq, locationOf, Nat.sub_add_cancel hpos.1]
      · rintro ⟨declaration', declared', htoken', hdeclared', hnone⟩
        rw [htoken, Option.some.injEq] at htoken'
        subst htoken'
        rw [hdeclared, Option.some.injEq] at hdeclared'
        subst hdeclared'
        exact hnone column hle hstands
    · refine iff_of_false ?_ (not_not_intro ⟨declaration, declared, htoken, hdeclared, hnone⟩)
      rw [heq]
      rintro ⟨index, column, hstands, rfl⟩
      exact hnone column le_rfl hstands
  · refine iff_of_true (hfaithful.rule_at rule hrule location hlocation) ?_
    rintro ⟨declaration, _, htoken', _⟩
    rw [htoken] at htoken'
    cases htoken'

end Grammar

/-! ## References -/

/-- With the declaration, all references cover the name exactly if its declaration is not
continued. -/
theorem Grammar.IsFaithful.forall_listedPlaces_iff {grammar : Grammar} {text : String}
    (hfaithful : grammar.IsFaithful text) (hbounded : IsBounded text) (name : String) :
    (∀ location ∈ grammar.listedPlaces text name true,
        CoversWord text name (rangeFrom name location)) ↔
      ¬ grammar.IsContinued text name := by
  constructor
  · intro h hcontinued
    rcases exists_declaredPlace?_of_isContinued hcontinued with ⟨location, hlocation⟩
    have hmem : location ∈ grammar.listedPlaces text name true := by
      rw [mem_listedPlaces_iff, if_pos hlocation]
    rcases hfaithful.pos_of_declaredPlace? hlocation with ⟨hline, hcolumn⟩
    have hplace := (coversWord_iff_isPlaceOf hbounded hline hcolumn).mp (h location hmem)
    exact (hfaithful.isPlaceOf_declaredPlace?_iff hbounded hlocation).mp hplace hcontinued
  · intro h location hmem
    refine (isPlaceOf_of_mem_listedPlaces hbounded ?_ hmem).coversWord hbounded
    intro _ hlocation
    exact (hfaithful.isPlaceOf_declaredPlace?_iff hbounded hlocation).mpr h

/-! ## Answers -/

namespace Document

/-- The grammar of a document, if there is one, has right locations. -/
def IsFaithful (document : Document) : Prop :=
  ∀ grammar, document.grammar = some grammar → grammar.IsFaithful document.text

/-- A range covers one whole-word match of the name under a position. -/
def PointsAtName (document : Document) (position : Position) (range : Range) : Prop :=
  ∃ use, document.nameAt? position = some use ∧ CoversWord document.text use.name range

/-- The name under a position is a token whose declaration is continued. -/
def NameIsContinued (document : Document) (position : Position) : Prop :=
  ∃ use, document.nameAt? position = some use ∧ use.grammar.IsContinued document.text use.name

variable {document : Document} {position : Position} {use : NameInUse}

theorem pointsAtName_iff (h : document.nameAt? position = some use) {range : Range} :
    document.PointsAtName position range ↔ CoversWord document.text use.name range := by
  simp [PointsAtName, h]

theorem nameIsContinued_iff (h : document.nameAt? position = some use) :
    document.NameIsContinued position ↔ use.grammar.IsContinued document.text use.name := by
  simp [NameIsContinued, h]

end Document

/-- With right locations from the engine, references without the declaration always point
at the name under the cursor.  The definition, the references with the declaration and the
edits of a rename do so exactly if the name's declaration is not continued.  The text is
bounded, so that all its places have locations. -/
theorem answers_point_at_name_iff (document : Document) (hbounded : IsBounded document.text)
    (hfaithful : document.IsFaithful) (position : Position) :
    (∀ place, document.definition? position = .ok (some place) →
      (document.PointsAtName position place.range ↔ ¬ document.NameIsContinued position)) ∧
    (∀ places, document.references position false = .ok places →
      ∀ place ∈ places, document.PointsAtName position place.range) ∧
    (∀ places, document.references position true = .ok places →
      ((∀ place ∈ places, document.PointsAtName position place.range) ↔
        ¬ document.NameIsContinued position)) ∧
    (∀ newName edit, document.rename? position newName = .ok (some edit) →
      ((∀ change ∈ edit.edits, document.PointsAtName position change.range) ↔
        ¬ document.NameIsContinued position)) := by
  refine ⟨?_, ?_, ?_, ?_⟩
  · intro place h
    rcases eq_of_definition? h with ⟨use, location, huse, hlocation, _, rfl⟩
    replace hlocation := (Grammar.declarationLocation?_eq_ok_iff.mp hlocation).2.symm
    have hgrammar := hfaithful _ (of_nameAt? huse).1
    rcases hgrammar.pos_of_declaredPlace? hlocation with ⟨hline, hcolumn⟩
    rw [Document.pointsAtName_iff huse, Document.nameIsContinued_iff huse,
      coversWord_iff_isPlaceOf hbounded hline hcolumn,
      hgrammar.isPlaceOf_declaredPlace?_iff hbounded hlocation]
  · intro places h place hmem
    rcases eq_of_references h with ⟨_, rfl⟩ | ⟨use, huse, rfl⟩
    · cases hmem
    · rcases List.mem_map.mp hmem with ⟨location, hlocation, rfl⟩
      rw [Document.pointsAtName_iff huse]
      refine (Grammar.isPlaceOf_of_mem_listedPlaces hbounded ?_ hlocation).coversWord hbounded
      intro hfalse
      cases hfalse
  · intro places h
    rcases eq_of_references h with ⟨hnone, rfl⟩ | ⟨use, huse, rfl⟩
    · refine iff_of_true (fun _ hmem => absurd hmem List.not_mem_nil) ?_
      rintro ⟨use, huse, _⟩
      rw [hnone] at huse
      cases huse
    · have hgrammar := hfaithful _ (of_nameAt? huse).1
      rw [Document.nameIsContinued_iff huse, ← hgrammar.forall_listedPlaces_iff hbounded]
      simp only [List.forall_mem_map, Document.pointsAtName_iff huse]
  · intro newName edit h
    rcases eq_of_rename? h with ⟨use, huse, _, rfl⟩
    have hgrammar := hfaithful _ (of_nameAt? huse).1
    rw [Document.nameIsContinued_iff huse, ← hgrammar.forall_listedPlaces_iff hbounded]
    simp only [List.forall_mem_map, Document.pointsAtName_iff huse]

/-! ## A continued declaration -/

/-- A grammar whose only token declaration has its second name on a line of its own. -/
def continuedGrammar : Grammar where
  declarations := [.token { names := ["A", "B"], location := some ⟨1, 8⟩ }]
  rules := [{ name := "s", location := some ⟨4, 1⟩ }]

/-- The document of that grammar. -/
def continuedDocument : Document where
  uri := { scheme := "file", authority := some {}, path := .segments ["g.y"] }
  text := "%token A\n  B\n%%\ns: A B ;\n"
  version := 1
  grammar := some continuedGrammar

/-- The locations of the document are right. -/
theorem isFaithful_continuedDocument : continuedDocument.IsFaithful := by
  intro grammar hgrammar
  obtain rfl := Option.some.inj hgrammar
  refine ⟨?_, ?_, ?_⟩
  · intro rule hrule location hlocation
    obtain rfl := List.mem_singleton.mp hrule
    obtain rfl := Option.some.inj hlocation
    exact ⟨3, 0, by decide, rfl⟩
  · intro declaration hmem location hlocation first hfirst
    obtain rfl := List.mem_singleton.mp hmem
    obtain rfl := Option.some.inj hlocation
    obtain rfl := Option.some.inj hfirst
    exact ⟨0, 7, by decide, rfl⟩
  · intro declaration hmem location hlocation name hname
    obtain rfl := List.mem_singleton.mp hmem
    obtain rfl := Option.some.inj hlocation
    obtain rfl := List.mem_singleton.mp hname
    exact ⟨⟨2, 3⟩, ⟨1, 2, by decide, rfl⟩, .inl (by decide)⟩

theorem isBounded_continuedDocument : IsBounded continuedDocument.text := by
  constructor <;> decide

/-- The second name does not stand on the line of its declaration. -/
theorem not_standsAt_continuedDocument (column : Nat) :
    ¬ StandsAt (lines continuedDocument.text) "B" 0 column := by
  rintro ⟨line, hget, hwhole⟩
  have hline : (lines continuedDocument.text)[0]? = some "%token A".toList := by decide
  rw [hline, Option.some.injEq] at hget
  subst hget
  have hmem := mem_wholeWordColumns.mpr hwhole
  have hnone : wholeWordColumns "%token A".toList "B".toList = [] := by decide
  rw [hnone] at hmem
  cases hmem

theorem nameAt?_continuedDocument :
    continuedDocument.nameAt? ⟨3, 5⟩ = some ⟨continuedGrammar, "B"⟩ := by
  have hfound : wordAt? continuedDocument.text ⟨3, 5⟩ =
      some ⟨"B", ⟨⟨3, 5⟩, ⟨3, 6⟩⟩⟩ := by decide
  exact nameAt?_of_wordAt? rfl hfound

/-- The edits that rename the second name of the document. -/
def continuedEdits : List TextEdit :=
  [⟨⟨⟨0, 7⟩, ⟨0, 8⟩⟩, "C"⟩, ⟨⟨⟨3, 5⟩, ⟨3, 6⟩⟩, "C"⟩]

theorem rename?_continuedDocument :
    continuedDocument.rename? ⟨3, 5⟩ "C" = .ok (some ⟨continuedDocument.uri, continuedEdits⟩) := by
  decide

/-- Renaming the second name of the document overwrites the first one. -/
theorem not_forall_continuedEdits_pointsAtName :
    continuedDocument.NameIsContinued ⟨3, 5⟩ ∧
      ¬ ∀ change ∈ continuedEdits, continuedDocument.PointsAtName ⟨3, 5⟩ change.range := by
  have hcontinued : continuedDocument.NameIsContinued ⟨3, 5⟩ := by
    refine ⟨_, nameAt?_continuedDocument, ⟨["A", "B"], none, some ⟨1, 8⟩⟩, ⟨1, 8⟩, ?_, rfl, ?_⟩
    · decide
    · intro column _
      exact not_standsAt_continuedDocument column
  refine ⟨hcontinued, ?_⟩
  intro hall
  have hanswers := answers_point_at_name_iff continuedDocument isBounded_continuedDocument
    isFaithful_continuedDocument ⟨3, 5⟩
  exact (hanswers.2.2.2 "C" _ rename?_continuedDocument).mp hall hcontinued

/-- Right locations from the engine do not make every edit of a rename point at the name. -/
theorem not_rename_points_at_name :
    ¬ ∀ (document : Document) (position : Position) (newName : String) (edit : WorkspaceEdit),
      document.IsFaithful → document.rename? position newName = .ok (some edit) →
        ∀ change ∈ edit.edits, document.PointsAtName position change.range := by
  intro hall
  have hpoints := hall continuedDocument ⟨3, 5⟩ "C" _ isFaithful_continuedDocument
    rename?_continuedDocument ⟨⟨⟨0, 7⟩, ⟨0, 8⟩⟩, "C"⟩ List.mem_cons_self
  obtain ⟨index, column, hstands, hrange⟩ :=
    (Document.pointsAtName_iff nameAt?_continuedDocument).mp hpoints
  rcases Position.mk.inj (Range.mk.inj hrange).1 with ⟨rfl, _⟩
  exact not_standsAt_continuedDocument column hstands

end GrammarServer
