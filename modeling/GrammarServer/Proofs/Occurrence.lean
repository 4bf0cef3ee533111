import GrammarServer.Feature.References
import GrammarServer.Proofs.WholeWord

/-!
# Where a name stands

A name stands at a location of a text if it is a whole word there.  The search through
rule bodies finds exactly the locations in the bodies at which the name stands, and the
references of a name list every such location once.  A location is made of coordinates, so
the search breaks off at a place that cannot be counted from 1, and it loses track of the
places past the largest coordinate.  Both do not happen in a text that is bounded.

Main results:

- Theorem `Grammar.references_eq_ok_iff`: when the references of a name come out, and what they
  are.
- Theorem `Grammar.references_of_isBounded`: in a bounded text they always do.
- Theorem `mem_places_iff`: the occurrences of a name are its places in rule bodies.
- Theorem `nodup_listPlaces`: no reference is listed twice.
- Theorem `mem_listedPlaces_iff`: the references are the occurrences and the declaration.
- Theorems `eq_of_definition?`, `eq_of_references` and `eq_of_rename?`: the answers about a
  name are made of its ranges.
- Theorem `coversWord_iff_isPlaceOf`: a name covers the range from a location exactly if it
  stands there.
-/

namespace GrammarServer

open Text

/-! ## Standing at a location -/

/-- The name is a whole word at column `column` of line `index`, both counted from 0. -/
def StandsAt (lines : List Line) (name : String) (index column : Nat) : Prop :=
  ∃ line, lines[index]? = some line ∧ isWholeWordAt line name.toList column = true

instance (lines : List Line) (name : String) (index column : Nat) :
    Decidable (StandsAt lines name index column) :=
  decidable_of_iff (lines[index]?.any (isWholeWordAt · name.toList column) = true)
    (Option.any_eq_true _ _)

/-- The engine's location for column `column` of line `index`. -/
def locationOf (index column : Nat) : Location :=
  ⟨index + 1, column + 1⟩

/-- A location of a text at which a name stands. -/
def IsPlaceOf (text name : String) (location : Location) : Prop :=
  ∃ index column, StandsAt (lines text) name index column ∧ location = locationOf index column

/-- A range of a text that covers one whole-word match of a name and nothing else. -/
def CoversWord (text name : String) (range : Range) : Prop :=
  ∃ index column, StandsAt (lines text) name index column ∧
    range = ⟨⟨index, column⟩, ⟨index, column + name.length⟩⟩

@[simp]
theorem toPosition_locationOf (index column : Nat) :
    (locationOf index column).toPosition = ⟨index, column⟩ := rfl

/-- A location counted from 1 is the location of its position. -/
theorem locationOf_pred {location : Location} (hline : 0 < location.line)
    (hcolumn : 0 < location.column) :
    locationOf (location.line - 1) (location.column - 1) = location := by
  rcases location with ⟨line, column⟩
  simp only [locationOf, Location.mk.injEq]
  simp only at hline hcolumn
  omega

/-- The places of a name are counted from 1. -/
theorem IsPlaceOf.pos {text name : String} {location : Location}
    (h : IsPlaceOf text name location) : 0 < location.line ∧ 0 < location.column := by
  rcases h with ⟨index, column, _, rfl⟩
  exact ⟨Nat.succ_pos index, Nat.succ_pos column⟩

/-- The range of a name that starts at a location. -/
def rangeFrom (name : String) (location : Location) : Range :=
  ⟨location.toPosition,
    ⟨location.toPosition.line, location.toPosition.character + toCoordinate name.length⟩⟩

/-- The range of a name, if it can be written, starts at the location. -/
theorem eq_rangeFrom_of_nameRange {name : String} {location : Location} {range : Range}
    (h : nameRange location name = .ok range) : range = rangeFrom name location :=
  (Position.span_eq_ok_iff.mp h).2

/-- The ranges of several locations are those of the single ones, in order. -/
theorem eq_map_rangeFrom_of_nameRanges {name : String} {locations : List Location}
    {ranges : List Range} (h : nameRanges name locations = .ok ranges) :
    ranges = locations.map (rangeFrom name) := by
  unfold nameRanges at h
  induction locations generalizing ranges with
  | nil =>
    cases h
    rfl
  | cons location rest ih =>
    rcases collect_cons_eq_ok_iff.mp h with ⟨range, others, hrange, hothers, rfl⟩
    rw [eq_rangeFrom_of_nameRange hrange, ih hothers, List.map_cons]

/-! ## Texts whose places can be written -/

/-- A text in which every line and every column can be written, counted from 1. -/
structure Text.IsBounded (text : String) : Prop where
  lines_lt : (lines text).length < maxCoordinate
  length_lt : ∀ line ∈ lines text, line.length < maxCoordinate

section Bounded

variable {text name : String} (hbounded : IsBounded text)
include hbounded

/-- The line of a name can be counted from 1. -/
theorem Text.IsBounded.index_lt {index column : Nat}
    (h : StandsAt (lines text) name index column) : index < maxCoordinate := by
  rcases h with ⟨line, hline, _⟩
  have hindex : index < (lines text).length := (List.getElem?_eq_some_iff.mp hline).1
  have hlines := hbounded.lines_lt
  omega

/-- The column after a name can be written. -/
theorem Text.IsBounded.column_lt {index column : Nat}
    (h : StandsAt (lines text) name index column) : column + name.length < maxCoordinate := by
  rcases h with ⟨line, hline, hwhole⟩
  have hroom := add_length_le_of_isWholeWordAt hwhole
  have hlength := hbounded.length_lt line (List.mem_of_getElem? hline)
  rw [String.length_toList] at hroom
  omega

/-- The length of a name that stands somewhere can be written. -/
theorem toCoordinate_length_of_standsAt {index column : Nat}
    (h : StandsAt (lines text) name index column) : toCoordinate name.length = name.length := by
  have hlt := hbounded.column_lt h
  exact toCoordinate_of_le (by omega)

/-- A range from a location covers the name exactly if the name stands there. -/
theorem coversWord_iff_isPlaceOf {location : Location} (hline : 0 < location.line)
    (hcolumn : 0 < location.column) :
    CoversWord text name (rangeFrom name location) ↔ IsPlaceOf text name location := by
  constructor
  · rintro ⟨index, column, hstands, hrange⟩
    simp only [rangeFrom, Location.toPosition, Range.mk.injEq, Position.mk.injEq] at hrange
    rcases hrange with ⟨⟨rfl, rfl⟩, _⟩
    exact ⟨_, _, hstands, (locationOf_pred hline hcolumn).symm⟩
  · rintro ⟨index, column, hstands, rfl⟩
    refine ⟨index, column, hstands, ?_⟩
    rw [rangeFrom, toPosition_locationOf, toCoordinate_length_of_standsAt hbounded hstands]

/-- A name covers its range wherever it stands. -/
theorem IsPlaceOf.coversWord {location : Location} (h : IsPlaceOf text name location) :
    CoversWord text name (rangeFrom name location) :=
  (coversWord_iff_isPlaceOf hbounded h.pos.1 h.pos.2).mpr h

end Bounded

/-! ## Locations that can be written -/

/-- The location of a place of a text whose line and column, counted from 0, are cut to
coordinates. -/
def cutLocation (index column : Nat) : Location :=
  locationOf (toCoordinate index) (toCoordinate column)

/-- Cut to a coordinate, a count can still be raised by 1. -/
def HasNext (count : Nat) : Prop :=
  toCoordinate count + 1 ≤ maxCoordinate

/-- A place has a location exactly if its line and its column can be counted from 1. -/
theorem locationAt_eq_ok_iff {index column : Nat} {location : Location} :
    locationAt index column = .ok location ↔
      (HasNext index ∧ HasNext column) ∧ location = cutLocation index column :=
  bind_eq_ok_iff_and (fun _ => coordinateSum_eq_ok_iff) fun _ =>
    bind_pure_eq_ok_iff fun _ => coordinateSum_eq_ok_iff

/-- Where a name is placed on the line of a declaration, if its column can be counted
from 1. -/
def namePlace (text name : String) (location : Location) : Location :=
  match nameColumn? text name location with
  | none => location
  | some column => ⟨location.line, toCoordinate column + 1⟩

/-- The column of a name on the line of a declaration can be counted from 1. -/
def PlaceFits (text name : String) (location : Location) : Prop :=
  ∀ column ∈ nameColumn? text name location, HasNext column

/-- A name has a place on the line of a declaration exactly if its column can be counted
from 1. -/
theorem nameLocation_eq_ok_iff {text name : String} {location place : Location} :
    nameLocation text name location = .ok place ↔
      PlaceFits text name location ∧ place = namePlace text name location := by
  unfold nameLocation PlaceFits namePlace
  cases nameColumn? text name location with
  | none => exact ok_eq_ok_iff (by simp)
  | some column =>
    simp only [Option.mem_some_iff, forall_eq']
    exact bind_pure_eq_ok_iff fun _ => coordinateSum_eq_ok_iff

/-! ## Occurrences in rule bodies -/

/-- Line `index` belongs to the body of a rule, from the rule's own line to the first line
with a semicolon. -/
def Rule.HasLine (rule : Rule) (lines : List Line) (index : Nat) : Prop :=
  ∃ location, rule.location = some location ∧ location.line - 1 ≤ index ∧
    index ≤ bodyEnd lines (location.line - 1)

/-- The numbers of lines increase. -/
theorem pairwise_zipIdx (lines : List Line) :
    lines.zipIdx.Pairwise fun first second => first.2 < second.2 := by
  rw [← List.pairwise_map, List.zipIdx_map_snd]
  exact List.pairwise_lt_range'

/-- The lines of a block with their numbers. -/
theorem mem_drop_zipIdx_take_iff {lines : List Line} {start stop index : Nat} {line : Line} :
    (line, index) ∈ (lines.take (stop + 1)).zipIdx.drop start ↔
      lines[index]? = some line ∧ start ≤ index ∧ index ≤ stop := by
  rw [List.mem_iff_getElem?]
  constructor
  · rintro ⟨offset, hget⟩
    rw [List.getElem?_drop, List.getElem?_zipIdx, Option.map_eq_some_iff] at hget
    rcases hget with ⟨_, htake, hpair⟩
    rcases Prod.mk.inj hpair with ⟨rfl, rfl⟩
    rw [List.getElem?_take] at htake
    split at htake
    case isTrue hlt =>
      rw [Nat.zero_add]
      exact ⟨htake, by omega, by omega⟩
    case isFalse => cases htake
  · rintro ⟨hget, hstart, hstop⟩
    refine ⟨index - start, ?_⟩
    rw [List.getElem?_drop, List.getElem?_zipIdx, Nat.add_sub_cancel' hstart,
      List.getElem?_take_of_lt (by omega), hget]
    simp

/-- The matches in a block of lines are the places of the name on these lines. -/
theorem mem_matchesBetween_iff {lines : List Line} {name : String}
    {start stop index column : Nat} :
    (index, column) ∈ Grammar.matchesBetween lines name start stop ↔
      StandsAt lines name index column ∧ start ≤ index ∧ index ≤ stop := by
  simp only [Grammar.matchesBetween, List.mem_flatMap, Prod.exists, mem_drop_zipIdx_take_iff,
    List.mem_map, mem_wholeWordColumns, Prod.mk.injEq]
  constructor
  · rintro ⟨line, _, ⟨hget, hstart, hstop⟩, _, hwhole, rfl, rfl⟩
    exact ⟨⟨line, hget, hwhole⟩, hstart, hstop⟩
  · rintro ⟨⟨line, hget, hwhole⟩, hstart, hstop⟩
    exact ⟨line, index, ⟨hget, hstart, hstop⟩, column, hwhole, rfl, rfl⟩

/-- The matches in a rule's body are the places of the name on the body's lines. -/
theorem mem_bodyMatches_iff {lines : List Line} {name : String} {rule : Rule}
    {index column : Nat} :
    (index, column) ∈ Grammar.bodyMatches lines name rule ↔
      StandsAt lines name index column ∧ rule.HasLine lines index := by
  unfold Grammar.bodyMatches Rule.HasLine
  cases hlocation : rule.location with
  | none => simp
  | some declared =>
    simp only [Option.some.injEq, exists_eq_left']
    split
    case isTrue => exact mem_matchesBetween_iff
    case isFalse hout =>
      -- A body that starts past the last line holds no line of the text.
      refine iff_of_false List.not_mem_nil ?_
      rintro ⟨⟨line, hget, _⟩, hstart, _⟩
      have hlt := (List.getElem?_eq_some_iff.mp hget).1
      omega

namespace Grammar

/-- All matches of a name in the bodies of the rules, each as the number of its line and its
column. -/
def allMatches (grammar : Grammar) (text name : String) : List (Nat × Nat) :=
  grammar.rules.flatMap (bodyMatches (lines text) name)

theorem mem_allMatches_iff {grammar : Grammar} {text name : String} {index column : Nat} :
    (index, column) ∈ grammar.allMatches text name ↔
      StandsAt (lines text) name index column ∧
        ∃ rule ∈ grammar.rules, rule.HasLine (lines text) index := by
  simp only [allMatches, List.mem_flatMap, mem_bodyMatches_iff]
  constructor
  · rintro ⟨rule, hrule, hstands, hline⟩
    exact ⟨hstands, rule, hrule, hline⟩
  · rintro ⟨hstands, rule, hrule, hline⟩
    exact ⟨rule, hrule, hstands, hline⟩

/-- The places of a name in the bodies of the rules, if all of them can be counted from 1. -/
def places (grammar : Grammar) (text name : String) : List Location :=
  (grammar.allMatches text name).map fun (index, column) => cutLocation index column

/-- The place of the declaration of a name, if it can be counted from 1. -/
def declaredPlace? (grammar : Grammar) (text name : String) : Option Location :=
  match grammar.declaration? name with
  | none => none
  | some declaration =>
    match declaration.kind with
    | .rule => declaration.location
    | .token => declaration.location.map (namePlace text name)

/-- The places of a name, each once, if all of them can be counted from 1. -/
def listedPlaces (grammar : Grammar) (text name : String) (withDeclaration : Bool) :
    List Location :=
  listPlaces (grammar.declaredPlace? text name) (grammar.places text name) withDeclaration

/-- All places of a name can be counted from 1. -/
structure PlacesFit (grammar : Grammar) (text name : String) : Prop where
  declared : ∀ declaration ∈ grammar.token? name, ∀ location ∈ declaration.location,
    PlaceFits text name location
  found : ∀ place ∈ grammar.allMatches text name, HasNext place.1 ∧ HasNext place.2

/-- A name has a declaring place, or has none, exactly if this place can be counted from 1. -/
theorem declarationLocation?_eq_ok_iff {grammar : Grammar} {text name : String}
    {found : Option Location} :
    grammar.declarationLocation? text name = .ok found ↔
      (∀ declaration ∈ grammar.token? name, ∀ location ∈ declaration.location,
        PlaceFits text name location) ∧ found = grammar.declaredPlace? text name := by
  unfold declarationLocation? declaredPlace? declaration?
  cases grammar.token? name with
  | some declaration =>
    simp only [Option.mem_some_iff, forall_eq']
    cases declaration.location with
    | none => exact ok_eq_ok_iff (by simp)
    | some location =>
      simp only [Option.mem_some_iff, forall_eq', Option.map_some]
      exact bind_pure_eq_ok_iff fun _ => nameLocation_eq_ok_iff
  | none =>
    cases grammar.rule? name with
    | none => exact ok_eq_ok_iff (by simp)
    | some rule =>
      simp only [Option.map_some]
      cases rule.location with
      | none => exact ok_eq_ok_iff (by simp)
      | some location => exact ok_eq_ok_iff (by simp)

/-- The occurrences of a name come out exactly if all of them can be counted from 1. -/
theorem occurrences_eq_ok_iff {grammar : Grammar} {text name : String}
    {found : List Location} :
    grammar.occurrences text name = .ok found ↔
      (∀ place ∈ grammar.allMatches text name, HasNext place.1 ∧ HasNext place.2) ∧
        found = grammar.places text name :=
  collect_eq_ok_iff_of_computes fun _ _ => locationAt_eq_ok_iff

/-- The references of a name come out exactly if all its places can be counted from 1. -/
theorem references_eq_ok_iff {grammar : Grammar} {text name : String} {withDeclaration : Bool}
    {found : List Location} :
    grammar.references text name withDeclaration = .ok found ↔
      grammar.PlacesFit text name ∧ found = grammar.listedPlaces text name withDeclaration := by
  simp only [references, bind_eq_ok_iff, declarationLocation?_eq_ok_iff, occurrences_eq_ok_iff,
    pure, Except.pure, Except.ok.injEq]
  constructor
  · rintro ⟨_, ⟨hdeclared, rfl⟩, _, ⟨hfound, rfl⟩, rfl⟩
    exact ⟨⟨hdeclared, hfound⟩, rfl⟩
  · rintro ⟨hfits, rfl⟩
    exact ⟨_, ⟨hfits.declared, rfl⟩, _, ⟨hfits.found, rfl⟩, rfl⟩

/-! ## Places in a bounded text -/

section Bounded

variable {grammar : Grammar} {text name : String} (hbounded : IsBounded text)
include hbounded

/-- A place in a bounded text can be counted from 1, and its location is its own. -/
theorem cutLocation_of_standsAt {index column : Nat}
    (h : StandsAt (lines text) name index column) :
    (HasNext index ∧ HasNext column) ∧ cutLocation index column = locationOf index column := by
  have hindex := hbounded.index_lt h
  have hcolumn := hbounded.column_lt h
  have hindex' : toCoordinate index = index := toCoordinate_of_le (by omega)
  have hcolumn' : toCoordinate column = column := toCoordinate_of_le (by omega)
  rw [HasNext, HasNext, cutLocation, hindex', hcolumn']
  exact ⟨⟨by omega, by omega⟩, rfl⟩

/-- The column of a name on the line of a declaration is one at which it stands. -/
theorem placeFits_of_isBounded (name : String) (location : Location) :
    PlaceFits text name location := by
  intro column hcolumn
  obtain ⟨line, hline, hfind⟩ := Option.bind_eq_some_iff.mp hcolumn
  have hwhole := mem_wholeWordColumns.mp (List.mem_of_find?_eq_some hfind)
  exact (cutLocation_of_standsAt hbounded ⟨line, hline, hwhole⟩).1.2

/-- In a bounded text a name always has a place on the line of a declaration. -/
theorem nameLocation_of_isBounded (name : String) (location : Location) :
    nameLocation text name location = .ok (namePlace text name location) :=
  nameLocation_eq_ok_iff.mpr ⟨placeFits_of_isBounded hbounded name location, rfl⟩

/-- In a bounded text all places of a name can be counted from 1. -/
theorem placesFit_of_isBounded (grammar : Grammar) (name : String) :
    grammar.PlacesFit text name where
  declared := fun _ _ location _ => placeFits_of_isBounded hbounded name location
  found := fun _ hplace => (cutLocation_of_standsAt hbounded (mem_allMatches_iff.mp hplace).1).1

/-- In a bounded text the declaring place of a name always comes out. -/
theorem declarationLocation?_of_isBounded (grammar : Grammar) (name : String) :
    grammar.declarationLocation? text name = .ok (grammar.declaredPlace? text name) :=
  declarationLocation?_eq_ok_iff.mpr
    ⟨(placesFit_of_isBounded hbounded grammar name).declared, rfl⟩

/-- In a bounded text the references of a name always come out. -/
theorem references_of_isBounded (grammar : Grammar) (name : String) (withDeclaration : Bool) :
    grammar.references text name withDeclaration =
      .ok (grammar.listedPlaces text name withDeclaration) :=
  references_eq_ok_iff.mpr ⟨placesFit_of_isBounded hbounded grammar name, rfl⟩

/-- In a bounded text the occurrences of a name are its places in the bodies of the rules. -/
theorem mem_places_iff {location : Location} :
    location ∈ grammar.places text name ↔
      ∃ index column, StandsAt (lines text) name index column ∧
        (∃ rule ∈ grammar.rules, rule.HasLine (lines text) index) ∧
        location = locationOf index column := by
  simp only [places, List.mem_map, Prod.exists, mem_allMatches_iff]
  constructor
  · rintro ⟨index, column, ⟨hstands, hrule⟩, rfl⟩
    exact ⟨index, column, hstands, hrule, (cutLocation_of_standsAt hbounded hstands).2⟩
  · rintro ⟨index, column, hstands, hrule, rfl⟩
    exact ⟨index, column, ⟨hstands, hrule⟩, (cutLocation_of_standsAt hbounded hstands).2⟩

/-- A name stands at all its occurrences. -/
theorem isPlaceOf_of_mem_places {location : Location}
    (h : location ∈ grammar.places text name) : IsPlaceOf text name location := by
  rcases (mem_places_iff hbounded).mp h with ⟨index, column, hstands, _, hlocation⟩
  exact ⟨index, column, hstands, hlocation⟩

end Bounded

/-! ## References -/

/-- The distinct locations are those listed that were not seen before. -/
theorem mem_distinct_iff {seen list : List Location} {location : Location} :
    location ∈ distinct seen list ↔ location ∈ list ∧ location ∉ seen := by
  induction list generalizing seen with
  | nil => simp [distinct]
  | cons first rest ih =>
    unfold distinct
    split
    case isTrue hseen =>
      rw [List.contains_iff_mem] at hseen
      rw [ih]
      constructor
      · rintro ⟨hmem, hnot⟩
        exact ⟨List.mem_cons_of_mem first hmem, hnot⟩
      · rintro ⟨hmem, hnot⟩
        rcases List.mem_cons.mp hmem with rfl | hmem
        · exact absurd hseen hnot
        · exact ⟨hmem, hnot⟩
    case isFalse hseen =>
      rw [List.contains_iff_mem] at hseen
      rw [List.mem_cons, ih, List.mem_cons, List.mem_cons]
      by_cases heq : location = first
      · subst heq
        simp [hseen]
      · simp [heq]

/-- Distinct locations are distinct. -/
theorem nodup_distinct (seen list : List Location) : (distinct seen list).Nodup := by
  induction list generalizing seen with
  | nil => exact List.nodup_nil
  | cons first rest ih =>
    unfold distinct
    split
    · exact ih seen
    · rw [List.nodup_cons]
      refine ⟨?_, ih _⟩
      intro hmem
      exact (mem_distinct_iff.mp hmem).2 List.mem_cons_self

/-- The references of a name are its occurrences and its declaration; without the
declaration, the declaring place is left out. -/
theorem mem_listedPlaces_iff {grammar : Grammar} {text name : String} {withDeclaration : Bool}
    {location : Location} :
    location ∈ grammar.listedPlaces text name withDeclaration ↔
      if grammar.declaredPlace? text name = some location then withDeclaration = true
      else location ∈ grammar.places text name := by
  unfold listedPlaces listPlaces
  cases hdeclared : grammar.declaredPlace? text name with
  | none => simp [mem_distinct_iff]
  | some declared =>
    by_cases heq : declared = location
    · subst heq
      cases withDeclaration <;> simp [mem_distinct_iff]
    · have hne : location ≠ declared := fun h => heq h.symm
      cases withDeclaration <;> simp [mem_distinct_iff, heq, hne]

/-- All references are places of the name if the declaring one, where it is listed, is. -/
theorem isPlaceOf_of_mem_listedPlaces {grammar : Grammar} {text name : String}
    {withDeclaration : Bool} {location : Location} (hbounded : IsBounded text)
    (hdeclared : withDeclaration = true → grammar.declaredPlace? text name = some location →
      IsPlaceOf text name location)
    (h : location ∈ grammar.listedPlaces text name withDeclaration) :
    IsPlaceOf text name location := by
  rw [mem_listedPlaces_iff] at h
  split at h
  case isTrue hlocation => exact hdeclared h hlocation
  case isFalse => exact isPlaceOf_of_mem_places hbounded h

/-- No reference is listed twice. -/
theorem nodup_listPlaces (declared : Option Location) (found : List Location)
    (withDeclaration : Bool) : (listPlaces declared found withDeclaration).Nodup := by
  unfold listPlaces
  cases declared with
  | none => exact nodup_distinct [] _
  | some declared =>
    cases withDeclaration with
    | false => exact nodup_distinct [declared] _
    | true =>
      refine List.nodup_cons.mpr ⟨?_, nodup_distinct [declared] _⟩
      intro hmem
      exact (mem_distinct_iff.mp hmem).2 List.mem_cons_self

end Grammar

/-! ## Answers -/

/-- The name in use belongs to the document's grammar, and it is an identifier that stands
on the line of the position. -/
theorem of_nameAt? {document : Document} {position : Position} {use : NameInUse}
    (h : document.nameAt? position = some use) :
    document.grammar = some use.grammar ∧ IsIdentifier use.name.toList ∧
      ∃ column, StandsAt (lines document.text) use.name position.line column := by
  simp only [Document.nameAt?, Option.bind_eq_bind, Option.bind_eq_some_iff, Option.pure_def,
    Option.some.injEq] at h
  rcases h with ⟨grammar, hgrammar, found, hfound, rfl⟩
  rcases isWholeWordAt_of_wordAt? hfound with ⟨hname, line, start, hget, hwhole, _⟩
  exact ⟨hgrammar, hname, start, line, hget, hwhole⟩

/-- The word under a position is the name in use if the document has a grammar. -/
theorem nameAt?_of_wordAt? {document : Document} {position : Position} {grammar : Grammar}
    {found : WordAt} (hgrammar : document.grammar = some grammar)
    (hfound : wordAt? document.text position = some found) :
    document.nameAt? position = some ⟨grammar, found.word⟩ := by
  simp [Document.nameAt?, hgrammar, hfound]

/-- A definition is the range of the name from its declaration. -/
theorem eq_of_definition? {document : Document} {position : Position} {place : Place}
    (h : document.definition? position = .ok (some place)) :
    ∃ use location, document.nameAt? position = some use ∧
      use.grammar.declarationLocation? document.text use.name = .ok (some location) ∧
      nameRange location use.name = .ok place.range ∧
      place = ⟨document.uri, rangeFrom use.name location⟩ := by
  unfold Document.definition? at h
  cases huse : document.nameAt? position with
  | none => simp [huse] at h
  | some use =>
    simp only [huse, bind_eq_ok_iff] at h
    obtain ⟨_ | location, hdeclared, h⟩ := h
    · cases h
    · obtain ⟨range, hrange, hplace⟩ := bind_eq_ok_iff.mp h
      obtain rfl := Option.some.inj (Except.ok.inj hplace)
      exact ⟨use, location, rfl, hdeclared, hrange, by rw [eq_rangeFrom_of_nameRange hrange]⟩

/-- The references are the ranges of the name from its places. -/
theorem eq_of_references {document : Document} {position : Position} {withDeclaration : Bool}
    {places : List Place} (h : document.references position withDeclaration = .ok places) :
    (document.nameAt? position = none ∧ places = []) ∨
      ∃ use, document.nameAt? position = some use ∧
        places = (use.grammar.listedPlaces document.text use.name withDeclaration).map
          fun location => ⟨document.uri, rangeFrom use.name location⟩ := by
  unfold Document.references at h
  cases huse : document.nameAt? position with
  | none =>
    simp only [huse, Except.ok.injEq] at h
    exact .inl ⟨rfl, h.symm⟩
  | some use =>
    simp only [huse, bind_eq_ok_iff] at h
    obtain ⟨locations, hlocations, ranges, hranges, hplaces⟩ := h
    obtain ⟨_, rfl⟩ := Grammar.references_eq_ok_iff.mp hlocations
    obtain rfl := Except.ok.inj hplaces
    refine .inr ⟨use, rfl, ?_⟩
    rw [eq_map_rangeFrom_of_nameRanges hranges, List.map_map]
    rfl

/-- A rename writes a valid new name at every reference and at the declaration. -/
theorem eq_of_rename? {document : Document} {position : Position} {newName : String}
    {edit : WorkspaceEdit} (h : document.rename? position newName = .ok (some edit)) :
    ∃ use, document.nameAt? position = some use ∧
      use.grammar.isValidRename use.name newName = true ∧
      edit = ⟨document.uri, (use.grammar.listedPlaces document.text use.name true).map
        fun location => ⟨rangeFrom use.name location, newName⟩⟩ := by
  unfold Document.rename? at h
  cases huse : document.nameAt? position with
  | none => simp [huse] at h
  | some use =>
    cases hvalid : use.grammar.isValidRename use.name newName with
    | false => simp [huse, hvalid] at h
    | true =>
      simp only [huse, hvalid, if_true, bind_eq_ok_iff] at h
      obtain ⟨locations, hlocations, ranges, hranges, hedit⟩ := h
      obtain ⟨_, rfl⟩ := Grammar.references_eq_ok_iff.mp hlocations
      obtain rfl := Option.some.inj (Except.ok.inj hedit)
      refine ⟨use, rfl, hvalid, ?_⟩
      rw [eq_map_rangeFrom_of_nameRanges hranges, List.map_map]
      rfl

end GrammarServer
