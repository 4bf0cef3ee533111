import GrammarServer.Proofs.Occurrence
import Mathlib.Order.Bounds.Basic
import Mathlib.Order.Nat

/-!
# References come in the order of their discovery

The search for the uses of a name goes through the rules in order and through the body of each
rule from its first line on.  Bodies may share lines, so a place can be found many times; it is
listed when it is found first.  The declaring place comes in front of all others if it is asked
for, and else it is passed over.

Main results:

- Theorem `endsBody_bodyEnd`: where the body of a rule ends.
- Theorem `mem_shownPlaces_iff`: what the search finds in the body of a rule.
- Theorem `Grammar.pairwise_distinct`: the distinct elements of a list stand in the order of their
  first occurrences.
- Theorem `Grammar.gatherPlaces_eq`: marking the declaration as seen and passing over it leave
  the same places.
- Theorem `references_are_first_discoveries`: in a bounded text the references of a name without
  its declaration are the places in rule bodies where it stands alone, in the order of their
  discovery.
-/

namespace GrammarServer

open Text

/-! ## Bodies of rules -/

/-- The body that starts on one line ends on another: it is the first line from there on with
a semicolon, or the last line if there is none. -/
def EndsBody (lines : List Line) (start stop : Nat) : Prop :=
  IsLeast {index | start ≤ index ∧ ∃ line, lines[index]? = some line ∧ ';' ∈ line} stop ∨
    (∀ index line, start ≤ index → lines[index]? = some line → ';' ∉ line) ∧
      stop + 1 = lines.length

/-- A word stands at a column of a line with no identifier character on either side.  The empty
word stands nowhere. -/
def StandsAlone (line : Line) (word : List Char) (column : Nat) : Prop :=
  ∃ front rest, line = front ++ (word ++ rest) ∧ front.length = column ∧ word ≠ [] ∧
    EndsFree front ∧ StartsFree rest

/-- The body of a rule has a symbol at a location: a line of the body and a column where the
symbol stands alone, both counted from 1.  A rule without a location has no body, and one that
is located past the last line has none either. -/
def Rule.Shows (rule : Rule) (lines : List Line) (symbol : String) (location : Location) : Prop :=
  ∃ declared stop index line column, rule.location = some declared ∧
    declared.line - 1 < lines.length ∧ EndsBody lines (declared.line - 1) stop ∧
    declared.line - 1 ≤ index ∧ index ≤ stop ∧ lines[index]? = some line ∧
    StandsAlone line symbol.toList column ∧ location = ⟨index + 1, column + 1⟩

section Body

variable {lines : List Line} {start stop : Nat}

/-- A body that starts inside a text ends where the search for its end says. -/
theorem endsBody_bodyEnd (h : start < lines.length) :
    EndsBody lines start (bodyEnd lines start) := by
  unfold bodyEnd
  cases hfind : (lines.drop start).findIdx? (·.contains ';') with
  | none =>
    dsimp only
    right
    refine ⟨?_, by omega⟩
    intro index line hle hget hmem
    rw [List.findIdx?_eq_none_iff] at hfind
    have hdrop : line ∈ lines.drop start := by
      rw [List.mem_iff_getElem?]
      exact ⟨index - start, by rw [List.getElem?_drop, Nat.add_sub_cancel' hle, hget]⟩
    have hnone := hfind line hdrop
    rw [List.contains_eq_mem, decide_eq_false_iff_not] at hnone
    exact hnone hmem
  | some offset =>
    dsimp only
    left
    obtain ⟨hlt, hmem, hbefore⟩ := List.findIdx?_eq_some_iff_getElem.mp hfind
    rw [List.getElem_drop, List.contains_eq_mem, decide_eq_true_eq] at hmem
    refine ⟨⟨Nat.le_add_right _ _, _, List.getElem?_eq_getElem _, hmem⟩, ?_⟩
    rintro index ⟨hle, line, hget, hsemicolon⟩
    by_contra hearlier
    obtain ⟨hindex, rfl⟩ := List.getElem?_eq_some_iff.mp hget
    have hno := hbefore (index - start) (by omega)
    rw [List.getElem_drop] at hno
    simp only [Nat.add_sub_cancel' hle, List.contains_eq_mem, decide_eq_true_eq] at hno
    exact hno hsemicolon

/-- Where the body of a rule ends is determined by its start. -/
theorem EndsBody.unique {other : Nat} (h : EndsBody lines start stop)
    (h' : EndsBody lines start other) : stop = other := by
  rcases h with hleast | ⟨hnone, hlast⟩
  · rcases h' with hleast' | ⟨hnone', _⟩
    · exact hleast.unique hleast'
    · obtain ⟨hle, line, hget, hmem⟩ := hleast.1
      exact absurd hmem (hnone' stop line hle hget)
  · rcases h' with hleast' | ⟨_, hlast'⟩
    · obtain ⟨hle, line, hget, hmem⟩ := hleast'.1
      exact absurd hmem (hnone other line hle hget)
    · omega

/-- The places that the search through the body of a rule finds. -/
def Rule.shownPlaces (rule : Rule) (lines : List Line) (symbol : String) : List Location :=
  (Grammar.bodyMatches lines symbol rule).map fun (index, column) => locationOf index column

/-- The search through the body of a rule finds the places that the body has. -/
theorem mem_shownPlaces_iff {symbol : String} {rule : Rule} {location : Location} :
    location ∈ rule.shownPlaces lines symbol ↔ rule.Shows lines symbol location := by
  simp only [Rule.shownPlaces, List.mem_map, Prod.exists, mem_bodyMatches_iff]
  constructor
  · rintro ⟨index, column, ⟨⟨line, hget, hwhole⟩, declared, hdeclared, hstart, hstop⟩, rfl⟩
    have hlt := (List.getElem?_eq_some_iff.mp hget).1
    have hinside : declared.line - 1 < lines.length := Nat.lt_of_le_of_lt hstart hlt
    exact ⟨declared, _, index, line, column, hdeclared, hinside, endsBody_bodyEnd hinside, hstart,
      hstop, hget, isWholeWordAt_iff.mp hwhole, rfl⟩
  · rintro ⟨declared, stop, index, line, column, hdeclared, hinside, hends, hstart, hstop, hget,
      halone, rfl⟩
    rw [hends.unique (endsBody_bodyEnd hinside)] at hstop
    exact ⟨index, column, ⟨⟨line, hget, isWholeWordAt_iff.mpr halone⟩,
      declared, hdeclared, hstart, hstop⟩, rfl⟩

end Body

/-! ## Places without repetition -/

namespace Grammar

/-- What counts as seen matters only through its elements. -/
theorem distinct_congr {seen seen' : List Location}
    (h : ∀ location, location ∈ seen ↔ location ∈ seen') (list : List Location) :
    distinct seen list = distinct seen' list := by
  induction list generalizing seen seen' with
  | nil => rfl
  | cons first rest ih =>
    have hcontains : seen.contains first = seen'.contains first := by
      rw [Bool.eq_iff_iff, List.contains_iff_mem, List.contains_iff_mem, h first]
    have hlonger : ∀ location, location ∈ first :: seen ↔ location ∈ first :: seen' := by
      intro location
      rw [List.mem_cons, List.mem_cons, h location]
    rw [distinct, distinct, hcontains, ih h, ih hlonger]

/-- The distinct elements of a list stand in the order of their first occurrences. -/
theorem pairwise_distinct (seen list : List Location) :
    (distinct seen list).Pairwise fun first second =>
      ∃ front rest, list = front ++ second :: rest ∧ first ∈ front ∧ second ∉ front := by
  induction list generalizing seen with
  | nil => exact List.Pairwise.nil
  | cons location rest ih =>
    -- A later element differs from the first one, so its first occurrence stays where it is.
    have hshift : ∀ seen', location ∈ seen' → (distinct seen' rest).Pairwise fun first second =>
        ∃ front after, location :: rest = front ++ second :: after ∧ first ∈ front ∧
          second ∉ front := by
      intro seen' hseen
      refine (ih seen').imp_of_mem ?_
      rintro first second _ hsecond ⟨front, after, rfl, hfirst, hnot⟩
      refine ⟨location :: front, after, rfl, List.mem_cons_of_mem location hfirst, ?_⟩
      rw [List.mem_cons, not_or]
      refine ⟨?_, hnot⟩
      rintro rfl
      exact (mem_distinct_iff.mp hsecond).2 hseen
    unfold distinct
    split
    case isTrue hseen => exact hshift seen (List.contains_iff_mem.mp hseen)
    case isFalse hseen =>
      refine List.pairwise_cons.mpr ⟨?_, hshift _ List.mem_cons_self⟩
      intro second hsecond
      obtain ⟨hmem, hnew⟩ := mem_distinct_iff.mp hsecond
      obtain ⟨front, after, rfl, hnot⟩ := List.eq_append_cons_of_mem hmem
      refine ⟨location :: front, after, rfl, List.mem_cons_self, ?_⟩
      rw [List.mem_cons, not_or]
      exact ⟨fun heq => hnew (heq ▸ List.mem_cons_self), hnot⟩

end Grammar

/-! ## Passing over the declaration and marking it as seen -/

/-- A search for references on its way: the places that count as seen and those listed. -/
structure Gathering where
  seen : List Location
  listed : List Location

/-- A search comes to a place: it passes over a place that is not asked for and over those that
it has seen, and lists every other. -/
def Gathering.visit (skipped : Option Location) (state : Gathering) (location : Location) :
    Gathering :=
  if skipped = some location then state
  else if state.seen.contains location then state
  else ⟨location :: state.seen, state.listed ++ [location]⟩

/-- The places of a name, gathered one after the other.  If the declaration is asked for, it is
listed and counts as seen from the start; if not, it is passed over wherever it is found. -/
def gatherPlaces (declared : Option Location) (found : List Location) (withDeclaration : Bool) :
    List Location :=
  if withDeclaration then
    (found.foldl (Gathering.visit none) ⟨declared.toList, declared.toList⟩).listed
  else (found.foldl (Gathering.visit declared) ⟨[], []⟩).listed

/-- A search lists, behind what it has listed already, the new places that it may list. -/
theorem Gathering.listed_foldl_visit (skipped : Option Location) (found : List Location)
    (state : Gathering) :
    (found.foldl (visit skipped) state).listed =
      state.listed ++ Grammar.distinct (skipped.toList ++ state.seen) found := by
  induction found generalizing state with
  | nil => simp [Grammar.distinct]
  | cons location rest ih =>
    rw [List.foldl_cons, ih, Grammar.distinct]
    by_cases hskipped : skipped = some location
    · simp [visit, hskipped]
    by_cases hseen : location ∈ state.seen
    · simp [visit, hskipped, hseen]
    · have hnew : ¬ (skipped.toList ++ state.seen).contains location = true := by
        simp [hskipped, hseen]
      have hvisit : visit skipped state location =
          ⟨location :: state.seen, state.listed ++ [location]⟩ := by
        simp [visit, hskipped, hseen]
      rw [if_neg hnew, hvisit, List.append_assoc, List.singleton_append]
      congr 2
      apply Grammar.distinct_congr
      intro other
      simp only [List.mem_append, List.mem_cons]
      tauto

namespace Grammar

/-- Both ways to treat the declaration leave the same places. -/
theorem gatherPlaces_eq (declared : Option Location) (found : List Location)
    (withDeclaration : Bool) :
    gatherPlaces declared found withDeclaration = listPlaces declared found withDeclaration := by
  unfold gatherPlaces listPlaces
  cases withDeclaration with
  | true =>
    cases declared with
    | none => simp [Gathering.listed_foldl_visit]
    | some declared => simp [Gathering.listed_foldl_visit]
  | false =>
    cases declared with
    | none => simp [Gathering.listed_foldl_visit]
    | some declared => simp [Gathering.listed_foldl_visit]

/-- The declaring place comes before the other places of a name. -/
theorem listPlaces_true_eq_append (declared : Option Location) (found : List Location) :
    listPlaces declared found true = declared.toList ++ listPlaces declared found false := by
  cases declared with
  | none => rfl
  | some declared => rfl

end Grammar

/-! ## The order of discovery -/

/-- One place comes before another in a text. -/
def ComesBefore (first second : Location) : Prop :=
  first.line < second.line ∨ first.line = second.line ∧ first.column < second.column

/-- The number of the first rule whose body has a symbol at a location. -/
def Grammar.FirstShownBy (grammar : Grammar) (text symbol : String) (location : Location)
    (number : Nat) : Prop :=
  IsLeast {number | ∃ rule, grammar.rules[number]? = some rule ∧
    rule.Shows (lines text) symbol location} number

/-- One place of a symbol is discovered before another: by an earlier rule, or by the same rule
and earlier in the text. -/
def Grammar.DiscoveredBefore (grammar : Grammar) (text symbol : String)
    (first second : Location) : Prop :=
  ∃ number number', grammar.FirstShownBy text symbol first number ∧
    grammar.FirstShownBy text symbol second number' ∧
    (number < number' ∨ number = number' ∧ ComesBefore first second)

/-- The matches in a block of lines are found in the order of the text. -/
theorem pairwise_matchesBetween (lines : List Line) (symbol : String) (start stop : Nat) :
    (Grammar.matchesBetween lines symbol start stop).Pairwise fun first second =>
      ComesBefore (locationOf first.1 first.2) (locationOf second.1 second.2) := by
  rw [Grammar.matchesBetween, List.pairwise_flatMap]
  constructor
  · rintro ⟨line, index⟩ _
    have hcolumns : (wholeWordColumns line symbol.toList).Pairwise (· < ·) :=
      List.pairwise_lt_range.filter _
    rw [List.pairwise_map]
    exact hcolumns.imp fun hlt => .inr ⟨rfl, Nat.succ_lt_succ hlt⟩
  · refine (pairwise_zipIdx (lines.take (stop + 1))).drop.imp ?_
    rintro ⟨line, index⟩ ⟨line', index'⟩ hlt first hfirst second hsecond
    obtain ⟨column, _, rfl⟩ := List.mem_map.mp hfirst
    obtain ⟨column', _, rfl⟩ := List.mem_map.mp hsecond
    exact .inl (Nat.succ_lt_succ hlt)

/-- The places in the body of a rule are found in the order of the text. -/
theorem pairwise_shownPlaces (lines : List Line) (symbol : String) (rule : Rule) :
    (rule.shownPlaces lines symbol).Pairwise ComesBefore := by
  rw [Rule.shownPlaces, List.pairwise_map, Grammar.bodyMatches]
  cases rule.location with
  | none => exact List.Pairwise.nil
  | some declared =>
    dsimp only
    split
    · exact pairwise_matchesBetween lines symbol _ _
    · exact List.Pairwise.nil

/-- An element of a joined list belongs to one of its parts, with whole parts before it. -/
theorem exists_part_of_flatMap_eq {α β : Type} {f : α → List β} {list : List α}
    {front rest : List β} {b : β} (h : list.flatMap f = front ++ b :: rest) :
    ∃ before a after inner behind, list = before ++ a :: after ∧ f a = inner ++ b :: behind ∧
      front = before.flatMap f ++ inner := by
  induction list generalizing front with
  | nil => simp at h
  | cons a list ih =>
    have hlater : ∀ inner, list.flatMap f = inner ++ b :: rest → front = f a ++ inner →
        ∃ before a' after inner behind, a :: list = before ++ a' :: after ∧
          f a' = inner ++ b :: behind ∧ front = before.flatMap f ++ inner := by
      rintro inner hlist rfl
      obtain ⟨before, a', after, inner', behind, rfl, hpart, rfl⟩ := ih hlist
      refine ⟨a :: before, a', after, inner', behind, rfl, hpart, ?_⟩
      rw [List.flatMap_cons, List.append_assoc]
    rw [List.flatMap_cons, List.append_eq_append_iff] at h
    rcases h with ⟨inner, hfront, hlist⟩ | ⟨inner, hpart, hlist⟩
    · exact hlater inner hlist hfront
    · cases inner with
      | nil =>
        rw [List.append_nil] at hpart
        exact hlater [] hlist.symm (by rw [List.append_nil, hpart])
      | cons b' behind =>
        obtain ⟨rfl, _⟩ := List.cons.inj hlist
        exact ⟨[], a, list, front, behind, rfl, hpart, rfl⟩

namespace Grammar

variable {grammar : Grammar} {text symbol : String} {before after : List Rule} {rule : Rule}
  {location : Location}

/-- A place that a rule finds and no rule before it does is first found by that rule. -/
theorem firstShownBy_of_not_mem (hrules : grammar.rules = before ++ rule :: after)
    (hmem : location ∈ rule.shownPlaces (lines text) symbol)
    (hnot : location ∉ before.flatMap (·.shownPlaces (lines text) symbol)) :
    grammar.FirstShownBy text symbol location before.length := by
  refine ⟨⟨rule, ?_, mem_shownPlaces_iff.mp hmem⟩, ?_⟩
  · rw [hrules, List.getElem?_append_right (le_refl _), Nat.sub_self, List.getElem?_cons_zero]
  · rintro number ⟨other, hget, hshows⟩
    by_contra hlt
    rw [hrules, List.getElem?_append_left (by omega)] at hget
    refine hnot (List.mem_flatMap.mpr ⟨other, List.mem_of_getElem? hget, ?_⟩)
    exact mem_shownPlaces_iff.mpr hshows

/-- A place that one of several first rules finds is first found by one of them. -/
theorem exists_firstShownBy_lt (hrules : grammar.rules = before ++ after)
    (hmem : location ∈ before.flatMap (·.shownPlaces (lines text) symbol)) :
    ∃ number < before.length, grammar.FirstShownBy text symbol location number := by
  classical
  obtain ⟨finder, hfinder, hfound⟩ := List.mem_flatMap.mp hmem
  obtain ⟨index, hget⟩ := List.mem_iff_getElem?.mp hfinder
  have hindex := (List.getElem?_eq_some_iff.mp hget).1
  have hshown : ∃ rule : Rule, grammar.rules[index]? = some rule ∧
      rule.Shows (lines text) symbol location := by
    refine ⟨finder, ?_, mem_shownPlaces_iff.mp hfound⟩
    rw [hrules, List.getElem?_append_left hindex, hget]
  have hleast := Nat.isLeast_find
    (p := fun number => ∃ rule : Rule, grammar.rules[number]? = some rule ∧
      rule.Shows (lines text) symbol location) ⟨index, hshown⟩
  exact ⟨_, Nat.lt_of_le_of_lt (hleast.2 hshown) hindex, hleast⟩

/-- In a bounded text the places of a name are those that the bodies of the rules show. -/
theorem places_eq_flatMap (hbounded : IsBounded text) (grammar : Grammar) (symbol : String) :
    grammar.places text symbol =
      grammar.rules.flatMap (·.shownPlaces (lines text) symbol) := by
  have hcut : grammar.places text symbol = (grammar.allMatches text symbol).map
      fun (index, column) => locationOf index column := by
    refine List.map_congr_left ?_
    rintro ⟨index, column⟩ hmem
    exact (cutLocation_of_standsAt hbounded (mem_allMatches_iff.mp hmem).1).2
  rw [hcut, allMatches, List.map_flatMap]
  rfl

/-- A place that is found before another one is found for the first time is discovered before
it. -/
theorem discoveredBefore_of_flatMap_eq {first second : Location} {front rest : List Location}
    (h : grammar.rules.flatMap (·.shownPlaces (lines text) symbol) = front ++ second :: rest)
    (hfirst : first ∈ front) (hsecond : second ∉ front) :
    grammar.DiscoveredBefore text symbol first second := by
  obtain ⟨before, rule, after, inner, behind, hrules, hpart, rfl⟩ := exists_part_of_flatMap_eq h
  rw [List.mem_append, not_or] at hsecond
  have hfound : second ∈ rule.shownPlaces (lines text) symbol := by
    rw [hpart]
    exact List.mem_append_right inner List.mem_cons_self
  have hnumber := firstShownBy_of_not_mem hrules hfound hsecond.1
  by_cases hearlier : first ∈ before.flatMap (·.shownPlaces (lines text) symbol)
  · obtain ⟨number, hlt, hfirstNumber⟩ := exists_firstShownBy_lt hrules hearlier
    exact ⟨number, before.length, hfirstNumber, hnumber, .inl hlt⟩
  · -- Both are found by the same rule, whose body is searched in the order of the text.
    have hinner := (List.mem_append.mp hfirst).resolve_left hearlier
    have hfirstFound : first ∈ rule.shownPlaces (lines text) symbol := by
      rw [hpart]
      exact List.mem_append_left _ hinner
    have hordered := pairwise_shownPlaces (lines text) symbol rule
    rw [hpart, List.pairwise_append] at hordered
    exact ⟨before.length, before.length, firstShownBy_of_not_mem hrules hfirstFound hearlier,
      hnumber, .inr ⟨rfl, hordered.2.2 first hinner second List.mem_cons_self⟩⟩

/-- The references of a name without its declaration come in the order of their discovery. -/
theorem pairwise_listedPlaces (hbounded : IsBounded text) (grammar : Grammar) (symbol : String) :
    (grammar.listedPlaces text symbol false).Pairwise (grammar.DiscoveredBefore text symbol) := by
  have hdistinct : ∀ seen, (distinct seen (grammar.places text symbol)).Pairwise
      (grammar.DiscoveredBefore text symbol) := by
    intro seen
    refine (pairwise_distinct seen _).imp ?_
    rintro first second ⟨front, rest, heq, hfirst, hsecond⟩
    rw [places_eq_flatMap hbounded] at heq
    exact discoveredBefore_of_flatMap_eq heq hfirst hsecond
  unfold listedPlaces listPlaces
  cases grammar.declaredPlace? text symbol with
  | none => exact hdistinct []
  | some declared => exact hdistinct [declared]

/-- The references of a name without its declaration are the other places in rule bodies. -/
theorem mem_listedPlaces_false_iff (hbounded : IsBounded text) :
    location ∈ grammar.listedPlaces text symbol false ↔
      grammar.declaredPlace? text symbol ≠ some location ∧
        ∃ rule ∈ grammar.rules, rule.Shows (lines text) symbol location := by
  rw [mem_listedPlaces_iff, places_eq_flatMap hbounded]
  by_cases hdeclared : grammar.declaredPlace? text symbol = some location
  · simp [hdeclared]
  · simp [hdeclared, mem_shownPlaces_iff]

end Grammar

/-- In a bounded text the references of a symbol without its declaration come out.  They are,
each once, the places other than the declaring one at which the symbol stands alone in the body
of a rule, in the order of their discovery: rule by rule, and in the body of a rule by line and
column.  With the declaration they are the same places behind the declaring one.  Gathering the
places one by one gives these lists, though it marks the declaration as seen in one case and
passes over it in the other. -/
theorem references_are_first_discoveries (grammar : Grammar) (text symbol : String)
    (hbounded : IsBounded text) :
    ∃ declared found places,
      grammar.declarationLocation? text symbol = .ok declared ∧
      grammar.occurrences text symbol = .ok found ∧
      grammar.references text symbol false = .ok places ∧
      places = gatherPlaces declared found false ∧
      places.Nodup ∧
      (∀ location, location ∈ places ↔ declared ≠ some location ∧
        ∃ rule ∈ grammar.rules, rule.Shows (lines text) symbol location) ∧
      places.Pairwise (grammar.DiscoveredBefore text symbol) ∧
      grammar.references text symbol true = .ok (declared.toList ++ places) ∧
      declared.toList ++ places = gatherPlaces declared found true := by
  have hfits := Grammar.placesFit_of_isBounded hbounded grammar symbol
  refine ⟨_, _, _, Grammar.declarationLocation?_of_isBounded hbounded grammar symbol,
    Grammar.occurrences_eq_ok_iff.mpr ⟨hfits.found, rfl⟩,
    Grammar.references_of_isBounded hbounded grammar symbol false, ?_, ?_, ?_, ?_, ?_, ?_⟩
  · exact (Grammar.gatherPlaces_eq _ _ false).symm
  · exact Grammar.nodup_listPlaces _ _ false
  · exact fun location => Grammar.mem_listedPlaces_false_iff hbounded
  · exact Grammar.pairwise_listedPlaces hbounded grammar symbol
  · rw [Grammar.references_of_isBounded hbounded grammar symbol true, Grammar.listedPlaces,
      Grammar.listPlaces_true_eq_append]
    rfl
  · rw [Grammar.gatherPlaces_eq, Grammar.listPlaces_true_eq_append]
    rfl

/-- Two rules of which the one that stands later in the text comes first; its only line is also
the last line of the other body. -/
def entwinedGrammar : Grammar where
  rules := [{ name := "b", location := some ⟨2, 1⟩ }, { name := "a", location := some ⟨1, 1⟩ }]

/-- The place in the shared line is discovered first, with the body that starts there. -/
theorem entwinedGrammar_references :
    IsBounded "a: b | a\nb: a ;" ∧
      entwinedGrammar.references "a: b | a\nb: a ;" "a" false = .ok [⟨2, 4⟩, ⟨1, 8⟩] ∧
      entwinedGrammar.references "a: b | a\nb: a ;" "a" true = .ok [⟨1, 1⟩, ⟨2, 4⟩, ⟨1, 8⟩] ∧
      entwinedGrammar.DiscoveredBefore "a: b | a\nb: a ;" "a" ⟨2, 4⟩ ⟨1, 8⟩ := by
  have hbounded : IsBounded "a: b | a\nb: a ;" := by constructor <;> decide
  have hlist : entwinedGrammar.references "a: b | a\nb: a ;" "a" false =
      .ok [⟨2, 4⟩, ⟨1, 8⟩] := by
    decide
  obtain ⟨_, _, places, _, _, hplaces, _, _, _, hordered, _⟩ :=
    references_are_first_discoveries entwinedGrammar "a: b | a\nb: a ;" "a" hbounded
  obtain rfl := Except.ok.inj (hlist.symm.trans hplaces)
  refine ⟨hbounded, hlist, by decide, ?_⟩
  exact (List.pairwise_cons.mp hordered).1 _ List.mem_cons_self

end GrammarServer
