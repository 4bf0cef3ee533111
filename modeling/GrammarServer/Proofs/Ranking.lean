import GrammarServer.Proofs.Outline
import GrammarServer.Proofs.StableSort
import Mathlib.Data.List.Infix
import Mathlib.Data.List.Nodup

/-!
# Searches are ranked outlines

A search goes through the outlines of all open documents, without their precedence levels,
and keeps the names that contain the query.  The rank of a name sorts the names it keeps:
those that are the query come first, then those that start with it, then all others.  The
sort is stable, so that names of one rank stay in the order of the outlines.

Main results:

- Theorem `mergeSort_rank_eq_flatMap`: a stable sort lists the groups of equal rank one after
  another.
- Theorems `relevance_eq_one_iff`, `relevance_eq_two_iff` and `relevance_eq_three_iff`: what
  the ranks stand for.
- Theorem `isRanking_mergeSort`: the sorted matches are ranked.
- Theorem `countP_located`: a name is listed as often as it is declared.
- Theorem `search_is_ranked_outline`: a search gives the ranked matches of all outlines.
-/

namespace GrammarServer

open Text

/-! ## Stable sorts by rank -/

section Rank

variable {α : Type} (rank : α → Nat)

/-- Whether the rank of one element is at most that of another. -/
def rankLe (a b : α) : Bool := decide (rank a ≤ rank b)

theorem rankLe_trans (a b c : α) (hab : rankLe rank a b = true) (hbc : rankLe rank b c = true) :
    rankLe rank a c = true := by
  simp only [rankLe, decide_eq_true_eq] at hab hbc ⊢
  exact hab.trans hbc

theorem rankLe_total (a b : α) : (rankLe rank a b || rankLe rank b a) = true := by
  simp only [rankLe, Bool.or_eq_true, decide_eq_true_eq]
  exact Nat.le_total _ _

/-- Sorting by rank keeps the elements of one rank in their order. -/
theorem filter_mergeSort_rank (list : List α) (k : Nat) :
    (list.mergeSort (rankLe rank)).filter (rank · == k) = list.filter (rank · == k) := by
  refine filter_mergeSort_of_tied (rankLe_trans rank) (rankLe_total rank) ?_ list
  intro a b ha hb
  rw [beq_iff_eq] at ha hb
  rw [rankLe, ha, hb, decide_eq_true_eq]

/-- A list in the order of ranks is cut by a rank into the elements below it and the others. -/
theorem eq_filter_append_of_pairwise {list : List α}
    (h : list.Pairwise fun a b => rank a ≤ rank b) (k : Nat) :
    list = list.filter (rank · < k) ++ list.filter (k ≤ rank ·) := by
  induction list with
  | nil => rfl
  | cons a rest ih =>
    rw [List.pairwise_cons] at h
    by_cases hlt : rank a < k
    · have hnot : ¬ k ≤ rank a := by omega
      simp only [List.filter_cons, hlt, hnot, decide_true, decide_false, if_true,
        Bool.false_eq_true, if_false, List.cons_append]
      rw [← ih h.2]
    · -- Nothing behind a large element is small.
      have hrest : ∀ b ∈ a :: rest, k ≤ rank b := by
        intro b hb
        rcases List.mem_cons.mp hb with rfl | hb
        · omega
        · have := h.1 b hb
          omega
      rw [List.filter_eq_nil_iff.mpr, List.filter_eq_self.mpr, List.nil_append]
      · intro b hb
        exact decide_eq_true (hrest b hb)
      · intro b hb
        have := hrest b hb
        simp only [decide_eq_true_eq]
        omega

/-- A list in the order of ranks below a bound is the list of its groups. -/
theorem eq_flatMap_filter_of_pairwise {list : List α}
    (h : list.Pairwise fun a b => rank a ≤ rank b) {bound : Nat}
    (hbound : ∀ a ∈ list, rank a < bound) :
    list = (List.range bound).flatMap fun k => list.filter (rank · == k) := by
  induction bound generalizing list with
  | zero =>
    cases list with
    | nil => rfl
    | cons a rest => exact absurd (hbound a List.mem_cons_self) (Nat.not_lt_zero _)
  | succ bound ih =>
    have hlow := ih (h.filter (rank · < bound)) (by simp)
    have hgroups : ∀ k ∈ List.range bound,
        (list.filter (rank · < bound)).filter (rank · == k) = list.filter (rank · == k) := by
      intro k hk
      rw [List.mem_range] at hk
      rw [List.filter_filter]
      apply List.filter_congr
      intro a _
      rw [Bool.eq_iff_iff]
      simp only [Bool.and_eq_true, beq_iff_eq, decide_eq_true_eq]
      omega
    have hlast : list.filter (bound ≤ rank ·) = list.filter (rank · == bound) := by
      apply List.filter_congr
      intro a ha
      have := hbound a ha
      rw [Bool.eq_iff_iff, decide_eq_true_eq, beq_iff_eq]
      omega
    calc list = list.filter (rank · < bound) ++ list.filter (bound ≤ rank ·) :=
          eq_filter_append_of_pairwise rank h bound
      _ = (List.range bound).flatMap (fun k => list.filter (rank · == k)) ++
            list.filter (rank · == bound) := by
          rw [hlast]
          conv_lhs => rw [hlow]
          rw [List.flatMap_def, List.map_congr_left hgroups, ← List.flatMap_def]
      _ = (List.range (bound + 1)).flatMap fun k => list.filter (rank · == k) := by
          rw [List.range_succ, List.flatMap_append, List.flatMap_singleton]

/-- A stable sort by rank lists the groups of equal rank one after another, each in its old
order. -/
theorem mergeSort_rank_eq_flatMap {list : List α} {bound : Nat}
    (hbound : ∀ a ∈ list, rank a < bound) :
    list.mergeSort (rankLe rank) =
      (List.range bound).flatMap fun k => list.filter (rank · == k) := by
  have hsorted := (List.pairwise_mergeSort (rankLe_trans rank) (rankLe_total rank) list).imp
    of_decide_eq_true
  rw [eq_flatMap_filter_of_pairwise rank hsorted
    fun a ha => hbound a (List.mem_mergeSort.mp ha)]
  simp only [filter_mergeSort_rank]

end Rank

/-! ## Ranks of matches -/

section Match

/-- A name contains a query, letter case apart. -/
def Matches (query name : String) : Prop :=
  (lowercase query).toList <:+: (lowercase name).toList

/-- A name is a query, letter case apart. -/
def MatchesExactly (query name : String) : Prop :=
  lowercase name = lowercase query

/-- A name starts with a query and goes on, letter case apart. -/
def MatchesStart (query name : String) : Prop :=
  (lowercase query).toList <+: (lowercase name).toList ∧ lowercase name ≠ lowercase query

/-- A name contains a query, but not at its start, letter case apart. -/
def MatchesInside (query name : String) : Prop :=
  (lowercase query).toList <:+: (lowercase name).toList ∧
    ¬ (lowercase query).toList <+: (lowercase name).toList

variable {query : String}

instance (name : String) : Decidable (Matches query name) :=
  inferInstanceAs (Decidable (_ <:+: _))

instance (name : String) : Decidable (MatchesExactly query name) :=
  inferInstanceAs (Decidable (_ = _))

instance (name : String) : Decidable (MatchesStart query name) :=
  inferInstanceAs (Decidable (_ ∧ _))

instance (name : String) : Decidable (MatchesInside query name) :=
  inferInstanceAs (Decidable (_ ∧ _))

/-- A run of characters occurs in a text exactly if the text has it as a part. -/
theorem occursIn_iff {run text : List Char} : occursIn run text = true ↔ run <:+: text := by
  induction text with
  | nil => simp [occursIn]
  | cons c rest ih =>
    rw [occursIn, Bool.or_eq_true, List.isPrefixOf_iff_prefix, ih, List.infix_cons_iff]

/-- A search keeps the names that contain the query. -/
theorem matchesQuery_iff {name : String} :
    matchesQuery (lowercase query) name = true ↔ Matches query name :=
  occursIn_iff

/-- Every name contains the empty query. -/
theorem matches_empty (name : String) : Matches "" name := by
  rw [Matches, lowercase_eq_empty_iff.mpr rfl]
  exact List.nil_infix

/-- The best rank is given exactly for the empty query. -/
theorem relevance_eq_zero_iff (name : String) :
    relevance name (lowercase query) = 0 ↔ query = "" := by
  simp only [relevance, String.isEmpty_iff, lowercase_eq_empty_iff]
  grind

theorem relevance_eq_one_iff (hquery : query ≠ "") (name : String) :
    relevance name (lowercase query) = 1 ↔ MatchesExactly query name := by
  simp only [relevance, String.isEmpty_iff, lowercase_eq_empty_iff, if_neg hquery,
    MatchesExactly, String.toList_inj]
  grind

theorem relevance_eq_two_iff (hquery : query ≠ "") (name : String) :
    relevance name (lowercase query) = 2 ↔ MatchesStart query name := by
  simp only [relevance, String.isEmpty_iff, lowercase_eq_empty_iff, if_neg hquery,
    MatchesStart, String.toList_inj, List.isPrefixOf_iff_prefix]
  grind

theorem relevance_eq_three_iff (hquery : query ≠ "") (name : String) :
    relevance name (lowercase query) = 3 ↔ MatchesInside query name := by
  simp only [relevance, String.isEmpty_iff, lowercase_eq_empty_iff, if_neg hquery,
    MatchesInside, String.toList_inj, List.isPrefixOf_iff_prefix, occursIn_iff]
  grind

/-- A name that contains the query never has the last rank. -/
theorem relevance_lt_four {name : String} (h : Matches query name) :
    relevance name (lowercase query) < 4 := by
  rw [Matches, ← occursIn_iff] at h
  simp only [relevance, h, if_true]
  grind

end Match

/-! ## Ranked matches -/

/-- The listed symbols whose names contain a query. -/
def matchesAmong (query : String) (listed : List FoundSymbol) : List FoundSymbol :=
  listed.filter fun symbol => Matches query symbol.name

/-- The matches of a query among listed symbols, ranked. -/
structure IsRanking (query : String) (listed results : List FoundSymbol) : Prop where
  /-- The results are the matches, sorted by rank; the sort is stable. -/
  sorted : results = (matchesAmong query listed).mergeSort
    fun a b => decide (relevance a.name (lowercase query) ≤ relevance b.name (lowercase query))
  rank_zero_iff : ∀ symbol ∈ results, relevance symbol.name (lowercase query) = 0 ↔ query = ""
  rank_le : ∀ symbol ∈ results, relevance symbol.name (lowercase query) ≤ 3
  /-- The empty query keeps everything as it is listed. -/
  of_empty : query = "" → results = listed
  /-- For any other query the names that are the query come first, then those that start
  with it, then those that contain it elsewhere; each group is in the order of the list. -/
  of_nonempty : query ≠ "" → results =
    listed.filter (fun symbol => MatchesExactly query symbol.name) ++
      listed.filter (fun symbol => MatchesStart query symbol.name) ++
      listed.filter (fun symbol => MatchesInside query symbol.name)

/-- The matches of one rank are the symbols of the kind of match that has this rank. -/
theorem filter_rank_matchesAmong {query : String} (listed : List FoundSymbol) {k : Nat}
    {kind : String → Prop} [DecidablePred kind]
    (hkind : ∀ name, relevance name (lowercase query) = k ↔ kind name)
    (hmatches : ∀ name, kind name → Matches query name) :
    (matchesAmong query listed).filter
        (fun symbol => relevance symbol.name (lowercase query) == k) =
      listed.filter fun symbol => kind symbol.name := by
  rw [matchesAmong, List.filter_filter]
  apply List.filter_congr
  intro symbol _
  rw [Bool.eq_iff_iff]
  simp only [Bool.and_eq_true, beq_iff_eq, decide_eq_true_eq, hkind]
  exact ⟨And.left, fun h => ⟨h, hmatches _ h⟩⟩

/-- The sorted matches are ranked. -/
theorem isRanking_mergeSort (query : String) (listed : List FoundSymbol) :
    IsRanking query listed ((matchesAmong query listed).mergeSort
      fun a b => decide (relevance a.name (lowercase query) ≤
        relevance b.name (lowercase query))) := by
  have hbound : ∀ symbol ∈ matchesAmong query listed,
      relevance symbol.name (lowercase query) < 4 := by
    intro symbol hsymbol
    exact relevance_lt_four (by simpa using (List.mem_filter.mp hsymbol).2)
  refine ⟨rfl, fun symbol _ => relevance_eq_zero_iff symbol.name, ?_, ?_, ?_⟩
  · intro symbol hsymbol
    exact Nat.le_of_lt_succ (hbound symbol (List.mem_mergeSort.mp hsymbol))
  · rintro rfl
    have hall : matchesAmong "" listed = listed :=
      List.filter_eq_self.mpr fun symbol _ => decide_eq_true (matches_empty symbol.name)
    rw [hall]
    refine List.mergeSort_of_pairwise (List.pairwise_of_forall fun a b => ?_)
    rw [(relevance_eq_zero_iff a.name).mpr rfl, (relevance_eq_zero_iff b.name).mpr rfl,
      decide_eq_true_eq]
  · intro hquery
    have hzero : (matchesAmong query listed).filter
        (fun symbol => relevance symbol.name (lowercase query) == 0) = [] := by
      simp [relevance_eq_zero_iff, hquery]
    have hone := filter_rank_matchesAmong listed (relevance_eq_one_iff hquery) fun name h => by
      rw [Matches, h]
    have htwo := filter_rank_matchesAmong listed (relevance_eq_two_iff hquery)
      fun name h => h.1.isInfix
    have hthree := filter_rank_matchesAmong listed (relevance_eq_three_iff hquery)
      fun name h => h.1
    refine (mergeSort_rank_eq_flatMap
      (fun symbol : FoundSymbol => relevance symbol.name (lowercase query)) hbound).trans ?_
    simp [List.range_succ, hzero, hone, htwo, hthree]

/-! ## How often a name is found -/

/-- The names that a grammar declares at known places: tokens, types, then rules. -/
def Grammar.locatedNames (grammar : Grammar) : List String :=
  ((grammar.tokenDeclarations ++ grammar.typeDeclarations).filter (·.location.isSome)).flatMap
      (·.names) ++
    (grammar.rules.filter (·.location.isSome)).map (·.name)

/-- The names of declarations that have a place are those of located declarations. -/
theorem map_name_located_declaredSymbols (text : String) (uri : Uri) (kind : OutlineKind)
    (container : String) (declarations : List NameDeclaration) :
    ((declaredSymbols kind container declarations).filterMap
        (DeclaredSymbol.located? text uri)).map (·.name) =
      (declarations.filter (·.location.isSome)).flatMap (·.names) := by
  unfold declaredSymbols
  induction declarations with
  | nil => rfl
  | cons declaration rest ih =>
    rw [List.flatMap_cons, List.filterMap_append, List.map_append, ih, List.filterMap_map]
    cases hlocation : declaration.location with
    | none => simp [hlocation, DeclaredSymbol.located?]
    | some location => simp [hlocation, DeclaredSymbol.located?, Function.comp_def]

/-- The names of rules that have a place are those of located rules. -/
theorem map_name_located_rules (text : String) (uri : Uri) (rules : List Rule) :
    ((rules.map fun rule => DeclaredSymbol.mk rule.name .rule "Rules" rule.location).filterMap
        (DeclaredSymbol.located? text uri)).map (·.name) =
      (rules.filter (·.location.isSome)).map (·.name) := by
  rw [List.filterMap_map]
  induction rules with
  | nil => rfl
  | cons rule rest ih =>
    cases hlocation : rule.location with
    | none => simp [hlocation, DeclaredSymbol.located?, ih]
    | some location => simp [hlocation, DeclaredSymbol.located?, ih]

/-- A document lists the located names of its grammar. -/
theorem Document.map_name_located {document : Document} {grammar : Grammar}
    (hgrammar : document.grammar = some grammar) :
    document.located.map (·.name) = grammar.locatedNames := by
  simp only [Document.located, hgrammar, Option.elim_some, Grammar.symbols, List.filterMap_append,
    List.map_append, map_name_located_declaredSymbols, map_name_located_rules,
    Grammar.locatedNames, List.filter_append, List.flatMap_append]

/-- What a document lists stands in the document. -/
theorem Document.uri_of_mem_located {document : Document} {symbol : FoundSymbol}
    (h : symbol ∈ document.located) : symbol.place.uri = document.uri := by
  unfold Document.located at h
  cases hgrammar : document.grammar with
  | none => simp [hgrammar] at h
  | some grammar =>
    rw [hgrammar, Option.elim_some, List.mem_filterMap] at h
    obtain ⟨declared, _, hlocated⟩ := h
    obtain ⟨location, _, rfl⟩ := Option.map_eq_some_iff.mp hlocated
    rfl

/-- A symbol of a name that stands in a document. -/
def FoundSymbol.isNamed (symbol : FoundSymbol) (uri : Uri) (name : String) : Bool :=
  symbol.place.uri == uri && symbol.name == name

/-- A document lists a name as often as its grammar declares it. -/
theorem Document.countP_isNamed_located {document : Document} {grammar : Grammar}
    (hgrammar : document.grammar = some grammar) (name : String) :
    document.located.countP (·.isNamed document.uri name) = grammar.locatedNames.count name := by
  rw [← Document.map_name_located hgrammar, List.count, List.countP_map]
  apply List.countP_congr
  intro symbol hsymbol
  simp [FoundSymbol.isNamed, Document.uri_of_mem_located hsymbol]

/-- Documents of other URIs list nothing under a URI. -/
theorem countP_isNamed_eq_zero {documents : List Document} {uri : Uri}
    (h : uri ∉ documents.map (·.uri)) (name : String) :
    (documents.flatMap Document.located).countP (·.isNamed uri name) = 0 := by
  rw [List.countP_eq_zero]
  intro symbol hsymbol hnamed
  obtain ⟨document, hdocument, hlocated⟩ := List.mem_flatMap.mp hsymbol
  simp only [FoundSymbol.isNamed, Bool.and_eq_true, beq_iff_eq] at hnamed
  refine h (List.mem_map.mpr ⟨document, hdocument, ?_⟩)
  rw [← Document.uri_of_mem_located hlocated, hnamed.1]

/-- The documents of a store list a name under the URI of one of them as often as this one
declares it. -/
theorem countP_located {store : Store} {document : Document} {grammar : Grammar}
    (hmem : document ∈ store.documents) (hgrammar : document.grammar = some grammar)
    (name : String) :
    (store.documents.flatMap Document.located).countP (·.isNamed document.uri name) =
      grammar.locatedNames.count name := by
  obtain ⟨before, after, hdocuments⟩ := List.append_of_mem hmem
  have hnodup := store.nodup
  rw [hdocuments, List.map_append, List.map_cons, List.nodup_middle, List.nodup_cons,
    List.mem_append, not_or] at hnodup
  rw [hdocuments, List.flatMap_append, List.flatMap_cons, List.countP_append,
    List.countP_append, countP_isNamed_eq_zero hnodup.1.1, countP_isNamed_eq_zero hnodup.1.2,
    Document.countP_isNamed_located hgrammar, Nat.zero_add, Nat.add_zero]

/-! ## Searches -/

/-- If all names of all open documents can be shown, their outlines come out, and a search
gives the ranked matches among their entries, precedence levels apart.  It gives each
name that contains the query as often as the document declares it. -/
theorem search_is_ranked_outline (store : Store) (query : String)
    (hfit : ∀ document ∈ store.documents, document.NamesFit) :
    ∃ (outline : Document → List OutlineEntry) (results : List FoundSymbol),
      (∀ document ∈ store.documents, document.outline = .ok (outline document)) ∧
      store.search query = .ok results ∧
      IsRanking query
        (store.documents.flatMap fun document => document.listed (outline document)) results ∧
      ∀ document ∈ store.documents, ∀ grammar, document.grammar = some grammar →
        ∀ name, Matches query name →
          results.countP (·.isNamed document.uri name) = grammar.locatedNames.count name := by
  have hlisted : (store.documents.flatMap fun document => document.listed document.entries) =
      store.documents.flatMap Document.located := by
    simp only [Document.listed_entries]
  have hmatches : (store.documents.flatMap Document.located).filter
      (matchesQuery (lowercase query) ·.name) =
      matchesAmong query (store.documents.flatMap Document.located) := by
    apply List.filter_congr
    intro symbol _
    rw [Bool.eq_iff_iff, matchesQuery_iff, decide_eq_true_eq]
  refine ⟨Document.entries, _, ?_, Store.search_eq_ok_iff.mpr ⟨?_, rfl⟩, ?_, ?_⟩
  · intro document hmem
    exact (Document.outline_computes document _).mpr ⟨hfit document hmem, rfl⟩
  · intro document hmem
    exact (hfit document hmem).matchesFit (lowercase query)
  · rw [hlisted, hmatches]
    exact isRanking_mergeSort query _
  · intro document hmem grammar hgrammar name hname
    rw [(List.mergeSort_perm _ _).countP_eq, hmatches, ← countP_located hmem hgrammar name,
      matchesAmong, List.countP_filter]
    apply List.countP_congr
    intro symbol _
    simp only [FoundSymbol.isNamed, Bool.and_eq_true, beq_iff_eq, decide_eq_true_eq]
    constructor
    · exact And.left
    · rintro ⟨huri, rfl⟩
      exact ⟨⟨huri, rfl⟩, hname⟩

/-! ## Repeated and unlocated names -/

/-- A document whose token is declared once more without a location. -/
def numberDocument : Document where
  uri := { scheme := "file", authority := some {}, path := .segments ["a.y"] }
  text := "%token NUM\n%type NUMBER\n%left NUM\n%%\nenum: NUM ;"
  version := 1
  grammar := some {
    declarations := [.token { names := ["NUM"], location := some ⟨1, 8⟩ },
      .token { names := ["NUM"] },
      .precedence { associativity := .left, tokens := ["NUM"], location := some ⟨3, 7⟩ },
      .type { names := ["NUMBER"], location := some ⟨2, 7⟩ }]
    rules := [{ name := "enum", location := some ⟨5, 1⟩ }] }

/-- A document that declares the same token twice. -/
def repeatedDocument : Document where
  uri := { scheme := "file", authority := some {}, path := .segments ["b.y"] }
  text := "%token NUM ADD NUM"
  version := 1
  grammar := some {
    declarations := [.token { names := ["NUM", "ADD", "NUM"], location := some ⟨1, 8⟩ }] }

/-- The store of the two documents. -/
def numberStore : Store where
  documents := [numberDocument, repeatedDocument]
  nodup := by decide

/-- All outlines come out, and the exact matches of both documents come before all others. -/
theorem numberStore_search_ranked :
    (∀ document ∈ numberStore.documents, document.NamesFit) ∧
      ∃ results, numberStore.search "Num" = .ok results ∧
        results.map (·.name) = ["NUM", "NUM", "NUM", "NUMBER", "enum"] ∧
        results.countP (·.isNamed numberDocument.uri "NUM") = 1 ∧
        results.countP (·.isNamed repeatedDocument.uri "NUM") = 2 := by
  have hnumber : numberDocument.outline = .ok numberDocument.entries := by decide
  have hrepeated : repeatedDocument.outline = .ok repeatedDocument.entries := by decide
  have hfit : ∀ document ∈ numberStore.documents, document.NamesFit := by
    rw [numberStore, List.forall_mem_cons, List.forall_mem_singleton]
    exact ⟨((Document.outline_computes _ _).mp hnumber).1,
      ((Document.outline_computes _ _).mp hrepeated).1⟩
  obtain ⟨outline, results, houtline, hresults, hranking, hcount⟩ :=
    search_is_ranked_outline numberStore "Num" hfit
  rw [numberStore, List.forall_mem_cons, List.forall_mem_singleton, hnumber, hrepeated,
    Except.ok.injEq, Except.ok.injEq] at houtline
  refine ⟨hfit, results, hresults, ?_, ?_, ?_⟩
  · rw [hranking.of_nonempty (by decide), numberStore, List.flatMap_cons, List.flatMap_singleton,
      ← houtline.1, ← houtline.2]
    decide
  · rw [hcount numberDocument List.mem_cons_self _ rfl "NUM" (by decide)]
    decide
  · rw [hcount repeatedDocument (by simp [numberStore]) _ rfl "NUM" (by decide)]
    decide

end GrammarServer
