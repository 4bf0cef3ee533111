import GrammarServer.Feature.Hover
import GrammarServer.Proofs.Rename

/-!
# A symbol is the same from wherever it is reached

The word under the cursor is found by extending the cursor in both directions; the uses of
a name are found by searching for whole words.  Both ways lead to the same words: wherever
the search finds a name, the cursor finds it at every column from its first character to
the column after its last one.  Every answer about a name depends on the name alone, so it
does not matter from which of its places the name is asked about.

Main results:

- Theorem `wordSpan?_of_isWholeWordAt`: the run under every column of a whole word is the
  word.
- Theorem `CoversWord.wordAt?_eq`: the word at every position of a range that covers a name is
  the name, with that range.
- Theorem `answersAlike_of_wordAt?`: the answers depend on the word alone.
- Theorem `symbol_same_from_everywhere`: all places of a symbol give the same answers.
-/

namespace GrammarServer

namespace Text

/-! ## The run under a column of a whole word -/

/-- The first run of a text is what stands before a rest that no run enters. -/
theorem takeWhile_append_of_startsFree {run rest : List Char}
    (hrun : ∀ c ∈ run, isIdentifierChar c = true) (hrest : StartsFree rest) :
    (run ++ rest).takeWhile isIdentifierChar = run := by
  have hstop : rest.takeWhile isIdentifierChar = [] := by
    cases rest with
    | nil => rfl
    | cons c tail => simp [hrest c rfl]
  rw [List.takeWhile_append_of_pos hrun, hstop, List.append_nil]

/-- Read backwards, a text that ends free starts free. -/
theorem EndsFree.startsFree_reverse {text : List Char} (h : EndsFree text) :
    StartsFree text.reverse := by
  intro c hc
  rw [List.head?_reverse] at hc
  exact h c hc

/-- The run under every column of a whole word, both ends included, is the word. -/
theorem wordSpan?_of_isWholeWordAt {line : Line} {word : List Char} {start column : Nat}
    (hword : IsIdentifier word) (h : isWholeWordAt line word start = true)
    (hle : start ≤ column) (hge : column ≤ start + word.length) :
    wordSpan? line column = some (start, start + word.length) := by
  rcases isWholeWordAt_iff.mp h with ⟨front, rest, rfl, rfl, _, hfront, hrest⟩
  obtain ⟨offset, rfl⟩ := Nat.exists_eq_add_of_le hle
  have hoffset : offset ≤ word.length := by omega
  -- The column cuts the word; the run goes back to its start and on to its end.
  have hleft : ((front ++ (word ++ rest)).take (front.length + offset)).reverse.takeWhile
      isIdentifierChar = (word.take offset).reverse := by
    rw [List.take_length_add_append, List.take_append_of_le_length hoffset,
      List.reverse_append]
    refine takeWhile_append_of_startsFree ?_ hfront.startsFree_reverse
    intro c hc
    exact hword.chars c (List.mem_of_mem_take (List.mem_reverse.mp hc))
  have hright : ((front ++ (word ++ rest)).drop (front.length + offset)).takeWhile
      isIdentifierChar = word.drop offset := by
    rw [List.drop_length_add_append, List.drop_append_of_le_length hoffset]
    refine takeWhile_append_of_startsFree ?_ hrest
    intro c hc
    exact hword.chars c (List.mem_of_mem_drop hc)
  have hpos := hword.length_pos
  simp only [wordSpan?, hleft, hright, List.length_append, List.length_reverse,
    List.length_take, List.length_drop, Nat.min_eq_left hoffset]
  rw [if_neg (by omega), if_neg (by omega)]
  simp only [Option.some.injEq, Prod.mk.injEq]
  omega

/-- The characters from the start of a whole word to its end are the word. -/
theorem slice_of_isWholeWordAt {line : Line} {word : List Char} {column : Nat}
    (h : isWholeWordAt line word column = true) :
    slice line column (column + word.length) = word := by
  rcases isWholeWordAt_iff.mp h with ⟨front, rest, rfl, rfl, _⟩
  rw [slice, List.take_length_add_append, List.drop_left, List.take_left]

/-- A position lies between the ends of a range or at one of them. -/
def Range.Touches (range : Range) (position : Position) : Prop :=
  range.start.AtMost position ∧ position.AtMost range.stop

instance (first second : Position) : Decidable (first.AtMost second) :=
  inferInstanceAs (Decidable (_ ∨ _))

instance (range : Range) (position : Position) : Decidable (range.Touches position) :=
  inferInstanceAs (Decidable (_ ∧ _))

/-- The positions of a range on one line are those between its columns. -/
theorem Range.touches_iff {line start stop : Nat} {position : Position} :
    Range.Touches ⟨⟨line, start⟩, ⟨line, stop⟩⟩ position ↔
      position.line = line ∧ start ≤ position.character ∧ position.character ≤ stop := by
  simp only [Range.Touches, Position.AtMost]
  omega

end Text

open Text

/-! ## The word at a position of a name -/

/-- The word at every position of a range that covers a name is the name. -/
theorem CoversWord.wordAt?_eq {text name : String} {range : Range} {position : Position}
    (h : CoversWord text name range) (hbounded : IsBounded text)
    (hname : IsIdentifier name.toList) (htouches : range.Touches position) :
    wordAt? text position = some ⟨name, range⟩ := by
  rcases h with ⟨index, column, hstands, rfl⟩
  have hcolumn := hbounded.column_lt hstands
  have hstart : toCoordinate column = column := toCoordinate_of_le (by omega)
  have hstop : toCoordinate (column + name.length) = column + name.length :=
    toCoordinate_of_le (by omega)
  rcases hstands with ⟨line, hget, hwhole⟩
  rcases Range.touches_iff.mp htouches with ⟨rfl, hle, hge⟩
  rw [← String.length_toList] at hge
  have hspan := wordSpan?_of_isWholeWordAt hname hwhole hle hge
  have hslice := slice_of_isWholeWordAt hwhole
  rw [String.length_toList] at hspan hslice
  simp [wordAt?, hget, hspan, hslice, hstart, hstop]

/-- The word at a position is an identifier, and its range covers it. -/
theorem coversWord_of_wordAt? {text : String} {position : Position} {found : WordAt}
    (hbounded : IsBounded text) (h : wordAt? text position = some found) :
    IsIdentifier found.word.toList ∧ CoversWord text found.word found.range := by
  rcases isWholeWordAt_of_wordAt? h with ⟨hname, line, start, hget, hwhole, hrange⟩
  have hstands : StandsAt (lines text) found.word position.line start := ⟨line, hget, hwhole⟩
  have hcolumn := hbounded.column_lt hstands
  refine ⟨hname, position.line, start, hstands, ?_⟩
  rw [hrange, toCoordinate_of_le (by omega), toCoordinate_of_le (by omega)]

/-! ## Answers -/

/-- At a second position the answers are those at the first one; only the range of a
description is that of the word at hand. -/
structure Document.AnswersAlike (document : Document) (first second : Position)
    (range : Range) : Prop where
  definition : document.definition? second = document.definition? first
  references : ∀ withDeclaration,
    document.references second withDeclaration = document.references first withDeclaration
  rename : ∀ newName, document.rename? second newName = document.rename? first newName
  hover : document.hover? second =
    (document.hover? first).map fun hover => { hover with range := range }

/-- The answers depend on the word alone. -/
theorem answersAlike_of_wordAt? {document : Document} {first second : Position} {word : String}
    {range range' : Range} (hfirst : wordAt? document.text first = some ⟨word, range⟩)
    (hsecond : wordAt? document.text second = some ⟨word, range'⟩) :
    document.AnswersAlike first second range' := by
  have hname : document.nameAt? second = document.nameAt? first := by
    simp [Document.nameAt?, hfirst, hsecond]
  refine ⟨?_, ?_, ?_, ?_⟩
  · simp only [Document.definition?, hname]
  · intro withDeclaration
    simp only [Document.references, hname]
  · intro newName
    simp only [Document.rename?, hname]
  · cases hgrammar : document.grammar with
    | none => simp [Document.hover?, hgrammar]
    | some grammar =>
      cases hdescribe : grammar.describe? word <;>
        simp [Document.hover?, hgrammar, hfirst, hsecond, hdescribe]

/-- In a bounded text, a symbol is the same from every column of the word under the cursor and
from every place that is listed among its uses: the word there is the symbol, and all answers
are the same, crashes included. -/
theorem symbol_same_from_everywhere {document : Document} {position : Position}
    {found : WordAt} (hbounded : IsBounded document.text)
    (hfound : wordAt? document.text position = some found) :
    (∀ other, found.range.Touches other →
      wordAt? document.text other = some found ∧
        document.AnswersAlike position other found.range) ∧
    (∀ places, document.references position false = .ok places → ∀ place ∈ places,
      place.uri = document.uri ∧ ∀ other, place.range.Touches other →
        wordAt? document.text other = some ⟨found.word, place.range⟩ ∧
          document.AnswersAlike position other place.range) := by
  rcases coversWord_of_wordAt? hbounded hfound with ⟨hname, hcovers⟩
  constructor
  · intro other htouches
    have hother := hcovers.wordAt?_eq hbounded hname htouches
    exact ⟨hother, answersAlike_of_wordAt? hfound hother⟩
  · intro places hplaces place hmem
    rcases eq_of_references hplaces with ⟨_, rfl⟩ | ⟨use, huse, rfl⟩
    · cases hmem
    · rcases List.mem_map.mp hmem with ⟨location, hlocation, rfl⟩
      have hgrammar := (of_nameAt? huse).1
      rw [nameAt?_of_wordAt? hgrammar hfound, Option.some.injEq] at huse
      have hword : use.name = found.word := by rw [← huse]
      -- Without the declaration, every listed location is one at which the name stands.
      have hplace : IsPlaceOf document.text use.name location :=
        Grammar.isPlaceOf_of_mem_listedPlaces hbounded (fun hfalse => Bool.noConfusion hfalse)
          hlocation
      rw [hword] at hplace
      refine ⟨rfl, ?_⟩
      intro other htouches
      rw [hword] at htouches ⊢
      have hother := (hplace.coversWord hbounded).wordAt?_eq hbounded hname htouches
      exact ⟨hother, answersAlike_of_wordAt? hfound hother⟩

/-! ## A token between other characters -/

/-- A document whose token is used at the end of a line and after a letter that belongs to
no identifier. -/
def wedgedDocument : Document where
  uri := { scheme := "file", authority := some {}, path := .segments ["g.y"] }
  text := "%token A\n%%\ns: éA;|A"
  version := 1
  grammar := some {
    declarations := [.token { names := ["A"], location := some ⟨1, 8⟩ }]
    rules := [{ name := "s", location := some ⟨3, 1⟩ }] }

/-- The token is reached from its use after the letter, at both ends of it. -/
theorem wedgedDocument_same_from_use :
    wordAt? wedgedDocument.text ⟨0, 8⟩ = some ⟨"A", ⟨⟨0, 7⟩, ⟨0, 8⟩⟩⟩ ∧
      wedgedDocument.references ⟨0, 8⟩ false =
        .ok [⟨wedgedDocument.uri, ⟨⟨2, 4⟩, ⟨2, 5⟩⟩⟩, ⟨wedgedDocument.uri, ⟨⟨2, 7⟩, ⟨2, 8⟩⟩⟩] ∧
      wedgedDocument.AnswersAlike ⟨0, 8⟩ ⟨2, 4⟩ ⟨⟨2, 4⟩, ⟨2, 5⟩⟩ ∧
      wedgedDocument.AnswersAlike ⟨0, 8⟩ ⟨2, 8⟩ ⟨⟨2, 7⟩, ⟨2, 8⟩⟩ := by
  have hfound : wordAt? wedgedDocument.text ⟨0, 8⟩ = some ⟨"A", ⟨⟨0, 7⟩, ⟨0, 8⟩⟩⟩ := by decide
  have hplaces : wedgedDocument.references ⟨0, 8⟩ false =
      .ok [⟨wedgedDocument.uri, ⟨⟨2, 4⟩, ⟨2, 5⟩⟩⟩,
        ⟨wedgedDocument.uri, ⟨⟨2, 7⟩, ⟨2, 8⟩⟩⟩] := by decide
  have hbounded : IsBounded wedgedDocument.text := by constructor <;> decide
  have hsame := (symbol_same_from_everywhere hbounded hfound).2 _ hplaces
  refine ⟨hfound, hplaces, ?_, ?_⟩
  · exact ((hsame _ List.mem_cons_self).2 ⟨2, 4⟩ (by decide)).2
  · exact ((hsame _ (List.mem_cons_of_mem _ List.mem_cons_self)).2 ⟨2, 8⟩ (by decide)).2

end GrammarServer
