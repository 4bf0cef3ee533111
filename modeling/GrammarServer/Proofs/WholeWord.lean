import GrammarServer.Text.Position
import Mathlib.Data.List.SplitBy
import Mathlib.Data.List.TakeWhile

/-!
# Whole words are maximal runs

A line falls into segments: the maximal runs of identifier characters, and the single
characters between them.  The columns at which an identifier stands as a whole word are
exactly the places of the segments that it equals, so whole words never overlap.

Main results:

- Theorem `isWholeWordAt_iff`: a whole word cuts its line into three parts.
- Theorem `mem_placedSegments_iff`: whole words are segments in their places.
- Theorem `eq_or_apart_of_isWholeWordAt`: two whole words are the same or lie apart.
- Theorem `isWholeWordAt_of_wordSpan?`: the run under a column is a whole word.
-/

namespace GrammarServer.Text

/-! ## Whole words cut lines -/

/-- A word made of identifier characters. -/
structure IsIdentifier (word : List Char) : Prop where
  ne_nil : word ≠ []
  chars : ∀ c ∈ word, isIdentifierChar c = true

theorem IsIdentifier.length_pos {word : List Char} (h : IsIdentifier word) : 0 < word.length :=
  List.length_pos_iff.mpr h.ne_nil

/-- A text that does not end with an identifier character. -/
def EndsFree (text : List Char) : Prop :=
  ∀ c ∈ text.getLast?, isIdentifierChar c = false

/-- A text that does not start with an identifier character. -/
def StartsFree (text : List Char) : Prop :=
  ∀ c ∈ text.head?, isIdentifierChar c = false

/-- A word stands alone at a column exactly if it cuts the line there into three parts,
and no identifier character touches it. -/
theorem isWholeWordAt_iff {line : Line} {word : List Char} {column : Nat} :
    isWholeWordAt line word column = true ↔
      ∃ front rest, line = front ++ (word ++ rest) ∧ front.length = column ∧ word ≠ [] ∧
        EndsFree front ∧ StartsFree rest := by
  constructor
  · intro h
    have hlt := lt_length_of_isWholeWordAt h
    simp only [isWholeWordAt, charBefore?, Bool.and_eq_true, Bool.not_eq_true',
      List.isEmpty_eq_false_iff, List.isPrefixOf_iff_prefix] at h
    rcases h with ⟨⟨⟨hne, rest, hrest⟩, hbefore⟩, hafter⟩
    refine ⟨line.take column, rest, ?_, ?_, hne, ?_, ?_⟩
    · rw [hrest, List.take_append_drop]
    · rw [List.length_take]
      omega
    · intro c hc
      rw [Option.mem_def] at hc
      simpa [hc] using hbefore
    · intro c hc
      rw [Option.mem_def] at hc
      rw [← List.drop_drop, ← hrest, List.drop_left] at hafter
      simpa [hc] using hafter
  · rintro ⟨front, rest, rfl, rfl, hne, hfront, hrest⟩
    have hdrop : (front ++ (word ++ rest)).drop (front.length + word.length) = rest := by
      rw [← List.drop_drop, List.drop_left, List.drop_left]
    simp only [isWholeWordAt, charBefore?, List.drop_left, List.take_left, hdrop,
      Bool.and_eq_true, Bool.not_eq_true', List.isEmpty_eq_false_iff,
      List.isPrefixOf_iff_prefix]
    refine ⟨⟨⟨hne, List.prefix_append word rest⟩, ?_⟩, ?_⟩
    · rw [Option.any_eq_false]
      intro c hc
      simp [hfront c hc]
    · rw [Option.any_eq_false]
      intro c hc
      simp [hrest c hc]

/-- Every character of an identifier that stands in a line is an identifier character. -/
theorem getElem?_of_isWholeWordAt {content : Line} {word : List Char} {column index : Nat}
    (hword : IsIdentifier word) (h : isWholeWordAt content word column = true)
    (hle : column ≤ index) (hlt : index < column + word.length) :
    ∃ c, content[index]? = some c ∧ isIdentifierChar c = true := by
  rcases isWholeWordAt_iff.mp h with ⟨front, rest, rfl, rfl, _, _, _⟩
  have hindex : index - front.length < word.length := by omega
  refine ⟨word[index - front.length], ?_, hword.chars _ (List.getElem_mem hindex)⟩
  rw [List.getElem?_append_right hle, List.getElem?_append_left hindex,
    List.getElem?_eq_getElem hindex]

/-- A word has room wherever it stands. -/
theorem add_length_le_of_isWholeWordAt {chars : Line} {word : List Char} {column : Nat}
    (h : isWholeWordAt chars word column = true) : column + word.length ≤ chars.length := by
  obtain ⟨front, after, rfl, rfl, _⟩ := isWholeWordAt_iff.mp h
  simp only [List.length_append]
  omega

/-- The character after a whole word is no identifier character. -/
theorem not_isIdentifierChar_after {content : Line} {word : List Char} {column : Nat} {c : Char}
    (h : isWholeWordAt content word column = true)
    (hc : content[column + word.length]? = some c) : isIdentifierChar c = false := by
  rcases isWholeWordAt_iff.mp h with ⟨front, rest, rfl, rfl, _, _, hrest⟩
  rw [List.getElem?_append_right (by omega), List.getElem?_append_right (by omega)] at hc
  apply hrest c
  rw [Option.mem_def, List.head?_eq_getElem?, ← hc]
  congr 1
  omega

/-- The character before a whole word is no identifier character. -/
theorem not_isIdentifierChar_before {content : Line} {word : List Char} {column : Nat} {c : Char}
    (h : isWholeWordAt content word column = true) (hpos : 0 < column)
    (hc : content[column - 1]? = some c) : isIdentifierChar c = false := by
  rcases isWholeWordAt_iff.mp h with ⟨front, rest, rfl, rfl, _, hfront, _⟩
  rw [List.getElem?_append_left (by omega)] at hc
  exact hfront c (by rw [Option.mem_def, List.getLast?_eq_getElem?, hc])

/-- An identifier that starts after the start of another one starts after its end. -/
theorem add_length_lt_of_isWholeWordAt {line : Line} {word other : List Char}
    {column later : Nat} (hword : IsIdentifier word)
    (h : isWholeWordAt line word column = true) (hlater : isWholeWordAt line other later = true)
    (hlt : column < later) : column + word.length < later := by
  by_contra hle
  -- The character just before the later word would lie in the earlier one.
  obtain ⟨c, hc, hident⟩ := getElem?_of_isWholeWordAt hword h
    (show column ≤ later - 1 by omega) (by omega)
  rw [not_isIdentifierChar_before hlater (by omega) hc] at hident
  cases hident

/-- Of two identifiers that stand at one column, none is longer. -/
theorem length_le_of_isWholeWordAt {line : Line} {word other : List Char} {column : Nat}
    (hother : IsIdentifier other) (h : isWholeWordAt line word column = true)
    (h' : isWholeWordAt line other column = true) : other.length ≤ word.length := by
  by_contra hlt
  obtain ⟨c, hc, hident⟩ := getElem?_of_isWholeWordAt hother h'
    (show column ≤ column + word.length by omega) (by omega)
  rw [not_isIdentifierChar_after h hc] at hident
  cases hident

/-- Two identifiers that stand in a line are the same one or lie apart, with a character
between them. -/
theorem eq_or_apart_of_isWholeWordAt {line : Line} {word other : List Char}
    {column column' : Nat} (hword : IsIdentifier word) (hother : IsIdentifier other)
    (h : isWholeWordAt line word column = true)
    (h' : isWholeWordAt line other column' = true) :
    (column = column' ∧ word = other) ∨ column + word.length < column' ∨
      column' + other.length < column := by
  rcases Nat.lt_trichotomy column column' with hlt | rfl | hgt
  · exact .inr (.inl (add_length_lt_of_isWholeWordAt hword h h' hlt))
  · left
    have hlength : word.length = other.length :=
      Nat.le_antisymm (length_le_of_isWholeWordAt hword h' h)
        (length_le_of_isWholeWordAt hother h h')
    rcases isWholeWordAt_iff.mp h with ⟨front, rest, hline, hfront, _⟩
    rcases isWholeWordAt_iff.mp h' with ⟨front', rest', hline', hfront', _⟩
    have hparts := List.append_inj (hline.symm.trans hline') (hfront.trans hfront'.symm)
    exact ⟨rfl, (List.append_inj hparts.2 hlength).1⟩
  · exact .inr (.inr (add_length_lt_of_isWholeWordAt hother h' h hgt))

/-! ## Segments -/

/-- A line cut into its maximal runs of identifier characters and the single characters
between them. -/
def segments (line : Line) : List (List Char) :=
  line.splitBy fun a b => isIdentifierChar a && isIdentifierChar b

/-- The segments of a line, joined, are the line. -/
@[simp]
theorem flatten_segments (line : Line) : (segments line).flatten = line :=
  List.flatten_splitBy _ line

/-- No segment is empty. -/
theorem ne_nil_of_mem_segments {line : Line} {segment : List Char}
    (h : segment ∈ segments line) : segment ≠ [] :=
  List.ne_nil_of_mem_splitBy h

/-- An identifier is its own only segment. -/
theorem segments_of_isIdentifier {word : List Char} (h : IsIdentifier word) :
    segments word = [word] := by
  apply List.splitBy_of_isChain h.ne_nil
  refine List.Pairwise.isChain (List.pairwise_of_forall_mem_list ?_)
  intro a ha b hb
  simp [h.chars a ha, h.chars b hb]

/-- Two parts of a line that no run joins have their own segments. -/
theorem segments_append_of_endsFree {front rest : List Char} (h : EndsFree front) :
    segments (front ++ rest) = segments front ++ segments rest := by
  apply List.splitBy_append
  intro a ha b _
  simp [h a ha]

/-- Two parts of a line that no run joins have their own segments. -/
theorem segments_append_of_startsFree {front rest : List Char} (h : StartsFree rest) :
    segments (front ++ rest) = segments front ++ segments rest := by
  apply List.splitBy_append
  intro a _ b hb
  simp [h b hb]

/-- Segments in their places: each with the column at which it starts. -/
def place (start : Nat) : List (List Char) → List (Nat × List Char)
  | [] => []
  | segment :: rest => (start, segment) :: place (start + segment.length) rest

/-- The segments of a line with the columns at which they start. -/
def placedSegments (line : Line) : List (Nat × List Char) :=
  place 0 (segments line)

theorem place_append (start : Nat) (first second : List (List Char)) :
    place start (first ++ second) =
      place start first ++ place (start + first.flatten.length) second := by
  induction first generalizing start with
  | nil => rfl
  | cons segment rest ih => simp [place, ih, Nat.add_assoc]

/-- Placing segments does not change them. -/
@[simp]
theorem map_snd_place (start : Nat) (list : List (List Char)) :
    (place start list).map (·.2) = list := by
  induction list generalizing start with
  | nil => rfl
  | cons segment rest ih => simp [place, ih]

@[simp]
theorem length_place (start : Nat) (list : List (List Char)) :
    (place start list).length = list.length := by
  rw [← List.length_map, map_snd_place]

/-- A segment in its place starts where the segments before it end. -/
theorem mem_place_iff {start column : Nat} {segment : List Char} {list : List (List Char)} :
    (column, segment) ∈ place start list ↔
      ∃ before after, list = before ++ segment :: after ∧
        column = start + before.flatten.length := by
  constructor
  · intro h
    induction list generalizing start with
    | nil => cases h
    | cons first rest ih =>
      rw [place, List.mem_cons] at h
      rcases h with h | h
      · rcases Prod.mk.inj h with ⟨rfl, rfl⟩
        exact ⟨[], rest, rfl, rfl⟩
      · rcases ih h with ⟨before, after, rfl, rfl⟩
        exact ⟨first :: before, after, rfl, by simp [Nat.add_assoc]⟩
  · rintro ⟨before, after, rfl, rfl⟩
    simp [place_append, place]

/-- Segments in their places do not overlap. -/
theorem pairwise_place (start : Nat) (list : List (List Char)) :
    (place start list).Pairwise fun first second => first.1 + first.2.length ≤ second.1 := by
  induction list generalizing start with
  | nil => exact List.Pairwise.nil
  | cons segment rest ih =>
    rw [place, List.pairwise_cons]
    refine ⟨?_, ih _⟩
    rintro ⟨column, other⟩ hmem
    rcases mem_place_iff.mp hmem with ⟨before, after, _, rfl⟩
    exact Nat.le_add_right _ _

/-- The segments around a segment that is an identifier do not touch it with an
identifier character. -/
theorem free_of_segments_eq {line : Line} {before after : List (List Char)}
    {word : List Char} (hword : IsIdentifier word)
    (h : segments line = before ++ word :: after) :
    EndsFree before.flatten ∧ StartsFree after.flatten := by
  have hchain := List.isChain_getLast_head_splitBy
    (fun a b => isIdentifierChar a && isIdentifierChar b) line
  rw [← segments, h] at hchain
  have hnonempty : ∀ segment ∈ before ++ word :: after, segment ≠ [] := by
    intro segment hmem
    exact ne_nil_of_mem_segments (h ▸ hmem)
  constructor
  · intro c hc
    cases hlast : before.getLast? with
    | none =>
      rw [List.getLast?_eq_none_iff.mp hlast] at hc
      cases hc
    | some last =>
      rcases List.getLast?_eq_some_iff.mp hlast with ⟨others, rfl⟩
      have hne : last ≠ [] := hnonempty last (by simp)
      rw [List.flatten_concat, Option.mem_def, List.getLast?_append_of_ne_nil _ hne,
        List.getLast?_eq_some_getLast hne, Option.some.injEq] at hc
      rw [List.append_assoc, List.isChain_append] at hchain
      obtain ⟨_, hnext, hfree⟩ : ∃ ha hb, (isIdentifierChar (last.getLast ha) &&
          isIdentifierChar (word.head hb)) = false := by
        simpa using (List.isChain_cons_cons.mp hchain.2.1).1
      rw [hword.chars _ (List.head_mem hnext), Bool.and_true] at hfree
      rwa [hc] at hfree
  · intro c hc
    cases after with
    | nil => cases hc
    | cons next others =>
      have hne : next ≠ [] := hnonempty next (by simp)
      rw [List.flatten_cons, Option.mem_def, List.head?_append_of_ne_nil _ hne,
        List.head?_eq_some_head hne, Option.some.injEq] at hc
      rw [List.isChain_append] at hchain
      obtain ⟨hlast, _, hfree⟩ : ∃ ha hb, (isIdentifierChar (word.getLast ha) &&
          isIdentifierChar (next.head hb)) = false := by
        simpa using (List.isChain_cons_cons.mp hchain.2.1).1
      rw [hword.chars _ (List.getLast_mem hlast), Bool.true_and] at hfree
      rwa [hc] at hfree

/-- The whole-word matches of an identifier are the segments that it equals, in their
places. -/
theorem mem_placedSegments_iff {line : Line} {word : List Char} {column : Nat}
    (hword : IsIdentifier word) :
    (column, word) ∈ placedSegments line ↔ isWholeWordAt line word column = true := by
  rw [placedSegments, mem_place_iff, isWholeWordAt_iff]
  constructor
  · rintro ⟨before, after, hsegments, rfl⟩
    rcases free_of_segments_eq hword hsegments with ⟨hbefore, hafter⟩
    refine ⟨before.flatten, after.flatten, ?_, by simp, hword.ne_nil, hbefore, hafter⟩
    rw [← flatten_segments line, hsegments, List.flatten_append, List.flatten_cons]
  · rintro ⟨front, rest, rfl, rfl, _, hfront, hrest⟩
    refine ⟨segments front, segments rest, ?_, by simp⟩
    rw [segments_append_of_endsFree hfront, segments_append_of_startsFree hrest,
      segments_of_isIdentifier hword]
    rfl

/-! ## The run under a column -/

/-- The characters that are dropped while a test holds leave a rest that fails it. -/
theorem startsFree_dropWhile (text : List Char) :
    StartsFree (text.dropWhile isIdentifierChar) := by
  intro c hc
  rw [Option.mem_def] at hc
  have hnone := List.head?_dropWhile_not isIdentifierChar text
  rw [hc] at hnone
  simpa using hnone

/-- A line is cut at a column into the run that touches it and the two parts around the
run. -/
theorem exists_cut_of_wordSpan? {line : Line} {column start stop : Nat}
    (h : wordSpan? line column = some (start, stop)) :
    ∃ front word rest, line = front ++ (word ++ rest) ∧ start = front.length ∧
      stop = front.length + word.length ∧ IsIdentifier word ∧ EndsFree front ∧
      StartsFree rest := by
  unfold wordSpan? at h
  split at h
  case isTrue => cases h
  case isFalse hle =>
    set left := (line.take column).reverse.takeWhile isIdentifierChar with hleft
    set right := (line.drop column).takeWhile isIdentifierChar with hright
    set front := ((line.take column).reverse.dropWhile isIdentifierChar).reverse with hfront
    have htake : line.take column = front ++ left.reverse := by
      rw [hfront, hleft, ← List.reverse_append, List.takeWhile_append_dropWhile,
        List.reverse_reverse]
    have hlength : front.length + left.length = column := by
      have := congrArg List.length htake
      simp only [List.length_take, List.length_append, List.length_reverse] at this
      omega
    dsimp only at h
    split at h
    case isTrue => cases h
    case isFalse hpos =>
      simp only [Option.some.injEq, Prod.mk.injEq] at h
      refine ⟨front, left.reverse ++ right, (line.drop column).dropWhile isIdentifierChar,
        ?_, by omega, ?_, ⟨?_, ?_⟩, ?_, startsFree_dropWhile _⟩
      · rw [List.append_assoc, hright, List.takeWhile_append_dropWhile,
          ← List.append_assoc, ← htake, List.take_append_drop]
      · rw [List.length_append, left.length_reverse]
        omega
      · intro hnil
        have := congrArg List.length hnil
        simp only [List.length_append, List.length_reverse, List.length_nil] at this
        exact hpos this
      · intro c hc
        rw [List.mem_append, List.mem_reverse] at hc
        rcases hc with hc | hc
        · exact List.mem_takeWhile_imp hc
        · exact List.mem_takeWhile_imp hc
      · intro c hc
        rw [hfront, List.getLast?_reverse] at hc
        exact startsFree_dropWhile _ c hc

/-- The run that touches a column is an identifier, and it stands there as a whole word. -/
theorem isWholeWordAt_of_wordSpan? {line : Line} {column start stop : Nat}
    (h : wordSpan? line column = some (start, stop)) :
    IsIdentifier (slice line start stop) ∧
      isWholeWordAt line (slice line start stop) start = true := by
  rcases exists_cut_of_wordSpan? h with ⟨front, word, rest, rfl, rfl, rfl, hword, hfront, hrest⟩
  have hslice : slice (front ++ (word ++ rest)) front.length (front.length + word.length) =
      word := by
    rw [slice, List.take_length_add_append, List.drop_left, List.take_left]
  rw [hslice]
  exact ⟨hword, isWholeWordAt_iff.mpr ⟨front, rest, rfl, rfl, hword.ne_nil, hfront, hrest⟩⟩

/-- The word under a position is an identifier, and it stands on the position's line as a
whole word.  Its range goes from its start to its end. -/
theorem isWholeWordAt_of_wordAt? {text : String} {position : Position} {found : WordAt}
    (h : wordAt? text position = some found) :
    IsIdentifier found.word.toList ∧ ∃ line start, (lines text)[position.line]? = some line ∧
      isWholeWordAt line found.word.toList start = true ∧
      found.range = ⟨⟨position.line, toCoordinate start⟩,
        ⟨position.line, toCoordinate (start + found.word.length)⟩⟩ := by
  simp only [wordAt?, Option.bind_eq_bind, Option.bind_eq_some_iff, Option.pure_def,
    Option.some.injEq] at h
  rcases h with ⟨line, hline, ⟨start, stop⟩, hspan, rfl⟩
  rcases isWholeWordAt_of_wordSpan? hspan with ⟨hword, hwhole⟩
  have hstop : stop = start + (slice line start stop).length := by
    rcases exists_cut_of_wordSpan? hspan with ⟨front, word, rest, rfl, rfl, rfl, _⟩
    simp [slice]
  refine ⟨by simpa using hword, line, start, hline, by simpa using hwhole, ?_⟩
  rw [String.length_ofList, ← hstop]

end GrammarServer.Text
