import GrammarServer.Proofs.Cursor
import GrammarServer.Proofs.IndexedScan

/-!
# Maximal runs of identifier characters

A run of a line is a stretch of identifier characters that cannot be made longer.  Two parts of
this library look for runs: the word under the cursor grows from a column in both directions,
and the search for a name tries every column.  Both find exactly the runs, so two runs that
touch are the same, and whole words of different names never overlap.

Main results:

- Theorem `isRun_iff`: a stretch is maximal exactly if no identifier character is next to it.
- Theorem `IsRun.eq_of_touches`: only one run touches a column.
- Theorem `isRun_and_slice_eq_iff`: the runs are the identifiers that stand as whole words.
- Theorem `wordSpan?_eq_some_iff`: the word under a column is the run that touches it.
- Theorem `word_under_cursor_is_maximal_run` and Theorem `whole_words_are_maximal_runs`: both for
  texts and for lines.
-/

namespace GrammarServer.Text

/-! ## Identifier characters by column -/

/-- Whether an identifier character stands at a column of a line. -/
def identifierAt (text : Line) (column : Nat) : Bool :=
  text[column]?.any isIdentifierChar

/-- Whether an identifier character stands just before a column of a line. -/
def identifierBefore (line : Line) : Nat → Bool
  | 0 => false
  | column + 1 => identifierAt line column

/-- Only the columns of a line have characters. -/
theorem lt_length_of_identifierAt {line : Line} {column : Nat}
    (h : identifierAt line column = true) : column < line.length := by
  by_contra hge
  rw [identifierAt, List.getElem?_eq_none (Nat.le_of_not_lt hge)] at h
  cases h

/-- Up to the end of a line, the character before a column is the last one of what precedes
the column. -/
theorem any_charBefore? {line : Line} {column : Nat} (h : column ≤ line.length) :
    (charBefore? line column).any isIdentifierChar = identifierBefore line column := by
  cases column with
  | zero => rfl
  | succ column =>
    rw [charBefore?, List.take_add_one, List.getElem?_eq_getElem h, Option.toList_some,
      List.getLast?_concat, identifierBefore, identifierAt, List.getElem?_eq_getElem h]

/-- The columns from `start` up to `stop` hold identifier characters only. -/
def IsStretch (line : Line) (start stop : Nat) : Prop :=
  ∀ column, start ≤ column → column < stop → identifierAt line column = true

/-- A stretch that holds a column ends inside the line. -/
theorem IsStretch.stop_le {line : Line} {start stop : Nat} (h : IsStretch line start stop)
    (hlt : start < stop) : stop ≤ line.length := by
  have hlast := lt_length_of_identifierAt (h (stop - 1) (by omega) (by omega))
  omega

/-! ## Runs -/

/-- The columns from `start` up to `stop` are a maximal run of identifier characters: there is
at least one, and no longer stretch contains them. -/
structure IsRun (line : Line) (start stop : Nat) : Prop where
  start_lt : start < stop
  stretch : IsStretch line start stop
  maximal : ∀ start' stop', start' ≤ start → stop ≤ stop' → IsStretch line start' stop' →
    start' = start ∧ stop' = stop

/-- A stretch is maximal exactly if no identifier character stands next to it. -/
theorem isRun_iff {line : Line} {start stop : Nat} :
    IsRun line start stop ↔ start < stop ∧ IsStretch line start stop ∧
      identifierBefore line start = false ∧ identifierAt line stop = false := by
  constructor
  · intro h
    refine ⟨h.start_lt, h.stretch, ?_, ?_⟩
    · cases start with
      | zero => rfl
      | succ start =>
        rw [← Bool.not_eq_true]
        intro hbefore
        have hlonger : IsStretch line start stop := by
          intro column hle hlt
          rcases Nat.eq_or_lt_of_le hle with rfl | hgt
          · exact hbefore
          · exact h.stretch column hgt hlt
        have hsame := (h.maximal start stop (Nat.le_succ start) le_rfl hlonger).1
        omega
    · rw [← Bool.not_eq_true]
      intro hafter
      have hlonger : IsStretch line start (stop + 1) := by
        intro column hle hlt
        rcases Nat.eq_or_lt_of_le (Nat.le_of_lt_succ hlt) with rfl | hgt
        · exact hafter
        · exact h.stretch column hle hgt
      have hsame := (h.maximal start (stop + 1) le_rfl (Nat.le_succ stop) hlonger).2
      omega
  · rintro ⟨hlt, hstretch, hbefore, hafter⟩
    refine ⟨hlt, hstretch, ?_⟩
    intro start' stop' hstart hstop hlonger
    -- A longer stretch would hold one of the two characters next to the run.
    have hleft : ¬ start' < start := by
      intro hless
      obtain ⟨before, rfl⟩ : ∃ before, start = before + 1 := ⟨start - 1, by omega⟩
      have hinside := hlonger before (Nat.le_of_lt_succ hless) (by omega)
      rw [identifierBefore, hinside] at hbefore
      cases hbefore
    have hright : ¬ stop < stop' := by
      intro hmore
      have hinside := hlonger stop (by omega) hmore
      rw [hinside] at hafter
      cases hafter
    omega

namespace IsRun

variable {line : Line} {start stop start' stop' column : Nat}

theorem stop_le (h : IsRun line start stop) : stop ≤ line.length :=
  h.stretch.stop_le h.start_lt

theorem free_before (h : IsRun line start stop) : identifierBefore line start = false :=
  (isRun_iff.mp h).2.2.1

theorem free_after (h : IsRun line start stop) : identifierAt line stop = false :=
  (isRun_iff.mp h).2.2.2

/-- Of two runs that touch a column, neither starts later. -/
theorem start_le_of_touches (h : IsRun line start stop) (h' : IsRun line start' stop')
    (hstop : column ≤ stop) (hstart' : start' ≤ column) : start' ≤ start := by
  by_contra hlt
  -- Otherwise the character before the second run lies in the first one.
  obtain ⟨before, rfl⟩ : ∃ before, start' = before + 1 := ⟨start' - 1, by omega⟩
  have hinside := h.stretch before (by omega) (by omega)
  have hfree := h'.free_before
  rw [identifierBefore, hinside] at hfree
  cases hfree

/-- Of two runs that touch a column, neither stops later. -/
theorem stop_le_of_touches (h : IsRun line start stop) (h' : IsRun line start' stop')
    (hstop : column ≤ stop) (hstart' : start' ≤ column) : stop' ≤ stop := by
  by_contra hlt
  have hinside := h'.stretch stop (by omega) (by omega)
  rw [h.free_after] at hinside
  cases hinside

/-- Only one run touches a column. -/
theorem eq_of_touches (h : IsRun line start stop) (h' : IsRun line start' stop')
    (htouches : start ≤ column ∧ column ≤ stop) (htouches' : start' ≤ column ∧ column ≤ stop') :
    start = start' ∧ stop = stop' := by
  constructor
  · exact Nat.le_antisymm (start_le_of_touches h' h htouches'.2 htouches.1)
      (start_le_of_touches h h' htouches.2 htouches'.1)
  · exact Nat.le_antisymm (stop_le_of_touches h' h htouches'.2 htouches.1)
      (stop_le_of_touches h h' htouches.2 htouches'.1)

end IsRun

/-! ## Whole words are runs -/

/-- A slice has a character for every column inside the line. -/
theorem length_slice (line : Line) (start stop : Nat) :
    (slice line start stop).length = min stop line.length - start := by
  rw [slice, List.length_drop, List.length_take]

/-- The slice of a run is as long as the run. -/
theorem IsRun.start_add_length_slice {line : Line} {start stop : Nat}
    (h : IsRun line start stop) : start + (slice line start stop).length = stop := by
  rw [length_slice, Nat.min_eq_left h.stop_le]
  exact Nat.add_sub_cancel' h.start_lt.le

/-- The characters of a slice are those of the line. -/
theorem getElem?_slice {text : Line} {start stop index : Nat} (h : start + index < stop) :
    (slice text start stop)[index]? = text[start + index]? := by
  rw [slice, List.getElem?_drop, List.getElem?_take_of_lt h]

/-- The slice of a stretch is made of identifier characters. -/
theorem IsStretch.forall_mem_slice {line : Line} {start stop : Nat}
    (h : IsStretch line start stop) : ∀ c ∈ slice line start stop, isIdentifierChar c = true := by
  intro c hc
  obtain ⟨index, hindex⟩ := List.mem_iff_getElem?.mp hc
  have hlt : start + index < stop := by
    have hbound := (List.getElem?_eq_some_iff.mp hindex).1
    rw [length_slice] at hbound
    omega
  rw [getElem?_slice hlt] at hindex
  have hident := h (start + index) (Nat.le_add_right start index) hlt
  rwa [identifierAt, hindex, Option.any_some] at hident

/-- A word stands alone at a column exactly if it is what the line has there, and no identifier
character stands just before or just after it. -/
theorem isWholeWordAt_iff_slice {line : Line} {word : List Char} {column : Nat} :
    isWholeWordAt line word column = true ↔
      word ≠ [] ∧ slice line column (column + word.length) = word ∧
        identifierBefore line column = false ∧
        identifierAt line (column + word.length) = false := by
  have hbefore : word ≠ [] → slice line column (column + word.length) = word →
      (charBefore? line column).any isIdentifierChar = identifierBefore line column := by
    intro hne hword
    apply any_charBefore?
    have hlength := congrArg List.length hword
    have hpos := List.length_pos_iff.mpr hne
    rw [length_slice] at hlength
    omega
  simp only [isWholeWordAt, Bool.and_eq_true, Bool.not_eq_true', List.isEmpty_eq_false_iff,
    isPrefixOf_drop_eq, decide_eq_true_iff, and_assoc, List.head?_drop]
  refine and_congr_right fun hne => and_congr_right fun hword => ?_
  rw [hbefore hne hword, identifierAt]

/-- The runs of a line are the identifiers that stand in it as whole words. -/
theorem isRun_and_slice_eq_iff {line : Line} {word : List Char} {column : Nat} :
    (∃ stop, IsRun line column stop ∧ slice line column stop = word) ↔
      IsIdentifier word ∧ isWholeWordAt line word column = true := by
  constructor
  · rintro ⟨stop, hrun, rfl⟩
    have hstop := hrun.start_add_length_slice
    have hne : slice line column stop ≠ [] := by
      have hlt := hrun.start_lt
      rw [← List.length_pos_iff]
      omega
    refine ⟨⟨hne, hrun.stretch.forall_mem_slice⟩, ?_⟩
    rw [isWholeWordAt_iff_slice, hstop]
    exact ⟨hne, rfl, hrun.free_before, hrun.free_after⟩
  · rintro ⟨hword, hwhole⟩
    refine ⟨column + word.length, isRun_iff.mpr ⟨?_, ?_, ?_⟩, slice_of_isWholeWordAt hwhole⟩
    · exact Nat.lt_add_of_pos_right hword.length_pos
    · intro index hle hlt
      obtain ⟨c, hget, hident⟩ := getElem?_of_isWholeWordAt hword hwhole hle hlt
      rw [identifierAt, hget, Option.any_some, hident]
    · exact (isWholeWordAt_iff_slice.mp hwhole).2.2

/-! ## The run under a column -/

/-- The word under a column reaches from before the column to after it. -/
theorem touches_of_wordSpan? {line : Line} {column start stop : Nat}
    (h : wordSpan? line column = some (start, stop)) : start ≤ column ∧ column ≤ stop := by
  unfold wordSpan? at h
  split at h
  case isTrue => cases h
  case isFalse =>
    dsimp only at h
    split at h
    case isTrue => cases h
    case isFalse =>
      obtain ⟨rfl, rfl⟩ := Prod.mk.inj (Option.some.inj h)
      exact ⟨Nat.sub_le _ _, Nat.le_add_right _ _⟩

/-- The word under a column is the run that touches it. -/
theorem wordSpan?_eq_some_iff {line : Line} {column start stop : Nat} :
    wordSpan? line column = some (start, stop) ↔
      IsRun line start stop ∧ start ≤ column ∧ column ≤ stop := by
  constructor
  · intro h
    refine ⟨?_, touches_of_wordSpan? h⟩
    rcases exists_cut_of_wordSpan? h with ⟨front, word, rest, rfl, rfl, rfl, hword, hfront, hrest⟩
    have hwhole : isWholeWordAt (front ++ (word ++ rest)) word front.length = true :=
      isWholeWordAt_iff.mpr ⟨front, rest, rfl, rfl, hword.ne_nil, hfront, hrest⟩
    obtain ⟨stop, hrun, hslice⟩ := isRun_and_slice_eq_iff.mpr ⟨hword, hwhole⟩
    have hstop := hrun.start_add_length_slice
    rw [hslice] at hstop
    rw [hstop]
    exact hrun
  · rintro ⟨hrun, hle, hge⟩
    obtain ⟨hword, hwhole⟩ := isRun_and_slice_eq_iff.mp ⟨stop, hrun, rfl⟩
    have hspan := wordSpan?_of_isWholeWordAt hword hwhole hle
    rw [hrun.start_add_length_slice] at hspan
    exact hspan hge

/-- What is taken while a test holds is empty exactly if the first element fails it. -/
theorem length_takeWhile_eq_zero_iff (text : List Char) :
    (text.takeWhile isIdentifierChar).length = 0 ↔ text.head?.any isIdentifierChar = false := by
  cases text with
  | nil => simp
  | cons c rest => cases hc : isIdentifierChar c <;> simp [hc]

/-- There is a word under a column exactly if the column belongs to the line and an identifier
character stands just before it or at it. -/
theorem isSome_wordSpan?_iff {line : Line} {column : Nat} :
    (wordSpan? line column).isSome = true ↔
      column ≤ line.length ∧
        (identifierBefore line column = true ∨ identifierAt line column = true) := by
  unfold wordSpan?
  by_cases hout : line.length < column
  · simp [hout]
  have hin : column ≤ line.length := Nat.le_of_not_lt hout
  have hleft : ((line.take column).reverse.takeWhile isIdentifierChar).length = 0 ↔
      identifierBefore line column = false := by
    rw [length_takeWhile_eq_zero_iff, List.head?_reverse, ← charBefore?, any_charBefore? hin]
  have hright : ((line.drop column).takeWhile isIdentifierChar).length = 0 ↔
      identifierAt line column = false := by
    rw [length_takeWhile_eq_zero_iff, List.head?_drop, ← identifierAt]
  simp only [if_neg hout, hin, true_and]
  by_cases hfree : identifierBefore line column = false ∧ identifierAt line column = false
  · rw [if_pos (Nat.add_eq_zero_iff.mpr ⟨hleft.mpr hfree.1, hright.mpr hfree.2⟩)]
    simp [hfree]
  · rw [if_neg (by rwa [Nat.add_eq_zero_iff, hleft, hright])]
    simpa only [Option.isSome_some, true_iff, not_and_or, Bool.not_eq_false] using hfree

/-! ## The word under a position -/

/-- A range that covers the run under a position: it lies on the line of the position and
touches its column, it holds identifier characters and at least one, and no identifier character
stands just before it or just after it. -/
structure IsWordRange (line : Line) (position : Position) (range : Range) : Prop where
  start_line : range.start.line = position.line
  stop_line : range.stop.line = position.line
  start_le : range.start.character ≤ position.character
  le_stop : position.character ≤ range.stop.character
  start_lt_stop : range.start.character < range.stop.character
  inside : ∀ column, range.start.character ≤ column → column < range.stop.character →
    identifierAt line column = true
  before : identifierBefore line range.start.character = false
  after : identifierAt line range.stop.character = false

/-- The range of a word is that of a run that touches the position. -/
theorem isWordRange_iff {line : Line} {position : Position} {range : Range} :
    IsWordRange line position range ↔
      (range.start.line = position.line ∧ range.stop.line = position.line) ∧
        IsRun line range.start.character range.stop.character ∧
        range.start.character ≤ position.character ∧
        position.character ≤ range.stop.character := by
  constructor
  · intro h
    exact ⟨⟨h.start_line, h.stop_line⟩,
      isRun_iff.mpr ⟨h.start_lt_stop, h.inside, h.before, h.after⟩, h.start_le, h.le_stop⟩
  · rintro ⟨⟨hstart, hstop⟩, hrun, hle, hge⟩
    exact ⟨hstart, hstop, hle, hge, hrun.start_lt, hrun.stretch, hrun.free_before,
      hrun.free_after⟩

/-- A range on one line is given by its columns. -/
theorem Range.eq_of_line_eq {range : Range} {line : Nat} (hstart : range.start.line = line)
    (hstop : range.stop.line = line) :
    range = ⟨⟨line, range.start.character⟩, ⟨line, range.stop.character⟩⟩ := by
  rcases range with ⟨⟨_, _⟩, ⟨_, _⟩⟩
  simp only at hstart hstop
  rw [hstart, hstop]

/-- Only one range covers the run under a position. -/
theorem IsWordRange.unique {line : Line} {position : Position} {first second : Range}
    (hfirst : IsWordRange line position first) (hsecond : IsWordRange line position second) :
    first = second := by
  obtain ⟨⟨hstart, hstop⟩, hrun, htouches⟩ := isWordRange_iff.mp hfirst
  obtain ⟨⟨hstart', hstop'⟩, hrun', htouches'⟩ := isWordRange_iff.mp hsecond
  obtain ⟨hsame, hsame'⟩ := hrun.eq_of_touches hrun' htouches htouches'
  rw [Range.eq_of_line_eq hstart hstop, Range.eq_of_line_eq hstart' hstop', hsame, hsame']

/-- The word at a position is what its line has in the range that covers the run there, as long
as the columns of the line can be written. -/
theorem wordAt?_eq_some_iff {text : String} {position : Position} {word : String}
    {range : Range} (hshort : ∀ line ∈ lines text, line.length ≤ maxCoordinate) :
    wordAt? text position = some ⟨word, range⟩ ↔
      ∃ line, (lines text)[position.line]? = some line ∧
        range.stop.character ≤ line.length ∧ IsWordRange line position range ∧
        word.toList = slice line range.start.character range.stop.character := by
  have hcolumns : ∀ {line : Line} {start stop : Nat}, (lines text)[position.line]? = some line →
      IsRun line start stop → toCoordinate start = start ∧ toCoordinate stop = stop := by
    intro line start stop hline hrun
    have hlength := hshort line (List.mem_of_getElem? hline)
    have hstart := hrun.start_lt
    have hstop := hrun.stop_le
    exact ⟨toCoordinate_of_le (by omega), toCoordinate_of_le (by omega)⟩
  simp only [wordAt?, Option.bind_eq_bind, Option.bind_eq_some_iff, Option.pure_def,
    Option.some.injEq, WordAt.mk.injEq, Prod.exists, wordSpan?_eq_some_iff, isWordRange_iff]
  constructor
  · rintro ⟨line, hline, start, stop, hrun, rfl, rfl⟩
    obtain ⟨hstart, hstop⟩ := hcolumns hline hrun.1
    rw [hstart, hstop]
    exact ⟨line, hline, hrun.1.stop_le, ⟨⟨rfl, rfl⟩, hrun⟩, String.toList_ofList⟩
  · rintro ⟨line, hline, _, ⟨⟨hstart, hstop⟩, hrun⟩, hword⟩
    refine ⟨line, hline, _, _, hrun, ?_, ?_⟩
    · rw [← hword, String.ofList_toList]
    · obtain ⟨hstart', hstop'⟩ := hcolumns hline hrun.1
      rw [hstart', hstop', ← Range.eq_of_line_eq hstart hstop]

/-- There is a word at a position exactly if its line exists, its column belongs to the line and
an identifier character stands just before or at the column.  If the columns of the lines can be
written, the word is then what the line has in the range that covers the run there; the range
ends inside the line, and no other range covers that run. -/
theorem word_under_cursor_is_maximal_run (text : String) (position : Position) :
    ((wordAt? text position).isSome = true ↔
      ∃ line, (lines text)[position.line]? = some line ∧ position.character ≤ line.length ∧
        (identifierBefore line position.character = true ∨
          identifierAt line position.character = true)) ∧
    ((∀ line ∈ lines text, line.length ≤ maxCoordinate) →
      ∀ word range, wordAt? text position = some ⟨word, range⟩ ↔
        ∃ line, (lines text)[position.line]? = some line ∧
          range.stop.character ≤ line.length ∧ IsWordRange line position range ∧
          word.toList = slice line range.start.character range.stop.character) ∧
    ∀ line first second, IsWordRange line position first → IsWordRange line position second →
      first = second := by
  refine ⟨?_, fun hshort _ _ => wordAt?_eq_some_iff hshort, fun _ _ _ => IsWordRange.unique⟩
  simp only [← isSome_wordSpan?_iff, Option.isSome_iff_exists]
  constructor
  · rintro ⟨found, hfound⟩
    simp only [wordAt?, Option.bind_eq_bind, Option.bind_eq_some_iff] at hfound
    obtain ⟨line, hline, span, hspan, _⟩ := hfound
    exact ⟨line, hline, span, hspan⟩
  · rintro ⟨line, hline, span, hspan⟩
    simp [wordAt?, hline, hspan]

/-- A word between a letter that belongs to no identifier and the end of its line is found from
the column after it. -/
theorem word_found_at_end_of_line :
    wordAt? "%%\ns: éA_1" ⟨1, 7⟩ = some ⟨"A_1", ⟨⟨1, 4⟩, ⟨1, 7⟩⟩⟩ ∧
      ∀ range, IsWordRange "s: éA_1".toList ⟨1, 7⟩ range → range = ⟨⟨1, 4⟩, ⟨1, 7⟩⟩ := by
  obtain ⟨_, hfound, hunique⟩ := word_under_cursor_is_maximal_run "%%\ns: éA_1" ⟨1, 7⟩
  have hword : wordAt? "%%\ns: éA_1" ⟨1, 7⟩ = some ⟨"A_1", ⟨⟨1, 4⟩, ⟨1, 7⟩⟩⟩ := by decide
  refine ⟨hword, ?_⟩
  intro range hrange
  obtain ⟨line, hline, _, hcovers, _⟩ := (hfound (by decide) _ _).mp hword
  have hget : (lines "%%\ns: éA_1")[1]? = some "s: éA_1".toList := by decide
  obtain rfl := Option.some.inj (hget.symm.trans hline)
  exact hunique _ _ _ hrange hcovers

/-! ## The whole words of a line -/

/-- The columns found for a word increase, and they are those at which the word stands with no
identifier character on either side.  For an identifier they are the starts of the maximal runs
that equal it; a character stands between two such runs, and the runs of two different
identifiers do not overlap. -/
theorem whole_words_are_maximal_runs (line : Line) (word : List Char) :
    (wholeWordColumns line word).Pairwise (· < ·) ∧
    (∀ column, column ∈ wholeWordColumns line word ↔
      word ≠ [] ∧ slice line column (column + word.length) = word ∧
        identifierBefore line column = false ∧
        identifierAt line (column + word.length) = false) ∧
    (IsIdentifier word →
      (∀ column, column ∈ wholeWordColumns line word ↔
        ∃ stop, IsRun line column stop ∧ slice line column stop = word) ∧
      (wholeWordColumns line word).Pairwise (fun first second =>
        first + (word.length + 1) ≤ second) ∧
      ∀ other, IsIdentifier other → other ≠ word →
        ∀ column ∈ wholeWordColumns line word, ∀ column' ∈ wholeWordColumns line other,
          column + word.length ≤ column' ∨ column' + other.length ≤ column) := by
  have hincreasing : (wholeWordColumns line word).Pairwise (· < ·) :=
    List.Pairwise.filter _ List.pairwise_lt_range
  refine ⟨hincreasing, ?_, ?_⟩
  · intro column
    rw [mem_wholeWordColumns, isWholeWordAt_iff_slice]
  intro hword
  refine ⟨?_, ?_, ?_⟩
  · intro column
    rw [mem_wholeWordColumns, isRun_and_slice_eq_iff]
    exact (and_iff_right hword).symm
  · apply hincreasing.imp_of_mem
    intro first second hfirst hsecond hlt
    exact add_length_lt_of_isWholeWordAt hword (mem_wholeWordColumns.mp hfirst)
      (mem_wholeWordColumns.mp hsecond) hlt
  · intro other hother hne column hcolumn column' hcolumn'
    rcases eq_or_apart_of_isWholeWordAt hword hother (mem_wholeWordColumns.mp hcolumn)
      (mem_wholeWordColumns.mp hcolumn') with ⟨_, rfl⟩ | hlt | hlt
    · exact absurd rfl hne
    · exact .inl hlt.le
    · exact .inr hlt.le

/-- A line with a name at its start, once more in the middle, and as the front of a longer
name. -/
def echoLine : Line :=
  "expr: expr PLUS expr_tail".toList

/-- The name is found twice, and its second place is a run of the line. -/
theorem echoLine_maximal_runs :
    IsIdentifier "expr".toList ∧ wholeWordColumns echoLine "expr".toList = [0, 6] ∧
      ∃ stop, IsRun echoLine 6 stop ∧ slice echoLine 6 stop = "expr".toList := by
  have hword : IsIdentifier "expr".toList :=
    ⟨by decide, List.all_eq_true.mp (by decide)⟩
  have hcolumns : wholeWordColumns echoLine "expr".toList = [0, 6] := by decide
  obtain ⟨hruns, _⟩ := (whole_words_are_maximal_runs echoLine "expr".toList).2.2 hword
  refine ⟨hword, hcolumns, (hruns 6).mp ?_⟩
  rw [hcolumns]
  exact List.mem_cons_of_mem 0 (List.mem_singleton_self 6)

end GrammarServer.Text
