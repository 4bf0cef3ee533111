import GrammarServer.Proofs.WholeWord
import Mathlib.Data.List.Pairwise

/-!
# Replacing words in a line

Some of the places at which an identifier stands in a line are selected, and another
identifier is written there.  Replaced runs stay runs, so the segments of the new line are
those of the old one with the selected ones replaced.

Main results:

- Theorem `segments_replaceRuns`: no run is joined or cut by a replacement.
- Theorem `mem_placedSegments_replaceRuns_iff`: where the segments of the new line stand.
- Theorem `length_replaceRuns_before`: how far the selected places move.
- Theorem `replaceRuns_replaceRuns`: a new word that did not occur can be replaced back.
-/

namespace GrammarServer.Text

/-- Columns of a line at all of which a word stands. -/
def Selects (selected : Nat → Bool) (word : List Char) (line : Line) : Prop :=
  ∀ column, selected column = true → isWholeWordAt line word column = true

/-- What is written for a segment: the new word if its column is selected. -/
def replaceRun (selected : Nat → Bool) (new : List Char) (placed : Nat × List Char) :
    List Char :=
  if selected placed.1 then new else placed.2

/-- The segments of a line with the new word for the selected ones. -/
def replaceRuns (selected : Nat → Bool) (new : List Char) (line : Line) : List (List Char) :=
  (placedSegments line).map (replaceRun selected new)

/-- Two segments of a line are the same or do not overlap. -/
theorem eq_or_apart_of_mem_placedSegments {line : Line} {first second : Nat × List Char}
    (hfirst : first ∈ placedSegments line) (hsecond : second ∈ placedSegments line) :
    first = second ∨ first.1 + first.2.length ≤ second.1 ∨
      second.1 + second.2.length ≤ first.1 := by
  have hpairwise : (placedSegments line).Pairwise fun first second =>
      first.1 + first.2.length ≤ second.1 ∨ second.1 + second.2.length ≤ first.1 :=
    (pairwise_place 0 (segments line)).imp fun hle => .inl hle
  have : Std.Symm fun first second : Nat × List Char =>
      first.1 + first.2.length ≤ second.1 ∨ second.1 + second.2.length ≤ first.1 :=
    ⟨fun _ _ h => h.symm⟩
  by_cases heq : first = second
  · exact .inl heq
  · exact .inr (hpairwise.forall hfirst hsecond heq)

/-- The placed segments of a line, joined, are the line. -/
theorem flatten_map_snd_placedSegments (line : Line) :
    ((placedSegments line).map (·.2)).flatten = line := by
  rw [placedSegments, map_snd_place, flatten_segments]

/-- A placed segment is a segment. -/
theorem snd_mem_segments {line : Line} {placed : Nat × List Char}
    (h : placed ∈ placedSegments line) : placed.2 ∈ segments line := by
  rw [← map_snd_place 0 (segments line)]
  exact List.mem_map_of_mem h

/-- Only one segment starts at a column. -/
theorem eq_of_mem_placedSegments {line : Line} {column : Nat} {first second : List Char}
    (hfirst : (column, first) ∈ placedSegments line)
    (hsecond : (column, second) ∈ placedSegments line) : first = second := by
  have hposFirst := List.length_pos_iff.mpr (ne_nil_of_mem_segments (snd_mem_segments hfirst))
  have hposSecond := List.length_pos_iff.mpr (ne_nil_of_mem_segments (snd_mem_segments hsecond))
  rcases eq_or_apart_of_mem_placedSegments hfirst hsecond with heq | hle | hle
  · exact (Prod.mk.inj heq).2
  · simp only at hle hposFirst
    omega
  · simp only at hle hposSecond
    omega

section Replacement

variable {line : Line} {old new : List Char} {selected : Nat → Bool}

/-- The word stands in its segment at every selected column. -/
theorem Selects.mem_placedSegments (hselects : Selects selected old line)
    (hold : IsIdentifier old) {column : Nat} (h : selected column = true) :
    (column, old) ∈ placedSegments line :=
  (mem_placedSegments_iff hold).mpr (hselects column h)

/-- A selected segment is the word. -/
theorem Selects.snd_eq (hselects : Selects selected old line) (hold : IsIdentifier old)
    {placed : Nat × List Char} (hmem : placed ∈ placedSegments line)
    (h : selected placed.1 = true) : placed.2 = old :=
  eq_of_mem_placedSegments hmem (hselects.mem_placedSegments hold h)

/-- A segment is replaced by an identifier where it is one, or it stays. -/
theorem replaceRun_cases (hselects : Selects selected old line) (hold : IsIdentifier old)
    {placed : Nat × List Char} (hmem : placed ∈ placedSegments line) :
    (selected placed.1 = true ∧ placed.2 = old ∧ replaceRun selected new placed = new) ∨
      (selected placed.1 = false ∧ replaceRun selected new placed = placed.2) := by
  cases h : selected placed.1 with
  | true => exact .inl ⟨rfl, hselects.snd_eq hold hmem h, by simp [replaceRun, h]⟩
  | false => exact .inr ⟨rfl, by simp [replaceRun, h]⟩

/-- Whether two neighbours could be joined does not depend on the replacement. -/
theorem isIdentifierChar_replaceRun (hselects : Selects selected old line)
    (hold : IsIdentifier old) (hnew : IsIdentifier new) {placed : Nat × List Char}
    (hmem : placed ∈ placedSegments line) :
    ∃ hne : replaceRun selected new placed ≠ [], ∀ hne' : placed.2 ≠ [],
      isIdentifierChar ((replaceRun selected new placed).head hne) =
        isIdentifierChar (placed.2.head hne') ∧
      isIdentifierChar ((replaceRun selected new placed).getLast hne) =
        isIdentifierChar (placed.2.getLast hne') := by
  rcases replaceRun_cases hselects hold hmem with ⟨_, hsegment, hrun⟩ | ⟨_, hrun⟩
  · rw [hrun, hsegment]
    refine ⟨hnew.ne_nil, fun hne' => ⟨?_, ?_⟩⟩
    · rw [hnew.chars _ (List.head_mem _), hold.chars _ (List.head_mem _)]
    · rw [hnew.chars _ (List.getLast_mem _), hold.chars _ (List.getLast_mem _)]
  · rw [hrun]
    exact ⟨ne_nil_of_mem_segments (snd_mem_segments hmem), fun _ => ⟨rfl, rfl⟩⟩

/-- The segments of the new line are those of the old one, with the selected ones
replaced. -/
theorem segments_replaceRuns (hselects : Selects selected old line)
    (hold : IsIdentifier old) (hnew : IsIdentifier new) :
    segments (replaceRuns selected new line).flatten = replaceRuns selected new line := by
  refine List.splitBy_flatten ?_ ?_ ?_
  · intro hmem
    rcases List.mem_map.mp hmem with ⟨placed, hplaced, hnil⟩
    rcases isIdentifierChar_replaceRun hselects hold hnew hplaced with ⟨hne, _⟩
    exact hne hnil
  · intro run hmem
    rcases List.mem_map.mp hmem with ⟨placed, hplaced, rfl⟩
    rcases replaceRun_cases hselects hold hplaced with ⟨_, _, hrun⟩ | ⟨_, hrun⟩
    · have hmem : new ∈ segments new := by
        rw [segments_of_isIdentifier hnew]
        exact List.mem_singleton_self new
      rw [hrun]
      exact List.isChain_of_mem_splitBy hmem
    · rw [hrun]
      exact List.isChain_of_mem_splitBy (snd_mem_segments hplaced)
  · have hchain := List.isChain_getLast_head_splitBy
      (fun a b => isIdentifierChar a && isIdentifierChar b) line
    rw [← segments, ← map_snd_place 0 (segments line), ← placedSegments,
      List.isChain_map] at hchain
    rw [replaceRuns, List.isChain_map]
    apply hchain.imp_of_mem_imp
    rintro first second hfirst hsecond ⟨hne, hne', hapart⟩
    rcases isIdentifierChar_replaceRun hselects hold hnew hfirst with ⟨hrun, hkept⟩
    rcases isIdentifierChar_replaceRun hselects hold hnew hsecond with ⟨hrun', hkept'⟩
    refine ⟨hrun, hrun', ?_⟩
    rw [(hkept hne).2, (hkept' hne').1]
    exact hapart

/-! ## Characters of the new line -/

/-- A character that belongs to no identifier stands in the new line exactly if it stands
in the old one. -/
theorem mem_flatten_replaceRuns_iff (hselects : Selects selected old line)
    (hold : IsIdentifier old) (hnew : IsIdentifier new) {c : Char}
    (hc : isIdentifierChar c = false) :
    c ∈ (replaceRuns selected new line).flatten ↔ c ∈ line := by
  have hfree : ∀ {word : List Char}, IsIdentifier word → c ∉ word := by
    intro word hword hmem
    rw [hword.chars c hmem] at hc
    cases hc
  have hrun : ∀ placed ∈ placedSegments line,
      (c ∈ replaceRun selected new placed ↔ c ∈ placed.2) := by
    intro placed hplaced
    rcases replaceRun_cases hselects hold hplaced with ⟨_, hsegment, hrun⟩ | ⟨_, hrun⟩
    · rw [hrun, hsegment]
      exact iff_of_false (hfree hnew) (hfree hold)
    · rw [hrun]
  have hline : c ∈ line ↔ ∃ placed ∈ placedSegments line, c ∈ placed.2 := by
    conv_lhs => rw [← flatten_map_snd_placedSegments line]
    simp only [List.mem_flatten, List.mem_map, exists_exists_and_eq_and]
  rw [hline, replaceRuns]
  simp only [List.mem_flatten, List.mem_map, exists_exists_and_eq_and]
  exact exists_congr fun placed => and_congr_right fun hplaced => hrun placed hplaced

/-- If the new line ends with a character that belongs to no identifier, so does the old
one. -/
theorem getLast?_of_getLast?_replaceRuns (hselects : Selects selected old line)
    (hold : IsIdentifier old) (hnew : IsIdentifier new) {c : Char}
    (hc : isIdentifierChar c = false)
    (h : (replaceRuns selected new line).flatten.getLast? = some c) :
    line.getLast? = some c := by
  rcases List.eq_nil_or_concat' (placedSegments line) with hnil | ⟨before, placed, hconcat⟩
  · simp [replaceRuns, hnil] at h
  · have hplaced : placed ∈ placedSegments line := by simp [hconcat]
    have hne := ne_nil_of_mem_segments (snd_mem_segments hplaced)
    rcases isIdentifierChar_replaceRun hselects hold hnew hplaced with ⟨hrunne, _⟩
    rw [← flatten_map_snd_placedSegments line, hconcat, List.map_append, List.map_singleton,
      List.flatten_concat, List.getLast?_append_of_ne_nil _ hne]
    rw [replaceRuns, hconcat, List.map_append, List.map_singleton, List.flatten_concat,
      List.getLast?_append_of_ne_nil _ hrunne] at h
    rcases replaceRun_cases hselects hold hplaced with ⟨_, _, hrun⟩ | ⟨_, hrun⟩
    · rw [hrun] at h
      rw [hnew.chars c (List.mem_of_getLast? h)] at hc
      cases hc
    · rwa [hrun] at h

/-- A line with a character keeps one. -/
theorem flatten_replaceRuns_ne_nil (hselects : Selects selected old line)
    (hold : IsIdentifier old) (hnew : IsIdentifier new) (hne : line ≠ []) :
    (replaceRuns selected new line).flatten ≠ [] := by
  intro hnil
  cases hplaced : placedSegments line with
  | nil =>
    apply hne
    rw [← flatten_map_snd_placedSegments line, hplaced]
    rfl
  | cons placed rest =>
    obtain ⟨hrun, _⟩ := isIdentifierChar_replaceRun hselects hold hnew
      (show placed ∈ placedSegments line by simp [hplaced])
    rw [replaceRuns, hplaced, List.map_cons, List.flatten_cons, List.append_eq_nil_iff] at hnil
    exact hrun hnil.1

/-! ## Places in the new line -/

/-- A segment of the new line stands where the segments before it, with their
replacements, end. -/
theorem mem_placedSegments_replaceRuns_iff (hselects : Selects selected old line)
    (hold : IsIdentifier old) (hnew : IsIdentifier new) {column : Nat} {word : List Char} :
    (column, word) ∈ placedSegments (replaceRuns selected new line).flatten ↔
      ∃ before segment after, segments line = before ++ segment :: after ∧
        word = replaceRun selected new (before.flatten.length, segment) ∧
        column = ((place 0 before).map (replaceRun selected new)).flatten.length := by
  rw [placedSegments, segments_replaceRuns hselects hold hnew, mem_place_iff]
  constructor
  · rintro ⟨before, after, hruns, rfl⟩
    rw [replaceRuns, List.map_eq_append_iff] at hruns
    rcases hruns with ⟨first, second, hplaced, rfl, hsecond⟩
    rcases List.map_eq_cons_iff.mp hsecond with ⟨placed, rest, rfl, hword, rfl⟩
    have hsegments : segments line = first.map (·.2) ++ placed.2 :: rest.map (·.2) := by
      rw [← map_snd_place 0 (segments line), ← placedSegments, hplaced, List.map_append,
        List.map_cons]
    -- The placed segments before this one are the segments before it, placed.
    rw [placedSegments, hsegments, place_append] at hplaced
    have hlength : (place 0 (first.map (·.2))).length = first.length := by
      rw [length_place, List.length_map]
    rcases List.append_inj hplaced hlength with ⟨hfirst, hrest⟩
    rw [place, List.cons.injEq, Nat.zero_add] at hrest
    refine ⟨first.map (·.2), placed.2, rest.map (·.2), hsegments, ?_, ?_⟩
    · rw [hrest.1, hword]
    · rw [hfirst, Nat.zero_add]
  · rintro ⟨before, segment, after, hsegments, rfl, rfl⟩
    refine ⟨(place 0 before).map (replaceRun selected new),
      (place (before.flatten.length + segment.length) after).map (replaceRun selected new),
      ?_, by rw [Nat.zero_add]⟩
    rw [replaceRuns, placedSegments, hsegments, place_append, List.map_append, Nat.zero_add,
      place, List.map_cons]

/-- The number of selected columns before a column. -/
def selectedBefore (selected : Nat → Bool) (column : Nat) : Nat :=
  (List.range column).countP selected

/-- No placed segment stands before the first one. -/
theorem le_of_mem_place {start column : Nat} {segment : List Char} {list : List (List Char)}
    (h : (column, segment) ∈ place start list) : start ≤ column := by
  rcases mem_place_iff.mp h with ⟨_, _, _, rfl⟩
  exact Nat.le_add_right _ _

/-- Among the columns of one segment, only the first can be selected. -/
theorem countP_range'_segment {start : Nat} {segment : List Char} {rest : List (List Char)}
    (hne : segment ≠ [])
    (hselected : ∀ column, start ≤ column → column < start + segment.length →
      selected column = true → (column, old) ∈ place start (segment :: rest)) :
    (List.range' start segment.length).countP selected =
      if selected start then 1 else 0 := by
  cases segment with
  | nil => exact absurd rfl hne
  | cons c segment =>
    have htail : (List.range' (start + 1) segment.length).countP selected = 0 := by
      rw [List.countP_eq_zero]
      intro column hcolumn hsel
      rw [List.mem_range'_1] at hcolumn
      have hmem := hselected column (by omega) (by rw [List.length_cons]; omega) hsel
      rw [place, List.mem_cons] at hmem
      rcases hmem with heq | hmem
      · have := (Prod.mk.inj heq).1
        omega
      · have := le_of_mem_place hmem
        rw [List.length_cons] at this
        omega
    rw [List.length_cons, List.range'_succ, List.countP_cons, htail, Nat.zero_add]

/-- Every selected column moves what follows it by the difference of the lengths. -/
theorem length_map_replaceRun {start : Nat} {list : List (List Char)}
    (hne : ∀ segment ∈ list, segment ≠ [])
    (hselected : ∀ column, start ≤ column → column < start + list.flatten.length →
      selected column = true → (column, old) ∈ place start list) :
    ((place start list).map (replaceRun selected new)).flatten.length
        + (List.range' start list.flatten.length).countP selected * old.length =
      list.flatten.length
        + (List.range' start list.flatten.length).countP selected * new.length := by
  induction list generalizing start with
  | nil => simp [place]
  | cons segment rest ih =>
    rw [List.forall_mem_cons] at hne
    rw [List.flatten_cons, List.length_append] at hselected
    have hpos : 0 < segment.length := List.length_pos_iff.mpr hne.1
    have hselected' : ∀ column, start + segment.length ≤ column →
        column < start + segment.length + rest.flatten.length → selected column = true →
        (column, old) ∈ place (start + segment.length) rest := by
      intro column hle hlt hsel
      have hmem := hselected column (by omega) (by omega) hsel
      rw [place, List.mem_cons] at hmem
      rcases hmem with heq | hmem
      · have := (Prod.mk.inj heq).1
        omega
      · exact hmem
    have hrest := ih hne.2 hselected'
    have hfirst : (List.range' start segment.length).countP selected =
        if selected start then 1 else 0 :=
      countP_range'_segment hne.1 fun column hle hlt hsel =>
        hselected column hle (by omega) hsel
    rw [List.flatten_cons, List.length_append, ← List.range'_append_1, List.countP_append,
      hfirst, place, List.map_cons, List.flatten_cons, List.length_append]
    cases hstart : selected start with
    | false =>
      simp only [replaceRun, hstart, Bool.false_eq_true, if_false, Nat.zero_add]
      omega
    | true =>
      have hmem := hselected start le_rfl (by omega) hstart
      have hsegment : segment = old := by
        rw [place, List.mem_cons] at hmem
        rcases hmem with heq | hmem
        · exact (Prod.mk.inj heq).2.symm
        · have := le_of_mem_place hmem
          omega
      simp only [replaceRun, hstart, if_true, Nat.add_mul, Nat.one_mul, hsegment] at hrest ⊢
      omega

/-- A segment moves by the difference of the lengths for every selected column before
it. -/
theorem length_replaceRuns_before (hselects : Selects selected old line)
    (hold : IsIdentifier old) {before after : List (List Char)} {segment : List Char}
    (hsegments : segments line = before ++ segment :: after) :
    ((place 0 before).map (replaceRun selected new)).flatten.length
        + selectedBefore selected before.flatten.length * old.length =
      before.flatten.length + selectedBefore selected before.flatten.length * new.length := by
  rw [selectedBefore, List.range_eq_range']
  apply length_map_replaceRun
  · intro run hmem
    have hmem' : run ∈ segments line := by
      rw [hsegments]
      exact List.mem_append_left _ hmem
    exact ne_nil_of_mem_segments hmem'
  · intro column _ hlt hsel
    have hmem := hselects.mem_placedSegments hold hsel
    rw [placedSegments, hsegments, place_append, List.mem_append] at hmem
    rcases hmem with hmem | hmem
    · exact hmem
    · have := le_of_mem_place hmem
      omega

/-- If the new word did not stand in the line, it stands in the new line exactly at the
selected places, moved by the replacements before them. -/
theorem isWholeWordAt_replaceRuns_new_iff (hselects : Selects selected old line)
    (hold : IsIdentifier old) (hnew : IsIdentifier new)
    (hfresh : ∀ column, isWholeWordAt line new column = false) {moved : Nat} :
    isWholeWordAt (replaceRuns selected new line).flatten new moved = true ↔
      ∃ column, selected column = true ∧
        moved + selectedBefore selected column * old.length =
          column + selectedBefore selected column * new.length := by
  rw [← mem_placedSegments_iff hnew, mem_placedSegments_replaceRuns_iff hselects hold hnew]
  constructor
  · rintro ⟨before, segment, after, hsegments, hword, rfl⟩
    have hmem : (before.flatten.length, segment) ∈ placedSegments line :=
      mem_place_iff.mpr ⟨before, after, hsegments, (Nat.zero_add _).symm⟩
    rcases replaceRun_cases hselects hold hmem with ⟨hsel, _, _⟩ | ⟨_, hrun⟩
    · exact ⟨before.flatten.length, hsel, length_replaceRuns_before hselects hold hsegments⟩
    · -- A new word that stands at a place not selected stood there before.
      rw [hrun] at hword
      obtain rfl := hword
      rw [mem_placedSegments_iff hnew, hfresh] at hmem
      cases hmem
  · rintro ⟨column, hsel, hplace⟩
    obtain ⟨before, after, hsegments, rfl⟩ :=
      mem_place_iff.mp (hselects.mem_placedSegments hold hsel)
    rw [Nat.zero_add] at hsel hplace
    refine ⟨before, old, after, hsegments, ?_, ?_⟩
    · simp only [replaceRun, hsel, if_true]
    · exact Nat.add_right_cancel
        (hplace.trans (length_replaceRuns_before hselects hold hsegments).symm)

/-- The old word stands in the new line only where it stood and was not selected. -/
theorem exists_of_isWholeWordAt_replaceRuns_old (hselects : Selects selected old line)
    (hold : IsIdentifier old) (hnew : IsIdentifier new) (hne : new ≠ old) {moved : Nat}
    (h : isWholeWordAt (replaceRuns selected new line).flatten old moved = true) :
    ∃ column, selected column = false ∧ isWholeWordAt line old column = true := by
  rw [← mem_placedSegments_iff hold, mem_placedSegments_replaceRuns_iff hselects hold hnew] at h
  rcases h with ⟨before, segment, after, hsegments, hword, rfl⟩
  have hmem : (before.flatten.length, segment) ∈ placedSegments line :=
    mem_place_iff.mpr ⟨before, after, hsegments, (Nat.zero_add _).symm⟩
  rcases replaceRun_cases hselects hold hmem with ⟨_, _, hrun⟩ | ⟨hsel, hrun⟩
  · rw [hrun] at hword
    exact absurd hword.symm hne
  · rw [hrun] at hword
    obtain rfl := hword
    exact ⟨before.flatten.length, hsel, (mem_placedSegments_iff hold).mp hmem⟩

/-! ## Replacing back -/

/-- A new word that did not stand in the line can be replaced back. -/
theorem replaceRuns_replaceRuns (hselects : Selects selected old line)
    (hold : IsIdentifier old) (hnew : IsIdentifier new)
    (hfresh : ∀ column, isWholeWordAt line new column = false) :
    replaceRuns (isWholeWordAt (replaceRuns selected new line).flatten new) old
        (replaceRuns selected new line).flatten = segments line := by
  set renamed := (replaceRuns selected new line).flatten with hrenamed
  -- Every segment of the new line is replaced exactly if it is the new word.
  have hback : replaceRuns (isWholeWordAt renamed new) old renamed =
      (segments renamed).map fun segment => if segment = new then old else segment := by
    conv_rhs => rw [← map_snd_place 0 (segments renamed), List.map_map, ← placedSegments]
    rw [replaceRuns, List.map_inj_left]
    intro placed hplaced
    by_cases heq : placed.2 = new
    · have hwhole : isWholeWordAt renamed new placed.1 = true :=
        (mem_placedSegments_iff hnew).mp (heq ▸ hplaced)
      simp [replaceRun, hwhole, heq]
    · have hwhole : isWholeWordAt renamed new placed.1 = false := by
        rw [← Bool.not_eq_true, ← mem_placedSegments_iff hnew]
        intro hmem
        exact heq (eq_of_mem_placedSegments hplaced hmem)
      simp [replaceRun, hwhole, heq]
  rw [hback, hrenamed, segments_replaceRuns hselects hold hnew, replaceRuns, List.map_map]
  conv_rhs => rw [← map_snd_place 0 (segments line), ← placedSegments]
  rw [List.map_inj_left]
  intro placed hplaced
  rcases replaceRun_cases hselects hold hplaced with ⟨_, hsegment, hrun⟩ | ⟨_, hrun⟩
  · rw [Function.comp_apply, hrun, if_pos rfl, hsegment]
  · have hother : placed.2 ≠ new := by
      intro heq
      have hmem : (placed.1, new) ∈ placedSegments line := by
        rw [← heq]
        exact hplaced
      rw [mem_placedSegments_iff hnew, hfresh] at hmem
      cases hmem
    rw [Function.comp_apply, hrun, if_neg hother]

end Replacement

end GrammarServer.Text
