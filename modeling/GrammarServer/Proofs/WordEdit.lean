import GrammarServer.Proofs.Occurrence
import GrammarServer.Proofs.TextEdit
import GrammarServer.Proofs.WordReplacement

/-!
# Edits that replace words

A list of edits, each of which covers one whole-word match of an identifier and writes
another identifier there, changes a text line by line: the endings stay, and in each line
the covered runs are replaced.

Main results:

- Theorem `spliceFrom_line`: the splices of a line write its replaced runs.
- Theorem `rawLines_applyEdits`: the raw lines of the edited text.
-/

namespace GrammarServer

open Text

/-! ## One line -/

namespace Text

/-- Splices that write a new word for the old one at the selected columns of a line that
starts at offset `base`. -/
structure SplicesLine (splices : List Splice) (base : Nat) (selected : Nat → Bool)
    (old new : List Char) (line : RawLine) : Prop where
  inserted : ∀ column < line.chars.length,
    insertedAt splices (base + column) = if selected column then new else []
  removed : ∀ column < line.chars.length,
    (isRemovedAt splices (base + column) = true ↔
      ∃ start, selected start = true ∧ start ≤ column ∧ column < start + old.length)

variable {splices : List Splice} {base : Nat} {selected : Nat → Bool} {old new : List Char}
  {line : RawLine}

/-- The columns of a segment lie inside its line. -/
theorem add_length_le_of_mem_placedSegments {content : Line} {placed : Nat × List Char}
    (h : placed ∈ placedSegments content) : placed.1 + placed.2.length ≤ content.length := by
  rcases mem_place_iff.mp h with ⟨before, after, hsegments, hcolumn⟩
  rw [hcolumn, ← flatten_segments content, hsegments, List.flatten_append, List.flatten_cons,
    List.length_append, List.length_append]
  omega

/-- No selected column lies inside a segment, except for its first one. -/
theorem Selects.eq_of_overlap {content : Line} (hselects : Selects selected old content)
    (hold : IsIdentifier old) {placed : Nat × List Char} (hplaced : placed ∈ placedSegments content)
    {start column : Nat} (hstart : selected start = true) (hle : start ≤ column)
    (hlt : column < start + old.length) (hle' : placed.1 ≤ column)
    (hlt' : column < placed.1 + placed.2.length) : start = placed.1 := by
  rcases eq_or_apart_of_mem_placedSegments hplaced
    (hselects.mem_placedSegments hold hstart) with heq | happart | happart
  · rw [heq]
  · simp only at happart
    omega
  · simp only at happart
    omega

/-- A selected column among those of a segment is the first one. -/
theorem Selects.eq_zero {content : Line} (hselects : Selects selected old content)
    (hold : IsIdentifier old) {placed : Nat × List Char} (hplaced : placed ∈ placedSegments content)
    {k : Nat} (hk : k < placed.2.length) (hsel : selected (placed.1 + k) = true) : k = 0 := by
  have hpos := hold.length_pos
  have := hselects.eq_of_overlap hold hplaced hsel le_rfl (by omega) (by omega) (by omega)
  omega

/-- The columns of a segment are columns of the raw line. -/
theorem lt_length_chars {placed : Nat × List Char} (hplaced : placed ∈ placedSegments line.content)
    {k : Nat} (hk : k < placed.2.length) : placed.1 + k < line.chars.length := by
  have hle := add_length_le_of_mem_placedSegments hplaced
  rw [RawLine.chars, List.length_append]
  omega

/-- The splices write the new word for a selected segment. -/
theorem SplicesLine.spliceFrom_selected (h : SplicesLine splices base selected old new line)
    (hselects : Selects selected old line.content) (hold : IsIdentifier old)
    {placed : Nat × List Char} (hplaced : placed ∈ placedSegments line.content)
    (hsel : selected placed.1 = true) :
    spliceFrom splices (base + placed.1) placed.2 = new := by
  have hsegment := hselects.snd_eq hold hplaced hsel
  rcases List.exists_cons_of_ne_nil hold.ne_nil with ⟨c, rest, hcons⟩
  have hlength : placed.2.length = rest.length + 1 := by
    rw [hsegment, hcons, List.length_cons]
  have hremoved : ∀ k < placed.2.length,
      isRemovedAt splices (base + (placed.1 + k)) = true := by
    intro k hk
    refine (h.removed _ (lt_length_chars hplaced hk)).mpr ⟨placed.1, hsel, by omega, ?_⟩
    rw [← hsegment]
    omega
  have hinserted : insertedAt splices (base + placed.1) = new := by
    have hlt := lt_length_chars hplaced (show 0 < placed.2.length by omega)
    rw [Nat.add_zero] at hlt
    rw [h.inserted placed.1 hlt, if_pos hsel]
  -- After the first character nothing is inserted any more, and all is removed.
  have hrest : spliceFrom splices (base + placed.1 + 1) rest = [] := by
    refine (spliceFrom_of_no_start ?_ : _ = if true then [] else rest)
    intro k hk
    have hk' : k + 1 < placed.2.length := by omega
    have hoffset : base + placed.1 + 1 + k = base + (placed.1 + (k + 1)) := by omega
    rw [hoffset, h.inserted _ (lt_length_chars hplaced hk')]
    refine ⟨?_, hremoved (k + 1) hk'⟩
    rw [if_neg]
    intro hsel'
    exact Nat.succ_ne_zero k (hselects.eq_zero hold hplaced hk' hsel')
  have hfirst := hremoved 0 (by omega)
  rw [Nat.add_zero] at hfirst
  rw [hsegment, hcons, spliceFrom, hinserted, if_pos hfirst, hrest, List.nil_append,
    List.append_nil]

/-- The splices keep a segment that is not selected. -/
theorem SplicesLine.spliceFrom_kept (h : SplicesLine splices base selected old new line)
    (hselects : Selects selected old line.content) (hold : IsIdentifier old)
    {placed : Nat × List Char} (hplaced : placed ∈ placedSegments line.content)
    (hsel : selected placed.1 = false) :
    spliceFrom splices (base + placed.1) placed.2 = placed.2 := by
  refine (spliceFrom_of_no_start ?_ : _ = if false then [] else placed.2)
  intro k hk
  rw [Nat.add_assoc, h.inserted _ (lt_length_chars hplaced hk)]
  constructor
  · rw [if_neg]
    intro hsel'
    obtain rfl := hselects.eq_zero hold hplaced hk hsel'
    rw [Nat.add_zero, hsel] at hsel'
    cases hsel'
  · rw [← Bool.not_eq_true, h.removed _ (lt_length_chars hplaced hk)]
    rintro ⟨start, hstart, hle, hlt⟩
    have heq := hselects.eq_of_overlap hold hplaced hstart hle hlt (by omega) (by omega)
    rw [heq, hsel] at hstart
    cases hstart

/-- The splices write the new word or keep the segment. -/
theorem SplicesLine.spliceFrom_segment (h : SplicesLine splices base selected old new line)
    (hselects : Selects selected old line.content) (hold : IsIdentifier old)
    {placed : Nat × List Char} (hplaced : placed ∈ placedSegments line.content) :
    spliceFrom splices (base + placed.1) placed.2 = replaceRun selected new placed := by
  rcases replaceRun_cases hselects hold hplaced with ⟨hsel, _, hrun⟩ | ⟨hsel, hrun⟩
  · rw [hrun, h.spliceFrom_selected hselects hold hplaced hsel]
  · rw [hrun, h.spliceFrom_kept hselects hold hplaced hsel]

/-- Splices act on placed segments one by one. -/
theorem spliceFrom_flatten_place {start : Nat} {list : List (List Char)}
    (h : ∀ placed ∈ place start list,
      spliceFrom splices (base + placed.1) placed.2 = replaceRun selected new placed) :
    spliceFrom splices (base + start) list.flatten =
      ((place start list).map (replaceRun selected new)).flatten := by
  induction list generalizing start with
  | nil => rfl
  | cons segment rest ih =>
    rw [place, List.forall_mem_cons] at h
    rw [List.flatten_cons, spliceFrom_append, h.1, Nat.add_assoc, ih h.2, place, List.map_cons,
      List.flatten_cons]

/-- The splices of a line write its replaced runs and keep its ending. -/
theorem SplicesLine.spliceFrom_line (h : SplicesLine splices base selected old new line)
    (hselects : Selects selected old line.content) (hold : IsIdentifier old) :
    spliceFrom splices base line.chars =
      (replaceRuns selected new line.content).flatten ++ line.ending.chars := by
  have hinside : ∀ {column}, selected column = true →
      column + old.length ≤ line.content.length := by
    intro column hsel
    exact add_length_le_of_mem_placedSegments (hselects.mem_placedSegments hold hsel)
  have hcontent : spliceFrom splices (base + 0) (segments line.content).flatten =
      (replaceRuns selected new line.content).flatten :=
    spliceFrom_flatten_place fun placed hplaced => h.spliceFrom_segment hselects hold hplaced
  have hpos := hold.length_pos
  have hending : spliceFrom splices (base + line.content.length) line.ending.chars =
      line.ending.chars := by
    refine (spliceFrom_of_no_start ?_ : _ = if false then [] else line.ending.chars)
    intro k hk
    have hlt : line.content.length + k < line.chars.length := by
      rw [RawLine.chars, List.length_append]
      omega
    rw [Nat.add_assoc, h.inserted _ hlt]
    constructor
    · rw [if_neg]
      intro hsel
      have := hinside hsel
      omega
    · rw [← Bool.not_eq_true, h.removed _ hlt]
      rintro ⟨start, hsel, _, hlt⟩
      have := hinside hsel
      omega
  rw [flatten_segments, Nat.add_zero] at hcontent
  rw [RawLine.chars, spliceFrom_append, hcontent, hending]

end Text

/-! ## All lines -/

/-- Edits that write one word for another, each at another place where the old word stands
alone. -/
structure ReplacesWord (text old new : String) (edits : List TextEdit) : Prop where
  covers : ∀ edit ∈ edits, CoversWord text old edit.range
  writes : ∀ edit ∈ edits, edit.newText = new
  nodup : edits.Nodup

/-- Whether an edit starts at a column of a line. -/
def isEdited (edits : List TextEdit) (index column : Nat) : Bool :=
  edits.any fun edit => edit.range.start = ⟨index, column⟩

theorem isEdited_iff {edits : List TextEdit} {index column : Nat} :
    isEdited edits index column = true ↔
      ∃ edit ∈ edits, edit.range.start = ⟨index, column⟩ := by
  simp [isEdited]

/-- A word that stands in a text lies inside a raw line. -/
theorem exists_rawLine_of_standsAt {text name : String} {index column : Nat}
    (h : StandsAt (lines text) name index column) :
    ∃ line, (rawLines text.toList)[index]? = some line ∧
      isWholeWordAt line.content name.toList column = true ∧
      column + name.length ≤ line.content.length := by
  rcases h with ⟨content, hget, hwhole⟩
  rw [lines, List.getElem?_map, Option.map_eq_some_iff] at hget
  rcases hget with ⟨line, hline, rfl⟩
  rcases isWholeWordAt_iff.mp hwhole with ⟨front, rest, hcontent, rfl, _⟩
  refine ⟨line, hline, hwhole, ?_⟩
  rw [hcontent, List.length_append, List.length_append, String.length_toList]
  omega

/-- The splice of an edit that covers a word. -/
theorem toSplice_eq {text old : String} {index column : Nat} {edit : TextEdit}
    (hstands : StandsAt (lines text) old index column)
    (hrange : edit.range = ⟨⟨index, column⟩, ⟨index, column + old.length⟩⟩) :
    edit.toSplice (rawLines text.toList) =
      ⟨lineStart (rawLines text.toList) index + column,
        lineStart (rawLines text.toList) index + (column + old.length), edit.newText.toList⟩ := by
  rcases exists_rawLine_of_standsAt hstands with ⟨line, hline, _, hle⟩
  simp only [TextEdit.toSplice, offsetOf, hrange, hline]
  rw [Nat.min_eq_left (by omega), Nat.min_eq_left hle]

/-- An offset inside a word belongs to no other line. -/
theorem eq_of_offset_eq {text old : String} {index start offset index' column : Nat}
    {line : RawLine} (hstands : StandsAt (lines text) old index start)
    (hlt : offset < start + old.length) (hline : (rawLines text.toList)[index']? = some line)
    (hcolumn : column < line.chars.length)
    (heq : lineStart (rawLines text.toList) index + offset =
      lineStart (rawLines text.toList) index' + column) :
    index = index' ∧ offset = column := by
  rcases exists_rawLine_of_standsAt hstands with ⟨line', hline', _, hinside⟩
  have hoffset : offset < line'.chars.length := by
    rw [RawLine.chars, List.length_append]
    omega
  obtain rfl := index_eq_of_lineStart hline' hline hoffset hcolumn heq
  exact ⟨rfl, by omega⟩

namespace ReplacesWord

variable {text old new : String} {edits : List TextEdit}

/-- The old word stands alone at every edited place. -/
theorem standsAt (h : ReplacesWord text old new edits) {index column : Nat}
    (hedited : isEdited edits index column = true) :
    StandsAt (lines text) old index column := by
  rcases isEdited_iff.mp hedited with ⟨edit, hmem, hstart⟩
  rcases h.covers edit hmem with ⟨index', column', hstands, hrange⟩
  rw [hrange, Position.mk.injEq] at hstart
  rcases hstart with ⟨rfl, rfl⟩
  exact hstands

/-- The edited columns of a line are places of the old word. -/
theorem selects (h : ReplacesWord text old new edits) {index : Nat} {line : RawLine}
    (hline : (rawLines text.toList)[index]? = some line) :
    Selects (isEdited edits index) old.toList line.content := by
  intro column hedited
  rcases exists_rawLine_of_standsAt (h.standsAt hedited) with ⟨line', hline', hwhole, _⟩
  rw [hline, Option.some.injEq] at hline'
  rwa [hline']

/-- Edits that start at one place are the same. -/
theorem eq_of_start_eq (h : ReplacesWord text old new edits) {edit other : TextEdit}
    (hmem : edit ∈ edits) (hother : other ∈ edits) (hstart : other.range.start = edit.range.start) :
    other = edit := by
  rcases h.covers edit hmem with ⟨index, column, _, hrange⟩
  rcases h.covers other hother with ⟨index', column', _, hrange'⟩
  rw [hrange, hrange', Position.mk.injEq] at hstart
  rcases hstart with ⟨rfl, rfl⟩
  have hwrites := (h.writes other hother).trans (h.writes edit hmem).symm
  rcases edit with ⟨range, newText⟩
  rcases other with ⟨range', newText'⟩
  rw [TextEdit.mk.injEq]
  exact ⟨hrange'.trans hrange.symm, hwrites⟩

/-- Only one edit starts at an edited place. -/
theorem filter_start_eq (h : ReplacesWord text old new edits) {edit : TextEdit}
    (hmem : edit ∈ edits) :
    edits.filter (fun other => other.range.start = edit.range.start) = [edit] := by
  set starting := edits.filter (fun other => other.range.start = edit.range.start) with hstarting
  have hsame : ∀ other ∈ starting, other = edit := by
    intro other hother
    rw [hstarting, List.mem_filter, decide_eq_true_iff] at hother
    exact h.eq_of_start_eq hmem hother.1 hother.2
  have hnodup : starting.Nodup := h.nodup.filter _
  have hpos : 0 < starting.length :=
    List.length_pos_of_mem (List.mem_filter.mpr ⟨hmem, by simp⟩)
  rw [List.eq_replicate_of_mem hsame] at hnodup ⊢
  rw [Nat.le_antisymm (List.nodup_replicate.mp hnodup) hpos]
  rfl

/-- The splice of an edit starts at the place of the old word. -/
theorem toSplice_of_mem (h : ReplacesWord text old new edits) {edit : TextEdit}
    (hmem : edit ∈ edits) :
    ∃ index start, StandsAt (lines text) old index start ∧ edit.range.start = ⟨index, start⟩ ∧
      edit.toSplice (rawLines text.toList) =
        ⟨lineStart (rawLines text.toList) index + start,
          lineStart (rawLines text.toList) index + (start + old.length), new.toList⟩ := by
  rcases h.covers edit hmem with ⟨index, start, hstands, hrange⟩
  refine ⟨index, start, hstands, by rw [hrange], ?_⟩
  rw [toSplice_eq hstands hrange, h.writes edit hmem]

/-- The edits insert the new word at the edited columns of a line and nowhere else. -/
theorem insertedAt_eq (h : ReplacesWord text old new edits) (hold : IsIdentifier old.toList)
    {index column : Nat} {line : RawLine} (hline : (rawLines text.toList)[index]? = some line)
    (hlt : column < line.chars.length) :
    insertedAt (edits.map (TextEdit.toSplice (rawLines text.toList)))
        (lineStart (rawLines text.toList) index + column) =
      if isEdited edits index column then new.toList else [] := by
  have hpos : 0 < old.length := by
    rw [← String.length_toList]
    exact hold.length_pos
  have hfilter : edits.filter (fun edit => (edit.toSplice (rawLines text.toList)).start =
        lineStart (rawLines text.toList) index + column) =
      edits.filter (fun edit => edit.range.start = ⟨index, column⟩) := by
    apply List.filter_congr
    intro edit hmem
    rcases h.toSplice_of_mem hmem with ⟨index', start, hstands, hstart, hsplice⟩
    rw [decide_eq_decide, hsplice, hstart, Position.mk.injEq]
    constructor
    · intro heq
      exact eq_of_offset_eq hstands (by omega) hline hlt heq
    · rintro ⟨rfl, rfl⟩
      rfl
  have hinserted : insertedAt (edits.map (TextEdit.toSplice (rawLines text.toList)))
        (lineStart (rawLines text.toList) index + column) =
      (edits.filter (fun edit => edit.range.start = ⟨index, column⟩)).flatMap
        (·.newText.toList) := by
    rw [← hfilter, insertedAt, List.filter_map, List.flatMap_map]
    rfl
  rw [hinserted]
  cases hedited : isEdited edits index column with
  | true =>
    rcases isEdited_iff.mp hedited with ⟨edit, hmem, hstart⟩
    rw [← hstart, h.filter_start_eq hmem, List.flatMap_singleton, h.writes edit hmem]
    rfl
  | false =>
    have hnil : edits.filter (fun edit => edit.range.start = ⟨index, column⟩) = [] := by
      rw [List.filter_eq_nil_iff]
      intro edit hmem hstart
      rw [isEdited_iff.mpr ⟨edit, hmem, by simpa using hstart⟩] at hedited
      cases hedited
    rw [hnil]
    rfl

/-- The edits remove the characters of the old word at the edited columns of a line. -/
theorem isRemovedAt_iff (h : ReplacesWord text old new edits) {index column : Nat}
    {line : RawLine} (hline : (rawLines text.toList)[index]? = some line)
    (hlt : column < line.chars.length) :
    isRemovedAt (edits.map (TextEdit.toSplice (rawLines text.toList)))
        (lineStart (rawLines text.toList) index + column) = true ↔
      ∃ start, isEdited edits index start = true ∧ start ≤ column ∧
        column < start + old.length := by
  simp only [isRemovedAt, List.any_map, List.any_eq_true, Function.comp_apply,
    Bool.and_eq_true, decide_eq_true_eq]
  constructor
  · rintro ⟨edit, hmem, hle, hlt'⟩
    rcases h.toSplice_of_mem hmem with ⟨index', start, hstands, hstart, hsplice⟩
    rw [hsplice] at hle hlt'
    simp only at hle hlt'
    -- The offset, counted from the start of the edit's line, lies inside the old word.
    rcases Nat.exists_eq_add_of_le hle with ⟨offset, hoffset⟩
    obtain ⟨rfl, hcolumn⟩ := eq_of_offset_eq hstands
      (show start + offset < start + old.length by omega) hline hlt (by omega)
    exact ⟨start, isEdited_iff.mpr ⟨edit, hmem, hstart⟩, by omega, by omega⟩
  · rintro ⟨start, hedited, hle, hlt'⟩
    rcases isEdited_iff.mp hedited with ⟨edit, hmem, hstart⟩
    rcases h.toSplice_of_mem hmem with ⟨index', start', _, hstart', hsplice⟩
    rw [hstart, Position.mk.injEq] at hstart'
    rcases hstart' with ⟨rfl, rfl⟩
    refine ⟨edit, hmem, ?_, ?_⟩
    · rw [hsplice]
      simp only
      omega
    · rw [hsplice]
      simp only
      omega

/-- The splices of the edits replace the words of each line. -/
theorem splicesLine (h : ReplacesWord text old new edits) (hold : IsIdentifier old.toList)
    {index : Nat} {line : RawLine} (hline : (rawLines text.toList)[index]? = some line) :
    SplicesLine (edits.map (TextEdit.toSplice (rawLines text.toList)))
      (lineStart (rawLines text.toList) index) (isEdited edits index) old.toList new.toList
      line := by
  constructor
  · intro column hlt
    exact h.insertedAt_eq hold hline hlt
  · intro column hlt
    rw [String.length_toList]
    exact h.isRemovedAt_iff hline hlt

/-- Nothing is inserted at the end of the text. -/
theorem insertedAt_length (h : ReplacesWord text old new edits) (hold : IsIdentifier old.toList) :
    insertedAt (edits.map (TextEdit.toSplice (rawLines text.toList))) text.toList.length = [] := by
  have hpos : 0 < old.length := by
    rw [← String.length_toList]
    exact hold.length_pos
  have hnil : (edits.map (TextEdit.toSplice (rawLines text.toList))).filter
      (·.start = text.toList.length) = [] := by
    rw [List.filter_eq_nil_iff]
    intro splice hmem hend
    rcases List.mem_map.mp hmem with ⟨edit, hedit, rfl⟩
    rcases h.toSplice_of_mem hedit with ⟨index, start, hstands, _, hsplice⟩
    rcases exists_rawLine_of_standsAt hstands with ⟨line, hline, _, hinside⟩
    have hle := lineStart_add_le_length hline
    rw [flatMap_chars_rawLines, RawLine.chars, List.length_append] at hle
    rw [hsplice, decide_eq_true_eq] at hend
    simp only at hend
    omega
  rw [insertedAt, hnil]
  rfl

end ReplacesWord

/-- A line with the new word written at the edited columns. -/
def editLine (edits : List TextEdit) (new : String) (index : Nat) (line : RawLine) : RawLine :=
  ⟨(replaceRuns (isEdited edits index) new.toList line.content).flatten, line.ending⟩

/-- Editing lines keeps their endings. -/
theorem map_ending_mapIdx_editLine (edits : List TextEdit) (new : String)
    (list : List RawLine) :
    (list.mapIdx (editLine edits new)).map (·.ending) = list.map (·.ending) := by
  apply List.ext_getElem?
  intro index
  rw [List.getElem?_map, List.getElem?_map, List.getElem?_mapIdx, Option.map_map]
  rfl

namespace ReplacesWord

variable {text old new : String} {edits : List TextEdit}

/-- An edited line is still a line. -/
theorem isProper_editLine (h : ReplacesWord text old new edits) (hold : IsIdentifier old.toList)
    (hnew : IsIdentifier new.toList) {index : Nat} {line : RawLine}
    (hline : (rawLines text.toList)[index]? = some line) :
    (editLine edits new index line).IsProper := by
  have hproper := (isCut_rawLines text.toList).proper line (List.mem_of_getElem? hline)
  have hselects := h.selects hline
  refine ⟨?_, ?_, ?_⟩
  · intro hmem
    rw [editLine, mem_flatten_replaceRuns_iff hselects hold hnew (by decide)] at hmem
    exact hproper.no_feed hmem
  · intro hending hlast
    apply hproper.no_return hending
    exact getLast?_of_getLast?_replaceRuns hselects hold hnew (by decide) hlast
  · intro hending
    exact flatten_replaceRuns_ne_nil hselects hold hnew (hproper.not_empty hending)

/-- The edits act on a text line by line. -/
theorem toList_applyEdits (h : ReplacesWord text old new edits)
    (hold : IsIdentifier old.toList) :
    (applyEdits text edits).toList =
      ((rawLines text.toList).mapIdx (editLine edits new)).flatMap RawLine.chars := by
  have hlines : (rawLines text.toList).mapIdx (fun index line =>
        spliceFrom (edits.map (TextEdit.toSplice (rawLines text.toList)))
          (0 + lineStart (rawLines text.toList) index) line.chars) =
      ((rawLines text.toList).mapIdx (editLine edits new)).map RawLine.chars := by
    rw [List.mapIdx_eq_iff]
    intro index
    rw [List.getElem?_map, List.getElem?_mapIdx]
    cases hline : (rawLines text.toList)[index]? with
    | none => rfl
    | some line =>
      rw [Option.map_some, Option.map_some, Option.map_some, Nat.zero_add,
        (h.splicesLine hold hline).spliceFrom_line (h.selects hline) hold]
      rfl
  have hsplice := spliceFrom_flatMap_chars
    (edits.map (TextEdit.toSplice (rawLines text.toList))) 0 (rawLines text.toList)
  rw [flatMap_chars_rawLines, hlines] at hsplice
  rw [applyEdits, String.toList_ofList, spliceAll, hsplice, h.insertedAt_length hold,
    List.append_nil, List.flatMap_def]

/-- The raw lines of the edited text are the edited raw lines. -/
theorem rawLines_applyEdits (h : ReplacesWord text old new edits)
    (hold : IsIdentifier old.toList) (hnew : IsIdentifier new.toList) :
    rawLines (applyEdits text edits).toList =
      (rawLines text.toList).mapIdx (editLine edits new) := by
  rw [h.toList_applyEdits hold, rawLines_flatMap_chars]
  constructor
  · intro line hmem
    rcases List.mem_mapIdx.mp hmem with ⟨index, hlt, rfl⟩
    exact h.isProper_editLine hold hnew (List.getElem?_eq_getElem hlt)
  · rw [map_ending_mapIdx_editLine]
    exact (isCut_rawLines text.toList).ended

end ReplacesWord

end GrammarServer
