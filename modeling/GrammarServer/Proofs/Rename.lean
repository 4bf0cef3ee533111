import GrammarServer.Proofs.WordEdit
import Mathlib.Data.List.Nodup

/-!
# Renames are exact and reversible

A rename covers the name's occurrences in all rule bodies and its declaration, each
once.  If the declaring place is a place of the name, applying the edits replaces exactly
these runs; and if the new name stood nowhere in the text, no rule body names the old one
any more, and replacing the new name everywhere by the old one gives the text back.

Main results:

- Theorem `ReplacesWord.pairwise_apart`: edits of whole words lie apart.
- Theorem `ReplacesWord.applyEdits_wordEdits`: a new word can be replaced back.
- Theorem `replacesWord_renameEdits`: a rename replaces whole words.
- Theorem `rename_exact_and_reversible`: the laws of a rename together.
-/

namespace GrammarServer

open Text

/-! ## Ranges that lie apart -/

/-- One position stands before another or at it. -/
def Text.Position.AtMost (first second : Position) : Prop :=
  first.line < second.line ∨ first.line = second.line ∧ first.character ≤ second.character

/-- One of two ranges ends before the other starts. -/
def Text.Range.Apart (first second : Range) : Prop :=
  first.stop.AtMost second.start ∨ second.stop.AtMost first.start

/-- Two ranges that cover the same identifier at different places lie apart. -/
theorem CoversWord.apart {text name : String} (hname : IsIdentifier name.toList)
    {first second : Range} (hfirst : CoversWord text name first)
    (hsecond : CoversWord text name second) (hne : first ≠ second) : first.Apart second := by
  rcases hfirst with ⟨index, column, ⟨line, hget, hwhole⟩, rfl⟩
  rcases hsecond with ⟨index', column', ⟨line', hget', hwhole'⟩, rfl⟩
  rcases Nat.lt_trichotomy index index' with hlt | rfl | hgt
  · exact .inl (.inl hlt)
  · rw [hget, Option.some.injEq] at hget'
    subst hget'
    rcases eq_or_apart_of_isWholeWordAt hname hname hwhole hwhole' with ⟨rfl, _⟩ | hlt | hlt
    · exact absurd rfl hne
    · rw [String.length_toList] at hlt
      exact .inl (.inr ⟨rfl, hlt.le⟩)
    · rw [String.length_toList] at hlt
      exact .inr (.inr ⟨rfl, hlt.le⟩)
  · exact .inr (.inl hgt)

/-- A name that does not stand on a line is nowhere a whole word of it. -/
theorem isWholeWordAt_eq_false {lines : List Line} {name : String} {index : Nat} {line : Line}
    (hline : lines[index]? = some line) (h : ∀ column, ¬ StandsAt lines name index column)
    (column : Nat) : isWholeWordAt line name.toList column = false := by
  rw [← Bool.not_eq_true]
  intro hwhole
  exact h column ⟨line, hline, hwhole⟩

namespace ReplacesWord

variable {text old new : String} {edits : List TextEdit}

/-- Every edit has a range of its own. -/
theorem nodup_ranges (h : ReplacesWord text old new edits) : (edits.map (·.range)).Nodup := by
  refine List.Nodup.map_on ?_ h.nodup
  intro first hfirst second hsecond heq
  exact h.eq_of_start_eq hsecond hfirst (congrArg Range.start heq)

/-- Edits of whole words lie apart. -/
theorem pairwise_apart (h : ReplacesWord text old new edits) (hold : IsIdentifier old.toList) :
    edits.Pairwise fun first second => first.range.Apart second.range := by
  rw [← List.pairwise_map]
  apply h.nodup_ranges.pairwise_of_forall_ne
  intro first hfirst second hsecond hne
  rcases List.mem_map.mp hfirst with ⟨edit, hedit, rfl⟩
  rcases List.mem_map.mp hsecond with ⟨other, hother, rfl⟩
  exact (h.covers edit hedit).apart hold (h.covers other hother) hne

/-! ## The lines of the edited text -/

/-- The endings of the lines stay. -/
theorem endings_applyEdits (h : ReplacesWord text old new edits)
    (hold : IsIdentifier old.toList) (hnew : IsIdentifier new.toList) :
    (rawLines (applyEdits text edits).toList).map (·.ending) =
      (rawLines text.toList).map (·.ending) := by
  rw [h.rawLines_applyEdits hold hnew, map_ending_mapIdx_editLine]

/-- The lines of the edited text hold the replaced runs. -/
theorem getElem?_lines_applyEdits (h : ReplacesWord text old new edits)
    (hold : IsIdentifier old.toList) (hnew : IsIdentifier new.toList) (index : Nat) :
    (lines (applyEdits text edits))[index]? =
      (lines text)[index]?.map fun line =>
        (replaceRuns (isEdited edits index) new.toList line).flatten := by
  rw [lines, h.rawLines_applyEdits hold hnew, lines, List.getElem?_map, List.getElem?_map,
    List.getElem?_mapIdx, Option.map_map, Option.map_map]
  rfl

/-- The edited columns of a line without its ending are places of the old word. -/
theorem selects_line (h : ReplacesWord text old new edits) {index : Nat} {line : Line}
    (hline : (lines text)[index]? = some line) :
    Selects (isEdited edits index) old.toList line := by
  rw [lines, List.getElem?_map, Option.map_eq_some_iff] at hline
  rcases hline with ⟨raw, hraw, rfl⟩
  exact h.selects hraw

/-- If the new word stood nowhere, it stands exactly at the edited places, moved by the
edits before them. -/
theorem standsAt_new_iff (h : ReplacesWord text old new edits)
    (hold : IsIdentifier old.toList) (hnew : IsIdentifier new.toList)
    (hfresh : ∀ index column, ¬ StandsAt (lines text) new index column) {index moved : Nat} :
    StandsAt (lines (applyEdits text edits)) new index moved ↔
      ∃ column, isEdited edits index column = true ∧
        moved + selectedBefore (isEdited edits index) column * old.length =
          column + selectedBefore (isEdited edits index) column * new.length := by
  unfold StandsAt
  rw [h.getElem?_lines_applyEdits hold hnew]
  cases hline : (lines text)[index]? with
  | none =>
    refine iff_of_false (by simp) ?_
    rintro ⟨column, hedited, _⟩
    rcases h.standsAt hedited with ⟨line, hget, _⟩
    rw [hline] at hget
    cases hget
  | some line =>
    have hfresh' := isWholeWordAt_eq_false hline (hfresh index)
    simp only [Option.map_some, Option.some.injEq, exists_eq_left']
    rw [isWholeWordAt_replaceRuns_new_iff (h.selects_line hline) hold hnew hfresh',
      String.length_toList, String.length_toList]

/-- The old word stands in the edited text only on lines where it stood at a place that was
not edited. -/
theorem exists_of_standsAt_old (h : ReplacesWord text old new edits)
    (hold : IsIdentifier old.toList) (hnew : IsIdentifier new.toList) (hne : new ≠ old)
    {index moved : Nat} (hstands : StandsAt (lines (applyEdits text edits)) old index moved) :
    ∃ column, isEdited edits index column = false ∧ StandsAt (lines text) old index column := by
  rcases hstands with ⟨line', hget, hwhole⟩
  rw [h.getElem?_lines_applyEdits hold hnew, Option.map_eq_some_iff] at hget
  rcases hget with ⟨line, hline, rfl⟩
  have hne' : new.toList ≠ old.toList := fun heq => hne (String.toList_inj.mp heq)
  obtain ⟨column, hedited, hwhole'⟩ :=
    exists_of_isWholeWordAt_replaceRuns_old (h.selects_line hline) hold hnew hne' hwhole
  exact ⟨column, hedited, line, hline, hwhole'⟩

/-- The edited lines hold a semicolon where the old ones do. -/
theorem map_contains_lines_applyEdits (h : ReplacesWord text old new edits)
    (hold : IsIdentifier old.toList) (hnew : IsIdentifier new.toList) :
    (lines (applyEdits text edits)).map (·.contains ';') =
      (lines text).map (·.contains ';') := by
  apply List.ext_getElem?
  intro index
  rw [List.getElem?_map, List.getElem?_map, h.getElem?_lines_applyEdits hold hnew,
    Option.map_map]
  cases hline : (lines text)[index]? with
  | none => rfl
  | some line =>
    have hmem := mem_flatten_replaceRuns_iff (h.selects_line hline) hold hnew
      (show isIdentifierChar ';' = false by decide)
    rw [Option.map_some, Option.map_some, Function.comp_apply, Option.some.injEq,
      Bool.eq_iff_iff, List.contains_iff_mem, List.contains_iff_mem]
    exact hmem

end ReplacesWord

/-! ## Replacing every match -/

/-- The edits that write one word for all whole-word matches of another. -/
def wordEdits (text old new : String) : List TextEdit :=
  (lines text).zipIdx.flatMap fun numbered =>
    (wholeWordColumns numbered.1 old.toList).map fun column =>
      ⟨⟨⟨numbered.2, column⟩, ⟨numbered.2, column + old.length⟩⟩, new⟩

theorem mem_wordEdits_iff {text old new : String} {edit : TextEdit} :
    edit ∈ wordEdits text old new ↔ ∃ index column, StandsAt (lines text) old index column ∧
      edit = ⟨⟨⟨index, column⟩, ⟨index, column + old.length⟩⟩, new⟩ := by
  simp only [wordEdits, List.mem_flatMap, Prod.exists, List.mem_zipIdx_iff_getElem?,
    List.mem_map, mem_wholeWordColumns]
  constructor
  · rintro ⟨line, index, hget, column, hwhole, rfl⟩
    exact ⟨index, column, ⟨line, hget, hwhole⟩, rfl⟩
  · rintro ⟨index, column, ⟨line, hget, hwhole⟩, rfl⟩
    exact ⟨line, index, hget, column, hwhole, rfl⟩

/-- Every match is edited once. -/
theorem nodup_wordEdits (text old new : String) : (wordEdits text old new).Nodup := by
  rw [wordEdits, List.nodup_flatMap]
  constructor
  · intro numbered _
    refine List.Nodup.map_on ?_ (List.nodup_range.filter _)
    intro first _ second _ heq
    simpa using heq
  · have hnumbers : (lines text).zipIdx.Pairwise fun first second => first.2 ≠ second.2 := by
      rw [← List.pairwise_map, List.zipIdx_map_snd]
      exact List.nodup_range'
    apply hnumbers.imp
    intro first second hne edit hfirst hsecond
    rcases List.mem_map.mp hfirst with ⟨column, _, rfl⟩
    rcases List.mem_map.mp hsecond with ⟨column', _, heq⟩
    simp only [TextEdit.mk.injEq, Range.mk.injEq, Position.mk.injEq] at heq
    exact hne heq.1.1.1.symm

/-- The edits of all matches replace the word. -/
theorem replacesWord_wordEdits (text old new : String) :
    ReplacesWord text old new (wordEdits text old new) := by
  refine ⟨?_, ?_, nodup_wordEdits text old new⟩
  · intro edit hmem
    rcases mem_wordEdits_iff.mp hmem with ⟨index, column, hstands, rfl⟩
    exact ⟨index, column, hstands, rfl⟩
  · intro edit hmem
    rcases mem_wordEdits_iff.mp hmem with ⟨index, column, _, rfl⟩
    rfl

/-- All columns are edited at which the word stands. -/
theorem isEdited_wordEdits {text old new : String} {index : Nat} {line : Line}
    (hline : (lines text)[index]? = some line) :
    isEdited (wordEdits text old new) index = isWholeWordAt line old.toList := by
  funext column
  rw [Bool.eq_iff_iff, isEdited_iff]
  constructor
  · rintro ⟨edit, hmem, hstart⟩
    rcases mem_wordEdits_iff.mp hmem with ⟨index', column', ⟨line', hget, hwhole⟩, rfl⟩
    rcases Position.mk.inj hstart with ⟨rfl, rfl⟩
    rw [hline, Option.some.injEq] at hget
    rwa [hget]
  · intro hwhole
    exact ⟨_, mem_wordEdits_iff.mpr ⟨index, column, ⟨line, hline, hwhole⟩, rfl⟩, rfl⟩

/-- If the new word stood nowhere, replacing it by the old one gives the text back. -/
theorem ReplacesWord.applyEdits_wordEdits {text old new : String} {edits : List TextEdit}
    (h : ReplacesWord text old new edits) (hold : IsIdentifier old.toList)
    (hnew : IsIdentifier new.toList)
    (hfresh : ∀ index column, ¬ StandsAt (lines text) new index column) :
    applyEdits (applyEdits text edits) (wordEdits (applyEdits text edits) new old) = text := by
  set renamed := applyEdits text edits with hrenamed
  have hback : (rawLines renamed.toList).mapIdx (editLine (wordEdits renamed new old) old) =
      rawLines text.toList := by
    rw [List.mapIdx_eq_iff]
    intro index
    rw [hrenamed, h.rawLines_applyEdits hold hnew, List.getElem?_mapIdx, ← hrenamed]
    cases hline : (rawLines text.toList)[index]? with
    | none => rfl
    | some line =>
      have hcontent : (lines text)[index]? = some line.content := by
        rw [lines, List.getElem?_map, hline]
        rfl
      have hedited : (lines renamed)[index]? =
          some (replaceRuns (isEdited edits index) new.toList line.content).flatten := by
        rw [hrenamed, h.getElem?_lines_applyEdits hold hnew, hcontent]
        rfl
      rw [Option.map_some, Option.map_some, Option.some.injEq, editLine, editLine,
        isEdited_wordEdits hedited, replaceRuns_replaceRuns (h.selects hline) hold hnew
          (isWholeWordAt_eq_false hcontent (hfresh index)), flatten_segments]
  rw [← String.toList_inj, (replacesWord_wordEdits renamed new old).toList_applyEdits hnew,
    hback, flatMap_chars_rawLines]

/-! ## Valid new names -/

/-- A text of a shape whose characters belong to identifiers is an identifier. -/
theorem isIdentifier_of_hasShape {first next : Char → Bool} {cs : List Char}
    (hfirst : ∀ c, first c = true → isIdentifierChar c = true)
    (hnext : ∀ c, next c = true → isIdentifierChar c = true)
    (h : hasShape first next cs = true) : IsIdentifier cs := by
  cases cs with
  | nil => cases h
  | cons c rest =>
    rw [hasShape, Bool.and_eq_true, List.all_eq_true] at h
    refine ⟨List.cons_ne_nil c rest, ?_⟩
    rw [List.forall_mem_cons]
    exact ⟨hfirst c h.1, fun d hd => hnext d (h.2 d hd)⟩

theorem isIdentifierChar_of_isUpper {c : Char} (h : c.isUpper = true) :
    isIdentifierChar c = true := by
  change (((c.isUpper || c.isLower) || c.isDigit) || c == '_') = true
  simp only [h, Bool.true_or]

theorem isIdentifierChar_of_isLower {c : Char} (h : c.isLower = true) :
    isIdentifierChar c = true := by
  change (((c.isUpper || c.isLower) || c.isDigit) || c == '_') = true
  simp only [h, Bool.true_or, Bool.or_true]

/-- Digits and underscores go on with an identifier of either case. -/
theorem isIdentifierChar_of_or {c : Char} {p : Char → Bool}
    (hp : p c = true → isIdentifierChar c = true)
    (h : (p c || c.isDigit || c == '_') = true) : isIdentifierChar c = true := by
  rw [Bool.or_eq_true, Bool.or_eq_true] at h
  rcases h with (h | h) | h
  · exact hp h
  · change ((c.isAlpha || c.isDigit) || c == '_') = true
    simp only [h, Bool.or_true, Bool.true_or]
  · change (c.isAlphanum || c == '_') = true
    simp only [h, Bool.or_true]

/-- A name to which another may be changed is an identifier. -/
theorem isIdentifier_of_isValidRename {grammar : Grammar} {oldName newName : String}
    (h : grammar.isValidRename oldName newName = true) : IsIdentifier newName.toList := by
  unfold Grammar.isValidRename at h
  split at h
  · exact isIdentifier_of_hasShape (fun _ => isIdentifierChar_of_isUpper)
      (fun _ => isIdentifierChar_of_or isIdentifierChar_of_isUpper) h
  · exact isIdentifier_of_hasShape (fun _ => isIdentifierChar_of_isLower)
      (fun _ => isIdentifierChar_of_or isIdentifierChar_of_isLower) h

/-! ## The edits of a rename -/

/-- Different places of a name have different ranges. -/
theorem eq_of_rangeFrom_eq {text name : String} {first second : Location}
    (hfirst : IsPlaceOf text name first) (hsecond : IsPlaceOf text name second)
    (h : rangeFrom name first = rangeFrom name second) : first = second := by
  have hstart := congrArg Range.start h
  rcases hfirst with ⟨index, column, _, rfl⟩
  rcases hsecond with ⟨index', column', _, rfl⟩
  simp only [rangeFrom, toPosition_locationOf, Position.mk.injEq] at hstart
  rw [hstart.1, hstart.2]

section Edits

variable {grammar : Grammar} {text name newName : String}

/-- The edits that rename a name at all its references. -/
def renameEdits (grammar : Grammar) (text name newName : String) : List TextEdit :=
  (grammar.listedPlaces text name true).map fun location => ⟨rangeFrom name location, newName⟩

/-- The edits of a rename replace whole words. -/
theorem replacesWord_renameEdits (hbounded : IsBounded text)
    (hdeclared : ∀ location, grammar.declaredPlace? text name = some location →
      IsPlaceOf text name location) :
    ReplacesWord text name newName (renameEdits grammar text name newName) := by
  have hplaces : ∀ location ∈ grammar.listedPlaces text name true,
      IsPlaceOf text name location := by
    intro location hmem
    exact Grammar.isPlaceOf_of_mem_listedPlaces hbounded (fun _ => hdeclared location) hmem
  refine ⟨?_, ?_, ?_⟩
  · intro edit hmem
    rcases List.mem_map.mp hmem with ⟨location, hlocation, rfl⟩
    exact (hplaces location hlocation).coversWord hbounded
  · intro edit hmem
    rcases List.mem_map.mp hmem with ⟨location, _, rfl⟩
    rfl
  · refine List.Nodup.map_on ?_ (Grammar.nodup_listPlaces _ _ true)
    intro first hfirst second hsecond heq
    exact eq_of_rangeFrom_eq (hplaces first hfirst) (hplaces second hsecond)
      (TextEdit.mk.inj heq).1

/-- Every place of the name in a rule body is edited. -/
theorem isEdited_renameEdits (hbounded : IsBounded text) {rule : Rule}
    (hrule : rule ∈ grammar.rules) {index column : Nat}
    (hline : rule.HasLine (lines text) index) (hstands : StandsAt (lines text) name index column) :
    isEdited (renameEdits grammar text name newName) index column = true := by
  have hoccurs : locationOf index column ∈ grammar.places text name :=
    (Grammar.mem_places_iff hbounded).mpr ⟨index, column, hstands, ⟨rule, hrule, hline⟩, rfl⟩
  have hmem : locationOf index column ∈ grammar.listedPlaces text name true := by
    rw [Grammar.mem_listedPlaces_iff]
    split
    · rfl
    · exact hoccurs
  exact isEdited_iff.mpr ⟨_, List.mem_map_of_mem hmem, rfl⟩

end Edits

/-! ## The laws of a rename -/

/-- Where a body ends depends only on which lines hold a semicolon. -/
theorem bodyEnd_congr {first second : List Line} (start : Nat)
    (h : first.map (·.contains ';') = second.map (·.contains ';')) :
    bodyEnd first start = bodyEnd second start := by
  have hlength : first.length = second.length := by
    simpa using congrArg List.length h
  have hfind : ∀ lines : List Line, (lines.drop start).findIdx? (·.contains ';') =
      ((lines.map (·.contains ';')).drop start).findIdx? id := by
    intro lines
    rw [← List.map_drop, List.findIdx?_map]
    rfl
  unfold bodyEnd
  rw [hfind first, hfind second, h, hlength]

/-- The edits `edits` turn a text into one with the same line endings, in which exactly the
edited runs have become the new name. -/
structure IsExactRename (text old new : String) (edits : List TextEdit) : Prop where
  /-- No two edits overlap. -/
  apart : edits.Pairwise fun first second => first.range.Apart second.range
  /-- No edit is repeated. -/
  distinct : (edits.map (·.range)).Nodup
  covers : ∀ edit ∈ edits, CoversWord text old edit.range ∧ edit.newText = new
  endings : (rawLines (applyEdits text edits).toList).map (·.ending) =
    (rawLines text.toList).map (·.ending)
  runs : ∀ index line, (lines text)[index]? = some line →
    ∃ edited, (lines (applyEdits text edits))[index]? = some edited ∧
      segments edited = replaceRuns (isEdited edits index) new.toList line

/-- The edited text has the new name for the old one in all rule bodies, nowhere else but
at the edited places, and keeps all that is needed to change it back. -/
structure IsReversibleRename (grammar : Grammar) (text old new : String)
    (edits : List TextEdit) : Prop where
  bodies : ∀ rule ∈ grammar.rules, ∀ index column,
    rule.HasLine (lines (applyEdits text edits)) index →
      ¬ StandsAt (lines (applyEdits text edits)) old index column
  /-- Each edit before a place on its line moves it by the difference of the lengths. -/
  places : ∀ index moved, StandsAt (lines (applyEdits text edits)) new index moved ↔
    ∃ column, isEdited edits index column = true ∧
      moved + selectedBefore (isEdited edits index) column * old.length =
        column + selectedBefore (isEdited edits index) column * new.length
  back : applyEdits (applyEdits text edits) (wordEdits (applyEdits text edits) new old) = text

/-- Edits that replace whole words are exact. -/
theorem ReplacesWord.isExactRename {text old new : String} {edits : List TextEdit}
    (h : ReplacesWord text old new edits) (hold : IsIdentifier old.toList)
    (hnew : IsIdentifier new.toList) : IsExactRename text old new edits := by
  refine ⟨h.pairwise_apart hold, h.nodup_ranges, ?_, h.endings_applyEdits hold hnew, ?_⟩
  · intro edit hmem
    exact ⟨h.covers edit hmem, h.writes edit hmem⟩
  · intro index line hline
    refine ⟨(replaceRuns (isEdited edits index) new.toList line).flatten, ?_, ?_⟩
    · rw [h.getElem?_lines_applyEdits hold hnew, hline]
      rfl
    · exact segments_replaceRuns (h.selects_line hline) hold hnew

/-- Edits that cover all rule bodies are reversible if the new name stood nowhere. -/
theorem ReplacesWord.isReversibleRename {grammar : Grammar} {text old new : String}
    {edits : List TextEdit} (h : ReplacesWord text old new edits)
    (hold : IsIdentifier old.toList) (hnew : IsIdentifier new.toList) (hne : new ≠ old)
    (hfresh : ∀ index column, ¬ StandsAt (lines text) new index column)
    (hbodies : ∀ rule ∈ grammar.rules, ∀ index column, rule.HasLine (lines text) index →
      StandsAt (lines text) old index column → isEdited edits index column = true) :
    IsReversibleRename grammar text old new edits := by
  refine ⟨?_, ?_, h.applyEdits_wordEdits hold hnew hfresh⟩
  · intro rule hrule index column hline hstands
    -- The bodies are where they were: no semicolon came or went.
    have hline' : rule.HasLine (lines text) index := by
      rcases hline with ⟨location, hlocation, hstart, hstop⟩
      rw [bodyEnd_congr _ (h.map_contains_lines_applyEdits hold hnew)] at hstop
      exact ⟨location, hlocation, hstart, hstop⟩
    rcases h.exists_of_standsAt_old hold hnew hne hstands with ⟨column', hkept, hstands'⟩
    rw [hbodies rule hrule index column' hline' hstands'] at hkept
    cases hkept
  · intro index moved
    exact h.standsAt_new_iff hold hnew hfresh

/-- In a bounded text, a rename whose declaring place, if there is one, is a place of the name is
exact; if the new name stood nowhere in the text, it is complete on rule bodies and
reversible. -/
theorem rename_exact_and_reversible {document : Document} {position : Position}
    {newName : String} {use : NameInUse} {edit : WorkspaceEdit}
    (hbounded : IsBounded document.text) (huse : document.nameAt? position = some use)
    (hedit : document.rename? position newName = .ok (some edit))
    (hdeclared : ∀ location,
      use.grammar.declarationLocation? document.text use.name = .ok (some location) →
        IsPlaceOf document.text use.name location) :
    IsExactRename document.text use.name newName edit.edits ∧
      ((∀ index column, ¬ StandsAt (lines document.text) newName index column) →
        IsReversibleRename use.grammar document.text use.name newName edit.edits) := by
  rcases eq_of_rename? hedit with ⟨use', huse', hvalid, rfl⟩
  rw [huse, Option.some.injEq] at huse'
  subst huse'
  rcases of_nameAt? huse with ⟨_, hold, column, hstands⟩
  have hnew := isIdentifier_of_isValidRename hvalid
  have hreplaces : ReplacesWord document.text use.name newName
      (renameEdits use.grammar document.text use.name newName) := by
    refine replacesWord_renameEdits hbounded fun location hlocation => hdeclared location ?_
    rw [Grammar.declarationLocation?_of_isBounded hbounded, hlocation]
  refine ⟨hreplaces.isExactRename hold hnew, ?_⟩
  intro hfresh
  have hne : newName ≠ use.name := by
    rintro rfl
    exact hfresh position.line column hstands
  apply hreplaces.isReversibleRename hold hnew hne hfresh
  intro rule hrule index column' hline hstands'
  exact isEdited_renameEdits hbounded hrule hline hstands'

/-! ## A token with two uses -/

/-- A grammar with one token, which its only rule uses twice. -/
def pairGrammar : Grammar where
  declarations := [.token { names := ["A"], location := some ⟨1, 8⟩ }]
  rules := [{ name := "s", location := some ⟨3, 1⟩ }]

/-- The document of that grammar. -/
def pairDocument : Document where
  uri := { scheme := "file", authority := some {}, path := .segments ["g.y"] }
  text := "%token A\r\n%%\ns: A A ;"
  version := 1
  grammar := some pairGrammar

/-- The edits that rename the token. -/
def pairEdits : List TextEdit :=
  [⟨⟨⟨0, 7⟩, ⟨0, 8⟩⟩, "NUM"⟩, ⟨⟨⟨2, 3⟩, ⟨2, 4⟩⟩, "NUM"⟩, ⟨⟨⟨2, 5⟩, ⟨2, 6⟩⟩, "NUM"⟩]

/-- Renaming the token of the document is exact and reversible. -/
theorem pairEdits_exact_and_reversible :
    IsExactRename pairDocument.text "A" "NUM" pairEdits ∧
      IsReversibleRename pairGrammar pairDocument.text "A" "NUM" pairEdits := by
  have hfound : wordAt? pairDocument.text ⟨2, 3⟩ = some ⟨"A", ⟨⟨2, 3⟩, ⟨2, 4⟩⟩⟩ := by decide
  have huse : pairDocument.nameAt? ⟨2, 3⟩ = some ⟨pairGrammar, "A"⟩ :=
    nameAt?_of_wordAt? rfl hfound
  have hedit : pairDocument.rename? ⟨2, 3⟩ "NUM" = .ok (some ⟨pairDocument.uri, pairEdits⟩) := by
    decide
  have hbounded : IsBounded pairDocument.text := by constructor <;> decide
  have hdeclared : pairGrammar.declarationLocation? pairDocument.text "A" = .ok (some ⟨1, 8⟩) := by
    decide
  have hfresh : ∀ line ∈ lines pairDocument.text, wholeWordColumns line "NUM".toList = [] := by
    decide
  have hlaws := rename_exact_and_reversible hbounded huse hedit (by
    intro location hlocation
    rw [hdeclared, Except.ok.injEq, Option.some.injEq] at hlocation
    subst hlocation
    exact ⟨0, 7, by decide, rfl⟩)
  refine ⟨hlaws.1, hlaws.2 ?_⟩
  rintro index column ⟨line, hget, hwhole⟩
  have hmem := mem_wholeWordColumns.mpr hwhole
  rw [hfresh line (List.mem_of_getElem? hget)] at hmem
  cases hmem

end GrammarServer
