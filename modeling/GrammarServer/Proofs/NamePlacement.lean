import GrammarServer.Proofs.Pointing
import GrammarServer.Proofs.Rename
import Mathlib.Order.Bounds.Basic

/-!
# The place of a name on the line of its declaration

The engine gives one location to all names of a declaration.  Each name is placed at the first
column, from the column of the declaration on, at which it stands as a whole word.  As long as
the columns of the line can be written, looking it up again from that place finds the same place,
and names that are placed on one line cover ranges that do not overlap, even if one of them is
the front or the end of another.

Main results:

- Theorem `nameColumn?_eq`: the search finds the first match of a name.
- Theorem `LineFits.exists_nameLocation`: a name is placed at its first match, or where the
  declaration is.
- Theorem `LineFits.nameLocation_of_nameLocation`: a name that has been placed stays where it is.
- Theorem `LineFits.placedRange_eq`: the range of a name that has a match.
- Theorem `LineFits.apart_of_placedRange`: different names cover ranges that lie apart.
- Theorem `names_placed_at_first_match`: all of it.
-/

namespace GrammarServer

open Text

/-! ## The first match -/

/-- The columns, counted from 0, at which a name stands on the line of a location, from the
column of the location on.  There are none if the line does not exist. -/
def matchColumns (text name : String) (location : Location) : Set Nat :=
  {column | max location.column 1 - 1 ≤ column ∧
    StandsAt (lines text) name (location.line - 1) column}

/-- The search for a name on the line of a location finds its first match. -/
theorem nameColumn?_eq (text name : String) (location : Location) :
    (∃ column, IsLeast (matchColumns text name location) column ∧
        nameColumn? text name location = some column) ∨
      (matchColumns text name location = ∅ ∧ nameColumn? text name location = none) := by
  have hfrom : max location.column 1 - 1 = location.column - 1 := by omega
  rw [matchColumns, hfrom]
  rcases nameColumn?_cases text name location with
    ⟨column, hle, hstands, hfirst, heq⟩ | ⟨hnone, heq⟩
  · refine .inl ⟨column, ⟨⟨hle, hstands⟩, ?_⟩, heq⟩
    rintro other ⟨hle', hstands'⟩
    exact hfirst other hle' hstands'
  · refine .inr ⟨Set.eq_empty_iff_forall_notMem.mpr ?_, heq⟩
    rintro column ⟨hle, hstands⟩
    exact hnone column hle hstands

variable {text name : String} {location : Location} {column : Nat}

/-- A name that has matches has a first one. -/
theorem exists_isLeast_matchColumns (h : (matchColumns text name location).Nonempty) :
    ∃ column, IsLeast (matchColumns text name location) column := by
  rcases nameColumn?_eq text name location with ⟨first, hfirst, _⟩ | ⟨hempty, _⟩
  · exact ⟨first, hfirst⟩
  · exact absurd hempty h.ne_empty

/-- A name that has matches is placed at the first of them, cut to a coordinate and counted
from 1. -/
theorem nameLocation_of_isLeast (h : IsLeast (matchColumns text name location) column) :
    nameLocation text name location = do
      let next ← coordinateSum (toCoordinate column) 1
      return ⟨location.line, next⟩ := by
  rcases nameColumn?_eq text name location with ⟨first, hfirst, heq⟩ | ⟨hempty, _⟩
  · rw [nameLocation, heq, hfirst.unique h]
  · have hmem := h.1
    rw [hempty] at hmem
    cases hmem

/-! ## Lines whose columns can be written -/

/-- The columns of the line of a location can be written. -/
def LineFits (text : String) (location : Location) : Prop :=
  ∀ line, (lines text)[location.line - 1]? = some line → line.length ≤ maxCoordinate

section Fits

variable (hfits : LineFits text location)
include hfits

/-- The column behind a match can be written. -/
theorem LineFits.add_length_le (h : column ∈ matchColumns text name location) :
    column + name.length ≤ maxCoordinate := by
  obtain ⟨_, line, hline, hwhole⟩ := h
  have hroom := add_length_le_of_isWholeWordAt hwhole
  rw [String.length_toList] at hroom
  exact hroom.trans (hfits line hline)

/-- A name that has matches is placed at the first of them, which is not cut. -/
theorem LineFits.nameLocation_eq (h : IsLeast (matchColumns text name location) column) :
    nameLocation text name location = .ok ⟨location.line, column + 1⟩ := by
  have hroom := hfits.add_length_le h.1
  have hname : 0 < name.length := by
    obtain ⟨_, line, _, hwhole⟩ := h.1
    obtain ⟨_, _, _, _, hne, _⟩ := isWholeWordAt_iff.mp hwhole
    rw [← String.length_toList]
    exact List.length_pos_iff.mpr hne
  rw [nameLocation_of_isLeast h, toCoordinate_of_le (by omega), coordinateSum_of_le (by omega)]
  rfl

/-- A name is placed at its first match on the line of a location, or at the location itself if
it has no match there. -/
theorem LineFits.exists_nameLocation (name : String) :
    ∃ place, nameLocation text name location = .ok place ∧
      ((∃ column, IsLeast (matchColumns text name location) column ∧
          place = ⟨location.line, column + 1⟩) ∨
        (matchColumns text name location = ∅ ∧ place = location)) := by
  rcases nameColumn?_eq text name location with ⟨column, hleast, _⟩ | ⟨hempty, heq⟩
  · exact ⟨_, hfits.nameLocation_eq hleast, .inl ⟨column, hleast, rfl⟩⟩
  · exact ⟨location, by rw [nameLocation, heq], .inr ⟨hempty, rfl⟩⟩

/-- A name that has been placed stays where it is. -/
theorem LineFits.nameLocation_of_nameLocation {place : Location}
    (h : nameLocation text name location = .ok place) :
    nameLocation text name place = .ok place := by
  obtain ⟨found, hfound, hplace⟩ := hfits.exists_nameLocation name
  obtain rfl := Except.ok.inj (hfound.symm.trans h)
  rcases hplace with ⟨column, hleast, rfl⟩ | ⟨_, rfl⟩
  · -- The match at which the search now starts is the first one that it meets.
    have hagain : IsLeast (matchColumns text name ⟨location.line, column + 1⟩) column := by
      constructor
      · exact ⟨by simp, hleast.1.2⟩
      · rintro other ⟨hle, _⟩
        simpa using hle
    have hline : LineFits text ⟨location.line, column + 1⟩ := hfits
    exact hline.nameLocation_eq hagain
  · exact h

end Fits

/-! ## The ranges of names -/

/-- The range that a name covers where it is placed. -/
def placedRange (text : String) (location : Location) (name : String) : Except Crash Range := do
  let place ← nameLocation text name location
  nameRange place name

/-- The range of a name that has matches covers the first of them. -/
theorem LineFits.placedRange_eq (hfits : LineFits text location)
    (h : IsLeast (matchColumns text name location) column) :
    placedRange text location name =
      .ok ⟨⟨location.line - 1, column⟩, ⟨location.line - 1, column + name.length⟩⟩ := by
  have hroom := hfits.add_length_le h.1
  have hlength : toCoordinate name.length = name.length := toCoordinate_of_le (by omega)
  simp only [placedRange, hfits.nameLocation_eq h, bind, Except.bind]
  rw [nameRange, hlength, Position.span_eq_ok_iff]
  exact ⟨hroom, rfl⟩

/-- A name made of identifier characters is an identifier if it has a match. -/
theorem isIdentifier_of_match (hchars : ∀ c ∈ name.toList, isIdentifierChar c = true)
    (hmatch : (matchColumns text name location).Nonempty) : IsIdentifier name.toList := by
  obtain ⟨column, _, line, _, hwhole⟩ := hmatch
  obtain ⟨_, _, _, _, hne, _⟩ := isWholeWordAt_iff.mp hwhole
  exact ⟨hne, hchars⟩

/-- Different identifiers that are placed on one line cover ranges that lie apart. -/
theorem LineFits.apart_of_placedRange (hfits : LineFits text location) {other : String}
    (hname : IsIdentifier name.toList) (hother : IsIdentifier other.toList) (hne : name ≠ other)
    (hmatch : (matchColumns text name location).Nonempty)
    (hmatch' : (matchColumns text other location).Nonempty) {first second : Range}
    (hfirst : placedRange text location name = .ok first)
    (hsecond : placedRange text location other = .ok second) : first.Apart second := by
  obtain ⟨column, hleast⟩ := exists_isLeast_matchColumns hmatch
  obtain ⟨column', hleast'⟩ := exists_isLeast_matchColumns hmatch'
  obtain rfl := Except.ok.inj ((hfits.placedRange_eq hleast).symm.trans hfirst)
  obtain rfl := Except.ok.inj ((hfits.placedRange_eq hleast').symm.trans hsecond)
  obtain ⟨_, line, hline, hwhole⟩ := hleast.1
  obtain ⟨_, line', hline', hwhole'⟩ := hleast'.1
  obtain rfl := Option.some.inj (hline.symm.trans hline')
  rcases eq_or_apart_of_isWholeWordAt hname hother hwhole hwhole' with ⟨_, heq⟩ | hlt | hlt
  · exact absurd (String.toList_injective heq) hne
  · rw [String.length_toList] at hlt
    exact .inl (.inr ⟨rfl, hlt.le⟩)
  · rw [String.length_toList] at hlt
    exact .inr (.inr ⟨rfl, hlt.le⟩)

/-- On a line whose columns can be written, a name is placed at the first column, from that of
the location on, at which it stands as a whole word, or at the location itself if there is no
such column; placing it again changes nothing.  Every name that has such a column has a range,
and the ranges of different names do not overlap. -/
theorem names_placed_at_first_match (text : String) (location : Location)
    (hfits : LineFits text location) :
    (∀ name, ∃ place, nameLocation text name location = .ok place ∧
      ((∃ column, IsLeast (matchColumns text name location) column ∧
          place = ⟨location.line, column + 1⟩) ∨
        (matchColumns text name location = ∅ ∧ place = location)) ∧
      nameLocation text name place = .ok place) ∧
    ∀ names : List String, names.Nodup →
      (∀ name ∈ names, (∀ c ∈ name.toList, isIdentifierChar c = true) ∧
        (matchColumns text name location).Nonempty) →
      (∀ name ∈ names, ∃ range, placedRange text location name = .ok range) ∧
      names.Pairwise fun name other => ∀ first second,
        placedRange text location name = .ok first →
        placedRange text location other = .ok second → first.Apart second := by
  constructor
  · intro name
    obtain ⟨place, hplace, hcases⟩ := hfits.exists_nameLocation name
    exact ⟨place, hplace, hcases, hfits.nameLocation_of_nameLocation hplace⟩
  intro names hnodup hnames
  constructor
  · intro name hname
    obtain ⟨column, hleast⟩ := exists_isLeast_matchColumns (hnames name hname).2
    exact ⟨_, hfits.placedRange_eq hleast⟩
  · apply hnodup.imp_of_mem
    intro name other hname hother hne first second
    obtain ⟨hchars, hmatch⟩ := hnames name hname
    obtain ⟨hchars', hmatch'⟩ := hnames other hother
    exact hfits.apart_of_placedRange (isIdentifier_of_match hchars hmatch)
      (isIdentifier_of_match hchars' hmatch') hne hmatch hmatch'

/-! ## Names that start alike -/

/-- A declaration of two tokens, of which the second is the front of the first. -/
def nestedTokens : String :=
  "%token NUMBER NUM"

/-- The two tokens have matches on the line of their declaration. -/
theorem nonempty_matchColumns_nestedTokens :
    (matchColumns nestedTokens "NUMBER" ⟨1, 8⟩).Nonempty ∧
      (matchColumns nestedTokens "NUM" ⟨1, 8⟩).Nonempty :=
  ⟨⟨7, by decide, by decide⟩, ⟨14, by decide, by decide⟩⟩

/-- The two tokens are placed side by side. -/
theorem nestedTokens_placed :
    placedRange nestedTokens ⟨1, 8⟩ "NUMBER" = .ok ⟨⟨0, 7⟩, ⟨0, 13⟩⟩ ∧
      placedRange nestedTokens ⟨1, 8⟩ "NUM" = .ok ⟨⟨0, 14⟩, ⟨0, 17⟩⟩ ∧
      Range.Apart ⟨⟨0, 7⟩, ⟨0, 13⟩⟩ ⟨⟨0, 14⟩, ⟨0, 17⟩⟩ := by
  have hnumber : placedRange nestedTokens ⟨1, 8⟩ "NUMBER" = .ok ⟨⟨0, 7⟩, ⟨0, 13⟩⟩ := by decide
  have hnum : placedRange nestedTokens ⟨1, 8⟩ "NUM" = .ok ⟨⟨0, 14⟩, ⟨0, 17⟩⟩ := by decide
  have hnames : ∀ name ∈ ["NUMBER", "NUM"], (∀ c ∈ name.toList, isIdentifierChar c = true) ∧
      (matchColumns nestedTokens name ⟨1, 8⟩).Nonempty := by
    intro name hname
    rcases List.mem_pair.mp hname with rfl | rfl
    · exact ⟨List.all_eq_true.mp (by decide), nonempty_matchColumns_nestedTokens.1⟩
    · exact ⟨List.all_eq_true.mp (by decide), nonempty_matchColumns_nestedTokens.2⟩
  have hfits : LineFits nestedTokens ⟨1, 8⟩ := by
    intro line hline
    have hlines : ∀ line ∈ lines nestedTokens, line.length ≤ maxCoordinate := by decide
    exact hlines line (List.mem_of_getElem? hline)
  have hapart := ((names_placed_at_first_match nestedTokens ⟨1, 8⟩ hfits).2 ["NUMBER", "NUM"]
    (by decide) hnames).2
  refine ⟨hnumber, hnum, ?_⟩
  exact (List.pairwise_cons.mp hapart).1 "NUM" (List.mem_singleton_self _) _ _ hnumber hnum

end GrammarServer
