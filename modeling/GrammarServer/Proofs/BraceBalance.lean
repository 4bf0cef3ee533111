import GrammarServer.Proofs.IndexedTokens
import GrammarServer.Proofs.LineCut
import GrammarServer.Proofs.TokenShape

/-!
# Action blocks follow the balance of braces

A brace is closed by the first closing brace at which, counted from behind it, one brace more
has been closed than opened.  The scanner keeps a depth instead of two counts and goes on from
line to line; it finds the same brace.  A block that starts inside another one is scanned with
a smaller depth, so that it is closed no later: folds of action blocks never cross.

Main results:

- Theorem `reachesFirst_closingOffset?`: a depth falls to zero at the first closing brace that
  outnumbers the opening ones.
- Theorem `closingLine?_eq_some_iff`: the line on which open braces are closed.
- Theorem `exists_closingLine?_le`: fewer open braces are closed no later.
- Theorem `mem_actionFolds_iff`: which lines fold.
- Theorem `mem_actionFolds_iff_of_le`: folds have the lines of their blocks.
- Theorem `action_folds_follow_braces`: all of it, and folds that never cross.
-/

namespace GrammarServer

open Text

/-! ## Balance of braces -/

/-- At an offset stands a closing brace, and up to it `depth` braces more are closed than are
opened. -/
def OutnumbersAt (text : List Char) (depth offset : Nat) : Prop :=
  text[offset]? = some '\x7d' ∧
    (text.take (offset + 1)).count '\x7d' = (text.take (offset + 1)).count '\x7b' + depth

theorem outnumbersAt_cons_zero {c : Char} {text : List Char} {depth : Nat} :
    OutnumbersAt (c :: text) depth 0 ↔ c = '\x7d' ∧ depth = 1 := by
  constructor
  · rintro ⟨hclosing, hbalance⟩
    obtain rfl := Option.some.inj hclosing
    have hdepth : 1 = depth := by simpa using hbalance
    exact ⟨rfl, hdepth.symm⟩
  · rintro ⟨rfl, rfl⟩
    exact ⟨rfl, by simp⟩

theorem outnumbersAt_opening {text : List Char} {depth offset : Nat} :
    OutnumbersAt ('\x7b' :: text) depth (offset + 1) ↔ OutnumbersAt text (depth + 1) offset := by
  refine and_congr Iff.rfl ?_
  rw [List.take_succ_cons, List.count_cons_of_ne (by decide), List.count_cons_self]
  omega

theorem outnumbersAt_closing {text : List Char} {depth offset : Nat} :
    OutnumbersAt ('\x7d' :: text) (depth + 1) (offset + 1) ↔ OutnumbersAt text depth offset := by
  refine and_congr Iff.rfl ?_
  rw [List.take_succ_cons, List.count_cons_self, List.count_cons_of_ne (by decide)]
  omega

theorem outnumbersAt_other {c : Char} {text : List Char} {depth offset : Nat}
    (hopening : c ≠ '\x7b') (hclosing : c ≠ '\x7d') :
    OutnumbersAt (c :: text) depth (offset + 1) ↔ OutnumbersAt text depth offset := by
  refine and_congr Iff.rfl ?_
  rw [List.take_succ_cons, List.count_cons_of_ne hclosing, List.count_cons_of_ne hopening]

/-- The offset at which the last of `depth` open braces is closed. -/
def closingOffset? (depth : Nat) : List Char → Option Nat
  | [] => none
  | c :: rest =>
    if c = '\x7b' then (closingOffset? (depth + 1) rest).map (· + 1)
    else if c = '\x7d' then
      if depth ≤ 1 then some 0 else (closingOffset? (depth - 1) rest).map (· + 1)
    else (closingOffset? depth rest).map (· + 1)

/-- A depth falls to zero at the first closing brace that outnumbers the opening ones. -/
theorem reachesFirst_closingOffset? {depth : Nat} (hopen : 0 < depth) (text : List Char) :
    ReachesFirst (closingOffset? depth text) (OutnumbersAt text depth) 0 := by
  induction text generalizing depth with
  | nil =>
    apply reachesFirst_none
    rintro offset ⟨hclosing, _⟩
    simp at hclosing
  | cons c rest ih =>
    rw [closingOffset?]
    by_cases hopening : c = '\x7b'
    · subst hopening
      rw [if_pos rfl]
      have hrest := (ih (Nat.succ_pos depth)).congr fun _ => outnumbersAt_opening.symm
      exact hrest.later (by simp [outnumbersAt_cons_zero])
    rw [if_neg hopening]
    by_cases hclosing : c = '\x7d'
    · subst hclosing
      rw [if_pos rfl]
      by_cases hlast : depth ≤ 1
      · rw [if_pos hlast]
        exact reachesFirst_some (outnumbersAt_cons_zero.mpr ⟨rfl, by omega⟩)
      · obtain ⟨less, rfl⟩ : ∃ less, depth = less + 1 := ⟨depth - 1, by omega⟩
        rw [if_neg hlast, Nat.add_sub_cancel]
        have hrest := (ih (show 0 < less by omega)).congr fun _ => outnumbersAt_closing.symm
        refine hrest.later ?_
        rw [outnumbersAt_cons_zero]
        omega
    · rw [if_neg hclosing]
      have hrest := (ih hopen).congr fun _ => (outnumbersAt_other hopening hclosing).symm
      exact hrest.later (by simp [outnumbersAt_cons_zero, hclosing])

/-! ## From offsets to lines -/

/-- The line of the character at which the last of `depth` open braces is closed. -/
def closingNumber? (depth : Nat) (read : List (Char × Nat)) : Option Nat :=
  (closingOffset? depth (read.map Prod.fst)).bind fun offset => (read.map Prod.snd)[offset]?

theorem closingNumber?_cons (depth : Nat) (c : Char) (number : Nat) (rest : List (Char × Nat)) :
    closingNumber? depth ((c, number) :: rest) =
      if c = '\x7b' then closingNumber? (depth + 1) rest
      else if c = '\x7d' then
        if depth ≤ 1 then some number else closingNumber? (depth - 1) rest
      else closingNumber? depth rest := by
  have hlater : ∀ offset? : Option Nat,
      ((offset?.map (· + 1)).bind fun offset =>
        (((c, number) :: rest).map Prod.snd)[offset]?) =
      offset?.bind fun offset => (rest.map Prod.snd)[offset]? := by
    intro offset?
    rw [Option.bind_map]
    rfl
  simp only [closingNumber?, List.map_cons (f := Prod.fst), closingOffset?]
  split
  case isTrue => exact hlater _
  case isFalse =>
    split
    case isTrue =>
      split
      case isTrue => rfl
      case isFalse => exact hlater _
    case isFalse => exact hlater _

/-- On one line the depth is followed by counting, and then the next line is read. -/
theorem closingNumber?_append (depth number : Nat) (line : Line) (rest : List (Char × Nat)) :
    closingNumber? depth (line.map (·, number) ++ rest) =
      match bracesAfter? depth line with
      | none => some number
      | some deeper => closingNumber? deeper rest := by
  induction line generalizing depth with
  | nil => rfl
  | cons c line ih =>
    rw [List.map_cons, List.cons_append, closingNumber?_cons, bracesAfter?]
    simp only [ih]
    by_cases hopening : c = '\x7b'
    · simp only [if_pos hopening]
    by_cases hclosing : c = '\x7d'
    · by_cases hlast : depth ≤ 1
      · simp only [if_neg hopening, if_pos hclosing, if_pos hlast]
      · simp only [if_neg hopening, if_pos hclosing, if_neg hlast]
    · simp only [if_neg hopening, if_neg hclosing]

/-- Braces are counted in one part of a line after the other. -/
theorem bracesAfter?_append (depth : Nat) (front back : List Char) :
    bracesAfter? depth (front ++ back) =
      (bracesAfter? depth front).bind fun deeper => bracesAfter? deeper back := by
  induction front generalizing depth with
  | nil => rfl
  | cons c front ih =>
    rw [List.cons_append, bracesAfter?, bracesAfter?]
    by_cases hopening : c = '\x7b'
    · rw [if_pos hopening, if_pos hopening, ih]
    rw [if_neg hopening, if_neg hopening]
    by_cases hclosing : c = '\x7d'
    · rw [if_pos hclosing, if_pos hclosing]
      by_cases hlast : depth ≤ 1
      · rw [if_pos hlast, if_pos hlast, Option.bind_none]
      · rw [if_neg hlast, if_neg hlast, ih]
    · rw [if_neg hclosing, if_neg hclosing, ih]

/-- The scan by lines finds the line of the brace that the scan by characters finds. -/
theorem closingLine?_eq_closingNumber? (depth index : Nat) (lines : List Line) :
    closingLine? depth index lines = closingNumber? depth (numberedText index lines) := by
  induction lines generalizing depth index with
  | nil => rfl
  | cons line rest ih =>
    have hfeed : bracesAfter? depth (line ++ ['\n']) = bracesAfter? depth line := by
      rw [bracesAfter?_append]
      cases bracesAfter? depth line with
      | none => rfl
      | some deeper => rfl
    rw [closingLine?, numberedText, closingNumber?_append, hfeed]
    cases bracesAfter? depth line with
    | none => rfl
    | some deeper => exact ih deeper (index + 1)

/-- The last open brace is closed on a line: the first closing brace that outnumbers the
opening ones stands there. -/
def ClosesOn (depth : Nat) (read : List (Char × Nat)) (line : Nat) : Prop :=
  ∃ offset, IsLeast {k | OutnumbersAt (read.map Prod.fst) depth k} offset ∧
    read[offset]? = some ('\x7d', line)

theorem closingLine?_eq_some_iff {depth : Nat} (hopen : 0 < depth) {index : Nat}
    {lines : List Line} {stop : Nat} :
    closingLine? depth index lines = some stop ↔
      ClosesOn depth (numberedText index lines) stop := by
  have hfirst := reachesFirst_closingOffset? hopen ((numberedText index lines).map Prod.fst)
  rw [closingLine?_eq_closingNumber?, closingNumber?, Option.bind_eq_some_iff]
  constructor
  · rintro ⟨offset, hoffset, hnumber⟩
    obtain ⟨_, hleast, rfl⟩ := (hfirst offset).mp hoffset
    have hclosing := hleast.1.1
    rw [List.getElem?_map, Option.map_eq_some_iff] at hclosing hnumber
    obtain ⟨read, hread, hchar⟩ := hclosing
    obtain ⟨_, hsame, rfl⟩ := hnumber
    obtain rfl := Option.some.inj (hread.symm.trans hsame)
    exact ⟨offset, hleast, by rw [hread, ← hchar]⟩
  · rintro ⟨offset, hleast, hread⟩
    refine ⟨offset, (hfirst offset).mpr ⟨offset, hleast, rfl⟩, ?_⟩
    rw [List.getElem?_map, hread]
    rfl

/-- Open braces are closed on none of the lines exactly if they are never outnumbered. -/
theorem closingLine?_eq_none_iff {depth : Nat} (hopen : 0 < depth) {index : Nat}
    {lines : List Line} :
    closingLine? depth index lines = none ↔
      ∀ offset, ¬ OutnumbersAt ((numberedText index lines).map Prod.fst) depth offset := by
  have hfirst := reachesFirst_closingOffset? hopen ((numberedText index lines).map Prod.fst)
  rw [← hfirst.eq_none_iff, closingLine?_eq_closingNumber?, closingNumber?]
  cases hoffset : closingOffset? depth ((numberedText index lines).map Prod.fst) with
  | none => simp
  | some offset =>
    obtain ⟨_, hleast, rfl⟩ := (hfirst offset).mp hoffset
    have hclosing := hleast.1.1
    rw [List.getElem?_map, Option.map_eq_some_iff] at hclosing
    obtain ⟨read, hread, _⟩ := hclosing
    simp [hread]

/-! ## Blocks inside blocks -/

/-- Braces that are open in addition stay open. -/
theorem bracesAfter?_add {depth deeper : Nat} (more : Nat) {text : List Char}
    (h : bracesAfter? depth text = some deeper) :
    bracesAfter? (depth + more) text = some (deeper + more) := by
  induction text generalizing depth with
  | nil =>
    obtain rfl := Option.some.inj h
    rfl
  | cons c rest ih =>
    rw [bracesAfter?] at h ⊢
    by_cases hopening : c = '\x7b'
    · rw [if_pos hopening] at h ⊢
      rw [Nat.add_right_comm]
      exact ih h
    rw [if_neg hopening] at h ⊢
    by_cases hclosing : c = '\x7d'
    · rw [if_pos hclosing] at h ⊢
      by_cases hlast : depth ≤ 1
      · rw [if_pos hlast] at h
        cases h
      · rw [if_neg hlast] at h
        rw [if_neg (by omega), show depth + more - 1 = depth - 1 + more by omega]
        exact ih h
    · rw [if_neg hclosing] at h ⊢
      exact ih h

/-- Open braces are closed on one of the lines that are read. -/
theorem closingLine?_bounds {depth index stop : Nat} {lines : List Line}
    (h : closingLine? depth index lines = some stop) :
    index ≤ stop ∧ stop < index + lines.length := by
  induction lines generalizing depth index with
  | nil => cases h
  | cons line rest ih =>
    rw [closingLine?] at h
    rw [List.length_cons]
    cases hbraces : bracesAfter? depth line with
    | none =>
      rw [hbraces] at h
      obtain rfl := Option.some.inj h
      omega
    | some deeper =>
      rw [hbraces] at h
      have hrest := ih h
      omega

/-- Fewer open braces are closed no later. -/
theorem exists_closingLine?_le {depth more index stop : Nat} {lines : List Line}
    (h : closingLine? (depth + more) index lines = some stop) :
    ∃ earlier ≤ stop, closingLine? depth index lines = some earlier := by
  induction lines generalizing depth index with
  | nil => cases h
  | cons line rest ih =>
    have hbounds := closingLine?_bounds h
    rw [closingLine?] at h ⊢
    cases hbraces : bracesAfter? depth line with
    | none => exact ⟨index, hbounds.1, rfl⟩
    | some deeper =>
      rw [bracesAfter?_add more hbraces] at h
      exact ih h

/-- Braces that are not closed before a line are still open at its start. -/
theorem exists_closingLine?_drop {depth index stop skipped : Nat} {lines : List Line}
    (hopen : 0 < depth) (h : closingLine? depth index lines = some stop)
    (hlater : index + skipped ≤ stop) :
    ∃ deeper, 0 < deeper ∧
      closingLine? deeper (index + skipped) (lines.drop skipped) = some stop := by
  induction skipped generalizing depth index lines with
  | zero => exact ⟨depth, hopen, h⟩
  | succ skipped ih =>
    cases lines with
    | nil => cases h
    | cons line rest =>
      rw [closingLine?] at h
      cases hbraces : bracesAfter? depth line with
      | none =>
        rw [hbraces] at h
        have hstop := Option.some.inj h
        omega
      | some deeper =>
        rw [hbraces] at h
        have hdeeper := (bracesByCount_eq hopen line).2 deeper hbraces
        rw [← Nat.add_assoc, Nat.add_right_comm] at hlater ⊢
        exact ih hdeeper h hlater

/-- A brace on a line on which a block goes on is closed no later than the block. -/
theorem exists_closingLine?_inside {depth index stop : Nat} {before after : List Char}
    {below : List Line}
    (h : closingLine? depth index ((before ++ '\x7b' :: after) :: below) = some stop)
    (hlater : index < stop) :
    ∃ earlier ≤ stop, closingLine? 1 index (after :: below) = some earlier := by
  rw [closingLine?, bracesAfter?_append] at h
  cases hbefore : bracesAfter? depth before with
  | none =>
    rw [hbefore] at h
    have hstop := Option.some.inj h
    omega
  | some deeper =>
    -- The brace adds to the braces that are open before it.
    have hinside : closingLine? (1 + deeper) index (after :: below) = some stop := by
      rw [hbefore, Option.bind_some, bracesAfter?, if_pos rfl, Nat.add_comm deeper 1] at h
      exact h
    exact exists_closingLine?_le hinside

/-! ## Which lines fold -/

/-- How many bytes some characters take. -/
def byteLength : List Char → Nat
  | [] => 0
  | c :: rest => byteLength rest + c.utf8Size

/-- The first brace of a line stands at the byte offset that is found, and behind no other. -/
theorem firstBrace?_eq_some_iff {line : Line} {offset : Nat} :
    firstBrace? line = some offset ↔
      ∃ before after, line = before ++ '\x7b' :: after ∧ '\x7b' ∉ before ∧
        offset = byteLength before := by
  induction line generalizing offset with
  | nil => simp [firstBrace?]
  | cons c rest ih =>
    rw [firstBrace?]
    by_cases hbrace : c = '\x7b'
    · subst hbrace
      rw [if_pos rfl, Option.some.injEq]
      constructor
      · rintro rfl
        exact ⟨[], rest, rfl, by simp, rfl⟩
      · rintro ⟨before, after, hline, hfirst, rfl⟩
        cases before with
        | nil => rfl
        | cons d before =>
          obtain rfl := (List.cons.inj hline).1
          exact absurd List.mem_cons_self hfirst
    · rw [if_neg hbrace, Option.map_eq_some_iff]
      constructor
      · rintro ⟨inner, hinner, rfl⟩
        obtain ⟨before, after, rfl, hfirst, rfl⟩ := ih.mp hinner
        refine ⟨c :: before, after, rfl, ?_, rfl⟩
        rw [List.mem_cons, not_or]
        exact ⟨fun h => hbrace h.symm, hfirst⟩
      · rintro ⟨before, after, hline, hfirst, rfl⟩
        cases before with
        | nil => exact absurd (List.cons.inj hline).1 hbrace
        | cons d before =>
          obtain ⟨rfl, rfl⟩ := List.cons.inj hline
          refine ⟨_, ih.mpr ⟨before, after, rfl, ?_, rfl⟩, rfl⟩
          exact fun h => hfirst (List.mem_cons_of_mem c h)

/-- The bytes before a brace and its own are cut off. -/
theorem dropBytes?_brace (before after : List Char) :
    dropBytes? (byteLength before + 1) (before ++ '\x7b' :: after) = some after := by
  induction before with
  | nil =>
    have hbyte : 0 + 1 = 0 + '\x7b'.utf8Size := by decide
    rw [byteLength, hbyte, List.nil_append, dropBytes?_add_utf8Size, dropBytes?_zero]
  | cons c before ih =>
    rw [byteLength, Nat.add_right_comm, List.cons_append, dropBytes?_add_utf8Size, ih]

/-- Behind a brace the scan starts with one open brace. -/
theorem matchingBraceLine_of_brace {lines : List Line} {index : Nat} {before after : List Char}
    (h : lines[index]? = some (before ++ '\x7b' :: after)) :
    matchingBraceLine lines index (byteLength before) =
      .ok (closingLine? 1 index (after :: lines.drop (index + 1))) := by
  obtain ⟨hlt, hline⟩ := List.getElem?_eq_some_iff.mp h
  rw [matchingBraceLine, List.drop_eq_getElem_cons hlt, hline]
  simp only [dropBytes?_brace]

/-- The block that the first brace of a line opens reaches down to another line. -/
def OpensBlock (lines : List Line) (index stop : Nat) : Prop :=
  ∃ before after, lines[index]? = some (before ++ '\x7b' :: after) ∧ '\x7b' ∉ before ∧
    ClosesOn 1 (numberedText index (after :: lines.drop (index + 1))) stop ∧ index < stop

section Folds

variable {lines : List Line} {index stop : Nat}

/-- What stands before the first brace of a line can be dropped. -/
theorem dropWhile_of_first {before after : List Char} (hfirst : '\x7b' ∉ before) :
    (before ++ '\x7b' :: after).dropWhile (· != '\x7b') = '\x7b' :: after := by
  rw [List.dropWhile_append_of_pos, List.dropWhile_cons_of_neg (by decide)]
  intro c hc
  rw [bne_iff_ne]
  rintro rfl
  exact hfirst hc

theorem opensBlock_iff {before after : List Char}
    (hline : lines[index]? = some (before ++ '\x7b' :: after)) (hfirst : '\x7b' ∉ before) :
    OpensBlock lines index stop ↔
      closingLine? 1 index (after :: lines.drop (index + 1)) = some stop ∧ index < stop := by
  rw [closingLine?_eq_some_iff Nat.one_pos]
  constructor
  · rintro ⟨before', after', hline', hfirst', hcloses, hlt⟩
    -- The line determines what stands behind its first brace.
    have hsame := congrArg (List.dropWhile (· != '\x7b'))
      (Option.some.inj (hline.symm.trans hline'))
    rw [dropWhile_of_first hfirst, dropWhile_of_first hfirst'] at hsame
    obtain rfl := (List.cons.inj hsame).2
    exact ⟨hcloses, hlt⟩
  · rintro ⟨hcloses, hlt⟩
    exact ⟨before, after, hline, hfirst, hcloses, hlt⟩

theorem mem_actionFold_iff {line : Line} (hline : lines[index]? = some line) {found : List Fold}
    (h : actionFold lines index line = .ok found) {fold : Fold} :
    fold ∈ found ↔
      ∃ stop, OpensBlock lines index stop ∧ fold = Fold.cut ⟨index, stop, .region⟩ := by
  unfold actionFold at h
  cases hbrace : firstBrace? line with
  | none =>
    rw [hbrace] at h
    obtain rfl := Except.ok.inj h
    constructor
    · exact fun hmem => absurd hmem List.not_mem_nil
    · rintro ⟨_, ⟨before, after, hline', hfirst, _⟩, rfl⟩
      obtain rfl := Option.some.inj (hline.symm.trans hline')
      have hsome := firstBrace?_eq_some_iff.mpr ⟨before, after, rfl, hfirst, rfl⟩
      rw [hbrace] at hsome
      cases hsome
  | some offset =>
    obtain ⟨before, after, rfl, hfirst, rfl⟩ := firstBrace?_eq_some_iff.mp hbrace
    simp only [hbrace, matchingBraceLine_of_brace hline, bind, Except.bind] at h
    simp only [opensBlock_iff hline hfirst]
    cases hclosing : closingLine? 1 index (after :: lines.drop (index + 1)) with
    | none =>
      rw [hclosing] at h
      obtain rfl := Except.ok.inj h
      simp
    | some stop =>
      rw [hclosing] at h
      obtain rfl := Except.ok.inj h
      by_cases hlt : index < stop
      · rw [if_pos hlt, List.mem_singleton]
        constructor
        · rintro rfl
          exact ⟨stop, ⟨rfl, hlt⟩, rfl⟩
        · rintro ⟨_, ⟨hstop, _⟩, rfl⟩
          rw [Option.some.inj hstop]
      · rw [if_neg hlt]
        constructor
        · exact fun hmem => absurd hmem List.not_mem_nil
        · rintro ⟨_, ⟨hstop, hlt'⟩, _⟩
          obtain rfl := Option.some.inj hstop
          exact absurd hlt' hlt

/-- A line folds exactly if the block that its first brace opens reaches down to another
line; the fold has the numbers of both lines as coordinates. -/
theorem mem_actionFolds_iff {folds : List Fold} (h : actionFolds lines = .ok folds)
    {fold : Fold} :
    fold ∈ folds ↔
      ∃ start stop, OpensBlock lines start stop ∧ fold = Fold.cut ⟨start, stop, .region⟩ := by
  unfold actionFolds at h
  split at h
  case h_1 => cases h
  case h_2 found hcollect =>
    obtain rfl := Except.ok.inj h
    rw [List.mem_flatten]
    constructor
    · rintro ⟨part, hpart, hmem⟩
      obtain ⟨⟨line, index⟩, hzip, hfold⟩ := (mem_of_collect hcollect).mp hpart
      have hline := List.mem_zipIdx_iff_getElem?.mp hzip
      exact ⟨index, (mem_actionFold_iff hline hfold).mp hmem⟩
    · rintro ⟨start, stop, hopens, rfl⟩
      have ⟨before, after, hline, _⟩ := hopens
      obtain ⟨part, hpart⟩ := exists_actionFold hline
      refine ⟨part, (mem_of_collect hcollect).mpr ⟨(_, start), ?_, hpart⟩, ?_⟩
      · exact List.mem_zipIdx_iff_getElem?.mpr hline
      · exact (mem_actionFold_iff hline hpart).mpr ⟨stop, hopens, rfl⟩

/-- A block ends inside the text. -/
theorem OpensBlock.bounds (h : OpensBlock lines index stop) :
    index < stop ∧ stop < lines.length := by
  obtain ⟨before, after, hline, _, hcloses, hlt⟩ := h
  rw [← closingLine?_eq_some_iff Nat.one_pos] at hcloses
  have hbounds := (closingLine?_bounds hcloses).2
  have hstart := (List.getElem?_eq_some_iff.mp hline).1
  rw [List.length_cons, List.length_drop] at hbounds
  exact ⟨hlt, by omega⟩

/-- As long as the numbers of all lines can be written, folds have the lines of their blocks. -/
theorem mem_actionFolds_iff_of_le (hfew : lines.length ≤ maxCoordinate + 1) {folds : List Fold}
    (h : actionFolds lines = .ok folds) {fold : Fold} :
    fold ∈ folds ↔ OpensBlock lines fold.startLine fold.endLine ∧ fold.kind = .region := by
  have hcut : ∀ {start stop}, OpensBlock lines start stop →
      Fold.cut ⟨start, stop, .region⟩ = ⟨start, stop, .region⟩ := by
    intro start stop hopens
    obtain ⟨hlt, hend⟩ := hopens.bounds
    exact Fold.cut_of_le hlt.le (by simp only; omega)
  rw [mem_actionFolds_iff h]
  constructor
  · rintro ⟨start, stop, hopens, rfl⟩
    rw [hcut hopens]
    exact ⟨hopens, rfl⟩
  · rcases fold with ⟨start, stop, kind⟩
    rintro ⟨hopens, rfl⟩
    exact ⟨start, stop, hopens, (hcut hopens).symm⟩

/-- A block that starts on a line on which another one goes on ends no later. -/
theorem OpensBlock.le_of_inside {inner innerStop : Nat} (houter : OpensBlock lines index stop)
    (hinner : OpensBlock lines inner innerStop) (hbelow : index < inner) (hinside : inner < stop) :
    innerStop ≤ stop := by
  obtain ⟨_, above, _, _, houter, _⟩ := houter
  obtain ⟨before, after, hline, _, hinner, _⟩ := hinner
  rw [← closingLine?_eq_some_iff Nat.one_pos] at houter hinner
  obtain ⟨hlt, hget⟩ := List.getElem?_eq_some_iff.mp hline
  obtain ⟨skipped, rfl⟩ : ∃ skipped, inner = index + (skipped + 1) :=
    ⟨inner - index - 1, by omega⟩
  obtain ⟨deeper, _, hgoesOn⟩ := exists_closingLine?_drop Nat.one_pos houter hinside.le
  have hrest : (above :: lines.drop (index + 1)).drop (skipped + 1) =
      (before ++ '\x7b' :: after) :: lines.drop (index + (skipped + 1) + 1) := by
    rw [List.drop_succ_cons, List.drop_drop, Nat.add_right_comm, Nat.add_assoc,
      List.drop_eq_getElem_cons hlt, hget]
  rw [hrest] at hgoesOn
  obtain ⟨earlier, hle, hearlier⟩ := exists_closingLine?_inside hgoesOn hinside
  rw [hinner] at hearlier
  exact Option.some.inj hearlier ▸ hle

end Folds

/-- A brace is closed on the line of the first closing brace at which one brace more has been
closed than opened behind it, and not at all if there is none; the depth never falls below
zero.  A line folds if the block that its first brace opens reaches down to another line; the
fold has the numbers of both lines, cut to coordinates.  As long as the numbers of all lines can
be written they are not cut, and of two folds the lower one starts where the upper one ends or
later, or it ends no later. -/
theorem action_folds_follow_braces (lines : List Line) :
    (∀ index before after, lines[index]? = some (before ++ '\x7b' :: after) →
      let offset := byteLength before
      let read := numberedText index (after :: lines.drop (index + 1))
      ∃ stop?, matchingBraceLine lines index offset = .ok stop? ∧
        matchingLineByCount lines index offset = .ok stop? ∧
        (∀ stop, stop? = some stop ↔ ClosesOn 1 read stop) ∧
        (stop? = none ↔ ∀ k, ¬ OutnumbersAt (read.map Prod.fst) 1 k)) ∧
      ∃ folds, actionFolds lines = .ok folds ∧
        (∀ fold, fold ∈ folds ↔
          ∃ start stop, OpensBlock lines start stop ∧ fold = Fold.cut ⟨start, stop, .region⟩) ∧
        (lines.length ≤ maxCoordinate + 1 →
          (∀ fold, fold ∈ folds ↔
            OpensBlock lines fold.startLine fold.endLine ∧ fold.kind = .region) ∧
          ∀ upper ∈ folds, ∀ lower ∈ folds, upper.startLine < lower.startLine →
            upper.endLine ≤ lower.startLine ∨ lower.endLine ≤ upper.endLine) := by
  constructor
  · intro index before after hline offset read
    have hmatch := matchingBraceLine_of_brace hline
    refine ⟨_, hmatch, (matchingLineByCount_eq lines index offset).trans hmatch, ?_, ?_⟩
    · exact fun stop => closingLine?_eq_some_iff Nat.one_pos
    · exact closingLine?_eq_none_iff Nat.one_pos
  · obtain ⟨folds, hfolds⟩ := exists_actionFolds lines
    refine ⟨folds, hfolds, fun fold => mem_actionFolds_iff hfolds, fun hfew => ?_⟩
    have hmem : ∀ fold, fold ∈ folds ↔
        OpensBlock lines fold.startLine fold.endLine ∧ fold.kind = .region :=
      fun fold => mem_actionFolds_iff_of_le hfew hfolds
    refine ⟨hmem, ?_⟩
    intro upper hupper lower hlower hbelow
    by_cases hinside : lower.startLine < upper.endLine
    · have hopens := ((hmem upper).mp hupper).1
      exact .inr (hopens.le_of_inside ((hmem lower).mp hlower).1 hbelow hinside)
    · exact .inl (Nat.le_of_not_lt hinside)

/-- An action with a block inside it, and a line that closes the one and opens another. -/
def nestedLines : List Line :=
  ["s: A \x7b é".toList, " if (x) \x7b".toList, " y(); \x7d \x7d".toList, "| \x7b \x7d \x7b".toList]

/-- The outer block ends with the inner one, and the last brace is not closed. -/
theorem nestedLines_follow_braces :
    nestedLines[0]? = some ("s: A ".toList ++ '\x7b' :: " é".toList) ∧
      matchingBraceLine nestedLines 0 5 = .ok (some 2) ∧
      ClosesOn 1 (numberedText 0 (" é".toList :: nestedLines.drop 1)) 2 ∧
      matchingBraceLine nestedLines 3 6 = .ok none ∧
      ∃ folds, actionFolds nestedLines = .ok folds ∧
        folds = [⟨0, 2, .region⟩, ⟨1, 2, .region⟩] ∧ OpensBlock nestedLines 0 2 := by
  obtain ⟨hmatches, folds, hfolds, _, hexact⟩ := action_folds_follow_braces nestedLines
  obtain ⟨hmem, _⟩ := hexact (by decide)
  have hline : nestedLines[0]? = some ("s: A ".toList ++ '\x7b' :: " é".toList) := by decide
  have hstop : matchingBraceLine nestedLines 0 5 = .ok (some 2) := by decide
  obtain ⟨stop?, hmatch, _, hcloses, _⟩ := hmatches 0 _ _ hline
  have hfound : stop? = some 2 := Except.ok.inj (hmatch.symm.trans hstop)
  have hall : actionFolds nestedLines = .ok [⟨0, 2, .region⟩, ⟨1, 2, .region⟩] := by decide
  have hlist := Except.ok.inj (hfolds.symm.trans hall)
  refine ⟨hline, hstop, (hcloses 2).mp hfound, by decide, folds, hfolds, hlist, ?_⟩
  exact ((hmem ⟨0, 2, .region⟩).mp (by rw [hlist]; exact List.mem_cons_self)).1

end GrammarServer
