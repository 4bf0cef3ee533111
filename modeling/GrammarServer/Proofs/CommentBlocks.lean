import GrammarServer.Feature.Folding
import GrammarServer.Proofs.LineCut

/-!
# Blocks of lines and comments

Comments and verbatim code fold from a line that opens a block to the next line that closes it.
Such blocks are disjoint and in order.  For comments there is a second description, character
by character: outside a comment its opener starts one, inside it the next closer ends it.  The
scan by lines looks only at the first opener of a line, and not at all behind a closer, so it
misses a comment that starts behind the end of another one.  It finds exactly the comments of
several lines if none of them starts on a line on which another comment ends.

Main results:

- Theorem `pairwise_blockFoldsFrom`: blocks of lines are disjoint and in order.
- Theorem `exists_lineScan`: what one line adds to the comments.
- Theorem `scan_line`: what one line does to both scans.
- Theorem `comment_folds_iff`: when the folds of comments are the comments of several lines.
- Theorem `not_forall_commentFolds_eq`: a comment that is missed.
-/

namespace GrammarServer

open Text

/-! ## Blocks of lines -/

section Blocks

variable {opens closes : Line → Bool} {kind : FoldKind} {index : Nat} {opened : Option Nat}
  {lines : List Line} {fold : Fold}

/-- The blocks from line `index` on, each from a line that opens one to the next line that
closes it; `opened` is the line of a block that is still open. -/
def blockFoldsFrom (opens closes : Line → Bool) (kind : FoldKind) (index : Nat)
    (opened : Option Nat) : List Line → List Fold
  | [] => []
  | line :: rest =>
    match opened with
    | none =>
      blockFoldsFrom opens closes kind (index + 1) (if opens line then some index else none) rest
    | some start =>
      if closes line then
        ⟨start, index, kind⟩ :: blockFoldsFrom opens closes kind (index + 1) none rest
      else blockFoldsFrom opens closes kind (index + 1) (some start) rest

theorem commentFoldsFrom_eq_blockFoldsFrom (index : Nat) (opened : Option Nat)
    (lines : List Line) :
    commentFoldsFrom index opened lines =
      blockFoldsFrom opensComment closesComment .comment index opened lines := by
  induction lines generalizing index opened with
  | nil => rfl
  | cons line rest ih =>
    cases opened with
    | none => exact ih _ _
    | some start => simp only [commentFoldsFrom, blockFoldsFrom, ih]

theorem codeFoldsFrom_eq_blockFoldsFrom (index : Nat) (opened : Option Nat)
    (lines : List Line) :
    codeFoldsFrom index opened lines =
      blockFoldsFrom opensCode closesCode .region index opened lines := by
  induction lines generalizing index opened with
  | nil => rfl
  | cons line rest ih =>
    cases opened with
    | none => exact ih _ _
    | some start => simp only [codeFoldsFrom, blockFoldsFrom, ih]

/-- A block starts on the line that is still open or on one that is read, and ends on a later
one that is read. -/
theorem blockFoldsFrom_bounds (hopened : ∀ start, opened = some start → start < index)
    (h : fold ∈ blockFoldsFrom opens closes kind index opened lines) :
    (opened = some fold.startLine ∨ index ≤ fold.startLine) ∧ fold.startLine < fold.endLine ∧
      index ≤ fold.endLine ∧ fold.endLine < index + lines.length := by
  induction lines generalizing index opened with
  | nil => cases h
  | cons line rest ih =>
    rw [List.length_cons]
    cases opened with
    | none =>
      rw [blockFoldsFrom] at h
      by_cases hopens : opens line = true
      · rw [if_pos hopens] at h
        obtain ⟨hstart, hlt, hle, hend⟩ := ih (by simp) h
        rw [Option.some.injEq] at hstart
        exact ⟨.inr (by omega), hlt, by omega, by omega⟩
      · rw [if_neg hopens] at h
        obtain ⟨hstart, hlt, hle, hend⟩ := ih (by simp) h
        exact ⟨hstart.imp_right fun _ => by omega, hlt, by omega, by omega⟩
    | some start =>
      have hbefore : start < index := hopened start rfl
      rw [blockFoldsFrom] at h
      by_cases hcloses : closes line = true
      · rw [if_pos hcloses] at h
        rcases List.mem_cons.mp h with rfl | h
        · exact ⟨.inl rfl, hbefore, Nat.le_refl index, by dsimp only; omega⟩
        · obtain ⟨hstart, hlt, hle, hend⟩ := ih (by simp) h
          have hbelow := hstart.resolve_left (by simp)
          exact ⟨.inr (by omega), hlt, by omega, by omega⟩
      · rw [if_neg hcloses] at h
        have hnext : ∀ start', some start = some start' → start' < index + 1 := by
          rintro _ ⟨⟩
          omega
        obtain ⟨hstart, hlt, hle, hend⟩ := ih hnext h
        exact ⟨hstart.imp_right fun _ => by omega, hlt, by omega, by omega⟩

/-- Blocks that are opened from a line on start there or below. -/
theorem le_startLine_of_mem_blockFoldsFrom
    (h : fold ∈ blockFoldsFrom opens closes kind index none lines) : index ≤ fold.startLine :=
  (blockFoldsFrom_bounds (by simp) h).1.resolve_left (by simp)

/-- Blocks of lines are disjoint and in order. -/
theorem pairwise_blockFoldsFrom :
    (blockFoldsFrom opens closes kind index opened lines).Pairwise
      fun upper lower => upper.endLine < lower.startLine := by
  induction lines generalizing index opened with
  | nil => exact List.Pairwise.nil
  | cons line rest ih =>
    cases opened with
    | none => exact ih
    | some start =>
      rw [blockFoldsFrom]
      split
      case isTrue =>
        refine List.pairwise_cons.mpr ⟨?_, ih⟩
        exact fun lower hlower => le_startLine_of_mem_blockFoldsFrom hlower
      case isFalse => exact ih

/-- Blocks keep their lines if there are not more lines than can be written. -/
theorem map_cut_blockFoldsFrom (hfew : lines.length ≤ maxCoordinate + 1) :
    (blockFoldsFrom opens closes kind 0 none lines).map Fold.cut =
      blockFoldsFrom opens closes kind 0 none lines := by
  conv_rhs => rw [← List.map_id (blockFoldsFrom opens closes kind 0 none lines)]
  apply List.map_congr_left
  intro fold hmem
  obtain ⟨_, hlt, _, hend⟩ := blockFoldsFrom_bounds (by simp) hmem
  exact Fold.cut_of_le (Nat.le_of_lt hlt) (by omega)

/-- The folds of comments are blocks of lines. -/
theorem commentFolds_eq (hfew : lines.length ≤ maxCoordinate + 1) :
    commentFolds lines = blockFoldsFrom opensComment closesComment .comment 0 none lines := by
  rw [commentFolds, commentFoldsFrom_eq_blockFoldsFrom, map_cut_blockFoldsFrom hfew]

/-- The folds of code sections are blocks of lines. -/
theorem codeFolds_eq (hfew : lines.length ≤ maxCoordinate + 1) :
    codeFolds lines = blockFoldsFrom opensCode closesCode .region 0 none lines := by
  rw [codeFolds, codeFoldsFrom_eq_blockFoldsFrom, map_cut_blockFoldsFrom hfew]

/-- Without a line that closes a block there is none. -/
theorem blockFoldsFrom_eq_nil (h : ∀ line ∈ lines, closes line = false) :
    blockFoldsFrom opens closes kind index opened lines = [] := by
  induction lines generalizing index opened with
  | nil => rfl
  | cons line rest ih =>
    have hrest := fun other hother => h other (List.mem_cons_of_mem line hother)
    cases opened with
    | none => exact ih hrest
    | some start =>
      rw [blockFoldsFrom, h line List.mem_cons_self]
      exact ih hrest

end Blocks

/-! ## Comments, character by character -/

/-- The comments of a text that is read from left to right, each with the line of its opener and
that of its closer; `opened` is the line of the opener of a comment that is still open.  Outside
a comment an opener starts one, inside it the next closer ends it. -/
def commentsFrom (opened : Option Nat) : List (Char × Nat) → List Fold
  | [] => []
  | [_] => []
  | (a, number) :: (b, number') :: rest =>
    match opened with
    | none =>
      if a = '/' ∧ b = '*' then commentsFrom (some number) rest
      else commentsFrom none ((b, number') :: rest)
    | some start =>
      if a = '*' ∧ b = '/' then ⟨start, number', .comment⟩ :: commentsFrom none rest
      else commentsFrom (some start) ((b, number') :: rest)

/-- The comments of some lines. -/
def comments (lines : List Line) : List Fold :=
  commentsFrom none (numberedText 0 lines)

/-- Whether a comment ends on a later line than it starts. -/
def isLong (comment : Fold) : Bool :=
  comment.startLine < comment.endLine

/-- The two characters that are looked for, outside and inside a comment. -/
def delimiter : Option Nat → Char × Char
  | none => ('/', '*')
  | some _ => ('*', '/')

section Scan

variable {opened : Option Nat} {number number' : Nat} {a b c : Char}
  {line tail : Line} {rest read : List (Char × Nat)} {fold : Fold}

theorem commentsFrom_skip (h : ¬ (a = (delimiter opened).1 ∧ b = (delimiter opened).2)) :
    commentsFrom opened ((a, number) :: (b, number') :: rest) =
      commentsFrom opened ((b, number') :: rest) := by
  cases opened with
  | none => exact if_neg h
  | some start => exact if_neg h

/-- A line feed belongs to no delimiter. -/
theorem commentsFrom_feed :
    commentsFrom opened (('\n', number) :: rest) = commentsFrom opened rest := by
  cases rest with
  | nil => rfl
  | cons next rest =>
    refine commentsFrom_skip fun h => ?_
    cases opened with
    | none => exact absurd h.1 (by decide)
    | some start => exact absurd (show '\n' = '*' from h.1) (by decide)

/-- A line without the delimiter that is looked for changes nothing. -/
theorem commentsFrom_line_of_none
    (h : afterPair? (delimiter opened).1 (delimiter opened).2 line = none) :
    commentsFrom opened ((line ++ ['\n']).map (·, number) ++ rest) = commentsFrom opened rest := by
  fun_induction afterPair? (delimiter opened).1 (delimiter opened).2 line with
  | case1 => exact commentsFrom_feed
  | case2 c =>
    refine (commentsFrom_skip fun h => ?_).trans commentsFrom_feed
    cases opened with
    | none => exact absurd h.2 (by decide)
    | some start => exact absurd (show '\n' = '/' from h.2) (by decide)
  | case3 a b line heq => cases h
  | case4 a b line hne ih => exact (commentsFrom_skip hne).trans (ih h)

theorem commentsFrom_line_of_no_opener (h : afterPair? '/' '*' line = none) :
    commentsFrom none ((line ++ ['\n']).map (·, number) ++ rest) = commentsFrom none rest :=
  commentsFrom_line_of_none h

theorem commentsFrom_line_of_no_closer {start : Nat} (h : afterPair? '*' '/' line = none) :
    commentsFrom (some start) ((line ++ ['\n']).map (·, number) ++ rest) =
      commentsFrom (some start) rest :=
  commentsFrom_line_of_none h

/-- Outside a comment the first opener of a line starts one. -/
theorem commentsFrom_line_of_opener (h : afterPair? '/' '*' line = some tail) :
    commentsFrom none ((line ++ ['\n']).map (·, number) ++ rest) =
      commentsFrom (some number) ((tail ++ ['\n']).map (·, number) ++ rest) := by
  fun_induction afterPair? '/' '*' line with
  | case1 => cases h
  | case2 c => cases h
  | case3 a b line heq =>
    obtain rfl := Option.some.inj h
    exact if_pos heq
  | case4 a b line hne ih => exact (commentsFrom_skip hne).trans (ih h)

/-- Inside a comment the first closer of a line ends it. -/
theorem commentsFrom_line_of_closer {start : Nat} (h : afterPair? '*' '/' line = some tail) :
    commentsFrom (some start) ((line ++ ['\n']).map (·, number) ++ rest) =
      ⟨start, number, .comment⟩ ::
        commentsFrom none ((tail ++ ['\n']).map (·, number) ++ rest) := by
  fun_induction afterPair? '*' '/' line with
  | case1 => cases h
  | case2 c => cases h
  | case3 a b line heq =>
    obtain rfl := Option.some.inj h
    exact if_pos heq
  | case4 a b line hne ih => exact (commentsFrom_skip hne).trans (ih h)

theorem length_lt_of_afterPair? {first second : Char}
    (h : afterPair? first second line = some tail) : tail.length < line.length := by
  fun_induction afterPair? first second line with
  | case1 => cases h
  | case2 c => cases h
  | case3 a b line heq =>
    obtain rfl := Option.some.inj h
    simp only [List.length_cons]
    omega
  | case4 a b line hne ih =>
    have hrest := ih h
    simp only [List.length_cons] at hrest ⊢
    omega

/-- What one line adds to the comments if it starts outside of them: comments of this line
alone, and perhaps the start of one more. -/
theorem exists_lineScan (line : Line) (number : Nat) :
    ∃ found opened, (∀ comment ∈ found, comment = ⟨number, number, .comment⟩) ∧
      (opened = none ∨ opened = some number) ∧
      ∀ rest, commentsFrom none ((line ++ ['\n']).map (·, number) ++ rest) =
        found ++ commentsFrom opened rest := by
  induction hlength : line.length using Nat.strongRecOn generalizing line with
  | ind length ih =>
    cases hopener : afterPair? '/' '*' line with
    | none => exact ⟨[], none, by simp, .inl rfl, fun _ => commentsFrom_line_of_no_opener hopener⟩
    | some inside =>
      cases hcloser : afterPair? '*' '/' inside with
      | none =>
        refine ⟨[], some number, by simp, .inr rfl, fun rest => ?_⟩
        rw [commentsFrom_line_of_opener hopener, commentsFrom_line_of_no_closer hcloser,
          List.nil_append]
      | some outside =>
        have hshorter : outside.length < length := by
          have hinside := length_lt_of_afterPair? hopener
          have houtside := length_lt_of_afterPair? hcloser
          omega
        obtain ⟨found, opened, hfound, hopened, hscan⟩ := ih _ hshorter outside rfl
        refine ⟨⟨number, number, .comment⟩ :: found, opened, ?_, hopened, fun rest => ?_⟩
        · exact List.forall_mem_cons.mpr ⟨rfl, hfound⟩
        · rw [commentsFrom_line_of_opener hopener, commentsFrom_line_of_closer hcloser, hscan,
            List.cons_append]

/-- A comment starts on the line that is still open or on one that is read, and ends on one that
is read. -/
theorem commentsFrom_bounds (hread : ∀ place ∈ read, number ≤ place.2)
    (h : fold ∈ commentsFrom opened read) :
    (opened = some fold.startLine ∨ number ≤ fold.startLine) ∧ number ≤ fold.endLine := by
  fun_induction commentsFrom opened read with
  | case1 => cases h
  | case2 => cases h
  | case3 a line b line' rest heq ih =>
    obtain ⟨hline, _, hrest⟩ : number ≤ line ∧ number ≤ line' ∧ _ := by
      simpa only [List.forall_mem_cons] using hread
    obtain ⟨hstart, hstop⟩ := ih hrest h
    rw [Option.some.injEq] at hstart
    exact ⟨.inr (by omega), hstop⟩
  | case4 a line b line' rest hne ih => exact ih (List.forall_mem_cons.mp hread).2 h
  | case5 a line b line' rest start heq ih =>
    obtain ⟨_, hline', hrest⟩ : number ≤ line ∧ number ≤ line' ∧ _ := by
      simpa only [List.forall_mem_cons] using hread
    rcases List.mem_cons.mp h with rfl | h
    · exact ⟨.inl rfl, hline'⟩
    · obtain ⟨hstart, hstop⟩ := ih hrest h
      exact ⟨.inr (hstart.resolve_left (by simp)), hstop⟩
  | case6 a line b line' rest start hne ih => exact ih (List.forall_mem_cons.mp hread).2 h

end Scan

/-! ## Where the two scans agree -/

section Agreement

variable {index : Nat} {opened : Option Nat} {lines : List Line} {found later : List Fold}
  {fold : Fold}

/-- An open comment is closed on the first line with a closer, and not at all without one. -/
theorem commentsFrom_some_cases (start index : Nat) (lines : List Line) :
    (commentsFrom (some start) (numberedText index lines) = [] ∧
        ∀ line ∈ lines, closesComment line = false) ∨
      ∃ stop others, index ≤ stop ∧
        commentsFrom (some start) (numberedText index lines) =
          ⟨start, stop, .comment⟩ :: others := by
  induction lines generalizing index with
  | nil => exact .inl ⟨rfl, by simp⟩
  | cons line rest ih =>
    rw [numberedText]
    cases hcloser : afterPair? '*' '/' line with
    | some outside => exact .inr ⟨index, _, Nat.le_refl index, commentsFrom_line_of_closer hcloser⟩
    | none =>
      rw [commentsFrom_line_of_no_closer hcloser]
      rcases ih (index + 1) with ⟨hnil, hrest⟩ | ⟨stop, others, hle, hfirst⟩
      · refine .inl ⟨hnil, List.forall_mem_cons.mpr ⟨?_, hrest⟩⟩
        rw [closesComment, hcloser]
        rfl
      · exact .inr ⟨stop, others, Nat.le_of_succ_le hle, hfirst⟩

theorem isLong_iff : isLong fold = true ↔ fold.startLine < fold.endLine :=
  decide_eq_true_iff

/-- Comments of one line are not long. -/
theorem filter_isLong_eq_nil (h : ∀ comment ∈ found, comment = ⟨index, index, .comment⟩) :
    found.filter isLong = [] := by
  rw [List.filter_eq_nil_iff]
  intro comment hmem
  rw [h comment hmem, isLong_iff]
  exact Nat.lt_irrefl index

/-- No comment of several lines starts on a line on which another comment ends. -/
def StartsApart (found : List Fold) : Prop :=
  ∀ comment ∈ found, isLong comment = true →
    ∀ other ∈ found, other.endLine ≠ comment.startLine

instance (found : List Fold) : Decidable (StartsApart found) :=
  inferInstanceAs (Decidable (∀ comment ∈ found, isLong comment = true →
    ∀ other ∈ found, other.endLine ≠ comment.startLine))

/-- Comments that end on one line are apart from those that start below it. -/
theorem startsApart_append_iff (hfound : ∀ comment ∈ found, comment.endLine = index)
    (hlater : ∀ comment ∈ later, index < comment.startLine ∧ index < comment.endLine) :
    StartsApart (found ++ later) ↔ StartsApart later := by
  constructor
  · intro h comment hmem hlong other hother
    exact h comment (List.mem_append_right found hmem) hlong other
      (List.mem_append_right found hother)
  · intro h comment hmem hlong other hother
    have hend : index ≤ other.endLine := by
      rcases List.mem_append.mp hother with hother | hother
      · exact Nat.le_of_eq (hfound other hother).symm
      · exact Nat.le_of_lt (hlater other hother).2
    rcases List.mem_append.mp hmem with hmem | hmem
    · have hstop := hfound comment hmem
      have hlt := isLong_iff.mp hlong
      omega
    · rcases List.mem_append.mp hother with hother | hother
      · have hstop := hfound other hother
        have hstart := (hlater comment hmem).1
        omega
      · exact h comment hmem hlong other hother

/-- Behind a line on which comments end, the scans agree if they agree from the next line on and
no further comment has been opened on this line, unless that one is never closed. -/
theorem agree_behind_closer (hne : found ≠ [])
    (hfound : ∀ comment ∈ found, comment.endLine = index)
    (hopened : opened = none ∨ opened = some index)
    (h : commentFoldsFrom (index + 1) none lines =
        (commentsFrom none (numberedText (index + 1) lines)).filter isLong ↔
      StartsApart (commentsFrom none (numberedText (index + 1) lines))) :
    found.filter isLong ++ commentFoldsFrom (index + 1) none lines =
        (found ++ commentsFrom opened (numberedText (index + 1) lines)).filter isLong ↔
      StartsApart (found ++ commentsFrom opened (numberedText (index + 1) lines)) := by
  rw [List.filter_append, List.append_cancel_left_eq]
  rcases hopened with rfl | rfl
  · rw [h, startsApart_append_iff hfound]
    intro comment hmem
    obtain ⟨hstart, hstop⟩ := commentsFrom_bounds (fun _ => le_of_mem_numberedText) hmem
    exact ⟨hstart.resolve_left (by simp), hstop⟩
  · rcases commentsFrom_some_cases index (index + 1) lines with
      ⟨hnil, hnever⟩ | ⟨stop, others, hle, hfirst⟩
    · rw [hnil, startsApart_append_iff hfound (by simp), commentFoldsFrom_eq_blockFoldsFrom,
        blockFoldsFrom_eq_nil hnever]
      simp [StartsApart]
    · -- The comment that is missed starts where another one ends.
      have hmissed : (⟨index, stop, .comment⟩ : Fold) ∈
          commentsFrom (some index) (numberedText (index + 1) lines) := by
        rw [hfirst]
        exact List.mem_cons_self
      have hlong : isLong ⟨index, stop, .comment⟩ = true := isLong_iff.mpr hle
      constructor
      · intro heq
        have hmem := List.mem_filter.mpr ⟨hmissed, hlong⟩
        rw [← heq, commentFoldsFrom_eq_blockFoldsFrom] at hmem
        have hstart := le_startLine_of_mem_blockFoldsFrom hmem
        exact absurd hstart (Nat.not_succ_le_self index)
      · intro hapart
        obtain ⟨other, hother⟩ := List.exists_mem_of_ne_nil found hne
        have hends := hapart _ (List.mem_append_right found hmissed) hlong other
          (List.mem_append_left _ hother)
        exact absurd (hfound other hother) hends

/-- What one line does to both scans: either no comment ends on it and both go on alike, or
some do, and the scan by lines goes on outside of comments while the other one may have come to
a further opener. -/
theorem scan_line (hopened : ∀ start, opened = some start → start < index) (line : Line)
    (rest : List Line) :
    (∃ next, (∀ start, next = some start → start < index + 1) ∧
        commentFoldsFrom index opened (line :: rest) = commentFoldsFrom (index + 1) next rest ∧
        commentsFrom opened (numberedText index (line :: rest)) =
          commentsFrom next (numberedText (index + 1) rest)) ∨
      ∃ found next, found ≠ [] ∧ (∀ comment ∈ found, comment.endLine = index) ∧
        (next = none ∨ next = some index) ∧
        commentFoldsFrom index opened (line :: rest) =
          found.filter isLong ++ commentFoldsFrom (index + 1) none rest ∧
        commentsFrom opened (numberedText index (line :: rest)) =
          found ++ commentsFrom next (numberedText (index + 1) rest) := by
  rw [numberedText]
  cases opened with
  | none =>
    rw [commentFoldsFrom]
    cases hopener : afterPair? '/' '*' line with
    | none =>
      have hopens : opensComment line = false := by rw [opensComment, hopener]
      rw [hopens, commentsFrom_line_of_no_opener hopener]
      exact .inl ⟨none, by simp, rfl, rfl⟩
    | some inside =>
      rw [commentsFrom_line_of_opener hopener]
      cases hcloser : afterPair? '*' '/' inside with
      | none =>
        have hopens : opensComment line = true := by simp [opensComment, hopener, hcloser]
        rw [hopens, commentsFrom_line_of_no_closer hcloser]
        exact .inl ⟨some index, by simp, rfl, rfl⟩
      | some outside =>
        have hopens : opensComment line = false := by simp [opensComment, hopener, hcloser]
        obtain ⟨found, next, hfound, hnext, hscan⟩ := exists_lineScan outside index
        have hshort : ∀ comment ∈ (⟨index, index, .comment⟩ :: found : List Fold),
            comment = ⟨index, index, .comment⟩ := List.forall_mem_cons.mpr ⟨rfl, hfound⟩
        rw [hopens, commentsFrom_line_of_closer hcloser, hscan]
        refine .inr ⟨_, next, List.cons_ne_nil _ found, fun comment hmem => ?_, hnext, ?_, rfl⟩
        · rw [hshort comment hmem]
        · rw [filter_isLong_eq_nil hshort]
          rfl
  | some start =>
    have hbefore := hopened start rfl
    rw [commentFoldsFrom, closesComment]
    cases hcloser : afterPair? '*' '/' line with
    | none =>
      rw [commentsFrom_line_of_no_closer hcloser]
      exact .inl ⟨some start, fun _ hstart => by cases hstart; omega, rfl, rfl⟩
    | some outside =>
      obtain ⟨found, next, hfound, hnext, hscan⟩ := exists_lineScan outside index
      rw [commentsFrom_line_of_closer hcloser, hscan]
      refine .inr ⟨_, next, List.cons_ne_nil _ found, ?_, hnext, ?_, rfl⟩
      · refine List.forall_mem_cons.mpr ⟨rfl, fun comment hmem => ?_⟩
        rw [hfound comment hmem]
      · rw [List.filter_cons_of_pos (isLong_iff.mpr hbefore), filter_isLong_eq_nil hfound]
        rfl

/-- From any line on, the scans agree exactly if the comments of several lines start apart from
the ends of others. -/
theorem commentFoldsFrom_eq_iff (hopened : ∀ start, opened = some start → start < index) :
    commentFoldsFrom index opened lines =
        (commentsFrom opened (numberedText index lines)).filter isLong ↔
      StartsApart (commentsFrom opened (numberedText index lines)) := by
  induction lines generalizing index opened with
  | nil => simp [commentFoldsFrom, numberedText, commentsFrom, StartsApart]
  | cons line rest ih =>
    rcases scan_line hopened line rest with
      ⟨next, hnext, hfolds, hcomments⟩ | ⟨found, next, hne, hfound, hnext, hfolds, hcomments⟩
    · rw [hfolds, hcomments]
      exact ih hnext
    · rw [hfolds, hcomments]
      exact agree_behind_closer hne hfound hnext (ih (by simp))

end Agreement

/-- If the numbers of all lines can be written, the folds of comments are the comments that end
on a later line than they start, in order, exactly if none of these starts on a line on which
another comment ends. -/
theorem comment_folds_iff (lines : List Line) (hfew : lines.length ≤ maxCoordinate + 1) :
    commentFolds lines = (comments lines).filter isLong ↔ StartsApart (comments lines) := by
  rw [commentFolds_eq hfew, ← commentFoldsFrom_eq_blockFoldsFrom]
  exact commentFoldsFrom_eq_iff (by simp)

/-- Lines with three comments, of which the first one ends on its own line. -/
def threeComments : List Line :=
  ["/* one */".toList, "/*".toList, "*/ x".toList, "y /*/".toList, "*/".toList]

/-- The two comments of several lines fold. -/
theorem threeComments_folded :
    commentFolds threeComments = [⟨1, 2, .comment⟩, ⟨3, 4, .comment⟩] ∧
      commentFolds threeComments = (comments threeComments).filter isLong := by
  have hapart : StartsApart (comments threeComments) := by decide
  exact ⟨by decide, (comment_folds_iff threeComments (by decide)).mpr hapart⟩

/-- A comment of two lines that starts behind another one is missed. -/
theorem not_forall_commentFolds_eq :
    ¬ ∀ lines : List Line, commentFolds lines = (comments lines).filter isLong := by
  intro hall
  have hmissed := hall ["/* a */ /* b".toList, "*/".toList]
  exact absurd hmissed (by decide)

end GrammarServer
