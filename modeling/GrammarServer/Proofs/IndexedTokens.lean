import GrammarServer.Feature.Folding
import GrammarServer.Proofs.Highlighting
import GrammarServer.Proofs.IndexedScan

/-!
# Colouring and folding by index

The scanners for colours and for folds, written with indices into a line, byte offsets and
counters.  Every access and every difference is checked; no check ever fails, and each scanner
has the result of the one that walks along the list.

Main results:

- Theorem `moveAt_eq`: what the scan of a line does at a column.
- Theorem `scanByIndex_eq`: the tokens of a line.
- Theorem `deltasByIndex_eq`: the relative positions of sorted tokens.
- Theorem `Document.highlightsByIndex_eq`: the coloured tokens of a document.
- Theorem `commentFoldsByOffset_eq`: the folds of comments.
- Theorem `actionFoldsByCount_eq`: the folds of action blocks.
-/

namespace GrammarServer

open Text

/-! ## Ends of tokens -/

/-- The end of a run of characters of one class. -/
def scanWhile (chars : Line) (start : Nat) (p : Char → Bool) : Except Crash Nat := do
  let rest ← sliceAt chars (min start chars.length) chars.length
  return match rest.findIdx? (!p ·) with
    | some offset => start + offset
    | none => chars.length

/-- The end of a comment whose text starts at a column. -/
def commentStop (chars : Line) (start : Nat) : Except Crash (Option Nat) :=
  if start < chars.length - 1 then do
    let first ← elementAt chars start
    let second ← elementAt chars (start + 1)
    if first = '*' ∧ second = '/' then return some (start + 2)
    else commentStop chars (start + 1)
  else return none
termination_by chars.length - start

/-- The end of a string whose text starts at a column. -/
def stringStop (chars : Line) (quote : Char) (start : Nat) : Except Crash (Option Nat) :=
  if start < chars.length then do
    let c ← elementAt chars start
    if c = '\\' then stringStop chars quote (start + 2)
    else if c = quote then return some (start + 1)
    else stringStop chars quote (start + 1)
  else return none
termination_by chars.length - start

theorem findIdx?_not_eq (p : Char → Bool) (cs : List Char) :
    (cs.findIdx? (!p ·)).getD cs.length = (cs.takeWhile p).length := by
  induction cs with
  | nil => rfl
  | cons c rest ih =>
    rw [List.findIdx?_cons, List.takeWhile_cons]
    by_cases hc : p c = true
    · cases hfind : rest.findIdx? (!p ·) with
      | none => simp [hc, ← ih, hfind]
      | some offset => simp [hc, ← ih, hfind]
    · simp [hc]

/-- A run ends where its class ends. -/
theorem scanWhile_eq {chars : Line} {start : Nat} (p : Char → Bool) (h : start ≤ chars.length) :
    scanWhile chars start p = .ok (start + ((chars.drop start).takeWhile p).length) := by
  have hslice : slice chars start chars.length = chars.drop start := by
    rw [slice, List.take_length]
  have hlength : chars.length = start + (chars.drop start).length := by
    rw [List.length_drop]
    omega
  rw [scanWhile, Nat.min_eq_left h, sliceAt_of_le h (le_refl _), hslice, ← findIdx?_not_eq]
  simp only [bind, Except.bind, pure, Except.pure, Except.ok.injEq]
  cases (chars.drop start).findIdx? (!p ·) with
  | none => simpa using hlength
  | some offset => rfl

/-- A length is counted from a later start. -/
theorem map_add_map_add (length? : Option Nat) (start shift : Nat) :
    (length?.map (· + shift)).map (start + ·) = length?.map (start + shift + ·) := by
  rw [Option.map_map]
  congr 1
  funext length
  simp only [Function.comp_apply]
  omega

/-- A comment ends as far after its start as its text is long. -/
theorem commentStop_eq (chars : Line) (start : Nat) :
    commentStop chars start = .ok ((commentLength? (chars.drop start)).map (start + ·)) := by
  fun_induction commentStop chars start with
  | case1 start hlt ih =>
    have hfirst : chars.drop start = chars[start] :: chars.drop (start + 1) :=
      List.drop_eq_getElem_cons (by omega)
    have hsecond : chars.drop (start + 1) = chars[start + 1] :: chars.drop (start + 2) :=
      List.drop_eq_getElem_cons (by omega)
    simp only [elementAt_of_drop hfirst, elementAt_of_drop hsecond, bind, Except.bind, pure,
      Except.pure]
    rw [hfirst, hsecond, commentLength?]
    by_cases hend : chars[start] = '*' ∧ chars[start + 1] = '/'
    · rw [if_pos hend, if_pos hend]
      rfl
    · rw [if_neg hend, if_neg hend, ih, hsecond, map_add_map_add]
  | case2 start hge =>
    have hshort : (chars.drop start).length ≤ 1 := by
      rw [List.length_drop]
      omega
    have hnone : commentLength? (chars.drop start) = none := by
      match hdrop : chars.drop start with
      | [] => rfl
      | [_] => rfl
      | _ :: _ :: _ =>
        rw [hdrop] at hshort
        simp at hshort
    rw [hnone]
    rfl

/-- A character other than a backslash ends a string or belongs to it. -/
theorem stringLength?_cons {quote c : Char} (h : c ≠ '\\') (rest : List Char) :
    stringLength? quote (c :: rest) =
      if c = quote then some 1 else (stringLength? quote rest).map (· + 1) := by
  rw [stringLength?]
  · intro hc
    exact absurd hc h
  · intro _ _ hc
    exact absurd hc h

/-- A string ends as far after its start as its text is long. -/
theorem stringStop_eq (chars : Line) (quote : Char) (start : Nat) :
    stringStop chars quote start =
      .ok ((stringLength? quote (chars.drop start)).map (start + ·)) := by
  fun_induction stringStop chars quote start with
  | case1 start hlt ihEscape ihPlain =>
    have hdrop : chars.drop start = chars[start] :: chars.drop (start + 1) :=
      List.drop_eq_getElem_cons hlt
    have hskip : chars.drop (start + 2) = (chars.drop (start + 1)).drop 1 := by
      rw [List.drop_drop]
    simp only [elementAt_of_drop hdrop, bind, Except.bind, pure, Except.pure]
    rw [hdrop]
    by_cases hescape : chars[start] = '\\'
    · rw [if_pos hescape, ihEscape, hescape, hskip]
      cases chars.drop (start + 1) with
      | nil => rfl
      | cons d rest => rw [List.drop_one, List.tail_cons, stringLength?, map_add_map_add]
    · rw [if_neg hescape, stringLength?_cons hescape]
      by_cases hquote : chars[start] = quote
      · rw [if_pos hquote, if_pos hquote]
        rfl
      · rw [if_neg hquote, if_neg hquote, ihPlain, map_add_map_add]
  | case2 start hge =>
    rw [List.drop_eq_nil_of_le (by omega)]
    rfl

/-! ## Tokens of a line -/

/-- What the scan of a line does at a column. -/
inductive ScanMove where
  /-- The scan goes on with the next character. -/
  | skip
  /-- The scan reads a token and goes on after it. -/
  | token (stop : Nat) (tokenClass : TokenClass)
  /-- The scan ends. -/
  | halt
deriving DecidableEq, Repr

/-- What the scan of a line does at a column, decided by the characters from there on. -/
def moveAt (names : DeclaredNames) (chars : Line) (start : Nat) : Except Crash ScanMove := do
  let c ← elementAt chars start
  if isBlank c then return .skip
  else if c = '%' then
    let stop ← scanWhile chars (start + 1) Char.isLower
    if start + 1 < stop then
      let word ← sliceAt chars start stop
      return if directives.contains (String.ofList word) then .token stop .keyword else .skip
    else return .skip
  else if c = '/' ∧ chars[start + 1]? = some '/' then return .token chars.length .comment
  else if c = '/' ∧ chars[start + 1]? = some '*' then
    return match ← commentStop chars (start + 2) with
      | some stop => .token stop .comment
      | none => .skip
  else if c = '"' ∨ c = '\'' then
    return match ← stringStop chars c (start + 1) with
      | some stop => .token stop .string
      | none => .halt
  else if isIdentifierStart c then
    let stop ← scanWhile chars start isIdentifierChar
    let word ← sliceAt chars start stop
    return .token stop (names.classify (String.ofList word))
  else if isOperator c then return .token (start + 1) .operator
  else return .skip

/-- The tokens of a line from a column on.  Every token must take the scan further. -/
def scanByIndex (names : DeclaredNames) (index : Nat) (chars : Line) (start : Nat) :
    Except Crash (List HighlightToken) :=
  if start < chars.length then do
    match ← moveAt names chars start with
    | .skip => scanByIndex names index chars (start + 1)
    | .halt => return []
    | .token stop tokenClass =>
      if start < stop then
        let length ← difference stop start
        let others ← scanByIndex names index chars stop
        return HighlightToken.cut ⟨index, start, length, tokenClass.legendIndex⟩ :: others
      else throw .offsetOutOfRange
  else return []
termination_by chars.length - start

/-- What the scan does where the rest of the line starts with a character. -/
def moveOf (names : DeclaredNames) (start : Nat) (c : Char) (rest : List Char) : ScanMove :=
  if opensUnclosedString c rest then .halt
  else
    match tokenAt? names c rest with
    | some (length, tokenClass) => .token (start + length) tokenClass
    | none => .skip

section Move

variable {names : DeclaredNames} {chars rest : List Char} {start : Nat} {c : Char}

theorem drop_succ_of_drop (h : chars.drop start = c :: rest) : chars.drop (start + 1) = rest := by
  rw [← List.drop_drop, h, List.drop_one, List.tail_cons]

theorem length_of_drop (h : chars.drop start = c :: rest) :
    chars.length = start + 1 + rest.length := by
  have hdrop := congrArg List.length h
  rw [List.length_drop, List.length_cons] at hdrop
  omega

/-- A character and the run after it are cut out of the line. -/
theorem sliceAt_run (h : chars.drop start = c :: rest) (p : Char → Bool) :
    sliceAt chars start (start + ((rest.takeWhile p).length + 1)) =
      .ok (c :: rest.takeWhile p) := by
  have hrun : (rest.takeWhile p).length ≤ rest.length := (List.takeWhile_sublist p).length_le
  have hlength := length_of_drop h
  have hprefix : rest.takeWhile p = rest.take (rest.takeWhile p).length :=
    List.prefix_iff_eq_take.mp (List.takeWhile_prefix p)
  rw [sliceAt_of_le (by omega) (by omega), slice, List.drop_take, h, Nat.add_sub_cancel_left,
    List.take_succ_cons, ← hprefix]

/-- A quote starts a string, or ends the scan if the string has no end. -/
theorem moveAt_quote (h : chars.drop start = c :: rest) (hquote : c = '"' ∨ c = '\'') :
    moveAt names chars start = .ok (moveOf names start c rest) := by
  have hother : isBlank c = false ∧ c ≠ '%' ∧ c ≠ '/' := by
    rcases hquote with rfl | rfl
    · decide
    · decide
  have hstop := stringStop_eq chars c (start + 1)
  rw [drop_succ_of_drop h] at hstop
  cases hend : stringLength? c rest with
  | none =>
    simp [moveAt, elementAt_of_drop h, hstop, hother, hquote, hend, moveOf, opensUnclosedString,
      bind, Except.bind, pure, Except.pure]
  | some length =>
    simp [moveAt, elementAt_of_drop h, hstop, hother, hquote, hend, moveOf, opensUnclosedString,
      tokenAt?, bind, Except.bind, pure, Except.pure, Nat.add_assoc, Nat.add_comm 1]

/-- Elsewhere the scan goes on, after a token if there is one. -/
theorem moveOf_of_not_quote (hquote : ¬ (c = '"' ∨ c = '\'')) :
    moveOf names start c rest =
      match tokenAt? names c rest with
      | some (length, tokenClass) => .token (start + length) tokenClass
      | none => .skip := by
  have hclosed : opensUnclosedString c rest = false := by
    simp only [not_or] at hquote
    simp [opensUnclosedString, hquote]
  simp [moveOf, hclosed]

/-- A percent sign starts a directive if the letters after it make one. -/
theorem moveAt_percent (h : chars.drop start = '%' :: rest) :
    moveAt names chars start = .ok (moveOf names start '%' rest) := by
  have hlength := length_of_drop h
  have hblank : isBlank '%' = false := by decide
  have hbare : directives.contains (String.ofList ['%']) = false := by decide
  have hstop : scanWhile chars (start + 1) Char.isLower =
      .ok (start + ((rest.takeWhile Char.isLower).length + 1)) := by
    rw [scanWhile_eq _ (by omega), drop_succ_of_drop h, Nat.add_assoc, Nat.add_comm 1]
  rw [moveOf_of_not_quote (by decide)]
  simp only [moveAt, tokenAt?, elementAt_of_drop h, hstop, hblank, sliceAt_run h, bind,
    Except.bind, pure, Except.pure, Bool.false_eq_true, if_false, if_true]
  by_cases hletters : rest.takeWhile Char.isLower = []
  · rw [hletters, hbare]
    simp
  · have hpos := List.length_pos_iff.mpr hletters
    rw [if_pos (by omega)]
    split
    case isTrue => rfl
    case isFalse => rfl

/-- A slash starts a comment to the end of the line, or one that is closed. -/
theorem moveAt_slash (h : chars.drop start = '/' :: rest) :
    moveAt names chars start = .ok (moveOf names start '/' rest) := by
  have hlength := length_of_drop h
  have hblank : isBlank '/' = false := by decide
  have hneither : isIdentifierStart '/' = false ∧ isOperator '/' = false := by decide
  have hnext : chars[start + 1]? = rest.head? := by
    rw [← List.head?_drop, drop_succ_of_drop h]
  have hstop := commentStop_eq chars (start + 2)
  have hskip : chars.drop (start + 2) = rest.drop 1 := by
    rw [← drop_succ_of_drop h, List.drop_drop]
  rw [moveOf_of_not_quote (by decide)]
  simp only [moveAt, elementAt_of_drop h, hblank, hnext, hstop, hskip, bind, Except.bind, pure,
    Except.pure, Bool.false_eq_true, if_false, true_and]
  cases rest with
  | nil => rfl
  | cons d tail =>
    by_cases hline : d = '/'
    · subst hline
      rw [hlength]
      simp [tokenAt?, hblank, Nat.add_assoc, Nat.add_comm 1]
    by_cases hblock : d = '*'
    · subst hblock
      cases hend : commentLength? tail with
      | none => simp [tokenAt?, hblank, hend]
      | some length => simp [tokenAt?, hblank, hend, Nat.add_assoc, Nat.add_comm 2]
    · have hnone : tokenAt? names '/' (d :: tail) = none := by
        simp [tokenAt?, hblank]
        grind
      rw [hnone]
      simp [hline, hblock, hneither]

/-- A letter or an underscore starts an identifier. -/
theorem moveAt_identifier (h : chars.drop start = c :: rest) (hquote : ¬ (c = '"' ∨ c = '\''))
    (hblank : isBlank c = false) (hstart : isIdentifierStart c = true) :
    moveAt names chars start = .ok (moveOf names start c rest) := by
  have hlength := length_of_drop h
  have hother : c ≠ '%' ∧ c ≠ '/' := by
    constructor
    · rintro rfl
      exact absurd hstart (by decide)
    · rintro rfl
      exact absurd hstart (by decide)
  have hstop : scanWhile chars start isIdentifierChar =
      .ok (start + ((rest.takeWhile isIdentifierChar).length + 1)) := by
    rw [scanWhile_eq _ (by omega), h,
      List.takeWhile_cons_of_pos (isIdentifierChar_of_isIdentifierStart hstart), List.length_cons]
  rw [moveOf_of_not_quote hquote]
  simp [moveAt, tokenAt?, elementAt_of_drop h, hblank, hother, hquote, hstart, hstop,
    sliceAt_run h, bind, Except.bind, pure, Except.pure]

/-- A column decides what the scan does there as the rest of the line does. -/
theorem moveAt_eq (h : chars.drop start = c :: rest) :
    moveAt names chars start = .ok (moveOf names start c rest) := by
  by_cases hquote : c = '"' ∨ c = '\''
  · exact moveAt_quote h hquote
  by_cases hblank : isBlank c = true
  · rw [moveOf_of_not_quote hquote]
    simp [moveAt, tokenAt?, elementAt_of_drop h, hblank, bind, Except.bind, pure, Except.pure]
  by_cases hpercent : c = '%'
  · subst hpercent
    exact moveAt_percent h
  by_cases hslash : c = '/'
  · subst hslash
    exact moveAt_slash h
  by_cases hstart : isIdentifierStart c = true
  · exact moveAt_identifier h hquote (by simpa using hblank) hstart
  -- What is left is an operator or belongs to no token.
  rw [moveOf_of_not_quote hquote]
  by_cases hoperator : isOperator c = true
  · simp [moveAt, tokenAt?, elementAt_of_drop h, hblank, hpercent, hslash, hquote, hstart,
      hoperator, bind, Except.bind, pure, Except.pure]
  · simp [moveAt, tokenAt?, elementAt_of_drop h, hblank, hpercent, hslash, hquote, hstart,
      hoperator, bind, Except.bind, pure, Except.pure]

end Move

/-- The tokens of a line are found by index. -/
theorem scanByIndex_eq (names : DeclaredNames) (index : Nat) (chars : Line) (start : Nat) :
    scanByIndex names index chars start =
      .ok ((scanLine names index start (chars.drop start)).map HighlightToken.cut) := by
  -- The scan moves on at every column, so that what is left of the line gets shorter.
  induction hleft : chars.length - start using Nat.strong_induction_on generalizing start with
  | _ left ih =>
    rw [scanByIndex]
    by_cases hlt : start < chars.length
    · have hdrop : chars.drop start = chars[start] :: chars.drop (start + 1) :=
        List.drop_eq_getElem_cons hlt
      have hskip := ih (chars.length - (start + 1)) (by omega) (start + 1) rfl
      rw [if_pos hlt, moveAt_eq hdrop, hdrop, scanLine, moveOf]
      by_cases hhalt : opensUnclosedString chars[start] (chars.drop (start + 1)) = true
      · rw [if_pos hhalt, if_pos hhalt]
        rfl
      rw [if_neg hhalt, if_neg hhalt]
      cases htoken : tokenAt? names chars[start] (chars.drop (start + 1)) with
      | none => exact hskip
      | some found =>
        rcases found with ⟨length, tokenClass⟩
        have hpos := tokenAt?_pos htoken
        have hrest := ih (chars.length - (start + length)) (by omega) (start + length) rfl
        have hcut : (chars.drop (start + 1)).drop (length - 1) = chars.drop (start + length) := by
          rw [List.drop_drop]
          congr 1
          omega
        simp only [bind, Except.bind, pure, Except.pure, hrest, hcut,
          difference_of_le (Nat.le_add_right start length), Nat.add_sub_cancel_left]
        rw [if_pos (by omega), List.map_cons]
    · rw [if_neg hlt, List.drop_eq_nil_of_le (by omega), scanLine]
      rfl

/-! ## Relative positions -/

/-- Each token relative to the one before, with checked differences. -/
def deltasByIndex (line start : Nat) : List HighlightToken → Except Crash (List TokenDelta)
  | [] => return []
  | token :: rest => do
    let deltaLine ← difference token.line line
    let deltaStart ← if deltaLine = 0 then difference token.start start else pure token.start
    let others ← deltasByIndex token.line token.start rest
    return ⟨deltaLine, deltaStart, token.length, token.type, 0⟩ :: others

/-- Between tokens in order no difference falls below zero. -/
theorem deltasByIndex_eq {tokens : List HighlightToken} {line start : Nat}
    (hsorted : tokens.Pairwise fun a b => a.le b = true)
    (hfirst : ∀ token ∈ tokens, line < token.line ∨ line = token.line ∧ start ≤ token.start) :
    deltasByIndex line start tokens = .ok (deltasFrom line start tokens) := by
  induction tokens generalizing line start with
  | nil => rfl
  | cons token rest ih =>
    rw [List.pairwise_cons] at hsorted
    have hrest := ih hsorted.2 fun other hother =>
      HighlightToken.le_iff.mp (hsorted.1 other hother)
    have hbefore := hfirst token List.mem_cons_self
    have hline : difference token.line line = .ok (token.line - line) :=
      difference_of_le (by omega)
    simp only [deltasByIndex, deltasFrom, hline, hrest, bind, Except.bind, pure, Except.pure]
    by_cases hsame : token.line - line = 0
    · rw [if_pos hsame, if_pos hsame, difference_of_le (by omega)]
    · rw [if_neg hsame, if_neg hsame]

/-- The coloured tokens of a document. -/
def Document.highlightsByIndex (document : Document) : Except Crash (List TokenDelta) :=
  match document.grammar with
  | none => return []
  | some grammar => do
    let tokens ← gather
      (fun (line, index) => scanByIndex grammar.declaredNames (toCoordinate index) line 0)
      (lines document.text).zipIdx
    deltasByIndex 0 0 (tokens.mergeSort HighlightToken.le)

/-- The coloured tokens of a document are found by index. -/
theorem Document.highlightsByIndex_eq (document : Document) :
    document.highlightsByIndex = .ok document.highlights := by
  unfold highlightsByIndex highlights
  cases document.grammar with
  | none => rfl
  | some grammar =>
    have htokens : gather
        (fun (line, index) => scanByIndex grammar.declaredNames (toCoordinate index) line 0)
        (lines document.text).zipIdx =
          .ok (textTokens grammar.declaredNames document.text) := by
      apply gather_of_forall
      rintro ⟨line, index⟩ _
      exact scanByIndex_eq _ (toCoordinate index) line 0
    simp only [htokens, bind, Except.bind]
    apply deltasByIndex_eq (pairwise_le_mergeSort _)
    intro token _
    omega

/-! ## Comments -/

/-- The byte offset of the first occurrence of two characters in a row. -/
def pairOffset? (first second : Char) : List Char → Option Nat
  | [] => none
  | [_] => none
  | a :: b :: rest =>
    if a = first ∧ b = second then some 0
    else (pairOffset? first second (b :: rest)).map (· + a.utf8Size)

/-- The rest of a line from a byte offset on, which must not cut a character. -/
def restFrom (line : Line) (offset : Nat) : Except Crash Line :=
  match dropBytes? offset line with
  | some rest => .ok rest
  | none => .error .offsetOutOfRange

/-- Whether a line opens a comment that it does not close. -/
def opensCommentByOffset (line : Line) : Except Crash Bool :=
  match pairOffset? '/' '*' line with
  | none => return false
  | some offset => do
    let rest ← restFrom line (offset + 2)
    return (pairOffset? '*' '/' rest).isNone

/-- The comments from line `index` on; `opened` is the line of a comment still open. -/
def commentFoldsByOffset (index : Nat) (opened : Option Nat) :
    List Line → Except Crash (List Fold)
  | [] => return []
  | line :: rest =>
    match opened with
    | none => do
      let opens ← opensCommentByOffset line
      commentFoldsByOffset (index + 1) (if opens then some index else none) rest
    | some start =>
      if (pairOffset? '*' '/' line).isSome then do
        let others ← commentFoldsByOffset (index + 1) none rest
        return Fold.cut ⟨start, index, .comment⟩ :: others
      else commentFoldsByOffset (index + 1) (some start) rest

/-- The bytes of the first character are cut off with it. -/
theorem dropBytes?_add_utf8Size (c : Char) (rest : Line) (offset : Nat) :
    dropBytes? (offset + c.utf8Size) (c :: rest) = dropBytes? offset rest := by
  have hpos := c.utf8Size_pos
  obtain ⟨bytes, hbytes⟩ : ∃ bytes, offset + c.utf8Size = bytes + 1 :=
    ⟨offset + c.utf8Size - 1, by omega⟩
  rw [hbytes, dropBytes?, if_pos (by omega), ← hbytes, Nat.add_sub_cancel]

/-- The text after two characters of one byte each starts two bytes after they do. -/
theorem afterPair?_eq_bind {first second : Char} (hfirst : first.utf8Size = 1)
    (hsecond : second.utf8Size = 1) (line : Line) :
    afterPair? first second line =
      (pairOffset? first second line).bind fun offset => dropBytes? (offset + 2) line := by
  fun_induction afterPair? first second line with
  | case1 => rfl
  | case2 => rfl
  | case3 a b rest heq =>
    obtain ⟨rfl, rfl⟩ := heq
    have hdrop : dropBytes? (0 + 2) (a :: b :: rest) = some rest := by
      have hbytes : 0 + 2 = 0 + b.utf8Size + a.utf8Size := by omega
      rw [hbytes, dropBytes?_add_utf8Size, dropBytes?_add_utf8Size, dropBytes?_zero]
    simp [pairOffset?, hdrop]
  | case4 a b rest hne ih =>
    rw [ih, pairOffset?, if_neg hne, Option.bind_map]
    congr 1
    funext offset
    rw [Function.comp_apply, Nat.add_right_comm, dropBytes?_add_utf8Size]

/-- Two characters in a row are followed by the rest of the line. -/
theorem isSome_afterPair? (first second : Char) (line : Line) :
    (afterPair? first second line).isSome = (pairOffset? first second line).isSome := by
  fun_induction afterPair? first second line with
  | case1 => rfl
  | case2 => rfl
  | case3 a b rest heq => simp [pairOffset?, heq]
  | case4 a b rest hne ih => simp [pairOffset?, hne, ih]

/-- Whether a line opens a comment is found by byte offsets. -/
theorem opensCommentByOffset_eq (line : Line) :
    opensCommentByOffset line = .ok (opensComment line) := by
  have hrest : afterPair? '/' '*' line =
      (pairOffset? '/' '*' line).bind fun offset => dropBytes? (offset + 2) line :=
    afterPair?_eq_bind (by decide) (by decide) line
  have hsome := isSome_afterPair? '/' '*' line
  unfold opensCommentByOffset opensComment
  cases hoffset : pairOffset? '/' '*' line with
  | none =>
    rw [hoffset] at hrest
    rw [hrest]
    rfl
  | some offset =>
    rw [hoffset] at hrest hsome
    obtain ⟨rest, hafter⟩ := Option.isSome_iff_exists.mp hsome
    rw [hafter, Option.bind_some] at hrest
    have hclosed := isSome_afterPair? '*' '/' rest
    simp only [hafter, restFrom, ← hrest, bind, Except.bind, pure, Except.pure]
    rw [← Option.not_isSome, ← Option.not_isSome, hclosed]

/-- The folds of comments are found by byte offsets. -/
theorem commentFoldsByOffset_eq (index : Nat) (opened : Option Nat) (lines : List Line) :
    commentFoldsByOffset index opened lines =
      .ok ((commentFoldsFrom index opened lines).map Fold.cut) := by
  induction lines generalizing index opened with
  | nil => rfl
  | cons line rest ih =>
    cases opened with
    | none =>
      simp only [commentFoldsByOffset, commentFoldsFrom, opensCommentByOffset_eq, ih, bind,
        Except.bind]
    | some start =>
      simp only [commentFoldsByOffset, commentFoldsFrom, closesComment, isSome_afterPair?, ih,
        bind, Except.bind, pure, Except.pure]
      split
      case isTrue => rfl
      case isFalse => rfl

/-! ## Action blocks -/

/-- How many braces are open after some characters, or none if the last one closes. -/
def bracesByCount (depth : Nat) : List Char → Except Crash (Option Nat)
  | [] => return some depth
  | c :: rest =>
    if c = '\x7b' then bracesByCount (depth + 1) rest
    else if c = '\x7d' then do
      let less ← difference depth 1
      if less = 0 then return none else bracesByCount less rest
    else bracesByCount depth rest

/-- The line on which the last of `depth` open braces closes. -/
def closingLineByCount (depth index : Nat) : List Line → Except Crash (Option Nat)
  | [] => return none
  | line :: rest => do
    match ← bracesByCount depth line with
    | none => return some index
    | some deeper => closingLineByCount deeper (index + 1) rest

/-- The line that closes the brace at a byte offset of a line. -/
def matchingLineByCount (lines : List Line) (start offset : Nat) : Except Crash (Option Nat) :=
  match lines.drop start with
  | [] => return none
  | line :: below => do
    let rest ← restFrom line (offset + 1)
    closingLineByCount 1 start (rest :: below)

/-- The fold that the first brace of a line opens, if it closes on a later line. -/
def actionFoldByCount (lines : List Line) (index : Nat) (line : Line) :
    Except Crash (List Fold) :=
  match firstBrace? line with
  | none => return []
  | some offset => do
    match ← matchingLineByCount lines index offset with
    | none => return []
    | some stop => return if index < stop then [Fold.cut ⟨index, stop, .region⟩] else []

/-- The action blocks. -/
def actionFoldsByCount (lines : List Line) : Except Crash (List Fold) :=
  gather (fun (line, index) => actionFoldByCount lines index line) lines.zipIdx

/-- While a brace is open its count does not fall below zero, and it stays open until its
match. -/
theorem bracesByCount_eq {depth : Nat} (hopen : 0 < depth) (cs : List Char) :
    bracesByCount depth cs = .ok (bracesAfter? depth cs) ∧
      ∀ deeper ∈ bracesAfter? depth cs, 0 < deeper := by
  induction cs generalizing depth with
  | nil => simp [bracesByCount, bracesAfter?, hopen, pure, Except.pure]
  | cons c rest ih =>
    rw [bracesByCount, bracesAfter?]
    by_cases hdown : c = '\x7b'
    · rw [if_pos hdown, if_pos hdown]
      exact ih (Nat.succ_pos depth)
    rw [if_neg hdown, if_neg hdown]
    by_cases hup : c = '\x7d'
    · rw [if_pos hup, if_pos hup, difference_of_le hopen]
      by_cases hlast : depth ≤ 1
      · have hzero : depth - 1 = 0 := by omega
        simp [hlast, hzero, bind, Except.bind, pure, Except.pure]
      · have hmore : depth - 1 ≠ 0 := by omega
        have hrest := ih (show 0 < depth - 1 by omega)
        simpa [hlast, hmore, bind, Except.bind] using hrest
    · rw [if_neg hup, if_neg hup]
      exact ih hopen

theorem closingLineByCount_eq {depth : Nat} (hopen : 0 < depth) (index : Nat)
    (lines : List Line) :
    closingLineByCount depth index lines = .ok (closingLine? depth index lines) := by
  induction lines generalizing depth index with
  | nil => rfl
  | cons line rest ih =>
    obtain ⟨hbraces, hdeeper⟩ := bracesByCount_eq hopen line
    simp only [closingLineByCount, closingLine?, hbraces, bind, Except.bind]
    cases hafter : bracesAfter? depth line with
    | none => rfl
    | some deeper => exact ih (hdeeper deeper hafter) (index + 1)

/-- The line of the matching brace is found by counting. -/
theorem matchingLineByCount_eq (lines : List Line) (start offset : Nat) :
    matchingLineByCount lines start offset = matchingBraceLine lines start offset := by
  unfold matchingLineByCount matchingBraceLine restFrom
  cases lines.drop start with
  | nil => rfl
  | cons line below =>
    dsimp only
    cases dropBytes? (offset + 1) line with
    | none => rfl
    | some rest => exact closingLineByCount_eq Nat.one_pos start (rest :: below)

/-- Behind the first brace of a line the line can be cut. -/
theorem exists_dropBytes?_of_firstBrace? {line : Line} {offset : Nat}
    (h : firstBrace? line = some offset) : ∃ rest, dropBytes? (offset + 1) line = some rest := by
  induction line generalizing offset with
  | nil => cases h
  | cons c rest ih =>
    rw [firstBrace?] at h
    by_cases hbrace : c = '\x7b'
    · rw [if_pos hbrace, Option.some.injEq] at h
      subst h hbrace
      refine ⟨rest, ?_⟩
      rw [show 0 + 1 = 0 + '\x7b'.utf8Size by decide, dropBytes?_add_utf8Size, dropBytes?_zero]
    · rw [if_neg hbrace] at h
      obtain ⟨deeper, hdeeper, rfl⟩ := Option.map_eq_some_iff.mp h
      obtain ⟨tail, htail⟩ := ih hdeeper
      refine ⟨tail, ?_⟩
      rw [Nat.add_right_comm, dropBytes?_add_utf8Size, htail]

/-- The first brace of each line has a match, or none, without a failing check. -/
theorem exists_actionFold {lines : List Line} {index : Nat} {line : Line}
    (h : lines[index]? = some line) : ∃ folds, actionFold lines index line = .ok folds := by
  unfold actionFold
  cases hbrace : firstBrace? line with
  | none => exact ⟨[], rfl⟩
  | some offset =>
    obtain ⟨hlt, hget⟩ := List.getElem?_eq_some_iff.mp h
    have hdrop : lines.drop index = line :: lines.drop (index + 1) := by
      rw [List.drop_eq_getElem_cons hlt, hget]
    obtain ⟨rest, hrest⟩ := exists_dropBytes?_of_firstBrace? hbrace
    simp only [matchingBraceLine, hdrop, hrest, bind, Except.bind]
    cases closingLine? 1 index (rest :: lines.drop (index + 1)) with
    | none => exact ⟨[], rfl⟩
    | some stop => exact ⟨_, rfl⟩

/-- There are always folds of action blocks. -/
theorem exists_actionFolds (lines : List Line) : ∃ folds, actionFolds lines = .ok folds := by
  have hall : ∃ folds, collect (fun (line, index) => actionFold lines index line) lines.zipIdx =
      .ok folds := by
    rw [collect_isOk_iff]
    rintro ⟨line, index⟩ hmem
    exact exists_actionFold (List.mem_zipIdx_iff_getElem?.mp hmem)
  obtain ⟨folds, hfolds⟩ := hall
  refine ⟨folds.flatten, ?_⟩
  rw [actionFolds, hfolds]

/-- The folds of action blocks are found by counting. -/
theorem actionFoldsByCount_eq (lines : List Line) :
    actionFoldsByCount lines = actionFolds lines := by
  have hfold : ∀ index line, actionFoldByCount lines index line = actionFold lines index line := by
    intro index line
    unfold actionFoldByCount actionFold
    cases firstBrace? line with
    | none => rfl
    | some offset => exact congrArg (· >>= _) (matchingLineByCount_eq lines index offset)
  simp only [actionFoldsByCount, gather, actionFolds, hfold]
  cases collect (fun (line, index) => actionFold lines index line) lines.zipIdx with
  | error crash => rfl
  | ok folds => rfl

end GrammarServer
