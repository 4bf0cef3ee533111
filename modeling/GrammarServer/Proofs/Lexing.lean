import GrammarServer.Proofs.IndexedTokens
import GrammarServer.Proofs.TokenShape

/-!
# The tokens of a line are all there are

The scan of a line is followed column by column: at each column it reads a token whose class
fits there, passes over a character at which no class fits, or stops at a string without an
end.  What the tokens of a line are like is read off this path.

Main results:

- Theorem `tokenAt?_eq_some_iff`: a token is read at a column exactly if its class fits there.
- Theorem `exists_scanPath`: the scan of a line follows a path.
- Theorem `ScanPath.covered_or_unfit`: up to its end a path misses no token.
- Theorem `line_is_lexed_completely`: the tokens of a line lie inside it one after the other,
  each has a text of its class, and together they hold every letter, underscore and operator.
-/

namespace GrammarServer

open Text

/-! ## Tokens at a column -/

/-- A text from one column to another is a token of a class. -/
structure TokenClass.FitsAt (tokenClass : TokenClass) (names : DeclaredNames) (line : Line)
    (start stop : Nat) : Prop where
  start_lt : start < stop
  stop_le : stop ≤ line.length
  fits : tokenClass.Fits names (slice line start stop) (line.drop stop)

/-- A quote at a column that opens a string without an end. -/
def UnclosedAt (line : Line) (column : Nat) : Prop :=
  ∃ quote, IsQuote quote ∧ (line.drop column).head? = some quote ∧
    ∀ offset, 1 ≤ offset → ¬ ClosesStringAt quote (line.drop column) offset

section Column

variable {names : DeclaredNames} {line rest : List Char} {column : Nat} {c : Char}

/-- A token is read at a column exactly if its class fits there. -/
theorem tokenAt?_eq_some_iff (h : line.drop column = c :: rest) {length : Nat}
    {tokenClass : TokenClass} :
    tokenAt? names c rest = some (length, tokenClass) ↔
      tokenClass.FitsAt names line column (column + length) := by
  have hlength := length_of_drop h
  have hcut : ∀ tail after, rest = tail ++ after → length = (c :: tail).length →
      slice line column (column + length) = c :: tail ∧ line.drop (column + length) = after := by
    rintro tail after rfl rfl
    rw [slice, List.drop_take, Nat.add_sub_cancel_left, ← List.drop_drop, h]
    exact ⟨List.take_left, List.drop_left⟩
  constructor
  · intro hread
    have hpos := tokenAt?_pos hread
    have hle := tokenAt?_length_le hread
    rw [List.length_cons] at hle
    have htake : length = (c :: rest.take (length - 1)).length := by
      rw [List.length_cons, List.length_take]
      omega
    obtain ⟨hslice, hdrop⟩ := hcut _ _ (List.take_append_drop (length - 1) rest).symm htake
    refine ⟨by omega, by omega, ?_⟩
    rw [hslice, hdrop]
    apply fits_of_tokenAt?
    rw [List.take_append_drop, ← htake, hread]
  · rintro ⟨hlt, hle, hfits⟩
    have htake : length = (c :: rest.take (length - 1)).length := by
      rw [List.length_cons, List.length_take]
      omega
    obtain ⟨hslice, hdrop⟩ := hcut _ _ (List.take_append_drop (length - 1) rest).symm htake
    rw [hslice, hdrop] at hfits
    have hread := tokenAt?_of_fits hfits
    rwa [List.take_append_drop, ← htake] at hread

/-- The scan stops at a column exactly if a string without an end opens there. -/
theorem opensUnclosedString_iff (h : line.drop column = c :: rest) :
    opensUnclosedString c rest = true ↔ UnclosedAt line column := by
  have hquote : opensUnclosedString c rest = true ↔ IsQuote c ∧ stringLength? c rest = none := by
    simp [opensUnclosedString, IsQuote]
  rw [hquote, UnclosedAt, h, List.head?_cons]
  constructor
  · rintro ⟨hc, hnone⟩
    refine ⟨c, hc, rfl, fun offset hle hcloses => ?_⟩
    have hnever := (reachesFirst_string hc rest).eq_none_iff.mp (by rw [hnone, Option.map_none])
    exact hnever offset ⟨hle, hcloses⟩
  · rintro ⟨quote, hc, hsome, hnever⟩
    obtain rfl := Option.some.inj hsome
    refine ⟨hc, Option.map_eq_none_iff.mp ((reachesFirst_string hc rest).eq_none_iff.mpr ?_)⟩
    rintro offset ⟨hle, hcloses⟩
    exact hnever offset hle hcloses

/-- At a letter, an underscore and an operator there is a token. -/
theorem exists_fitsAt (names : DeclaredNames) (hhead : (line.drop column).head? = some c)
    (h : isIdentifierStart c = true ∨ isOperator c = true) :
    ∃ tokenClass stop, TokenClass.FitsAt tokenClass names line column stop := by
  obtain ⟨rest, hdrop⟩ := List.head?_eq_some_iff.mp hhead
  rcases h with hstart | hoperator
  · exact ⟨_, _, (tokenAt?_eq_some_iff hdrop).mp (tokenAt?_identifier hstart _)⟩
  · exact ⟨_, _, (tokenAt?_eq_some_iff hdrop).mp (tokenAt?_operator hoperator _)⟩

end Column

/-! ## The path of the scan -/

/-- The column behind a token. -/
def HighlightToken.stop (token : HighlightToken) : Nat :=
  token.start + token.length

/-- The way of a scan from one column to another, with the tokens that it reads. -/
inductive ScanPath (names : DeclaredNames) (number : Nat) (line : Line) :
    Nat → List HighlightToken → Nat → Prop
  /-- The scan ends behind the last character. -/
  | done : ScanPath names number line line.length [] line.length
  /-- The scan ends at a string without an end. -/
  | halt {column : Nat} (hunclosed : UnclosedAt line column) :
      ScanPath names number line column [] column
  /-- The scan passes over a character at which no token starts. -/
  | skip {column stop : Nat} {tokens : List HighlightToken} (hlt : column < line.length)
      (hunfit : ∀ tokenClass next, ¬ TokenClass.FitsAt tokenClass names line column next)
      (rest : ScanPath names number line (column + 1) tokens stop) :
      ScanPath names number line column tokens stop
  /-- The scan reads a token and goes on behind it. -/
  | read {column length stop : Nat} {tokenClass : TokenClass} {tokens : List HighlightToken}
      (hfits : tokenClass.FitsAt names line column (column + length))
      (rest : ScanPath names number line (column + length) tokens stop) :
      ScanPath names number line column
        (⟨number, column, length, tokenClass.legendIndex⟩ :: tokens) stop

/-- The scan of a line follows a path. -/
theorem exists_scanPath (names : DeclaredNames) (number : Nat) (line : Line) {column : Nat}
    (hle : column ≤ line.length) :
    ∃ stop, ScanPath names number line column
      (scanLine names number column (line.drop column)) stop := by
  generalize hcs : line.drop column = cs
  fun_induction scanLine names number column cs with
  | case1 column =>
    obtain rfl : column = line.length := by
      have := List.drop_eq_nil_iff.mp hcs
      omega
    exact ⟨line.length, .done⟩
  | case2 column c rest hunclosed =>
    exact ⟨column, .halt ((opensUnclosedString_iff hcs).mp hunclosed)⟩
  | case3 column c rest hclosed length tokenClass hread ih =>
    have hfits := (tokenAt?_eq_some_iff hcs).mp hread
    have hdrop : line.drop (column + length) = rest.drop (length - 1) := by
      have hpos := hfits.start_lt
      rw [← drop_succ_of_drop hcs, List.drop_drop]
      congr 1
      omega
    obtain ⟨stop, hpath⟩ := ih hfits.stop_le hdrop
    exact ⟨stop, .read hfits hpath⟩
  | case4 column c rest hclosed hnone ih =>
    have hlength := length_of_drop hcs
    obtain ⟨stop, hpath⟩ := ih (by omega) (drop_succ_of_drop hcs)
    refine ⟨stop, .skip (by omega) (fun tokenClass next hfits => ?_) hpath⟩
    obtain ⟨length, rfl⟩ := Nat.exists_eq_add_of_lt hfits.start_lt
    rw [Nat.add_assoc] at hfits
    have hread := (tokenAt?_eq_some_iff hcs).mpr hfits
    rw [hnone] at hread
    cases hread

namespace ScanPath

variable {names : DeclaredNames} {number : Nat} {line : Line} {column stop : Nat}
  {tokens : List HighlightToken}

/-- A path leads forward and stays inside the line. -/
theorem le_and_le (h : ScanPath names number line column tokens stop) :
    column ≤ stop ∧ stop ≤ line.length := by
  induction h with
  | done => exact ⟨le_refl _, le_refl _⟩
  | halt hunclosed =>
    obtain ⟨quote, _, hhead, _⟩ := hunclosed
    obtain ⟨rest, hdrop⟩ := List.head?_eq_some_iff.mp hhead
    exact ⟨le_refl _, by rw [length_of_drop hdrop]; omega⟩
  | skip _ _ _ ih => exact ⟨by omega, ih.2⟩
  | read _ _ ih => exact ⟨by omega, ih.2⟩

/-- A path that ends inside the line ends at a string without an end. -/
theorem unclosedAt (h : ScanPath names number line column tokens stop)
    (hlt : stop < line.length) : UnclosedAt line stop := by
  induction h with
  | done => exact absurd hlt (lt_irrefl _)
  | halt hunclosed => exact hunclosed
  | skip _ _ _ ih => exact ih hlt
  | read _ _ ih => exact ih hlt

/-- A token of a path lies between its ends and fits its class. -/
theorem of_mem (h : ScanPath names number line column tokens stop) {token : HighlightToken}
    (hmem : token ∈ tokens) :
    token.line = number ∧ column ≤ token.start ∧ token.stop ≤ stop ∧
      ∃ tokenClass, token.type = TokenClass.legendIndex tokenClass ∧
        tokenClass.FitsAt names line token.start token.stop := by
  induction h with
  | done => cases hmem
  | halt => cases hmem
  | skip _ _ _ ih =>
    obtain ⟨hline, hstart, hrest⟩ := ih hmem
    exact ⟨hline, by omega, hrest⟩
  | @read column length _ tokenClass _ hfits rest ih =>
    rcases List.mem_cons.mp hmem with rfl | hmem
    · exact ⟨rfl, le_refl _, rest.le_and_le.1, tokenClass, rfl, hfits⟩
    · obtain ⟨hline, hstart, hrest⟩ := ih hmem
      exact ⟨hline, by omega, hrest⟩

/-- The tokens of a path follow one another. -/
theorem pairwise_stop_le (h : ScanPath names number line column tokens stop) :
    tokens.Pairwise fun first second => first.stop ≤ second.start := by
  induction h with
  | done => exact List.Pairwise.nil
  | halt => exact List.Pairwise.nil
  | skip _ _ _ ih => exact ih
  | read _ rest ih => exact List.pairwise_cons.mpr ⟨fun token hmem => (rest.of_mem hmem).2.1, ih⟩

/-- Up to its end a path misses no token: each column lies in one that was read, or none
starts there. -/
theorem covered_or_unfit (h : ScanPath names number line column tokens stop) {index : Nat}
    (hle : column ≤ index) (hlt : index < stop) :
    (∃ token ∈ tokens, token.start ≤ index ∧ index < token.stop) ∨
      ∀ tokenClass next, ¬ TokenClass.FitsAt tokenClass names line index next := by
  induction h with
  | done => omega
  | halt => omega
  | @skip column _ _ _ hunfit _ ih =>
    by_cases heq : index = column
    · subst heq
      exact .inr hunfit
    · exact ih (by omega) hlt
  | @read column length _ tokenClass _ _ _ ih =>
    by_cases hinside : index < column + length
    · exact .inl ⟨_, List.mem_cons_self, hle, hinside⟩
    · rcases ih (by omega) hlt with ⟨token, hmem, hcovers⟩ | hunfit
      · exact .inl ⟨token, List.mem_cons_of_mem _ hmem, hcovers⟩
      · exact .inr hunfit

end ScanPath

/-! ## The tokens of a line -/

/-- Whether a token takes up a column. -/
def HighlightToken.Covers (token : HighlightToken) (column : Nat) : Prop :=
  token.start ≤ column ∧ column < token.stop

/-- The tokens are all that a line holds up to a column, at which the line ends or a string
without an end opens. -/
structure IsScannedTo (names : DeclaredNames) (line : Line) (tokens : List HighlightToken)
    (stop : Nat) : Prop where
  stop_le : stop ≤ line.length
  unclosed : stop < line.length → UnclosedAt line stop
  before : ∀ token ∈ tokens, token.stop ≤ stop
  /-- Every letter, underscore and operator lies in exactly one token. -/
  once : ∀ column c, column < stop → (line.drop column).head? = some c →
    isIdentifierStart c = true ∨ isOperator c = true →
    ∃! token, token ∈ tokens ∧ token.Covers column
  /-- Where no token lies, none of any class could start. -/
  unfit : ∀ column < stop, (∀ token ∈ tokens, ¬ token.Covers column) →
    ∀ tokenClass next, ¬ TokenClass.FitsAt tokenClass names line column next

/-- The tokens of a line: what they look like, and that none is missing. -/
structure IsLexing (names : DeclaredNames) (number : Nat) (line : Line)
    (tokens : List HighlightToken) : Prop where
  on_line : ∀ token ∈ tokens, token.line = number
  nonempty : ∀ token ∈ tokens, 0 < token.length
  inside : ∀ token ∈ tokens, token.stop ≤ line.length
  increasing : tokens.Pairwise fun first second => first.start < second.start
  disjoint : tokens.Pairwise fun first second => first.stop ≤ second.start
  classified : ∀ token ∈ tokens, ∃ tokenClass, token.type = TokenClass.legendIndex tokenClass ∧
    tokenClass.Fits names (slice line token.start token.stop) (line.drop token.stop)
  complete : ∃ stop, IsScannedTo names line tokens stop

section Lexing

variable {names : DeclaredNames} {number : Nat} {line : Line} {stop : Nat}
  {tokens : List HighlightToken}

theorem ScanPath.increasing (h : ScanPath names number line 0 tokens stop) :
    tokens.Pairwise fun first second => first.start < second.start := by
  refine h.pairwise_stop_le.imp_of_mem ?_
  intro first second hfirst _ hle
  obtain ⟨_, _, _, _, _, hfits⟩ := h.of_mem hfirst
  have hlt := hfits.start_lt
  omega

/-- No column lies in two tokens of a path. -/
theorem ScanPath.eq_of_covers (h : ScanPath names number line 0 tokens stop) {column : Nat}
    {first second : HighlightToken} (hfirst : first ∈ tokens) (hsecond : second ∈ tokens)
    (hcovers : first.Covers column) (hcovers' : second.Covers column) : first = second := by
  have hapart : tokens.Pairwise fun first second =>
      first.stop ≤ second.start ∨ second.stop ≤ first.start :=
    h.pairwise_stop_le.imp .inl
  have hsymm : Std.Symm fun first second : HighlightToken =>
      first.stop ≤ second.start ∨ second.stop ≤ first.start :=
    ⟨fun _ _ hor => hor.symm⟩
  by_contra hne
  rcases hcovers with ⟨hge, hlt⟩
  rcases hcovers' with ⟨hge', hlt'⟩
  have hor := hapart.forall hfirst hsecond hne
  omega

theorem ScanPath.isScannedTo (h : ScanPath names number line 0 tokens stop) :
    IsScannedTo names line tokens stop where
  stop_le := h.le_and_le.2
  unclosed := h.unclosedAt
  before := fun _ hmem => (h.of_mem hmem).2.2.1
  once := by
    intro column c hlt hhead hc
    obtain ⟨tokenClass, next, hfits⟩ := exists_fitsAt names hhead hc
    rcases h.covered_or_unfit (Nat.zero_le column) hlt with ⟨token, hmem, hcovers⟩ | hunfit
    · refine ⟨token, ⟨hmem, hcovers⟩, ?_⟩
      rintro other ⟨hother, hcovers'⟩
      exact h.eq_of_covers hother hmem hcovers' hcovers
    · exact absurd hfits (hunfit tokenClass next)
  unfit := by
    intro column hlt huncovered
    rcases h.covered_or_unfit (Nat.zero_le column) hlt with ⟨token, hmem, hcovers⟩ | hunfit
    · exact absurd hcovers (huncovered token hmem)
    · exact hunfit

theorem ScanPath.isLexing (h : ScanPath names number line 0 tokens stop) :
    IsLexing names number line tokens where
  on_line := fun _ hmem => (h.of_mem hmem).1
  nonempty := by
    intro token hmem
    obtain ⟨_, _, _, _, _, hfits⟩ := h.of_mem hmem
    have hlt : token.start < token.start + token.length := hfits.start_lt
    omega
  inside := fun _ hmem => (h.of_mem hmem).2.2.1.trans h.le_and_le.2
  increasing := h.increasing
  disjoint := h.pairwise_stop_le
  classified := by
    intro token hmem
    obtain ⟨_, _, _, tokenClass, htype, hfits⟩ := h.of_mem hmem
    exact ⟨tokenClass, htype, hfits.fits⟩
  complete := ⟨stop, h.isScannedTo⟩

end Lexing

/-- The tokens of a line whose columns can be written are as the scan finds them. -/
theorem lineTokens_eq_scanLine (names : DeclaredNames) (number : Nat) {line : Line}
    (hshort : line.length ≤ maxCoordinate) :
    lineTokens names number line = scanLine names number 0 line := by
  obtain ⟨stop, hpath⟩ := exists_scanPath names number line (Nat.zero_le line.length)
  rw [lineTokens, List.map_congr_left (g := id), List.map_id]
  intro token hmem
  obtain ⟨_, _, hstop, _⟩ := hpath.of_mem hmem
  have hinside : token.stop ≤ maxCoordinate := (hstop.trans hpath.le_and_le.2).trans hshort
  exact HighlightToken.cut_of_le hinside

/-- The scan of a line ends, with every check on its way passed.  The tokens that it finds are
not empty, lie inside the line one after the other and have texts of their classes.  Up to the
end of the line, or to a quote that opens a string without an end, they hold every letter,
underscore and operator exactly once, and where no token lies none could start.  Their starts and
lengths are then cut to coordinates, which changes none of them if the columns of the line can be
written. -/
theorem line_is_lexed_completely (names : DeclaredNames) (number : Nat) (line : Line) :
    scanByIndex names number line 0 = .ok (lineTokens names number line) ∧
      (∃ tokens, IsLexing names number line tokens ∧
        lineTokens names number line = tokens.map HighlightToken.cut) ∧
      (line.length ≤ maxCoordinate →
        IsLexing names number line (lineTokens names number line)) := by
  obtain ⟨stop, hpath⟩ := exists_scanPath names number line (Nat.zero_le line.length)
  refine ⟨scanByIndex_eq names number line 0, ⟨_, hpath.isLexing, rfl⟩, ?_⟩
  intro hshort
  rw [lineTokens_eq_scanLine names number hshort]
  exact hpath.isLexing

/-- A directive, an escaped quote, a name behind a digit, and a string without an end. -/
def mixedLine : Line :=
  "%left '\\'' 1b \"x".toList

/-- The tokens of the line end before the string. -/
theorem mixedLine_lexed :
    mixedLine.length ≤ maxCoordinate ∧
      lineTokens {} 3 mixedLine = [⟨3, 0, 5, 15⟩, ⟨3, 6, 4, 18⟩, ⟨3, 12, 1, 8⟩] ∧
      IsLexing {} 3 mixedLine [⟨3, 0, 5, 15⟩, ⟨3, 6, 4, 18⟩, ⟨3, 12, 1, 8⟩] := by
  have hshort : mixedLine.length ≤ maxCoordinate := by decide
  have htokens : lineTokens {} 3 mixedLine =
      [⟨3, 0, 5, 15⟩, ⟨3, 6, 4, 18⟩, ⟨3, 12, 1, 8⟩] := by
    decide +kernel
  refine ⟨hshort, htokens, ?_⟩
  rw [← htokens]
  exact (line_is_lexed_completely {} 3 mixedLine).2.2 hshort

end GrammarServer
