import GrammarServer.Feature.References
import GrammarServer.Proofs.Highlighting
import Mathlib.Order.Bounds.Basic
import Mathlib.Order.Nat

/-!
# What the tokens of a line look like

Each class of tokens is described by the texts that belong to it and by what may follow such a
text on its line.  The descriptions speak of offsets only: a comment ends at the first offset
at which it can end, and a string at the first quote that no backslash takes along.  The
scanner reads a token of a class at the front of a line exactly if the description fits.

Main results:

- Theorem `reachesFirst_commentLength?`: a comment is read to its first end.
- Theorem `reachesFirst_stringLength?`: a string is read to its first end.
- Theorem `fits_of_tokenAt?`: a token that is read fits its class.
- Theorem `tokenAt?_of_fits`: where a class fits, a token of it is read.
-/

namespace GrammarServer

open Text

/-! ## First offsets -/

section First

variable {p q : Nat → Prop} {length? : Option Nat} {width : Nat}

/-- A length that reaches just past the first offset with a property, where what stands at the
offset is `width` characters long.  There is no length if no offset has the property. -/
def ReachesFirst (length? : Option Nat) (p : Nat → Prop) (width : Nat) : Prop :=
  ∀ length, length? = some length ↔ ∃ offset, IsLeast {k | p k} offset ∧ length = offset + width

theorem ReachesFirst.congr (h : ReachesFirst length? p width) (hpq : ∀ k, p k ↔ q k) :
    ReachesFirst length? q width := by
  obtain rfl : p = q := funext fun k => propext (hpq k)
  exact h

theorem reachesFirst_none (h : ∀ k, ¬ p k) : ReachesFirst none p width := by
  intro length
  constructor
  · intro hlength
    cases hlength
  · rintro ⟨offset, hleast, _⟩
    exact absurd hleast.1 (h offset)

theorem reachesFirst_some (h : p 0) : ReachesFirst (some width) p width := by
  have hzero : IsLeast {k | p k} 0 := ⟨h, fun _ _ => Nat.zero_le _⟩
  intro length
  constructor
  · intro hlength
    exact ⟨0, hzero, by rw [Nat.zero_add, Option.some.inj hlength]⟩
  · rintro ⟨offset, hleast, rfl⟩
    rw [hleast.unique hzero, Nat.zero_add]

/-- Where the first offset does not have the property, the search goes on behind it. -/
theorem ReachesFirst.later (h : ReachesFirst length? (fun k => p (k + 1)) width) (hzero : ¬ p 0) :
    ReachesFirst (length?.map (· + 1)) p width := by
  have hshift : ∀ offset, IsLeast {k | p k} (offset + 1) ↔ IsLeast {k | p (k + 1)} offset := by
    intro offset
    constructor
    · rintro ⟨hmem, hlower⟩
      exact ⟨hmem, fun k hk => Nat.le_of_succ_le_succ (hlower hk)⟩
    · rintro ⟨hmem, hlower⟩
      refine ⟨hmem, fun k hk => ?_⟩
      cases k with
      | zero => exact absurd hk hzero
      | succ k => exact Nat.succ_le_succ (hlower hk)
  intro length
  rw [Option.map_eq_some_iff]
  constructor
  · rintro ⟨inner, hinner, rfl⟩
    obtain ⟨offset, hleast, rfl⟩ := (h inner).mp hinner
    exact ⟨offset + 1, (hshift offset).mpr hleast, by omega⟩
  · rintro ⟨offset, hleast, rfl⟩
    cases offset with
    | zero => exact absurd hleast.1 hzero
    | succ offset =>
      exact ⟨offset + width, (h _).mpr ⟨offset, (hshift offset).mp hleast, rfl⟩, by omega⟩

/-- There is no length exactly if no offset has the property. -/
theorem ReachesFirst.eq_none_iff (h : ReachesFirst length? p width) :
    length? = none ↔ ∀ k, ¬ p k := by
  classical
  constructor
  · rintro rfl k hk
    have hleast := Nat.isLeast_find ⟨k, hk⟩
    exact absurd ((h _).mpr ⟨_, hleast, rfl⟩) (by simp)
  · intro hnever
    cases length? with
    | none => rfl
    | some length =>
      obtain ⟨offset, hleast, _⟩ := (h length).mp rfl
      exact absurd hleast.1 (hnever offset)

/-- Whether a text reaches just past the first end can be told from the text alone, if ends
inside it can. -/
theorem ReachesFirst.eq_some_iff_of_local (h : ReachesFirst length? p width) {length : Nat}
    (hlocal : ∀ k, k + width ≤ length → (p k ↔ q k)) :
    length? = some length ↔ ∃ offset, IsLeast {k | q k} offset ∧ length = offset + width := by
  rw [h length]
  have hiff : ∀ offset, length = offset + width →
      (IsLeast {k | p k} offset ↔ IsLeast {k | q k} offset) := by
    rintro offset rfl
    constructor
    · rintro ⟨hmem, hlower⟩
      refine ⟨(hlocal offset (le_refl _)).mp hmem, fun k hk => ?_⟩
      by_contra hlt
      exact hlt (hlower ((hlocal k (by omega)).mpr hk))
    · rintro ⟨hmem, hlower⟩
      refine ⟨(hlocal offset (le_refl _)).mpr hmem, fun k hk => ?_⟩
      by_contra hlt
      exact hlt (hlower ((hlocal k (by omega)).mp hk))
  constructor
  · rintro ⟨offset, hleast, hlength⟩
    exact ⟨offset, (hiff offset hlength).mp hleast, hlength⟩
  · rintro ⟨offset, hleast, hlength⟩
    exact ⟨offset, (hiff offset hlength).mpr hleast, hlength⟩

end First

/-! ## Ends of comments -/

/-- A comment can end with the two characters from an offset on. -/
def ClosesCommentAt (text : List Char) (offset : Nat) : Prop :=
  text[offset]? = some '*' ∧ text[offset + 1]? = some '/'

@[simp]
theorem closesCommentAt_cons_succ (c : Char) (text : List Char) (offset : Nat) :
    ClosesCommentAt (c :: text) (offset + 1) ↔ ClosesCommentAt text offset := Iff.rfl

theorem closesCommentAt_append {text : List Char} {offset : Nat} (after : List Char)
    (h : offset + 2 ≤ text.length) :
    ClosesCommentAt (text ++ after) offset ↔ ClosesCommentAt text offset := by
  rw [ClosesCommentAt, ClosesCommentAt, List.getElem?_append_left (by omega),
    List.getElem?_append_left (by omega)]

/-- A comment is read to its first end. -/
theorem reachesFirst_commentLength? (text : List Char) :
    ReachesFirst (commentLength? text) (ClosesCommentAt text) 2 := by
  fun_induction commentLength? text with
  | case1 => exact reachesFirst_none fun k => by simp [ClosesCommentAt]
  | case2 c => exact reachesFirst_none fun k => by simp [ClosesCommentAt]
  | case3 a b rest hend => exact reachesFirst_some (by simpa [ClosesCommentAt] using hend)
  | case4 a b rest hend ih => exact ih.later (by simpa [ClosesCommentAt] using hend)

/-! ## Ends of strings -/

/-- Whether a backslash takes the character at an offset along: the character before it is a
backslash that is not taken along itself. -/
def isEscapedAt (text : List Char) : Nat → Bool
  | 0 => false
  | offset + 1 => text[offset]? == some '\\' && !isEscapedAt text offset

/-- A string can end at an offset: its quote stands there and no backslash takes it along. -/
def ClosesStringAt (quote : Char) (text : List Char) (offset : Nat) : Prop :=
  text[offset]? = some quote ∧ isEscapedAt text offset = false

/-- A character with which strings start and end. -/
def IsQuote (c : Char) : Prop :=
  c = '"' ∨ c = '\''

theorem IsQuote.ne_backslash {c : Char} (h : IsQuote c) : c ≠ '\\' := by
  rcases h with rfl | rfl
  · decide
  · decide

/-- A character other than a backslash does not change what is escaped behind it. -/
theorem isEscapedAt_cons_succ {c : Char} (h : c ≠ '\\') (text : List Char) (offset : Nat) :
    isEscapedAt (c :: text) (offset + 1) = isEscapedAt text offset := by
  induction offset with
  | zero => simp [isEscapedAt, h]
  | succ offset ih =>
    rw [isEscapedAt, ih, List.getElem?_cons_succ, isEscapedAt]

/-- Nor does a backslash together with the character that it takes along. -/
theorem isEscapedAt_backslash (c : Char) (text : List Char) (offset : Nat) :
    isEscapedAt ('\\' :: c :: text) (offset + 2) = isEscapedAt text offset := by
  induction offset with
  | zero => simp [isEscapedAt]
  | succ offset ih =>
    rw [isEscapedAt, ih, List.getElem?_cons_succ, List.getElem?_cons_succ, isEscapedAt]

theorem isEscapedAt_append {text : List Char} {offset : Nat} (after : List Char)
    (h : offset ≤ text.length) :
    isEscapedAt (text ++ after) offset = isEscapedAt text offset := by
  induction offset with
  | zero => rfl
  | succ offset ih =>
    rw [isEscapedAt, isEscapedAt, ih (by omega), List.getElem?_append_left (by omega)]

theorem closesStringAt_append {quote : Char} {text : List Char} {offset : Nat}
    (after : List Char) (h : offset + 1 ≤ text.length) :
    ClosesStringAt quote (text ++ after) offset ↔ ClosesStringAt quote text offset := by
  rw [ClosesStringAt, ClosesStringAt, isEscapedAt_append after (by omega),
    List.getElem?_append_left (by omega)]

theorem closesStringAt_cons_succ {quote c : Char} (h : c ≠ '\\') (text : List Char)
    (offset : Nat) :
    ClosesStringAt quote (c :: text) (offset + 1) ↔ ClosesStringAt quote text offset := by
  rw [ClosesStringAt, ClosesStringAt, isEscapedAt_cons_succ h, List.getElem?_cons_succ]

/-- A string is read to its first end. -/
theorem reachesFirst_stringLength? {quote : Char} (hquote : IsQuote quote) (text : List Char) :
    ReachesFirst (stringLength? quote text) (ClosesStringAt quote text) 1 := by
  have hne : '\\' ≠ quote := hquote.ne_backslash.symm
  fun_induction stringLength? quote text with
  | case1 => exact reachesFirst_none fun k => by simp [ClosesStringAt]
  | case2 =>
    refine reachesFirst_none fun k => ?_
    rintro ⟨hget, _⟩
    cases k with
    | zero => exact hne (Option.some.inj hget)
    | succ k => cases hget
  | case3 c rest ih =>
    -- Neither the backslash nor the character behind it ends the string.
    have hsecond : ReachesFirst ((stringLength? quote rest).map (· + 1))
        (fun k => ClosesStringAt quote ('\\' :: c :: rest) (k + 1)) 1 := by
      refine (ih.congr fun k => ?_).later ?_
      · rw [ClosesStringAt, ClosesStringAt, isEscapedAt_backslash, List.getElem?_cons_succ,
          List.getElem?_cons_succ]
      · simp [ClosesStringAt, isEscapedAt]
    have hboth := hsecond.later (by simpa [ClosesStringAt] using fun h => absurd h hne)
    rwa [Option.map_map] at hboth
  | case4 rest hend hescape =>
    exact reachesFirst_some ⟨rfl, rfl⟩
  | case5 c rest hlast hescape hother ih =>
    have hplain : c ≠ '\\' := by
      rintro rfl
      cases rest with
      | nil => exact hlast rfl rfl
      | cons d rest => exact hescape d rest rfl rfl
    refine (ih.congr fun k => (closesStringAt_cons_succ hplain rest k).symm).later ?_
    simpa [ClosesStringAt, isEscapedAt] using hother

/-! ## Texts of the classes -/

/-- What belongs to a class: the text of a token, and what may follow it on its line. -/
def TokenClass.Fits (names : DeclaredNames) (text after : List Char) : TokenClass → Prop
  | .keyword => String.ofList text ∈ directives ∧ ∀ c ∈ after.head?, c.isLower = false
  | .comment =>
    (['/', '/'] <+: text ∧ after = []) ∨
      (['/', '*'] <+: text ∧
        ∃ offset, IsLeast {k | 2 ≤ k ∧ ClosesCommentAt text k} offset ∧
          text.length = offset + 2)
  | .string =>
    ∃ quote, IsQuote quote ∧ [quote] <+: text ∧
      ∃ offset, IsLeast {k | 1 ≤ k ∧ ClosesStringAt quote text k} offset ∧
        text.length = offset + 1
  | .operator => ∃ c, isOperator c = true ∧ text = [c]
  | nameClass =>
    hasShape isIdentifierStart isIdentifierChar text = true ∧ StartsFree after ∧
      names.classify (String.ofList text) = nameClass

/-- A run is what stands before a rest that does not go on with it. -/
theorem takeWhile_append_eq_iff {p : Char → Bool} {run rest : List Char} :
    (run ++ rest).takeWhile p = run ↔
      (∀ c ∈ run, p c = true) ∧ ∀ c ∈ rest.head?, p c = false := by
  induction run with
  | nil =>
    cases rest with
    | nil => simp
    | cons c rest => simp
  | cons c run ih =>
    rw [List.cons_append, List.takeWhile_cons]
    split
    case isTrue hc => simp [ih, hc]
    case isFalse hc => simp [hc]

theorem takeWhile_append_eq_of_length {p : Char → Bool} {run rest : List Char}
    (h : run.length = ((run ++ rest).takeWhile p).length) : (run ++ rest).takeWhile p = run :=
  (List.prefix_of_prefix_length_le (List.takeWhile_prefix p) (List.prefix_append run rest)
    h.ge).eq_of_length h.symm

/-- A directive is a percent sign with small letters behind it. -/
theorem hasShape_of_mem_directives {text : List Char} (h : String.ofList text ∈ directives) :
    hasShape (· == '%') Char.isLower text = true := by
  have hall : ∀ directive ∈ directives,
      hasShape (· == '%') Char.isLower directive.toList = true := by
    decide
  simpa using hall _ h

section Front

variable {names : DeclaredNames} {c : Char} {tail : List Char}

/-! ### Reading by the first character -/

theorem tokenAt?_percent (rest : List Char) :
    tokenAt? names '%' rest =
      if directives.contains (String.ofList ('%' :: rest.takeWhile Char.isLower)) then
        some ((rest.takeWhile Char.isLower).length + 1, .keyword)
      else none := by
  have hblank : isBlank '%' = false := by decide
  simp [tokenAt?, hblank]

theorem tokenAt?_lineComment (rest : List Char) :
    tokenAt? names '/' ('/' :: rest) = some (rest.length + 2, .comment) := by
  have hblank : isBlank '/' = false := by decide
  simp [tokenAt?, hblank]

theorem tokenAt?_blockComment (rest : List Char) :
    tokenAt? names '/' ('*' :: rest) =
      (commentLength? rest).map fun length => (length + 2, .comment) := by
  have hblank : isBlank '/' = false := by decide
  simp [tokenAt?, hblank]

theorem tokenAt?_quote (h : IsQuote c) (rest : List Char) :
    tokenAt? names c rest = (stringLength? c rest).map fun length => (length + 1, .string) := by
  have hother : isBlank c = false ∧ c ≠ '%' ∧ c ≠ '/' := by
    rcases h with rfl | rfl
    · decide
    · decide
  have hquote : c = '"' ∨ c = '\'' := h
  simp [tokenAt?, hother, hquote]

/-- No blank starts an identifier, and none is an operator. -/
theorem isBlank_eq_false (h : isIdentifierStart c = true ∨ isOperator c = true) :
    isBlank c = false := by
  have hblanks : ∀ code ∈ blankCodePoints, isIdentifierStart (Char.ofNat code) = false ∧
      isOperator (Char.ofNat code) = false := by
    decide
  by_contra hblank
  rw [Bool.not_eq_false, isBlank, List.contains_iff_mem] at hblank
  obtain ⟨hstart, hoperator⟩ := hblanks _ hblank
  rw [Char.ofNat_toNat] at hstart hoperator
  simp [hstart, hoperator] at h

theorem tokenAt?_identifier (h : isIdentifierStart c = true) (rest : List Char) :
    tokenAt? names c rest = some ((rest.takeWhile isIdentifierChar).length + 1,
      names.classify (String.ofList (c :: rest.takeWhile isIdentifierChar))) := by
  have hother : c ≠ '%' ∧ c ≠ '/' ∧ ¬ (c = '"' ∨ c = '\'') := by
    refine ⟨?_, ?_, ?_⟩
    · rintro rfl
      exact absurd h (by decide)
    · rintro rfl
      exact absurd h (by decide)
    · rintro (rfl | rfl)
      · exact absurd h (by decide)
      · exact absurd h (by decide)
  simp [tokenAt?, isBlank_eq_false (.inl h), hother, h]

theorem tokenAt?_operator (h : isOperator c = true) (rest : List Char) :
    tokenAt? names c rest = some (1, .operator) := by
  have hcases : c = '\x7b' ∨ c = '\x7d' ∨ c = ':' ∨ c = ';' ∨ c = '|' := by
    simpa [isOperator, or_assoc] using h
  have hother : isIdentifierStart c = false ∧ c ≠ '%' ∧ c ≠ '/' ∧ ¬ (c = '"' ∨ c = '\'') := by
    rcases hcases with rfl | rfl | rfl | rfl | rfl
    all_goals decide
  simp [tokenAt?, isBlank_eq_false (.inr h), hother, h]

/-! ### Reading and fitting -/

/-- The ends of a comment of which the first two characters are left out of account. -/
theorem reachesFirst_blockComment (first second : Char) (rest : List Char) :
    ReachesFirst ((commentLength? rest).map (· + 2))
      (fun k => 2 ≤ k ∧ ClosesCommentAt (first :: second :: rest) k) 2 := by
  have hinner : ReachesFirst ((commentLength? rest).map (· + 1))
      (fun k => 2 ≤ k + 1 ∧ ClosesCommentAt (first :: second :: rest) (k + 1)) 2 := by
    refine ((reachesFirst_commentLength? rest).congr fun k => ?_).later (by simp)
    simp
  have hboth : ReachesFirst (((commentLength? rest).map (· + 1)).map (· + 1))
      (fun k => 2 ≤ k ∧ ClosesCommentAt (first :: second :: rest) k) 2 :=
    hinner.later (by simp)
  rwa [Option.map_map] at hboth

/-- The ends of a string of which the opening quote is left out of account. -/
theorem reachesFirst_string {quote : Char} (hquote : IsQuote quote) (rest : List Char) :
    ReachesFirst ((stringLength? quote rest).map (· + 1))
      (fun k => 1 ≤ k ∧ ClosesStringAt quote (quote :: rest) k) 1 := by
  refine ((reachesFirst_stringLength? hquote rest).congr fun k => ?_).later (by simp)
  simp [closesStringAt_cons_succ hquote.ne_backslash]

/-- A token that the scanner reads lies inside its line. -/
theorem tokenAt?_length_le {rest : List Char} {length : Nat} {tokenClass : TokenClass}
    (h : tokenAt? names c rest = some (length, tokenClass)) : length ≤ (c :: rest).length := by
  rw [List.length_cons]
  rcases tokenAt?_cases h with
    ⟨_, _, rfl, _⟩ | ⟨rfl, _, ⟨tail, rfl, rfl⟩ | ⟨tail, inner, rfl, hinner, rfl⟩⟩ |
      ⟨hquote, _, inner, hinner, rfl⟩ | ⟨_, rfl, _⟩ | ⟨_, rfl, _⟩
  · exact Nat.succ_le_succ (List.takeWhile_sublist _).length_le
  · simp
  · obtain ⟨offset, ⟨⟨_, hlast⟩, _⟩, rfl⟩ := (reachesFirst_commentLength? tail inner).mp hinner
    have hlt := (List.getElem?_eq_some_iff.mp hlast).1
    rw [List.length_cons]
    omega
  · obtain ⟨offset, ⟨⟨hlast, _⟩, _⟩, rfl⟩ :=
      (reachesFirst_stringLength? hquote rest inner).mp hinner
    have hlt := (List.getElem?_eq_some_iff.mp hlast).1
    omega
  · exact Nat.succ_le_succ (List.takeWhile_sublist _).length_le
  · omega

/-- A comment is read to the end of a text exactly if it ends there for the first time. -/
theorem blockComment_iff (after : List Char) :
    (commentLength? (tail ++ after)).map (· + 2) = some ('/' :: '*' :: tail).length ↔
      ∃ offset, IsLeast {k | 2 ≤ k ∧ ClosesCommentAt ('/' :: '*' :: tail) k} offset ∧
        ('/' :: '*' :: tail).length = offset + 2 := by
  apply (reachesFirst_blockComment '/' '*' (tail ++ after)).eq_some_iff_of_local
  intro k hk
  exact and_congr_right fun _ => closesCommentAt_append after hk

/-- A string is read to the end of a text exactly if it ends there for the first time. -/
theorem string_iff {quote : Char} (hquote : IsQuote quote) (after : List Char) :
    (stringLength? quote (tail ++ after)).map (· + 1) = some (quote :: tail).length ↔
      ∃ offset, IsLeast {k | 1 ≤ k ∧ ClosesStringAt quote (quote :: tail) k} offset ∧
        (quote :: tail).length = offset + 1 := by
  apply (reachesFirst_string hquote (tail ++ after)).eq_some_iff_of_local
  intro k hk
  exact and_congr_right fun _ => closesStringAt_append after hk

theorem TokenClass.fits_of_isName {text after : List Char} {tokenClass : TokenClass}
    (h : tokenClass.isName = true) :
    tokenClass.Fits names text after ↔
      hasShape isIdentifierStart isIdentifierChar text = true ∧ StartsFree after ∧
        names.classify (String.ofList text) = tokenClass := by
  cases tokenClass with
  | keyword => cases h
  | comment => cases h
  | string => cases h
  | operator => cases h
  | _ => rfl

theorem isName_classify (names : DeclaredNames) (word : String) :
    (names.classify word).isName = true := by
  unfold DeclaredNames.classify
  split
  · rfl
  · split
    · rfl
    · rfl

/-- A token that the scanner reads fits its class. -/
theorem fits_of_tokenAt? {after : List Char} {tokenClass : TokenClass}
    (h : tokenAt? names c (tail ++ after) = some ((c :: tail).length, tokenClass)) :
    tokenClass.Fits names (c :: tail) after := by
  rcases tokenAt?_cases h with
    ⟨rfl, hdirective, hlength, rfl⟩ |
      ⟨rfl, rfl, ⟨rest, hrest, hlength⟩ | ⟨rest, inner, hrest, hinner, hlength⟩⟩ |
      ⟨hquote, rfl, inner, hinner, hlength⟩ | ⟨hstart, hlength, rfl⟩ | ⟨hoperator, hlength, rfl⟩
  · have hrun := takeWhile_append_eq_of_length (Nat.succ.inj hlength)
    rw [hrun] at hdirective
    exact ⟨hdirective, (takeWhile_append_eq_iff.mp hrun).2⟩
  · -- A comment to the end of the line leaves nothing behind it.
    have hsum := congrArg List.length hrest
    simp only [List.length_append, List.length_cons] at hsum hlength
    obtain rfl : after = [] := List.eq_nil_of_length_eq_zero (by omega)
    rw [List.append_nil] at hrest
    subst hrest
    exact .inl ⟨List.prefix_append ['/', '/'] rest, rfl⟩
  · cases tail with
    | nil => simp at hlength
    | cons d tail =>
      rw [List.cons_append] at hrest
      obtain ⟨rfl, rfl⟩ := List.cons.inj hrest
      refine .inr ⟨List.prefix_append ['/', '*'] tail, (blockComment_iff after).mp ?_⟩
      rw [hinner, Option.map_some, hlength]
  · refine ⟨c, hquote, List.prefix_append [c] tail, (string_iff hquote after).mp ?_⟩
    rw [hinner, Option.map_some, hlength]
  · have hrun := takeWhile_append_eq_of_length (Nat.succ.inj hlength)
    obtain ⟨hchars, hfree⟩ := takeWhile_append_eq_iff.mp hrun
    rw [TokenClass.fits_of_isName (isName_classify names _), hrun]
    refine ⟨?_, hfree, rfl⟩
    simp only [hasShape, hstart, Bool.true_and, List.all_eq_true]
    exact hchars
  · obtain rfl : tail = [] := List.eq_nil_of_length_eq_zero (Nat.succ.inj hlength)
    exact ⟨c, hoperator, rfl⟩

/-- Where a class fits the scanner reads a token of that class. -/
theorem tokenAt?_of_fits {after : List Char} {tokenClass : TokenClass}
    (h : tokenClass.Fits names (c :: tail) after) :
    tokenAt? names c (tail ++ after) = some ((c :: tail).length, tokenClass) := by
  have hname : ∀ nameClass : TokenClass, nameClass.isName = true →
      nameClass.Fits names (c :: tail) after →
      tokenAt? names c (tail ++ after) = some ((c :: tail).length, nameClass) := by
    intro nameClass hisName hfits
    obtain ⟨hshape, hfree, hclass⟩ := (TokenClass.fits_of_isName hisName).mp hfits
    simp only [hasShape, Bool.and_eq_true, List.all_eq_true] at hshape
    have hrun := takeWhile_append_eq_iff.mpr ⟨hshape.2, hfree⟩
    rw [tokenAt?_identifier hshape.1, hrun, hclass, List.length_cons]
  cases tokenClass with
  | keyword =>
    obtain ⟨hdirective, hfree⟩ := h
    have hshape := hasShape_of_mem_directives hdirective
    simp only [hasShape, Bool.and_eq_true, List.all_eq_true, beq_iff_eq] at hshape
    obtain ⟨rfl, hlower⟩ := hshape
    have hrun := takeWhile_append_eq_iff.mpr ⟨hlower, hfree⟩
    rw [tokenAt?_percent, hrun, if_pos (List.contains_iff_mem.mpr hdirective), List.length_cons]
  | comment =>
    rcases h with ⟨⟨rest, hrest⟩, rfl⟩ | ⟨⟨rest, hrest⟩, hends⟩
    · simp only [List.cons_append, List.nil_append, List.cons.injEq] at hrest
      obtain ⟨rfl, rfl⟩ := hrest
      rw [List.append_nil, tokenAt?_lineComment]
      rfl
    · simp only [List.cons_append, List.nil_append, List.cons.injEq] at hrest
      obtain ⟨rfl, rfl⟩ := hrest
      obtain ⟨inner, hinner, hlength⟩ :=
        Option.map_eq_some_iff.mp ((blockComment_iff after).mpr hends)
      rw [List.cons_append, tokenAt?_blockComment, hinner, Option.map_some, hlength]
  | string =>
    obtain ⟨quote, hquote, ⟨rest, hrest⟩, hends⟩ := h
    simp only [List.cons_append, List.nil_append, List.cons.injEq] at hrest
    obtain ⟨rfl, rfl⟩ := hrest
    obtain ⟨inner, hinner, hlength⟩ :=
      Option.map_eq_some_iff.mp ((string_iff hquote after).mpr hends)
    rw [tokenAt?_quote hquote, hinner, Option.map_some, hlength]
  | operator =>
    obtain ⟨d, hoperator, htext⟩ := h
    obtain ⟨rfl, rfl⟩ := List.cons.inj htext
    rw [tokenAt?_operator hoperator]
    rfl
  | _ => exact hname _ rfl h

end Front

end GrammarServer
