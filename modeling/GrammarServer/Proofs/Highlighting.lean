import GrammarServer.Feature.Highlight
import GrammarServer.Proofs.Cursor

/-!
# Colours agree with the names they stand for

The colour of an identifier is found by cutting the line into tokens and looking the
identifier up in the sets of declared names; it is sent relative to the token before it.
What the identifier denotes is found from the cursor.  In a bounded text, and unless the
identifier is glued to a digit or a directive before it, both find the same word and say the
same of it.

Main results:

- Theorem `decodeDeltas_encodeTokens`: decoding gives the sorted tokens back.
- Theorem `exists_cut_of_mem_scanLine`: every token of a line was read at its front.
- Theorem `exists_identifier_of_tokenAt?`: an identifier is read to its end.
- Theorem `classify_declaredNames`: the sets of names give the kind of a name.
- Theorem `highlight_agrees_with_resolution`: a coloured identifier is the word under the
  cursor, and its colour says what that word denotes.
-/

namespace GrammarServer

open Text

/-! ## Relative positions -/

theorem HighlightToken.le_iff {a b : HighlightToken} :
    a.le b = true ↔ a.line < b.line ∨ a.line = b.line ∧ a.start ≤ b.start := by
  simp [HighlightToken.le]

/-- Sorting puts the tokens in order. -/
theorem pairwise_le_mergeSort (tokens : List HighlightToken) :
    (tokens.mergeSort HighlightToken.le).Pairwise fun a b => a.le b = true := by
  apply List.pairwise_mergeSort
  · intro a b c hab hbc
    rw [HighlightToken.le_iff] at hab hbc ⊢
    omega
  · intro a b
    rw [Bool.or_eq_true, HighlightToken.le_iff, HighlightToken.le_iff]
    omega

/-- Tokens in order, of which none stands before `line` and `start`, are found again from
their relative positions. -/
theorem decodeDeltas_deltasFrom {tokens : List HighlightToken} {line start : Nat}
    (hsorted : tokens.Pairwise fun a b => a.le b = true)
    (hfirst : ∀ token ∈ tokens, line < token.line ∨ line = token.line ∧ start ≤ token.start) :
    decodeDeltas line start (deltasFrom line start tokens) = tokens := by
  induction tokens generalizing line start with
  | nil => rfl
  | cons token rest ih =>
    rw [List.pairwise_cons] at hsorted
    have hline : line + (token.line - line) = token.line := by
      have := hfirst token List.mem_cons_self
      omega
    have hstart : (if token.line - line = 0 then
        start + (if token.line - line = 0 then token.start - start else token.start)
        else (if token.line - line = 0 then token.start - start else token.start)) =
        token.start := by
      have := hfirst token List.mem_cons_self
      split <;> omega
    have hrest := ih hsorted.2 fun other hother =>
      HighlightToken.le_iff.mp (hsorted.1 other hother)
    simp only [deltasFrom, decodeDeltas, hline, hstart, hrest]

/-- Decoding the encoded tokens gives the tokens back, sorted. -/
theorem decodeDeltas_encodeTokens (tokens : List HighlightToken) :
    decodeDeltas 0 0 (encodeTokens tokens) = tokens.mergeSort HighlightToken.le := by
  apply decodeDeltas_deltasFrom (pairwise_le_mergeSort tokens)
  intro token _
  omega

/-- The decoded tokens of a document are those of its text. -/
theorem mem_decodeDeltas_highlights_iff {document : Document} {grammar : Grammar}
    {token : HighlightToken} (hgrammar : document.grammar = some grammar) :
    token ∈ decodeDeltas 0 0 document.highlights ↔
      token ∈ textTokens grammar.declaredNames document.text := by
  rw [Document.highlights, hgrammar, decodeDeltas_encodeTokens]
  exact List.mem_mergeSort

/-! ## Tokens of a text -/

/-- The tokens of the lines of a text, each with the number of its line. -/
def tokensByLine (names : DeclaredNames) (text : String) : List HighlightToken :=
  (lines text).zipIdx.flatMap fun (line, number) => lineTokens names number line

/-- In a bounded text no number of a line is cut. -/
theorem textTokens_eq_tokensByLine (names : DeclaredNames) {text : String}
    (hbounded : IsBounded text) :
    textTokens names text = tokensByLine names text := by
  have hlines := hbounded.lines_lt
  refine List.flatMap_congr ?_
  rintro ⟨line, number⟩ hmem
  have hlt := (List.getElem?_eq_some_iff.mp (List.mem_zipIdx_iff_getElem?.mp hmem)).1
  have hnumber : toCoordinate number = number := toCoordinate_of_le (by omega)
  simp only [hnumber]

/-! ## Tokens of a line -/

section Scan

variable {names : DeclaredNames} {c : Char} {rest : List Char} {length : Nat}
  {tokenClass : TokenClass}

/-- What the token at the front of a text can be: a directive, a comment, a string, an
identifier or an operator. -/
theorem tokenAt?_cases (h : tokenAt? names c rest = some (length, tokenClass)) :
    (c = '%' ∧ String.ofList ('%' :: rest.takeWhile Char.isLower) ∈ directives ∧
      length = (rest.takeWhile Char.isLower).length + 1 ∧ tokenClass = .keyword) ∨
    (c = '/' ∧ tokenClass = .comment ∧
      ((∃ tail, rest = '/' :: tail ∧ length = tail.length + 2) ∨
        ∃ tail n, rest = '*' :: tail ∧ commentLength? tail = some n ∧ length = n + 2)) ∨
    ((c = '"' ∨ c = '\'') ∧ tokenClass = .string ∧
      ∃ n, stringLength? c rest = some n ∧ length = n + 1) ∨
    (isIdentifierStart c = true ∧ length = (rest.takeWhile isIdentifierChar).length + 1 ∧
      tokenClass = names.classify (String.ofList (c :: rest.takeWhile isIdentifierChar))) ∨
    (isOperator c = true ∧ length = 1 ∧ tokenClass = .operator) := by
  unfold tokenAt? at h
  split at h
  · cases h
  split at h
  case isTrue hpercent =>
    dsimp only at h
    split at h
    case isTrue hdirective =>
      rw [List.contains_iff_mem] at hdirective
      obtain ⟨rfl, rfl⟩ := Prod.mk.inj (Option.some.inj h)
      exact .inl ⟨hpercent, hdirective, rfl, rfl⟩
    case isFalse => cases h
  case isFalse =>
    right
    split at h
    case isTrue hslash =>
      left
      split at h
      case h_1 tail =>
        obtain ⟨rfl, rfl⟩ := Prod.mk.inj (Option.some.inj h)
        exact ⟨hslash, rfl, .inl ⟨tail, rfl, rfl⟩⟩
      case h_2 tail =>
        obtain ⟨n, hn, heq⟩ := Option.map_eq_some_iff.mp h
        obtain ⟨rfl, rfl⟩ := Prod.mk.inj heq
        exact ⟨hslash, rfl, .inr ⟨tail, n, rfl, hn, rfl⟩⟩
      case h_3 => cases h
    case isFalse =>
      right
      split at h
      case isTrue hquote =>
        left
        obtain ⟨n, hn, heq⟩ := Option.map_eq_some_iff.mp h
        obtain ⟨rfl, rfl⟩ := Prod.mk.inj heq
        exact ⟨hquote, rfl, n, hn, rfl⟩
      case isFalse =>
        right
        split at h
        case isTrue hstart =>
          obtain ⟨rfl, rfl⟩ := Prod.mk.inj (Option.some.inj h)
          exact .inl ⟨hstart, rfl, rfl⟩
        case isFalse =>
          split at h
          case isTrue hoperator =>
            obtain ⟨rfl, rfl⟩ := Prod.mk.inj (Option.some.inj h)
            exact .inr ⟨hoperator, rfl, rfl⟩
          case isFalse => cases h

/-- No token is empty. -/
theorem tokenAt?_pos (h : tokenAt? names c rest = some (length, tokenClass)) : 0 < length := by
  rcases tokenAt?_cases h with
    ⟨_, _, rfl, _⟩ | ⟨_, _, ⟨tail, _, rfl⟩ | ⟨tail, n, _, _, rfl⟩⟩ | ⟨_, _, n, _, rfl⟩ |
      ⟨_, rfl, _⟩ | ⟨_, rfl, _⟩
  all_goals exact Nat.succ_pos _

/-- Every token of a line was read at the front of what the tokens before it left. -/
theorem exists_cut_of_mem_scanLine {line column : Nat} {cs : List Char}
    {token : HighlightToken} (h : token ∈ scanLine names line column cs) :
    ∃ front c rest length tokenClass, cs = front ++ c :: rest ∧
      tokenAt? names c rest = some (length, tokenClass) ∧
      token = ⟨line, column + front.length, length, tokenClass.legendIndex⟩ := by
  fun_induction scanLine names line column cs with
  | case1 => cases h
  | case2 => cases h
  | case3 column c rest hclosed length tokenClass hread ih =>
    rcases List.mem_cons.mp h with rfl | h
    · exact ⟨[], c, rest, length, tokenClass, rfl, hread, rfl⟩
    · obtain ⟨front, c', rest', length', tokenClass', hdrop, hread', rfl⟩ := ih h
      -- A further token leaves room for the one that was read.
      have hroom : (rest.take (length - 1)).length = length - 1 := by
        have hlength := congrArg List.length hdrop
        simp only [List.length_drop, List.length_append, List.length_cons] at hlength
        rw [List.length_take]
        omega
      have hpos := tokenAt?_pos hread
      refine ⟨c :: rest.take (length - 1) ++ front, c', rest', length', tokenClass', ?_, hread',
        ?_⟩
      · rw [List.append_assoc, ← hdrop, List.cons_append, List.take_append_drop]
      · simp only [List.length_append, List.length_cons, hroom, HighlightToken.mk.injEq, true_and,
          and_true]
        omega
  | case4 column c rest hclosed hnone ih =>
    obtain ⟨front, c', rest', length', tokenClass', rfl, hread', rfl⟩ := ih h
    refine ⟨c :: front, c', rest', length', tokenClass', rfl, hread', ?_⟩
    simp only [List.length_cons, HighlightToken.mk.injEq, true_and, and_true]
    omega

/-- The classes that identifiers are given. -/
def TokenClass.isName : TokenClass → Bool
  | .variable | .enumMember | .function => true
  | .keyword | .comment | .string | .operator => false

/-- A class is known by its index in the legend. -/
theorem TokenClass.legendIndex_inj {first second : TokenClass} :
    first.legendIndex = second.legendIndex ↔ first = second := by
  cases first <;> cases second <;> decide

/-- A letter or an underscore belongs to an identifier. -/
theorem isIdentifierChar_of_isIdentifierStart (h : isIdentifierStart c = true) :
    isIdentifierChar c = true := by
  simp only [isIdentifierStart, isIdentifierChar, Char.isAlphanum, Bool.or_eq_true] at h ⊢
  tauto

/-- An identifier is read to its end, and its class is the one of the name. -/
theorem exists_identifier_of_tokenAt?
    (h : tokenAt? names c rest = some (length, tokenClass)) (hname : tokenClass.isName = true) :
    ∃ word after, c :: rest = word ++ after ∧ length = word.length ∧ IsIdentifier word ∧
      StartsFree after ∧ tokenClass = names.classify (String.ofList word) := by
  have hread : isIdentifierStart c = true ∧
      length = (rest.takeWhile isIdentifierChar).length + 1 ∧
      tokenClass = names.classify (String.ofList (c :: rest.takeWhile isIdentifierChar)) := by
    rcases tokenAt?_cases h with
      ⟨_, _, _, rfl⟩ | ⟨_, rfl, _⟩ | ⟨_, rfl, _⟩ | hread | ⟨_, _, rfl⟩
    case inr.inr.inr.inl => exact hread
    all_goals cases hname
  rcases hread with ⟨hstart, hlength, hclass⟩
  refine ⟨c :: rest.takeWhile isIdentifierChar, rest.dropWhile isIdentifierChar, ?_, ?_,
    ⟨List.cons_ne_nil _ _, ?_⟩, startsFree_dropWhile rest, hclass⟩
  · rw [List.cons_append, List.takeWhile_append_dropWhile]
  · rw [hlength, List.length_cons]
  · intro d hd
    rcases List.mem_cons.mp hd with rfl | hd
    · exact isIdentifierChar_of_isIdentifierStart hstart
    · exact List.mem_takeWhile_imp hd

/-- A token that lies inside a line that can be written is not changed. -/
theorem HighlightToken.cut_of_le {token : HighlightToken}
    (h : token.start + token.length ≤ maxCoordinate) : token.cut = token := by
  rw [HighlightToken.cut, toCoordinate_of_le (by omega), toCoordinate_of_le (by omega)]

/-- The identifiers among the tokens of a bounded text: each stands on its line from its column
to the end of a run. -/
theorem exists_identifier_of_mem_textTokens {text : String} {token : HighlightToken}
    (hbounded : IsBounded text) (h : token ∈ textTokens names text)
    (htype : token.type = tokenClass.legendIndex) (hname : tokenClass.isName = true) :
    ∃ front word after, (lines text)[token.line]? = some (front ++ (word ++ after)) ∧
      token.start = front.length ∧ token.length = word.length ∧ IsIdentifier word ∧
      StartsFree after ∧ tokenClass = names.classify (String.ofList word) := by
  rw [textTokens_eq_tokensByLine names hbounded] at h
  obtain ⟨⟨line, index⟩, hline, hscan⟩ := List.mem_flatMap.mp h
  have hget := List.mem_zipIdx_iff_getElem?.mp hline
  obtain ⟨found, hfound, rfl⟩ := List.mem_map.mp hscan
  obtain ⟨front, c, rest, length, readClass, rfl, hread, rfl⟩ :=
    exists_cut_of_mem_scanLine hfound
  obtain rfl := TokenClass.legendIndex_inj.mp htype
  obtain ⟨word, after, hcut, rfl, hword, hafter, hclass⟩ :=
    exists_identifier_of_tokenAt? hread hname
  rw [hcut] at hget
  rw [Nat.zero_add, HighlightToken.cut_of_le]
  · exact ⟨front, word, after, hget, rfl, rfl, hword, hafter, hclass⟩
  · have hlength := hbounded.length_lt _ (List.mem_of_getElem? hget)
    simp only [List.length_append] at hlength ⊢
    omega

end Scan

/-- Where the character before a column is not part of an identifier, the text before the
column ends free. -/
theorem endsFree_of_charBefore? {front rest : List Char}
    (h : ∀ c ∈ charBefore? (front ++ rest) front.length, isIdentifierChar c = false) :
    EndsFree front := by
  intro c hc
  apply h c
  rwa [charBefore?, List.take_left]

/-! ## Names and their colours -/

/-- The class of the names of a kind. -/
def SymbolKind.tokenClass : SymbolKind → TokenClass
  | .token => .enumMember
  | .rule => .function

/-- The class of a name: the one of the kind of its declaration, if there is one. -/
def Grammar.nameClass (grammar : Grammar) (name : String) : TokenClass :=
  (grammar.declaration? name).elim .variable (·.kind.tokenClass)

/-- The sets of declared names give every name the class of what it denotes. -/
theorem classify_declaredNames (grammar : Grammar) (name : String) :
    grammar.declaredNames.classify name = grammar.nameClass name := by
  have htoken : grammar.tokenNames.contains name = (grammar.token? name).isSome := by
    rw [Bool.eq_iff_iff, List.contains_iff_mem, ← Grammar.isToken_iff_mem_tokenNames,
      Grammar.isToken]
  have hrule : (grammar.rules.map (·.name)).contains name = (grammar.rule? name).isSome := by
    rw [Bool.eq_iff_iff, List.contains_iff_mem, List.mem_map]
    simp [Grammar.rule?]
  simp only [DeclaredNames.classify, Grammar.declaredNames, Grammar.nameClass,
    Grammar.declaration?, htoken, hrule]
  cases grammar.token? name with
  | some declaration => rfl
  | none =>
    cases grammar.rule? name with
    | some rule => rfl
    | none => rfl

/-- A description that says that a name is a token. -/
def Hover.DescribesToken (hover : Hover) (name : String) : Prop :=
  ("**Token**: `" ++ name ++ "`").toList <+: hover.markdown.toList

/-- A description that says that a name is a nonterminal. -/
def Hover.DescribesNonterminal (hover : Hover) (name : String) : Prop :=
  ("**Nonterminal**: `" ++ name ++ "`").toList <+: hover.markdown.toList

/-- No description says both. -/
theorem Hover.DescribesToken.not_describesNonterminal {hover : Hover} {name : String}
    (h : hover.DescribesToken name) : ¬ hover.DescribesNonterminal name := by
  intro h'
  rcases h with ⟨rest, hrest⟩
  rcases h' with ⟨rest', hrest'⟩
  have heq := hrest.trans hrest'.symm
  simp at heq

/-- A name without a description is coloured as a variable. -/
theorem nameClass_of_describe?_eq_none {grammar : Grammar} {name : String}
    (h : grammar.describe? name = none) : grammar.nameClass name = .variable := by
  rw [Grammar.describe?, Option.map_eq_none_iff] at h
  rw [Grammar.nameClass, h, Option.elim_none]

/-- A description says what the colour of the name says. -/
theorem nameClass_of_describe?_eq_some {grammar : Grammar} {name : String} (hover : Hover)
    (h : grammar.describe? name = some hover.markdown) :
    (grammar.nameClass name = .enumMember ∧ hover.DescribesToken name) ∨
      (grammar.nameClass name = .function ∧ hover.DescribesNonterminal name) := by
  obtain ⟨declaration, hdeclaration, hmarkdown⟩ := Option.map_eq_some_iff.mp h
  rw [Grammar.nameClass, hdeclaration, Option.elim_some]
  cases hkind : declaration.kind with
  | token =>
    left
    refine ⟨rfl, ?_⟩
    rw [hkind] at hmarkdown
    rw [Hover.DescribesToken, ← hmarkdown]
    simp
  | rule =>
    right
    refine ⟨rfl, ?_⟩
    rw [hkind] at hmarkdown
    rw [Hover.DescribesNonterminal, ← hmarkdown]
    simp

/-! ## Colours and the cursor -/

/-- The range of a coloured token. -/
def HighlightToken.range (token : HighlightToken) : Range :=
  ⟨⟨token.line, token.start⟩, ⟨token.line, token.start + token.length⟩⟩

/-- The cursor at a position finds a word in the range of a coloured token, and the
description there says what the colour says. -/
structure Document.AgreesWith (document : Document) (token : HighlightToken) (word : String)
    (position : Position) : Prop where
  word_at : wordAt? document.text position = some ⟨word, token.range⟩
  variable_iff : document.hover? position = none ↔ token.type = TokenClass.variable.legendIndex
  token_iff : (∃ hover, document.hover? position = some hover ∧ hover.DescribesToken word) ↔
    token.type = TokenClass.enumMember.legendIndex
  nonterminal_iff :
    (∃ hover, document.hover? position = some hover ∧ hover.DescribesNonterminal word) ↔
      token.type = TokenClass.function.legendIndex

/-- Where the cursor finds a word whose class a token has, the description says what the
colour says. -/
theorem agreesWith_of_wordAt? {document : Document} {grammar : Grammar}
    {token : HighlightToken} {word : String} {position : Position}
    (hgrammar : document.grammar = some grammar)
    (hword : wordAt? document.text position = some ⟨word, token.range⟩)
    (htype : token.type = (grammar.nameClass word).legendIndex) :
    document.AgreesWith token word position := by
  cases hdescribe : grammar.describe? word with
  | none =>
    have hhover : document.hover? position = none := by
      simp [Document.hover?, hgrammar, hword, hdescribe]
    rw [nameClass_of_describe?_eq_none hdescribe] at htype
    refine ⟨hword, ?_, ?_, ?_⟩ <;> simp [hhover, htype, TokenClass.legendIndex]
  | some markdown =>
    have hhover : document.hover? position = some ⟨markdown, token.range⟩ := by
      simp [Document.hover?, hgrammar, hword, hdescribe]
    rcases nameClass_of_describe?_eq_some ⟨markdown, token.range⟩ hdescribe with
      ⟨hclass, hdescribes⟩ | ⟨hclass, hdescribes⟩
    · have hnot := hdescribes.not_describesNonterminal
      rw [hclass] at htype
      refine ⟨hword, ?_, ?_, ?_⟩ <;>
        simp [hhover, htype, TokenClass.legendIndex, hdescribes, hnot]
    · have hnot : ¬ Hover.DescribesToken ⟨markdown, token.range⟩ word :=
        fun h => h.not_describesNonterminal hdescribes
      rw [hclass] at htype
      refine ⟨hword, ?_, ?_, ?_⟩ <;>
        simp [hhover, htype, TokenClass.legendIndex, hdescribes, hnot]

/-- In a text whose places can be written, a coloured identifier that is not glued to an
identifier character before it is the word under the cursor at each of its columns, both ends
included; its colour is the one of the kind of its declaration, and the description under the
cursor agrees. -/
theorem highlight_agrees_with_resolution {document : Document} {grammar : Grammar}
    {token : HighlightToken} {tokenClass : TokenClass} (hbounded : IsBounded document.text)
    (hgrammar : document.grammar = some grammar)
    (htoken : token ∈ decodeDeltas 0 0 document.highlights)
    (htype : token.type = tokenClass.legendIndex) (hname : tokenClass.isName = true)
    (hbefore : ∀ line, (lines document.text)[token.line]? = some line →
      ∀ c ∈ charBefore? line token.start, isIdentifierChar c = false) :
    ∃ line word, (lines document.text)[token.line]? = some line ∧
      word = String.ofList (slice line token.start (token.start + token.length)) ∧
      token.type = (grammar.nameClass word).legendIndex ∧
      ∀ column, token.start ≤ column → column ≤ token.start + token.length →
        document.AgreesWith token word ⟨token.line, column⟩ := by
  have hmem := (mem_decodeDeltas_highlights_iff hgrammar).mp htoken
  obtain ⟨front, word, after, hline, hstart, hlength, hword, hafter, hclass⟩ :=
    exists_identifier_of_mem_textTokens hbounded hmem htype hname
  have hwhole : isWholeWordAt (front ++ (word ++ after)) word token.start = true := by
    refine isWholeWordAt_iff.mpr ⟨front, after, rfl, hstart.symm, hword.ne_nil, ?_, hafter⟩
    exact endsFree_of_charBefore? (hstart ▸ hbefore _ hline)
  have hcovers : CoversWord document.text (String.ofList word) token.range := by
    refine ⟨token.line, token.start, ⟨_, hline, ?_⟩, ?_⟩
    · rwa [String.toList_ofList]
    · rw [HighlightToken.range, hlength, String.length_ofList]
  rw [hclass, classify_declaredNames] at htype
  refine ⟨_, String.ofList word, hline, ?_, htype, ?_⟩
  · rw [hlength, slice_of_isWholeWordAt hwhole]
  · intro column hle hge
    refine agreesWith_of_wordAt? hgrammar (hcovers.wordAt?_eq hbounded ?_ ?_) htype
    · rwa [String.toList_ofList]
    · exact Range.touches_iff.mpr ⟨rfl, hle, hge⟩

/-! ## A name beside a glued one -/

/-- A document with a variable that is glued to a digit, and a token after it. -/
def gluedDocument : Document where
  uri := { scheme := "file", authority := some {}, path := .segments ["g.y"] }
  text := "%token A\n%%\ns:1b A"
  version := 1
  grammar := some {
    declarations := [.token { names := ["A"], location := some ⟨1, 8⟩ }]
    rules := [{ name := "s", location := some ⟨3, 1⟩ }] }

/-- The coloured tokens of the document. -/
def gluedTokens : List HighlightToken :=
  [⟨0, 0, 6, 15⟩, ⟨0, 7, 1, 10⟩, ⟨2, 0, 1, 12⟩, ⟨2, 1, 1, 21⟩, ⟨2, 3, 1, 8⟩, ⟨2, 5, 1, 10⟩]

theorem textTokens_gluedDocument :
    textTokens ⟨["A"], ["s"]⟩ gluedDocument.text = gluedTokens := by
  decide +kernel

/-- The last token of the document is the word under the cursor behind it. -/
theorem gluedDocument_agreesWith :
    ⟨2, 5, 1, 10⟩ ∈ decodeDeltas 0 0 gluedDocument.highlights ∧
      gluedDocument.AgreesWith ⟨2, 5, 1, 10⟩ "A" ⟨2, 6⟩ := by
  have hmem : ⟨2, 5, 1, 10⟩ ∈ decodeDeltas 0 0 gluedDocument.highlights := by
    refine (mem_decodeDeltas_highlights_iff rfl).mpr (textTokens_gluedDocument ▸ ?_)
    decide
  have hbounded : IsBounded gluedDocument.text := by constructor <;> decide
  have hline : (lines gluedDocument.text)[2]? = some "s:1b A".toList := by decide
  refine ⟨hmem, ?_⟩
  obtain ⟨line, word, hget, rfl, _, hagrees⟩ := highlight_agrees_with_resolution hbounded rfl hmem
    (show 10 = TokenClass.enumMember.legendIndex from rfl) rfl (by
      intro line hget c hc
      rw [hline, Option.some.injEq] at hget
      subst hget
      obtain rfl : ' ' = c := Option.some.inj hc
      decide)
  rw [hline, Option.some.injEq] at hget
  subst hget
  exact hagrees 6 (by decide) (by decide)

end GrammarServer
