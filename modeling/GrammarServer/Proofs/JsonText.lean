import GrammarServer.Json.Printer
import GrammarServer.Json.Reading
import GrammarServer.Proofs.JsonLiteral

/-!
# Reading what a JSON text writes

A JSON text writes a value by its tokens, with gaps anywhere between them.  However a value is
written, reading gives it back.

Main results:

- Theorem `tokens_of_writesTokens`: a text is cut into the tokens that it writes.
- Theorem `take_tokenList`: the tokens of a value are put together to its tree.
- Theorem `readBytes_of_writes`: a text that writes a value is read as its tree.
- Theorem `writes_render`: a value is written by the text that it is printed as.
-/

namespace GrammarServer.Json

open Text (utf8Bytes maxCoordinate)

/-! ## How values are written -/

/-- The characters that may stand between two tokens. -/
def isGap (c : Char) : Bool :=
  c == ' ' || c == '\n' || c == '\t' || c == '\r'

/-- The tokens that can be written in one way only. -/
def Token.fixedText? : Token → Option String
  | .openArray => some "["
  | .closeArray => some "]"
  | .openObject => some "\x7b"
  | .closeObject => some "\x7d"
  | .colon => some ":"
  | .comma => some ","
  | .null => some "null"
  | .bool true => some "true"
  | .bool false => some "false"
  | .number _ | .string _ | .broken _ => none

/-- Whether a token is a number. -/
def Token.isNumber : Token → Bool
  | .number _ => true
  | _ => false

/-- A token is written by its fixed text, by decimal digits, or by a string in quotes.  Of
the numbers only those are written that can be coordinates. -/
inductive WritesToken : Token → List Char → Prop
  | fixed {token : Token} {text : String} (h : token.fixedText? = some text) :
    WritesToken token text.toList
  | number {n : Nat} (h : n ≤ maxCoordinate) :
    WritesToken (.number ⟨.ok (.integer n), none⟩) (Nat.toDigits 10 n)
  | string {s : String} {written : List Char} (h : WritesChars s.toList written) :
    WritesToken (.string ⟨.ok s, none⟩) ('"' :: written ++ ['"'])

/-- Tokens are written one after the other, with gaps before and after each. -/
inductive WritesTokens : List Token → List Char → Prop
  | nil {gap : List Char} (hgap : ∀ c ∈ gap, isGap c = true) : WritesTokens [] gap
  | cons {token : Token} {tokens : List Token} {gap written rest : List Char}
    (hgap : ∀ c ∈ gap, isGap c = true) (htoken : WritesToken token written)
    (htokens : WritesTokens tokens rest) : WritesTokens (token :: tokens) (gap ++ written ++ rest)

mutual

/-- The tokens of a value. -/
def tokenList : Json → List Token
  | .null => [.null]
  | .bool b => [.bool b]
  | .number n => [.number ⟨.ok n, none⟩]
  | .string s => [.string ⟨.ok s, none⟩]
  | .array items => .openArray :: itemTokens items ++ [.closeArray]
  | .object members => .openObject :: memberTokens members ++ [.closeObject]

/-- The tokens of items, separated by commas. -/
def itemTokens : List Json → List Token
  | [] => []
  | [item] => item.tokenList
  | item :: next :: rest => item.tokenList ++ .comma :: itemTokens (next :: rest)

/-- The tokens of members, separated by commas. -/
def memberTokens : List (String × Json) → List Token
  | [] => []
  | [(name, value)] => .string ⟨.ok name, none⟩ :: .colon :: value.tokenList
  | (name, value) :: next :: rest =>
    .string ⟨.ok name, none⟩ :: .colon :: value.tokenList ++ .comma :: memberTokens (next :: rest)

end

/-- A text writes a value. -/
def Writes (value : Json) (text : String) : Prop :=
  WritesTokens value.tokenList text.toList

/-! ## Tokens -/

/-- Gaps are passed over. -/
theorem tokens_gap {gap : List Char} (h : ∀ c ∈ gap, isGap c = true) (rest : List UInt8) :
    tokens (encode gap ++ rest) = tokens rest := by
  induction gap with
  | nil => rfl
  | cons c gap ih =>
    have hbyte : ∃ b, String.utf8EncodeChar c = [b] ∧ isSpaceByte b = true := by
      have hc := h c List.mem_cons_self
      simp only [isGap, Bool.or_eq_true, beq_iff_eq] at hc
      rcases hc with ((rfl | rfl) | rfl) | rfl
      · exact ⟨0x20, rfl, rfl⟩
      · exact ⟨0x0A, rfl, rfl⟩
      · exact ⟨0x09, rfl, rfl⟩
      · exact ⟨0x0D, rfl, rfl⟩
    obtain ⟨b, hb, hspace⟩ := hbyte
    rw [encode_cons, hb, List.singleton_append, List.cons_append, tokens, if_pos hspace]
    exact ih fun d hd => h d (List.mem_cons_of_mem c hd)

theorem tokens_punctuation {b : UInt8} {token : Token} (hspace : isSpaceByte b = false)
    (h : punctuation? b = some token) (rest : List UInt8) :
    tokens (b :: rest) = token :: tokens rest := by
  rw [tokens, if_neg (by simp [hspace]), h]

theorem expect_append (letters rest : List UInt8) : expect letters (letters ++ rest) = .ok rest := by
  induction letters with
  | nil => cases rest <;> rfl
  | cons b letters ih => simpa [expect] using ih

theorem tokens_word {b : UInt8} {letters : List UInt8} {token : Token}
    (hspace : isSpaceByte b = false) (hnone : punctuation? b = none) (hquote : b ≠ 0x22)
    (hdigit : ¬ (b = 0x2D ∨ isDigitByte b = true)) (h : word? b = some (letters, token))
    (rest : List UInt8) : tokens (b :: (letters ++ rest)) = token :: tokens rest := by
  rw [tokens, if_neg (by simp [hspace]), hnone]
  simp only [if_neg hquote, if_neg hdigit, h]
  split
  case h_1 after hafter =>
    rw [expect_append] at hafter
    cases hafter
    rfl
  case h_2 fault hfault =>
    rw [expect_append] at hfault
    cases hfault

/-- A digit is no gap, no punctuation and no quote. -/
theorem ne_of_isDigitByte {b d : UInt8} (hb : isDigitByte b = true) (hd : isDigitByte d = false) :
    b ≠ d := by
  rintro rfl
  rw [hb] at hd
  cases hd

theorem tokens_digit {b : UInt8} (h : isDigitByte b = true) {bytes rest : List UInt8}
    {parts : NumberParts} (hscan : scanNumber (b :: bytes) = .ok (parts, rest)) :
    tokens (b :: bytes) = .number ⟨parts.value (b :: bytes) rest, none⟩ :: tokens rest := by
  have hne : ∀ d, isDigitByte d = false → b ≠ d := fun d => ne_of_isDigitByte h
  have hspace : isSpaceByte b = false := by
    simp [isSpaceByte, hne 0x20 rfl, hne 0x0A rfl, hne 0x09 rfl, hne 0x0D rfl]
  have hnone : punctuation? b = none := by
    simp [punctuation?, hne 0x5B rfl, hne 0x5D rfl, hne 0x7B rfl, hne 0x7D rfl, hne 0x3A rfl,
      hne 0x2C rfl]
  rw [tokens, if_neg (by simp [hspace]), hnone]
  simp only [if_neg (hne 0x22 rfl), h, or_true, if_true]
  split
  case h_1 parts' after hafter =>
    rw [hscan] at hafter
    cases hafter
    rfl
  case h_2 fault hfault =>
    rw [hscan] at hfault
    cases hfault

theorem tokens_quote {bytes rest : List UInt8} (h : skipString bytes = .ok rest) :
    tokens (0x22 :: bytes) = .string ⟨readString [] bytes, none⟩ :: tokens rest := by
  rw [tokens, if_neg (by decide)]
  have hnone : punctuation? 0x22 = none := rfl
  simp only [hnone, if_true]
  split
  case h_1 after hafter =>
    rw [h] at hafter
    cases hafter
    rfl
  case h_2 fault hfault =>
    rw [h] at hfault
    cases hfault

/-- A token with a fixed text is read from it. -/
theorem tokens_of_fixedText? {token : Token} {text : String}
    (h : token.fixedText? = some text) (rest : List UInt8) :
    tokens (encode text.toList ++ rest) = token :: tokens rest := by
  cases token with
  | openArray | closeArray | openObject | closeObject | colon | comma =>
    cases h
    exact tokens_punctuation rfl rfl rest
  | null =>
    cases h
    exact tokens_word rfl rfl (by decide) (by decide) rfl rest
  | bool value =>
    cases value with
    | true | false =>
      cases h
      exact tokens_word rfl rfl (by decide) (by decide) rfl rest
  | number literal | string literal | broken fault => cases h

/-- A token stands before the tokens of what follows, which must not go on with a number. -/
theorem tokens_of_writesToken {token : Token} {written : List Char}
    (h : WritesToken token written) {rest : List UInt8}
    (hends : token.isNumber = true → EndsNumber rest) :
    tokens (encode written ++ rest) = token :: tokens rest := by
  cases h with
  | fixed htext => exact tokens_of_fixedText? htext rest
  | @number n hn =>
    obtain ⟨b, bytes, hbytes, hdigit⟩ := exists_digitBytes_eq_cons n
    have hscan := scanNumber_digitBytes n (hends rfl)
    rw [← digitBytes, ← value_digitBytes hn (digitBytes n ++ rest) rest]
    rw [hbytes, List.cons_append] at hscan ⊢
    exact tokens_digit hdigit hscan
  | @string s written hs =>
    obtain ⟨hread, hskip⟩ := readString_of_writesChars hs [] (0x22 :: rest)
    have hbytes : encode ('"' :: written ++ ['"']) ++ rest =
        0x22 :: (encode written ++ 0x22 :: rest) := by
      simp only [encode_append, encode_cons, List.cons_append, List.append_assoc]
      rfl
    have hafter : skipString (0x22 :: rest) = .ok rest := by
      rw [skipString, if_pos rfl]
    have hvalue : readString ((encode s.toList).reverse ++ []) (0x22 :: rest) = .ok s := by
      rw [readString, if_pos rfl, List.append_nil, List.reverse_reverse, ofUtf8?_encode,
        String.ofList_toList]
    rw [hbytes, tokens_quote (hskip.trans hafter), hread, hvalue]

/-! ## Texts -/

/-- No number follows a number, so that no gap is needed between tokens. -/
def Separated (list : List Token) : Prop :=
  list.IsChain fun first second => first.isNumber = true → second.isNumber = false

theorem separated_cons_iff {token : Token} {list : List Token} :
    Separated (token :: list) ↔
      (token.isNumber = true → ∀ next ∈ list.head?, next.isNumber = false) ∧ Separated list := by
  cases list with
  | nil => simp [Separated]
  | cons next rest => simp [Separated]

/-- Of the tokens only numbers go on with a number. -/
theorem endsNumber_of_writesToken {token : Token} {written : List Char}
    (h : WritesToken token written) (hnot : token.isNumber = false) (rest : List UInt8) :
    EndsNumber (encode written ++ rest) := by
  intro b hb
  cases h with
  | fixed htext =>
    cases token with
    | openArray | closeArray | openObject | closeObject | colon | comma | null =>
      cases htext
      obtain rfl := Option.some.inj hb
      decide
    | bool value =>
      cases value with
      | true | false =>
        cases htext
        obtain rfl := Option.some.inj hb
        decide
    | number literal | string literal | broken fault => cases htext
  | number hn => cases hnot
  | string hs =>
    obtain rfl := Option.some.inj hb
    decide

/-- A gap ends a number. -/
theorem endsNumber_of_isGap {c : Char} (h : isGap c = true) (rest : List UInt8) :
    EndsNumber (String.utf8EncodeChar c ++ rest) := by
  intro b hb
  simp only [isGap, Bool.or_eq_true, beq_iff_eq] at h
  rcases h with ((rfl | rfl) | rfl) | rfl
  all_goals
    obtain rfl := Option.some.inj hb
    decide

/-- A text that writes tokens, of which the first is no number, ends a number. -/
theorem endsNumber_of_writesTokens {list : List Token} {text : List Char}
    (h : WritesTokens list text) (hnot : ∀ token ∈ list.head?, token.isNumber = false) :
    EndsNumber (encode text) := by
  cases h with
  | nil hgap =>
    cases text with
    | nil => simp [EndsNumber]
    | cons c gap => exact endsNumber_of_isGap (hgap c List.mem_cons_self) (encode gap)
  | @cons token others gap written rest hgap htoken hothers =>
    rw [encode_append, encode_append]
    cases gap with
    | nil => exact endsNumber_of_writesToken htoken (hnot token rfl) (encode rest)
    | cons c gap =>
      rw [encode_cons, List.append_assoc, List.append_assoc]
      exact endsNumber_of_isGap (hgap c List.mem_cons_self) _

/-- A text is cut into the tokens that it writes. -/
theorem tokens_of_writesTokens {list : List Token} {text : List Char}
    (h : WritesTokens list text) (hseparated : Separated list) : tokens (encode text) = list := by
  induction h with
  | @nil gap hgap =>
    have hrest := tokens_gap hgap []
    rw [List.append_nil] at hrest
    rw [hrest, tokens]
  | @cons token others gap written rest hgap htoken hothers ih =>
    rw [separated_cons_iff] at hseparated
    have hfirst : tokens (encode written ++ encode rest) = token :: tokens (encode rest) := by
      apply tokens_of_writesToken htoken
      intro hnumber
      exact endsNumber_of_writesTokens hothers (hseparated.1 hnumber)
    rw [encode_append, encode_append, List.append_assoc, tokens_gap hgap, hfirst,
      ih hseparated.2]

/-! ## The tokens of a value -/

/-- Tokens that can follow any value. -/
structure CanFollow (list : List Token) : Prop where
  separated : Separated list
  head : ∀ token ∈ list.head?, token.isNumber = false

/-- A token other than a number can stand before all tokens. -/
theorem canFollow_cons (token : Token) (h : token.isNumber = false) {list : List Token}
    (hlist : Separated list) : CanFollow (token :: list) where
  separated := by
    rw [separated_cons_iff]
    refine ⟨?_, hlist⟩
    intro hnumber
    rw [h] at hnumber
    cases hnumber
  head := by
    intro first hfirst
    obtain rfl := Option.some.inj hfirst
    exact h

mutual

/-- The tokens of a value are separated, if what follows can follow a value. -/
theorem separated_tokenList {rest : List Token} (h : CanFollow rest) :
    ∀ value : Json, Separated (value.tokenList ++ rest)
  | .null => (canFollow_cons .null rfl h.separated).separated
  | .bool b => (canFollow_cons (.bool b) rfl h.separated).separated
  | .number _ => separated_cons_iff.mpr ⟨fun _ => h.head, h.separated⟩
  | .string s => (canFollow_cons (.string ⟨.ok s, none⟩) rfl h.separated).separated
  | .array items => by
    have hclose := canFollow_cons .closeArray rfl h.separated
    have hitems := separated_itemTokens hclose items
    rw [tokenList, List.append_assoc, List.cons_append]
    exact (canFollow_cons .openArray rfl hitems).separated
  | .object members => by
    have hclose := canFollow_cons .closeObject rfl h.separated
    have hmembers := separated_memberTokens hclose members
    rw [tokenList, List.append_assoc, List.cons_append]
    exact (canFollow_cons .openObject rfl hmembers).separated

theorem separated_itemTokens {rest : List Token} (h : CanFollow rest) :
    ∀ items : List Json, Separated (itemTokens items ++ rest)
  | [] => h.separated
  | [item] => separated_tokenList h item
  | item :: next :: others => by
    have hothers := separated_itemTokens h (next :: others)
    rw [itemTokens, List.append_assoc, List.cons_append]
    exact separated_tokenList (canFollow_cons .comma rfl hothers) item

theorem separated_memberTokens {rest : List Token} (h : CanFollow rest) :
    ∀ members : List (String × Json), Separated (memberTokens members ++ rest)
  | [] => h.separated
  | [(name, value)] => by
    have hcolon := canFollow_cons .colon rfl (separated_tokenList h value)
    exact (canFollow_cons (.string ⟨.ok name, none⟩) rfl hcolon.separated).separated
  | (name, value) :: next :: others => by
    have hothers := separated_memberTokens h (next :: others)
    have hvalue := separated_tokenList (canFollow_cons .comma rfl hothers) value
    have hcolon := canFollow_cons .colon rfl hvalue
    simp only [memberTokens, List.cons_append, List.append_assoc]
    exact (canFollow_cons (.string ⟨.ok name, none⟩) rfl hcolon.separated).separated

end

/-! ## Putting tokens together -/

/-- An array goes on with its first item as with every other one. -/
theorem take_firstItem (frames : List Frame) {token : Token} (h : token ≠ .closeArray) :
    (ReaderState.firstItem frames).take token =
      (ReaderState.value (.items [] :: frames)).take token := by
  cases token with
  | closeArray => exact absurd rfl h
  | _ => rfl

/-- The tokens of a value start with one that ends no array. -/
theorem exists_tokenList_eq_cons (value : Json) :
    ∃ token rest, value.tokenList = token :: rest ∧ token ≠ .closeArray := by
  cases value with
  | null | bool _ | number _ | string _ | array _ | object _ => exact ⟨_, _, rfl, by simp⟩

/-- An array that has just been opened takes a value as every other place does. -/
theorem foldl_take_firstItem (frames : List Frame) (value : Json) (rest : List Token) :
    (value.tokenList ++ rest).foldl ReaderState.take (.firstItem frames) =
      (value.tokenList ++ rest).foldl ReaderState.take (.value (.items [] :: frames)) := by
  obtain ⟨token, others, htokens, hne⟩ := exists_tokenList_eq_cons value
  rw [htokens, List.cons_append, List.foldl_cons, List.foldl_cons, take_firstItem frames hne]

mutual

/-- The tokens of a value are put together to its tree. -/
theorem take_tokenList (frames : List Frame) (rest : List Token) : ∀ value : Json,
    (value.tokenList ++ rest).foldl ReaderState.take (.value frames) =
      rest.foldl ReaderState.take (.afterValue frames value.toNode)
  | .null => rfl
  | .bool _ => rfl
  | .number _ => rfl
  | .string _ => rfl
  | .array items => by
    have hitems := take_itemTokens frames rest [] items
    rw [tokenList, List.append_assoc, List.cons_append, List.foldl_cons]
    cases items with
    | nil => rfl
    | cons item items =>
      -- Only the first token of the first item is taken in a state of its own.
      have hvalue := hitems (List.cons_ne_nil item items)
      cases items with
      | nil =>
        rw [itemTokens] at hvalue ⊢
        exact (foldl_take_firstItem frames item _).trans hvalue
      | cons next items =>
        rw [itemTokens, List.append_assoc] at hvalue ⊢
        exact (foldl_take_firstItem frames item _).trans hvalue
  | .object members => by
    have hmembers := take_memberTokens frames rest [] members
    rw [tokenList, List.append_assoc, List.cons_append, List.foldl_cons]
    cases members with
    | nil => rfl
    | cons member members =>
      have hkey := hmembers (List.cons_ne_nil member members)
      cases members with
      | nil => exact hkey
      | cons next members => exact hkey

/-- Items that follow others in an array join them. -/
theorem take_itemTokens (frames : List Frame) (rest : List Token) (done : List Node) :
    ∀ items : List Json, items ≠ [] →
      (itemTokens items ++ .closeArray :: rest).foldl ReaderState.take
          (.value (.items done :: frames)) =
        rest.foldl ReaderState.take
          (.afterValue frames (.array (done.reverse ++ itemsToNodes items) none))
  | [], h => absurd rfl h
  | [item], _ => by
    rw [itemTokens, take_tokenList]
    simp [ReaderState.take, takeAfterValue, itemsToNodes]
  | item :: next :: items, _ => by
    have hnext := take_itemTokens frames rest (item.toNode :: done) (next :: items)
      (List.cons_ne_nil next items)
    rw [itemTokens, List.append_assoc, take_tokenList, List.cons_append, List.foldl_cons]
    simpa [ReaderState.take, takeAfterValue, itemsToNodes] using hnext

/-- Members that follow others in an object join them. -/
theorem take_memberTokens (frames : List Frame) (rest : List Token) (done : Members) :
    ∀ members : List (String × Json), members ≠ [] →
      (memberTokens members ++ .closeObject :: rest).foldl ReaderState.take
          (.nextKey frames done) =
        rest.foldl ReaderState.take
          (.afterValue frames (.object (done.reverse ++ membersToNodes members) none))
  | [], h => absurd rfl h
  | [(name, value)], _ => by
    have hvalue := take_tokenList (.members done ⟨.ok name, none⟩ :: frames)
      (.closeObject :: rest) value
    rw [memberTokens]
    simpa [ReaderState.take, takeKey, takeAfterValue, membersToNodes] using hvalue
  | (name, value) :: next :: members, _ => by
    have hvalue := take_tokenList (.members done ⟨.ok name, none⟩ :: frames)
      (.comma :: (memberTokens (next :: members) ++ .closeObject :: rest)) value
    have hnext := take_memberTokens frames rest ((⟨.ok name, none⟩, value.toNode) :: done)
      (next :: members) (List.cons_ne_nil next members)
    rw [memberTokens]
    simpa [ReaderState.take, takeKey, takeAfterValue, membersToNodes] using hvalue.trans hnext

end

/-- A text that writes a value is read as its tree. -/
theorem readBytes_of_writes {value : Json} {text : String} (h : value.Writes text) :
    readBytes (utf8Bytes text) = ⟨value.toNode, none⟩ := by
  have hseparated : Separated value.tokenList := by
    have hnil : CanFollow [] := ⟨by simp [Separated], by simp⟩
    simpa using separated_tokenList hnil value
  have htake := take_tokenList [] [] value
  rw [List.append_nil] at htake
  rw [readBytes, utf8Bytes_eq_encode, tokens_of_writesTokens h hseparated, htake]
  rfl

/-! ## Printed texts -/

/-- Tokens may be written one list after the other. -/
theorem WritesTokens.append {first second : List Token} {start rest : List Char}
    (hfirst : WritesTokens first start) (hsecond : WritesTokens second rest) :
    WritesTokens (first ++ second) (start ++ rest) := by
  induction hfirst with
  | @nil gap hgap =>
    cases hsecond with
    | nil hrest => exact .nil (List.forall_mem_append.mpr ⟨hgap, hrest⟩)
    | cons hnext htoken htokens =>
      rw [← List.append_assoc, ← List.append_assoc]
      exact .cons (List.forall_mem_append.mpr ⟨hgap, hnext⟩) htoken htokens
  | cons hgap htoken _ ih =>
    rw [List.append_assoc]
    exact .cons hgap htoken ih

theorem WritesToken.alone {token : Token} {written : List Char} (h : WritesToken token written) :
    WritesTokens [token] written := by
  have hcons := WritesTokens.cons (List.forall_mem_nil _) h (.nil (List.forall_mem_nil _))
  rwa [List.nil_append, List.append_nil] at hcons

theorem writesTokens_fixed (token : Token) {text : String} (h : token.fixedText? = some text) :
    WritesTokens [token] text.toList :=
  (WritesToken.fixed h).alone

/-- The control characters have their hexadecimal digits. -/
theorem writesUnit_of_lt {n : Nat} (h : n < 0x20) :
    WritesUnit n ['0', '0', hexDigit (n / 16), hexDigit (n % 16)] := by
  have hdigits : ∀ m < 0x20, m / 4096 = 0 ∧ m / 256 % 16 = 0 ∧
      hexDigit (m / 16) = Nat.digitChar (m / 16 % 16) ∧
      hexDigit (m % 16) = Nat.digitChar (m % 16) := by
    decide
  obtain ⟨hfirst, hsecond, hthird, hfourth⟩ := hdigits n h
  refine .digits (by omega) ?_ ?_ (.inl hthird) (.inl hfourth)
  · rw [hfirst]
    exact .inl rfl
  · rw [hsecond]
    exact .inl rfl

theorem writesChar_escapeChar (c : Char) : WritesChar c (escapeChar c) := by
  unfold escapeChar
  split_ifs with hquote hslash hfeed hreturn htab hcontrol
  · exact .short (by subst hquote; decide)
  · exact .short (by subst hslash; decide)
  · exact .short (by subst hfeed; decide)
  · exact .short (by subst hreturn; decide)
  · exact .short (by subst htab; decide)
  · exact .unit (writesUnit_of_lt hcontrol)
  · exact .plain (by omega) hquote hslash

theorem writesChars_flatMap_escapeChar (cs : List Char) :
    WritesChars cs (cs.flatMap escapeChar) := by
  induction cs with
  | nil => exact .nil
  | cons c cs ih => exact .cons (writesChar_escapeChar c) ih

theorem writesToken_quote (s : String) : WritesToken (.string ⟨.ok s, none⟩) (quote s).toList := by
  have hquote : (quote s).toList = '"' :: s.toList.flatMap escapeChar ++ ['"'] := by
    simp [quote]
  rw [hquote]
  exact .string (writesChars_flatMap_escapeChar s.toList)

theorem writesToken_render {n : Nat} (h : n ≤ maxCoordinate) :
    WritesToken (.number ⟨.ok (.integer n), none⟩) (Number.render (.integer n)).toList := by
  have hdigits : (Number.render (.integer n)).toList = Nat.toDigits 10 n := by
    change (Nat.repr n).toList = _
    exact Nat.toList_repr
  rw [hdigits]
  exact .number h

mutual

/-- All numbers in a value can be coordinates. -/
def HasCoordinates : Json → Prop
  | .number n => ∃ k ≤ maxCoordinate, n = .integer (k : Nat)
  | .array items => ItemsHaveCoordinates items
  | .object members => MembersHaveCoordinates members
  | .null | .bool _ | .string _ => True

def ItemsHaveCoordinates : List Json → Prop
  | [] => True
  | item :: rest => item.HasCoordinates ∧ ItemsHaveCoordinates rest

def MembersHaveCoordinates : List (String × Json) → Prop
  | [] => True
  | (_, value) :: rest => value.HasCoordinates ∧ MembersHaveCoordinates rest

end

mutual

/-- The tokens of a value are written by the text that it is printed as. -/
theorem writesTokens_render : ∀ value : Json, value.HasCoordinates →
    WritesTokens value.tokenList value.render.toList
  | .null, _ => writesTokens_fixed .null rfl
  | .bool true, _ => writesTokens_fixed (.bool true) rfl
  | .bool false, _ => writesTokens_fixed (.bool false) rfl
  | .number n, h => by
    obtain ⟨k, hk, rfl⟩ := h
    exact (writesToken_render hk).alone
  | .string s, _ => (writesToken_quote s).alone
  | .array items, h => by
    have hitems := writesTokens_renderItems items h
    rw [render, String.toList_append, String.toList_append]
    exact ((writesTokens_fixed .openArray rfl).append hitems).append
      (writesTokens_fixed .closeArray rfl)
  | .object members, h => by
    have hmembers := writesTokens_renderMembers members h
    rw [render, String.toList_append, String.toList_append]
    exact ((writesTokens_fixed .openObject rfl).append hmembers).append
      (writesTokens_fixed .closeObject rfl)

theorem writesTokens_renderItems : ∀ items : List Json, ItemsHaveCoordinates items →
    WritesTokens (itemTokens items) (renderItems items).toList
  | [], _ => .nil (List.forall_mem_nil _)
  | [item], h => writesTokens_render item h.1
  | item :: next :: rest, h => by
    have hitem := writesTokens_render item h.1
    have hrest := writesTokens_renderItems (next :: rest) h.2
    rw [renderItems, String.toList_append, String.toList_append, List.append_assoc]
    exact hitem.append ((writesTokens_fixed .comma rfl).append hrest)

theorem writesTokens_renderMembers : ∀ members : List (String × Json),
    MembersHaveCoordinates members →
      WritesTokens (memberTokens members) (renderMembers members).toList
  | [], _ => .nil (List.forall_mem_nil _)
  | [(name, value)], h => by
    have hvalue := writesTokens_render value h.1
    rw [renderMembers, String.toList_append, String.toList_append, List.append_assoc]
    exact (writesToken_quote name).alone.append ((writesTokens_fixed .colon rfl).append hvalue)
  | (name, value) :: next :: rest, h => by
    have hvalue := writesTokens_render value h.1
    have hrest := writesTokens_renderMembers (next :: rest) h.2
    simp only [renderMembers, String.toList_append, List.append_assoc]
    have hothers := hvalue.append ((writesTokens_fixed .comma rfl).append hrest)
    exact (writesToken_quote name).alone.append ((writesTokens_fixed .colon rfl).append hothers)

end

/-- A value is written by the text that it is printed as. -/
theorem writes_render {value : Json} (h : value.HasCoordinates) : value.Writes value.render :=
  writesTokens_render value h

end GrammarServer.Json
