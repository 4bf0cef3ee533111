import GrammarServer.Proofs.Lexing
import GrammarServer.Proofs.StableSort

/-!
# Relative positions stand for tokens in order

For transport tokens are sorted by line and column, and each is given relative to the one
before it.  The sort is what makes every difference possible; decoding gives back the sorted
tokens, with those of one place in their old order.  The tokens of a bounded text are in order as
they are found, so that the sort moves none of them.

Main results:

- Theorem `pairwise_le_tokensByLine`: the tokens of a bounded text are found in order.
- Theorem `decoding_undoes_encoding`: decoding gives the tokens back in order.
-/

namespace GrammarServer

open Text

/-! ## The order of tokens -/

theorem HighlightToken.le_trans (first second third : HighlightToken)
    (h : first.le second = true) (h' : second.le third = true) : first.le third = true := by
  rw [HighlightToken.le_iff] at h h' ⊢
  omega

theorem HighlightToken.le_total (first second : HighlightToken) :
    (first.le second || second.le first) = true := by
  rw [Bool.or_eq_true, HighlightToken.le_iff, HighlightToken.le_iff]
  omega

/-! ## Tokens of a text -/

/-- The tokens of a line whose columns can be written are found in order. -/
theorem pairwise_start_lineTokens (names : DeclaredNames) (number : Nat) {line : Line}
    (hshort : line.length ≤ maxCoordinate) :
    (lineTokens names number line).Pairwise fun first second => first.start < second.start := by
  obtain ⟨stop, hpath⟩ := exists_scanPath names number line (Nat.zero_le line.length)
  rw [lineTokens_eq_scanLine names number hshort]
  exact hpath.increasing

theorem line_of_mem_lineTokens {names : DeclaredNames} {number : Nat} {line : Line}
    {token : HighlightToken} (h : token ∈ lineTokens names number line) :
    token.line = number := by
  obtain ⟨stop, hpath⟩ := exists_scanPath names number line (Nat.zero_le line.length)
  obtain ⟨found, hfound, rfl⟩ := List.mem_map.mp h
  exact (hpath.of_mem hfound).1

section Bounded

variable {text : String} (hbounded : IsBounded text)
include hbounded

/-- The tokens of a bounded text are found in order, line by line. -/
theorem pairwise_le_tokensByLine (names : DeclaredNames) :
    (tokensByLine names text).Pairwise fun first second => first.le second = true := by
  rw [tokensByLine, List.pairwise_flatMap]
  constructor
  · rintro ⟨line, number⟩ hmem
    have hline := List.mem_of_getElem? (List.mem_zipIdx_iff_getElem?.mp hmem)
    refine (pairwise_start_lineTokens names number (hbounded.length_lt line hline).le).imp_of_mem
      ?_
    intro first second hfirst hsecond hlt
    rw [HighlightToken.le_iff, line_of_mem_lineTokens hfirst, line_of_mem_lineTokens hsecond]
    exact .inr ⟨rfl, hlt.le⟩
  · refine (pairwise_zipIdx (lines text)).imp ?_
    rintro ⟨line, number⟩ ⟨line', number'⟩ hlt first hfirst second hsecond
    rw [HighlightToken.le_iff, line_of_mem_lineTokens hfirst, line_of_mem_lineTokens hsecond]
    exact .inl hlt

end Bounded

/-- The decoded tokens of a document are those of its text, in the order in which they are
found. -/
theorem decodeDeltas_highlights {document : Document} {grammar : Grammar}
    (hbounded : IsBounded document.text) (h : document.grammar = some grammar) :
    decodeDeltas 0 0 document.highlights = tokensByLine grammar.declaredNames document.text := by
  rw [Document.highlights, h, decodeDeltas_encodeTokens, textTokens_eq_tokensByLine _ hbounded,
    List.mergeSort_of_pairwise (pairwise_le_tokensByLine hbounded _)]

/-! ## Encoding and decoding -/

/-- No difference falls below zero when tokens are encoded, in whatever order they are given,
and decoding gives the stable sort of the tokens.  For a document with a bounded text and a
grammar that is the list of the tokens of its lines, line after line; without a grammar there is
no token. -/
theorem decoding_undoes_encoding :
    (∀ tokens : List HighlightToken,
      deltasByIndex 0 0 (tokens.mergeSort HighlightToken.le) = .ok (encodeTokens tokens) ∧
        ∀ sorted, IsStableSort HighlightToken.le tokens sorted ↔
          sorted = decodeDeltas 0 0 (encodeTokens tokens)) ∧
      ∀ document : Document, IsBounded document.text →
        decodeDeltas 0 0 document.highlights =
          match document.grammar with
          | none => []
          | some grammar => (lines document.text).zipIdx.flatMap fun (line, number) =>
              lineTokens grammar.declaredNames number line := by
  constructor
  · intro tokens
    constructor
    · refine deltasByIndex_eq (pairwise_le_mergeSort tokens) fun token _ => ?_
      omega
    · intro sorted
      rw [decodeDeltas_encodeTokens]
      exact isStableSort_iff HighlightToken.le_trans HighlightToken.le_total
  · intro document hbounded
    cases hgrammar : document.grammar with
    | none => rw [Document.highlights, hgrammar, decodeDeltas]
    | some grammar => exact decodeDeltas_highlights hbounded hgrammar

-- Tokens of one place stay in their order.
example : decodeDeltas 0 0 (encodeTokens [⟨3, 7, 2, 9⟩, ⟨2, 5, 6, 15⟩, ⟨3, 7, 1, 8⟩]) =
    [⟨2, 5, 6, 15⟩, ⟨3, 7, 2, 9⟩, ⟨3, 7, 1, 8⟩] := by
  cbv

/-- The tokens of three lines, of which one has none, come back line after line. -/
theorem gluedDocument_decoded :
    IsBounded gluedDocument.text ∧ decodeDeltas 0 0 gluedDocument.highlights = gluedTokens := by
  have hbounded : IsBounded gluedDocument.text := by constructor <;> decide
  refine ⟨hbounded, (decoding_undoes_encoding.2 gluedDocument hbounded).trans ?_⟩
  decide +kernel

end GrammarServer
