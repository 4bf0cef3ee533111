import GrammarServer.Text.Line
import Mathlib.Data.List.Basic

/-!
# Cuts into lines

Not every list of raw lines is the cut of a text: a content holds no line feed, a line
that ends with a line feed alone does not end with a carriage return, and a line without
an ending is the last one and not empty.  These are the only conditions.

Main results:

- Theorem `isCut_rawLines`: the raw lines of a text meet the conditions.
- Theorem `rawLines_flatMap_chars`: raw lines that meet the conditions are the raw lines of
  their text.
- Definition `numberedText`: lines read on end, with the number of the line of each character.
-/

namespace GrammarServer.Text

/-- A line that can stand before other lines of a text or at its end. -/
structure RawLine.IsProper (line : RawLine) : Prop where
  no_feed : '\n' ∉ line.content
  no_return : line.ending = .lineFeed → line.content.getLast? ≠ some '\r'
  not_empty : line.ending = .endOfText → line.content ≠ []

/-- Raw lines into which a text can be cut. -/
structure IsCut (list : List RawLine) : Prop where
  proper : ∀ line ∈ list, line.IsProper
  ended : (list.map (·.ending)).Pairwise fun ending _ => ending ≠ .endOfText

theorem isCut_nil : IsCut [] :=
  ⟨fun _ h => absurd h List.not_mem_nil, List.Pairwise.nil⟩

theorem isCut_cons_iff {line : RawLine} {rest : List RawLine} :
    IsCut (line :: rest) ↔
      line.IsProper ∧ (line.ending = .endOfText → rest = []) ∧ IsCut rest := by
  constructor
  · rintro ⟨hproper, hended⟩
    rw [List.map_cons, List.pairwise_cons] at hended
    rw [List.forall_mem_cons] at hproper
    refine ⟨hproper.1, ?_, hproper.2, hended.2⟩
    intro hending
    cases rest with
    | nil => rfl
    | cons next others => exact absurd hending (hended.1 next.ending List.mem_cons_self)
  · rintro ⟨hproper, hlast, hrest⟩
    refine ⟨List.forall_mem_cons.mpr ⟨hproper, hrest.proper⟩, ?_⟩
    rw [List.map_cons, List.pairwise_cons]
    refine ⟨?_, hrest.ended⟩
    intro ending hmem hending
    rw [hlast hending] at hmem
    cases hmem

/-! ## Cutting at the first character -/

/-- A character that starts no ending belongs to the first line. -/
theorem rawLines_cons {c : Char} {rest : List Char} (hfeed : c ≠ '\n')
    (hreturn : c = '\r' → rest.head? ≠ some '\n') :
    rawLines (c :: rest) =
      match rawLines rest with
      | [] => [⟨[c], .endOfText⟩]
      | line :: others => { line with content := c :: line.content } :: others := by
  rw [rawLines.eq_def]
  split
  case h_1 heq => cases heq
  case h_2 heq => exact absurd (List.cons.inj heq).1 hfeed
  case h_3 rest' heq =>
    rcases List.cons.inj heq with ⟨hc, hrest⟩
    refine absurd ?_ (hreturn hc)
    rw [hrest, List.head?_cons]
  case h_4 c' rest' _ _ heq =>
    rcases List.cons.inj heq with ⟨rfl, rfl⟩
    rfl

/-- The raw lines of a text meet the conditions. -/
theorem isCut_rawLines (cs : List Char) : IsCut (rawLines cs) := by
  fun_induction rawLines cs with
  | case1 => exact isCut_nil
  | case2 rest ih =>
    exact isCut_cons_iff.mpr ⟨⟨by simp, by simp, by simp⟩, by simp, ih⟩
  | case3 rest ih =>
    exact isCut_cons_iff.mpr ⟨⟨by simp, by simp, by simp⟩, by simp, ih⟩
  | case4 c rest hfeed _ _ ih =>
    exact isCut_cons_iff.mpr
      ⟨⟨by simpa [eq_comm] using hfeed, by simp, by simp⟩, by simp, isCut_nil⟩
  | case5 c rest hfeed hreturn line others hrest ih =>
    rw [hrest] at ih
    rcases isCut_cons_iff.mp ih with ⟨hproper, hlast, hothers⟩
    refine isCut_cons_iff.mpr ⟨⟨?_, ?_, ?_⟩, hlast, hothers⟩
    · simp only [List.mem_cons, not_or]
      exact ⟨fun h => hfeed h.symm, hproper.no_feed⟩
    · intro hending
      cases hcontent : line.content with
      | nil =>
        -- The text after `c` starts with a line feed, so `c` is no carriage return.
        have hjoined := flatMap_chars_rawLines rest
        rw [hrest, List.flatMap_cons, RawLine.chars, hcontent, hending, LineEnd.chars,
          List.nil_append, List.singleton_append] at hjoined
        intro hlast
        exact hreturn _ (Option.some.inj hlast) hjoined.symm
      | cons d content =>
        rw [List.getLast?_cons_cons, ← hcontent]
        exact hproper.no_return hending
    · intro _
      exact List.cons_ne_nil c line.content

/-! ## Joining and cutting again -/

/-- A line that is not the last one is cut off from what follows it. -/
theorem rawLines_append {content : Line} {ending : LineEnd} (rest : List Char)
    (hproper : (RawLine.mk content ending).IsProper) (hending : ending ≠ .endOfText) :
    rawLines (content ++ (ending.chars ++ rest)) = ⟨content, ending⟩ :: rawLines rest := by
  induction content with
  | nil =>
    cases ending with
    | lineFeed => rw [LineEnd.chars, List.nil_append, List.singleton_append, rawLines]
    | returnFeed =>
      rw [LineEnd.chars, List.nil_append, List.cons_append, List.singleton_append, rawLines]
    | endOfText => exact absurd rfl hending
  | cons c content ih =>
    have hfeed : c ≠ '\n' := fun h => hproper.no_feed (h ▸ List.mem_cons_self)
    have htail : (RawLine.mk content ending).IsProper := by
      refine ⟨fun h => hproper.no_feed (List.mem_cons_of_mem c h), ?_, fun h => absurd h hending⟩
      intro hfeeds hlast
      exact hproper.no_return hfeeds (by simp only [List.getLast?_cons, hlast, Option.getD_some])
    have hreturn : c = '\r' → (content ++ (ending.chars ++ rest)).head? ≠ some '\n' := by
      rintro rfl hhead
      cases content with
      | nil =>
        cases ending with
        | lineFeed => exact hproper.no_return rfl rfl
        | returnFeed => cases hhead
        | endOfText => exact hending rfl
      | cons d content =>
        obtain rfl := Option.some.inj hhead
        exact htail.no_feed List.mem_cons_self
    rw [List.cons_append, rawLines_cons hfeed hreturn, ih htail]

/-- A text without a line feed is one line. -/
theorem rawLines_of_no_feed {content : Line} (hne : content ≠ []) (hfeed : '\n' ∉ content) :
    rawLines content = [⟨content, .endOfText⟩] := by
  induction content with
  | nil => exact absurd rfl hne
  | cons c content ih =>
    have hc : c ≠ '\n' := fun h => hfeed (h ▸ List.mem_cons_self)
    have htail : '\n' ∉ content := fun h => hfeed (List.mem_cons_of_mem c h)
    rw [rawLines_cons hc (fun _ hhead => htail (List.mem_of_mem_head? hhead))]
    cases content with
    | nil => rw [rawLines_nil]
    | cons d content => rw [ih (List.cons_ne_nil d content) htail]

/-- Raw lines that meet the conditions are the raw lines of their text. -/
theorem rawLines_flatMap_chars {list : List RawLine} (h : IsCut list) :
    rawLines (list.flatMap RawLine.chars) = list := by
  induction list with
  | nil => rfl
  | cons line rest ih =>
    rcases isCut_cons_iff.mp h with ⟨hproper, hlast, hrest⟩
    rw [List.flatMap_cons, RawLine.chars, List.append_assoc]
    by_cases hending : line.ending = .endOfText
    · rw [hlast hending, hending, LineEnd.chars, List.flatMap_nil, List.append_nil,
        List.append_nil, rawLines_of_no_feed (hproper.not_empty hending) hproper.no_feed, ← hending]
    · rw [rawLines_append _ hproper hending, ih hrest]

/-! ## Lines read on end -/

/-- The characters of some lines, each with the number of its line.  A line feed ends every
line, and the first one is line `number`. -/
def numberedText (number : Nat) : List Line → List (Char × Nat)
  | [] => []
  | line :: rest => (line ++ ['\n']).map (·, number) ++ numberedText (number + 1) rest

/-- Line numbers start with that of the first line. -/
theorem le_of_mem_numberedText {index : Nat} {lines : List Line} {place : Char × Nat}
    (h : place ∈ numberedText index lines) : index ≤ place.2 := by
  induction lines generalizing index with
  | nil => cases h
  | cons line rest ih =>
    rw [numberedText, List.mem_append, List.mem_map] at h
    rcases h with ⟨c, _, rfl⟩ | h
    · exact Nat.le_refl index
    · exact Nat.le_of_succ_le (ih h)

end GrammarServer.Text
