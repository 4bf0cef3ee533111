import GrammarServer.Proofs.BraceBalance
import GrammarServer.Proofs.CommentBlocks
import GrammarServer.Proofs.RuleTiling
import GrammarServer.Proofs.StableSort

/-!
# All folds of a text

The folds of rules, comments, code sections and action blocks are found one kind after the other
and then sorted.  Each of them spans at least two lines of the text, whatever the locations of
the engine are like inside it: a next rule above, on the same line or without a location, a
location on line 0, a text without lines.  The sort loses nothing, and without a grammar the
folds of rules are missing and nothing else.

Main results:

- Theorem `isWithin_of_mem_ruleFolds`, Theorem `isWithin_of_mem_blockFoldsFrom` and Theorem
  `isWithin_of_mem_actionFolds`: folds stay inside the text.
- Theorem `folds_are_merged`: what the sorted list of all folds holds.
-/

namespace GrammarServer

open Text

/-! ## Folds inside the text -/

/-- A fold spans several lines, and the last of them is one of the text. -/
def Fold.IsWithin (fold : Fold) (lineCount : Nat) : Prop :=
  fold.startLine < fold.endLine ∧ fold.endLine < lineCount

section Within

variable {lineCount : Nat} {rules : List Rule} {folds : List Fold} {fold : Fold}

/-- Rules in a text that leaves room below its last line. -/
structure RulesWithin (rules : List Rule) (lineCount : Nat) : Prop where
  room : lineCount < 4294967286
  within : ∀ rule ∈ rules, ∀ location ∈ rule.location, location.line ≤ lineCount

theorem RulesWithin.not_spanOverflows (h : RulesWithin rules lineCount) :
    ¬ SpanOverflows rules := by
  rintro ⟨front, rule, after, location, rfl, hlocation, _, _, hoverflows⟩
  have hwithin := h.within rule (by simp) location hlocation
  have hroom := h.room
  simp only [maxCoordinate, lastRuleSpan] at hoverflows
  omega

/-- A fold of a rule ends above the next rule or inside the text. -/
theorem isWithin_of_mem_ruleFolds (h : RulesWithin rules lineCount)
    (hfolds : ruleFolds lineCount rules = .ok folds) (hmem : fold ∈ folds) :
    fold.IsWithin lineCount := by
  obtain ⟨index, rule, _, hfold⟩ := (mem_ruleFolds_iff hfolds).mp hmem
  refine ⟨hfold.lt, ?_⟩
  have hlt := hfold.lt
  have hstop := hfold.stop
  cases hnext : rules[index + 1]?.bind (·.location) with
  | some next =>
    obtain ⟨below, hbelow, hlocation⟩ := Option.bind_eq_some_iff.mp hnext
    have hwithin := h.within below (List.mem_of_getElem? hbelow) next hlocation
    rw [hnext] at hfold
    have hend := hfold.endLine_eq
    omega
  | none =>
    rw [hnext] at hstop
    obtain ⟨below, _, hend⟩ := bind_eq_ok_iff.mp hstop
    have hmin := Except.ok.inj hend
    have hlast : lastLine lineCount ≤ lineCount - 1 := Nat.mod_le _ _
    omega

/-- A block of lines ends inside the text. -/
theorem isWithin_of_mem_blockFoldsFrom {opens closes : Line → Bool} {kind : FoldKind}
    {lines : List Line} (hmem : fold ∈ blockFoldsFrom opens closes kind 0 none lines) :
    fold.IsWithin lines.length := by
  obtain ⟨_, hlt, _, hend⟩ := blockFoldsFrom_bounds (by simp) hmem
  exact ⟨hlt, by omega⟩

/-- An action block ends inside the text. -/
theorem isWithin_of_mem_actionFolds {lines : List Line} (hfew : lines.length ≤ maxCoordinate + 1)
    (hfolds : actionFolds lines = .ok folds) (hmem : fold ∈ folds) :
    fold.IsWithin lines.length :=
  ((mem_actionFolds_iff_of_le hfew hfolds).mp hmem).1.bounds

end Within

/-! ## Sorting -/

theorem Fold.le_iff {first second : Fold} :
    first.le second = true ↔ first.startLine < second.startLine ∨
      first.startLine = second.startLine ∧ first.endLine ≤ second.endLine := by
  simp [Fold.le]

theorem Fold.le_trans (first second third : Fold) (h : first.le second = true)
    (h' : second.le third = true) : first.le third = true := by
  rw [Fold.le_iff] at h h' ⊢
  omega

theorem Fold.le_total (first second : Fold) : (first.le second || second.le first) = true := by
  rw [Bool.or_eq_true, Fold.le_iff, Fold.le_iff]
  omega

/-- The folds of the rules of a grammar, if there is one. -/
def grammarFolds (lineCount : Nat) : Option Grammar → Except Crash (List Fold)
  | none => .ok []
  | some grammar => ruleFolds lineCount grammar.rules

/-- The folds that are found without a grammar. -/
def textFolds (lines : List Line) (actions : List Fold) : List Fold :=
  commentFolds lines ++ codeFolds lines ++ actions

/-- All folds are sorted together. -/
theorem foldsOf_eq {text : String} {grammar : Option Grammar} {rules actions : List Fold}
    (hrules : grammarFolds (lines text).length grammar = .ok rules)
    (hactions : actionFolds (lines text) = .ok actions) :
    foldsOf text grammar =
      .ok ((rules ++ textFolds (lines text) actions).mergeSort Fold.le) := by
  cases grammar with
  | none =>
    obtain rfl := Except.ok.inj hrules
    simp only [foldsOf, hactions, textFolds, bind, Except.bind, pure, Except.pure, List.nil_append]
  | some grammar =>
    rw [grammarFolds] at hrules
    simp only [foldsOf, hrules, hactions, textFolds, bind, Except.bind, pure, Except.pure,
      List.append_assoc]

/-- Rules inside the text have folds inside the text. -/
theorem exists_grammarFolds {lineCount : Nat} {grammar : Option Grammar}
    (h : ∀ present ∈ grammar, RulesWithin present.rules lineCount) :
    ∃ rules, grammarFolds lineCount grammar = .ok rules ∧
      ∀ fold ∈ rules, fold.IsWithin lineCount := by
  cases grammar with
  | none => exact ⟨[], rfl, by simp⟩
  | some present =>
    have hplaced := h present rfl
    obtain ⟨rules, hrules⟩ :=
      (overflowsExactly_ruleFolds lineCount present.rules).exists_ok hplaced.not_spanOverflows
    exact ⟨rules, hrules, fun fold => isWithin_of_mem_ruleFolds hplaced hrules⟩

theorem isWithin_of_mem_textFolds {lines : List Line} {actions : List Fold}
    (hfew : lines.length ≤ maxCoordinate + 1) (hactions : actionFolds lines = .ok actions)
    {fold : Fold}
    (hmem : fold ∈ textFolds lines actions) : fold.IsWithin lines.length := by
  rw [textFolds, List.mem_append, List.mem_append] at hmem
  rcases hmem with (hcomment | hcode) | haction
  · rw [commentFolds_eq hfew] at hcomment
    exact isWithin_of_mem_blockFoldsFrom hcomment
  · rw [codeFolds_eq hfew] at hcode
    exact isWithin_of_mem_blockFoldsFrom hcode
  · exact isWithin_of_mem_actionFolds hfew hactions haction

/-- The folds of a text that leaves room for the rules of its grammar come out, sorted by their
first and then by their last lines.  They are the folds of the four kinds, each as often as it
is found, and each spans several lines of the text.  Without the grammar exactly the folds of
rules are missing.  The folds of comments are disjoint, and so are those of code sections. -/
theorem folds_are_merged (text : String) (grammar : Option Grammar)
    (hroom : (lines text).length < 4294967286)
    (hwithin : ∀ present ∈ grammar, ∀ rule ∈ present.rules, ∀ location ∈ rule.location,
      location.line ≤ (lines text).length) :
    ∃ folds rules actions bare, foldsOf text grammar = .ok folds ∧
      grammarFolds (lines text).length grammar = .ok rules ∧
      actionFolds (lines text) = .ok actions ∧ foldsOf text none = .ok bare ∧
      folds.Pairwise (fun first second => first.startLine < second.startLine ∨
        first.startLine = second.startLine ∧ first.endLine ≤ second.endLine) ∧
      folds.Perm (rules ++ commentFolds (lines text) ++ codeFolds (lines text) ++ actions) ∧
      (∀ fold ∈ folds,
        fold.startLine < fold.endLine ∧ fold.endLine < (lines text).length) ∧
      bare.Sublist folds ∧ folds.Perm (rules ++ bare) ∧
      (commentFolds (lines text)).Pairwise
        (fun upper lower => upper.endLine < lower.startLine) ∧
      (codeFolds (lines text)).Pairwise fun upper lower => upper.endLine < lower.startLine := by
  obtain ⟨actions, hactions⟩ := exists_actionFolds (lines text)
  obtain ⟨rules, hrules, hplaced⟩ :=
    exists_grammarFolds fun present hpresent => ⟨hroom, hwithin present hpresent⟩
  have hfew : (lines text).length ≤ maxCoordinate + 1 := by
    simp only [maxCoordinate]
    omega
  have hall := List.mergeSort_perm (rules ++ textFolds (lines text) actions) Fold.le
  have hbare := List.mergeSort_perm (textFolds (lines text) actions) Fold.le
  refine ⟨_, rules, actions, _, foldsOf_eq hrules hactions, hrules, hactions,
    foldsOf_eq rfl hactions, ?_, ?_, ?_, ?_, ?_, ?_, ?_⟩
  · refine (List.pairwise_mergeSort Fold.le_trans Fold.le_total _).imp ?_
    exact fun hle => Fold.le_iff.mp hle
  · simpa only [textFolds, List.append_assoc] using hall
  · intro fold hmem
    rcases List.mem_append.mp (hall.mem_iff.mp hmem) with hrule | htext
    · exact hplaced fold hrule
    · exact isWithin_of_mem_textFolds hfew hactions htext
  · exact mergeSort_sublist_append Fold.le_trans Fold.le_total rules _
  · exact hall.trans (hbare.symm.append_left rules)
  · rw [commentFolds_eq hfew]
    exact pairwise_blockFoldsFrom
  · rw [codeFolds_eq hfew]
    exact pairwise_blockFoldsFrom

/-- A code section, a rule with two alternatives and the action of the first one. -/
def layeredText : String :=
  "%\x7b\n%\x7d\ns: A \x7b\n\x7d\n | B\n ;\n"

/-- The grammar of this text. -/
def layeredGrammar : Grammar where
  rules := [{ name := "s", location := some ⟨3, 1⟩, alternatives := [{}, {}] }]

/-- The code section folds twice, as a section and as a block, and the rule around its action. -/
theorem layeredText_merged :
    (lines layeredText).length = 6 ∧
      ∃ folds, foldsOf layeredText (some layeredGrammar) = .ok folds ∧
        folds.Perm [⟨2, 5, .region⟩, ⟨0, 1, .region⟩, ⟨0, 1, .region⟩, ⟨2, 3, .region⟩] ∧
        ∀ fold ∈ folds, fold.startLine < fold.endLine ∧ fold.endLine < 6 := by
  have hcount : (lines layeredText).length = 6 := by decide
  obtain ⟨folds, rules, actions, _, hfolds, hrules, hactions, _, _, hperm, hplaced, _⟩ :=
    folds_are_merged layeredText (some layeredGrammar) (by rw [hcount]; decide)
      (by rw [hcount]; simp [layeredGrammar])
  have hrule : grammarFolds (lines layeredText).length (some layeredGrammar) =
      .ok [⟨2, 5, .region⟩] := by decide
  have haction : actionFolds (lines layeredText) = .ok [⟨0, 1, .region⟩, ⟨2, 3, .region⟩] := by
    decide
  obtain rfl := Except.ok.inj (hrules.symm.trans hrule)
  obtain rfl := Except.ok.inj (hactions.symm.trans haction)
  have hcomment : commentFolds (lines layeredText) = [] := by decide
  have hcode : codeFolds (lines layeredText) = [⟨0, 1, .region⟩] := by decide
  rw [hcomment, hcode] at hperm
  rw [hcount] at hplaced
  exact ⟨hcount, folds, hfolds, hperm, hplaced⟩

end GrammarServer
