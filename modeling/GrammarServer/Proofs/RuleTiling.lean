import GrammarServer.Proofs.CrashConditions

/-!
# Folds of rules tile their section

A rule with several alternatives folds from its own line to the line above the next rule.  If
the engine gives the rules in the order of their lines, the folds are disjoint and in order, and
each holds the first line of its own rule only.  Below the last rule the document ends the fold.
The number of its last line is a coordinate, so it is counted modulo the number of coordinates,
and a larger document can take away the fold of the last rule.

Main results:

- Theorem `mem_ruleFolds_iff`: which rules fold, and up to which line.
- Theorem `pairwise_ruleFolds`: folds of rules in order are disjoint and in order.
- Theorem `rule_folds_tile`: all of it, and when the document has room for the last fold.
- Theorem `not_forall_foldsWhereRoom`: a document that is too large for its coordinates.
-/

namespace GrammarServer

open Text

/-! ## The fold of one rule -/

/-- A rule folds, given the location of the rule after it. -/
structure Rule.FoldsTo (rule : Rule) (next : Option Location) (lineCount : Nat) (fold : Fold) :
    Prop where
  location : ∃ location, rule.location = some location ∧ fold.startLine = location.line - 1
  alternatives : 2 ≤ rule.alternatives.length
  stop : ruleFoldEnd fold.startLine lineCount next = .ok fold.endLine
  lt : fold.startLine < fold.endLine
  kind : fold.kind = .region

/-- A rule has at most one fold. -/
theorem Rule.FoldsTo.unique {rule : Rule} {next : Option Location} {lineCount : Nat}
    {first second : Fold} (h : rule.FoldsTo next lineCount first)
    (h' : rule.FoldsTo next lineCount second) : first = second := by
  obtain ⟨location, hlocation, hstart⟩ := h.location
  obtain ⟨location', hlocation', hstart'⟩ := h'.location
  obtain rfl := Option.some.inj (hlocation.symm.trans hlocation')
  have hstop := h.stop
  rw [hstart, ← hstart', h'.stop] at hstop
  rcases first with ⟨start, stop, kind⟩
  rcases second with ⟨start', stop', kind'⟩
  rw [Fold.mk.injEq]
  exact ⟨hstart.trans hstart'.symm, (Except.ok.inj hstop).symm, h.kind.trans h'.kind.symm⟩

section Rules

variable {lineCount : Nat} {rule : Rule} {rules rest : List Rule} {folds : List Fold}

/-- One rule adds its fold to those of the rules after it, or nothing. -/
theorem ruleFolds_cons (h : ruleFolds lineCount (rule :: rest) = .ok folds) :
    ∃ others, ruleFolds lineCount rest = .ok others ∧
      ((∃ fold, rule.FoldsTo (rest.head?.bind (·.location)) lineCount fold ∧
          folds = fold :: others) ∨
        (∀ fold, ¬ rule.FoldsTo (rest.head?.bind (·.location)) lineCount fold) ∧
          folds = others) := by
  rw [ruleFolds] at h
  cases hlocation : rule.location with
  | none =>
    rw [hlocation] at h
    refine ⟨folds, h, .inr ⟨fun fold hfold => ?_, rfl⟩⟩
    obtain ⟨location, hsome, _⟩ := hfold.location
    rw [hlocation] at hsome
    cases hsome
  | some location =>
    simp only [hlocation] at h
    by_cases hfew : rule.alternatives.length < 2
    · rw [if_pos hfew] at h
      exact ⟨folds, h, .inr ⟨fun fold hfold => absurd hfold.alternatives (by omega), rfl⟩⟩
    rw [if_neg hfew] at h
    obtain ⟨stop, hstop, hbelow⟩ := bind_eq_ok_iff.mp h
    obtain ⟨others, hothers, hfolds⟩ := bind_eq_ok_iff.mp hbelow
    have hfolds := (Except.ok.inj hfolds).symm
    refine ⟨others, hothers, ?_⟩
    by_cases hlt : location.line - 1 < stop
    · rw [if_pos hlt] at hfolds
      exact .inl ⟨_, ⟨⟨location, hlocation, rfl⟩, by omega, hstop, hlt, rfl⟩, hfolds⟩
    · rw [if_neg hlt] at hfolds
      refine .inr ⟨fun fold hfold => hlt ?_, hfolds⟩
      obtain ⟨location', hsome, hstart⟩ := hfold.location
      obtain rfl := Option.some.inj (hlocation.symm.trans hsome)
      have hsame := hfold.stop
      rw [hstart, hstop] at hsame
      rw [Except.ok.inj hsame, ← hstart]
      exact hfold.lt

/-- The folds of rules are those of the single rules. -/
theorem mem_ruleFolds_iff (h : ruleFolds lineCount rules = .ok folds) {fold : Fold} :
    fold ∈ folds ↔ ∃ (index : Nat) (rule : Rule), rules[index]? = some rule ∧
      rule.FoldsTo (rules[index + 1]?.bind (·.location)) lineCount fold := by
  induction rules generalizing folds with
  | nil =>
    obtain rfl := Except.ok.inj h
    simp
  | cons first rest ih =>
    obtain ⟨others, hothers, hfirst⟩ := ruleFolds_cons h
    rw [List.head?_eq_getElem?] at hfirst
    have hothers := ih hothers
    constructor
    · intro hmem
      rcases hfirst with ⟨own, hown, rfl⟩ | ⟨_, rfl⟩
      · rcases List.mem_cons.mp hmem with rfl | hmem
        · exact ⟨0, first, rfl, hown⟩
        · obtain ⟨index, rule, hrule⟩ := hothers.mp hmem
          exact ⟨index + 1, rule, hrule⟩
      · obtain ⟨index, rule, hrule⟩ := hothers.mp hmem
        exact ⟨index + 1, rule, hrule⟩
    · rintro ⟨index, rule, hrule, hfold⟩
      cases index with
      | zero =>
        obtain rfl := Option.some.inj hrule
        rcases hfirst with ⟨own, hown, rfl⟩ | ⟨hnone, _⟩
        · rw [hfold.unique hown]
          exact List.mem_cons_self
        · exact absurd hfold (hnone fold)
      | succ index =>
        have hmem := hothers.mpr ⟨index, rule, hrule, hfold⟩
        rcases hfirst with ⟨own, _, rfl⟩ | ⟨_, rfl⟩
        · exact List.mem_cons_of_mem own hmem
        · exact hmem

end Rules

/-! ## Rules in the order of their lines -/

/-- The line of a rule, counted from 1; 0 if the engine gives no location. -/
def Rule.line (rule : Rule) : Nat :=
  (rule.location.map (·.line)).getD 0

/-- Rules that all have a location, on lines that ascend and leave room for the lines below the
last of them. -/
structure InFileOrder (rules : List Rule) : Prop where
  located : ∀ rule ∈ rules, ∃ location, rule.location = some location ∧ 1 ≤ location.line
  ascending : rules.Pairwise fun upper lower => upper.line < lower.line
  room : ∀ rule ∈ rules.getLast?, rule.line ≤ 4294967286

section InOrder

variable {lineCount : Nat} {rules : List Rule} {folds : List Fold}

theorem Rule.line_eq {rule : Rule} {location : Location} (h : rule.location = some location) :
    rule.line = location.line := by
  rw [Rule.line, h]
  rfl

/-- A fold starts on the line of its rule. -/
theorem Rule.FoldsTo.startLine_eq {rule : Rule} {next : Option Location} {fold : Fold}
    (h : rule.FoldsTo next lineCount fold) : fold.startLine = rule.line - 1 := by
  obtain ⟨location, hlocation, hstart⟩ := h.location
  rw [hstart, Rule.line_eq hlocation]

/-- A fold ends on the line above the next rule. -/
theorem Rule.FoldsTo.endLine_eq {rule : Rule} {next : Location} {fold : Fold}
    (h : rule.FoldsTo (some next) lineCount fold) : fold.endLine + 2 = next.line := by
  have hstop : next.line - 1 - 1 = fold.endLine := Except.ok.inj h.stop
  have hlt := h.lt
  omega

/-- A rule that stands later in the list stands on a later line. -/
theorem line_lt_of_lt (hascending : rules.Pairwise fun upper lower => upper.line < lower.line)
    {index below : Nat} {upper lower : Rule} (hupper : rules[index]? = some upper)
    (hlower : rules[below]? = some lower) (hlt : index < below) : upper.line < lower.line := by
  obtain ⟨hindex, rfl⟩ := List.getElem?_eq_some_iff.mp hupper
  obtain ⟨hbelow, rfl⟩ := List.getElem?_eq_some_iff.mp hlower
  exact List.pairwise_iff_getElem.mp hascending index below hindex hbelow hlt

/-- A fold ends above all rules after its own. -/
theorem Rule.FoldsTo.endLine_lt
    (hlocated : ∀ rule ∈ rules, ∃ location, rule.location = some location ∧ 1 ≤ location.line)
    (hascending : rules.Pairwise fun upper lower => upper.line < lower.line) {index below : Nat}
    {rule lower : Rule} {fold : Fold}
    (h : rule.FoldsTo (rules[index + 1]?.bind (·.location)) lineCount fold)
    (hlower : rules[below]? = some lower) (hlt : index < below) :
    fold.endLine + 2 ≤ lower.line := by
  have hbelow := (List.getElem?_eq_some_iff.mp hlower).1
  have hnext : rules[index + 1]? = some (rules[index + 1]) :=
    List.getElem?_eq_getElem (by omega)
  obtain ⟨location, hlocation, _⟩ := hlocated _ (List.mem_of_getElem? hnext)
  rw [hnext, Option.bind_some, hlocation] at h
  rw [h.endLine_eq, ← Rule.line_eq hlocation]
  by_cases hsame : index + 1 = below
  · subst hsame
    rw [Option.some.inj (hnext.symm.trans hlower)]
  · exact (line_lt_of_lt hascending hnext hlower (by omega)).le

/-- Folds of rules in order are disjoint and in order. -/
theorem pairwise_ruleFolds
    (hlocated : ∀ rule ∈ rules, ∃ location, rule.location = some location ∧ 1 ≤ location.line)
    (hascending : rules.Pairwise fun upper lower => upper.line < lower.line)
    (h : ruleFolds lineCount rules = .ok folds) :
    folds.Pairwise fun upper lower => upper.endLine < lower.startLine := by
  induction rules generalizing folds with
  | nil =>
    obtain rfl := Except.ok.inj h
    exact List.Pairwise.nil
  | cons first rest ih =>
    obtain ⟨others, hothers, hfirst⟩ := ruleFolds_cons h
    have hrest := ih (fun rule hrule => hlocated rule (List.mem_cons_of_mem first hrule))
      hascending.of_cons hothers
    rcases hfirst with ⟨fold, hfold, rfl⟩ | ⟨_, rfl⟩
    · refine List.pairwise_cons.mpr ⟨?_, hrest⟩
      intro lower hlower
      obtain ⟨index, rule, hrule, hbelow⟩ := (mem_ruleFolds_iff hothers).mp hlower
      have hnext : (first :: rest)[0 + 1]? = rest.head? := List.head?_eq_getElem?.symm
      rw [← hnext] at hfold
      have hend := hfold.endLine_lt hlocated hascending
        (show (first :: rest)[index + 1]? = some rule from hrule) (Nat.succ_pos index)
      rw [hbelow.startLine_eq]
      omega
    · exact hrest

/-- Rules in order leave room for the lines below each of them. -/
theorem InFileOrder.not_spanOverflows (h : InFileOrder rules) : ¬ SpanOverflows rules := by
  rintro ⟨front, rule, after, location, rfl, hlocation, _, hnext, hoverflows⟩
  cases after with
  | nil =>
    have hroom := h.room rule (by simp)
    rw [Rule.line_eq hlocation] at hroom
    simp only [maxCoordinate, lastRuleSpan] at hoverflows
    omega
  | cons next after =>
    obtain ⟨below, hbelow, _⟩ := h.located next (by simp)
    rw [List.head?_cons, Option.bind_some, hbelow] at hnext
    cases hnext

/-- Whether a rule folds depends on where its fold would end. -/
theorem Rule.exists_foldsTo_iff {rule : Rule} {location : Location} {next : Option Location}
    (hlocation : rule.location = some location) :
    (∃ fold, rule.FoldsTo next lineCount fold) ↔
      2 ≤ rule.alternatives.length ∧ ∃ stop,
        ruleFoldEnd (location.line - 1) lineCount next = .ok stop ∧ location.line - 1 < stop := by
  constructor
  · rintro ⟨fold, hfold⟩
    have hstart : fold.startLine = location.line - 1 := by
      rw [hfold.startLine_eq, Rule.line_eq hlocation]
    refine ⟨hfold.alternatives, fold.endLine, ?_, ?_⟩
    · rw [← hstart]
      exact hfold.stop
    · rw [← hstart]
      exact hfold.lt
  · rintro ⟨halternatives, stop, hstop, hlt⟩
    exact ⟨⟨location.line - 1, stop, .region⟩, ⟨location, hlocation, rfl⟩, halternatives, hstop,
      hlt, rfl⟩

/-- A rule after which there is none is the last one. -/
theorem getLast?_of_getElem? {index : Nat} {rule : Rule} (hrule : rules[index]? = some rule)
    (hnext : rules[index + 1]? = none) : rules.getLast? = some rule := by
  have hlt := (List.getElem?_eq_some_iff.mp hrule).1
  have hle := List.getElem?_eq_none_iff.mp hnext
  rw [List.getLast?_eq_getElem?, show rules.length - 1 = index by omega, hrule]

/-- A rule has a fold exactly if it has several alternatives and the next rule leaves a line
between them or, for the last rule, the document goes on below it. -/
def FoldsWhereRoom (rules : List Rule) (lineCount : Nat) (folds : List Fold) : Prop :=
  ∀ (index : Nat) (rule : Rule), rules[index]? = some rule →
    ((∃ fold ∈ folds, fold.startLine + 1 = rule.line) ↔
      2 ≤ rule.alternatives.length ∧
        match rules[index + 1]? with
        | some next => rule.line + 2 ≤ next.line
        | none => rule.line < lineCount)

namespace InFileOrder

variable (h : InFileOrder rules)
include h

theorem one_le_line {index : Nat} {rule : Rule} (hrule : rules[index]? = some rule) :
    1 ≤ rule.line := by
  obtain ⟨location, hlocation, hline⟩ := h.located rule (List.mem_of_getElem? hrule)
  rw [Rule.line_eq hlocation]
  exact hline

/-- No two rules stand on one line. -/
theorem index_eq {index other : Nat} {rule rule' : Rule} (hrule : rules[index]? = some rule)
    (hrule' : rules[other]? = some rule') (hline : rule.line = rule'.line) : index = other := by
  rcases Nat.lt_trichotomy index other with hlt | heq | hgt
  · have := line_lt_of_lt h.ascending hrule hrule' hlt
    omega
  · exact heq
  · have := line_lt_of_lt h.ascending hrule' hrule hgt
    omega

/-- The fold on the line of a rule is its own. -/
theorem exists_fold_iff (hfolds : ruleFolds lineCount rules = .ok folds) {index : Nat}
    {rule : Rule} (hrule : rules[index]? = some rule) :
    (∃ fold ∈ folds, fold.startLine + 1 = rule.line) ↔
      ∃ fold, rule.FoldsTo (rules[index + 1]?.bind (·.location)) lineCount fold := by
  constructor
  · rintro ⟨fold, hmem, hstart⟩
    obtain ⟨other, rule', hrule', hfold⟩ := (mem_ruleFolds_iff hfolds).mp hmem
    have hpos := h.one_le_line hrule'
    have hline : rule.line = rule'.line := by
      rw [← hstart, hfold.startLine_eq]
      omega
    obtain rfl := h.index_eq hrule hrule' hline
    obtain rfl := Option.some.inj (hrule.symm.trans hrule')
    exact ⟨fold, hfold⟩
  · rintro ⟨fold, hfold⟩
    have hpos := h.one_le_line hrule
    refine ⟨fold, (mem_ruleFolds_iff hfolds).mpr ⟨index, rule, hrule, hfold⟩, ?_⟩
    rw [hfold.startLine_eq]
    omega

/-- Rules fold where there is room, up to the last line as a coordinate. -/
theorem foldsWhereRoom (hfolds : ruleFolds lineCount rules = .ok folds) :
    FoldsWhereRoom rules (lastLine lineCount + 1) folds := by
  intro index rule hrule
  obtain ⟨location, hlocation, hpos⟩ := h.located rule (List.mem_of_getElem? hrule)
  rw [h.exists_fold_iff hfolds hrule, Rule.exists_foldsTo_iff hlocation, Rule.line_eq hlocation]
  refine and_congr_right fun _ => ?_
  cases hnext : rules[index + 1]? with
  | some next =>
    obtain ⟨below, hbelow, _⟩ := h.located next (List.mem_of_getElem? hnext)
    simp only [Option.bind_some, hbelow, ruleFoldEnd, Rule.line_eq hbelow, Except.ok.injEq,
      exists_eq_left']
    omega
  | none =>
    have hroom := h.room rule (getLast?_of_getElem? hrule hnext)
    rw [Rule.line_eq hlocation] at hroom
    have hfits : location.line - 1 + lastRuleSpan ≤ maxCoordinate := by
      simp only [maxCoordinate, lastRuleSpan]
      omega
    simp only [Option.bind_none, ruleFoldEnd, coordinateSum_of_le hfits, bind, Except.bind, pure,
      Except.pure, Except.ok.injEq, exists_eq_left']
    rw [Nat.lt_min, lastRuleSpan]
    omega

end InFileOrder

/-- Room for the last rule is all that the number of lines decides. -/
theorem FoldsWhereRoom.iff {other : Nat} (h : FoldsWhereRoom rules lineCount folds) :
    FoldsWhereRoom rules other folds ↔
      ∀ rule ∈ rules.getLast?, 2 ≤ rule.alternatives.length →
        (rule.line < lineCount ↔ rule.line < other) := by
  constructor
  · intro hother rule hlast halternatives
    have hrule : rules[rules.length - 1]? = some rule := by
      rw [← List.getLast?_eq_getElem?]
      exact hlast
    have hlt := (List.getElem?_eq_some_iff.mp hrule).1
    have hnext : rules[rules.length - 1 + 1]? = none :=
      List.getElem?_eq_none_iff.mpr (by omega)
    have hsame := (h _ rule hrule).symm.trans (hother _ rule hrule)
    simpa only [hnext, halternatives, true_and] using hsame
  · intro hlast index rule hrule
    rw [h index rule hrule]
    refine and_congr_right fun halternatives => ?_
    cases hnext : rules[index + 1]? with
    | some next => exact Iff.rfl
    | none => exact hlast rule (getLast?_of_getElem? hrule hnext) halternatives

end InOrder

/-- Folds of rules in the order of their lines come out, disjoint and in order.  Each starts on
the line of a rule and holds the first line of no other.  A rule folds where there is room; for
the last rule that is up to the last line as a coordinate, so that the document itself decides
exactly if the rule does not lie between the two. -/
theorem rule_folds_tile (rules : List Rule) (horder : InFileOrder rules) (lineCount : Nat) :
    ∃ folds, ruleFolds lineCount rules = .ok folds ∧
      folds.Pairwise (fun upper lower => upper.endLine < lower.startLine) ∧
      (∀ fold ∈ folds, fold.startLine < fold.endLine ∧
        ∃ (index : Nat) (rule : Rule), rules[index]? = some rule ∧
          fold.startLine + 1 = rule.line ∧
          ∀ (other : Nat) (rule' : Rule), rules[other]? = some rule' → other ≠ index →
            rule'.line - 1 < fold.startLine ∨ fold.endLine < rule'.line - 1) ∧
      FoldsWhereRoom rules ((lineCount - 1) % 4294967296 + 1) folds ∧
      (FoldsWhereRoom rules lineCount folds ↔
        ∀ rule ∈ rules.getLast?, 2 ≤ rule.alternatives.length → rule.line < lineCount →
          rule.line ≤ (lineCount - 1) % 4294967296) ∧
      (lineCount ≤ 4294967296 → FoldsWhereRoom rules lineCount folds) := by
  obtain ⟨folds, hfolds⟩ :=
    (overflowsExactly_ruleFolds lineCount rules).exists_ok horder.not_spanOverflows
  have hroom := horder.foldsWhereRoom hfolds
  have hexact : FoldsWhereRoom rules lineCount folds ↔
      ∀ rule ∈ rules.getLast?, 2 ≤ rule.alternatives.length → rule.line < lineCount →
        rule.line ≤ (lineCount - 1) % 4294967296 := by
    rw [hroom.iff]
    refine forall₂_congr fun rule hlast => imp_congr_right fun _ => ?_
    rw [List.getLast?_eq_getElem?] at hlast
    have hpos := horder.one_le_line hlast
    simp only [lastLine, toCoordinate, maxCoordinate]
    omega
  refine ⟨folds, hfolds, pairwise_ruleFolds horder.located horder.ascending hfolds, ?_, hroom,
    hexact, ?_⟩
  · intro fold hmem
    obtain ⟨index, rule, hrule, hfold⟩ := (mem_ruleFolds_iff hfolds).mp hmem
    have hpos := horder.one_le_line hrule
    have hstart := hfold.startLine_eq
    refine ⟨hfold.lt, index, rule, hrule, by omega, ?_⟩
    intro other rule' hrule' hne
    rcases Nat.lt_or_gt_of_ne hne with habove | hbelow
    · have hlt := line_lt_of_lt horder.ascending hrule' hrule habove
      have hpos' := horder.one_le_line hrule'
      omega
    · have hend := hfold.endLine_lt horder.located horder.ascending hrule' hbelow
      omega
  · intro hsmall
    rw [hexact]
    intro rule _ _ hlt
    omega

/-- Three rules, of which the second has one alternative only. -/
def tiledRules : List Rule :=
  [{ name := "a", location := some ⟨3, 1⟩, alternatives := [{}, {}] },
    { name := "b", location := some ⟨8, 1⟩, alternatives := [{}] },
    { name := "c", location := some ⟨10, 1⟩, alternatives := [{}, {}, {}] }]

/-- The first rule folds up to the second, and the last one down to the end of its lines. -/
theorem tiledRules_tile :
    InFileOrder tiledRules ∧
      ∃ folds, ruleFolds 40 tiledRules = .ok folds ∧
        folds = [⟨2, 6, .region⟩, ⟨9, 19, .region⟩] ∧ FoldsWhereRoom tiledRules 40 folds := by
  have horder : InFileOrder tiledRules := by
    refine ⟨?_, by decide, by decide⟩
    simp [tiledRules]
  obtain ⟨folds, hfolds, _, _, _, _, hroom⟩ := rule_folds_tile tiledRules horder 40
  refine ⟨horder, folds, hfolds, ?_, hroom (by decide)⟩
  have hall : ruleFolds 40 tiledRules = .ok [⟨2, 6, .region⟩, ⟨9, 19, .region⟩] := by decide
  exact Except.ok.inj (hfolds.symm.trans hall)

/-- A rule with two alternatives on the first line. -/
def topRule : Rule :=
  { name := "a", location := some ⟨1, 1⟩, alternatives := [{}, {}] }

/-- In a document with one line more than there are coordinates, a rule on the first line does
not fold. -/
theorem not_forall_foldsWhereRoom :
    ¬ ∀ (rules : List Rule) (lineCount : Nat) (folds : List Fold), InFileOrder rules →
      ruleFolds lineCount rules = .ok folds → FoldsWhereRoom rules lineCount folds := by
  intro hall
  have horder : InFileOrder [topRule] := by
    refine ⟨?_, List.pairwise_singleton _ _, by decide⟩
    simp [topRule]
  have hfolds : ruleFolds 4294967297 [topRule] = .ok [] := by decide
  have hroom := hall [topRule] 4294967297 [] horder hfolds 0 topRule rfl
  have hlt : topRule.line < 4294967297 := by decide
  obtain ⟨fold, hmem, _⟩ := hroom.mpr ⟨by decide, hlt⟩
  cases hmem

end GrammarServer
