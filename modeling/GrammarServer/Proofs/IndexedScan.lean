import GrammarServer.Feature.Hover
import GrammarServer.Proofs.Occurrence

/-!
# Finding names by index

The definitions of this library walk along lists, so that no index can be out of range and no
difference can fall below zero.  An implementation that walks along a line with an index, cuts
slices out of it and subtracts positions has to get all this right.  This file looks names up
in that way, with every index, slice and difference checked, and shows that no check ever fails:
each lookup by index has the result of the lookup along the list.

Main results:

- Theorem `wordByIndex_eq`: the word under a position.
- Theorem `wholeWordsByIndex_eq`: the whole words of a line.
- Theorem `nameLocationByIndex_eq`: the place of a name on the line of its declaration.
- Theorem `Grammar.referencesByIndex_eq`: the places of a name.
- Theorem `Document.definitionByIndex_eq`: a definition is found without a failing check; the
  same holds for references and for the edits of a rename.
-/

namespace GrammarServer

open Text

/-! ## Checked operations -/

/-- The element at an index, which must lie inside the list. -/
def elementAt (list : List Char) (index : Nat) : Except Crash Char :=
  match list[index]? with
  | some c => .ok c
  | none => .error .offsetOutOfRange

/-- The elements from one index to another, which must lie inside the list and in order. -/
def sliceAt (list : List Char) (start stop : Nat) : Except Crash (List Char) :=
  if start ≤ stop ∧ stop ≤ list.length then .ok (slice list start stop)
  else .error .offsetOutOfRange

/-- A difference, which must not fall below zero. -/
def difference (a b : Nat) : Except Crash Nat :=
  if b ≤ a then .ok (a - b) else .error .coordinateOverflow

/-- The results of a computation on the elements of a list, joined. -/
def gather {α β : Type} (f : α → Except Crash (List β)) (list : List α) :
    Except Crash (List β) :=
  (collect f list).map List.flatten

/-- The elements of a list that pass a test. -/
def select {α : Type} (f : α → Except Crash Bool) : List α → Except Crash (List α)
  | [] => return []
  | a :: rest => do
    let keep ← f a
    let others ← select f rest
    return if keep then a :: others else others

/-- An element inside the list stands at the front of what follows the index. -/
theorem elementAt_of_drop {list rest : List Char} {index : Nat} {c : Char}
    (h : list.drop index = c :: rest) : elementAt list index = .ok c := by
  have hget : list[index]? = some c := by
    rw [← List.head?_drop, h, List.head?_cons]
  simp [elementAt, hget]

theorem sliceAt_of_le {list : List Char} {start stop : Nat} (hle : start ≤ stop)
    (hstop : stop ≤ list.length) : sliceAt list start stop = .ok (slice list start stop) :=
  if_pos ⟨hle, hstop⟩

theorem difference_of_le {a b : Nat} (h : b ≤ a) : difference a b = .ok (a - b) :=
  if_pos h

/-- A computation that succeeds on every element succeeds on the list. -/
theorem collect_of_forall {α β : Type} {f : α → Except Crash β} {result : α → β}
    {list : List α} (h : ∀ a ∈ list, f a = .ok (result a)) :
    collect f list = .ok (list.map result) := by
  induction list with
  | nil => rfl
  | cons a rest ih =>
    have hrest := ih fun b hb => h b (List.mem_cons_of_mem a hb)
    simp only [collect, h a List.mem_cons_self, hrest, List.map_cons]

/-- What is collected are the results for the elements. -/
theorem mem_of_collect {α β : Type} {f : α → Except Crash β} {list : List α} {results : List β}
    (h : collect f list = .ok results) {b : β} : b ∈ results ↔ ∃ a ∈ list, f a = .ok b := by
  induction list generalizing results with
  | nil =>
    obtain rfl := Except.ok.inj h
    simp
  | cons a rest ih =>
    obtain ⟨first, others, hfirst, hothers, rfl⟩ := collect_cons_eq_ok_iff.mp h
    rw [List.mem_cons, List.exists_mem_cons_iff, ih hothers, hfirst, Except.ok.injEq, eq_comm]

/-- A computation that succeeds on every element gathers its results. -/
theorem gather_of_forall {α β : Type} {f : α → Except Crash (List β)} {result : α → List β}
    {list : List α} (h : ∀ a ∈ list, f a = .ok (result a)) :
    gather f list = .ok (list.flatMap result) := by
  rw [gather, collect_of_forall h, List.flatMap_def]
  rfl

/-- A test that succeeds on every element selects the elements that pass it. -/
theorem select_of_forall {α : Type} {f : α → Except Crash Bool} {p : α → Bool} {list : List α}
    (h : ∀ a ∈ list, f a = .ok (p a)) : select f list = .ok (list.filter p) := by
  induction list with
  | nil => rfl
  | cons a rest ih =>
    have hrest := ih fun b hb => h b (List.mem_cons_of_mem a hb)
    simp only [select, h a List.mem_cons_self, hrest, bind, Except.bind, pure, Except.pure,
      List.filter_cons]

/-! ## The word under a position -/

/-- The start of the run of identifier characters before a column. -/
def runStart (chars : Line) : Nat → Except Crash Nat
  | 0 => .ok 0
  | start + 1 => do
    let c ← elementAt chars start
    if isIdentifierChar c then runStart chars start else return start + 1

/-- The end of the run of identifier characters from a column on. -/
def runStop (chars : Line) (stop : Nat) : Except Crash Nat :=
  if stop < chars.length then do
    let c ← elementAt chars stop
    if isIdentifierChar c then runStop chars (stop + 1) else return stop
  else return stop
termination_by chars.length - stop

/-- The word under a position, found by moving two indices apart. -/
def wordByIndex (text : String) (position : Position) : Except Crash (Option WordAt) :=
  match (lines text)[position.line]? with
  | none => return none
  | some line =>
    if line.length < position.character then return none
    else do
      let start ← runStart line position.character
      let stop ← runStop line position.character
      if start = stop then return none
      else do
        let word ← sliceAt line start stop
        return some ⟨String.ofList word, ⟨position.line, toCoordinate start⟩,
          ⟨position.line, toCoordinate stop⟩⟩

/-- The run before a column is as long as the identifier characters before it. -/
theorem runStart_eq {chars : Line} {column : Nat} (h : column ≤ chars.length) :
    runStart chars column =
      .ok (column - ((chars.take column).reverse.takeWhile isIdentifierChar).length) := by
  induction column with
  | zero => rfl
  | succ start ih =>
    obtain ⟨c, hc⟩ : ∃ c, chars[start]? = some c := ⟨chars[start], List.getElem?_eq_getElem h⟩
    have htake : (chars.take (start + 1)).reverse = c :: (chars.take start).reverse := by
      rw [List.take_add_one, hc, Option.toList_some, List.reverse_append, List.reverse_singleton,
        List.singleton_append]
    have hlength : ((chars.take start).reverse.takeWhile isIdentifierChar).length ≤ start := by
      have := (List.takeWhile_sublist isIdentifierChar (l := (chars.take start).reverse)).length_le
      simp only [List.length_reverse, List.length_take] at this
      omega
    have hstep : runStart chars (start + 1) =
        if isIdentifierChar c then runStart chars start else .ok (start + 1) := by
      simp only [runStart, elementAt, hc, bind, Except.bind, pure, Except.pure]
    rw [hstep, htake, List.takeWhile_cons]
    by_cases hident : isIdentifierChar c = true
    · rw [if_pos hident, if_pos hident, ih (by omega), List.length_cons]
      congr 1
      omega
    · rw [if_neg hident, if_neg hident]
      rfl

/-- The run from a column on is as long as the identifier characters that follow. -/
theorem runStop_eq (chars : Line) (column : Nat) :
    runStop chars column =
      .ok (column + ((chars.drop column).takeWhile isIdentifierChar).length) := by
  fun_induction runStop chars column with
  | case1 stop hlt ih =>
    have hdrop : chars.drop stop = chars[stop] :: chars.drop (stop + 1) :=
      List.drop_eq_getElem_cons hlt
    simp only [elementAt_of_drop hdrop, bind, Except.bind, pure, Except.pure]
    rw [hdrop, List.takeWhile_cons]
    by_cases hident : isIdentifierChar chars[stop] = true
    · rw [if_pos hident, if_pos hident, ih, List.length_cons]
      congr 1
      omega
    · rw [if_neg hident, if_neg hident]
      rfl
  | case2 stop hge =>
    rw [List.drop_eq_nil_of_le (by omega)]
    rfl

/-- The word under a position is found by index. -/
theorem wordByIndex_eq (text : String) (position : Position) :
    wordByIndex text position = .ok (wordAt? text position) := by
  unfold wordByIndex wordAt?
  cases hline : (lines text)[position.line]? with
  | none => rfl
  | some line =>
    simp only [Option.bind_eq_bind, Option.bind_some, wordSpan?]
    by_cases hout : line.length < position.character
    · rw [if_pos hout, if_pos hout]
      rfl
    · have hin : position.character ≤ line.length := Nat.le_of_not_lt hout
      have hleft : ((line.take position.character).reverse.takeWhile isIdentifierChar).length ≤
          position.character := by
        have := (List.takeWhile_sublist isIdentifierChar
          (l := (line.take position.character).reverse)).length_le
        simp only [List.length_reverse, List.length_take] at this
        omega
      have hright : position.character +
          ((line.drop position.character).takeWhile isIdentifierChar).length ≤ line.length := by
        have := (List.takeWhile_sublist isIdentifierChar
          (l := line.drop position.character)).length_le
        rw [List.length_drop] at this
        omega
      rw [if_neg hout, if_neg hout, runStart_eq hin, runStop_eq]
      simp only [bind, Except.bind, pure, Except.pure]
      by_cases hempty : ((line.take position.character).reverse.takeWhile isIdentifierChar).length +
          ((line.drop position.character).takeWhile isIdentifierChar).length = 0
      · rw [if_pos hempty, if_pos (by omega)]
        rfl
      · rw [if_neg hempty, if_neg (by omega), sliceAt_of_le (by omega) hright]
        rfl

/-! ## Whole words -/

/-- Whether the character before a column belongs to an identifier; nothing stands before the
first column. -/
def gluedByIndex (chars : Line) : Nat → Except Crash Bool
  | 0 => return false
  | column + 1 => do
    let before ← difference (column + 1) 1
    let c ← elementAt chars before
    return isIdentifierChar c

/-- Whether a word stands at a column with no identifier character on either side. -/
def standsByIndex (chars : Line) (word : List Char) (column : Nat) : Except Crash Bool := do
  let here ← sliceAt chars column (column + word.length)
  if here = word then
    let glued ← gluedByIndex chars column
    return !glued && !(chars[column + word.length]?).any isIdentifierChar
  else return false

/-- The columns at which a word stands alone, tried from the first to the last column at which
it has room. -/
def wholeWordsByIndex (chars : Line) (word : List Char) : Except Crash (List Nat) :=
  if word = [] ∨ chars.length < word.length then return []
  else do
    let last ← difference chars.length word.length
    select (standsByIndex chars word) (List.range (last + 1))

theorem gluedByIndex_eq {chars : Line} {column : Nat} (h : column ≤ chars.length) :
    gluedByIndex chars column = .ok ((charBefore? chars column).any isIdentifierChar) := by
  cases column with
  | zero => rfl
  | succ column =>
    have hget : chars[column]? = some chars[column] := List.getElem?_eq_getElem h
    have hbefore : charBefore? chars (column + 1) = some chars[column] := by
      rw [charBefore?, List.take_add_one, hget, Option.toList_some, List.getLast?_concat]
    rw [hbefore]
    simp only [gluedByIndex, difference_of_le (Nat.le_add_left 1 column), elementAt, bind,
      Except.bind, pure, Except.pure, Nat.add_sub_cancel, hget, Option.any_some]

/-- Inside the line, the slice at a column is the word exactly if the rest of the line starts
with it. -/
theorem isPrefixOf_drop_eq {chars : Line} {word : List Char} {column : Nat} :
    word.isPrefixOf (chars.drop column) = decide (slice chars column (column + word.length) = word)
    := by
  rw [Bool.eq_iff_iff, decide_eq_true_iff, List.isPrefixOf_iff_prefix, List.prefix_iff_eq_take,
    slice, List.drop_take, Nat.add_sub_cancel_left, eq_comm]

theorem standsByIndex_eq {chars : Line} {word : List Char} {column : Nat} (hne : word ≠ [])
    (hroom : column + word.length ≤ chars.length) :
    standsByIndex chars word column = .ok (isWholeWordAt chars word column) := by
  have hempty : word.isEmpty = false := by simpa using hne
  unfold standsByIndex isWholeWordAt
  rw [sliceAt_of_le (Nat.le_add_right column word.length) hroom, hempty, isPrefixOf_drop_eq,
    List.head?_drop]
  simp only [bind, Except.bind, pure, Except.pure, gluedByIndex_eq (show column ≤ chars.length by
    omega)]
  by_cases hword : slice chars column (column + word.length) = word
  · simp [hword]
  · simp [hword]

/-- Past the last column at which a word has room no column needs to be tried. -/
theorem filter_range_room {chars : Line} {word : List Char} (hne : word ≠ [])
    (hle : word.length ≤ chars.length) :
    (List.range (chars.length - word.length + 1)).filter (isWholeWordAt chars word) =
      wholeWordColumns chars word := by
  have hpos : 0 < word.length := List.length_pos_iff.mpr hne
  have hsplit : chars.length = (chars.length - word.length + 1) + (word.length - 1) := by omega
  have hnone : ((List.range (word.length - 1)).map (chars.length - word.length + 1 + ·)).filter
      (isWholeWordAt chars word) = [] := by
    rw [List.filter_eq_nil_iff]
    intro column hcolumn hwhole
    obtain ⟨offset, _, rfl⟩ := List.mem_map.mp hcolumn
    have := add_length_le_of_isWholeWordAt hwhole
    omega
  conv_rhs => rw [wholeWordColumns, hsplit, List.range_add, List.filter_append, hnone,
    List.append_nil]

/-- The whole words of a line are found by index. -/
theorem wholeWordsByIndex_eq (chars : Line) (word : List Char) :
    wholeWordsByIndex chars word = .ok (wholeWordColumns chars word) := by
  unfold wholeWordsByIndex
  by_cases hguard : word = [] ∨ chars.length < word.length
  · have hnone : wholeWordColumns chars word = [] := by
      rw [List.eq_nil_iff_forall_not_mem]
      intro column hcolumn
      have hwhole := mem_wholeWordColumns.mp hcolumn
      have hroom := add_length_le_of_isWholeWordAt hwhole
      obtain ⟨_, _, _, _, hne, _⟩ := isWholeWordAt_iff.mp hwhole
      have hempty : word = [] := hguard.resolve_right (by omega)
      exact hne hempty
    rw [if_pos hguard, hnone]
    rfl
  · have hne : word ≠ [] := fun h => hguard (.inl h)
    have hle : word.length ≤ chars.length := by omega
    rw [if_neg hguard, difference_of_le hle, ← filter_range_room hne hle]
    apply select_of_forall
    intro column hcolumn
    have hlast := List.mem_range.mp hcolumn
    exact standsByIndex_eq hne (by omega)

/-! ## Places of names -/

/-- The place of a name on the line of a declaration. -/
def nameLocationByIndex (text name : String) (location : Location) : Except Crash Location :=
  match (lines text)[location.line - 1]? with
  | none => return location
  | some line => do
    let columns ← wholeWordsByIndex line name.toList
    match columns.find? (location.column - 1 ≤ ·) with
    | none => return location
    | some index => do
      let column ← coordinateSum (toCoordinate index) 1
      return ⟨location.line, column⟩

namespace Grammar

/-- Where a name is declared in the text. -/
def declarationByIndex (grammar : Grammar) (text name : String) :
    Except Crash (Option Location) :=
  match grammar.declaration? name with
  | none => return none
  | some declaration =>
    match declaration.location, declaration.kind with
    | none, _ => return none
    | some location, .token => do
      let place ← nameLocationByIndex text name location
      return some place
    | some location, .rule => return some location

/-- The whole-word matches of a name in the body of a rule. -/
def bodyMatchesByIndex (lines : List Line) (name : String) (rule : Rule) :
    Except Crash (List (Nat × Nat)) :=
  match rule.location with
  | none => return []
  | some location =>
    let start := location.line - 1
    if start < lines.length then
      gather (fun (line, index) => do
        let columns ← wholeWordsByIndex line name.toList
        return columns.map fun column => (index, column))
        ((lines.take (bodyEnd lines start + 1)).zipIdx.drop start)
    else return []

/-- The places of a name, each once. -/
def referencesByIndex (grammar : Grammar) (text name : String) (withDeclaration : Bool) :
    Except Crash (List Location) := do
  let declared ← grammar.declarationByIndex text name
  let matched ← gather (bodyMatchesByIndex (lines text) name) grammar.rules
  let found ← collect (fun (index, column) => locationAt index column) matched
  return listPlaces declared found withDeclaration

end Grammar

/-! ## Answers about the name under a position -/

namespace Document

/-- The description of the word at a position. -/
def hoverByIndex (document : Document) (position : Position) : Except Crash (Option Hover) :=
  match document.grammar with
  | none => return none
  | some grammar => do
    match ← wordByIndex document.text position with
    | none => return none
    | some found => return (grammar.describe? found.word).map (⟨·, found.range⟩)

/-- The name under a position, if the document has a grammar. -/
def nameByIndex (document : Document) (position : Position) : Except Crash (Option NameInUse) :=
  match document.grammar with
  | none => return none
  | some grammar => do
    let found ← wordByIndex document.text position
    return found.map (⟨grammar, ·.word⟩)

/-- The declaration of the name under a position. -/
def definitionByIndex (document : Document) (position : Position) :
    Except Crash (Option Place) := do
  match ← document.nameByIndex position with
  | none => return none
  | some use =>
    match ← use.grammar.declarationByIndex document.text use.name with
    | none => return none
    | some location =>
      let range ← nameRange location use.name
      return some ⟨document.uri, range⟩

/-- The occurrences of the name under a position. -/
def referencesByIndex (document : Document) (position : Position) (withDeclaration : Bool) :
    Except Crash (List Place) := do
  match ← document.nameByIndex position with
  | none => return []
  | some use =>
    let locations ← use.grammar.referencesByIndex document.text use.name withDeclaration
    let ranges ← nameRanges use.name locations
    return ranges.map (⟨document.uri, ·⟩)

/-- The edits that rename the name under a position. -/
def renameByIndex (document : Document) (position : Position) (newName : String) :
    Except Crash (Option WorkspaceEdit) := do
  match ← document.nameByIndex position with
  | none => return none
  | some use =>
    if use.grammar.isValidRename use.name newName then
      let locations ← use.grammar.referencesByIndex document.text use.name true
      let ranges ← nameRanges use.name locations
      return some ⟨document.uri, ranges.map (⟨·, newName⟩)⟩
    else return none

end Document

/-- The place of a name on the line of a declaration is found by index. -/
theorem nameLocationByIndex_eq (text name : String) (location : Location) :
    nameLocationByIndex text name location = nameLocation text name location := by
  unfold nameLocationByIndex nameLocation nameColumn?
  cases (lines text)[location.line - 1]? with
  | none => rfl
  | some line =>
    simp only [wholeWordsByIndex_eq, bind, Except.bind, Option.bind_some]
    cases (wholeWordColumns line name.toList).find? (location.column - 1 ≤ ·) with
    | none => rfl
    | some column => rfl

namespace Grammar

/-- The declaring place of a name is found by index. -/
theorem declarationByIndex_eq (grammar : Grammar) (text name : String) :
    grammar.declarationByIndex text name = grammar.declarationLocation? text name := by
  unfold declarationByIndex declarationLocation?
  cases grammar.declaration? name with
  | none => rfl
  | some declaration =>
    rcases declaration with ⟨_, kind, location⟩
    cases location with
    | none => rfl
    | some location =>
      cases kind with
      | token => simp only [nameLocationByIndex_eq]
      | rule => rfl

theorem bodyMatchesByIndex_eq (lines : List Line) (name : String) (rule : Rule) :
    bodyMatchesByIndex lines name rule = .ok (bodyMatches lines name rule) := by
  unfold bodyMatchesByIndex bodyMatches
  cases rule.location with
  | none => rfl
  | some location =>
    dsimp only
    by_cases hstart : location.line - 1 < lines.length
    · rw [if_pos hstart, if_pos hstart, matchesBetween]
      apply gather_of_forall
      rintro ⟨line, index⟩ _
      simp only [wholeWordsByIndex_eq, bind, Except.bind, pure, Except.pure]
    · rw [if_neg hstart, if_neg hstart]
      rfl

/-- The places of a name are found by index. -/
theorem referencesByIndex_eq (grammar : Grammar) (text name : String) (withDeclaration : Bool) :
    grammar.referencesByIndex text name withDeclaration =
      grammar.references text name withDeclaration := by
  have hmatched : gather (bodyMatchesByIndex (lines text) name) grammar.rules =
      .ok (grammar.rules.flatMap (bodyMatches (lines text) name)) :=
    gather_of_forall fun rule _ => bodyMatchesByIndex_eq (lines text) name rule
  unfold referencesByIndex references occurrences
  rw [declarationByIndex_eq, hmatched]
  rfl

end Grammar

namespace Document

/-- Descriptions are found by index. -/
theorem hoverByIndex_eq (document : Document) (position : Position) :
    document.hoverByIndex position = .ok (document.hover? position) := by
  unfold hoverByIndex hover?
  cases document.grammar with
  | none => rfl
  | some grammar =>
    simp only [wordByIndex_eq, bind, Except.bind, Option.bind_some]
    cases wordAt? document.text position with
    | none => rfl
    | some found =>
      dsimp only
      rw [Option.map_eq_bind]
      rfl

/-- The name under a position is found by index. -/
theorem nameByIndex_eq (document : Document) (position : Position) :
    document.nameByIndex position = .ok (document.nameAt? position) := by
  unfold nameByIndex nameAt?
  cases document.grammar with
  | none => rfl
  | some grammar =>
    simp only [wordByIndex_eq, bind, Except.bind, Option.bind_some]
    rw [Option.map_eq_bind]
    rfl

variable (document : Document) (position : Position)

/-- A definition is found by index. -/
theorem definitionByIndex_eq :
    document.definitionByIndex position = document.definition? position := by
  unfold definitionByIndex definition?
  simp only [nameByIndex_eq, Grammar.declarationByIndex_eq]
  cases document.nameAt? position with
  | none => rfl
  | some use => rfl

/-- References are found by index. -/
theorem referencesByIndex_eq (withDeclaration : Bool) :
    document.referencesByIndex position withDeclaration =
      document.references position withDeclaration := by
  unfold referencesByIndex references
  rw [nameByIndex_eq]
  cases document.nameAt? position with
  | none => rfl
  | some use => simp only [Grammar.referencesByIndex_eq, bind, Except.bind]

/-- The edits of a rename are found by index. -/
theorem renameByIndex_eq (newName : String) :
    document.renameByIndex position newName = document.rename? position newName := by
  unfold renameByIndex rename?
  rw [nameByIndex_eq]
  cases document.nameAt? position with
  | none => rfl
  | some use => simp only [Grammar.referencesByIndex_eq, bind, Except.bind, pure, Except.pure]

end Document

end GrammarServer
