import GrammarServer.Engine.Command
import GrammarServer.Engine.Scripted
import GrammarServer.Feature.Analysis
import GrammarServer.Proofs.TextEdit

/-!
# Edits that replace a whole document

Formatting and fixing replace a document by one edit, from its start to the line after its last
line.  That line is past the end whether the text ends with a line feed or not, and also if there
is no line at all, so the edit leaves nothing of the old text behind.  But the number of the line
is a coordinate: if there are more lines than can be written, its high bits are lost, and the
edit ends inside the text.

Main results:

- Theorem `applyEdits_replaceAll`: what the edit that replaces a document leaves behind.
- Theorem `leftover_eq_nil_iff`: it leaves nothing exactly if the number of lines can be written.
- Theorem `CommandEngine.autocorrect_of_fails`: a command that fails leaves the source as it is.
- Theorem `whole_edits_replace_document`: the edits of formatting and fixing give the text that
  the engine has answered, if the number of lines can be written.
- Theorem `not_forall_whole_edits`: a text of 2 ^ 32 lines is left as it is.
-/

namespace GrammarServer

/-! ## From the start to past the end -/

namespace Text

/-- The first column of a line is where the line starts. -/
theorem offsetOf_column_zero (list : List RawLine) (index : Nat) :
    offsetOf list ⟨index, 0⟩ = lineStart list index := by
  unfold offsetOf
  dsimp only
  cases list[index]? with
  | none => rfl
  | some line => simp

theorem spliceAll_nil (text : List Char) : spliceAll [] text = text := by
  have hkeeps : spliceFrom [] 0 text = if false then [] else text :=
    spliceFrom_of_no_start fun _ _ => ⟨rfl, rfl⟩
  simpa [spliceAll, insertedAt] using hkeeps

/-- A splice that starts before an offset removes what stands from there to its end. -/
theorem spliceFrom_front (stop offset : Nat) (inserted text : List Char) :
    spliceFrom [⟨0, stop, inserted⟩] (offset + 1) text = text.drop (stop - (offset + 1)) := by
  induction text generalizing offset with
  | nil => simp [spliceFrom]
  | cons c rest ih =>
    have hinserted : insertedAt [⟨0, stop, inserted⟩] (offset + 1) = [] := by simp [insertedAt]
    rw [spliceFrom, hinserted, ih, List.nil_append]
    by_cases hremoved : offset + 1 < stop
    · have hsucc : stop - (offset + 1) = stop - (offset + 1 + 1) + 1 := by omega
      simp [isRemovedAt, hremoved, hsucc]
    · have hpast : stop - (offset + 1 + 1) = 0 ∧ stop - (offset + 1) = 0 := by omega
      simp [isRemovedAt, hremoved, hpast]

/-- A splice of the front of a text leaves what it inserts and the rest of the text. -/
theorem spliceAll_front (stop : Nat) (inserted text : List Char) :
    spliceAll [⟨0, stop, inserted⟩] text = inserted ++ text.drop stop := by
  cases text with
  | nil => simp [spliceAll, spliceFrom, insertedAt]
  | cons c rest =>
    have hfirst : insertedAt [⟨0, stop, inserted⟩] 0 = inserted := by simp [insertedAt]
    have hlast : insertedAt [⟨0, stop, inserted⟩] (c :: rest).length = [] := by simp [insertedAt]
    rw [spliceAll, spliceFrom, hfirst, hlast, spliceFrom_front]
    cases stop with
    | zero => simp [isRemovedAt]
    | succ stop => simp [isRemovedAt]

/-- Every line of a text has a character. -/
theorem chars_ne_nil_of_mem_rawLines {cs : List Char} {line : RawLine} (h : line ∈ rawLines cs) :
    line.chars ≠ [] := by
  have hproper := (isCut_rawLines cs).proper line h
  rcases line with ⟨content, ending⟩
  cases ending with
  | lineFeed => simp [RawLine.chars, LineEnd.chars]
  | returnFeed => simp [RawLine.chars, LineEnd.chars]
  | endOfText => simpa [RawLine.chars, LineEnd.chars] using hproper.not_empty

end Text

open Text

@[simp]
theorem applyEdits_nil (text : String) : applyEdits text [] = text := by
  rw [applyEdits, List.map_nil, spliceAll_nil, String.ofList_toList]

/-- The characters of a document behind the edit that replaces it: the lines from the one on
whose number the edit ends. -/
def Document.leftover (document : Document) : List Char :=
  ((rawLines document.text.toList).drop (toCoordinate (lines document.text).length)).flatMap
    RawLine.chars

/-- The edit that replaces a document gives the new text and what stands behind the edit. -/
theorem applyEdits_replaceAll (document : Document) (newText : String) :
    applyEdits document.text [document.replaceAll newText] =
      String.ofList (newText.toList ++ document.leftover) := by
  set list := rawLines document.text.toList with hlist
  set stop := toCoordinate (lines document.text).length with hstop
  have hsplice : (document.replaceAll newText).toSplice list =
      ⟨0, lineStart list stop, newText.toList⟩ := by
    simp only [TextEdit.toSplice, Document.replaceAll, fullRange, offsetOf_column_zero,
      lineStart_zero, hstop]
  have hcut : document.text.toList =
      (list.take stop).flatMap RawLine.chars ++ (list.drop stop).flatMap RawLine.chars := by
    rw [← List.flatMap_append, List.take_append_drop, hlist, flatMap_chars_rawLines]
  rw [applyEdits, ← hlist, List.map_singleton, hsplice, spliceAll_front]
  congr 2
  conv_lhs => rw [hcut, lineStart, List.drop_left]
  rw [Document.leftover]

/-- The edit that replaces a document leaves nothing behind exactly if the number of lines can be
written. -/
theorem leftover_eq_nil_iff (document : Document) :
    document.leftover = [] ↔ (lines document.text).length ≤ maxCoordinate := by
  have hlength : (lines document.text).length = (rawLines document.text.toList).length := by
    rw [lines, List.length_map]
  constructor
  · intro hnil
    by_contra hmany
    have hstop := toCoordinate_le (lines document.text).length
    have hlt : toCoordinate (lines document.text).length <
        (rawLines document.text.toList).length := by omega
    have hline := List.flatMap_eq_nil_iff.mp hnil _
      (List.drop_eq_getElem_cons hlt ▸ List.mem_cons_self)
    exact chars_ne_nil_of_mem_rawLines (List.getElem_mem hlt) hline
  · intro hfew
    rw [Document.leftover, toCoordinate_of_le hfew, hlength, List.drop_length, List.flatMap_nil]

/-- If the number of lines can be written, the edit that replaces a document leaves the new text
alone. -/
theorem applyEdits_replaceAll_of_le {document : Document}
    (hfew : (lines document.text).length ≤ maxCoordinate) (newText : String) :
    applyEdits document.text [document.replaceAll newText] = newText := by
  rw [applyEdits_replaceAll, (leftover_eq_nil_iff document).mpr hfew, List.append_nil,
    String.ofList_toList]

/-- A text that stays the same need not be replaced. -/
theorem applyEdits_ite_replaceAll {document : Document}
    (hfew : (lines document.text).length ≤ maxCoordinate) (newText : String) :
    applyEdits document.text
      (if newText = document.text then [] else [document.replaceAll newText]) = newText := by
  split
  case isTrue hsame => rw [applyEdits_nil, hsame]
  case isFalse => rw [applyEdits_replaceAll_of_le hfew]

/-! ## Commands that fail -/

/-- A call of a command fails: the program cannot be started, it ends without success, or what
it writes is no text in UTF-8. -/
inductive CommandEngine.Fails (command : CommandEngine) (machine : Machine) (call : Call) : Prop
  | notStarted {cause : LaunchError}
    (hlaunch : machine.launch (command.invocation call) = .error cause)
  | unsuccessful {output : ProgramOutput}
    (hlaunch : machine.launch (command.invocation call) = .ok output)
    (hstatus : output.status ≠ .code 0)
  | notText {output : ProgramOutput}
    (hlaunch : machine.launch (command.invocation call) = .ok output)
    (hbytes : ∀ text, utf8Bytes text ≠ output.output)

theorem ExitStatus.isSuccess_iff {status : ExitStatus} :
    status.isSuccess = true ↔ status = .code 0 := by
  unfold isSuccess
  split
  case h_1 => simp
  case h_2 hne => simpa using hne

/-- Bytes that are read as a text are the bytes of that text. -/
theorem utf8Bytes_of_ofUtf8? {bytes : List UInt8} {text : String} (h : ofUtf8? bytes = some text) :
    utf8Bytes text = bytes := by
  unfold ofUtf8? String.fromUTF8? at h
  split at h
  case isTrue =>
    obtain rfl := Option.some.inj h
    rfl
  case isFalse => cases h

/-- A command that fails leaves the source as it is. -/
theorem CommandEngine.autocorrect_of_fails {command : CommandEngine} {machine : Machine}
    {source filename : String} (h : command.Fails machine ⟨.autocorrect, source, filename⟩) :
    command.autocorrect machine source filename = source := by
  unfold autocorrect run
  cases h with
  | notStarted hlaunch =>
    rw [hlaunch]
    rfl
  | unsuccessful hlaunch hstatus =>
    rw [hlaunch]
    exact if_neg (ExitStatus.isSuccess_iff.not.mpr hstatus)
  | @notText output hlaunch hbytes =>
    have hnone : ofUtf8? output.output = none := by
      rw [Option.eq_none_iff_forall_ne_some]
      intro text htext
      exact hbytes text (utf8Bytes_of_ofUtf8? htext)
    rw [hlaunch]
    simp only [Except.mapError, hnone, Option.getD_none, ite_self]

/-- A machine without programs can start none. -/
theorem CommandEngine.fails_bare (command : CommandEngine) (call : Call) :
    command.Fails Machine.bare call := by
  have hlaunch : ∃ cause, Machine.bare.launch (command.invocation call) = .error cause := by
    unfold Machine.launch
    cases (command.invocation call).obstacle? with
    | none => exact ⟨.missing, rfl⟩
    | some obstacle => exact ⟨obstacle, rfl⟩
  obtain ⟨cause, hcause⟩ := hlaunch
  exact .notStarted hcause

/-! ## Formatting and fixing -/

namespace Engine

variable {engine : Engine} {log : List Call} {document : Document}

/-- Formatting gives edits exactly if the engine gives a text. -/
theorem formatDocument_eq_some_iff {edits : List TextEdit} :
    (engine.formatDocument log document).result = .ok (some edits) ↔
      ∃ formatted, engine.format log document.text document.uri.filename = .ok (some formatted) ∧
        edits = if formatted = document.text then [] else [document.replaceAll formatted] := by
  unfold formatDocument
  cases engine.format log document.text document.uri.filename with
  | crashed => simp
  | failed => simp
  | ok answer =>
    cases answer with
    | none => simp
    | some formatted => simp [eq_comm]

/-- Fixing offers nothing in a range without diagnostics, and else one action, which replaces the
document by its corrected text. -/
theorem fixAll_eq_ok_iff {range : Range} {actions : List CodeAction} :
    (engine.fixAll log document range).result = .ok actions ↔
      if diagnosticsIn range document.diagnostics = [] then actions = []
      else ∃ corrected,
        (engine.correct log document.text document.uri.filename).result = .ok corrected ∧
          actions = [⟨fixAllTitle, diagnosticsIn range document.diagnostics,
            ⟨document.uri, [document.replaceAll corrected]⟩⟩] := by
  unfold fixAll
  split
  case h_1 hnone => simp [hnone, EngineRun.silent, eq_comm]
  case h_2 hsome =>
    rw [if_neg hsome]
    dsimp only
    cases (engine.correct log document.text document.uri.filename).result with
    | error crash => simp [Except.map]
    | ok corrected => simp [Except.map, eq_comm]

/-- Fixing that succeeds offers an action exactly if there is something to fix. -/
theorem eq_nil_iff_of_fixAll {range : Range} {actions : List CodeAction}
    (h : (engine.fixAll log document range).result = .ok actions) :
    actions = [] ↔ diagnosticsIn range document.diagnostics = [] := by
  rw [fixAll_eq_ok_iff] at h
  split at h
  case isTrue hnone => simp [h, hnone]
  case isFalse hsome =>
    obtain ⟨corrected, _, rfl⟩ := h
    simp [hsome]

/-- Every action replaces the whole document by its corrected text. -/
theorem edit_of_mem_fixAll {range : Range} {actions : List CodeAction} {action : CodeAction}
    (h : (engine.fixAll log document range).result = .ok actions) (hmem : action ∈ actions) :
    ∃ corrected, (engine.correct log document.text document.uri.filename).result = .ok corrected ∧
      action.edit = ⟨document.uri, [document.replaceAll corrected]⟩ := by
  rw [fixAll_eq_ok_iff] at h
  split at h
  case isTrue =>
    rw [h] at hmem
    cases hmem
  case isFalse =>
    obtain ⟨corrected, hcorrect, rfl⟩ := h
    obtain rfl := List.mem_singleton.mp hmem
    exact ⟨corrected, hcorrect, rfl⟩

/-- The corrected text is the engine's answer, or the source if the engine fails. -/
theorem correct_eq_ok_iff {source filename corrected : String} :
    (engine.correct log source filename).result = .ok corrected ↔
      engine.autocorrect log source filename = .ok corrected ∨
        engine.autocorrect log source filename = .failed ∧ corrected = source := by
  unfold correct
  cases engine.autocorrect log source filename with
  | crashed => simp
  | failed => simp [eq_comm]
  | ok answer => simp

end Engine

/-- Edits of a whole document replace the whole document, whatever its lines end with, if the
number of its lines can be written.  Formatting gives edits exactly if the engine answers a text,
and they turn the current text into that one; there is nothing to edit exactly if the two are the
same.  An action turns the text into the one that the engine corrects it to.  If the engine is a
command that cannot be run, ends without success or writes something else than UTF-8, the text
stays as it is. -/
theorem whole_edits_replace_document (engine : Engine) (log : List Call) (document : Document)
    (hfew : (lines document.text).length ≤ maxCoordinate) :
    (∀ formatted, engine.format log document.text document.uri.filename = .ok (some formatted) ↔
      ∃ edits, (engine.formatDocument log document).result = .ok (some edits) ∧
        applyEdits document.text edits = formatted) ∧
    (∀ edits, (engine.formatDocument log document).result = .ok (some edits) →
      (edits = [] ↔ applyEdits document.text edits = document.text)) ∧
    (∀ range actions, (engine.fixAll log document range).result = .ok actions →
      (actions = [] ↔ diagnosticsIn range document.diagnostics = []) ∧
      ∀ action ∈ actions, action.edit.uri = document.uri ∧
        (engine.autocorrect log document.text document.uri.filename =
            .ok (applyEdits document.text action.edit.edits) ∨
          engine.autocorrect log document.text document.uri.filename = .failed ∧
            applyEdits document.text action.edit.edits = document.text)) ∧
    ∀ (command : CommandEngine) (machine : Machine) (range : Range) (actions : List CodeAction),
      command.Fails machine ⟨.autocorrect, document.text, document.uri.filename⟩ →
      ((command.toEngine machine).fixAll log document range).result = .ok actions →
      ∀ action ∈ actions, applyEdits document.text action.edit.edits = document.text := by
  refine ⟨?_, ?_, ?_, ?_⟩
  · intro formatted
    constructor
    · intro hformat
      refine ⟨_, Engine.formatDocument_eq_some_iff.mpr ⟨formatted, hformat, rfl⟩, ?_⟩
      exact applyEdits_ite_replaceAll hfew formatted
    · rintro ⟨edits, h, rfl⟩
      obtain ⟨formatted, hformat, rfl⟩ := Engine.formatDocument_eq_some_iff.mp h
      rw [hformat, applyEdits_ite_replaceAll hfew]
  · intro edits h
    obtain ⟨formatted, _, rfl⟩ := Engine.formatDocument_eq_some_iff.mp h
    rw [applyEdits_ite_replaceAll hfew]
    simp
  · intro range actions h
    refine ⟨Engine.eq_nil_iff_of_fixAll h, ?_⟩
    intro action hmem
    obtain ⟨corrected, hcorrect, hedit⟩ := Engine.edit_of_mem_fixAll h hmem
    rw [hedit]
    refine ⟨rfl, ?_⟩
    rw [applyEdits_replaceAll_of_le hfew]
    exact Engine.correct_eq_ok_iff.mp hcorrect
  · intro command machine range actions hfails h action hmem
    obtain ⟨corrected, hcorrect, hedit⟩ := Engine.edit_of_mem_fixAll h hmem
    have hanswer : (command.toEngine machine).autocorrect log document.text
        document.uri.filename = .ok document.text :=
      congrArg CallResult.ok (CommandEngine.autocorrect_of_fails hfails)
    obtain hok | ⟨_, hsource⟩ := Engine.correct_eq_ok_iff.mp hcorrect
    · rw [hedit, applyEdits_replaceAll_of_le hfew]
      exact CallResult.ok.inj (hok.symm.trans hanswer)
    · rw [hedit, applyEdits_replaceAll_of_le hfew, hsource]

/-- A document whose lines end in all three ways, with a diagnostic on its last line. -/
def frayedDocument : Document where
  uri := { scheme := "file", authority := some {}, path := .segments ["f.y"] }
  text := "%token A\r\n\n%%\ns: A"
  version := 1
  diagnostics := [{ range := ⟨⟨3, 0⟩, ⟨3, 4⟩⟩, message := "no semicolon" }]

/-- The document is formatted as a whole, and a command that does not exist fixes nothing. -/
theorem frayedDocument_replaced :
    let engine := Engine.scripted { format := [.ok (some "%%\n")] }
    let edits := [frayedDocument.replaceAll "%%\n"]
    let command : CommandEngine := ⟨"collie", [], none⟩
    let action : CodeAction := ⟨fixAllTitle, frayedDocument.diagnostics,
      ⟨frayedDocument.uri, [frayedDocument.replaceAll frayedDocument.text]⟩⟩
    (engine.formatDocument [] frayedDocument).result = .ok (some edits) ∧
      engine.format [] frayedDocument.text frayedDocument.uri.filename =
        .ok (some (applyEdits frayedDocument.text edits)) ∧
      ((command.toEngine Machine.bare).fixAll [] frayedDocument ⟨⟨3, 0⟩, ⟨3, 0⟩⟩).result =
        .ok [action] ∧
      applyEdits frayedDocument.text action.edit.edits = frayedDocument.text := by
  intro engine edits command action
  obtain ⟨hformat, _, _, hfails⟩ :=
    whole_edits_replace_document engine [] frayedDocument (by decide)
  have hedits : (engine.formatDocument [] frayedDocument).result = .ok (some edits) := by
    rfl
  have hbare := command.fails_bare
    ⟨.autocorrect, frayedDocument.text, frayedDocument.uri.filename⟩
  have hactions : ((command.toEngine Machine.bare).fixAll [] frayedDocument
      ⟨⟨3, 0⟩, ⟨3, 0⟩⟩).result = .ok [action] := by
    change Except.ok [CodeAction.mk _ _ ⟨_, [frayedDocument.replaceAll
      (command.autocorrect Machine.bare frayedDocument.text frayedDocument.uri.filename)]⟩] = _
    rw [CommandEngine.autocorrect_of_fails hbare]
    rfl
  exact ⟨hedits, (hformat _).mpr ⟨edits, hedits, rfl⟩, hactions,
    hfails command Machine.bare _ _ hbare hactions action List.mem_cons_self⟩

/-! ## More lines than can be written -/

/-- A document of empty lines. -/
def feedsDocument (count : Nat) : Document where
  uri := { scheme := "file", authority := some {}, path := .segments ["f.y"] }
  text := String.ofList (List.replicate count '\n')
  version := 1

/-- Every line feed ends a line. -/
theorem rawLines_feeds (count : Nat) :
    rawLines (List.replicate count '\n') = List.replicate count ⟨[], .lineFeed⟩ := by
  induction count with
  | zero => simp
  | succ count ih => rw [List.replicate_succ, rawLines, ih, List.replicate_succ]

theorem length_lines_feedsDocument (count : Nat) :
    (lines (feedsDocument count).text).length = count := by
  rw [lines, List.length_map, feedsDocument, String.toList_ofList, rawLines_feeds,
    List.length_replicate]

/-- An engine that formats a document of 2 ^ 32 lines to nothing does not change it: the edit ends
where it starts. -/
theorem not_forall_whole_edits :
    ¬ ∀ (engine : Engine) (log : List Call) (document : Document) (formatted : String)
        (edits : List TextEdit),
      engine.format log document.text document.uri.filename = .ok (some formatted) →
      (engine.formatDocument log document).result = .ok (some edits) →
      applyEdits document.text edits = formatted := by
  intro hall
  set document := feedsDocument (maxCoordinate + 1) with hdocument
  set engine := Engine.scripted { format := [.ok (some "")] }
  have hmany : (lines document.text).length = maxCoordinate + 1 :=
    length_lines_feedsDocument (maxCoordinate + 1)
  have hne : "" ≠ document.text := by
    intro hempty
    rw [← hempty, lines_nil] at hmany
    cases hmany
  have hformat : engine.format [] document.text document.uri.filename = .ok (some "") := rfl
  have hedits := Engine.formatDocument_eq_some_iff.mpr ⟨"", hformat, rfl⟩
  have hreplaced := hall engine [] document "" _ hformat hedits
  rw [if_neg hne, applyEdits_replaceAll, String.ofList_eq_empty_iff, String.toList_empty,
    List.nil_append, leftover_eq_nil_iff] at hreplaced
  omega

end GrammarServer
