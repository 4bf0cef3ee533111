import GrammarServer.Engine.Scripted
import GrammarServer.Proofs.IndexedScan
import GrammarServer.Proofs.Publication
import GrammarServer.Proofs.Replay
import GrammarServer.Proofs.WholeEdit

/-!
# Fixes are offered for the diagnostics on the requested lines

A request for fixes asks whether a diagnostic lies in a range from its first line to its last.
All diagnostics that the server keeps come from offenses, and the diagnostic of an offense never
leaves its line.  So the diagnostics found are those on the requested lines, and the server
offers its one action, and calls the engine for it, exactly if there is one.

Main results:

- Theorem `isNarrow_step`: every message keeps all diagnostics on one line, ten characters wide.
- Theorem `diagnosticsIn_eq_filter`: diagnostics on one line lie in a range exactly if their line
  does.
- Theorem `offersFixAll_handle`: what a request for fixes calls, lists and answers.
- Theorem `fix_all_offered_for_shown_lines`: the statement for all states that are reached.
-/

namespace GrammarServer

open Text

/-! ## Diagnostics that the server keeps -/

/-- A diagnostic on one line that is ten characters wide. -/
def Diagnostic.IsNarrow (diagnostic : Diagnostic) : Prop :=
  diagnostic.range.stop.line = diagnostic.range.start.line ∧
    diagnostic.range.stop.character = diagnostic.range.start.character + 10

/-- All diagnostics of the open documents are narrow. -/
def ServerState.IsNarrow (state : ServerState) : Prop :=
  ∀ uri document, state.store.get? uri = some document →
    ∀ diagnostic ∈ document.diagnostics, diagnostic.IsNarrow

/-- What a message publishes about the offenses that the engine found is narrow. -/
theorem Transition.Justifies.isNarrow {factory : EngineFactory} {transition : Transition}
    {publication : Publication} (h : transition.Justifies factory publication) :
    ∀ diagnostic ∈ publication.diagnostics, diagnostic.IsNarrow := by
  obtain ⟨_, _, _, _, _, _, _, offenses, _, hconverted⟩ := h
  intro diagnostic hmem
  have hfrom := collect_eq_ok_iff_forall₂.mpr hconverted
  obtain ⟨offense, _, hoffense⟩ := (mem_of_collect hfrom).mp hmem
  exact Offense.toDiagnostic_range hoffense

/-- Every message keeps all diagnostics narrow. -/
theorem isNarrow_step (factory : EngineFactory) {state : ServerState} (message : Message)
    (h : state.IsNarrow) : (state.step factory message).1.IsNarrow := by
  intro uri document hget
  rcases publication_cases factory state message uri with
    ⟨_, hkeeps⟩ | ⟨_, _, hclosed⟩ | ⟨publication, new, _, hjustified, hnew, hsame, _⟩
  · rw [Message.KeepsDiagnostics, hget] at hkeeps
    split at hkeeps
    case isTrue =>
      obtain ⟨opened, hopened, hnone⟩ := hkeeps
      obtain rfl := Option.some.inj hopened
      simp [hnone]
    case isFalse =>
      cases hold : state.store.get? uri with
      | none =>
        rw [hold] at hkeeps
        cases hkeeps
      | some old =>
        rw [hold] at hkeeps
        cases hkeeps with
        | some hcontinues =>
          rw [hcontinues.1]
          exact h uri old hold
  · rw [hget] at hclosed
    cases hclosed
  · rw [ServerState.handle_after, hget] at hnew
    obtain rfl := Option.some.inj hnew
    rw [← hsame]
    exact hjustified.isNarrow

/-- All diagnostics are narrow in every state that is reached. -/
theorem isNarrow_reached (factory : EngineFactory) (messages : List Message) :
    (ServerState.reached factory {} messages).IsNarrow := by
  refine @ServerState.history_induction factory {} (fun _ state => state.IsNarrow) ?_ ?_ messages
  · intro uri document hget
    cases hget
  · intro _ _ message h
    exact isNarrow_step factory message h

/-! ## Diagnostics on the lines of a range -/

/-- A diagnostic is shown on one of the lines of a range. -/
def Diagnostic.ShownOn (range : Range) (diagnostic : Diagnostic) : Prop :=
  range.start.line ≤ diagnostic.range.start.line ∧ diagnostic.range.start.line ≤ range.stop.line

instance (range : Range) (diagnostic : Diagnostic) : Decidable (diagnostic.ShownOn range) :=
  inferInstanceAs (Decidable (_ ∧ _))

/-- The diagnostics of a document that are shown on the lines of a range, in order. -/
def Document.shownOn (document : Document) (range : Range) : List Diagnostic :=
  document.diagnostics.filter fun diagnostic => decide (diagnostic.ShownOn range)

/-- A document shows a diagnostic on one of the lines of a range. -/
def Document.ShowsOn (document : Document) (range : Range) : Prop :=
  ∃ diagnostic ∈ document.diagnostics, diagnostic.ShownOn range

instance (document : Document) (range : Range) : Decidable (document.ShowsOn range) :=
  inferInstanceAs (Decidable (∃ diagnostic ∈ document.diagnostics, diagnostic.ShownOn range))

theorem Document.shownOn_eq_nil_iff {document : Document} {range : Range} :
    document.shownOn range = [] ↔ ¬ document.ShowsOn range := by
  simp [shownOn, ShowsOn]

/-- Narrow diagnostics lie in a range exactly if they are shown on its lines. -/
theorem diagnosticsIn_eq_filter {document : Document}
    (h : ∀ diagnostic ∈ document.diagnostics, diagnostic.IsNarrow) (range : Range) :
    diagnosticsIn range document.diagnostics = document.shownOn range := by
  refine List.filter_congr ?_
  intro diagnostic hmem
  rw [(h diagnostic hmem).1, ← Bool.decide_and]
  rfl

/-- More lines show no fewer diagnostics. -/
theorem Document.shownOn_sublist (document : Document) {range wider : Range}
    (hstart : wider.start.line ≤ range.start.line) (hstop : range.stop.line ≤ wider.stop.line) :
    (document.shownOn range).Sublist (document.shownOn wider) := by
  refine List.monotone_filter_right _ ?_
  intro diagnostic hshown
  obtain ⟨hfirst, hlast⟩ := of_decide_eq_true hshown
  exact decide_eq_true ⟨hstart.trans hfirst, hlast.trans hstop⟩

/-! ## Requests for fixes -/

/-- Fixing calls the engine once for the text of the document if a diagnostic lies in the
range, and not at all otherwise. -/
theorem Engine.calls_fixAll (engine : Engine) (log : List Call) (document : Document)
    (range : Range) :
    (engine.fixAll log document range).calls =
      if diagnosticsIn range document.diagnostics = [] then []
      else [⟨.autocorrect, document.text, document.uri.filename⟩] := by
  unfold fixAll
  split
  case h_1 hnone => simp [hnone, EngineRun.silent]
  case h_2 hsome =>
    rw [if_neg hsome]
    unfold correct
    cases engine.autocorrect log document.text document.uri.filename <;> rfl

/-- Fixing breaks off exactly if the engine crashes in its call. -/
theorem Engine.fixAll_eq_ok_or_crashed (engine : Engine) (log : List Call) (document : Document)
    (range : Range) :
    (∃ actions, (engine.fixAll log document range).result = .ok actions) ∨
      (diagnosticsIn range document.diagnostics ≠ [] ∧
        engine.autocorrect log document.text document.uri.filename = .crashed ∧
        (engine.fixAll log document range).result = .error .engineCrash) := by
  unfold fixAll
  split
  case h_1 => exact .inl ⟨[], rfl⟩
  case h_2 hsome =>
    unfold correct
    cases engine.autocorrect log document.text document.uri.filename with
    | ok corrected => exact .inl ⟨_, rfl⟩
    | failed => exact .inl ⟨_, rfl⟩
    | crashed => exact .inr ⟨hsome, rfl, rfl⟩

/-- How a request for the fixes of a document on the lines of a range is handled. -/
structure Transition.OffersFixAll (engine : Engine) (document : Document) (range : Range)
    (transition : Transition) : Prop where
  /-- The reply holds one action if a diagnostic is shown on the lines, and none otherwise. -/
  offered : ∀ actions, transition.outcome.2 = .ok ⟨.codeAction actions, []⟩ →
    actions.length = if document.ShowsOn range then 1 else 0
  /-- The action lists the diagnostics that are shown on the lines, in order. -/
  listed : ∀ actions, transition.outcome.2 = .ok ⟨.codeAction actions, []⟩ →
    ∀ action ∈ actions, action.diagnostics = document.shownOn range
  /-- The engine is called once, for the present text, if a diagnostic is shown on the lines,
  and not at all otherwise. -/
  called : transition.calls =
    if document.ShowsOn range then [⟨.autocorrect, document.text, document.uri.filename⟩] else []
  /-- There is a reply unless that call crashes. -/
  answered : (∃ actions, transition.outcome.2 = .ok ⟨.codeAction actions, []⟩) ∨
    (document.ShowsOn range ∧
      engine.autocorrect transition.before.calls document.text document.uri.filename = .crashed ∧
      transition.outcome.2 = .error (.crashed .engineCrash))

section Request

variable (factory : EngineFactory) {state : ServerState} {session : Session} {uri : Uri}
  {document : Document}

/-- A request for fixes is answered with what fixing gives, and its calls are logged. -/
theorem ServerState.step_codeAction (hsession : state.session = some session)
    (hget : state.store.get? uri = some document) (range : Range) :
    state.step factory (.codeAction uri range) =
      (state.record ((factory session.root).fixAll state.calls document range).calls,
        answer .codeAction ((factory session.root).fixAll state.calls document range).result) := by
  simp [step, consult, hsession, hget]

/-- The answer to a request is made of its result. -/
theorem answer_codeAction_eq_ok_iff {result : Except Crash (List CodeAction)}
    {actions : List CodeAction} :
    ServerState.answer .codeAction result = .ok ⟨.codeAction actions, []⟩ ↔
      result = .ok actions := by
  cases result <;> simp [ServerState.answer]

/-- If all its diagnostics are narrow, a document is offered fixes for those that are shown on
the requested lines. -/
theorem offersFixAll_handle (hsession : state.session = some session)
    (hget : state.store.get? uri = some document)
    (hnarrow : ∀ diagnostic ∈ document.diagnostics, diagnostic.IsNarrow) (range : Range) :
    (state.handle factory (.codeAction uri range)).OffersFixAll (factory session.root) document
      range := by
  have hstep := ServerState.step_codeAction factory hsession hget range
  have hin := diagnosticsIn_eq_filter hnarrow range
  have hreply : ∀ actions,
      (state.handle factory (.codeAction uri range)).outcome.2 = .ok ⟨.codeAction actions, []⟩ ↔
        ((factory session.root).fixAll state.calls document range).result = .ok actions := by
    intro actions
    rw [ServerState.handle_outcome, hstep, answer_codeAction_eq_ok_iff]
  refine ⟨?_, ?_, ?_, ?_⟩
  · intro actions hactions
    have hfixed := Engine.fixAll_eq_ok_iff.mp ((hreply actions).mp hactions)
    rw [hin] at hfixed
    by_cases hshows : document.ShowsOn range
    · rw [if_neg (mt Document.shownOn_eq_nil_iff.mp (not_not_intro hshows))] at hfixed
      obtain ⟨corrected, _, rfl⟩ := hfixed
      rw [if_pos hshows, List.length_singleton]
    · rw [if_pos (Document.shownOn_eq_nil_iff.mpr hshows)] at hfixed
      rw [if_neg hshows, hfixed, List.length_nil]
  · intro actions hactions action hmem
    have hfixed := Engine.fixAll_eq_ok_iff.mp ((hreply actions).mp hactions)
    split at hfixed
    case isTrue =>
      rw [hfixed] at hmem
      cases hmem
    case isFalse =>
      obtain ⟨corrected, _, rfl⟩ := hfixed
      rw [List.mem_singleton.mp hmem, hin]
  · have hcalls := (factory session.root).calls_fixAll state.calls document range
    simp only [hin, Document.shownOn_eq_nil_iff, ite_not] at hcalls
    rw [← hcalls]
    apply ServerState.calls_handle
    rw [hstep]
    rfl
  · rcases (factory session.root).fixAll_eq_ok_or_crashed state.calls document range with
      ⟨actions, hok⟩ | ⟨hsome, hcrashed, hresult⟩
    · exact .inl ⟨actions, (hreply actions).mpr hok⟩
    · right
      rw [hin, ne_eq, Document.shownOn_eq_nil_iff, not_not] at hsome
      refine ⟨hsome, hcrashed, ?_⟩
      rw [ServerState.handle_outcome, hstep, hresult]
      rfl

end Request

/-- Whatever is listed for some lines is listed for more lines. -/
theorem exists_action_of_wider {engine : Engine} {document : Document} {range wider : Range}
    {narrow wide : Transition} (hnarrow : narrow.OffersFixAll engine document range)
    (hwide : wide.OffersFixAll engine document wider)
    (hstart : wider.start.line ≤ range.start.line) (hstop : range.stop.line ≤ wider.stop.line)
    {actions actions' : List CodeAction}
    (hactions : narrow.outcome.2 = .ok ⟨.codeAction actions, []⟩)
    (hactions' : wide.outcome.2 = .ok ⟨.codeAction actions', []⟩) {action : CodeAction}
    (hmem : action ∈ actions) :
    ∃ action' ∈ actions', action.diagnostics.Sublist action'.diagnostics := by
  have hshows : document.ShowsOn range := by
    by_contra hnot
    have hlength := hnarrow.offered actions hactions
    rw [if_neg hnot, List.length_eq_zero_iff] at hlength
    rw [hlength] at hmem
    cases hmem
  have hshowsWider : document.ShowsOn wider := by
    obtain ⟨diagnostic, hdiagnostic, hfirst, hlast⟩ := hshows
    exact ⟨diagnostic, hdiagnostic, hstart.trans hfirst, hlast.trans hstop⟩
  have hlength := hwide.offered actions' hactions'
  rw [if_pos hshowsWider, List.length_eq_one_iff] at hlength
  obtain ⟨action', rfl⟩ := hlength
  refine ⟨action', List.mem_singleton_self action', ?_⟩
  rw [hnarrow.listed actions hactions action hmem,
    hwide.listed _ hactions' action' (List.mem_singleton_self action')]
  exact document.shownOn_sublist hstart hstop

/-- In every state that is reached, all diagnostics that are kept lie on one line and are ten
characters wide.  So a request for the fixes of an open document offers one action exactly if a
diagnostic is shown on one of the requested lines; the action lists these diagnostics, the engine
is called once for it, and what is listed for some lines is listed for more lines. -/
theorem fix_all_offered_for_shown_lines (factory : EngineFactory) (messages : List Message) :
    (∀ document ∈ (ServerState.reached factory {} messages).store.documents,
      ∀ diagnostic ∈ document.diagnostics,
        diagnostic.range.stop.line = diagnostic.range.start.line ∧
          diagnostic.range.stop.character = diagnostic.range.start.character + 10) ∧
    ∀ session uri document,
      (ServerState.reached factory {} messages).session = some session →
      (ServerState.reached factory {} messages).store.get? uri = some document →
      (∀ range, ((ServerState.reached factory {} messages).handle factory
        (.codeAction uri range)).OffersFixAll (factory session.root) document range) ∧
      ∀ range wider : Range, wider.start.line ≤ range.start.line →
        range.stop.line ≤ wider.stop.line → ∀ actions actions',
        ((ServerState.reached factory {} messages).step factory (.codeAction uri range)).2 =
          .ok ⟨.codeAction actions, []⟩ →
        ((ServerState.reached factory {} messages).step factory (.codeAction uri wider)).2 =
          .ok ⟨.codeAction actions', []⟩ →
        ∀ action ∈ actions, ∃ action' ∈ actions',
          action.diagnostics.Sublist action'.diagnostics := by
  have hnarrow := isNarrow_reached factory messages
  refine ⟨?_, ?_⟩
  · intro document hmem
    exact hnarrow document.uri document (Store.get?_of_mem hmem)
  · intro session uri document hsession hget
    have hoffers := offersFixAll_handle factory hsession hget
      (hnarrow uri document hget)
    refine ⟨hoffers, ?_⟩
    intro range wider hstart hstop actions actions' hactions hactions' action hmem
    exact exists_action_of_wider (hoffers range) (hoffers wider) hstart hstop hactions hactions'
      hmem

/-! ## A document with a diagnostic on its third line -/

/-- An engine that finds an offense on the third line and one that has no place. -/
def scatteredScript : Script where
  lint := [.ok [{ severity := .warning, location := some ⟨3, 5⟩ }, { severity := .error }]]
  autocorrect := [.ok "%%"]

/-- The document of the run. -/
def scatteredUri : Uri := { scheme := "file", path := .segments ["a.y"] }

/-- A run that opens the document before it starts the session, and then saves it. -/
def scatteredMessages : List Message :=
  [.didOpen scatteredUri "%%\n\ns : A ;" 1, .start {}, .didSave scatteredUri none]

/-- The fix is offered on the third line, wherever in it, and not for the lines after it. -/
theorem scatteredMessages_fix_offered :
    let factory : EngineFactory := fun _ => .scripted scatteredScript
    let state := ServerState.reached factory {} scatteredMessages
    ∃ document, state.store.get? scatteredUri = some document ∧
      document.ShowsOn ⟨⟨2, 8⟩, ⟨2, 8⟩⟩ ∧ ¬ document.ShowsOn ⟨⟨3, 0⟩, ⟨9, 0⟩⟩ ∧
      ∀ range, (state.handle factory (.codeAction scatteredUri range)).OffersFixAll
        (.scripted scatteredScript) document range := by
  intro factory state
  have hshows : (state.store.get? scatteredUri).map (fun document =>
      (decide (document.ShowsOn ⟨⟨2, 8⟩, ⟨2, 8⟩⟩), decide (document.ShowsOn ⟨⟨3, 0⟩, ⟨9, 0⟩⟩))) =
      some (true, false) := by decide
  obtain ⟨document, hget, heq⟩ := Option.map_eq_some_iff.mp hshows
  rw [Prod.mk.injEq, decide_eq_true_iff, decide_eq_false_iff_not] at heq
  refine ⟨document, hget, heq.1, heq.2, ?_⟩
  exact ((fix_all_offered_for_shown_lines factory scatteredMessages).2 ⟨none⟩ scatteredUri document
    (by decide) hget).1

end GrammarServer
