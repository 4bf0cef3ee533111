import GrammarServer.Proofs.Locality
import Mathlib.Data.List.Forall2

/-!
# A crash is no worse than a failure

A message whose handling breaks off leaves the server as it was at that moment.  This file
compares an engine that crashes with the tamed one, which fails wherever the first crashes:
the server passes through the same states with both, and only the messages during which the
engine crashed are answered differently.  Diagnostics that cannot be written are no worse
either: they leave the state that a failed lint leaves.

Main results:

- Theorem `analyzeAndAnswer_tamed`, Theorem `ensureGrammar_tamed`, Theorem `consult_tamed`:
  the parts of handlers that call the engine.
- Theorem `step_tamed`: one message leaves the same state with both engines.
- Theorem `step_lintless`: diagnostics that cannot be written leave the state of a failed
  lint.
- Theorem `crash_is_no_worse_than_failure`: the statement for whole runs.
-/

namespace GrammarServer

/-! ## Taming an engine -/

/-- Whether a call ended in a crash. -/
def CallResult.isCrash {α : Type} : CallResult α → Bool
  | .crashed => true
  | .ok _ | .failed => false

/-- The result of a call, with another one in the place of a crash. -/
def CallResult.tamed {α : Type} (result instead : CallResult α) : CallResult α :=
  match result with
  | .crashed => instead
  | .ok value => .ok value
  | .failed => .failed

/-- The engine that fails wherever another one crashes.  A correction never fails: it
gives the source back. -/
def Engine.tamed (engine : Engine) : Engine where
  parse log source filename := (engine.parse log source filename).tamed .failed
  lint log source filename := (engine.lint log source filename).tamed .failed
  format log source filename := (engine.format log source filename).tamed .failed
  autocorrect log source filename :=
    (engine.autocorrect log source filename).tamed (.ok source)

/-- Build tamed engines only. -/
def EngineFactory.tamed (factory : EngineFactory) : EngineFactory :=
  fun root => (factory root).tamed

/-- Whether an engine crashes on a call that follows a log of earlier ones. -/
def Engine.crashesOn (engine : Engine) (log : List Call) (call : Call) : Bool :=
  match call.kind with
  | .parse => (engine.parse log call.source call.filename).isCrash
  | .lint => (engine.lint log call.source call.filename).isCrash
  | .format => (engine.format log call.source call.filename).isCrash
  | .autocorrect => (engine.autocorrect log call.source call.filename).isCrash

/-- Whether an engine crashes on one of several calls made after a log of earlier ones. -/
def Engine.crashesAmong (engine : Engine) (log : List Call) : List Call → Bool
  | [] => false
  | call :: rest => engine.crashesOn log call || engine.crashesAmong (log ++ [call]) rest

/-- Whether the engine crashed on one of the calls made between two states. -/
def ServerState.engineCrashed (factory : EngineFactory) (before after : ServerState) : Bool :=
  (before.engine? factory).any fun engine =>
    engine.crashesAmong before.calls (after.calls.drop before.calls.length)

/-- Two runs that make the same calls after a log of earlier ones and, unless the engine
crashes on one of them, have the same result. -/
def EngineRun.AgreeUnlessCrashed {α : Type} (engine : Engine) (log : List Call)
    (wild tame : EngineRun α) : Prop :=
  tame.calls = wild.calls ∧
    (engine.crashesAmong log wild.calls = false → tame.result = wild.result)

/-- Two outcomes that leave the same state and, unless the engine crashed on the way to
it, are the same altogether. -/
def ServerState.AgreeUnlessCrashed {α : Type} (factory : EngineFactory) (state : ServerState)
    (wild tame : Outcome α) : Prop :=
  tame.1 = wild.1 ∧ (state.engineCrashed factory wild.1 = false → tame.2 = wild.2)

/-! ## The engine's own operations -/

namespace EngineRun.AgreeUnlessCrashed

variable {α : Type} {engine : Engine} {log : List Call} {wild tame : EngineRun α}

/-- Runs that are the same agree. -/
theorem of_eq (h : tame = wild) : AgreeUnlessCrashed engine log wild tame := by
  subst h
  exact ⟨rfl, fun _ => rfl⟩

/-- Runs whose only call crashes agree whatever their results are. -/
theorem of_crash {call : Call} (hwild : wild.calls = [call]) (htame : tame.calls = [call])
    (hcrash : engine.crashesOn log call = true) : AgreeUnlessCrashed engine log wild tame := by
  refine ⟨by rw [hwild, htame], ?_⟩
  intro hquiet
  simp [hwild, Engine.crashesAmong, hcrash] at hquiet

end EngineRun.AgreeUnlessCrashed

namespace Engine

/-- Formatting makes the same call with the tamed engine, and differs only after a
crash. -/
theorem formatDocument_tamed (engine : Engine) (log : List Call) (document : Document) :
    EngineRun.AgreeUnlessCrashed engine log (engine.formatDocument log document)
      (engine.tamed.formatDocument log document) := by
  simp only [formatDocument, tamed]
  cases hformat : engine.format log document.text document.uri.filename with
  | ok formatted => cases formatted <;> exact .of_eq rfl
  | failed => exact .of_eq rfl
  | crashed => exact .of_crash rfl rfl (by simp [crashesOn, hformat, CallResult.isCrash])

/-- Fixing makes the same call with the tamed engine, and differs only after a crash. -/
theorem fixAll_tamed (engine : Engine) (log : List Call) (document : Document)
    (range : Text.Range) :
    EngineRun.AgreeUnlessCrashed engine log (engine.fixAll log document range)
      (engine.tamed.fixAll log document range) := by
  unfold fixAll
  cases diagnosticsIn range document.diagnostics with
  | nil => exact .of_eq rfl
  | cons first others =>
    simp only [correct, tamed]
    cases hfix : engine.autocorrect log document.text document.uri.filename with
    | ok corrected => exact .of_eq rfl
    | failed => exact .of_eq rfl
    | crashed => exact .of_crash rfl rfl (by simp [crashesOn, hfix, CallResult.isCrash])

end Engine

/-! ## The parts of handlers -/

namespace ServerState

/-- Between a state and the same state with calls recorded, the engine crashed exactly if
it crashes on these calls. -/
theorem engineCrashed_record {factory : EngineFactory} {state : ServerState}
    {session : Session} (hsession : state.session = some session) {after : ServerState}
    {calls : List Call} (hcalls : after.calls = state.calls ++ calls) :
    state.engineCrashed factory after =
      (factory session.root).crashesAmong state.calls calls := by
  simp [engineCrashed, engine?, hsession, hcalls]

section

variable {α : Type} {factory : EngineFactory} {state : ServerState} {wild tame : Outcome α}

/-- Outcomes that are the same agree. -/
theorem AgreeUnlessCrashed.of_eq (h : tame = wild) :
    AgreeUnlessCrashed factory state wild tame := by
  subst h
  exact ⟨rfl, fun _ => rfl⟩

/-- Outcomes with the same state agree, whatever their answers are, if the only call on
the way crashes. -/
theorem AgreeUnlessCrashed.of_crash {session : Session} {call : Call} (hstate : tame.1 = wild.1)
    (hsession : state.session = some session) (hcalls : wild.1.calls = state.calls ++ [call])
    (hcrash : (factory session.root).crashesOn state.calls call = true) :
    AgreeUnlessCrashed factory state wild tame := by
  refine ⟨hstate, ?_⟩
  intro hquiet
  rw [engineCrashed_record hsession hcalls] at hquiet
  simp [Engine.crashesAmong, hcrash] at hquiet

end

/-- An analysis leaves the same state with the tamed engine. -/
theorem analyzeAndAnswer_tamed (factory : EngineFactory) (state : ServerState) (uri : Uri) :
    AgreeUnlessCrashed factory state (state.analyzeAndAnswer factory uri)
      (state.analyzeAndAnswer factory.tamed uri) := by
  unfold analyzeAndAnswer analyze
  cases hsession : state.session with
  | none => exact .of_eq rfl
  | some session =>
    cases hget : state.store.get? uri with
    | none => exact .of_eq rfl
    | some document =>
      simp only [Engine.lintDocument, EngineFactory.tamed, Engine.tamed]
      cases hlint : (factory session.root).lint state.calls document.text uri.filename with
      | ok offenses => exact .of_eq rfl
      | failed => exact .of_eq rfl
      | crashed =>
        refine .of_crash rfl hsession rfl ?_
        simp [Engine.crashesOn, hlint, CallResult.isCrash]

/-- Parsing on demand leaves the same state with the tamed engine. -/
theorem ensureGrammar_tamed (factory : EngineFactory) (state : ServerState) (uri : Uri) :
    AgreeUnlessCrashed factory state (state.ensureGrammar factory uri)
      (state.ensureGrammar factory.tamed uri) := by
  unfold ensureGrammar
  cases hsession : state.session with
  | none => exact .of_eq rfl
  | some session =>
    cases hget : state.store.get? uri with
    | none => exact .of_eq rfl
    | some document =>
      cases hgrammar : document.grammar with
      | some grammar => exact .of_eq (by simp [hgrammar])
      | none =>
        simp only [hgrammar, EngineFactory.tamed, Engine.tamed]
        cases hparse : (factory session.root).parse state.calls document.text uri.filename with
        | ok grammar => exact .of_eq rfl
        | failed => exact .of_eq rfl
        | crashed =>
          refine .of_crash rfl hsession rfl ?_
          simp [Engine.crashesOn, hparse, CallResult.isCrash]

/-- A request to the engine leaves the same state with the tamed engine, if the engine's
own part of it does. -/
theorem consult_tamed {α : Type} {factory : EngineFactory} {state : ServerState} {uri : Uri}
    {reply : α → Reply} {absent : α} {ask : Engine → Document → EngineRun α}
    (hask : ∀ engine document, EngineRun.AgreeUnlessCrashed engine state.calls
      (ask engine document) (ask engine.tamed document)) :
    AgreeUnlessCrashed factory state (state.consult factory uri reply absent ask)
      (state.consult factory.tamed uri reply absent ask) := by
  unfold consult
  cases hsession : state.session with
  | none => exact .of_eq rfl
  | some session =>
    cases hget : state.store.get? uri with
    | none => exact .of_eq rfl
    | some document =>
      obtain ⟨hcalls, hresult⟩ := hask (factory session.root) document
      simp only [EngineFactory.tamed]
      refine ⟨by rw [hcalls], ?_⟩
      intro hquiet
      rw [engineCrashed_record hsession rfl] at hquiet
      rw [hresult hquiet]

end ServerState

/-! ## One message -/

namespace ServerState

/-- A message leaves the same state with the tamed engine and, unless the engine crashed
on a call of the message, is answered alike. -/
theorem step_tamed (factory : EngineFactory) (state : ServerState) (message : Message) :
    AgreeUnlessCrashed factory state (state.step factory message)
      (state.step factory.tamed message) := by
  cases hrole : message.role with
  | general =>
    cases message with
    | start params => exact .of_eq rfl
    | started => exact .of_eq rfl
    | shutdown => exact .of_eq rfl
    | workspaceSymbol query => exact .of_eq rfl
    | _ => simp [Message.role] at hrole
  | close closed =>
    obtain rfl := Message.eq_didClose_of_role hrole
    exact .of_eq rfl
  | consult consulted =>
    cases message with
    | formatting formatted =>
      exact consult_tamed fun engine document => engine.formatDocument_tamed _ document
    | codeAction fixed range =>
      exact consult_tamed fun engine document => engine.fixAll_tamed _ document range
    | _ => simp [Message.role] at hrole
  | read readUri =>
    obtain ⟨hstate, hresult⟩ := ensureGrammar_tamed factory state readUri
    rw [step_eq_of_role_read hrole, step_eq_of_role_read hrole]
    refine ⟨hstate, ?_⟩
    intro hquiet
    simp only [hstate, hresult hquiet]
  | update updatedUri =>
    rw [step_eq_of_role_update hrole, step_eq_of_role_update hrole]
    cases state.store.update? message with
    | none => exact .of_eq rfl
    | some updated => exact analyzeAndAnswer_tamed factory (state.withStore updated) updatedUri

end ServerState

/-! ## Diagnostics that cannot be written -/

/-- The engine whose lint always fails. -/
def Engine.lintless (engine : Engine) : Engine :=
  { engine with lint := fun _ _ _ => .failed }

/-- Build engines whose lint always fails. -/
def EngineFactory.lintless (factory : EngineFactory) : EngineFactory :=
  fun root => (factory root).lintless

/-- Whether a lint call for a document, made while a message was handled, returned
offenses of which one has no diagnostic. -/
def Transition.ConversionCrashed (factory : EngineFactory) (transition : Transition)
    (uri : Uri) : Prop :=
  ∃ lint ∈ transition.lints factory uri, ∃ offenses crash,
    lint.result = .ok offenses ∧ diagnosticsOf offenses = .error crash

namespace ServerState

variable {factory : EngineFactory} {state : ServerState} {message : Message} {uri : Uri}

/-- An analysis with a failing lint leaves everything but the log of calls. -/
theorem fst_analyzeAndAnswer_lintless {session : Session} {document : Document}
    (hsession : state.session = some session) (hget : state.store.get? uri = some document) :
    (state.analyzeAndAnswer factory.lintless uri).1 =
      state.record [⟨.lint, document.text, uri.filename⟩] := by
  simp [analyzeAndAnswer, analyze, hsession, hget, Engine.lintDocument, EngineFactory.lintless,
    Engine.lintless]

/-- An analysis whose offenses are not converted leaves the state that a failing lint
leaves. -/
theorem fst_analyzeAndAnswer_eq_lintless
    (h : ∀ session document, state.session = some session → state.store.get? uri = some document →
      ∀ offenses diagnostics,
        (factory session.root).lint state.calls document.text uri.filename = .ok offenses →
          diagnosticsOf offenses ≠ .ok diagnostics) :
    (state.analyzeAndAnswer factory uri).1 = (state.analyzeAndAnswer factory.lintless uri).1 := by
  rcases analyze_cases factory state uri with
    ⟨⟨hstate, _⟩, hidle⟩ | ⟨session, document, hsession, hget, hlint⟩
  · rcases analyze_cases factory.lintless state uri with
      ⟨⟨hlintless, _⟩, _⟩ | ⟨session, document, hsession, hget, _⟩
    · rw [hstate, hlintless]
    · simp [hsession, hget] at hidle
  · rw [fst_analyzeAndAnswer_lintless hsession hget]
    rcases hlint with ⟨hstate, _⟩ | ⟨offenses, diagnostics, hok, hconverted, _⟩
    · exact hstate
    · exact absurd hconverted (h session document hsession hget offenses diagnostics hok)

/-- An analysis of an open document in a session makes one lint call, on its text. -/
theorem calls_analyzeAndAnswer_eq {session : Session} {document : Document}
    (hsession : state.session = some session) (hget : state.store.get? uri = some document) :
    (state.analyzeAndAnswer factory uri).1.calls =
      state.calls ++ [⟨.lint, document.text, uri.filename⟩] := by
  rcases analyze_cases factory state uri with
    ⟨_, hidle⟩ | ⟨_, found, _, hfound, hlint⟩
  · simp [hsession, hget] at hidle
  · obtain rfl := Option.some.inj (hget.symm.trans hfound)
    rcases hlint with ⟨hstate, _⟩ | ⟨_, _, _, _, hstate, _⟩ <;> rw [hstate] <;> rfl

/-- A message that has its document analyzed makes one lint call, on the text it leaves. -/
theorem lints_handle {updated : Store} {session : Session} {document : Document}
    (hrole : message.role = .update uri) (hupdated : state.store.update? message = some updated)
    (hsession : state.session = some session) (hget : updated.get? uri = some document) :
    (state.handle factory message).lints factory uri =
      [⟨⟨.lint, document.text, uri.filename⟩,
        (factory session.root).lint state.calls document.text uri.filename⟩] := by
  have huri : message.uri? = some uri := by
    rw [Message.uri?_eq_role_uri?, hrole]
    rfl
  have hcalls : (state.handle factory message).calls =
      [⟨.lint, document.text, uri.filename⟩] := by
    apply calls_handle
    rw [step_eq_of_role_update hrole, hupdated]
    exact calls_analyzeAndAnswer_eq hsession hget
  exact Transition.answeredCalls_of_calls_eq_singleton hsession huri hcalls

/-- A message whose diagnostics cannot be written leaves the state that it leaves when
the lint fails. -/
theorem step_lintless (hrole : message.role = .update uri)
    (hcrashed : (state.handle factory message).ConversionCrashed factory uri) :
    (state.step factory message).1 = (state.step factory.lintless message).1 := by
  rw [step_eq_of_role_update hrole, step_eq_of_role_update hrole]
  cases hupdated : state.store.update? message with
  | none => rfl
  | some updated =>
    refine fst_analyzeAndAnswer_eq_lintless ?_
    intro session document hsession hget offenses diagnostics hok hconverted
    -- The only lint call of the message is the one whose offenses were not converted.
    obtain ⟨lint, hlint, found, crash, hfound, herror⟩ := hcrashed
    rw [lints_handle hrole hupdated hsession hget, List.mem_singleton] at hlint
    rw [hlint] at hfound
    obtain rfl := CallResult.ok.inj (hok.symm.trans hfound)
    rw [hconverted] at herror
    cases herror

end ServerState

/-! ## Whole runs -/

/-- Replacing the crashes of the engine by failures changes nothing but the answers to the
messages during which it crashed: after every message the two servers are in the same
state.  A message whose diagnostics cannot be written leaves the state that it leaves
when the lint fails. -/
theorem crash_is_no_worse_than_failure (factory : EngineFactory) (state : ServerState)
    (messages : List Message) :
    List.Forall₂
        (fun wild tame => tame.message = wild.message ∧
          wild.before.AgreeUnlessCrashed factory wild.outcome tame.outcome)
        (state.history factory messages) (state.history factory.tamed messages) ∧
      ∀ transition ∈ state.history factory messages, ∀ uri,
        transition.message.role = .update uri → transition.ConversionCrashed factory uri →
          transition.after =
            (transition.before.step factory.lintless transition.message).1 := by
  constructor
  · induction messages generalizing state with
    | nil => exact .nil
    | cons message rest ih =>
      have hstep := state.step_tamed factory message
      simp only [ServerState.history, hstep.1]
      exact .cons ⟨rfl, hstep⟩ (ih _)
  · intro transition htransition uri hrole hcrashed
    have hhandle := ServerState.eq_handle_of_mem_history htransition
    rw [hhandle] at hcrashed
    rw [hhandle]
    exact ServerState.step_lintless hrole hcrashed

/-! ## A run with crashes -/

/-- An engine that first finds an offense too far to the right for a diagnostic, then
crashes when it lints, and crashes on the first parse. -/
def unrulyScript : Script where
  parse := [.crashed, .ok .empty]
  lint := [.ok [{ severity := .error, location := some ⟨1, 4294967295⟩ }], .crashed]

/-- The document of the run. -/
def unrulyUri : Uri := { scheme := "file", path := .segments ["a.y"] }

/-- A run in which the second message has no diagnostics and the engine crashes on the
third and the fourth. -/
def unrulyMessages : List Message :=
  [.start {}, .didOpen unrulyUri "s: A ;" 1, .hover unrulyUri ⟨0, 3⟩,
    .didChange unrulyUri 2 ["%%"], .hover unrulyUri ⟨0, 0⟩]

/-- The crashes of the run leave the states of failures. -/
theorem unrulyMessages_no_worse :
    let factory : EngineFactory := fun _ => .scripted unrulyScript
    let history := ServerState.history factory {} unrulyMessages
    history.map (fun transition =>
        transition.before.engineCrashed factory transition.after) =
        [false, false, true, true, false] ∧
      (∃ opening ∈ history, opening.ConversionCrashed factory unrulyUri ∧
        opening.after = (opening.before.step factory.lintless opening.message).1) ∧
      List.Forall₂
        (fun wild tame => tame.message = wild.message ∧
          wild.before.AgreeUnlessCrashed factory wild.outcome tame.outcome)
        history (ServerState.history factory.tamed {} unrulyMessages) := by
  intro factory history
  have hnoWorse := crash_is_no_worse_than_failure factory {} unrulyMessages
  let started := (ServerState.step factory {} (.start {})).1
  let opening := started.handle factory (.didOpen unrulyUri "s: A ;" 1)
  have hmem : opening ∈ history := by
    simp [history, opening, started, ServerState.history, unrulyMessages]
  have hcrashed : opening.ConversionCrashed factory unrulyUri :=
    ⟨_, List.mem_singleton_self _, _, _, rfl, rfl⟩
  exact ⟨by decide, ⟨opening, hmem, hcrashed, hnoWorse.2 opening hmem unrulyUri rfl hcrashed⟩,
    hnoWorse.1⟩

end GrammarServer
