import GrammarServer.Engine.Scripted
import GrammarServer.Proofs.Effect

/-!
# The server, one document at a time

What a message does to the document it is about, and what it is answered, depends on that
document, on the engine of the session and on the log of engine calls.  This file writes
the dependence out as a function of these three, and shows that the server follows it.
Comparisons of two runs then compare documents and do not open the handlers.

Main results:

- Theorem `session_step`: only a start changes the session, and only if there is none.
- Theorem `step_eq_respond`: a message leaves its document, and is answered, as
  `Message.respond` says.
- Theorem `respond_of_memoryless`: with an engine that has no memory, the log of earlier
  calls plays no part.
-/

namespace GrammarServer

/-! ## Answers that are computed from a document -/

/-- The answer computed from a document, or from the fact that it is not open. -/
def answerFrom {α : Type} (reply : α → Reply) (absent : α)
    (compute : Document → Except Crash α) : Option Document → Except ServerError Answer
  | none => ServerState.answer reply (.ok absent)
  | some document => ServerState.answer reply (compute document)

/-- What a request that reads a document answers when it finds the document so. -/
def Message.readAnswer : Message → Option Document → Except ServerError Answer
  | .hover _ position =>
    answerFrom .hover none fun document => .ok (document.hover? position)
  | .completion _ => answerFrom .completion [] fun document => .ok document.completions
  | .definition _ position =>
    answerFrom .definition none fun document => document.definition? position
  | .references _ position withDeclaration =>
    answerFrom .references [] fun document => document.references position withDeclaration
  | .documentSymbol _ => answerFrom .documentSymbol [] fun document => document.outline
  | .rename _ position newName =>
    answerFrom .rename none fun document => document.rename? position newName
  | .semanticTokens _ =>
    answerFrom .semanticTokens [] fun document => .ok document.highlights
  | .foldingRange _ => answerFrom .foldingRange [] fun document => document.folds
  | _ => fun _ => .ok ⟨.empty, []⟩

/-- What a request that asks the engine about a document answers. -/
def Message.consultAnswer (engine : Engine) (log : List Call) :
    Message → Option Document → Except ServerError Answer
  | .formatting _ =>
    answerFrom .formatting none fun document => (engine.formatDocument log document).result
  | .codeAction _ range =>
    answerFrom .codeAction [] fun document => (engine.fixAll log document range).result
  | _ => fun _ => .ok ⟨.empty, []⟩

/-! ## What a message does to its document -/

/-- The document that a message has analyzed: the old one with the text that the message
brings.  There is none when the message is ignored. -/
def Message.revise? (message : Message) (document : Option Document) : Option Document :=
  match message with
  | .didOpen uri text version => some (.fresh uri text version)
  | .didChange _ version changes =>
    match document, changes.getLast? with
    | some old, some text =>
      if version < old.version then none else some (old.withText text version)
    | _, _ => none
  | .didSave _ text => document.map fun old =>
    match text with
    | some text => old.withText text old.version
    | none => old
  | _ => none

/-- A document after its analysis; only a completed lint changes its diagnostics. -/
def Document.showing (document : Document) :
    Except Crash (Option (List Diagnostic)) → Document
  | .ok (some diagnostics) => { document with diagnostics := diagnostics }
  | _ => document

/-- What an analysis of a document answers: its diagnostics are published under the
version of the document. -/
def Document.analysisAnswer (document : Document) (uri : Uri) :
    Except Crash (Option (List Diagnostic)) → Except ServerError Answer
  | .error crash => .error (.crashed crash)
  | .ok none => .ok ⟨.empty, []⟩
  | .ok (some diagnostics) => .ok ⟨.empty, [⟨uri, diagnostics, some document.version⟩]⟩

/-- What becomes of a document that is analyzed, and the answer. -/
def Document.analyze (document : Document) (engine : Option Engine) (log : List Call)
    (uri : Uri) : Document × Except ServerError Answer :=
  match engine with
  | none => (document, .error .notInitialized)
  | some engine =>
    let found := (engine.lintDocument log uri document.text).result
    (document.showing found, document.analysisAnswer uri found)

/-- What becomes of a document without a grammar that is parsed, and what the request
that needed the grammar is answered. -/
def Message.parseAndAnswer (message : Message) (document : Document) :
    CallResult Grammar → Document × Except ServerError Answer
  | .crashed => (document, .error (.crashed .engineCrash))
  | .failed => (document, message.readAnswer (some document))
  | .ok grammar =>
    let parsed := { document with grammar := some grammar }
    (parsed, message.readAnswer (some parsed))

/-- What a request that reads a document makes of the document, and what it is answered:
only a document without a grammar is parsed. -/
def Message.readWith (message : Message) (engine : Engine) (log : List Call) (uri : Uri) :
    Option Document → Option Document × Except ServerError Answer
  | none => (none, message.readAnswer none)
  | some document =>
    match document.grammar with
    | some _ => (some document, message.readAnswer (some document))
    | none =>
      let parsed := engine.parse log document.text uri.filename
      (message.parseAndAnswer document parsed).map some id

/-- What a message about a document makes of the document, and what it is answered.
Without an engine the session has not started. -/
def Message.respond (message : Message) (engine : Option Engine) (log : List Call)
    (document : Option Document) : Option Document × Except ServerError Answer :=
  match message.role with
  | .general => (document, .ok ⟨.empty, []⟩)
  | .close uri => (none, .ok ⟨.empty, [⟨uri, [], none⟩]⟩)
  | .update uri =>
    match message.revise? document with
    | none => (document, .ok ⟨.empty, []⟩)
    | some revised => (revised.analyze engine log uri).map some id
  | .consult _ =>
    match engine with
    | none => (document, .error .notInitialized)
    | some engine => (document, message.consultAnswer engine log document)
  | .read uri =>
    match engine with
    | none => (document, .error .notInitialized)
    | some engine => message.readWith engine log uri document

/-! ## The server follows it -/

/-- The document that an update leaves to be analyzed is the revised one, and there is
none exactly if the message is ignored. -/
theorem Store.map_get?_update? {message : Message} {uri : Uri} (store : Store)
    (hrole : message.role = .update uri) :
    (store.update? message).map (·.get? uri) =
      (message.revise? (store.get? uri)).map some := by
  cases message with
  | didOpen opened text version =>
    obtain rfl : opened = uri := by simpa [Message.role] using hrole
    simp [update?, Message.revise?]
  | didChange changed version changes =>
    obtain rfl : changed = uri := by simpa [Message.role] using hrole
    cases hlast : changes.getLast? with
    | none => cases store.get? changed <;> simp [update?, Message.revise?, hlast]
    | some text =>
      cases hget : store.get? changed with
      | none => simp [update?, Message.revise?, hlast, change?, hget]
      | some old =>
        by_cases hstale : version < old.version
        · simp [update?, Message.revise?, hlast, change?, hget, hstale]
        · have hchange := change?_of_le hget (Int.not_lt.mp hstale) text
          simp [update?, Message.revise?, hlast, hchange, hstale,
            get?_of_change? hget hchange]
  | didSave saved text =>
    obtain rfl : saved = uri := by simpa [Message.role] using hrole
    cases hget : store.get? saved with
    | none => simp [update?, Message.revise?, hget]
    | some old =>
      cases text with
      | none => simp [update?, Message.revise?, hget]
      | some text =>
        have hchange := change?_of_le hget (Int.le_refl _) text
        simp [update?, Message.revise?, hget, hchange, get?_of_change? hget hchange]
  | _ => simp [Message.role] at hrole

namespace ServerState

/-- The engine of the session, once it has started. -/
def engine? (factory : EngineFactory) (state : ServerState) : Option Engine :=
  state.session.map fun session => factory session.root

variable {factory : EngineFactory} {state : ServerState} {message : Message} {uri : Uri}

/-- An analysis does to its document, and answers, what the document alone determines. -/
theorem analyzeAndAnswer_eq_analyze {document : Document}
    (hget : state.store.get? uri = some document) :
    ((state.analyzeAndAnswer factory uri).1.store.get? uri,
        (state.analyzeAndAnswer factory uri).2) =
      (document.analyze (state.engine? factory) state.calls uri).map some id := by
  cases hsession : state.session with
  | none =>
    simp [analyzeAndAnswer, analyze, engine?, Document.analyze, hsession, hget]
  | some session =>
    simp only [analyzeAndAnswer, analyze, engine?, Document.analyze, hsession, hget,
      Option.map_some]
    cases ((factory session.root).lintDocument state.calls uri document.text).result with
    | error crash => simp [Document.showing, Document.analysisAnswer, hget]
    | ok found =>
      cases found with
      | none => simp [Document.showing, Document.analysisAnswer, hget]
      | some diagnostics =>
        simp [Document.showing, Document.analysisAnswer,
          Store.get?_setDiagnostics_self hget diagnostics]

/-- A request to the engine is answered from the document alone. -/
theorem consult_eq {α : Type} (reply : α → Reply) (absent : α)
    (ask : Engine → Document → EngineRun α) :
    (state.consult factory uri reply absent ask).2 =
      match state.engine? factory with
      | none => .error .notInitialized
      | some engine =>
        answerFrom reply absent (fun document => (ask engine document).result)
          (state.store.get? uri) := by
  unfold consult engine?
  cases state.session with
  | none => rfl
  | some session => cases state.store.get? uri <;> rfl

/-- A request that reads a document parses on demand, then answers from the document. -/
theorem read_eq {α : Type} (reply : α → Reply) (absent : α)
    (compute : Document → Except Crash α) :
    state.read factory uri reply absent compute =
      ((state.ensureGrammar factory uri).1,
        (state.ensureGrammar factory uri).2.bind fun _ =>
          answerFrom reply absent compute
            ((state.ensureGrammar factory uri).1.store.get? uri)) := by
  unfold read
  split
  case h_1 parsed error h => simp [h, Except.bind]
  case h_2 parsed h =>
    simp only [h, Except.bind]
    cases parsed.store.get? uri <;> rfl

/-- Each of the eight requests that read a document parses on demand, then answers from
the document. -/
theorem step_eq_of_role_read (hrole : message.role = .read uri) :
    state.step factory message =
      ((state.ensureGrammar factory uri).1,
        (state.ensureGrammar factory uri).2.bind fun _ =>
          message.readAnswer ((state.ensureGrammar factory uri).1.store.get? uri)) := by
  cases message <;> simp only [Message.role, Role.read.injEq, reduceCtorEq] at hrole <;>
    subst hrole <;> exact read_eq _ _ _

/-- Each of the three messages that may bring a text is ignored or has its document
analyzed with the text taken over. -/
theorem step_eq_of_role_update (hrole : message.role = .update uri) :
    state.step factory message =
      match state.store.update? message with
      | none => (state, .ok ⟨.empty, []⟩)
      | some updated => (state.withStore updated).analyzeAndAnswer factory uri := by
  rcases step_update factory state hrole with ⟨hignored, hstep⟩ | ⟨updated, hupdated, hstep⟩
  · rw [hstep, hignored]
  · rw [hstep, hupdated]

/-- Parsing on demand, and the answer that follows it, depend on the document alone. -/
theorem step_eq_respond_of_read (hrole : message.role = .read uri) :
    ((state.step factory message).1.store.get? uri, (state.step factory message).2) =
      message.respond (state.engine? factory) state.calls (state.store.get? uri) := by
  rw [step_eq_of_role_read hrole]
  simp only [Message.respond, hrole, engine?, ensureGrammar]
  cases hsession : state.session with
  | none => simp [Except.bind]
  | some session =>
    cases hget : state.store.get? uri with
    | none => simp [hget, Except.bind, Message.readWith]
    | some document =>
      cases hgrammar : document.grammar with
      | some grammar => simp [hget, hgrammar, Except.bind, Message.readWith]
      | none =>
        simp only [hgrammar, Option.map_some, Message.readWith]
        cases (factory session.root).parse state.calls document.text uri.filename with
        | crashed => simp [hget, Except.bind, Message.parseAndAnswer]
        | failed => simp [hget, Except.bind, Message.parseAndAnswer]
        | ok grammar =>
          simp [Except.bind, Message.parseAndAnswer, Store.get?_setGrammar_self hget grammar]

/-- A message leaves its document, and is answered, as `Message.respond` says: nothing
depends on the other documents. -/
theorem step_eq_respond (factory : EngineFactory) (state : ServerState)
    (huri : message.uri? = some uri) :
    ((state.step factory message).1.store.get? uri, (state.step factory message).2) =
      message.respond (state.engine? factory) state.calls (state.store.get? uri) := by
  rw [Message.uri?_eq_role_uri?] at huri
  cases hrole : message.role with
  | general => simp [hrole, Role.uri?] at huri
  | close closed =>
    obtain rfl : closed = uri := by simpa [hrole, Role.uri?] using huri
    obtain rfl := Message.eq_didClose_of_role hrole
    simp [step, Message.respond, Message.role]
  | consult consulted =>
    obtain rfl : consulted = uri := by simpa [hrole, Role.uri?] using huri
    rw [(step_consult factory state hrole).1]
    cases message with
    | formatting formatted =>
      obtain rfl : formatted = consulted := by simpa [Message.role] using hrole
      simp only [step, consult_eq, Message.respond, Message.role]
      cases state.engine? factory <;> rfl
    | codeAction fixed range =>
      obtain rfl : fixed = consulted := by simpa [Message.role] using hrole
      simp only [step, consult_eq, Message.respond, Message.role]
      cases state.engine? factory <;> rfl
    | _ => simp [Message.role] at hrole
  | read readUri =>
    obtain rfl : readUri = uri := by simpa [hrole, Role.uri?] using huri
    exact step_eq_respond_of_read hrole
  | update updatedUri =>
    obtain rfl : updatedUri = uri := by simpa [hrole, Role.uri?] using huri
    have hrevise := Store.map_get?_update? state.store hrole
    rw [step_eq_of_role_update hrole]
    simp only [Message.respond, hrole]
    cases hupdated : state.store.update? message with
    | none =>
      have hnone : message.revise? (state.store.get? updatedUri) = none := by
        simpa [hupdated] using hrevise.symm
      rw [hnone]
    | some updated =>
      rw [hupdated, Option.map_some, eq_comm, Option.map_eq_some_iff] at hrevise
      rcases hrevise with ⟨revised, hrevised, hget⟩
      rw [hrevised]
      exact analyzeAndAnswer_eq_analyze hget.symm

/-! ## The session -/

/-- Parsing on demand keeps the session. -/
theorem session_ensureGrammar (factory : EngineFactory) (state : ServerState) (uri : Uri) :
    (state.ensureGrammar factory uri).1.session = state.session := by
  rcases ensureGrammar_cases factory state uri with
    ⟨_, h⟩ | ⟨_, _, _, _, _, _, ⟨_, _, h⟩ | ⟨_, h⟩⟩ <;> rw [h] <;> rfl

/-- An analysis keeps the session. -/
theorem session_analyzeAndAnswer (factory : EngineFactory) (state : ServerState) (uri : Uri) :
    (state.analyzeAndAnswer factory uri).1.session = state.session := by
  rcases analyze_cases factory state uri with
    ⟨⟨h, _⟩, _⟩ | ⟨_, _, _, _, ⟨h, _⟩ | ⟨_, _, _, _, h, _⟩⟩ <;> rw [h] <;> rfl

/-- A request to the engine keeps the session. -/
theorem session_consult {α : Type} (reply : α → Reply) (absent : α)
    (ask : Engine → Document → EngineRun α) :
    (state.consult factory uri reply absent ask).1.session = state.session := by
  unfold consult
  cases hsession : state.session with
  | none => exact hsession
  | some session => cases state.store.get? uri <;> exact hsession

/-- The session after a message: a start begins one if there is none, and no other
message touches it. -/
def sessionAfter (session : Option Session) : Message → Option Session
  | .start params => some (session.getD ⟨params.workspaceRoot?⟩)
  | _ => session

/-- A session that has started stays. -/
@[simp]
theorem sessionAfter_some (session : Session) (message : Message) :
    sessionAfter (some session) message = some session := by
  cases message <;> rfl

/-- A message about a document keeps the session. -/
theorem sessionAfter_of_role_ne (hrole : message.role ≠ .general) (session : Option Session) :
    sessionAfter session message = session := by
  cases message <;> simp_all [sessionAfter, Message.role]

/-- Only a start changes the session, and only if there is none. -/
theorem session_step (factory : EngineFactory) (state : ServerState) (message : Message) :
    (state.step factory message).1.session = sessionAfter state.session message := by
  cases hrole : message.role with
  | general =>
    cases message with
    | start params => cases h : state.session <;> simp [step, start, sessionAfter, h]
    | started => rfl
    | shutdown => rfl
    | workspaceSymbol query => rfl
    | _ => simp [Message.role] at hrole
  | close closed =>
    obtain rfl := Message.eq_didClose_of_role hrole
    rfl
  | consult consulted =>
    cases message with
    | formatting formatted => exact session_consult _ _ _
    | codeAction fixed range => exact session_consult _ _ _
    | _ => simp [Message.role] at hrole
  | read readUri =>
    rw [(step_read factory state hrole).1, session_ensureGrammar,
      sessionAfter_of_role_ne (by simp [hrole])]
  | update updatedUri =>
    rw [sessionAfter_of_role_ne (by simp [hrole]), step_eq_of_role_update hrole]
    cases state.store.update? message with
    | none => rfl
    | some updated => exact session_analyzeAndAnswer factory _ updatedUri

/-- The engine of a session stays. -/
theorem mem_engine?_step (message : Message) :
    ∀ engine ∈ state.engine? factory, engine ∈ (state.step factory message).1.engine? factory := by
  intro engine hengine
  obtain ⟨session, hsession, rfl⟩ := Option.map_eq_some_iff.mp hengine
  simp [engine?, session_step, hsession]

end ServerState

/-! ## Engines without memory -/

namespace Engine

variable {engine : Engine}

/-- The diagnostics of a text do not depend on earlier calls. -/
theorem Memoryless.lintDocument_eq (h : engine.Memoryless) (log : List Call) (uri : Uri)
    (text : String) : engine.lintDocument log uri text = engine.lintDocument [] uri text := by
  simp only [lintDocument, h.2.1 log]

/-- The formatting of a document does not depend on earlier calls. -/
theorem Memoryless.formatDocument_eq (h : engine.Memoryless) (log : List Call)
    (document : Document) :
    engine.formatDocument log document = engine.formatDocument [] document := by
  simp only [formatDocument, h.2.2.1 log]

/-- The correction of a document does not depend on earlier calls. -/
theorem Memoryless.fixAll_eq (h : engine.Memoryless) (log : List Call) (document : Document)
    (range : Text.Range) :
    engine.fixAll log document range = engine.fixAll [] document range := by
  simp only [fixAll, correct, h.2.2.2 log]

end Engine

/-- A list of at most one result gives the same result at every call. -/
theorem nextResult_of_length_le_one {α : Type} {results : List (CallResult α)}
    (h : results.length ≤ 1) (otherwise : CallResult α) (earlier : Nat) :
    nextResult results otherwise earlier = nextResult results otherwise 0 := by
  have hindex : min earlier (results.length - 1) = min 0 (results.length - 1) := by omega
  rw [nextResult, nextResult, hindex]

/-- An engine whose script has at most one result for each operation has no memory. -/
theorem memoryless_scripted {script : Script} (hparse : script.parse.length ≤ 1)
    (hlint : script.lint.length ≤ 1) (hformat : script.format.length ≤ 1)
    (hautocorrect : script.autocorrect.length ≤ 1) : (Engine.scripted script).Memoryless :=
  ⟨fun _ _ _ => nextResult_of_length_le_one hparse _ _,
    fun _ _ _ => nextResult_of_length_le_one hlint _ _,
    fun _ _ _ => nextResult_of_length_le_one hformat _ _,
    fun _ _ _ => nextResult_of_length_le_one hautocorrect _ _⟩

/-- If no engine has a memory, neither has the engine of the session. -/
theorem ServerState.memoryless_of_mem_engine? {factory : EngineFactory}
    (hengine : ∀ root, (factory root).Memoryless) (state : ServerState) :
    ∀ engine ∈ state.engine? factory, engine.Memoryless := by
  intro engine hsession
  obtain ⟨session, _, rfl⟩ := Option.map_eq_some_iff.mp hsession
  exact hengine session.root

/-- With an engine that has no memory, the log of earlier calls plays no part. -/
theorem respond_of_memoryless {engine : Option Engine}
    (h : ∀ found ∈ engine, found.Memoryless) (message : Message) (log : List Call)
    (document : Option Document) :
    message.respond engine log document = message.respond engine [] document := by
  cases engine with
  | none => simp only [Message.respond, Document.analyze]
  | some engine =>
    have hengine : engine.Memoryless := h engine rfl
    have hconsult : message.consultAnswer engine log = message.consultAnswer engine [] := by
      cases message <;> simp only [Message.consultAnswer, hengine.formatDocument_eq log,
        hengine.fixAll_eq log]
    have hread : ∀ uri, message.readWith engine log uri = message.readWith engine [] uri := by
      intro uri
      funext found
      cases found <;> simp only [Message.readWith, hengine.1 log]
    simp only [Message.respond, Document.analyze, hengine.lintDocument_eq log, hconsult, hread]

end GrammarServer
