import GrammarServer.Server.Message

/-!
# The server

The server handles one message at a time.  It keeps the open documents, the session
once it has started, and the log of engine calls.  Whatever a message has written before
it fails or crashes stays written.
-/

namespace GrammarServer

/-- A session: the workspace it was started for. -/
structure Session where
  root : Option String
deriving DecidableEq, Repr

/-- The state of the server between two messages. -/
structure ServerState where
  store : Store := .empty
  session : Option Session := none
  /-- The workspaces for which an engine has been built. -/
  engines : List (Option String) := []
  /-- All engine calls so far. -/
  calls : List Call := []

/-- How the engine of a workspace is built. -/
abbrev EngineFactory := Option String → Engine

/-- The outcome of handling a message. -/
abbrev Outcome (α : Type) := ServerState × Except ServerError α

namespace ServerState

/-- The state with more engine calls in its log. -/
def record (state : ServerState) (calls : List Call) : ServerState :=
  { state with calls := state.calls ++ calls }

/-- The state with another store. -/
def withStore (state : ServerState) (store : Store) : ServerState :=
  { state with store := store }

/-! ## Parts of handlers -/

/-- Lint a document, remember its diagnostics and publish them.  When the engine fails,
nothing changes and nothing is published. -/
def analyze (factory : EngineFactory) (state : ServerState) (uri : Uri) :
    Outcome (List Publication) :=
  match state.session with
  | none => (state, .error .notInitialized)
  | some session =>
    match state.store.get? uri with
    | none => (state, .ok [])
    | some document =>
      let run := (factory session.root).lintDocument state.calls uri document.text
      let state := state.record run.calls
      match run.result with
      | .error crash => (state, .error (.crashed crash))
      | .ok none => (state, .ok [])
      | .ok (some diagnostics) =>
        (state.withStore (state.store.setDiagnostics uri diagnostics),
          .ok [⟨uri, diagnostics, some document.version⟩])

/-- Analyze a document and answer with what is published. -/
def analyzeAndAnswer (factory : EngineFactory) (state : ServerState) (uri : Uri) :
    Outcome Answer :=
  match state.analyze factory uri with
  | (state, .ok published) => (state, .ok ⟨.empty, published⟩)
  | (state, .error error) => (state, .error error)

/-- Parse a document that has no grammar.  When the engine fails the document stays
without one, and the next request tries again. -/
def ensureGrammar (factory : EngineFactory) (state : ServerState) (uri : Uri) :
    Outcome Unit :=
  match state.session with
  | none => (state, .error .notInitialized)
  | some session =>
    match state.store.get? uri with
    | none => (state, .ok ())
    | some document =>
      match document.grammar with
      | some _ => (state, .ok ())
      | none =>
        let filename := uri.filename
        let parsed := (factory session.root).parse state.calls document.text filename
        let state := state.record [⟨.parse, document.text, filename⟩]
        match parsed with
        | .crashed => (state, .error (.crashed .engineCrash))
        | .failed => (state, .ok ())
        | .ok grammar => (state.withStore (state.store.setGrammar uri grammar), .ok ())

/-- Turn the result of a feature into an answer. -/
def answer {α : Type} (reply : α → Reply) : Except Crash α → Except ServerError Answer
  | .ok value => .ok ⟨reply value, []⟩
  | .error crash => .error (.crashed crash)

/-- Answer a request that reads a document: parse the document if needed, then compute
the reply.  A document that is not open gives the `absent` value. -/
def read {α : Type} (factory : EngineFactory) (state : ServerState) (uri : Uri)
    (reply : α → Reply) (absent : α) (compute : Document → Except Crash α) :
    Outcome Answer :=
  match state.ensureGrammar factory uri with
  | (state, .error error) => (state, .error error)
  | (state, .ok ()) =>
    match state.store.get? uri with
    | none => (state, answer reply (.ok absent))
    | some document => (state, answer reply (compute document))

/-- Answer a request that calls the engine for a document.  A document that is not open
gives the `absent` value. -/
def consult {α : Type} (factory : EngineFactory) (state : ServerState) (uri : Uri)
    (reply : α → Reply) (absent : α) (call : Engine → Document → EngineRun α) :
    Outcome Answer :=
  match state.session with
  | none => (state, .error .notInitialized)
  | some session =>
    match state.store.get? uri with
    | none => (state, answer reply (.ok absent))
    | some document =>
      let run := call (factory session.root) document
      (state.record run.calls, answer reply run.result)

/-! ## Handlers -/

/-- Start the session; a session that has started stays as it is. -/
def start (state : ServerState) (params : StartParams) : ServerState :=
  match state.session with
  | some _ => state
  | none =>
    let root := params.workspaceRoot?
    { state with session := some ⟨root⟩, engines := state.engines ++ [root] }

/-- Take over the last of the changed texts and analyze it.  Changes of an unknown
document or an older version are ignored. -/
def didChange (factory : EngineFactory) (state : ServerState) (uri : Uri) (version : Int)
    (changes : List String) : Outcome Answer :=
  match changes.getLast? with
  | none => (state, .ok ⟨.empty, []⟩)
  | some text =>
    match state.store.change? uri text version with
    | none => (state, .ok ⟨.empty, []⟩)
    | some store => (state.withStore store).analyzeAndAnswer factory uri

/-- Take over the saved text, if it comes along, and analyze the document. -/
def didSave (factory : EngineFactory) (state : ServerState) (uri : Uri)
    (text : Option String) : Outcome Answer :=
  match state.store.get? uri with
  | none => (state, .ok ⟨.empty, []⟩)
  | some document =>
    let saved := match text with
      | some text => (state.store.change? uri text document.version).getD state.store
      | none => state.store
    (state.withStore saved).analyzeAndAnswer factory uri

/-- Handle a message. -/
def step (factory : EngineFactory) (state : ServerState) : Message → Outcome Answer
  | .start params => (state.start params, .ok ⟨.empty, []⟩)
  | .started => (state, .ok ⟨.empty, []⟩)
  | .shutdown => (state, .ok ⟨.empty, []⟩)
  | .didOpen uri text version =>
    (state.withStore (state.store.insert uri text version)).analyzeAndAnswer factory uri
  | .didChange uri version changes => state.didChange factory uri version changes
  | .didSave uri text => state.didSave factory uri text
  | .didClose uri =>
    (state.withStore (state.store.erase uri), .ok ⟨.empty, [⟨uri, [], none⟩]⟩)
  | .formatting uri =>
    state.consult factory uri .formatting none fun engine document =>
      engine.formatDocument state.calls document
  | .codeAction uri range =>
    state.consult factory uri .codeAction [] fun engine document =>
      engine.fixAll state.calls document range
  | .hover uri position =>
    state.read factory uri .hover none fun document => .ok (document.hover? position)
  | .completion uri =>
    state.read factory uri .completion [] fun document => .ok document.completions
  | .definition uri position =>
    state.read factory uri .definition none fun document => document.definition? position
  | .references uri position withDeclaration =>
    state.read factory uri .references [] fun document =>
      document.references position withDeclaration
  | .documentSymbol uri =>
    state.read factory uri .documentSymbol [] fun document => document.outline
  | .rename uri position newName =>
    state.read factory uri .rename none fun document => document.rename? position newName
  | .semanticTokens uri =>
    state.read factory uri .semanticTokens [] fun document => .ok document.highlights
  | .foldingRange uri =>
    state.read factory uri .foldingRange [] fun document => document.folds
  | .workspaceSymbol query => (state, answer .workspaceSymbol (state.store.search query))

/-- Handle messages one after the other; the outcomes in order. -/
def run (factory : EngineFactory) (state : ServerState) : List Message → List (Outcome Answer)
  | [] => []
  | message :: rest =>
    let outcome := state.step factory message
    outcome :: outcome.1.run factory rest

end ServerState

end GrammarServer
