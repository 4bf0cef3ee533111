import GrammarServer.Proofs.History

/-!
# What one message does

Every message has one of five roles, and the messages of a role act on the server in the
same way.  The laws below say for each role what happens to the documents and to the log
of engine calls; statements about whole runs cite them and do not open the handlers.

Main results:

- `step_general`, `step_update`, `step_consult`, `step_read`: the effect of a message by
  its role.
- `ensureGrammar_cases`, `analyze_cases`: what the two parts of handlers that change
  documents can do.
- `update?_cases`: how a message with a text changes the store before the analysis.
- `get?_step_of_ne`: the documents that a message is not about stay as they are.
-/

namespace GrammarServer

/-! ## Roles -/

/-- How a message acts on the server. -/
inductive Role where
  /-- The message is about no document. -/
  | general
  /-- The document may get a new text and is analyzed. -/
  | update (uri : Uri)
  /-- The document is closed. -/
  | close (uri : Uri)
  /-- The engine is asked about the document, which stays as it is. -/
  | consult (uri : Uri)
  /-- The request is answered from the document and its grammar. -/
  | read (uri : Uri)
deriving DecidableEq

/-- The document that a message of a role is about. -/
def Role.uri? : Role → Option Uri
  | .general => none
  | .update uri | .close uri | .consult uri | .read uri => some uri

/-- The role of a message. -/
def Message.role : Message → Role
  | .start _ | .started | .shutdown | .workspaceSymbol _ => .general
  | .didOpen uri _ _ | .didChange uri _ _ | .didSave uri _ => .update uri
  | .didClose uri => .close uri
  | .formatting uri | .codeAction uri _ => .consult uri
  | .hover uri _ | .completion uri | .definition uri _ | .references uri _ _
  | .documentSymbol uri | .rename uri _ _ | .semanticTokens uri | .foldingRange uri => .read uri

/-- A message is about the document of its role. -/
theorem Message.uri?_eq_role_uri? (message : Message) : message.uri? = message.role.uri? := by
  cases message <;> rfl

/-- Only one message closes a document. -/
theorem Message.eq_didClose_of_role {message : Message} {uri : Uri}
    (h : message.role = .close uri) : message = .didClose uri := by
  cases message <;> simp_all [role]

/-! ## Looking up a changed document -/

namespace Store

/-- Changing an open document yields the changed document under its URI. -/
theorem get?_modify_of_get? {store : Store} {uri : Uri} {document : Document}
    (h : store.get? uri = some document) (f : Document → Document) :
    (store.modify uri f).get? uri = some { f document with uri := uri } := by
  rw [get?_modify_self, h]
  simp [modifyOne, uri_of_get? h]

/-- A document whose diagnostics are replaced keeps everything else. -/
theorem get?_setDiagnostics_self {store : Store} {uri : Uri} {document : Document}
    (h : store.get? uri = some document) (diagnostics : List Diagnostic) :
    (store.setDiagnostics uri diagnostics).get? uri =
      some { document with diagnostics := diagnostics } := by
  rw [setDiagnostics, get?_modify_of_get? h, ← uri_of_get? h]

/-- A document that gets a grammar keeps everything else. -/
theorem get?_setGrammar_self {store : Store} {uri : Uri} {document : Document}
    (h : store.get? uri = some document) (grammar : Grammar) :
    (store.setGrammar uri grammar).get? uri = some { document with grammar := some grammar } := by
  rw [setGrammar, get?_modify_of_get? h, ← uri_of_get? h]

/-- A text is taken over exactly for an open document and a version that is not older. -/
theorem change?_eq_some_iff {store changed : Store} {uri : Uri} {text : String}
    {version : Int} :
    store.change? uri text version = some changed ↔
      ∃ document, store.get? uri = some document ∧ document.version ≤ version ∧
        changed = store.modify uri (·.withText text version) := by
  unfold change?
  cases store.get? uri with
  | none => simp
  | some document =>
    by_cases hold : version < document.version
    · simp [hold, Int.not_le.mpr hold]
    · simp [hold, Int.not_lt.mp hold, eq_comm]

/-- A version that is not older is taken over. -/
theorem change?_of_le {store : Store} {uri : Uri} {document : Document} {version : Int}
    (hget : store.get? uri = some document) (hle : document.version ≤ version)
    (text : String) :
    store.change? uri text version = some (store.modify uri (·.withText text version)) :=
  change?_eq_some_iff.mpr ⟨document, hget, hle, rfl⟩

/-- A document that gets a new text keeps its diagnostics and loses its grammar. -/
theorem get?_of_change? {store changed : Store} {uri : Uri} {text : String} {version : Int}
    {document : Document} (hget : store.get? uri = some document)
    (h : store.change? uri text version = some changed) :
    changed.get? uri = some (document.withText text version) := by
  rcases change?_eq_some_iff.mp h with ⟨_, _, _, rfl⟩
  rw [get?_modify_of_get? hget, ← uri_of_get? hget]
  rfl

/-- A new text of one document leaves what every other URI yields. -/
theorem get?_of_change?_of_ne {store changed : Store} {uri other : Uri} {text : String}
    {version : Int} (hne : other ≠ uri) (h : store.change? uri text version = some changed) :
    changed.get? other = store.get? other := by
  rcases change?_eq_some_iff.mp h with ⟨_, _, _, rfl⟩
  exact get?_modify_of_ne store _ hne

end Store

/-! ## Messages that bring a text -/

/-- Whether a message opens a document. -/
def Message.opens (message : Message) (uri : Uri) : Bool :=
  match message with
  | .didOpen opened _ _ => decide (opened = uri)
  | _ => false

/-- Whether a message writes the text of a document: it opens the document, changes it
without being stale, or saves it together with a text. -/
def Message.writesText (message : Message) (store : Store) (uri : Uri) : Bool :=
  match message with
  | .didOpen opened _ _ => decide (opened = uri)
  | .didChange changed version changes =>
    decide (changed = uri) && !changes.isEmpty
      && (store.get? uri).any fun document => decide (document.version ≤ version)
  | .didSave saved text => decide (saved = uri) && text.isSome && (store.get? uri).isSome
  | _ => false

/-- The store in which a message has its document analyzed, with the text that it brings
taken over.  There is none when the message is ignored. -/
def Store.update? (store : Store) : Message → Option Store
  | .didOpen uri text version => some (store.insert uri text version)
  | .didChange uri version changes =>
    changes.getLast?.bind fun text => store.change? uri text version
  | .didSave uri text => (store.get? uri).map fun document =>
    match text with
    | some text => (store.change? uri text document.version).getD store
    | none => store
  | _ => none

/-- Only messages that may bring a text of a document write it. -/
theorem Message.role_of_writesText {message : Message} {store : Store} {uri : Uri}
    (h : message.writesText store uri = true) : message.role = .update uri := by
  cases message <;> simp_all [writesText, role]

/-- Only messages that may bring a text of a document open it. -/
theorem Message.role_of_opens {message : Message} {uri : Uri}
    (h : message.opens uri = true) : message.role = .update uri := by
  cases message <;> simp_all [opens, role]

/-- Opening a document writes its text. -/
theorem Message.writesText_of_opens {message : Message} (store : Store) {uri : Uri}
    (h : message.opens uri = true) : message.writesText store uri = true := by
  cases message <;> simp_all [writesText, opens]

/-- A message that is ignored writes no text. -/
theorem Store.writesText_of_update?_eq_none {store : Store} {message : Message} {uri : Uri}
    (h : store.update? message = none) : message.writesText store uri = false := by
  cases message with
  | didOpen opened text version => simp [update?] at h
  | didChange changed version changes =>
    by_cases huri : changed = uri
    case neg => simp [Message.writesText, huri]
    subst huri
    cases hlast : changes.getLast? with
    | none => simp [Message.writesText, List.getLast?_eq_none_iff.mp hlast]
    | some text =>
      simp only [update?, hlast, Option.bind_some] at h
      cases hget : store.get? changed with
      | none => simp [Message.writesText, hget]
      | some document =>
        have hold : ¬ document.version ≤ version := by
          intro hle
          rw [change?_of_le hget hle text] at h
          cases h
        simp [Message.writesText, hget, hold]
  | didSave saved text =>
    have hget : store.get? saved = none := by simpa [update?] using h
    by_cases huri : saved = uri
    · subst huri
      simp [Message.writesText, hget]
    · simp [Message.writesText, huri]
  | _ => rfl

/-- What a message with the role of an update does to its document before the analysis:
it opens the document afresh, leaves the store as it is, or gives the open document a
text under a version that is not older. -/
theorem Store.update?_cases {store updated : Store} {message : Message} {uri : Uri}
    (hrole : message.role = .update uri) (h : store.update? message = some updated) :
    (∃ text version, message = .didOpen uri text version ∧
        updated.get? uri = some (.fresh uri text version)) ∨
      ∃ document, store.get? uri = some document ∧ message.opens uri = false ∧
        ((message.writesText store uri = false ∧ updated = store) ∨
          (message.writesText store uri = true ∧ ∃ text version, document.version ≤ version ∧
            updated.get? uri = some (document.withText text version))) := by
  cases message with
  | didOpen opened text version =>
    obtain rfl : opened = uri := by simpa [Message.role] using hrole
    obtain rfl : store.insert opened text version = updated := by simpa [update?] using h
    exact .inl ⟨text, version, rfl, get?_insert_self store opened text version⟩
  | didChange changed version changes =>
    obtain rfl : changed = uri := by simpa [Message.role] using hrole
    simp only [update?, Option.bind_eq_some_iff] at h
    rcases h with ⟨text, hlast, hchange⟩
    rcases change?_eq_some_iff.mp hchange with ⟨document, hget, hle, _⟩
    have hne : changes ≠ [] := by
      rintro rfl
      simp at hlast
    refine .inr ⟨document, hget, rfl, .inr ⟨?_, text, version, hle, ?_⟩⟩
    · simp [Message.writesText, hget, hle, hne]
    · exact get?_of_change? hget hchange
  | didSave saved text =>
    obtain rfl : saved = uri := by simpa [Message.role] using hrole
    simp only [update?, Option.map_eq_some_iff] at h
    rcases h with ⟨document, hget, rfl⟩
    refine .inr ⟨document, hget, rfl, ?_⟩
    cases text with
    | none => exact .inl ⟨by simp [Message.writesText], rfl⟩
    | some text =>
      have hchange := change?_of_le hget (Int.le_refl _) text
      refine .inr ⟨by simp [Message.writesText, hget], text, document.version,
        Int.le_refl _, ?_⟩
      simp only [hchange, Option.getD_some]
      exact get?_of_change? hget hchange
  | _ => simp [Message.role] at hrole

/-- The text that a message brings leaves the other documents as they are. -/
theorem Store.get?_update?_of_ne {store updated : Store} {message : Message} {uri other : Uri}
    (hrole : message.role = .update uri) (h : store.update? message = some updated)
    (hne : other ≠ uri) : updated.get? other = store.get? other := by
  cases message with
  | didOpen opened text version =>
    obtain rfl : opened = uri := by simpa [Message.role] using hrole
    obtain rfl : store.insert opened text version = updated := by simpa [update?] using h
    exact get?_insert_of_ne store text version hne
  | didChange changed version changes =>
    obtain rfl : changed = uri := by simpa [Message.role] using hrole
    simp only [update?, Option.bind_eq_some_iff] at h
    rcases h with ⟨text, _, hchange⟩
    exact get?_of_change?_of_ne hne hchange
  | didSave saved text =>
    obtain rfl : saved = uri := by simpa [Message.role] using hrole
    simp only [update?, Option.map_eq_some_iff] at h
    rcases h with ⟨document, _, rfl⟩
    cases text with
    | none => rfl
    | some text =>
      simp only
      cases hchange : store.change? saved text document.version with
      | none => rfl
      | some changed => exact get?_of_change?_of_ne hne hchange
  | _ => simp [Message.role] at hrole

/-! ## The parts of handlers -/

namespace ServerState

@[simp]
theorem record_store (state : ServerState) (calls : List Call) :
    (state.record calls).store = state.store :=
  rfl

@[simp]
theorem record_session (state : ServerState) (calls : List Call) :
    (state.record calls).session = state.session :=
  rfl

@[simp]
theorem record_calls (state : ServerState) (calls : List Call) :
    (state.record calls).calls = state.calls ++ calls :=
  rfl

@[simp]
theorem withStore_store (state : ServerState) (store : Store) :
    (state.withStore store).store = store :=
  rfl

@[simp]
theorem withStore_session (state : ServerState) (store : Store) :
    (state.withStore store).session = state.session :=
  rfl

@[simp]
theorem withStore_calls (state : ServerState) (store : Store) :
    (state.withStore store).calls = state.calls :=
  rfl

/-- Whether a request that reads a document has to parse it: a session has started, and
the document is open without a grammar. -/
def needsGrammar (state : ServerState) (uri : Uri) : Bool :=
  state.session.isSome && (state.store.get? uri).any (·.grammar.isNone)

/-- Parsing on demand leaves the state as it is, or makes one parse call on the text of
the open document and keeps a grammar that comes back. -/
theorem ensureGrammar_cases (factory : EngineFactory) (state : ServerState) (uri : Uri) :
    (state.needsGrammar uri = false ∧ (state.ensureGrammar factory uri).1 = state) ∨
      (state.needsGrammar uri = true ∧ ∃ session document,
        state.session = some session ∧ state.store.get? uri = some document ∧
          document.grammar = none ∧
          let recorded := state.record [⟨.parse, document.text, uri.filename⟩]
          ((∃ grammar,
              (factory session.root).parse state.calls document.text uri.filename
                = .ok grammar ∧
              (state.ensureGrammar factory uri).1
                = recorded.withStore (state.store.setGrammar uri grammar)) ∨
            ((∀ grammar,
              (factory session.root).parse state.calls document.text uri.filename
                ≠ .ok grammar) ∧
              (state.ensureGrammar factory uri).1 = recorded))) := by
  unfold ensureGrammar needsGrammar
  cases hsession : state.session with
  | none => exact .inl ⟨rfl, rfl⟩
  | some session =>
    cases hget : state.store.get? uri with
    | none => exact .inl ⟨rfl, rfl⟩
    | some document =>
      cases hgrammar : document.grammar with
      | some grammar => exact .inl ⟨by simp [hgrammar], by simp [hgrammar]⟩
      | none =>
        refine .inr ⟨by simp [hgrammar], session, document, rfl, rfl, hgrammar, ?_⟩
        simp only [hgrammar]
        cases (factory session.root).parse state.calls document.text uri.filename with
        | ok grammar => exact .inl ⟨grammar, rfl, rfl⟩
        | failed => exact .inr ⟨by simp, rfl⟩
        | crashed => exact .inr ⟨by simp, rfl⟩

/-- An analysis leaves the state as it is, makes one lint call that yields nothing, or
makes one lint call whose offenses are stored and published as diagnostics. -/
theorem analyze_cases (factory : EngineFactory) (state : ServerState) (uri : Uri) :
    (((state.analyzeAndAnswer factory uri).1 = state ∧
        publishedBy (state.analyzeAndAnswer factory uri).2 = []) ∧
        (state.session = none ∨ state.store.get? uri = none)) ∨
      ∃ session document, state.session = some session ∧
        state.store.get? uri = some document ∧
        let recorded := state.record [⟨.lint, document.text, uri.filename⟩]
        (((state.analyzeAndAnswer factory uri).1 = recorded ∧
            publishedBy (state.analyzeAndAnswer factory uri).2 = []) ∨
          ∃ offenses diagnostics,
            (factory session.root).lint state.calls document.text uri.filename
              = .ok offenses ∧
            diagnosticsOf offenses = .ok diagnostics ∧
            (state.analyzeAndAnswer factory uri).1
              = recorded.withStore (state.store.setDiagnostics uri diagnostics) ∧
            publishedBy (state.analyzeAndAnswer factory uri).2
              = [⟨uri, diagnostics, some document.version⟩]) := by
  unfold analyzeAndAnswer analyze
  cases hsession : state.session with
  | none => exact .inl ⟨⟨rfl, rfl⟩, .inl rfl⟩
  | some session =>
    cases hget : state.store.get? uri with
    | none => exact .inl ⟨⟨rfl, rfl⟩, .inr rfl⟩
    | some document =>
      refine .inr ⟨session, document, rfl, rfl, ?_⟩
      simp only [Engine.lintDocument]
      cases (factory session.root).lint state.calls document.text uri.filename with
      | failed => exact .inl ⟨rfl, rfl⟩
      | crashed => exact .inl ⟨rfl, rfl⟩
      | ok offenses =>
        cases hdiagnostics : diagnosticsOf offenses with
        | error crash =>
          simp [hdiagnostics, Except.map, publishedBy]
        | ok diagnostics =>
          simp only [hdiagnostics, Except.map]
          exact .inr ⟨offenses, diagnostics, rfl, hdiagnostics, rfl, rfl⟩

/-! ## The effect of a message by its role -/

variable {factory : EngineFactory} {state : ServerState} {message : Message} {uri : Uri}

/-- A message about no document changes no document, makes no call and publishes
nothing. -/
theorem step_general (factory : EngineFactory) (state : ServerState)
    (hrole : message.role = .general) :
    (state.step factory message).1.store = state.store ∧
      (state.step factory message).1.calls = state.calls ∧
      publishedBy (state.step factory message).2 = [] := by
  cases message with
  | start params =>
    simp only [step, start]
    cases state.session <;> simp [publishedBy]
  | started => exact ⟨rfl, rfl, rfl⟩
  | shutdown => exact ⟨rfl, rfl, rfl⟩
  | workspaceSymbol query =>
    simp only [step]
    cases state.store.search query <;> simp [publishedBy, answer]
  | _ => simp [Message.role] at hrole

/-- A message that is not ignored has its document analyzed with the text it brings. -/
theorem step_update (factory : EngineFactory) (state : ServerState)
    (hrole : message.role = .update uri) :
    (state.store.update? message = none ∧
        state.step factory message = (state, .ok ⟨.empty, []⟩)) ∨
      ∃ updated, state.store.update? message = some updated ∧
        state.step factory message
          = (state.withStore updated).analyzeAndAnswer factory uri := by
  cases message with
  | didOpen opened text version =>
    obtain rfl : opened = uri := by simpa [Message.role] using hrole
    exact .inr ⟨_, rfl, rfl⟩
  | didChange changed version changes =>
    obtain rfl : changed = uri := by simpa [Message.role] using hrole
    simp only [step, didChange, Store.update?]
    cases changes.getLast? with
    | none => exact .inl ⟨rfl, rfl⟩
    | some text =>
      simp only [Option.bind_some]
      cases state.store.change? changed text version with
      | none => exact .inl ⟨rfl, rfl⟩
      | some updated => exact .inr ⟨updated, rfl, rfl⟩
  | didSave saved text =>
    obtain rfl : saved = uri := by simpa [Message.role] using hrole
    simp only [step, didSave, Store.update?]
    cases state.store.get? saved with
    | none => exact .inl ⟨rfl, rfl⟩
    | some document => exact .inr ⟨_, rfl, rfl⟩
  | _ => simp [Message.role] at hrole

/-- Asking the engine for a formatted or corrected text changes no document and publishes
nothing. -/
theorem consult_effect {α : Type} (reply : α → Reply) (absent : α)
    (ask : Engine → Document → EngineRun α)
    (hkind : ∀ engine document, ∀ call ∈ (ask engine document).calls,
      call.kind = .format ∨ call.kind = .autocorrect) :
    (state.consult factory uri reply absent ask).1.store = state.store ∧
      (∃ made, (state.consult factory uri reply absent ask).1.calls = state.calls ++ made ∧
        ∀ call ∈ made, call.kind = .format ∨ call.kind = .autocorrect) ∧
      publishedBy (state.consult factory uri reply absent ask).2 = [] := by
  have hanswer : ∀ result : Except Crash α, publishedBy (answer reply result) = [] := by
    intro result
    cases result <;> rfl
  unfold consult
  cases state.session with
  | none => exact ⟨rfl, ⟨[], by simp, by simp⟩, rfl⟩
  | some session =>
    cases state.store.get? uri with
    | none => exact ⟨rfl, ⟨[], by simp, by simp⟩, rfl⟩
    | some document =>
      exact ⟨rfl, ⟨_, rfl, hkind _ document⟩, hanswer _⟩

/-- Formatting and fixing change no document, publish nothing and neither parse nor
lint. -/
theorem step_consult (factory : EngineFactory) (state : ServerState)
    (hrole : message.role = .consult uri) :
    (state.step factory message).1.store = state.store ∧
      (∃ made, (state.step factory message).1.calls = state.calls ++ made ∧
        ∀ call ∈ made, call.kind = .format ∨ call.kind = .autocorrect) ∧
      publishedBy (state.step factory message).2 = [] := by
  cases message with
  | formatting formatted =>
    refine consult_effect _ _ _ ?_
    intro engine document call hcall
    left
    unfold Engine.formatDocument at hcall
    split at hcall <;> simp_all
  | codeAction fixed range =>
    refine consult_effect _ _ _ ?_
    intro engine document call hcall
    right
    unfold Engine.fixAll at hcall
    split at hcall
    · simp [EngineRun.silent] at hcall
    · unfold Engine.correct at hcall
      split at hcall <;> simp_all
  | _ => simp [Message.role] at hrole

/-- A request that reads a document changes the state by parsing on demand only. -/
theorem read_effect {α : Type} (reply : α → Reply) (absent : α)
    (compute : Document → Except Crash α) :
    (state.read factory uri reply absent compute).1 = (state.ensureGrammar factory uri).1 ∧
      publishedBy (state.read factory uri reply absent compute).2 = [] := by
  have hanswer : ∀ result : Except Crash α, publishedBy (answer reply result) = [] := by
    intro result
    cases result <;> rfl
  unfold read
  split
  case h_1 parsed error h => exact ⟨by rw [h], rfl⟩
  case h_2 parsed h =>
    cases parsed.store.get? uri with
    | none => exact ⟨by rw [h], rfl⟩
    | some document => exact ⟨by rw [h], hanswer _⟩

/-- The eight requests that read a document change the state by parsing on demand only,
and publish nothing. -/
theorem step_read (factory : EngineFactory) (state : ServerState)
    (hrole : message.role = .read uri) :
    (state.step factory message).1 = (state.ensureGrammar factory uri).1 ∧
      publishedBy (state.step factory message).2 = [] := by
  cases message <;> simp only [Message.role, Role.read.injEq, reduceCtorEq] at hrole <;>
    subst hrole <;> exact read_effect _ _ _

/-- Parsing on demand leaves the other documents as they are. -/
theorem get?_ensureGrammar_of_ne {other : Uri} (hne : other ≠ uri) :
    (state.ensureGrammar factory uri).1.store.get? other = state.store.get? other := by
  rcases ensureGrammar_cases factory state uri with
    ⟨_, h⟩ | ⟨_, _, _, _, _, _, ⟨grammar, _, h⟩ | ⟨_, h⟩⟩
  · rw [h]
  · rw [h]
    exact Store.get?_modify_of_ne _ _ hne
  · rw [h]
    rfl

/-- An analysis leaves the other documents as they are. -/
theorem get?_analyzeAndAnswer_of_ne {other : Uri} (hne : other ≠ uri) :
    (state.analyzeAndAnswer factory uri).1.store.get? other = state.store.get? other := by
  rcases analyze_cases factory state uri with
    ⟨⟨h, _⟩, _⟩ | ⟨_, _, _, _, ⟨h, _⟩ | ⟨_, diagnostics, _, _, h, _⟩⟩
  · rw [h]
  · rw [h]
    rfl
  · rw [h]
    exact Store.get?_modify_of_ne _ _ hne

/-- The documents that a message is not about stay as they are. -/
theorem get?_step_of_ne (h : message.uri? ≠ some uri) :
    (state.step factory message).1.store.get? uri = state.store.get? uri := by
  rw [Message.uri?_eq_role_uri?] at h
  cases hrole : message.role with
  | general => rw [(step_general factory state hrole).1]
  | consult consulted => rw [(step_consult factory state hrole).1]
  | close closed =>
    obtain rfl := Message.eq_didClose_of_role hrole
    have hne : uri ≠ closed := by
      rintro rfl
      exact h rfl
    exact Store.get?_erase_of_ne _ hne
  | read readUri =>
    have hne : uri ≠ readUri := by
      rintro rfl
      exact h (by rw [hrole]; rfl)
    rw [(step_read factory state hrole).1]
    exact get?_ensureGrammar_of_ne hne
  | update updatedUri =>
    have hne : uri ≠ updatedUri := by
      rintro rfl
      exact h (by rw [hrole]; rfl)
    rcases step_update factory state hrole with
      ⟨_, hstep⟩ | ⟨updated, hupdated, hstep⟩
    · rw [hstep]
    · rw [hstep, get?_analyzeAndAnswer_of_ne hne]
      exact Store.get?_update?_of_ne hrole hupdated hne

/-! ## The effect of a message on its own document -/

/-- An analysis changes at most the diagnostics of its document. -/
theorem get?_analyzeAndAnswer_self (factory : EngineFactory) (state : ServerState)
    {document : Document} (hget : state.store.get? uri = some document) :
    ∃ diagnostics, (state.analyzeAndAnswer factory uri).1.store.get? uri
      = some { document with diagnostics := diagnostics } := by
  rcases analyze_cases factory state uri with
    ⟨⟨h, _⟩, _⟩ | ⟨_, _, _, _, ⟨h, _⟩ | ⟨_, diagnostics, _, _, h, _⟩⟩
  · exact ⟨document.diagnostics, by rw [h, hget]⟩
  · exact ⟨document.diagnostics, by rw [h, record_store, hget]⟩
  · exact ⟨diagnostics, by rw [h]; exact Store.get?_setDiagnostics_self hget diagnostics⟩

/-- A document whose text was just written has no grammar. -/
theorem grammar_eq_none_of_writesText {document : Document}
    (hwrites : message.writesText state.store uri = true)
    (hget : (state.step factory message).1.store.get? uri = some document) :
    document.grammar = none := by
  have hrole := Message.role_of_writesText hwrites
  rcases step_update factory state hrole with ⟨hnone, _⟩ | ⟨updated, hupdated, hstep⟩
  · rw [Store.writesText_of_update?_eq_none hnone] at hwrites
    cases hwrites
  · -- The analysis after the write does not touch the grammar.
    rw [hstep] at hget
    have hfresh : ∃ written, updated.get? uri = some written ∧ written.grammar = none := by
      rcases Store.update?_cases hrole hupdated with
        ⟨text, version, _, h⟩ | ⟨_, _, _, ⟨hquiet, _⟩ | ⟨_, text, version, _, h⟩⟩
      · exact ⟨_, h, rfl⟩
      · rw [hquiet] at hwrites
        cases hwrites
      · exact ⟨_, h, rfl⟩
    rcases hfresh with ⟨written, hwritten, hnone⟩
    obtain ⟨diagnostics, hafter⟩ :=
      get?_analyzeAndAnswer_self factory (state.withStore updated) hwritten
    rw [hafter, Option.some.injEq] at hget
    rw [← hget]
    exact hnone

/-- A message that neither writes a document's text nor reads the document leaves it open
only if it was open, and changes at most its diagnostics. -/
theorem get?_step_of_not_writesText {document : Document}
    (hwrites : message.writesText state.store uri = false) (hread : message.role ≠ .read uri)
    (hget : (state.step factory message).1.store.get? uri = some document) :
    ∃ old, state.store.get? uri = some old ∧
      document = { old with diagnostics := document.diagnostics } := by
  by_cases huri : message.uri? = some uri
  case neg =>
    rw [get?_step_of_ne huri] at hget
    exact ⟨document, hget, rfl⟩
  rw [Message.uri?_eq_role_uri?] at huri
  cases hrole : message.role with
  | general => simp [hrole, Role.uri?] at huri
  | consult consulted =>
    rw [(step_consult factory state hrole).1] at hget
    exact ⟨document, hget, rfl⟩
  | close closed =>
    obtain rfl : closed = uri := by simpa [hrole, Role.uri?] using huri
    obtain rfl := Message.eq_didClose_of_role hrole
    simp [step] at hget
  | read readUri =>
    obtain rfl : readUri = uri := by simpa [hrole, Role.uri?] using huri
    exact absurd hrole hread
  | update updatedUri =>
    obtain rfl : updatedUri = uri := by simpa [hrole, Role.uri?] using huri
    rcases step_update factory state hrole with ⟨_, hstep⟩ | ⟨updated, hupdated, hstep⟩
    · rw [hstep] at hget
      exact ⟨document, hget, rfl⟩
    · rw [hstep] at hget
      rcases Store.update?_cases hrole hupdated with
        ⟨text, version, rfl, _⟩ | ⟨old, hold, _, ⟨_, rfl⟩ | ⟨hwritten, _⟩⟩
      · simp [Message.writesText] at hwrites
      · rcases get?_analyzeAndAnswer_self factory state hold with ⟨diagnostics, hafter⟩
        rw [show state.withStore state.store = state from rfl, hafter,
          Option.some.injEq] at hget
        exact ⟨old, hold, by rw [← hget]⟩
      · rw [hwritten] at hwrites
        cases hwrites

/-! ## The calls of a message -/

/-- The calls of a message are what it appends to the log. -/
theorem calls_handle {made : List Call}
    (h : (state.step factory message).1.calls = state.calls ++ made) :
    (state.handle factory message).calls = made := by
  simp [Transition.calls, h]

/-- An analysis makes no call other than a lint. -/
theorem calls_analyzeAndAnswer (factory : EngineFactory) (state : ServerState) (uri : Uri) :
    ∃ made, (state.analyzeAndAnswer factory uri).1.calls = state.calls ++ made ∧
      ∀ call ∈ made, call.kind = .lint := by
  rcases analyze_cases factory state uri with
    ⟨⟨h, _⟩, _⟩ | ⟨_, document, _, _, ⟨h, _⟩ | ⟨_, _, _, _, h, _⟩⟩
  · exact ⟨[], by rw [h, List.append_nil], by simp⟩
  · exact ⟨[⟨.lint, document.text, uri.filename⟩], by rw [h]; rfl, by simp⟩
  · exact ⟨[⟨.lint, document.text, uri.filename⟩], by rw [h]; rfl, by simp⟩

/-- A message that does not read a document makes no parse call. -/
theorem kind_ne_parse_of_role_ne_read (hread : ∀ uri, message.role ≠ .read uri) :
    ∀ call ∈ (state.handle factory message).calls, call.kind ≠ .parse := by
  cases hrole : message.role with
  | general =>
    have hcalls : (state.handle factory message).calls = [] :=
      calls_handle (by rw [(step_general factory state hrole).2.1, List.append_nil])
    simp [hcalls]
  | consult consulted =>
    rcases (step_consult factory state hrole).2.1 with ⟨made, hmade, hkind⟩
    rw [calls_handle hmade]
    intro call hcall
    rcases hkind call hcall with h | h <;> simp [h]
  | close closed =>
    obtain rfl := Message.eq_didClose_of_role hrole
    have hcalls : (state.handle factory (.didClose closed)).calls = [] :=
      calls_handle (by simp [step])
    simp [hcalls]
  | read readUri => exact absurd hrole (hread readUri)
  | update updatedUri =>
    rcases step_update factory state hrole with ⟨_, hstep⟩ | ⟨updated, _, hstep⟩
    · have hcalls : (state.handle factory message).calls = [] :=
        calls_handle (by rw [hstep, List.append_nil])
      simp [hcalls]
    · obtain ⟨made, hmade, hkind⟩ :=
        calls_analyzeAndAnswer factory (state.withStore updated) updatedUri
      rw [calls_handle (by rw [hstep]; exact hmade)]
      intro call hcall
      simp [hkind call hcall]

end ServerState

end GrammarServer
