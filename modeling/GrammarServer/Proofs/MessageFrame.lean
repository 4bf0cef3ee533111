import GrammarServer.Proofs.Locality
import GrammarServer.Proofs.Publication
import GrammarServer.Proofs.Replay

/-!
# What a message leaves alone

A message is about one document at most.  All other documents stay as they are, in the same
order, and most messages leave even their own document alone.  This holds however the engine
ends its calls and wherever the handling of the message breaks off.

Main results:

- Theorem `others_step`: the documents that a message is not about stay, in the same order.
- Theorem `readOff_step`: a request that reads a document at most gives it a grammar.
- Theorem `step_of_isIgnored`: a message that is ignored leaves no trace.
- Theorem `length_published_le_one`: a message publishes one list of diagnostics at most.
- Theorem `step_respects_frame`: all of this for every message.
-/

namespace GrammarServer

/-! ## The other documents -/

namespace Store

/-- The documents other than the one that is addressed, in order; all of them if none is
addressed. -/
def others (store : Store) (addressed : Option Uri) : List Document :=
  store.documents.filter fun document => decide (some document.uri ≠ addressed)

/-- Changing a document leaves the others. -/
theorem others_modify (store : Store) (uri : Uri) (f : Document → Document) :
    (store.modify uri f).others (some uri) = store.others (some uri) := by
  simp only [others, modify]
  induction store.documents with
  | nil => rfl
  | cons document rest ih =>
    rw [List.map_cons, List.filter_cons, List.filter_cons, modifyOne_uri, ih]
    by_cases huri : document.uri = uri
    · simp [huri]
    · simp [modifyOne, huri]

/-- Opening a document leaves the others. -/
theorem others_insert (store : Store) (uri : Uri) (text : String) (version : Int) :
    (store.insert uri text version).others (some uri) = store.others (some uri) := by
  unfold insert
  split
  case isTrue => exact others_modify store uri _
  case isFalse => simp [others, Document.fresh]

/-- Closing a document leaves the others. -/
theorem others_erase (store : Store) (uri : Uri) :
    (store.erase uri).others (some uri) = store.others (some uri) := by
  simp only [others, erase, List.filter_filter]
  congr 1
  funext document
  by_cases huri : document.uri = uri <;> simp [huri]

/-- A text that is taken over leaves the other documents. -/
theorem others_of_change? {store changed : Store} {uri : Uri} {text : String} {version : Int}
    (h : store.change? uri text version = some changed) :
    changed.others (some uri) = store.others (some uri) := by
  obtain ⟨_, _, _, rfl⟩ := change?_eq_some_iff.mp h
  exact others_modify store uri _

/-- The text that a message brings leaves the other documents. -/
theorem others_update? {store updated : Store} {message : Message} {uri : Uri}
    (hrole : message.role = .update uri) (h : store.update? message = some updated) :
    updated.others (some uri) = store.others (some uri) := by
  cases message with
  | didOpen opened text version =>
    obtain rfl : opened = uri := by simpa [Message.role] using hrole
    obtain rfl : store.insert opened text version = updated := by simpa [update?] using h
    exact others_insert store opened text version
  | didChange changed version changes =>
    obtain rfl : changed = uri := by simpa [Message.role] using hrole
    obtain ⟨text, _, hchange⟩ := Option.bind_eq_some_iff.mp h
    exact others_of_change? hchange
  | didSave saved text =>
    obtain rfl : saved = uri := by simpa [Message.role] using hrole
    obtain ⟨document, _, rfl⟩ := Option.map_eq_some_iff.mp h
    cases text with
    | none => rfl
    | some text =>
      dsimp only
      cases hchange : store.change? saved text document.version with
      | none => rfl
      | some changed => exact others_of_change? hchange
  | _ => simp [Message.role] at hrole

end Store

namespace ServerState

variable {factory : EngineFactory} {state : ServerState} {message : Message} {uri : Uri}

/-- Parsing on demand leaves the other documents. -/
theorem others_ensureGrammar (factory : EngineFactory) (state : ServerState) (uri : Uri) :
    (state.ensureGrammar factory uri).1.store.others (some uri) =
      state.store.others (some uri) := by
  rcases ensureGrammar_cases factory state uri with
    ⟨_, h⟩ | ⟨_, _, _, _, _, _, ⟨_, _, h⟩ | ⟨_, h⟩⟩
  · rw [h]
  · rw [h]
    exact Store.others_modify state.store uri _
  · rw [h]
    rfl

/-- An analysis leaves the other documents. -/
theorem others_analyzeAndAnswer (factory : EngineFactory) (state : ServerState) (uri : Uri) :
    (state.analyzeAndAnswer factory uri).1.store.others (some uri) =
      state.store.others (some uri) := by
  rcases analyze_cases factory state uri with
    ⟨⟨h, _⟩, _⟩ | ⟨_, _, _, _, ⟨h, _⟩ | ⟨_, _, _, _, h, _⟩⟩
  · rw [h]
  · rw [h]
    rfl
  · rw [h]
    exact Store.others_modify state.store uri _

/-- The documents that a message is not about stay as they are, in the same order. -/
theorem others_step (factory : EngineFactory) (state : ServerState) (message : Message) :
    (state.step factory message).1.store.others message.uri? =
      state.store.others message.uri? := by
  rw [Message.uri?_eq_role_uri?]
  cases hrole : message.role with
  | general => rw [(step_general factory state hrole).1]
  | consult consulted => rw [(step_consult factory state hrole).1]
  | close closed =>
    obtain rfl := Message.eq_didClose_of_role hrole
    exact Store.others_erase state.store closed
  | read readUri =>
    rw [(step_read factory state hrole).1]
    exact others_ensureGrammar factory state readUri
  | update updatedUri =>
    rcases step_update factory state hrole with ⟨_, hstep⟩ | ⟨updated, hupdated, hstep⟩
    · rw [hstep]
    · rw [hstep]
      exact (others_analyzeAndAnswer factory _ updatedUri).trans
        (Store.others_update? hrole hupdated)

end ServerState

/-! ## Reading a document -/

/-- How a request that reads the document `uri` may leave a document: as it was, or, if it is
the one that is read and has no grammar, with a grammar. -/
def Document.ReadOff (uri : Uri) (old new : Document) : Prop :=
  new = old ∨
    old.uri = uri ∧ old.grammar = none ∧ ∃ grammar, new = { old with grammar := some grammar }

/-- A state before and after a request that reads the document `uri`: only the log of engine
calls and the grammar of that document may differ. -/
structure ServerState.ReadOff (uri : Uri) (before after : ServerState) : Prop where
  session : after.session = before.session
  engines : after.engines = before.engines
  documents : List.Forall₂ (Document.ReadOff uri) before.store.documents after.store.documents

/-- A document without a grammar that gets one was read. -/
theorem Store.readOff_setGrammar {store : Store} {uri : Uri} {document : Document}
    (hget : store.get? uri = some document) (hnone : document.grammar = none)
    (grammar : Grammar) :
    List.Forall₂ (Document.ReadOff uri) store.documents
      (store.setGrammar uri grammar).documents := by
  rw [setGrammar, modify, List.forall₂_map_right_iff, List.forall₂_same]
  intro old hold
  by_cases huri : old.uri = uri
  · right
    have hfound := get?_of_mem hold
    rw [huri, hget, Option.some.injEq] at hfound
    refine ⟨huri, by rw [← hfound, hnone], grammar, ?_⟩
    simp [modifyOne, huri]
  · left
    simp [modifyOne, huri]

namespace ServerState

variable {factory : EngineFactory} {state : ServerState} {message : Message} {uri : Uri}

/-- A document is read off by leaving it alone. -/
theorem readOff_of_store_eq {after : ServerState} (hsession : after.session = state.session)
    (hengines : after.engines = state.engines) (hstore : after.store = state.store) :
    ReadOff uri state after where
  session := hsession
  engines := hengines
  documents := by
    rw [hstore, List.forall₂_same]
    intro document _
    exact .inl rfl

/-- A request that reads a document changes nothing except that the document may get a
grammar. -/
theorem readOff_step (factory : EngineFactory) (state : ServerState)
    (hrole : message.role = .read uri) :
    ReadOff uri state (state.step factory message).1 := by
  rw [(step_read factory state hrole).1]
  rcases ensureGrammar_cases factory state uri with
    ⟨_, h⟩ | ⟨_, _, document, _, hget, hnone, ⟨grammar, _, h⟩ | ⟨_, h⟩⟩
  · rw [h]
    exact readOff_of_store_eq rfl rfl rfl
  · rw [h]
    exact ⟨rfl, rfl, Store.readOff_setGrammar hget hnone grammar⟩
  · rw [h]
    exact readOff_of_store_eq rfl rfl rfl

end ServerState

/-! ## Messages that are ignored -/

/-- Whether a message is ignored: a change that carries no text, is about a document that is
not open or comes with an older version, or a save of a document that is not open. -/
def Message.isIgnored (message : Message) (store : Store) : Bool :=
  match message with
  | .didChange uri version changes =>
    changes.isEmpty || (store.get? uri).all fun document => decide (version < document.version)
  | .didSave uri _ => (store.get? uri).isNone
  | _ => false

/-- An update has no document analyzed exactly if it is ignored. -/
theorem Store.update?_eq_none_iff {store : Store} {message : Message} {uri : Uri}
    (hrole : message.role = .update uri) :
    store.update? message = none ↔ message.isIgnored store = true := by
  cases message with
  | didOpen opened text version => simp [update?, Message.isIgnored]
  | didChange changed version changes =>
    cases hlast : changes.getLast? with
    | none => simp [update?, Message.isIgnored, List.getLast?_eq_none_iff.mp hlast]
    | some text =>
      have hne : changes ≠ [] := by
        rintro rfl
        cases hlast
      cases hget : store.get? changed with
      | none => simp [update?, change?, Message.isIgnored, hlast, hget]
      | some document =>
        by_cases hold : version < document.version
        · simp [update?, change?, Message.isIgnored, hlast, hget, hold]
        · simp [update?, change?, Message.isIgnored, hlast, hget, hold, hne]
  | didSave saved text => simp [update?, Message.isIgnored]
  | _ => simp [Message.role] at hrole

/-- Only updates of a document can be ignored. -/
theorem Message.exists_role_of_isIgnored {message : Message} {store : Store}
    (h : message.isIgnored store = true) : ∃ uri, message.role = .update uri := by
  cases message with
  | didChange uri version changes => exact ⟨uri, rfl⟩
  | didSave uri text => exact ⟨uri, rfl⟩
  | _ => simp [isIgnored] at h

namespace ServerState

variable {factory : EngineFactory} {state : ServerState} {message : Message}

/-- A message that is ignored leaves no trace: the state stays, no engine call is made and
nothing is published. -/
theorem step_of_isIgnored (h : message.isIgnored state.store = true) :
    state.step factory message = (state, .ok ⟨.empty, []⟩) := by
  obtain ⟨uri, hrole⟩ := Message.exists_role_of_isIgnored h
  rw [step_eq_of_role_update hrole, (Store.update?_eq_none_iff hrole).mpr h]

/-! ## Publications -/

/-- A message publishes one list of diagnostics at most. -/
theorem length_published_le_one (factory : EngineFactory) (state : ServerState)
    (message : Message) : (publishedBy (state.step factory message).2).length ≤ 1 := by
  cases hrole : message.role with
  | general => simp [(step_general factory state hrole).2.2]
  | consult consulted => simp [(step_consult factory state hrole).2.2]
  | read readUri => simp [(step_read factory state hrole).2]
  | close closed =>
    obtain rfl := Message.eq_didClose_of_role hrole
    simp [step, publishedBy]
  | update updatedUri =>
    rcases step_update factory state hrole with ⟨_, hstep⟩ | ⟨updated, _, hstep⟩
    · simp [hstep, publishedBy]
    · rw [hstep]
      rcases analyze_cases factory (state.withStore updated) updatedUri with
        ⟨⟨_, hnone⟩, _⟩ | ⟨_, _, _, _, ⟨_, hnone⟩ | ⟨_, _, _, _, _, hone⟩⟩
      · simp [hnone]
      · simp [hnone]
      · simp [hone]

end ServerState

/-! ## The frame of a message -/

/-- What a message leaves alone, whatever its outcome is. -/
structure RespectsFrame (before : ServerState) (message : Message) (outcome : Outcome Answer) :
    Prop where
  /-- The documents that the message is not about stay, in the same order. -/
  others : outcome.1.store.others message.uri? = before.store.others message.uri?
  /-- Hover, completion, definition, references, outline, rename, tokens and folds at most
  give their document a grammar. -/
  read : ∀ uri, message.role = .read uri → before.ReadOff uri outcome.1
  /-- Formatting and fixing leave the store. -/
  consult : ∀ uri, message.role = .consult uri → outcome.1.store = before.store
  /-- The life of the session and searches leave the store. -/
  general : message.role = .general → outcome.1.store = before.store
  /-- Ignored messages leave everything, the log of engine calls included, and publish
  nothing. -/
  ignored : message.isIgnored before.store = true →
    outcome.1 = before ∧ publishedBy outcome.2 = []
  /-- At most one list of diagnostics is published. -/
  published : (publishedBy outcome.2).length ≤ 1
  /-- What is published is about the document that the message is about. -/
  addressed : ∀ publication ∈ publishedBy outcome.2, message.uri? = some publication.uri

/-- Every message leaves alone what is not its own, in every state of the server and however
the engine ends its calls. -/
theorem step_respects_frame (factory : EngineFactory) (state : ServerState)
    (message : Message) : RespectsFrame state message (state.step factory message) where
  others := ServerState.others_step factory state message
  read _ hrole := ServerState.readOff_step factory state hrole
  consult _ hrole := (ServerState.step_consult factory state hrole).1
  general hrole := (ServerState.step_general factory state hrole).1
  ignored hignored := by
    rw [ServerState.step_of_isIgnored hignored]
    exact ⟨rfl, rfl⟩
  published := ServerState.length_published_le_one factory state message
  addressed _ hmem := uri?_of_mem_published hmem

end GrammarServer
