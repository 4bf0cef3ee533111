import GrammarServer.Proofs.Locality

/-!
# Kept grammars are invisible

The server keeps the grammar of a document from one request to the next.  The reference
below keeps none: it parses the text anew for every request that reads a document.  With
an engine that has no memory, the two answer all messages alike, apart from searches,
which look only at documents that have a grammar already.

Main results:

- Definition `ServerState.stepAfresh`: the server that keeps no grammar.
- Theorem `respond_isCurrent`: a grammar that a message leaves with a document is what a
  parse of its text gives.
- Theorem `Shadows.step`: one message keeps the two servers in step and is answered alike.
- Theorem `kept_grammars_are_invisible`: the statement for whole runs.
-/

namespace GrammarServer

/-- A document without its grammar. -/
def Document.withoutGrammar (document : Document) : Document :=
  { document with grammar := none }

/-! ## The server that keeps no grammar -/

namespace ServerState

/-- Answer a request that reads a document by parsing its text anew.  The grammar serves
this answer only; the document stays as it is. -/
def readAfresh (factory : EngineFactory) (state : ServerState) (uri : Uri)
    (message : Message) : Outcome Answer :=
  match state.session with
  | none => (state, .error .notInitialized)
  | some session =>
    match state.store.get? uri with
    | none => (state, message.readAnswer none)
    | some document =>
      let parsed := (factory session.root).parse state.calls document.text uri.filename
      (state.record [⟨.parse, document.text, uri.filename⟩],
        (message.parseAndAnswer document.withoutGrammar parsed).2)

/-- Handle a message and keep no grammar. -/
def stepAfresh (factory : EngineFactory) (state : ServerState) (message : Message) :
    Outcome Answer :=
  match message.role with
  | .read uri => state.readAfresh factory uri message
  | _ => state.step factory message

/-- Handle messages one after the other and keep no grammar; the outcomes in order. -/
def runAfresh (factory : EngineFactory) (state : ServerState) :
    List Message → List (Outcome Answer)
  | [] => []
  | message :: rest =>
    let outcome := state.stepAfresh factory message
    outcome :: outcome.1.runAfresh factory rest

variable {factory : EngineFactory} {state : ServerState} {message : Message} {uri : Uri}

/-- A request that parses anew changes nothing but the log of calls. -/
theorem readAfresh_keeps (factory : EngineFactory) (state : ServerState) (uri : Uri)
    (message : Message) :
    (state.readAfresh factory uri message).1.store = state.store ∧
      (state.readAfresh factory uri message).1.session = state.session := by
  unfold readAfresh
  cases hsession : state.session with
  | none => exact ⟨rfl, hsession⟩
  | some session => cases state.store.get? uri <;> exact ⟨rfl, hsession⟩

/-- The server that keeps no grammar treats all other messages alike. -/
theorem stepAfresh_of_role_ne (h : ∀ uri, message.role ≠ .read uri) :
    state.stepAfresh factory message = state.step factory message := by
  unfold stepAfresh
  split
  · next uri hrole => exact absurd hrole (h uri)
  · rfl

theorem stepAfresh_of_role_read (hrole : message.role = .read uri) :
    state.stepAfresh factory message = state.readAfresh factory uri message := by
  simp [stepAfresh, hrole]

/-- The server that keeps no grammar has the same sessions. -/
theorem session_stepAfresh (factory : EngineFactory) (state : ServerState)
    (message : Message) :
    (state.stepAfresh factory message).1.session = sessionAfter state.session message := by
  by_cases hread : ∃ uri, message.role = .read uri
  · rcases hread with ⟨uri, hrole⟩
    rw [stepAfresh_of_role_read hrole, (readAfresh_keeps factory state uri message).2,
      sessionAfter_of_role_ne (by simp [hrole])]
  · rw [stepAfresh_of_role_ne fun uri hrole => hread ⟨uri, hrole⟩]
    exact session_step factory state message

/-- The documents that a message is not about stay as they are. -/
theorem get?_stepAfresh_of_ne (h : message.uri? ≠ some uri) :
    (state.stepAfresh factory message).1.store.get? uri = state.store.get? uri := by
  by_cases hread : ∃ readUri, message.role = .read readUri
  · rcases hread with ⟨readUri, hrole⟩
    rw [stepAfresh_of_role_read hrole, (readAfresh_keeps factory state readUri message).1]
  · rw [stepAfresh_of_role_ne fun readUri hrole => hread ⟨readUri, hrole⟩]
    exact get?_step_of_ne h

end ServerState

/-! ## Grammars play no part in other messages -/

/-- Taking over a text does not look at the grammar. -/
theorem Message.revise?_withoutGrammar (message : Message) (document : Option Document) :
    message.revise? (document.map (·.withoutGrammar)) =
      (message.revise? document).map (·.withoutGrammar) := by
  cases message with
  | didChange changed version changes =>
    cases document with
    | none => rfl
    | some old =>
      cases hlast : changes.getLast? with
      | none => simp [revise?, hlast]
      | some text =>
        by_cases hstale : version < old.version <;>
          simp [revise?, hlast, hstale, Document.withoutGrammar, Document.withText]
  | didSave saved text =>
    cases document with
    | none => rfl
    | some old => cases text <;> rfl
  | _ => rfl

/-- An analysis does not look at the grammar. -/
theorem Document.analyze_withoutGrammar (document : Document) (engine : Option Engine)
    (log : List Call) (uri : Uri) :
    document.withoutGrammar.analyze engine log uri =
      (document.analyze engine log uri).map (·.withoutGrammar) id := by
  cases engine with
  | none => rfl
  | some engine =>
    simp only [analyze, withoutGrammar, showing, analysisAnswer]
    cases (engine.lintDocument log uri document.text).result with
    | error crash => rfl
    | ok found => cases found <;> rfl

/-- A request to the engine does not look at the grammar. -/
theorem Message.consultAnswer_withoutGrammar (message : Message) (engine : Engine)
    (log : List Call) (document : Option Document) :
    message.consultAnswer engine log (document.map (·.withoutGrammar)) =
      message.consultAnswer engine log document := by
  cases message <;> cases document <;> rfl

/-- No message but the requests that read a document looks at its grammar. -/
theorem Message.respond_withoutGrammar {message : Message}
    (hread : ∀ uri, message.role ≠ .read uri) (engine : Option Engine) (log : List Call)
    (document : Option Document) :
    message.respond engine log (document.map (·.withoutGrammar)) =
      (message.respond engine log document).map (Option.map (·.withoutGrammar)) id := by
  cases hrole : message.role with
  | general => simp [respond, hrole]
  | close closed => simp [respond, hrole]
  | read readUri => exact absurd hrole (hread readUri)
  | consult consulted =>
    cases engine <;> simp [respond, hrole, consultAnswer_withoutGrammar]
  | update updatedUri =>
    simp only [respond, hrole, revise?_withoutGrammar]
    cases message.revise? document with
    | none => rfl
    | some revised =>
      simp only [Option.map_some, Document.analyze_withoutGrammar]
      rfl

/-! ## Grammars are current -/

/-- A document whose grammar, if it has one, is what a parse of its text gives. -/
def Document.IsCurrent (document : Document) (engine : Option Engine) (uri : Uri) : Prop :=
  ∀ grammar, document.grammar = some grammar →
    ∃ found ∈ engine, found.parse [] document.text uri.filename = .ok grammar

/-- A grammar stays current when a session starts. -/
theorem Document.IsCurrent.mono {document : Document} {engine later : Option Engine} {uri : Uri}
    (h : document.IsCurrent engine uri) (hlater : ∀ found ∈ engine, found ∈ later) :
    document.IsCurrent later uri := by
  intro grammar hgrammar
  obtain ⟨found, hfound, hparse⟩ := h grammar hgrammar
  exact ⟨found, hlater found hfound, hparse⟩

/-- An analysis leaves a grammar current. -/
theorem Document.IsCurrent.analyze {document : Document} {engine : Option Engine} {uri : Uri}
    (h : document.IsCurrent engine uri) (log : List Call) :
    (document.analyze engine log uri).1.IsCurrent engine uri := by
  cases engine with
  | none => exact h
  | some engine =>
    simp only [Document.analyze, Document.showing]
    split <;> exact h

/-- A text that is taken over comes without a grammar. -/
theorem Message.isCurrent_revise? {message : Message} {engine : Option Engine} {uri : Uri}
    {document : Option Document} (h : ∀ old ∈ document, old.IsCurrent engine uri) :
    ∀ revised ∈ message.revise? document, revised.IsCurrent engine uri := by
  intro revised hrevised
  cases message with
  | didOpen opened text version =>
    obtain rfl : Document.fresh opened text version = revised := by
      simpa [revise?] using hrevised
    simp [Document.IsCurrent, Document.fresh]
  | didChange changed version changes =>
    simp only [revise?] at hrevised
    split at hrevised
    · split at hrevised
      · cases hrevised
      · obtain rfl := Option.some.inj hrevised
        simp [Document.IsCurrent, Document.withText]
    · cases hrevised
  | didSave saved text =>
    obtain ⟨old, hold, rfl⟩ := Option.map_eq_some_iff.mp hrevised
    cases text with
    | none => exact h old hold
    | some text => simp [Document.IsCurrent, Document.withText]
  | _ => cases hrevised

/-- A request that reads a document leaves its grammar current. -/
theorem Message.isCurrent_readWith {engine : Engine} {uri : Uri} {document : Option Document}
    (hengine : engine.Memoryless) (h : ∀ old ∈ document, old.IsCurrent (some engine) uri)
    (message : Message) (log : List Call) :
    ∀ left ∈ (message.readWith engine log uri document).1,
      left.IsCurrent (some engine) uri := by
  intro left hleft
  cases document with
  | none => cases hleft
  | some old =>
    simp only [readWith] at hleft
    cases hgrammar : old.grammar with
    | some grammar =>
      simp only [hgrammar, Option.mem_some_iff] at hleft
      rw [← hleft]
      exact h old rfl
    | none =>
      simp only [hgrammar, hengine.1 log] at hleft
      cases hparsed : engine.parse [] old.text uri.filename with
      | crashed =>
        obtain rfl : old = left := by simpa [hparsed, parseAndAnswer] using hleft
        exact h old rfl
      | failed =>
        obtain rfl : old = left := by simpa [hparsed, parseAndAnswer] using hleft
        exact h old rfl
      | ok grammar =>
        obtain rfl : { old with grammar := some grammar } = left := by
          simpa [hparsed, parseAndAnswer] using hleft
        intro kept hkept
        obtain rfl := Option.some.inj hkept
        exact ⟨engine, rfl, hparsed⟩

/-- A grammar that a message leaves with its document is what a parse of the text of the
document gives. -/
theorem respond_isCurrent {message : Message} {engine : Option Engine} {uri : Uri}
    {document : Option Document} (huri : message.uri? = some uri)
    (hengine : ∀ found ∈ engine, found.Memoryless)
    (h : ∀ old ∈ document, old.IsCurrent engine uri) (log : List Call) :
    ∀ left ∈ (message.respond engine log document).1, left.IsCurrent engine uri := by
  rw [Message.uri?_eq_role_uri?] at huri
  intro left hleft
  cases hrole : message.role with
  | general => simp [hrole, Role.uri?] at huri
  | close closed => simp [Message.respond, hrole] at hleft
  | consult consulted =>
    cases engine <;> exact h left (by simpa [Message.respond, hrole] using hleft)
  | read readUri =>
    obtain rfl : readUri = uri := by simpa [hrole, Role.uri?] using huri
    simp only [Message.respond, hrole] at hleft
    cases engine with
    | none => exact h left hleft
    | some engine => exact message.isCurrent_readWith (hengine engine rfl) h log left hleft
  | update updatedUri =>
    obtain rfl : updatedUri = uri := by simpa [hrole, Role.uri?] using huri
    simp only [Message.respond, hrole] at hleft
    cases hrevised : message.revise? document with
    | none => exact h left (by simpa [hrevised] using hleft)
    | some revised =>
      obtain rfl : (revised.analyze engine log updatedUri).1 = left := by
        simpa [hrevised] using hleft
      exact (Message.isCurrent_revise? h revised hrevised).analyze log

/-! ## Reading with and without a kept grammar -/

/-- A request that reads a document changes at most its grammar. -/
theorem Message.map_withoutGrammar_readWith (message : Message) (engine : Engine)
    (log : List Call) (uri : Uri) (document : Option Document) :
    (message.readWith engine log uri document).1.map (·.withoutGrammar) =
      document.map (·.withoutGrammar) := by
  cases document with
  | none => rfl
  | some document =>
    simp only [readWith]
    cases document.grammar with
    | some grammar => rfl
    | none =>
      simp only [parseAndAnswer]
      cases engine.parse log document.text uri.filename <;> rfl

/-- A current grammar answers a request as a new parse does. -/
theorem Message.snd_readWith {engine : Engine} {uri : Uri} {document : Document}
    (hengine : engine.Memoryless) (h : document.IsCurrent (some engine) uri)
    (message : Message) (log other : List Call) :
    (message.readWith engine log uri (some document)).2 =
      (message.parseAndAnswer document.withoutGrammar
        (engine.parse other document.text uri.filename)).2 := by
  rw [hengine.1 other]
  cases hgrammar : document.grammar with
  | some grammar =>
    obtain ⟨found, hfound, hparse⟩ := h grammar hgrammar
    obtain rfl := Option.some.inj hfound
    have hsame : { document.withoutGrammar with grammar := some grammar } = document := by
      simp [Document.withoutGrammar, ← hgrammar]
    simp [readWith, hgrammar, hparse, parseAndAnswer, hsame]
  | none =>
    have hsame : document.withoutGrammar = document := by
      simp [Document.withoutGrammar, ← hgrammar]
    simp [readWith, hgrammar, hsame, hengine.1 log]

/-! ## The two servers stay in step -/

/-- A state of the server and a state of the one that keeps no grammar, after the same
messages. -/
structure Shadows (factory : EngineFactory) (keeping plain : ServerState) : Prop where
  session : plain.session = keeping.session
  documents : ∀ uri, plain.store.get? uri =
    (keeping.store.get? uri).map (·.withoutGrammar)
  /-- Every grammar that is kept is what a parse of the present text gives. -/
  current : ∀ uri, ∀ document ∈ keeping.store.get? uri,
    document.IsCurrent (keeping.engine? factory) uri

namespace Shadows

variable {factory : EngineFactory} {keeping plain : ServerState} {message : Message} {uri : Uri}

/-- Both servers start without documents and without a session. -/
theorem start (factory : EngineFactory) : Shadows factory {} {} where
  session := rfl
  documents _ := rfl
  current := by
    intro uri document hdocument
    cases hdocument

theorem engine?_eq (h : Shadows factory keeping plain) :
    plain.engine? factory = keeping.engine? factory := by
  rw [ServerState.engine?, ServerState.engine?, h.session]

/-- A request that reads a document leaves the two servers the same of it, apart from the
grammar, and both give the same answer. -/
theorem step_of_read (h : Shadows factory keeping plain)
    (hengine : ∀ root, (factory root).Memoryless) (hrole : message.role = .read uri) :
    (plain.stepAfresh factory message).1.store.get? uri =
        ((keeping.step factory message).1.store.get? uri).map (·.withoutGrammar) ∧
      (plain.stepAfresh factory message).2 = (keeping.step factory message).2 := by
  have hkeeping : ((keeping.step factory message).1.store.get? uri,
      (keeping.step factory message).2) =
        message.respond (keeping.engine? factory) keeping.calls (keeping.store.get? uri) :=
    ServerState.step_eq_respond_of_read hrole
  have hstore := (ServerState.readAfresh_keeps factory plain uri message).1
  rw [ServerState.stepAfresh_of_role_read hrole, hstore, h.documents]
  simp only [Message.respond, hrole] at hkeeping
  cases hsession : keeping.session with
  | none =>
    have hplain : plain.session = none := by rw [h.session, hsession]
    simp only [ServerState.engine?, hsession, Option.map_none, Prod.mk.injEq] at hkeeping
    rw [hkeeping.1, hkeeping.2]
    simp [ServerState.readAfresh, hplain]
  | some session =>
    have hplain : plain.session = some session := by rw [h.session, hsession]
    simp only [ServerState.engine?, hsession, Option.map_some] at hkeeping
    have hdocument := congrArg Prod.fst hkeeping
    have hanswer := congrArg Prod.snd hkeeping
    simp only at hdocument hanswer
    rw [hdocument, hanswer, Message.map_withoutGrammar_readWith]
    refine ⟨rfl, ?_⟩
    cases hget : keeping.store.get? uri with
    | none => simp [ServerState.readAfresh, hplain, h.documents, hget, Message.readWith]
    | some document =>
      have hcurrent : document.IsCurrent (some (factory session.root)) uri := by
        simpa [ServerState.engine?, hsession] using h.current uri document hget
      rw [Message.snd_readWith (hengine session.root) hcurrent message keeping.calls plain.calls]
      simp [ServerState.readAfresh, hplain, h.documents, hget, Document.withoutGrammar]

/-- A message about a document leaves the two servers the same of it, apart from the
grammar, and both give the same answer. -/
theorem step_of_about (h : Shadows factory keeping plain)
    (hengine : ∀ root, (factory root).Memoryless) (huri : message.uri? = some uri) :
    (plain.stepAfresh factory message).1.store.get? uri =
        ((keeping.step factory message).1.store.get? uri).map (·.withoutGrammar) ∧
      (plain.stepAfresh factory message).2 = (keeping.step factory message).2 := by
  by_cases hread : ∃ readUri, message.role = .read readUri
  · rcases hread with ⟨readUri, hrole⟩
    obtain rfl : readUri = uri := by
      rw [Message.uri?_eq_role_uri?, hrole] at huri
      exact Option.some.inj huri
    exact h.step_of_read hengine hrole
  · -- The documents differ in their grammars, at which these messages do not look.
    have hother : ∀ readUri, message.role ≠ .read readUri :=
      fun readUri hrole => hread ⟨readUri, hrole⟩
    have hmemoryless := ServerState.memoryless_of_mem_engine? hengine keeping
    have hplain : ((plain.step factory message).1.store.get? uri,
        (plain.step factory message).2) =
          ((keeping.step factory message).1.store.get? uri,
            (keeping.step factory message).2).map (Option.map (·.withoutGrammar)) id := by
      rw [ServerState.step_eq_respond factory plain huri,
        ServerState.step_eq_respond factory keeping huri, h.engine?_eq, h.documents uri,
        respond_of_memoryless hmemoryless message plain.calls,
        respond_of_memoryless hmemoryless message keeping.calls,
        Message.respond_withoutGrammar hother]
    rw [ServerState.stepAfresh_of_role_ne hother]
    exact Prod.mk.inj hplain

/-- One message keeps the two servers in step. -/
theorem step (h : Shadows factory keeping plain)
    (hengine : ∀ root, (factory root).Memoryless) (message : Message) :
    Shadows factory (keeping.step factory message).1 (plain.stepAfresh factory message).1 where
  session := by
    rw [ServerState.session_stepAfresh, ServerState.session_step, h.session]
  documents := by
    intro uri
    by_cases huri : message.uri? = some uri
    · exact (h.step_of_about hengine huri).1
    · rw [ServerState.get?_stepAfresh_of_ne huri, ServerState.get?_step_of_ne huri, h.documents]
  current := by
    intro uri document hdocument
    have hcurrent : document.IsCurrent (keeping.engine? factory) uri := by
      by_cases huri : message.uri? = some uri
      · have hrespond := congrArg Prod.fst (ServerState.step_eq_respond factory keeping huri)
        simp only at hrespond
        rw [hrespond] at hdocument
        have hmemoryless := ServerState.memoryless_of_mem_engine? hengine keeping
        exact respond_isCurrent huri hmemoryless (h.current uri) keeping.calls document hdocument
      · rw [ServerState.get?_step_of_ne huri] at hdocument
        exact h.current uri document hdocument
    exact hcurrent.mono (ServerState.mem_engine?_step message)

end Shadows

/-! ## Whole runs -/

/-- Whether a message is a search of the workspace. -/
def Message.isSearch : Message → Bool
  | .workspaceSymbol _ => true
  | _ => false

/-- Every message but a search is answered alike. -/
theorem Shadows.answer_eq {factory : EngineFactory} {keeping plain : ServerState}
    {message : Message} (h : Shadows factory keeping plain)
    (hengine : ∀ root, (factory root).Memoryless) (hsearch : message.isSearch = false) :
    (plain.stepAfresh factory message).2 = (keeping.step factory message).2 := by
  cases huri : message.uri? with
  | some uri => exact (h.step_of_about hengine huri).2
  | none =>
    cases message with
    | start params => rfl
    | started => rfl
    | shutdown => rfl
    | workspaceSymbol query => cases hsearch
    | _ => cases huri

/-- Two servers in step answer all messages but searches alike. -/
theorem Shadows.exchanges_eq {factory : EngineFactory} {keeping plain : ServerState}
    (h : Shadows factory keeping plain) (hengine : ∀ root, (factory root).Memoryless)
    (messages : List Message) :
    (exchanges messages (keeping.run factory messages)).filter (!·.1.isSearch) =
      (exchanges messages (plain.runAfresh factory messages)).filter (!·.1.isSearch) := by
  induction messages generalizing keeping plain with
  | nil => rfl
  | cons message rest ih =>
    have hrest := ih (h.step hengine message)
    cases hsearch : message.isSearch with
    | true =>
      simpa only [ServerState.run, ServerState.runAfresh, exchanges_cons, List.filter_cons,
        hsearch, Bool.not_true, Bool.false_eq_true, if_false] using hrest
    | false =>
      simpa only [ServerState.run, ServerState.runAfresh, exchanges_cons, List.filter_cons,
        hsearch, Bool.not_false, if_true, h.answer_eq hengine hsearch, List.cons.injEq,
        true_and] using hrest

/-- The server in step with another one keeps no grammar. -/
theorem Shadows.grammar_eq_none {factory : EngineFactory} {keeping plain : ServerState}
    (h : Shadows factory keeping plain) {uri : Uri} {document : Document}
    (hget : plain.store.get? uri = some document) : document.grammar = none := by
  rw [h.documents uri, Option.map_eq_some_iff] at hget
  obtain ⟨kept, _, rfl⟩ := hget
  rfl

/-- The server in step with another one never keeps a grammar. -/
theorem Shadows.grammar_eq_none_of_mem_runAfresh {factory : EngineFactory}
    {keeping plain : ServerState} (h : Shadows factory keeping plain)
    (hengine : ∀ root, (factory root).Memoryless) (messages : List Message) :
    ∀ outcome ∈ plain.runAfresh factory messages, ∀ uri,
      ∀ document ∈ outcome.1.store.get? uri, document.grammar = none := by
  induction messages generalizing keeping plain with
  | nil => simp [ServerState.runAfresh]
  | cons message rest ih =>
    have hnext := h.step hengine message
    intro outcome houtcome
    rcases List.mem_cons.mp houtcome with rfl | hrest
    · exact fun uri document hget => hnext.grammar_eq_none hget
    · exact ih hnext outcome hrest

/-- With an engine that answers by source and file name alone, the server gives every
message but a search the same reply, error and publications as the server that parses
anew for every request that reads a document, and which indeed never keeps a grammar. -/
theorem kept_grammars_are_invisible (factory : EngineFactory)
    (hengine : ∀ root, (factory root).Memoryless) (messages : List Message) :
    (exchanges messages (ServerState.run factory {} messages)).filter (!·.1.isSearch) =
        (exchanges messages (ServerState.runAfresh factory {} messages)).filter
          (!·.1.isSearch) ∧
      ∀ outcome ∈ ServerState.runAfresh factory {} messages, ∀ uri,
        ∀ document ∈ outcome.1.store.get? uri, document.grammar = none :=
  ⟨(Shadows.start factory).exchanges_eq hengine messages,
    (Shadows.start factory).grammar_eq_none_of_mem_runAfresh hengine messages⟩

/-! ## A run that reads a document again and again -/

/-- An engine that finds one rule in every source, too far to the right to be pointed
at. -/
def distantScript : Script where
  parse := [.ok { rules := [{ name := "ss", location := some ⟨1, 4294967295⟩ }] }]
  lint := [.failed]

/-- The document of the run. -/
def rereadUri : Uri := { scheme := "file", path := .segments ["a.y"] }

/-- A run that reads a document before and after the session starts, ignores a stale
text, saves without a text and breaks off at a definition. -/
def rereadMessages : List Message :=
  [.didOpen rereadUri "ss: ;" 3, .hover rereadUri ⟨0, 0⟩, .start {}, .hover rereadUri ⟨0, 0⟩,
    .didChange rereadUri 2 ["%%"], .didSave rereadUri none, .definition rereadUri ⟨0, 0⟩,
    .completion rereadUri, .workspaceSymbol "s", .didClose rereadUri]

/-- The server parses once and the reference three times, but the answers are the same. -/
theorem rereadMessages_answered_alike :
    let factory : EngineFactory := fun _ => .scripted distantScript
    let kept := ServerState.run factory {} rereadMessages
    let afresh := ServerState.runAfresh factory {} rereadMessages
    kept.getLast?.map (callCount .parse ·.1.calls) = some 1 ∧
      afresh.getLast?.map (callCount .parse ·.1.calls) = some 3 ∧
      (exchanges rereadMessages kept).filter (!·.1.isSearch) =
        (exchanges rereadMessages afresh).filter (!·.1.isSearch) ∧
      ∀ outcome ∈ afresh, ∀ uri, ∀ document ∈ outcome.1.store.get? uri,
        document.grammar = none := by
  have hengine : (Engine.scripted distantScript).Memoryless :=
    memoryless_scripted (by decide) (by decide) (by decide) (by decide)
  exact ⟨by decide, by decide, kept_grammars_are_invisible _ (fun _ => hengine) rereadMessages⟩

end GrammarServer
