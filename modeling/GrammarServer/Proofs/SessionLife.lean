import GrammarServer.Proofs.MessageFrame
import GrammarServer.Protocol.Connection

/-!
# The life of a session

The first start of a run builds the engine and begins the session; nothing changes the
session afterwards.  Until then every message that needs an engine is refused.  From the first
start on no message is refused: it is answered by a reply of the kind it asks for, unless its
handling crashes.

Main results:

- Theorem `startedBy_reached`: the session and the engines after a run are those of its first
  start.
- Theorem `engine?_reached` and Theorem `step_eq_of_engines_eq`: messages are handled with the
  engine that was built at the first start, and with no other.
- Theorem `step_cases`: a message is refused exactly if it needs a session that has not
  started, and otherwise it is answered by the reply it asks for, or crashes.
- Theorem `Protocol.isExpected_receive`: a connection never gets a reply of the wrong kind.
- Theorem `session_starts_once_and_serves`: all of this for every run.
-/

namespace GrammarServer

/-! ## The first start -/

/-- The workspace that a message starts a session for. -/
def Message.startRoot? : Message → Option (Option String)
  | .start params => some params.workspaceRoot?
  | _ => none

/-- The workspace of the first start among some messages. -/
def firstRoot? (messages : List Message) : Option (Option String) :=
  messages.findSome? Message.startRoot?

/-- One message more makes a difference only if there was no start before. -/
theorem firstRoot?_concat (messages : List Message) (message : Message) :
    firstRoot? (messages ++ [message]) = (firstRoot? messages).or message.startRoot? := by
  have hone : [message].findSome? Message.startRoot? = message.startRoot? := by
    cases hroot : message.startRoot? <;> simp [hroot]
  rw [firstRoot?, List.findSome?_append, hone, firstRoot?]

/-- More messages do not change which start was the first. -/
theorem firstRoot?_append_of_some {messages : List Message} {root : Option String}
    (h : firstRoot? messages = some root) (later : List Message) :
    firstRoot? (messages ++ later) = some root := by
  rw [firstRoot?, List.findSome?_append, ← firstRoot?, h, Option.some_or]

/-- The session and the engines of a state are those of the first start among some
messages. -/
structure StartedBy (messages : List Message) (state : ServerState) : Prop where
  session : state.session = (firstRoot? messages).map Session.mk
  engines : state.engines = (firstRoot? messages).toList

namespace ServerState

variable {factory : EngineFactory} {state : ServerState} {message : Message} {uri : Uri}

/-- An analysis builds no engine. -/
theorem engines_analyzeAndAnswer (factory : EngineFactory) (state : ServerState) (uri : Uri) :
    (state.analyzeAndAnswer factory uri).1.engines = state.engines := by
  rcases analyze_cases factory state uri with
    ⟨⟨h, _⟩, _⟩ | ⟨_, _, _, _, ⟨h, _⟩ | ⟨_, _, _, _, h, _⟩⟩ <;> rw [h] <;> rfl

/-- A request to the engine builds no engine. -/
theorem engines_consult {α : Type} (reply : α → Reply) (absent : α)
    (ask : Engine → Document → EngineRun α) :
    (state.consult factory uri reply absent ask).1.engines = state.engines := by
  unfold consult
  cases state.session with
  | none => rfl
  | some session => cases state.store.get? uri <;> rfl

/-- Only a start builds an engine, and only if there is no session. -/
theorem engines_step (factory : EngineFactory) (state : ServerState) (message : Message) :
    (state.step factory message).1.engines =
      if state.session = none then state.engines ++ message.startRoot?.toList
      else state.engines := by
  cases hrole : message.role with
  | general =>
    cases message with
    | start params =>
      cases hsession : state.session <;> simp [step, start, Message.startRoot?, hsession]
    | _ => simp_all [step, Message.role, Message.startRoot?]
  | close closed =>
    obtain rfl := Message.eq_didClose_of_role hrole
    simp [step, withStore, Message.startRoot?]
  | consult consulted =>
    cases message with
    | formatting formatted => simp [step, engines_consult, Message.startRoot?]
    | codeAction fixed range => simp [step, engines_consult, Message.startRoot?]
    | _ => simp [Message.role] at hrole
  | read readUri =>
    have hquiet : message.startRoot? = none := by
      cases message <;> simp_all [Message.role, Message.startRoot?]
    rw [(readOff_step factory state hrole).engines, hquiet]
    simp
  | update updatedUri =>
    have hquiet : message.startRoot? = none := by
      cases message <;> simp_all [Message.role, Message.startRoot?]
    have hengines : (state.step factory message).1.engines = state.engines := by
      rw [step_eq_of_role_update hrole]
      cases state.store.update? message with
      | none => rfl
      | some updated => exact engines_analyzeAndAnswer factory _ updatedUri
    rw [hengines, hquiet]
    simp

/-- What a message makes of the session follows from its start. -/
theorem sessionAfter_eq_or (session : Option Session) (message : Message) :
    sessionAfter session message = session.or (message.startRoot?.map Session.mk) := by
  cases message <;> cases session <;> rfl

/-- A message keeps the session and the engines those of the first start. -/
theorem startedBy_step {messages : List Message} (h : StartedBy messages state)
    (message : Message) : StartedBy (messages ++ [message]) (state.step factory message).1 where
  session := by
    rw [session_step, sessionAfter_eq_or, firstRoot?_concat, h.session]
    cases firstRoot? messages <;> simp
  engines := by
    rw [engines_step, firstRoot?_concat, h.session, h.engines]
    cases firstRoot? messages <;> simp

/-- The session and the engines after a run are those of its first start. -/
theorem startedBy_reached (factory : EngineFactory) (messages : List Message) :
    StartedBy messages (reached factory {} messages) := by
  induction messages using List.reverseRecOn with
  | nil => exact ⟨rfl, rfl⟩
  | append_singleton messages message ih =>
    rw [reached_append]
    exact startedBy_step ih message

/-! ## The engine that is consulted -/

section Consulted

variable {other : EngineFactory} (h : state.engine? other = state.engine? factory)
include h

/-- The engine of the session is the same, however others would be built. -/
theorem factory_eq_of_engine?_eq {session : Session} (hsession : state.session = some session) :
    other session.root = factory session.root := by
  simpa only [engine?, hsession, Option.map_some, Option.some.injEq] using h

theorem analyzeAndAnswer_congr (uri : Uri) :
    state.analyzeAndAnswer other uri = state.analyzeAndAnswer factory uri := by
  unfold analyzeAndAnswer analyze
  cases hsession : state.session with
  | none => rfl
  | some session => simp only [factory_eq_of_engine?_eq h hsession]

theorem ensureGrammar_congr (uri : Uri) :
    state.ensureGrammar other uri = state.ensureGrammar factory uri := by
  unfold ensureGrammar
  cases hsession : state.session with
  | none => rfl
  | some session => simp only [factory_eq_of_engine?_eq h hsession]

theorem consult_congr {α : Type} (uri : Uri) (reply : α → Reply) (absent : α)
    (ask : Engine → Document → EngineRun α) :
    state.consult other uri reply absent ask = state.consult factory uri reply absent ask := by
  unfold consult
  cases hsession : state.session with
  | none => rfl
  | some session => simp only [factory_eq_of_engine?_eq h hsession]

/-- A message is handled with the engine of the session and with no other. -/
theorem step_congr (message : Message) :
    state.step other message = state.step factory message := by
  have hanalyze : ∀ store uri, (state.withStore store).analyzeAndAnswer other uri =
      (state.withStore store).analyzeAndAnswer factory uri := by
    intro store uri
    have hstore : (state.withStore store).engine? other = (state.withStore store).engine? factory :=
      h
    exact analyzeAndAnswer_congr hstore uri
  cases message with
  | didOpen uri text version => exact hanalyze _ uri
  | didChange uri version changes => simp only [step, didChange, hanalyze]
  | didSave uri text => simp only [step, didSave, hanalyze]
  | formatting uri => simp only [step, consult_congr h]
  | codeAction uri range => simp only [step, consult_congr h]
  | start | started | shutdown | didClose | workspaceSymbol => rfl
  | _ => simp only [step, read, ensureGrammar_congr h]

end Consulted

/-- The engine of the session after a run is the one that was built. -/
theorem engine?_reached (factory other : EngineFactory) (messages : List Message) :
    (reached factory {} messages).engine? other =
      (reached factory {} messages).engines.head?.map other := by
  have hstarted := startedBy_reached factory messages
  rw [engine?, hstarted.session, hstarted.engines, Option.map_map]
  cases firstRoot? messages with
  | none => rfl
  | some root => rfl

/-- After every run a message consults no engine but those that have been built. -/
theorem step_eq_of_engines_eq {factory other : EngineFactory} (messages : List Message)
    (h : ∀ root ∈ (reached factory {} messages).engines, other root = factory root)
    (message : Message) :
    (reached factory {} messages).step other message =
      (reached factory {} messages).step factory message := by
  apply step_congr
  rw [engine?_reached, engine?_reached]
  exact Option.map_congr fun root hroot => h root (List.mem_of_mem_head? hroot)

end ServerState

/-! ## Messages that are refused -/

/-- Whether a message needs a session: it asks for something about a document, or it is an
update that is not ignored. -/
def Message.needsSession (message : Message) (store : Store) : Bool :=
  match message.role with
  | .update _ => !message.isIgnored store
  | .consult _ | .read _ => true
  | .general | .close _ => false

/-- A message was served: it was answered by a reply of the kind it asks for, or its handling
crashed. -/
def Message.Served (message : Message) (result : Except ServerError Answer) : Prop :=
  (∃ answer, result = .ok answer ∧ message.expects answer.reply = true) ∨
    ∃ crash, result = .error (.crashed crash)

/-- A message that was served was not refused. -/
theorem Message.Served.ne_notInitialized {message : Message} {result : Except ServerError Answer}
    (h : message.Served result) : result ≠ .error .notInitialized := by
  rcases h with ⟨answer, rfl, _⟩ | ⟨crash, rfl⟩ <;> simp

/-- A computed answer serves a message that asks for this kind of reply. -/
theorem Message.served_answer {α : Type} {message : Message} {reply : α → Reply}
    (hreply : ∀ value, message.expects (reply value) = true) (result : Except Crash α) :
    message.Served (ServerState.answer reply result) := by
  cases result with
  | ok value => exact .inl ⟨_, rfl, hreply value⟩
  | error crash => exact .inr ⟨crash, rfl⟩

/-- So does an answer that is computed from a document, or from the fact that it is not
open. -/
theorem Message.served_answerFrom {α : Type} {message : Message} {reply : α → Reply}
    (hreply : ∀ value, message.expects (reply value) = true) (absent : α)
    (compute : Document → Except Crash α) (document : Option Document) :
    message.Served (answerFrom reply absent compute document) := by
  cases document with
  | none => exact served_answer hreply (.ok absent)
  | some document => exact served_answer hreply (compute document)

namespace ServerState

variable {factory : EngineFactory} {state : ServerState} {message : Message} {uri : Uri}
  {session : Session}

/-- An analysis in a session serves a message that asks for no more than being handled. -/
theorem served_analyzeAndAnswer (hsession : state.session = some session)
    (hempty : message.expects .empty = true) :
    message.Served (state.analyzeAndAnswer factory uri).2 := by
  simp only [analyzeAndAnswer, analyze, hsession]
  cases state.store.get? uri with
  | none => exact .inl ⟨_, rfl, hempty⟩
  | some document =>
    dsimp only
    cases ((factory session.root).lintDocument state.calls uri document.text).result with
    | error crash => exact .inr ⟨crash, rfl⟩
    | ok found => cases found <;> exact .inl ⟨_, rfl, hempty⟩

/-- Without a session an analysis is refused. -/
theorem analyzeAndAnswer_of_none (factory : EngineFactory) (hsession : state.session = none)
    (uri : Uri) : state.analyzeAndAnswer factory uri = (state, .error .notInitialized) := by
  simp [analyzeAndAnswer, analyze, hsession]

/-- A request to the engine in a session is served. -/
theorem served_consult {α : Type} {reply : α → Reply} (hsession : state.session = some session)
    (hreply : ∀ value, message.expects (reply value) = true) (absent : α)
    (ask : Engine → Document → EngineRun α) :
    message.Served (state.consult factory uri reply absent ask).2 := by
  simp only [consult, hsession]
  cases state.store.get? uri with
  | none => exact Message.served_answer hreply (.ok absent)
  | some document =>
    exact Message.served_answer hreply (ask (factory session.root) document).result

/-- Without a session a request to the engine is refused. -/
theorem consult_of_none {α : Type} (factory : EngineFactory) (hsession : state.session = none)
    (uri : Uri) (reply : α → Reply) (absent : α) (ask : Engine → Document → EngineRun α) :
    state.consult factory uri reply absent ask = (state, .error .notInitialized) := by
  simp [consult, hsession]

/-- Parsing on demand in a session ends well or crashes. -/
theorem ensureGrammar_result (hsession : state.session = some session) :
    (state.ensureGrammar factory uri).2 = .ok () ∨
      ∃ crash, (state.ensureGrammar factory uri).2 = .error (.crashed crash) := by
  simp only [ensureGrammar, hsession]
  cases state.store.get? uri with
  | none => exact .inl rfl
  | some document =>
    dsimp only
    cases document.grammar with
    | some grammar => exact .inl rfl
    | none =>
      dsimp only
      cases (factory session.root).parse state.calls document.text uri.filename with
      | ok grammar => exact .inl rfl
      | failed => exact .inl rfl
      | crashed => exact .inr ⟨_, rfl⟩

/-- Without a session nothing is parsed. -/
theorem ensureGrammar_of_none (factory : EngineFactory) (hsession : state.session = none)
    (uri : Uri) : state.ensureGrammar factory uri = (state, .error .notInitialized) := by
  simp [ensureGrammar, hsession]

/-- A computed answer to a request that reads a document is of the kind it asks for. -/
theorem served_readAnswer (hrole : message.role = .read uri) (document : Option Document) :
    message.Served (message.readAnswer document) := by
  cases message <;> simp only [Message.role, reduceCtorEq] at hrole <;>
    exact Message.served_answerFrom (fun _ => rfl) _ _ document

/-- A message is refused exactly if it needs a session that has not started; otherwise it is
served. -/
theorem step_cases (factory : EngineFactory) (state : ServerState) (message : Message) :
    if state.session = none ∧ message.needsSession state.store = true then
      (state.step factory message).2 = .error .notInitialized
    else message.Served (state.step factory message).2 := by
  cases hrole : message.role with
  | general =>
    rw [if_neg (by simp [Message.needsSession, hrole])]
    cases message with
    | start params => exact .inl ⟨_, rfl, rfl⟩
    | started => exact .inl ⟨_, rfl, rfl⟩
    | shutdown => exact .inl ⟨_, rfl, rfl⟩
    | workspaceSymbol query => exact Message.served_answer (fun _ => rfl) _
    | _ => simp [Message.role] at hrole
  | close closed =>
    rw [if_neg (by simp [Message.needsSession, hrole])]
    obtain rfl := Message.eq_didClose_of_role hrole
    exact .inl ⟨_, rfl, rfl⟩
  | consult consulted =>
    have hneeds : message.needsSession state.store = true := by
      simp [Message.needsSession, hrole]
    cases hsession : state.session with
    | none =>
      rw [if_pos ⟨rfl, hneeds⟩]
      cases message with
      | formatting formatted => rw [step, consult_of_none factory hsession]
      | codeAction fixed range => rw [step, consult_of_none factory hsession]
      | _ => simp [Message.role] at hrole
    | some session =>
      rw [if_neg (by simp)]
      cases message with
      | formatting formatted => exact served_consult hsession (fun _ => rfl) _ _
      | codeAction fixed range => exact served_consult hsession (fun _ => rfl) _ _
      | _ => simp [Message.role] at hrole
  | read readUri =>
    have hneeds : message.needsSession state.store = true := by
      simp [Message.needsSession, hrole]
    rw [step_eq_of_role_read hrole]
    cases hsession : state.session with
    | none =>
      rw [if_pos ⟨rfl, hneeds⟩, ensureGrammar_of_none factory hsession]
      rfl
    | some session =>
      rw [if_neg (by simp)]
      have hparsed : (state.ensureGrammar factory readUri).2 = .ok () ∨
          ∃ crash, (state.ensureGrammar factory readUri).2 = .error (.crashed crash) :=
        ensureGrammar_result hsession
      rcases hparsed with hok | ⟨crash, hcrash⟩
      · simp only [hok, Except.bind]
        exact served_readAnswer hrole _
      · simp only [hcrash, Except.bind]
        exact .inr ⟨crash, rfl⟩
  | update updatedUri =>
    have hempty : message.expects .empty = true := by
      cases message <;> simp_all [Message.role, Message.expects]
    have hignored : state.store.update? message = none ↔
        message.isIgnored state.store = true := Store.update?_eq_none_iff hrole
    rw [step_eq_of_role_update hrole]
    cases hupdated : state.store.update? message with
    | none =>
      rw [if_neg (by simp [Message.needsSession, hrole, hignored.mp hupdated])]
      exact .inl ⟨_, rfl, hempty⟩
    | some updated =>
      have hkept : message.isIgnored state.store = false := by
        rw [hupdated] at hignored
        simpa using hignored
      have hneeds : message.needsSession state.store = true := by
        simp [Message.needsSession, hrole, hkept]
      cases hsession : state.session with
      | none =>
        have hstill : (state.withStore updated).session = none := hsession
        rw [if_pos ⟨rfl, hneeds⟩]
        simp only [analyzeAndAnswer_of_none factory hstill]
      | some session =>
        rw [if_neg (by simp)]
        exact served_analyzeAndAnswer hsession hempty

/-- A message is refused exactly if it needs a session that has not started. -/
theorem step_eq_notInitialized_iff (factory : EngineFactory) (state : ServerState)
    (message : Message) :
    (state.step factory message).2 = .error .notInitialized ↔
      state.session = none ∧ message.needsSession state.store = true := by
  have hcases := step_cases factory state message
  split at hcases
  case isTrue hneeds => exact iff_of_true hcases hneeds
  case isFalse hneeds => exact iff_of_false hcases.ne_notInitialized hneeds

/-- Every message is served once its own start, or an earlier one, has begun the session. -/
theorem served_step (hsession : (sessionAfter state.session message).isSome = true) :
    message.Served (state.step factory message).2 := by
  have hcases := step_cases factory state message
  rwa [if_neg] at hcases
  rintro ⟨hnone, hneeds⟩
  rw [hnone] at hsession
  cases message <;> simp_all [sessionAfter, Message.needsSession, Message.role]

/-- Without a session, a request about a document leaves the store. -/
theorem store_step_of_none (hsession : state.session = none)
    (hrole : message.role = .consult uri ∨ message.role = .read uri) :
    (state.step factory message).1.store = state.store := by
  rcases hrole with hconsult | hread
  · exact (step_consult factory state hconsult).1
  · rw [(step_read factory state hread).1, ensureGrammar_of_none factory hsession]

end ServerState

/-! ## Connections -/

namespace Protocol

/-- A reaction that does not complain about a reply of the wrong kind. -/
def Reaction.IsExpected (reaction : Reaction) : Prop :=
  ∀ id, reaction.response ≠ .error id .unexpectedReply

variable {factory : EngineFactory} {connection : Connection} {incoming : Incoming}

/-- A call that is refused for another reason. -/
theorem isExpected_refuse {error : RpcError} (h : error ≠ .unexpectedReply) :
    (incoming.refuse error).IsExpected := by
  intro id
  unfold Incoming.refuse
  cases incoming.id with
  | none => simp
  | some asked =>
    simp only [ne_eq, Response.error.injEq, not_and]
    intro _
    exact h

/-- A call that is refused because of its phase, its parameters or its method. -/
theorem isExpected_refuse_of_code {error : RpcError} (h : error.code ≠ -32603) :
    (incoming.refuse error).IsExpected := by
  apply isExpected_refuse
  rintro rfl
  exact h rfl

/-- A reaction without a response. -/
theorem isExpected_silent (sent : List Sent) :
    ({ sent := sent } : Reaction).IsExpected := by
  intro id
  simp

/-- A reaction with a result. -/
theorem isExpected_result (id value : Json) (sent : List Sent) :
    (⟨.result id value, sent⟩ : Reaction).IsExpected := by
  intro asked
  simp

/-- A reply that is handed on is of the kind that its message asks for. -/
theorem expects_of_handle {message : Message} {reply : Reply}
    (h : (connection.handle factory message).2.1 = .ok reply) : message.expects reply = true := by
  simp only [Connection.handle] at h
  cases houtcome : (connection.server.step factory message).2 with
  | error error => simp [houtcome] at h
  | ok answer =>
    simp only [houtcome, Except.ok.injEq] at h
    have hcases := ServerState.step_cases factory connection.server message
    rw [houtcome] at hcases
    split at hcases
    · cases hcases
    · rcases hcases with ⟨served, hserved, hexpects⟩ | ⟨crash, hcrash⟩
      · rw [← h, Except.ok.inj hserved]
        exact hexpects
      · cases hcrash

/-- No failure of a handler is told as a reply of the wrong kind. -/
theorem handlerFailed_ne_unexpectedReply (error : ServerError) :
    RpcError.handlerFailed error ≠ .unexpectedReply := by
  cases error <;>
    simp [RpcError.handlerFailed, RpcError.unexpectedReply, ServerError.message]

/-- A request gets the reply it asks for. -/
theorem isExpected_request (method : Method) :
    (connection.request factory method incoming).2.IsExpected := by
  unfold Connection.request
  split
  · exact isExpected_silent []
  · exact isExpected_refuse_of_code (by decide)
  · rename_i id message _ _
    dsimp only
    cases houtcome : (connection.handle factory message).2.1 with
    | ok value =>
      dsimp only
      rw [if_pos (expects_of_handle houtcome)]
      exact isExpected_result id _ _
    | error error =>
      intro asked
      simp only [ne_eq, Response.error.injEq, not_and]
      intro _
      exact handlerFailed_ne_unexpectedReply error

/-- A notification gets no reply at all. -/
theorem isExpected_notify (method : Method) :
    (connection.notify factory method incoming).2.IsExpected := by
  unfold Connection.notify
  split
  · exact isExpected_refuse_of_code (by decide)
  · exact isExpected_silent []
  · exact isExpected_silent _

/-- The start of a session has a fixed result. -/
theorem isExpected_start : (connection.start factory incoming).2.IsExpected := by
  unfold Connection.start
  split
  · split
    · exact isExpected_silent []
    · exact isExpected_refuse_of_code (by decide)
    · exact isExpected_result _ _ _
  · exact isExpected_refuse_of_code (by decide)

/-- A shutdown has a fixed result. -/
theorem isExpected_shutdown : (connection.shutdown factory incoming).2.IsExpected := by
  unfold Connection.shutdown
  dsimp only
  split
  · exact isExpected_silent []
  · exact isExpected_refuse_of_code (by decide)
  · exact isExpected_result _ _ _

/-- The phase of a connection adds refusals only. -/
theorem isExpected_whileRunning {act : Connection × Reaction} (h : act.2.IsExpected) :
    (connection.whileRunning incoming act).2.IsExpected := by
  unfold Connection.whileRunning
  cases connection.phase with
  | running => exact h
  | uninitialized => exact isExpected_refuse_of_code (by decide)
  | shutDown => exact isExpected_refuse_of_code (by decide)
  | exited => exact isExpected_refuse_of_code (by decide)

/-- A call of a method that the server offers gets the reply it asks for. -/
theorem isExpected_offered (method : Method) :
    (connection.offered factory method incoming).2.IsExpected := by
  unfold Connection.offered
  split
  · exact isExpected_start
  · exact isExpected_whileRunning isExpected_shutdown
  · apply isExpected_whileRunning
    split
    · exact isExpected_notify method
    · exact isExpected_request method

/-- A call of a method that the server does not offer is refused or ignored. -/
theorem isExpected_unoffered : (connection.unoffered incoming).2.IsExpected := by
  unfold Connection.unoffered
  split
  · apply isExpected_whileRunning
    split
    · exact isExpected_refuse_of_code (by decide)
    · exact isExpected_refuse_of_code (by decide)
  · split
    · exact isExpected_whileRunning (isExpected_refuse_of_code (by decide))
    · split
      · exact isExpected_silent []
      · exact isExpected_refuse_of_code (show (-32601 : Int) ≠ -32603 by decide)

/-- No call meets a reply of the wrong kind. -/
theorem isExpected_receive (factory : EngineFactory) (connection : Connection)
    (incoming : Incoming) : (connection.receive factory incoming).2.IsExpected := by
  unfold Connection.receive
  split
  · intro id
    simp
  · split
    · exact isExpected_silent []
    · split
      · exact isExpected_refuse_of_code (by decide)
      · split
        · exact isExpected_offered _
        · exact isExpected_unoffered

end Protocol

/-! ## Every run -/

/-- The first start of a run builds the only engine, for its workspace, and begins the
session, which no later message changes.  Before it, exactly the messages that need a session
are refused, and requests leave the store as it is.  From it on every message is answered by
a reply of the kind it asks for, unless its handling crashes, so that no connection ever gets
a reply of the wrong kind. -/
theorem session_starts_once_and_serves (factory : EngineFactory) (messages : List Message) :
    let state := ServerState.reached factory {} messages
    (state.engines = (firstRoot? messages).toList ∧
      state.session = (firstRoot? messages).map Session.mk) ∧
    (∀ later session, state.session = some session →
      (state.reached factory later).session = some session ∧
        (state.reached factory later).engines = state.engines) ∧
    (∀ message, state.session = none →
      ((state.step factory message).2 = .error .notInitialized ↔
          message.needsSession state.store = true) ∧
        ∀ uri, message.role = .consult uri ∨ message.role = .read uri →
          (state.step factory message).1.store = state.store) ∧
    (∀ message, (firstRoot? (messages ++ [message])).isSome = true →
      message.Served (state.step factory message).2) ∧
    ∀ connection incoming,
      (Protocol.Connection.receive factory connection incoming).2.IsExpected := by
  have hstarted := ServerState.startedBy_reached factory messages
  refine ⟨⟨hstarted.engines, hstarted.session⟩, ?_, ?_, ?_, Protocol.isExpected_receive factory⟩
  · intro later session hsession
    have hlater := ServerState.startedBy_reached factory (messages ++ later)
    rw [ServerState.reached_append] at hlater
    have hroot : firstRoot? messages = some session.root := by
      have hsome := hstarted.session.symm.trans hsession
      obtain ⟨root, hroot, rfl⟩ := Option.map_eq_some_iff.mp hsome
      exact hroot
    have hsame := firstRoot?_append_of_some hroot later
    rw [hlater.session, hlater.engines, hsame, hstarted.engines, hroot]
    exact ⟨rfl, rfl⟩
  · intro message hnone
    refine ⟨?_, fun _ hrole => ServerState.store_step_of_none hnone hrole⟩
    rw [ServerState.step_eq_notInitialized_iff]
    exact and_iff_right hnone
  · intro message hstart
    apply ServerState.served_step
    have hafter : StartedBy (messages ++ [message])
        ((ServerState.reached factory {} messages).step factory message).1 :=
      ServerState.startedBy_step hstarted message
    rw [← ServerState.session_step factory, hafter.session, Option.isSome_map]
    exact hstart

end GrammarServer
