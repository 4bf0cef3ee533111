import GrammarServer.Proofs.Locality

/-!
# Documents do not interfere

With an engine that has no memory, what a started server answers about one document, and
what it keeps of it, depends on the messages about that document alone.  Any other
messages may be mixed in: messages about other documents, searches, and further starts of
the session.

Main results:

- Theorem `AlikeAt.step_of_about`: a message about the document is answered alike in two
  states that are alike at the document, and leaves them so.
- Theorem `AlikeAt.step_of_not_about`: any other message leaves a state alike.
- Theorem `AlikeAt.purge`: leaving out the other messages changes nothing for the
  document.
- Theorem `documents_do_not_interfere`: the statement for two runs.
-/

namespace GrammarServer

/-- Whether a message is about a document. -/
def Message.isAbout (message : Message) (uri : Uri) : Bool :=
  decide (message.uri? = some uri)

/-- Two states with the same session that hold the same of one document. -/
structure AlikeAt (uri : Uri) (session : Session) (left right : ServerState) : Prop where
  left_session : left.session = some session
  right_session : right.session = some session
  document : left.store.get? uri = right.store.get? uri

namespace AlikeAt

variable {factory : EngineFactory} {uri : Uri} {session : Session} {left right : ServerState}
  {message : Message}

/-- A message about the document is answered alike, and leaves the states alike. -/
theorem step_of_about (h : AlikeAt uri session left right)
    (hengine : (factory session.root).Memoryless) (habout : message.uri? = some uri) :
    (left.step factory message).2 = (right.step factory message).2 ∧
      AlikeAt uri session (left.step factory message).1 (right.step factory message).1 := by
  have hleft : left.engine? factory = some (factory session.root) := by
    simp [ServerState.engine?, h.left_session]
  have hright : right.engine? factory = some (factory session.root) := by
    simp [ServerState.engine?, h.right_session]
  have hmemoryless : ∀ engine ∈ some (factory session.root), engine.Memoryless := by
    rintro engine ⟨⟩
    exact hengine
  have hsame : ((left.step factory message).1.store.get? uri, (left.step factory message).2) =
      ((right.step factory message).1.store.get? uri, (right.step factory message).2) := by
    rw [ServerState.step_eq_respond factory left habout,
      ServerState.step_eq_respond factory right habout, hleft, hright, h.document,
      respond_of_memoryless hmemoryless message left.calls,
      respond_of_memoryless hmemoryless message right.calls]
  rw [Prod.mk.injEq] at hsame
  refine ⟨hsame.2, ?_, ?_, hsame.1⟩
  · rw [ServerState.session_step, h.left_session, ServerState.sessionAfter_some]
  · rw [ServerState.session_step, h.right_session, ServerState.sessionAfter_some]

/-- A message about another document, or about none, leaves the states alike. -/
theorem step_of_not_about (factory : EngineFactory) (h : AlikeAt uri session left right)
    (habout : message.uri? ≠ some uri) :
    AlikeAt uri session (left.step factory message).1 right where
  left_session := by
    rw [ServerState.session_step, h.left_session, ServerState.sessionAfter_some]
  right_session := h.right_session
  document := by rw [ServerState.get?_step_of_ne habout, h.document]

/-- Leaving out all messages that are not about the document changes neither the answers
to the others nor what is kept of the document. -/
theorem purge (h : AlikeAt uri session left right)
    (hengine : (factory session.root).Memoryless) (messages : List Message) :
    (exchanges messages (left.run factory messages)).filter (·.1.isAbout uri) =
        exchanges (messages.filter (·.isAbout uri))
          (right.run factory (messages.filter (·.isAbout uri))) ∧
      (left.reached factory messages).store.get? uri =
        (right.reached factory (messages.filter (·.isAbout uri))).store.get? uri := by
  induction messages generalizing left right with
  | nil => exact ⟨rfl, h.document⟩
  | cons message rest ih =>
    by_cases habout : message.uri? = some uri
    · rcases h.step_of_about hengine habout with ⟨hanswer, hafter⟩
      rcases ih hafter with ⟨hrest, hdocument⟩
      have hkept : message.isAbout uri = true := decide_eq_true habout
      simp only [ServerState.run, ServerState.reached, exchanges_cons, List.filter_cons, hkept,
        if_true, hanswer, hrest, hdocument, and_self]
    · rcases ih (h.step_of_not_about factory habout) with ⟨hrest, hdocument⟩
      have hdropped : message.isAbout uri = false := decide_eq_false habout
      simp only [ServerState.run, ServerState.reached, exchanges_cons, List.filter_cons,
        hdropped, Bool.false_eq_true, if_false, hrest, hdocument, and_self]

end AlikeAt

/-- Two runs of a started server, with an engine that has no memory, that get the same
messages about one document and start with the same record of it (in particular with none)
give these messages the same replies, errors and publications, and end with the same
record of the document. -/
theorem documents_do_not_interfere (factory : EngineFactory) {session : Session} {uri : Uri}
    {left right : ServerState} {first second : List Message}
    (hengine : (factory session.root).Memoryless)
    (hstart : AlikeAt uri session left right)
    (hsame : first.filter (·.isAbout uri) = second.filter (·.isAbout uri)) :
    (exchanges first (left.run factory first)).filter (·.1.isAbout uri) =
        (exchanges second (right.run factory second)).filter (·.1.isAbout uri) ∧
      (left.reached factory first).store.get? uri =
        (right.reached factory second).store.get? uri := by
  have hright : AlikeAt uri session right right :=
    ⟨hstart.right_session, hstart.right_session, rfl⟩
  rcases hstart.purge hengine first with ⟨hfirst, hfirstDocument⟩
  rcases hright.purge hengine second with ⟨hsecond, hsecondDocument⟩
  rw [hfirst, hsecond, hfirstDocument, hsecondDocument, hsame]
  exact ⟨rfl, rfl⟩

/-! ## A quiet and a busy run -/

/-- A started server that has no document open. -/
def startedState : ServerState := { session := some ⟨none⟩ }

/-- An engine that finds one offense in every source and crashes when it parses. -/
def crashingScript : Script where
  parse := [.crashed]
  lint := [.ok [{ severity := .error, location := some ⟨1, 1⟩ }]]

/-- The document that both runs are about. -/
def observedUri : Uri := { scheme := "file", path := .segments ["a.y"] }

/-- Messages about one document only. -/
def quietMessages : List Message :=
  [.didOpen observedUri "s: A ;" 1, .hover observedUri ⟨0, 3⟩, .didChange observedUri 0 [""],
    .didSave observedUri (some "%%")]

/-- The same messages among others. -/
def busyMessages : List Message :=
  let other : Uri := { scheme := "file", path := .segments ["b.y"] }
  [.didOpen other "" 7, .didOpen observedUri "s: A ;" 1, .workspaceSymbol "s", .hover other ⟨0, 0⟩,
    .start {}, .hover observedUri ⟨0, 3⟩, .didClose other, .didChange observedUri 0 [""],
    .didSave observedUri (some "%%"), .shutdown]

/-- The other messages of the busy run do not change the answers about the document. -/
theorem busyMessages_do_not_interfere :
    quietMessages.filter (·.isAbout observedUri) = busyMessages.filter (·.isAbout observedUri) ∧
      let factory : EngineFactory := fun _ => .scripted crashingScript
      (exchanges quietMessages (startedState.run factory quietMessages)).filter
          (·.1.isAbout observedUri) =
        (exchanges busyMessages (startedState.run factory busyMessages)).filter
          (·.1.isAbout observedUri) ∧
      (startedState.reached factory quietMessages).store.get? observedUri =
        (startedState.reached factory busyMessages).store.get? observedUri := by
  have hsame : quietMessages.filter (·.isAbout observedUri) =
      busyMessages.filter (·.isAbout observedUri) := by decide
  have hengine : (Engine.scripted crashingScript).Memoryless :=
    memoryless_scripted (by decide) (by decide) (by decide) (by decide)
  have hstart : AlikeAt observedUri ⟨none⟩ startedState startedState := ⟨rfl, rfl, rfl⟩
  exact ⟨hsame, documents_do_not_interfere _ hengine hstart hsame⟩

end GrammarServer
