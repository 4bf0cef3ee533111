import GrammarServer.Proofs.Effect

/-!
# The grammar of a document is never stale

A document keeps its grammar from one request to the next.  This file relates what is
kept to the calls of the engine: the grammar of an open document is the result of the one
successful parse since its text was last written, and that parse was given the text that
the document has now.

Main results:

- Theorem `kept_step`: one message keeps the relation between a document's grammar and
  the parse calls since its last write.
- Theorem `countP_parse_calls_handle`: exactly the requests that find an open document
  without a grammar in a started session make a parse call, and they make one.
- Theorem `cached_grammar_is_parse_since_write`: the statement for whole runs.
-/

namespace GrammarServer

/-! ## Writes and parses in a history -/

/-- Whether a message wrote the text of a document. -/
def Transition.writesText (transition : Transition) (uri : Uri) : Bool :=
  transition.message.writesText transition.before.store uri

/-- Whether a message reads an open document that has no grammar, in a started session. -/
def Transition.needsGrammar (transition : Transition) : Bool :=
  match transition.message.role with
  | .read uri => transition.before.needsGrammar uri
  | _ => false

/-- The part of a history since the text of a document was last written. -/
def sinceWrite (uri : Uri) (history : List Transition) : List Transition :=
  sinceLast (·.writesText uri) history

/-- The parse calls made for a document, with their results. -/
def parsesOf (factory : EngineFactory) (uri : Uri) (history : List Transition) :
    List (AnsweredCall Grammar) :=
  history.flatMap (·.parses factory uri)

variable {factory : EngineFactory} {uri : Uri} {state : ServerState} {message : Message}
  {past : List Transition}

/-! ## The parse calls of one message -/

/-- A request that finds its document without a grammar makes one parse call, on the
text of the document, and keeps the grammar if one comes back. -/
theorem parses_handle_of_needsGrammar (factory : EngineFactory)
    (hrole : message.role = .read uri) (hneeds : state.needsGrammar uri = true) :
    ∃ document parse, state.store.get? uri = some document ∧ document.grammar = none ∧
      (state.handle factory message).calls = [parse.call] ∧ parse.call.kind = .parse ∧
      parse.call.source = document.text ∧ parse.call.filename = uri.filename ∧
      (state.handle factory message).parses factory uri = [parse] ∧
      (state.step factory message).1.store.get? uri =
        some { document with
          grammar := match parse.result with
            | .ok grammar => some grammar
            | _ => none } := by
  have huri : message.uri? = some uri := by rw [Message.uri?_eq_role_uri?, hrole]; rfl
  have hstate := (ServerState.step_read factory state hrole).1
  rcases ServerState.ensureGrammar_cases factory state uri with
    ⟨hquiet, _⟩ | ⟨_, session, document, hsession, hget, hnone, hresult⟩
  · rw [hneeds] at hquiet
    cases hquiet
  let call : Call := ⟨.parse, document.text, uri.filename⟩
  let parse : AnsweredCall Grammar :=
    ⟨call, (factory session.root).parse state.calls document.text uri.filename⟩
  have hcalls : (state.handle factory message).calls = [call] := by
    apply ServerState.calls_handle
    rcases hresult with ⟨_, _, h⟩ | ⟨_, h⟩
    · rw [hstate, h]
      rfl
    · rw [hstate, h]
      rfl
  have hparses : (state.handle factory message).parses factory uri = [parse] :=
    Transition.answeredCalls_of_calls_eq_singleton hsession huri hcalls
  refine ⟨document, parse, hget, hnone, hcalls, rfl, rfl, rfl, hparses, ?_⟩
  rcases hresult with ⟨grammar, hok, h⟩ | ⟨hfailed, h⟩
  · have hparse : parse.result = .ok grammar := hok
    rw [hstate, h, hparse]
    exact Store.get?_setGrammar_self hget grammar
  · -- Failed and crashed calls both leave the document without a grammar.
    have hparse : (match parse.result with
        | .ok grammar => some grammar
        | _ => none) = none := by
      cases hp : parse.result with
      | ok grammar => exact absurd hp (hfailed grammar)
      | failed => rfl
      | crashed => rfl
    rw [hparse, hstate, h, ServerState.record_store, hget, ← hnone]

/-- Any other message makes no parse call. -/
theorem kind_ne_parse_of_not_needsGrammar
    (h : (state.handle factory message).needsGrammar = false) :
    ∀ call ∈ (state.handle factory message).calls, call.kind ≠ .parse := by
  by_cases hread : ∃ readUri, message.role = .read readUri
  · rcases hread with ⟨readUri, hrole⟩
    have hquiet : state.needsGrammar readUri = false := by
      simpa [Transition.needsGrammar, hrole] using h
    have hcalls : (state.handle factory message).calls = [] := by
      apply ServerState.calls_handle
      rw [(ServerState.step_read factory state hrole).1, List.append_nil]
      rcases ServerState.ensureGrammar_cases factory state readUri with ⟨_, h⟩ | ⟨hneeds, _⟩
      · rw [h]
      · rw [hquiet] at hneeds
        cases hneeds
    simp [hcalls]
  · exact ServerState.kind_ne_parse_of_role_ne_read fun readUri hrole => hread ⟨readUri, hrole⟩

/-- Exactly the requests that find an open document without a grammar, in a started
session, make a parse call, and they make one. -/
theorem countP_parse_calls_handle (factory : EngineFactory) (state : ServerState)
    (message : Message) :
    (state.handle factory message).calls.countP (·.kind == .parse) =
      if (state.handle factory message).needsGrammar then 1 else 0 := by
  cases hneeds : (state.handle factory message).needsGrammar with
  | false =>
    rw [if_neg (by simp), List.countP_eq_zero]
    intro call hcall
    simpa using kind_ne_parse_of_not_needsGrammar hneeds call hcall
  | true =>
    rw [if_pos rfl]
    cases hrole : message.role with
    | read readUri =>
      have hread : state.needsGrammar readUri = true := by
        simpa [Transition.needsGrammar, hrole] using hneeds
      obtain ⟨_, parse, _, _, hcalls, hkind, _⟩ :=
        parses_handle_of_needsGrammar factory hrole hread
      simp [hcalls, hkind]
    | _ => simp [Transition.needsGrammar, hrole] at hneeds

/-! ## The relation that every message keeps -/

/-- How the grammar of a document is related to the parse calls made since its text was
last written.  The order of the calls is kept even after the document was closed. -/
structure Kept (factory : EngineFactory) (uri : Uri) (past : List Transition)
    (state : ServerState) : Prop where
  /-- No call follows one that succeeded. -/
  ordered : (parsesOf factory uri (sinceWrite uri past)).Pairwise
    fun earlier _ => earlier.succeeded = false
  /-- The grammar is the result of the call that succeeded. -/
  grammar_iff : ∀ document, state.store.get? uri = some document → ∀ grammar,
    document.grammar = some grammar ↔
      ∃ parse ∈ parsesOf factory uri (sinceWrite uri past), parse.result = .ok grammar
  /-- Every call was made on the present text. -/
  current : ∀ document, state.store.get? uri = some document →
    ∀ parse ∈ parsesOf factory uri (sinceWrite uri past),
      parse.call.source = document.text ∧ parse.call.filename = uri.filename

/-- Nothing has been parsed before the first message, and no document is open. -/
theorem kept_start (factory : EngineFactory) (uri : Uri) : Kept factory uri [] {} where
  ordered := List.Pairwise.nil
  grammar_iff := by
    intro document hget
    cases hget
  current := by
    intro document hget
    cases hget

/-- After a write the document has no grammar, and no parse call has been made yet. -/
theorem kept_of_writesText
    (hwrites : (state.handle factory message).writesText uri = true) :
    Kept factory uri (past ++ [state.handle factory message])
      (state.step factory message).1 := by
  have hsince : parsesOf factory uri (sinceWrite uri (past ++ [state.handle factory message]))
      = [] := by
    have hrole := Message.role_of_writesText hwrites
    have hquiet : (state.handle factory message).needsGrammar = false := by
      simp only [ServerState.handle_message] at hrole
      simp [Transition.needsGrammar, hrole]
    rw [sinceWrite, sinceLast_concat, if_pos hwrites]
    simp [parsesOf, Transition.parses,
      Transition.answeredCalls_of_forall_ne (kind_ne_parse_of_not_needsGrammar hquiet)]
  constructor
  · rw [hsince]
    exact List.Pairwise.nil
  · intro document hget grammar
    rw [hsince, ServerState.grammar_eq_none_of_writesText hwrites hget]
    simp
  · intro document hget parse hparse
    rw [hsince] at hparse
    cases hparse

/-- Without a write, the parse calls of a message come after those already made. -/
theorem parsesOf_sinceWrite_concat (past : List Transition)
    (hwrites : (state.handle factory message).writesText uri = false) :
    parsesOf factory uri (sinceWrite uri (past ++ [state.handle factory message])) =
      parsesOf factory uri (sinceWrite uri past) ++
        (state.handle factory message).parses factory uri := by
  rw [sinceWrite, sinceLast_concat, if_neg (by simp [hwrites])]
  simp [parsesOf, sinceWrite]

/-- A message that makes no parse call for a document and leaves its text and grammar
keeps the relation. -/
theorem Kept.of_quiet (h : Kept factory uri past state)
    (hwrites : (state.handle factory message).writesText uri = false)
    (hparses : (state.handle factory message).parses factory uri = [])
    (hsame : ∀ document, (state.step factory message).1.store.get? uri = some document →
      ∃ old, state.store.get? uri = some old ∧ old.text = document.text ∧
        old.grammar = document.grammar) :
    Kept factory uri (past ++ [state.handle factory message])
      (state.step factory message).1 := by
  have hsince := parsesOf_sinceWrite_concat past hwrites
  rw [hparses, List.append_nil] at hsince
  constructor
  · rw [hsince]
    exact h.ordered
  · intro document hget grammar
    rcases hsame document hget with ⟨old, hold, _, hgrammar⟩
    rw [hsince, ← hgrammar]
    exact h.grammar_iff old hold grammar
  · intro document hget parse hparse
    rcases hsame document hget with ⟨old, hold, htext, _⟩
    rw [hsince] at hparse
    rw [← htext]
    exact h.current old hold parse hparse

/-- A request that parses its document adds a call after calls that all failed, and the
document has a grammar afterwards exactly if the new call succeeded. -/
theorem Kept.of_needsGrammar (h : Kept factory uri past state)
    (hrole : message.role = .read uri) (hneeds : state.needsGrammar uri = true) :
    Kept factory uri (past ++ [state.handle factory message])
      (state.step factory message).1 := by
  obtain ⟨document, parse, hget, hnone, _, _, hsource, hfilename, hparses, hafter⟩ :=
    parses_handle_of_needsGrammar factory hrole hneeds
  have hwrites : (state.handle factory message).writesText uri = false := by
    rw [Bool.eq_false_iff]
    intro hwrites
    have hupdate : message.role = .update uri := Message.role_of_writesText hwrites
    rw [hrole] at hupdate
    cases hupdate
  have hsince := parsesOf_sinceWrite_concat past hwrites
  rw [hparses] at hsince
  -- The document had no grammar, so no earlier call since the write has succeeded.
  have hfailed : ∀ earlier ∈ parsesOf factory uri (sinceWrite uri past),
      earlier.succeeded = false := by
    intro earlier hearlier
    rw [Bool.eq_false_iff]
    intro hsucceeded
    rcases AnsweredCall.succeeded_iff.mp hsucceeded with ⟨grammar, hok⟩
    have hsome := (h.grammar_iff document hget grammar).mpr ⟨earlier, hearlier, hok⟩
    rw [hnone] at hsome
    cases hsome
  constructor
  · rw [hsince, List.pairwise_append]
    refine ⟨h.ordered, List.pairwise_singleton _ _, ?_⟩
    intro earlier hearlier _ _
    exact hfailed earlier hearlier
  · intro changed hchanged grammar
    rw [hafter, Option.some.injEq] at hchanged
    rw [← hchanged, hsince]
    simp only [List.mem_append, List.mem_singleton]
    constructor
    · intro hsome
      refine ⟨parse, .inr rfl, ?_⟩
      cases hp : parse.result with
      | ok value => simpa [hp] using hsome
      | failed => simp [hp] at hsome
      | crashed => simp [hp] at hsome
    · rintro ⟨found, hfound | rfl, hok⟩
      · have hsucceeded := AnsweredCall.succeeded_iff.mpr ⟨grammar, hok⟩
        rw [hfailed found hfound] at hsucceeded
        cases hsucceeded
      · simp [hok]
  · intro changed hchanged found hfound
    rw [hafter, Option.some.injEq] at hchanged
    rw [← hchanged]
    rw [hsince, List.mem_append, List.mem_singleton] at hfound
    rcases hfound with hfound | rfl
    · exact h.current document hget found hfound
    · exact ⟨hsource, hfilename⟩

/-- Every message keeps the relation. -/
theorem kept_step (message : Message) (h : Kept factory uri past state) :
    Kept factory uri (past ++ [state.handle factory message])
      (state.step factory message).1 := by
  cases hwrites : (state.handle factory message).writesText uri with
  | true => exact kept_of_writesText hwrites
  | false =>
    by_cases hread : message.role = .read uri
    · cases hneeds : state.needsGrammar uri with
      | true => exact h.of_needsGrammar hread hneeds
      | false =>
        have hquiet : (state.handle factory message).needsGrammar = false := by
          simp [Transition.needsGrammar, hread, hneeds]
        have hstate : (state.step factory message).1 = state := by
          rw [(ServerState.step_read factory state hread).1]
          rcases ServerState.ensureGrammar_cases factory state uri with ⟨_, h⟩ | ⟨hother, _⟩
          · exact h
          · rw [hneeds] at hother
            cases hother
        refine h.of_quiet hwrites
          (Transition.answeredCalls_of_forall_ne (kind_ne_parse_of_not_needsGrammar hquiet)) ?_
        intro document hget
        rw [hstate] at hget
        exact ⟨document, hget, rfl, rfl⟩
    · refine h.of_quiet hwrites ?_ ?_
      · by_cases huri : message.uri? = some uri
        · have hother : ∀ readUri, message.role ≠ .read readUri := by
            intro readUri hrole
            rw [Message.uri?_eq_role_uri?, hrole] at huri
            obtain rfl : readUri = uri := Option.some.inj huri
            exact hread hrole
          exact Transition.answeredCalls_of_forall_ne
            (ServerState.kind_ne_parse_of_role_ne_read hother)
        · exact Transition.answeredCalls_of_ne huri
      · intro document hget
        obtain ⟨old, hold, hsame⟩ :=
          ServerState.get?_step_of_not_writesText hwrites hread hget
        exact ⟨old, hold, by rw [hsame], by rw [hsame]⟩

/-! ## Whole runs -/

/-- The relation holds in every state that is reached. -/
theorem kept_reached (factory : EngineFactory) (uri : Uri) (messages : List Message) :
    Kept factory uri (ServerState.history factory {} messages)
      (ServerState.reached factory {} messages) :=
  ServerState.history_induction (kept_start factory uri)
    (fun _ _ message h => kept_step message h) messages

/-- Where no call follows a success, at most one call succeeds. -/
theorem countP_succeeded_le_one {α : Type} {calls : List (AnsweredCall α)}
    (h : calls.Pairwise fun earlier _ => earlier.succeeded = false) :
    calls.countP (·.succeeded) ≤ 1 := by
  induction calls with
  | nil => simp
  | cons call rest ih =>
    rw [List.pairwise_cons] at h
    cases rest with
    | nil => exact List.countP_le_length
    | cons next others =>
      rw [List.countP_cons_of_neg (by simp [h.1 next List.mem_cons_self])]
      exact ih h.2

/-- In a stretch of a history without a write, no parse call follows one that
succeeded. -/
theorem pairwise_parsesOf_of_infix {messages : List Message} {stretch : List Transition}
    (h : stretch <:+: ServerState.history factory {} messages)
    (hquiet : ∀ transition ∈ stretch, transition.writesText uri = false) :
    (parsesOf factory uri stretch).Pairwise fun earlier _ => earlier.succeeded = false := by
  -- The stretch ends a history of its own, and lies after the last write in it.
  rcases List.infix_iff_suffix_prefix.mp h with ⟨front, hsuffix, hprefix⟩
  rcases ServerState.exists_history_of_prefix hprefix with ⟨first, rfl⟩
  have hsince : stretch <:+ sinceWrite uri (ServerState.history factory {} first) := by
    apply suffix_sinceLast hsuffix
    intro transition hmem
    exact hquiet transition (List.mem_of_mem_tail hmem)
  rcases hsince with ⟨skipped, hskipped⟩
  have hordered := (kept_reached factory uri first).ordered
  rw [← hskipped, parsesOf, List.flatMap_append] at hordered
  exact (List.pairwise_append.mp hordered).2.1

/-- Over every run of the server, with any engine:

- an open document has a grammar exactly if a parse call for it has succeeded since its
  text was last written; the grammar is what that call returned, and every parse call
  since then was given the present text and the file name of the document;
- between two writes at most one parse call for a document succeeds, and no parse call
  for it follows the one that succeeded;
- a message makes exactly one parse call if it reads an open document that has no
  grammar in a started session, and none otherwise. -/
theorem cached_grammar_is_parse_since_write (factory : EngineFactory)
    (messages : List Message) :
    (∀ uri document,
      (ServerState.reached factory {} messages).store.get? uri = some document →
      (∀ grammar, document.grammar = some grammar ↔
        ∃ parse ∈ parsesOf factory uri
            (sinceWrite uri (ServerState.history factory {} messages)),
          parse.result = .ok grammar) ∧
      ∀ parse ∈ parsesOf factory uri
          (sinceWrite uri (ServerState.history factory {} messages)),
        parse.call.source = document.text ∧ parse.call.filename = uri.filename) ∧
    (∀ uri stretch, stretch <:+: ServerState.history factory {} messages →
      (∀ transition ∈ stretch, transition.writesText uri = false) →
      (parsesOf factory uri stretch).countP (·.succeeded) ≤ 1 ∧
        (parsesOf factory uri stretch).Pairwise fun earlier _ => earlier.succeeded = false) ∧
    ∀ transition ∈ ServerState.history factory {} messages,
      transition.calls.countP (·.kind == .parse) = if transition.needsGrammar then 1 else 0 := by
  refine ⟨?_, ?_, ?_⟩
  · intro uri document hget
    have hkept := kept_reached factory uri messages
    exact ⟨hkept.grammar_iff document hget, hkept.current document hget⟩
  · intro uri stretch hinfix hquiet
    have hordered := pairwise_parsesOf_of_infix hinfix hquiet
    exact ⟨countP_succeeded_le_one hordered, hordered⟩
  · intro transition hmem
    rw [ServerState.eq_handle_of_mem_history hmem]
    exact countP_parse_calls_handle factory transition.before transition.message

end GrammarServer
