import GrammarServer.Server.Step
import Mathlib.Data.List.Induction

/-!
# Histories of runs

A history records a run message by message: the state in which each message was
received, the message and its outcome.  Statements about whole runs are statements about
histories, because the state alone does not tell which calls were made for which
document, nor what was published before.

Main results:

- `history_induction`: what holds before the first message and is kept by every message
  holds after every run.
- `eq_handle_of_mem_history`: every transition of a history is a step of the server.
- `exists_history_of_prefix`: the first part of a history is the history of the first
  messages.
- `suffix_sinceLast`: a stretch without a restart lies after the last restart.
-/

namespace GrammarServer

/-! ## Transitions -/

/-- What a handled message publishes; nothing when it failed. -/
def publishedBy : Except ServerError Answer → List Publication
  | .ok answer => answer.published
  | .error _ => []

/-- A message that was handled: the state before it, the message and its outcome. -/
structure Transition where
  before : ServerState
  message : Message
  outcome : Outcome Answer

namespace Transition

/-- The state after the message. -/
def after (transition : Transition) : ServerState := transition.outcome.1

/-- What was published while the message was handled. -/
def published (transition : Transition) : List Publication :=
  publishedBy transition.outcome.2

/-- The engine calls made while the message was handled. -/
def calls (transition : Transition) : List Call :=
  transition.after.calls.drop transition.before.calls.length

end Transition

namespace ServerState

/-- The transition that a message causes. -/
def handle (factory : EngineFactory) (state : ServerState) (message : Message) : Transition :=
  ⟨state, message, state.step factory message⟩

@[simp]
theorem handle_before (factory : EngineFactory) (state : ServerState) (message : Message) :
    (state.handle factory message).before = state :=
  rfl

@[simp]
theorem handle_message (factory : EngineFactory) (state : ServerState) (message : Message) :
    (state.handle factory message).message = message :=
  rfl

@[simp]
theorem handle_outcome (factory : EngineFactory) (state : ServerState) (message : Message) :
    (state.handle factory message).outcome = state.step factory message :=
  rfl

@[simp]
theorem handle_after (factory : EngineFactory) (state : ServerState) (message : Message) :
    (state.handle factory message).after = (state.step factory message).1 :=
  rfl

/-! ## Runs with their histories -/

/-- The transitions that messages cause one after the other. -/
def history (factory : EngineFactory) (state : ServerState) : List Message → List Transition
  | [] => []
  | message :: rest =>
    state.handle factory message :: (state.step factory message).1.history factory rest

/-- The state after all messages. -/
def reached (factory : EngineFactory) (state : ServerState) : List Message → ServerState
  | [] => state
  | message :: rest => (state.step factory message).1.reached factory rest

/-- The state after two groups of messages is reached through the state after the first. -/
theorem reached_append (factory : EngineFactory) (state : ServerState)
    (first second : List Message) :
    state.reached factory (first ++ second) =
      (state.reached factory first).reached factory second := by
  induction first generalizing state with
  | nil => rfl
  | cons message rest ih => exact ih _

/-- The history of two groups of messages continues from the state after the first. -/
theorem history_append (factory : EngineFactory) (state : ServerState)
    (first second : List Message) :
    state.history factory (first ++ second) =
      state.history factory first ++ (state.reached factory first).history factory second := by
  induction first generalizing state with
  | nil => rfl
  | cons message rest ih => simp [history, reached, ih]

/-- One message more is one transition more. -/
theorem history_concat (factory : EngineFactory) (state : ServerState)
    (messages : List Message) (message : Message) :
    state.history factory (messages ++ [message]) =
      state.history factory messages ++
        [(state.reached factory messages).handle factory message] := by
  rw [history_append]
  rfl

/-- What holds before the first message, and is kept by every message, holds after every
run.  The property may speak about the history so far and the state it has led to. -/
theorem history_induction {factory : EngineFactory} {state : ServerState}
    {property : List Transition → ServerState → Prop} (start : property [] state)
    (step : ∀ past current message, property past current →
      property (past ++ [current.handle factory message]) (current.step factory message).1)
    (messages : List Message) :
    property (state.history factory messages) (state.reached factory messages) := by
  -- The last message is taken off: the property of the shorter run is about its end.
  induction messages using List.reverseRecOn with
  | nil => exact start
  | append_singleton messages message ih =>
    rw [history_concat, reached_append]
    exact step _ _ message ih

/-- Every transition of a history is a step of the server. -/
theorem eq_handle_of_mem_history {factory : EngineFactory} {state : ServerState}
    {messages : List Message} {transition : Transition}
    (h : transition ∈ state.history factory messages) :
    transition = transition.before.handle factory transition.message := by
  induction messages generalizing state with
  | nil => simp [history] at h
  | cons message rest ih =>
    rw [history, List.mem_cons] at h
    rcases h with rfl | h
    · rfl
    · exact ih h

/-- The first part of a history is the history of the first messages. -/
theorem exists_history_of_prefix {factory : EngineFactory} {state : ServerState}
    {messages : List Message} {past : List Transition}
    (h : past <+: state.history factory messages) :
    ∃ first, past = state.history factory first := by
  induction messages generalizing state past with
  | nil => exact ⟨[], List.prefix_nil.mp h⟩
  | cons message rest ih =>
    rw [history] at h
    rcases List.prefix_cons_iff.mp h with rfl | ⟨tail, rfl, htail⟩
    · exact ⟨[], rfl⟩
    · rcases ih htail with ⟨first, rfl⟩
      exact ⟨message :: first, rfl⟩

end ServerState

/-! ## Messages with their answers -/

/-- Every message of a run with the answer or error that it got. -/
def exchanges (messages : List Message) (outcomes : List (Outcome Answer)) :
    List (Message × Except ServerError Answer) :=
  messages.zip (outcomes.map (·.2))

@[simp]
theorem exchanges_nil (outcomes : List (Outcome Answer)) : exchanges [] outcomes = [] :=
  rfl

@[simp]
theorem exchanges_cons (message : Message) (messages : List Message)
    (outcome : Outcome Answer) (outcomes : List (Outcome Answer)) :
    exchanges (message :: messages) (outcome :: outcomes) =
      (message, outcome.2) :: exchanges messages outcomes :=
  rfl

/-! ## Stretches of a history -/

/-- The part of a list from its last element with a property on; the whole list when no
element has it. -/
def sinceLast {α : Type} (restarts : α → Bool) (list : List α) : List α :=
  list.foldl (fun kept a => if restarts a then [a] else kept ++ [a]) []

@[simp]
theorem sinceLast_nil {α : Type} (restarts : α → Bool) : sinceLast restarts [] = [] :=
  rfl

/-- One element more either restarts the part or extends it. -/
theorem sinceLast_concat {α : Type} (restarts : α → Bool) (list : List α) (a : α) :
    sinceLast restarts (list ++ [a]) =
      if restarts a then [a] else sinceLast restarts list ++ [a] := by
  simp [sinceLast]

/-- A stretch at the end of a list that restarts at most with its first element lies
inside the part since the last restart. -/
theorem suffix_sinceLast {α : Type} {restarts : α → Bool} {list stretch : List α}
    (h : stretch <:+ list) (hquiet : ∀ a ∈ stretch.tail, restarts a = false) :
    stretch <:+ sinceLast restarts list := by
  induction list using List.reverseRecOn generalizing stretch with
  | nil => simpa using h
  | append_singleton list last ih =>
    rw [sinceLast_concat]
    rcases List.suffix_concat_iff.mp h with rfl | ⟨front, rfl, hfront⟩
    · exact List.nil_suffix
    · cases front with
      | nil =>
        split
        · exact List.suffix_rfl
        · exact List.suffix_append _ _
      | cons a rest =>
        have hlast : restarts last = false := hquiet last (by simp)
        have hrest : ∀ b ∈ rest, restarts b = false := by
          intro b hb
          exact hquiet b (by simp [hb])
        rw [if_neg (by simp [hlast])]
        rcases ih hfront hrest with ⟨skipped, hskipped⟩
        exact ⟨skipped, by rw [← List.append_assoc, hskipped]⟩

/-! ## Engine calls with their results -/

/-- A call that the engine has answered. -/
structure AnsweredCall (α : Type) where
  call : Call
  result : CallResult α

/-- Whether a call succeeded. -/
def AnsweredCall.succeeded {α : Type} (answered : AnsweredCall α) : Bool :=
  match answered.result with
  | .ok _ => true
  | .failed | .crashed => false

theorem AnsweredCall.succeeded_iff {α : Type} {answered : AnsweredCall α} :
    answered.succeeded = true ↔ ∃ value, answered.result = .ok value := by
  unfold succeeded
  cases answered.result <;> simp

namespace Transition

/-- The calls of one operation that were made for a document while the message was
handled, each with the answer of the session's engine.  The engine sees all calls made
before. -/
def answeredCalls {α : Type} (factory : EngineFactory) (transition : Transition) (uri : Uri)
    (kind : CallKind) (ask : Engine → List Call → String → String → CallResult α) :
    List (AnsweredCall α) :=
  match transition.before.session with
  | none => []
  | some session =>
    if transition.message.uri? = some uri then
      (transition.calls.zipIdx.filter (·.1.kind == kind)).map fun (call, index) =>
        let log := transition.before.calls ++ transition.calls.take index
        ⟨call, ask (factory session.root) log call.source call.filename⟩
    else []

/-- The parse calls made for a document, with their results. -/
def parses (factory : EngineFactory) (transition : Transition) (uri : Uri) :
    List (AnsweredCall Grammar) :=
  transition.answeredCalls factory uri .parse Engine.parse

/-- The lint calls made for a document, with their results. -/
def lints (factory : EngineFactory) (transition : Transition) (uri : Uri) :
    List (AnsweredCall (List Offense)) :=
  transition.answeredCalls factory uri .lint Engine.lint

/-- A message makes no calls for a document that it is not about. -/
theorem answeredCalls_of_ne {α : Type} {factory : EngineFactory} {transition : Transition}
    {uri : Uri} {kind : CallKind} {ask : Engine → List Call → String → String → CallResult α}
    (h : transition.message.uri? ≠ some uri) :
    transition.answeredCalls factory uri kind ask = [] := by
  unfold answeredCalls
  cases transition.before.session <;> simp [h]

/-- Without a call of the operation there is no answered call. -/
theorem answeredCalls_of_forall_ne {α : Type} {factory : EngineFactory}
    {transition : Transition} {uri : Uri} {kind : CallKind}
    {ask : Engine → List Call → String → String → CallResult α}
    (h : ∀ call ∈ transition.calls, call.kind ≠ kind) :
    transition.answeredCalls factory uri kind ask = [] := by
  have hnone : transition.calls.zipIdx.filter (·.1.kind == kind) = [] := by
    rw [List.filter_eq_nil_iff]
    intro entry hentry
    simpa using h entry.1 (List.fst_mem_of_mem_zipIdx hentry)
  unfold answeredCalls
  cases transition.before.session <;> simp [hnone]

/-- The only call of a message is answered on the log from before the message. -/
theorem answeredCalls_of_calls_eq_singleton {α : Type} {factory : EngineFactory}
    {transition : Transition} {uri : Uri} {session : Session} {call : Call}
    {ask : Engine → List Call → String → String → CallResult α}
    (hsession : transition.before.session = some session)
    (huri : transition.message.uri? = some uri) (hcalls : transition.calls = [call]) :
    transition.answeredCalls factory uri call.kind ask =
      [⟨call, ask (factory session.root) transition.before.calls call.source
        call.filename⟩] := by
  simp [answeredCalls, hsession, huri, hcalls]

end Transition

end GrammarServer
