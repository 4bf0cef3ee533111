import GrammarServer.Proofs.Locality
import Mathlib.Data.List.Nodup

/-!
# The open documents are a replay of the editor's messages

Which documents are open, in what order, and with which versions and texts follows from
the messages alone: neither the engine nor the state of the session plays a part.  The
replay below reads these facts off the list of messages without running the server.

Main results:

- Theorem `uris_step`: what one message does to the order of the open documents.
- Theorem `map_snapshot_step`: what one message does to the version and text of one
  document.
- Theorem `openingOrder_concat`, Theorem `replayed?_concat`: the replay grows with the
  messages in the same way.
- Theorem `store_is_replay`: after every run the store holds the replay.
-/

namespace GrammarServer

/-! ## The replay -/

/-- What an editor knows of an open document. -/
structure Snapshot where
  uri : Uri
  version : Int
  text : String
deriving DecidableEq, Repr

/-- The part of a document that an editor knows. -/
def Document.snapshot (document : Document) : Snapshot :=
  ⟨document.uri, document.version, document.text⟩

/-- What the store holds of the open documents, in its order. -/
def Store.snapshots (store : Store) : List Snapshot :=
  store.documents.map (·.snapshot)

/-- Whether a message closes a document. -/
def Message.closes (message : Message) (uri : Uri) : Bool :=
  match message with
  | .didClose closed => decide (closed = uri)
  | _ => false

/-- Whether a document is open after messages: the last of them that opens or closes it
opens it. -/
def isOpenAfter (uri : Uri) (messages : List Message) : Bool :=
  (messages.filter fun message => message.opens uri || message.closes uri).getLast?.any
    (·.opens uri)

/-- The document that the message at an index opens for good: it is not open before, and
no later message closes it. -/
def openedForGood? (messages : List Message) (index : Nat) : Option Uri :=
  match messages[index]? with
  | some (.didOpen uri _ _) =>
    if isOpenAfter uri (messages.take index)
        || (messages.drop (index + 1)).any (·.closes uri) then none
    else some uri
  | _ => none

/-- The open documents in the order in which they last went from closed to open. -/
def openingOrder (messages : List Message) : List Uri :=
  (List.range messages.length).filterMap (openedForGood? messages)

/-- The version that a message brings for a document, if it opens the document or changes
it by at least one text. -/
def Message.version? (message : Message) (uri : Uri) : Option Int :=
  match message with
  | .didOpen opened _ version => if opened = uri then some version else none
  | .didChange changed version changes =>
    if changed = uri ∧ changes ≠ [] then some version else none
  | _ => none

/-- The versions that messages bring for a document. -/
def versionsSeen (uri : Uri) (messages : List Message) : List Int :=
  messages.filterMap (·.version? uri)

/-- The text that a message gives a document after earlier messages: the text it opens
the document with, the last text of a change that is not older than any version seen
earlier, or the text that a save carries. -/
def Message.text? (message : Message) (uri : Uri) (earlier : List Message) : Option String :=
  match message with
  | .didOpen opened text _ => if opened = uri then some text else none
  | .didChange changed version changes =>
    if changed = uri ∧ ∀ seen ∈ versionsSeen uri earlier, seen ≤ version then
      changes.getLast?
    else none
  | .didSave saved text => if saved = uri then text else none
  | _ => none

/-- The texts that messages give a document, in order. -/
def textsGiven (uri : Uri) (messages : List Message) : List String :=
  (List.range messages.length).filterMap fun index =>
    messages[index]?.bind (·.text? uri (messages.take index))

/-- The messages from the last opening of a document on. -/
def sinceOpening (uri : Uri) (messages : List Message) : List Message :=
  sinceLast (·.opens uri) messages

/-- What messages make of a document: its version is the largest one seen, its text the
last one given. -/
def gathered? (uri : Uri) (messages : List Message) : Option Snapshot := do
  let version ← (versionsSeen uri messages).max?
  let text ← (textsGiven uri messages).getLast?
  return ⟨uri, version, text⟩

/-- What the messages since its last opening make of an open document. -/
def replayed? (uri : Uri) (messages : List Message) : Option Snapshot :=
  if isOpenAfter uri messages then gathered? uri (sinceOpening uri messages) else none

/-- The open documents as the messages alone determine them. -/
def replay (messages : List Message) : List Snapshot :=
  (openingOrder messages).filterMap fun uri => replayed? uri messages

/-! ## The replay of one message more -/

/-- Only a message that opens or closes a document changes whether it is open. -/
theorem isOpenAfter_concat (uri : Uri) (messages : List Message) (message : Message) :
    isOpenAfter uri (messages ++ [message]) =
      (message.opens uri || (!message.closes uri && isOpenAfter uri messages)) := by
  cases hopens : message.opens uri <;> cases hcloses : message.closes uri <;>
    simp [isOpenAfter, List.filter_append, hopens, hcloses]

/-- Only one message opens a document. -/
theorem Message.opens_iff {message : Message} {uri : Uri} :
    message.opens uri = true ↔ ∃ text version, message = .didOpen uri text version := by
  cases message <;> simp [opens]

/-- Only one message closes a document. -/
theorem Message.closes_iff {message : Message} {uri : Uri} :
    message.closes uri = true ↔ message = .didClose uri := by
  cases message <;> simp [closes]

/-- An earlier message still opens its document for good unless the new one closes it. -/
theorem openedForGood?_concat_of_lt {messages : List Message} {index : Nat}
    (message : Message) (h : index < messages.length) :
    openedForGood? (messages ++ [message]) index =
      (openedForGood? messages index).filter fun uri => !message.closes uri := by
  have htake : (messages ++ [message]).take index = messages.take index :=
    List.take_append_of_le_length (Nat.le_of_lt h)
  have hdrop : (messages ++ [message]).drop (index + 1) =
      messages.drop (index + 1) ++ [message] :=
    List.drop_append_of_le_length h
  unfold openedForGood?
  rw [List.getElem?_append_left h, htake, hdrop]
  split
  · next uri text version _ =>
    cases hcloses : message.closes uri <;>
      cases hopen : isOpenAfter uri (messages.take index) <;>
      cases hlater : (messages.drop (index + 1)).any (·.closes uri) <;>
      simp [hcloses, hlater, Option.filter]
  · rfl

/-- The new message opens its document for good if the document was not open. -/
theorem openedForGood?_concat_length (messages : List Message) (message : Message) :
    openedForGood? (messages ++ [message]) messages.length =
      match message with
      | .didOpen uri _ _ => if isOpenAfter uri messages then none else some uri
      | _ => none := by
  unfold openedForGood?
  cases message <;> simp

/-- What a message does to the order of the open documents: a document that was not open
comes last, a closed one is left out, and all others keep their places. -/
def Message.reorder (message : Message) (uris : List Uri) : List Uri :=
  match message with
  | .didOpen uri _ _ => if uris.contains uri then uris else uris ++ [uri]
  | .didClose uri => uris.filter (· != uri)
  | _ => uris

/-- What is read off the indices of a longer list comes after what the shorter one
gives, if the earlier indices give the same. -/
theorem filterMap_range_concat {α β : Type} {f g : Nat → Option β} {list : List α} (a : α)
    (h : ∀ index < list.length, f index = g index) :
    (List.range (list ++ [a]).length).filterMap f =
      (List.range list.length).filterMap g ++ (f list.length).toList := by
  have hearlier : (List.range list.length).filterMap f = (List.range list.length).filterMap g := by
    apply List.filterMap_congr
    intro index hindex
    exact h index (List.mem_range.mp hindex)
  rw [List.length_append, List.length_singleton, List.range_succ, List.filterMap_append, hearlier]
  cases hlast : f list.length <;> simp [hlast]

/-- The order of the openings after one message more. -/
theorem openingOrder_append_singleton (messages : List Message) (message : Message) :
    openingOrder (messages ++ [message]) =
      (openingOrder messages).filter (fun uri => !message.closes uri) ++
        (match message with
        | .didOpen uri _ _ => if isOpenAfter uri messages then none else some uri
        | _ => none).toList := by
  rw [openingOrder, openingOrder, List.filter_filterMap, ← openedForGood?_concat_length]
  apply filterMap_range_concat
  intro index hindex
  exact openedForGood?_concat_of_lt message hindex

/-- The documents in the order of the openings are the open ones. -/
theorem mem_openingOrder_iff {uri : Uri} {messages : List Message} :
    uri ∈ openingOrder messages ↔ isOpenAfter uri messages = true := by
  induction messages using List.reverseRecOn with
  | nil => simp [openingOrder, isOpenAfter]
  | append_singleton messages message ih =>
    rw [openingOrder_append_singleton, isOpenAfter_concat, List.mem_append, List.mem_filter, ih]
    cases message with
    | didOpen opened text version =>
      by_cases huri : opened = uri
      · subst huri
        cases h : isOpenAfter opened messages <;> simp [Message.opens, Message.closes, h]
      · cases isOpenAfter opened messages <;>
          simp [Message.opens, Message.closes, huri]
    | _ => simp [Message.opens, and_comm]

/-- One message more changes the order of the openings as it changes the store. -/
theorem openingOrder_concat (messages : List Message) (message : Message) :
    openingOrder (messages ++ [message]) = message.reorder (openingOrder messages) := by
  rw [openingOrder_append_singleton]
  cases message with
  | didOpen uri text version =>
    cases hopen : isOpenAfter uri messages with
    | true => simp [Message.reorder, Message.closes, mem_openingOrder_iff, hopen]
    | false => simp [Message.reorder, Message.closes, mem_openingOrder_iff, hopen]
  | didClose closed =>
    have hclosed : (fun uri => !(Message.didClose closed).closes uri) =
        fun uri => uri != closed := by
      funext uri
      by_cases huri : closed = uri
      · simp [Message.closes, huri]
      · simp [Message.closes, huri, Ne.symm huri]
    rw [hclosed]
    simp [Message.reorder]
  | _ => simp [Message.reorder, Message.closes]

/-- The versions seen after one message more. -/
theorem versionsSeen_concat (uri : Uri) (messages : List Message) (message : Message) :
    versionsSeen uri (messages ++ [message]) =
      versionsSeen uri messages ++ (message.version? uri).toList := by
  rw [versionsSeen, List.filterMap_append]
  cases h : message.version? uri <;> simp [versionsSeen, h]

/-- The texts given after one message more. -/
theorem textsGiven_concat (uri : Uri) (messages : List Message) (message : Message) :
    textsGiven uri (messages ++ [message]) =
      textsGiven uri messages ++ (message.text? uri messages).toList := by
  have hlast : (messages ++ [message])[messages.length]?.bind
      (·.text? uri ((messages ++ [message]).take messages.length)) =
        message.text? uri messages := by simp
  rw [textsGiven, textsGiven, ← hlast]
  apply filterMap_range_concat
  intro index hindex
  rw [List.getElem?_append_left hindex, List.take_append_of_le_length (Nat.le_of_lt hindex)]

/-- The messages since its last opening after one message more. -/
theorem sinceOpening_concat (uri : Uri) (messages : List Message) (message : Message) :
    sinceOpening uri (messages ++ [message]) =
      if message.opens uri then [message] else sinceOpening uri messages ++ [message] :=
  sinceLast_concat _ messages message

/-- A version and a text are gathered as soon as one of each has been brought. -/
theorem gathered?_eq_some_iff {uri : Uri} {messages : List Message} {snapshot : Snapshot} :
    gathered? uri messages = some snapshot ↔
      (versionsSeen uri messages).max? = some snapshot.version ∧
        (textsGiven uri messages).getLast? = some snapshot.text ∧ snapshot.uri = uri := by
  cases hversion : (versionsSeen uri messages).max? with
  | none => simp [gathered?, hversion]
  | some version =>
    cases htext : (textsGiven uri messages).getLast? with
    | none => simp [gathered?, hversion, htext]
    | some text =>
      rcases snapshot with ⟨known, knownVersion, knownText⟩
      simp only [gathered?, hversion, htext, Option.bind_eq_bind, Option.bind_some,
        Option.pure_def, Option.some.injEq, Snapshot.mk.injEq]
      constructor
      · rintro ⟨rfl, rfl, rfl⟩
        exact ⟨rfl, rfl, rfl⟩
      · rintro ⟨rfl, rfl, rfl⟩
        exact ⟨rfl, rfl, rfl⟩

/-- An opening alone gathers what it carries. -/
theorem gathered?_didOpen (uri : Uri) (text : String) (version : Int) :
    gathered? uri [.didOpen uri text version] = some ⟨uri, version, text⟩ := by
  simp [gathered?, versionsSeen, textsGiven, Message.version?, Message.text?]

/-- What a message does to the version and text of a document. -/
def Message.resync (message : Message) (uri : Uri) (snapshot : Option Snapshot) :
    Option Snapshot :=
  match message with
  | .didOpen opened text version =>
    if opened = uri then some ⟨uri, version, text⟩ else snapshot
  | .didChange changed version changes =>
    if changed = uri then snapshot.map fun old =>
      match changes.getLast? with
      | some text =>
        if version < old.version then old else { old with version := version, text := text }
      | none => old
    else snapshot
  | .didSave saved text =>
    if saved = uri then snapshot.map fun old => { old with text := text.getD old.text }
    else snapshot
  | .didClose closed => if closed = uri then none else snapshot
  | _ => snapshot

/-- A message about another document, or about none, keeps the version and the text. -/
theorem Message.resync_of_ne {message : Message} {uri : Uri} (h : message.uri? ≠ some uri)
    (snapshot : Option Snapshot) : message.resync uri snapshot = snapshot := by
  cases message <;> simp_all [resync, uri?]

/-- Only an opening gives a closed document a version and a text. -/
theorem Message.resync_none {message : Message} {uri : Uri}
    (h : message.opens uri = false) : message.resync uri none = none := by
  cases message <;> simp_all [resync, opens]

/-- An open document that is not closed keeps a version and a text. -/
theorem Message.exists_resync_some {message : Message} {uri : Uri}
    (h : message.closes uri = false) (snapshot : Snapshot) :
    ∃ synced, message.resync uri (some snapshot) = some synced := by
  rw [← Option.isSome_iff_exists]
  cases message with
  | didClose closed => simp_all [resync, closes]
  | didOpen opened text version => by_cases opened = uri <;> simp_all [resync]
  | didChange changed version changes => by_cases changed = uri <;> simp_all [resync]
  | didSave saved text => by_cases saved = uri <;> simp_all [resync]
  | _ => rfl

/-- The largest of some versions and one more. -/
theorem max?_concat {versions : List Int} {largest : Int} (h : versions.max? = some largest)
    (version : Int) :
    (versions ++ [version]).max? = some (if version < largest then largest else version) := by
  rw [List.max?_eq_some_iff] at h ⊢
  rcases h with ⟨hmem, hle⟩
  split
  · refine ⟨by simp [hmem], ?_⟩
    intro seen hseen
    rcases List.mem_append.mp hseen with hseen | hseen
    · exact hle seen hseen
    · simp only [List.mem_singleton] at hseen
      omega
  · refine ⟨by simp, ?_⟩
    intro seen hseen
    rcases List.mem_append.mp hseen with hseen | hseen
    · have := hle seen hseen
      omega
    · simp only [List.mem_singleton] at hseen
      omega

/-- A message that neither opens nor closes a document changes what is gathered of it as
it changes the document in the store. -/
theorem gathered?_concat {uri : Uri} {messages : List Message} {message : Message}
    {snapshot : Snapshot} (hopens : message.opens uri = false)
    (hcloses : message.closes uri = false) (h : gathered? uri messages = some snapshot) :
    gathered? uri (messages ++ [message]) = message.resync uri (some snapshot) := by
  obtain ⟨hversion, htext, rfl⟩ := gathered?_eq_some_iff.mp h
  rw [gathered?, versionsSeen_concat, textsGiven_concat]
  cases message with
  | didChange changed version changes =>
    by_cases huri : changed = snapshot.uri
    case neg => simp [Message.version?, Message.text?, Message.resync, huri, hversion, htext]
    subst huri
    cases hlast : changes.getLast? with
    | none =>
      obtain rfl := List.getLast?_eq_none_iff.mp hlast
      simp [Message.version?, Message.text?, Message.resync, hversion, htext]
    | some text =>
      have hne : changes ≠ [] := by
        rintro rfl
        simp at hlast
      -- A change is stale exactly if its version is below the largest one seen.
      have hfresh : (∀ seen ∈ versionsSeen snapshot.uri messages, seen ≤ version) ↔
          ¬ version < snapshot.version := by
        rw [← List.max?_le_iff hversion, Int.not_lt]
      by_cases hstale : version < snapshot.version
      · simp [Message.version?, Message.text?, Message.resync, hne, hlast, hfresh, hstale,
          htext, max?_concat hversion]
      · simp [Message.version?, Message.text?, Message.resync, hne, hlast, hfresh, hstale,
          max?_concat hversion]
  | didSave saved text =>
    by_cases huri : saved = snapshot.uri
    · cases text <;>
        simp [Message.version?, Message.text?, Message.resync, huri, hversion, htext]
    · simp [Message.version?, Message.text?, Message.resync, huri, hversion, htext]
  | _ => simp_all [Message.version?, Message.text?, Message.resync, Message.opens, Message.closes]

/-- An open document is replayed. -/
theorem exists_gathered?_of_isOpenAfter {uri : Uri} {messages : List Message}
    (h : isOpenAfter uri messages = true) :
    ∃ snapshot, gathered? uri (sinceOpening uri messages) = some snapshot := by
  induction messages using List.reverseRecOn with
  | nil => simp [isOpenAfter] at h
  | append_singleton messages message ih =>
    rw [isOpenAfter_concat] at h
    rw [sinceOpening_concat]
    cases hopens : message.opens uri with
    | true =>
      obtain ⟨text, version, rfl⟩ := Message.opens_iff.mp hopens
      exact ⟨_, gathered?_didOpen uri text version⟩
    | false =>
      obtain ⟨hcloses, hopen⟩ : message.closes uri = false ∧ isOpenAfter uri messages = true := by
        simpa [hopens] using h
      obtain ⟨snapshot, hsnapshot⟩ := ih hopen
      rw [if_neg (by simp), gathered?_concat hopens hcloses hsnapshot]
      exact Message.exists_resync_some hcloses snapshot

/-- One message more changes what is replayed of a document as it changes the document in
the store. -/
theorem replayed?_concat (uri : Uri) (messages : List Message) (message : Message) :
    replayed? uri (messages ++ [message]) = message.resync uri (replayed? uri messages) := by
  rw [replayed?, replayed?, isOpenAfter_concat, sinceOpening_concat]
  cases hopens : message.opens uri with
  | true =>
    obtain ⟨text, version, rfl⟩ := Message.opens_iff.mp hopens
    simp [gathered?_didOpen, Message.resync]
  | false =>
    cases hopen : isOpenAfter uri messages with
    | false => simp [Message.resync_none hopens]
    | true =>
      cases hcloses : message.closes uri with
      | true =>
        obtain rfl := Message.closes_iff.mp hcloses
        simp [Message.resync]
      | false =>
        obtain ⟨snapshot, hsnapshot⟩ := exists_gathered?_of_isOpenAfter hopen
        simp [hsnapshot, gathered?_concat hopens hcloses hsnapshot]

/-! ## What a message does to the store -/

/-- An analysis keeps the version and the text of its document. -/
theorem Document.snapshot_analyze (document : Document) (engine : Option Engine)
    (log : List Call) (uri : Uri) :
    (document.analyze engine log uri).1.snapshot = document.snapshot := by
  cases engine with
  | none => rfl
  | some engine =>
    simp only [Document.analyze, Document.showing]
    split <;> rfl

/-- A request that reads a document keeps its version and its text. -/
theorem Message.map_snapshot_readWith (message : Message) (engine : Engine) (log : List Call)
    (uri : Uri) (document : Option Document) :
    (message.readWith engine log uri document).1.map (·.snapshot) =
      document.map (·.snapshot) := by
  cases document with
  | none => rfl
  | some document =>
    simp only [readWith]
    cases document.grammar with
    | some grammar => rfl
    | none =>
      simp only [parseAndAnswer]
      cases engine.parse log document.text uri.filename <;> rfl

/-- A message that neither updates nor closes a document keeps all versions and texts. -/
theorem Message.resync_eq_self {message : Message} (hupdate : ∀ uri, message.role ≠ .update uri)
    (hclose : ∀ uri, message.role ≠ .close uri) (uri : Uri) (snapshot : Option Snapshot) :
    message.resync uri snapshot = snapshot := by
  cases message <;> simp_all [role, resync]

/-- The text that a message brings for a document is the one that the replay takes. -/
theorem Message.map_snapshot_revise? {message : Message} {uri : Uri}
    (hrole : message.role = .update uri) (document : Option Document) :
    ((message.revise? document).or document).map (·.snapshot) =
      message.resync uri (document.map (·.snapshot)) := by
  cases message with
  | didOpen opened text version =>
    obtain rfl : opened = uri := by simpa [role] using hrole
    simp [revise?, resync, Document.fresh, Document.snapshot]
  | didChange changed version changes =>
    obtain rfl : changed = uri := by simpa [role] using hrole
    cases document with
    | none => simp [revise?, resync]
    | some old =>
      cases hlast : changes.getLast? with
      | none => simp [revise?, resync, hlast]
      | some text =>
        by_cases hstale : version < old.version <;>
          simp [revise?, resync, hlast, hstale, Document.snapshot, Document.withText]
  | didSave saved text =>
    obtain rfl : saved = uri := by simpa [role] using hrole
    cases document with
    | none => simp [revise?, resync]
    | some old =>
      cases text <;> simp [revise?, resync, Document.snapshot, Document.withText]
  | _ => simp [role] at hrole

/-- What a message does to the version and text of its document does not depend on the
engine. -/
theorem Message.map_snapshot_respond {message : Message} {uri : Uri}
    (huri : message.uri? = some uri) (engine : Option Engine) (log : List Call)
    (document : Option Document) :
    (message.respond engine log document).1.map (·.snapshot) =
      message.resync uri (document.map (·.snapshot)) := by
  rw [uri?_eq_role_uri?] at huri
  cases hrole : message.role with
  | general => simp [hrole, Role.uri?] at huri
  | close closed =>
    obtain rfl : closed = uri := by simpa [hrole, Role.uri?] using huri
    obtain rfl := eq_didClose_of_role hrole
    simp [respond, role, resync]
  | consult consulted =>
    rw [resync_eq_self (by simp [hrole]) (by simp [hrole])]
    cases engine <;> simp [respond, hrole]
  | read readUri =>
    rw [resync_eq_self (by simp [hrole]) (by simp [hrole])]
    cases engine <;> simp [respond, hrole, map_snapshot_readWith]
  | update updatedUri =>
    obtain rfl : updatedUri = uri := by simpa [hrole, Role.uri?] using huri
    rw [← map_snapshot_revise? hrole]
    simp only [respond, hrole]
    cases message.revise? document with
    | none => rfl
    | some revised => simp [Document.snapshot_analyze]

/-- Taking over a text keeps the order of the open documents, unless it opens one. -/
theorem Store.uris_update? {store updated : Store} {message : Message}
    (h : store.update? message = some updated) :
    updated.uris = message.reorder store.uris := by
  cases message with
  | didOpen opened text version =>
    obtain rfl : store.insert opened text version = updated := by
      simpa [update?] using h
    exact uris_insert store opened text version
  | didChange changed version changes =>
    simp only [update?, Option.bind_eq_some_iff] at h
    rcases h with ⟨text, _, hchange⟩
    obtain ⟨_, _, _, rfl⟩ := change?_eq_some_iff.mp hchange
    exact uris_modify _ _ _
  | didSave saved text =>
    simp only [update?, Option.map_eq_some_iff] at h
    rcases h with ⟨document, hget, rfl⟩
    cases text with
    | none => rfl
    | some text =>
      simp only [change?_of_le hget (Int.le_refl _) text, Option.getD_some]
      exact uris_modify _ _ _
  | _ => simp [update?] at h

/-- A message that neither updates nor closes a document keeps the order. -/
theorem Message.reorder_eq_self {message : Message} (hupdate : ∀ uri, message.role ≠ .update uri)
    (hclose : ∀ uri, message.role ≠ .close uri) (uris : List Uri) :
    message.reorder uris = uris := by
  cases message <;> simp_all [role, reorder]

/-- A message that is ignored keeps the order. -/
theorem Message.reorder_of_update?_eq_none {store : Store} {message : Message} {uri : Uri}
    (hrole : message.role = .update uri) (h : store.update? message = none) (uris : List Uri) :
    message.reorder uris = uris := by
  cases message with
  | didOpen opened text version => simp [Store.update?] at h
  | didChange changed version changes => rfl
  | didSave saved text => rfl
  | _ => simp [role] at hrole

namespace ServerState

/-- What a message does to the version and text of a document. -/
theorem map_snapshot_step (factory : EngineFactory) (state : ServerState) (message : Message)
    (uri : Uri) :
    ((state.step factory message).1.store.get? uri).map (·.snapshot) =
      message.resync uri ((state.store.get? uri).map (·.snapshot)) := by
  by_cases huri : message.uri? = some uri
  · have hstep := congrArg Prod.fst (step_eq_respond factory state huri)
    simp only at hstep
    rw [hstep]
    exact Message.map_snapshot_respond huri _ _ _
  · rw [get?_step_of_ne huri, Message.resync_of_ne huri]

/-- Parsing on demand keeps the order of the open documents. -/
theorem uris_ensureGrammar (factory : EngineFactory) (state : ServerState) (uri : Uri) :
    (state.ensureGrammar factory uri).1.store.uris = state.store.uris := by
  rcases ensureGrammar_cases factory state uri with
    ⟨_, h⟩ | ⟨_, _, _, _, _, _, ⟨_, _, h⟩ | ⟨_, h⟩⟩ <;> rw [h]
  · exact Store.uris_modify _ _ _
  · rfl

/-- An analysis keeps the order of the open documents. -/
theorem uris_analyzeAndAnswer (factory : EngineFactory) (state : ServerState) (uri : Uri) :
    (state.analyzeAndAnswer factory uri).1.store.uris = state.store.uris := by
  rcases analyze_cases factory state uri with
    ⟨⟨h, _⟩, _⟩ | ⟨_, _, _, _, ⟨h, _⟩ | ⟨_, _, _, _, h, _⟩⟩ <;> rw [h]
  · rfl
  · exact Store.uris_modify _ _ _

/-- What a message does to the order of the open documents. -/
theorem uris_step (factory : EngineFactory) (state : ServerState) (message : Message) :
    (state.step factory message).1.store.uris = message.reorder state.store.uris := by
  cases hrole : message.role with
  | general =>
    rw [(step_general factory state hrole).1,
      Message.reorder_eq_self (by simp [hrole]) (by simp [hrole])]
  | close closed =>
    obtain rfl := Message.eq_didClose_of_role hrole
    exact Store.uris_erase state.store closed
  | consult consulted =>
    rw [(step_consult factory state hrole).1,
      Message.reorder_eq_self (by simp [hrole]) (by simp [hrole])]
  | read readUri =>
    rw [(step_read factory state hrole).1, uris_ensureGrammar,
      Message.reorder_eq_self (by simp [hrole]) (by simp [hrole])]
  | update updatedUri =>
    rw [step_eq_of_role_update hrole]
    cases hupdated : state.store.update? message with
    | none => exact (Message.reorder_of_update?_eq_none hrole hupdated _).symm
    | some updated =>
      simp only [uris_analyzeAndAnswer]
      exact Store.uris_update? hupdated

end ServerState

/-! ## Whole runs -/

/-- A document that is stored is found under its URI. -/
theorem Store.get?_of_mem {store : Store} {document : Document}
    (h : document ∈ store.documents) : store.get? document.uri = some document := by
  obtain ⟨found, hfound⟩ : ∃ found, store.get? document.uri = some found := by
    rw [← Option.isSome_iff_exists, get?, List.find?_isSome]
    exact ⟨document, h, by simp⟩
  have huri : found.uri = document.uri := uri_of_get? hfound
  have hmem : found ∈ store.documents := List.mem_of_find?_eq_some hfound
  rw [hfound, List.inj_on_of_nodup_map store.nodup hmem h huri]

/-- What the store holds follows from its order and from what is found under each URI. -/
theorem Store.snapshots_eq (store : Store) :
    store.snapshots = store.uris.filterMap fun uri => (store.get? uri).map (·.snapshot) := by
  rw [snapshots, uris, List.filterMap_map, ← List.filterMap_eq_map]
  apply List.filterMap_congr
  intro document hmem
  simp [get?_of_mem hmem]

namespace ServerState

/-- After every run the documents are open in the order of their openings. -/
theorem uris_reached (factory : EngineFactory) (messages : List Message) :
    (reached factory {} messages).store.uris = openingOrder messages := by
  induction messages using List.reverseRecOn with
  | nil => rfl
  | append_singleton messages message ih =>
    rw [reached_append, openingOrder_concat, ← ih]
    exact uris_step factory _ message

/-- After every run a document has the version and the text of the replay. -/
theorem map_snapshot_reached (factory : EngineFactory) (messages : List Message) (uri : Uri) :
    ((reached factory {} messages).store.get? uri).map (·.snapshot) =
      replayed? uri messages := by
  induction messages using List.reverseRecOn with
  | nil => rfl
  | append_singleton messages message ih =>
    rw [reached_append, replayed?_concat, ← ih]
    exact map_snapshot_step factory _ message uri

/-- After every run the store holds the replay. -/
theorem snapshots_reached (factory : EngineFactory) (messages : List Message) :
    (reached factory {} messages).store.snapshots = replay messages := by
  rw [Store.snapshots_eq, uris_reached, replay]
  apply List.filterMap_congr
  intro uri _
  exact map_snapshot_reached factory messages uri

end ServerState

/-- After every run of the server, with any engine and whether or not a session has been
started, the store holds exactly the replay of the messages, in its order.  In the replay
each document that is open stands once. -/
theorem store_is_replay (factory : EngineFactory) (messages : List Message) :
    (ServerState.reached factory {} messages).store.snapshots = replay messages ∧
      ((replay messages).map (·.uri)).Nodup ∧
      ∀ uri, uri ∈ (replay messages).map (·.uri) ↔ isOpenAfter uri messages = true := by
  have hreplay := ServerState.snapshots_reached factory messages
  have huris : (replay messages).map (·.uri) =
      (ServerState.reached factory {} messages).store.uris := by
    rw [← hreplay, Store.snapshots, List.map_map]
    rfl
  refine ⟨hreplay, ?_, ?_⟩
  · rw [huris]
    exact (ServerState.reached factory {} messages).store.nodup
  · intro uri
    rw [huris, ServerState.uris_reached]
    exact mem_openingOrder_iff

end GrammarServer
