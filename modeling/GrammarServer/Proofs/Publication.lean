import GrammarServer.Proofs.Effect
import Mathlib.Data.List.Forall2

/-!
# Published, stored and computed diagnostics agree

The same diagnostics exist three times: as offenses that the engine has found, as the
diagnostics kept with a document, and as what was last published to the editor.  This
file shows that the three stay in step over every run.

Main results:

- Theorem `publication_cases`: what a message publishes about a document, and what it
  leaves in the document's diagnostics.
- Theorem `agreed_step`: one message keeps the agreement.
- Theorem `diagnostics_agree_over_runs`: the statement for whole runs.
-/

namespace GrammarServer

/-! ## Publications in a history -/

/-- What a message published about a document. -/
def Transition.publishedFor (transition : Transition) (uri : Uri) : List Publication :=
  transition.published.filter fun publication => decide (publication.uri = uri)

/-- What was published about a document, in order. -/
def publicationsOf (uri : Uri) (history : List Transition) : List Publication :=
  history.flatMap (·.publishedFor uri)

/-- The versions for which something was published about a document, in order. -/
def versionsOf (uri : Uri) (history : List Transition) : List Int :=
  (publicationsOf uri history).filterMap (·.version)

/-- The part of a history from the last opening of a document on. -/
def sinceOpen (uri : Uri) (history : List Transition) : List Transition :=
  sinceLast (·.message.opens uri) history

/-- What a message published is what the engine found: the diagnostics are those of the
offenses, one by one and in order, that a lint call made for the message returned on the
text of the document, and they are tagged with the version of the document. -/
def Transition.Justifies (factory : EngineFactory) (transition : Transition)
    (publication : Publication) : Prop :=
  ∃ document, transition.after.store.get? publication.uri = some document ∧
    publication.version = some document.version ∧
    ∃ lint ∈ transition.lints factory publication.uri,
      lint.call.source = document.text ∧
      lint.call.filename = publication.uri.filename ∧
      ∃ offenses, lint.result = .ok offenses ∧
        List.Forall₂ (fun offense diagnostic => offense.toDiagnostic = .ok diagnostic)
          offenses publication.diagnostics

/-- Results are collected one by one and in order. -/
theorem collect_eq_ok_iff_forall₂ {α β : Type} {f : α → Except Crash β} {list : List α}
    {results : List β} :
    collect f list = .ok results ↔ List.Forall₂ (fun a b => f a = .ok b) list results := by
  induction list generalizing results with
  | nil =>
    rw [List.forall₂_nil_left_iff, collect_nil]
    simp [eq_comm]
  | cons a rest ih =>
    rw [collect_cons_eq_ok_iff, List.forall₂_cons_left_iff]
    constructor
    · rintro ⟨b, others, hb, hothers, rfl⟩
      exact ⟨b, others, hb, ih.mp hothers, rfl⟩
    · rintro ⟨b, others, hb, hothers, rfl⟩
      exact ⟨b, others, hb, ih.mpr hothers, rfl⟩

variable {factory : EngineFactory} {uri : Uri} {state : ServerState} {message : Message}
  {past : List Transition}

/-! ## What one message publishes -/

/-- A document that a message left open with the diagnostics it had, and under no older
version. -/
def Document.Continues (old new : Document) : Prop :=
  new.diagnostics = old.diagnostics ∧ old.version ≤ new.version

/-- A document that is left alone continues, and so does its absence. -/
theorem rel_continues_refl (document : Option Document) :
    Option.Rel Document.Continues document document := by
  cases document with
  | none => exact .none
  | some document => exact .some ⟨rfl, Int.le_refl _⟩

/-- Parsing on demand keeps the diagnostics and the version of the document. -/
theorem rel_continues_ensureGrammar (factory : EngineFactory) (state : ServerState)
    (uri : Uri) :
    Option.Rel Document.Continues (state.store.get? uri)
      ((state.ensureGrammar factory uri).1.store.get? uri) := by
  rcases ServerState.ensureGrammar_cases factory state uri with
    ⟨_, h⟩ | ⟨_, _, document, _, hget, _, ⟨grammar, _, h⟩ | ⟨_, h⟩⟩
  · rw [h]
    exact rel_continues_refl _
  · rw [h, hget]
    simp only [ServerState.withStore_store]
    rw [Store.get?_setGrammar_self hget grammar]
    exact .some ⟨rfl, Int.le_refl _⟩
  · rw [h]
    exact rel_continues_refl _

/-- What a message publishes is about the document that the message is about. -/
theorem uri?_of_mem_published {publication : Publication}
    (h : publication ∈ (state.handle factory message).published) :
    message.uri? = some publication.uri := by
  rw [Message.uri?_eq_role_uri?]
  rw [Transition.published, ServerState.handle_outcome] at h
  cases hrole : message.role with
  | general => simp [(ServerState.step_general factory state hrole).2.2] at h
  | consult consulted => simp [(ServerState.step_consult factory state hrole).2.2] at h
  | read readUri => simp [(ServerState.step_read factory state hrole).2] at h
  | close closed =>
    obtain rfl := Message.eq_didClose_of_role hrole
    obtain rfl : publication = ⟨closed, [], none⟩ := by
      simpa [ServerState.step, publishedBy] using h
    rfl
  | update updatedUri =>
    rcases ServerState.step_update factory state hrole with ⟨_, hstep⟩ | ⟨updated, _, hstep⟩
    · simp [hstep, publishedBy] at h
    · rw [hstep] at h
      rcases ServerState.analyze_cases factory (state.withStore updated) updatedUri with
        ⟨⟨_, hnone⟩, _⟩ | ⟨_, document, _, _, ⟨_, hnone⟩ | ⟨_, diagnostics, _, _, _, hone⟩⟩
      · simp [hnone] at h
      · simp [hnone] at h
      · rw [hone, List.mem_singleton] at h
        rw [h]
        rfl

/-- A message publishes nothing about other documents. -/
theorem publishedFor_of_ne (h : message.uri? ≠ some uri) :
    (state.handle factory message).publishedFor uri = [] := by
  rw [Transition.publishedFor, List.filter_eq_nil_iff]
  intro publication hmem hother
  have huri := uri?_of_mem_published hmem
  rw [of_decide_eq_true hother] at huri
  exact h huri

/-- How a message that publishes nothing about a document leaves its diagnostics: there
are none if the message opened the document, and otherwise those from before. -/
def Message.KeepsDiagnostics (message : Message) (uri : Uri) (old new : Option Document) :
    Prop :=
  if message.opens uri then ∃ document, new = some document ∧ document.diagnostics = []
  else Option.Rel Document.Continues old new

/-- Taking over the text that a message brings keeps the diagnostics. -/
theorem keepsDiagnostics_update? {store updated : Store} (hrole : message.role = .update uri)
    (h : store.update? message = some updated) :
    ∃ written, updated.get? uri = some written ∧
      message.KeepsDiagnostics uri (store.get? uri) (some written) := by
  rcases Store.update?_cases hrole h with
    ⟨text, version, rfl, hget⟩ | ⟨old, hold, hopens, ⟨_, rfl⟩ | ⟨_, text, version, hle, hget⟩⟩
  · refine ⟨_, hget, ?_⟩
    rw [Message.KeepsDiagnostics, if_pos (by simp [Message.opens])]
    exact ⟨_, rfl, rfl⟩
  · refine ⟨old, hold, ?_⟩
    rw [Message.KeepsDiagnostics, if_neg (by simp [hopens]), hold]
    exact rel_continues_refl _
  · refine ⟨_, hget, ?_⟩
    rw [Message.KeepsDiagnostics, if_neg (by simp [hopens]), hold]
    exact .some ⟨rfl, hle⟩

/-- What a message publishes about a document after an analysis: one list, which the
document then has as its diagnostics, under the version of the document. -/
def Transition.PublishesAnalysis (factory : EngineFactory) (transition : Transition)
    (uri : Uri) : Prop :=
  ∃ publication new, transition.publishedFor uri = [publication] ∧
    transition.Justifies factory publication ∧
    transition.after.store.get? uri = some new ∧
    publication.diagnostics = new.diagnostics ∧ publication.version = some new.version ∧
    (transition.message.opens uri = false →
      ∃ old, transition.before.store.get? uri = some old ∧ old.version ≤ new.version)

/-- A message that is taken as an update of a document publishes the outcome of the
analysis, or leaves the diagnostics that the document has. -/
theorem publication_cases_of_update (hrole : message.role = .update uri) :
    ((state.handle factory message).publishedFor uri = [] ∧
      message.KeepsDiagnostics uri (state.store.get? uri)
        ((state.step factory message).1.store.get? uri)) ∨
    (state.handle factory message).PublishesAnalysis factory uri := by
  have huri : message.uri? = some uri := by rw [Message.uri?_eq_role_uri?, hrole]; rfl
  rcases ServerState.step_update factory state hrole with
    ⟨hignored, hstep⟩ | ⟨updated, hupdated, hstep⟩
  · left
    have hopens : ¬ message.opens uri = true := by
      intro hopens
      have hwrites := Message.writesText_of_opens state.store hopens
      rw [Store.writesText_of_update?_eq_none hignored] at hwrites
      cases hwrites
    refine ⟨by simp [Transition.publishedFor, Transition.published, hstep, publishedBy], ?_⟩
    rw [Message.KeepsDiagnostics, if_neg hopens, hstep]
    exact rel_continues_refl _
  rcases keepsDiagnostics_update? hrole hupdated with ⟨written, hwritten, hkeeps⟩
  rcases ServerState.analyze_cases factory (state.withStore updated) uri with
    ⟨⟨hstate, hnone⟩, _⟩ | ⟨session, document, hsession, hget, hlint⟩
  · left
    refine ⟨by simp [Transition.publishedFor, Transition.published, hstep, hnone], ?_⟩
    rwa [hstep, hstate, ServerState.withStore_store, hwritten]
  obtain rfl : written = document := by
    rw [ServerState.withStore_store, hwritten] at hget
    exact Option.some.inj hget
  rcases hlint with ⟨hstate, hnone⟩ | ⟨offenses, diagnostics, hok, hconverted, hstate, hone⟩
  · left
    refine ⟨by simp [Transition.publishedFor, Transition.published, hstep, hnone], ?_⟩
    rwa [hstep, hstate, ServerState.record_store, ServerState.withStore_store, hwritten]
  · right
    have hafter : (state.step factory message).1.store.get? uri
        = some { written with diagnostics := diagnostics } := by
      rw [hstep, hstate]
      exact Store.get?_setDiagnostics_self hwritten diagnostics
    have hcalls : (state.handle factory message).calls
        = [⟨.lint, written.text, uri.filename⟩] := by
      apply ServerState.calls_handle
      rw [hstep, hstate]
      rfl
    have hlints : (state.handle factory message).lints factory uri
        = [⟨⟨.lint, written.text, uri.filename⟩, .ok offenses⟩] := by
      rw [← hok]
      exact Transition.answeredCalls_of_calls_eq_singleton hsession huri hcalls
    refine ⟨⟨uri, diagnostics, some written.version⟩, _, ?_, ?_, hafter, rfl, rfl, ?_⟩
    · simp [Transition.publishedFor, Transition.published, hstep, hone]
    · refine ⟨_, hafter, rfl, _, by rw [hlints]; exact List.mem_singleton_self _,
        rfl, rfl, offenses, rfl, ?_⟩
      exact collect_eq_ok_iff_forall₂.mp hconverted
    · intro hopens
      rw [Message.KeepsDiagnostics, if_neg (by simpa using hopens)] at hkeeps
      rcases hold : state.store.get? uri with _ | old
      · rw [hold] at hkeeps
        cases hkeeps
      · rw [hold] at hkeeps
        cases hkeeps with
        | some hcontinues => exact ⟨old, hold, hcontinues.2⟩

/-- What a message publishes about a document: nothing, the empty list when it closes the
document, or the outcome of an analysis. -/
theorem publication_cases (factory : EngineFactory) (state : ServerState) (message : Message)
    (uri : Uri) :
    ((state.handle factory message).publishedFor uri = [] ∧
      message.KeepsDiagnostics uri (state.store.get? uri)
        ((state.step factory message).1.store.get? uri)) ∨
    (message = .didClose uri ∧
      (state.handle factory message).publishedFor uri = [⟨uri, [], none⟩] ∧
      (state.step factory message).1.store.get? uri = none) ∨
    (state.handle factory message).PublishesAnalysis factory uri := by
  by_cases huri : message.uri? = some uri
  case neg =>
    left
    have hopens : ¬ message.opens uri = true := by
      intro hopens
      rw [Message.uri?_eq_role_uri?, Message.role_of_opens hopens] at huri
      exact huri rfl
    refine ⟨publishedFor_of_ne huri, ?_⟩
    rw [Message.KeepsDiagnostics, if_neg hopens, ServerState.get?_step_of_ne huri]
    exact rel_continues_refl _
  rw [Message.uri?_eq_role_uri?] at huri
  cases hrole : message.role with
  | general => simp [hrole, Role.uri?] at huri
  | close closed =>
    obtain rfl : closed = uri := by simpa [hrole, Role.uri?] using huri
    obtain rfl := Message.eq_didClose_of_role hrole
    right
    left
    refine ⟨rfl, ?_, by simp [ServerState.step]⟩
    simp [Transition.publishedFor, Transition.published, ServerState.step, publishedBy]
  | consult consulted =>
    left
    have hopens : ¬ message.opens uri = true := by
      intro hopens
      rw [Message.role_of_opens hopens] at hrole
      cases hrole
    rcases ServerState.step_consult factory state hrole with ⟨hstore, _, hnone⟩
    refine ⟨by simp [Transition.publishedFor, Transition.published, hnone], ?_⟩
    rw [Message.KeepsDiagnostics, if_neg hopens, hstore]
    exact rel_continues_refl _
  | read readUri =>
    left
    obtain rfl : readUri = uri := by simpa [hrole, Role.uri?] using huri
    have hopens : ¬ message.opens readUri = true := by
      intro hopens
      rw [Message.role_of_opens hopens] at hrole
      cases hrole
    rcases ServerState.step_read factory state hrole with ⟨hstate, hnone⟩
    refine ⟨by simp [Transition.publishedFor, Transition.published, hnone], ?_⟩
    rw [Message.KeepsDiagnostics, if_neg hopens, hstate]
    exact rel_continues_ensureGrammar factory state readUri
  | update updatedUri =>
    obtain rfl : updatedUri = uri := by simpa [hrole, Role.uri?] using huri
    rcases publication_cases_of_update hrole with h | h
    · exact .inl h
    · exact .inr (.inr h)

/-! ## The agreement that every message keeps -/

/-- How the diagnostics of a document are related to what was published about it.  The
versions stay in order even after the document was closed. -/
structure Agreed (factory : EngineFactory) (uri : Uri) (past : List Transition)
    (state : ServerState) : Prop where
  /-- The diagnostics are those last published since the document was opened. -/
  stored : ∀ document, state.store.get? uri = some document → document.diagnostics =
    ((publicationsOf uri (sinceOpen uri past)).getLast?.map (·.diagnostics)).getD []
  /-- What was published since then is what the engine found. -/
  justified : ∀ document, state.store.get? uri = some document →
    ∀ transition ∈ sinceOpen uri past, ∀ publication ∈ transition.publishedFor uri,
      transition.Justifies factory publication
  /-- Nothing was published for a version newer than the present one. -/
  bounded : ∀ document, state.store.get? uri = some document →
    ∀ version ∈ versionsOf uri (sinceOpen uri past), version ≤ document.version
  ordered : (versionsOf uri (sinceOpen uri past)).Pairwise (· ≤ ·)
  /-- A document that is not open was last shown without diagnostics. -/
  cleared : state.store.get? uri = none → ∀ publication,
    (publicationsOf uri past).getLast? = some publication → publication.diagnostics = []

/-- Nothing has been published before the first message, and no document is open. -/
theorem agreed_start (factory : EngineFactory) (uri : Uri) : Agreed factory uri [] {} where
  stored := by
    intro document hget
    cases hget
  justified := by
    intro document hget
    cases hget
  bounded := by
    intro document hget
    cases hget
  ordered := List.Pairwise.nil
  cleared := by
    intro _ publication hlast
    cases hlast

theorem publicationsOf_concat (uri : Uri) (past : List Transition) (transition : Transition) :
    publicationsOf uri (past ++ [transition]) =
      publicationsOf uri past ++ transition.publishedFor uri := by
  simp [publicationsOf]

theorem versionsOf_concat (uri : Uri) (past : List Transition) (transition : Transition) :
    versionsOf uri (past ++ [transition]) =
      versionsOf uri past ++ (transition.publishedFor uri).filterMap (·.version) := by
  simp [versionsOf, publicationsOf_concat]

/-- Opening a document starts a new part of the history. -/
theorem sinceOpen_of_opens (past : List Transition) (transition : Transition)
    (h : transition.message.opens uri = true) :
    sinceOpen uri (past ++ [transition]) = [] ++ [transition] := by
  rw [sinceOpen, sinceLast_concat, if_pos h]
  rfl

/-- Any other message extends the part since the last opening. -/
theorem sinceOpen_of_not_opens (past : List Transition) (transition : Transition)
    (h : transition.message.opens uri = false) :
    sinceOpen uri (past ++ [transition]) = sinceOpen uri past ++ [transition] := by
  rw [sinceOpen, sinceLast_concat, if_neg (by simp [h]), sinceOpen]

/-- A document that was just opened, and about which nothing was published, has no
diagnostics. -/
theorem agreed_of_opens (hopens : message.opens uri = true)
    (hnone : (state.handle factory message).publishedFor uri = []) {new : Document}
    (hnew : (state.step factory message).1.store.get? uri = some new)
    (hempty : new.diagnostics = []) :
    Agreed factory uri (past ++ [state.handle factory message])
      (state.step factory message).1 := by
  have hsince := sinceOpen_of_opens past (state.handle factory message) hopens
  have hpublications :
      publicationsOf uri (sinceOpen uri (past ++ [state.handle factory message])) = [] := by
    rw [hsince, publicationsOf_concat, hnone]
    rfl
  constructor
  · intro document hget
    rw [hnew, Option.some.injEq] at hget
    rw [hpublications, ← hget, hempty]
    rfl
  · intro _ _ transition hmem publication hpublication
    rw [hsince, List.nil_append, List.mem_singleton] at hmem
    rw [hmem, hnone] at hpublication
    cases hpublication
  · intro _ _ version hversion
    simp [versionsOf, hpublications] at hversion
  · simp [versionsOf, hpublications]
  · intro hclosed
    rw [hnew] at hclosed
    cases hclosed

/-- A message that publishes nothing about a document and lets it continue keeps the
agreement. -/
theorem Agreed.of_continues (h : Agreed factory uri past state)
    (hopens : message.opens uri = false)
    (hnone : (state.handle factory message).publishedFor uri = [])
    (hrel : Option.Rel Document.Continues (state.store.get? uri)
      ((state.step factory message).1.store.get? uri)) :
    Agreed factory uri (past ++ [state.handle factory message])
      (state.step factory message).1 := by
  have hsince := sinceOpen_of_not_opens past (state.handle factory message) hopens
  have hpublications :
      publicationsOf uri (sinceOpen uri (past ++ [state.handle factory message])) =
        publicationsOf uri (sinceOpen uri past) := by
    rw [hsince, publicationsOf_concat, hnone, List.append_nil]
  have hold : ∀ new, (state.step factory message).1.store.get? uri = some new →
      ∃ old, state.store.get? uri = some old ∧ old.Continues new := by
    intro new hnew
    rw [hnew] at hrel
    cases hget : state.store.get? uri with
    | none =>
      rw [hget] at hrel
      cases hrel
    | some old =>
      rw [hget] at hrel
      cases hrel with
      | some hcontinues => exact ⟨old, rfl, hcontinues⟩
  constructor
  · intro new hnew
    rcases hold new hnew with ⟨old, hget, hcontinues⟩
    rw [hpublications, hcontinues.1]
    exact h.stored old hget
  · intro new hnew transition hmem publication hpublication
    rcases hold new hnew with ⟨old, hget, _⟩
    rw [hsince, List.mem_append, List.mem_singleton] at hmem
    rcases hmem with hmem | rfl
    · exact h.justified old hget transition hmem publication hpublication
    · rw [hnone] at hpublication
      cases hpublication
  · intro new hnew version hversion
    rcases hold new hnew with ⟨old, hget, hcontinues⟩
    rw [versionsOf, hpublications] at hversion
    exact Int.le_trans (h.bounded old hget version hversion) hcontinues.2
  · rw [versionsOf, hpublications]
    exact h.ordered
  · intro hclosed
    rw [hclosed] at hrel
    cases hget : state.store.get? uri with
    | none =>
      rw [publicationsOf_concat, hnone, List.append_nil]
      exact h.cleared hget
    | some old =>
      rw [hget] at hrel
      cases hrel

/-- Closing a document publishes the empty list and keeps the order of the versions. -/
theorem Agreed.of_didClose (h : Agreed factory uri past state)
    (hpublished : (state.handle factory (.didClose uri)).publishedFor uri = [⟨uri, [], none⟩])
    (hclosed : (state.step factory (.didClose uri)).1.store.get? uri = none) :
    Agreed factory uri (past ++ [state.handle factory (.didClose uri)])
      (state.step factory (.didClose uri)).1 := by
  have hopens : (state.handle factory (.didClose uri)).message.opens uri = false := rfl
  have hsince := sinceOpen_of_not_opens past (state.handle factory (.didClose uri)) hopens
  constructor
  · intro document hget
    rw [hclosed] at hget
    cases hget
  · intro document hget
    rw [hclosed] at hget
    cases hget
  · intro document hget
    rw [hclosed] at hget
    cases hget
  · rw [hsince, versionsOf_concat, hpublished]
    simpa using h.ordered
  · intro _ publication hlast
    rw [publicationsOf_concat, hpublished, List.getLast?_append] at hlast
    obtain rfl : publication = ⟨uri, [], none⟩ := by simpa [eq_comm] using hlast
    rfl

/-- A message that publishes an analysis makes the published list the diagnostics of the
document, under a version that is not older than those before. -/
theorem Agreed.of_publishesAnalysis (h : Agreed factory uri past state)
    (hpublishes : (state.handle factory message).PublishesAnalysis factory uri) :
    Agreed factory uri (past ++ [state.handle factory message])
      (state.step factory message).1 := by
  obtain ⟨publication, new, hpublished, hjustified, hnew, hdiagnostics, hversion, hold⟩ :=
    hpublishes
  -- The part since the last opening is `part` and the present message.
  obtain ⟨part, hsince, hpart⟩ : ∃ part,
      sinceOpen uri (past ++ [state.handle factory message])
        = part ++ [state.handle factory message] ∧
      (part = [] ∨ part = sinceOpen uri past ∧ message.opens uri = false) := by
    cases hopens : message.opens uri with
    | true => exact ⟨[], sinceOpen_of_opens past _ hopens, .inl rfl⟩
    | false => exact ⟨_, sinceOpen_of_not_opens past _ hopens, .inr ⟨rfl, rfl⟩⟩
  have hbounded : ∀ version ∈ versionsOf uri part, version ≤ new.version := by
    intro version hmem
    rcases hpart with rfl | ⟨rfl, hopens⟩
    · cases hmem
    · rcases hold hopens with ⟨old, hget, hle⟩
      exact Int.le_trans (h.bounded old hget version hmem) hle
  have hversions : versionsOf uri (part ++ [state.handle factory message])
      = versionsOf uri part ++ [new.version] := by
    rw [versionsOf_concat, hpublished]
    simp [hversion]
  constructor
  · intro document hget
    obtain rfl : new = document := Option.some.inj (hnew.symm.trans hget)
    rw [hsince, publicationsOf_concat, hpublished]
    simp [hdiagnostics]
  · intro _ _ transition hmem shown hshown
    rw [hsince, List.mem_append, List.mem_singleton] at hmem
    rcases hmem with hmem | rfl
    · rcases hpart with rfl | ⟨rfl, hopens⟩
      · cases hmem
      · rcases hold hopens with ⟨old, hget, _⟩
        exact h.justified old hget transition hmem shown hshown
    · rw [hpublished, List.mem_singleton] at hshown
      rwa [hshown]
  · intro document hget version hmem
    obtain rfl : new = document := Option.some.inj (hnew.symm.trans hget)
    rw [hsince, hversions, List.mem_append, List.mem_singleton] at hmem
    rcases hmem with hmem | rfl
    · exact hbounded version hmem
    · exact Int.le_refl _
  · rw [hsince, hversions, List.pairwise_append]
    refine ⟨?_, List.pairwise_singleton _ _, ?_⟩
    · rcases hpart with rfl | ⟨rfl, _⟩
      · exact List.Pairwise.nil
      · exact h.ordered
    · intro version hmem last hlast
      rw [List.mem_singleton] at hlast
      rw [hlast]
      exact hbounded version hmem
  · intro hclosed
    rw [ServerState.handle_after] at hnew
    rw [hnew] at hclosed
    cases hclosed

/-- Every message keeps the agreement. -/
theorem agreed_step (message : Message) (h : Agreed factory uri past state) :
    Agreed factory uri (past ++ [state.handle factory message])
      (state.step factory message).1 := by
  rcases publication_cases factory state message uri with
    ⟨hnone, hkeeps⟩ | ⟨rfl, hpublished, hclosed⟩ | hpublishes
  · rw [Message.KeepsDiagnostics] at hkeeps
    cases hopens : message.opens uri with
    | true =>
      obtain ⟨new, hnew, hempty⟩ := by simpa [hopens] using hkeeps
      exact agreed_of_opens hopens hnone hnew hempty
    | false =>
      rw [if_neg (by simp [hopens])] at hkeeps
      exact h.of_continues hopens hnone hkeeps
  · exact h.of_didClose hpublished hclosed
  · exact h.of_publishesAnalysis hpublishes

/-! ## Whole runs -/

/-- The agreement holds in every state that is reached. -/
theorem agreed_reached (factory : EngineFactory) (uri : Uri) (messages : List Message) :
    Agreed factory uri (ServerState.history factory {} messages)
      (ServerState.reached factory {} messages) :=
  ServerState.history_induction (agreed_start factory uri)
    (fun _ _ message h => agreed_step message h) messages

/-- In a stretch of a history in which a document is opened at most at the start, the
versions for which something is published about it never decrease. -/
theorem pairwise_versionsOf_of_infix {messages : List Message} {stretch : List Transition}
    (h : stretch <:+: ServerState.history factory {} messages)
    (hquiet : ∀ transition ∈ stretch.tail, transition.message.opens uri = false) :
    (versionsOf uri stretch).Pairwise (· ≤ ·) := by
  rcases List.infix_iff_suffix_prefix.mp h with ⟨front, hsuffix, hprefix⟩
  rcases ServerState.exists_history_of_prefix hprefix with ⟨first, rfl⟩
  obtain ⟨skipped, hskipped⟩ :
      stretch <:+ sinceOpen uri (ServerState.history factory {} first) :=
    suffix_sinceLast hsuffix hquiet
  have hordered := (agreed_reached factory uri first).ordered
  rw [← hskipped, versionsOf, publicationsOf, List.flatMap_append, List.filterMap_append]
    at hordered
  exact (List.pairwise_append.mp hordered).2.1

/-- Over every run of the server, with any engine:

- the diagnostics of an open document are the list last published about it since it was
  last opened, or none if nothing was published since then; each list published since
  then is the conversion, one by one and in order, of the offenses that a lint call on
  the text of the document returned at that moment, tagged with its version;
- between two openings of a document the published versions never decrease;
- about a document that is not open, the empty list was published last, if anything. -/
theorem diagnostics_agree_over_runs (factory : EngineFactory) (messages : List Message) :
    (∀ uri document,
      (ServerState.reached factory {} messages).store.get? uri = some document →
      document.diagnostics =
        ((publicationsOf uri (sinceOpen uri (ServerState.history factory {} messages))
          ).getLast?.map (·.diagnostics)).getD [] ∧
      ∀ transition ∈ sinceOpen uri (ServerState.history factory {} messages),
        ∀ publication ∈ transition.publishedFor uri,
          transition.Justifies factory publication) ∧
    (∀ uri stretch, stretch <:+: ServerState.history factory {} messages →
      (∀ transition ∈ stretch.tail, transition.message.opens uri = false) →
      (versionsOf uri stretch).Pairwise (· ≤ ·)) ∧
    ∀ uri, (ServerState.reached factory {} messages).store.get? uri = none →
      ∀ publication,
        (publicationsOf uri (ServerState.history factory {} messages)).getLast?
          = some publication →
        publication.diagnostics = [] := by
  refine ⟨?_, ?_, ?_⟩
  · intro uri document hget
    have hagreed := agreed_reached factory uri messages
    exact ⟨hagreed.stored document hget, hagreed.justified document hget⟩
  · intro uri stretch hinfix hquiet
    exact pairwise_versionsOf_of_infix hinfix hquiet
  · intro uri hclosed
    exact (agreed_reached factory uri messages).cleared hclosed

end GrammarServer
