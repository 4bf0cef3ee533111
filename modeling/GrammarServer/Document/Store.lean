import GrammarServer.Document.Basic

/-!
# The store of open documents

The open documents in the order in which they were opened, at most one for each URI.
Every change to a document that is not open is ignored: an editor's notifications can
arrive after the document was closed.

Main results:

- `get?_insert_self`, `get?_modify_self`, `get?_erase_self`: what a document's own URI
  yields afterwards.
- `get?_insert_of_ne`, `get?_modify_of_ne`, `get?_erase_of_ne`: every other URI yields
  what it did before.
- `uris_insert`, `uris_modify`, `uris_erase`: which documents are open, and in what order.
-/

namespace GrammarServer

/-- The open documents in opening order. -/
@[ext]
structure Store where
  documents : List Document
  /-- No two documents share a URI. -/
  nodup : (documents.map (·.uri)).Nodup

namespace Store

/-- The store without documents. -/
def empty : Store := ⟨[], by simp⟩

/-- The URIs of the open documents, in opening order. -/
def uris (store : Store) : List Uri := store.documents.map (·.uri)

/-- The open document with a URI. -/
def get? (store : Store) (uri : Uri) : Option Document :=
  store.documents.find? (·.uri == uri)

/-! ## Changing a document in its place -/

/-- One document of a list that is changed in place: only the document with the URI
changes, and it keeps its URI. -/
def modifyOne (uri : Uri) (f : Document → Document) (document : Document) : Document :=
  if document.uri = uri then { f document with uri := document.uri } else document

/-- A document that is changed in place keeps its URI. -/
@[simp]
theorem modifyOne_uri (uri : Uri) (f : Document → Document) (document : Document) :
    (modifyOne uri f document).uri = document.uri := by
  unfold modifyOne
  split <;> rfl

/-- Change the document with a URI, if it is open. -/
def modify (store : Store) (uri : Uri) (f : Document → Document) : Store where
  documents := store.documents.map (modifyOne uri f)
  nodup := by
    have h : (store.documents.map (modifyOne uri f)).map (·.uri)
        = store.documents.map (·.uri) := by simp
    rw [h]
    exact store.nodup

/-- Changing documents keeps which are open and in what order. -/
@[simp]
theorem uris_modify (store : Store) (uri : Uri) (f : Document → Document) :
    (store.modify uri f).uris = store.uris := by
  simp [uris, modify]

/-! ## Opening and closing -/

/-- Whether a document is open. -/
def contains (store : Store) (uri : Uri) : Bool :=
  store.uris.contains uri

/-- Open a document.  A document that is already open is replaced where it stands,
without its grammar and diagnostics; any other comes last. -/
def insert (store : Store) (uri : Uri) (text : String) (version : Int) : Store :=
  if h : store.contains uri then
    store.modify uri fun _ => .fresh uri text version
  else
    { documents := store.documents ++ [.fresh uri text version]
      nodup := by
        have hmem : uri ∉ store.documents.map (·.uri) := by
          simpa [contains, uris] using h
        rw [List.map_append, List.nodup_append]
        refine ⟨store.nodup, by simp, ?_⟩
        intro a ha b hb hab
        simp [Document.fresh] at hb
        subst hab hb
        exact hmem ha }

/-- Close a document; the others keep their order. -/
def erase (store : Store) (uri : Uri) : Store where
  documents := store.documents.filter (·.uri != uri)
  nodup := by
    exact (List.filter_sublist.map _).nodup store.nodup

/-! ## Updates from the editor and the engine -/

/-- Replace the text of an open document.  A version older than the stored one is
refused, and so is a document that is not open. -/
def change? (store : Store) (uri : Uri) (text : String) (version : Int) : Option Store :=
  match store.get? uri with
  | none => none
  | some document =>
    if version < document.version then none
    else some (store.modify uri (·.withText text version))

/-- Remember the grammar of a document. -/
def setGrammar (store : Store) (uri : Uri) (grammar : Grammar) : Store :=
  store.modify uri fun document => { document with grammar := some grammar }

/-- Remember the diagnostics of a document. -/
def setDiagnostics (store : Store) (uri : Uri) (diagnostics : List Diagnostic) : Store :=
  store.modify uri fun document => { document with diagnostics := diagnostics }

/-! ## Laws of looking up -/

/-- A document that is found has the URI it was looked up by. -/
theorem uri_of_get? {store : Store} {uri : Uri} {document : Document}
    (h : store.get? uri = some document) : document.uri = uri := by
  simpa using List.find?_some h

/-- Changing a document changes what its URI yields. -/
theorem get?_modify_self (store : Store) (uri : Uri) (f : Document → Document) :
    (store.modify uri f).get? uri = (store.get? uri).map (modifyOne uri f) := by
  simp only [get?, modify, List.find?_map]
  congr 2
  funext document
  simp

/-- Changing a document leaves what every other URI yields. -/
theorem get?_modify_of_ne (store : Store) {uri other : Uri} (f : Document → Document)
    (h : other ≠ uri) : (store.modify uri f).get? other = store.get? other := by
  simp only [get?, modify, List.find?_map]
  have hp : ((fun d : Document => d.uri == other) ∘ modifyOne uri f)
      = fun d => d.uri == other := by
    funext document
    simp
  rw [hp]
  cases hd : store.documents.find? (·.uri == other) with
  | none => rfl
  | some document =>
    have hu : document.uri = other := by simpa using List.find?_some hd
    simp [modifyOne, hu, h]

/-- A closed document is not found. -/
@[simp]
theorem get?_erase_self (store : Store) (uri : Uri) : (store.erase uri).get? uri = none := by
  simp [get?, erase]

/-- Closing a document leaves what every other URI yields. -/
theorem get?_erase_of_ne (store : Store) {uri other : Uri} (h : other ≠ uri) :
    (store.erase uri).get? other = store.get? other := by
  simp only [get?, erase, List.find?_filter]
  congr 1
  funext document
  by_cases hu : document.uri = other <;> simp [hu, h]

/-- A URI is open exactly when it yields a document. -/
theorem contains_eq_isSome_get? (store : Store) (uri : Uri) :
    store.contains uri = (store.get? uri).isSome := by
  rw [Bool.eq_iff_iff]
  simp [contains, uris, get?]

/-- A document that has just been opened is found as it was opened. -/
@[simp]
theorem get?_insert_self (store : Store) (uri : Uri) (text : String) (version : Int) :
    (store.insert uri text version).get? uri = some (.fresh uri text version) := by
  unfold insert
  split
  case isTrue h =>
    rw [contains_eq_isSome_get?, Option.isSome_iff_exists] at h
    obtain ⟨document, hd⟩ := h
    have hu := uri_of_get? hd
    rw [get?_modify_self, hd]
    simp [modifyOne, hu, Document.fresh]
  case isFalse h =>
    rw [contains_eq_isSome_get?, Bool.not_eq_true, Option.isSome_eq_false_iff,
      Option.isNone_iff_eq_none] at h
    rw [get?] at h ⊢
    rw [List.find?_append, h]
    simp [Document.fresh]

/-- Opening a document leaves what every other URI yields. -/
theorem get?_insert_of_ne (store : Store) {uri other : Uri} (text : String) (version : Int)
    (h : other ≠ uri) : (store.insert uri text version).get? other = store.get? other := by
  unfold insert
  split
  case isTrue => exact get?_modify_of_ne store _ h
  case isFalse =>
    simp only [get?, List.find?_append]
    simp [Document.fresh, Ne.symm h]

/-- Opening keeps the order of what is open; a document that was not open comes last. -/
theorem uris_insert (store : Store) (uri : Uri) (text : String) (version : Int) :
    (store.insert uri text version).uris =
      if store.contains uri then store.uris else store.uris ++ [uri] := by
  unfold insert
  split
  case isTrue h => simp [uris_modify]
  case isFalse h => simp [uris, Document.fresh]

/-- Closing a document keeps the order of the others. -/
theorem uris_erase (store : Store) (uri : Uri) :
    (store.erase uri).uris = store.uris.filter (· != uri) := by
  simp [uris, erase, List.filter_map, Function.comp_def]

end Store

end GrammarServer
