import GrammarServer.Json.Decoder
import Mathlib.Data.List.Forall2
import Mathlib.Tactic.Simps.Basic

/-!
# Records as JSON values write them

A record is written as an object with its members in any order, or as the array of its fields in
their order.  Whichever form is chosen, decoding fills the same fields: what the decoder holds
depends only on which fields it has seen.

Main results:

- Theorem `decodeList_of_reads`: a list is decoded item by item.
- Theorem `decodeOption_of_reads`: an optional value is decoded, as is its absence.
- Theorem `decodeRecord_of_writes`: a record is decoded from each of its forms.
-/

namespace GrammarServer.Json

variable {α β σ : Type}

/-! ## How records are written -/

/-- How a field of a record may be written: its name, the values that write it, and whether it
can be left out of an object. -/
structure FieldForm where
  name : String
  writes : Json → Prop
  optional : Prop

/-- A value writes a record whose fields have the given forms. -/
inductive WritesRecord (forms : List FieldForm) : Json → Prop
  /-- No member is written twice, each belongs to a field, and only optional fields lack one. -/
  | object {members : List (String × Json)} (hnodup : (members.map Prod.fst).Nodup)
    (hfield : ∀ member ∈ members, ∃ form ∈ forms, form.name = member.1 ∧ form.writes member.2)
    (hcomplete : ∀ form ∈ forms, form.optional ∨ form.name ∈ members.map Prod.fst) :
    WritesRecord forms (.object members)
  /-- Every field has its item. -/
  | array {items : List Json} (hitems : List.Forall₂ FieldForm.writes forms items) :
    WritesRecord forms (.array items)

/-- A value writes a list by the array of its items. -/
inductive WritesList (writes : α → Json → Prop) : List α → Json → Prop
  | array {list : List α} {items : List Json} (h : List.Forall₂ writes list items) :
    WritesList writes list (.array items)

/-- A value writes an optional value; absence is written `null`. -/
inductive WritesOption (writes : α → Json → Prop) : Option α → Json → Prop
  | none : WritesOption writes none .null
  | some {a : α} {value : Json} (h : writes a value) : WritesOption writes (some a) value

/-- A field that is always written. -/
@[simps]
def requiredField (name : String) (writes : α → Json → Prop) (a : α) : FieldForm :=
  ⟨name, writes a, False⟩

/-- A field with an optional value, which can be left out if there is none. -/
@[simps]
def optionField (name : String) (writes : α → Json → Prop) (value : Option α) : FieldForm :=
  ⟨name, WritesOption writes value, value = none⟩

/-- A field with a list, which can be left out if it is empty. -/
@[simps]
def listField (name : String) (writes : α → Json → Prop) (list : List α) : FieldForm :=
  ⟨name, WritesList writes list, list = []⟩

/-! ## Lists and options -/

/-- A decoder gives `result` for what is written. -/
def Reads (decode : Decoder β) (writes : α → Json → Prop)
    (result : α → Except DecodeError β) : Prop :=
  ∀ a value, writes a value → decode value.toNode = result a

/-- A list is decoded item by item, up to the first that fails. -/
theorem decodeItems_of_reads {decode : Decoder β} {writes : α → Json → Prop}
    {result : α → Except DecodeError β} (h : Reads decode writes result) {list : List α}
    {items : List Json} (hitems : List.Forall₂ writes list items) :
    decodeItems decode (itemsToNodes items) = list.mapM result := by
  induction hitems with
  | nil => rfl
  | @cons a item list items ha hrest ih =>
    rw [itemsToNodes, decodeItems, h a item ha, ih, List.mapM_cons]
    cases result a with
    | error e => rfl
    | ok b => cases list.mapM result <;> rfl

theorem decodeList_of_reads {decode : Decoder β} {writes : α → Json → Prop}
    {result : α → Except DecodeError β} (h : Reads decode writes result) :
    Reads (decodeList decode) (WritesList writes) (List.mapM result) := by
  intro list value hvalue
  cases hvalue with
  | @array items hitems =>
    rw [toNode, decodeList, decodeItems_of_reads h hitems]
    cases list.mapM result <;> rfl

/-- Where every item is decoded, the list is. -/
theorem decodeList_of_reads_ok {decode : Decoder α} {writes : α → Json → Prop}
    (h : Reads decode writes .ok) : Reads (decodeList decode) (WritesList writes) .ok := by
  intro list value hvalue
  have hok : list.mapM Except.ok = (pure (list.map id) : Except DecodeError (List α)) :=
    List.mapM_pure
  rw [decodeList_of_reads h list value hvalue, hok, List.map_id]
  rfl

/-- An optional value is decoded, as is its absence, if `null` does not stand for a value. -/
theorem decodeOption_of_reads {decode : Decoder α} {writes : α → Json → Prop}
    (h : Reads decode writes .ok) (hnull : ∀ a, decode .null ≠ .ok a) :
    Reads (decodeOption decode) (WritesOption writes) .ok := by
  intro option value hvalue
  cases hvalue with
  | none => rfl
  | @some a _ ha =>
    have hdecode := h a value ha
    rw [decodeOption]
    · rw [hdecode]
    · intro hnode
      rw [hnode] at hdecode
      exact hnull a hdecode

/-! ## Records -/

/-- What a field holds after the fields `seen`: its value or still what it started with. -/
def held (seen : List String) (name : String) (value blank : α) : α :=
  if name ∈ seen then value else blank

theorem held_cons_self (seen : List String) (name : String) (value blank : α) :
    held (name :: seen) name value blank = value := by
  simp [held]

theorem held_cons_of_ne {other name : String} (h : name ≠ other) (seen : List String)
    (value blank : α) : held (other :: seen) name value blank = held seen name value blank := by
  simp [held, h]

theorem held_eq {seen : List String} {name : String} {value blank : α}
    (h : value = blank ∨ name ∈ seen) : held seen name value blank = value := by
  unfold held
  split
  · rfl
  · rcases h with h | h
    · exact h.symm
    · contradiction

/-- A field takes what its form writes: the outcome after the fields seen before becomes the
outcome with this field. -/
structure Takes (outcome : List String → Except DecodeError σ) (field : RecordField σ)
    (form : FieldForm) : Prop where
  name : field.name = form.name
  required : field.required = true → ¬ form.optional
  put : ∀ value, form.writes value → ∀ seen record, outcome seen = .ok record →
    field.put value.toNode record = outcome (form.name :: seen)

/-- A field made of a decoder and a setter takes what the decoder reads. -/
theorem Takes.of {outcome : List String → Except DecodeError σ} {name : String} {required : Bool}
    {decode : Decoder β} {set : σ → β → σ} {writes : Json → Prop} {optional : Prop}
    {result : Except DecodeError β} (hrequired : required = true → ¬ optional)
    (hreads : ∀ value, writes value → decode value.toNode = result)
    (hset : ∀ seen record, outcome seen = .ok record →
      outcome (name :: seen) = result.map (set record)) :
    Takes outcome (.of name required decode set) ⟨name, writes, optional⟩ where
  name := rfl
  required := hrequired
  put value hvalue seen record hrecord := by
    rw [hset seen record hrecord, RecordField.of]
    simp only [hreads value hvalue]
    cases result <;> rfl

/-- Where nothing can fail, a field that can be left out takes a value by setting it. -/
theorem takes_optional {fill : List String → σ} {name : String} {decode : Decoder α}
    {set : σ → α → σ} {writes : α → Json → Prop} {a : α} {optional : Prop}
    (hreads : Reads decode writes .ok) (hset : ∀ seen, fill (name :: seen) = set (fill seen) a) :
    Takes (fun seen => .ok (fill seen)) (.of name false decode set)
      ⟨name, writes a, optional⟩ := by
  apply Takes.of (by simp) (hreads a)
  intro seen record hrecord
  rw [hset, Except.ok.inj hrecord]
  rfl

/-- Where nothing can fail, a required field takes a value by setting it. -/
theorem takes_required {fill : List String → σ} {name : String} {decode : Decoder α}
    {set : σ → α → σ} {writes : α → Json → Prop} {a : α} (hreads : Reads decode writes .ok)
    (hset : ∀ seen, fill (name :: seen) = set (fill seen) a) :
    Takes (fun seen => .ok (fill seen)) (.of name true decode set)
      (requiredField name writes a) := by
  have htakes : Takes (fun seen => .ok (fill seen)) (.of name false decode set)
      (requiredField name writes a) := takes_optional hreads hset
  exact ⟨rfl, fun _ h => h, htakes.put⟩

/-- A record is read through outcomes that depend only on the fields seen: they start with the
blank record, go on as the fields say, never leave an error and end in `result`. -/
structure ReadsRecord (fields : List (RecordField σ)) (blank : σ) (forms : List FieldForm)
    (outcome : List String → Except DecodeError σ) (result : Except DecodeError σ) : Prop where
  nodup : (forms.map FieldForm.name).Nodup
  start : outcome [] = .ok blank
  takes : List.Forall₂ (Takes outcome) fields forms
  stays : ∀ seen name e, outcome seen = .error e → outcome (name :: seen) = .error e
  ends : ∀ seen, (∀ form ∈ forms, form.optional ∨ form.name ∈ seen) → outcome seen = result

/-- The field of a form is found by its name. -/
theorem exists_find?_of_takes {outcome : List String → Except DecodeError σ}
    {fields : List (RecordField σ)} {forms : List FieldForm}
    (h : List.Forall₂ (Takes outcome) fields forms) (hnodup : (forms.map FieldForm.name).Nodup)
    {form : FieldForm} (hform : form ∈ forms) :
    ∃ field, fields.find? (·.name == form.name) = some field ∧ Takes outcome field form := by
  induction h with
  | nil => cases hform
  | @cons field first fields forms hfirst hrest ih =>
    rw [List.map_cons, List.nodup_cons] at hnodup
    rcases List.mem_cons.mp hform with rfl | hform
    · exact ⟨field, by simp [hfirst.name], hfirst⟩
    · have hne : first.name ≠ form.name := by
        intro heq
        exact hnodup.1 (heq ▸ List.mem_map_of_mem hform)
      obtain ⟨found, hfound, htakes⟩ := ih hnodup.2 hform
      refine ⟨found, ?_, htakes⟩
      rw [List.find?_cons_of_neg (by simpa [hfirst.name] using hne), hfound]

/-- Every field has its form. -/
theorem exists_form_of_takes {outcome : List String → Except DecodeError σ}
    {fields : List (RecordField σ)} {forms : List FieldForm}
    (h : List.Forall₂ (Takes outcome) fields forms) {field : RecordField σ}
    (hfield : field ∈ fields) : ∃ form ∈ forms, Takes outcome field form := by
  induction h with
  | nil => cases hfield
  | @cons first form fields forms hfirst hrest ih =>
    rcases List.mem_cons.mp hfield with rfl | hfield
    · exact ⟨form, List.mem_cons_self, hfirst⟩
    · obtain ⟨found, hfound, htakes⟩ := ih hfield
      exact ⟨found, List.mem_cons_of_mem form hfound, htakes⟩

section

variable {fields : List (RecordField σ)} {blank : σ} {forms : List FieldForm}
  {outcome : List String → Except DecodeError σ} {result : Except DecodeError σ}

/-- An error is met again after any further fields. -/
theorem ReadsRecord.stays_append (h : ReadsRecord fields blank forms outcome result)
    {seen : List String} {e : DecodeError} (he : outcome seen = .error e) (names : List String) :
    outcome (names ++ seen) = .error e := by
  induction names with
  | nil => exact he
  | cons name names ih => exact h.stays (names ++ seen) name e ih

/-- The members of an object are read in the order in which they stand. -/
theorem ReadsRecord.readMembers_eq (h : ReadsRecord fields blank forms outcome result)
    {members : List (String × Json)} {seen : List String} {record : σ}
    (hrecord : outcome seen = .ok record) (hnodup : (members.map Prod.fst).Nodup)
    (hfresh : ∀ member ∈ members, member.1 ∉ seen)
    (hfield : ∀ member ∈ members, ∃ form ∈ forms, form.name = member.1 ∧ form.writes member.2) :
    readMembers fields seen record (membersToNodes members) =
      (outcome ((members.map Prod.fst).reverse ++ seen)).map
        fun filled => ((members.map Prod.fst).reverse ++ seen, filled) := by
  -- The names seen grow with each member; the record held is always the outcome for them.
  induction members generalizing seen record with
  | nil =>
    rw [membersToNodes, readMembers, List.map_nil, List.reverse_nil, List.nil_append, hrecord]
    rfl
  | cons member members ih =>
    obtain ⟨name, value⟩ := member
    obtain ⟨form, hform, rfl, hwrites⟩ := hfield (name, value) List.mem_cons_self
    obtain ⟨field, hfind, htakes⟩ := exists_find?_of_takes h.takes h.nodup hform
    have hunseen : seen.contains form.name = false := by
      simpa using hfresh (form.name, value) List.mem_cons_self
    rw [List.map_cons, List.nodup_cons] at hnodup
    have hput := htakes.put value hwrites seen record hrecord
    rw [membersToNodes, readMembers]
    simp only [hfind, hunseen, hput, List.map_cons, List.reverse_cons, List.append_assoc,
      List.singleton_append]
    cases hnext : outcome (form.name :: seen) with
    | error e =>
      -- The decoder stops here, and the members that it does not reach change nothing.
      rw [h.stays_append hnext]
      rfl
    | ok filled =>
      apply ih hnext hnodup.2
      · intro member hmember hmem
        rcases List.mem_cons.mp hmem with heq | hmem
        · exact hnodup.1 (List.mem_map.mpr ⟨member, hmember, heq⟩)
        · exact hfresh member (List.mem_cons_of_mem _ hmember) hmem
      · intro member hmember
        exact hfield member (List.mem_cons_of_mem _ hmember)

/-- The items of an array are read into the fields from the first on. -/
theorem ReadsRecord.readPositional_eq (h : ReadsRecord fields blank forms outcome result)
    {rest : List (RecordField σ)} {restForms : List FieldForm} {items : List Json}
    {seen : List String} {record : σ} (hrecord : outcome seen = .ok record)
    (htakes : List.Forall₂ (Takes outcome) rest restForms)
    (hitems : List.Forall₂ FieldForm.writes restForms items) :
    readPositional rest record (itemsToNodes items) none =
      outcome ((restForms.map FieldForm.name).reverse ++ seen) := by
  induction htakes generalizing seen record items with
  | nil =>
    cases hitems
    exact hrecord.symm
  | @cons field form rest restForms hfield hrest ih =>
    cases hitems with
    | @cons _ item _ items hitem hitems =>
      have hput := hfield.put item hitem seen record hrecord
      rw [itemsToNodes, readPositional]
      simp only [hput, List.map_cons, List.reverse_cons, List.append_assoc,
        List.singleton_append]
      cases hnext : outcome (form.name :: seen) with
      | error e => exact (h.stays_append hnext _).symm
      | ok filled => exact ih hnext hitems

/-- A required field has its member in every object that writes the record. -/
theorem ReadsRecord.all_required (h : ReadsRecord fields blank forms outcome result)
    {names : List String} (hcomplete : ∀ form ∈ forms, form.optional ∨ form.name ∈ names) :
    (fields.all fun field => !field.required || names.contains field.name) = true := by
  rw [List.all_eq_true]
  intro field hfield
  obtain ⟨form, hform, htakes⟩ := exists_form_of_takes h.takes hfield
  cases hrequired : field.required with
  | false => rfl
  | true =>
    have hname := (hcomplete form hform).resolve_left (htakes.required hrequired)
    simpa [htakes.name] using hname

/-- A record is decoded from each of its forms, with its members in any order. -/
theorem decodeRecord_of_writes (outcome : List String → Except DecodeError σ) {value : Json}
    (hvalue : WritesRecord forms value) (h : ReadsRecord fields blank forms outcome result) :
    decodeRecord fields blank value.toNode = result := by
  cases hvalue with
  | @object members hnodup hfield hcomplete =>
    have hmembers := h.readMembers_eq h.start hnodup (by simp) hfield
    rw [List.append_nil] at hmembers
    have hseen : ∀ form ∈ forms, form.optional ∨ form.name ∈ (members.map Prod.fst).reverse := by
      simpa only [List.mem_reverse] using hcomplete
    rw [toNode, decodeRecord, hmembers, h.ends _ hseen]
    cases result with
    | error e => rfl
    | ok record => simp only [Except.map, h.all_required hseen, if_true]
  | @array items hitems =>
    have hrecord := h.readPositional_eq h.start h.takes hitems
    rw [toNode, decodeRecord, hrecord]
    apply h.ends
    intro form hform
    right
    simpa using ⟨form, hform, rfl⟩

/-- Where nothing can fail, a record is decoded by filling it. -/
theorem decodeRecord_of_fill (fill : List String → σ) {record : σ} {value : Json}
    (hvalue : WritesRecord forms value) (hnodup : (forms.map FieldForm.name).Nodup)
    (hstart : fill [] = blank)
    (htakes : List.Forall₂ (Takes fun seen => .ok (fill seen)) fields forms)
    (hends : ∀ seen, (∀ form ∈ forms, form.optional ∨ form.name ∈ seen) → fill seen = record) :
    decodeRecord fields blank value.toNode = .ok record := by
  apply decodeRecord_of_writes (fun seen => .ok (fill seen)) hvalue
  refine ⟨hnodup, congrArg Except.ok hstart, htakes, ?_, ?_⟩
  · intro seen name e he
    cases he
  · intro seen hseen
    rw [hends seen hseen]

end

end GrammarServer.Json
