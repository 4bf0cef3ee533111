/-!
# Crashes

The handling of one message can break off without an answer.  A crash names the
cause; the server survives it and keeps whatever it had written before.
-/

namespace GrammarServer

/-- Why the handling of a message broke off. -/
inductive Crash where
  /-- A line or column would exceed the largest coordinate. -/
  | coordinateOverflow
  /-- A byte offset lies outside its line or inside a character. -/
  | offsetOutOfRange
  /-- The grammar engine itself crashed during a call. -/
  | engineCrash
deriving DecidableEq, Repr

/-- All results of a computation on the elements of a list, in order, or the first
crash. -/
def collect {α β : Type} (f : α → Except Crash β) : List α → Except Crash (List β)
  | [] => .ok []
  | a :: rest =>
    match f a with
    | .error crash => .error crash
    | .ok b =>
      match collect f rest with
      | .error crash => .error crash
      | .ok others => .ok (b :: others)

/-- A computation that goes on with the result of another one. -/
theorem bind_eq_ok_iff {α β : Type} {x : Except Crash α} {f : α → Except Crash β} {b : β} :
    (x >>= f) = .ok b ↔ ∃ a, x = .ok a ∧ f a = .ok b := by
  cases x with
  | error crash => simp [bind, Except.bind]
  | ok a => simp [bind, Except.bind]

/-- The empty list has no results. -/
@[simp]
theorem collect_nil {α β : Type} (f : α → Except Crash β) : collect f [] = .ok [] := rfl

/-- The results of a longer list start with the result of its first element. -/
theorem collect_cons_eq_ok_iff {α β : Type} {f : α → Except Crash β} {a : α} {rest : List α}
    {results : List β} :
    collect f (a :: rest) = .ok results ↔
      ∃ b others, f a = .ok b ∧ collect f rest = .ok others ∧ results = b :: others := by
  simp only [collect]
  cases f a with
  | error crash => simp
  | ok b =>
    cases collect f rest with
    | error crash => simp
    | ok others => simp [eq_comm]

/-- There is a result for every element exactly when no element crashes. -/
theorem collect_isOk_iff {α β : Type} {f : α → Except Crash β} {list : List α} :
    (∃ results, collect f list = .ok results) ↔ ∀ a ∈ list, ∃ b, f a = .ok b := by
  induction list with
  | nil => simp
  | cons a rest ih =>
    simp only [collect_cons_eq_ok_iff, List.forall_mem_cons, ← ih]
    constructor
    · rintro ⟨_, b, others, hb, ho, _⟩
      exact ⟨⟨b, hb⟩, others, ho⟩
    · rintro ⟨⟨b, hb⟩, others, ho⟩
      exact ⟨b :: others, b, others, hb, ho, rfl⟩

/-! ## Computations with a known result -/

/-- A computation gives a known result under a known condition, and crashes otherwise. -/
def Computes {α β : Type} (f : α → Except Crash β) (condition : α → Prop) (result : α → β) :
    Prop :=
  ∀ a b, f a = .ok b ↔ condition a ∧ b = result a

/-- A list is computed exactly if every element is. -/
theorem collect_eq_ok_iff_of_computes {α β : Type} {f : α → Except Crash β}
    {condition : α → Prop} {result : α → β} (h : Computes f condition result) {list : List α}
    {results : List β} :
    collect f list = .ok results ↔ (∀ a ∈ list, condition a) ∧ results = list.map result := by
  induction list generalizing results with
  | nil => simp [eq_comm]
  | cons a rest ih =>
    simp only [collect_cons_eq_ok_iff, h a, ih, List.forall_mem_cons, List.map_cons]
    constructor
    · rintro ⟨_, _, ⟨ha, rfl⟩, ⟨hrest, rfl⟩, rfl⟩
      exact ⟨⟨ha, hrest⟩, rfl⟩
    · rintro ⟨⟨ha, hrest⟩, rfl⟩
      exact ⟨_, _, ⟨ha, rfl⟩, ⟨hrest, rfl⟩, rfl⟩

/-- A result that needs no computation is known whenever the condition holds. -/
theorem ok_eq_ok_iff {α : Type} {a b : α} {condition : Prop} (h : condition) :
    (Except.ok a : Except Crash α) = .ok b ↔ condition ∧ b = a := by
  rw [Except.ok.injEq, eq_comm]
  exact (and_iff_right h).symm

/-- A result that another computation goes on with is known if both conditions hold. -/
theorem bind_eq_ok_iff_and {α β : Type} {x : Except Crash α} {f : α → Except Crash β}
    {first second : Prop} {a : α} {result : β} (hx : ∀ a', x = .ok a' ↔ first ∧ a' = a)
    (hf : ∀ b, f a = .ok b ↔ second ∧ b = result) {b : β} :
    (x >>= f) = .ok b ↔ (first ∧ second) ∧ b = result := by
  simp only [bind_eq_ok_iff, hx]
  constructor
  · rintro ⟨_, ⟨hfirst, rfl⟩, hb⟩
    have hsecond := (hf b).mp hb
    exact ⟨⟨hfirst, hsecond.1⟩, hsecond.2⟩
  · rintro ⟨⟨hfirst, hsecond⟩, rfl⟩
    exact ⟨a, ⟨hfirst, rfl⟩, (hf _).mpr ⟨hsecond, rfl⟩⟩

/-- A result that is only wrapped up is known under the same condition. -/
theorem bind_pure_eq_ok_iff {α β : Type} {x : Except Crash α} {condition : Prop} {result : α}
    (h : ∀ a, x = .ok a ↔ condition ∧ a = result) {wrap : α → β} {b : β} :
    (x >>= fun a => pure (wrap a)) = .ok b ↔ condition ∧ b = wrap result := by
  simp only [bind_eq_ok_iff, h, pure, Except.pure, Except.ok.injEq]
  constructor
  · rintro ⟨_, ⟨hcondition, rfl⟩, rfl⟩
    exact ⟨hcondition, rfl⟩
  · rintro ⟨hcondition, rfl⟩
    exact ⟨_, ⟨hcondition, rfl⟩, rfl⟩

end GrammarServer
