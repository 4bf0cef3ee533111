import Mathlib.Data.List.Basic

/-!
# Stable sorts

A list is sorted by a comparison in which elements can tie.  A stable sort puts the elements
in order and keeps those that tie in their old order; there is exactly one such list.

Main results:

- Theorem `filter_mergeSort_of_tied`: sorting keeps elements that tie in their order.
- Theorem `mergeSort_sublist_append`: further elements do not move the others.
- Theorem `isStableSort_iff`: a stable sort is determined by what it keeps.
-/

namespace GrammarServer

section Ties

variable {α : Type} {le : α → α → Bool}

/-- Whether two elements tie. -/
def isTied (le : α → α → Bool) (a b : α) : Bool :=
  le a b && le b a

/-- A list put in order, with the elements that tie in their old order. -/
structure IsStableSort (le : α → α → Bool) (list sorted : List α) : Prop where
  perm : sorted.Perm list
  ordered : sorted.Pairwise fun a b => le a b = true
  stable : ∀ a, sorted.filter (isTied le a) = list.filter (isTied le a)

variable (htrans : ∀ a b c, le a b = true → le b c = true → le a c = true)
  (htotal : ∀ a b, (le a b || le b a) = true)

include htotal in
theorem isTied_self (a : α) : isTied le a a = true := by
  have h := htotal a a
  rw [Bool.or_self] at h
  rw [isTied, h, Bool.and_self]

include htrans htotal

/-- Sorting keeps elements that tie in their order. -/
theorem filter_mergeSort_of_tied {p : α → Bool}
    (hp : ∀ a b, p a = true → p b = true → le a b = true) (list : List α) :
    (list.mergeSort le).filter p = list.filter p := by
  -- The group is in order as it is, so it stays a sublist; its length does not change.
  have hordered : (list.filter p).Pairwise fun a b => le a b = true := by
    apply List.pairwise_of_forall_mem_list
    intro a ha b hb
    exact hp a b (List.mem_filter.mp ha).2 (List.mem_filter.mp hb).2
  have hsublist := (List.sublist_mergeSort htrans htotal hordered List.filter_sublist).filter p
  rw [List.filter_filter, List.filter_congr fun a _ => Bool.and_self (p a)] at hsublist
  refine (hsublist.eq_of_length ?_).symm
  rw [← List.countP_eq_length_filter, ← List.countP_eq_length_filter]
  exact ((List.mergeSort_perm list le).countP_eq p).symm

theorem isStableSort_mergeSort (list : List α) : IsStableSort le list (list.mergeSort le) where
  perm := List.mergeSort_perm list le
  ordered := List.pairwise_mergeSort htrans htotal list
  stable := by
    intro a
    refine filter_mergeSort_of_tied htrans htotal ?_ list
    intro b c hb hc
    rw [isTied, Bool.and_eq_true] at hb hc
    exact htrans b a c hb.2 hc.1

/-- Elements put in front leave the others in the order in which they are sorted without
them. -/
theorem mergeSort_sublist_append (front list : List α) :
    (list.mergeSort le).Sublist ((front ++ list).mergeSort le) := by
  induction front with
  | nil => exact List.Sublist.refl _
  | cons a front ih =>
    obtain ⟨before, after, hsort, hrest, _⟩ :=
      List.mergeSort_cons htrans htotal a (front ++ list)
    rw [hrest] at ih
    rw [List.cons_append, hsort]
    exact ih.trans ((List.sublist_cons_self a after).append_left before)

omit htrans in
/-- Lists with the same elements in every group have the same elements. -/
theorem mem_of_filter_isTied_eq {first second : List α}
    (h : ∀ a, first.filter (isTied le a) = second.filter (isTied le a)) {a : α}
    (hmem : a ∈ first) : a ∈ second := by
  have hgroup : a ∈ first.filter (isTied le a) :=
    List.mem_filter.mpr ⟨hmem, isTied_self htotal a⟩
  rw [h] at hgroup
  exact (List.mem_filter.mp hgroup).1

omit htrans in
/-- Two lists in order with the same elements in every group are the same. -/
theorem eq_of_filter_isTied_eq {first second : List α}
    (hfirst : first.Pairwise fun a b => le a b = true)
    (hsecond : second.Pairwise fun a b => le a b = true)
    (h : ∀ a, first.filter (isTied le a) = second.filter (isTied le a)) : first = second := by
  induction first generalizing second with
  | nil =>
    cases second with
    | nil => rfl
    | cons b second =>
      have hmem := mem_of_filter_isTied_eq htotal (fun a => (h a).symm) List.mem_cons_self
      exact absurd hmem List.not_mem_nil
  | cons a first ih =>
    cases second with
    | nil =>
      exact absurd (mem_of_filter_isTied_eq htotal h List.mem_cons_self) List.not_mem_nil
    | cons b second =>
      have ha := mem_of_filter_isTied_eq htotal h List.mem_cons_self
      have hb := mem_of_filter_isTied_eq htotal (fun c => (h c).symm) List.mem_cons_self
      rw [List.pairwise_cons] at hfirst hsecond
      -- The first elements tie, so they are the first of one group.
      have htied : isTied le a b = true := by
        rcases List.mem_cons.mp hb with rfl | hb
        · exact isTied_self htotal b
        rcases List.mem_cons.mp ha with rfl | ha
        · exact isTied_self htotal a
        rw [isTied, hfirst.1 b hb, hsecond.1 a ha, Bool.and_self]
      have hgroup := h a
      rw [List.filter_cons, List.filter_cons, if_pos (isTied_self htotal a), if_pos htied] at hgroup
      obtain rfl := (List.cons.inj hgroup).1
      rw [ih hfirst.2 hsecond.2]
      intro c
      have hgroups := h c
      rw [List.filter_cons, List.filter_cons] at hgroups
      split at hgroups
      · exact (List.cons.inj hgroups).2
      · exact hgroups

/-- A stable sort is determined by what it keeps. -/
theorem isStableSort_iff {list sorted : List α} :
    IsStableSort le list sorted ↔ sorted = list.mergeSort le := by
  have hsort := isStableSort_mergeSort htrans htotal list
  constructor
  · intro h
    refine eq_of_filter_isTied_eq htotal h.ordered hsort.ordered fun a => ?_
    rw [h.stable, hsort.stable]
  · rintro rfl
    exact hsort

end Ties

end GrammarServer
