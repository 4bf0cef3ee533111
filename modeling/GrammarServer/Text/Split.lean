/-!
# Cutting lists

A list is cut at the elements that satisfy a test; joining the parts with the elements
at which it was cut gives the list back.
-/

namespace GrammarServer.Text

/-- A list cut at every element that satisfies `p`. -/
def splitAt {α : Type} (p : α → Bool) : List α → List (List α)
  | [] => [[]]
  | a :: rest =>
    match p a, splitAt p rest with
    | true, parts => [] :: parts
    | false, first :: parts => (a :: first) :: parts
    | false, [] => [[a]]

/-- There is always at least one part. -/
theorem splitAt_ne_nil {α : Type} (p : α → Bool) (list : List α) : splitAt p list ≠ [] := by
  cases list with
  | nil => simp [splitAt]
  | cons a rest =>
    unfold splitAt
    split <;> simp

end GrammarServer.Text
