/-!
# Pieces

* `piecesAt` — the pieces of a list between its marks.
* `takeWhile_dropWhile_append`, `not_of_head_dropWhile` — where `List.takeWhile` and
  `List.dropWhile` cut a list.
-/

namespace DeskCalculator

/-- The pieces of a list between its marks, given the reversed beginning of the first piece. -/
def piecesAt {α : Type} (isMark : α → Bool) (begun : List α) : List α → List (List α)
  | [] => [begun.reverse]
  | a :: rest =>
    if isMark a then begun.reverse :: piecesAt isMark [] rest
    else piecesAt isMark (a :: begun) rest

/-- A list is cut where a condition first fails. -/
theorem takeWhile_dropWhile_append {α : Type} {p : α → Bool} {l m : List α}
    (hl : ∀ a ∈ l, p a = true) (hm : ∀ a ∈ m.head?, p a = false) :
    (l ++ m).takeWhile p = l ∧ (l ++ m).dropWhile p = m := by
  rw [List.takeWhile_append_of_pos hl, List.dropWhile_append_of_pos hl]
  cases m with
  | nil => simp
  | cons a m =>
    have ha : ¬ p a = true := by simp [hm a rfl]
    rw [List.takeWhile_cons_of_neg ha, List.dropWhile_cons_of_neg ha]
    simp

/-- What is left of a list begins where the condition fails. -/
theorem not_of_head_dropWhile {α : Type} (p : α → Bool) (l : List α) :
    ∀ a ∈ (l.dropWhile p).head?, p a = false := by
  intro a ha
  have hhead := List.head?_dropWhile_not p l
  rw [Option.mem_def.1 ha] at hhead
  exact hhead

end DeskCalculator
