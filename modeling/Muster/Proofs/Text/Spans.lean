import Mathlib.Data.List.TakeWhile

/-!
# Spans

A text that begins with characters of one kind, behind which none of that kind comes next, is cut
where they end.  The two parts are determined by the text.
-/

namespace Muster.Text

variable {kind : Char → Bool} {front rest other others : List Char}

/-- A span of one kind ends where another kind begins. -/
theorem takeWhile_span (hfront : ∀ char ∈ front, kind char)
    (hrest : ∀ char ∈ rest.head?, ¬ kind char) :
    (front ++ rest).takeWhile kind = front := by
  have hnone : rest.takeWhile kind = [] := by
    cases rest with
    | nil => rfl
    | cons char others => exact List.takeWhile_cons_of_neg (hrest char rfl)
  rw [List.takeWhile_append_of_pos hfront, hnone, List.append_nil]

theorem dropWhile_span (hfront : ∀ char ∈ front, kind char)
    (hrest : ∀ char ∈ rest.head?, ¬ kind char) :
    (front ++ rest).dropWhile kind = rest := by
  rw [List.dropWhile_append_of_pos hfront]
  cases rest with
  | nil => rfl
  | cons char others => exact List.dropWhile_cons_of_neg (hrest char rfl)

/-- What is left when all characters of a kind are taken off the front begins with none of them. -/
theorem head?_dropWhile (kind : Char → Bool) (text : List Char) :
    ∀ char ∈ (text.dropWhile kind).head?, ¬ kind char := by
  intro char hchar
  have hnot := List.head?_dropWhile_not kind text
  rw [Option.mem_def.mp hchar] at hnot
  exact Bool.eq_false_iff.mp hnot

/-- Two such cuts of one text are the same. -/
theorem span_inj (htext : front ++ rest = other ++ others)
    (hfront : ∀ char ∈ front, kind char) (hrest : ∀ char ∈ rest.head?, ¬ kind char)
    (hother : ∀ char ∈ other, kind char) (hothers : ∀ char ∈ others.head?, ¬ kind char) :
    front = other ∧ rest = others := by
  have htake := congrArg (List.takeWhile kind) htext
  have hdrop := congrArg (List.dropWhile kind) htext
  rw [takeWhile_span hfront hrest, takeWhile_span hother hothers] at htake
  rw [dropWhile_span hfront hrest, dropWhile_span hother hothers] at hdrop
  exact ⟨htake, hdrop⟩

end Muster.Text
