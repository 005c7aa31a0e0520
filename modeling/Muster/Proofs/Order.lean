import Mathlib.Data.List.Sort
import Muster.Order

/-!
# Stable order

Arranging a list sorts it by insertion.  The result is in order if the comparison is total and
transitive, and elements each of which may stand in front of the other stand as they did before.
-/

namespace Muster.Order

variable {α : Type} (before : α → α → Bool)

theorem insert_eq_orderedInsert (element : α) (list : List α) :
    insert before element list =
      list.orderedInsert (fun left right => before left right) element := by
  induction list with
  | nil => rfl
  | cons first rest ih => rw [insert, ih, List.orderedInsert_cons]

theorem arrange_eq_insertionSort (list : List α) :
    arrange before list = list.insertionSort fun left right => before left right := by
  induction list with
  | nil => rfl
  | cons first rest ih =>
      rw [arrange, ih, insert_eq_orderedInsert, List.insertionSort_cons]

theorem arrange_perm (list : List α) : (arrange before list).Perm list := by
  rw [arrange_eq_insertionSort]
  exact List.perm_insertionSort _ list

@[simp]
theorem mem_arrange {element : α} {list : List α} :
    element ∈ arrange before list ↔ element ∈ list :=
  (arrange_perm before list).mem_iff

@[simp]
theorem length_arrange (list : List α) : (arrange before list).length = list.length :=
  (arrange_perm before list).length_eq

theorem arrange_of_pairwise {list : List α}
    (hlist : list.Pairwise fun left right => before left right) : arrange before list = list := by
  rw [arrange_eq_insertionSort]
  exact hlist.insertionSort_eq

section Total

variable {before}
variable (htrans : ∀ left middle right, before left middle → before middle right →
    before left right)
  (htotal : ∀ left right, before left right ∨ before right left)

include htrans htotal

theorem pairwise_arrange (list : List α) :
    (arrange before list).Pairwise fun left right => before left right := by
  have : IsTrans α fun left right => before left right := ⟨htrans⟩
  have : Std.Total fun left right : α => (before left right : Prop) := ⟨htotal⟩
  rw [arrange_eq_insertionSort]
  exact List.pairwise_insertionSort _ list

/-- Insertion keeps a list sorted, with ties in the order in which they came. -/
theorem pairwise_insert {tie : α → α → Prop} (element : α) {list : List α}
    (htie : ∀ other ∈ list, tie element other)
    (hlist : list.Pairwise fun left right =>
      before left right ∧ (before right left → tie left right)) :
    (insert before element list).Pairwise fun left right =>
      before left right ∧ (before right left → tie left right) := by
  induction hlist with
  | nil => exact List.pairwise_singleton _ _
  | @cons first rest hfirst hrest ih =>
      have hothers : ∀ other ∈ rest, tie element other := fun other hother =>
        htie other (List.mem_cons_of_mem first hother)
      rw [insert]
      split
      next hbefore =>
        refine .cons (fun other hother => ⟨?_, fun _ => htie other hother⟩) (.cons hfirst hrest)
        rcases List.mem_cons.mp hother with rfl | hother
        · exact hbefore
        · exact htrans _ _ _ hbefore (hfirst other hother).1
      next hbefore =>
        refine .cons (fun other hother => ?_) (ih hothers)
        rw [insert_eq_orderedInsert, List.mem_orderedInsert] at hother
        rcases hother with rfl | hother
        · exact ⟨(htotal first other).resolve_right hbefore, fun hafter => absurd hafter hbefore⟩
        · exact hfirst other hother

/-- Elements each of which may stand in front of the other stand as they did before. -/
theorem pairwise_arrange_ties {tie : α → α → Prop} {list : List α} (hlist : list.Pairwise tie) :
    (arrange before list).Pairwise fun left right =>
      before left right ∧ (before right left → tie left right) := by
  induction hlist with
  | nil => exact .nil
  | @cons first rest hfirst _ ih =>
      refine pairwise_insert htrans htotal first (fun other hother => ?_) ih
      exact hfirst other ((mem_arrange before).mp hother)

/-- What was before does not matter, unless two different elements may each stand in front of the
other. -/
theorem arrange_eq_of_perm {list other : List α} (hperm : list.Perm other)
    (hdiffer : ∀ left ∈ other, ∀ right ∈ other, before left right → before right left →
      left = right) :
    arrange before list = arrange before other := by
  refine List.Perm.eq_of_pairwise ?_ (pairwise_arrange htrans htotal list)
    (pairwise_arrange htrans htotal other) ?_
  · intro left right hleft hright
    rw [mem_arrange] at hleft hright
    exact hdiffer left (hperm.mem_iff.mp hleft) right hright
  · exact (arrange_perm before list).trans (hperm.trans (arrange_perm before other).symm)

end Total

end Muster.Order
