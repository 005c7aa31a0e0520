import Mathlib.Data.List.Nodup
import Mathlib.Data.List.Perm.Subperm

/-!
# Parts of lists

A part of a list is one that leaves out some of its elements and may rearrange the others.  Where
no two elements share a key, an element is the one that is found by its key.
-/

namespace Muster.Parts

variable {α β γ : Type} {part list : List α}

theorem nodup (hpart : part.Subperm list) (hlist : list.Nodup) : part.Nodup := by
  obtain ⟨sublist, hperm, hsublist⟩ := hpart
  exact hperm.nodup_iff.mp (hlist.sublist hsublist)

theorem map (change : α → β) (hpart : part.Subperm list) :
    (part.map change).Subperm (list.map change) := by
  obtain ⟨sublist, hperm, hsublist⟩ := hpart
  exact ⟨sublist.map change, hperm.map change, hsublist.map change⟩

/-- What is made of some of the elements under their own keys has part of the keys. -/
theorem map_filterMap_sublist {make : α → Option β} {key : α → γ} {keyOf : β → γ}
    (hkeys : ∀ element ∈ list, ∀ made, make element = some made → keyOf made = key element) :
    ((list.filterMap make).map keyOf).Sublist (list.map key) := by
  induction list with
  | nil => exact List.Sublist.refl _
  | cons first rest ih =>
      rw [List.forall_mem_cons] at hkeys
      cases hmake : make first with
      | none =>
          rw [List.filterMap_cons_none hmake]
          exact (ih hkeys.2).cons _
      | some made =>
          rw [List.filterMap_cons_some hmake, List.map_cons, List.map_cons, hkeys.1 made hmake]
          exact (ih hkeys.2).cons_cons _

/-- A list without its repetitions names nothing twice. -/
theorem nodup_eraseDups [DecidableEq α] (list : List α) : list.eraseDups.Nodup := by
  induction hlength : list.length using Nat.strongRecOn generalizing list with
  | ind length ih =>
      cases list with
      | nil => exact List.nodup_nil
      | cons first rest =>
          rw [List.eraseDups_cons, List.nodup_cons]
          constructor
          · intro hmember
            have hdifferent := (List.mem_filter.mp (List.mem_eraseDups.mp hmember)).2
            simp at hdifferent
          · apply ih _ _ _ rfl
            rw [← hlength]
            exact Nat.lt_succ_of_le (List.length_filter_le _ _)

/-- What stands at all places of a list one after the other is the list. -/
theorem filterMap_getElem?_range (list : List α) :
    (List.range list.length).filterMap (list[·]?) = list := by
  induction list with
  | nil => rfl
  | cons first rest ih =>
      rw [List.length_cons, List.range_succ_eq_map, List.filterMap_cons, List.filterMap_map]
      exact congrArg (first :: ·) ih

theorem find?_key [BEq β] [LawfulBEq β] {key : α → β} (hkeys : (list.map key).Nodup) {element : α}
    (helement : element ∈ list) :
    (list.find? fun other => key other == key element) = some element := by
  have hsome : (list.find? fun other => key other == key element).isSome :=
    List.find?_isSome.mpr ⟨element, helement, beq_self_eq_true (key element)⟩
  obtain ⟨found, hfound⟩ := Option.isSome_iff_exists.mp hsome
  have hkey : (key found == key element) = true :=
    List.find?_some (p := fun other => key other == key element) hfound
  rw [hfound, List.inj_on_of_nodup_map hkeys (List.mem_of_find?_eq_some hfound) helement
    (beq_iff_eq.mp hkey)]

theorem find?_key_eq_some_iff [BEq β] [LawfulBEq β] {key : α → β} (hkeys : (list.map key).Nodup)
    {wanted : β} {element : α} :
    (list.find? fun other => key other == wanted) = some element ↔
      element ∈ list ∧ key element = wanted := by
  constructor
  · intro hfound
    have hkey : (key element == wanted) = true :=
      List.find?_some (p := fun other => key other == wanted) hfound
    exact ⟨List.mem_of_find?_eq_some hfound, beq_iff_eq.mp hkey⟩
  · rintro ⟨helement, rfl⟩
    exact find?_key hkeys helement

/-- Where elements are left out, a key finds the element that it found before, unless that one is
left out. -/
theorem find?_filter_key [BEq β] [LawfulBEq β] {key : α → β} (hkeys : (list.map key).Nodup)
    (keep : α → Bool) (wanted : β) :
    ((list.filter keep).find? fun other => key other == wanted) =
      (list.find? fun other => key other == wanted).filter keep := by
  apply Option.ext
  intro element
  have hkept : ((list.filter keep).map key).Nodup := hkeys.sublist (List.filter_sublist.map key)
  rw [find?_key_eq_some_iff hkept, Option.filter_eq_some_iff, find?_key_eq_some_iff hkeys,
    List.mem_filter]
  exact and_right_comm

/-- Of two elements of a list one comes before the other, or they are the same one. -/
theorem concat_prefix_cases {first second : List α} {element other : α}
    (hfirst : first ++ [element] <+: list) (hsecond : second ++ [other] <+: list) :
    first ++ [element] <+: second ∨ second ++ [other] <+: first ∨
      (first = second ∧ element = other) := by
  rcases List.prefix_or_prefix_of_prefix hfirst hsecond with hpart | hpart
  · rcases List.prefix_concat_iff.mp hpart with heq | hbefore
    · exact Or.inr (Or.inr (List.concat_inj.mp (by simpa using heq)))
    · exact Or.inl hbefore
  · rcases List.prefix_concat_iff.mp hpart with heq | hbefore
    · exact Or.inr (Or.inr (List.concat_inj.mp (by simpa using heq.symm)))
    · exact Or.inr (Or.inl hbefore)

/-- Two elements at places of one list are at the same place, or one is behind the other. -/
theorem append_cons_cases {before others after behind : List α} {element other : α}
    (hlist : before ++ element :: after = others ++ other :: behind) :
    (before = others ∧ element = other ∧ after = behind) ∨
      (∃ between, others = before ++ element :: between ∧ after = between ++ other :: behind) ∨
      ∃ between, before = others ++ other :: between ∧ behind = between ++ element :: after := by
  rcases List.append_eq_append_iff.mp hlist with ⟨more, hothers, hrest⟩ | ⟨more, hbefore, hrest⟩
  · cases more with
    | nil =>
        obtain ⟨rfl, rfl⟩ := List.cons.inj hrest
        exact Or.inl ⟨(hothers.trans (List.append_nil before)).symm, rfl, rfl⟩
    | cons first between =>
        obtain ⟨rfl, hafter⟩ := List.cons.inj hrest
        exact Or.inr (Or.inl ⟨between, hothers, hafter⟩)
  · cases more with
    | nil =>
        obtain ⟨rfl, rfl⟩ := List.cons.inj hrest
        exact Or.inl ⟨hbefore.trans (List.append_nil others), rfl, rfl⟩
    | cons first between =>
        obtain ⟨rfl, hbehind⟩ := List.cons.inj hrest
        exact Or.inr (Or.inr ⟨between, hbefore, hbehind⟩)

/-- An element of a list with one more at its end is that one, or it was there before. -/
theorem concat_eq_append_cons {before after : List α} {last element : α}
    (hlist : list ++ [last] = before ++ element :: after) :
    (after = [] ∧ list = before ∧ last = element) ∨
      ∃ between, after = between ++ [last] ∧ list = before ++ element :: between := by
  rcases List.eq_nil_or_concat' after with rfl | ⟨between, final, rfl⟩
  · obtain ⟨hbefore, hlast⟩ := List.append_inj' hlist rfl
    exact Or.inl ⟨rfl, hbefore, List.singleton_inj.mp hlast⟩
  · rw [← List.cons_append, ← List.append_assoc] at hlist
    obtain ⟨hbefore, hlast⟩ := List.append_inj' hlist rfl
    rw [List.singleton_inj.mp hlast]
    exact Or.inr ⟨between, rfl, hbefore⟩

end Muster.Parts
