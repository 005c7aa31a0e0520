import Mathlib.Data.List.Nodup
import Mathlib.Tactic.SplitIfs
import Muster.Keyed

/-!
# Keyed lists

What stands under one key is changed, and what stands under the others is not.  A list that has no
key twice has none twice afterwards.
-/

namespace Muster.Keyed

variable {κ α : Type} [DecidableEq κ] {key other : κ} {change : Option α → α}

/-- Looking up the key finds what the change made of its value, and any other key what it found
before. -/
theorem find?_alter [BEq κ] [LawfulBEq κ] (key other : κ) (change : Option α → α)
    (entries : List (κ × α)) :
    (alter key change entries).find? (fun entry => entry.1 == other) =
      if other = key then
        some (key, change ((entries.find? fun entry => entry.1 == other).map (·.2)))
      else entries.find? fun entry => entry.1 == other := by
  induction entries with
  | nil =>
      rw [alter]
      split_ifs with hother
      · simp [hother]
      · simp [Ne.symm hother]
  | cons entry rest ih =>
      rw [alter]
      split_ifs with hentry hother hother
      · simp [hentry, hother]
      · have hfirst : key ≠ other := Ne.symm hother
        rw [List.find?_cons_of_neg (by simpa using hfirst),
          List.find?_cons_of_neg (by simpa [hentry] using hfirst)]
      · rw [List.find?_cons_of_neg (by simpa [hother] using hentry), ih, if_pos hother,
          List.find?_cons_of_neg (by simpa [hother] using hentry)]
      · rw [List.find?_cons, List.find?_cons, ih, if_neg hother]

theorem mem_alter {entry : κ × α} {entries : List (κ × α)}
    (hentry : entry ∈ alter key change entries) :
    (∃ known, entry = (key, change known)) ∨ entry ∈ entries := by
  induction entries with
  | nil => exact Or.inl ⟨none, List.mem_singleton.mp hentry⟩
  | cons first rest ih =>
      rw [alter] at hentry
      split_ifs at hentry
      · rcases List.mem_cons.mp hentry with hnew | hrest
        · exact Or.inl ⟨_, hnew⟩
        · exact Or.inr (List.mem_cons_of_mem first hrest)
      · rcases List.mem_cons.mp hentry with rfl | hrest
        · exact Or.inr List.mem_cons_self
        · exact (ih hrest).imp_right (List.mem_cons_of_mem first)

theorem mem_keys_alter (entries : List (κ × α)) :
    other ∈ (alter key change entries).map (·.1) ↔ other = key ∨ other ∈ entries.map (·.1) := by
  induction entries with
  | nil => simp [alter]
  | cons entry rest ih =>
      rw [alter]
      split_ifs with hentry
      · simp [← hentry]
      · rw [List.map_cons, List.mem_cons, ih, List.map_cons, List.mem_cons]
        exact or_left_comm

theorem nodup_keys_alter {entries : List (κ × α)} (hentries : (entries.map (·.1)).Nodup)
    (key : κ) (change : Option α → α) : ((alter key change entries).map (·.1)).Nodup := by
  induction entries with
  | nil => exact List.nodup_singleton key
  | cons entry rest ih =>
      obtain ⟨hfirst, hrest⟩ := List.nodup_cons.mp hentries
      rw [alter]
      split_ifs with hentry
      · rw [List.map_cons, List.nodup_cons, ← hentry]
        exact ⟨hfirst, hrest⟩
      · rw [List.map_cons, List.nodup_cons, mem_keys_alter, not_or]
        exact ⟨⟨hentry, hfirst⟩, ih hrest⟩

end Muster.Keyed
