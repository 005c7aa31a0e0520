import Mathlib.Data.Fintype.Fin
import Muster.Proofs.Match.Groups

/-!
# The greatest group is the front one

The search for a group looks at front parts of the wanted numbers alone, stops at the first number
that can never be reached, and takes the sum of joined players and slots no further than the largest
count.  None of this loses a larger group.  Of the front parts it finds the greatest, with all sums
taken exactly; and where the numbers ascend, no choice of candidates from anywhere in the list is
greater.  A choice names places in the list, so candidates who want the same number differ.
-/

namespace Muster.Group

variable {joined available : Count} {thresholds : List Count} {size : Nat}

def highest (wanted : List Count) : Nat :=
  (wanted.map (·.toNat)).foldr max 0

theorem highest_le_iff {wanted : List Count} {bound : Nat} :
    highest wanted ≤ bound ↔ ∀ threshold ∈ wanted, threshold.toNat ≤ bound := by
  induction wanted with
  | nil => simp [highest]
  | cons threshold rest ih =>
      rw [highest] at ih
      rw [highest, List.map_cons, List.foldr_cons, Nat.max_le, ih, List.forall_mem_cons]

theorem isViable_iff : IsViable thresholds joined available size ↔
    size ≤ available.toNat ∧ size ≤ thresholds.length ∧
      highest (thresholds.take size) ≤ joined.toNat + size := by
  rw [IsViable, IsReached, highest_le_iff]
  exact and_left_comm

/-! ## Choices -/

/-- The candidates at these places fit the slots, and with the players who have joined they are as
many as each of them wants. -/
structure Suffices (thresholds : List Count) (joined available : Count)
    (chosen : Finset (Fin thresholds.length)) : Prop where
  room : chosen.card ≤ available.toNat
  reached : ∀ place ∈ chosen, thresholds[place].toNat ≤ joined.toNat + chosen.card

def front (thresholds : List Count) (size : Nat) : Finset (Fin thresholds.length) :=
  {place | place < size}

theorem card_front (hsize : size ≤ thresholds.length) : (front thresholds size).card = size := by
  rw [front, Fin.card_filter_val_lt, Nat.min_eq_right hsize]

theorem suffices_front (hviable : IsViable thresholds joined available size) :
    Suffices thresholds joined available (front thresholds size) := by
  obtain ⟨hlength, hslots, hreached⟩ := hviable
  constructor
  · rwa [card_front hlength]
  · intro place hplace
    rw [card_front hlength]
    apply hreached
    rw [front, Finset.mem_filter] at hplace
    have hplace : place < min size thresholds.length := Nat.lt_min.mpr ⟨hplace.2, place.isLt⟩
    exact List.mem_take_iff_getElem.mpr ⟨place, hplace, rfl⟩

/-- What the chosen candidates want is part of what all want. -/
theorem chosen_subperm (chosen : Finset (Fin thresholds.length)) :
    (chosen.toList.map fun place => thresholds[place]).Subperm thresholds := by
  have hplaces : chosen.toList.Subperm (List.finRange thresholds.length) :=
    chosen.nodup_toList.subperm fun place _ => List.mem_finRange place
  have hwanted := Parts.map (fun place => thresholds[place]) hplaces
  have hall : ((List.finRange thresholds.length).map fun place => thresholds[place]) = thresholds :=
    List.map_getElem_finRange thresholds
  rwa [hall] at hwanted

/-- Where the numbers ascend, the front part that is found is as large as any choice. -/
theorem Suffices.card_le_largest {chosen : Finset (Fin thresholds.length)}
    (hsuffices : Suffices thresholds joined available chosen)
    (hsorted : thresholds.Pairwise fun left right => left ≤ right) :
    chosen.card ≤ largest thresholds joined available := by
  have hlength : (chosen.toList.map fun place => thresholds[place]).length = chosen.card := by
    rw [List.length_map, Finset.length_toList]
  rw [← hlength]
  apply length_le_largest hsorted (chosen_subperm chosen)
  · rw [hlength]
    exact hsuffices.room
  · intro threshold hthreshold
    obtain ⟨place, hplace, rfl⟩ := List.mem_map.mp hthreshold
    rw [hlength]
    exact hsuffices.reached place (Finset.mem_toList.mp hplace)

/-- The size that is found is the greatest of the front parts that fit the slots and reach their
highest number, zero if no other does.  Where the numbers ascend, it is also the greatest size of
all choices of candidates who do for the slots and for each other. -/
theorem largest_isOptimal (thresholds : List Count) (joined available : Count) :
    IsGreatest {size | size ≤ available.toNat ∧ size ≤ thresholds.length ∧
        highest (thresholds.take size) ≤ joined.toNat + size}
      (largest thresholds joined available) ∧
    (thresholds.Pairwise (fun left right => left ≤ right) →
      IsGreatest {size | ∃ chosen, Suffices thresholds joined available chosen ∧
          chosen.card = size}
        (largest thresholds joined available)) := by
  have hgreatest := isGreatest_largest thresholds joined available
  constructor
  · simpa only [isViable_iff] using hgreatest
  · intro hsorted
    constructor
    · exact ⟨front thresholds _, suffices_front hgreatest.1, card_front hgreatest.1.1⟩
    · rintro size ⟨chosen, hsuffices, rfl⟩
      exact hsuffices.card_le_largest hsorted

/-- Three who want to be three, none of whom would do alone or with one other, are found in front of
one who wants more than there can be. -/
theorem largest_isOptimal_threeOfFour :
    ([3, 3, 3, 12] : List Count).Pairwise (fun left right => left ≤ right) ∧
    largest [3, 3, 3, 12] 0 10 = 3 ∧
    (∀ chosen, Suffices [3, 3, 3, 12] 0 10 chosen → chosen.card ≤ 3) ∧
    ∃ chosen, Suffices [3, 3, 3, 12] 0 10 chosen ∧ chosen.card = 3 := by
  have hsorted : ([3, 3, 3, 12] : List Count).Pairwise fun left right => left ≤ right := by decide
  have hgreatest := (largest_isOptimal [3, 3, 3, 12] 0 10).2 hsorted
  exact ⟨hsorted, rfl, fun chosen hsuffices => hgreatest.2 ⟨chosen, hsuffices, rfl⟩, hgreatest.1⟩

end Muster.Group
