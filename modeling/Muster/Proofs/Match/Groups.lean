import Mathlib.Data.List.Count
import Mathlib.Order.Bounds.Basic
import Muster.Match.Group
import Muster.Proofs.Order
import Muster.Proofs.Parts

/-!
# Greatest groups

The search for the largest front part of the wanted numbers finds the greatest one that fits the
slots and reaches its own highest number.  Where the numbers ascend, no other part of them that
fits and reaches its numbers is larger, so nothing is lost by looking at front parts alone.
-/

namespace Muster.Group

variable {joined available : Count} {thresholds : List Count}

/-- The players of the front part of that size want no more players than it brings about. -/
def IsReached (thresholds : List Count) (joined : Count) (size : Nat) : Prop :=
  ∀ threshold ∈ thresholds.take size, threshold.toNat ≤ joined.toNat + size

/-- A front part of that size exists, fits the slots and is reached. -/
def IsViable (thresholds : List Count) (joined available : Count) (size : Nat) : Prop :=
  size ≤ thresholds.length ∧ size ≤ available.toNat ∧ IsReached thresholds joined size

theorem isViable_zero : IsViable thresholds joined available 0 := by
  refine ⟨Nat.zero_le _, Nat.zero_le _, ?_⟩
  intro threshold hthreshold
  simp at hthreshold

/-- Whoever stands in the front wants no more players than it brings about. -/
theorem IsViable.front_le {front rest : List Count} {size : Nat}
    (hviable : IsViable (front ++ rest) joined available size) (hsize : front.length ≤ size) :
    ∀ threshold ∈ front, threshold.toNat ≤ joined.toNat + size := by
  intro threshold hthreshold
  apply hviable.2.2
  rw [List.take_append, List.take_of_length_le hsize]
  exact List.mem_append_left _ hthreshold

/-- Where the front wants more players than the slots can ever bring about, no viable size takes in
the whole front. -/
theorem IsViable.lt_length {front rest : List Count} {size : Nat} {wanted : Count}
    (hviable : IsViable (front ++ rest) joined available size) (hwanted : wanted ∈ front)
    (hlacking : joined.toNat + available.toNat < wanted.toNat) : size < front.length := by
  by_contra hsize
  have hreached := hviable.front_le (Nat.le_of_not_lt hsize) wanted hwanted
  have hslots := hviable.2.1
  omega

/-- What the search knows about the front that lies behind it is enough to finish it: `highest`
bounds the same numbers as the front, and `best` is the greatest viable size so far. -/
theorem isGreatest_largestFrom (rest front : List Count) (size highest best : Nat)
    (hsize : size = front.length)
    (hhighest : ∀ bound, highest ≤ bound ↔ ∀ threshold ∈ front, threshold.toNat ≤ bound)
    (hbest : IsGreatest
      {size | size ≤ front.length ∧ IsViable (front ++ rest) joined available size} best) :
    IsGreatest {size | IsViable (front ++ rest) joined available size}
      (largestFrom joined available size highest best rest) := by
  induction rest generalizing front size highest best with
  | nil =>
      refine ⟨hbest.1.2, fun other hother => hbest.2 ⟨?_, hother⟩⟩
      simpa using hother.1
  | cons threshold rest ih =>
      have happend : front ++ threshold :: rest = front ++ [threshold] ++ rest := by simp
      have hlength : (front ++ [threshold]).length = front.length + 1 := by simp
      have hnext : ∀ bound, max highest threshold.toNat ≤ bound ↔
          ∀ wanted ∈ front ++ [threshold], wanted.toNat ≤ bound := by
        intro bound
        simp [hhighest, or_imp, forall_and]
      rw [happend] at hbest ⊢
      have hstop : (∀ other, IsViable (front ++ [threshold] ++ rest) joined available other →
          other ≤ front.length) →
          IsGreatest {size | IsViable (front ++ [threshold] ++ rest) joined available size}
            best := by
        intro hle
        exact ⟨hbest.1.2, fun other hother => hbest.2 ⟨hle other hother, hother⟩⟩
      subst size
      simp only [largestFrom]
      by_cases hfull : available.toNat < front.length + 1
      · rw [if_pos hfull]
        apply hstop
        intro other hother
        have hslots := hother.2.1
        omega
      rw [if_neg hfull]
      by_cases hlimit : (Count.plus joined available).toNat < max highest threshold.toNat
      · rw [if_pos hlimit]
        apply hstop
        intro other hother
        have hlacking := mt (hnext _).mpr (Nat.not_le.mpr hlimit)
        push Not at hlacking
        obtain ⟨wanted, hwanted, hgt⟩ := hlacking
        -- The sum that stops at the largest count is the exact one, for a count is above it.
        have hcount := Count.toNat_le_max wanted
        rw [Count.toNat_plus] at hgt
        have hlt := hother.lt_length hwanted (by omega)
        omega
      rw [if_neg hlimit]
      apply ih _ _ _ _ hlength.symm hnext
      by_cases hreached : max highest threshold.toNat ≤ front.length + 1 + joined.toNat
      · rw [if_pos hreached]
        refine ⟨⟨Nat.le_of_eq hlength.symm, by simp, by omega, ?_⟩, fun other hother => ?_⟩
        · intro wanted hwanted
          rw [List.take_left' hlength] at hwanted
          exact (hnext _).mp (by omega) wanted hwanted
        · exact hlength ▸ hother.1
      · rw [if_neg hreached]
        refine ⟨⟨Nat.le_trans hbest.1.1 (by omega), hbest.1.2⟩,
          fun other hother => hbest.2 ⟨?_, hother.2⟩⟩
        -- The front part that ends with this element is not reached.
        by_contra hgt
        apply hreached
        have hle := hother.1
        have hfront := (hnext _).mpr (hother.2.front_le (by omega))
        omega

/-- The search finds the greatest viable size. -/
theorem isGreatest_largest (thresholds : List Count) (joined available : Count) :
    IsGreatest {size | IsViable thresholds joined available size}
      (largest thresholds joined available) :=
  isGreatest_largestFrom thresholds [] 0 0 0 rfl (by simp)
    ⟨⟨Nat.le_refl _, isViable_zero⟩, fun _ hother => hother.1⟩

/-! ## Parts of ascending numbers -/

/-- Of ascending numbers, those of a front part are not above all numbers of another part that is
as long. -/
theorem exists_toNat_le_of_subperm {wanted : List Count} {threshold : Count}
    (hsorted : thresholds.Pairwise fun left right => left ≤ right)
    (hpart : wanted.Subperm thresholds)
    (hthreshold : threshold ∈ thresholds.take wanted.length) :
    ∃ other ∈ wanted, threshold.toNat ≤ other.toNat := by
  by_contra! hbelow
  let isBelow (other : Count) : Bool := other.toNat < threshold.toNat
  have hwanted : wanted.countP isBelow = wanted.length := by
    rw [List.countP_eq_length]
    intro other hother
    simpa [isBelow] using hbelow other hother
  have hsplit := List.take_append_drop wanted.length thresholds
  have hbehind : (thresholds.drop wanted.length).countP isBelow = 0 := by
    rw [List.countP_eq_zero]
    intro other hother
    rw [← hsplit, List.pairwise_append] at hsorted
    simpa [isBelow, UInt32.le_iff_toNat_le] using hsorted.2.2 threshold hthreshold other hother
  have hfront : (thresholds.take wanted.length).countP isBelow <
      (thresholds.take wanted.length).length :=
    List.countP_lt_length_iff.mpr ⟨threshold, hthreshold, by simp [isBelow]⟩
  have hle := hpart.countP_le isBelow
  rw [← hsplit, List.countP_append, hbehind, hwanted] at hle
  have hlength := List.length_take_le wanted.length thresholds
  omega

/-- Where the numbers ascend, no part of them that fits the slots and is reached is longer than the
front part that is found. -/
theorem length_le_largest {wanted : List Count}
    (hsorted : thresholds.Pairwise fun left right => left ≤ right)
    (hpart : wanted.Subperm thresholds) (hslots : wanted.length ≤ available.toNat)
    (hreached : ∀ threshold ∈ wanted, threshold.toNat ≤ joined.toNat + wanted.length) :
    wanted.length ≤ largest thresholds joined available := by
  apply (isGreatest_largest thresholds joined available).2
  refine ⟨hpart.length_le, hslots, ?_⟩
  intro threshold hthreshold
  obtain ⟨other, hother, hle⟩ := exists_toNat_le_of_subperm hsorted hpart hthreshold
  exact Nat.le_trans hle (hreached other hother)

/-! ## Groups of players -/

variable {players group : List Searcher} {view : ServerView}

/-- The group is no larger than the slots, and with the players on the server it is as large as each
of its players wants. -/
def Fits (group : List Searcher) (view : ServerView) (available : Count) : Prop :=
  group.length ≤ available.toNat ∧
    ∀ player ∈ group, player.minPlayers.toNat ≤ view.realPlayers.toNat + group.length

theorem ordered_perm (players : List Searcher) : (ordered players).Perm players :=
  Order.arrange_perm _ players

/-- Of players who want as many, those who came first in the list still do. -/
theorem pairwise_ordered_ties {tie : Searcher → Searcher → Prop} (hplayers : players.Pairwise tie) :
    (ordered players).Pairwise fun left right =>
      left.minPlayers ≤ right.minPlayers ∧
        (right.minPlayers ≤ left.minPlayers → tie left right) := by
  let before (left right : Searcher) : Bool := left.minPlayers ≤ right.minPlayers
  have htrans : ∀ left middle right, before left middle → before middle right →
      before left right := by
    intro left middle right hleft hright
    simp only [before, decide_eq_true_eq] at hleft hright ⊢
    exact UInt32.le_trans hleft hright
  have htotal : ∀ left right, before left right ∨ before right left := by
    intro left right
    simp only [before, decide_eq_true_eq]
    exact UInt32.le_total left.minPlayers right.minPlayers
  have hties := Order.pairwise_arrange_ties htrans htotal hplayers
  simpa only [ordered, before, decide_eq_true_eq] using hties

theorem pairwise_ordered (players : List Searcher) :
    (ordered players).Pairwise fun left right => left.minPlayers ≤ right.minPlayers := by
  have hany : players.Pairwise fun _ _ => True := List.pairwise_of_forall fun _ _ => trivial
  exact (pairwise_ordered_ties hany).imp And.left

/-- The group that is selected is a front part that fits. -/
theorem fits_of_select? (hselect : select? players view available = some group) :
    group ≠ [] ∧ group.Sublist players ∧ Fits group view available := by
  have hviable :=
    (isGreatest_largest (players.map (·.minPlayers)) view.realPlayers available).1
  simp only [select?] at hselect
  split_ifs at hselect with hsize
  obtain rfl : players.take _ = group := Option.some.inj hselect
  obtain ⟨hlength, hslots, hreached⟩ := hviable
  rw [List.length_map] at hlength
  have htake := List.length_take_of_le hlength
  refine ⟨List.ne_nil_of_length_pos (by omega), List.take_sublist _ _, ?_⟩
  rw [Fits, htake]
  refine ⟨hslots, fun player hplayer => hreached player.minPlayers ?_⟩
  rw [← List.map_take]
  exact List.mem_map_of_mem hplayer

/-- Where no group is selected from players in order, no part of them fits. -/
theorem not_fits_of_select?_eq_none
    (hsorted : players.Pairwise fun left right => left.minPlayers ≤ right.minPlayers)
    (hselect : select? players view available = none) (hnonempty : group ≠ [])
    (hpart : group.Subperm players) : ¬ Fits group view available := by
  rintro ⟨hslots, hreached⟩
  simp only [select?] at hselect
  split_ifs at hselect with hsize
  have hle : (group.map (·.minPlayers)).length ≤
      largest (players.map (·.minPlayers)) view.realPlayers available := by
    apply length_le_largest
    · rwa [List.pairwise_map]
    · exact Parts.map _ hpart
    · rwa [List.length_map]
    · intro threshold hthreshold
      obtain ⟨player, hplayer, rfl⟩ := List.mem_map.mp hthreshold
      rw [List.length_map]
      exact hreached player hplayer
  rw [hsize, List.length_map] at hle
  exact hnonempty (List.eq_nil_of_length_eq_zero (Nat.le_zero.mp hle))

end Muster.Group
