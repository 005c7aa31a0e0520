import Mathlib.Data.Finset.Card
import Muster.Proofs.Match.Safety

/-!
# Maximality of a pass

A pass leaves no players behind who could still have been a group of their own.  The rounds end
where no server has a candidate, the slots that are left then are those that the pass has not given
away, and a server without a candidate has none because no part of the remaining players fits it.
-/

namespace Muster.Evaluation

variable {now : Nat} {players : List Searcher} {servers : List ServerView}
variable {view : ServerView} {matched : List Candidate}

/-- These players are left over by the groups, and together they would do for the slots that the
groups leave on the server. -/
structure IsViableGroup (players : List Searcher) (matched : List Candidate) (view : ServerView)
    (group : Finset Searcher) : Prop where
  nonempty : group.Nonempty
  unmatched : ∀ player ∈ group, player ∈ players ∧ player.id ∉ matchedPlayers matched
  suited : ∀ player ∈ group, player.prefers view.address ∧ player.ineligibility view = []
  room : group.card ≤ view.availableSlots.toNat - committedTo view.address matched
  reached : ∀ player ∈ group, player.minPlayers.toNat ≤ view.realPlayers.toNat + group.card

theorem toNat_availableSlots_booked {pool left : List Searcher} {views : List ServerView}
    (hrounds : Rounds now pool servers matched left views)
    (hservers : (servers.map (·.address)).Nodup) (hview : view ∈ servers) :
    (booked matched view).availableSlots.toNat =
      view.availableSlots.toNat - committedTo view.address matched := by
  rw [ServerView.availableSlots, ServerView.availableSlots, Count.toNat_minus, Count.toNat_minus,
    hrounds.toNat_reservedSlots hservers hview]
  exact (Nat.sub_sub _ _ _).symm

/-- A group that would do would have been committed in a further round. -/
theorem not_isViableGroup_of_isPass (hpass : IsPass now players servers matched)
    (hservers : (servers.map (·.address)).Nodup) (hview : view ∈ servers)
    (group : Finset Searcher) : ¬ IsViableGroup players matched view group := by
  intro hviable
  obtain ⟨pool, left, views, hpool, hrounds, hexhausted⟩ := hpass
  have hslots := toNat_availableSlots_booked hrounds hservers hview
  have hpositive := Finset.card_pos.mpr hviable.nonempty
  have hroom := hviable.room
  -- The last round looked at this server too, for the group needs at least one of its slots.
  have hlast : candidate? left now (booked matched view) = none := by
    apply hexhausted
    rw [withSlots, List.mem_filter, bne_iff_ne, ne_eq, ← UInt32.toNat_inj, hslots]
    refine ⟨(hrounds.views_perm hservers).mem_iff.mpr (List.mem_map_of_mem hview), ?_⟩
    change ¬ _ = 0
    omega
  have hnonempty : group.toList ≠ [] := by
    rw [ne_eq, Finset.toList_eq_nil]
    exact hviable.nonempty.ne_empty
  refine not_fits_of_candidate?_eq_none hlast hnonempty group.nodup_toList ?_ ⟨?_, ?_⟩
  · intro player hplayer
    rw [Finset.mem_toList] at hplayer
    obtain ⟨hknown, hunmatched⟩ := hviable.unmatched player hplayer
    obtain ⟨hprefers, heligible⟩ := hviable.suited player hplayer
    refine ⟨?_, hprefers, ineligibility_eq_nil_iff.mp heligible⟩
    rw [hrounds.left_eq, List.mem_filter]
    exact ⟨hpool.mem_iff.mpr hknown, by simpa using hunmatched⟩
  · rw [Finset.length_toList, hslots]
    exact hroom
  · intro player hplayer
    rw [Finset.length_toList]
    exact hviable.reached player (Finset.mem_toList.mp hplayer)

/-- No server and no players who are left over could still have been matched.  This holds of what
the evaluation returns, and of every pass whose rounds commit any candidate they like and rank the
servers in any way, so it does not depend on how the qualities compare. -/
theorem no_isViableGroup_left (players : List Searcher) (servers : List ServerView) (now : Nat)
    (hservers : (servers.map (·.address)).Nodup) :
    (∀ view ∈ servers, ∀ group,
      ¬ IsViableGroup players (evaluate players servers now).matched view group) ∧
    ∀ matched, IsPass now players servers matched →
      ∀ view ∈ servers, ∀ group, ¬ IsViableGroup players matched view group := by
  have hany : ∀ matched, IsPass now players servers matched →
      ∀ view ∈ servers, ∀ group, ¬ IsViableGroup players matched view group :=
    fun matched hpass view hview group =>
      not_isViableGroup_of_isPass hpass hservers hview group
  exact ⟨hany _ (isPass_evaluate players servers now), hany⟩

theorem no_isViableGroup_left_threeSearchers :
    ([smallServer].map (·.address)).Nodup ∧
    (evaluate threeSearchers [smallServer] 5000).matched.map (·.players) = [[1, 2]] ∧
    ∀ group, ¬ IsViableGroup threeSearchers (evaluate threeSearchers [smallServer] 5000).matched
      smallServer group := by
  have hservers : ([smallServer].map (·.address)).Nodup := by decide
  have hleft := no_isViableGroup_left threeSearchers [smallServer] 5000 hservers
  exact ⟨hservers, by rfl, hleft.1 smallServer List.mem_cons_self⟩

end Muster.Evaluation
