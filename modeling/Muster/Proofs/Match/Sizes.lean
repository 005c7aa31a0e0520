import Mathlib.Algebra.Group.Action.Defs
import Muster.Proofs.Control.Sizes
import Muster.Proofs.Match.Hints

/-!
# How much a pass has to tell

A player gets one hint at most for each server that the player named.  The hostname and the free
slots of a server bound the size of a hint for it, and so of all that a pass tells a player.
-/

namespace Muster

/-- As many bytes suffice for a hint that leads the player to the server: for the longest way to
write an endpoint, the lengths, the quality and four reasons. -/
def Searcher.hintBound (searcher : Searcher) (view : ServerView) : Nat :=
  if searcher.prefers view.address then
    134 + textSize view.hostname + 8 * view.freeSlots.toNat
  else 0

/-- As many bytes suffice for an update with hints for every server that the player named. -/
def Searcher.updateBound (searcher : Searcher) (views : List ServerView) : Nat :=
  20 + (views.map searcher.hintBound).sum

theorem Searcher.hintBound_le_updateBound (searcher : Searcher) {view : ServerView}
    {views : List ServerView} (hview : view ∈ views) :
    searcher.hintBound view ≤ searcher.updateBound views := by
  have hpart := List.le_sum_of_mem (List.mem_map_of_mem (f := searcher.hintBound) hview)
  rw [updateBound]
  omega

theorem Searcher.length_ineligibility_le (searcher : Searcher) (view : ServerView) :
    (searcher.ineligibility view).length ≤ 4 := by
  have hwaiting : (searcher.waiting? view).toList.length ≤ 1 := Option.length_toList_le
  have hscore : (searcher.scoreTooHigh? view).toList.length ≤ 1 := Option.length_toList_le
  have hplayers : (searcher.tooManyPlayers? view).toList.length ≤ 1 := Option.length_toList_le
  rw [ineligibility]
  split
  · simp
  · rename_i ping _
    have hping : (searcher.pingTooHigh? ping).toList.length ≤ 1 := Option.length_toList_le
    simp only [List.length_append]
    omega

theorem Searcher.sum_size_ineligibility_le (searcher : Searcher) (view : ServerView) :
    ((searcher.ineligibility view).map Ineligibility.size).sum ≤ 80 := by
  have hlength := searcher.length_ineligibility_le view
  have hsum := List.sum_le_card_nsmul ((searcher.ineligibility view).map Ineligibility.size) 20
    (List.forall_mem_map.mpr fun reason _ => reason.size_le)
  rw [List.length_map, smul_eq_mul] at hsum
  omega

theorem Hint.IsFor.size_le {hint : Hint} {searcher : Searcher} {view : ServerView}
    (hfor : hint.IsFor searcher view) : hint.possible.size ≤ searcher.hintBound view := by
  have hserver := hint.possible.server.size_le
  have hplayers := hfor.length_le
  have hreasons := searcher.sum_size_ineligibility_le view
  rw [PossibleMatch.size, Searcher.hintBound, if_pos hfor.prefers, hfor.hostname, hfor.blockedBy]
  omega

namespace Evaluation

variable {now : Nat} {pool players : List Searcher} {servers views : List ServerView}
variable {searcher : Searcher}

/-- The bytes that the hints for a player take. -/
def sizeFor (player : PlayerId) (hints : List Hint) : Nat :=
  ((hints.filter fun hint => hint.player == player).map fun hint => hint.possible.size).sum

theorem sizeFor_append (player : PlayerId) (hints others : List Hint) :
    sizeFor player (hints ++ others) = sizeFor player hints + sizeFor player others := by
  rw [sizeFor, List.filter_append, List.map_append, List.sum_append, sizeFor, sizeFor]

/-- The hints of one server for a player keep to the bound on one hint, of which there is no
second. -/
theorem sizeFor_serverHints_le (hpool : (pool.map (·.id)).Nodup)
    (hown : ∀ other ∈ pool, other.id = searcher.id → other = searcher) (now : Nat)
    (view : ServerView) :
    sizeFor searcher.id (serverHints pool now view) ≤ searcher.hintBound view := by
  have hfor : ∀ hint ∈ (serverHints pool now view).filter fun hint => hint.player == searcher.id,
      hint.IsFor searcher view := by
    intro hint hhint
    obtain ⟨hlisted, hplayer⟩ := List.mem_filter.mp hhint
    obtain ⟨player, hblocked, hsome⟩ := mem_serverHints.mp hlisted
    obtain ⟨hmember, hprefers, -⟩ := mem_blocked.mp hblocked
    have hhintFor := isFor_of_hint? hprefers hsome
    obtain rfl := hown player hmember (hhintFor.recipient.symm.trans (beq_iff_eq.mp hplayer))
    exact hhintFor
  have hnodup : (((serverHints pool now view).filter fun hint =>
      hint.player == searcher.id).map (·.player)).Nodup :=
    (nodup_players_serverHints hpool now view).sublist (List.filter_sublist.map _)
  rw [sizeFor]
  generalize (serverHints pool now view).filter (fun hint => hint.player == searcher.id) = hints
    at hfor hnodup ⊢
  -- A second hint would repeat the player among those whom the server's hints are for.
  match hints with
  | [] => exact Nat.zero_le _
  | [hint] => exact (hfor hint List.mem_cons_self).size_le
  | first :: second :: _ =>
      have hsame : first.player = second.player :=
        (hfor first (by simp)).recipient.trans (hfor second (by simp)).recipient.symm
      simp [hsame] at hnodup

theorem sizeFor_flatMap_serverHints_le (hpool : (pool.map (·.id)).Nodup)
    (hown : ∀ other ∈ pool, other.id = searcher.id → other = searcher) (now : Nat)
    (views : List ServerView) :
    sizeFor searcher.id (views.flatMap (serverHints pool now)) ≤
      (views.map searcher.hintBound).sum := by
  induction views with
  | nil => exact Nat.le_refl _
  | cons view rest ih =>
      rw [List.flatMap_cons, sizeFor_append, List.map_cons, List.sum_cons]
      exact Nat.add_le_add (sizeFor_serverHints_le hpool hown now view) ih

/-- The bound does not depend on reserved slots. -/
theorem sum_hintBound_eq_of_perm (searcher : Searcher)
    (hperm : (views.map ServerView.unreserved).Perm (servers.map ServerView.unreserved)) :
    (views.map searcher.hintBound).sum = (servers.map searcher.hintBound).sum := by
  have hbound : searcher.hintBound ∘ ServerView.unreserved = searcher.hintBound := rfl
  rw [← hbound, ← List.map_map, ← List.map_map]
  exact (hperm.map searcher.hintBound).sum_eq

/-- What a pass tells a player about possible matches is bounded by what it knows about the servers
that the player named. -/
theorem size_searchUpdate_le (hplayers : (players.map (·.id)).Nodup)
    (hsearcher : searcher ∈ players) (servers : List ServerView) (now : Nat) (attempts : UInt32) :
    (ClientEvent.searchUpdate attempts ((evaluate players servers now).hintsFor searcher.id)).size ≤
      searcher.updateBound servers := by
  obtain ⟨left, views, hrounds, -, hhints⟩ := exists_rounds_evaluate players servers now
  have hleft : left.Subperm players := by
    rw [hrounds.left_eq]
    exact List.filter_sublist.subperm.trans (arrange_waitedLonger_perm players).subperm
  have hpool : (left.map (·.id)).Nodup := Parts.nodup (Parts.map (·.id) hleft) hplayers
  have hown : ∀ other ∈ left, other.id = searcher.id → other = searcher := fun other hother =>
    List.inj_on_of_nodup_map hplayers (hleft.subset hother) hsearcher
  -- The hints are those of the last round, whose views differ from the given ones in slots only.
  have hsize : sizeFor searcher.id (roundHints left now (ranked views)) ≤
      (servers.map searcher.hintBound).sum := by
    calc sizeFor searcher.id (roundHints left now (ranked views))
        ≤ ((withSlots (ranked views)).map searcher.hintBound).sum :=
          sizeFor_flatMap_serverHints_le hpool hown now _
      _ ≤ ((ranked views).map searcher.hintBound).sum :=
          (List.filter_sublist.map _).sum_le_sum fun _ _ => Nat.zero_le _
      _ = (servers.map searcher.hintBound).sum :=
          sum_hintBound_eq_of_perm searcher
            (((ranked_perm views).map _).trans hrounds.unreserved_perm)
  rw [ClientEvent.size, hintsFor, hhints, List.map_map, Searcher.updateBound]
  exact Nat.add_le_add_left hsize 20

end Evaluation

end Muster
