import Muster.Proofs.Match.Bookkeeping
import Muster.Proofs.Matchmaker.Roll

/-!
# Handing groups over

The second half of a tick moves players from the pool to queues, and those whom a queue refuses
back.  It works on the pool as it is now, from groups that were made of the pool as it was: a player
of a group who is no longer in the pool is not handed over.
-/

namespace Muster.Matchmaker

variable {matchmaker : Matchmaker} {player : PlayerId} {now : Nat}

/-! ## Taking a group out of the pool -/

def present (matchmaker : Matchmaker) (players : List PlayerId) : List Searcher :=
  players.filterMap matchmaker.searcher?

theorem ids_present (matchmaker : Matchmaker) (players : List PlayerId) :
    (matchmaker.present players).map (·.id) = players.filter matchmaker.isSearching := by
  induction players with
  | nil => rfl
  | cons player rest ih =>
      rw [present] at ih
      cases hsearcher : matchmaker.searcher? player with
      | none => simp [present, isSearching, hsearcher, ih]
      | some searcher =>
          simp [present, isSearching, hsearcher, ih, (searcher?_eq_some hsearcher).2]

/-- Taking players out one by one is taking all of them out at once. -/
theorem foldl_removeSearcher (matchmaker : Matchmaker) (players : List PlayerId) :
    players.foldl removeSearcher matchmaker =
      { matchmaker with
        pool := matchmaker.pool.filter fun searcher => !players.contains searcher.id } := by
  induction players generalizing matchmaker with
  | nil => simp
  | cons player rest ih =>
      rw [List.foldl_cons, ih, removeSearcher]
      simp only [List.filter_filter, List.contains_cons, Bool.not_or]
      congr 2
      funext searcher
      exact Bool.and_comm _ _

theorem registry_foldl_removeSearcher (matchmaker : Matchmaker) (players : List PlayerId) :
    (players.foldl removeSearcher matchmaker).registry = matchmaker.registry := by
  rw [foldl_removeSearcher]

/-- Those who are taken out of the pool and those who stay are no more than were in the pool. -/
theorem roll_foldl_removeSearcher {players : List PlayerId} (hplayers : players.Nodup)
    (hpool : ∀ player ∈ players, matchmaker.isSearching player) :
    (players ++ (players.foldl removeSearcher matchmaker).roll).Subperm matchmaker.roll := by
  let isTaken (searcher : Searcher) : Bool := players.contains searcher.id
  have htaken : players.Subperm ((matchmaker.pool.filter isTaken).map (·.id)) := by
    apply hplayers.subperm
    intro player hplayer
    obtain ⟨searcher, hsearcher, rfl⟩ :=
      List.mem_map.mp (isSearching_iff.mp (hpool player hplayer))
    apply List.mem_map_of_mem
    exact List.mem_filter.mpr ⟨hsearcher, List.contains_iff_mem.mpr hplayer⟩
  have hsplit : ((matchmaker.pool.filter isTaken).map (·.id) ++
      (matchmaker.pool.filter fun searcher => !isTaken searcher).map (·.id)).Perm
        (matchmaker.pool.map (·.id)) := by
    rw [← List.map_append]
    exact (List.filter_append_perm isTaken matchmaker.pool).map _
  rw [foldl_removeSearcher, roll, roll, ← List.append_assoc]
  exact ((htaken.append (List.Subperm.refl _)).trans hsplit.subperm).append (List.Subperm.refl _)

/-! ## Handing over -/

theorem moves_handOver (hkeyed : matchmaker.registry.IsKeyed) (server : Endpoint)
    (group : List PlayerId) (searcher : Searcher) (now : Nat) :
    Moves [searcher.id] matchmaker (matchmaker.handOver server group searcher now).1 := by
  rw [handOver]
  cases henqueue : matchmaker.enqueue server searcher.id now with
  | ok outcome =>
      obtain ⟨next, effects⟩ := outcome
      exact moves_enqueue hkeyed henqueue
  | error error => exact moves_addSearcher hkeyed searcher

theorem moves_handOverAll (hkeyed : matchmaker.registry.IsKeyed) (server : Endpoint)
    (group : List PlayerId) (now : Nat) (searchers : List Searcher) :
    Moves (searchers.map (·.id)) matchmaker
      (handOverAll server group now searchers matchmaker).1 := by
  induction searchers generalizing matchmaker with
  | nil => exact Moves.refl hkeyed
  | cons searcher rest ih =>
      have hfirst := moves_handOver hkeyed server group searcher now
      exact hfirst.trans (ih hfirst.isKeyed)

theorem moves_commitGroup (hkeyed : matchmaker.registry.IsKeyed) {candidate : Candidate}
    (hplayers : candidate.players.Nodup) (now : Nat) :
    Moves [] matchmaker (matchmaker.commitGroup candidate now).1 := by
  simp only [commitGroup]
  split_ifs
  · exact Moves.refl hkeyed
  · let group := candidate.players.filter matchmaker.isSearching
    have hids : (candidate.players.filterMap matchmaker.searcher?).map (·.id) = group :=
      ids_present matchmaker candidate.players
    rw [hids]
    have hwithout : (group ++ (group.foldl removeSearcher matchmaker).roll).Subperm
        matchmaker.roll := by
      apply roll_foldl_removeSearcher (hplayers.filter matchmaker.isSearching)
      intro player hplayer
      exact List.of_mem_filter hplayer
    have hkeyed' : (group.foldl removeSearcher matchmaker).registry.IsKeyed := by
      rw [registry_foldl_removeSearcher]
      exact hkeyed
    have hmoves := moves_handOverAll hkeyed' candidate.server group now
      (candidate.players.filterMap matchmaker.searcher?)
    rw [hids] at hmoves
    exact ⟨hmoves.isKeyed, hmoves.roll_subperm.trans hwithout⟩

/-- A commitment moves players from the pool to queues, and nobody to a second place. -/
theorem moves_commit (hkeyed : matchmaker.registry.IsKeyed) {candidates : List Candidate}
    (hplayers : ∀ candidate ∈ candidates, candidate.players.Nodup) (now : Nat) :
    Moves [] matchmaker (commit now candidates matchmaker).1 := by
  induction candidates generalizing matchmaker with
  | nil => exact Moves.refl hkeyed
  | cons candidate rest ih =>
      rw [List.forall_mem_cons] at hplayers
      have hfirst := moves_commitGroup hkeyed hplayers.1 now
      exact hfirst.trans (ih hfirst.isKeyed hplayers.2)

/-! ## Reporting -/

theorem moves_reportTo (hkeyed : matchmaker.registry.IsKeyed) (evaluation : Evaluation)
    (player : PlayerId) : Moves [] matchmaker (matchmaker.reportTo evaluation player).1 := by
  rw [reportTo]
  cases matchmaker.searcher? player with
  | none => exact Moves.refl hkeyed
  | some searcher => exact moves_modifySearcher hkeyed player _ fun _ => rfl

theorem moves_report (hkeyed : matchmaker.registry.IsKeyed) (evaluation : Evaluation)
    (players : List PlayerId) : Moves [] matchmaker (report evaluation players matchmaker).1 := by
  induction players generalizing matchmaker with
  | nil => exact Moves.refl hkeyed
  | cons player rest ih =>
      have hfirst := moves_reportTo hkeyed evaluation player
      exact hfirst.trans (ih hfirst.isKeyed)

/-- The second half of a tick gives nobody a second place, whatever has become of the players of
the snapshot and of the servers. -/
theorem moves_finishTick (hkeyed : matchmaker.registry.IsKeyed) {snapshot : List Searcher}
    (hsnapshot : (snapshot.map (·.id)).Nodup) (views : List ServerView) (now : Nat) :
    Moves [] matchmaker (matchmaker.finishTick snapshot views now).1 := by
  have hplayers := Evaluation.nodup_players_matched hsnapshot views now
  have hcommit := moves_commit hkeyed hplayers now
  exact hcommit.trans (moves_report hcommit.isKeyed _ _)

end Muster.Matchmaker
