import Muster.Proofs.Matchmaker.Conveyance

/-!
# Committing groups

The groups of an evaluation are committed one after the other.  Where nothing has happened since
the evaluation, all players of a group are still in the pool when its turn comes, for no two groups
share a player.
-/

namespace Muster.Matchmaker

open Effect (noticesFor)
open Evaluation (matchedPlayers committedTo)
open Registry (sentTo)

variable {matchmaker : Matchmaker} {player : PlayerId} {now : Nat} {searcher : Searcher}
  {candidate : Candidate} {candidates : List Candidate}

theorem isSearching_iff_exists :
    matchmaker.isSearching player ↔ ∃ searcher, matchmaker.searcher? player = some searcher := by
  rw [isSearching, Option.isSome_iff_exists]

theorem ids_present_of_isSearching {players : List PlayerId}
    (hsearching : ∀ player ∈ players, matchmaker.isSearching player) :
    (players.filterMap matchmaker.searcher?).map (·.id) = players := by
  have hids := ids_present matchmaker players
  rwa [List.filter_eq_self.mpr hsearching] at hids

theorem commitGroup_committed (hsearching : ∀ player ∈ candidate.players,
    matchmaker.isSearching player) (now : Nat) :
    (matchmaker.commitGroup candidate now).2.1 = candidate := by
  simp only [commitGroup, ids_present_of_isSearching hsearching]
  split_ifs <;> rfl

/-- Taking players out of the pool concerns nobody else and tells nothing. -/
theorem conveys_foldl_removeSearcher (matchmaker : Matchmaker) (players : List PlayerId)
    (now : Nat) :
    Conveys now players (fun _ => 0) matchmaker (players.foldl removeSearcher matchmaker) [] := by
  constructor
  · intro player hplayer
    exact searcher?_foldl_removeSearcher matchmaker hplayer
  · intro player _
    rfl
  · rw [registry_foldl_removeSearcher]
    exact Registry.Admitted.refl matchmaker.registry

/-- Each player of the group is in the queue of its server or in the pool as before. -/
theorem conveys_commitGroup (hconsistent : matchmaker.IsConsistent)
    (hplayers : candidate.players.Nodup)
    (hsearching : ∀ player ∈ candidate.players, matchmaker.isSearching player) (now : Nat) :
    Conveys now candidate.players (sentTo candidate.server candidate.players.length) matchmaker
        (matchmaker.commitGroup candidate now).1 (matchmaker.commitGroup candidate now).2.2 ∧
      (matchmaker.registry.HasTime → ∀ searcher,
        matchmaker.searcher? searcher.id = some searcher → searcher.id ∈ candidate.players →
        Settled now candidate.server candidate.players searcher
          (matchmaker.commitGroup candidate now).1
          (matchmaker.commitGroup candidate now).2.2) := by
  have hids := ids_present_of_isSearching hsearching
  simp only [commitGroup, hids]
  split_ifs with hstays
  · constructor
    · exact (Conveys.refl matchmaker).mono (List.nil_subset _) fun _ => Nat.zero_le _
    · intro _ searcher hsearcher hplayer
      rw [Bool.or_eq_true, List.isEmpty_iff, Option.isNone_iff_eq_none] at hstays
      rcases hstays with hempty | hgone
      · rw [hempty] at hids
        rw [← hids] at hplayer
        exact absurd hplayer List.not_mem_nil
      · exact .stranded hsearcher hgone rfl
  · rw [Bool.or_eq_true, not_or, Bool.not_eq_true, Bool.not_eq_true, Option.isNone_eq_false_iff]
      at hstays
    let without := candidate.players.foldl removeSearcher matchmaker
    have hregistry : without.registry = matchmaker.registry :=
      registry_foldl_removeSearcher matchmaker candidate.players
    have hwithout := conveys_foldl_removeSearcher matchmaker candidate.players now
    have hout : ((candidate.players.filterMap matchmaker.searcher?).map (·.id) ++
        without.roll).Nodup := by
      rw [hids]
      exact Parts.nodup (roll_foldl_removeSearcher hplayers hsearching) hconsistent.nodup_roll
    obtain ⟨hconveys, hsettled⟩ := conveys_handOverAll (hregistry ▸ hconsistent.isKeyed)
      (hregistry ▸ hstays.2) hout candidate.players now
    have hlength : (candidate.players.filterMap matchmaker.searcher?).length =
        candidate.players.length := by
      rw [← List.length_map (·.id), hids]
    rw [hids, hlength] at hconveys
    constructor
    · refine (hwithout.trans hconveys).mono ?_ ?_
      · exact List.append_subset.mpr ⟨List.Subset.refl _, List.Subset.refl _⟩
      · intro address
        exact Nat.le_of_eq (Nat.zero_add _)
    · intro htime searcher hsearcher hplayer
      apply hsettled (hregistry ▸ htime)
      exact List.mem_filterMap.mpr ⟨searcher.id, hplayer, hsearcher⟩

/-- The groups of one evaluation, of which no two share a player. -/
theorem conveys_commit (hconsistent : matchmaker.IsConsistent)
    (hplayers : (matchedPlayers candidates).Nodup)
    (hsearching : ∀ player ∈ matchedPlayers candidates, matchmaker.isSearching player)
    (now : Nat) :
    (commit now candidates matchmaker).2.1 = candidates ∧
      Conveys now (matchedPlayers candidates) (fun address => committedTo address candidates)
        matchmaker (commit now candidates matchmaker).1 (commit now candidates matchmaker).2.2 ∧
      (matchmaker.registry.HasTime → ∀ candidate ∈ candidates, ∀ searcher,
        matchmaker.searcher? searcher.id = some searcher → searcher.id ∈ candidate.players →
        Settled now candidate.server candidate.players searcher
          (commit now candidates matchmaker).1 (commit now candidates matchmaker).2.2) := by
  induction candidates generalizing matchmaker with
  | nil =>
      refine ⟨rfl, Conveys.refl matchmaker, ?_⟩
      intro _ candidate hcandidate
      exact absurd hcandidate List.not_mem_nil
  | cons candidate rest ih =>
      rw [Evaluation.matchedPlayers_cons, List.nodup_append] at hplayers
      obtain ⟨hfirst, hrest, hdisjoint⟩ := hplayers
      rw [Evaluation.matchedPlayers_cons, List.forall_mem_append] at hsearching
      obtain ⟨hconveys, hsettled⟩ := conveys_commitGroup hconsistent hfirst hsearching.1 now
      have hmoves := moves_commitGroup hconsistent.isKeyed hfirst now
      have hnext := hmoves.isConsistent hconsistent.nodup_roll
      let next := (matchmaker.commitGroup candidate now).1
      -- No two groups share a player, so the pool still has those of the other groups.
      have hkept : ∀ player ∈ matchedPlayers rest,
          next.searcher? player = matchmaker.searcher? player := by
        intro player hplayer
        apply hconveys.searcher?_eq
        intro hmember
        exact hdisjoint player hmember player hplayer rfl
      have hsearching' : ∀ player ∈ matchedPlayers rest, next.isSearching player := by
        intro player hplayer
        rw [isSearching, hkept player hplayer]
        exact hsearching.2 player hplayer
      obtain ⟨hcommitted, hconveys', hsettled'⟩ := ih hnext hrest hsearching'
      refine ⟨?_, ?_, ?_⟩
      · simp only [commit, commitGroup_committed hsearching.1]
        exact congrArg _ hcommitted
      · refine (hconveys.trans hconveys').mono (List.Subset.refl _) ?_
        intro address
        rw [Evaluation.committedTo_cons]
        exact Nat.le_refl _
      · intro htime
        have htime' := hconveys.admitted.hasTime htime
        rw [List.forall_mem_cons]
        constructor
        · intro searcher hsearcher hplayer
          apply (hsettled htime searcher hsearcher hplayer).append hconveys' _ htime'
          intro hmember
          exact hdisjoint searcher.id hplayer searcher.id hmember rfl
        · intro other hother searcher hsearcher hplayer
          have hmember := Evaluation.mem_matchedPlayers.mpr ⟨other, hother, hplayer⟩
          have hsearcher' := (hkept searcher.id hmember).trans hsearcher
          apply (hsettled' htime' other hother searcher hsearcher' hplayer).prepend
          apply hconveys.silent
          intro hfirst
          exact hdisjoint searcher.id hfirst searcher.id hmember rfl

end Muster.Matchmaker
