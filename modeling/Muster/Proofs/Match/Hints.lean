import Muster.Proofs.Match.Bookkeeping

/-!
# What a pass names

Groups and hints name servers that were given to the pass, and no more players than such a server
has free slots.  The slots that a pass reserves on its way change nothing else about a server.
-/

namespace Muster

namespace ServerView

def unreserved (view : ServerView) : ServerView :=
  { view with reservedSlots := 0 }

/-- The servers differ in their reserved slots at most. -/
def IsLike (view other : ServerView) : Prop :=
  view.unreserved = other.unreserved

variable {view other : ServerView}

theorem IsLike.address (hlike : view.IsLike other) : view.address = other.address :=
  congrArg (fun view => view.address) hlike

theorem IsLike.hostname (hlike : view.IsLike other) : view.hostname = other.hostname :=
  congrArg (fun view => view.hostname) hlike

theorem IsLike.freeSlots (hlike : view.IsLike other) : view.freeSlots = other.freeSlots :=
  congrArg (fun view => view.freeSlots) hlike

/-- What keeps a player off a server does not depend on reserved slots. -/
theorem IsLike.ineligibility (hlike : view.IsLike other) (player : Searcher) :
    player.ineligibility view = player.ineligibility other := by
  change player.ineligibility view.unreserved = player.ineligibility other.unreserved
  rw [show view.unreserved = other.unreserved from hlike]

theorem toNat_availableSlots_le (view : ServerView) :
    view.availableSlots.toNat ≤ view.freeSlots.toNat := by
  rw [availableSlots, Count.toNat_minus]
  exact Nat.sub_le _ _

end ServerView

/-- A group for this server that its free slots hold. -/
structure Candidate.IsFor (candidate : Candidate) (view : ServerView) : Prop where
  server : candidate.server = view.address
  length_le : candidate.players.length ≤ view.freeSlots.toNat

/-- A hint for this player, who named this server, about a group that its free slots hold. -/
structure Hint.IsFor (hint : Hint) (player : Searcher) (view : ServerView) : Prop where
  recipient : hint.player = player.id
  prefers : player.prefers view.address
  server : hint.possible.server = view.address
  hostname : hint.possible.hostname = view.hostname
  length_le : hint.possible.players.length ≤ view.freeSlots.toNat
  blockedBy : hint.possible.blockedBy = player.ineligibility view

variable {view other : ServerView}

theorem Candidate.IsFor.congr {candidate : Candidate} (hfor : candidate.IsFor view)
    (hlike : view.IsLike other) : candidate.IsFor other :=
  ⟨hfor.server.trans hlike.address, hlike.freeSlots ▸ hfor.length_le⟩

theorem Hint.IsFor.congr {hint : Hint} {player : Searcher} (hfor : hint.IsFor player view)
    (hlike : view.IsLike other) : hint.IsFor player other where
  recipient := hfor.recipient
  prefers := hlike.address ▸ hfor.prefers
  server := hfor.server.trans hlike.address
  hostname := hfor.hostname.trans hlike.hostname
  length_le := hlike.freeSlots ▸ hfor.length_le
  blockedBy := hfor.blockedBy.trans (hlike.ineligibility player)

namespace Evaluation

variable {now : Nat} {pool left : List Searcher} {servers views : List ServerView}
variable {candidate : Candidate} {matched : List Candidate} {hint : Hint}

/-- Reservation changes nothing but reserved slots. -/
theorem unreserved_reserve (address : Endpoint) (count : Nat) (servers : List ServerView) :
    (reserve address count servers).map ServerView.unreserved =
      servers.map ServerView.unreserved := by
  induction servers with
  | nil => rfl
  | cons view rest ih =>
      rw [reserve]
      split_ifs
      · rfl
      · rw [List.map_cons, List.map_cons, ih]

/-- Apart from their order and from reserved slots, servers stay as they were. -/
theorem Rounds.unreserved_perm (hrounds : Rounds now pool servers matched left views) :
    (views.map ServerView.unreserved).Perm (servers.map ServerView.unreserved) := by
  induction hrounds with
  | done => exact List.Perm.refl _
  | commit harranged _ _ _ ih =>
      rw [unreserved_reserve] at ih
      exact ih.trans (harranged.map _)

theorem exists_isLike_of_perm
    (hperm : (views.map ServerView.unreserved).Perm (servers.map ServerView.unreserved))
    (hview : view ∈ views) : ∃ original ∈ servers, view.IsLike original := by
  obtain ⟨original, horiginal, hlike⟩ :=
    List.mem_map.mp (hperm.mem_iff.mp (List.mem_map_of_mem hview))
  exact ⟨original, horiginal, hlike.symm⟩

/-! ## Groups -/

theorem isFor_of_candidate? (hcandidate : candidate? pool now view = some candidate) :
    candidate.IsFor view ∧ ∃ player ∈ pool, player.prefers view.address := by
  obtain ⟨hserver, group, hplayers, hnonempty, hpart, hsuited, hfits⟩ :=
    exists_group_of_candidate? hcandidate
  obtain ⟨player, hplayer⟩ := List.exists_mem_of_ne_nil group hnonempty
  refine ⟨⟨hserver, ?_⟩, player, hpart.subset hplayer, (hsuited player hplayer).1⟩
  rw [hplayers, List.length_map]
  exact hfits.1.trans view.toNat_availableSlots_le

/-- Each round commits a group for a server that somebody named. -/
theorem Rounds.exists_isFor (hrounds : Rounds now pool servers matched left views)
    (hcandidate : candidate ∈ matched) :
    ∃ view ∈ servers, candidate.IsFor view ∧ ∃ player ∈ pool, player.prefers view.address := by
  induction hrounds with
  | done => exact absurd hcandidate List.not_mem_nil
  | @commit pool left servers arranged views chosen first matched harranged hchosen hfirst _ ih =>
      have hperm : ((reserve first.server first.players.length arranged).map
          ServerView.unreserved).Perm (servers.map ServerView.unreserved) := by
        rw [unreserved_reserve]
        exact harranged.map ServerView.unreserved
      rcases List.mem_cons.mp hcandidate with rfl | hlater
      · exact ⟨_, harranged.mem_iff.mp (List.mem_of_mem_filter hchosen),
          isFor_of_candidate? hfirst⟩
      · obtain ⟨view, hview, hfor, player, hplayer, hprefers⟩ := ih hlater
        obtain ⟨original, horiginal, hlike⟩ := exists_isLike_of_perm hperm hview
        exact ⟨original, horiginal, hfor.congr hlike, player, List.mem_of_mem_filter hplayer,
          hlike.address ▸ hprefers⟩

/-- Each group of a pass is for one of the servers that players named. -/
theorem exists_isFor_of_mem_matched {players : List Searcher}
    (hcandidate : candidate ∈ (evaluate players servers now).matched) :
    ∃ view ∈ servers, candidate.IsFor view ∧
      ∃ player ∈ players, player.prefers view.address := by
  obtain ⟨left, views, hrounds, -, -⟩ := exists_rounds_evaluate players servers now
  obtain ⟨view, hview, hfor, player, hplayer, hprefers⟩ := hrounds.exists_isFor hcandidate
  exact ⟨view, hview, hfor, player, (arrange_waitedLonger_perm players).mem_iff.mp hplayer,
    hprefers⟩

/-! ## Hints -/

theorem mem_blocked {player : Searcher} :
    player ∈ blocked pool view ↔
      player ∈ pool ∧ player.prefers view.address ∧ ¬ player.isEligible view := by
  simp [blocked, interested, Group.ordered, and_assoc]

theorem isFor_of_hint? {player : Searcher} (hprefers : player.prefers view.address)
    (hhint : hint? pool now view player = some hint) : hint.IsFor player view := by
  rw [hint?] at hhint
  split at hhint
  · cases hhint
  · rename_i group hselect
    split_ifs at hhint
    obtain rfl := Option.some.inj hhint
    refine ⟨rfl, hprefers, rfl, rfl, ?_, rfl⟩
    rw [List.length_map]
    exact (Group.fits_of_select? hselect).2.2.1.trans view.toNat_availableSlots_le

theorem mem_serverHints : hint ∈ serverHints pool now view ↔
    ∃ player ∈ blocked pool view, hint? pool now view player = some hint :=
  List.mem_filterMap

/-- No player gets two hints for a server. -/
theorem nodup_players_serverHints (hpool : (pool.map (·.id)).Nodup) (now : Nat)
    (view : ServerView) : ((serverHints pool now view).map (·.player)).Nodup := by
  have hblocked : (blocked pool view).Subperm pool :=
    List.filter_sublist.subperm.trans
      ((Order.arrange_perm _ _).subperm.trans List.filter_sublist.subperm)
  refine (Parts.nodup (Parts.map (·.id) hblocked) hpool).sublist ?_
  apply Parts.map_filterMap_sublist
  intro player hplayer hint hhint
  exact (isFor_of_hint? (mem_blocked.mp hplayer).2.1 hhint).recipient

/-- Each hint is for a player who is left and for one of the servers. -/
theorem exists_isFor_of_mem_hints {players : List Searcher}
    (hhint : hint ∈ (evaluate players servers now).hints) :
    ∃ player ∈ players, ∃ view ∈ servers, hint.IsFor player view := by
  obtain ⟨left, views, hrounds, -, hhints⟩ := exists_rounds_evaluate players servers now
  rw [hhints] at hhint
  obtain ⟨view, hview, hlisted⟩ := List.mem_flatMap.mp hhint
  obtain ⟨player, hplayer, hsome⟩ := mem_serverHints.mp hlisted
  obtain ⟨hleft, hprefers, -⟩ := mem_blocked.mp hplayer
  have hmember : view ∈ views :=
    (ranked_perm views).mem_iff.mp (List.mem_of_mem_filter hview)
  obtain ⟨original, horiginal, hlike⟩ := exists_isLike_of_perm hrounds.unreserved_perm hmember
  refine ⟨player, ?_, original, horiginal, (isFor_of_hint? hprefers hsome).congr hlike⟩
  rw [hrounds.left_eq] at hleft
  exact (arrange_waitedLonger_perm players).mem_iff.mp (List.mem_of_mem_filter hleft)

end Evaluation

end Muster
