import Muster.Proofs.Match.Companions
import Muster.Proofs.Match.Maximality

/-!
# Prospects of those who are left

A hint names a group that could take a player who is left to a server, were it not for what keeps
the player off it.  All that a hint says is true of the players and of the slots that the pass
leaves.  Not everybody for whom there is such a group gets a hint, though: where the rivals of a
player take all the slots, the greatest group is one of rivals alone, and the player is told of
none.
-/

namespace Muster.Evaluation

variable {now : Nat} {pool players left : List Searcher} {servers views : List ServerView}
variable {view : ServerView} {player : Searcher} {hint : Hint} {matched : List Candidate}

/-! ## What a pass leaves -/

def unmatched (players : List Searcher) (matched : List Candidate) : List Searcher :=
  players.filter fun player => player.id ∉ matchedPlayers matched

def slotsLeft (matched : List Candidate) (view : ServerView) : Nat :=
  view.availableSlots.toNat - committedTo view.address matched

/-- A group of a player who is left over and of companions who are: it finds room in the slots that
are left, and it is as large, with the players on the server, as each of its players wants. -/
structure IsProspect (players : List Searcher) (matched : List Candidate) (view : ServerView)
    (player : Searcher) (group : List Searcher) : Prop where
  member : player ∈ group
  nodup : (group.map (·.id)).Nodup
  unmatched : ∀ other ∈ group, other ∈ unmatched players matched
  companions : ∀ other ∈ group, other ≠ player → other.IsCompanion view
  room : group.length ≤ slotsLeft matched view
  reached : ∀ other ∈ group, other.minPlayers.toNat ≤ view.realPlayers.toNat + group.length

theorem nodup_unmatched (hplayers : (players.map (·.id)).Nodup) (matched : List Candidate) :
    ((unmatched players matched).map (·.id)).Nodup :=
  hplayers.sublist (List.filter_sublist.map _)

theorem unmatched_perm (hrounds : Rounds now pool servers matched left views)
    (hpool : pool.Perm players) : left.Perm (unmatched players matched) := by
  have hleft : left = unmatched pool matched := by
    rw [hrounds.left_eq]
    apply List.filter_congr
    simp
  rw [hleft]
  exact hpool.filter _

theorem nodup_cons_companions (hpool : (pool.map (·.id)).Nodup) (view : ServerView)
    (player : Searcher) : ((player :: companions pool view player).map (·.id)).Nodup := by
  rw [List.map_cons, List.nodup_cons]
  refine ⟨?_, hpool.sublist (List.filter_sublist.map _)⟩
  intro hplayer
  obtain ⟨other, hother, hid⟩ := List.mem_map.mp hplayer
  simp [companions, hid] at hother

/-- A prospect is made of the player and of companions who are left. -/
theorem isProspect_iff {group : List Searcher} (hplayers : (players.map (·.id)).Nodup)
    (hplayer : player ∈ unmatched players matched) :
    IsProspect players matched view player group ↔
      group.Subperm (player :: companions (unmatched players matched) view player) ∧
        player ∈ group ∧ group.length ≤ slotsLeft matched view ∧
        ∀ other ∈ group, other.minPlayers.toNat ≤ view.realPlayers.toNat + group.length := by
  have hids := nodup_unmatched hplayers matched
  constructor
  · intro hprospect
    refine ⟨?_, hprospect.member, hprospect.room, hprospect.reached⟩
    apply (List.Nodup.of_map _ hprospect.nodup).subperm
    intro other hother
    rw [List.mem_cons, companions, List.mem_filter, decide_eq_true_eq]
    by_cases hsame : other = player
    · exact Or.inl hsame
    · have hmember := hprospect.unmatched other hother
      refine Or.inr ⟨hmember, fun hid => hsame ?_, hprospect.companions other hother hsame⟩
      exact eq_of_id_eq hids hmember hplayer hid
  · rintro ⟨hpart, hmember, hroom, hreached⟩
    refine ⟨hmember, ?_, fun other hother => ?_, fun other hother hother_ne => ?_, hroom, hreached⟩
    · exact Parts.nodup (Parts.map _ hpart) (nodup_cons_companions hids view player)
    · rcases List.mem_cons.mp (hpart.subset hother) with rfl | hcompanion
      · exact hplayer
      · exact List.mem_of_mem_filter hcompanion
    · rcases List.mem_cons.mp (hpart.subset hother) with rfl | hcompanion
      · exact absurd rfl hother_ne
      · have hcompanion := (List.mem_filter.mp hcompanion).2
        rw [decide_eq_true_eq] at hcompanion
        exact hcompanion.2

/-! ## The last round -/

/-- In the last round, with the slots that are left, the groups that fit are the prospects. -/
theorem isProspect_iff_fits {group : List Searcher} (hplayers : (players.map (·.id)).Nodup)
    (hleft : left.Perm (unmatched players matched)) (hplayer : player ∈ left)
    (hslots : (booked matched view).availableSlots.toNat = slotsLeft matched view) :
    group.Subperm (player :: companions left (booked matched view) player) ∧ player ∈ group ∧
        Group.Fits group (booked matched view) (booked matched view).availableSlots ↔
      IsProspect players matched view player group := by
  have hcompanions : (companions left (booked matched view) player).Perm
      (companions (unmatched players matched) view player) := hleft.filter _
  rw [isProspect_iff hplayers (hleft.mem_iff.mp hplayer), Group.Fits, hslots,
    (hcompanions.cons player).subperm_left]
  rfl

theorem exists_isProspect_of_hint? (hplayers : (players.map (·.id)).Nodup)
    (hleft : left.Perm (unmatched players matched)) (hplayer : player ∈ left)
    (hslots : (booked matched view).availableSlots.toNat = slotsLeft matched view)
    (hhint : hint? left now (booked matched view) player = some hint) :
    ∃ group : List Searcher, hint.possible.players = group.map (·.id) ∧
      IsProspect players matched view player group := by
  obtain ⟨group, hgroup, hprospect⟩ := exists_group_of_hint? hhint
  exact ⟨group, hgroup, (isProspect_iff_fits hplayers hleft hplayer hslots).mp hprospect⟩

/-- A player gets a hint for a server exactly if there is a prospect and fewer rivals than slots.
-/
theorem hint?_isSome_iff_isProspect (now : Nat) (hplayers : (players.map (·.id)).Nodup)
    (hleft : left.Perm (unmatched players matched)) (hplayer : player ∈ left)
    (hslots : (booked matched view).availableSlots.toNat = slotsLeft matched view) :
    (hint? left now (booked matched view) player).isSome ↔
      (∃ group, IsProspect players matched view player group) ∧
        (rivals (unmatched players matched) view player).length < slotsLeft matched view := by
  have hrivals : (rivals left (booked matched view) player).length =
      (rivals (unmatched players matched) view player).length :=
    ((hleft.filter _).filter _).length_eq
  rw [hint?_isSome_iff, hslots, hrivals, and_comm]
  simp only [isProspect_iff_fits hplayers hleft hplayer hslots]

/-- Hints are those of the last round, for players who are left over and servers that are blocked
to them.  -/
theorem exists_last_round (players : List Searcher) (servers : List ServerView) (now : Nat)
    (hservers : (servers.map (·.address)).Nodup) :
    let matched := (evaluate players servers now).matched
    ∃ left, left.Perm (unmatched players matched) ∧
      (∀ view ∈ servers, (booked matched view).availableSlots.toNat = slotsLeft matched view) ∧
      ∀ hint, hint ∈ (evaluate players servers now).hints ↔
        ∃ view ∈ servers, ∃ player ∈ left, player.prefers view.address ∧
          player.ineligibility view ≠ [] ∧
            hint? left now (booked matched view) player = some hint := by
  intro matched
  obtain ⟨left, views, hrounds, -, hhints⟩ := exists_rounds_evaluate players servers now
  refine ⟨left, unmatched_perm hrounds (arrange_waitedLonger_perm players),
    fun view hview => toNat_availableSlots_booked hrounds hservers hview, fun hint => ?_⟩
  have hviews : (ranked views).Perm (servers.map (booked matched)) :=
    (ranked_perm views).trans (hrounds.views_perm hservers)
  rw [hhints, roundHints, List.mem_flatMap]
  simp only [withSlots, List.mem_filter, hviews.mem_iff, List.mem_map, bne_iff_ne, mem_serverHints,
    mem_blocked, ← ineligibility_eq_nil_iff]
  constructor
  · rintro ⟨_, ⟨⟨view, hview, rfl⟩, -⟩, player, ⟨hplayer, hprefers, hblocked⟩, hhint⟩
    exact ⟨view, hview, player, hplayer, hprefers, hblocked, hhint⟩
  · rintro ⟨view, hview, player, hplayer, hprefers, hblocked, hhint⟩
    exact ⟨_, ⟨⟨view, hview, rfl⟩, availableSlots_ne_zero hhint⟩, player,
      ⟨hplayer, hprefers, hblocked⟩, hhint⟩

theorem server_of_mem_serverHints (hhint : hint ∈ serverHints pool now view) :
    hint.possible.server = view.address := by
  obtain ⟨player, hplayer, hsome⟩ := mem_serverHints.mp hhint
  exact (isFor_of_hint? (mem_blocked.mp hplayer).2.1 hsome).server

/-- Nobody gets two hints for one server. -/
theorem nodup_roundHints (hpool : (pool.map (·.id)).Nodup)
    (hservers : (servers.map (·.address)).Nodup) (now : Nat) :
    ((roundHints pool now servers).map fun hint => (hint.player, hint.possible.server)).Nodup := by
  rw [roundHints, List.map_flatMap, List.nodup_flatMap]
  constructor
  · intro view _
    apply List.Nodup.of_map Prod.fst
    rw [List.map_map]
    exact nodup_players_serverHints hpool now view
  · have hdiffer : (withSlots servers).Pairwise fun view other => view.address ≠ other.address :=
      List.pairwise_map.mp (hservers.sublist (List.filter_sublist.map _))
    refine hdiffer.imp fun hne => ?_
    simp only [Function.onFun, List.disjoint_left, List.mem_map]
    rintro _ ⟨hint, hhint, rfl⟩ ⟨other, hother, hsame⟩
    apply hne
    rw [← server_of_mem_serverHints hhint, ← server_of_mem_serverHints hother]
    exact (Prod.ext_iff.mp hsame).2.symm

theorem nodup_hints (players : List Searcher) (servers : List ServerView) (now : Nat)
    (hplayers : (players.map (·.id)).Nodup) (hservers : (servers.map (·.address)).Nodup) :
    ((evaluate players servers now).hints.map fun hint =>
      (hint.player, hint.possible.server)).Nodup := by
  obtain ⟨left, views, hrounds, -, hhints⟩ := exists_rounds_evaluate players servers now
  have hleft := unmatched_perm hrounds (arrange_waitedLonger_perm players)
  rw [hhints]
  apply nodup_roundHints
  · exact (hleft.map _).nodup_iff.mpr (nodup_unmatched hplayers _)
  · have hviews := ((ranked_perm views).trans (hrounds.views_perm hservers)).map (·.address)
    rw [hviews.nodup_iff, List.map_map]
    exact hservers

/-! ## Hints -/

/-- What hints say is true.  Each is for a player who is left over and for one of the servers,
which the player named and which is blocked to the player for exactly the reasons given.  The group
in it is a prospect of the player with the slots that the pass leaves.  Nobody gets two hints for
one server.  -/
theorem hints_name_prospects (players : List Searcher) (servers : List ServerView) (now : Nat)
    (hplayers : (players.map (·.id)).Nodup) (hservers : (servers.map (·.address)).Nodup) :
    let evaluation := evaluate players servers now
    (∀ hint ∈ evaluation.hints, ∃ player ∈ unmatched players evaluation.matched,
      ∃ view ∈ servers, hint.IsFor player view ∧ player.ineligibility view ≠ [] ∧
        ∃ group : List Searcher, hint.possible.players = group.map (·.id) ∧
          IsProspect players evaluation.matched view player group) ∧
    (evaluation.hints.map fun hint => (hint.player, hint.possible.server)).Nodup := by
  intro evaluation
  refine ⟨fun hint hhint => ?_, nodup_hints players servers now hplayers hservers⟩
  obtain ⟨left, hleft, hslots, hhints⟩ := exists_last_round players servers now hservers
  obtain ⟨view, hview, player, hplayer, hprefers, hblocked, hsome⟩ := (hhints hint).mp hhint
  have hfor : hint.IsFor player (booked evaluation.matched view) := isFor_of_hint? hprefers hsome
  exact ⟨player, hleft.mem_iff.mp hplayer, view, hview, hfor.congr rfl, hblocked,
    exists_isProspect_of_hint? hplayers hleft hplayer (hslots view hview) hsome⟩

def freshSearcher (id : PlayerId) (minPlayers : Count) : Searcher :=
  .enter id { minPlayers } [⟨.loopback 28960, 40⟩] 0

def emptyServer (freeSlots : Count) : ServerView :=
  ⟨.loopback 28960, "empty", 0, freeSlots, 0, none⟩

/-- Three who wait for each other are left over, and each hint is about all of them. -/
theorem hints_name_prospects_freshLobby :
    let players := [freshSearcher 1 2, freshSearcher 2 2, freshSearcher 3 2]
    let evaluation := evaluate players [emptyServer 10] 0
    (players.map (·.id)).Nodup ∧ ([emptyServer 10].map (·.address)).Nodup ∧
    evaluation.hints.map (·.player) = [1, 2, 3] ∧
    (∀ hint ∈ evaluation.hints, ∃ player ∈ unmatched players evaluation.matched,
      ∃ view ∈ [emptyServer 10], hint.IsFor player view ∧ player.ineligibility view ≠ [] ∧
        ∃ group : List Searcher, hint.possible.players = group.map (·.id) ∧
          IsProspect players evaluation.matched view player group) ∧
    (evaluation.hints.map fun hint => (hint.player, hint.possible.server)).Nodup := by
  intro players evaluation
  have hplayers : (players.map (·.id)).Nodup := by decide
  have hservers : ([emptyServer 10].map (·.address)).Nodup := by decide
  refine ⟨hplayers, hservers, by decide +kernel, ?_⟩
  exact hints_name_prospects players [emptyServer 10] 0 hplayers hservers

/-- A player who is left over gets a hint for a server that the player named and that is blocked to
the player exactly if the player has a prospect there and there are fewer rivals than slots. -/
theorem exists_hint_iff (players : List Searcher) (servers : List ServerView) (now : Nat)
    (hplayers : (players.map (·.id)).Nodup) (hservers : (servers.map (·.address)).Nodup) :
    let evaluation := evaluate players servers now
    let left := unmatched players evaluation.matched
    ∀ player ∈ left, ∀ view ∈ servers, player.prefers view.address →
      player.ineligibility view ≠ [] →
      ((∃ possible ∈ evaluation.hintsFor player.id, possible.server = view.address) ↔
        (∃ group, IsProspect players evaluation.matched view player group) ∧
          (rivals left view player).length < slotsLeft evaluation.matched view) := by
  intro evaluation _ player hplayer view hview hprefers hblocked
  obtain ⟨left, hleft, hslots, hhints⟩ := exists_last_round players servers now hservers
  have hmember := hleft.mem_iff.mpr hplayer
  have hids : (left.map (·.id)).Nodup :=
    (hleft.map _).nodup_iff.mpr (nodup_unmatched hplayers _)
  rw [← hint?_isSome_iff_isProspect now hplayers hleft hmember (hslots view hview),
    Option.isSome_iff_exists]
  constructor
  · rintro ⟨possible, hpossible, hserver⟩
    obtain ⟨hint, hlisted, rfl⟩ := List.mem_map.mp hpossible
    obtain ⟨hhint, hplayer⟩ := List.mem_filter.mp hlisted
    obtain ⟨other, hother, recipient, hrecipient, hnamed, -, hsome⟩ := (hhints hint).mp hhint
    have hfor : hint.IsFor recipient (booked evaluation.matched other) :=
      isFor_of_hint? hnamed hsome
    -- The hint is the one that the last round had for this player and this server.
    obtain rfl : recipient = player :=
      eq_of_id_eq hids hrecipient hmember (hfor.recipient.symm.trans (beq_iff_eq.mp hplayer))
    obtain rfl : other = view :=
      eq_of_address_eq hservers hother hview (hfor.server.symm.trans hserver)
    exact ⟨hint, hsome⟩
  · rintro ⟨hint, hsome⟩
    have hfor : hint.IsFor player (booked evaluation.matched view) :=
      isFor_of_hint? hprefers hsome
    have hhint := (hhints hint).mpr ⟨view, hview, player, hmember, hprefers, hblocked, hsome⟩
    refine ⟨hint.possible, List.mem_map_of_mem (List.mem_filter.mpr ⟨hhint, ?_⟩), hfor.server⟩
    exact beq_iff_eq.mpr hfor.recipient

/-- With slots for both, two who would each do alone are told of each other. -/
theorem exists_hint_iff_freshLobby :
    let players := [freshSearcher 1 1, freshSearcher 2 1]
    let evaluation := evaluate players [emptyServer 2] 0
    (players.map (·.id)).Nodup ∧ ([emptyServer 2].map (·.address)).Nodup ∧
    ∀ player ∈ players, player ∈ unmatched players evaluation.matched ∧
      player.prefers (emptyServer 2).address ∧ player.ineligibility (emptyServer 2) ≠ [] ∧
      (∃ possible ∈ evaluation.hintsFor player.id, possible.server = (emptyServer 2).address) ∧
      ∃ group, IsProspect players evaluation.matched (emptyServer 2) player group := by
  intro players evaluation
  have hplayers : (players.map (·.id)).Nodup := by decide
  have hservers : ([emptyServer 2].map (·.address)).Nodup := by decide
  have hblocked : ∀ player ∈ players, player.prefers (emptyServer 2).address ∧
      player.ineligibility (emptyServer 2) ≠ [] := by decide
  have hhinted : ∀ player ∈ players, ∃ possible ∈ evaluation.hintsFor player.id,
      possible.server = (emptyServer 2).address := by decide +kernel
  refine ⟨hplayers, hservers, fun player hplayer => ?_⟩
  have hprospect := (exists_hint_iff players [emptyServer 2] 0 hplayers hservers player hplayer _
    List.mem_cons_self (hblocked player hplayer).1 (hblocked player hplayer).2).mp
    (hhinted player hplayer)
  exact ⟨hplayer, (hblocked player hplayer).1, (hblocked player hplayer).2,
    hhinted player hplayer, hprospect.1⟩

/-- Each of the two alone is a prospect for the one slot that is left.  But each is the other's
rival, so nobody is told. -/
theorem not_hinted_lastSlot :
    let players := [freshSearcher 1 1, freshSearcher 2 1]
    let evaluation := evaluate players [emptyServer 1] 0
    (players.map (·.id)).Nodup ∧ ([emptyServer 1].map (·.address)).Nodup ∧
    slotsLeft evaluation.matched (emptyServer 1) = 1 ∧
    ∀ player ∈ players, player ∈ unmatched players evaluation.matched ∧
      player.prefers (emptyServer 1).address ∧ player.ineligibility (emptyServer 1) ≠ [] ∧
      IsProspect players evaluation.matched (emptyServer 1) player [player] ∧
      ¬ ∃ possible ∈ evaluation.hintsFor player.id, possible.server = (emptyServer 1).address := by
  intro players evaluation
  have hslots : slotsLeft evaluation.matched (emptyServer 1) = 1 := by decide +kernel
  refine ⟨by decide, by decide, hslots, fun player hplayer => ?_⟩
  have hblocked : ∀ player ∈ players, player.prefers (emptyServer 1).address ∧
      player.ineligibility (emptyServer 1) ≠ [] ∧ player.minPlayers = 1 := by decide
  have hnone : evaluation.hints = [] := by decide +kernel
  have hleft : player ∈ unmatched players evaluation.matched := hplayer
  have hunheard : evaluation.hintsFor player.id = [] := by rw [hintsFor, hnone]; rfl
  obtain ⟨hprefers, hreasons, hwanted⟩ := hblocked player hplayer
  refine ⟨hleft, hprefers, hreasons, ?_, by simp [hunheard]⟩
  exact {
    member := List.mem_singleton_self player
    nodup := List.nodup_singleton _
    unmatched := List.forall_mem_singleton.mpr hleft
    companions := by simp
    room := hslots.ge
    reached := by simp [hwanted] }

end Muster.Evaluation
