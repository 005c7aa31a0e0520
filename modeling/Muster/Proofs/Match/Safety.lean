import Muster.Proofs.Match.Bookkeeping

/-!
# Safety of a pass

The groups of a pass keep to what players and servers ask for: everyone is matched at most once, to
a server that suits, in a group that is large enough, and no server takes more players than it has
slots.  The rounds end after at most one group per player.
-/

namespace Muster.Evaluation

variable {now : Nat} {pool players left : List Searcher} {servers views : List ServerView}
variable {matched : List Candidate}

/-- The groups of a pass over the players and servers respect both. -/
structure IsSafe (players : List Searcher) (servers : List ServerView) (matched : List Candidate) :
    Prop where
  nonempty : ∀ candidate ∈ matched, candidate.players ≠ []
  known : ∀ candidate ∈ matched, ∀ player ∈ candidate.players, player ∈ players.map (·.id)
  /-- Nobody is in two groups or twice in one. -/
  distinct : (matchedPlayers matched).Nodup
  /-- The server of a group suits each of its players, and the group makes it full enough. -/
  suited : ∀ candidate ∈ matched, ∃ view ∈ servers, view.address = candidate.server ∧
    ∀ player ∈ players, player.id ∈ candidate.players →
      player.prefers view.address ∧ player.ineligibility view = [] ∧
        player.minPlayers.toNat ≤ view.realPlayers.toNat + candidate.players.length
  room : ∀ view ∈ servers, committedTo view.address matched ≤ view.availableSlots.toNat

theorem ineligibility_eq_nil_iff {player : Searcher} {view : ServerView} :
    player.ineligibility view = [] ↔ player.isEligible view := by
  simp [Searcher.isEligible]

theorem ineligibility_reserved (address : Endpoint) (count : Nat) (view : ServerView)
    (player : Searcher) :
    player.ineligibility (reserved address count view) = player.ineligibility view := by
  simp only [reserved]
  split_ifs <;> rfl

theorem realPlayers_reserved (address : Endpoint) (count : Nat) (view : ServerView) :
    (reserved address count view).realPlayers = view.realPlayers := by
  simp only [reserved]
  split_ifs <;> rfl

/-- Each group consists of players of the pool whom its server suits. -/
theorem Rounds.exists_group (hrounds : Rounds now pool servers matched left views)
    (hservers : (servers.map (·.address)).Nodup) {candidate : Candidate}
    (hcandidate : candidate ∈ matched) :
    ∃ view ∈ servers, view.address = candidate.server ∧
      ∃ group : List Searcher, candidate.players = group.map (·.id) ∧ group ≠ [] ∧ group ⊆ pool ∧
        ∀ player ∈ group, player.prefers view.address ∧ player.ineligibility view = [] ∧
          player.minPlayers.toNat ≤ view.realPlayers.toNat + group.length := by
  induction hrounds with
  | done => simp at hcandidate
  | @commit pool left servers arranged views chosen first matched harranged hchosen hfirst hrest
      ih =>
      have harranged_nodup := (harranged.map (·.address)).nodup_iff.mpr hservers
      rcases List.mem_cons.mp hcandidate with rfl | hlater
      · obtain ⟨haddress, group, hplayers, hnonempty, hpart, hsuited, hfits⟩ :=
          exists_group_of_candidate? hfirst
        refine ⟨chosen, harranged.mem_iff.mp (List.mem_of_mem_filter hchosen), haddress.symm, group,
          hplayers, hnonempty, hpart.subset, ?_⟩
        intro player hplayer
        obtain ⟨hprefers, heligible⟩ := hsuited player hplayer
        exact ⟨hprefers, ineligibility_eq_nil_iff.mpr heligible, hfits.2 player hplayer⟩
      · obtain ⟨view, hview, haddress, group, hplayers, hnonempty, hpool, hsuited⟩ :=
          ih (by rwa [addresses_reserve]) hlater
        rw [reserve_eq_map _ _ harranged_nodup] at hview
        obtain ⟨original, horiginal, rfl⟩ := List.mem_map.mp hview
        rw [address_reserved] at haddress
        refine ⟨original, harranged.mem_iff.mp horiginal, haddress, group, hplayers, hnonempty,
          fun player hplayer => List.mem_of_mem_filter (hpool hplayer), ?_⟩
        simpa only [address_reserved, ineligibility_reserved, realPlayers_reserved] using hsuited

theorem eq_of_id_eq {first second : Searcher} (hplayers : (players.map (·.id)).Nodup)
    (hfirst : first ∈ players) (hsecond : second ∈ players) (hid : first.id = second.id) :
    first = second :=
  List.inj_on_of_nodup_map hplayers hfirst hsecond hid

/-- A round respects the wishes of players and the slots that the rounds before it have left. -/
theorem Rounds.isSafe (hrounds : Rounds now pool servers matched left views)
    (hpool : pool.Perm players) (hplayers : (players.map (·.id)).Nodup)
    (hservers : (servers.map (·.address)).Nodup) : IsSafe players servers matched := by
  have hids := (hpool.map (·.id)).nodup_iff.mpr hplayers
  have hperm := hrounds.players_perm hids
  refine {
    nonempty := fun candidate hcandidate => ?_
    known := fun candidate hcandidate player hplayer => ?_
    distinct := (List.nodup_append.mp (hperm.nodup_iff.mpr hids)).1
    suited := fun candidate hcandidate => ?_
    room := fun view hview => hrounds.committedTo_le hservers hview }
  all_goals
    obtain ⟨view, hview, haddress, group, hgroup, hnonempty, hsubset, hsuited⟩ :=
      hrounds.exists_group hservers hcandidate
  · rw [hgroup]
    simpa using hnonempty
  · rw [hgroup] at hplayer
    obtain ⟨searcher, hsearcher, rfl⟩ := List.mem_map.mp hplayer
    exact List.mem_map_of_mem (hpool.mem_iff.mp (hsubset hsearcher))
  · refine ⟨view, hview, haddress, fun player hplayer hmember => ?_⟩
    rw [hgroup] at hmember ⊢
    obtain ⟨searcher, hsearcher, hid⟩ := List.mem_map.mp hmember
    obtain rfl : searcher = player :=
      eq_of_id_eq hplayers (hpool.mem_iff.mp (hsubset hsearcher)) hplayer hid
    rw [List.length_map]
    exact hsuited searcher hsearcher

theorem length_le_matchedPlayers (hnonempty : ∀ candidate ∈ matched, candidate.players ≠ []) :
    matched.length ≤ (matchedPlayers matched).length := by
  induction matched with
  | nil => exact Nat.le_refl _
  | cons candidate matched ih =>
      have hrest := ih fun other hother => hnonempty other (List.mem_cons_of_mem _ hother)
      have hfirst := List.length_pos_of_ne_nil (hnonempty candidate List.mem_cons_self)
      rw [matchedPlayers_cons, List.length_append, List.length_cons]
      omega

/-- A pass ends after at most one group per player, namely with a round that finds no group.  Its
groups respect players and servers, and no sequence of its rounds makes the reserved slots of a
server wrap around: they are the slots reserved before and one for each player committed to it. -/
theorem evaluate_isSafe (players : List Searcher) (servers : List ServerView) (now : Nat)
    (hplayers : (players.map (·.id)).Nodup) (hservers : (servers.map (·.address)).Nodup) :
    (evaluate players servers now).matched.length ≤ players.length ∧
    (∃ left views,
      Rounds now (Order.arrange waitedLonger players) servers
        (evaluate players servers now).matched left views ∧
      best? left now (ranked views) = none) ∧
    IsSafe players servers (evaluate players servers now).matched ∧
    ∀ matched left views,
      Rounds now (Order.arrange waitedLonger players) servers matched left views →
      views.Perm (servers.map (booked matched)) ∧
      ∀ view ∈ servers, (booked matched view).reservedSlots.toNat =
        view.reservedSlots.toNat + committedTo view.address matched := by
  obtain ⟨left, views, hrounds, hlast, -⟩ := exists_rounds_evaluate players servers now
  have hpool := arrange_waitedLonger_perm players
  have hsafe := hrounds.isSafe hpool hplayers hservers
  refine ⟨?_, ⟨left, views, hrounds, hlast⟩, hsafe, fun matched left views hrounds => ?_⟩
  · have hperm := hrounds.players_perm ((hpool.map (·.id)).nodup_iff.mpr hplayers)
    have hlength := hperm.length_eq
    rw [List.length_append, List.length_map, List.length_map, hpool.length_eq] at hlength
    have hmatched := length_le_matchedPlayers hsafe.nonempty
    omega
  · exact ⟨hrounds.views_perm hservers, fun view hview =>
      hrounds.toNat_reservedSlots hservers hview⟩

/-- Two players who would do with each other, and one who wants more company. -/
def threeSearchers : List Searcher :=
  [⟨1, { minPlayers := 2 }, [⟨.loopback 28960, 40⟩], 0, 1, []⟩,
    ⟨2, { minPlayers := 2 }, [⟨.loopback 28960, 50⟩], 10, 1, []⟩,
    ⟨3, { minPlayers := 9 }, [⟨.loopback 28960, 60⟩], 20, 1, []⟩]

def smallServer : ServerView :=
  ⟨.loopback 28960, "small", 0, 3, 1, none⟩

/-- The two who would do with each other are matched, and the third is left. -/
theorem evaluate_isSafe_threeSearchers :
    (threeSearchers.map (·.id)).Nodup ∧ ([smallServer].map (·.address)).Nodup ∧
    (evaluate threeSearchers [smallServer] 5000).matched.map (·.players) = [[1, 2]] ∧
    IsSafe threeSearchers [smallServer] (evaluate threeSearchers [smallServer] 5000).matched := by
  have hplayers : (threeSearchers.map (·.id)).Nodup := by decide
  have hservers : ([smallServer].map (·.address)).Nodup := by decide
  have hsafe := evaluate_isSafe threeSearchers [smallServer] 5000 hplayers hservers
  exact ⟨hplayers, hservers, by rfl, hsafe.2.2.1⟩

end Muster.Evaluation
