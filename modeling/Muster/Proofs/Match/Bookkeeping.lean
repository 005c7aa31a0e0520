import Mathlib.Algebra.GroupWithZero.Nat
import Muster.Proofs.Match.Rounds

/-!
# Bookkeeping of a pass

How players and slots add up over the rounds of a pass.  Matched and remaining players together are
the players of the pool, each once, and a server has as many more slots reserved as players were
committed to it.  A server without enough slots gets no group, so the sum never exceeds the free
slots and never wraps around.
-/

namespace Muster.Evaluation

variable {now : Nat} {pool left : List Searcher} {servers views : List ServerView}
variable {view : ServerView} {candidate : Candidate} {matched : List Candidate}

/-! ## Players -/

def matchedPlayers (matched : List Candidate) : List PlayerId :=
  matched.flatMap (·.players)

@[simp]
theorem matchedPlayers_nil : matchedPlayers [] = [] := rfl

@[simp]
theorem matchedPlayers_cons (candidate : Candidate) (matched : List Candidate) :
    matchedPlayers (candidate :: matched) = candidate.players ++ matchedPlayers matched := rfl

theorem mem_matchedPlayers {player : PlayerId} :
    player ∈ matchedPlayers matched ↔ ∃ candidate ∈ matched, player ∈ candidate.players :=
  List.mem_flatMap

/-- Those who are left are the players of the pool whom no group has. -/
theorem Rounds.left_eq (hrounds : Rounds now pool servers matched left views) :
    left = pool.filter fun player => !(matchedPlayers matched).contains player.id := by
  induction hrounds with
  | done => simp
  | commit harranged hview hcandidate hrest ih =>
      rw [ih, without, List.filter_filter]
      apply List.filter_congr
      intro player _
      simp [Bool.and_comm]

theorem ids_subperm_of_candidate? (hcandidate : candidate? pool now view = some candidate) :
    candidate.players.Subperm (pool.map (·.id)) := by
  obtain ⟨-, group, hplayers, -, hpart, -, -⟩ := exists_group_of_candidate? hcandidate
  rw [hplayers]
  exact Parts.map _ hpart

/-- The players of a candidate and those without it are the players of the pool. -/
theorem without_perm (hpool : (pool.map (·.id)).Nodup)
    (hcandidate : candidate? pool now view = some candidate) :
    (candidate.players ++ (without pool candidate).map (·.id)).Perm (pool.map (·.id)) := by
  have hpart := ids_subperm_of_candidate? hcandidate
  have hnodup : candidate.players.Nodup := Parts.nodup hpart hpool
  have hkept : ∀ player, player ∈ (without pool candidate).map (·.id) ↔
      player ∈ pool.map (·.id) ∧ player ∉ candidate.players := by
    intro player
    simp only [without, List.mem_map, List.mem_filter, List.contains_eq_mem]
    constructor
    · rintro ⟨searcher, ⟨hsearcher, hout⟩, rfl⟩
      exact ⟨⟨searcher, hsearcher, rfl⟩, by simpa using hout⟩
    · rintro ⟨⟨searcher, hsearcher, rfl⟩, hout⟩
      exact ⟨searcher, ⟨hsearcher, by simpa using hout⟩, rfl⟩
  have hwithout : ((without pool candidate).map (·.id)).Nodup :=
    hpool.sublist (List.filter_sublist.map _)
  apply (List.perm_ext_iff_of_nodup ?_ hpool).mpr
  · intro player
    rw [List.mem_append, hkept]
    constructor
    · rintro (hplayer | hplayer)
      · exact hpart.subset hplayer
      · exact hplayer.1
    · intro hplayer
      by_cases hmember : player ∈ candidate.players
      · exact .inl hmember
      · exact .inr ⟨hplayer, hmember⟩
  · refine List.nodup_append.mpr ⟨hnodup, hwithout, ?_⟩
    rintro player hmember _ hplayer rfl
    exact ((hkept player).mp hplayer).2 hmember

/-- Nobody is lost and nobody is matched twice. -/
theorem Rounds.players_perm (hrounds : Rounds now pool servers matched left views)
    (hpool : (pool.map (·.id)).Nodup) :
    (matchedPlayers matched ++ left.map (·.id)).Perm (pool.map (·.id)) := by
  induction hrounds with
  | done => exact .refl _
  | @commit pool left servers arranged views view candidate matched harranged hview hcandidate
      hrest ih =>
      have hwithout := without_perm hpool hcandidate
      have hrest := ih (hpool.sublist (List.filter_sublist.map _))
      rw [matchedPlayers_cons, List.append_assoc]
      exact (hrest.append_left candidate.players).trans hwithout

/-- Nobody is matched twice, and nobody who does not search. -/
theorem matchedPlayers_evaluate_subperm {players : List Searcher}
    (hplayers : (players.map (·.id)).Nodup) (servers : List ServerView) (now : Nat) :
    (matchedPlayers (evaluate players servers now).matched).Subperm (players.map (·.id)) := by
  obtain ⟨left, views, hrounds, -, -⟩ := exists_rounds_evaluate players servers now
  have hpool := (arrange_waitedLonger_perm players).map (·.id)
  have hperm := (hrounds.players_perm (hpool.nodup_iff.mpr hplayers)).trans hpool
  exact (List.sublist_append_left _ _).subperm.trans hperm.subperm

/-- Nobody is twice in a group. -/
theorem nodup_players_matched {players : List Searcher} (hplayers : (players.map (·.id)).Nodup)
    (servers : List ServerView) (now : Nat) :
    ∀ candidate ∈ (evaluate players servers now).matched, candidate.players.Nodup := by
  have hmatched := matchedPlayers_evaluate_subperm hplayers servers now
  exact (List.nodup_flatMap.mp (Parts.nodup hmatched hplayers)).1

/-- A player of a group is in no other group. -/
theorem filter_contains_eq_singleton (hmatched : (matchedPlayers matched).Nodup)
    (hcandidate : candidate ∈ matched) {player : PlayerId} (hplayer : player ∈ candidate.players) :
    matched.filter (fun other => other.players.contains player) = [candidate] := by
  induction matched with
  | nil => exact absurd hcandidate List.not_mem_nil
  | cons first rest ih =>
      rw [matchedPlayers_cons, List.nodup_append] at hmatched
      obtain ⟨-, hrest, hdisjoint⟩ := hmatched
      rcases List.mem_cons.mp hcandidate with rfl | hlater
      · have hothers : rest.filter (fun other => other.players.contains player) = [] := by
          rw [List.filter_eq_nil_iff]
          intro other hother hcontains
          have hmember := mem_matchedPlayers.mpr ⟨other, hother, List.contains_iff_mem.mp hcontains⟩
          exact hdisjoint player hplayer player hmember rfl
        rw [List.filter_cons, if_pos (List.contains_iff_mem.mpr hplayer), hothers]
      · have hfirst : ¬ first.players.contains player := by
          intro hcontains
          have hmember := mem_matchedPlayers.mpr ⟨candidate, hlater, hplayer⟩
          exact hdisjoint player (List.contains_iff_mem.mp hcontains) player hmember rfl
        rw [List.filter_cons, if_neg hfirst]
        exact ih hrest hlater

/-! ## Slots -/

def committedTo (address : Endpoint) (matched : List Candidate) : Nat :=
  ((matched.filter fun candidate => candidate.server == address).map (·.players.length)).sum

@[simp]
theorem committedTo_nil (address : Endpoint) : committedTo address [] = 0 := rfl

theorem committedTo_cons (address : Endpoint) (candidate : Candidate) (matched : List Candidate) :
    committedTo address (candidate :: matched) =
      (if candidate.server = address then candidate.players.length else 0) +
        committedTo address matched := by
  by_cases hserver : candidate.server = address <;> simp [committedTo, hserver]

/-- The server with the players of the groups on its list of reserved slots. -/
def booked (matched : List Candidate) (view : ServerView) : ServerView :=
  { view with
    reservedSlots := view.reservedSlots + (committedTo view.address matched).toUInt32 }

theorem booked_nil (view : ServerView) : booked [] view = view := by
  simp [booked]

def reserved (address : Endpoint) (count : Nat) (view : ServerView) : ServerView :=
  if view.address = address then
    { view with reservedSlots := view.reservedSlots + count.toUInt32 }
  else view

@[simp]
theorem address_reserved (address : Endpoint) (count : Nat) (view : ServerView) :
    (reserved address count view).address = view.address := by
  simp only [reserved]
  split_ifs <;> rfl

/-- Reserving changes the one server with the address. -/
theorem reserve_eq_map (address : Endpoint) (count : Nat)
    (hservers : (servers.map (·.address)).Nodup) :
    reserve address count servers = servers.map (reserved address count) := by
  induction servers with
  | nil => rfl
  | cons view rest ih =>
      rw [List.map_cons, List.nodup_cons] at hservers
      simp only [reserve, List.map_cons, reserved]
      by_cases haddress : view.address = address
      · rw [if_pos haddress, if_pos haddress]
        congr 1
        -- No later server has the address.
        have hothers : rest.map (reserved address count) = rest.map id := by
          apply List.map_congr_left
          intro other hother
          apply if_neg
          intro hsame
          apply hservers.1
          rw [haddress, ← hsame]
          exact List.mem_map_of_mem hother
        rw [List.map_id] at hothers
        exact hothers.symm
      · rw [if_neg haddress, if_neg haddress, ih hservers.2]

theorem addresses_reserve (address : Endpoint) (count : Nat) (servers : List ServerView) :
    (reserve address count servers).map (·.address) = servers.map (·.address) := by
  induction servers with
  | nil => rfl
  | cons view rest ih =>
      simp only [reserve]
      split_ifs
      · rfl
      · rw [List.map_cons, List.map_cons, ih]

theorem booked_reserved (candidate : Candidate) (matched : List Candidate) (view : ServerView) :
    booked matched (reserved candidate.server candidate.players.length view) =
      booked (candidate :: matched) view := by
  simp only [booked, address_reserved, committedTo_cons]
  by_cases hserver : view.address = candidate.server
  · simp only [reserved, if_pos hserver, if_pos hserver.symm, UInt32.add_assoc]
    congr 2
    exact (UInt32.ofNat_add _ _).symm
  · simp only [reserved, if_neg hserver, if_neg (Ne.symm hserver), Nat.zero_add]

/-- Apart from their order, servers differ from what they were by the slots that are booked. -/
theorem Rounds.views_perm (hrounds : Rounds now pool servers matched left views)
    (hservers : (servers.map (·.address)).Nodup) : views.Perm (servers.map (booked matched)) := by
  induction hrounds with
  | done =>
      rw [List.map_congr_left (fun view _ => booked_nil view), List.map_id']
  | @commit pool left servers arranged views view candidate matched harranged hview hcandidate
      hrest ih =>
      have harranged_nodup := (harranged.map (·.address)).nodup_iff.mpr hservers
      have hviews := ih (by rwa [addresses_reserve])
      rw [reserve_eq_map _ _ harranged_nodup, List.map_map] at hviews
      have hbooked : booked matched ∘ reserved candidate.server candidate.players.length =
          booked (candidate :: matched) := by
        funext view
        exact booked_reserved candidate matched view
      rw [hbooked] at hviews
      exact hviews.trans (harranged.map _)

/-! ## Room -/

/-- Slots are counted on without wrapping around as long as they do not exceed the largest count. -/
theorem toNat_add_toUInt32 {slots : Count} {count : Nat}
    (hcount : slots.toNat + count ≤ Count.max) :
    (slots + count.toUInt32).toNat = slots.toNat + count := by
  have hlt : slots.toNat + count < 2 ^ 32 := Nat.lt_succ_of_le hcount
  have hword : count.toUInt32.toNat = count :=
    UInt32.toNat_ofNat_of_lt (Nat.lt_of_le_of_lt (Nat.le_add_left _ _) hlt)
  rw [UInt32.toNat_add, hword]
  exact Nat.mod_eq_of_lt hlt

theorem eq_of_address_eq {first second : ServerView} (hservers : (servers.map (·.address)).Nodup)
    (hfirst : first ∈ servers) (hsecond : second ∈ servers)
    (haddress : first.address = second.address) : first = second :=
  List.inj_on_of_nodup_map hservers hfirst hsecond haddress

/-- A server to which players were committed had free slots for all of them. -/
theorem Rounds.hasRoom (hrounds : Rounds now pool servers matched left views)
    (hservers : (servers.map (·.address)).Nodup) (hview : view ∈ servers) :
    committedTo view.address matched = 0 ∨
      view.reservedSlots.toNat + committedTo view.address matched ≤ view.freeSlots.toNat := by
  induction hrounds generalizing view with
  | done => exact .inl rfl
  | @commit pool left servers arranged views chosen candidate matched harranged hchosen
      hcandidate hrest ih =>
      have harranged_nodup := (harranged.map (·.address)).nodup_iff.mpr hservers
      have hview : view ∈ arranged := harranged.mem_iff.mpr hview
      have hrest_nodup := (addresses_reserve candidate.server candidate.players.length
        arranged).symm ▸ harranged_nodup
      have hmember : reserved candidate.server candidate.players.length view ∈
          reserve candidate.server candidate.players.length arranged := by
        rw [reserve_eq_map _ _ harranged_nodup]
        exact List.mem_map_of_mem hview
      have hroom := ih hrest_nodup hmember
      rw [committedTo_cons]
      rw [address_reserved] at hroom
      by_cases hserver : candidate.server = view.address
      · obtain ⟨haddress, group, hplayers, hnonempty, -, -, hfits, -⟩ :=
          exists_group_of_candidate? hcandidate
        obtain rfl : view = chosen := eq_of_address_eq harranged_nodup hview
          (List.mem_of_mem_filter hchosen) (hserver.symm.trans haddress)
        have hlength : candidate.players.length = group.length := by simp [hplayers]
        have hpositive := List.length_pos_of_ne_nil hnonempty
        rw [ServerView.availableSlots, Count.toNat_minus] at hfits
        -- The group fits the available slots, so the new sum does not exceed the free ones.
        have hfree := Count.toNat_le_max view.freeSlots
        have hslots : view.reservedSlots.toNat + candidate.players.length ≤ Count.max := by omega
        simp only [reserved, if_pos hserver.symm, toNat_add_toUInt32 hslots] at hroom
        rw [if_pos hserver]
        omega
      · simp only [reserved, if_neg (Ne.symm hserver)] at hroom
        rw [if_neg hserver]
        omega

/-- The players committed to a server are no more than its available slots. -/
theorem Rounds.committedTo_le (hrounds : Rounds now pool servers matched left views)
    (hservers : (servers.map (·.address)).Nodup) (hview : view ∈ servers) :
    committedTo view.address matched ≤ view.availableSlots.toNat := by
  rw [ServerView.availableSlots, Count.toNat_minus]
  rcases hrounds.hasRoom hservers hview with hnone | hroom <;> omega

/-- The slots of a server that are reserved after the rounds are counted without wrapping around. -/
theorem Rounds.toNat_reservedSlots (hrounds : Rounds now pool servers matched left views)
    (hservers : (servers.map (·.address)).Nodup) (hview : view ∈ servers) :
    (booked matched view).reservedSlots.toNat =
      view.reservedSlots.toNat + committedTo view.address matched := by
  apply toNat_add_toUInt32
  have hfree := Count.toNat_le_max view.freeSlots
  have hreserved := Count.toNat_le_max view.reservedSlots
  rcases hrounds.hasRoom hservers hview with hnone | hroom <;> omega

end Muster.Evaluation
