import Mathlib.Data.Prod.Lex
import Muster.Proofs.Match.Safety

/-!
# Precedence of players

Players go before others who want more company, and of those who want the same before others who
came later.  Within a round this is the order in which the players of a server are looked at, for
the pool is in the order of arrival and is put in order by company without disturbing those who want
the same.  A round takes a front part of that order and leaves the rest of the pool as it was, so no
group of a pass passes over a player who could have joined it and goes before one of its members.
-/

namespace Muster

namespace Searcher

/-- When the player came; of those who came at one time the lower number counts as earlier. -/
def arrival (player : Searcher) : Nat ×ₗ PlayerId :=
  toLex (player.joinedAt, player.id)

/-- The place of a player among others: less company wanted goes first, then the earlier arrival. -/
def precedence (player : Searcher) : Count ×ₗ Nat ×ₗ PlayerId :=
  toLex (player.minPlayers, player.arrival)

variable {left right : Searcher}

theorem arrival_lt_iff : left.arrival < right.arrival ↔
    left.joinedAt < right.joinedAt ∨ left.joinedAt = right.joinedAt ∧ left.id < right.id :=
  Prod.Lex.toLex_lt_toLex

theorem arrival_lt_asymm (hlt : left.arrival < right.arrival) : ¬right.arrival < left.arrival := by
  rw [arrival_lt_iff, UInt64.lt_iff_toNat_lt] at hlt ⊢
  omega

theorem precedence_lt_iff : left.precedence < right.precedence ↔
    left.minPlayers < right.minPlayers ∨
      left.minPlayers = right.minPlayers ∧ left.arrival < right.arrival :=
  Prod.Lex.toLex_lt_toLex

/-- Whoever wants less company precedes, and so does who came earlier among equals. -/
theorem precedence_lt_of_le (hle : left.minPlayers ≤ right.minPlayers)
    (htie : right.minPlayers ≤ left.minPlayers → left.arrival < right.arrival) :
    left.precedence < right.precedence := by
  rw [precedence_lt_iff]
  by_cases hge : right.minPlayers ≤ left.minPlayers
  · exact Or.inr ⟨UInt32.le_antisymm hle hge, htie hge⟩
  · exact Or.inl (UInt32.not_le.mp hge)

end Searcher

namespace Group

variable {players group : List Searcher} {view : ServerView} {available : Count}

/-- Those whom the selection leaves out come after all whom it takes. -/
theorem exists_append_of_select? (hselect : select? players view available = some group) :
    ∃ rest, players = group ++ rest := by
  simp only [select?] at hselect
  split_ifs at hselect
  obtain rfl := Option.some.inj hselect
  exact ⟨_, (List.take_append_drop _ _).symm⟩

end Group

namespace Evaluation

variable {now : Nat} {pool players left : List Searcher} {servers views : List ServerView}
variable {view : ServerView} {candidate : Candidate} {matched earlier later : List Candidate}

/-- The players stand in the order of their arrival. -/
def IsInLine (pool : List Searcher) : Prop :=
  pool.Pairwise fun left right => left.arrival < right.arrival

theorem isInLine_arrange (hplayers : (players.map (·.id)).Nodup) :
    IsInLine (Order.arrange waitedLonger players) := by
  have hwaited : ∀ left right : Searcher, waitedLonger left right ↔
      left.joinedAt < right.joinedAt ∨ left.joinedAt = right.joinedAt ∧ left.id ≤ right.id := by
    simp [waitedLonger]
  have htrans : ∀ left middle right, waitedLonger left middle → waitedLonger middle right →
      waitedLonger left right := by
    intro left middle right hleft hright
    rw [hwaited, UInt64.le_iff_toNat_le] at hleft hright ⊢
    omega
  have htotal : ∀ left right, waitedLonger left right ∨ waitedLonger right left := by
    intro left right
    rw [hwaited, hwaited, UInt64.le_iff_toNat_le, UInt64.le_iff_toNat_le]
    omega
  have hnodup : ((Order.arrange waitedLonger players).map (·.id)).Nodup :=
    ((arrange_waitedLonger_perm players).map Searcher.id).nodup_iff.mpr hplayers
  have hids := List.pairwise_map.mp hnodup
  refine ((Order.pairwise_arrange htrans htotal players).and hids).imp ?_
  rintro left right ⟨hbefore, hid⟩
  rw [hwaited] at hbefore
  rw [Searcher.arrival_lt_iff]
  exact hbefore.imp_right fun htie => ⟨htie.1, UInt64.lt_of_le_of_ne htie.2 hid⟩

theorem IsInLine.without (hpool : IsInLine pool) (candidate : Candidate) :
    IsInLine (without pool candidate) :=
  hpool.sublist List.filter_sublist

/-- Of a pool in the order of arrival, those who may join a server are looked at by precedence. -/
theorem IsInLine.pairwise_eligible (hpool : IsInLine pool) (view : ServerView) :
    (eligible pool view).Pairwise fun left right => left.precedence < right.precedence := by
  have hnamed : IsInLine (pool.filter fun player => player.prefers view.address) :=
    hpool.sublist List.filter_sublist
  have hordered := (Group.pairwise_ordered_ties hnamed).imp fun horder =>
    Searcher.precedence_lt_of_le horder.1 horder.2
  exact hordered.sublist List.filter_sublist

/-- In one round, whoever could have joined the group and did not comes after all its members. -/
theorem exists_group_preceding (hpool : IsInLine pool)
    (hcandidate : candidate? pool now view = some candidate) :
    ∃ group : List Searcher, candidate.players = group.map (·.id) ∧ group ⊆ pool ∧
      ∀ member ∈ group, ∀ player ∈ pool, player.prefers view.address → player.isEligible view →
        player.id ∉ candidate.players → member.precedence < player.precedence := by
  simp only [candidate?, Option.map_eq_some_iff] at hcandidate
  obtain ⟨group, hselect, rfl⟩ := hcandidate
  obtain ⟨rest, hsplit⟩ := Group.exists_append_of_select? hselect
  have hordered := hpool.pairwise_eligible view
  rw [hsplit, List.pairwise_append] at hordered
  refine ⟨group, rfl, fun member hmember => ?_, ?_⟩
  · have hlooked : member ∈ eligible pool view := hsplit ▸ List.mem_append_left rest hmember
    exact (mem_eligible.mp hlooked).1
  · intro member hmember player hplayer hprefers heligible hout
    have hlooked : player ∈ eligible pool view :=
      mem_eligible.mpr ⟨hplayer, hprefers, heligible⟩
    rw [hsplit] at hlooked
    have hrest : player ∈ rest := by
      refine (List.mem_append.mp hlooked).resolve_left fun hgroup => hout ?_
      exact List.mem_map_of_mem hgroup
    exact hordered.2.2 member hmember player hrest

/-- In the course of rounds, whoever could have joined a group, and neither did so nor joined one
before it, comes after all its members. -/
theorem Rounds.exists_group_preceding (hrounds : Rounds now pool servers matched left views)
    (hpool : IsInLine pool) (hservers : (servers.map (·.address)).Nodup)
    (hmatched : matched = earlier ++ candidate :: later) (hview : view ∈ servers)
    (haddress : view.address = candidate.server) :
    ∃ group : List Searcher, candidate.players = group.map (·.id) ∧ group ⊆ pool ∧
      ∀ member ∈ group, ∀ player ∈ pool, player.prefers view.address →
        player.ineligibility view = [] → player.id ∉ matchedPlayers earlier →
          player.id ∉ candidate.players → member.precedence < player.precedence := by
  induction hrounds generalizing earlier view with
  | done => simp at hmatched
  | @commit pool left servers arranged views chosen first matched harranged hchosen hfirst hrest
      ih =>
      have harranged_nodup := (harranged.map (·.address)).nodup_iff.mpr hservers
      have hview : view ∈ arranged := harranged.mem_iff.mpr hview
      cases earlier with
      | nil =>
          obtain ⟨rfl, -⟩ := List.cons.inj hmatched
          have hserver := (exists_group_of_candidate? hfirst).1
          obtain rfl : view = chosen := eq_of_address_eq harranged_nodup hview
            (List.mem_of_mem_filter hchosen) (haddress.trans hserver)
          obtain ⟨group, hplayers, hsubset, hprecede⟩ :=
            Evaluation.exists_group_preceding hpool hfirst
          refine ⟨group, hplayers, hsubset, ?_⟩
          intro member hmember player hplayer hprefers heligible _ hout
          exact hprecede member hmember player hplayer hprefers
            (ineligibility_eq_nil_iff.mp heligible) hout
      | cons other earlier =>
          obtain ⟨rfl, hlater⟩ := List.cons.inj hmatched
          -- The server is still there, with some of its slots reserved.
          have hreserved : reserved first.server first.players.length view ∈
              reserve first.server first.players.length arranged := by
            rw [reserve_eq_map _ _ harranged_nodup]
            exact List.mem_map_of_mem hview
          obtain ⟨group, hplayers, hsubset, hprecede⟩ := ih (hpool.without first)
            (by rwa [addresses_reserve]) hlater hreserved (by rwa [address_reserved])
          refine ⟨group, hplayers, fun member hmember =>
            List.mem_of_mem_filter (hsubset hmember), ?_⟩
          intro member hmember player hplayer hprefers heligible hunmatched hout
          rw [matchedPlayers_cons, List.mem_append, not_or] at hunmatched
          have hleft : player ∈ without pool first :=
            List.mem_filter.mpr ⟨hplayer, by simpa using hunmatched.1⟩
          apply hprecede member hmember player hleft
          · rwa [address_reserved]
          · rwa [ineligibility_reserved]
          · exact hunmatched.2
          · exact hout

/-- Nobody is passed over: a player who names the server of a group, may join it, and is neither in
the group nor in one that was committed before it comes after every member of the group.  So of two
who want the same company and may both join, the one who came later is not taken before the one who
came earlier. -/
theorem nobody_passed_over (players : List Searcher) (servers : List ServerView) (now : Nat)
    (hplayers : (players.map (·.id)).Nodup) (hservers : (servers.map (·.address)).Nodup) :
    ∀ earlier candidate later,
      (evaluate players servers now).matched = earlier ++ candidate :: later →
    ∀ view ∈ servers, view.address = candidate.server →
    ∃ group : List Searcher, candidate.players = group.map (·.id) ∧ group ⊆ players ∧
      ∀ member ∈ group, ∀ player ∈ players,
        player.prefers view.address → player.ineligibility view = [] →
        (player.id ∉ candidate.players → player.id ∉ matchedPlayers earlier →
          member.precedence < player.precedence) ∧
        (player.minPlayers = member.minPlayers → player.arrival < member.arrival →
          player.id ∈ matchedPlayers (earlier ++ [candidate])) := by
  intro earlier candidate later hmatched view hview haddress
  obtain ⟨left, views, hrounds, -, -⟩ := exists_rounds_evaluate players servers now
  obtain ⟨group, hgroup, hsubset, hprecede⟩ := hrounds.exists_group_preceding
    (isInLine_arrange hplayers) hservers hmatched hview haddress
  have hpool := arrange_waitedLonger_perm players
  refine ⟨group, hgroup, fun member hmember => hpool.mem_iff.mp (hsubset hmember), ?_⟩
  intro member hmember player hplayer hprefers heligible
  have hafter : player.id ∉ candidate.players → player.id ∉ matchedPlayers earlier →
      member.precedence < player.precedence := fun hout hunmatched =>
    hprecede member hmember player (hpool.mem_iff.mpr hplayer) hprefers heligible hunmatched hout
  refine ⟨hafter, fun hsame hearlier => ?_⟩
  by_contra hnever
  simp only [matchedPlayers, List.flatMap_append, List.mem_append, not_or] at hnever
  have hlast := hafter (by simpa using hnever.2) hnever.1
  rw [Searcher.precedence_lt_iff] at hlast
  rcases hlast with hless | ⟨-, hlater⟩
  · exact absurd (hsame ▸ hless) (UInt32.lt_irrefl _)
  · exact Searcher.arrival_lt_asymm hearlier hlater

/-- Players who want the same and name the same server, which has slots for two of them.  Two of
them came at one time, after the third. -/
def equalSearchers : List Searcher :=
  [⟨3, { minPlayers := 2 }, [⟨.loopback 28960, 40⟩], 10, 1, []⟩,
    ⟨2, { minPlayers := 2 }, [⟨.loopback 28960, 50⟩], 0, 1, []⟩,
    ⟨1, { minPlayers := 2 }, [⟨.loopback 28960, 60⟩], 10, 1, []⟩]

/-- The two slots go to those who came first, of whom the lower number counts as earlier. -/
theorem nobody_passed_over_equalSearchers :
    (equalSearchers.map (·.id)).Nodup ∧ ([smallServer].map (·.address)).Nodup ∧
    ∃ candidate, (evaluate equalSearchers [smallServer] 5000).matched = [candidate] ∧
      candidate.server = smallServer.address ∧ candidate.players = [2, 1] ∧
      ∃ group : List Searcher, candidate.players = group.map (·.id) ∧ group ⊆ equalSearchers ∧
        ∀ member ∈ group, ∀ player ∈ equalSearchers, player.id = 3 →
          member.precedence < player.precedence := by
  have hplayers : (equalSearchers.map (·.id)).Nodup := by decide
  have hservers : ([smallServer].map (·.address)).Nodup := by decide
  have hmay : ∀ player ∈ equalSearchers, player.prefers smallServer.address ∧
      player.ineligibility smallServer = [] := by decide
  refine ⟨hplayers, hservers, _, rfl, rfl, rfl, ?_⟩
  obtain ⟨group, hgroup, hsubset, hnever⟩ := nobody_passed_over equalSearchers [smallServer] 5000
    hplayers hservers [] _ [] rfl smallServer List.mem_cons_self rfl
  refine ⟨group, hgroup, hsubset, fun member hmember player hplayer hid => ?_⟩
  have hafter := hnever member hmember player hplayer (hmay player hplayer).1
    (hmay player hplayer).2
  exact hafter.1 (by rw [hid]; decide) (by simp [matchedPlayers])

end Evaluation

end Muster
