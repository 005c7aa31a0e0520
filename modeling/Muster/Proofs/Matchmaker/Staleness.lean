import Muster.Proofs.Matchmaker.Meanwhile
import Muster.Proofs.Matchmaker.Ticks

/-!
# Commitments of an older evaluation

The groups of a tick are made of the pool as it was when the tick began, and they are committed to
the pool as it is when the servers have answered.  Players of a group who have left are dropped, and
the others are handed over as if nothing had happened: neither the size of the group nor what its
players ask for is looked at again.  So a player may miss as much company as the group has lost, and
only those who have not changed their minds are sure to get what they ask for.
-/

namespace Muster.Matchmaker

open Effect (noticesFor)
open Evaluation (matchedPlayers)

variable {matchmaker : Matchmaker} {player : PlayerId} {now : Nat} {searcher : Searcher}
  {candidate : Candidate} {candidates : List Candidate} {views : List ServerView}
  {calls : List SearchCall}

/-! ## Groups that have lost players -/

def remaining (matchmaker : Matchmaker) (candidate : Candidate) : Candidate :=
  { candidate with players := candidate.players.filter matchmaker.isSearching }

/-- Those of a group who still search are found in the pool, in the order of the group. -/
theorem present_filter (matchmaker : Matchmaker) (players : List PlayerId) :
    (players.filter matchmaker.isSearching).filterMap matchmaker.searcher? =
      players.filterMap matchmaker.searcher? := by
  induction players with
  | nil => rfl
  | cons player rest ih =>
      cases hsearcher : matchmaker.searcher? player with
      | none => simp [isSearching, hsearcher, ih]
      | some searcher => simp [isSearching, hsearcher, ih]

theorem commitGroup_remaining (matchmaker : Matchmaker) (candidate : Candidate) (now : Nat) :
    matchmaker.commitGroup (matchmaker.remaining candidate) now =
      matchmaker.commitGroup candidate now := by
  simp only [commitGroup, remaining, present_filter]

/-- What remains of the groups is whoever of them still searches. -/
theorem matchedPlayers_remaining (matchmaker : Matchmaker) (candidates : List Candidate) :
    matchedPlayers (candidates.map matchmaker.remaining) =
      (matchedPlayers candidates).filter matchmaker.isSearching := by
  induction candidates with
  | nil => rfl
  | cons candidate rest ih =>
      rw [List.map_cons, Evaluation.matchedPlayers_cons, ih, Evaluation.matchedPlayers_cons,
        List.filter_append]
      rfl

/-- Groups are committed as if they had never had the players who are no longer in the pool. -/
theorem commit_remaining (hconsistent : matchmaker.IsConsistent)
    (hplayers : (matchedPlayers candidates).Nodup) (now : Nat) :
    commit now (candidates.map matchmaker.remaining) matchmaker =
      commit now candidates matchmaker := by
  induction candidates generalizing matchmaker with
  | nil => rfl
  | cons candidate rest ih =>
      rw [Evaluation.matchedPlayers_cons, List.nodup_append] at hplayers
      obtain ⟨hfirst, hrest, hdisjoint⟩ := hplayers
      let next := (matchmaker.commitGroup candidate now).1
      have hnext : next.IsConsistent :=
        (moves_commitGroup hconsistent.isKeyed hfirst now).isConsistent hconsistent.nodup_roll
      have hremain : ∀ player ∈ (matchmaker.remaining candidate).players,
          matchmaker.isSearching player := fun _ hplayer => List.of_mem_filter hplayer
      have hconveys := (conveys_commitGroup hconsistent (hfirst.filter _) hremain now).1
      rw [commitGroup_remaining] at hconveys
      -- The first group takes none of the others' players out of the pool.
      have hsame : rest.map next.remaining = rest.map matchmaker.remaining := by
        apply List.map_congr_left
        intro other hother
        have hplayers : ∀ player ∈ other.players,
            next.isSearching player = matchmaker.isSearching player := by
          intro player hplayer
          rw [isSearching, isSearching, hconveys.searcher?_eq]
          intro hmember
          have hmatched := Evaluation.mem_matchedPlayers.mpr ⟨other, hother, hplayer⟩
          exact hdisjoint player (List.mem_of_mem_filter hmember) player hmatched rfl
        simp only [remaining, List.filter_congr hplayers]
      have hrest' := ih hnext hrest
      rw [hsame] at hrest'
      simp only [List.map_cons, commit, commitGroup_remaining]
      exact congrArg (fun outcome => (outcome.1,
        (matchmaker.commitGroup candidate now).2.1 :: outcome.2.1,
        (matchmaker.commitGroup candidate now).2.2 ++ outcome.2.2)) hrest'

/-- What becomes of the players of a group who are still in the pool when it is committed. -/
theorem settled_commit (hconsistent : matchmaker.IsConsistent)
    (htime : matchmaker.registry.HasTime) (hplayers : (matchedPlayers candidates).Nodup)
    (now : Nat) (hcandidate : candidate ∈ candidates)
    (hsearcher : matchmaker.searcher? searcher.id = some searcher)
    (hplayer : searcher.id ∈ candidate.players) :
    Settled now candidate.server (matchmaker.remaining candidate).players searcher
      (commit now candidates matchmaker).1 (commit now candidates matchmaker).2.2 := by
  have hmatched := matchedPlayers_remaining matchmaker candidates
  have hnodup : (matchedPlayers (candidates.map matchmaker.remaining)).Nodup := by
    rw [hmatched]
    exact hplayers.filter _
  have hsearching : ∀ player ∈ matchedPlayers (candidates.map matchmaker.remaining),
      matchmaker.isSearching player := by
    intro player hmember
    rw [hmatched] at hmember
    exact List.of_mem_filter hmember
  obtain ⟨-, -, hsettled⟩ := conveys_commit hconsistent hnodup hsearching now
  rw [commit_remaining hconsistent hplayers] at hsettled
  have hremains : searcher.id ∈ (matchmaker.remaining candidate).players :=
    List.mem_filter.mpr ⟨hplayer, isSearching_iff_exists.mpr ⟨searcher, hsearcher⟩⟩
  exact hsettled htime _ (List.mem_map_of_mem hcandidate) searcher hsearcher hremains

/-! ## Entries -/

theorem searcher?_foldl_removeSearcher_self (matchmaker : Matchmaker) {players : List PlayerId}
    (hplayer : player ∈ players) :
    (players.foldl removeSearcher matchmaker).searcher? player = none := by
  rw [foldl_removeSearcher, searcher?, List.find?_eq_none]
  intro searcher hsearcher hid
  have hkept := List.of_mem_filter hsearcher
  rw [beq_iff_eq.mp hid, List.contains_iff_mem.mpr hplayer] at hkept
  cases hkept

theorem searcher?_handOver_of_forall {other : Searcher} (server : Endpoint)
    (group : List PlayerId) (now : Nat) (hother : other.id = player → other = searcher)
    (hentry : ∀ found, matchmaker.searcher? player = some found → found = searcher) :
    ∀ found, (matchmaker.handOver server group other now).1.searcher? player = some found →
      found = searcher := by
  intro found hfound
  rw [handOver] at hfound
  cases henqueue : matchmaker.enqueue server other.id now with
  | ok outcome =>
      obtain ⟨next, effects⟩ := outcome
      obtain ⟨_, _, _, -, -, hnext, -⟩ := enqueue_eq_ok henqueue
      simp only [henqueue, searcher?, hnext, replaceServer] at hfound
      exact hentry found hfound
  | error error =>
      simp only [henqueue] at hfound
      by_cases hplayer : other.id = player
      · rw [← hplayer, searcher?_addSearcher_self, Option.some.injEq] at hfound
        exact hfound ▸ hother hplayer
      · rw [searcher?_addSearcher_other matchmaker (Ne.symm hplayer)] at hfound
        exact hentry found hfound

/-- The entry of a player in the pool is one and the same while a group is handed over. -/
theorem searcher?_handOverAll_of_forall {others : List Searcher} (server : Endpoint)
    (group : List PlayerId) (now : Nat)
    (hothers : ∀ other ∈ others, other.id = player → other = searcher)
    (hentry : ∀ found, matchmaker.searcher? player = some found → found = searcher) :
    ∀ found, (handOverAll server group now others matchmaker).1.searcher? player = some found →
      found = searcher := by
  induction others generalizing matchmaker with
  | nil => exact hentry
  | cons other rest ih =>
      rw [List.forall_mem_cons] at hothers
      exact ih hothers.2 (searcher?_handOver_of_forall server group now hothers.1 hentry)

theorem searcher?_commitGroup_of_forall (candidate : Candidate) (now : Nat)
    (hentry : ∀ found, matchmaker.searcher? player = some found → found = searcher) :
    ∀ found, (matchmaker.commitGroup candidate now).1.searcher? player = some found →
      found = searcher := by
  simp only [commitGroup]
  split_ifs
  · exact hentry
  · apply searcher?_handOverAll_of_forall
    · intro other hother hplayer
      obtain ⟨member, -, hmember⟩ := List.mem_filterMap.mp hother
      obtain rfl : member = player := (searcher?_eq_some hmember).2.symm.trans hplayer
      exact hentry other hmember
    · intro found hfound
      by_cases hplayer :
          player ∈ (candidate.players.filterMap matchmaker.searcher?).map (·.id)
      · rw [searcher?_foldl_removeSearcher_self matchmaker hplayer] at hfound
        cases hfound
      · rw [searcher?_foldl_removeSearcher matchmaker hplayer] at hfound
        exact hentry found hfound

/-- The commitment changes no entry of the pool: each stays as it is or goes. -/
theorem searcher?_commit_of_forall (candidates : List Candidate) (now : Nat)
    (hentry : ∀ found, matchmaker.searcher? player = some found → found = searcher) :
    ∀ found, (commit now candidates matchmaker).1.searcher? player = some found →
      found = searcher := by
  induction candidates generalizing matchmaker with
  | nil => exact hentry
  | cons candidate rest ih => exact ih (searcher?_commitGroup_of_forall candidate now hentry)

/-! ## Company -/

def takes (before after : Matchmaker) (server : Endpoint) (player : PlayerId) : Bool :=
  before.isSearching player && decide (.queue server ∈ after.places player)

theorem takes_iff {before after : Matchmaker} (hkeyed : after.registry.IsKeyed)
    {server : Endpoint} :
    takes before after server player ↔ before.isSearching player ∧
      ∃ known, after.registry.get? server = some known ∧ known.queue.contains player := by
  rw [takes, Bool.and_eq_true, decide_eq_true_eq, queue_mem_places_iff hkeyed]

def taken (before after : Matchmaker) (candidate : Candidate) : List PlayerId :=
  candidate.players.filter (takes before after candidate.server)

def missed (before after : Matchmaker) (candidate : Candidate) : List PlayerId :=
  candidate.players.filter fun player => !takes before after candidate.server player

/-- Every player of the group who is taken along finds as many players as wanted: those on the
server and those of the group who are taken along. -/
def IsWorthJoining (view : ServerView) (before after : Matchmaker) (candidate : Candidate) :
    Prop :=
  ∀ player ∈ taken before after candidate, ∀ searcher, before.searcher? player = some searcher →
    searcher.minPlayers.toNat ≤
      view.realPlayers.toNat + (taken before after candidate).length

theorem length_taken_add_missed (before after : Matchmaker) (candidate : Candidate) :
    (taken before after candidate).length + (missed before after candidate).length =
      candidate.players.length :=
  (List.length_eq_length_filter_add _).symm

/-! ## Groups after departures -/

section Departures

variable {next : Matchmaker} {evaluation : Evaluation} {effects : List Effect}
  (hcalls : ∀ call ∈ calls, call.isDeparture)

include hcalls

/-- Whoever is taken along has searched all the time, and found enough players when the whole group
was counted. -/
theorem company_of_taken {view : ServerView}
    (hfits : ∀ searcher ∈ matchmaker.pool, searcher.id ∈ candidate.players →
      searcher.minPlayers.toNat ≤ view.realPlayers.toNat + candidate.players.length)
    (htaken : player ∈ taken (matchmaker.heedAll calls) next candidate) :
    ∃ searcher, matchmaker.searcher? player = some searcher ∧
      (matchmaker.heedAll calls).searcher? player = some searcher ∧
      searcher.minPlayers.toNat ≤ view.realPlayers.toNat +
        (taken (matchmaker.heedAll calls) next candidate).length +
        (missed (matchmaker.heedAll calls) next candidate).length := by
  have hlength := length_taken_add_missed (matchmaker.heedAll calls) next candidate
  obtain ⟨hplayer, htakes⟩ := List.mem_filter.mp htaken
  have hsearching := (Bool.and_eq_true_iff.mp htakes).1
  obtain ⟨searcher, hsearcher⟩ := isSearching_iff_exists.mp hsearching
  have hearlier := searcher?_of_departures hcalls hsearcher
  obtain ⟨hmember, rfl⟩ := searcher?_eq_some hearlier
  have hgroup := hfits searcher hmember hplayer
  exact ⟨searcher, hearlier, hsearcher, by omega⟩

variable (hconsistent : matchmaker.IsConsistent)
  (hfinish : (matchmaker.heedAll calls).finishTick matchmaker.pool views now =
    (next, evaluation, effects))

include hconsistent hfinish

omit hcalls in
theorem isKeyed_finishTick_heedAll : next.registry.IsKeyed := by
  have hmoves := moves_finishTick (hconsistent.heedAll calls).isKeyed hconsistent.nodup_pool
    views now
  rw [hfinish] at hmoves
  exact hmoves.isKeyed

variable (htime : matchmaker.registry.HasTime)
  (hcandidate : candidate ∈ (evaluate matchmaker.pool views now).matched)

include htime hcandidate

/-- What becomes of the players of a group who are not taken along. -/
theorem missed_cases (hmissed : player ∈ missed (matchmaker.heedAll calls) next candidate) :
    (∃ call ∈ calls, call.player = player) ∨
      .failure .queueFull ∈ noticesFor player effects ∨
      next.registry.get? candidate.server = none := by
  let current := matchmaker.heedAll calls
  have hkeyed := isKeyed_finishTick_heedAll hconsistent hfinish
  have hpart := Evaluation.matchedPlayers_evaluate_subperm hconsistent.nodup_pool views now
  have hplayers := Parts.nodup hpart hconsistent.nodup_pool
  obtain ⟨hplayer, hout⟩ := List.mem_filter.mp hmissed
  have hpooled : player ∈ matchmaker.pool.map (·.id) :=
    hpart.subset (Evaluation.mem_matchedPlayers.mpr ⟨candidate, hcandidate, hplayer⟩)
  obtain ⟨original, horiginal⟩ := isSearching_iff_exists.mp (isSearching_iff.mpr hpooled)
  obtain ⟨hnext, hrest⟩ := Prod.mk.inj hfinish
  obtain ⟨-, heffects⟩ := Prod.mk.inj hrest
  cases hsearching : current.isSearching player with
  | false =>
      obtain ⟨call, hcall, hcaller, -⟩ := exists_departure horiginal hsearching
      exact Or.inl ⟨call, hcall, hcaller⟩
  | true =>
      right
      obtain ⟨searcher, hsearcher⟩ := isSearching_iff_exists.mp hsearching
      obtain rfl := (searcher?_eq_some hsearcher).2
      have hsettled := settled_commit (hconsistent.heedAll calls)
        (hasTime_heedAll_departures htime hcalls) hplayers now hcandidate hsearcher hplayer
      cases hsettled with
      | seated hgone hseats hnotices =>
          obtain ⟨server, hget, hserver⟩ := hseats
          have htaken : takes current next candidate.server searcher.id := by
            rw [takes_iff hkeyed]
            refine ⟨hsearching, server, ?_, hserver.contains⟩
            rw [← hnext, registry_report]
            exact hget
          rw [htaken] at hout
          cases hout
      | refused hsearches hnotices =>
          left
          rw [← heffects, Effect.noticesFor_append, hnotices]
          simp
      | stranded hsearches hgone hnotices =>
          right
          rw [← hnext, registry_report]
          exact hgone

/-- A server that takes anybody of a group takes all who have not left and are not refused. -/
theorem missed_eq_nil (htaken : player ∈ taken (matchmaker.heedAll calls) next candidate)
    (hcomplete : ∀ player ∈ candidate.players, (∀ call ∈ calls, call.player ≠ player) ∧
      .failure .queueFull ∉ noticesFor player effects) :
    missed (matchmaker.heedAll calls) next candidate = [] := by
  have hkeyed := isKeyed_finishTick_heedAll hconsistent hfinish
  obtain ⟨-, server, hget, -⟩ := (takes_iff hkeyed).mp (List.of_mem_filter htaken)
  rw [List.eq_nil_iff_forall_not_mem]
  intro other hother
  obtain ⟨hstays, hheard⟩ := hcomplete other (List.mem_of_mem_filter hother)
  rcases missed_cases hcalls hconsistent hfinish htime hcandidate hother with
    ⟨call, hcall, hcaller⟩ | hrefused | hgone
  · exact hstays call hcall hcaller
  · exact hheard hrefused
  · rw [hgone] at hget
    cases hget

end Departures

/-- A group that has lost players since it was made is handed over all the same.  Those who are
taken along find as many players as they want, if those of the group who are not taken along are
counted too.  Each of these has left in the meantime, or the queue has refused the player, or the
server has been forgotten.  So a group of which nobody has left or is refused is worth joining. -/
theorem company_finishTick {next : Matchmaker} {evaluation : Evaluation} {effects : List Effect}
    (hconsistent : matchmaker.IsConsistent) (hviews : (views.map (·.address)).Nodup)
    (hcalls : ∀ call ∈ calls, call.isDeparture)
    (hfinish : (matchmaker.heedAll calls).finishTick matchmaker.pool views now =
      (next, evaluation, effects))
    (hcandidate : candidate ∈ (evaluate matchmaker.pool views now).matched) :
    ∃ view ∈ views, view.address = candidate.server ∧
      (∀ player ∈ taken (matchmaker.heedAll calls) next candidate, ∃ searcher,
        matchmaker.searcher? player = some searcher ∧
        (matchmaker.heedAll calls).searcher? player = some searcher ∧
        searcher.minPlayers.toNat ≤ view.realPlayers.toNat +
          (taken (matchmaker.heedAll calls) next candidate).length +
          (missed (matchmaker.heedAll calls) next candidate).length) ∧
      (matchmaker.registry.HasTime →
        (∀ player ∈ missed (matchmaker.heedAll calls) next candidate,
          (∃ call ∈ calls, call.player = player) ∨
          .failure .queueFull ∈ noticesFor player effects ∨
          next.registry.get? candidate.server = none) ∧
        ((∀ player ∈ candidate.players, (∀ call ∈ calls, call.player ≠ player) ∧
            .failure .queueFull ∉ noticesFor player effects) →
          IsWorthJoining view (matchmaker.heedAll calls) next candidate)) := by
  have hsafe := (Evaluation.evaluate_isSafe matchmaker.pool views now hconsistent.nodup_pool
    hviews).2.2.1
  obtain ⟨view, hview, haddress, hsuited⟩ := hsafe.suited candidate hcandidate
  have hfits : ∀ searcher ∈ matchmaker.pool, searcher.id ∈ candidate.players →
      searcher.minPlayers.toNat ≤ view.realPlayers.toNat + candidate.players.length :=
    fun searcher hmember hplayer => (hsuited searcher hmember hplayer).2.2
  refine ⟨view, hview, haddress, fun player => company_of_taken hcalls hfits,
    fun htime => ⟨fun player => missed_cases hcalls hconsistent hfinish htime hcandidate, ?_⟩⟩
  intro hcomplete player htaken searcher hsearcher
  have hnone := missed_eq_nil hcalls hconsistent hfinish htime hcandidate htaken hcomplete
  obtain ⟨entry, -, hentry, hcompany⟩ := company_of_taken hcalls hfits htaken
  rw [hsearcher, Option.some.injEq] at hentry
  rw [hnone, List.length_nil, Nat.add_zero, ← hentry] at hcompany
  exact hcompany

/-- Two players who want company, after a tick in which no server answered. -/
def waitingPair (config : QueueConfig) : Matchmaker :=
  let both := (empty config).heedAll
    [.enter 1 { minPlayers := 2 } [⟨.loopback 28960, 40⟩] 0,
      .enter 2 { minPlayers := 2 } [⟨.loopback 28960, 50⟩] 10]
  (both.finishTick both.pool [] 1000).1

theorem isConsistent_waitingPair (config : QueueConfig) : (waitingPair config).IsConsistent := by
  have hboth := (isConsistent_empty config).heedAll
    [.enter 1 { minPlayers := 2 } [⟨.loopback 28960, 40⟩] 0,
      .enter 2 { minPlayers := 2 } [⟨.loopback 28960, 50⟩] 10]
  exact (moves_finishTick hboth.isKeyed hboth.nodup_pool [] 1000).isConsistent hboth.nodup_roll

theorem hasTime_waitingPair : (waitingPair {}).registry.HasTime := by
  intro address server hget
  have hserver := (Registry.mem_of_get? hget).1
  have hservers : ∃ only, (waitingPair {}).registry.servers = [only] ∧ only.queue.config = {} :=
    ⟨_, rfl, rfl⟩
  obtain ⟨only, honly, hconfig⟩ := hservers
  rw [honly, List.mem_singleton] at hserver
  rw [hserver, hconfig]
  exact ⟨by decide, by decide⟩

/-- One of the two leaves while the server is asked, and is the only one the other misses.  Without
that they are worth each other's while. -/
theorem company_finishTick_waitingPair :
    (∃ candidate next evaluation effects,
      (evaluate (waitingPair {}).pool [Evaluation.smallServer] 5000).matched = [candidate] ∧
      ((waitingPair {}).heedAll [.leave 2]).finishTick (waitingPair {}).pool
        [Evaluation.smallServer] 5000 = (next, evaluation, effects) ∧
      taken ((waitingPair {}).heedAll [.leave 2]) next candidate = [1] ∧
      missed ((waitingPair {}).heedAll [.leave 2]) next candidate = [2] ∧
      ∃ view ∈ [Evaluation.smallServer], view.address = candidate.server ∧
        ∀ player ∈ [1], ∃ searcher, (waitingPair {}).searcher? player = some searcher ∧
          searcher.minPlayers.toNat ≤ view.realPlayers.toNat + 1 + 1) ∧
    ∃ candidate next evaluation effects,
      (evaluate (waitingPair {}).pool [Evaluation.smallServer] 5000).matched = [candidate] ∧
      ((waitingPair {}).heedAll []).finishTick (waitingPair {}).pool
        [Evaluation.smallServer] 5000 = (next, evaluation, effects) ∧
      taken ((waitingPair {}).heedAll []) next candidate = [1, 2] ∧
      ∃ view ∈ [Evaluation.smallServer],
        IsWorthJoining view ((waitingPair {}).heedAll []) next candidate := by
  have hviews : ([Evaluation.smallServer].map (·.address)).Nodup := by decide
  constructor
  · have hcalls : ∀ call ∈ [SearchCall.leave 2], call.isDeparture := by
      simp [SearchCall.isDeparture]
    refine ⟨_, _, _, _, rfl, rfl, ?taken, ?missed, ?company⟩
    case taken => decide +kernel
    case missed => decide +kernel
    case company =>
      obtain ⟨view, hview, haddress, hcompany, -⟩ := company_finishTick
        (isConsistent_waitingPair {}) hviews hcalls rfl List.mem_cons_self
      refine ⟨view, hview, haddress, fun player hplayer => ?_⟩
      obtain ⟨searcher, hsearcher, -, hfits⟩ := hcompany player hplayer
      exact ⟨searcher, hsearcher, hfits⟩
  · have hcalls : ∀ call ∈ ([] : List SearchCall), call.isDeparture := by simp
    refine ⟨_, _, _, _, rfl, rfl, ?taken, ?company⟩
    case taken => decide +kernel
    case company =>
      obtain ⟨view, hview, -, -, hworth⟩ := company_finishTick
        (isConsistent_waitingPair {}) hviews hcalls rfl List.mem_cons_self
      refine ⟨view, hview, (hworth hasTime_waitingPair).2 ?_⟩
      let effects := (((waitingPair {}).heedAll []).finishTick (waitingPair {}).pool
        [Evaluation.smallServer] 5000).2.2
      have hheard : .failure .queueFull ∉ noticesFor 1 effects ∧
          .failure .queueFull ∉ noticesFor 2 effects := by
        decide +kernel
      have hplayers : ∀ player ∈ [1, 2], .failure .queueFull ∉ noticesFor player effects := by
        rw [List.forall_mem_cons, List.forall_mem_singleton]
        exact hheard
      intro player hplayer
      exact ⟨by simp, hplayers player hplayer⟩

/-- A player who wants company is left alone: the other one has left, or there is no room for the
other in the queue. -/
theorem not_isWorthJoining_waitingPair :
    (∃ candidate,
      (evaluate (waitingPair {}).pool [Evaluation.smallServer] 5000).matched = [candidate] ∧
      ¬ IsWorthJoining Evaluation.smallServer ((waitingPair {}).heedAll [.leave 2])
        (((waitingPair {}).heedAll [.leave 2]).finishTick (waitingPair {}).pool
          [Evaluation.smallServer] 5000).1 candidate) ∧
    ∃ candidate,
      (evaluate (waitingPair { maxQueueLength := 1 }).pool [Evaluation.smallServer] 5000).matched =
        [candidate] ∧
      ¬ IsWorthJoining Evaluation.smallServer (waitingPair { maxQueueLength := 1 })
        ((waitingPair { maxQueueLength := 1 }).finishTick (waitingPair { maxQueueLength := 1 }).pool
          [Evaluation.smallServer] 5000).1 candidate := by
  refine ⟨⟨_, rfl, fun hworth => ?_⟩, ⟨_, rfl, fun hworth => ?_⟩⟩
  · have hfits := hworth 1 (by decide +kernel) _ rfl
    exact absurd hfits (by decide +kernel)
  · have hfits := hworth 1 (by decide +kernel) _ rfl
    exact absurd hfits (by decide +kernel)

/-! ## Searches -/

/-- Every player of the group who is taken along names the server by then. -/
def IsStillNamed (before after : Matchmaker) (candidate : Candidate) : Prop :=
  ∀ player ∈ taken before after candidate, ∃ searcher,
    before.searcher? player = some searcher ∧ searcher.prefers candidate.server

/-- Whoever has other attempts or hints after the step was in the snapshot and has not left
since. -/
def CountsOnly (snapshot : List Searcher) (calls : List SearchCall) (before after : Matchmaker) :
    Prop :=
  ∀ player searcher changed, before.searcher? player = some searcher →
    after.searcher? player = some changed → changed ≠ searcher →
    player ∈ snapshot.map (·.id) ∧
      ∀ call ∈ calls, call.player = player → call.isDeparture = false

/-- The report finds players by their numbers alone.  So it changes no entry but those of players
of the snapshot, and counts one attempt for each of these. -/
theorem searcher?_finishTick_of_ne {snapshot : List Searcher} {changed : Searcher}
    (hsnapshot : (snapshot.map (·.id)).Nodup)
    (hsearcher : matchmaker.searcher? player = some searcher)
    (hchanged : (matchmaker.finishTick snapshot views now).1.searcher? player = some changed)
    (hne : changed ≠ searcher) :
    player ∈ snapshot.map (·.id) ∧ changed = counted (evaluate snapshot views now) searcher := by
  have hentry : ∀ found, matchmaker.searcher? player = some found → found = searcher := by
    intro found hfound
    rw [hsearcher, Option.some.injEq] at hfound
    exact hfound.symm
  have hcommit :=
    searcher?_commit_of_forall (evaluate snapshot views now).matched now hentry
  by_cases hplayer : player ∈ snapshot.map (·.id)
  · refine ⟨hplayer, ?_⟩
    have hreport := (report_of_mem hsnapshot hplayer (evaluate snapshot views now)
      (commit now (evaluate snapshot views now).matched matchmaker).1).1
    obtain ⟨found, hfound, rfl⟩ := Option.map_eq_some_iff.mp (hreport.symm.trans hchanged)
    rw [hcommit found hfound]
  · have hreport := (report_of_not_mem hplayer (evaluate snapshot views now)
      (commit now (evaluate snapshot views now).matched matchmaker).1).1
    exact absurd (hcommit changed (hreport.symm.trans hchanged)) hne

/-- Players of a group named its server when the group was made. -/
theorem named_of_matched (hconsistent : matchmaker.IsConsistent)
    (hviews : (views.map (·.address)).Nodup)
    (hcandidate : candidate ∈ (evaluate matchmaker.pool views now).matched)
    (hplayer : player ∈ candidate.players) :
    ∃ original, matchmaker.searcher? player = some original ∧
      original.prefers candidate.server := by
  have hsafe := (Evaluation.evaluate_isSafe matchmaker.pool views now hconsistent.nodup_pool
    hviews).2.2.1
  obtain ⟨view, -, haddress, hsuited⟩ := hsafe.suited candidate hcandidate
  have hpooled := hsafe.known candidate hcandidate player hplayer
  obtain ⟨original, horiginal⟩ := isSearching_iff_exists.mp (isSearching_iff.mpr hpooled)
  obtain ⟨hmember, rfl⟩ := searcher?_eq_some horiginal
  refine ⟨original, horiginal, ?_⟩
  rw [← haddress]
  exact (hsuited original hmember hplayer).1

/-- Unless the player has left since the snapshot, the search that is counted is the one from
then. -/
theorem counted_of_stay {original : Searcher}
    (horiginal : matchmaker.searcher? player = some original)
    (hsearcher : (matchmaker.heedAll calls).searcher? player = some searcher)
    (hstays : ∀ call ∈ calls, call.player = player → call.isDeparture = false)
    (evaluation : Evaluation) :
    (counted evaluation searcher).joinedAt = original.joinedAt ∧
      (counted evaluation searcher).attempts = original.attempts + 1 := by
  obtain ⟨criteria, servers, hentry⟩ := searcher?_heedAll_of_stay horiginal hstays
  rw [hsearcher, Option.some.injEq] at hentry
  rw [hentry]
  exact ⟨rfl, rfl⟩

/-- A tick respects the searches that have not been disturbed since it began.  Whoever is taken to
a queue named the server when the tick began, and names it still if the player has not asked for
something else or left since.  And whoever has other attempts or hints afterwards was searching when
the tick began: unless the player has left since, it is the same search, and has one attempt more
than then. -/
theorem searches_finishTick {next : Matchmaker} {evaluation : Evaluation} {effects : List Effect}
    (hconsistent : matchmaker.IsConsistent) (hviews : (views.map (·.address)).Nodup)
    (hfinish : (matchmaker.heedAll calls).finishTick matchmaker.pool views now =
      (next, evaluation, effects)) :
    (∀ candidate ∈ (evaluate matchmaker.pool views now).matched,
      (∀ player ∈ taken (matchmaker.heedAll calls) next candidate, ∃ original,
        matchmaker.searcher? player = some original ∧ original.prefers candidate.server ∧
        ((∀ call ∈ calls, call.player = player → call.isDisturbance = false) →
          (matchmaker.heedAll calls).searcher? player = some original)) ∧
      ((∀ player ∈ candidate.players, ∀ call ∈ calls, call.player = player →
          call.isDisturbance = false) →
        IsStillNamed (matchmaker.heedAll calls) next candidate)) ∧
    (∀ player searcher changed, (matchmaker.heedAll calls).searcher? player = some searcher →
      next.searcher? player = some changed → changed ≠ searcher →
      ∃ original, matchmaker.searcher? player = some original ∧
        changed.attempts = searcher.attempts + 1 ∧
        ((∀ call ∈ calls, call.player = player → call.isDeparture = false) →
          changed.joinedAt = original.joinedAt ∧
            changed.attempts = original.attempts + 1)) ∧
    ((∀ call ∈ calls, call.isDeparture → ∀ other ∈ calls, other.player = call.player →
        other.isEntry = false) →
      CountsOnly matchmaker.pool calls (matchmaker.heedAll calls) next) := by
  have hchanges : ∀ player searcher changed,
      (matchmaker.heedAll calls).searcher? player = some searcher →
      next.searcher? player = some changed → changed ≠ searcher →
      player ∈ matchmaker.pool.map (·.id) ∧
        changed = counted (evaluate matchmaker.pool views now) searcher := by
    intro player searcher changed hsearcher hchanged
    have hnext : ((matchmaker.heedAll calls).finishTick matchmaker.pool views now).1 = next :=
      congrArg Prod.fst hfinish
    rw [← hnext] at hchanged
    exact searcher?_finishTick_of_ne hconsistent.nodup_pool hsearcher hchanged
  refine ⟨fun candidate hcandidate => ⟨?named, ?still⟩, ?counted, ?only⟩
  case named =>
    intro player htaken
    obtain ⟨original, horiginal, hprefers⟩ :=
      named_of_matched hconsistent hviews hcandidate (List.mem_of_mem_filter htaken)
    exact ⟨original, horiginal, hprefers, searcher?_heedAll_of_undisturbed horiginal⟩
  case still =>
    intro hundisturbed player htaken
    have hplayer := List.mem_of_mem_filter htaken
    obtain ⟨original, horiginal, hprefers⟩ :=
      named_of_matched hconsistent hviews hcandidate hplayer
    exact ⟨original, searcher?_heedAll_of_undisturbed horiginal (hundisturbed player hplayer),
      hprefers⟩
  case counted =>
    intro player searcher changed hsearcher hchanged hne
    obtain ⟨hpooled, rfl⟩ := hchanges player searcher changed hsearcher hchanged hne
    obtain ⟨original, horiginal⟩ := isSearching_iff_exists.mp (isSearching_iff.mpr hpooled)
    exact ⟨original, horiginal, rfl, fun hstays => counted_of_stay horiginal hsearcher hstays _⟩
  case only =>
    intro honce player searcher changed hsearcher hchanged hne
    refine ⟨(hchanges player searcher changed hsearcher hchanged hne).1, ?_⟩
    rintro call hcall rfl
    rw [← Bool.not_eq_true]
    intro hdeparts
    -- Who has left and not come back is not in the pool.
    rw [searcher?_heedAll_of_departure (honce call hcall hdeparts) ⟨call, hcall, rfl, hdeparts⟩]
      at hsearcher
    cases hsearcher

/-- One of the two asks for another server. -/
def changeOfMind : List SearchCall :=
  [.updatePreferences 2 {} [⟨.loopback 28961, 30⟩] 2000]

/-- One of the two leaves and enters again. -/
def freshStart : List SearchCall :=
  [.leave 2, .enter 2 {} [⟨.loopback 28960, 50⟩] 2000]

/-- One of the two asks for another server while the first one is asked.  The other, who has done
nothing, still names the server of the match.  If no server answers, the changed search goes on. -/
theorem searches_finishTick_changeOfMind :
    (∃ candidate next evaluation effects,
      (evaluate (waitingPair {}).pool [Evaluation.smallServer] 5000).matched = [candidate] ∧
      ((waitingPair {}).heedAll changeOfMind).finishTick (waitingPair {}).pool
        [Evaluation.smallServer] 5000 = (next, evaluation, effects) ∧
      taken ((waitingPair {}).heedAll changeOfMind) next candidate = [1, 2] ∧
      ∃ searcher, ((waitingPair {}).heedAll changeOfMind).searcher? 1 = some searcher ∧
        searcher.prefers candidate.server) ∧
    ∃ next evaluation effects changed,
      ((waitingPair {}).heedAll changeOfMind).finishTick (waitingPair {}).pool [] 5000 =
        (next, evaluation, effects) ∧
      next.searcher? 2 = some changed ∧ ∃ original, (waitingPair {}).searcher? 2 = some original ∧
        changed.joinedAt = original.joinedAt ∧ changed.attempts = original.attempts + 1 := by
  constructor
  · have hviews : ([Evaluation.smallServer].map (·.address)).Nodup := by decide
    have hsearches := searches_finishTick (isConsistent_waitingPair {}) hviews
      (rfl : ((waitingPair {}).heedAll changeOfMind).finishTick (waitingPair {}).pool
        [Evaluation.smallServer] 5000 = _)
    obtain ⟨original, -, hprefers, hkept⟩ :=
      (hsearches.1 _ List.mem_cons_self).1 1 (by decide +kernel)
    refine ⟨_, _, _, _, rfl, rfl, by decide +kernel, original, hkept ?_, hprefers⟩
    simp [changeOfMind, SearchCall.player]
  · have hviews : (([] : List ServerView).map (·.address)).Nodup := List.nodup_nil
    have hsearches := searches_finishTick (isConsistent_waitingPair {}) hviews
      (rfl : ((waitingPair {}).heedAll changeOfMind).finishTick (waitingPair {}).pool [] 5000 = _)
    obtain ⟨original, horiginal, -, hcounted⟩ :=
      hsearches.2.1 2 _ _ rfl rfl (by decide +kernel)
    refine ⟨_, _, _, _, rfl, rfl, original, horiginal, hcounted ?_⟩
    simp [changeOfMind, SearchCall.isDeparture]

/-- A player is sent to a server that the player no longer names, and a search is counted that did
not yet exist when the tick began. -/
theorem not_isStillNamed_changeOfMind :
    (∃ candidate,
      (evaluate (waitingPair {}).pool [Evaluation.smallServer] 5000).matched = [candidate] ∧
      ¬ IsStillNamed ((waitingPair {}).heedAll changeOfMind)
        (((waitingPair {}).heedAll changeOfMind).finishTick (waitingPair {}).pool
          [Evaluation.smallServer] 5000).1 candidate) ∧
    ¬ CountsOnly (waitingPair {}).pool freshStart ((waitingPair {}).heedAll freshStart)
      (((waitingPair {}).heedAll freshStart).finishTick (waitingPair {}).pool [] 5000).1 := by
  refine ⟨⟨_, rfl, fun hnamed => ?_⟩, fun hcounts => ?_⟩
  · obtain ⟨searcher, hsearcher, hprefers⟩ := hnamed 2 (by decide +kernel)
    obtain rfl := Option.some.inj hsearcher
    exact absurd hprefers (by decide +kernel)
  · have hstays := (hcounts 2 _ _ rfl rfl (by decide +kernel)).2 (.leave 2) List.mem_cons_self rfl
    cases hstays

end Muster.Matchmaker
