import Mathlib.Logic.Basic
import Muster.Proofs.Match.Safety
import Muster.Proofs.Matchmaker.Probing
import Muster.Proofs.Matchmaker.Reporting

/-!
# Ticks without interruption

A tick that nothing interrupts loses nobody and duplicates nobody.  Every player who was searching
searches on, with one attempt more, or is in the queue of one server, and hears which of the two it
is.  No server is promised more players than it has free slots for, unless it was before.  All this
is as long as no server that answers is overbooked, and the last as long as none is named in two
zones: there are two views of such a server, and it is filled twice.
-/

namespace Muster.Matchmaker

open Effect (noticesFor)
open Evaluation (matchedPlayers committedTo)

variable {matchmaker next : Matchmaker} {searcher : Searcher} {now : Nat}

/-! ## Finishing -/

/-- The player searches on: the entry is the one from before with one attempt more and new hints,
and the last thing that the player hears, and the only one about attempts and hints, tells both.
Only a player of a group that found its queue full hears of that before. -/
structure IsKept (matched : List Candidate) (searcher : Searcher) (matchmaker : Matchmaker)
    (effects : List Effect) : Prop where
  unqueued : searcher.id ∉ matchmaker.registry.queued
  told : ∃ hints refusal,
    matchmaker.searcher? searcher.id =
      some { searcher with attempts := searcher.attempts + 1, possibleMatches := hints } ∧
    noticesFor searcher.id effects = refusal ++ [.searchUpdate (searcher.attempts + 1) hints] ∧
    (refusal = [] ∨ ∃ candidate ∈ matched, searcher.id ∈ candidate.players ∧
      refusal = [.matchFound candidate.server candidate.players, .failure .queueFull])

/-- The player has left the pool for the queue of the server of the one group that has the player,
and hears of nothing but the match. -/
structure IsHandedOver (matched : List Candidate) (searcher : Searcher) (matchmaker : Matchmaker)
    (effects : List Effect) : Prop where
  out : matchmaker.searcher? searcher.id = none
  queued : ∃ candidate server,
    matched.filter (fun other => other.players.contains searcher.id) = [candidate] ∧
    matchmaker.registry.get? candidate.server = some server ∧
    server.queue.contains searcher.id ∧
    noticesFor searcher.id effects = [.matchFound candidate.server candidate.players]

/-- A player who has been handed over has left the pool, and so is not kept. -/
theorem IsHandedOver.not_isKept {matched : List Candidate} {effects : List Effect}
    (hhanded : IsHandedOver matched searcher matchmaker effects) :
    ¬ IsKept matched searcher matchmaker effects := by
  intro hkept
  obtain ⟨hints, refusal, hsearches, -, -⟩ := hkept.told
  rw [hhanded.out] at hsearches
  exact absurd hsearches (by simp)

/-- A player whose queue is full, or whose server is gone, has not been handed over. -/
theorem IsHandedOver.not_refused {matched : List Candidate} {effects : List Effect}
    (hhanded : IsHandedOver matched searcher matchmaker effects) {candidate : Candidate}
    (hcandidate : candidate ∈ matched) (hplayer : searcher.id ∈ candidate.players) :
    matchmaker.registry.get? candidate.server ≠ none ∧
      .failure .queueFull ∉ noticesFor searcher.id effects := by
  obtain ⟨only, server, hfilter, hget, -, hnotices⟩ := hhanded.queued
  have honly : candidate ∈ [only] := by
    rw [← hfilter]
    exact List.mem_filter.mpr ⟨hcandidate, List.contains_iff_mem.mpr hplayer⟩
  rw [List.mem_singleton.mp honly, hget, hnotices]
  simp

/-- A player is settled in one way only, and whoever was refused searches on. -/
theorem xor_of_settled {matched : List Candidate} {effects : List Effect}
    (hsettled : IsKept matched searcher matchmaker effects ∨
      IsHandedOver matched searcher matchmaker effects) :
    Xor (IsKept matched searcher matchmaker effects)
        (IsHandedOver matched searcher matchmaker effects) ∧
      ∀ candidate ∈ matched, searcher.id ∈ candidate.players →
        matchmaker.registry.get? candidate.server = none ∨
          .failure .queueFull ∈ noticesFor searcher.id effects →
        IsKept matched searcher matchmaker effects := by
  rcases hsettled with hkept | hhanded
  · exact ⟨Or.inl ⟨hkept, fun hhanded => hhanded.not_isKept hkept⟩, fun _ _ _ _ => hkept⟩
  · refine ⟨Or.inr ⟨hhanded, hhanded.not_isKept⟩, ?_⟩
    intro candidate hcandidate hplayer hrefused
    obtain ⟨hknown, hheard⟩ := hhanded.not_refused hcandidate hplayer
    exact absurd hrefused (not_or.mpr ⟨hknown, hheard⟩)

/-- A player whom the commitment leaves in the pool is counted and told. -/
theorem isKept_report {evaluation : Evaluation} {matched : List Candidate} {players : List PlayerId}
    {effects : List Effect} (hplayers : players.Nodup) (hmember : searcher.id ∈ players)
    (hconsistent : (report evaluation players matchmaker).1.IsConsistent)
    (hsearches : matchmaker.searcher? searcher.id = some searcher)
    (hrefusal : noticesFor searcher.id effects = [] ∨
      ∃ candidate ∈ matched, searcher.id ∈ candidate.players ∧
        noticesFor searcher.id effects =
          [.matchFound candidate.server candidate.players, .failure .queueFull]) :
    IsKept matched searcher (report evaluation players matchmaker).1
      (effects ++ (report evaluation players matchmaker).2) := by
  obtain ⟨hentry, hupdate⟩ := report_of_mem hplayers hmember evaluation matchmaker
  rw [hsearches] at hentry hupdate
  constructor
  · intro hqueued
    have hpooled : searcher.id ∈
        (report evaluation players matchmaker).1.pool.map (·.id) := by
      rw [← isSearching_iff, isSearching, hentry]
      rfl
    have hdisjoint := (List.nodup_append.mp hconsistent.nodup_roll).2.2
    exact hdisjoint searcher.id hpooled searcher.id hqueued rfl
  · refine ⟨evaluation.hintsFor searcher.id, noticesFor searcher.id effects, hentry, ?_, hrefusal⟩
    rw [Effect.noticesFor_append, hupdate]
    rfl

/-- A player who is in the queue after the commitment is neither counted nor told. -/
theorem isHandedOver_report {evaluation : Evaluation} {matched : List Candidate}
    {players : List PlayerId} {effects : List Effect} (hplayers : players.Nodup)
    (hmember : searcher.id ∈ players) {candidate : Candidate}
    (hfilter : matched.filter (fun other => other.players.contains searcher.id) = [candidate])
    (hout : matchmaker.searcher? searcher.id = none)
    (hseats : matchmaker.registry.Seats candidate.server searcher.id now)
    (hnotices : noticesFor searcher.id effects =
      [.matchFound candidate.server candidate.players]) :
    IsHandedOver matched searcher (report evaluation players matchmaker).1
      (effects ++ (report evaluation players matchmaker).2) := by
  obtain ⟨hentry, hupdate⟩ := report_of_mem hplayers hmember evaluation matchmaker
  obtain ⟨server, hget, hserver⟩ := hseats
  rw [hout] at hentry hupdate
  refine ⟨hentry, candidate, server, hfilter, ?_, hserver.contains, ?_⟩
  · rw [registry_report]
    exact hget
  · rw [Effect.noticesFor_append, hnotices, hupdate]
    rfl

theorem searcher?_of_mem (hconsistent : matchmaker.IsConsistent)
    (hsearcher : searcher ∈ matchmaker.pool) :
    matchmaker.searcher? searcher.id = some searcher := by
  have hpool := hconsistent.nodup_pool
  have hsearching : matchmaker.isSearching searcher.id :=
    isSearching_iff.mpr (List.mem_map_of_mem hsearcher)
  obtain ⟨found, hfound⟩ := isSearching_iff_exists.mp hsearching
  obtain ⟨hmember, hid⟩ := searcher?_eq_some hfound
  rw [hfound, List.inj_on_of_nodup_map hpool hmember hsearcher hid]

/-- After the second half of a tick that found the pool as it was, everybody in it is settled. -/
theorem finishTick_outcome (hconsistent : matchmaker.IsConsistent)
    (htime : matchmaker.registry.HasTime) {views : List ServerView} {evaluation : Evaluation}
    {effects : List Effect}
    (hfinish : matchmaker.finishTick matchmaker.pool views now = (next, evaluation, effects)) :
    evaluation.matched = (evaluate matchmaker.pool views now).matched ∧
      Moves [] matchmaker next ∧
      matchmaker.registry.Admitted now (fun address => committedTo address evaluation.matched)
        next.registry ∧
      ∀ searcher ∈ matchmaker.pool,
        IsKept evaluation.matched searcher next effects ∨
        IsHandedOver evaluation.matched searcher next effects := by
  have hpool := hconsistent.nodup_pool
  have hpart := Evaluation.matchedPlayers_evaluate_subperm hpool views now
  have hplayers := Parts.nodup hpart hpool
  -- The pool is the one that was evaluated, so the commitment finds every group complete.
  have hsearching : ∀ player ∈ matchedPlayers (evaluate matchmaker.pool views now).matched,
      matchmaker.isSearching player := by
    intro player hplayer
    exact isSearching_iff.mpr (hpart.subset hplayer)
  obtain ⟨hcommitted, hconveys, hsettled⟩ := conveys_commit hconsistent hplayers hsearching now
  have hmoves := moves_finishTick hconsistent.isKeyed hpool views now
  have hfinished := hmoves.isConsistent hconsistent.nodup_roll
  rw [hfinish] at hmoves hfinished
  obtain ⟨rfl, rfl, rfl⟩ := hfinish
  simp only [hcommitted]
  refine ⟨trivial, hmoves, ?_, ?_⟩
  · rw [registry_report]
    exact hconveys.admitted
  · intro searcher hsearcher
    have hmember : searcher.id ∈ matchmaker.pool.map (·.id) := List.mem_map_of_mem hsearcher
    have hsearches := searcher?_of_mem hconsistent hsearcher
    by_cases hmatched :
        searcher.id ∈ matchedPlayers (evaluate matchmaker.pool views now).matched
    · obtain ⟨candidate, hcandidate, hplayer⟩ := Evaluation.mem_matchedPlayers.mp hmatched
      cases hsettled htime candidate hcandidate searcher hsearches hplayer with
      | seated hout hseats hnotices =>
          right
          have hfilter :=
            Evaluation.filter_contains_eq_singleton hplayers hcandidate hplayer
          exact isHandedOver_report hpool hmember hfilter hout hseats hnotices
      | refused hstays hnotices =>
          left
          apply isKept_report hpool hmember hfinished hstays
          exact Or.inr ⟨candidate, hcandidate, hplayer, hnotices⟩
      | stranded hstays hgone hnotices =>
          left
          exact isKept_report hpool hmember hfinished hstays (Or.inl hnotices)
    · left
      have hstays := (hconveys.searcher?_eq searcher.id hmatched).trans hsearches
      exact isKept_report hpool hmember hfinished hstays
        (Or.inl (hconveys.silent searcher.id hmatched))

/-- No server to which a group goes is promised more players than it has free slots for, unless it
was before. -/
theorem promised_finishTick {probed : Matchmaker} {views : List ServerView}
    {matched : List Candidate} (hsafe : Evaluation.IsSafe probed.pool views matched)
    (hreserved : ∀ view ∈ views, ∃ server, probed.registry.get? view.address = some server ∧
      view.reservedSlots.toNat = server.promised)
    (hadmitted : probed.registry.Admitted now (fun address => committedTo address matched)
      next.registry)
    {candidate : Candidate} (hcandidate : candidate ∈ matched)
    {server : GameServer} (hget : next.registry.get? candidate.server = some server) :
    ∃ view ∈ views, view.address = candidate.server ∧
      server.promised ≤ max (probed.registry.promised candidate.server) view.freeSlots.toNat := by
  obtain ⟨view, hview, haddress, -⟩ := hsafe.suited candidate hcandidate
  obtain ⟨earlier, hearlier, hadmits⟩ := hadmitted.of_get?_eq_some hget
  obtain ⟨known, hknown, hslots⟩ := hreserved view hview
  rw [haddress, hearlier] at hknown
  obtain rfl := Option.some.inj hknown
  refine ⟨view, hview, haddress, ?_⟩
  have hroom := hsafe.room view hview
  rw [ServerView.availableSlots, Count.toNat_minus, hslots, haddress] at hroom
  have hlength := hadmits.length_le
  have hprivileged : server.privilegedSlots = earlier.privilegedSlots := by
    rw [hadmits.eq_queue]
  rw [Registry.promised_of_get? hearlier, GameServer.promised, hprivileged]
  rw [GameServer.promised] at hroom ⊢
  omega

/-! ## Ticks -/

section Halves

variable {probed : Matchmaker} {service after : QueryService} {timeout : Nat}

theorem tick_of_nil (hpool : matchmaker.pool = []) (service : QueryService) (timeout : Nat) :
    matchmaker.tick service timeout = (matchmaker, service, .ok (⟨[], []⟩, [])) := by
  rw [tick, hpool]
  rfl

theorem tick_of_overbooked (hpool : matchmaker.pool ≠ []) {overbooked : Overbooked}
    (hprobe : matchmaker.probeNamed service timeout = (probed, after, .error overbooked)) :
    matchmaker.tick service timeout = (probed, after, .error overbooked) := by
  simp only [tick, List.isEmpty_iff, if_neg hpool, hprobe]

/-- A tick that sees the servers which answered consists of its two halves. -/
theorem tick_of_views (hpool : matchmaker.pool ≠ []) {views : List ServerView}
    (hprobe : matchmaker.probeNamed service timeout = (probed, after, .ok views)) :
    matchmaker.tick service timeout =
      ((probed.finishTick matchmaker.pool views after.now).1, after,
        .ok (probed.finishTick matchmaker.pool views after.now).2) := by
  simp only [tick, List.isEmpty_iff, if_neg hpool, hprobe]

end Halves

/-- A player who takes any company and one who wants more of it, in search of the same server. -/
def twoSearching : Matchmaker where
  pool :=
    [⟨7, { minPlayers := 0 }, [⟨.loopback 28960, 40⟩], 0, 0, []⟩,
      ⟨8, { minPlayers := 9 }, [⟨.loopback 28960, 50⟩], 0, 0, []⟩]
  registry := .empty {}
  processors := []
  isShutdown := false

/-- Asks a network with one server, which has four free slots and answers at once. -/
def localService : QueryService :=
  let info := HostBehavior.report .info "\\dedicated\\1\\sv_running\\1\\sv_maxclients\\4"
  .start {} (.start [⟨.loopback 28960, .fixed (some info) none, 0, 0⟩] true) Lookups.literal

/-- A player in search of a server on which more slots are promised to others than a count holds. -/
def overbookedSearch : Matchmaker where
  pool := [⟨7, { minPlayers := 0 }, [⟨.loopback 28960, 40⟩], 0, 0, []⟩]
  registry := {
    servers := [{ GameServer.register 0 (.loopback 28960) "" {} 0 with
      queue := ((Queue.empty {} 0).enqueue 8 0).1
      privilegedSlots := 0xFFFFFFFF }]
    queueConfig := {}
    nextSerial := 1 }
  processors := []
  isShutdown := false

/-- Nothing comes of the tick, and the player searches on without having been counted or told. -/
theorem tick_overbookedSearch : ∃ next after,
    overbookedSearch.tick localService 1000 = (next, after, .error ⟨.loopback 28960⟩) ∧
    ∀ searcher ∈ overbookedSearch.pool, ∀ matched effects,
      ¬ IsKept matched searcher next effects ∧ ¬ IsHandedOver matched searcher next effects := by
  have hseen : (overbookedSearch.probeNamed localService 1000).2.2 =
      .error ⟨.loopback 28960⟩ := by decide +kernel
  have hpool := pool_probeNamed overbookedSearch localService 1000
  rcases hprobe : overbookedSearch.probeNamed localService 1000 with ⟨next, after, seen⟩
  simp only [hprobe] at hseen hpool
  rw [hseen] at hprobe
  refine ⟨next, after, tick_of_overbooked (List.cons_ne_nil _ _) hprobe, ?_⟩
  intro searcher hsearcher matched effects
  obtain rfl := List.mem_singleton.mp hsearcher
  have hsearches : next.searcher? 7 = overbookedSearch.searcher? 7 := by
    rw [searcher?, hpool, searcher?]
  constructor
  · intro hkept
    obtain ⟨hints, refusal, hcounted, -, -⟩ := hkept.told
    have hattempts : some (0 : UInt32) = some 1 :=
      congrArg (Option.map Searcher.attempts) (hsearches.symm.trans hcounted)
    exact absurd hattempts (by decide)
  · intro hhanded
    have hnone := hsearches.symm.trans hhanded.out
    cases hnone

def homeIn (zone : UInt32) : Endpoint :=
  ⟨.v6 0 0 0 0 0 0 0 1, 28960, zone⟩

/-- Two players who take any company, in search of one server, which one of them names twice. -/
def zonedSearch : Matchmaker where
  pool :=
    [⟨7, { minPlayers := 0 }, [⟨homeIn 0, 40⟩], 0, 0, []⟩,
      ⟨8, { minPlayers := 0 }, [⟨homeIn 0, 40⟩, ⟨homeIn 1, 40⟩], 0, 0, []⟩]
  registry := .empty {}
  processors := []
  isShutdown := false

def zonedService : QueryService :=
  let info := HostBehavior.report .info "\\dedicated\\1\\sv_running\\1\\sv_maxclients\\1"
  .start {}
    { Network.start [⟨homeIn 0, .fixed (some info) none, 0, 0⟩] true with socket := .long }
    Lookups.literal

def oneSlot (reserved : Count) : ServerView :=
  ⟨homeIn 0, "", 0, 1, reserved, none⟩

def zonedGroups : List Candidate :=
  zonedSearch.pool.map fun searcher =>
    ⟨homeIn 0, "", Quality.ofMatch (oneSlot 0).quality (homeIn 0) [searcher] 1000, [searcher.id]⟩

open Evaluation in
/-- The first group fills the server in one of its views only. -/
theorem matched_zonedSearch :
    (evaluate zonedSearch.pool [oneSlot 0, oneSlot 0] 1000).matched = zonedGroups := by
  have hequal : ∀ reserved, ∀ view ∈ [oneSlot reserved, oneSlot 0],
      view.quality = (oneSlot 0).quality := by
    intro reserved view hview
    rcases List.mem_pair.mp hview with rfl | rfl <;> rfl
  have hline : Order.arrange waitedLonger zonedSearch.pool = zonedSearch.pool := by decide
  have hfirst : best? zonedSearch.pool 1000 [oneSlot 0] = zonedGroups.head? := by rfl
  have hsecond : best? (zonedSearch.pool.drop 1) 1000 [oneSlot 1, oneSlot 0] =
      zonedGroups.getLast? := by rfl
  have hreserve : reserve (homeIn 0) 1 [oneSlot 0, oneSlot 0] = [oneSlot 1, oneSlot 0] := by rfl
  rw [evaluate, hline]
  change (rounds 1000 2 zonedSearch.pool [oneSlot 0, oneSlot 0]).matched = _
  rw [rounds, ranked_of_forall (hequal 0), best?_twice, hfirst]
  change _ :: (rounds 1000 1 (zonedSearch.pool.drop 1) [oneSlot 1, oneSlot 0]).matched = _
  rw [rounds, ranked_of_forall (hequal 1), hsecond]
  rfl

/-- The server takes both players. -/
theorem tick_zonedSearch : ∃ next after evaluation effects,
    zonedSearch.tick zonedService 1000 = (next, after, .ok (evaluation, effects)) ∧
    ∃ candidate ∈ evaluation.matched, ∃ server,
      next.registry.get? candidate.server = some server ∧
      ∀ views, (zonedSearch.probeNamed zonedService 1000).2.2 = .ok views →
        ∀ view ∈ views,
          max (zonedSearch.registry.promised candidate.server) view.freeSlots.toNat <
            server.promised := by
  have hseen : (zonedSearch.probeNamed zonedService 1000).2.2 = .ok [oneSlot 0, oneSlot 0] := by
    decide +kernel
  have hnow : (zonedSearch.probeNamed zonedService 1000).2.1.now = 1000 := by decide +kernel
  have hservers : (commit 1000 zonedGroups
      (zonedSearch.probeNamed zonedService 1000).1).2.1.map (·.server) =
        [homeIn 0, homeIn 0] := by decide +kernel
  have hpromised : (commit 1000 zonedGroups
      (zonedSearch.probeNamed zonedService 1000).1).1.registry.promised (homeIn 0) = 2 := by
    decide +kernel
  rcases hprobe : zonedSearch.probeNamed zonedService 1000 with ⟨probed, after, seen⟩
  simp only [hprobe] at hseen hnow hservers hpromised ⊢
  rw [hseen] at hprobe
  refine ⟨_, _, _, _, tick_of_views (List.cons_ne_nil _ _) hprobe, ?_⟩
  simp only [finishTick, hnow, matched_zonedSearch, registry_report]
  obtain ⟨candidate, hcandidate, hserver⟩ : ∃ candidate ∈ (commit 1000 zonedGroups probed).2.1,
      candidate.server = homeIn 0 := by
    apply List.mem_map.mp
    rw [hservers]
    exact List.mem_cons_self
  refine ⟨candidate, hcandidate, ?_⟩
  cases hget : (commit 1000 zonedGroups probed).1.registry.get? (homeIn 0) with
  | none =>
      rw [Registry.promised, hget] at hpromised
      cases hpromised
  | some server =>
      rw [Registry.promised_of_get? hget] at hpromised
      rw [hserver]
      refine ⟨server, hget, ?_⟩
      intro views hviews view hview
      rw [hseen] at hviews
      obtain rfl := Except.ok.inj hviews
      rw [hpromised]
      rcases List.mem_pair.mp hview with rfl | rfl <;> decide

end Muster.Matchmaker
