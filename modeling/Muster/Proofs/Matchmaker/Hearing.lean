import Muster.Proofs.Match.Sizes
import Muster.Proofs.Matchmaker.Reporting

/-!
# What players hear of a tick

Each event of a tick is heard exactly if it fits into a packet.  What bounds its size are the
hostnames and free slots of the servers that a player named.  Nothing keeps these small: where they
are not, a tick sends events that nobody hears.
-/

namespace Muster

/-! ## Events of queues -/

/-- The events of a queue fit, whatever they say. -/
theorem QueueEvent.size_toClientEvent_le (event : QueueEvent) (server : Endpoint)
    (joinTimeout : Nat) : (event.toClientEvent server joinTimeout).size ≤ 46 := by
  have hserver := server.size_le
  cases event <;> rw [toClientEvent, ClientEvent.size] <;> omega

theorem QueueEvent.servers_toClientEvent (event : QueueEvent) (server : Endpoint)
    (joinTimeout : Nat) : (event.toClientEvent server joinTimeout).servers = [server] := by
  cases event <;> rfl

/-- What a player hears of a queue fits a packet. -/
theorem QueueEvent.isHeard_toClientEvent (event : QueueEvent) {server : Endpoint}
    (hserver : server.IsSendable) (joinTimeout : Nat) :
    (event.toClientEvent server joinTimeout).IsHeard := by
  apply (ClientEvent.isHeard_iff_size_le ?_).mpr
  · exact (event.size_toClientEvent_le server joinTimeout).trans (by decide)
  · rw [event.servers_toClientEvent]
    exact List.forall_mem_singleton.mpr hserver

namespace Effect

/-- Whatever players are told satisfies the condition. -/
def TellOnly (Tells : ClientEvent → Prop) (effects : List Effect) : Prop :=
  ∀ player event, .notify player event ∈ effects → Tells event

variable {Tells : ClientEvent → Prop} {effects others : List Effect}

theorem tellOnly_nil : TellOnly Tells [] :=
  fun _ _ hmember => absurd hmember List.not_mem_nil

theorem TellOnly.append (heffects : TellOnly Tells effects) (hothers : TellOnly Tells others) :
    TellOnly Tells (effects ++ others) := by
  intro player event hmember
  rcases List.mem_append.mp hmember with hmember | hmember
  · exact heffects player event hmember
  · exact hothers player event hmember

theorem tellOnly_notify {player : PlayerId} {event : ClientEvent} (htells : Tells event) :
    TellOnly Tells [.notify player event] := by
  intro other told hmember
  obtain ⟨-, rfl⟩ := Effect.notify.inj (List.mem_singleton.mp hmember)
  exact htells

theorem tellOnly_publish {server : Endpoint} {joinTimeout : Nat}
    (htells : ∀ event : QueueEvent, Tells (event.toClientEvent server joinTimeout))
    (events : List QueueEvent) : TellOnly Tells (publish server joinTimeout events) := by
  intro player event hmember
  obtain ⟨change, -, hchange⟩ := List.mem_flatMap.mp hmember
  rcases List.mem_cons.mp hchange with hnotify | hadmission
  · obtain ⟨-, rfl⟩ := Effect.notify.inj hnotify
    exact htells change
  · cases List.mem_singleton.mp hadmission

end Effect

namespace Matchmaker

open Effect (TellOnly)

variable {matchmaker : Matchmaker} {snapshot : List Searcher} {evaluation : Evaluation}
variable {views : List ServerView} {candidate : Candidate} {now : Nat}

/-! ## What a tick tells -/

/-- The event follows from an evaluation of a snapshot: it tells a group or what came of it, or the
hints for one of the players. -/
inductive Follows (snapshot : List Searcher) (evaluation : Evaluation) : ClientEvent → Prop where
  | found {candidate : Candidate} {group : List PlayerId}
      (hcandidate : candidate ∈ evaluation.matched)
      (hgroup : group.length ≤ candidate.players.length) :
      Follows snapshot evaluation (.matchFound candidate.server group)
  | queued {candidate : Candidate} (hcandidate : candidate ∈ evaluation.matched)
      (event : QueueEvent) (joinTimeout : Nat) :
      Follows snapshot evaluation (event.toClientEvent candidate.server joinTimeout)
  | refused (error : MatchmakingError) : Follows snapshot evaluation (.failure error)
  | searchesOn {searcher : Searcher} (hsearcher : searcher ∈ snapshot) (attempts : UInt32) :
      Follows snapshot evaluation (.searchUpdate attempts (evaluation.hintsFor searcher.id))

section Handing

variable (hcandidate : candidate ∈ evaluation.matched) {group : List PlayerId}
  (hgroup : group.length ≤ candidate.players.length)

include hcandidate hgroup

theorem follows_handOver (snapshot : List Searcher) (matchmaker : Matchmaker) (searcher : Searcher)
    (now : Nat) :
    TellOnly (Follows snapshot evaluation)
      (matchmaker.handOver candidate.server group searcher now).2 := by
  have hfound : TellOnly (Follows snapshot evaluation)
      [.notify searcher.id (.matchFound candidate.server group)] :=
    Effect.tellOnly_notify (.found hcandidate hgroup)
  rw [handOver]
  cases henqueue : matchmaker.enqueue candidate.server searcher.id now with
  | error error => exact hfound.append (Effect.tellOnly_notify (.refused _))
  | ok changed =>
      obtain ⟨server, queued, events, hget, hqueued, -, heffects⟩ := enqueue_eq_ok henqueue
      have haddress : queued.address = candidate.server :=
        (GameServer.address_enqueue hqueued).trans (Registry.mem_of_get? hget).2
      have hevents : TellOnly (Follows snapshot evaluation) changed.2 := by
        rw [heffects, replaceServer, haddress]
        exact Effect.tellOnly_publish (fun event => .queued hcandidate event _) events
      exact hfound.append hevents

theorem follows_handOverAll (snapshot : List Searcher) (now : Nat) (present : List Searcher)
    (matchmaker : Matchmaker) :
    TellOnly (Follows snapshot evaluation)
      (handOverAll candidate.server group now present matchmaker).2 := by
  induction present generalizing matchmaker with
  | nil => exact Effect.tellOnly_nil
  | cons searcher rest ih =>
      exact (follows_handOver hcandidate hgroup snapshot matchmaker searcher now).append (ih _)

end Handing

theorem follows_commitGroup (hcandidate : candidate ∈ evaluation.matched)
    (snapshot : List Searcher) (matchmaker : Matchmaker) (now : Nat) :
    TellOnly (Follows snapshot evaluation) (matchmaker.commitGroup candidate now).2.2 := by
  have hgroup : ((candidate.players.filterMap matchmaker.searcher?).map (·.id)).length ≤
      candidate.players.length := by
    rw [List.length_map]
    exact List.length_filterMap_le _ _
  simp only [commitGroup]
  split_ifs
  · exact Effect.tellOnly_nil
  · exact follows_handOverAll hcandidate hgroup snapshot now _ _

/-- Every notice of a commitment is about a group of the evaluation. -/
theorem follows_commit {candidates : List Candidate} (hcandidates : candidates ⊆ evaluation.matched)
    (snapshot : List Searcher) (now : Nat) (matchmaker : Matchmaker) :
    TellOnly (Follows snapshot evaluation) (commit now candidates matchmaker).2.2 := by
  induction candidates generalizing matchmaker with
  | nil => exact Effect.tellOnly_nil
  | cons candidate rest ih =>
      rw [List.cons_subset] at hcandidates
      exact (follows_commitGroup hcandidates.1 snapshot matchmaker now).append
        (ih hcandidates.2 _)

theorem follows_reportTo {searcher : Searcher} (hsearcher : searcher ∈ snapshot)
    (matchmaker : Matchmaker) :
    TellOnly (Follows snapshot evaluation) (matchmaker.reportTo evaluation searcher.id).2 := by
  rw [reportTo]
  cases matchmaker.searcher? searcher.id with
  | none => exact Effect.tellOnly_nil
  | some found => exact Effect.tellOnly_notify (.searchesOn hsearcher _)

/-- A report tells every player the hints of the evaluation for that player. -/
theorem follows_report {searchers : List Searcher} (hsearchers : searchers ⊆ snapshot)
    (matchmaker : Matchmaker) :
    TellOnly (Follows snapshot evaluation)
      (report evaluation (searchers.map (·.id)) matchmaker).2 := by
  induction searchers generalizing matchmaker with
  | nil => exact Effect.tellOnly_nil
  | cons searcher rest ih =>
      rw [List.cons_subset] at hsearchers
      exact (follows_reportTo hsearchers.1 matchmaker).append (ih hsearchers.2 _)

theorem follows_finishTick (matchmaker : Matchmaker) (snapshot : List Searcher)
    (views : List ServerView) (now : Nat) :
    TellOnly (Follows snapshot (evaluate snapshot views now))
      (matchmaker.finishTick snapshot views now).2.2 :=
  (follows_commit (List.Subset.refl _) snapshot now matchmaker).append
    (follows_report (List.Subset.refl _) _)

/-! ## What fits -/

/-- What holds of the servers in view holds of those that an event names. -/
theorem Follows.forall_servers {event : ClientEvent} {holds : Endpoint → Prop}
    (hfollows : Follows snapshot (evaluate snapshot views now) event)
    (hviews : ∀ view ∈ views, holds view.address) : ∀ server ∈ event.servers, holds server := by
  have hmatched : ∀ candidate ∈ (evaluate snapshot views now).matched,
      holds candidate.server := by
    intro candidate hcandidate
    obtain ⟨view, hview, hfor, -⟩ := Evaluation.exists_isFor_of_mem_matched hcandidate
    exact hfor.server ▸ hviews view hview
  cases hfollows with
  | found hcandidate => exact List.forall_mem_singleton.mpr (hmatched _ hcandidate)
  | queued hcandidate event joinTimeout =>
      rw [event.servers_toClientEvent]
      exact List.forall_mem_singleton.mpr (hmatched _ hcandidate)
  | refused => exact List.forall_mem_nil _
  | searchesOn =>
      intro server hserver
      obtain ⟨possible, hpossible, rfl⟩ := List.mem_map.mp hserver
      obtain ⟨hint, hhint, rfl⟩ := List.mem_map.mp hpossible
      obtain ⟨_, -, view, hview, hfor⟩ :=
        Evaluation.exists_isFor_of_mem_hints (List.mem_of_mem_filter hhint)
      exact hfor.server ▸ hviews view hview

/-- A group takes less than a hint for its server. -/
theorem Follows.size_le {event : ClientEvent}
    (hfollows : Follows snapshot (evaluate snapshot views now) event)
    (hsnapshot : (snapshot.map (·.id)).Nodup) :
    event.size ≤ 46 ∨ ∃ searcher ∈ snapshot, event.size ≤ searcher.updateBound views := by
  cases hfollows with
  | @found candidate group hcandidate hgroup =>
      obtain ⟨view, hview, hfor, searcher, hsearcher, hprefers⟩ :=
        Evaluation.exists_isFor_of_mem_matched hcandidate
      have hserver := candidate.server.size_le
      have hplayers := hgroup.trans hfor.length_le
      refine Or.inr ⟨searcher, hsearcher, ?_⟩
      calc (ClientEvent.matchFound candidate.server group).size
          ≤ 38 + 8 * view.freeSlots.toNat := by rw [ClientEvent.size]; omega
        _ ≤ searcher.hintBound view := by rw [Searcher.hintBound, if_pos hprefers]; omega
        _ ≤ searcher.updateBound views := searcher.hintBound_le_updateBound hview
  | queued _ event joinTimeout => exact Or.inl (event.size_toClientEvent_le _ joinTimeout)
  | refused => exact Or.inl (by rw [ClientEvent.size]; omega)
  | searchesOn hsearcher attempts =>
      exact Or.inr ⟨_, hsearcher,
        Evaluation.size_searchUpdate_le hsnapshot hsearcher views now attempts⟩

/-- An event of a tick is heard exactly if it fits, and it is no longer than an event of a queue can
be or than what there is to say of the servers that somebody named.  So all are heard if that is
little enough for everybody, and the events of queues are always heard.  Whoever searches takes an
event that fits for what it is, and takes no notice of a longer one. -/
theorem tick_heard_iff_fits (hviews : ∀ view ∈ views, view.address.IsSendable)
    (hsnapshot : (snapshot.map (·.id)).Nodup) (matchmaker : Matchmaker) (now : Nat) :
    TellOnly (fun event => (event.IsHeard ↔ event.size ≤ maxPacketSize) ∧
        (event.size ≤ 46 ∨ ∃ searcher ∈ snapshot, event.size ≤ searcher.updateBound views))
      (matchmaker.finishTick snapshot views now).2.2 ∧
    ((∀ searcher ∈ snapshot, searcher.updateBound views ≤ maxPacketSize) →
      TellOnly ClientEvent.IsHeard (matchmaker.finishTick snapshot views now).2.2) ∧
    (∀ (server : Endpoint) joinTimeout events, server.IsSendable →
      TellOnly ClientEvent.IsHeard (Effect.publish server joinTimeout events)) ∧
    ∀ (event : ClientEvent) (client : Client) (network : Network) nextHeartbeat,
      event.IsSendable → client.phase = .searching nextHeartbeat →
      client.receive network (Encoding.packet (.event event)) =
        if event.size ≤ maxPacketSize then client.hear network (.event event) else client := by
  have htold : TellOnly (fun event => (event.IsHeard ↔ event.size ≤ maxPacketSize) ∧
      (event.size ≤ 46 ∨ ∃ searcher ∈ snapshot, event.size ≤ searcher.updateBound views))
      (matchmaker.finishTick snapshot views now).2.2 := by
    intro player event hevent
    have hfollows := follows_finishTick matchmaker snapshot views now player event hevent
    exact ⟨ClientEvent.isHeard_iff_size_le (hfollows.forall_servers hviews),
      hfollows.size_le hsnapshot⟩
  refine ⟨htold, ?_, ?_, ?_⟩
  · intro hbounds player event hevent
    obtain ⟨hheard, hsmall | ⟨searcher, hsearcher, hsize⟩⟩ := htold player event hevent
    · exact hheard.mpr (hsmall.trans (by decide))
    · exact hheard.mpr (hsize.trans (hbounds searcher hsearcher))
  · intro server joinTimeout events hserver
    exact Effect.tellOnly_publish (fun event => event.isHeard_toClientEvent hserver _) events
  · intro event client network nextHeartbeat hsendable hsearching
    split_ifs with hsize
    · exact ClientEvent.receive_of_isHeard hsearching network
        (ClientEvent.isHeard_iff.mpr ⟨hsendable, hsize⟩)
    · exact ClientEvent.receive_of_size_gt hsearching network hsendable (Nat.lt_of_not_le hsize)

/-! ## A name that is too long -/

section Naming

open Evaluation

def pingLimited : Searcher :=
  ⟨7, { minPlayers := 0, maxPing := 10 }, [⟨.loopback 28960, 40⟩], 0, 0, []⟩

def calling (hostname : String) : ServerView :=
  ⟨.loopback 28960, hostname, 0, 8, 0, none⟩

theorem withSlots_calling (hostname : String) :
    withSlots [calling hostname] = [calling hostname] := by
  have hslots : (Count.minus 8 0 != 0) = true := by decide
  exact List.filter_cons_of_pos hslots

/-- But for the ping the player would be sent there alone. -/
theorem select?_calling (hostname : String) :
    Group.select? [pingLimited] (calling hostname) (calling hostname).availableSlots =
      some [pingLimited] := by
  have hslots : (calling hostname).availableSlots = 8 := by
    change Count.minus 8 0 = 8
    decide
  rw [hslots]
  rfl

/-- The search of this player comes to nothing for one reason, whatever the server calls itself. -/
theorem evaluate_pingLimited (hostname : String) : ∃ quality,
    evaluate [pingLimited] [calling hostname] 0 =
      ⟨[], [⟨7, .loopback 28960, hostname, quality, [7], [.pingTooHigh 40 10]⟩]⟩ := by
  have hbest : best? [pingLimited] 0 (ranked [calling hostname]) = none := by
    change best? [pingLimited] 0 [calling hostname] = none
    rw [best?, withSlots_calling]
    rfl
  have hround : roundHints [pingLimited] 0 (ranked [calling hostname]) =
      [pingLimited].filterMap (hint? [pingLimited] 0 (calling hostname)) := by
    have hblocked : blocked [pingLimited] (calling hostname) = [pingLimited] := rfl
    change roundHints [pingLimited] 0 [calling hostname] = _
    rw [roundHints, withSlots_calling, List.flatMap_singleton, serverHints, hblocked]
  have hpool : hintPool [pingLimited] (calling hostname) pingLimited = [pingLimited] := rfl
  change ∃ quality, rounds 0 1 [pingLimited] [calling hostname] = _
  rw [rounds, hbest, hround, List.filterMap_cons, hint?, hpool, select?_calling]
  exact ⟨_, rfl⟩

end Naming

def lonelySearch : Matchmaker where
  pool := [pingLimited]
  registry := { servers := [], queueConfig := {}, nextSerial := 0 }
  processors := []
  isShutdown := false

/-- The player is told the whole name of the server. -/
theorem effects_lonelySearch (hostname : String) : ∃ quality,
    (lonelySearch.finishTick [pingLimited] [calling hostname] 0).2.2 =
      [.notify 7 (.searchUpdate 1 [⟨.loopback 28960, hostname, quality, [7],
        [.pingTooHigh 40 10]⟩])] := by
  obtain ⟨quality, hevaluate⟩ := evaluate_pingLimited hostname
  refine ⟨quality, ?_⟩
  rw [finishTick, hevaluate]
  rfl

/-- A server with a short name is told of in a packet. -/
theorem tick_heard_iff_fits_lonelySearch :
    ((∀ view ∈ [calling "one"], view.address.IsSendable) ∧
      (lonelySearch.pool.map (·.id)).Nodup ∧
      ∀ searcher ∈ lonelySearch.pool, searcher.updateBound [calling "one"] ≤ maxPacketSize) ∧
    ∃ quality, ClientEvent.IsHeard (.searchUpdate 1 [⟨.loopback 28960, "one", quality, [7],
      [.pingTooHigh 40 10]⟩]) := by
  have hviews : ∀ view ∈ [calling "one"], view.address.IsSendable := by decide
  have hsnapshot : (lonelySearch.pool.map (·.id)).Nodup := by decide
  have hbounds : ∀ searcher ∈ lonelySearch.pool,
      searcher.updateBound [calling "one"] ≤ maxPacketSize := by decide +kernel
  obtain ⟨-, hheard, -, -⟩ := tick_heard_iff_fits hviews hsnapshot lonelySearch 0
  obtain ⟨quality, heffects⟩ := effects_lonelySearch "one"
  have htold := hheard hbounds 7
  rw [show lonelySearch.pool = [pingLimited] from rfl, heffects] at htold
  exact ⟨⟨hviews, hsnapshot, hbounds⟩, quality, htold _ List.mem_cons_self⟩

theorem textSize_replicate (count : Nat) :
    textSize (String.ofList (List.replicate count 'a')) = count := by
  have hchar : (Text.Utf8.encodeChar 'a').length = 1 := rfl
  rw [textSize, String.toList_ofList, Text.Utf8.encode, List.length_flatMap, List.map_replicate,
    hchar, List.sum_replicate_nat, Nat.mul_one]

/-- A name that fills a packet by itself. -/
def longName : String :=
  String.ofList (List.replicate maxPacketSize 'a')

theorem textSize_longName : textSize longName = maxPacketSize :=
  textSize_replicate maxPacketSize

/-- The player is told of a server with a long name as of any other, and hears nothing. -/
theorem not_isHeard_longName : ∃ event,
    .notify 7 event ∈ (lonelySearch.finishTick [pingLimited] [calling longName] 0).2.2 ∧
      event.IsSendable ∧ maxPacketSize < event.size ∧ ¬ event.IsHeard := by
  obtain ⟨quality, heffects⟩ := effects_lonelySearch longName
  have hsize : maxPacketSize < ClientEvent.size (.searchUpdate 1
      [⟨.loopback 28960, longName, quality, [7], [.pingTooHigh 40 10]⟩]) := by
    simp only [ClientEvent.size, PossibleMatch.size, List.map_cons, List.sum_cons,
      textSize_longName]
    omega
  refine ⟨_, heffects ▸ List.mem_cons_self, ?_, hsize, ?_⟩
  · have hname : IsSendableText longName :=
      Decoding.isCountable_of_le textSize_longName.le
    have hone : Decoding.IsCountable 1 := by decide
    exact ⟨hone, List.forall_mem_singleton.mpr ⟨rfl, hname, hone, hone⟩⟩
  · intro hheard
    exact absurd (ClientEvent.isHeard_iff.mp hheard).2 (Nat.not_le_of_lt hsize)

end Matchmaker

end Muster
