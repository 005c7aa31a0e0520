import Muster.Proofs.Match.Safety
import Muster.Proofs.Matchmaker.Handover

/-!
# Places of players

Wherever the operations of the matchmaker take a player, the player is in one place at most: in the
pool, or in the queue of one server that the registry knows.  A run may take the operations in any
order and at any times.  The second half of a tick may work on any snapshot taken before, with
views of any servers, and those who hold on to a forgotten server may still work on its queue.
-/

namespace Muster

variable {player : PlayerId} {now : Nat}

/-- Where a player can be. -/
inductive Place where
  | pool
  | queue (server : Endpoint)
  deriving DecidableEq, Repr

namespace Matchmaker

variable {matchmaker next : Matchmaker}

/-- The places of a player, one for each entry in the pool and in the queues of known servers. -/
def places (matchmaker : Matchmaker) (player : PlayerId) : List Place :=
  (matchmaker.pool.filter fun searcher => searcher.id == player).map (fun _ => .pool) ++
    matchmaker.registry.servers.flatMap fun server =>
      (server.queue.entries.filter fun entry => entry.player == player).map
        fun _ => .queue server.address

theorem length_places (matchmaker : Matchmaker) (player : PlayerId) :
    (matchmaker.places player).length = matchmaker.roll.count player := by
  have hqueues : (matchmaker.registry.servers.map fun server =>
      (server.queue.entries.filter fun entry => entry.player == player).length).sum =
        matchmaker.registry.queued.count player := by
    rw [Registry.queued, List.count_flatMap]
    congr 1
    apply List.map_congr_left
    intro server _
    rw [Function.comp_apply, Queue.players, List.count, List.countP_map,
      List.countP_eq_length_filter]
    rfl
  have hpool : (matchmaker.pool.filter fun searcher => searcher.id == player).length =
      (matchmaker.pool.map (·.id)).count player := by
    rw [List.count, List.countP_map, List.countP_eq_length_filter]
    rfl
  rw [roll, List.count_append, ← hpool, ← hqueues, places, List.length_append, List.length_map,
    List.length_flatMap]
  simp only [List.length_map]

/-- A player has a place in the queue of a server exactly if that queue has an entry. -/
theorem queue_mem_places_iff (hkeyed : matchmaker.registry.IsKeyed) {address : Endpoint} :
    .queue address ∈ matchmaker.places player ↔
      ∃ server, matchmaker.registry.get? address = some server ∧
        server.queue.contains player := by
  simp only [places, List.mem_append, List.mem_map, reduceCtorEq, and_false, exists_false,
    false_or, List.mem_flatMap, List.mem_filter, beq_iff_eq, Place.queue.injEq,
    Registry.get?_eq_some_iff hkeyed, Queue.contains_iff, Queue.players]
  constructor
  · rintro ⟨server, hserver, entry, hentry, haddress⟩
    exact ⟨server, ⟨hserver, haddress⟩, entry, hentry⟩
  · rintro ⟨server, ⟨hserver, haddress⟩, entry, hentry⟩
    exact ⟨server, hserver, entry, hentry, haddress⟩

end Matchmaker

/-! ## Runs -/

/-- An operation on the queue of a server that is reached without the registry. -/
inductive GameServer.Handled : GameServer → GameServer → Prop where
  | acknowledge {server changed : GameServer} {player : PlayerId} {result : JoinResult}
      {now : Nat} {events : List QueueEvent}
      (hacknowledge : server.acknowledge player result now = .ok (changed, events)) :
      Handled server changed
  | remove {server changed : GameServer} {player : PlayerId} {reason : DequeueReason} {now : Nat}
      {events : List QueueEvent}
      (hremove : server.dequeue? player reason now = some (changed, events)) :
      Handled server changed
  | process {server : GameServer} {now : Nat} :
      Handled server (server.processInBackground now).1

theorem GameServer.Handled.requeued {server changed : GameServer}
    (hhandled : server.Handled changed) : server.Requeued [] changed := by
  cases hhandled with
  | acknowledge hacknowledge => exact requeued_acknowledge hacknowledge
  | remove hremove => exact requeued_dequeue? hremove
  | process => exact requeued_processInBackground _ _

/-- A matchmaker in the course of a run. -/
structure World where
  matchmaker : Matchmaker
  /-- The pool as ticks found it when they began. -/
  snapshots : List (List Searcher)
  /-- Servers that are no longer in the registry, in every state they have been in since. -/
  forgotten : List GameServer

namespace World

variable {config : QueueConfig} {world other : World}

def after (world : World) (matchmaker : Matchmaker) : World :=
  { world with matchmaker }

/-- One operation of a run, at any time and with any arguments. -/
inductive Step : World → World → Prop where
  | enter {world : World} (player : PlayerId) (criteria : Criteria)
      (servers : List PreferredServer) (now : Nat) :
      Step world (world.after (world.matchmaker.enter player criteria servers now).1)
  | leave {world : World} (player : PlayerId) :
      Step world (world.after (world.matchmaker.leave player).1)
  | withdraw {world : World} (player : PlayerId) (thoughtAt : Option Endpoint)
      (reason : DequeueReason) (now : Nat) :
      Step world (world.after (world.matchmaker.withdraw player thoughtAt reason now).1)
  | updatePreferences {world : World} (player : PlayerId) (criteria : Criteria)
      (servers : List PreferredServer) (now : Nat) :
      Step world (world.after (world.matchmaker.updatePreferences player criteria servers now).1)
  | beginTick {world : World} (now : Nat) :
      Step world {
        matchmaker := { world.matchmaker with
          registry := world.matchmaker.registry.getOrCreateAll
            (Matchmaker.namedServers world.matchmaker.pool) now }
        snapshots := world.matchmaker.pool :: world.snapshots
        forgotten := world.forgotten }
  | finishTick {world : World} {snapshot : List Searcher} (hsnapshot : snapshot ∈ world.snapshots)
      (views : List ServerView) (now : Nat) :
      Step world (world.after (world.matchmaker.finishTick snapshot views now).1)
  | acknowledge {world : World} {address : Endpoint} {player : PlayerId} {result : JoinResult}
      {now : Nat} {next : Matchmaker} {effects : List Effect}
      (hacknowledge : world.matchmaker.acknowledge address player result now =
        .ok (next, effects)) :
      Step world (world.after next)
  | remove {world : World} {address : Endpoint} {player : PlayerId} {reason : DequeueReason}
      {now : Nat} {next : Matchmaker} {effects : List Effect}
      (hremove : world.matchmaker.dequeue? address player reason now = some (next, effects)) :
      Step world (world.after next)
  | process {world : World} (processor : Processor) (now : Nat) :
      Step world (world.after (world.matchmaker.runProcessor processor now).1)
  | pruneIdle {world : World} (now : Nat) :
      Step world {
        matchmaker := world.matchmaker.pruneIdle now
        snapshots := world.snapshots
        forgotten := world.matchmaker.registry.servers.filter (fun server =>
          server ∉ (world.matchmaker.pruneIdle now).registry.servers) ++ world.forgotten }
  | handle {world : World} {server changed : GameServer} (hserver : server ∈ world.forgotten)
      (hhandled : server.Handled changed) :
      Step world { world with forgotten := changed :: world.forgotten }
  | register {world : World} (mention : Endpoint) (nameHint : String) (now : Nat) :
      Step world (world.after (world.matchmaker.register mention nameHint now))
  | store {world : World} (kind : ProbeKind) (address : Endpoint) (report : kind.Report)
      (now : Nat) :
      Step world (world.after { world.matchmaker with
        registry := world.matchmaker.registry.store kind address report now })
  | reserve {world : World} (address : Endpoint) (slots : Count) :
      Step world (world.after { world.matchmaker with
        registry := world.matchmaker.registry.modify address (·.reserve slots) })

inductive Reachable (config : QueueConfig) : World → Prop where
  | start : Reachable config ⟨.empty config, [], []⟩
  | step {world other : World} (hreach : Reachable config world) (hstep : Step world other) :
      Reachable config other

/-- Nobody has two places, nobody is twice in a snapshot, and nobody waits in vain for a forgotten
server. -/
structure IsConsistent (world : World) : Prop where
  matchmaker : world.matchmaker.IsConsistent
  snapshots : ∀ snapshot ∈ world.snapshots, (snapshot.map (·.id)).Nodup
  forgotten : ∀ server ∈ world.forgotten, server.queue.players = []

theorem IsConsistent.after (hworld : world.IsConsistent) {next : Matchmaker}
    (hmoves : Matchmaker.Moves [] world.matchmaker next) : (world.after next).IsConsistent :=
  ⟨hmoves.isConsistent hworld.matchmaker.nodup_roll, hworld.snapshots, hworld.forgotten⟩

theorem Step.isConsistent (hstep : Step world other) (hworld : world.IsConsistent) :
    other.IsConsistent := by
  have hkeyed := hworld.matchmaker.isKeyed
  have hroll := hworld.matchmaker.nodup_roll
  cases hstep with
  | enter player criteria servers now =>
      rcases Matchmaker.moves_enter hkeyed player criteria servers now with hmoves | ⟨hout, hmoves⟩
      · exact hworld.after hmoves
      · exact ⟨hmoves.isConsistent (List.nodup_cons.mpr ⟨hout, hroll⟩), hworld.snapshots,
          hworld.forgotten⟩
  | leave player => exact hworld.after (Matchmaker.moves_removeSearcher hkeyed player)
  | withdraw player thoughtAt reason now =>
      exact hworld.after (Matchmaker.moves_withdraw hkeyed player thoughtAt reason now)
  | updatePreferences player criteria servers now =>
      exact hworld.after (Matchmaker.moves_updatePreferences hkeyed player criteria servers now)
  | beginTick now =>
      have hmoves : Matchmaker.Moves [] world.matchmaker { world.matchmaker with
          registry := world.matchmaker.registry.getOrCreateAll
            (Matchmaker.namedServers world.matchmaker.pool) now } :=
        Matchmaker.moves_of_eq (Registry.isKeyed_getOrCreateAll hkeyed _ now) rfl
          (Registry.queued_getOrCreateAll _ _ now)
      refine ⟨hmoves.isConsistent hroll, ?_, hworld.forgotten⟩
      rw [List.forall_mem_cons]
      exact ⟨hworld.matchmaker.nodup_pool, hworld.snapshots⟩
  | finishTick hsnapshot views now =>
      exact hworld.after
        (Matchmaker.moves_finishTick hkeyed (hworld.snapshots _ hsnapshot) views now)
  | acknowledge hacknowledge =>
      exact hworld.after (Matchmaker.moves_acknowledge hkeyed hacknowledge)
  | remove hremove => exact hworld.after (Matchmaker.moves_dequeue? hkeyed hremove)
  | process processor now =>
      exact hworld.after (Matchmaker.moves_runProcessor hkeyed processor now)
  | pruneIdle now =>
      have hmoves := Matchmaker.moves_pruneIdle hkeyed now
      refine ⟨hmoves.isConsistent hroll, hworld.snapshots, ?_⟩
      intro server hserver
      rcases List.mem_append.mp hserver with hdropped | hforgotten
      · obtain ⟨hknown, hout⟩ := List.mem_filter.mp hdropped
        exact Registry.players_of_forgotten hknown (of_decide_eq_true hout)
      · exact hworld.forgotten server hforgotten
  | handle hserver hhandled =>
      refine ⟨hworld.matchmaker, hworld.snapshots, ?_⟩
      rw [List.forall_mem_cons]
      refine ⟨?_, hworld.forgotten⟩
      have hplayers := hhandled.requeued.players_subperm
      rw [hworld.forgotten _ hserver] at hplayers
      exact List.subperm_nil.mp hplayers
  | register mention nameHint now =>
      exact hworld.after (Matchmaker.moves_of_eq (Registry.isKeyed_getOrCreate hkeyed _ _ now) rfl
        (Registry.queued_getOrCreate _ _ _ now))
  | store kind address report now =>
      apply hworld.after
      apply Matchmaker.moves_modify hkeyed
      · intro server
        cases kind <;> rfl
      · intro server
        cases kind <;> rfl
  | reserve address slots =>
      apply hworld.after
      apply Matchmaker.moves_modify hkeyed
      · intro server
        rfl
      · intro server
        rfl

theorem Reachable.isConsistent (hreach : Reachable config world) : world.IsConsistent := by
  induction hreach with
  | start => exact ⟨Matchmaker.isConsistent_empty config, by simp, by simp⟩
  | step _ hstep ih => exact hstep.isConsistent ih

/-- In the course of any run a player is in at most one place.  If it is a queue, the registry knows
the server, and the server it knows by that address has the player in its queue.  Nobody is in the
queue of a server that is no longer in the registry. -/
theorem length_places_le_one (hreach : Reachable config world) (player : PlayerId) :
    (world.matchmaker.places player).length ≤ 1 ∧
    (∀ address, .queue address ∈ world.matchmaker.places player →
      ∃ server, world.matchmaker.registry.get? address = some server ∧
        server.queue.contains player) ∧
    ∀ server ∈ world.forgotten, ¬ server.queue.contains player := by
  have hworld := hreach.isConsistent
  refine ⟨?_, ?_, ?_⟩
  · rw [Matchmaker.length_places]
    exact List.nodup_iff_count_le_one.mp hworld.matchmaker.nodup_roll player
  · intro address hplace
    exact (Matchmaker.queue_mem_places_iff hworld.matchmaker.isKeyed).mp hplace
  · intro server hserver
    rw [Queue.contains_iff, hworld.forgotten server hserver]
    exact List.not_mem_nil

/-- A player who named two servers is handed over to one of them, and the other is forgotten. -/
theorem length_places_le_one_handedOver :
    ∃ world, Reachable { pruneIdleServers := true } world ∧
      world.matchmaker.places 7 = [.queue (.loopback 28960)] ∧
      world.forgotten.map (·.address) = [.loopback 28961] ∧
      (world.matchmaker.places 7).length ≤ 1 ∧
      ∀ server ∈ world.forgotten, ¬ server.queue.contains 7 := by
  have hstart : Reachable { pruneIdleServers := true }
      ⟨.empty { pruneIdleServers := true }, [], []⟩ := .start
  have hentered := hstart.step
    (.enter 7 { minPlayers := 0 } [⟨.loopback 28960, 40⟩, ⟨.loopback 28961, 40⟩] 0)
  have hbegun := hentered.step (.beginTick 1)
  have hfinished := hbegun.step (.finishTick List.mem_cons_self [Evaluation.smallServer] 2)
  have hpruned := hfinished.step (.pruneIdle 200000)
  obtain ⟨hplaces, -, hforgotten⟩ := length_places_le_one hpruned 7
  exact ⟨_, hpruned, by rfl, by rfl, hplaces, hforgotten⟩

end World

end Muster
