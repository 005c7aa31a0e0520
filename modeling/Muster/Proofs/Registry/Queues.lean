import Muster.Proofs.Registry.Moves
import Muster.Proofs.Registry.Reports

/-!
# Queues of a registry

The queues by the addresses of their servers.  Reports about servers, slots and players who joined
change a server and leave its queue alone, and so everything that is read off the queues.
-/

namespace Muster

namespace Registry

variable {registry other : Registry} {address : Endpoint}

def queues (registry : Registry) : List (Endpoint × Queue) :=
  registry.servers.map fun server => (server.address, server.queue)

theorem isKeyed_iff : registry.IsKeyed ↔ (registry.queues.map (·.1)).Nodup := by
  rw [IsKeyed, queues, List.map_map]
  rfl

theorem queued_eq (registry : Registry) :
    registry.queued = registry.queues.flatMap (·.2.players) := by
  rw [queued, queues, List.flatMap_map]

theorem isKeyed_of_queues_eq (hqueues : other.queues = registry.queues)
    (hkeyed : registry.IsKeyed) : other.IsKeyed := by
  rw [isKeyed_iff, hqueues]
  exact isKeyed_iff.mp hkeyed

theorem queued_of_queues_eq (hqueues : other.queues = registry.queues) :
    other.queued = registry.queued := by
  rw [queued_eq, hqueues, queued_eq]

/-- In a keyed registry a server may be replaced at its place among the others. -/
theorem exists_lines (hkeyed : registry.IsKeyed) {server : GameServer}
    (hserver : server ∈ registry.servers) :
    ∃ before after, registry.queues = before ++ (server.address, server.queue) :: after ∧
      ∀ {changed : GameServer}, changed.address = server.address →
        (registry.modify server.address fun _ => changed).queues =
          before ++ (server.address, changed.queue) :: after := by
  have hget := (get?_eq_some_iff hkeyed).mpr ⟨hserver, rfl⟩
  obtain ⟨before, after, hservers, hmodify⟩ := exists_others hkeyed hget
  refine ⟨before.map fun server => (server.address, server.queue),
    after.map fun server => (server.address, server.queue), ?_, ?_⟩
  · rw [queues, hservers, List.map_append, List.map_cons]
  · intro changed haddress
    rw [queues, hmodify, List.map_append, List.map_cons, haddress]

/-- In a keyed registry the address of a server tells its queue. -/
theorem queue_eq_of_mem (hkeyed : registry.IsKeyed) {queue others : Queue}
    (hqueue : (address, queue) ∈ registry.queues) (hothers : (address, others) ∈ registry.queues) :
    queue = others := by
  have heq := List.inj_on_of_nodup_map (isKeyed_iff.mp hkeyed) hqueue hothers rfl
  exact congrArg Prod.snd heq

/-- A change of servers that leaves their addresses and queues alone. -/
theorem queues_modify {change : GameServer → GameServer}
    (hchange : ∀ server ∈ registry.servers, server.address = address →
      (change server).address = server.address ∧ (change server).queue = server.queue) :
    (registry.modify address change).queues = registry.queues := by
  rw [queues, modify, List.map_map, queues]
  apply List.map_congr_left
  intro server hserver
  rw [Function.comp_apply]
  split_ifs with haddress
  · obtain ⟨hsame, hqueue⟩ := hchange server hserver haddress
    rw [hsame, hqueue]
  · rfl

theorem queues_store (registry : Registry) (kind : ProbeKind) (address : Endpoint)
    (report : kind.Report) (now : Nat) :
    (registry.store kind address report now).queues = registry.queues := by
  apply queues_modify
  intro server _ _
  cases kind <;> exact ⟨rfl, rfl⟩

/-- What has become of a server is kept, its queue as it was. -/
theorem queues_put (hkeyed : registry.IsKeyed) {server : GameServer}
    (hserver : (server.address, server.queue) ∈ registry.queues) :
    (registry.put server).queues = registry.queues := by
  apply queues_modify
  intro other hother haddress
  have hthere : (server.address, other.queue) ∈ registry.queues :=
    List.mem_map.mpr ⟨other, hother, by rw [haddress]⟩
  exact ⟨haddress.symm, queue_eq_of_mem hkeyed hserver hthere⟩

theorem queues_movePlayer (hkeyed : registry.IsKeyed) (player : PlayerId)
    (source : Option Endpoint) (destination : Endpoint) :
    (registry.movePlayer player source destination).1.queues = registry.queues := by
  rw [movePlayer]
  cases hget : registry.get? destination with
  | none => rfl
  | some server =>
      have hknown : ∀ {address : Endpoint} {known : GameServer},
          registry.get? address = some known → (known.address, known.queue) ∈ registry.queues :=
        fun hknown => List.mem_map.mpr ⟨_, (mem_of_get? hknown).1, rfl⟩
      have hmove := GameServer.isExactMove_move player (source.bind registry.get?) server
      simp only
      generalize GameServer.move player (source.bind registry.get?) server = moved at hmove
      have hleft : (moved.1.elim registry registry.put).queues = registry.queues := by
        obtain ⟨players, hleft⟩ := hmove.left_eq
        rw [hleft]
        cases hsource : source.bind registry.get? with
        | none => rfl
        | some before =>
            obtain ⟨address, -, hbefore⟩ := Option.bind_eq_some_iff.mp hsource
            have hline := hknown hbefore
            exact queues_put hkeyed hline
      rw [← hleft]
      apply queues_put (isKeyed_of_queues_eq hleft hkeyed)
      have hline := hknown hget
      rw [hleft, hmove.seated_eq]
      exact hline

theorem queues_trackJoin (hkeyed : registry.IsKeyed) (player : PlayerId) (address : Endpoint) :
    (registry.trackJoin player address).queues = registry.queues :=
  queues_movePlayer hkeyed player _ address

end Registry

end Muster
