import Mathlib.Data.Option.Basic
import Mathlib.Order.Basic
import Muster.Proofs.Admission.Recent
import Muster.Proofs.Registry.Servers

/-!
# Servers that admit players

What becomes of servers while players are handed over at one moment: they keep all but their
queues, a queue grows by no more than the players handed over to it, and those who have joined a
queue at this moment stay in it.
-/

namespace Muster

variable {player : PlayerId} {now : Nat}

namespace GameServer

variable {server changed : GameServer} {events : List QueueEvent}

/-- The server after it has let at most so many players into its queue at this moment. -/
structure Admitted (now count : Nat) (before after : GameServer) : Prop where
  eq_queue : after = { before with queue := after.queue }
  config_eq : after.queue.config = before.queue.config
  length_le : after.queue.length ≤ before.queue.length + count
  kept : before.queue.config.HasTime → ∀ player, before.queue.Seats player now →
    after.queue.Seats player now

theorem Admitted.refl (server : GameServer) : server.Admitted now 0 server :=
  ⟨rfl, rfl, Nat.le_refl _, fun _ _ hseats => hseats⟩

theorem Admitted.mono {count larger : Nat} {before after : GameServer}
    (hadmitted : before.Admitted now count after) (hcount : count ≤ larger) :
    before.Admitted now larger after :=
  ⟨hadmitted.eq_queue, hadmitted.config_eq,
    Nat.le_trans hadmitted.length_le (Nat.add_le_add_left hcount _), hadmitted.kept⟩

/-- The players whom two changes let in add up. -/
theorem Admitted.trans {first second : Nat} {before next after : GameServer}
    (hfirst : before.Admitted now first next) (hsecond : next.Admitted now second after) :
    before.Admitted now (first + second) after := by
  constructor
  · rw [hsecond.eq_queue, hfirst.eq_queue]
  · exact hsecond.config_eq.trans hfirst.config_eq
  · have hlength := hsecond.length_le
    have hearlier := hfirst.length_le
    omega
  · intro htime player hseats
    apply hsecond.kept
    · rw [hfirst.config_eq]
      exact htime
    · exact hfirst.kept htime player hseats

/-- The queue takes the player in, and the pass that follows leaves the player there. -/
theorem admitted_enqueue (henqueue : server.enqueue player now = .ok (changed, events)) :
    server.Admitted now 1 changed ∧
      (server.queue.config.HasTime → changed.queue.Seats player now) := by
  obtain ⟨attended, hqueue, rfl, -⟩ := enqueue_eq_ok henqueue
  obtain ⟨-, rfl⟩ := Queue.enqueue_eq_ok hqueue
  let queue : Queue := { server.queue with
    entries := server.queue.entries ++ [Entry.arrive player], lastActivity := now }
  have hprocess : ∀ other, queue.config.HasTime → queue.Seats other now →
      (queue.process now server.joinableSlots?).1.Seats other now :=
    fun other htime hother => Queue.seats_process htime hother _
  refine ⟨⟨rfl, rfl, ?_, ?_⟩, ?_⟩
  · have hlength : queue.length = server.queue.length + 1 := by
      simp [queue, Queue.length]
    rw [← hlength]
    exact Queue.length_process_le queue now server.joinableSlots?
  · rintro htime other ⟨entry, hentry, hother⟩
    exact hprocess other htime ⟨entry, List.mem_append_left _ hentry, hother⟩
  · intro htime
    apply hprocess player htime
    exact ⟨Entry.arrive player, List.mem_append_right _ List.mem_cons_self, rfl,
      Entry.isRecent_arrive player now⟩

theorem address_enqueue (henqueue : server.enqueue player now = .ok (changed, events)) :
    changed.address = server.address := by
  rw [(admitted_enqueue henqueue).1.eq_queue]

/-- A queue refuses a player who is not in it only when it is full. -/
theorem enqueue_eq_error {error : QueueError} (hplayer : player ∉ server.queue.players)
    (henqueue : server.enqueue player now = .error error) : error = .queueFull := by
  have hcontains : server.queue.contains player = false := by
    rw [← Bool.not_eq_true, Queue.contains_iff]
    exact hplayer
  simp only [enqueue, Queue.enqueue, hcontains, Bool.false_eq_true, if_false] at henqueue
  split_ifs at henqueue
  exact (Except.error.inj henqueue).symm

end GameServer

namespace Registry

variable {registry before next after : Registry} {address : Endpoint} {server : GameServer}

/-- In all queues there is time for joining and for each attempt. -/
def HasTime (registry : Registry) : Prop :=
  ∀ address server, registry.get? address = some server → server.queue.config.HasTime

/-- The player has joined the queue of the server at an address at this moment. -/
def Seats (registry : Registry) (address : Endpoint) (player : PlayerId) (now : Nat) : Prop :=
  ∃ server, registry.get? address = some server ∧ server.queue.Seats player now

/-- The registry after its servers have let in at most so many players each. -/
def Admitted (now : Nat) (count : Endpoint → Nat) (before after : Registry) : Prop :=
  ∀ address, Option.Rel (GameServer.Admitted now (count address)) (before.get? address)
    (after.get? address)

theorem Admitted.refl (registry : Registry) : registry.Admitted now (fun _ => 0) registry := by
  intro address
  cases registry.get? address with
  | none => exact .none
  | some server => exact .some (GameServer.Admitted.refl server)

theorem Admitted.mono {count larger : Endpoint → Nat}
    (hadmitted : before.Admitted now count after)
    (hcount : ∀ address, count address ≤ larger address) :
    before.Admitted now larger after := by
  intro address
  have hserver := hadmitted address
  generalize before.get? address = server at hserver ⊢
  generalize after.get? address = changed at hserver ⊢
  cases hserver with
  | none => exact .none
  | some hserver => exact .some (hserver.mono (hcount address))

/-- What two changes let in adds up at each server. -/
theorem Admitted.trans {first second : Endpoint → Nat} (hfirst : before.Admitted now first next)
    (hsecond : next.Admitted now second after) :
    before.Admitted now (fun address => first address + second address) after := by
  intro address
  have hearlier := hfirst address
  have hlater := hsecond address
  generalize before.get? address = server at hearlier
  generalize next.get? address = changed at hearlier hlater
  generalize after.get? address = final at hlater
  cases hearlier with
  | none =>
      cases hlater
      exact .none
  | some hearlier =>
      cases hlater with
      | some hlater => exact .some (hearlier.trans hlater)

theorem Admitted.get?_eq_some {count : Endpoint → Nat} (hadmitted : before.Admitted now count after)
    (hget : before.get? address = some server) :
    ∃ changed, after.get? address = some changed ∧ server.Admitted now (count address) changed := by
  have hserver := hadmitted address
  rw [hget] at hserver
  generalize after.get? address = found at hserver
  cases hserver with
  | some hchanged => exact ⟨_, rfl, hchanged⟩

/-- A server that is known afterwards was known before. -/
theorem Admitted.of_get?_eq_some {count : Endpoint → Nat}
    (hadmitted : before.Admitted now count after) (hget : after.get? address = some server) :
    ∃ earlier, before.get? address = some earlier ∧
      earlier.Admitted now (count address) server := by
  have hserver := hadmitted address
  rw [hget] at hserver
  generalize before.get? address = found at hserver
  cases hserver with
  | some hearlier => exact ⟨_, rfl, hearlier⟩

theorem Admitted.hasTime {count : Endpoint → Nat} (hadmitted : before.Admitted now count after)
    (htime : before.HasTime) : after.HasTime := by
  intro address server hget
  obtain ⟨earlier, hearlier, hserver⟩ := hadmitted.of_get?_eq_some hget
  rw [hserver.config_eq]
  exact htime address earlier hearlier

theorem Admitted.seats {count : Endpoint → Nat} (hadmitted : before.Admitted now count after)
    (htime : before.HasTime) (hseats : before.Seats address player now) :
    after.Seats address player now := by
  obtain ⟨server, hget, hserver⟩ := hseats
  obtain ⟨changed, hchanged, hadmits⟩ := hadmitted.get?_eq_some hget
  exact ⟨changed, hchanged, hadmits.kept (htime address server hget) player hserver⟩

def sentTo (address : Endpoint) (count : Nat) (other : Endpoint) : Nat :=
  if address = other then count else 0

theorem sentTo_add (address : Endpoint) (first second : Nat) :
    (fun other => sentTo address first other + sentTo address second other) =
      sentTo address (first + second) := by
  funext other
  simp only [sentTo]
  split_ifs <;> rfl

/-- One server lets in players, the others stay as they are. -/
theorem admitted_modify {changed : GameServer} {count : Nat}
    (hget : registry.get? address = some server) (hchanged : server.Admitted now count changed) :
    registry.Admitted now (sentTo address count) (registry.modify address fun _ => changed) := by
  have haddress : changed.address = address := by
    rw [hchanged.eq_queue]
    exact (mem_of_get? hget).2
  intro other
  rw [get?_modify registry (fun _ _ => haddress)]
  by_cases hother : address = other
  · simp only [← hother, hget, Option.map_some, if_pos (mem_of_get? hget).2, sentTo, if_true]
    exact .some hchanged
  · simp only [sentTo, if_neg hother]
    cases hfound : registry.get? other with
    | none => exact .none
    | some found =>
        rw [Option.map_some, if_neg ((mem_of_get? hfound).2 ▸ Ne.symm hother)]
        exact .some (GameServer.Admitted.refl found)

end Registry

end Muster
