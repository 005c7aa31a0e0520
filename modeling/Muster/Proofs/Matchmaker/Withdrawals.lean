import Muster.Proofs.Admission.Passes
import Muster.Proofs.Matchmaker.Departure
import Muster.Proofs.Matchmaker.Meanwhile

/-!
# Withdrawals

A player who is withdrawn is taken from the one place where the player is, and the answer names that
place.  Where the player was thought to be has no part in what comes of it, for the search goes on
in all other queues where the guess was wrong.  Nobody else leaves the pool; others leave no queue
but the one that the player leaves, and that only because the pass over it finds their time or their
attempts run out.
-/

namespace Muster

/-- Who leaves a queue while another one is taken from it has run out of time or attempts. -/
theorem GameServer.exists_departure_of_dequeue? {server changed : GameServer}
    {player other : PlayerId} {reason : DequeueReason} {now : Nat} {events : List QueueEvent}
    (hdequeue : server.dequeue? player reason now = some (changed, events))
    (hother : other ≠ player) (hbefore : other ∈ server.queue.players)
    (hafter : other ∉ changed.queue.players) :
    ∃ entry ∈ server.queue.entries, entry.player = other ∧
      ∃ cause, entry.departure? server.queue.config now = some cause ∧
        .dequeued other cause ∈ events := by
  obtain ⟨⟨queue, event⟩, hremove, hchanged⟩ := Option.map_eq_some_iff.mp hdequeue
  obtain ⟨rfl, rfl⟩ := Prod.mk.inj hchanged
  obtain ⟨-, -, hqueue⟩ := Queue.remove_eq_some hremove
  obtain ⟨entry, hentry, rfl⟩ := List.mem_map.mp hbefore
  have hleft : entry ∈ queue.entries := by
    rw [hqueue]
    exact (List.mem_eraseP_of_neg (by simpa using hother)).mpr hentry
  have hconfig : queue.config = server.queue.config := by rw [hqueue]
  have hgone : entry.departure? queue.config now ≠ none := fun hstays =>
    hafter (Queue.mem_players_process_iff.mpr ⟨entry, hleft, rfl, hstays⟩)
  obtain ⟨cause, hcause⟩ := Option.ne_none_iff_exists'.mp hgone
  refine ⟨entry, hentry, rfl, cause, hconfig ▸ hcause, List.mem_cons_of_mem _ ?_⟩
  exact Queue.dequeued_mem_process_iff.mpr ⟨entry, hleft, rfl, hcause⟩

/-- The answer to one who is taken from a place. -/
def Place.withdrawal : Place → Withdrawal
  | .pool => .search
  | .queue server => .queue server

namespace Matchmaker

variable {matchmaker : Matchmaker} {player other : PlayerId} {address : Endpoint}
  {reason : DequeueReason} {now : Nat}

/-! ## The place of a player -/

theorem pool_mem_places_iff : .pool ∈ matchmaker.places player ↔ matchmaker.isSearching player := by
  simp [places, isSearching_iff]

theorem places_eq_nil_iff : matchmaker.places player = [] ↔ player ∉ matchmaker.roll := by
  rw [← List.length_eq_zero_iff, length_places, List.count_eq_zero]

/-- In a consistent state a player has one place or none. -/
theorem IsConsistent.places_cases (hconsistent : matchmaker.IsConsistent) (player : PlayerId) :
    matchmaker.places player = [] ∨ matchmaker.places player = [.pool] ∨
      ∃ address, matchmaker.places player = [.queue address] := by
  have hlength : (matchmaker.places player).length ≤ 1 := by
    rw [length_places]
    exact List.nodup_iff_count_le_one.mp hconsistent.nodup_roll player
  match hplaces : matchmaker.places player with
  | [] => exact Or.inl rfl
  | [.pool] => exact Or.inr (Or.inl rfl)
  | [.queue address] => exact Or.inr (Or.inr ⟨address, rfl⟩)
  | _ :: _ :: _ => simp [hplaces] at hlength

/-- A place in a queue is lost only where the server there is changed to one that does not have the
player. -/
theorem not_mem_of_replaceServer (hkeyed : matchmaker.registry.IsKeyed)
    {server changed : GameServer} (hserver : server ∈ matchmaker.registry.servers)
    (haddress : changed.address = server.address) (events : List QueueEvent)
    (hbefore : .queue address ∈ matchmaker.places player)
    (hafter : .queue address ∉ (matchmaker.replaceServer changed events).1.places player) :
    address = server.address ∧ player ∈ server.queue.players ∧
      player ∉ changed.queue.players := by
  obtain ⟨found, hget, hcontains⟩ := (queue_mem_places_iff hkeyed).mp hbefore
  let next := (matchmaker.replaceServer changed events).1
  have hnext : next.registry.IsKeyed :=
    Registry.isKeyed_modify hkeyed fun other _ hother => hother.symm
  have hfound : next.registry.get? address =
      some (if found.address = changed.address then changed else found) := by
    change (matchmaker.registry.modify changed.address fun _ => changed).get? address = _
    rw [Registry.get?_modify _ (fun _ _ => rfl), hget, Option.map_some]
  have hlost : ¬ (if found.address = changed.address then changed else found).queue.contains
      player := fun hkept => hafter ((queue_mem_places_iff hnext).mpr ⟨_, hfound, hkept⟩)
  by_cases hsame : found.address = changed.address
  · rw [if_pos hsame, Queue.contains_iff] at hlost
    have hfound : matchmaker.registry.get? server.address = some found :=
      (Registry.get?_eq_some_iff hkeyed).mpr
        ⟨(Registry.mem_of_get? hget).1, hsame.trans haddress⟩
    have hself : matchmaker.registry.get? server.address = some server :=
      (Registry.get?_eq_some_iff hkeyed).mpr ⟨hserver, rfl⟩
    obtain rfl := Option.some.inj (hfound.symm.trans hself)
    exact ⟨(Registry.mem_of_get? hget).2.symm, Queue.contains_iff.mp hcontains, hlost⟩
  · rw [if_neg hsame] at hlost
    exact absurd hcontains hlost

/-! ## The outcome of a withdrawal -/

theorem queue_mem_places_of_queueToLeave? (hkeyed : matchmaker.registry.IsKeyed)
    {thoughtAt : Option Endpoint} {server : GameServer}
    (hleave : matchmaker.queueToLeave? player thoughtAt = some server) :
    .queue server.address ∈ matchmaker.places player := by
  obtain ⟨hserver, hcontains⟩ := queueToLeave?_eq_some hleave
  have hget := (Registry.get?_eq_some_iff hkeyed).mpr ⟨hserver, rfl⟩
  exact (queue_mem_places_iff hkeyed).mpr ⟨server, hget, hcontains⟩

/-- Whoever is in no place has nothing to withdraw from. -/
theorem withdraw_of_places_eq_nil (hconsistent : matchmaker.IsConsistent)
    (hplaces : matchmaker.places player = []) (reason : DequeueReason) (now : Nat)
    (thoughtAt : Option Endpoint) :
    matchmaker.withdraw player thoughtAt reason now = (matchmaker, none, []) := by
  have hout : ¬ matchmaker.isSearching player := by
    rw [← pool_mem_places_iff, hplaces]
    exact List.not_mem_nil
  have hleave : matchmaker.queueToLeave? player thoughtAt = none := by
    rw [Option.eq_none_iff_forall_ne_some]
    intro server hserver
    have hplace := queue_mem_places_of_queueToLeave? hconsistent.isKeyed hserver
    rw [hplaces] at hplace
    exact List.not_mem_nil hplace
  simp only [withdraw, if_neg hout, hleave]

theorem withdraw_of_places_eq_pool (hplaces : matchmaker.places player = [.pool])
    (reason : DequeueReason) (now : Nat) (thoughtAt : Option Endpoint) :
    matchmaker.withdraw player thoughtAt reason now =
      (matchmaker.removeSearcher player, some .search, []) := by
  have hsearching : matchmaker.isSearching player := pool_mem_places_iff.mp (by simp [hplaces])
  rw [withdraw, if_pos hsearching]

/-- A player who is in a queue is found there, wherever the player was thought to be. -/
theorem withdraw_of_places_eq_queue (hconsistent : matchmaker.IsConsistent)
    (hplaces : matchmaker.places player = [.queue address]) (reason : DequeueReason) (now : Nat) :
    ∃ server changed events, matchmaker.registry.get? address = some server ∧
      server.dequeue? player reason now = some (changed, events) ∧
      ∀ thoughtAt, matchmaker.withdraw player thoughtAt reason now =
        ((matchmaker.replaceServer changed events).1, some (.queue address),
          (matchmaker.replaceServer changed events).2) := by
  have hkeyed := hconsistent.isKeyed
  obtain ⟨server, hget, hcontains⟩ :=
    (queue_mem_places_iff hkeyed).mp (hplaces ▸ List.mem_singleton_self (Place.queue address))
  obtain ⟨hserver, rfl⟩ := Registry.mem_of_get? hget
  obtain ⟨⟨changed, events⟩, hchanged⟩ :=
    Option.isSome_iff_exists.mp (GameServer.dequeue?_isSome hcontains reason now)
  refine ⟨server, changed, events, hget, hchanged, fun thoughtAt => ?_⟩
  have hout : ¬ matchmaker.isSearching player := by
    simp [← pool_mem_places_iff, hplaces]
  -- Any queue that is found has the player, and the player has no other place.
  have hleave : matchmaker.queueToLeave? player thoughtAt = some server := by
    cases hfound : matchmaker.queueToLeave? player thoughtAt with
    | none =>
        have hqueued := Registry.mem_queued.mpr ⟨server, hserver, Queue.contains_iff.mp hcontains⟩
        exact absurd hqueued (queueToLeave?_eq_none hfound)
    | some found =>
        have hplace := queue_mem_places_of_queueToLeave? hkeyed hfound
        rw [hplaces, List.mem_singleton, Place.queue.injEq] at hplace
        have hknown := (Registry.get?_eq_some_iff hkeyed).mpr
          ⟨(queueToLeave?_eq_some hfound).1, hplace⟩
        rw [← hknown, hget]
  have hdequeue : matchmaker.dequeue? server.address player reason now =
      some (matchmaker.replaceServer changed events) := by
    rw [dequeue?, hget, Option.bind_some, hchanged, Option.map_some]
  simp only [withdraw, if_neg hout, hleave, hdequeue]

/-- What comes of a withdrawal does not depend on where the player was thought to be. -/
theorem withdraw_congr (hconsistent : matchmaker.IsConsistent) (player : PlayerId)
    (thoughtAt hint : Option Endpoint) (reason : DequeueReason) (now : Nat) :
    matchmaker.withdraw player hint reason now =
      matchmaker.withdraw player thoughtAt reason now := by
  rcases hconsistent.places_cases player with hnil | hpool | ⟨address, hqueue⟩
  · rw [withdraw_of_places_eq_nil hconsistent hnil, withdraw_of_places_eq_nil hconsistent hnil]
  · rw [withdraw_of_places_eq_pool hpool, withdraw_of_places_eq_pool hpool]
  · obtain ⟨server, changed, events, -, -, hwithdraw⟩ :=
      withdraw_of_places_eq_queue hconsistent hqueue reason now
    rw [hwithdraw, hwithdraw]

/-- The answer names the place of the player. -/
theorem withdrawal_withdraw (hconsistent : matchmaker.IsConsistent) (player : PlayerId)
    (thoughtAt : Option Endpoint) (reason : DequeueReason) (now : Nat) :
    (matchmaker.withdraw player thoughtAt reason now).2.1 =
      (matchmaker.places player).head?.map Place.withdrawal := by
  rcases hconsistent.places_cases player with hnil | hpool | ⟨address, hqueue⟩
  · rw [withdraw_of_places_eq_nil hconsistent hnil, hnil]
    rfl
  · rw [withdraw_of_places_eq_pool hpool, hpool]
    rfl
  · obtain ⟨server, changed, events, -, -, hwithdraw⟩ :=
      withdraw_of_places_eq_queue hconsistent hqueue reason now
    rw [hwithdraw, hqueue]
    rfl

theorem withdraw_eq_some_iff (hconsistent : matchmaker.IsConsistent) (player : PlayerId)
    (thoughtAt : Option Endpoint) (reason : DequeueReason) (now : Nat) (place : Place) :
    (matchmaker.withdraw player thoughtAt reason now).2.1 = some place.withdrawal ↔
      place ∈ matchmaker.places player := by
  rw [withdrawal_withdraw hconsistent]
  rcases hconsistent.places_cases player with hplaces | hplaces | ⟨address, hplaces⟩ <;>
    cases place <;> simp [hplaces, Place.withdrawal, eq_comm]

/-- Others leave no queue but the one that the player leaves, and they are told why. -/
theorem exists_departure_of_withdraw (hconsistent : matchmaker.IsConsistent)
    {thoughtAt : Option Endpoint} (hother : other ≠ player)
    (hbefore : .queue address ∈ matchmaker.places other)
    (hafter : .queue address ∉ (matchmaker.withdraw player thoughtAt reason now).1.places other) :
    (matchmaker.withdraw player thoughtAt reason now).2.1 = some (.queue address) ∧
    ∃ server, matchmaker.registry.get? address = some server ∧
      ∃ entry ∈ server.queue.entries, entry.player = other ∧
        ∃ cause, entry.departure? server.queue.config now = some cause ∧
          .admission ⟨address, .dequeued other cause⟩ ∈
            (matchmaker.withdraw player thoughtAt reason now).2.2 := by
  have hkeyed := hconsistent.isKeyed
  rcases hconsistent.places_cases player with hnil | hpool | ⟨left, hqueue⟩
  · rw [withdraw_of_places_eq_nil hconsistent hnil] at hafter
    exact absurd hbefore hafter
  · rw [withdraw_of_places_eq_pool hpool] at hafter
    have hsame : (matchmaker.removeSearcher player).registry.IsKeyed := hkeyed
    have hkept := (queue_mem_places_iff hsame).mpr ((queue_mem_places_iff hkeyed).mp hbefore)
    exact absurd hkept hafter
  · obtain ⟨server, changed, events, hget, hdequeue, hwithdraw⟩ :=
      withdraw_of_places_eq_queue hconsistent hqueue reason now
    obtain ⟨hserver, rfl⟩ := Registry.mem_of_get? hget
    have haddress := (GameServer.requeued_dequeue? hdequeue).address_eq
    rw [hwithdraw] at hafter ⊢
    obtain ⟨rfl, hin, hout⟩ :=
      not_mem_of_replaceServer hkeyed hserver haddress events hbefore hafter
    obtain ⟨entry, hentry, hplayer, cause, hcause, hevent⟩ :=
      GameServer.exists_departure_of_dequeue? hdequeue hother hin hout
    refine ⟨rfl, server, hget, entry, hentry, hplayer, cause, hcause, ?_⟩
    rw [replaceServer, haddress, Effect.publish, List.mem_flatMap]
    exact ⟨_, hevent, by simp⟩

end Matchmaker

namespace World

variable {config : QueueConfig} {world : World}

/-- In the course of any run, a player who is withdrawn has no place afterwards, and the answer
names the place that the player had, if any.  All that comes of it is the same wherever the player
was thought to be.  The others who search go on as before, and those who wait in queues leave none
but the one that the player leaves, as ones whose time or attempts have run out. -/
theorem withdraw_complete (hreach : Reachable config world) (player : PlayerId)
    (thoughtAt : Option Endpoint) (reason : DequeueReason) (now : Nat) :
    let before := world.matchmaker
    let outcome := before.withdraw player thoughtAt reason now
    outcome.1.places player = [] ∧
    (outcome.2.1 = some .search ↔ .pool ∈ before.places player) ∧
    (∀ address, outcome.2.1 = some (.queue address) ↔ .queue address ∈ before.places player) ∧
    (outcome.2.1 = none ↔ before.places player = []) ∧
    (∀ hint, before.withdraw player hint reason now = outcome) ∧
    outcome.1.pool = before.pool.filter (fun searcher => searcher.id != player) ∧
    ∀ other ≠ player, ∀ address,
      .queue address ∈ before.places other → .queue address ∉ outcome.1.places other →
        outcome.2.1 = some (.queue address) ∧
        ∃ server, before.registry.get? address = some server ∧
          ∃ entry ∈ server.queue.entries, entry.player = other ∧
            ∃ cause, entry.departure? server.queue.config now = some cause ∧
              .admission ⟨address, .dequeued other cause⟩ ∈ outcome.2.2 := by
  intro before outcome
  have hbefore : before.IsConsistent := hreach.isConsistent.matchmaker
  have hanswer : ∀ place : Place, outcome.2.1 = some place.withdrawal ↔
      place ∈ before.places player :=
    Matchmaker.withdraw_eq_some_iff hbefore player thoughtAt reason now
  refine ⟨?nowhere, hanswer .pool, fun address => hanswer (.queue address), ?none, ?hint, ?pool,
    ?others⟩
  case nowhere =>
    exact Matchmaker.places_eq_nil_iff.mpr
      (Matchmaker.not_mem_roll_withdraw hbefore player thoughtAt reason now)
  case none =>
    rw [Matchmaker.withdrawal_withdraw hbefore, Option.map_eq_none_iff, List.head?_eq_none_iff]
  case hint =>
    intro hint
    exact Matchmaker.withdraw_congr hbefore player thoughtAt hint reason now
  case pool => exact Matchmaker.pool_withdraw before player thoughtAt reason now
  case others =>
    intro other hother address hin hout
    exact Matchmaker.exists_departure_of_withdraw hbefore hother hin hout

/-- A player who is thought to be at the wrong server is found, and the pass over the queue that the
player leaves takes out the other one, whose time has run out. -/
theorem withdraw_complete_wrongHint :
    ∃ world, Reachable {} world ∧
      world.matchmaker.places 7 = [.queue (.loopback 28960)] ∧
      world.matchmaker.places 8 = [.queue (.loopback 28960)] ∧
      let outcome := world.matchmaker.withdraw 8 (some (.loopback 28961)) .userLeave 60000
      outcome.1.places 8 = [] ∧
      outcome.2.1 = some (.queue (.loopback 28960)) ∧
      world.matchmaker.withdraw 8 none .userLeave 60000 = outcome ∧
      outcome.1.places 7 = [] ∧
      ∃ cause, .admission ⟨.loopback 28960, .dequeued 7 cause⟩ ∈ outcome.2.2 := by
  have hstart : Reachable {} ⟨.empty {}, [], []⟩ := .start
  have hseven := hstart.step (.enter 7 { minPlayers := 0 } [⟨.loopback 28960, 40⟩] 0)
  have height := hseven.step (.enter 8 { minPlayers := 0 } [⟨.loopback 28960, 40⟩] 0)
  have hbegun := height.step (.beginTick 1)
  have hfinished := hbegun.step (.finishTick List.mem_cons_self [Evaluation.smallServer] 2)
  obtain ⟨hnowhere, -, hqueue, -, hhint, -, hothers⟩ :=
    withdraw_complete hfinished 8 (some (.loopback 28961)) .userLeave 60000
  refine ⟨_, hfinished, by rfl, by rfl, hnowhere, (hqueue _).mpr List.mem_cons_self, hhint none,
    by rfl, ?_⟩
  obtain ⟨-, server, -, entry, -, -, cause, -, hevent⟩ :=
    hothers 7 (by decide) (.loopback 28960) List.mem_cons_self List.not_mem_nil
  exact ⟨cause, hevent⟩

end World

end Muster
