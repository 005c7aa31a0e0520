import Muster.Proofs.Admission.Sweeps
import Muster.Proofs.Admission.WellFormed
import Muster.Proofs.Matchmaker.Roll

/-!
# Departures

A player who is withdrawn has no place afterwards, wherever the player was thought to be.
-/

namespace Muster

namespace GameServer

variable {server changed : GameServer} {player : PlayerId} {reason : DequeueReason} {now : Nat}
  {events : List QueueEvent}

theorem dequeue?_isSome (hplayer : server.queue.contains player) (reason : DequeueReason)
    (now : Nat) : (server.dequeue? player reason now).isSome := by
  rw [dequeue?, Queue.remove, if_pos hplayer]
  rfl

/-- Nobody who is taken out of a queue is in it afterwards. -/
theorem not_mem_dequeue? (hnodup : server.queue.players.Nodup)
    (hdequeue : server.dequeue? player reason now = some (changed, events)) :
    player ∉ changed.queue.players := by
  obtain ⟨⟨queue, event⟩, hremove, hchanged⟩ := Option.map_eq_some_iff.mp hdequeue
  obtain ⟨rfl, rfl⟩ := Prod.mk.inj hchanged
  obtain ⟨-, -, rfl⟩ := Queue.remove_eq_some hremove
  intro hafter
  have hremoved := (Queue.players_process_sublist _ now _).mem hafter
  rw [Queue.players, ← Function.comp_def (· == player), ← List.eraseP_map,
    ← List.erase_eq_eraseP'] at hremoved
  exact hnodup.not_mem_erase hremoved

end GameServer

namespace Matchmaker

variable {matchmaker next : Matchmaker} {player : PlayerId} {now : Nat}

/-- The queue from which a player is taken is one that has the player, if any has. -/
theorem queueToLeave?_eq_none {thoughtAt : Option Endpoint}
    (hnone : matchmaker.queueToLeave? player thoughtAt = none) :
    player ∉ matchmaker.registry.queued := by
  rw [queueToLeave?, Option.or_eq_none_iff] at hnone
  rw [← Registry.isQueued_iff, Registry.isQueued, hnone.2]
  exact Bool.false_ne_true

/-- A player leaves a queue only of a server that is known to have the player. -/
theorem queueToLeave?_eq_some {thoughtAt : Option Endpoint} {server : GameServer}
    (hsome : matchmaker.queueToLeave? player thoughtAt = some server) :
    server ∈ matchmaker.registry.servers ∧ server.queue.contains player := by
  rw [queueToLeave?, Option.or_eq_some_iff] at hsome
  rcases hsome with hthought | ⟨-, hfound⟩
  · obtain ⟨hserver, hcontains⟩ := Option.filter_eq_some_iff.mp hthought
    obtain ⟨address, -, hget⟩ := Option.bind_eq_some_iff.mp hserver
    exact ⟨(Registry.mem_of_get? hget).1, hcontains⟩
  · have hcontains := List.find?_some hfound
    exact ⟨List.mem_of_find?_eq_some hfound, hcontains⟩

/-- Taking a player out of the queue that has the player leaves the player nowhere. -/
theorem not_mem_roll_dequeue? (hconsistent : matchmaker.IsConsistent) {server : GameServer}
    (hserver : server ∈ matchmaker.registry.servers) (hplayer : server.queue.contains player)
    {reason : DequeueReason} {effects : List Effect}
    (hdequeue : matchmaker.dequeue? server.address player reason now = some (next, effects)) :
    player ∉ next.roll := by
  have hkeyed := hconsistent.isKeyed
  have hget := (Registry.get?_eq_some_iff hkeyed).mpr ⟨hserver, rfl⟩
  obtain ⟨found, changed, events, hfound, hchanged, hnext⟩ := dequeue?_eq_some hdequeue
  obtain rfl := Option.some.inj (hget.symm.trans hfound)
  obtain ⟨rfl, -⟩ := Prod.mk.inj hnext
  obtain ⟨others, hbefore, hafter⟩ := Registry.exists_queued_others hkeyed hget
  have hroll : (matchmaker.pool.map (·.id) ++ (server.queue.players ++ others)).Nodup :=
    (hbefore.append_left _).nodup_iff.mp hconsistent.nodup_roll
  rw [Queue.contains_iff] at hplayer
  obtain ⟨-, hqueued, hpool⟩ := List.nodup_append.mp hroll
  obtain ⟨hqueue, -, hothers⟩ := List.nodup_append.mp hqueued
  have haddress : changed.address = server.address :=
    (GameServer.requeued_dequeue? hchanged).address_eq
  intro hmember
  rcases List.mem_append.mp hmember with hsearching | hmember
  · exact hpool player hsearching player (List.mem_append_left _ hplayer) rfl
  · rw [haddress] at hmember
    rcases List.mem_append.mp ((hafter fun _ => changed).mem_iff.mp hmember) with hleft | hother
    · exact GameServer.not_mem_dequeue? hqueue hchanged hleft
    · exact hothers player hplayer player hother rfl

theorem not_mem_roll_removeSearcher (hconsistent : matchmaker.IsConsistent)
    (hsearching : matchmaker.isSearching player) :
    player ∉ (matchmaker.removeSearcher player).roll := by
  obtain ⟨-, -, hqueued⟩ := List.nodup_append.mp hconsistent.nodup_roll
  intro hmember
  rcases List.mem_append.mp hmember with hpool | hqueue
  · obtain ⟨searcher, hsearcher, hid⟩ := List.mem_map.mp hpool
    have hother := (List.mem_filter.mp hsearcher).2
    simp [hid] at hother
  · exact hqueued player (isSearching_iff.mp hsearching) player hqueue rfl

/-- A player is withdrawn from the search, from a queue, or from nowhere. -/
theorem withdraw_cases (matchmaker : Matchmaker) (player : PlayerId)
    (thoughtAt : Option Endpoint) (reason : DequeueReason) (now : Nat) :
    (matchmaker.isSearching player ∧ matchmaker.withdraw player thoughtAt reason now =
      (matchmaker.removeSearcher player, some .search, [])) ∨
    (∃ address next effects, matchmaker.dequeue? address player reason now = some (next, effects) ∧
      matchmaker.withdraw player thoughtAt reason now =
        (next, some (.queue address), effects)) ∨
    matchmaker.withdraw player thoughtAt reason now = (matchmaker, none, []) := by
  rw [withdraw]
  split_ifs with hsearching
  · exact Or.inl ⟨hsearching, rfl⟩
  · right
    cases matchmaker.queueToLeave? player thoughtAt with
    | none => exact Or.inr rfl
    | some server =>
        cases hdequeue : matchmaker.dequeue? server.address player reason now with
        | none => simp only [hdequeue, or_true]
        | some outcome =>
            obtain ⟨next, effects⟩ := outcome
            exact Or.inl ⟨_, next, effects, hdequeue, by simp only [hdequeue]⟩

/-- A player who has been withdrawn has no place, wherever the player was thought to be. -/
theorem not_mem_roll_withdraw (hconsistent : matchmaker.IsConsistent) (player : PlayerId)
    (thoughtAt : Option Endpoint) (reason : DequeueReason) (now : Nat) :
    player ∉ (matchmaker.withdraw player thoughtAt reason now).1.roll := by
  rw [withdraw]
  split_ifs with hsearching
  · exact not_mem_roll_removeSearcher hconsistent hsearching
  · have hpool := mt isSearching_iff.mpr hsearching
    cases hleave : matchmaker.queueToLeave? player thoughtAt with
    | none =>
        intro hmember
        exact (List.mem_append.mp hmember).elim hpool (queueToLeave?_eq_none hleave)
    | some server =>
        obtain ⟨hserver, hplayer⟩ := queueToLeave?_eq_some hleave
        cases hdequeue : matchmaker.dequeue? server.address player reason now with
        | none =>
            have hget := (Registry.get?_eq_some_iff hconsistent.isKeyed).mpr ⟨hserver, rfl⟩
            have hsome := GameServer.dequeue?_isSome hplayer reason now
            rw [dequeue?, hget, Option.bind_some, Option.map_eq_none_iff] at hdequeue
            rw [hdequeue] at hsome
            exact absurd hsome Bool.false_ne_true
        | some outcome =>
            obtain ⟨next, effects⟩ := outcome
            simpa only [hdequeue] using not_mem_roll_dequeue? hconsistent hserver hplayer hdequeue

end Matchmaker

end Muster
