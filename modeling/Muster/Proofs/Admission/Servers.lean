import Muster.Matchmaker.Admission
import Muster.Proofs.Admission.Players

/-!
# Servers with queues

What the operations of admission make of the server whose queue they work on: the same server with
another queue.
-/

namespace Muster.GameServer

variable {server changed : GameServer} {player : PlayerId} {now : Nat} {events : List QueueEvent}

/-- The server after an operation on its queue.  The server is the same but for the queue, and in
the queue are none but those who were there and those who joined. -/
structure Requeued (joined : List PlayerId) (before after : GameServer) : Prop where
  eq_queue : after = { before with queue := after.queue }
  players_subperm : after.queue.players.Subperm (joined ++ before.queue.players)

theorem Requeued.address_eq {joined : List PlayerId} (hqueue : server.Requeued joined changed) :
    changed.address = server.address := by
  rw [hqueue.eq_queue]

/-- A pass follows an operation and brings nobody in. -/
theorem Requeued.process {joined : List PlayerId} (hqueue : server.Requeued joined changed)
    (now : Nat) : server.Requeued joined (changed.process now).1 := by
  refine ⟨?_, ?_⟩
  · rw [hqueue.eq_queue]
    rfl
  · exact (Queue.players_process_sublist _ _ _).subperm.trans hqueue.players_subperm

theorem requeued_of_sublist {queue : Queue}
    (hqueue : queue.players.Sublist server.queue.players) :
    server.Requeued [] { server with queue } :=
  ⟨rfl, hqueue.subperm⟩

/-- A player who is let in finds the queue flagged after the pass that follows. -/
theorem enqueue_eq_ok (henqueue : server.enqueue player now = .ok (changed, events)) :
    ∃ queue, server.queue.enqueue player now = (queue, .ok ()) ∧
      changed = { server with
        queue := { (queue.process now server.joinableSlots?).1 with processing := true } } ∧
      events = (queue.process now server.joinableSlots?).2 := by
  rw [enqueue] at henqueue
  obtain ⟨error, hqueue⟩ | ⟨queue, hqueue⟩ := server.queue.enqueue_cases player now
  · rw [hqueue] at henqueue
    cases henqueue
  · rw [hqueue] at henqueue
    obtain ⟨rfl, rfl⟩ := Prod.mk.inj (Except.ok.inj henqueue)
    exact ⟨queue, hqueue, rfl, rfl⟩

/-- What a report tells comes before what the pass that follows tells. -/
theorem acknowledge_eq_ok {result : JoinResult}
    (hacknowledge : server.acknowledge player result now = .ok (changed, events)) :
    ∃ queue told, server.queue.acknowledge player result now = (queue, .ok told) ∧
      changed = { server with queue := (queue.process now server.joinableSlots?).1 } ∧
      events = told ++ (queue.process now server.joinableSlots?).2 := by
  rw [acknowledge] at hacknowledge
  obtain ⟨error, hqueue⟩ | ⟨queue, told, hqueue⟩ :=
    server.queue.acknowledge_cases player result now
  · rw [hqueue] at hacknowledge
    cases hacknowledge
  · rw [hqueue] at hacknowledge
    obtain ⟨rfl, rfl⟩ := Prod.mk.inj (Except.ok.inj hacknowledge)
    exact ⟨queue, told, hqueue, rfl, rfl⟩

theorem requeued_enqueue (henqueue : server.enqueue player now = .ok (changed, events)) :
    server.Requeued [player] changed := by
  obtain ⟨queue, hqueue, rfl, -⟩ := enqueue_eq_ok henqueue
  have hadded : server.Requeued [player] { server with queue } := by
    refine ⟨rfl, ?_⟩
    rw [Queue.players_enqueue hqueue]
    exact List.perm_append_comm.subperm
  exact ⟨rfl, (hadded.process now).players_subperm⟩

/-- An answered report lets nobody in. -/
theorem requeued_acknowledge {result : JoinResult}
    (hacknowledge : server.acknowledge player result now = .ok (changed, events)) :
    server.Requeued [] changed := by
  obtain ⟨queue, told, hqueue, rfl, -⟩ := acknowledge_eq_ok hacknowledge
  exact (requeued_of_sublist (Queue.players_acknowledge_sublist hqueue)).process now

theorem requeued_dequeue? {reason : DequeueReason}
    (hdequeue : server.dequeue? player reason now = some (changed, events)) :
    server.Requeued [] changed := by
  obtain ⟨⟨queue, event⟩, hremove, hchanged⟩ := Option.map_eq_some_iff.mp hdequeue
  obtain ⟨rfl, -⟩ := Prod.mk.inj hchanged
  exact (requeued_of_sublist (Queue.players_remove_sublist hremove)).process now

theorem requeued_processInBackground (server : GameServer) (now : Nat) :
    server.Requeued [] (server.processInBackground now).1 := by
  have hprocess : server.Requeued [] (server.process now).1 :=
    (requeued_of_sublist (List.Sublist.refl _)).process now
  exact ⟨rfl, hprocess.players_subperm⟩

end Muster.GameServer
