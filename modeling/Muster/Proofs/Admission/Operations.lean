import Muster.Proofs.Admission.Lines
import Muster.Proofs.Admission.Servers

/-!
# Operations on the queue of a server

Four things are done with the queue of a server: a player is let in, reports on an attempt or is
taken out, and a processor makes a pass.  What all four have in common is said here once.  They
touch nothing of the server but its queue, the queue stays in order, and one who knew where
everybody stood knows it again after hearing what the operation tells.
-/

namespace Muster.GameServer

/-- What is done with the queue of a server. -/
inductive Operation where
  | enqueue (player : PlayerId)
  | acknowledge (player : PlayerId) (result : JoinResult)
  | remove (player : PlayerId) (reason : DequeueReason)
  | process
  deriving DecidableEq, Repr

/-- The server after an operation, and what the operation tells the players.  One that is refused
changes nothing and tells nothing. -/
def operate (server : GameServer) (now : Nat) : Operation → GameServer × List QueueEvent
  | .enqueue player =>
    match server.enqueue player now with
    | .ok outcome => outcome
    | .error _ => (server, [])
  | .acknowledge player result =>
    match server.acknowledge player result now with
    | .ok outcome => outcome
    | .error _ => (server, [])
  | .remove player reason => (server.dequeue? player reason now).getD (server, [])
  | .process =>
    let (changed, events, _) := server.processInBackground now
    (changed, events)

/-- Who comes in with an operation. -/
def Operation.arriving : Operation → List PlayerId
  | .enqueue player => [player]
  | _ => []

/-- What an operation makes of the queue before the pass that ends it. -/
inductive Operation.Begins (before : Queue) (now : Nat) : Operation → Queue → Prop where
  | enqueue {player : PlayerId} {queue : Queue}
      (henqueue : before.enqueue player now = (queue, .ok ())) :
      Begins before now (.enqueue player) queue
  | acknowledge {player : PlayerId} {result : JoinResult} {queue : Queue} {events : List QueueEvent}
      (hacknowledge : before.acknowledge player result now = (queue, .ok events)) :
      Begins before now (.acknowledge player result) queue
  | remove {player : PlayerId} {reason : DequeueReason} {queue : Queue} {event : QueueEvent}
      (hremove : before.remove player reason now = some (queue, event)) :
      Begins before now (.remove player reason) queue
  | process : Begins before now .process before

variable {server : GameServer}

/-- An operation that is not refused ends with a pass, and the flag of the queue may change. -/
theorem queue_operate (server : GameServer) (now : Nat) (operation : Operation) :
    (server.operate now operation).1.queue = server.queue ∨
    ∃ queue, operation.Begins server.queue now queue ∧ ∃ processing,
      (server.operate now operation).1.queue =
        { (queue.process now server.joinableSlots?).1 with processing } := by
  cases operation with
  | enqueue player =>
      rw [operate]
      cases henqueue : server.enqueue player now with
      | error error => exact Or.inl rfl
      | ok outcome =>
          obtain ⟨queue, hqueue, hchanged, -⟩ := enqueue_eq_ok henqueue
          exact Or.inr ⟨queue, .enqueue hqueue, true, congrArg (·.queue) hchanged⟩
  | acknowledge player result =>
      rw [operate]
      cases hacknowledge : server.acknowledge player result now with
      | error error => exact Or.inl rfl
      | ok outcome =>
          obtain ⟨queue, told, hqueue, hchanged, -⟩ := acknowledge_eq_ok hacknowledge
          exact Or.inr ⟨queue, .acknowledge hqueue, _, congrArg (·.queue) hchanged⟩
  | remove player reason =>
      simp only [operate, dequeue?]
      cases hqueue : server.queue.remove player reason now with
      | none => exact Or.inl rfl
      | some outcome => exact Or.inr ⟨outcome.1, .remove hqueue, _, rfl⟩
  | process => exact Or.inr ⟨server.queue, .process, _, rfl⟩

theorem requeued_operate (server : GameServer) (now : Nat) (operation : Operation) :
    server.Requeued operation.arriving (server.operate now operation).1 := by
  have hrefused : server.Requeued operation.arriving server :=
    ⟨rfl, (List.sublist_append_right _ _).subperm⟩
  cases operation with
  | enqueue player =>
      simp only [operate]
      split
      next outcome henqueue => exact requeued_enqueue henqueue
      next => exact hrefused
  | acknowledge player result =>
      simp only [operate]
      split
      next outcome hacknowledge => exact requeued_acknowledge hacknowledge
      next => exact hrefused
  | remove player reason =>
      simp only [operate]
      cases hremove : server.dequeue? player reason now with
      | none => exact hrefused
      | some outcome => exact requeued_dequeue? hremove
  | process => exact requeued_processInBackground server now

@[simp]
theorem info_operate (server : GameServer) (now : Nat) (operation : Operation) :
    (server.operate now operation).1.info = server.info := by
  rw [(server.requeued_operate now operation).eq_queue]

@[simp]
theorem privilegedSlots_operate (server : GameServer) (now : Nat) (operation : Operation) :
    (server.operate now operation).1.privilegedSlots = server.privilegedSlots := by
  rw [(server.requeued_operate now operation).eq_queue]

/-- Every operation goes through a queue of which the players have heard.  It is the queue of the
server, or that queue with somebody at the end who has just arrived. -/
theorem serves_operate (hserver : server.queue.IsOrderly) (now : Nat) (operation : Operation) :
    ∃ attended : Queue,
      server.Serves attended (server.operate now operation).1 (server.operate now operation).2 ∧
      attended.config = server.queue.config ∧
      attended.IsWellFormed attended.config ∧
      Observer.Tracks server.queue.standing? attended.entries := by
  have hrefused : server.Serves server.queue server [] :=
    ⟨rfl, rfl, .none _, hserver.isAnnounced⟩
  have hhere : ∀ {changed : GameServer} {events : List QueueEvent},
      server.Serves server.queue changed events → ∃ attended : Queue,
        server.Serves attended changed events ∧ attended.config = server.queue.config ∧
        attended.IsWellFormed attended.config ∧
        Observer.Tracks server.queue.standing? attended.entries := fun hserves =>
    ⟨_, hserves, rfl, hserver.isWellFormed, hserver.tracks⟩
  cases operation with
  | enqueue player =>
      simp only [operate]
      split
      next outcome henqueue =>
        obtain ⟨attended, hqueue, hserves, -⟩ := serves_enqueue henqueue
        have hwell := hserver.isWellFormed.enqueue hqueue
        obtain ⟨-, hattended⟩ := Queue.enqueue_eq_ok hqueue
        have hconfig : attended.config = server.queue.config := by rw [hattended]
        refine ⟨attended, hserves, hconfig, hconfig ▸ hwell, ?_⟩
        rw [hattended]
        exact hserver.tracks.arrive player
      next => exact hhere hrefused
  | acknowledge player result =>
      simp only [operate]
      split
      next outcome hacknowledge => exact hhere (serves_acknowledge hacknowledge)
      next => exact hhere hrefused
  | remove player reason =>
      simp only [operate]
      cases hremove : server.dequeue? player reason now with
      | none => exact hhere hrefused
      | some outcome => exact hhere (serves_dequeue? hremove)
  | process => exact hhere (serves_processInBackground server now)

theorem config_operate (hserver : server.queue.IsOrderly) (now : Nat) (operation : Operation) :
    (server.operate now operation).1.queue.config = server.queue.config := by
  obtain ⟨attended, hserves, hconfig, -, -⟩ := serves_operate hserver now operation
  exact hserves.config_eq.trans hconfig

theorem isOrderly_operate (hserver : server.queue.IsOrderly) (now : Nat) (operation : Operation) :
    (server.operate now operation).1.queue.IsOrderly := by
  obtain ⟨attended, hserves, -, hattended, -⟩ := serves_operate hserver now operation
  exact hserves.isOrderly hattended

/-- An operation tells how the queue changes: one who knew where everybody stood knows it again. -/
theorem standing?_operate (hserver : server.queue.IsOrderly) (now : Nat) (operation : Operation) :
    (server.operate now operation).1.queue.standing? =
      Observer.hearAll server.queue.standing? (server.operate now operation).2 := by
  obtain ⟨attended, hserves, -, hattended, htracks⟩ := serves_operate hserver now operation
  exact hserves.standing?_eq hattended htracks

end Muster.GameServer
