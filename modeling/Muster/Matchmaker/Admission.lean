import Muster.Matchmaker.Basic

/-!
# Admission

Operations on the queues of servers.  Each of them is followed at once by a pass over the queue, so
that a free slot is handed out in the same step.  The first player who is queued starts a processor
for the queue.  A queue that refuses an operation stays as it is, so that a refusal changes nothing
else either.
-/

namespace Muster

namespace GameServer

def process (server : GameServer) (now : Nat) : GameServer × List QueueEvent :=
  let (queue, events) := server.queue.process now server.joinableSlots?
  ({ server with queue }, events)

/-- Queues a player; the queue has a processor from then on. -/
def enqueue (server : GameServer) (player : PlayerId) (now : Nat) :
    Except QueueError (GameServer × List QueueEvent) :=
  match server.queue.enqueue player now with
  | (_, .error error) => .error error
  | (queue, .ok ()) =>
    let (server, events) := { server with queue }.process now
    .ok ({ server with queue := { server.queue with processing := true } }, events)

/-- Takes a player's report on an attempt to join. -/
def acknowledge (server : GameServer) (player : PlayerId) (result : JoinResult) (now : Nat) :
    Except QueueError (GameServer × List QueueEvent) :=
  match server.queue.acknowledge player result now with
  | (_, .error error) => .error error
  | (queue, .ok events) =>
    let (server, others) := { server with queue }.process now
    .ok (server, events ++ others)

/-- Takes a player out of the queue. -/
def dequeue? (server : GameServer) (player : PlayerId) (reason : DequeueReason) (now : Nat) :
    Option (GameServer × List QueueEvent) :=
  (server.queue.remove player reason now).map fun (queue, event) =>
    let (server, others) := { server with queue }.process now
    (server, event :: others)

/-- The pass of a processor.  Returns whether the queue is idle; its processor ends then. -/
def processInBackground (server : GameServer) (now : Nat) :
    GameServer × List QueueEvent × Bool :=
  let (server, events) := server.process now
  let isIdle := server.queue.isIdle now
  ({ server with
    queue := { server.queue with processing := server.queue.processing && !isIdle } },
    events, isIdle)

end GameServer

namespace Matchmaker

/-- Puts a changed server in its place and publishes what happened to its queue. -/
def replaceServer (matchmaker : Matchmaker) (server : GameServer) (events : List QueueEvent) :
    Matchmaker × List Effect :=
  ({ matchmaker with
    registry := matchmaker.registry.modify server.address fun _ => server },
    Effect.publish server.address matchmaker.joinTimeout events)

/-- Processors run: they have not been ended, and there is time between two passes. -/
def hasProcessors (matchmaker : Matchmaker) : Bool :=
  !matchmaker.isShutdown && matchmaker.registry.queueConfig.processInterval != 0

/-- Starts a processor for a queue that has none.  Where processors do not run, the queue counts as
one that has a processor all the same, and no background pass over it takes place. -/
def startProcessor (matchmaker : Matchmaker) (server : GameServer) (now : Nat) : Matchmaker :=
  if server.queue.processing || !matchmaker.hasProcessors then matchmaker
  else { matchmaker with processors := matchmaker.processors ++ [⟨server.serial, now⟩] }

def enqueue (matchmaker : Matchmaker) (address : Endpoint) (player : PlayerId) (now : Nat) :
    Except QueueError (Matchmaker × List Effect) :=
  match matchmaker.registry.get? address with
  | none => .error .notQueued
  | some server =>
    match server.enqueue player now with
    | .error error => .error error
    | .ok (changed, events) =>
      .ok ((matchmaker.startProcessor server now).replaceServer changed events)

/-- Takes a player's report on an attempt to join a server. -/
def acknowledge (matchmaker : Matchmaker) (address : Endpoint) (player : PlayerId)
    (result : JoinResult) (now : Nat) : Except QueueError (Matchmaker × List Effect) :=
  match matchmaker.registry.get? address with
  | none => .error .notQueued
  | some server =>
    match server.acknowledge player result now with
    | .error error => .error error
    | .ok (changed, events) => .ok (matchmaker.replaceServer changed events)

/-- Takes a player out of the queue of a server. -/
def dequeue? (matchmaker : Matchmaker) (address : Endpoint) (player : PlayerId)
    (reason : DequeueReason) (now : Nat) : Option (Matchmaker × List Effect) :=
  (matchmaker.registry.get? address).bind fun server =>
    (server.dequeue? player reason now).map fun (changed, events) =>
      matchmaker.replaceServer changed events

end Matchmaker

end Muster
