import Muster.Admission.Queue

/-!
# Effects

What a change of the matchmaker causes outside: events for players, and changes of queues for those
who follow where players stand.  Effects take place in the order in which they are listed.
-/

namespace Muster

/-- A change of the queue of a server. -/
structure AdmissionEvent where
  server : Endpoint
  event : QueueEvent
  deriving DecidableEq, Repr

/-- One consequence of a change. -/
inductive Effect where
  /-- Tells a player something. -/
  | notify (player : PlayerId) (event : ClientEvent)
  /-- Makes the change of a queue known. -/
  | admission (event : AdmissionEvent)
  deriving DecidableEq, Repr

namespace Effect

/-- Every change of a queue is first told to the player it concerns and then made known. -/
def publish (server : Endpoint) (joinTimeout : Nat) (events : List QueueEvent) : List Effect :=
  events.flatMap fun event =>
    [.notify event.player (event.toClientEvent server joinTimeout), .admission ⟨server, event⟩]

/-- The event for a player, with the player. -/
def notice? : Effect → Option (PlayerId × ClientEvent)
  | notify player event => some (player, event)
  | admission _ => none

/-- The change of a queue. -/
def admission? : Effect → Option AdmissionEvent
  | notify _ _ => none
  | admission event => some event

end Effect

end Muster
