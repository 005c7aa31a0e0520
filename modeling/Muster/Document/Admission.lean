import Muster.Document.Control
import Muster.Matchmaker.Search
import Muster.Registry.Refresh

/-!
# Documents of queues and servers

Queues with their limits and events, and what is known about the servers to which they belong.
-/

namespace Muster

open Document

/-- The name of the kind of an error. -/
def QueueError.kind : QueueError → String
  | queueFull => "QueueFull"
  | alreadyQueued => "AlreadyQueued"
  | notQueued => "NotQueued"

instance : ToDocument QueueError := ⟨fun error => failure error.kind error.message⟩

instance : ToDocument QueueEvent := ⟨fun
  | .position player position queueLength => record [
      ("event", .text "Position"), ("player", toDocument player),
      ("position", toDocument position), ("queue_len", toDocument queueLength)]
  | .join player attempt => record [
      ("event", .text "Join"), ("player", toDocument player), ("attempt", toDocument attempt)]
  | .dequeued player reason => record [
      ("event", .text "Dequeued"), ("player", toDocument player),
      ("reason", toDocument reason)]⟩

instance : OfDocument QueueConfig := ⟨fun document => do
  let default : QueueConfig := {}
  return {
    idleTimeout := ← document.getD "idle_timeout_ms" default.idleTimeout
    totalJoinTime := ← document.getD "total_join_time_ms" default.totalJoinTime
    joinTimeout := ← document.getD "join_timeout_ms" default.joinTimeout
    resetAttemptsWhenFull :=
      ← document.getD "reset_attempts_when_full" default.resetAttemptsWhenFull
    maxJoinAttempts := ← document.getD "max_join_attempts" default.maxJoinAttempts
    maxQueueLength := ← document.getD "max_queue_len" default.maxQueueLength
    processInterval := ← document.getD "process_interval_ms" default.processInterval
    pruneIdleServers := ← document.getD "prune_idle_servers" default.pruneIdleServers }⟩
instance : ToDocument QueueConfig := ⟨fun config => record [
  ("idle_timeout_ms", toDocument config.idleTimeout),
  ("total_join_time_ms", toDocument config.totalJoinTime),
  ("join_timeout_ms", toDocument config.joinTimeout),
  ("reset_attempts_when_full", toDocument config.resetAttemptsWhenFull),
  ("max_join_attempts", toDocument config.maxJoinAttempts),
  ("max_queue_len", toDocument config.maxQueueLength),
  ("process_interval_ms", toDocument config.processInterval),
  ("prune_idle_servers", toDocument config.pruneIdleServers)]⟩

/-- The names of what a queued player does. -/
def EntryState.names : List (String × EntryState) := [
  ("Waiting", .waiting), ("Joining", .joining)]

instance : ToDocument EntryState := ⟨nameOf EntryState.names⟩

instance : ToDocument GameServer := ⟨fun server => record [
  ("address", toDocument server.address), ("name", toDocument server.displayName),
  ("queued", toDocument server.queuedCount), ("joining", toDocument server.joiningCount),
  ("joinable", toDocument server.joinableSlots?),
  ("available", toDocument server.availableSlots?),
  ("privileged", toDocument server.privilegedSlots),
  ("known", toDocument server.knownPlayers.toList),
  ("clients", toDocument (server.info.map fun info => info.value.clients)),
  ("score", toDocument (server.status.map fun status => status.value.totalScore))]⟩

/-- The names of where a refreshed report comes from. -/
def RefreshSource.names : List (String × RefreshSource) := [
  ("Cached", .cached), ("Fetched", .fetched), ("Failed", .failed)]

instance : ToDocument Refreshed := ⟨fun refreshed => list [
  toDocument refreshed.address, nameOf RefreshSource.names refreshed.source,
  toDocument refreshed.responded]⟩

instance : ToDocument Withdrawal := ⟨fun
  | .search => .text "Search"
  | .queue server => record [("Queue", toDocument server)]⟩

end Muster
