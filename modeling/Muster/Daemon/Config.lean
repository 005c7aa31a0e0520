import Muster.Admission.Queue
import Muster.Lookup.Resolver
import Muster.Query.Service

/-!
# Configuration of the daemon

Everything that can be set before the daemon starts, with the values that hold unless something
else is asked for.  Times are in milliseconds.
-/

namespace Muster

/-- The timing of ticks. -/
structure TickConfig where
  /-- The time between the end of a tick and the next one. -/
  interval : Nat := 3000
  /-- The time that servers have for their answers. -/
  probeTimeout : Nat := 2000
  deriving DecidableEq, Repr

/-- The configuration of the daemon. -/
structure DaemonConfig where
  /-- Where players send their packets. -/
  controlAddress : Endpoint := .loopback 27950
  /-- Where requests to game servers are sent from. -/
  queryAddress : Endpoint := .ofIp (.v4 0 0 0 0) 0
  /-- Players who are silent for longer than this lose their sessions. -/
  sessionTimeout : Nat := 15000
  maxSessions : Nat := 1024
  /-- Servers that are known from the start. -/
  servers : List String := []
  query : QueryConfig := {}
  resolver : ResolverConfig := {}
  queue : QueueConfig := {}
  ticks : TickConfig := {}
  deriving DecidableEq, Repr

end Muster
