import Muster.Client.Session
import Muster.Daemon.Config
import Muster.Document.Admission
import Muster.Lookup.NameTable

/-!
# Documents of the daemon

What can be configured, and what the names of servers stand for.
-/

namespace Muster

open Document

instance : OfDocument DaemonConfig := ⟨fun document => do
  let default : DaemonConfig := {}
  return { default with
    sessionTimeout := ← document.getD "session_timeout_ms" default.sessionTimeout
    maxSessions := ← document.getD "max_sessions" default.maxSessions
    servers := ← document.getD "servers" default.servers
    queue := ← document.getD "queue" default.queue
    ticks := {
      interval := ← document.getD "tick_ms" default.ticks.interval
      probeTimeout := ← document.getD "probe_timeout_ms" default.ticks.probeTimeout } }⟩

instance : ToDocument QueryConfig := ⟨fun config => record [
  ("request_timeout_ms", toDocument config.requestTimeout),
  ("resolve_concurrency", toDocument config.resolveConcurrency),
  ("send_interval_ms", toDocument config.sendInterval)]⟩

instance : ToDocument ResolverConfig := ⟨fun config => record [
  ("ttl_ms", toDocument config.lifetime), ("negative_ttl_ms", toDocument config.failureLifetime)]⟩

instance : ToDocument TickConfig := ⟨fun config => record [
  ("tick_interval_ms", toDocument config.interval),
  ("probe_timeout_ms", toDocument config.probeTimeout)]⟩

instance : ToDocument DaemonConfig := ⟨fun config => record [
  ("query", toDocument config.query), ("resolver", toDocument config.resolver),
  ("queue", toDocument config.queue), ("matchmaking", toDocument config.ticks),
  ("server", record [
    ("control_address", toDocument config.controlAddress),
    ("query_address", toDocument config.queryAddress),
    ("session_timeout_ms", toDocument config.sessionTimeout),
    ("max_sessions", toDocument config.maxSessions),
    ("servers", toDocument config.servers)]),
  ("protocol_version", toDocument protocolVersion),
  ("max_packet_size", toDocument maxPacketSize), ("max_ping", toDocument maxPing),
  ("oob_marker", hex Message.marker)]⟩

/-- A name that stands for an address, for an endpoint, for nothing, or for a question that is never
answered. -/
instance : OfDocument NameTarget := ⟨fun
  | .bool true => some .endless
  | .text value =>
    match Ip.ofText? value, Endpoint.ofText? value with
    | some ip, _ => some (.host ip)
    | none, some endpoint => some (.endpoint endpoint)
    | none, none => none
  | _ => some .unknown⟩

instance : ToDocument ClientOutcome := ⟨fun
  | .joined server => record [("Joined", toDocument server)]
  | .dequeued reason => record [("Dequeued", toDocument reason)]
  | .interrupted => .text "Interrupted"⟩

end Muster
