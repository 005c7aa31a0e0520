import Muster.Query.Service
import Muster.Registry.Basic

/-!
# Fresh reports

Reports are asked for when those that are stored are too old.  A report that arrives replaces the
stored one; where none arrives the stored one stays.
-/

namespace Muster

/-- Where the report of a refreshed server comes from. -/
inductive RefreshSource where
  /-- The stored report was recent enough; nothing was asked. -/
  | cached
  | fetched
  /-- No usable answer came. -/
  | failed
  deriving DecidableEq, Repr

/-- A server that has been refreshed. -/
structure Refreshed where
  address : Endpoint
  source : RefreshSource
  deriving DecidableEq, Repr

/-- There is a report that is recent enough. -/
def Refreshed.responded (refreshed : Refreshed) : Bool :=
  refreshed.source != .failed

namespace Registry

def store (registry : Registry) (kind : ProbeKind) (address : Endpoint) (report : kind.Report)
    (now : Nat) : Registry :=
  registry.modify address fun server => server.store now kind report

/-- The stored report of a server, if it is recent enough. -/
def cached? (registry : Registry) (kind : ProbeKind) (address : Endpoint) (maxAge : Option Nat)
    (now : Nat) : Option kind.Report :=
  (registry.get? address).bind fun server => server.cached? kind maxAge now

/-- A probe has come to its end.  A report that came is stored and told; where none came the stored
one is told, whatever its age. -/
def conclude (registry : Registry) (kind : ProbeKind) (address : Endpoint)
    (report : Option kind.Report) (now : Nat) : Registry × Option kind.Report :=
  match report with
  | some report => (registry.store kind address report now, some report)
  | none =>
    (registry, ((registry.get? address).bind fun server => server.latest? kind).map (·.value))

/-- The report of a server: the stored one if it is recent enough, or else what a probe brings. -/
def fetch (registry : Registry) (service : QueryService) (kind : ProbeKind) (address : Endpoint)
    (maxAge : Option Nat) : Registry × QueryService × Option kind.Report :=
  match registry.cached? kind address maxAge service.now with
  | some report => (registry, service, some report)
  | none =>
    let (service, report) := service.probe kind (.ofEndpoint address) .untilTimeout
    let (registry, report) := registry.conclude kind address report service.now
    (registry, service, report)

/-- The servers whose stored report is not recent enough. -/
def stale (registry : Registry) (kind : ProbeKind) (addresses : List Endpoint)
    (maxAge : Option Nat) (now : Nat) : List Endpoint :=
  addresses.filter fun address => (registry.cached? kind address maxAge now).isNone

/-- The servers whose stored report is recent enough. -/
def fresh (registry : Registry) (kind : ProbeKind) (addresses : List Endpoint)
    (maxAge : Option Nat) (now : Nat) : List Refreshed :=
  (addresses.filter fun address => (registry.cached? kind address maxAge now).isSome).map
    fun address => ⟨address, .cached⟩

/-- Takes one result of a batch that asked the given servers; a report is stored with the time at
which it became known. -/
def takeResult {kind : ProbeKind} (asked : List Endpoint) (registry : Registry)
    (result : ProbeResult kind) : Registry × Option Refreshed :=
  match asked[result.index]?, result.report with
  | none, _ => (registry, none)
  | some address, some report =>
    (registry.store kind address report result.time, some ⟨address, .fetched⟩)
  | some address, none => (registry, some ⟨address, .failed⟩)

/-- Takes the results of a batch that asked the given servers. -/
def takeResults {kind : ProbeKind} (asked : List Endpoint) :
    List (ProbeResult kind) → Registry → Registry × List Refreshed
  | [], registry => (registry, [])
  | result :: rest, registry =>
    let (registry, refreshed) := takeResult asked registry result
    let (registry, others) := takeResults asked rest registry
    (registry, refreshed.toList ++ others)

/-- Refreshes many servers: those with a recent report first, in their order, and then the others
as their answers come. -/
def refresh (registry : Registry) (service : QueryService) (kind : ProbeKind)
    (addresses : List Endpoint) (maxAge : Option Nat) (timeout : Nat) (patience : Patience) :
    Registry × QueryService × List Refreshed :=
  let fresh := registry.fresh kind addresses maxAge service.now
  let stale := registry.stale kind addresses maxAge service.now
  if stale.isEmpty then (registry, service, fresh)
  else
    let (service, results) :=
      service.probeMany kind (stale.map HostPort.ofEndpoint) timeout patience
    let (registry, refreshed) := takeResults stale results registry
    (registry, service, fresh ++ refreshed)

/-- Asks many servers for both reports at the same time. -/
def refreshBoth (registry : Registry) (service : QueryService) (addresses : List Endpoint)
    (timeout : Nat) : Registry × QueryService × List Refreshed × List Refreshed :=
  let (service, infos, statuses) :=
    service.probeBoth (addresses.map HostPort.ofEndpoint) timeout
  let (registry, infos) := takeResults addresses infos registry
  let (registry, statuses) := takeResults addresses statuses registry
  (registry, service, infos, statuses)

end Registry

end Muster
