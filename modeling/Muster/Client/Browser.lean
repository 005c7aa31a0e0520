import Muster.Query.Service
import Muster.Control.Event

/-!
# Browsing servers

What a player learns by asking game servers: a row with both reports for every listed server, and
the pings of those that answered.
-/

namespace Muster.Browser

/-- What is known about one listed server. -/
structure ServerRow where
  server : HostPort
  info : Option ServerInfo
  status : Option Scoreboard

/-- Both reports of every server, in the order of the list. -/
def browse (service : QueryService) (servers : List HostPort) (timeout : Nat) :
    QueryService × List ServerRow :=
  let (service, infos, statuses) := service.probeBoth servers timeout
  (service, List.zipWith
    (fun info status => ⟨info.server, info.report, status.report⟩)
    (Batch.sorted infos) (Batch.sorted statuses))

/-- The servers that answered, with their pings, in the order of the list. -/
def measure (service : QueryService) (servers : List HostPort) (timeout : Nat) :
    QueryService × List PreferredServer :=
  let (service, results) := service.probeMany .info servers timeout .untilTimeout
  (service, (Batch.sorted results).filterMap fun result =>
    result.report.map fun info : ServerInfo => ⟨info.address, info.ping⟩)

end Muster.Browser
