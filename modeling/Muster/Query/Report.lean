import Muster.Exchange.Request
import Muster.Probe.Scoreboard
import Muster.Probe.ServerInfo

/-!
# Reports

What comes back from a game server that has been asked for its info or its status, and the round
trip that the answer took.
-/

namespace Muster

namespace ProbeKind

/-- What a server reports when it is asked. -/
abbrev Report : ProbeKind → Type
  | .info => ServerInfo
  | .status => Scoreboard

/-- The report in the body of an answer, if it is one that can be used. -/
def report? (endpoint : Endpoint) (body : String) (ping : UInt32) :
    (kind : ProbeKind) → Option kind.Report
  | .info => (ServerInfo.ofReport endpoint body ping).toOption
  | .status => some (Scoreboard.ofReport endpoint body)

end ProbeKind

namespace Request

/-- The round trip that a message ends; the slowest one where the request was never sent. -/
def ping (request : Request) (inbound : Inbound) : UInt32 :=
  match request.sentAt with
  | some sentAt => clampPing (inbound.receivedAt - sentAt)
  | none => maxPing

def report? (request : Request) (kind : ProbeKind) : Outcome → Option kind.Report
  | .ok inbound =>
    kind.report? request.endpoint inbound.message.data (request.ping inbound)
  | .error _ => none

end Request

end Muster
