import Muster.Control.Event

/-!
# Control packets

The packets that players and the daemon exchange.
-/

namespace Muster

/-- One packet, sent by a player up to `disconnect` and by the daemon from `welcome` on; a
heartbeat goes both ways. -/
inductive Packet where
  | hello (version : UInt32) (player : PlayerId) (name : String)
  | enterMatchmaking (criteria : Criteria) (servers : List PreferredServer)
  | updatePreferences (criteria : Criteria) (servers : List PreferredServer)
  | leaveMatchmaking
  | joinAck (server : Endpoint) (result : JoinResult)
  | heartbeat (timestamp : UInt64)
  | disconnect
  | welcome (player : PlayerId)
  | rejected (reason : String)
  | event (event : ClientEvent)
  deriving DecidableEq, Repr

def protocolVersion : UInt32 := 1

/-- The size of the largest packet that either side reads, in bytes. -/
def maxPacketSize : Nat := 4096

end Muster
